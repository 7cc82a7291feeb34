import Docloom.Markdown.Escape
import Docloom.Node.Kind

/-!
# Rows of tables

A row is cut into cells at the bars that no backslash stands before. The row
under the head of a table tells how its columns are aligned.
-/

namespace Docloom
namespace Markdown

/-- A cell: where it starts and stops, and the range of its text. -/
structure CellExtent where
  start : Nat
  stop : Nat
  textStart : Nat
  textStop : Nat
  deriving Repr, DecidableEq

namespace Run

/-- The bars that separate cells, from `i` on. -/
def bars (run : Run) (i : Nat) : List Nat :=
  if h : i < run.cells.size then
    let c := run.cells[i].char
    if c == '|' then
      i :: run.bars (i + 1)
    else if c == '\\' && run.sat (fun d => d == '\\' || d == '|') (i + 1) then
      run.bars (i + 2)
    else
      run.bars (i + 1)
  else
    []
termination_by run.cells.size - i

/-- The text that starts after `i` and ends before `j`, without blanks around it. -/
def trimmedExtent (run : Run) (i j : Nat) : Nat × Nat :=
  let start := min j (run.skipSpace i)
  (start, run.spaceBefore start j)

/-- The cells that start at the given indices. Each one reaches to the start of
the next. -/
def cellsAt (run : Run) (bars : List Nat) : List Nat → List CellExtent
  | [] => []
  | start :: starts =>
      let first := if run.isAt (run.skipSpace start) '|' then run.skipSpace start + 1 else start
      let last := (bars.find? (first ≤ ·)).getD run.size
      let text := run.trimmedExtent first last
      { start
        stop := (starts.head?).getD run.size
        textStart := text.1
        textStop := text.2 } :: run.cellsAt bars starts

/-- The cells of a row. A bar starts a cell when something follows it; the first
cell starts with the row. -/
def rowCells (run : Run) : List CellExtent :=
  let bars := run.bars 0
  let first := run.skipSpace 0
  let starts := bars.filter fun bar =>
    bar != first && !run.atLineEnd (run.skipSpace (bar + 1))
  let cells := run.cellsAt bars (0 :: starts)
  if run.atLineEnd (if run.isAt first '|' then run.skipSpace (first + 1) else first) then
    []
  else
    cells

/-- The alignments in a delimiter row from `i` on, and whether a colon or a bar
was among them. -/
def alignments? (run : Run) : Nat → Nat → Option (List Align × Bool)
  | 0, _ => none
  | fuel + 1, i =>
      let first := run.skipSpace i
      if run.atLineEnd first then
        some ([], false)
      else
        let left := run.isAt first ':'
        let dashes := if left then first + 1 else first
        let afterDashes := run.skip (· == '-') dashes
        if afterDashes = dashes then
          none
        else
          let right := run.isAt afterDashes ':'
          let last := run.skipSpace (if right then afterDashes + 1 else afterDashes)
          let align : Align :=
            match left, right with
            | true, true => .center
            | true, false => .left
            | false, true => .right
            | false, false => .none
          if run.isAt last '|' then
            (run.alignments? fuel (last + 1)).map fun rest => (align :: rest.1, true)
          else if run.atLineEnd last then
            some ([align], left || right)
          else
            none

/-- The alignments that a delimiter row gives. -/
def delimiterRow? (run : Run) : Option (List Align) :=
  let i := run.skipUpTo Text.isSpace 3 0
  if run.sat (fun c => c == '-' || c == ':' || c == '|') i then
    let barred := run.isAt i '|'
    match run.alignments? (run.size + 1) (if barred then i + 1 else i) with
    | some (aligns, marked) => if barred || marked then some aligns else none
    | none => none
  else
    none

end Run
end Markdown
end Docloom
