import Docloom.Markdown.Definition
import Docloom.Markdown.Html
import Docloom.Markdown.Line
import Docloom.Markdown.Table

/-!
# Blocks

What the lines of a text add up to: blocks, some of which hold other blocks, and
some of which hold a run whose text is still to be read. A list is recognised
after its items: adjacent items with the same marker are one list.
-/

namespace Docloom
namespace Markdown

/-- A cell of a table with its text. -/
structure CellText where
  start : Place
  stop : Place
  text : Run

structure RowText where
  start : Place
  stop : Place
  cells : List CellText

inductive Shape where
  | paragraph (text : Run)
  | heading (depth : Nat) (text : Run)
  | thematicBreak
  | code (lang info : Option String) (value : String)
  | html (value : String)
  /-- A definition, with its label also in the form in which labels are compared. -/
  | definition (matching label url : String) (title : Option String)
  | table (aligns : List Align) (rows : List RowText)
  | quote
  /-- A list is ordered when it has a start. -/
  | list (start : Option Nat) (spread : Bool)
  | item (marker : Char) (number : Option Nat) (spread : Bool)
  | note (label : String)

structure Block where
  shape : Shape
  start : Place
  stop : Place
  children : List Block

/-- What stands in a container: a block, or a blank line. A blank line may count
as one that spreads the container. -/
inductive Part where
  | block (block : Block)
  | blank (spreads : Bool)

/-!
# Lists of items
-/

/-- An open list: its items from the last to the first, whether it is spread, and
whether a blank line that spreads follows its last item. -/
structure ItemRun where
  marker : Char
  number : Option Nat
  items : List Block
  spread : Bool
  blank : Bool

def ItemRun.start (marker : Char) (number : Option Nat) (item : Block) : ItemRun :=
  { marker, number, items := [item], spread := false, blank := false }

/-- A blank line between two items belongs to their list. -/
def ItemRun.add (run : ItemRun) (item : Block) : ItemRun :=
  { run with items := item :: run.items, spread := run.spread || run.blank, blank := false }

def ItemRun.block? (run : ItemRun) : Option Block :=
  match run.items.getLast?, run.items.head? with
  | some first, some last =>
      some
        { shape := .list run.number run.spread
          start := first.start
          stop := last.stop
          children := run.items.reverse }
  | _, _ => none

/-- The blocks of a container, and whether blank lines between them spread it. -/
structure Content where
  blocks : List Block
  spread : Bool

/-- The content before which a list ends. -/
def Content.after (run : Option ItemRun) (content : Content) : Content :=
  match run with
  | some run => ⟨run.block?.toList ++ content.blocks, run.blank || content.spread⟩
  | none => content

/-- The content of a container, where adjacent items with one marker are gathered in
a list. -/
def gatherItems : Option ItemRun → List Part → Content
  | run, [] => Content.after run ⟨[], false⟩
  | some run, .blank spreads :: parts =>
      gatherItems (some { run with blank := run.blank || spreads }) parts
  | none, .blank spreads :: parts =>
      let content := gatherItems none parts
      { content with spread := spreads || content.spread }
  | run, .block block :: parts =>
      match block.shape with
      | .item marker number _ =>
          match run with
          | some run =>
              if run.marker = marker then
                gatherItems (some (run.add block)) parts
              else
                Content.after (some run) (gatherItems (some (.start marker number block)) parts)
          | none => gatherItems (some (.start marker number block)) parts
      | _ =>
          let content := gatherItems none parts
          Content.after run { content with blocks := block :: content.blocks }

/-!
# Containers
-/

inductive Container where
  | quote
  /-- A list item. The lines that belong to it are indented by `size`; it is
  `bare` as long as its first line held nothing but the marker. -/
  | item (marker : Char) (number : Option Nat) (size : Nat) (bare : Bool)
  | note (label : String)
  deriving DecidableEq, Repr

def Container.isItem : Container → Bool
  | .item .. => true
  | _ => false

/-- A container that is still open, with its parts from the last to the first. -/
structure Frame where
  container : Container
  start : Place
  line : Nat
  parts : List Part

def Frame.close (frame : Frame) (stop : Place) : Block :=
  let content := gatherItems none frame.parts.reverse
  { shape :=
      match frame.container with
      | .quote => .quote
      | .item marker number _ _ => .item marker number content.spread
      | .note label => .note label
    start := frame.start
    stop
    children := content.blocks }

namespace Run

/-- The index after the marker of a quote. -/
def quoteMarker? (run : Run) (i : Nat) : Option Nat :=
  let j := run.skipUpTo Text.isSpace 3 i
  if run.isAt j '>' then
    some (if run.sat Text.isSpace (j + 1) then j + 2 else j + 1)
  else
    none

/-- Whether the characters from `i` on are a thematic break. -/
def isThematicBreak (run : Run) (i : Nat) : Bool :=
  match run.char? i with
  | some c =>
      (c == '*' || c == '-' || c == '_') &&
        (let line := run.chars i run.size
         line.all (fun d => d == c || Text.isSpace d) && 3 ≤ line.count c)
  | none => false

/-- The marker of an item at `i`: the character that tells lists apart, the
number, and the index after it. A paragraph can be interrupted only by a list that
starts at one. -/
def itemMarker? (run : Run) (interrupting : Bool) (i : Nat) :
    Option (Char × Option Nat × Nat) :=
  match run.char? i with
  | some c =>
      if c == '+' || ((c == '-' || c == '*') && !run.isThematicBreak i) then
        some (c, none, i + 1)
      else if c.isDigit && (!interrupting || c == '1') then
        let j := run.skipUpTo Char.isDigit 9 i
        match run.char? j with
        | some d =>
            if (d == '.' || d == ')') && (!interrupting || j = i + 1) then
              some (d, some (numeral 10 (run.chars i j)), j + 1)
            else
              none
        | none => none
      else
        none
  | none => none

/-- The label of a footnote definition at `i`, and the index after it. -/
def noteLabel? (run : Run) (i : Nat) : Option (Extent) :=
  if run.isAt i '[' && run.isAt (i + 1) '^' then
    match run.label? i with
    | some label =>
        let text := run.chars (i + 2) label.stop
        if !text.isEmpty && !text.any isLabelBlank && run.isAt label.next ':' then
          some ⟨i + 2, label.stop, run.skipSpace (label.next + 1)⟩
        else
          none
    | none => none
  else
    none

end Run

/-- The container that a line opens at `i`, with the index after its marker. -/
def openContainer? (source : Source) (line : Line) (number : Nat) (interrupting : Bool)
    (i : Nat) : Option (Frame × Nat) :=
  let run := line.run
  let start := run.place i
  match run.quoteMarker? i with
  | some next => some (⟨.quote, start, number, []⟩, next)
  | none =>
      let first := run.skipUpTo Text.isSpace 3 i
      match run.itemMarker? interrupting first with
      | some (marker, value, after) =>
          if line.isBlankFrom after then
            if interrupting then
              none
            else
              let size := (source.content start (run.place after)).length + 1
              some (⟨.item marker value size true, start, number, []⟩, after)
          else
            let spaces := run.skipUpTo Text.isSpace 4 after
            let next := if run.sat Text.isSpace spaces then after + 1 else spaces
            if next = after then
              none
            else
              let size := (source.content start (run.place next)).length
              some (⟨.item marker value size false, start, number, []⟩, next)
      | none =>
          match run.noteLabel? first with
          | some label =>
              let text := run.text source label.start label.stop
              some (⟨.note text, start, number, []⟩, label.next)
          | none => none

/-- Whether the line goes on inside a container at `i`, and the index at which it
does. -/
def Container.continue? (container : Container) (line : Line) (i : Nat) :
    Option (Container × Nat) :=
  let indented (size : Nat) : Option Nat :=
    let j := line.run.skipUpTo Text.isSpace size i
    if j = i + size then some j else none
  match container with
  | .quote => (line.run.quoteMarker? i).map fun j => (.quote, j)
  | .item marker number size bare =>
      if line.isBlankFrom i then
        if bare then
          none
        else
          some (container, line.run.skipUpTo Text.isSpace size i)
      else
        (indented size).map fun j => (.item marker number size false, j)
  | .note _ =>
      if line.isBlankFrom i then
        some (container, line.run.skipUpTo Text.isSpace tabSize i)
      else
        (indented tabSize).map fun j => (container, j)

end Markdown
end Docloom
