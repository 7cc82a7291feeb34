import Docloom.Markdown.Source

/-!
# Runs of cells

The text of a paragraph, a heading or a table cell is a run: the cells that are
left when the markers of the containers around it are taken out of its lines.
Runs are read by index.
-/

namespace Docloom
namespace Markdown

structure Run where
  cells : Array Cell
  stop : Place
  deriving Inhabited

namespace Run

def size (run : Run) : Nat := run.cells.size

def char? (run : Run) (i : Nat) : Option Char :=
  run.cells[i]?.map Cell.char

/-- Whether the character at `i` is `c`. -/
def isAt (run : Run) (i : Nat) (c : Char) : Bool :=
  run.char? i == some c

/-- Whether there is a character at `i`, and it satisfies `p`. -/
def sat (run : Run) (p : Char → Bool) (i : Nat) : Bool :=
  (run.char? i).any p

/-- Whether the run, or a line of it, stops at `i`. -/
def atLineEnd (run : Run) (i : Nat) : Bool :=
  (run.char? i).all (· == '\n')

/-- The place where the character at `i` starts. -/
def place (run : Run) (i : Nat) : Place :=
  match run.cells[i]? with
  | some cell => cell.start
  | none => run.stop

/-- The place where the character before `i` stops. -/
def placeAfter (run : Run) (i : Nat) : Place :=
  match i with
  | 0 => run.place 0
  | j + 1 =>
      match run.cells[j]? with
      | some cell => cell.stop
      | none => run.stop

/-- The part of the run from `i` up to `j`. -/
def part (run : Run) (i j : Nat) : Run :=
  { cells := run.cells.extract i j, stop := run.place j }

/-!
# Passing over characters
-/

/-- The first index from `i` on whose character fails `p`. -/
def skip (run : Run) (p : Char → Bool) (i : Nat) : Nat :=
  if h : i < run.cells.size then
    if p run.cells[i].char then run.skip p (i + 1) else i
  else
    i
termination_by run.cells.size - i

/-- The same, but passing over at most `limit` characters. -/
def skipUpTo (run : Run) (p : Char → Bool) : Nat → Nat → Nat
  | 0, i => i
  | limit + 1, i => if run.sat p i then run.skipUpTo p limit (i + 1) else i

theorem le_skip (run : Run) (p : Char → Bool) (i : Nat) : i ≤ run.skip p i := by
  fun_induction skip run p i with
  | case1 i _ _ ih =>
      omega
  | case2 =>
      exact Nat.le_refl _
  | case3 =>
      exact Nat.le_refl _

theorem le_skipUpTo (run : Run) (p : Char → Bool) (limit i : Nat) :
    i ≤ run.skipUpTo p limit i := by
  induction limit generalizing i with
  | zero =>
      exact Nat.le_refl _
  | succ limit ih =>
      unfold skipUpTo
      split
      · exact Nat.le_trans (Nat.le_succ i) (ih (i + 1))
      · exact Nat.le_refl _

/-- Blanks and tabs. -/
def skipSpace (run : Run) (i : Nat) : Nat :=
  run.skip Text.isSpace i

/-- Blanks and tabs with at most one line ending among them. -/
def skipSpaceAndLine (run : Run) (i : Nat) : Nat :=
  let j := run.skipSpace i
  if run.isAt j '\n' then run.skipSpace (j + 1) else j

/-- Whether the characters from `i` on are those of `text`. -/
def looksAt (run : Run) (text : List Char) (i : Nat) : Bool :=
  match text with
  | [] => true
  | c :: rest => run.isAt i c && run.looksAt rest (i + 1)

/-- The first index from `i` on at which `text` stands. -/
def find? (run : Run) (text : List Char) (i : Nat) : Option Nat :=
  if run.looksAt text i then
    some i
  else if i < run.cells.size then
    run.find? text (i + 1)
  else
    none
termination_by run.cells.size - i

/-- The characters from `i` up to `j`, those of a tab as blanks after it. -/
def chars (run : Run) (i j : Nat) : List Char :=
  ((run.cells.extract i j).map Cell.char).toList

/-!
# The lines of a run
-/

/-- The text from `i` up to `j`, both in one line. -/
def text (run : Run) (source : Source) (i j : Nat) : String :=
  source.content (run.place i) (run.place j)

/-- The line ending at `i` as it was written. -/
def lineEnding (run : Run) (source : Source) (i : Nat) : String :=
  source.between (run.place i) (run.placeAfter (i + 1))

/-- The text from `i` up to `j`, where at most `limit` blanks and tabs are taken
off the start of every line but the first. -/
def lines (run : Run) (source : Source) (limit : Nat) : Nat → Nat → Nat → String
  | 0, _, _ => ""
  | fuel + 1, i, j =>
      let k := min j (run.skip (· != '\n') i)
      if k < j then
        run.text source i k ++ run.lineEnding source k ++
          run.lines source limit fuel (min j (run.skipUpTo Text.isSpace limit (k + 1))) j
      else
        run.text source i j

end Run
end Markdown
end Docloom
