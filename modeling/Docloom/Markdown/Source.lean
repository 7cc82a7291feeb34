import Docloom.Text.Blank

/-!
# The places of a markdown text

A markdown text is read as a row of cells. A cell is one character, except that
a tab takes as many cells as there are columns up to the next tab stop, and that
a carriage return with the line feed after it takes one cell. Every cell knows
the places at which it starts and stops.
-/

namespace Docloom
namespace Markdown

/-- Columns from one tab stop to the next. -/
def tabSize : Nat := 4

/-- A place between two characters. `index` counts the characters before it, and
`inside` the columns of the tab at `index` that lie before it. -/
structure Place where
  line : Nat
  column : Nat
  index : Nat
  inside : Nat
  deriving DecidableEq, Repr, Inhabited

def Place.origin : Place := ⟨1, 1, 0, 0⟩

structure Cell where
  char : Char
  start : Place
  stop : Place
  deriving Inhabited

/-!
# Cells of a text
-/

/-- The columns that a tab takes at `column`. -/
def tabWidth (column : Nat) : Nat :=
  tabSize - (column - 1) % tabSize

/-- The cells of a tab at `place`, of which `inside` columns are behind already. -/
def tabCells (place : Place) : Nat → Nat → List Cell
  | _, 0 => []
  | inside, left + 1 =>
      let start := { place with column := place.column + inside, inside := inside }
      let stop :=
        if left = 0 then
          { place with
            column := place.column + inside + 1, index := place.index + 1, inside := 0 }
        else
          { place with column := place.column + inside + 1, inside := inside + 1 }
      { char := if inside = 0 then '\t' else ' ', start, stop } ::
        tabCells place (inside + 1) left

/-- The place after `count` characters that end a line. -/
def Place.nextLine (place : Place) (count : Nat) : Place :=
  { line := place.line + 1, column := 1, index := place.index + count, inside := 0 }

def cellsFrom (place : Place) : List Char → List Cell
  | [] => []
  | '\r' :: '\n' :: rest =>
      let next := place.nextLine 2
      { char := '\n', start := place, stop := next } :: cellsFrom next rest
  | c :: rest =>
      if c = '\n' ∨ c = '\r' then
        let next := place.nextLine 1
        { char := '\n', start := place, stop := next } :: cellsFrom next rest
      else if c = '\t' then
        let width := tabWidth place.column
        let next :=
          { place with column := place.column + width, index := place.index + 1 }
        tabCells place 0 width ++ cellsFrom next rest
      else
        let next :=
          { place with column := place.column + c.utf8Size, index := place.index + 1 }
        { char := c, start := place, stop := next } :: cellsFrom next rest

/-- A text with its cells. -/
structure Source where
  chars : Array Char
  cells : Array Cell
  stop : Place

/-- A byte order mark at the start of the text is passed over. -/
def Source.ofString (text : String) : Source :=
  let chars := text.toList
  let start : Place :=
    match chars with
    | '\uFEFF' :: _ => { Place.origin with column := 4, index := 1 }
    | _ => Place.origin
  let cells := (cellsFrom start (chars.drop start.index)).toArray
  { chars := chars.toArray
    cells
    stop := (cells.back?.map Cell.stop).getD start }

/-!
# Slices
-/

/-- The characters between two places, as they were written. -/
def Source.between (source : Source) (start stop : Place) : String :=
  String.ofList (source.chars.extract start.index stop.index).toList

/-- The characters between two places, or none when they are out of order. -/
def Source.between? (source : Source) (start stop : Place) : Option String :=
  if start.index ≤ stop.index then
    some (source.between start stop)
  else
    none

/-- The content between two places, where the columns of a tab that is cut off
count as blanks. -/
def Source.content (source : Source) (start stop : Place) : String :=
  let before := if start.inside = 0 then 0 else tabSize - start.inside
  let first := if start.inside = 0 then start.index else start.index + 1
  let after := stop.inside - 1
  let last := if stop.inside = 0 then stop.index else stop.index + 1
  String.ofList (List.replicate before ' ') ++
    String.ofList (source.chars.extract first last).toList ++
    String.ofList (List.replicate after ' ')

end Markdown
end Docloom
