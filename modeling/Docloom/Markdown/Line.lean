import Docloom.Markdown.Run

/-!
# The lines of a markdown text

Blocks are told apart line by line. A line is a run and the line ending after
it; the last line has none, and an empty last line is no line.
-/

namespace Docloom
namespace Markdown

structure Line where
  run : Run
  ending : Option Cell
  deriving Inhabited

namespace Line

def start (line : Line) : Place := line.run.place 0

/-- Where the line stops, before its ending. -/
def stop (line : Line) : Place := line.run.stop

/-- Where the next line starts. -/
def next (line : Line) : Place :=
  match line.ending with
  | some cell => cell.stop
  | none => line.run.stop

/-- The line ending as it was written. -/
def endingText (source : Source) (line : Line) : String :=
  source.between line.stop line.next

/-- What is left of the line from `i` on. -/
def cut (line : Line) (i : Nat) : Line :=
  { line with run := line.run.part i line.run.size }

/-- The text of the line from `i` on. -/
def textFrom (source : Source) (line : Line) (i : Nat) : String :=
  line.run.text source i line.run.size

/-- Whether the line holds nothing but blanks and tabs from `i` on. -/
def isBlankFrom (line : Line) (i : Nat) : Bool :=
  line.run.atLineEnd (line.run.skipSpace i)

end Line

/-- Cuts cells into lines. `current` holds the cells of the line so far. -/
def gatherLines (stop : Place) : List Cell → Array Cell → List Line
  | [], current =>
      if current.isEmpty then [] else [{ run := { cells := current, stop }, ending := none }]
  | cell :: cells, current =>
      if cell.char = '\n' then
        { run := { cells := current, stop := cell.start }, ending := some cell } ::
          gatherLines stop cells #[]
      else
        gatherLines stop cells (current.push cell)

def Source.lines (source : Source) : List Line :=
  gatherLines source.stop source.cells.toList #[]

/-- The run of several lines, with their endings between them. -/
def Run.ofLines : List Line → Run
  | [] => default
  | [line] => line.run
  | line :: lines =>
      let rest := Run.ofLines lines
      { cells := line.run.cells ++ line.ending.toList.toArray ++ rest.cells, stop := rest.stop }

end Markdown
end Docloom
