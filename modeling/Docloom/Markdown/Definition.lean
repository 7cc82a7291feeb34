import Docloom.Markdown.Target

/-!
# Definitions

A definition gives a label its destination: `[label]: destination "title"`. The
lines of a paragraph may begin with definitions; what is left is its text.
-/

namespace Docloom
namespace Markdown

structure Definition where
  label : Extent
  destination : Extent
  title : Option Extent
  /-- Where the definition ends, before a line ending. -/
  stop : Nat
  deriving Repr, DecidableEq

namespace Run

/-- The title after the destination of a definition. Nothing follows it in its
line. -/
def definitionTitle? (run : Run) (i : Nat) : Option Extent :=
  let start := run.skipSpaceAndLine i
  if start = i then
    none
  else
    match run.title? start with
    | none => none
    | some title =>
        if run.atLineEnd (run.skipSpace title.next) then some title else none

/-- The definition at the start `i` of a line. -/
def definition? (run : Run) (i : Nat) : Option Definition :=
  match run.label? (run.skipUpTo Text.isSpace 3 i) with
  | none => none
  | some label =>
      if !run.isAt label.next ':' then
        none
      else
        match run.destination? none (run.skipSpaceAndLine (label.next + 1)) with
        | none => none
        | some destination =>
            let title := run.definitionTitle? destination.next
            let stop := run.skipSpace ((title.map Extent.next).getD destination.next)
            if run.atLineEnd stop then some ⟨label, destination, title, stop⟩ else none

/-- The definitions at the start of the run, from `i` on, and the index at which
its text starts. -/
def definitions (run : Run) : Nat → Nat → List (Nat × Definition) × Nat
  | 0, i => ([], i)
  | fuel + 1, i =>
      match run.definition? i with
      | none => ([], i)
      | some definition =>
          let (more, text) := run.definitions fuel (definition.stop + 1)
          ((i, definition) :: more, min run.size text)

end Run
end Markdown
end Docloom
