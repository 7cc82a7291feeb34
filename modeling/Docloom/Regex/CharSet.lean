import Docloom.Text.Blank
import Docloom.Text.Digit
import Docloom.Text.Folding
import Docloom.Text.Ranges
import Docloom.Text.Word

/-!
# Sets of characters

What a class in a regular expression stands for.
-/

namespace Docloom
namespace Regex

inductive CharSet where
  | none
  | range (first last : Char)
  | table (ranges : Text.Ranges)
  | digit
  | word
  | space
  | not (set : CharSet)
  | union (a b : CharSet)
  | inter (a b : CharSet)
  | diff (a b : CharSet)
  | symmDiff (a b : CharSet)
  /-- The characters of a set in any case. -/
  | folded (set : CharSet)
  /-- The same for letters of the Latin alphabet without marks only. -/
  | asciiFolded (set : CharSet)
  deriving Repr

namespace CharSet

def has : CharSet → Char → Bool
  | .none, _ => false
  | .range first last, c => first ≤ c && c ≤ last
  | .table ranges, c => ranges.has c
  | .digit, c => Text.isDecimal c
  | .word, c => Text.isWord c
  | .space, c => Text.isBlank c
  | .not set, c => !set.has c
  | .union a b, c => a.has c || b.has c
  | .inter a b, c => a.has c && b.has c
  | .diff a b, c => a.has c && !b.has c
  | .symmDiff a b, c => a.has c != b.has c
  | .folded set, c => set.has c || (Text.caseVariants c).any set.has
  | .asciiFolded set, c => set.has c || set.has c.toLower || set.has c.toUpper

def single (c : Char) : CharSet := .range c c

def ofList : List CharSet → CharSet
  | [] => .none
  | set :: sets => .union set (ofList sets)

/-- Characters of the basic Latin block, in ranges. -/
def ofRanges : List (Char × Char) → CharSet
  | [] => .none
  | (first, last) :: rest => .union (.range first last) (ofRanges rest)

def asciiDigit : CharSet := .range '0' '9'

def asciiWord : CharSet := ofRanges [('0', '9'), ('A', 'Z'), ('_', '_'), ('a', 'z')]

def asciiSpace : CharSet := ofRanges [('\t', '\r'), (' ', ' ')]

end CharSet
end Regex
end Docloom
