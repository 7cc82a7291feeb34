/-!
# Ranges of characters

A class of characters is listed as closed ranges of code points. The tables
beside this module list the classes that the text formats of this library
refer to.
-/

namespace Docloom
namespace Text

/-- Closed ranges of code points. -/
abbrev Ranges := List (Nat × Nat)

def Ranges.has (ranges : Ranges) (c : Char) : Bool :=
  ranges.any fun range => range.1 ≤ c.toNat && c.toNat ≤ range.2

theorem Ranges.has_nil (c : Char) : Ranges.has [] c = false := rfl

theorem Ranges.has_append (a b : Ranges) (c : Char) :
    Ranges.has (a ++ b) c = (Ranges.has a c || Ranges.has b c) := by
  simp [Ranges.has]

end Text
end Docloom
