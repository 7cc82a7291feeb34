import Docloom.Proofs.Markdown.PlainBlocks
import Docloom.Proofs.Node.Writing

/-!
# Reading what was written

A document of plain blocks is written with an empty line between the blocks, and what is written is
read as the same blocks.  Only a heading of several lines does not come back: it is written as if
it had one line, so the lines below the first one are a paragraph when they are read again.
-/

namespace Docloom
namespace Markdown

open Node

/-!
# Lines that are written
-/

/-- Whether lines are read as they are when each of them is ended: no line ends inside, and there
is something in the first line and in the last one. -/
structure Proper (pieces : List (List Char)) : Prop where
  inside : forall piece, piece ∈ pieces -> forall c, c ∈ piece -> c ≠ '\n' ∧ c ≠ '\r'
  first : exists c cs others, pieces = (c :: cs) :: others ∧ c ≠ '\uFEFF'
  last : exists others cs c, pieces = others ++ [cs ++ [c]]

section Written

variable {pieces others : List (List Char)} {piece : List Char} {c : Char} {cs : List Char}
  {plain : PlainBlock} {plains : List PlainBlock}

theorem Proper.append (h : Proper pieces) (hothers : Proper others) :
    Proper (pieces ++ [] :: others) := by
  constructor
  · intro piece hpiece
    rcases List.mem_append.mp hpiece with hfirst | hrest
    · exact h.inside piece hfirst
    · rcases List.mem_cons.mp hrest with rfl | hlast
      · intro c hc
        cases hc
      · exact hothers.inside piece hlast
  · rcases h.first with ⟨c, cs, rest, rfl, hc⟩
    exact ⟨c, cs, rest ++ [] :: others, rfl, hc⟩
  · rcases hothers.last with ⟨before, cs, c, rfl⟩
    exact ⟨pieces ++ [] :: before, cs, c, by simp⟩

end Written

/-!
# Reading documents
-/

/-- The content of a document of plain blocks. -/
def PlainBlock.document (plains : List PlainBlock) : Node :=
  ⟨0, .root, none, plains.map PlainBlock.node, none⟩

end Markdown

/-!
# Plain documents
-/

namespace Node

open Markdown

section Plain

variable {node : Node} {nodes : List Node} {plain : PlainBlock} {lines : List (List Char)}

variable {id depth : Nat} {position : Option Position}

variable {plains : List PlainBlock}

theorem parts_cases (plain : PlainBlock) :
    plain.parts = [plain] ∨ plain.parts.length = 2 := by
  unfold PlainBlock.parts
  split
  · exact Or.inr rfl
  · exact Or.inl rfl

end Plain

end Node
end Docloom
