import Docloom.Proofs.File.Literals
import Docloom.Proofs.Node.Parallel
import Docloom.Proofs.Partials.Expansion

/-!
# Literal partials

A file that is no markdown becomes one node, whose value is the text of the file.  Nothing else
of the document depends on that text: neither what is included after it, nor which ids the nodes
get, nor what goes wrong.
-/

namespace Docloom

open Node

/-- Whether two nodes are the same, or the literal blocks of a file that is no markdown, each with
the text that its own file system has in the file. -/
inductive Inert (files other : FileSystem) : Label -> Label -> Prop where
  | same (label : Label) : Inert files other label label
  | literal {path : Path} {text changed : String} (id : Nat) (hplain : path.isMarkdown = false)
      (hread : files.readText path = .ok text) (hother : other.readText path = .ok changed) :
      Inert files other (Partials.literal id path text).label
        (Partials.literal id path changed).label

namespace Partials

variable {alike : Label -> Label -> Prop} {errors : Error -> Error -> Prop}

/-- Whether two expansions are errors that are alike, or trees that are alike with the same free
id. -/
abbrev GrowAlike (alike : Label -> Label -> Prop) (errors : Error -> Error -> Prop) :
    Expansion -> Expansion -> Prop :=
  Agree errors fun first second => second.2 = first.2 ∧ Parallel alike first.1 second.1

/-- A walk over trees inserts alike what is inserted alike at each paragraph. -/
theorem expandNodes_alike {first second : Insertion} (hrefl : forall label, alike label label)
    (h : forall marker target next,
      GrowAlike alike errors (first marker target next) (second marker target next))
    (next : Nat) (nodes : List Node) :
    GrowAlike alike errors (expandNodes first next nodes) (expandNodes second next nodes) := by
  induction nodes using forest_induction generalizing next with
  | nil =>
      rw [expandNodes, expandNodes]
      exact .ok ⟨rfl, .nil⟩
  | cons node rest ihChildren ihRest =>
      have hnode : GrowAlike alike errors (expandNode first next node)
          (expandNode second next node) := by
        cases htarget : node.includeTarget? with
        | some target =>
            rw [expandNode_include htarget, expandNode_include htarget]
            exact h node target next
        | none =>
            rw [expandNode_keep htarget, expandNode_keep htarget]
            apply (ihChildren next).bind
            rintro ⟨children, free⟩ ⟨others, _⟩ ⟨rfl, hchildren⟩
            exact .ok ⟨rfl, .cons (hrefl node.label) hchildren .nil⟩
      rw [expandNodes_cons, expandNodes_cons]
      apply hnode.bind
      rintro ⟨expanded, _⟩ ⟨others, middle⟩ ⟨rfl, hexpanded⟩
      apply (ihRest middle).bind
      rintro ⟨after, free⟩ ⟨further, _⟩ ⟨rfl, hafter⟩
      exact .ok ⟨rfl, hexpanded.append hafter⟩

section Literals

variable {files other : FileSystem}

/-- What is inserted for a paragraph differs at most in the values of literal blocks. -/
theorem insertion_inert (h : FileSystem.DiffersInLiterals files other) (directory : Path)
    (place : Place) (marker : Node) (target : String) (next : Nat) :
    GrowAlike (Inert files other) Eq (insertion files directory place marker target next)
      (insertion other directory place marker target next) := by
  induction place using place_induction files generalizing marker target next with
  | step place ih =>
      have hcanonical := h.canonical_eq (directory.join target)
      rw [insertion_eq, insertion_eq, hcanonical]
      rcases h.readText_cases (directory.join target) with
        hread | ⟨hplain, text, changed, hread, hother⟩
      · rw [hread]
        cases htext : files.readText (directory.join target) with
        | error fault =>
            cases fault <;> exact .error rfl
        | ok text =>
            dsimp only
            split
            · split
              · exact .error rfl
              · rename_i hnew
                exact expandNodes_alike .same (ih _ _ htext hnew) _ _
            · exact .ok ⟨rfl, .refl .same _⟩
      · rw [hread, hother]
        simp only [hplain, Bool.false_eq_true, if_false]
        exact .ok ⟨rfl, .cons (.literal next hplain hread hother) .nil .nil⟩

theorem expand_inert (h : FileSystem.DiffersInLiterals files other) (document directory : Path)
    (next : Nat) (root : Node) :
    Agree Eq (Beside (Inert files other))
      (expand files document directory next root)
      (expand other document directory next root) := by
  unfold expand
  dsimp only
  rw [h.canonical_eq document]
  apply (expandNodes_alike .same (insertion_inert h directory _) next root.children).bind
  rintro ⟨children, free⟩ ⟨others, _⟩ ⟨rfl, hchildren⟩
  exact .ok ⟨rfl, .cons (.same root.label) hchildren .nil⟩

end Literals

end Partials
end Docloom
