import Docloom.Proofs.Directive.Exclusion
import Docloom.Proofs.Node.Parallel

/-!
# Removal from trees of one shape

A removal knows the nodes of its block by their ids and nothing else.  So trees of one shape are
left with trees of one shape, as long as the markers of a block in one of them stand where those
of its block stand in the other one.
-/

namespace Docloom

open Node

namespace DirectiveBlock

/-- Whether the markers of two blocks are the same among nodes that are alike. -/
def NamesAlike (alike : Label -> Label -> Prop) (block other : DirectiveBlock) : Prop :=
  forall a b, alike a b ->
    (a.id = block.start ↔ b.id = other.start) ∧ (a.id = block.stop ↔ b.id = other.stop)

section Trees

variable {alike : Label -> Label -> Prop} {block other : DirectiveBlock}

theorem removeNodes_parallel (hnames : NamesAlike alike block other) {nodes others : List Node}
    (h : Parallel alike nodes others) (inside : Bool) :
    (removeNodes other inside others).2 = (removeNodes block inside nodes).2 ∧
      Parallel alike (removeNodes block inside nodes).1 (removeNodes other inside others).1 := by
  induction h generalizing inside with
  | nil =>
      exact ⟨rfl, .nil⟩
  | @cons first second rest others hlabel hchildren hrest ihChildren ihRest =>
      have hstartIff : first.id = block.start ↔ second.id = other.start := (hnames _ _ hlabel).1
      have hstopIff : first.id = block.stop ↔ second.id = other.stop := (hnames _ _ hlabel).2
      by_cases hstart : first.id = block.start
      · rw [removeNodes_start hstart, removeNodes_start (hstartIff.mp hstart)]
        exact ihRest true
      have hstartOther : second.id ≠ other.start := fun heq => hstart (hstartIff.mpr heq)
      by_cases hstop : first.id = block.stop
      · rw [removeNodes_stop hstart hstop, removeNodes_stop hstartOther (hstopIff.mp hstop)]
        exact ihRest false
      have hstopOther : second.id ≠ other.stop := fun heq => hstop (hstopIff.mpr heq)
      rcases ihChildren inside with ⟨hstill, hkept⟩
      have hdropIff : (inside = true ∧ ((removeNodes block inside first.children).2 = true ∨
          (removeNodes block inside first.children).1 = [])) ↔
          (inside = true ∧ ((removeNodes other inside second.children).2 = true ∨
            (removeNodes other inside second.children).1 = [])) := by
        rw [hstill, hkept.eq_nil_iff]
      by_cases hdrop : inside = true ∧ ((removeNodes block inside first.children).2 = true ∨
          (removeNodes block inside first.children).1 = [])
      · have hdropOther := hdropIff.mp hdrop
        rw [removeNodes_drop hstart hstop hdrop.1 hdrop.2,
          removeNodes_drop hstartOther hstopOther hdropOther.1 hdropOther.2, hstill]
        exact ihRest _
      · rw [removeNodes_keep hstart hstop hdrop,
          removeNodes_keep hstartOther hstopOther (fun h => hdrop (hdropIff.mpr h)), hstill]
        rcases ihRest (removeNodes block inside first.children).2 with ⟨hafter, hleft⟩
        exact ⟨hafter, .cons hlabel hkept hleft⟩

theorem remove_parallel (hnames : NamesAlike alike block other) {errors : Error -> Error -> Prop}
    (herrors : errors (.detachedBlock block.content block.startLine block.endLine)
      (.detachedBlock other.content other.startLine other.endLine))
    {root tree : Node} (h : Parallel alike [root] [tree]) :
    Agree errors (fun left rest => Parallel alike [left] [rest]) (block.remove root)
      (other.remove tree) := by
  have hstart := h.mem_idsOf_iff fun a b hab => (hnames a b hab).1
  have hstop := h.mem_idsOf_iff fun a b hab => (hnames a b hab).2
  rw [idsOf_singleton, idsOf_singleton] at hstart hstop
  have hattached : block.isAttached root = other.isAttached tree := by
    rw [Bool.eq_iff_iff]
    simp [isAttached, contains, hstart, hstop]
  unfold remove
  rw [← hattached]
  split
  · rcases Parallel.singleton_iff.mp h with ⟨hlabel, hchildren⟩
    exact .ok (Parallel.singleton_iff.mpr ⟨hlabel, (removeNodes_parallel hnames hchildren false).2⟩)
  · exact .error herrors

end Trees

end DirectiveBlock

namespace Exclusion

/-- Whether two blocks have the same markers among nodes that are alike, and are kept or not
by the same verdict. -/
structure Corresponds (audience : Audience) (alike : Label -> Label -> Prop)
    (errors : Error -> Error -> Prop) (block other : DirectiveBlock) : Prop where
  names : block.NamesAlike alike other
  verdicts : Agree errors Eq (verdict audience block) (verdict audience other)
  detached : errors (.detachedBlock block.content block.startLine block.endLine)
    (.detachedBlock other.content other.startLine other.endLine)

section Trees

variable {audience : Audience} {alike : Label -> Label -> Prop}
  {errors : Error -> Error -> Prop} {root tree : Node} {blocks others : List DirectiveBlock}

theorem removeBlocks_parallel
    (hblocks : List.Forall₂ (Corresponds audience alike errors) blocks others)
    (h : Parallel alike [root] [tree]) :
    Option.Rel errors (removeBlocks audience blocks root).2 (removeBlocks audience others tree).2 ∧
      Parallel alike [(removeBlocks audience blocks root).1]
        [(removeBlocks audience others tree).1] := by
  induction hblocks generalizing root tree with
  | nil =>
      exact ⟨.none, h⟩
  | @cons block other blocks others hblock hblocks ih =>
      cases hverdict : verdict audience block with
      | error error =>
          rcases hblock.verdicts.exists_of_error hverdict with ⟨last, hother, herror⟩
          rw [removeBlocks_of_error hverdict, removeBlocks_of_error hother]
          exact ⟨.some herror, h⟩
      | ok kept =>
          rcases hblock.verdicts.exists_of_ok hverdict with ⟨_, hother, rfl⟩
          cases kept with
          | true =>
              rw [removeBlocks_of_kept hverdict, removeBlocks_of_kept hother]
              exact ih h
          | false =>
              have hremove := DirectiveBlock.remove_parallel hblock.names hblock.detached h
              cases hleft : block.remove root with
              | error error =>
                  rcases hremove.exists_of_error hleft with ⟨last, hrest, herror⟩
                  rw [removeBlocks_of_undone hverdict hleft, removeBlocks_of_undone hother hrest]
                  exact ⟨.some herror, h⟩
              | ok left =>
                  rcases hremove.exists_of_ok hleft with ⟨rest, hrest, hparallel⟩
                  rw [removeBlocks_of_dropped hverdict hleft,
                    removeBlocks_of_dropped hother hrest]
                  exact ih hparallel

theorem rel_map {first second : Option Error} {f : Error -> Error}
    (h : Option.Rel errors first second)
    (hf : forall error other, errors error other -> errors (f error) (f other)) :
    Option.Rel errors (first.map f) (second.map f) := by
  cases h with
  | none =>
      exact .none
  | some herror =>
      exact .some (hf _ _ herror)

/-- What holds of the blocks of two trees holds of what is done for an audience. -/
theorem apply_parallel (config : ProductConfig) (h : Parallel alike [root] [tree])
    (hblocks : Agree errors (List.Forall₂ (Corresponds audience alike errors))
      root.directiveBlocks tree.directiveBlocks)
    (hexclusion : forall first second, errors first second ->
      errors (.contentExclusion audience.file first) (.contentExclusion audience.file second)) :
    Option.Rel errors (apply audience config root).2 (apply audience config tree).2 ∧
      Parallel alike [(apply audience config root).1] [(apply audience config tree).1] := by
  cases hopted : config.supportsDirectives with
  | false =>
      have hsame : forall other, apply audience config other = (other, none) := by
        intro other
        simp [apply, hopted]
      rw [hsame, hsame]
      exact ⟨.none, h⟩
  | true =>
      cases hfirst : root.directiveBlocks with
      | error cause =>
          rcases hblocks.exists_of_error hfirst with ⟨last, hsecond, herror⟩
          rw [apply_of_unpaired hopted hfirst, apply_of_unpaired hopted hsecond]
          exact ⟨.some (hexclusion _ _ herror), h⟩
      | ok blocks =>
          rcases hblocks.exists_of_ok hfirst with ⟨others, hsecond, hforall⟩
          have hreverse : List.Forall₂ (Corresponds audience alike errors) blocks.reverse
              others.reverse := List.rel_reverse hforall
          rcases removeBlocks_parallel hreverse h with ⟨herror, hparallel⟩
          rw [apply_of_paired hopted hfirst, apply_of_paired hopted hsecond]
          exact ⟨rel_map herror hexclusion, hparallel⟩

end Trees

end Exclusion

end Docloom
