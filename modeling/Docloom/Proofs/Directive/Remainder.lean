import Docloom.Proofs.Directive.Exclusion
import Docloom.Proofs.Lists

/-!
# The blocks that are left

A removal takes both markers of its block and no marker of any other block.  So the markers
of what an audience is left with are those of the blocks that it keeps, in their order, and
they pair up to these blocks again.  Nothing is left to be taken away then.
-/

namespace Docloom

open Node

/-!
# Markers of pruned trees
-/

namespace Node

variable {root left : Node} {nodes rest : List Node}

/-- What stands below a node has no part in the marker that it carries. -/
theorem marker?_with_children (node : Node) (children : List Node) :
    ({ node with children } : Node).marker? = node.marker? := rfl

theorem Pruned.markers_sublist (h : Pruned nodes rest) :
    ((nodesOf rest).filterMap marker?).Sublist ((nodesOf nodes).filterMap marker?) := by
  induction h with
  | nil =>
      exact List.Sublist.refl _
  | drop hrest ih =>
      rw [nodesOf_cons, List.filterMap_append]
      exact ih.trans (List.sublist_append_right _ _)
  | @keep node children nodes left hchildren hrest ihChildren ihRest =>
      rw [nodesOf_cons, nodesOf_cons, nodes_eq, nodes_eq, List.filterMap_append,
        List.filterMap_append]
      refine List.Sublist.append ?_ ihRest
      rw [List.filterMap_cons, List.filterMap_cons, marker?_with_children]
      cases node.marker? with
      | none =>
          exact ihChildren
      | some marker =>
          exact ihChildren.cons_cons marker

/-- The markers that are left are those whose nodes are left. -/
theorem Pruned.markers_eq (h : Pruned [root] [left]) (hnodup : root.ids.Nodup) :
    left.markers = root.markers.filter fun marker => left.ids.contains marker.id := by
  have hsub : left.markers.Sublist root.markers := by
    simpa [markers] using h.markers_sublist
  have hdistinct : root.markers.Nodup :=
    List.Nodup.of_map _ (hnodup.sublist root.markers_sublist)
  apply Lists.eq_filter_of_sublist hsub hdistinct
  intro marker hmarker
  rw [List.contains_iff_mem]
  constructor
  · intro hmem
    exact left.markers_sublist.subset (List.mem_map_of_mem hmem)
  · intro hid
    rcases List.mem_filterMap.mp hmarker with ⟨node, hnode, hfound⟩
    rw [(marker?_eq_some hfound).1, ← idsOf_singleton] at hid
    rcases h.exists_of_mem (by simpa using hnodup) (by simpa using hnode) hid with
      ⟨children, hmem, _⟩
    rw [nodesOf_singleton] at hmem
    exact List.mem_filterMap.mpr ⟨_, hmem, by rw [marker?_with_children, hfound]⟩

end Node

namespace Exclusion

variable {audience : Audience} {config : ProductConfig} {root left : Node}
  {blocks : List DirectiveBlock}

/-- Nothing happens to a tree whose blocks are all kept. -/
theorem removeBlocks_of_all_kept
    (h : forall block, block ∈ blocks -> verdict audience block = .ok true) :
    removeBlocks audience blocks root = (root, none) := by
  induction blocks with
  | nil =>
      rfl
  | cons block blocks ih =>
      rw [removeBlocks_of_kept (h block List.mem_cons_self)]
      exact ih fun other hother => h other (List.mem_cons_of_mem _ hother)

/-- Where no verdict fails, a marker of a block is left exactly if the block is kept. -/
theorem mem_left_iff_of_mem_ends (hnodup : root.ids.Nodup)
    (hleaf : forall node, node ∈ root.nodes -> node.kind.isLiteral = true ->
      node.children = [])
    (h : root.directiveBlocks = .ok blocks)
    (hverdicts : forall block, block ∈ blocks -> exists kept, verdict audience block = .ok kept)
    (hleft : forall node, node ∈ root.nodes ->
      (node.id ∈ left.ids ↔
        ¬ exists block, block ∈ blocks ∧ verdict audience block = .ok false ∧
          block.Takes root (fun id => id ∈ left.ids) node))
    {block : DirectiveBlock} (hblock : block ∈ blocks) {id : Nat} (hid : id ∈ block.ends) :
    id ∈ left.ids ↔ verdict audience block = .ok true := by
  have hpending := pending_of_directiveBlocks hnodup hleaf h
  have hqueue : id ∈ blocks.reverse.flatMap DirectiveBlock.ends :=
    List.mem_flatMap.mpr ⟨block, List.mem_reverse.mpr hblock, hid⟩
  have hmem : id ∈ root.nodes.map Node.id := by
    apply (ends_sublist h).subset
    exact List.mem_flatMap.mpr ⟨block, hblock, hid⟩
  rcases List.mem_map.mp hmem with ⟨node, hnode, rfl⟩
  have hcovers : block.Covers root.ids node.id := by
    have hprecedes := hpending.precedes (List.mem_reverse.mpr hblock)
    rcases List.mem_cons.mp hid with hstart | hrest
    · rw [hstart]
      exact ⟨Or.inl rfl, Or.inr hprecedes⟩
    · rw [List.mem_singleton.mp hrest]
      exact ⟨Or.inr hprecedes, Or.inl rfl⟩
  rw [hleft node hnode]
  constructor
  · intro hkept
    rcases hverdicts block hblock with ⟨kept, hverdict⟩
    cases kept with
    | true =>
        exact hverdict
    | false =>
        -- A marker is a leaf, so its own block takes it.
        have htakes : block.Takes root (fun id => id ∈ left.ids) node := by
          refine ⟨hcovers, ?_⟩
          rw [hpending.leaf node hnode hqueue]
          simp
        exact absurd ⟨block, hblock, hverdict, htakes⟩ hkept
  · rintro hverdict ⟨other, hother, hdropped, htakes⟩
    have hsame := hpending.covers_unique (List.mem_reverse.mpr hblock)
      (List.mem_reverse.mpr hother) hcovers htakes.1
    rw [hsame, hdropped] at hverdict
    cases hverdict

/-- The blocks of what is left are those that are kept. -/
theorem directiveBlocks_of_left (hnodup : root.ids.Nodup)
    (hleaf : forall node, node ∈ root.nodes -> node.kind.isLiteral = true ->
      node.children = [])
    (h : root.directiveBlocks = .ok blocks)
    (hverdicts : forall block, block ∈ blocks -> exists kept, verdict audience block = .ok kept)
    (hpruned : Pruned [root] [left])
    (hleft : forall node, node ∈ root.nodes ->
      (node.id ∈ left.ids ↔
        ¬ exists block, block ∈ blocks ∧ verdict audience block = .ok false ∧
          block.Takes root (fun id => id ∈ left.ids) node)) :
    left.directiveBlocks = .ok (blocks.filter fun block => verdict audience block == .ok true) := by
  have hends : forall block, block ∈ blocks -> forall id, id ∈ block.ends ->
      left.ids.contains id = (verdict audience block == .ok true) := by
    intro block hblock id hid
    rw [Bool.eq_iff_iff, List.contains_iff_mem, beq_iff_eq]
    exact mem_left_iff_of_mem_ends hnodup hleaf h hverdicts hleft hblock hid
  have hpair := DirectiveBlock.pair_filter left.ids.contains h (by
    intro block hblock
    rw [hends block hblock block.start (by simp [DirectiveBlock.ends]),
      hends block hblock block.stop (by simp [DirectiveBlock.ends])])
  rw [directiveBlocks, hpruned.markers_eq hnodup]
  refine hpair.trans (congrArg Except.ok ?_)
  apply List.filter_congr
  intro block hblock
  exact hends block hblock block.start (by simp [DirectiveBlock.ends])

/-- What comes of a document without an error has no verdict that fails. -/
theorem verdicts_of_apply (hopted : config.supportsDirectives = true) (hnodup : root.ids.Nodup)
    (hleaf : forall node, node ∈ root.nodes -> node.kind.isLiteral = true ->
      node.children = [])
    (h : apply audience config root = (left, none)) :
    exists blocks, root.directiveBlocks = .ok blocks ∧
      forall block, block ∈ blocks -> exists kept, verdict audience block = .ok kept := by
  cases hpair : root.directiveBlocks with
  | error cause =>
      rw [apply_of_unpaired hopted hpair] at h
      cases h
  | ok blocks =>
      refine ⟨blocks, rfl, ?_⟩
      rcases exists_first_error audience blocks.reverse with
        hall | ⟨before, block, after, cause, hqueue, hbefore, hfails⟩
      · intro block hblock
        exact hall block (List.mem_reverse.mpr hblock)
      · have hpending := pending_of_directiveBlocks hnodup hleaf hpair
        rw [hqueue] at hpending
        rw [apply_of_paired hopted hpair, hqueue] at h
        have hnone := (Prod.mk.inj h).2
        rw [removeBlocks_error hpending hbefore hfails] at hnone
        cases hnone

/-- A document that blocks were taken out of has the blocks that were kept, with the ids,
contents and lines that they had, and in the same order.  To take blocks out of it again for
the same audience succeeds and leaves it as it is. -/
theorem apply_idempotent (audience : Audience) {config : ProductConfig} {root left : Node}
    (hopted : config.supportsDirectives = true) (hnodup : root.ids.Nodup)
    (hleaf : forall node, node ∈ root.nodes -> node.kind.isLiteral = true ->
      node.children = [])
    (h : apply audience config root = (left, none)) :
    (exists blocks, root.directiveBlocks = .ok blocks ∧
      left.directiveBlocks =
        .ok (blocks.filter fun block => verdict audience block == .ok true)) ∧
      apply audience config left = (left, none) := by
  rcases verdicts_of_apply hopted hnodup hleaf h with ⟨blocks, hpair, hverdicts⟩
  rcases apply_of_verdicts hopted hnodup hleaf hpair hverdicts with
    ⟨other, hrun, hpruned, _, hleft⟩
  obtain rfl : other = left := (Prod.mk.inj (hrun.symm.trans h)).1
  have hblocks := directiveBlocks_of_left hnodup hleaf hpair hverdicts hpruned hleft
  have hkept : forall block,
      block ∈ (blocks.filter fun block => verdict audience block == .ok true).reverse ->
        verdict audience block = .ok true := by
    intro block hblock
    simpa using (List.mem_filter.mp (List.mem_reverse.mp hblock)).2
  refine ⟨⟨blocks, hpair, hblocks⟩, ?_⟩
  rw [apply_of_paired hopted hblocks, removeBlocks_of_all_kept hkept]
  rfl

/-- The block for another product is gone, and the other block stays when it is asked for
again. -/
theorem apply_idempotent_straddling :
    exists left, apply enterpriseReader optedIn straddling = (left, none) ∧
      left.directiveBlocks = .ok [⟨7, 9, "TFEnterprise:only", 7, 9⟩] ∧
      apply enterpriseReader optedIn left = (left, none) := by
  have hrun : (apply enterpriseReader optedIn straddling).2 = none := by decide +kernel
  have happly : apply enterpriseReader optedIn straddling =
      ((apply enterpriseReader optedIn straddling).1, none) := Prod.ext rfl hrun
  have hblocks : straddling.directiveBlocks =
      .ok [⟨1, 5, "TFC:only", 1, 5⟩, ⟨7, 9, "TFEnterprise:only", 7, 9⟩] := by
    decide +kernel
  rcases apply_idempotent enterpriseReader rfl (by decide) (by decide) happly with
    ⟨⟨blocks, hpair, hleft⟩, hagain⟩
  cases hblocks.symm.trans hpair
  refine ⟨_, happly, hleft.trans ?_, hagain⟩
  decide +kernel

end Exclusion
end Docloom
