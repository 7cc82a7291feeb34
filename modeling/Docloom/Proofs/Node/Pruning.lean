import Docloom.Proofs.Node.Order

/-!
# Pruned trees

Taking nodes out of trees takes everything below them out, too, and changes nothing
else.  The relation `Pruned` says that one list of trees is left of another one
in this way.  When the ids are distinct, the ids that are left tell all: what is left
is the restriction of the trees to these ids.
-/

namespace Docloom
namespace Node

mutual
/-- A tree without the nodes below its root that are not kept. -/
def restrict (keep : Nat -> Bool) (node : Node) : Node :=
  match node with
  | ⟨id, kind, value, children, position⟩ =>
      ⟨id, kind, value, restrictAll keep children, position⟩

def restrictAll (keep : Nat -> Bool) : List Node -> List Node
  | [] => []
  | node :: nodes =>
      if keep node.id then
        restrict keep node :: restrictAll keep nodes
      else
        restrictAll keep nodes
end

theorem restrict_eq (keep : Nat -> Bool) (node : Node) :
    node.restrict keep = { node with children := restrictAll keep node.children } := by
  cases node
  simp [restrict]

/-- Nothing changes when everything is kept. -/
theorem restrictAll_of_forall {keep : Nat -> Bool} {nodes : List Node}
    (h : forall id, id ∈ idsOf nodes -> keep id = true) : restrictAll keep nodes = nodes := by
  induction nodes using forest_induction with
  | nil =>
      rfl
  | cons node rest ihChildren ihRest =>
      rw [idsOf_cons] at h
      have hbelow := ihChildren (fun id hid => h id (by simp [hid]))
      have hafter := ihRest (fun id hid => h id (by simp [hid]))
      rw [restrictAll, if_pos (h node.id (by simp)), restrict_eq, hbelow, hafter]
      cases node
      rfl

inductive Pruned : List Node -> List Node -> Prop where
  | nil : Pruned [] []
  | drop {node : Node} {nodes left : List Node} :
      Pruned nodes left ->
      Pruned (node :: nodes) left
  | keep {node : Node} {children nodes left : List Node} :
      Pruned node.children children ->
      Pruned nodes left ->
      Pruned (node :: nodes) ({ node with children } :: left)

namespace Pruned

variable {nodes left final : List Node}

theorem refl (nodes : List Node) : Pruned nodes nodes := by
  induction nodes using forest_induction with
  | nil =>
      exact Pruned.nil
  | cons node rest ihChildren ihRest =>
      cases node
      exact Pruned.keep ihChildren ihRest

theorem trans (h : Pruned nodes left) (hfinal : Pruned left final) :
    Pruned nodes final := by
  induction h generalizing final with
  | nil =>
      exact hfinal
  | drop _ ih =>
      exact Pruned.drop (ih hfinal)
  | keep _ _ ihChildren ihRest =>
      cases hfinal with
      | drop hrest =>
          exact Pruned.drop (ihRest hrest)
      | keep hchildren hrest =>
          exact Pruned.keep (ihChildren hchildren) (ihRest hrest)

theorem idsOf_sublist (h : Pruned nodes left) : (idsOf left).Sublist (idsOf nodes) := by
  induction h with
  | nil =>
      exact List.Sublist.refl _
  | drop _ ih =>
      rw [idsOf_cons]
      exact List.Sublist.cons _ (List.Sublist.trans ih (List.sublist_append_right _ _))
  | keep _ _ ihChildren ihRest =>
      rw [idsOf_cons, idsOf_cons]
      exact List.Sublist.cons_cons _ (List.Sublist.append ihChildren ihRest)

theorem mem_of_mem (h : Pruned nodes left) {id : Nat} (hid : id ∈ idsOf left) :
    id ∈ idsOf nodes := by
  exact h.idsOf_sublist.subset hid

/-- What is left is known by the ids that are left. -/
theorem eq_restrictAll (h : Pruned nodes left) (hnodup : (idsOf nodes).Nodup)
    {keep : Nat -> Bool}
    (hkeep : forall id, id ∈ idsOf nodes -> (keep id = true ↔ id ∈ idsOf left)) :
    left = restrictAll keep nodes := by
  induction h with
  | nil =>
      rfl
  | @drop node nodes left hrest ih =>
      rw [idsOf_cons] at hnodup hkeep
      have hsub : forall id, id ∈ idsOf left -> id ∈ idsOf nodes := fun id => hrest.mem_of_mem
      have hgone : ¬ keep node.id = true := by
        rw [hkeep node.id (by simp)]
        grind
      rw [restrictAll, if_neg hgone]
      exact ih (by grind) (fun id hid => hkeep id (by simp [hid]))
  | @keep node children nodes left hchildren hrest ihChildren ihRest =>
      rw [idsOf_cons] at hnodup
      rw [idsOf_cons, idsOf_cons] at hkeep
      have hsubRest : forall id, id ∈ idsOf left -> id ∈ idsOf nodes :=
        fun id => hrest.mem_of_mem
      have hsubChildren : forall id, id ∈ idsOf children -> id ∈ idsOf node.children :=
        fun id => hchildren.mem_of_mem
      have hkept : keep node.id = true := by
        rw [hkeep node.id (by simp)]
        simp
      have hbelow : children = restrictAll keep node.children := by
        apply ihChildren (by grind)
        intro id hid
        rw [hkeep id (by simp [hid])]
        grind
      have hafter : left = restrictAll keep nodes := by
        apply ihRest (by grind)
        intro id hid
        rw [hkeep id (by simp [hid])]
        grind
      rw [restrictAll, if_pos hkept, restrict_eq, ← hbelow, ← hafter]

/-- What is left of a tree whose root stays is its restriction. -/
theorem eq_restrict {root rest : Node} (h : Pruned [root] [rest]) (hnodup : root.ids.Nodup)
    (hroot : rest.id = root.id) : rest = root.restrict (fun id => rest.ids.contains id) := by
  have hstays : rest.ids.contains root.id = true := by
    rw [ids_eq rest, hroot]
    simp
  have hrestrict : [rest] = restrictAll (fun id => rest.ids.contains id) [root] :=
    h.eq_restrictAll (by simpa using hnodup) (by simp)
  rw [restrictAll, if_pos hstays, restrictAll] at hrestrict
  exact (List.cons.inj hrestrict).1

/-- A node whose id is left is left itself, without what was taken out below it. -/
theorem exists_of_mem (h : Pruned nodes left) (hnodup : (idsOf nodes).Nodup)
    {node : Node} (hnode : node ∈ nodesOf nodes) (hid : node.id ∈ idsOf left) :
    exists children, { node with children } ∈ nodesOf left ∧
      Pruned node.children children ∧
      forall id, id ∈ idsOf node.children -> (id ∈ idsOf children ↔ id ∈ idsOf left) := by
  induction h with
  | nil =>
      simp at hid
  | @drop first nodes left hrest ih =>
      rw [idsOf_cons] at hnodup
      have hsub := hrest.mem_of_mem hid
      have hafter : node ∈ nodesOf nodes := by
        rcases mem_nodesOf_cons.mp hnode with heq | hbelow | hafter
        · rw [heq] at hsub
          grind
        · have hmem : node.id ∈ idsOf first.children := mem_idsOf.mpr ⟨node, hbelow, rfl⟩
          grind
        · exact hafter
      exact ih (by grind) hafter hid
  | @keep first children nodes left hchildren hrest ihChildren ihRest =>
      rw [idsOf_cons] at hnodup hid
      have hsubRest : forall id, id ∈ idsOf left -> id ∈ idsOf nodes :=
        fun id => hrest.mem_of_mem
      have hsubChildren : forall id, id ∈ idsOf children -> id ∈ idsOf first.children :=
        fun id => hchildren.mem_of_mem
      simp only [mem_nodesOf_cons, idsOf_cons]
      rcases mem_nodesOf_cons.mp hnode with heq | hbelow | hafter
      · rw [heq]
        refine ⟨children, Or.inl rfl, hchildren, ?_⟩
        intro id hmem
        grind
      · have hmem : node.id ∈ idsOf first.children := mem_idsOf.mpr ⟨node, hbelow, rfl⟩
        have hin := ids_subset_idsOf hbelow
        rcases ihChildren (by grind) hbelow (by grind) with ⟨below, hleft, hpruned, hiff⟩
        refine ⟨below, Or.inr (Or.inl hleft), hpruned, ?_⟩
        intro id hmemBelow
        have hfirst : id ∈ idsOf first.children := hin id (by simp [ids_eq, hmemBelow])
        rw [hiff id hmemBelow]
        grind
      · have hmem : node.id ∈ idsOf nodes := mem_idsOf.mpr ⟨node, hafter, rfl⟩
        have hin := ids_subset_idsOf hafter
        rcases ihRest (by grind) hafter (by grind) with ⟨below, hleft, hpruned, hiff⟩
        refine ⟨below, Or.inr (Or.inr hleft), hpruned, ?_⟩
        intro id hmemBelow
        have hrestMem : id ∈ idsOf nodes := hin id (by simp [ids_eq, hmemBelow])
        rw [hiff id hmemBelow]
        grind

/-- What is left of a node that is left is its restriction. -/
theorem restrict_mem (h : Pruned nodes left) (hnodup : (idsOf nodes).Nodup)
    {node : Node} (hnode : node ∈ nodesOf nodes) (hid : node.id ∈ idsOf left) :
    node.restrict (fun id => (idsOf left).contains id) ∈ nodesOf left := by
  rcases h.exists_of_mem hnodup hnode hid with ⟨children, hmem, hpruned, hiff⟩
  have hnodupBelow := hnodup.sublist (idsOf_children_sublist hnode)
  have hchildren : children =
      restrictAll (fun id => (idsOf left).contains id) node.children := by
    apply hpruned.eq_restrictAll hnodupBelow
    intro id hbelow
    rw [hiff id hbelow]
    simp
  rw [restrict_eq, ← hchildren]
  exact hmem

/-- What is left of a node is that node, without what was taken out below it. -/
theorem exists_origin (h : Pruned nodes left) {node : Node} (hnode : node ∈ nodesOf left) :
    exists origin children, origin ∈ nodesOf nodes ∧ node = { origin with children } ∧
      Pruned origin.children children := by
  induction h with
  | nil =>
      simp [nodesOf] at hnode
  | drop _ ih =>
      rcases ih hnode with ⟨origin, children, hmem, heq, hpruned⟩
      exact ⟨origin, children, mem_nodesOf_cons.mpr (Or.inr (Or.inr hmem)), heq, hpruned⟩
  | @keep first kept nodes left hchildren hrest ihChildren ihRest =>
      rcases mem_nodesOf_cons.mp hnode with heq | hbelow | hafter
      · exact ⟨first, kept, mem_nodesOf_cons.mpr (Or.inl rfl), heq, hchildren⟩
      · rcases ihChildren hbelow with ⟨origin, children, hmem, heq, hpruned⟩
        exact ⟨origin, children, mem_nodesOf_cons.mpr (Or.inr (Or.inl hmem)), heq, hpruned⟩
      · rcases ihRest hafter with ⟨origin, children, hmem, heq, hpruned⟩
        exact ⟨origin, children, mem_nodesOf_cons.mpr (Or.inr (Or.inr hmem)), heq, hpruned⟩

end Pruned
end Node
end Docloom
