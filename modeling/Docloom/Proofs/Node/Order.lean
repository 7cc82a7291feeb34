import Docloom.Node.Basic
import Mathlib.Data.List.Nodup

/-!
# Document order

The nodes of trees stand in the order in which they are written: parents before
children, and siblings from the first to the last.  When the ids of the nodes are
distinct, the list of the ids tells which of two nodes comes first, also in what is
left of the trees after some nodes were taken away.
-/

namespace Docloom
namespace Node

/-!
# Induction over trees
-/

/-- A statement about lists of trees holds if it is kept when a tree is put in front,
given that it holds of the children of that tree. -/
@[elab_as_elim]
theorem forest_induction {motive : List Node -> Prop} (nil : motive [])
    (cons : forall node rest, motive node.children -> motive rest ->
      motive (node :: rest)) :
    forall nodes, motive nodes
  | [] => nil
  | ⟨id, kind, value, children, position⟩ :: rest =>
      cons ⟨id, kind, value, children, position⟩ rest
        (forest_induction nil cons children) (forest_induction nil cons rest)

/-!
# Ids of trees
-/

def idsOf (nodes : List Node) : List Nat := (nodesOf nodes).map Node.id

@[simp] theorem idsOf_nil : idsOf [] = [] := by
  simp [idsOf, nodesOf]

theorem ids_eq (node : Node) : node.ids = node.id :: idsOf node.children := by
  simp [ids, idsOf, nodes_eq node]

theorem idsOf_cons (node : Node) (rest : List Node) :
    idsOf (node :: rest) = node.id :: (idsOf node.children ++ idsOf rest) := by
  simp [idsOf, nodesOf_cons, nodes_eq node]

theorem idsOf_append (a b : List Node) : idsOf (a ++ b) = idsOf a ++ idsOf b := by
  simp [idsOf, nodesOf_append]

@[simp] theorem nodesOf_singleton (node : Node) : nodesOf [node] = node.nodes := by
  simp [nodesOf]

@[simp] theorem idsOf_singleton (node : Node) : idsOf [node] = node.ids := by
  simp [idsOf, ids]

theorem mem_idsOf {nodes : List Node} {id : Nat} :
    id ∈ idsOf nodes ↔ exists node, node ∈ nodesOf nodes ∧ node.id = id := by
  simp [idsOf]

theorem mem_nodesOf_cons {node first : Node} {rest : List Node} :
    node ∈ nodesOf (first :: rest) ↔
      node = first ∨ node ∈ nodesOf first.children ∨ node ∈ nodesOf rest := by
  simp [nodesOf_cons, nodes_eq first]

/-- What stands below a node of a tree stands in the tree. -/
theorem ids_subset_idsOf {nodes : List Node} {node : Node}
    (h : node ∈ nodesOf nodes) :
    forall id, id ∈ node.ids -> id ∈ idsOf nodes := by
  induction nodes using forest_induction with
  | nil =>
      simp [nodesOf] at h
  | cons first rest ihChildren ihRest =>
      intro id hid
      rw [idsOf_cons]
      rcases mem_nodesOf_cons.mp h with heq | hchildren | hrest
      · rw [heq, ids_eq] at hid
        rcases List.mem_cons.mp hid with hroot | hbelow
        · simp [hroot]
        · simp [hbelow]
      · simp [ihChildren hchildren id hid]
      · simp [ihRest hrest id hid]

theorem idsOf_children_sublist {nodes : List Node} {node : Node}
    (h : node ∈ nodesOf nodes) : (idsOf node.children).Sublist (idsOf nodes) := by
  induction nodes using forest_induction with
  | nil =>
      simp [nodesOf] at h
  | cons first rest ihChildren ihRest =>
      rw [idsOf_cons]
      apply List.Sublist.cons
      rcases mem_nodesOf_cons.mp h with heq | hchildren | hrest
      · rw [heq]
        exact List.sublist_append_left _ _
      · exact List.Sublist.trans (ihChildren hchildren) (List.sublist_append_left _ _)
      · exact List.Sublist.trans (ihRest hrest) (List.sublist_append_right _ _)

/-!
# Labels
-/

/-- What a node is apart from its children. -/
structure Label where
  id : Nat
  kind : NodeKind
  value : Option String
  position : Option Position
  deriving DecidableEq, Repr

def label (node : Node) : Label := ⟨node.id, node.kind, node.value, node.position⟩

def labelsOf (nodes : List Node) : List Label := (nodesOf nodes).map label

theorem labelsOf_cons (node : Node) (rest : List Node) :
    labelsOf (node :: rest) = node.label :: (labelsOf node.children ++ labelsOf rest) := by
  simp [labelsOf, nodesOf_cons, nodes_eq node]

theorem labelsOf_append (a b : List Node) : labelsOf (a ++ b) = labelsOf a ++ labelsOf b := by
  simp [labelsOf, nodesOf_append]

theorem id_of_mem_labelsOf {nodes : List Node} {label : Label} (h : label ∈ labelsOf nodes) :
    label.id ∈ idsOf nodes := by
  rcases List.mem_map.mp h with ⟨node, hnode, rfl⟩
  exact List.mem_map.mpr ⟨node, hnode, rfl⟩

end Node

/-!
# Order of ids
-/

/-- Whether `a` comes before `b` in a list of ids. -/
def Precedes (ids : List Nat) (a b : Nat) : Prop := [a, b].Sublist ids

namespace Precedes

variable {ids left right : List Nat} {a b c : Nat}

@[simp] theorem not_nil : ¬ Precedes [] a b := by
  simp [Precedes]

theorem cons_iff :
    Precedes (c :: ids) a b ↔ (a = c ∧ b ∈ ids) ∨ Precedes ids a b := by
  constructor
  · intro h
    cases h with
    | cons _ hrest =>
        exact Or.inr hrest
    | cons_cons _ hrest =>
        exact Or.inl ⟨rfl, by simpa using hrest⟩
  · intro h
    rcases h with ⟨rfl, hb⟩ | hrest
    · exact List.Sublist.cons_cons a (by simpa using hb)
    · exact List.Sublist.cons c hrest

theorem append_iff :
    Precedes (left ++ right) a b ↔
      Precedes left a b ∨ (a ∈ left ∧ b ∈ right) ∨ Precedes right a b := by
  induction left with
  | nil =>
      simp
  | cons c left ih =>
      rw [List.cons_append, cons_iff, cons_iff, ih, List.mem_append, List.mem_cons]
      grind

theorem mem_left (h : Precedes ids a b) : a ∈ ids := by
  exact h.subset (by simp)

theorem mem_right (h : Precedes ids a b) : b ∈ ids := by
  exact h.subset (by simp)

theorem ne (hnodup : ids.Nodup) (h : Precedes ids a b) : a ≠ b := by
  have hpair : [a, b].Nodup := hnodup.sublist h
  simpa using hpair

theorem total (ha : a ∈ ids) (hb : b ∈ ids) (hne : a ≠ b) :
    Precedes ids a b ∨ Precedes ids b a := by
  induction ids with
  | nil =>
      cases ha
  | cons c ids ih =>
      rw [cons_iff, cons_iff]
      grind

theorem asymm (hnodup : ids.Nodup) (hab : Precedes ids a b) :
    ¬ Precedes ids b a := by
  induction ids with
  | nil =>
      simp
  | cons c ids ih =>
      have hc := List.nodup_cons.mp hnodup
      rw [cons_iff] at hab ⊢
      have hleft := fun h : Precedes ids a b => h.mem_right
      have hright := fun h : Precedes ids b a => h.mem_right
      grind

theorem trans (hnodup : ids.Nodup) (hab : Precedes ids a b) (hbc : Precedes ids b c) :
    Precedes ids a c := by
  induction ids with
  | nil =>
      simp at hab
  | cons d ids ih =>
      have hd := List.nodup_cons.mp hnodup
      have hb := fun h : Precedes ids a b => h.mem_right
      have hc := fun h : Precedes ids b c => h.mem_right
      rw [cons_iff] at hab hbc ⊢
      grind

theorem of_sublist (hsub : left.Sublist ids) (h : Precedes left a b) :
    Precedes ids a b := by
  exact List.Sublist.trans h hsub

/-- What is left of a list of distinct ids is in the same order. -/
theorem sublist_iff (hnodup : ids.Nodup) (hsub : left.Sublist ids)
    (ha : a ∈ left) (hb : b ∈ left) :
    Precedes left a b ↔ Precedes ids a b := by
  constructor
  · exact of_sublist hsub
  · intro h
    rcases total ha hb (ne hnodup h) with hab | hba
    · exact hab
    · exact absurd (of_sublist hsub hba) (asymm hnodup h)

end Precedes

namespace Node

/-- The nodes of a tree stand together: what comes after its root and before one of
its nodes is in the tree. -/
theorem mem_ids_between {nodes : List Node} (hnodup : (idsOf nodes).Nodup) {node : Node}
    (hnode : node ∈ nodesOf nodes) {between last : Nat} (hlast : last ∈ node.ids)
    (hroot : Precedes (idsOf nodes) node.id between)
    (hbetween : Precedes (idsOf nodes) between last) :
    between ∈ idsOf node.children := by
  induction nodes using forest_induction with
  | nil =>
      simp [nodesOf] at hnode
  | cons first rest ihChildren ihRest =>
      have hne := hroot.ne hnodup
      have hasymm := hroot.asymm hnodup
      rw [idsOf_cons] at hnodup hroot hbetween
      rw [Precedes.cons_iff, Precedes.append_iff] at hroot hbetween
      rcases List.nodup_cons.mp hnodup with ⟨hfirst, hnodupParts⟩
      rw [List.mem_append, not_or] at hfirst
      have hdisjoint := List.disjoint_of_nodup_append hnodupParts
      have hleftBelow := fun a b (h : Precedes (idsOf first.children) a b) => h.mem_left
      have hrightBelow := fun a b (h : Precedes (idsOf first.children) a b) => h.mem_right
      have hleftRest := fun a b (h : Precedes (idsOf rest) a b) => h.mem_left
      have hrightRest := fun a b (h : Precedes (idsOf rest) a b) => h.mem_right
      rcases mem_nodesOf_cons.mp hnode with heq | hbelow | hafter
      · rw [heq] at hne hlast ⊢
        rw [ids_eq] at hlast
        grind
      · have hid : node.id ∈ idsOf first.children := mem_idsOf.mpr ⟨node, hbelow, rfl⟩
        have hmem : last ∈ idsOf first.children := ids_subset_idsOf hbelow last hlast
        have hnotLast := hdisjoint hmem
        have hnotRoot := hdisjoint hid
        apply ihChildren (List.Nodup.of_append_left hnodupParts) hbelow
        · grind
        · grind
      · have hid : node.id ∈ idsOf rest := mem_idsOf.mpr ⟨node, hafter, rfl⟩
        have hnot : node.id ∉ idsOf first.children := fun hmem => hdisjoint hmem hid
        apply ihRest (List.Nodup.of_append_right hnodupParts) hafter
        · grind
        · grind

/-- The root of a tree comes before what is below it. -/
theorem precedes_of_mem_children {nodes : List Node} {node : Node}
    (hnode : node ∈ nodesOf nodes) {id : Nat} (hid : id ∈ idsOf node.children) :
    Precedes (idsOf nodes) node.id id := by
  induction nodes using forest_induction with
  | nil =>
      simp [nodesOf] at hnode
  | cons first rest ihChildren ihRest =>
      rw [idsOf_cons, Precedes.cons_iff, Precedes.append_iff]
      rcases mem_nodesOf_cons.mp hnode with heq | hbelow | hafter
      · rw [heq] at hid ⊢
        exact Or.inl ⟨rfl, List.mem_append.mpr (Or.inl hid)⟩
      · exact Or.inr (Or.inl (ihChildren hbelow))
      · exact Or.inr (Or.inr (Or.inr (ihRest hafter)))

end Node
end Docloom
