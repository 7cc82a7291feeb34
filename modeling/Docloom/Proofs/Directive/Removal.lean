import Docloom.Directive.Block
import Docloom.Proofs.Node.Pruning

/-!
# What one removal leaves

Removing a block prunes the trees.  A node goes exactly if it stands in the range of
the block, unless it holds the marker that ends the block and something after it.

The walk over a list of trees may start inside the block and may end inside it, so
the statement about lists of trees speaks of the part of the range that is among
them.
-/

namespace Docloom
namespace DirectiveBlock

open Node

/-- Whether a node stands in the range of a block, given the ids in document order. -/
def Covers (block : DirectiveBlock) (ids : List Nat) (id : Nat) : Prop :=
  (id = block.start ∨ Precedes ids block.start id) ∧
    (id = block.stop ∨ Precedes ids id block.stop)

/-!
# One step of the walk
-/

section Step

variable {block : DirectiveBlock} {inside : Bool} {node : Node} {rest : List Node}

theorem removeNodes_start (h : node.id = block.start) :
    removeNodes block inside (node :: rest) = removeNodes block true rest := by
  cases node with
  | mk id kind value children position =>
      dsimp only at h
      simp [removeNodes, removeNode, h]

theorem removeNodes_stop (hstart : node.id ≠ block.start) (h : node.id = block.stop) :
    removeNodes block inside (node :: rest) = removeNodes block false rest := by
  cases node with
  | mk id kind value children position =>
      dsimp only at hstart h
      rw [removeNodes, removeNode, if_neg hstart, if_pos h]
      simp

theorem removeNodes_drop (hstart : node.id ≠ block.start) (hstop : node.id ≠ block.stop)
    (hinside : inside = true)
    (hempty : (removeNodes block inside node.children).2 = true ∨
      (removeNodes block inside node.children).1 = []) :
    removeNodes block inside (node :: rest) =
      removeNodes block (removeNodes block inside node.children).2 rest := by
  cases node with
  | mk id kind value children position =>
      simp only [removeNodes, removeNode]
      rw [if_neg hstart, if_neg hstop, if_pos (by simpa [hinside] using hempty)]
      simp

theorem removeNodes_keep (hstart : node.id ≠ block.start) (hstop : node.id ≠ block.stop)
    (hkeep : ¬ (inside = true ∧ ((removeNodes block inside node.children).2 = true ∨
      (removeNodes block inside node.children).1 = []))) :
    removeNodes block inside (node :: rest) =
      ({ node with children := (removeNodes block inside node.children).1 } ::
          (removeNodes block (removeNodes block inside node.children).2 rest).1,
        (removeNodes block (removeNodes block inside node.children).2 rest).2) := by
  cases node with
  | mk id kind value children position =>
      simp only [removeNodes, removeNode]
      rw [if_neg hstart, if_neg hstop, if_neg (by simpa using hkeep)]
      simp

end Step

theorem removeNodes_pruned (block : DirectiveBlock) (inside : Bool) (nodes : List Node) :
    Pruned nodes (removeNodes block inside nodes).1 := by
  induction nodes using forest_induction generalizing inside with
  | nil =>
      simpa [removeNodes] using Pruned.nil
  | cons node rest ihChildren ihRest =>
      by_cases hstart : node.id = block.start
      · rw [removeNodes_start hstart]
        exact Pruned.drop (ihRest true)
      by_cases hstop : node.id = block.stop
      · rw [removeNodes_stop hstart hstop]
        exact Pruned.drop (ihRest false)
      by_cases hdrop : inside = true ∧ ((removeNodes block inside node.children).2 = true ∨
          (removeNodes block inside node.children).1 = [])
      · rw [removeNodes_drop hstart hstop hdrop.1 hdrop.2]
        exact Pruned.drop (ihRest _)
      · rw [removeNodes_keep hstart hstop hdrop]
        exact Pruned.keep (ihChildren inside) (ihRest _)

/-!
# The walk over trees
-/

/-- What the walk relies on when it comes to a list of trees: the markers have nothing
below them, and they come in their order. -/
structure Entry (block : DirectiveBlock) (inside : Bool) (nodes : List Node) : Prop where
  nodup : (idsOf nodes).Nodup
  leaf : forall node, node ∈ nodesOf nodes ->
    node.id = block.start ∨ node.id = block.stop -> node.children = []
  begun : inside = true -> block.start ∉ idsOf nodes
  ordered : inside = false -> block.stop ∈ idsOf nodes ->
    Precedes (idsOf nodes) block.start block.stop

/-- Whether the walk is inside the block after the trees. -/
def goesOn (block : DirectiveBlock) (inside : Bool) (ids : List Nat) : Bool :=
  (inside || ids.contains block.start) && !ids.contains block.stop

/-- Whether the walk takes a node away. -/
structure Goes (block : DirectiveBlock) (inside : Bool) (ids : List Nat) (node : Node) :
    Prop where
  begun : inside = true ∨ node.id = block.start ∨ Precedes ids block.start node.id
  open_ : block.stop ∉ ids ∨ node.id = block.stop ∨ Precedes ids node.id block.stop
  emptied : forall id, id ∈ node.ids -> ¬ Precedes ids block.stop id

theorem Entry.children {block : DirectiveBlock} {inside : Bool} {first : Node}
    {rest : List Node} (h : Entry block inside (first :: rest))
    (hstart : first.id ≠ block.start) :
    Entry block inside first.children := by
  have hnodup := h.nodup
  have hordered := h.ordered
  have hbegun := h.begun
  rw [idsOf_cons] at hnodup hordered hbegun
  constructor
  · grind
  · intro node hnode hid
    exact h.leaf node (mem_nodesOf_cons.mpr (Or.inr (Or.inl hnode))) hid
  · grind
  · intro hinside hmem
    have hprecedes := hordered hinside (by simp [hmem])
    rw [Precedes.cons_iff, Precedes.append_iff] at hprecedes
    have hright := fun h : Precedes (idsOf rest) block.start block.stop => h.mem_right
    grind

theorem Entry.rest {block : DirectiveBlock} {inside : Bool} {first : Node}
    {rest : List Node} (h : Entry block inside (first :: rest))
    (hstart : first.id ≠ block.start) :
    Entry block (goesOn block inside (idsOf first.children)) rest := by
  have hnodup := h.nodup
  have hordered := h.ordered
  have hbegun := h.begun
  rw [idsOf_cons] at hnodup hordered hbegun
  constructor
  · grind
  · intro node hnode hid
    exact h.leaf node (mem_nodesOf_cons.mpr (Or.inr (Or.inr hnode))) hid
  · simp only [goesOn]
    grind
  · intro hgoes hmem
    have hprecedes := fun hinside => hordered hinside (by simp [hmem])
    rw [Precedes.cons_iff, Precedes.append_iff] at hprecedes
    have hright := fun h : Precedes (idsOf first.children) block.start block.stop => h.mem_right
    simp only [goesOn] at hgoes
    grind

theorem Entry.restStart {block : DirectiveBlock} {inside : Bool} {first : Node}
    {rest : List Node} (h : Entry block inside (first :: rest))
    (hstart : first.id = block.start) :
    inside = false ∧ block.stop ≠ block.start ∧ Entry block true rest := by
  have hnodup := h.nodup
  have hordered := h.ordered
  have hbegun := h.begun
  rw [idsOf_cons] at hnodup hordered hbegun
  have hinside : inside = false := by
    grind
  have hne : block.stop ≠ block.start := by
    intro heq
    have hprecedes := hordered hinside (by simp [hstart, heq])
    exact hprecedes.ne hnodup heq.symm
  refine ⟨hinside, hne, ?_⟩
  constructor
  · grind
  · intro node hnode hid
    exact h.leaf node (mem_nodesOf_cons.mpr (Or.inr (Or.inr hnode))) hid
  · grind
  · intro hfalse
    cases hfalse

theorem Entry.restStop {block : DirectiveBlock} {inside : Bool} {first : Node}
    {rest : List Node} (h : Entry block inside (first :: rest))
    (hstop : first.id = block.stop) :
    inside = true ∧ Entry block false rest := by
  have hnodup := h.nodup
  have hordered := h.ordered
  have hbegun := h.begun
  rw [idsOf_cons] at hnodup hordered hbegun
  have hinside : inside = true := by
    by_contra hfalse
    have hprecedes := hordered (by simpa using hfalse) (by simp [hstop])
    rw [Precedes.cons_iff] at hprecedes
    have hright := fun h : Precedes (idsOf first.children ++ idsOf rest) block.start block.stop =>
      h.mem_right
    grind
  refine ⟨hinside, ?_⟩
  constructor
  · grind
  · intro node hnode hid
    exact h.leaf node (mem_nodesOf_cons.mpr (Or.inr (Or.inr hnode))) hid
  · intro hfalse
    cases hfalse
  · grind

theorem goes_iff {block : DirectiveBlock} {inside : Bool} {ids : List Nat} {node : Node} :
    Goes block inside ids node ↔
      (inside = true ∨ node.id = block.start ∨ Precedes ids block.start node.id) ∧
      (block.stop ∉ ids ∨ node.id = block.stop ∨ Precedes ids node.id block.stop) ∧
      forall id, id ∈ node.ids -> ¬ Precedes ids block.stop id := by
  constructor
  · intro h
    exact ⟨h.begun, h.open_, h.emptied⟩
  · intro h
    exact ⟨h.1, h.2.1, h.2.2⟩

/-!
# The range among siblings

The ids of a list of trees are those of its first tree and those of the others.  What
a node of one part needs to know about the range can be read off that part.
-/

section Parts

variable {block : DirectiveBlock} {inside : Bool} {ids below after : List Nat} {node : Node}

theorem goes_after_start (hstart : block.start ∉ ids) (hne : block.stop ≠ block.start)
    (hid : node.id ∈ ids) :
    Goes block inside (block.start :: ids) node ↔ Goes block true ids node := by
  rw [goes_iff, goes_iff]
  simp only [Precedes.cons_iff, List.mem_cons]
  grind

theorem not_goes_after_stop (hstop : block.stop ∉ ids) (hid : node.id ∈ ids) :
    ¬ Goes block inside (block.stop :: ids) node := by
  intro h
  have hopen := h.open_
  rw [Precedes.cons_iff] at hopen
  have hmem := fun h : Precedes ids node.id block.stop => h.mem_right
  grind

theorem goes_below (hroot : node.id ∈ below) (hids : forall id, id ∈ node.ids -> id ∈ below)
    (hdisjoint : forall id, id ∈ below -> id ∉ after) {first : Nat} (hfirst : first ∉ below)
    (hstart : first ≠ block.start) (hstop : first ≠ block.stop) :
    Goes block inside (first :: (below ++ after)) node ↔ Goes block inside below node := by
  have hleft := fun a b (h : Precedes after a b) => h.mem_left
  have hright := fun a b (h : Precedes after a b) => h.mem_right
  rw [goes_iff, goes_iff]
  simp only [Precedes.cons_iff, Precedes.append_iff, List.mem_cons, List.mem_append]
  grind

theorem goes_after (hroot : node.id ∈ after)
    (hdisjoint : forall id, id ∈ below -> id ∉ after) {first : Nat} (hfirst : first ∉ after)
    (hstart : first ≠ block.start) (hstop : first ≠ block.stop)
    (hbegun : inside = true -> block.start ∉ after)
    (hordered : inside = false -> block.stop ∈ below -> block.start ∈ below) :
    Goes block inside (first :: (below ++ after)) node ↔
      Goes block (goesOn block inside below) after node := by
  have hleft := fun a b (h : Precedes below a b) => h.mem_left
  have hright := fun a b (h : Precedes below a b) => h.mem_right
  have hleftAfter := fun a b (h : Precedes after a b) => h.mem_left
  have hrightAfter := fun a b (h : Precedes after a b) => h.mem_right
  rw [goes_iff, goes_iff]
  simp only [Precedes.cons_iff, Precedes.append_iff, List.mem_cons, List.mem_append, goesOn,
    Bool.and_eq_true, Bool.or_eq_true, Bool.not_eq_true', List.contains_eq_mem,
    decide_eq_true_eq, decide_eq_false_iff_not]
  by_cases hbelow : block.stop ∈ below
  · have hstarted : block.start ∉ after := by
      cases hcase : inside with
      | true =>
          exact hbegun hcase
      | false =>
          exact hdisjoint block.start (hordered hcase hbelow)
    have hstopped : block.stop ∉ after := hdisjoint block.stop hbelow
    grind
  · grind

theorem goes_first (hids : node.ids = node.id :: below)
    (hbelow : node.id ∉ below) (hafter : node.id ∉ after)
    (hdisjoint : forall id, id ∈ below -> id ∉ after)
    (hstart : node.id ≠ block.start) (hstop : node.id ≠ block.stop) :
    Goes block inside (node.id :: (below ++ after)) node ↔
      inside = true ∧ forall id, id ∈ below -> ¬ Precedes below block.stop id := by
  have hright := fun a b (h : Precedes below a b) => h.mem_right
  have hleft := fun a b (h : Precedes after a b) => h.mem_left
  have hrightAfter := fun a b (h : Precedes after a b) => h.mem_right
  rw [goes_iff, hids]
  simp only [Precedes.cons_iff, Precedes.append_iff, List.mem_cons, List.mem_append]
  grind

end Parts

/-!
# The walk takes away what it should
-/

/-- The walk over a list of trees ends as it should and leaves what it should. -/
structure Walked (block : DirectiveBlock) (inside : Bool) (nodes : List Node) : Prop where
  after : (removeNodes block inside nodes).2 = goesOn block inside (idsOf nodes)
  left : forall node, node ∈ nodesOf nodes ->
    (node.id ∈ idsOf (removeNodes block inside nodes).1 ↔
      ¬ Goes block inside (idsOf nodes) node)

section Walk

variable {block : DirectiveBlock} {inside : Bool} {first : Node} {rest nodes : List Node}

theorem Walked.start (hentry : Entry block inside (first :: rest))
    (hstart : first.id = block.start) (hrest : Walked block true rest) :
    Walked block inside (first :: rest) := by
  have hnodup := hentry.nodup
  have hordered := hentry.ordered
  have hchildren := hentry.leaf first (by simp [mem_nodesOf_cons]) (Or.inl hstart)
  rcases hentry.restStart hstart with ⟨hinside, hne, _⟩
  rw [idsOf_cons, hchildren, hstart, idsOf_nil, List.nil_append] at hnodup hordered
  have hfresh := (List.nodup_cons.mp hnodup).1
  constructor
  · rw [removeNodes_start hstart, hrest.after, idsOf_cons, hchildren, hstart]
    simp [goesOn, hne]
  · intro node hnode
    rw [removeNodes_start hstart, idsOf_cons, hchildren, hstart, idsOf_nil, List.nil_append]
    rcases mem_nodesOf_cons.mp hnode with heq | hbelow | hmem
    · have hgone : node.id ∉ idsOf (removeNodes block true rest).1 := by
        intro hid
        rw [heq, hstart] at hid
        exact hfresh ((removeNodes_pruned block true rest).mem_of_mem hid)
      have hgoes : Goes block inside (block.start :: idsOf rest) node := by
        rw [heq]
        constructor
        · exact Or.inr (Or.inl hstart)
        · by_cases hmem : block.stop ∈ block.start :: idsOf rest
          · rw [hstart]
            exact Or.inr (Or.inr (hordered hinside hmem))
          · exact Or.inl hmem
        · intro id hid hprecedes
          rw [ids_eq, hchildren, hstart, idsOf_nil, List.mem_singleton] at hid
          rw [hid] at hprecedes
          exact hprecedes.asymm hnodup (hordered hinside hprecedes.mem_left)
      simp [hgone, hgoes]
    · rw [hchildren] at hbelow
      simp [nodesOf] at hbelow
    · have hid : node.id ∈ idsOf rest := mem_idsOf.mpr ⟨node, hmem, rfl⟩
      rw [hrest.left node hmem, goes_after_start hfresh hne hid]

theorem Walked.stop (hentry : Entry block inside (first :: rest))
    (hstart : first.id ≠ block.start) (hstop : first.id = block.stop)
    (hrest : Walked block false rest) :
    Walked block inside (first :: rest) := by
  have hnodup := hentry.nodup
  have hbegun := hentry.begun
  have hchildren := hentry.leaf first (by simp [mem_nodesOf_cons]) (Or.inr hstop)
  rcases hentry.restStop hstop with ⟨hinside, _⟩
  rw [idsOf_cons, hchildren, hstop, idsOf_nil, List.nil_append] at hnodup hbegun
  have hfresh := (List.nodup_cons.mp hnodup).1
  have hstarted : block.start ∉ idsOf rest := by
    intro hmem
    exact hbegun hinside (List.mem_cons_of_mem _ hmem)
  constructor
  · rw [removeNodes_stop hstart hstop, hrest.after, idsOf_cons, hchildren, hstop]
    simp [goesOn, hstarted]
  · intro node hnode
    rw [removeNodes_stop hstart hstop, idsOf_cons, hchildren, hstop, idsOf_nil,
      List.nil_append]
    rcases mem_nodesOf_cons.mp hnode with heq | hbelow | hmem
    · have hgone : node.id ∉ idsOf (removeNodes block false rest).1 := by
        intro hid
        rw [heq, hstop] at hid
        exact hfresh ((removeNodes_pruned block false rest).mem_of_mem hid)
      have hgoes : Goes block inside (block.stop :: idsOf rest) node := by
        rw [heq]
        constructor
        · exact Or.inl hinside
        · exact Or.inr (Or.inl hstop)
        · intro id hid hprecedes
          rw [ids_eq, hchildren, hstop, idsOf_nil, List.mem_singleton] at hid
          exact hprecedes.ne hnodup hid.symm
      simp [hgone, hgoes]
    · rw [hchildren] at hbelow
      simp [nodesOf] at hbelow
    · have hid : node.id ∈ idsOf rest := mem_idsOf.mpr ⟨node, hmem, rfl⟩
      have hstays : ¬ Goes block false (idsOf rest) node := by
        intro hgoes
        have hmemStart := hgoes.begun
        have hleft := fun h : Precedes (idsOf rest) block.start node.id => h.mem_left
        grind
      simp [hrest.left node hmem, hstays, not_goes_after_stop hfresh hid]

/-- Inside a block, all nodes go that are among trees with nothing behind the marker
that ends the block. -/
theorem goes_of_emptied (hinside : inside = true)
    (hemptied : forall id, id ∈ idsOf nodes -> ¬ Precedes (idsOf nodes) block.stop id)
    {node : Node} (hnode : node ∈ nodesOf nodes) :
    Goes block inside (idsOf nodes) node := by
  have hid : node.id ∈ idsOf nodes := mem_idsOf.mpr ⟨node, hnode, rfl⟩
  constructor
  · exact Or.inl hinside
  · by_cases hstop : block.stop ∈ idsOf nodes
    · by_cases heq : node.id = block.stop
      · exact Or.inr (Or.inl heq)
      · rcases Precedes.total hid hstop heq with hbefore | hbehind
        · exact Or.inr (Or.inr hbefore)
        · exact absurd hbehind (hemptied node.id hid)
    · exact Or.inl hstop
  · intro id hmem
    exact hemptied id (ids_subset_idsOf hnode id hmem)

/-- When the walk came in inside the block, it takes a container away exactly if
nothing stands in it behind the marker that ends the block. -/
theorem Walked.emptied_iff (hnodup : (idsOf nodes).Nodup) (hinside : inside = true)
    (hwalked : Walked block inside nodes) :
    ((removeNodes block inside nodes).2 = true ∨ (removeNodes block inside nodes).1 = []) ↔
      forall id, id ∈ idsOf nodes -> ¬ Precedes (idsOf nodes) block.stop id := by
  constructor
  · intro h id hid hprecedes
    rcases h with hstill | hempty
    · rw [hwalked.after] at hstill
      have hmem := hprecedes.mem_left
      simp [goesOn, hmem] at hstill
    · rcases mem_idsOf.mp hid with ⟨node, hnode, heq⟩
      have hleft := hwalked.left node hnode
      rw [hempty] at hleft
      have hgoes : Goes block inside (idsOf nodes) node := by
        simpa using hleft
      have hopen := hgoes.open_
      rw [heq] at hopen
      have hne := hprecedes.ne hnodup
      have hasymm := hprecedes.asymm hnodup
      have hmem := hprecedes.mem_left
      grind
  · intro hemptied
    apply Or.inr
    cases hkept : (removeNodes block inside nodes).1 with
    | nil =>
        rfl
    | cons kept others =>
        have hmem : kept.id ∈ idsOf (removeNodes block inside nodes).1 := by
          rw [hkept, idsOf_cons]
          simp
        have hid := (removeNodes_pruned block inside nodes).mem_of_mem hmem
        rcases mem_idsOf.mp hid with ⟨node, hnode, heq⟩
        rw [← heq] at hmem
        exact absurd (goes_of_emptied hinside hemptied hnode) ((hwalked.left node hnode).mp hmem)

theorem goesOn_cons_append {id : Nat} {below after : List Nat} (hstart : id ≠ block.start)
    (hstop : id ≠ block.stop) (hended : block.stop ∈ below -> block.start ∉ after) :
    goesOn block inside (id :: (below ++ after)) =
      goesOn block (goesOn block inside below) after := by
  by_cases hbelow : block.stop ∈ below
  · simp [goesOn, hbelow, hended hbelow]
  · simp [goesOn, hbelow, hstart.symm, hstop.symm, Bool.or_assoc]

theorem Walked.other (hentry : Entry block inside (first :: rest))
    (hstart : first.id ≠ block.start) (hstop : first.id ≠ block.stop)
    (hbelow : Walked block inside first.children)
    (hrest : Walked block (goesOn block inside (idsOf first.children)) rest) :
    Walked block inside (first :: rest) := by
  have hnodup := hentry.nodup
  have hbegun := hentry.begun
  have hchildren := hentry.children hstart
  rw [idsOf_cons] at hnodup hbegun
  rcases List.nodup_cons.mp hnodup with ⟨hfirst, hnodupParts⟩
  rw [List.mem_append, not_or] at hfirst
  have hdisjoint : forall id, id ∈ idsOf first.children -> id ∉ idsOf rest :=
    List.disjoint_of_nodup_append hnodupParts
  have hstarted : inside = true -> block.start ∉ idsOf rest := by
    intro hinside hmem
    exact hbegun hinside (by simp [hmem])
  have hordered : inside = false -> block.stop ∈ idsOf first.children ->
      block.start ∈ idsOf first.children := by
    intro hinside hmem
    exact (hchildren.ordered hinside hmem).mem_left
  have hgoesOn : goesOn block (goesOn block inside (idsOf first.children)) (idsOf rest) =
      goesOn block inside (idsOf (first :: rest)) := by
    rw [idsOf_cons, goesOn_cons_append hstart hstop]
    intro hmem
    cases hinside : inside with
    | true =>
        exact hstarted hinside
    | false =>
        exact hdisjoint block.start (hordered hinside hmem)
  have hgoesFirst : Goes block inside (idsOf (first :: rest)) first ↔
      inside = true ∧ forall id, id ∈ idsOf first.children ->
        ¬ Precedes (idsOf first.children) block.stop id := by
    rw [idsOf_cons]
    exact goes_first (ids_eq first) hfirst.1 hfirst.2 hdisjoint hstart hstop
  have hgoesBelow : forall node, node ∈ nodesOf first.children ->
      (Goes block inside (idsOf (first :: rest)) node ↔
        Goes block inside (idsOf first.children) node) := by
    intro node hnode
    rw [idsOf_cons]
    exact goes_below (mem_idsOf.mpr ⟨node, hnode, rfl⟩) (ids_subset_idsOf hnode)
      hdisjoint hfirst.1 hstart hstop
  have hgoesRest : forall node, node ∈ nodesOf rest ->
      (Goes block inside (idsOf (first :: rest)) node ↔
        Goes block (goesOn block inside (idsOf first.children)) (idsOf rest) node) := by
    intro node hnode
    rw [idsOf_cons]
    exact goes_after (mem_idsOf.mpr ⟨node, hnode, rfl⟩) hdisjoint hfirst.2 hstart hstop
      hstarted hordered
  have hsubBelow : forall id, id ∈ idsOf (removeNodes block inside first.children).1 ->
      id ∈ idsOf first.children :=
    fun id => (removeNodes_pruned block inside first.children).mem_of_mem
  have hsubRest : forall still id, id ∈ idsOf (removeNodes block still rest).1 ->
      id ∈ idsOf rest :=
    fun still id => (removeNodes_pruned block still rest).mem_of_mem
  -- Whether the container goes decides what becomes of the list, so the two cases of
  -- the walk are told apart before a node is picked.
  by_cases hgoes : Goes block inside (idsOf (first :: rest)) first
  · rcases hgoesFirst.mp hgoes with ⟨hinside, hemptied⟩
    have hcase := (hbelow.emptied_iff hchildren.nodup hinside).mpr hemptied
    have hwalk : removeNodes block inside (first :: rest) =
        removeNodes block (removeNodes block inside first.children).2 rest :=
      removeNodes_drop hstart hstop hinside hcase
    rw [hbelow.after] at hwalk
    constructor
    · rw [hwalk, hrest.after, hgoesOn]
    · intro node hnode
      rw [hwalk]
      rcases mem_nodesOf_cons.mp hnode with heq | hmem | hmem
      · have hgone : first.id ∉ idsOf rest := hfirst.2
        rw [heq]
        grind
      · have hid : node.id ∈ idsOf first.children := mem_idsOf.mpr ⟨node, hmem, rfl⟩
        have hgone := hdisjoint node.id hid
        have hgoesNode := (hgoesBelow node hmem).mpr (goes_of_emptied hinside hemptied hmem)
        grind
      · rw [hrest.left node hmem, hgoesRest node hmem]
  · have hcase : ¬ (inside = true ∧ ((removeNodes block inside first.children).2 = true ∨
        (removeNodes block inside first.children).1 = [])) := by
      intro hdrop
      have hemptied := (hbelow.emptied_iff hchildren.nodup hdrop.1).mp hdrop.2
      exact hgoes (hgoesFirst.mpr ⟨hdrop.1, hemptied⟩)
    have hwalk : removeNodes block inside (first :: rest) =
        ({ first with children := (removeNodes block inside first.children).1 } ::
            (removeNodes block (removeNodes block inside first.children).2 rest).1,
          (removeNodes block (removeNodes block inside first.children).2 rest).2) :=
      removeNodes_keep hstart hstop hcase
    rw [hbelow.after] at hwalk
    constructor
    · rw [hwalk, hrest.after, hgoesOn]
    · intro node hnode
      rw [hwalk, idsOf_cons, List.mem_cons, List.mem_append]
      rcases mem_nodesOf_cons.mp hnode with heq | hmem | hmem
      · rw [heq]
        simp [hgoes]
      · have hid : node.id ∈ idsOf first.children := mem_idsOf.mpr ⟨node, hmem, rfl⟩
        have hgone := hdisjoint node.id hid
        rw [hgoesBelow node hmem, ← hbelow.left node hmem]
        grind
      · have hid : node.id ∈ idsOf rest := mem_idsOf.mpr ⟨node, hmem, rfl⟩
        rw [hgoesRest node hmem, ← hrest.left node hmem]
        grind

end Walk

theorem removeNodes_walked (block : DirectiveBlock) (nodes : List Node) :
    forall inside, Entry block inside nodes -> Walked block inside nodes := by
  induction nodes using forest_induction with
  | nil =>
      intro inside hentry
      constructor
      · simp [removeNodes, goesOn]
      · simp [nodesOf]
  | cons first rest ihChildren ihRest =>
      intro inside hentry
      by_cases hstart : first.id = block.start
      · exact Walked.start hentry hstart (ihRest true (hentry.restStart hstart).2.2)
      by_cases hstop : first.id = block.stop
      · exact Walked.stop hentry hstart hstop (ihRest false (hentry.restStop hstop).2)
      exact Walked.other hentry hstart hstop (ihChildren inside (hentry.children hstart))
        (ihRest _ (hentry.rest hstart))

/-!
# Removing a block from a document

The walk starts outside the block at the root, which holds both markers.
-/

theorem remove_spec {block : DirectiveBlock} {root : Node} (hnodup : root.ids.Nodup)
    (hleaf : forall node, node ∈ root.nodes ->
      node.id = block.start ∨ node.id = block.stop -> node.children = [])
    (hprecedes : Precedes root.ids block.start block.stop) :
    exists left, block.remove root = .ok left ∧ Pruned [root] [left] ∧ left.id = root.id ∧
      forall node, node ∈ root.nodes ->
        (node.id ∈ left.ids ↔
          ¬ (block.Covers root.ids node.id ∧
            forall id, id ∈ node.ids -> ¬ Precedes root.ids block.stop id)) := by
  have hentry : Entry block false [root] := by
    constructor
    · simpa using hnodup
    · simpa using hleaf
    · intro hfalse
      cases hfalse
    · intro _ _
      simpa using hprecedes
  have hattached : block.isAttached root = true := by
    simp [isAttached, contains, hprecedes.mem_left, hprecedes.mem_right]
  have hbelow : Precedes (idsOf root.children) block.start block.stop ∧
      root.id ≠ block.start := by
    have hnodupRoot := hnodup
    rw [ids_eq] at hnodupRoot
    rw [ids_eq, Precedes.cons_iff] at hprecedes
    rcases hprecedes with ⟨hroot, hstop⟩ | hbelow
    · have hchildren := hleaf root (by simp [nodes_eq root]) (Or.inl hroot.symm)
      rw [hchildren] at hstop
      simp at hstop
    · refine ⟨hbelow, ?_⟩
      intro hroot
      rw [hroot] at hnodupRoot
      exact (List.nodup_cons.mp hnodupRoot).1 hbelow.mem_left
  have hrootStop : root.id ≠ block.stop := by
    intro hroot
    have hnodupRoot := hnodup
    rw [ids_eq, hroot] at hnodupRoot
    exact (List.nodup_cons.mp hnodupRoot).1 hbelow.1.mem_right
  have hwalk : removeNodes block false [root] =
      ({ root with children := (removeNodes block false root.children).1 } ::
          (removeNodes block (removeNodes block false root.children).2 []).1,
        (removeNodes block (removeNodes block false root.children).2 []).2) :=
    removeNodes_keep hbelow.2 hrootStop (by simp)
  have hpruned := removeNodes_pruned block false [root]
  have hwalked := removeNodes_walked block [root] false hentry
  have hleft := hwalked.left
  rw [hwalk] at hpruned hleft
  simp only [removeNodes, idsOf_singleton, nodesOf_singleton] at hpruned hleft
  refine ⟨_, by rw [remove, if_pos hattached], hpruned, rfl, ?_⟩
  intro node hnode
  have hiff := hleft node hnode
  rw [goes_iff] at hiff
  have hstop := hprecedes.mem_right
  simp only [hstop, not_true_eq_false, Bool.false_eq_true, false_or] at hiff
  rw [Covers, and_assoc, ← hiff]

end DirectiveBlock
end Docloom
