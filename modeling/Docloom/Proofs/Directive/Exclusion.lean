import Docloom.Directive.Exclusion
import Docloom.Proofs.Directive.Pairing
import Docloom.Proofs.Directive.Removal

/-!
# What an audience is left with

The blocks that an audience does not keep are removed one after the other, from the
last to the first.  A removal leaves everything before its block as it was, so the
markers of the blocks that are still pending stay in the tree and in their order.
In the end the result can be told from the document alone: a node is gone exactly if
it stands in the range of a block that is not kept, unless it holds the marker that
ends this block and something behind the marker that is left.
-/

namespace Docloom

open Node

namespace DirectiveBlock

/-- Whether a block that is not kept takes a node with it, when `survives` tells which
nodes are left in the end. -/
def Takes (block : DirectiveBlock) (root : Node) (survives : Nat -> Prop) (node : Node) :
    Prop :=
  block.Covers root.ids node.id ∧
    ¬ (block.stop ∈ idsOf node.children ∧
      exists id, id ∈ node.ids ∧ Precedes root.ids block.stop id ∧ survives id)

end DirectiveBlock

namespace Exclusion

open DirectiveBlock

/-- Whether the audience keeps a block. -/
def verdict (audience : Audience) (block : DirectiveBlock) : Except Error Bool :=
  (Directive.parse block).bind fun directive =>
    directive.keeps block audience.product audience.version

/-!
# Verdicts
-/

section Verdicts

variable {audience : Audience} {block : DirectiveBlock} {blocks : List DirectiveBlock}
  {root : Node}

theorem removeBlocks_of_error {error : Error} (h : verdict audience block = .error error) :
    removeBlocks audience (block :: blocks) root = (root, some error) := by
  unfold verdict at h
  simp [removeBlocks, h]

theorem removeBlocks_of_kept (h : verdict audience block = .ok true) :
    removeBlocks audience (block :: blocks) root = removeBlocks audience blocks root := by
  unfold verdict at h
  simp [removeBlocks, h]

theorem removeBlocks_of_dropped {left : Node} (h : verdict audience block = .ok false)
    (hleft : block.remove root = .ok left) :
    removeBlocks audience (block :: blocks) root = removeBlocks audience blocks left := by
  unfold verdict at h
  simp [removeBlocks, h, hleft]

theorem removeBlocks_of_undone {error : Error} (h : verdict audience block = .ok false)
    (herror : block.remove root = .error error) :
    removeBlocks audience (block :: blocks) root = (root, some error) := by
  unfold verdict at h
  simp [removeBlocks, h, herror]

theorem onlyLabel_ne_detached {product rest content : String} {first last : Nat} :
    Directive.onlyLabel product rest block ≠ .error (.detachedBlock content first last) := by
  unfold Directive.onlyLabel
  dsimp only
  split
  · simp
  · split
    · simp
    · split <;> simp

theorem evaluate_ne_detached {expression content : String} {version : Option String}
    {first last : Nat} :
    Directive.evaluate expression block version ≠
      .error (.detachedBlock content first last) := by
  unfold Directive.evaluate
  split
  · simp
  · split
    · simp
    · split <;> simp

theorem map_ne_error {alpha beta : Type} {answer : Except Error alpha} {f : alpha -> beta}
    {error : Error} (h : answer ≠ .error error) : answer.map f ≠ .error error := by
  cases answer with
  | error other =>
      simpa [Except.map] using h
  | ok value =>
      simp [Except.map]

theorem parse_ne_detached {content : String} {first last : Nat} :
    Directive.parse block ≠ .error (.detachedBlock content first last) := by
  unfold Directive.parse
  dsimp only
  split
  · simp
  · split
    · exact map_ne_error onlyLabel_ne_detached
    · split
      · exact map_ne_error onlyLabel_ne_detached
      · simp

theorem keeps_ne_detached {directive : Directive} {product content : String}
    {version : Option String} {first last : Nat} :
    directive.keeps block product version ≠ .error (.detachedBlock content first last) := by
  cases directive with
  | vault expression =>
      simp only [Directive.keeps]
      split
      · exact evaluate_ne_detached
      · simp
  | tfc label =>
      simp [Directive.keeps]
  | tfEnterprise label =>
      simp [Directive.keeps]

/-- A verdict never blames the removal. -/
theorem verdict_ne_detached {content : String} {first last : Nat} :
    verdict audience block ≠ .error (.detachedBlock content first last) := by
  unfold verdict
  cases hparse : Directive.parse block with
  | error error =>
      have herror : Directive.parse block ≠ .error (.detachedBlock content first last) :=
        parse_ne_detached
      rw [hparse] at herror
      simpa [Except.bind] using herror
  | ok directive =>
      exact keeps_ne_detached

end Verdicts

/-!
# One removal

The queue holds the blocks that are still pending, the last one first.
-/

/-- The markers of the blocks that are pending are leaves of the tree and stand in it
in the order of the blocks. -/
structure Pending (root : Node) (queue : List DirectiveBlock) : Prop where
  nodup : root.ids.Nodup
  leaf : forall node, node ∈ root.nodes -> node.id ∈ queue.flatMap ends ->
    node.children = []
  ordered : (queue.reverse.flatMap ends).Pairwise (Precedes root.ids)

section Step

variable {root : Node} {block : DirectiveBlock} {queue : List DirectiveBlock}

theorem mem_flatMap_ends_reverse {id : Nat} :
    id ∈ queue.reverse.flatMap ends ↔ id ∈ queue.flatMap ends := by
  simp

/-- The next block stands behind those that are pending after it. -/
theorem Pending.split (h : Pending root (block :: queue)) :
    Precedes root.ids block.start block.stop ∧
      (forall id, id ∈ queue.flatMap ends -> Precedes root.ids id block.start) ∧
      Pending root queue := by
  have hordered := h.ordered
  rw [List.reverse_cons, List.flatMap_append, List.pairwise_append] at hordered
  rcases hordered with ⟨hqueue, hblock, hbefore⟩
  refine ⟨?_, ?_, ?_⟩
  · simpa [ends] using hblock
  · intro id hid
    exact hbefore id (mem_flatMap_ends_reverse.mpr hid) block.start (by simp [ends])
  · constructor
    · exact h.nodup
    · intro node hnode hid
      apply h.leaf node hnode
      rw [List.flatMap_cons]
      exact List.mem_append.mpr (Or.inr hid)
    · exact hqueue

/-- A block can always be removed, and what is pending after it is pending in what is
left. -/
theorem Pending.remove (h : Pending root (block :: queue)) :
    exists left, block.remove root = .ok left ∧ Pending left queue ∧
      Pruned [root] [left] ∧ left.id = root.id ∧
      forall node, node ∈ root.nodes ->
        (node.id ∈ left.ids ↔
          ¬ (block.Covers root.ids node.id ∧
            forall id, id ∈ node.ids -> ¬ Precedes root.ids block.stop id)) := by
  rcases h.split with ⟨hblock, hbefore, hpending⟩
  have hleaf : forall node, node ∈ root.nodes ->
      node.id = block.start ∨ node.id = block.stop -> node.children = [] := by
    intro node hnode hid
    apply h.leaf node hnode
    rw [List.flatMap_cons]
    exact List.mem_append.mpr (Or.inl (by simpa [ends] using hid))
  rcases remove_spec h.nodup hleaf hblock with ⟨left, hleft, hpruned, hroot, hspec⟩
  refine ⟨left, hleft, ?_, hpruned, hroot, hspec⟩
  have hsub : left.ids.Sublist root.ids := by
    simpa using hpruned.idsOf_sublist
  have hsurvives : forall id, id ∈ queue.flatMap ends -> id ∈ left.ids := by
    intro id hid
    have hprecedes := hbefore id hid
    have hmem : id ∈ root.nodes.map Node.id := hprecedes.mem_left
    rcases List.mem_map.mp hmem with ⟨node, hnode, heq⟩
    rw [← heq, hspec node hnode]
    rintro ⟨⟨hbegun, _⟩, _⟩
    rw [heq] at hbegun
    rcases hbegun with hstart | hstart
    · exact hprecedes.ne h.nodup hstart
    · exact hprecedes.asymm h.nodup hstart
  constructor
  · exact h.nodup.sublist hsub
  · intro node hnode hid
    rcases hpruned.exists_origin (by simpa using hnode) with
      ⟨origin, children, horigin, heq, hbelow⟩
    have hnone := hpending.leaf origin (by simpa using horigin)
      (by simpa [heq] using hid)
    rw [hnone] at hbelow
    rw [heq]
    cases hbelow
    rfl
  · apply hpending.ordered.imp_of_mem
    intro a b ha hb hab
    have haLeft := hsurvives a (mem_flatMap_ends_reverse.mp ha)
    have hbLeft := hsurvives b (mem_flatMap_ends_reverse.mp hb)
    exact (Precedes.sublist_iff h.nodup hsub haLeft hbLeft).mpr hab

end Step

/-!
# From one removal to the next

What was told about the tree between two removals can be told about the tree before
the first of them, since both are in the same order.
-/

theorem sublist_of_pruned {root left : Node} (h : Pruned [root] [left]) :
    left.ids.Sublist root.ids := by
  simpa using h.idsOf_sublist

theorem Pending.precedes {root : Node} {queue : List DirectiveBlock} (h : Pending root queue)
    {block : DirectiveBlock} (hblock : block ∈ queue) :
    Precedes root.ids block.start block.stop := by
  induction queue with
  | nil =>
      cases hblock
  | cons first queue ih =>
      rcases List.mem_cons.mp hblock with heq | hrest
      · rw [heq]
        exact h.split.1
      · exact ih h.split.2.2 hrest

theorem covers_iff_of_sublist {ids left : List Nat} (hnodup : ids.Nodup)
    (hsub : left.Sublist ids) {block : DirectiveBlock} (hstart : block.start ∈ left)
    (hstop : block.stop ∈ left) {id : Nat} (hid : id ∈ left) :
    block.Covers left id ↔ block.Covers ids id := by
  unfold Covers
  rw [Precedes.sublist_iff hnodup hsub hstart hid, Precedes.sublist_iff hnodup hsub hid hstop]

/-- Whether a node is lost to the blocks of a queue, given what is left in the end. -/
def Lost (audience : Audience) (root : Node) (queue : List DirectiveBlock) (left : List Nat)
    (node : Node) : Prop :=
  exists block, block ∈ queue ∧ verdict audience block = .ok false ∧
    block.Covers root.ids node.id ∧
    forall id, id ∈ node.ids -> Precedes root.ids block.stop id -> id ∉ left

section Between

variable {audience : Audience} {root middle : Node} {queue : List DirectiveBlock}
  {left : List Nat}

/-- What is lost later is told by the tree before the removal as by the tree after
it. -/
theorem lost_iff_of_pruned (hnodup : root.ids.Nodup) (hpruned : Pruned [root] [middle])
    (hpending : Pending middle queue) (hleft : forall id, id ∈ left -> id ∈ middle.ids)
    {node : Node} {children : List Node} (hid : node.id ∈ middle.ids)
    (hbelow : Pruned node.children children)
    (hiff : forall id, id ∈ idsOf node.children -> (id ∈ idsOf children ↔ id ∈ middle.ids)) :
    Lost audience middle queue left { node with children } ↔
      Lost audience root queue left node := by
  have hsub := sublist_of_pruned hpruned
  constructor
  · rintro ⟨block, hblock, hverdict, hcovers, hgone⟩
    have hprecedes := hpending.precedes hblock
    refine ⟨block, hblock, hverdict, ?_, ?_⟩
    · exact (covers_iff_of_sublist hnodup hsub hprecedes.mem_left hprecedes.mem_right hid).mp
        hcovers
    · intro id hmem hbehind hsurvives
      have hmiddle := hleft id hsurvives
      apply hgone id ?_ ?_ hsurvives
      · rw [ids_eq, List.mem_cons] at hmem ⊢
        rcases hmem with heq | hchild
        · exact Or.inl heq
        · exact Or.inr ((hiff id hchild).mpr hmiddle)
      · exact (Precedes.sublist_iff hnodup hsub hprecedes.mem_right hmiddle).mpr hbehind
  · rintro ⟨block, hblock, hverdict, hcovers, hgone⟩
    have hprecedes := hpending.precedes hblock
    refine ⟨block, hblock, hverdict, ?_, ?_⟩
    · exact (covers_iff_of_sublist hnodup hsub hprecedes.mem_left hprecedes.mem_right hid).mpr
        hcovers
    · intro id hmem hbehind
      apply hgone id ?_ (Precedes.of_sublist hsub hbehind)
      rw [ids_eq, List.mem_cons] at hmem ⊢
      rcases hmem with heq | hchild
      · exact Or.inl heq
      · exact Or.inr (hbelow.mem_of_mem hchild)

/-- A removal and what is lost to the other blocks of the queue make up what is lost to
all of them. -/
theorem survives_cons_iff {block : DirectiveBlock} (hpending : Pending root (block :: queue))
    (hverdict : verdict audience block = .ok false) (hpendingMiddle : Pending middle queue)
    (hpruned : Pruned [root] [middle])
    (hmiddle : forall node, node ∈ root.nodes ->
      (node.id ∈ middle.ids ↔
        ¬ (block.Covers root.ids node.id ∧
          forall id, id ∈ node.ids -> ¬ Precedes root.ids block.stop id)))
    (hsub : forall id, id ∈ left -> id ∈ middle.ids)
    (hleft : forall node, node ∈ middle.nodes ->
      (node.id ∈ left ↔ ¬ Lost audience middle queue left node))
    {node : Node} (hnode : node ∈ root.nodes) :
    node.id ∈ left ↔ ¬ Lost audience root (block :: queue) left node := by
  have hnodup := hpending.nodup
  rcases hpending.split with ⟨hblock, hbefore, _⟩
  -- Nodes of the middle tree are told apart by the nodes of the document they come from.
  have htransfer : forall other, other ∈ root.nodes -> other.id ∈ middle.ids ->
      (other.id ∈ left ↔ ¬ Lost audience root queue left other) := by
    intro other hother hid
    rcases hpruned.exists_of_mem (by simpa using hnodup) (by simpa using hother)
      (by simpa using hid) with ⟨children, hmem, hbelow, hiff⟩
    rw [idsOf_singleton] at hiff
    rw [nodesOf_singleton] at hmem
    rw [← lost_iff_of_pruned hnodup hpruned hpendingMiddle hsub hid hbelow hiff]
    exact hleft { other with children } hmem
  have hbehind : forall id, Precedes root.ids block.stop id -> id ∈ left := by
    intro id hprecedes
    have hmem : id ∈ root.nodes.map Node.id := hprecedes.mem_right
    rcases List.mem_map.mp hmem with ⟨other, hother, heq⟩
    have hmiddleOther : other.id ∈ middle.ids := by
      rw [hmiddle other hother]
      rintro ⟨⟨_, hstop⟩, _⟩
      rw [heq] at hstop
      rcases hstop with hstop | hstop
      · exact hprecedes.ne hnodup hstop.symm
      · exact hprecedes.asymm hnodup hstop
    rw [← heq, htransfer other hother hmiddleOther]
    rintro ⟨later, hlater, _, ⟨_, hstop⟩, _⟩
    rw [heq] at hstop
    have hlaterStop : Precedes root.ids later.stop id := by
      have hstart := hbefore later.stop (List.mem_flatMap.mpr ⟨later, hlater, by simp [ends]⟩)
      exact (hstart.trans hnodup hblock).trans hnodup hprecedes
    rcases hstop with hstop | hstop
    · exact hlaterStop.ne hnodup hstop.symm
    · exact hlaterStop.asymm hnodup hstop
  by_cases hid : node.id ∈ middle.ids
  · rw [htransfer node hnode hid]
    apply not_congr
    constructor
    · rintro ⟨other, hother, hlost⟩
      exact ⟨other, List.mem_cons_of_mem _ hother, hlost⟩
    · rintro ⟨other, hother, hdropped, hcovers, hgone⟩
      rcases List.mem_cons.mp hother with heq | hrest
      · rw [heq] at hcovers hgone
        rw [hmiddle node hnode] at hid
        apply absurd ⟨hcovers, ?_⟩ hid
        intro id hmem hprecedes
        exact hgone id hmem hprecedes (hbehind id hprecedes)
      · exact ⟨other, hrest, hdropped, hcovers, hgone⟩
  · have hgone : node.id ∉ left := fun hmem => hid (hsub node.id hmem)
    rw [hmiddle node hnode, not_not] at hid
    have hlost : Lost audience root (block :: queue) left node := by
      refine ⟨block, by simp, hverdict, hid.1, ?_⟩
      intro id hmem hprecedes
      exact absurd hprecedes (hid.2 id hmem)
    simp [hgone, hlost]

end Between

/-!
# The whole run
-/

section Run

variable {audience : Audience} {root : Node} {queue : List DirectiveBlock}

/-- When no verdict fails, the run comes to its end.  What survives it is what the
blocks that are not kept do not take. -/
theorem removeBlocks_spec (hpending : Pending root queue)
    (hverdicts : forall block, block ∈ queue -> exists kept, verdict audience block = .ok kept) :
    exists left, removeBlocks audience queue root = (left, none) ∧
      Pruned [root] [left] ∧ left.id = root.id ∧
      forall node, node ∈ root.nodes ->
        (node.id ∈ left.ids ↔ ¬ Lost audience root queue left.ids node) := by
  induction queue generalizing root with
  | nil =>
      refine ⟨root, rfl, Pruned.refl [root], rfl, ?_⟩
      intro node hnode
      have hid : node.id ∈ root.ids := List.mem_map.mpr ⟨node, hnode, rfl⟩
      simp [hid, Lost]
  | cons block queue ih =>
      have hverdictsQueue : forall other, other ∈ queue ->
          exists kept, verdict audience other = .ok kept := by
        intro other hother
        exact hverdicts other (List.mem_cons_of_mem _ hother)
      rcases hverdicts block (by simp) with ⟨kept, hverdict⟩
      cases kept with
      | true =>
          rcases ih hpending.split.2.2 hverdictsQueue with ⟨left, hrun, hpruned, hroot, hleft⟩
          refine ⟨left, ?_, hpruned, hroot, ?_⟩
          · rw [removeBlocks_of_kept hverdict, hrun]
          · intro node hnode
            rw [hleft node hnode]
            simp [Lost, hverdict]
      | false =>
          rcases hpending.remove with
            ⟨middle, hremove, hpendingMiddle, hprunedMiddle, hrootMiddle, hmiddle⟩
          rcases ih hpendingMiddle hverdictsQueue with ⟨left, hrun, hpruned, hroot, hleft⟩
          refine ⟨left, ?_, hprunedMiddle.trans hpruned, hroot.trans hrootMiddle, ?_⟩
          · rw [removeBlocks_of_dropped hverdict hremove, hrun]
          · intro node hnode
            have hsub : forall id, id ∈ left.ids -> id ∈ middle.ids :=
              fun id hid => (sublist_of_pruned hpruned).subset hid
            exact survives_cons_iff hpending hverdict hpendingMiddle hprunedMiddle hmiddle hsub
              hleft hnode

/-- The first verdict that fails on the way from the last block to the first one ends
the run. -/
theorem removeBlocks_error {before after : List DirectiveBlock} {block : DirectiveBlock}
    {error : Error} (hpending : Pending root (before ++ block :: after))
    (hverdicts : forall other, other ∈ before -> exists kept, verdict audience other = .ok kept)
    (herror : verdict audience block = .error error) :
    (removeBlocks audience (before ++ block :: after) root).2 = some error := by
  induction before generalizing root with
  | nil =>
      rw [List.nil_append, removeBlocks_of_error herror]
  | cons first before ih =>
      rw [List.cons_append] at hpending ⊢
      have hverdictsBefore : forall other, other ∈ before ->
          exists kept, verdict audience other = .ok kept := by
        intro other hother
        exact hverdicts other (List.mem_cons_of_mem _ hother)
      rcases hverdicts first (by simp) with ⟨kept, hverdict⟩
      cases kept with
      | true =>
          rw [removeBlocks_of_kept hverdict]
          exact ih hpending.split.2.2 hverdictsBefore
      | false =>
          rcases hpending.remove with ⟨middle, hremove, hpendingMiddle, _⟩
          rw [removeBlocks_of_dropped hverdict hremove]
          exact ih hpendingMiddle hverdictsBefore

/-- Either no verdict of a queue fails or there is a first one that does. -/
theorem exists_first_error (audience : Audience) (queue : List DirectiveBlock) :
    (forall block, block ∈ queue -> exists kept, verdict audience block = .ok kept) ∨
      exists before block after error, queue = before ++ block :: after ∧
        (forall other, other ∈ before -> exists kept, verdict audience other = .ok kept) ∧
        verdict audience block = .error error := by
  induction queue with
  | nil =>
      simp
  | cons first queue ih =>
      cases hfirst : verdict audience first with
      | error error =>
          exact Or.inr ⟨[], first, queue, error, rfl, by simp, hfirst⟩
      | ok kept =>
          rcases ih with hall | ⟨before, block, after, error, hqueue, hbefore, herror⟩
          · apply Or.inl
            intro block hblock
            rcases List.mem_cons.mp hblock with heq | hrest
            · exact ⟨kept, by rw [heq, hfirst]⟩
            · exact hall block hrest
          · refine Or.inr ⟨first :: before, block, after, error, by rw [hqueue]; rfl, ?_, herror⟩
            intro other hother
            rcases List.mem_cons.mp hother with heq | hrest
            · exact ⟨kept, by rw [heq, hfirst]⟩
            · exact hbefore other hrest

end Run

/-!
# Blocks of a document
-/

section Document

variable {audience : Audience} {config : ProductConfig} {root : Node}
  {blocks : List DirectiveBlock}

/-- All blocks of a document are pending at first. -/
theorem pending_of_directiveBlocks (hnodup : root.ids.Nodup)
    (hleaf : forall node, node ∈ root.nodes -> node.kind.isLiteral = true ->
      node.children = [])
    (h : root.directiveBlocks = .ok blocks) : Pending root blocks.reverse := by
  constructor
  · exact hnodup
  · intro node hnode hid
    apply hleaf node hnode
    exact isLiteral_of_mem_ends hnodup h hnode (by simpa using hid)
  · rw [List.reverse_reverse, List.pairwise_iff_forall_sublist]
    intro a b hab
    exact hab.trans (ends_sublist h)

/-- The ranges of two blocks have nothing in common. -/
theorem Pending.covers_unique {queue : List DirectiveBlock} (h : Pending root queue)
    {a b : DirectiveBlock} (ha : a ∈ queue) (hb : b ∈ queue) {id : Nat}
    (hida : a.Covers root.ids id) (hidb : b.Covers root.ids id) : a = b := by
  have hapart : forall {first : DirectiveBlock} {rest : List DirectiveBlock},
      Pending root (first :: rest) -> forall {other}, other ∈ rest ->
        first.Covers root.ids id -> ¬ other.Covers root.ids id := by
    intro first rest hpending other hother hfirst hcovers
    have hbefore := hpending.split.2.1 other.stop
      (List.mem_flatMap.mpr ⟨other, hother, by simp [ends]⟩)
    have hprecedes : Precedes root.ids other.stop id := by
      rcases hfirst.1 with heq | hstart
      · rw [heq]
        exact hbefore
      · exact hbefore.trans hpending.nodup hstart
    rcases hcovers.2 with heq | hstop
    · exact hprecedes.ne hpending.nodup heq.symm
    · exact hprecedes.asymm hpending.nodup hstop
  induction queue with
  | nil =>
      cases ha
  | cons first rest ih =>
      rcases List.mem_cons.mp ha with heqa | hresta
      · rcases List.mem_cons.mp hb with heqb | hrestb
        · rw [heqa, heqb]
        · rw [heqa] at hida
          exact absurd hidb (hapart h hrestb hida)
      · rcases List.mem_cons.mp hb with heqb | hrestb
        · rw [heqb] at hidb
          exact absurd hida (hapart h hresta hidb)
        · exact ih h.split.2.2 hresta hrestb

theorem apply_of_unpaired (hopted : config.supportsDirectives = true) {cause : Error}
    (h : root.directiveBlocks = .error cause) :
    apply audience config root = (root, some (.contentExclusion audience.file cause)) := by
  simp [apply, hopted, h]

theorem apply_of_paired (hopted : config.supportsDirectives = true)
    (h : root.directiveBlocks = .ok blocks) :
    apply audience config root =
      ((removeBlocks audience blocks.reverse root).1,
        (removeBlocks audience blocks.reverse root).2.map
          (Error.contentExclusion audience.file)) := by
  simp [apply, hopted, h]

/-- A block takes a node that is lost to it, and no other. -/
theorem lost_iff_takes (hnodup : root.ids.Nodup)
    (hleaf : forall node, node ∈ root.nodes -> node.kind.isLiteral = true ->
      node.children = [])
    (h : root.directiveBlocks = .ok blocks) {left : List Nat} {node : Node}
    (hnode : node ∈ root.nodes) :
    Lost audience root blocks.reverse left node ↔
      exists block, block ∈ blocks ∧ verdict audience block = .ok false ∧
        block.Takes root (fun id => id ∈ left) node := by
  have hpending := pending_of_directiveBlocks hnodup hleaf h
  constructor
  · rintro ⟨block, hblock, hverdict, hcovers, hgone⟩
    refine ⟨block, List.mem_reverse.mp hblock, hverdict, hcovers, ?_⟩
    rintro ⟨_, id, hid, hbehind, hsurvives⟩
    exact hgone id hid hbehind hsurvives
  · rintro ⟨block, hblock, hverdict, hcovers, hholds⟩
    refine ⟨block, List.mem_reverse.mpr hblock, hverdict, hcovers, ?_⟩
    intro id hid hbehind hsurvives
    apply hholds
    refine ⟨?_, id, hid, hbehind, hsurvives⟩
    rcases hcovers.2 with heq | hstop
    · have hnone := hpending.leaf node hnode
        (List.mem_flatMap.mpr ⟨block, List.mem_reverse.mpr hblock, by simp [ends, heq]⟩)
      rw [ids_eq, hnone, idsOf_nil, List.mem_singleton, heq] at hid
      exact absurd hid.symm (hbehind.ne hnodup)
    · rw [← idsOf_singleton] at hnodup hstop hbehind
      exact mem_ids_between hnodup (by simpa using hnode) hid hstop hbehind

/-- Without a verdict that fails, the tree that is left is the document restricted to
the nodes that no block takes. -/
theorem apply_of_verdicts (hopted : config.supportsDirectives = true)
    (hnodup : root.ids.Nodup)
    (hleaf : forall node, node ∈ root.nodes -> node.kind.isLiteral = true ->
      node.children = [])
    (h : root.directiveBlocks = .ok blocks)
    (hverdicts : forall block, block ∈ blocks -> exists kept, verdict audience block = .ok kept) :
    exists left, apply audience config root = (left, none) ∧ Pruned [root] [left] ∧
      left = root.restrict (fun id => left.ids.contains id) ∧
      forall node, node ∈ root.nodes ->
        (node.id ∈ left.ids ↔
          ¬ exists block, block ∈ blocks ∧ verdict audience block = .ok false ∧
            block.Takes root (fun id => id ∈ left.ids) node) := by
  have hpending := pending_of_directiveBlocks hnodup hleaf h
  rcases removeBlocks_spec hpending (fun block hblock =>
    hverdicts block (List.mem_reverse.mp hblock)) with ⟨left, hrun, hpruned, hroot, hleft⟩
  refine ⟨left, ?_, hpruned, hpruned.eq_restrict hnodup hroot, ?_⟩
  · rw [apply_of_paired hopted h, hrun]
    rfl
  · intro node hnode
    rw [hleft node hnode, lost_iff_takes hnodup hleaf h hnode]

/-- The nodes of a block that is kept are left, and those that do not hold the marker
that ends the block are left with everything below them. -/
theorem kept_of_covers (hnodup : root.ids.Nodup)
    (hleaf : forall node, node ∈ root.nodes -> node.kind.isLiteral = true ->
      node.children = [])
    (h : root.directiveBlocks = .ok blocks) {left : Node} (hpruned : Pruned [root] [left])
    (hleft : forall node, node ∈ root.nodes ->
      (node.id ∈ left.ids ↔
        ¬ exists block, block ∈ blocks ∧ verdict audience block = .ok false ∧
          block.Takes root (fun id => id ∈ left.ids) node))
    {block : DirectiveBlock} (hblock : block ∈ blocks)
    (hkept : verdict audience block = .ok true)
    {node : Node} (hnode : node ∈ root.nodes) (hcovers : block.Covers root.ids node.id) :
    node.restrict (fun id => left.ids.contains id) ∈ left.nodes ∧
      (block.stop ∉ idsOf node.children -> node ∈ left.nodes) := by
  have hpending := pending_of_directiveBlocks hnodup hleaf h
  have hsurvives : forall other, other ∈ root.nodes -> block.Covers root.ids other.id ->
      other.id ∈ left.ids := by
    intro other hother hcoversOther
    rw [hleft other hother]
    rintro ⟨dropped, hdropped, hverdict, htakes, _⟩
    have hsame := hpending.covers_unique (List.mem_reverse.mpr hblock)
      (List.mem_reverse.mpr hdropped) hcoversOther htakes
    rw [hsame, hverdict] at hkept
    cases hkept
  have hrestrict := hpruned.restrict_mem (by simpa using hnodup) (by simpa using hnode)
    (by simpa using hsurvives node hnode hcovers)
  rw [idsOf_singleton, nodesOf_singleton] at hrestrict
  refine ⟨hrestrict, ?_⟩
  intro hstop
  have hbelow : forall id, id ∈ idsOf node.children -> left.ids.contains id = true := by
    intro id hid
    have hafter : Precedes root.ids node.id id := by
      rw [← nodesOf_singleton] at hnode
      rw [← idsOf_singleton]
      exact precedes_of_mem_children hnode hid
    have hmem : id ∈ root.nodes.map Node.id := hafter.mem_right
    rcases List.mem_map.mp hmem with ⟨other, hother, heq⟩
    rw [List.contains_iff_mem, ← heq]
    apply hsurvives other hother
    rw [heq]
    constructor
    · rcases hcovers.1 with hstart | hstart
      · rw [← hstart]
        exact Or.inr hafter
      · exact Or.inr (hstart.trans hnodup hafter)
    · have hne : node.id ≠ block.stop := by
        intro heqStop
        have hnone := hpending.leaf node hnode
          (List.mem_flatMap.mpr ⟨block, List.mem_reverse.mpr hblock, by simp [ends, heqStop]⟩)
        rw [hnone] at hid
        simp at hid
      have hbefore := hcovers.2.resolve_left hne
      rcases Decidable.em (id = block.stop) with heqStop | hneStop
      · exact Or.inl heqStop
      · rcases Precedes.total hafter.mem_right hbefore.mem_right hneStop with hprecedes | hbehind
        · exact Or.inr hprecedes
        · have hlast : id ∈ node.ids := by
            rw [ids_eq]
            exact List.mem_cons_of_mem _ hid
          rw [← nodesOf_singleton] at hnode
          rw [← idsOf_singleton] at hnodup hbefore hbehind
          exact absurd (mem_ids_between hnodup hnode hlast hbefore hbehind) hstop
  rw [restrict_eq, restrictAll_of_forall hbelow] at hrestrict
  cases node
  exact hrestrict

/-- What becomes of a document with distinct ids whose literal nodes are leaves.

The work on it succeeds exactly if its markers pair up and no verdict fails; otherwise
the error holds the path of the document and what went wrong: the pairing, or the last
of the verdicts that fail.  What is left is the document without the nodes that the
blocks take which are not kept, and nothing else changes. -/
theorem apply_exact (audience : Audience) {config : ProductConfig} {root : Node}
    (hopted : config.supportsDirectives = true) (hnodup : root.ids.Nodup)
    (hleaf : forall node, node ∈ root.nodes -> node.kind.isLiteral = true ->
      node.children = []) :
    ((apply audience config root).2 = none ↔
      exists blocks, root.directiveBlocks = .ok blocks ∧
        forall block, block ∈ blocks -> exists kept, verdict audience block = .ok kept) ∧
    (forall error, (apply audience config root).2 = some error ->
      exists cause, error = .contentExclusion audience.file cause ∧
        (forall content first last, cause ≠ .detachedBlock content first last) ∧
        (root.directiveBlocks = .error cause ∨
          exists before block after, root.directiveBlocks = .ok (before ++ block :: after) ∧
            verdict audience block = .error cause ∧
            forall later, later ∈ after -> exists kept, verdict audience later = .ok kept)) ∧
    (forall left, apply audience config root = (left, none) ->
      left = root.restrict (fun id => left.ids.contains id) ∧
      forall blocks, root.directiveBlocks = .ok blocks ->
        (forall node, node ∈ root.nodes ->
          (node.id ∈ left.ids ↔
            ¬ exists block, block ∈ blocks ∧ verdict audience block = .ok false ∧
              block.Takes root (fun id => id ∈ left.ids) node)) ∧
        (forall block, block ∈ blocks -> verdict audience block = .ok true ->
          forall node, node ∈ root.nodes -> block.Covers root.ids node.id ->
            node.restrict (fun id => left.ids.contains id) ∈ left.nodes ∧
              (block.stop ∉ idsOf node.children -> node ∈ left.nodes))) := by
  cases hpair : root.directiveBlocks with
  | error cause =>
      rw [apply_of_unpaired hopted hpair]
      refine ⟨by simp, ?_, by simp⟩
      intro error herror
      refine ⟨cause, (Option.some.inj herror).symm, ?_, Or.inl rfl⟩
      intro content first last hcause
      rw [hcause] at hpair
      exact pair_ne_detached hpair
  | ok blocks =>
      have hpending := pending_of_directiveBlocks hnodup hleaf hpair
      rcases exists_first_error audience blocks.reverse with
        hall | ⟨before, block, after, cause, hqueue, hbefore, hfails⟩
      · have hverdicts : forall block, block ∈ blocks ->
            exists kept, verdict audience block = .ok kept :=
          fun block hblock => hall block (List.mem_reverse.mpr hblock)
        rcases apply_of_verdicts hopted hnodup hleaf hpair hverdicts with
          ⟨left, hrun, hpruned, hrestrict, hleft⟩
        rw [hrun]
        refine ⟨by simpa using hverdicts, by simp, ?_⟩
        intro result hresult
        rw [Prod.mk.injEq] at hresult
        rw [← hresult.1]
        refine ⟨hrestrict, ?_⟩
        intro others hothers
        rw [Except.ok.injEq] at hothers
        rw [← hothers]
        exact ⟨hleft, fun block hblock hkept node hnode hcovers =>
          kept_of_covers hnodup hleaf hpair hpruned hleft hblock hkept hnode hcovers⟩
      · have hrun : (apply audience config root).2 =
            some (.contentExclusion audience.file cause) := by
          rw [apply_of_paired hopted hpair, hqueue]
          rw [hqueue] at hpending
          rw [removeBlocks_error hpending hbefore hfails]
          rfl
        have hblocks : blocks = after.reverse ++ block :: before.reverse := by
          have hreverse := congrArg List.reverse hqueue
          simpa using hreverse
        have hfailure : ¬ exists kept, verdict audience block = .ok kept := by
          rintro ⟨kept, hkept⟩
          rw [hfails] at hkept
          cases hkept
        refine ⟨?_, ?_, ?_⟩
        · rw [hrun]
          constructor
          · intro hnone
            cases hnone
          · rintro ⟨others, hothers, hverdicts⟩
            rw [Except.ok.injEq] at hothers
            rw [← hothers, hblocks] at hverdicts
            exact absurd (hverdicts block (by simp)) hfailure
        · intro error herror
          rw [hrun] at herror
          refine ⟨cause, (Option.some.inj herror).symm, ?_, Or.inr ?_⟩
          · intro content first last hcause
            rw [hcause] at hfails
            exact verdict_ne_detached hfails
          · refine ⟨after.reverse, block, before.reverse, by rw [hblocks], hfails, ?_⟩
            intro later hlater
            exact hbefore later (List.mem_reverse.mp hlater)
        · intro left hleft
          rw [hleft] at hrun
          cases hrun

/-- A comment in the line of a document that has the number of its id. -/
def commentAt (id : Nat) (text : String) : Node :=
  ⟨id, .comment, some text, [], some ⟨id, 1, id, 1⟩⟩

/-- The first block ends inside a list, in an item that goes on behind it. -/
def straddling : Node :=
  ⟨0, .root, none,
    [commentAt 1 "<!-- BEGIN: TFC:only -->",
      ⟨2, .list false none false, none,
        [⟨3, .listItem false none, none,
          [⟨4, .thematicBreak, none, [], none⟩, commentAt 5 "<!-- END: TFC:only -->",
            ⟨6, .thematicBreak, none, [], none⟩], none⟩], none⟩,
      commentAt 7 "<!-- BEGIN: TFEnterprise:only -->",
      ⟨8, .thematicBreak, none, [], none⟩,
      commentAt 9 "<!-- END: TFEnterprise:only -->"], none⟩

def enterpriseReader : Audience := ⟨"guide.mdx", Directive.enterpriseProduct, none⟩

def optedIn : ProductConfig := { supportsDirectives := true }

theorem apply_exact_straddling :
    (apply enterpriseReader optedIn straddling).2 = none ∧
      (apply enterpriseReader optedIn straddling).1.ids = [0, 2, 3, 6, 7, 8, 9] ∧
      (apply enterpriseReader optedIn straddling).1 =
        straddling.restrict fun id =>
          (apply enterpriseReader optedIn straddling).1.ids.contains id := by
  have hnodup : straddling.ids.Nodup := by decide
  have hleaf : forall node, node ∈ straddling.nodes -> node.kind.isLiteral = true ->
      node.children = [] := by decide
  have hrun : (apply enterpriseReader optedIn straddling).2 = none := by decide +kernel
  have hopted : optedIn.supportsDirectives = true := rfl
  have hexact := apply_exact enterpriseReader hopted hnodup hleaf
  exact ⟨hrun, by decide +kernel, (hexact.2.2 _ (Prod.ext rfl hrun)).1⟩

end Document

end Exclusion
end Docloom
