import Docloom.Proofs.Directive.Exclusion

/-!
# The nodes that a removal deletes

A removal deletes its two markers and what stands between them.  A node that holds the last
marker stands between them as well if it comes after the first one; it is deleted only when
nothing is left in it behind that marker.  The first marker and what comes before it, the nodes
that hold it among them, have no part in what is deleted.
-/

namespace Docloom

open Node

namespace DirectiveBlock

/-- The nodes of a document that the removal of a block deletes. -/
inductive Deletes (block : DirectiveBlock) (root node : Node) : Prop where
  | start (hid : node.id = block.start)
  | stop (hid : node.id = block.stop)
  | between (hbegun : Precedes root.ids block.start node.id)
      (hopen : Precedes root.ids node.id block.stop) (hapart : block.stop ∉ idsOf node.children)
  | emptied (hbegun : Precedes root.ids block.start node.id)
      (hholds : block.stop ∈ idsOf node.children)
      (hnothing : forall id, id ∈ node.ids -> ¬ Precedes root.ids block.stop id)

section Range

variable {block : DirectiveBlock} {root node : Node}

theorem ids_of_leaf (h : node.children = []) : node.ids = [node.id] := by
  rw [ids_eq, h, idsOf_nil]

/-- What is deleted is the range of the block, without the nodes that go on behind it. -/
theorem deletes_iff (hnodup : root.ids.Nodup)
    (hleaf : forall node, node ∈ root.nodes -> node.id = block.start ∨ node.id = block.stop ->
      node.children = [])
    (hprecedes : Precedes root.ids block.start block.stop) (hnode : node ∈ root.nodes) :
    block.Deletes root node ↔
      block.Covers root.ids node.id ∧
        forall id, id ∈ node.ids -> ¬ Precedes root.ids block.stop id := by
  constructor
  · intro h
    cases h with
    | start hid =>
        refine ⟨⟨Or.inl hid, Or.inr (hid ▸ hprecedes)⟩, ?_⟩
        rw [ids_of_leaf (hleaf node hnode (Or.inl hid)), hid]
        intro id hmem
        rw [List.mem_singleton.mp hmem]
        exact hprecedes.asymm hnodup
    | stop hid =>
        refine ⟨⟨Or.inr (hid ▸ hprecedes), Or.inl hid⟩, ?_⟩
        rw [ids_of_leaf (hleaf node hnode (Or.inr hid)), hid]
        intro id hmem hbehind
        exact hbehind.ne hnodup (List.mem_singleton.mp hmem).symm
    | between hbegun hopen hapart =>
        refine ⟨⟨Or.inr hbegun, Or.inr hopen⟩, ?_⟩
        intro id hid hbehind
        rw [← idsOf_singleton] at hnodup hopen hbehind
        exact hapart (mem_ids_between hnodup (by simpa using hnode) hid hopen hbehind)
    | emptied hbegun hholds hnothing =>
        have hopen : Precedes (idsOf [root]) node.id block.stop :=
          precedes_of_mem_children (by simpa using hnode) hholds
        rw [idsOf_singleton] at hopen
        exact ⟨⟨Or.inr hbegun, Or.inr hopen⟩, hnothing⟩
  · rintro ⟨⟨hstart | hbegun, hstop⟩, hnothing⟩
    · exact .start hstart
    · rcases hstop with hstop | hopen
      · exact .stop hstop
      · by_cases hholds : block.stop ∈ idsOf node.children
        · exact .emptied hbegun hholds hnothing
        · exact .between hbegun hopen hholds

theorem remove_of_detached (h : ¬ (block.start ∈ root.ids ∧ block.stop ∈ root.ids)) :
    block.remove root =
      .error (.detachedBlock block.content block.startLine block.endLine) := by
  rw [remove, if_neg]
  simpa [isAttached, contains] using h

end Range

/-- The removal of a block whose markers are leaves of a tree with distinct ids, the first one
before the last one, succeeds and deletes what it should; the other nodes stay as they are,
with those of their children that are not deleted.  When a marker is not in the tree, the
removal fails and the tree is left as it is. -/
theorem remove_exact (block : DirectiveBlock) (root : Node) :
    (root.ids.Nodup ->
      (forall node, node ∈ root.nodes -> node.id = block.start ∨ node.id = block.stop ->
        node.children = []) ->
      Precedes root.ids block.start block.stop ->
      exists left, block.remove root = .ok left ∧
        left = root.restrict (fun id => left.ids.contains id) ∧
        forall node, node ∈ root.nodes ->
          (node.id ∈ left.ids ↔ ¬ block.Deletes root node) ∧
          (node.id ∈ left.ids -> node.restrict (fun id => left.ids.contains id) ∈ left.nodes)) ∧
    (¬ (block.start ∈ root.ids ∧ block.stop ∈ root.ids) ->
      block.remove root =
        .error (.detachedBlock block.content block.startLine block.endLine) ∧
      forall audience later, Exclusion.verdict audience block = .ok false ->
        Exclusion.removeBlocks audience (block :: later) root =
          (root, some (.detachedBlock block.content block.startLine block.endLine))) := by
  constructor
  · intro hnodup hleaf hprecedes
    rcases remove_spec hnodup hleaf hprecedes with ⟨left, hremove, hpruned, hroot, hspec⟩
    have hkept : forall node, node ∈ root.nodes -> node.id ∈ left.ids ->
        node.restrict (fun id => left.ids.contains id) ∈ left.nodes := by
      intro node hnode hid
      have hmem := hpruned.restrict_mem (by simpa using hnodup) (by simpa using hnode)
        (by simpa using hid)
      simpa using hmem
    refine ⟨left, hremove, hpruned.eq_restrict hnodup hroot, ?_⟩
    intro node hnode
    refine ⟨?_, hkept node hnode⟩
    rw [hspec node hnode, deletes_iff hnodup hleaf hprecedes hnode]
  · intro hdetached
    refine ⟨remove_of_detached hdetached, ?_⟩
    intro audience later hverdict
    exact Exclusion.removeBlocks_of_undone hverdict (remove_of_detached hdetached)

/-- The block ends in an item that goes on behind it, so the list and the item stay.  A block
that is said to end at a node of another document is not removed. -/
theorem remove_exact_straddling :
    (exists left, DirectiveBlock.remove ⟨1, 5, "TFC:only", 1, 5⟩ Exclusion.straddling = .ok left ∧
      left.ids = [0, 2, 3, 6, 7, 8, 9] ∧
      left = Exclusion.straddling.restrict (fun id => left.ids.contains id)) ∧
    Exclusion.removeBlocks Exclusion.enterpriseReader [⟨1, 10, "TFC:only", 1, 5⟩]
        Exclusion.straddling =
      (Exclusion.straddling, some (.detachedBlock "TFC:only" 1 5)) := by
  constructor
  · have hprecedes : Precedes Exclusion.straddling.ids 1 5 := by
      unfold Precedes
      decide
    rcases (remove_exact ⟨1, 5, "TFC:only", 1, 5⟩ Exclusion.straddling).1 (by decide) (by decide)
      hprecedes with ⟨left, hremove, hrestrict, _⟩
    have hids : (DirectiveBlock.remove ⟨1, 5, "TFC:only", 1, 5⟩ Exclusion.straddling).toOption.map
        Node.ids = some [0, 2, 3, 6, 7, 8, 9] := by
      decide
    rw [hremove] at hids
    exact ⟨left, hremove, Option.some.inj hids, hrestrict⟩
  · have hverdict : Exclusion.verdict Exclusion.enterpriseReader ⟨1, 10, "TFC:only", 1, 5⟩ =
        .ok false := by
      decide +kernel
    exact ((remove_exact ⟨1, 10, "TFC:only", 1, 5⟩ Exclusion.straddling).2 (by decide)).2
      Exclusion.enterpriseReader [] hverdict

end DirectiveBlock
end Docloom
