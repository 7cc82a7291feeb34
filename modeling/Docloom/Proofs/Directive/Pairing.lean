import Docloom.Directive.Block
import Docloom.Proofs.Node.Order

/-!
# The markers of blocks

When the markers of a document pair up, they are the ends of its blocks, in the order
of the document: blocks do not nest, and no marker is left over.
-/

namespace Docloom

/-- Kinds whose nodes hold a text that nothing is built from. -/
def NodeKind.isLiteral : NodeKind -> Bool
  | .comment => true
  | .code .. => true
  | _ => false

namespace DirectiveBlock

/-- The ids of the two markers. -/
def ends (block : DirectiveBlock) : List Nat := [block.start, block.stop]

/-- The block of two markers. -/
def ofMarkers (begun ended : MarkerNode) : DirectiveBlock :=
  ⟨begun.id, ended.id, begun.marker.content, begun.line, ended.line⟩

section Steps

variable {begun current : MarkerNode} {rest markers : List MarkerNode}
  {blocks : List DirectiveBlock}

/-- Outside a block only a marker that begins one can come next. -/
theorem pair_none_cons_ok_iff :
    pair none (current :: rest) = .ok blocks ↔
      current.marker.kind = .begins ∧ ¬ current.marker.content.isEmpty = true ∧
        pair (some current) rest = .ok blocks := by
  cases hkind : current.marker.kind with
  | begins =>
      cases hempty : current.marker.content.isEmpty <;> simp [pair, hkind, hempty]
  | ends =>
      simp [pair, hkind]

/-- Inside a block only the marker that ends it can come next. -/
theorem pair_some_cons_ok_iff :
    pair (some begun) (current :: rest) = .ok blocks ↔
      current.marker.kind = .ends ∧ ¬ current.marker.content.isEmpty = true ∧
        current.marker.content = begun.marker.content ∧
        exists others, pair none rest = .ok others ∧ blocks = ofMarkers begun current :: others := by
  cases hkind : current.marker.kind with
  | begins =>
      simp [pair, hkind]
  | ends =>
      cases hempty : current.marker.content.isEmpty with
      | true =>
          simp [pair, hkind, hempty]
      | false =>
          by_cases hsame : current.marker.content = begun.marker.content
          · rw [hsame] at hempty
            cases hrest : pair none rest <;>
              simp [pair, hkind, hempty, hsame, hrest, ofMarkers, eq_comm]
          · simp [pair, hkind, hempty, hsame]

theorem pair_ends {open_ : Option MarkerNode} (h : pair open_ markers = .ok blocks) :
    blocks.flatMap ends = (open_.toList ++ markers).map MarkerNode.id := by
  induction markers generalizing open_ blocks with
  | nil =>
      cases open_ with
      | none =>
          cases h
          rfl
      | some begun =>
          cases h
  | cons current rest ih =>
      cases open_ with
      | none =>
          rcases pair_none_cons_ok_iff.mp h with ⟨_, _, hrest⟩
          exact ih hrest
      | some begun =>
          rcases pair_some_cons_ok_iff.mp h with ⟨_, _, _, others, hrest, rfl⟩
          rw [List.flatMap_cons, ih hrest]
          rfl

/-- When the markers of a block are left out together or not at all, those that are not left
out pair up to the blocks that they belong to. -/
theorem pair_filter (keep : Nat -> Bool) {open_ : Option MarkerNode}
    (h : pair open_ markers = .ok blocks)
    (htogether : forall block, block ∈ blocks -> keep block.start = keep block.stop) :
    pair (open_.filter fun begun => keep begun.id) (markers.filter fun marker => keep marker.id) =
      .ok (blocks.filter fun block => keep block.start) := by
  induction markers generalizing open_ blocks with
  | nil =>
      cases open_ with
      | none =>
          cases h
          rfl
      | some begun =>
          cases h
  | cons current rest ih =>
      cases open_ with
      | none =>
          rcases pair_none_cons_ok_iff.mp h with ⟨hkind, hcontent, hrest⟩
          have hleft := ih hrest htogether
          cases hkeep : keep current.id with
          | true =>
              rw [Option.filter_some, if_pos hkeep] at hleft
              rw [Option.filter_none, List.filter_cons, if_pos hkeep]
              exact pair_none_cons_ok_iff.mpr ⟨hkind, hcontent, hleft⟩
          | false =>
              rw [Option.filter_some, if_neg (by simp [hkeep])] at hleft
              rw [Option.filter_none, List.filter_cons, if_neg (by simp [hkeep])]
              exact hleft
      | some begun =>
          rcases pair_some_cons_ok_iff.mp h with ⟨hkind, hcontent, hsame, others, hrest, rfl⟩
          have hleft := ih hrest fun block hblock =>
            htogether block (List.mem_cons_of_mem _ hblock)
          have hends : keep begun.id = keep current.id := htogether _ List.mem_cons_self
          rw [Option.filter_none] at hleft
          have hstart : keep (ofMarkers begun current).start = keep current.id := hends
          rw [Option.filter_some, List.filter_cons, List.filter_cons, hends, hstart]
          cases hkeep : keep current.id with
          | true =>
              exact pair_some_cons_ok_iff.mpr ⟨hkind, hcontent, hsame, _, hleft, rfl⟩
          | false =>
              exact hleft

end Steps

theorem pair_ne_detached {open_ : Option MarkerNode} {markers : List MarkerNode}
    {content : String} {first last : Nat} :
    pair open_ markers ≠ .error (.detachedBlock content first last) := by
  intro h
  induction markers generalizing open_ with
  | nil =>
      cases open_ <;> simp [pair] at h
  | cons current rest ih =>
      unfold pair at h
      cases hkind : current.marker.kind with
      | begins =>
          cases open_ with
          | some begun =>
              simp [hkind] at h
          | none =>
              simp only [hkind] at h
              split at h
              · cases h
              · exact ih h
      | ends =>
          cases open_ with
          | none =>
              simp [hkind] at h
          | some begun =>
              simp only [hkind] at h
              split at h
              · cases h
              · split at h
                · cases h
                · cases hrest : pair none rest with
                  | error error =>
                      simp only [hrest, Except.error.injEq] at h
                      rw [h] at hrest
                      exact ih hrest
                  | ok others =>
                      simp [hrest] at h

end DirectiveBlock

namespace Node

theorem marker?_eq (node : Node) :
    node.marker? =
      node.position.bind fun position => node.value.bind fun value =>
        if node.kind.isLiteral then
          (Marker.parse? value).map fun marker => ⟨node.id, marker, position.endLine⟩
        else
          none := by
  unfold marker?
  cases node.position with
  | none =>
      rfl
  | some position =>
      cases node.value with
      | none =>
          rfl
      | some value =>
          cases node.kind <;> rfl

/-- A node carries a marker if it is a literal node with a position whose text spells one.  The
line of the marker is the one in which the node ends. -/
theorem marker?_eq_some_iff {node : Node} {found : MarkerNode} :
    node.marker? = some found ↔
      node.kind.isLiteral = true ∧ exists position value marker, node.position = some position ∧
        node.value = some value ∧ Marker.parse? value = some marker ∧
        found = ⟨node.id, marker, position.endLine⟩ := by
  rw [marker?_eq]
  constructor
  · intro h
    rcases Option.bind_eq_some_iff.mp h with ⟨position, hposition, h⟩
    rcases Option.bind_eq_some_iff.mp h with ⟨value, hvalue, h⟩
    split at h
    · rename_i hliteral
      rcases Option.map_eq_some_iff.mp h with ⟨marker, hmarker, hfound⟩
      exact ⟨hliteral, position, value, marker, hposition, hvalue, hmarker, hfound.symm⟩
    · cases h
  · rintro ⟨hliteral, position, value, marker, hposition, hvalue, hmarker, rfl⟩
    rw [hposition, hvalue, Option.bind_some, Option.bind_some, if_pos hliteral, hmarker]
    rfl

theorem marker?_eq_some {node : Node} {found : MarkerNode} (h : node.marker? = some found) :
    found.id = node.id ∧ node.kind.isLiteral = true := by
  rcases marker?_eq_some_iff.mp h with ⟨hliteral, position, value, marker, _, _, _, rfl⟩
  exact ⟨rfl, hliteral⟩

theorem markers_sublist (root : Node) : (root.markers.map MarkerNode.id).Sublist root.ids := by
  unfold markers ids
  induction root.nodes with
  | nil =>
      simp
  | cons node rest ih =>
      cases hmarker : node.marker? with
      | none =>
          rw [List.filterMap_cons_none hmarker, List.map_cons]
          exact List.Sublist.cons _ ih
      | some found =>
          rw [List.filterMap_cons_some hmarker, List.map_cons, List.map_cons,
            (marker?_eq_some hmarker).1]
          exact List.Sublist.cons_cons _ ih

/-- The ends of the blocks stand in the document in the order of the blocks. -/
theorem ends_sublist {root : Node} {blocks : List DirectiveBlock}
    (h : root.directiveBlocks = .ok blocks) :
    (blocks.flatMap DirectiveBlock.ends).Sublist root.ids := by
  rw [DirectiveBlock.pair_ends h]
  simpa using root.markers_sublist

/-- The ends of the blocks are literal nodes of the document. -/
theorem isLiteral_of_mem_ends {root : Node} (hnodup : root.ids.Nodup)
    {blocks : List DirectiveBlock} (h : root.directiveBlocks = .ok blocks)
    {node : Node} (hnode : node ∈ root.nodes)
    (hid : node.id ∈ blocks.flatMap DirectiveBlock.ends) :
    node.kind.isLiteral = true := by
  rw [DirectiveBlock.pair_ends h] at hid
  simp only [Option.toList_none, List.nil_append, List.mem_map, markers,
    List.mem_filterMap] at hid
  rcases hid with ⟨found, ⟨origin, horigin, hmarker⟩, hfound⟩
  have hspec := marker?_eq_some hmarker
  have hsame : node = origin :=
    List.inj_on_of_nodup_map hnodup hnode horigin (hfound.symm.trans hspec.1)
  rw [hsame]
  exact hspec.2

end Node
end Docloom
