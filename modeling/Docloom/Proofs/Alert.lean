import Docloom.Proofs.Site.Identity

/-!
# Trees with alerts

A paragraph is an alert if it is below no other paragraph and its first text begins with a sigil
and a blank.  Wrapping puts a piece of markup directly before and one directly after each alert,
with ids that no node of the tree has, and takes the sigil off the text.  Nothing else changes:
without the markup the tree is what it was, but for the sigils.
-/

namespace Docloom

namespace Node

/-!
# Nodes and what is above them
-/

mutual
/-- The nodes of a tree in document order, each with the kinds of the nodes above it. -/
def places (above : List NodeKind) (node : Node) : List (List NodeKind × Node) :=
  match node with
  | ⟨id, kind, value, children, position⟩ =>
      (above, ⟨id, kind, value, children, position⟩) :: placesOf (kind :: above) children

def placesOf (above : List NodeKind) : List Node -> List (List NodeKind × Node)
  | [] => []
  | node :: nodes => places above node ++ placesOf above nodes
end

theorem places_eq (above : List NodeKind) (node : Node) :
    places above node = (above, node) :: placesOf (node.kind :: above) node.children := by
  cases node
  rfl

theorem placesOf_cons (above : List NodeKind) (node : Node) (rest : List Node) :
    placesOf above (node :: rest) =
      (above, node) :: (placesOf (node.kind :: above) node.children ++ placesOf above rest) := by
  rw [placesOf, places_eq]
  rfl

end Node

namespace Alert

variable {start next : Nat} {above : List NodeKind} {node root : Node}
  {nodes rest others children : List Node} {alert : AlertKind}

/-!
# Which paragraphs are alerts
-/

/-- The alert whose sigil and a blank begin the first child, if that is text. -/
def alert? : List Node -> Option AlertKind
  | ⟨_, .text _, some value, _, _⟩ :: _ =>
      AlertKind.all.find? fun alert => Text.startsWith alert.marker value
  | _ => none

/-- Whether a node with these kinds above it is a paragraph below no paragraph that begins with
the sigil of an alert. -/
def isAlert (place : List NodeKind × Node) : Bool :=
  decide (place.2.kind = .paragraph ∧ .paragraph ∉ place.1) && (alert? place.2.children).isSome

/-- Children without the first three characters of the first text. The source of the text loses
them as well if it begins with them, and is given up if it does not. -/
def withoutSigil : List Node -> List Node
  | ⟨id, .text source, some value, inside, position⟩ :: rest =>
      let sigil := String.ofList (value.toList.take 3)
      ⟨id, .text (source.bind (Text.afterStart? sigil)), some (String.ofList (value.toList.drop 3)),
        inside, position⟩ :: rest
  | children => children

theorem length_marker (alert : AlertKind) : alert.marker.toList.length = 3 := by
  cases alert <;> decide

/-- A text that begins with a marker is the marker and the text without its first three
characters. -/
theorem afterStart?_marker (alert : AlertKind) (value : String) :
    Text.afterStart? alert.marker value =
      if Text.startsWith alert.marker value then
        some (String.ofList (value.toList.drop 3))
      else
        none := by
  rw [Text.afterStart?, Text.startsWith, length_marker]

theorem take_of_startsWith {value : String} (h : Text.startsWith alert.marker value = true) :
    String.ofList (value.toList.take 3) = alert.marker := by
  rcases List.isPrefixOf_iff_prefix.mp h with ⟨after, hafter⟩
  rw [← hafter, List.take_append_of_le_length (Nat.le_of_eq (length_marker alert).symm), ← length_marker alert,
    List.take_length, String.ofList_toList]

theorem ofText?_eq (value : String) :
    AlertKind.ofText? value =
      (AlertKind.all.find? fun alert => Text.startsWith alert.marker value).map fun alert =>
        (alert, String.ofList (value.toList.drop 3)) := by
  rw [AlertKind.ofText?]
  induction AlertKind.all with
  | nil =>
      rfl
  | cons alert alerts ih =>
      rw [List.findSome?_cons, List.find?_cons, afterStart?_marker]
      cases Text.startsWith alert.marker value with
      | true =>
          rfl
      | false =>
          exact ih

/-- A paragraph that is an alert loses its sigil. -/
theorem take?_eq (children : List Node) :
    take? children = (alert? children).map fun alert => (alert, withoutSigil children) := by
  unfold take?
  split
  · rename_i id source value inside position rest
    rw [ofText?_eq, alert?]
    cases hfind : AlertKind.all.find? fun alert => Text.startsWith alert.marker value with
    | none =>
        rfl
    | some alert =>
        have hstart := List.find?_some hfind
        simp only [Option.map_some, withoutSigil, take_of_startsWith hstart]
  · rename_i hother
    rw [alert?]
    · rfl
    · exact hother

/-!
# Trees without sigils
-/

mutual
/-- The tree whose alerts have no sigils, where `above` are the kinds of the nodes above it. -/
def shortened (above : List NodeKind) (node : Node) : Node :=
  match node with
  | ⟨id, kind, value, children, position⟩ =>
      if isAlert (above, ⟨id, kind, value, children, position⟩) then
        ⟨id, kind, value, withoutSigil children, position⟩
      else
        ⟨id, kind, value, shortenedAll (kind :: above) children, position⟩

def shortenedAll (above : List NodeKind) : List Node -> List Node
  | [] => []
  | node :: nodes => shortened above node :: shortenedAll above nodes
end

/-- Siblings, and what is made of them: each alert has lost its sigil and stands between two nodes
of its own, which have no ids below `start`; all else is in its place, and so below each node that
is no alert. -/
inductive Wrapped (start : Nat) : List NodeKind -> List Node -> List Node -> Prop where
  | nil {above : List NodeKind} : Wrapped start above [] []
  | alert {above : List NodeKind} {node : Node} {rest others : List Node} {alert : AlertKind}
      {opening closing : Nat} (halert : isAlert (above, node) = true)
      (hkind : alert? node.children = some alert) (hopening : start ≤ opening)
      (hclosing : start ≤ closing) (hrest : Wrapped start above rest others) :
      Wrapped start above (node :: rest)
        (.fresh opening .html alert.openingTag ::
          { node with children := withoutSigil node.children } ::
          .fresh closing .html AlertKind.closingTag :: others)
  | other {above : List NodeKind} {node : Node} {children rest others : List Node}
      (hother : isAlert (above, node) = false)
      (hinside : Wrapped start (node.kind :: above) node.children children)
      (hrest : Wrapped start above rest others) :
      Wrapped start above (node :: rest) ({ node with children } :: others)

/-- Below a paragraph nothing is an alert. -/
theorem isAlert_of_mem (h : .paragraph ∈ above) (node : Node) : isAlert (above, node) = false := by
  simp [isAlert, h]

theorem isAlert_of_kind_ne (h : node.kind ≠ .paragraph) : isAlert (above, node) = false := by
  simp [isAlert, h]

theorem isAlert_of_kind_eq (habove : .paragraph ∉ above) (hkind : node.kind = .paragraph) :
    isAlert (above, node) = (alert? node.children).isSome := by
  simp [isAlert, habove, hkind]

/-- A node that is no alert and has nothing to be wrapped below it stays as it is. -/
theorem Wrapped.keep (hother : isAlert (above, node) = false)
    (hinside : Wrapped start (node.kind :: above) node.children node.children)
    (hrest : Wrapped start above rest others) :
    Wrapped start above (node :: rest) (node :: others) := by
  cases node
  exact .other hother hinside hrest

theorem wrapped_of_mem (h : .paragraph ∈ above) (nodes : List Node) :
    Wrapped start above nodes nodes := by
  induction nodes using Node.forest_induction generalizing above with
  | nil =>
      exact .nil
  | cons node rest ihChildren ihRest =>
      exact .keep (isAlert_of_mem h node) (ihChildren (List.mem_cons_of_mem _ h)) (ihRest h)

theorem countP_of_mem (h : .paragraph ∈ above) (nodes : List Node) :
    (Node.placesOf above nodes).countP isAlert = 0 := by
  induction nodes using Node.forest_induction generalizing above with
  | nil =>
      rfl
  | cons node rest ihChildren ihRest =>
      rw [Node.placesOf_cons, List.countP_cons, List.countP_append,
        ihChildren (List.mem_cons_of_mem _ h), ihRest h, isAlert_of_mem h]
      rfl

/-!
# What wrapping does to siblings
-/

/-- The three ways in which wrapping deals with a node. -/
theorem wrapNode_cases (habove : .paragraph ∉ above) (next : Nat) (node : Node) :
    (exists alert, isAlert (above, node) = true ∧ alert? node.children = some alert ∧
      node.kind = .paragraph ∧
      wrapNode next node =
        { nodes :=
            [.fresh next .html alert.openingTag,
              { node with children := withoutSigil node.children },
              .fresh (next + 1) .html AlertKind.closingTag]
          next := next + 2
          count := 1 }) ∨
      (isAlert (above, node) = false ∧ node.kind = .paragraph ∧
        wrapNode next node = { nodes := [node], next, count := 0 }) ∨
      (isAlert (above, node) = false ∧ node.kind ≠ .paragraph ∧
        wrapNode next node =
          { wrapNodes next node.children with
            nodes := [{ node with children := (wrapNodes next node.children).nodes }] }) := by
  by_cases hkind : node.kind = .paragraph
  · rw [isAlert_of_kind_eq habove hkind]
    have htake := take?_eq node.children
    cases halert : alert? node.children with
    | some alert =>
        rw [halert, Option.map_some] at htake
        exact Or.inl ⟨alert, rfl, rfl, hkind, wrapNode_of_alert next hkind htake⟩
    | none =>
        rw [halert, Option.map_none] at htake
        exact Or.inr (Or.inl ⟨rfl, hkind, wrapNode_of_plain next hkind htake⟩)
  · exact Or.inr (Or.inr ⟨isAlert_of_kind_ne hkind, hkind, wrapNode_of_kind_ne next hkind⟩)

theorem not_mem_cons (habove : NodeKind.paragraph ∉ above) (hkind : node.kind ≠ .paragraph) :
    NodeKind.paragraph ∉ node.kind :: above := by
  intro h
  rcases List.mem_cons.mp h with heq | hmem
  · exact hkind heq.symm
  · exact habove hmem

/-- Each alert takes two ids. -/
theorem next_wrapNodes (next : Nat) (nodes : List Node) :
    (wrapNodes next nodes).next = next + 2 * (wrapNodes next nodes).count := by
  induction nodes using Node.forest_induction generalizing next with
  | nil =>
      rfl
  | cons node rest ihChildren ihRest =>
      rw [wrapNodes_cons]
      have habove : NodeKind.paragraph ∉ ([] : List NodeKind) := List.not_mem_nil
      rcases wrapNode_cases habove next node with
        ⟨alert, _, _, _, hnode⟩ | ⟨_, _, hnode⟩ | ⟨_, _, hnode⟩
      · rw [hnode]
        dsimp only
        rw [ihRest]
        omega
      · rw [hnode]
        dsimp only
        rw [ihRest]
        omega
      · rw [hnode]
        dsimp only
        rw [ihRest, ihChildren]
        omega

theorem wrapped_wrapNodes (habove : .paragraph ∉ above) (hnext : start ≤ next)
    (nodes : List Node) : Wrapped start above nodes (wrapNodes next nodes).nodes := by
  induction nodes using Node.forest_induction generalizing above next with
  | nil =>
      exact .nil
  | cons node rest ihChildren ihRest =>
      rw [wrapNodes_cons]
      rcases wrapNode_cases habove next node with
        ⟨alert, halert, hkind, _, hnode⟩ | ⟨hother, hkind, hnode⟩ | ⟨hother, hkind, hnode⟩
      · rw [hnode]
        exact .alert halert hkind hnext (by omega) (ihRest habove (by dsimp only; omega))
      · have hmem : .paragraph ∈ node.kind :: above := by
          rw [hkind]
          exact List.mem_cons_self
        rw [hnode]
        exact .keep hother (wrapped_of_mem hmem node.children) (ihRest habove hnext)
      · have hle := next_wrapNodes next node.children
        rw [hnode]
        exact .other hother (ihChildren (not_mem_cons habove hkind) hnext)
          (ihRest habove (by dsimp only; omega))

theorem count_wrapNodes (habove : .paragraph ∉ above) (next : Nat) (nodes : List Node) :
    (wrapNodes next nodes).count = (Node.placesOf above nodes).countP isAlert := by
  induction nodes using Node.forest_induction generalizing above next with
  | nil =>
      rfl
  | cons node rest ihChildren ihRest =>
      have hbelow (hkind : node.kind = .paragraph) :
          (Node.placesOf (node.kind :: above) node.children).countP isAlert = 0 := by
        apply countP_of_mem
        rw [hkind]
        exact List.mem_cons_self
      rw [wrapNodes_cons, Node.placesOf_cons, List.countP_cons, List.countP_append]
      rcases wrapNode_cases habove next node with
        ⟨alert, halert, _, hkind, hnode⟩ | ⟨hother, hkind, hnode⟩ | ⟨hother, hkind, hnode⟩
      · rw [hnode, halert, hbelow hkind]
        dsimp only
        rw [ihRest habove]
        simp [Nat.add_comm]
      · rw [hnode, hother, hbelow hkind]
        dsimp only
        rw [ihRest habove]
        simp
      · rw [hnode, hother]
        dsimp only
        rw [ihRest habove, ihChildren (not_mem_cons habove hkind)]
        simp

/-!
# What was added
-/

/-- The ids from `start` on, in document order. -/
def addedIds (start : Nat) (nodes : List Node) : List Nat :=
  (Node.idsOf nodes).filter fun id => start ≤ id

theorem addedIds_cons (start : Nat) (node : Node) (rest : List Node) :
    addedIds start (node :: rest) =
      (if start ≤ node.id then [node.id] else []) ++
        (addedIds start node.children ++ addedIds start rest) := by
  rw [addedIds, Node.idsOf_cons, List.filter_cons, List.filter_append]
  split <;> simp_all [addedIds]

theorem addedIds_fresh {id : Nat} (h : start ≤ id) (kind : NodeKind) (value : String)
    (rest : List Node) :
    addedIds start (.fresh id kind value :: rest) = id :: addedIds start rest := by
  have hid : start ≤ (Node.fresh id kind value).id := h
  rw [addedIds_cons, if_pos hid]
  rfl

theorem addedIds_of_lt (h : forall id, id ∈ Node.idsOf nodes -> id < start) :
    addedIds start nodes = [] := by
  rw [addedIds, List.filter_eq_nil_iff]
  intro id hid
  have := h id hid
  simp only [decide_eq_true_eq]
  omega

/-- Taking the sigil off changes no id. -/
theorem idsOf_withoutSigil (children : List Node) :
    Node.idsOf (withoutSigil children) = Node.idsOf children := by
  unfold withoutSigil
  split
  · simp [Node.idsOf_cons]
  · rfl

/-- The ids that were added are the next ones, in document order. -/
theorem addedIds_wrapNodes (hnext : start ≤ next)
    (hids : forall id, id ∈ Node.idsOf nodes -> id < start) :
    addedIds start (wrapNodes next nodes).nodes =
      List.range' next (2 * (wrapNodes next nodes).count) := by
  induction nodes using Node.forest_induction generalizing next with
  | nil =>
      rfl
  | cons node rest ihChildren ihRest =>
      rw [Node.idsOf_cons] at hids
      have hnode : ¬ start ≤ node.id := by
        have := hids node.id List.mem_cons_self
        omega
      have hbelow : forall id, id ∈ Node.idsOf node.children -> id < start :=
        fun id hid => hids id (by simp [hid])
      have hafter : forall id, id ∈ Node.idsOf rest -> id < start :=
        fun id hid => hids id (by simp [hid])
      rw [wrapNodes_cons]
      have habove : NodeKind.paragraph ∉ ([] : List NodeKind) := List.not_mem_nil
      rcases wrapNode_cases habove next node with
        ⟨alert, _, _, _, hwrap⟩ | ⟨_, _, hwrap⟩ | ⟨_, _, hwrap⟩
      · have hleft : addedIds start (withoutSigil node.children) = [] := by
          rw [addedIds, idsOf_withoutSigil]
          exact addedIds_of_lt hbelow
        have hcount : 2 * (1 + (wrapNodes (next + 2) rest).count) =
            2 * (wrapNodes (next + 2) rest).count + 1 + 1 := by
          omega
        rw [hwrap]
        dsimp only
        rw [List.cons_append, List.cons_append, List.cons_append, List.nil_append,
          addedIds_fresh hnext, addedIds_cons, addedIds_fresh (by omega), ihRest (by omega) hafter,
          hleft, if_neg hnode, hcount, List.range'_succ, List.range'_succ]
        rfl
      · rw [hwrap]
        dsimp only
        rw [List.cons_append, List.nil_append, addedIds_cons, addedIds_of_lt hbelow,
          ihRest hnext hafter, if_neg hnode, Nat.zero_add]
        rfl
      · have hend := next_wrapNodes next node.children
        rw [hwrap]
        dsimp only
        rw [List.cons_append, List.nil_append, addedIds_cons, ihChildren hnext hbelow,
          ihRest (by omega) hafter, if_neg hnode, hend, List.nil_append, List.range'_append_1,
          Nat.mul_add]

theorem restrictAll_withoutSigil {keep : Nat -> Bool}
    (h : forall id, id ∈ Node.idsOf children -> keep id = true) :
    Node.restrictAll keep (withoutSigil children) = withoutSigil children := by
  apply Node.restrictAll_of_forall
  rw [idsOf_withoutSigil]
  exact h

theorem shortened_of_isAlert (h : isAlert (above, node) = true) :
    shortened above node = { node with children := withoutSigil node.children } := by
  cases node
  rw [shortened, if_pos h]

theorem shortened_of_not (h : isAlert (above, node) = false) :
    shortened above node =
      { node with children := shortenedAll (node.kind :: above) node.children } := by
  cases node
  rw [shortened, h]
  rfl

/-- Without the nodes that were added, siblings are what they were, but for the sigils. -/
theorem Wrapped.restrictAll_eq (h : Wrapped start above nodes others)
    (hids : forall id, id ∈ Node.idsOf nodes -> id < start) :
    Node.restrictAll (fun id => decide (id < start)) others = shortenedAll above nodes := by
  induction h with
  | nil =>
      rfl
  | alert halert hkind hopening hclosing hrest ih =>
      rename_i above node rest others alert opening closing
      rw [Node.idsOf_cons] at hids
      have hnode : node.id < start := hids node.id List.mem_cons_self
      have hbelow : Node.restrictAll (fun id => decide (id < start))
          (withoutSigil node.children) = withoutSigil node.children :=
        restrictAll_withoutSigil fun id hid => decide_eq_true (hids id (by simp [hid]))
      rw [Node.restrictAll, Node.restrictAll, Node.restrictAll, shortenedAll,
        shortened_of_isAlert halert, ih fun id hid => hids id (by simp [hid])]
      simp only [Node.fresh, Nat.not_lt.mpr hopening, Nat.not_lt.mpr hclosing, hnode,
        Node.restrict_eq, hbelow, decide_true, decide_false]
      rfl
  | other hother hinside hrest ihInside ihRest =>
      rename_i above node children rest others
      rw [Node.idsOf_cons] at hids
      have hnode : node.id < start := hids node.id List.mem_cons_self
      rw [Node.restrictAll, if_pos (decide_eq_true hnode), Node.restrict_eq, shortenedAll,
        shortened_of_not hother, ihInside fun id hid => hids id (by simp [hid]),
        ihRest fun id hid => hids id (by simp [hid])]

/-!
# What wrapping does to a tree
-/

/-- Wrapping counts the paragraphs that are alerts and puts markup with the next ids directly
before and after each of them.  Without this markup the tree is what it was, but for the
sigils. -/
theorem wrap_exact (hroot : root.kind = .root)
    (hids : forall id, id ∈ root.ids -> id < next) :
    (wrap next root).2.2 = (Node.places [] root).countP isAlert ∧
      (wrap next root).1.restrict (fun id => decide (id < next)) = shortened [] root ∧
      Wrapped next [] [root] [(wrap next root).1] ∧
      addedIds next [(wrap next root).1] = List.range' next (2 * (wrap next root).2.2) ∧
      (wrap next root).2.1 = next + 2 * (wrap next root).2.2 := by
  have hkind : root.kind ≠ .paragraph := by
    rw [hroot]
    decide
  have hother : isAlert ([], root) = false := isAlert_of_kind_ne hkind
  have habove : NodeKind.paragraph ∉ [root.kind] := not_mem_cons List.not_mem_nil hkind
  have hlt : ¬ next ≤ root.id := by
    have := hids root.id (by simp [Node.ids_eq])
    omega
  have hbelow : forall id, id ∈ Node.idsOf root.children -> id < next :=
    fun id hid => hids id (by simp [Node.ids_eq, hid])
  have hinside : Wrapped next [root.kind] root.children (wrapNodes next root.children).nodes :=
    wrapped_wrapNodes habove (Nat.le_refl next) root.children
  refine ⟨?_, ?_, .other hother hinside .nil, ?_, next_wrapNodes next root.children⟩
  · rw [Node.places_eq, List.countP_cons_of_neg (by rw [hother]; exact Bool.false_ne_true)]
    exact count_wrapNodes habove next root.children
  · rw [Node.restrict_eq, shortened_of_not hother]
    exact congrArg (fun children => { root with children }) (hinside.restrictAll_eq hbelow)
  · rw [addedIds_cons, if_neg]
    · have hadded := addedIds_wrapNodes (Nat.le_refl next) hbelow
      rw [List.nil_append]
      exact (List.append_nil _).trans hadded
    · exact hlt

/-- An alert, an alert in a quote, text that begins with a sigil behind other text, and a paragraph
in a paragraph. -/
def nestedAlerts : Node :=
  let text (id : Nat) (value : String) (source : Option String) : Node :=
    ⟨id, .text source, some value, [], none⟩
  let paragraph (id : Nat) (children : List Node) : Node := ⟨id, .paragraph, none, children, none⟩
  ⟨0, .root, none,
    [paragraph 1 [text 2 "=> a" (some "=> a")],
      ⟨3, .blockquote, none, [paragraph 4 [text 5 "~> b" (some "\\~> b")]], none⟩,
      paragraph 6 [text 7 "c" none, text 8 "-> d" none],
      paragraph 9 [paragraph 10 [text 11 "!> e" none]]],
    none⟩

theorem wrap_exact_nested :
    nestedAlerts.kind = .root ∧ (forall id, id ∈ nestedAlerts.ids -> id < 12) ∧
      (wrap 12 nestedAlerts).2.2 = 2 ∧
      addedIds 12 [(wrap 12 nestedAlerts).1] = [12, 13, 14, 15] ∧
      (wrap 12 nestedAlerts).1.restrict (fun id => decide (id < 12)) =
        shortened [] nestedAlerts := by
  have hids : forall id, id ∈ nestedAlerts.ids -> id < 12 := by
    decide
  have hcount : (wrap 12 nestedAlerts).2.2 = 2 := by
    decide
  have hroot : nestedAlerts.kind = .root := rfl
  rcases wrap_exact hroot hids with ⟨_, hshortened, _, hadded, _⟩
  rw [hcount] at hadded
  exact ⟨hroot, hids, hcount, hadded, hshortened⟩

end Alert
end Docloom
