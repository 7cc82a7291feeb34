import Docloom.Proofs.Markdown.Paragraph
import Docloom.Proofs.Node.Writing
import Docloom.Proofs.Site.Identity

/-!
# Paragraphs side by side

What stands between two paragraphs of a document depends on the node that holds them: an item that
was read without blank lines in it is written without them, whatever has come into it since.  None
of the stages puts a paragraph anywhere else than below quotes and items, so these are all the
nodes that can hold two paragraphs.
-/

namespace Docloom

namespace Node

variable {nodes left : List Node} {root node a b : Node} {before after : List Node}

/-!
# Nodes that hold paragraphs
-/

theorem mem_nodesOf_of_mem (h : node ∈ nodes) : node ∈ nodesOf nodes := by
  induction nodes with
  | nil =>
      cases h
  | cons first rest ih =>
      rcases List.mem_cons.mp h with rfl | hrest
      · exact mem_nodesOf_cons.mpr (Or.inl rfl)
      · exact mem_nodesOf_cons.mpr (Or.inr (Or.inr (ih hrest)))

theorem mem_nodesOf_trans {inner : Node} (h : node ∈ nodesOf nodes)
    (hinner : inner ∈ nodesOf node.children) : inner ∈ nodesOf nodes := by
  induction nodes using forest_induction with
  | nil =>
      cases h
  | cons first rest ihChildren ihRest =>
      apply mem_nodesOf_cons.mpr
      rcases mem_nodesOf_cons.mp h with rfl | hbelow | hafter
      · exact Or.inr (Or.inl hinner)
      · exact Or.inr (Or.inl (ihChildren hbelow))
      · exact Or.inr (Or.inr (ihRest hafter))

theorem holdsBlocks_of_houses (h : node.Houses) (hmem : a ∈ node.children)
    (ha : a.kind = .paragraph) : node.kind.holdsBlocks = true := by
  have hcontainer : node.kind.isContainer = true := by
    cases hkind : node.kind.isContainer with
    | true =>
        rfl
    | false =>
        exact absurd ha (h.isContainer hkind a (mem_nodesOf_of_mem hmem))
  cases hkind : node.kind with
  | list ordered start spread =>
      have hlist : node.kind.isList = true := by
        rw [hkind]
        rfl
      exact absurd ha (h.isList hlist a hmem)
  | blockquote | listItem | root =>
      rfl
  | _ =>
      rw [hkind] at hcontainer
      cases hcontainer

/-- A node that holds a paragraph is enclosed by the trees it is in. -/
theorem exists_encloses (h : Housed nodes) (hnode : node ∈ nodesOf nodes)
    (hmem : a ∈ node.children) (ha : a.kind = .paragraph) :
    exists top indent, top ∈ nodes ∧ Encloses top indent node := by
  induction nodes using forest_induction with
  | nil =>
      cases hnode
  | cons first rest ihChildren ihRest =>
      rcases housed_cons_iff.mp h with ⟨hfirst, hchildren, hrest⟩
      rcases mem_nodesOf_cons.mp hnode with rfl | hbelow | hafter
      · exact ⟨node, _, List.mem_cons_self, .self (holdsBlocks_of_houses hfirst hmem ha)⟩
      · rcases ihChildren hchildren hbelow with ⟨child, indent, hchild, hencloses⟩
        have hdeep : a ∈ nodesOf first.children :=
          mem_nodesOf_trans hbelow (mem_nodesOf_of_mem hmem)
        cases hkind : first.kind with
        | list ordered start spread =>
            rcases List.mem_iff_getElem?.mp hchild with ⟨index, hindex⟩
            exact ⟨first, _, List.mem_cons_self, .item hkind hindex hencloses⟩
        | blockquote | listItem | root =>
            exact ⟨first, _, List.mem_cons_self, .block (by rw [hkind]; rfl) hchild hencloses⟩
        | _ =>
            exact absurd ha (hfirst.isContainer (by rw [hkind]; rfl) a hdeep)
      · rcases ihRest hrest hafter with ⟨top, indent, htop, hencloses⟩
        exact ⟨top, indent, List.mem_cons_of_mem _ htop, hencloses⟩

/-!
# What is left of trees
-/

theorem kind_of_mem_pruned (h : Pruned nodes left) (hnode : node ∈ left) :
    exists origin, origin ∈ nodes ∧ origin.kind = node.kind := by
  induction h with
  | nil =>
      cases hnode
  | drop _ ih =>
      rcases ih hnode with ⟨origin, horigin, hkind⟩
      exact ⟨origin, List.mem_cons_of_mem _ horigin, hkind⟩
  | keep _ _ _ ihRest =>
      rcases List.mem_cons.mp hnode with rfl | hrest
      · exact ⟨_, List.mem_cons_self, rfl⟩
      · rcases ihRest hrest with ⟨origin, horigin, hkind⟩
        exact ⟨origin, List.mem_cons_of_mem _ horigin, hkind⟩

theorem Housed.pruned (h : Housed nodes) (hleft : Pruned nodes left) : Housed left := by
  intro node hnode
  rcases hleft.exists_origin hnode with ⟨origin, children, horigin, rfl, hbelow⟩
  have hhouses := h origin horigin
  constructor
  · intro hkind below hmem
    rcases hbelow.exists_origin hmem with ⟨source, inside, hsource, rfl, _⟩
    exact hhouses.isContainer hkind source hsource
  · intro hkind child hchild
    rcases kind_of_mem_pruned hbelow hchild with ⟨source, hsource, hsame⟩
    rw [← hsame]
    exact hhouses.isList hkind source hsource

end Node

/-!
# Expanded trees
-/

namespace Partials
namespace Expands

variable {files : FileSystem} {directory : Path} {place : Place} {next free : Nat}
  {nodes out : List Node}

/-- Only paragraphs include files. -/
theorem kind_of_target {node : Node} {target : String} (h : node.includeTarget? = some target) :
    node.kind = .paragraph := by
  by_contra hne
  rw [Node.includeTarget_of_kind_ne hne] at h
  cases h

theorem kind_ne (h : Expands files directory place next nodes out free)
    (hnodes : forall node, node ∈ nodes -> node.kind ≠ .paragraph) :
    forall node, node ∈ out -> node.kind ≠ .paragraph := by
  induction h with
  | nil =>
      exact hnodes
  | keep hplain hchildren hrest ihChildren ihRest =>
      intro other hother
      rcases List.mem_cons.mp hother with rfl | hafter
      · have hfirst := hnodes _ List.mem_cons_self
        exact hfirst
      · exact ihRest (fun node hnode => hnodes node (List.mem_cons_of_mem _ hnode)) other hafter
  | literal htarget | splice htarget =>
      exact absurd (kind_of_target htarget) (hnodes _ List.mem_cons_self)

theorem kind_ne_below (h : Expands files directory place next nodes out free)
    (hnodes : forall node, node ∈ Node.nodesOf nodes -> node.kind ≠ .paragraph) :
    forall node, node ∈ Node.nodesOf out -> node.kind ≠ .paragraph := by
  induction h with
  | nil =>
      exact hnodes
  | keep hplain hchildren hrest ihChildren ihRest =>
      intro other hother
      rcases Node.mem_nodesOf_cons.mp hother with rfl | hbelow | hafter
      · have hfirst := hnodes _ (Node.mem_nodesOf_cons.mpr (Or.inl rfl))
        exact hfirst
      · apply ihChildren _ other hbelow
        exact fun node hnode => hnodes node (Node.mem_nodesOf_cons.mpr (Or.inr (Or.inl hnode)))
      · apply ihRest _ other hafter
        exact fun node hnode => hnodes node (Node.mem_nodesOf_cons.mpr (Or.inr (Or.inr hnode)))
  | literal htarget | splice htarget =>
      exact absurd (kind_of_target htarget) (hnodes _ (Node.mem_nodesOf_cons.mpr (Or.inl rfl)))

/-- Where a file is included, its blocks come to stand where a paragraph stood. -/
theorem housed (h : Expands files directory place next nodes out free)
    (hnodes : Node.Housed nodes) : Node.Housed out := by
  induction h with
  | nil =>
      exact hnodes
  | keep hplain hchildren hrest ihChildren ihRest =>
      rcases Node.housed_cons_iff.mp hnodes with ⟨hnode, hbelow, hafter⟩
      rw [Node.housed_cons_iff]
      refine ⟨⟨?_, ?_⟩, ihChildren hbelow, ihRest hafter⟩
      · exact fun hkind => hchildren.kind_ne_below (hnode.isContainer hkind)
      · exact fun hkind => hchildren.kind_ne (hnode.isList hkind)
  | literal htarget hread hplain hrest ihRest =>
      rcases Node.housed_cons_iff.mp hnodes with ⟨_, _, hafter⟩
      rw [Node.housed_cons_iff]
      refine ⟨⟨?_, ?_⟩, Node.housed_nil, ihRest hafter⟩
      · exact fun _ below hbelow => absurd hbelow List.not_mem_nil
      · exact fun _ child hchild => absurd hchild List.not_mem_nil
  | splice htarget hread hmarkdown hinner hrest ihInner ihRest =>
      rcases Node.housed_cons_iff.mp hnodes with ⟨_, _, hafter⟩
      rw [Node.housed_append_iff]
      exact ⟨ihInner (Node.housed_ofMarkdown _ _), ihRest hafter⟩

end Expands
end Partials

/-!
# Trees without blocks that are not kept
-/

namespace Exclusion

theorem exists_children (audience : Audience) (config : ProductConfig) (root : Node) :
    exists children, (apply audience config root).1 = { root with children } ∧
      Node.Pruned root.children children := by
  have hpruned := apply_pruned audience config root
  generalize (apply audience config root).1 = left at hpruned
  cases hpruned with
  | drop hnone =>
      cases hnone
  | keep hchildren _ =>
      exact ⟨_, rfl, hchildren⟩

end Exclusion

/-!
# Trees with alerts
-/

namespace Alert

variable {nodes : List Node}

/-- A paragraph that is an alert loses the start of its first text, and nothing else. -/
theorem exists_of_take {children left : List Node} {alert : AlertKind}
    (h : take? children = some (alert, left)) :
    exists first text value rest, children = first :: rest ∧ first.kind = .text text ∧
      exists written, left = { first with kind := .text written, value } :: rest := by
  unfold take? at h
  split at h
  · rename_i id source value inside position rest
    rcases Option.map_eq_some_iff.mp h with ⟨⟨kind, after⟩, _, hleft⟩
    cases hleft
    exact ⟨_, _, _, _, rfl, rfl, _, rfl⟩
  · cases h

theorem kind_ne (next : Nat) (hnodes : forall node, node ∈ nodes -> node.kind ≠ .paragraph) :
    forall node, node ∈ (wrapNodes next nodes).nodes -> node.kind ≠ .paragraph := by
  induction nodes generalizing next with
  | nil =>
      rw [wrapNodes]
      exact hnodes
  | cons first rest ih =>
      have hfirst := hnodes _ List.mem_cons_self
      rw [wrapNodes_cons, wrapNode_of_kind_ne next hfirst]
      intro node hnode
      rcases List.mem_cons.mp hnode with rfl | hrest
      · exact hfirst
      · exact ih _ (fun other hother => hnodes other (List.mem_cons_of_mem _ hother)) node hrest

theorem kind_ne_below (next : Nat)
    (hnodes : forall node, node ∈ Node.nodesOf nodes -> node.kind ≠ .paragraph) :
    forall node, node ∈ Node.nodesOf (wrapNodes next nodes).nodes -> node.kind ≠ .paragraph := by
  induction nodes using Node.forest_induction generalizing next with
  | nil =>
      rw [wrapNodes]
      exact hnodes
  | cons first rest ihChildren ihRest =>
      have hfirst := hnodes _ (Node.mem_nodesOf_cons.mpr (Or.inl rfl))
      rw [wrapNodes_cons, wrapNode_of_kind_ne next hfirst]
      intro node hnode
      rcases Node.mem_nodesOf_cons.mp hnode with rfl | hbelow | hrest
      · exact hfirst
      · apply ihChildren next _ node hbelow
        exact fun other hother => hnodes other (Node.mem_nodesOf_cons.mpr (Or.inr (Or.inl hother)))
      · apply ihRest _ _ node hrest
        exact fun other hother => hnodes other (Node.mem_nodesOf_cons.mpr (Or.inr (Or.inr hother)))

theorem houses_fresh (id : Nat) (value : String) : (Node.fresh id .html value).Houses :=
  ⟨fun _ _ hbelow => absurd hbelow List.not_mem_nil,
    fun _ _ hchild => absurd hchild List.not_mem_nil⟩

/-- What is below an alert is what was below it, but for the start of its first text. -/
theorem housed_of_take {children left : List Node} {alert : AlertKind}
    (h : take? children = some (alert, left)) (hhoused : Node.Housed children)
    (hnone : forall below, below ∈ Node.nodesOf children -> below.kind ≠ .paragraph) :
    Node.Housed left ∧ forall below, below ∈ Node.nodesOf left -> below.kind ≠ .paragraph := by
  rcases exists_of_take h with ⟨first, text, value, rest, rfl, hkind, written, rfl⟩
  rcases Node.housed_cons_iff.mp hhoused with ⟨hfirst, hchildren, hrest⟩
  constructor
  · rw [Node.housed_cons_iff]
    refine ⟨⟨?_, ?_⟩, hchildren, hrest⟩
    · exact fun _ => hfirst.isContainer (by rw [hkind]; rfl)
    · intro hlist
      cases hlist
  · intro below hbelow
    rcases Node.mem_nodesOf_cons.mp hbelow with rfl | hinside | hafter
    · simp
    · exact hnone below (Node.mem_nodesOf_cons.mpr (Or.inr (Or.inl hinside)))
    · exact hnone below (Node.mem_nodesOf_cons.mpr (Or.inr (Or.inr hafter)))

/-- Alerts stay where they are, between two pieces of markup. -/
theorem housed (next : Nat) (h : Node.Housed nodes) : Node.Housed (wrapNodes next nodes).nodes := by
  induction nodes using Node.forest_induction generalizing next with
  | nil =>
      rw [wrapNodes]
      exact h
  | cons first rest ihChildren ihRest =>
      rcases Node.housed_cons_iff.mp h with ⟨hfirst, hchildren, hrest⟩
      rw [wrapNodes_cons, Node.housed_append_iff]
      refine ⟨?_, ihRest _ hrest⟩
      by_cases hkind : first.kind = .paragraph
      · have hbelow := hfirst.isContainer (by rw [hkind]; rfl)
        cases htake : take? first.children with
        | none =>
            rw [wrapNode_of_plain next hkind htake, Node.housed_cons_iff]
            exact ⟨hfirst, hchildren, Node.housed_nil⟩
        | some taken =>
            rcases taken with ⟨alert, left⟩
            rcases housed_of_take htake hchildren hbelow with ⟨hleft, hnone⟩
            rw [wrapNode_of_alert next hkind htake, Node.housed_cons_iff, Node.housed_cons_iff,
              Node.housed_cons_iff]
            refine ⟨houses_fresh _ _, Node.housed_nil, ⟨fun _ => hnone, ?_⟩, hleft,
              houses_fresh _ _, Node.housed_nil, Node.housed_nil⟩
            intro hlist
            rw [hkind] at hlist
            cases hlist
      · rw [wrapNode_of_kind_ne next hkind, Node.housed_cons_iff]
        refine ⟨⟨?_, ?_⟩, ihChildren next hchildren, Node.housed_nil⟩
        · exact fun hcontainer => kind_ne_below next (hfirst.isContainer hcontainer)
        · exact fun hlist => kind_ne next (hfirst.isList hlist)

end Alert

/-!
# Written paragraphs
-/

namespace Writer

open Node

variable {root node a b : Node} {before after : List Node} {indent : List Char}

/-- What is written between two paragraphs: a line ending, and a blank line unless they are in a
tight item. -/
def separator (tight : Bool) (indent : List Char) : List Char :=
  if tight then ['\n'] else '\n' :: (Text.dropEndWhile Text.isBlank indent ++ ['\n'])

theorem hang_gap (tight : Bool) (indent cs ds : List Char) :
    hang indent (cs ++ ((gap tight).toList ++ ds)) =
      hang indent cs ++ (separator tight indent ++ indented indent ds) := by
  cases tight with
  | true =>
      have hgap : (gap true).toList = ['\n'] := rfl
      rw [hgap, List.singleton_append, hang_append_newline]
      rfl
  | false =>
      have hgap : (gap false).toList = ['\n', '\n'] := rfl
      rw [hgap, List.cons_append, List.singleton_append, hang_append_newline, indented,
        hang_newline]
      simp [separator, lineStart]

/-- Whether the text of a tree has that of one paragraph and, after it, that of another one, with
what the containers put before their lines and between them. -/
def WritesInTurn (root a b : Node) (tight : Bool) (indent : List Char) : Prop :=
  exists start rest, root.toMarkdown.toList = start ++ (hang indent a.inlineText ++
    (separator tight indent ++
      (Text.dropEndWhile (· == '\n') (indented indent b.inlineText) ++ rest)))

/-- What ends the text of a tree is dropped up to the last paragraph that can be seen. -/
theorem exists_toMarkdown {start shown last : List Char} {c : Char}
    (htext : (nodeText .block root).toList = start ++ (shown ++ last)) (hmem : c ∈ shown)
    (hc : Text.isBlank c = false) :
    exists rest, root.toMarkdown.toList =
      start ++ (Text.dropEndWhile (· == '\n') shown ++ rest) := by
  have hline : (c == '\n') = false := by
    apply beq_false_of_ne
    rintro rfl
    exact absurd hc (by decide)
  rcases Text.exists_dropEndWhile_of_mem (p := (· == '\n')) start hmem hline last with
    ⟨kept, hkept⟩
  have htrimmed : (Text.trimEndWhile (· == '\n') (nodeText .block root)).toList =
      start ++ (Text.dropEndWhile (· == '\n') shown ++ kept) := by
    rw [Text.trimEndWhile, String.toList_ofList, htext, hkept]
  unfold Node.toMarkdown
  dsimp only
  split
  · rename_i hempty
    refine ⟨kept, ?_⟩
    rw [← htrimmed, String.isEmpty_iff.mp hempty]
  · refine ⟨kept ++ ['\n'], ?_⟩
    rw [String.toList_append, htrimmed]
    simp

theorem writesInTurn_of_encloses (h : Encloses root indent node)
    (hchildren : node.children = before ++ a :: b :: after) (ha : a.kind = .paragraph)
    (hb : b.kind = .paragraph) (hvisible : exists c, c ∈ b.inlineText ∧ Text.isBlank c = false) :
    WritesInTurn root a b node.kind.isTight indent := by
  have hblocks : Shows node.blockText
      (a.inlineText ++ ((gap node.kind.isTight).toList ++ b.inlineText)) := by
    rw [blockText, hchildren]
    exact shows_paragraphs _ _ _ _ _ ha hb
  rcases (shows_of_encloses h .block).trans (hblocks.hang indent) with ⟨start, last, htext, _⟩
  rw [hang_gap, List.append_assoc, List.append_assoc, ← List.append_assoc start,
    ← List.append_assoc (start ++ _)] at htext
  rcases hvisible with ⟨c, hmem, hc⟩
  have hshown : c ∈ indented indent b.inlineText := List.mem_append_right _ (mem_hang indent hmem)
  rcases exists_toMarkdown htext hshown hc with ⟨rest, hrest⟩
  refine ⟨start, rest, ?_⟩
  rw [hrest, List.append_assoc, List.append_assoc]

end Writer

/-!
# Documents
-/

namespace Site

open Node

variable {files : FileSystem} {document directory : Path} {first free : Nat} {text : String}
  {expanded : Node}

/-- The tree of a document with its partials, without what the audience is not to see, and with
its alerts. -/
def finalTree (audience : Audience) (config : ProductConfig) (free : Nat) (expanded : Node) :
    Node :=
  (Alert.wrap free (Exclusion.apply audience config expanded).1).1

theorem housed_finalTree
    (hexpand : Partials.expand files document directory (ofMarkdown first text).2
      (ofMarkdown first text).1 = .ok (expanded, free))
    (audience : Audience) (config : ProductConfig) :
    (finalTree audience config free expanded).kind = .root ∧
      Housed (finalTree audience config free expanded).children := by
  have hkind := kind_ofMarkdown first text
  have hhoused := housed_ofMarkdown first text
  generalize (ofMarkdown first text).1 = root at hexpand hkind hhoused
  rcases Partials.expands_of_expand_ok hexpand with ⟨children, rfl, hexpands⟩
  rcases Exclusion.exists_children audience config { root with children } with
    ⟨left, hleft, hpruned⟩
  rw [finalTree, hleft, Alert.wrap]
  exact ⟨hkind, Alert.housed free ((hexpands.housed hhoused).pruned hpruned)⟩

/-- Two paragraphs that stand side by side in the final tree of a document are written one after
the other, with a blank line between them unless they are in an item that was read without blank
lines. -/
theorem paragraphs_exact
    (hexpand : Partials.expand files document directory (ofMarkdown first text).2
      (ofMarkdown first text).1 = .ok (expanded, free))
    (audience : Audience) (config : ProductConfig) {node a b : Node} {before after : List Node}
    (hnode : node ∈ (finalTree audience config free expanded).nodes)
    (hchildren : node.children = before ++ a :: b :: after) (ha : a.kind = .paragraph)
    (hb : b.kind = .paragraph) (hvisible : exists c, c ∈ b.inlineText ∧ Text.isBlank c = false) :
    exists indent, Encloses (finalTree audience config free expanded) indent node ∧
      Writer.WritesInTurn (finalTree audience config free expanded) a b node.kind.isTight
        indent := by
  rcases housed_finalTree hexpand audience config with ⟨hroot, hhoused⟩
  have hmem : a ∈ node.children := by
    rw [hchildren]
    simp
  have hencloses :
      exists indent, Encloses (finalTree audience config free expanded) indent node := by
    have hkind : (finalTree audience config free expanded).kind.holdsBlocks = true := by
      rw [hroot]
      rfl
    rw [nodes_eq] at hnode
    rcases List.mem_cons.mp hnode with rfl | hbelow
    · exact ⟨_, .self hkind⟩
    · rcases exists_encloses hhoused hbelow hmem ha with ⟨top, indent, htop, hencloses⟩
      exact ⟨_, .block hkind htop hencloses⟩
  rcases hencloses with ⟨indent, hencloses⟩
  exact ⟨indent, hencloses, Writer.writesInTurn_of_encloses hencloses hchildren ha hb hvisible⟩

/-- A file system with a partial of two paragraphs. -/
def twoParagraphs : FileSystem where
  entries := [(["a.md"], .file (.text "A\n\nB\n"))]
  current := []

/-- Whether a node is a tight item with two paragraphs, the second of which can be seen. -/
def isCrowded (node : Node) : Bool :=
  node.kind.isTight &&
    match node.children with
    | [a, b] =>
        a.kind == .paragraph && b.kind == .paragraph &&
          b.inlineText.any fun c => !Text.isBlank c
    | _ => false

theorem exists_of_isCrowded {node : Node} (h : isCrowded node = true) :
    exists a b, node.kind.isTight = true ∧ node.children = [a, b] ∧ a.kind = .paragraph ∧
      b.kind = .paragraph ∧ exists c, c ∈ b.inlineText ∧ Text.isBlank c = false := by
  unfold isCrowded at h
  rw [Bool.and_eq_true] at h
  rcases h with ⟨htight, hpair⟩
  split at hpair
  · rename_i a b hchildren
    simp only [Bool.and_eq_true, beq_iff_eq, List.any_eq_true, Bool.not_eq_true'] at hpair
    rcases hpair with ⟨⟨ha, hb⟩, hvisible⟩
    exact ⟨a, b, htight, hchildren, ha, hb, hvisible⟩
  · cases hpair

/-- The paragraphs of a partial that is included in an item come to stand on adjacent lines. -/
theorem paragraphs_exact_tight :
    exists expanded free node a b,
      Partials.expand twoParagraphs ⟨"/doc"⟩ ⟨"/"⟩ (ofMarkdown 0 "- @include 'a.md'\n").2
          (ofMarkdown 0 "- @include 'a.md'\n").1 = .ok (expanded, free) ∧
        node ∈ (finalTree ⟨"/doc", "p", none⟩ {} free expanded).nodes ∧
        node.children = [a, b] ∧ a.kind = .paragraph ∧ b.kind = .paragraph ∧
        (exists indent, Writer.WritesInTurn (finalTree ⟨"/doc", "p", none⟩ {} free expanded) a b
          true indent) ∧
        (finalTree ⟨"/doc", "p", none⟩ {} free expanded).toMarkdown = "- A\n  B\n" := by
  have hresult : ((Partials.expand twoParagraphs ⟨"/doc"⟩ ⟨"/"⟩
      (ofMarkdown 0 "- @include 'a.md'\n").2 (ofMarkdown 0 "- @include 'a.md'\n").1).toOption.any
        fun result =>
          let tree := finalTree ⟨"/doc", "p", none⟩ {} result.2 result.1
          tree.toMarkdown == "- A\n  B\n" && tree.nodes.any isCrowded) = true := by
    decide +kernel
  cases hexpand : Partials.expand twoParagraphs ⟨"/doc"⟩ ⟨"/"⟩
      (ofMarkdown 0 "- @include 'a.md'\n").2 (ofMarkdown 0 "- @include 'a.md'\n").1 with
  | error error =>
      rw [hexpand] at hresult
      cases hresult
  | ok result =>
      rcases result with ⟨expanded, free⟩
      rw [hexpand] at hresult
      simp only [Except.toOption, Option.any_some, Bool.and_eq_true, beq_iff_eq,
        List.any_eq_true] at hresult
      rcases hresult with ⟨hmarkdown, node, hnode, hcrowded⟩
      rcases exists_of_isCrowded hcrowded with ⟨a, b, htight, hchildren, ha, hb, hvisible⟩
      have hsplit : node.children = [] ++ a :: b :: [] := hchildren
      rcases paragraphs_exact hexpand ⟨"/doc", "p", none⟩ {} hnode hsplit ha hb hvisible with
        ⟨indent, _, hwritten⟩
      rw [htight] at hwritten
      exact ⟨expanded, free, node, a, b, rfl, hnode, hchildren, ha, hb, ⟨indent, hwritten⟩,
        hmarkdown⟩

end Site
end Docloom
