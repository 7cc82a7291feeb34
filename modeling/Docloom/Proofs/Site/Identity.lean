import Docloom.Alert
import Docloom.Proofs.Directive.Exclusion
import Docloom.Proofs.Partials.Expansion

/-!
# Ids along the passes

One counter hands out the ids of a document: to what is read from its text, to what is read
from partials, and to the markup of alerts.  Every pass keeps the ids of a tree distinct and
below the counter, so an id that a block holds is never that of another node.
-/

namespace Docloom

open Node

namespace Node

/-- Whether the ids of trees are distinct and were all handed out before `next`. -/
structure NumberedAll (next : Nat) (nodes : List Node) : Prop where
  nodup : (idsOf nodes).Nodup
  handedOut : forall id, id ∈ idsOf nodes -> id < next

/-- Whether the ids of a tree are distinct and were all handed out before `next`. -/
structure Numbered (next : Nat) (root : Node) : Prop where
  nodup : root.ids.Nodup
  handedOut : forall id, id ∈ root.ids -> id < next

theorem numberedAll_singleton_iff {next : Nat} {root : Node} :
    NumberedAll next [root] ↔ Numbered next root := by
  constructor
  · intro h
    exact ⟨by simpa using h.nodup, by simpa using h.handedOut⟩
  · intro h
    exact ⟨by simpa using h.nodup, by simpa using h.handedOut⟩

theorem numberedAll_nil (next : Nat) : NumberedAll next [] := by
  constructor <;> simp

theorem numberedAll_cons_iff {next : Nat} {node : Node} {rest : List Node} :
    NumberedAll next (node :: rest) ↔
      (node.id < next ∧ node.id ∉ idsOf node.children ∧ node.id ∉ idsOf rest) ∧
        NumberedAll next node.children ∧ NumberedAll next rest ∧
          forall id, id ∈ idsOf node.children -> id ∉ idsOf rest := by
  constructor
  · intro h
    have hnodup := h.nodup
    have hlt := h.handedOut
    rw [idsOf_cons] at hnodup hlt
    rcases List.nodup_cons.mp hnodup with ⟨hroot, hbelow⟩
    rcases List.nodup_append.mp hbelow with ⟨hchildren, hrest, hapart⟩
    rw [List.mem_append, not_or] at hroot
    refine ⟨⟨hlt _ (by simp), hroot⟩, ⟨hchildren, ?_⟩, ⟨hrest, ?_⟩, ?_⟩
    · intro id hid
      exact hlt id (by simp [hid])
    · intro id hid
      exact hlt id (by simp [hid])
    · intro id hid hother
      exact hapart id hid id hother rfl
  · rintro ⟨⟨hlt, hroot⟩, hchildren, hrest, hapart⟩
    constructor
    · rw [idsOf_cons, List.nodup_cons, List.mem_append, not_or, List.nodup_append]
      refine ⟨hroot, hchildren.nodup, hrest.nodup, ?_⟩
      intro id hid other hother heq
      exact hapart id hid (heq ▸ hother)
    · intro id hid
      rw [idsOf_cons, List.mem_cons, List.mem_append] at hid
      rcases hid with rfl | hid | hid
      · exact hlt
      · exact hchildren.handedOut id hid
      · exact hrest.handedOut id hid

theorem numberedAll_append {next : Nat} {a b : List Node} (ha : NumberedAll next a)
    (hb : NumberedAll next b) (hapart : forall id, id ∈ idsOf a -> id ∉ idsOf b) :
    NumberedAll next (a ++ b) := by
  constructor
  · rw [idsOf_append, List.nodup_append]
    refine ⟨ha.nodup, hb.nodup, ?_⟩
    intro id hid other hother heq
    exact hapart id hid (heq ▸ hother)
  · intro id hid
    rw [idsOf_append, List.mem_append] at hid
    rcases hid with hid | hid
    · exact ha.handedOut id hid
    · exact hb.handedOut id hid

theorem NumberedAll.mono {next free : Nat} {nodes : List Node} (h : NumberedAll next nodes)
    (hle : next ≤ free) : NumberedAll free nodes := by
  refine ⟨h.nodup, ?_⟩
  intro id hid
  exact Nat.lt_of_lt_of_le (h.handedOut id hid) hle

/-!
# Trees out of trees
-/

/-- What a pass does to the ids of trees: those that it hands out are not below the counter
before it, and none of the others is new. -/
structure Renumbers (next : Nat) (nodes : List Node) (out : List Node) (free : Nat) : Prop where
  le : next ≤ free
  origin : forall id, id ∈ idsOf out -> id ∈ idsOf nodes ∨ next ≤ id
  numbered : NumberedAll next nodes -> NumberedAll free out

namespace Renumbers

variable {next middle free : Nat} {node : Node} {nodes children rest after inside : List Node}

theorem refl (next : Nat) (nodes : List Node) : Renumbers next nodes nodes next := by
  exact ⟨Nat.le_refl next, fun _ hid => Or.inl hid, fun h => h⟩

/-- A node that stays has new children, and siblings that come after them. -/
theorem cons (hchildren : Renumbers next node.children children middle)
    (hrest : Renumbers middle rest after free) :
    Renumbers next (node :: rest) ({ node with children } :: after) free := by
  have hbefore := hchildren.le
  have hbehind := hrest.le
  refine ⟨by omega, ?_, ?_⟩
  · intro id hid
    have horiginChildren := hchildren.origin id
    have horiginRest := hrest.origin id
    rw [idsOf_cons] at hid ⊢
    grind
  · intro hnumbered
    rcases numberedAll_cons_iff.mp hnumbered with ⟨⟨hlt, hroot⟩, hbelow, hsiblings, hapart⟩
    have hleft := hchildren.numbered hbelow
    have hright := hrest.numbered (hsiblings.mono hbefore)
    have hltSiblings := hsiblings.handedOut
    have horiginChildren := hchildren.origin
    have horiginRest := hrest.origin
    refine numberedAll_cons_iff.mpr ⟨⟨?_, ?_, ?_⟩, hleft.mono hbehind, hright, ?_⟩
    · exact Nat.lt_of_lt_of_le hlt (by omega)
    · grind
    · grind
    · intro id hid hother
      have hltMiddle := hleft.handedOut id hid
      grind

/-- Trees with new ids come in place of a node. -/
theorem replace (hinside : NumberedAll middle inside)
    (hnew : forall id, id ∈ idsOf inside -> next ≤ id) (hle : next ≤ middle)
    (hrest : Renumbers middle rest after free) :
    Renumbers next (node :: rest) (inside ++ after) free := by
  have hbehind := hrest.le
  refine ⟨by omega, ?_, ?_⟩
  · intro id hid
    have horigin := hrest.origin id
    rw [idsOf_append] at hid
    rw [idsOf_cons]
    grind
  · intro hnumbered
    rcases numberedAll_cons_iff.mp hnumbered with ⟨_, _, hsiblings, _⟩
    have hltSiblings := hsiblings.handedOut
    have horigin := hrest.origin
    refine numberedAll_append (hinside.mono hbehind) (hrest.numbered (hsiblings.mono hle)) ?_
    intro id hid hother
    have hltMiddle := hinside.handedOut id hid
    have hleNext := hnew id hid
    grind

end Renumbers

/-!
# Reading
-/

theorem numbered_ofMarkdown (next : Nat) (text : String) :
    Numbered (ofMarkdown next text).2 (ofMarkdown next text).1 := by
  rcases ofMarkdown_ids next text with ⟨count, hfree, hids⟩
  constructor
  · rw [hids]
    exact List.nodup_range'
  · intro id hid
    exact (id_of_mem_ofMarkdown hid).2

theorem numberedAll_ofMarkdown (next : Nat) (text : String) :
    NumberedAll (ofMarkdown next text).2 (ofMarkdown next text).1.children :=
  (numberedAll_cons_iff.mp (numberedAll_singleton_iff.mpr (numbered_ofMarkdown next text))).2.1

end Node

/-!
# Partials
-/

namespace Partials

variable {files : FileSystem} {directory : Path} {place : Place} {nodes out : List Node}
  {next free : Nat}

theorem ids_literal (id : Nat) (path : Path) (text : String) :
    (literal id path text).ids = [id] := by
  simp [ids_eq, literal, Node.fresh]

theorem numbered_literal (id : Nat) (path : Path) (text : String) :
    Numbered (id + 1) (literal id path text) := by
  constructor <;> simp [ids_literal]

/-- An expansion keeps ids distinct, however often and deep it puts a file in. -/
theorem Expands.renumbers (h : Expands files directory place next nodes out free) :
    Renumbers next nodes out free := by
  induction h with
  | nil =>
      exact .refl _ []
  | keep hplain hchildren hrest ihChildren ihRest =>
      exact .cons ihChildren ihRest
  | literal htarget hread hplain hrest ihRest =>
      refine .replace (numberedAll_singleton_iff.mpr (numbered_literal _ _ _)) ?_
        (Nat.le_succ _) ihRest
      simp [ids_literal]
  | splice htarget hread hmarkdown hinner hrest ihInner ihRest =>
      rename_i text next children middle place rest after free node
      have hfree := Node.lt_ofMarkdown_free next text
      have hmiddle := ihInner.le
      refine .replace (ihInner.numbered (numberedAll_ofMarkdown next text)) ?_ (by omega) ihRest
      intro id hid
      rcases ihInner.origin id hid with hread | hinserted
      · exact Node.le_of_mem_ofMarkdown hread
      · omega

theorem numbered_of_expand_ok {document : Path} {root result : Node}
    (h : expand files document directory next root = .ok (result, free))
    (hnumbered : Numbered next root) :
    Numbered free result := by
  rcases expands_of_expand_ok h with ⟨children, hresult, hchildren⟩
  rw [hresult, ← numberedAll_singleton_iff]
  exact (Renumbers.cons hchildren.renumbers (.refl free [])).numbered
    (numberedAll_singleton_iff.mpr hnumbered)

end Partials

/-!
# Exclusion

Whether it fails or not, an exclusion only takes nodes away.
-/

namespace Exclusion

variable {audience : Audience} {root : Node} {next : Nat}

theorem removeBlocks_pruned (audience : Audience) (blocks : List DirectiveBlock) (root : Node) :
    Pruned [root] [(removeBlocks audience blocks root).1] := by
  induction blocks generalizing root with
  | nil =>
      exact Pruned.refl [root]
  | cons block blocks ih =>
      rw [removeBlocks]
      split
      · exact Pruned.refl [root]
      · exact ih root
      · cases hremove : block.remove root with
        | error error =>
            exact Pruned.refl [root]
        | ok left =>
            unfold DirectiveBlock.remove at hremove
            split at hremove
            · cases hremove
              exact (Pruned.keep (DirectiveBlock.removeNodes_pruned block false root.children)
                .nil).trans (ih _)
            · cases hremove

theorem apply_pruned (audience : Audience) (config : ProductConfig) (root : Node) :
    Pruned [root] [(apply audience config root).1] := by
  unfold apply
  split
  · cases root.directiveBlocks with
    | error error =>
        exact Pruned.refl [root]
    | ok blocks =>
        exact removeBlocks_pruned audience blocks.reverse root
  · exact Pruned.refl [root]

theorem numbered_apply (audience : Audience) (config : ProductConfig)
    (h : Numbered next root) : Numbered next (apply audience config root).1 := by
  have hsub := sublist_of_pruned (apply_pruned audience config root)
  exact ⟨h.nodup.sublist hsub, fun id hid => h.handedOut id (hsub.subset hid)⟩

end Exclusion

/-!
# Alerts
-/

namespace Alert

theorem idsOf_take {children left : List Node} {kind : AlertKind}
    (h : take? children = some (kind, left)) : idsOf left = idsOf children := by
  unfold take? at h
  split at h
  · rcases Option.map_eq_some_iff.mp h with ⟨⟨found, rest⟩, hfound, heq⟩
    cases heq
    simp [idsOf_cons]
  · cases h

section Steps

variable {node : Node} {left : List Node} {alert : AlertKind}

theorem wrapNode_of_alert (next : Nat) (hkind : node.kind = .paragraph)
    (htake : take? node.children = some (alert, left)) :
    wrapNode next node =
      { nodes :=
          [.fresh next .html alert.openingTag, { node with children := left },
            .fresh (next + 1) .html AlertKind.closingTag]
        next := next + 2
        count := 1 } := by
  cases node
  rw [wrapNode, if_pos hkind]
  dsimp only at htake
  rw [htake]

theorem wrapNode_of_plain (next : Nat) (hkind : node.kind = .paragraph)
    (htake : take? node.children = none) :
    wrapNode next node = { nodes := [node], next, count := 0 } := by
  cases node
  rw [wrapNode, if_pos hkind]
  dsimp only at htake
  rw [htake]

theorem wrapNode_of_kind_ne (next : Nat) (hkind : node.kind ≠ .paragraph) :
    wrapNode next node =
      { wrapNodes next node.children with
        nodes := [{ node with children := (wrapNodes next node.children).nodes }] } := by
  cases node
  rw [wrapNode, if_neg hkind]

theorem wrapNodes_cons (next : Nat) (node : Node) (rest : List Node) :
    wrapNodes next (node :: rest) =
      { nodes := (wrapNode next node).nodes ++ (wrapNodes (wrapNode next node).next rest).nodes
        next := (wrapNodes (wrapNode next node).next rest).next
        count :=
          (wrapNode next node).count + (wrapNodes (wrapNode next node).next rest).count } := by
  rw [wrapNodes]

end Steps

/-- The markup around an alert has ids of its own. -/
theorem renumbers_alert {node : Node} {kind : AlertKind} {next free : Nat}
    {left rest after : List Node} (htake : take? node.children = some (kind, left))
    (hrest : Renumbers (next + 2) rest after free) :
    Renumbers next (node :: rest)
      ([.fresh next .html kind.openingTag, { node with children := left },
        .fresh (next + 1) .html AlertKind.closingTag] ++ after) free := by
  have hle := hrest.le
  have horigin := hrest.origin
  have hids := idsOf_take htake
  refine ⟨by omega, ?_, ?_⟩
  · intro id hid
    simp only [List.cons_append, List.nil_append, idsOf_cons, Node.fresh, idsOf_nil, hids,
      List.mem_cons, List.mem_append] at hid ⊢
    grind
  · intro hnumbered
    rcases numberedAll_cons_iff.mp hnumbered with ⟨⟨hlt, hroot⟩, hbelow, hsiblings, hapart⟩
    have hltBelow := hbelow.handedOut
    have hltSiblings := hsiblings.handedOut
    have hleft : NumberedAll free left := by
      refine ⟨hids ▸ hbelow.nodup, ?_⟩
      intro id hid
      have := hltBelow id (hids ▸ hid)
      omega
    have hright := hrest.numbered (hsiblings.mono (by omega))
    simp only [List.cons_append, List.nil_append, numberedAll_cons_iff, Node.fresh, idsOf_cons,
      idsOf_nil, hids, numberedAll_nil, List.mem_cons, List.mem_append]
    grind

theorem renumbers_wrapNodes (next : Nat) (nodes : List Node) :
    Renumbers next nodes (wrapNodes next nodes).nodes (wrapNodes next nodes).next := by
  induction nodes using forest_induction generalizing next with
  | nil =>
      exact .refl next []
  | cons node rest ihChildren ihRest =>
      by_cases hkind : node.kind = .paragraph
      · cases htake : take? node.children with
        | some taken =>
            rcases taken with ⟨alert, left⟩
            rw [wrapNodes_cons, wrapNode_of_alert next hkind htake]
            exact renumbers_alert htake (ihRest (next + 2))
        | none =>
            rw [wrapNodes_cons, wrapNode_of_plain next hkind htake]
            have hcons := Renumbers.cons (.refl next node.children) (ihRest next)
            cases node
            exact hcons
      · rw [wrapNodes_cons, wrapNode_of_kind_ne next hkind]
        exact .cons (ihChildren next) (ihRest _)

theorem numbered_wrap {next : Nat} {root : Node} (h : Numbered next root) :
    Numbered (wrap next root).2.1 (wrap next root).1 := by
  have hrun : Renumbers next [root] [(wrap next root).1] (wrap next root).2.1 :=
    .cons (renumbers_wrapNodes next root.children) (.refl _ [])
  exact numberedAll_singleton_iff.mp (hrun.numbered (numberedAll_singleton_iff.mpr h))

end Alert

/-!
# Documents
-/

namespace Site

/-- From reading to alerts the ids of a document are distinct and below the counter after each
pass, whatever an exclusion took away and whether it came to its end.  The counter has no
largest number; one that ends at a number is the same as long as it hands out fewer ids. -/
theorem passes_numbered {files : FileSystem} {document directory : Path} {first free : Nat}
    {text : String} {expanded : Node} (audience : Audience) (config : ProductConfig)
    (h : Partials.expand files document directory (ofMarkdown first text).2
      (ofMarkdown first text).1 = .ok (expanded, free)) :
    Numbered (ofMarkdown first text).2 (ofMarkdown first text).1 ∧
      Numbered free expanded ∧
      Numbered free (Exclusion.apply audience config expanded).1 ∧
      Numbered (Alert.wrap free (Exclusion.apply audience config expanded).1).2.1
        (Alert.wrap free (Exclusion.apply audience config expanded).1).1 := by
  have hread := numbered_ofMarkdown first text
  have hexpanded :=
    Partials.numbered_of_expand_ok h hread
  have hexcluded := Exclusion.numbered_apply audience config hexpanded
  exact ⟨hread, hexpanded, hexcluded, Alert.numbered_wrap hexcluded⟩

/-- A file system with a markdown file that holds an alert. -/
def warning : FileSystem where
  entries := [(["a.md"], .file (.text "~> x"))]
  current := []

/-- The alert of a partial that is included twice is there twice, with other ids. -/
theorem passes_numbered_twice :
    exists expanded free,
      Partials.expand warning ⟨"/doc"⟩ ⟨"/"⟩ (ofMarkdown 0 "@include 'a.md'\n\n@include 'a.md'").2
          (ofMarkdown 0 "@include 'a.md'\n\n@include 'a.md'").1 = .ok (expanded, free) ∧
        Numbered free expanded ∧
        Numbered (Alert.wrap free (Exclusion.apply Exclusion.enterpriseReader Exclusion.optedIn
            expanded).1).2.1
          (Alert.wrap free (Exclusion.apply Exclusion.enterpriseReader Exclusion.optedIn
            expanded).1).1 := by
  have hok : (Partials.expand warning ⟨"/doc"⟩ ⟨"/"⟩
      (ofMarkdown 0 "@include 'a.md'\n\n@include 'a.md'").2
      (ofMarkdown 0 "@include 'a.md'\n\n@include 'a.md'").1).isOk = true := by
    decide +kernel
  rcases Partials.exists_of_isOk hok with ⟨⟨expanded, free⟩, hexpand⟩
  have hpasses := passes_numbered Exclusion.enterpriseReader Exclusion.optedIn hexpand
  exact ⟨expanded, free, hexpand, hpasses.2.1, hpasses.2.2.2⟩

end Site
end Docloom
