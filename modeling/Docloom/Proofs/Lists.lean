import Docloom.Proofs.Results
import Mathlib.Data.List.Basic
import Mathlib.Data.List.TakeWhile

/-!
# Lists

What is found under a key in a list of pairs, what comes of a list when something that may fail
is done to each of its items, parts of a list, and what a search in a list gives.
-/

namespace Docloom

namespace Lists

/-!
# Pairs
-/

section Pairs

variable {κ α β : Type} [BEq κ] [LawfulBEq κ]

theorem lookup_filter_ne {pairs : List (κ × α)} {key other : κ} (hne : other ≠ key) :
    (pairs.filter fun pair => pair.1 != key).lookup other = pairs.lookup other := by
  induction pairs with
  | nil =>
      rfl
  | cons first pairs ih =>
      by_cases hfirst : first.1 = key
      · have hother : (other == first.1) = false := by
          rw [hfirst]
          exact beq_false_of_ne hne
        rw [List.filter_cons_of_neg (by simpa using hfirst), ih, List.lookup_cons, hother]
      · rw [List.filter_cons_of_pos (by simpa using hfirst), List.lookup_cons,
          List.lookup_cons, ih]

omit [LawfulBEq κ] in
theorem lookup_map (pairs : List (κ × α)) (f : α -> β) (key : κ) :
    (pairs.map fun pair => (pair.1, f pair.2)).lookup key = (pairs.lookup key).map f := by
  induction pairs with
  | nil =>
      rfl
  | cons first pairs ih =>
      rw [List.map_cons, List.lookup_cons, List.lookup_cons, ih]
      cases key == first.1 with
      | true =>
          rfl
      | false =>
          rfl

end Pairs

/-!
# Outcomes
-/

section Outcomes

variable {ε α β : Type} {f : α -> Except ε β} {items : List α} {results : List β}

theorem of_mapM_cons {item : α} (h : (item :: items).mapM f = .ok results) :
    exists first rest, f item = .ok first ∧ items.mapM f = .ok rest ∧ results = first :: rest := by
  rw [List.mapM_cons] at h
  rcases Results.exists_of_bind h with ⟨first, hitem, h⟩
  rcases Results.exists_of_bind h with ⟨rest, hrest, h⟩
  cases h
  exact ⟨first, rest, hitem, hrest, rfl⟩

/-- Each result is that of the item at its place. -/
theorem forall₂_of_mapM (h : items.mapM f = .ok results) :
    List.Forall₂ (fun item result => f item = .ok result) items results := by
  induction items generalizing results with
  | nil =>
      cases h
      exact .nil
  | cons item items ih =>
      rcases of_mapM_cons h with ⟨first, rest, hitem, hrest, rfl⟩
      exact .cons hitem (ih hrest)

theorem exists_mapM (h : forall item, item ∈ items -> exists result, f item = .ok result) :
    exists results, items.mapM f = .ok results := by
  induction items with
  | nil =>
      exact ⟨[], rfl⟩
  | cons item items ih =>
      rcases h item List.mem_cons_self with ⟨first, hfirst⟩
      rcases ih fun other hother => h other (List.mem_cons_of_mem _ hother) with ⟨rest, hrest⟩
      exact ⟨first :: rest, by rw [List.mapM_cons, hfirst, hrest]; rfl⟩

/-- What comes of a list are the results of its items. -/
theorem mem_iff_of_mapM (h : items.mapM f = .ok results) {result : β} :
    result ∈ results ↔ exists item, item ∈ items ∧ f item = .ok result := by
  induction items generalizing results with
  | nil =>
      cases h
      simp
  | cons item items ih =>
      rcases of_mapM_cons h with ⟨first, rest, hitem, hrest, rfl⟩
      simp [ih hrest, hitem, eq_comm]

theorem exists_of_mapM (h : items.mapM f = .ok results) {item : α} (hitem : item ∈ items) :
    exists result, f item = .ok result := by
  induction items generalizing results with
  | nil =>
      cases hitem
  | cons first items ih =>
      rcases of_mapM_cons h with ⟨result, rest, hfirst, hrest, rfl⟩
      rcases List.mem_cons.mp hitem with rfl | hmem
      · exact ⟨result, hfirst⟩
      · exact ih hrest hmem

end Outcomes

/-!
# Parts of lists
-/

/-- A part of a list of distinct items is known by the items that are in it. -/
theorem eq_filter_of_sublist {α : Type} {items left : List α} {keep : α -> Bool}
    (h : left.Sublist items) (hnodup : items.Nodup)
    (hkeep : forall item, item ∈ items -> (item ∈ left ↔ keep item = true)) :
    left = items.filter keep := by
  induction h with
  | slnil =>
      rfl
  | @cons left items item hsub ih =>
      rcases List.nodup_cons.mp hnodup with ⟨hfresh, hrest⟩
      have hgone : ¬ keep item = true := by
        rw [← hkeep item List.mem_cons_self]
        exact fun hmem => hfresh (hsub.subset hmem)
      rw [List.filter_cons_of_neg hgone]
      exact ih hrest fun other hother => hkeep other (List.mem_cons_of_mem _ hother)
  | @cons_cons left items item hsub ih =>
      rcases List.nodup_cons.mp hnodup with ⟨hfresh, hrest⟩
      rw [List.filter_cons_of_pos ((hkeep item List.mem_cons_self).mp List.mem_cons_self)]
      congr 1
      apply ih hrest
      intro other hother
      rw [← hkeep other (List.mem_cons_of_mem _ hother), List.mem_cons]
      have hne : other ≠ item := fun heq => hfresh (heq ▸ hother)
      simp [hne]

section Separated

variable {α : Type} {part before after : List α} {item : α}

/-- A list without the item where another one is cut stands before that cut, if it stands at the
start. -/
theorem exists_append_of_not_mem {tail : List α} (h : before ++ item :: after = part ++ tail)
    (hitem : item ∉ part) : exists tail', before = part ++ tail' := by
  rcases List.append_eq_append_iff.mp h with ⟨between, rfl, hbetween⟩ | ⟨between, rfl, _⟩
  · cases between with
    | nil =>
        exact ⟨[], by simp⟩
    | cons first between =>
        cases hbetween
        exact absurd (by simp) hitem
  · exact ⟨between, rfl⟩

/-- A part without the item where a list is cut stands on one side of the cut. -/
theorem infix_append_cons_iff (hitem : item ∉ part) :
    part <:+: before ++ item :: after ↔ part <:+: before ∨ part <:+: after := by
  constructor
  · intro h
    induction before with
    | nil =>
        rcases List.infix_cons_iff.mp h with ⟨tail, htail⟩ | hinfix
        · have hcut : [] ++ item :: after = part ++ tail := htail.symm
          rcases exists_append_of_not_mem hcut hitem with ⟨_, hnil⟩
          rw [(List.append_eq_nil_iff.mp hnil.symm).1]
          exact Or.inl List.nil_infix
        · exact Or.inr hinfix
    | cons first before ih =>
        rcases List.infix_cons_iff.mp h with ⟨tail, htail⟩ | hinfix
        · have hcut : first :: before ++ item :: after = part ++ tail := htail.symm
          rcases exists_append_of_not_mem hcut hitem with ⟨rest, hrest⟩
          exact Or.inl ⟨[], rest, hrest.symm⟩
        · exact (ih hinfix).imp_left fun h => h.trans (List.suffix_cons first before).isInfix
  · rintro (hbefore | hafter)
    · exact hbefore.trans (List.prefix_append before (item :: after)).isInfix
    · exact hafter.trans ⟨before ++ [item], [], by simp⟩

end Separated

/-!
# First items
-/

/-- The first item that is not passed over is the head of the list, or one of the tail when the
head is passed over. -/
theorem exists_first_cons_iff {α : Type} {passed stops : α -> Prop} {head : α} {tail : List α} :
    (exists before item after, head :: tail = before ++ item :: after ∧
        (forall other, other ∈ before -> passed other) ∧ stops item) ↔
      stops head ∨ (passed head ∧ exists before item after, tail = before ++ item :: after ∧
        (forall other, other ∈ before -> passed other) ∧ stops item) := by
  constructor
  · rintro ⟨before, item, after, heq, hbefore, hitem⟩
    cases before with
    | nil =>
        cases heq
        exact Or.inl hitem
    | cons other before =>
        cases heq
        exact Or.inr ⟨hbefore head List.mem_cons_self, before, item, after, rfl,
          fun other hother => hbefore other (List.mem_cons_of_mem _ hother), hitem⟩
  · rintro (hhead | ⟨hpassed, before, item, after, rfl, hbefore, hitem⟩)
    · exact ⟨[], head, tail, rfl, by simp, hhead⟩
    · refine ⟨head :: before, item, after, rfl, ?_, hitem⟩
      intro other hother
      rcases List.mem_cons.mp hother with rfl | hrest
      · exact hpassed
      · exact hbefore other hrest

/-- A list is cut in front of an item that fails a test which everything before it passes. -/
theorem takeWhile_dropWhile_iff {α : Type} {p : α -> Bool} {items passed rest : List α} {item : α}
    (hitem : p item = false) :
    items.takeWhile p = passed ∧ items.dropWhile p = item :: rest ↔
      items = passed ++ item :: rest ∧ forall other, other ∈ passed -> p other = true := by
  constructor
  · rintro ⟨rfl, hdrop⟩
    refine ⟨?_, fun other => List.all_eq_true.mp List.all_takeWhile other⟩
    rw [← hdrop, List.takeWhile_append_dropWhile]
  · rintro ⟨rfl, hpassed⟩
    simp [List.takeWhile_append_of_pos hpassed, List.dropWhile_append_of_pos hpassed, hitem]

/-- The same where there may be nothing after the cut. -/
theorem takeWhile_append {α : Type} {p : α -> Bool} {passed rest : List α}
    (hpassed : forall item, item ∈ passed -> p item = true)
    (hrest : forall item, rest.head? = some item -> p item = false) :
    (passed ++ rest).takeWhile p = passed ∧ (passed ++ rest).dropWhile p = rest := by
  cases rest with
  | nil =>
      rw [List.append_nil, List.takeWhile_eq_self_iff, List.dropWhile_eq_nil_iff]
      exact ⟨hpassed, hpassed⟩
  | cons item rest =>
      exact (takeWhile_dropWhile_iff (hrest item rfl)).mpr ⟨rfl, hpassed⟩

/-!
# Searches
-/

section Searches

variable {α β γ : Type}

theorem findSome?_flatMap (items : List α) (f : α -> List β) (g : β -> Option γ) :
    (items.flatMap f).findSome? g = items.findSome? fun item => (f item).findSome? g := by
  induction items with
  | nil =>
      rfl
  | cons item items ih =>
      rw [List.flatMap_cons, List.findSome?_append, List.findSome?_cons, ih]
      cases (f item).findSome? g <;> rfl

/-- A search that all items but one fail gives what that item gives. -/
theorem findSome?_of_unique {items : List α} {item : α} {f : α -> Option β} (hitem : item ∈ items)
    (h : forall other, other ∈ items -> other ≠ item -> f other = none) :
    items.findSome? f = f item := by
  cases hfound : items.findSome? f with
  | none =>
      exact (List.findSome?_eq_none_iff.mp hfound item hitem).symm
  | some result =>
      rcases List.exists_of_findSome?_eq_some hfound with ⟨other, hother, hresult⟩
      by_cases heq : other = item
      · rw [← heq, hresult]
      · rw [h other hother heq] at hresult
        cases hresult

end Searches

end Lists
end Docloom
