/-!
# Catalogs

A catalog holds values under names, in the order of the names. Putting a value
under a name that is there already replaces the value.
-/

namespace Docloom

structure Catalog (α : Type) where
  entries : List (String × α)
  ordered : entries.Pairwise fun a b => a.1 < b.1

namespace Catalog

variable {α : Type}

theorem ext_entries {a b : Catalog α} (h : a.entries = b.entries) : a = b := by
  cases a
  cases b
  simp_all

theorem lt_of_not_lt {a b : String} (h : ¬ a < b) (hne : a ≠ b) : b < a := by
  rcases String.le_total a b with hle | hle
  · exact absurd (String.le_antisymm hle (String.not_lt.1 h)) hne
  · exact Decidable.byContradiction fun hn =>
      hne (String.le_antisymm (String.not_lt.1 hn) (String.not_lt.1 h))

def empty : Catalog α := ⟨[], .nil⟩

/-- Puts a value under a name into entries that are ordered. -/
def put (name : String) (value : α) : List (String × α) → List (String × α)
  | [] => [(name, value)]
  | entry :: rest =>
      if name < entry.1 then
        (name, value) :: entry :: rest
      else if name = entry.1 then
        (name, value) :: rest
      else
        entry :: put name value rest

theorem mem_put {name : String} {value : α} {entries : List (String × α)}
    {entry : String × α} (h : entry ∈ put name value entries) :
    entry = (name, value) ∨ entry ∈ entries := by
  induction entries with
  | nil =>
      simpa [put] using h
  | cons first rest ih =>
      simp only [put] at h
      split at h
      · simpa using h
      · split at h
        · simp only [List.mem_cons] at h ⊢
          rcases h with h | h
          · exact .inl h
          · exact .inr (.inr h)
        · simp only [List.mem_cons] at h ⊢
          rcases h with h | h
          · exact .inr (.inl h)
          · rcases ih h with h | h
            · exact .inl h
            · exact .inr (.inr h)

theorem ordered_put (name : String) (value : α) {entries : List (String × α)}
    (h : entries.Pairwise fun a b => a.1 < b.1) :
    (put name value entries).Pairwise fun a b => a.1 < b.1 := by
  induction entries with
  | nil =>
      simp [put]
  | cons first rest ih =>
      rw [List.pairwise_cons] at h
      simp only [put]
      split
      · rename_i hlt
        refine List.pairwise_cons.2 ⟨?_, List.pairwise_cons.2 h⟩
        intro entry hmem
        rcases List.mem_cons.1 hmem with rfl | hmem
        · exact hlt
        · exact String.lt_trans hlt (h.1 entry hmem)
      · rename_i hge
        split
        · rename_i heq
          exact List.pairwise_cons.2 ⟨fun entry hmem => heq ▸ h.1 entry hmem, h.2⟩
        · rename_i hne
          refine List.pairwise_cons.2 ⟨?_, ih h.2⟩
          intro entry hmem
          rcases mem_put hmem with rfl | hmem
          · exact lt_of_not_lt hge hne
          · exact h.1 entry hmem

def insert (catalog : Catalog α) (name : String) (value : α) : Catalog α :=
  ⟨put name value catalog.entries, ordered_put name value catalog.ordered⟩

/-- The value under a name. -/
def get? (catalog : Catalog α) (name : String) : Option α :=
  (catalog.entries.find? fun entry => entry.1 == name).map Prod.snd

def contains (catalog : Catalog α) (name : String) : Bool :=
  (catalog.get? name).isSome

def size (catalog : Catalog α) : Nat :=
  catalog.entries.length

/-- The catalog of a list, where later values replace earlier ones. -/
def ofList (entries : List (String × α)) : Catalog α :=
  entries.foldl (fun catalog entry => catalog.insert entry.1 entry.2) empty

theorem get?_empty (name : String) : (empty : Catalog α).get? name = none := rfl

theorem find?_put (name other : String) (value : α) (entries : List (String × α)) :
    (put name value entries).find? (fun entry => entry.1 == other) =
      if other = name then some (name, value) else entries.find? fun entry => entry.1 == other := by
  induction entries with
  | nil =>
      by_cases h : other = name
      · simp [put, h]
      · simp [put, h, Ne.symm h]
  | cons first rest ih =>
      rw [put]
      by_cases h : other = name
      · rw [if_pos h] at ih ⊢
        split
        · simp [h]
        · split
          · simp [h]
          · rename_i hne
            have hfirst : (first.1 == other) = false := by
              rw [h]
              exact beq_false_of_ne (Ne.symm hne)
            rw [List.find?_cons, hfirst, ih]
      · have hname : (name == other) = false := beq_false_of_ne (Ne.symm h)
        rw [if_neg h] at ih ⊢
        split
        · rw [List.find?_cons, hname]
        · split
          · rename_i heq
            rw [List.find?_cons, List.find?_cons, ← heq, hname]
          · rw [List.find?_cons, List.find?_cons, ih]

theorem get?_insert (catalog : Catalog α) (name other : String) (value : α) :
    (catalog.insert name value).get? other =
      if other = name then some value else catalog.get? other := by
  rw [get?, get?, insert, find?_put]
  split
  · rfl
  · rfl

/-- Of the values of a list under a name the last one counts. -/
theorem get?_foldl_insert (catalog : Catalog α) (entries : List (String × α)) (name : String) :
    (entries.foldl (fun catalog entry => catalog.insert entry.1 entry.2) catalog).get? name =
      ((entries.reverse.find? fun entry => entry.1 == name).map Prod.snd).or
        (catalog.get? name) := by
  induction entries generalizing catalog with
  | nil =>
      rfl
  | cons first rest ih =>
      rw [List.foldl_cons, ih, get?_insert, List.reverse_cons, List.find?_append]
      cases rest.reverse.find? fun entry => entry.1 == name with
      | some entry =>
          rfl
      | none =>
          by_cases h : name = first.1
          · simp [h]
          · simp [h, Ne.symm h]

theorem get?_ofList (entries : List (String × α)) (name : String) :
    (ofList entries).get? name =
      (entries.reverse.find? fun entry => entry.1 == name).map Prod.snd := by
  rw [ofList, get?_foldl_insert, get?_empty, Option.or_none]

theorem mem_of_get?_ofList {entries : List (String × α)} {name : String} {value : α}
    (h : (ofList entries).get? name = some value) : (name, value) ∈ entries := by
  rw [get?_ofList] at h
  rcases Option.map_eq_some_iff.mp h with ⟨entry, hfind, rfl⟩
  have hsame := List.find?_some hfind
  have hname : entry.1 = name := eq_of_beq hsame
  rw [← hname]
  exact List.mem_reverse.mp (List.mem_of_find?_eq_some hfind)

theorem get?_ofList_isSome {entries : List (String × α)} {name : String} {value : α}
    (h : (name, value) ∈ entries) : ((ofList entries).get? name).isSome = true := by
  rw [get?_ofList, Option.isSome_map, List.find?_isSome]
  exact ⟨(name, value), List.mem_reverse.mpr h, beq_self_eq_true name⟩

end Catalog
end Docloom
