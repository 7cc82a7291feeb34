import Docloom.Proofs.Lists
import Docloom.Proofs.Version.Names
import Docloom.Proofs.Version.Order
import Docloom.Version.Table
import Mathlib.Data.List.Forall2

/-!
# Ranking the versions of a product

The entries of a product are those of the names of its directories, in the order of their keys.
One of them is the latest: the first stable one, which no other stable one outranks, or the first
of all when none is stable.
-/

namespace Docloom

namespace VersionEntry

variable {product : String} {names sorted : List String} {entries read : List VersionEntry}

/-!
# The latest entry
-/

/-- Whether the latest of entries stands between the ones before it and the ones after it. -/
def IsLatestAmong (before : List VersionEntry) (latest : VersionEntry)
    (after : List VersionEntry) : Prop :=
  (latest.stage = .stable ∧ forall other, other ∈ before -> other.stage ≠ .stable) ∨
    (before = [] ∧ forall other, other ∈ latest :: after -> other.stage ≠ .stable)

theorem isStable_iff {stage : ReleaseStage} : stage.isStable = true ↔ stage = .stable := by
  cases stage <;> decide

theorem exists_latest (hne : entries ≠ []) :
    exists before latest after, entries = before ++ latest :: after ∧
      latestIndex entries = before.length ∧ IsLatestAmong before latest after := by
  have hleading : forall entry, entry ∈ entries.takeWhile (fun entry => !entry.stage.isStable) ->
      entry.stage ≠ .stable := by
    intro entry hentry hstable
    have hpassed := List.all_eq_true.mp List.all_takeWhile entry hentry
    rw [hstable] at hpassed
    cases hpassed
  have hsplit := List.takeWhile_append_dropWhile
    (p := fun entry : VersionEntry => !entry.stage.isStable) (l := entries)
  cases hrest : entries.dropWhile fun entry => !entry.stage.isStable with
  | nil =>
      rw [hrest, List.append_nil] at hsplit
      cases hentries : entries with
      | nil =>
          exact absurd hentries hne
      | cons first after =>
          refine ⟨[], first, after, rfl, ?_, Or.inr ⟨rfl, ?_⟩⟩
          · rw [← hentries, latestIndex, hsplit]
            simp
          · rwa [hsplit, hentries] at hleading
  | cons latest after =>
      rw [hrest] at hsplit
      refine ⟨entries.takeWhile fun entry => !entry.stage.isStable, latest, after, hsplit.symm,
        ?_, Or.inl ⟨?_, hleading⟩⟩
      · have hlength := congrArg List.length hsplit
        rw [List.length_append, List.length_cons] at hlength
        rw [latestIndex, if_neg (by omega)]
      · have hhead := List.head?_dropWhile_not (fun entry : VersionEntry => !entry.stage.isStable)
          entries
        rw [hrest] at hhead
        simpa [isStable_iff] using hhead

theorem modify_append_cons {α : Type} (before after : List α) (item : α) (f : α -> α) :
    (before ++ item :: after).modify before.length f = before ++ f item :: after := by
  simp [List.modify, List.modifyTailIdx_eq_take_drop]

/-- Marking changes the latest entry alone. -/
theorem exists_markLatest (hne : entries ≠ []) :
    exists before latest after, entries = before ++ latest :: after ∧
      markLatest entries = before ++ { latest with isLatest := true } :: after ∧
      IsLatestAmong before latest after := by
  rcases exists_latest hne with ⟨before, latest, after, hentries, hindex, hlatest⟩
  refine ⟨before, latest, after, hentries, ?_, hlatest⟩
  rw [markLatest, hindex, hentries, modify_append_cons]

/-- Whether one of the entries is the latest, and marked as the only one. -/
def MarksLatest (entries : List VersionEntry) : Prop :=
  exists before latest after, entries = before ++ latest :: after ∧ latest.isLatest = true ∧
    (forall other, other ∈ before ++ after -> other.isLatest = false) ∧
    IsLatestAmong before latest after

theorem marksLatest_markLatest (hne : entries ≠ [])
    (hfresh : forall entry, entry ∈ entries -> entry.isLatest = false) :
    MarksLatest (markLatest entries) := by
  rcases exists_markLatest hne with ⟨before, latest, after, rfl, hmarked, hlatest⟩
  refine ⟨before, { latest with isLatest := true }, after, hmarked, rfl, ?_, ?_⟩
  · intro other hother
    apply hfresh other
    rcases List.mem_append.mp hother with hbefore | hafter
    · exact List.mem_append_left _ hbefore
    · exact List.mem_append_right _ (List.mem_cons_of_mem _ hafter)
  · rcases hlatest with hstable | ⟨hbefore, hunstable⟩
    · exact Or.inl hstable
    · refine Or.inr ⟨hbefore, ?_⟩
      intro other hother
      rcases List.mem_cons.mp hother with rfl | hafter
      · exact hunstable latest List.mem_cons_self
      · exact hunstable other (List.mem_cons_of_mem _ hafter)

/-- The latest entry stands at one place, and the stable ones do not stand before it. -/
theorem MarksLatest.exists_index (h : MarksLatest entries) :
    exists index, forall (k : Nat) (entry : VersionEntry), entries[k]? = some entry ->
      (entry.isLatest = true -> k = index) ∧ (entry.stage = .stable -> index ≤ k) := by
  rcases h with ⟨before, latest, after, rfl, _, hother, hlatest⟩
  refine ⟨before.length, ?_⟩
  intro k entry hentry
  rcases Nat.lt_trichotomy k before.length with hlt | rfl | hgt
  · rw [List.getElem?_append_left hlt] at hentry
    have hmem := List.mem_of_getElem? hentry
    constructor
    · intro hmarked
      rw [hother entry (List.mem_append_left _ hmem)] at hmarked
      cases hmarked
    · intro hstable
      rcases hlatest with ⟨_, hunstable⟩ | ⟨rfl, _⟩
      · exact absurd hstable (hunstable entry hmem)
      · cases hmem
  · exact ⟨fun _ => rfl, fun _ => Nat.le_refl _⟩
  · refine ⟨?_, fun _ => Nat.le_of_lt hgt⟩
    intro hmarked
    rw [List.getElem?_append_right (Nat.le_of_lt hgt), List.getElem?_cons,
      if_neg (by omega)] at hentry
    rw [hother entry (List.mem_append_right _ (List.mem_of_getElem? hentry))] at hmarked
    cases hmarked

/-!
# The entries of names
-/

/-- What an entry says of its name. -/
def label (entry : VersionEntry) : String × ReleaseStage := (entry.version, entry.stage)

theorem map_label_markLatest (entries : List VersionEntry) :
    (markLatest entries).map label = entries.map label := by
  apply List.ext_getElem?
  intro k
  rw [markLatest, List.getElem?_map, List.getElem?_map, List.getElem?_modify]
  cases entries[k]? with
  | none =>
      rfl
  | some entry =>
      by_cases hk : latestIndex entries = k <;> simp [hk, label]

theorem ofName_eq_ok_iff {name : String} {entry : VersionEntry} :
    ofName product name = .ok entry ↔
      VersionName.Reads name entry.version entry.stage ∧ entry.isLatest = false := by
  have hreads : VersionName.parse product name = .ok (entry.version, entry.stage) ↔
      VersionName.Reads name entry.version entry.stage :=
    VersionName.parse_eq_ok_iff
  rw [← hreads]
  unfold ofName
  cases VersionName.parse product name with
  | error error =>
      simp
  | ok found =>
      rcases entry with ⟨version, stage, isLatest⟩
      simp only [Except.ok.injEq, mk.injEq, Prod.ext_iff]
      constructor
      · rintro ⟨rfl, rfl, rfl⟩
        exact ⟨⟨rfl, rfl⟩, rfl⟩
      · rintro ⟨⟨rfl, rfl⟩, rfl⟩
        exact ⟨rfl, rfl, rfl⟩

/-- There is one entry for each name, with its version and its stage. -/
def ReadInTurn (names : List String) (entries : List VersionEntry) : Prop :=
  List.Forall₂
    (fun name (entry : VersionEntry) => VersionName.Reads name entry.version entry.stage)
    names entries

theorem readInTurn_iff {names : List String} {entries : List VersionEntry} :
    ReadInTurn names entries ↔
      List.Forall₂ (fun name found => VersionName.Reads name found.1 found.2) names
        (entries.map label) := by
  rw [List.forall₂_map_right_iff]
  rfl

theorem ReadInTurn.markLatest (h : ReadInTurn names entries) :
    ReadInTurn names (markLatest entries) := by
  rw [readInTurn_iff, map_label_markLatest, ← readInTurn_iff]
  exact h

/-- What the entries of a product are, for its names in the order of the table. -/
structure Ranks (names sorted : List String) (entries : List VersionEntry) : Prop where
  perm : sorted.Perm names
  reads : ReadInTurn sorted entries
  ordered : sorted.Pairwise fun a b => (VersionName.key a).Precedes (VersionName.key b)
  /-- Names with one key stay in their order. -/
  stable : forall key, sorted.filter (fun name => VersionName.key name = key) =
    names.filter fun name => VersionName.key name = key
  latest : entries ≠ [] -> MarksLatest entries
  /-- No stable entry has a key above that of the latest. -/
  greatest : forall name other latest entry,
    (name, latest) ∈ sorted.zip entries -> (other, entry) ∈ sorted.zip entries ->
      latest.isLatest = true -> entry.stage = .stable ->
        (VersionName.key name).Precedes (VersionName.key other)

theorem precedes_of_marksLatest {name other : String} {latest entry : VersionEntry}
    (hordered : sorted.Pairwise fun a b => (VersionName.key a).Precedes (VersionName.key b))
    (hmarks : MarksLatest entries) (hlatest : (name, latest) ∈ sorted.zip entries)
    (hentry : (other, entry) ∈ sorted.zip entries) (hmarked : latest.isLatest = true)
    (hstable : entry.stage = .stable) :
    (VersionName.key name).Precedes (VersionName.key other) := by
  rcases hmarks.exists_index with ⟨index, hindex⟩
  rcases List.mem_iff_getElem?.mp hlatest with ⟨i, hi⟩
  rcases List.mem_iff_getElem?.mp hentry with ⟨j, hj⟩
  rw [List.getElem?_zip_eq_some] at hi hj
  obtain rfl : i = index := (hindex i latest hi.2).1 hmarked
  rcases Nat.eq_or_lt_of_le ((hindex j entry hj.2).2 hstable) with rfl | hlt
  · obtain rfl : name = other := Option.some.inj (hi.1.symm.trans hj.1)
    exact VersionName.Key.Precedes.refl _
  · rcases List.getElem?_eq_some_iff.mp hi.1 with ⟨hname, rfl⟩
    rcases List.getElem?_eq_some_iff.mp hj.1 with ⟨hother, rfl⟩
    exact List.pairwise_iff_getElem.mp hordered i j hname hother hlt

theorem exists_of_ofNames (h : ofNames product names = .ok entries) :
    exists read, (VersionName.sort names).mapM (ofName product) = .ok read ∧
      entries = markLatest read := by
  unfold ofNames at h
  split at h
  · rename_i read hread
    cases h
    exact ⟨read, hread, rfl⟩
  · cases h

theorem ranks_of_ofNames (h : ofNames product names = .ok entries) :
    Ranks names (VersionName.sort names) entries := by
  rcases exists_of_ofNames h with ⟨read, hread, rfl⟩
  have hnamed := (Lists.forall₂_of_mapM hread).imp fun _ _ => ofName_eq_ok_iff.mp
  have hfresh : forall entry, entry ∈ read -> entry.isLatest = false := by
    intro entry hentry
    rcases (Lists.mem_iff_of_mapM hread).mp hentry with ⟨name, _, hname⟩
    exact (ofName_eq_ok_iff.mp hname).2
  have hmarks : markLatest read ≠ [] -> MarksLatest (markLatest read) := by
    intro hne
    apply marksLatest_markLatest _ hfresh
    rintro rfl
    exact hne rfl
  have hordered := VersionName.pairwise_sort names
  exact
    { perm := VersionName.sort_perm names
      reads := ReadInTurn.markLatest (hnamed.imp fun _ _ hname => hname.1)
      ordered := hordered
      stable := VersionName.filter_sort names
      latest := hmarks
      greatest := fun name other latest entry hlatest hentry =>
        precedes_of_marksLatest hordered
          (hmarks (List.ne_nil_of_mem (List.of_mem_zip hlatest).2)) hlatest hentry }

theorem exists_reads_of_ofNames {name : String} (h : ofNames product names = .ok entries)
    (hname : name ∈ names) : exists version stage, VersionName.Reads name version stage := by
  rcases exists_of_ofNames h with ⟨read, hread, _⟩
  rcases Lists.exists_of_mapM hread ((VersionName.sort_perm names).mem_iff.mpr hname) with
    ⟨entry, hentry⟩
  exact ⟨entry.version, entry.stage, (ofName_eq_ok_iff.mp hentry).1⟩

/-- How the entries of a product come out.

There are entries exactly when each name stands for something.  Then there is one for each name,
they are in the order of the keys of the names, names with one key stay in their order, and one
entry is the latest. -/
theorem ofNames_exact (product : String) (names : List String) :
    ((exists entries, ofNames product names = .ok entries) ↔
      forall name, name ∈ names ->
        exists version stage, VersionName.Reads name version stage) ∧
    forall entries, ofNames product names = .ok entries ->
      exists sorted, Ranks names sorted entries := by
  refine ⟨⟨?_, ?_⟩, fun entries h => ⟨VersionName.sort names, ranks_of_ofNames h⟩⟩
  · rintro ⟨entries, h⟩ name hname
    exact exists_reads_of_ofNames h hname
  · intro hreads
    have hsorted : forall name, name ∈ VersionName.sort names ->
        exists entry, ofName product name = .ok entry := by
      intro name hname
      rcases hreads name ((VersionName.sort_perm names).mem_iff.mp hname) with
        ⟨version, stage, hread⟩
      exact ⟨⟨version, stage, false⟩, ofName_eq_ok_iff.mpr ⟨hread, rfl⟩⟩
    rcases Lists.exists_mapM hsorted with ⟨entries, hentries⟩
    exact ⟨markLatest entries, by rw [ofNames, hentries]⟩

/-- The newest of these is no release yet, and the dated one is not compared by numbers. -/
theorem ofNames_exact_staged :
    exists sorted, Ranks ["v202410-1", "v1.9.x", "v1.10.x (rc)"] sorted
      [⟨"v1.10.x", .candidate, false⟩, ⟨"v1.9.x", .stable, true⟩,
        ⟨"v202410-1", .stable, false⟩] := by
  have hdated : (VersionName.key "v202410-1").mayPrecede (VersionName.key "v1.9.x") = false := by
    decide +kernel
  have hnumbers :
      (VersionName.key "v1.9.x").mayPrecede (VersionName.key "v1.10.x (rc)") = false := by
    decide +kernel
  have hsort : VersionName.sort ["v202410-1", "v1.9.x", "v1.10.x (rc)"] =
      ["v1.10.x (rc)", "v1.9.x", "v202410-1"] := by
    simp [VersionName.sort, List.mergeSort, List.MergeSort.Internal.splitInTwo, hdated, hnumbers]
  have hentries : ofNames "vault" ["v202410-1", "v1.9.x", "v1.10.x (rc)"] =
      .ok [⟨"v1.10.x", .candidate, false⟩, ⟨"v1.9.x", .stable, true⟩,
        ⟨"v202410-1", .stable, false⟩] := by
    rw [ofNames, hsort]
    rfl
  exact (ofNames_exact "vault" _).2 _ hentries

end VersionEntry

end Docloom
