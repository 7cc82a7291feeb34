import Docloom.File.System
import Docloom.Proofs.Text.Split

/-!
# Canonical paths

What is there is known by its canonical path: however two paths are written, their canonical
paths are those of the locations that they lead to, and these are the same only for the same
location.
-/

namespace Docloom

/-!
# Names
-/

/-- A name that can stand between slashes for itself. -/
structure ProperName (name : String) : Prop where
  noSlash : '/' ∉ name.toList
  notIdle : Path.isIdle name.toList = false
  notParent : name.toList ≠ ['.', '.']

instance (name : String) : Decidable (ProperName name) :=
  decidable_of_iff
    ('/' ∉ name.toList ∧ Path.isIdle name.toList = false ∧ name.toList ≠ ['.', '.'])
    ⟨fun h => ⟨h.1, h.2.1, h.2.2⟩, fun h => ⟨h.noSlash, h.notIdle, h.notParent⟩⟩

def ProperLocation (location : Location) : Prop :=
  forall name, name ∈ location -> ProperName name

instance (location : Location) : Decidable (ProperLocation location) :=
  inferInstanceAs (Decidable (forall name, name ∈ location -> ProperName name))

namespace FileSystem

variable {files : FileSystem}

/-!
# Locations that are reached
-/

theorem walk_proper {parts : List (List Char)} {location reached : Location}
    (hparts : forall part, part ∈ parts -> '/' ∉ part) (hlocation : ProperLocation location)
    (h : files.walk location parts = .ok reached) : ProperLocation reached := by
  induction parts generalizing location with
  | nil =>
      cases h
      exact hlocation
  | cons part parts ih =>
      have hrest : forall other, other ∈ parts -> '/' ∉ other := by
        intro other hother
        exact hparts other (List.mem_cons_of_mem _ hother)
      rw [walk] at h
      split at h
      · cases h
      · cases h
      · split at h
        · exact ih hrest hlocation h
        · rename_i hidle
          split at h
          · apply ih hrest _ h
            intro name hname
            exact hlocation name (List.dropLast_subset _ hname)
          · rename_i hparent
            dsimp only at h
            split at h
            · cases h
            · apply ih hrest _ h
              intro name hname
              rcases List.mem_append.mp hname with hold | hnew
              · exact hlocation name hold
              · rw [List.mem_singleton.mp hnew]
                constructor
                · simpa using hparts part List.mem_cons_self
                · simpa using hidle
                · simpa using hparent

theorem find_proper (hcurrent : ProperLocation files.current) {path : Path}
    {location : Location} {entry : FileEntry} (h : files.find path = .ok (location, entry)) :
    ProperLocation location := by
  have hlocate : files.locate path = .ok location := by
    unfold find at h
    cases hlocate : files.locate path with
    | error fault =>
        rw [hlocate] at h
        cases h
    | ok reached =>
        rw [hlocate] at h
        simp only [bind, Except.bind] at h
        split at h
        · cases h
          rfl
        · cases h
  unfold locate at hlocate
  split at hlocate
  · cases hlocate
  · split at hlocate
    · cases hlocate
    · refine walk_proper ?_ ?_ hlocate
      · intro part hpart hslash
        have hnot := Text.not_separator_of_mem_splitChars hpart _ hslash
        simp at hnot
      · split
        · intro name hname
          cases hname
        · exact hcurrent

/-!
# Components of canonical paths
-/

theorem splitChars_join {location : Location} (h : ProperLocation location)
    (hne : location ≠ []) :
    Text.splitChars (· == '/') (Text.join "/" location).toList = location.map String.toList := by
  apply Text.splitChars_join_of_noSlash _ hne
  intro name hname
  exact (h name hname).noSlash

theorem components_locationPath {location : Location} (h : ProperLocation location) :
    (locationPath location).components = .root :: location.map .normal := by
  have htext : (locationPath location).text.toList =
      '/' :: (Text.join "/" location).toList := by
    simp [locationPath]
  have hparts : (locationPath location).parts =
      (['/'], Text.splitChars (· == '/') (Text.join "/" location).toList) := by
    simp [Path.parts, htext]
  rw [Path.components, hparts]
  cases location with
  | nil =>
      rfl
  | cons name rest =>
      dsimp only
      rw [splitChars_join h (by simp), List.filter_eq_self.mpr, List.map_map]
      · apply congrArg (Path.Component.root :: ·)
        apply List.map_congr_left
        intro other hother
        simp [Path.Component.ofPart, (h other hother).notParent]
      · intro part hpart
        rcases List.mem_map.mp hpart with ⟨other, hother, rfl⟩
        simp [(h other hother).notIdle]

/-- Canonical paths of different locations are different. -/
theorem locationPath_same_iff {a b : Location} (ha : ProperLocation a) (hb : ProperLocation b) :
    (locationPath a).same (locationPath b) = true ↔ a = b := by
  rw [Path.same, components_locationPath ha, components_locationPath hb, beq_iff_eq,
    List.cons_inj_right]
  constructor
  · intro hmap
    apply List.map_injective_iff.mpr _ hmap
    intro x y hxy
    cases hxy
    rfl
  · intro heq
    rw [heq]

end FileSystem
end Docloom
