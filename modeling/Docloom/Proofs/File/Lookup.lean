import Docloom.File.System
import Docloom.Proofs.Lists

/-!
# What a lookup depends on

To look up a path is to look at one location after another.  File systems that have the same at
these locations give the same answer, whatever they have elsewhere; and what is put at one
location is seen there and nowhere else.
-/

namespace Docloom
namespace Path

/-- What stands between the slashes of a path. -/
def pieces (path : Path) : List (List Char) :=
  Text.splitChars (· == '/') path.text.toList

/-- The pieces of a path that lead somewhere. -/
def steps (path : Path) : List (List Char) := path.pieces.filter (!isIdle ·)

end Path

namespace FileSystem

variable {files other : FileSystem}

/-!
# Locations along a path
-/

/-- Where a part of a path leads from a location. -/
def turn (location : Location) (part : List Char) : Location :=
  if Path.isIdle part then
    location
  else if part == ['.', '.'] then
    location.dropLast
  else
    location ++ [String.ofList part]

/-- Where the parts of a path lead from a location. -/
def endFrom (location : Location) (parts : List (List Char)) : Location :=
  parts.foldl turn location

/-- The locations that the parts of a path lead to, one after another. -/
def placesFrom (location : Location) : List (List Char) → List Location
  | [] => []
  | part :: parts => turn location part :: placesFrom (turn location part) parts

/-- The locations that are looked at along the parts of a path. What is no directory is the
last of them. -/
def consultedFrom (files : FileSystem) (location : Location) :
    List (List Char) → List Location
  | [] => [location]
  | part :: parts =>
      if files.entry? location = some .directory then
        location :: consultedFrom files (turn location part) parts
      else
        [location]

/-- Where the walk along a path starts. -/
def origin (files : FileSystem) (path : Path) : Location :=
  if path.isAbsolute then [] else files.current

/-- The locations that are looked at when a path is looked up. -/
def consulted (files : FileSystem) (path : Path) : List Location :=
  files.consultedFrom (files.origin path) path.pieces

/-- The locations that a path leads to, the last of which is its own. -/
def places (files : FileSystem) (path : Path) : List Location :=
  placesFrom (files.origin path) path.steps

/-- The location of a path, if its directories are there. -/
def target (files : FileSystem) (path : Path) : Location :=
  endFrom (files.origin path) path.pieces

theorem origin_congr (h : other.current = files.current) (path : Path) :
    other.origin path = files.origin path := by
  rw [origin, origin, h]

theorem target_congr (h : other.current = files.current) (path : Path) :
    other.target path = files.target path := by
  rw [target, target, origin_congr h]

theorem endFrom_cons (location : Location) (part : List Char) (parts : List (List Char)) :
    endFrom location (part :: parts) = endFrom (turn location part) parts := rfl

theorem endFrom_append (location : Location) (parts more : List (List Char)) :
    endFrom location (parts ++ more) = endFrom (endFrom location parts) more := by
  rw [endFrom, List.foldl_append, endFrom, endFrom]

theorem placesFrom_append (location : Location) (parts more : List (List Char)) :
    placesFrom location (parts ++ more) =
      placesFrom location parts ++ placesFrom (endFrom location parts) more := by
  induction parts generalizing location with
  | nil =>
      rfl
  | cons part parts ih =>
      rw [List.cons_append, placesFrom, ih, placesFrom, endFrom_cons, List.cons_append]

theorem placesFrom_dropLast_subset (location : Location) (parts : List (List Char)) :
    placesFrom location parts.dropLast ⊆ placesFrom location parts := by
  rcases List.eq_nil_or_concat' parts with rfl | ⟨before, last, rfl⟩
  · exact List.Subset.refl _
  · rw [List.dropLast_concat, placesFrom_append]
    exact List.subset_append_left _ _

theorem endFrom_mem_placesFrom (location : Location) {parts : List (List Char)}
    (hne : parts ≠ []) : endFrom location parts ∈ placesFrom location parts := by
  rcases List.eq_nil_or_concat' parts with rfl | ⟨before, last, rfl⟩
  · exact absurd rfl hne
  · rw [placesFrom_append, endFrom_append]
    exact List.mem_append_right _ (List.mem_singleton_self _)

theorem turn_idle {part : List Char} (h : Path.isIdle part = true) (location : Location) :
    turn location part = location := by
  rw [turn, if_pos h]

/-- Idle parts lead nowhere. -/
theorem endFrom_filter (location : Location) (parts : List (List Char)) :
    endFrom location (parts.filter (!Path.isIdle ·)) = endFrom location parts := by
  induction parts generalizing location with
  | nil =>
      rfl
  | cons part parts ih =>
      by_cases hidle : Path.isIdle part = true
      · rw [List.filter_cons_of_neg (by simpa using hidle), endFrom_cons, turn_idle hidle, ih]
      · rw [List.filter_cons_of_pos (by simpa using hidle), endFrom_cons, endFrom_cons, ih]

theorem mem_placesFrom_filter {location place : Location} {parts : List (List Char)}
    (h : place ∈ location :: placesFrom location parts) :
    place ∈ location :: placesFrom location (parts.filter (!Path.isIdle ·)) := by
  induction parts generalizing location with
  | nil =>
      exact h
  | cons part parts ih =>
      rw [placesFrom] at h
      by_cases hidle : Path.isIdle part = true
      · rw [turn_idle hidle] at h
        rw [List.filter_cons_of_neg (by simpa using hidle)]
        apply ih
        simpa using h
      · rw [List.filter_cons_of_pos (by simpa using hidle), placesFrom]
        rcases List.mem_cons.mp h with rfl | hrest
        · exact List.mem_cons_self
        · exact List.mem_cons_of_mem _ (ih hrest)

theorem target_eq_steps (files : FileSystem) (path : Path) :
    files.target path = endFrom (files.origin path) path.steps :=
  (endFrom_filter _ _).symm

/-!
# Walks
-/

/-- Whether a part of a path is a name that is too long. -/
def IsOverlong (part : List Char) : Prop :=
  Path.isIdle part = false ∧ (part == ['.', '.']) = false ∧
    maxNameSize < (String.ofList part).utf8ByteSize

theorem walk_step {location : Location} {part : List Char}
    (hentry : files.entry? location = some .directory) (hpart : ¬ IsOverlong part)
    (parts : List (List Char)) :
    files.walk location (part :: parts) = files.walk (turn location part) parts := by
  rw [walk, hentry]
  dsimp only
  unfold turn
  split
  · rfl
  · rename_i hidle
    split
    · rfl
    · rename_i hparent
      rw [if_neg]
      intro hlong
      exact hpart ⟨by simpa using hidle, by simpa using hparent, hlong⟩

theorem walk_overlong {location : Location} {part : List Char}
    (hentry : files.entry? location = some .directory) (hpart : IsOverlong part)
    (parts : List (List Char)) :
    files.walk location (part :: parts) = .error .invalidFilename := by
  rcases hpart with ⟨hidle, hparent, hlong⟩
  rw [walk, hentry]
  simp [hidle, hparent, hlong]

theorem walk_stop {location : Location} (hentry : files.entry? location ≠ some .directory)
    (part : List Char) (parts : List (List Char)) :
    exists fault, files.walk location (part :: parts) = .error fault := by
  rw [walk]
  split
  · exact ⟨_, rfl⟩
  · exact ⟨_, rfl⟩
  · rename_i hdirectory
    exact absurd hdirectory hentry

/-- A walk that gets to its end has gone through directories only. -/
theorem walk_ok {location reached : Location} {parts : List (List Char)}
    (h : files.walk location parts = .ok reached) :
    reached = endFrom location parts ∧
      forall place, place ∈ files.consultedFrom location parts ->
        place = reached ∨ files.entry? place = some .directory := by
  induction parts generalizing location with
  | nil =>
      cases h
      refine ⟨rfl, ?_⟩
      intro place hplace
      exact Or.inl (List.mem_singleton.mp hplace)
  | cons part parts ih =>
      by_cases hentry : files.entry? location = some .directory
      · by_cases hpart : IsOverlong part
        · rw [walk_overlong hentry hpart] at h
          cases h
        · rw [walk_step hentry hpart] at h
          rcases ih h with ⟨hend, hplaces⟩
          refine ⟨hend, ?_⟩
          intro place hplace
          rw [consultedFrom, if_pos hentry] at hplace
          rcases List.mem_cons.mp hplace with rfl | hrest
          · exact Or.inr hentry
          · exact hplaces place hrest
      · rcases walk_stop hentry part parts with ⟨fault, hfault⟩
        rw [hfault] at h
        cases h

/-- What a longer walk looks at, when the walk gets to a first end. -/
theorem mem_consultedFrom_append {location middle place : Location}
    {parts more : List (List Char)} (h : files.walk location parts = .ok middle)
    (hplace : place ∈ files.consultedFrom location (parts ++ more)) :
    files.entry? place = some .directory ∨ place ∈ files.consultedFrom middle more := by
  induction parts generalizing location with
  | nil =>
      cases h
      exact Or.inr hplace
  | cons part parts ih =>
      by_cases hentry : files.entry? location = some .directory
      · by_cases hpart : IsOverlong part
        · rw [walk_overlong hentry hpart] at h
          cases h
        · rw [walk_step hentry hpart] at h
          rw [List.cons_append, consultedFrom, if_pos hentry] at hplace
          rcases List.mem_cons.mp hplace with rfl | hrest
          · exact Or.inl hentry
          · exact ih h hrest
      · rcases walk_stop hentry part parts with ⟨fault, hfault⟩
        rw [hfault] at h
        cases h

/-- A walk depends on the locations that it looks at. -/
theorem walk_congr {location : Location} {parts : List (List Char)}
    (h : forall place, place ∈ files.consultedFrom location parts ->
      other.entry? place = files.entry? place) :
    other.walk location parts = files.walk location parts := by
  induction parts generalizing location with
  | nil =>
      rfl
  | cons part parts ih =>
      rw [consultedFrom] at h
      by_cases hentry : files.entry? location = some .directory
      · rw [if_pos hentry] at h
        have hother : other.entry? location = some .directory :=
          (h location List.mem_cons_self).trans hentry
        by_cases hpart : IsOverlong part
        · rw [walk_overlong hentry hpart, walk_overlong hother hpart]
        · rw [walk_step hentry hpart, walk_step hother hpart]
          apply ih
          intro place hplace
          exact h place (List.mem_cons_of_mem _ hplace)
      · rw [if_neg hentry] at h
        rw [walk, walk, h location (List.mem_singleton_self _)]
        split
        · rfl
        · rfl
        · rename_i hdirectory
          exact absurd hdirectory hentry

/-- A walk that gets to its end still does when there are more directories. -/
theorem walk_of_directories {location reached : Location} {parts : List (List Char)}
    (hstay : forall place, files.entry? place = some .directory ->
      other.entry? place = some .directory)
    (h : files.walk location parts = .ok reached) :
    other.walk location parts = .ok reached := by
  induction parts generalizing location with
  | nil =>
      exact h
  | cons part parts ih =>
      by_cases hentry : files.entry? location = some .directory
      · by_cases hpart : IsOverlong part
        · rw [walk_overlong hentry hpart] at h
          cases h
        · rw [walk_step hentry hpart] at h
          rw [walk_step (hstay location hentry) hpart]
          exact ih h
      · rcases walk_stop hentry part parts with ⟨fault, hfault⟩
        rw [hfault] at h
        cases h

/-- Where a walk ends whose directories are all there does not depend on anything else. -/
theorem walk_congr_of_directories {location : Location} {parts : List (List Char)}
    (hfiles : forall place, place ∈ location :: placesFrom location parts ->
      files.entry? place = some .directory)
    (hother : forall place, place ∈ location :: placesFrom location parts ->
      other.entry? place = some .directory) (last : List Char) :
    other.walk location (parts ++ [last]) = files.walk location (parts ++ [last]) := by
  induction parts generalizing location with
  | nil =>
      have hentry := hfiles location List.mem_cons_self
      have hentryOther := hother location List.mem_cons_self
      by_cases hlast : IsOverlong last
      · rw [List.nil_append, walk_overlong hentry hlast, walk_overlong hentryOther hlast]
      · rw [List.nil_append, walk_step hentry hlast, walk_step hentryOther hlast]
        rfl
  | cons part parts ih =>
      have hentry := hfiles location List.mem_cons_self
      have hentryOther := hother location List.mem_cons_self
      rw [List.cons_append]
      by_cases hpart : IsOverlong part
      · rw [walk_overlong hentry hpart, walk_overlong hentryOther hpart]
      · rw [walk_step hentry hpart, walk_step hentryOther hpart]
        apply ih
        · intro place hplace
          exact hfiles place (List.mem_cons_of_mem _ hplace)
        · intro place hplace
          exact hother place (List.mem_cons_of_mem _ hplace)

/-!
# Paths
-/

theorem walk_of_locate {path : Path} {location : Location}
    (h : files.locate path = .ok location) :
    files.walk (files.origin path) path.pieces = .ok location := by
  unfold locate at h
  split at h
  · cases h
  · split at h
    · cases h
    · exact h

theorem locate_of_directories {path : Path} {location : Location}
    (hcurrent : other.current = files.current)
    (hstay : forall place, files.entry? place = some .directory ->
      other.entry? place = some .directory)
    (h : files.locate path = .ok location) : other.locate path = .ok location := by
  unfold locate at h ⊢
  rw [hcurrent]
  split at h
  · cases h
  · rename_i hne
    rw [if_neg hne]
    split at h
    · cases h
    · rename_i hsize
      rw [if_neg hsize]
      exact walk_of_directories hstay h

/-- Where a path leads does not depend on anything else if all of its directories are there. -/
theorem locate_congr_of_directories {path : Path} {parts : List (List Char)} {last : List Char}
    (hcurrent : other.current = files.current) (hpieces : path.pieces = parts ++ [last])
    (hfiles : forall place,
      place ∈ files.origin path :: placesFrom (files.origin path) (parts.filter (!Path.isIdle ·)) ->
        files.entry? place = some .directory)
    (hother : forall place,
      place ∈ files.origin path :: placesFrom (files.origin path) (parts.filter (!Path.isIdle ·)) ->
        other.entry? place = some .directory) :
    other.locate path = files.locate path := by
  have hwalk : other.walk (files.origin path) path.pieces =
      files.walk (files.origin path) path.pieces := by
    rw [hpieces]
    apply walk_congr_of_directories
    · intro place hplace
      exact hfiles place (mem_placesFrom_filter hplace)
    · intro place hplace
      exact hother place (mem_placesFrom_filter hplace)
  unfold locate
  rw [hcurrent]
  split
  · rfl
  · split
    · rfl
    · exact hwalk

/-- A path leads nowhere else than to its target. -/
theorem target_of_locate {path : Path} {location : Location}
    (h : files.locate path = .ok location) : location = files.target path :=
  (walk_ok (walk_of_locate h)).1

theorem locate_of_find {path : Path} {location : Location} {entry : FileEntry}
    (h : files.find path = .ok (location, entry)) : files.locate path = .ok location := by
  unfold find at h
  cases hlocate : files.locate path with
  | error fault =>
      rw [hlocate] at h
      cases h
  | ok reached =>
      rw [hlocate] at h
      simp only [bind, Except.bind] at h
      split at h
      · cases h
        rfl
      · cases h

theorem find_of_locate {path : Path} {location : Location} {entry : FileEntry}
    (h : files.locate path = .ok location) (hentry : files.entry? location = some entry) :
    files.find path = .ok (location, entry) := by
  rw [find, h]
  simp only [bind, Except.bind, hentry]
  rfl

/-- Beside the location that it finds, a lookup looks at directories only. -/
theorem consulted_of_find {path : Path} {location place : Location} {entry : FileEntry}
    (h : files.find path = .ok (location, entry)) (hplace : place ∈ files.consulted path) :
    place = location ∨ files.entry? place = some .directory :=
  (walk_ok (walk_of_locate (locate_of_find h))).2 place hplace

theorem mem_consultedFrom_of_walk {location reached : Location} {parts : List (List Char)}
    (h : files.walk location parts = .ok reached) :
    reached ∈ files.consultedFrom location parts := by
  induction parts generalizing location with
  | nil =>
      cases h
      exact List.mem_singleton_self _
  | cons part parts ih =>
      by_cases hentry : files.entry? location = some .directory
      · rw [consultedFrom, if_pos hentry]
        by_cases hpart : IsOverlong part
        · rw [walk_overlong hentry hpart] at h
          cases h
        · rw [walk_step hentry hpart] at h
          exact List.mem_cons_of_mem _ (ih h)
      · rcases walk_stop hentry part parts with ⟨fault, hfault⟩
        rw [hfault] at h
        cases h

/-- Whether two file systems have the same wherever one of them is looked at for a path. -/
def Alike (other files : FileSystem) (path : Path) : Prop :=
  other.current = files.current ∧
    forall place, place ∈ files.consulted path -> other.entry? place = files.entry? place

namespace Alike

variable {path : Path}

theorem refl (files : FileSystem) (path : Path) : Alike files files path :=
  ⟨rfl, fun _ _ => rfl⟩

theorem locate (h : Alike other files path) : other.locate path = files.locate path := by
  unfold FileSystem.locate
  rw [h.1]
  split
  · rfl
  · split
    · rfl
    · exact walk_congr h.2

theorem find (h : Alike other files path) : other.find path = files.find path := by
  unfold FileSystem.find
  rw [h.locate]
  cases hlocate : files.locate path with
  | error fault =>
      rfl
  | ok location =>
      have hconsulted : location ∈ files.consulted path :=
        mem_consultedFrom_of_walk (walk_of_locate hlocate)
      simp only [bind, Except.bind]
      rw [h.2 location hconsulted]

theorem readText (h : Alike other files path) : other.readText path = files.readText path := by
  rw [FileSystem.readText, FileSystem.readText, h.find]

theorem canonical (h : Alike other files path) :
    other.canonical path = files.canonical path := by
  rw [FileSystem.canonical, FileSystem.canonical, h.find]

end Alike

/-!
# Entries that are put
-/

section Put

variable {location place : Location} {entry : FileEntry}

theorem entry_put_self (hne : location ≠ []) :
    FileSystem.entry? (files.put location entry) location = some entry := by
  unfold entry?
  rw [if_neg (by simpa using hne)]
  simp [put]

theorem entry_put_of_ne (hne : place ≠ location) :
    FileSystem.entry? (files.put location entry) place = files.entry? place := by
  have hother : (place == location) = false := beq_false_of_ne hne
  unfold entry?
  split
  · rfl
  · rw [put, List.lookup_cons, hother]
    exact Lists.lookup_filter_ne hne

end Put

end FileSystem
end Docloom
