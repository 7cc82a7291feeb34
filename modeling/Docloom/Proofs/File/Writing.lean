import Docloom.Proofs.File.Discovery
import Docloom.Proofs.File.Making

/-!
# Files that were written

Writing a file removes nothing: directories stay directories and files stay files.  What was
written is read back, and as long as nothing is removed, making the same directories again makes
nothing and ends the same.
-/

namespace Docloom
namespace FileSystem

variable {files later after : FileSystem} {location place next : Location} {part : List Char}
  {parts rest : List (List Char)} {path : Path} {text : String} {fault : FileFault}

/-!
# What lasts
-/

/-- Whether each directory is still a directory and each file still a file. -/
structure Lasts (before after : FileSystem) : Prop where
  current : after.current = before.current
  directory : forall place, before.entry? place = some .directory ->
    after.entry? place = some .directory
  file : forall place, before.HoldsFile place -> after.HoldsFile place

theorem Lasts.refl (files : FileSystem) : Lasts files files :=
  ⟨rfl, fun _ h => h, fun _ h => h⟩

theorem Lasts.trans {before middle after : FileSystem} (hfirst : Lasts before middle)
    (hsecond : Lasts middle after) : Lasts before after := by
  refine ⟨hsecond.current.trans hfirst.current, ?_, ?_⟩
  · intro place hplace
    exact hsecond.directory place (hfirst.directory place hplace)
  · intro place hplace
    exact hsecond.file place (hfirst.file place hplace)

theorem Grows.lasts {places : List Location} {before after : FileSystem}
    (h : Grows places before after) : Lasts before after := by
  refine ⟨h.current, fun _ => h.directory, ?_⟩
  intro place hplace
  exact (h.holdsFile_iff place).mpr hplace

theorem lasts_put (h : files.entry? location ≠ some .directory) (contents : Contents) :
    Lasts files (files.put location (.file contents)) := by
  have hne : location ≠ [] := by
    rintro rfl
    exact h rfl
  refine ⟨rfl, ?_, ?_⟩
  · intro place hplace
    rw [entry_put_of_ne]
    · exact hplace
    · rintro rfl
      exact h hplace
  · rintro place ⟨found, hfound⟩
    by_cases hplace : place = location
    · rw [hplace]
      exact ⟨contents, entry_put_self hne⟩
    · exact ⟨found, (entry_put_of_ne hplace).trans hfound⟩

/-!
# Reading what was written
-/

/-- A file that can be written has a path without a slash at the end. -/
theorem endsWith_of_writeText (h : files.writeText path text = .ok after) :
    Text.endsWith "/" path.text = false := by
  unfold writeText at h
  cases hends : Text.endsWith "/" path.text with
  | false =>
      rfl
  | true =>
      cases hlocate : files.locate ⟨Text.trimEndWhile (· == '/') path.text⟩ with
      | error fault =>
          rw [hlocate] at h
          cases h
      | ok location =>
          rw [hlocate] at h
          simp only [bind, Except.bind, hends, true_or, if_true] at h
          cases h

theorem exists_writeText_of_writeBelow (h : files.writeBelow path text = (after, .ok ())) :
    exists made : FileSystem, made.writeText path text = .ok after := by
  rw [writeBelow_eq] at h
  rcases hmake : files.makeParents path with ⟨made, fault | done⟩
  · rw [hmake] at h
    cases h
  · rw [hmake] at h
    dsimp only at h
    cases hwrite : made.writeText path text with
    | error fault =>
        rw [hwrite] at h
        cases h
    | ok written =>
        rw [hwrite] at h
        cases h
        exact ⟨made, hwrite⟩

theorem endsWith_of_writeBelow (h : files.writeBelow path text = (after, .ok ())) :
    Text.endsWith "/" path.text = false := by
  rcases exists_writeText_of_writeBelow h with ⟨made, hwrite⟩
  exact endsWith_of_writeText hwrite

/-- What was written is read back. -/
theorem readText_of_writeBelow (h : files.writeBelow path text = (after, .ok ())) :
    after.readText path = .ok text := by
  rcases exists_writeText_of_writeBelow h with ⟨made, hwrite⟩
  rcases writeText_ok (endsWith_of_writeText hwrite) hwrite with ⟨rfl, hdirectory, hlocate⟩
  have hne : made.target path ≠ [] := by
    intro hnil
    rw [hnil] at hdirectory
    exact hdirectory rfl
  have hlasts := lasts_put hdirectory (.text text)
  have hfound := locate_of_directories hlasts.current hlasts.directory hlocate
  rw [readText, find_of_locate hfound (entry_put_self hne)]
  rfl

/-!
# Making again what was made
-/

/-- A step that is taken again makes nothing and ends the same. -/
theorem makeStep_again (h : Lasts (files.makeStep location part rest).1 later) :
    later.makeStep location part rest = (later, (files.makeStep location part rest).2) := by
  unfold makeStep at h ⊢
  dsimp only at h ⊢
  by_cases hname : (Path.isIdle part || part == ['.', '.']) = true
  · rw [if_pos hname, if_pos hname]
  · rw [if_neg hname] at h
    rw [if_neg hname, if_neg hname]
    by_cases hlong : maxNameSize < (String.ofList part).utf8ByteSize
    · rw [if_pos hlong, if_pos hlong]
    · rw [if_neg hlong] at h
      rw [if_neg hlong, if_neg hlong]
      cases hentry : files.entry? (turn location part) with
      | none =>
          rw [hentry] at h
          simp only [Bool.or_eq_true, not_or, Bool.not_eq_true] at hname
          have hmade := h.directory _
            (entry_put_self (turn_ne_nil hname.1 hname.2 location))
          rw [hmade]
      | some entry =>
          rw [hentry] at h
          cases entry with
          | directory =>
              rw [h.directory _ hentry]
          | file contents =>
              rcases h.file _ ⟨contents, hentry⟩ with ⟨found, hfound⟩
              rw [hfound]

theorem makeFrom_again (h : Lasts (files.makeFrom location parts).1 later) :
    later.makeFrom location parts = (later, (files.makeFrom location parts).2) := by
  induction parts generalizing files location with
  | nil =>
      rfl
  | cons part rest ih =>
      rw [makeFrom_cons] at h ⊢
      rw [makeFrom_cons]
      rcases hmake : files.makeStep location part rest with ⟨middle, outcome⟩
      rw [hmake] at h
      have hmiddle : Lasts middle later := by
        cases outcome with
        | error fault =>
            exact h
        | ok next =>
            exact makeFrom_grows.lasts.trans h
      have hstep : later.makeStep location part rest = (later, outcome) := by
        have hagain := @makeStep_again files later location part rest
        rw [hmake] at hagain
        exact hagain hmiddle
      rw [hstep]
      cases outcome with
      | error fault =>
          rfl
      | ok next =>
          exact ih h

theorem makeDirectories_grows :
    Grows (placesFrom (files.origin path) path.steps) files (files.makeDirectories path).1 := by
  rw [makeDirectories_eq]
  split
  · exact .refl _ files
  · exact makeFrom_grows

theorem makeDirectories_again (h : Lasts (files.makeDirectories path).1 later) :
    later.makeDirectories path = (later, (files.makeDirectories path).2) := by
  have hcurrent : later.current = files.current :=
    h.current.trans makeDirectories_grows.current
  rw [makeDirectories_eq] at h ⊢
  rw [makeDirectories_eq]
  split
  · rfl
  · rename_i hsize
    rw [if_neg hsize] at h
    rw [origin_congr hcurrent]
    exact makeFrom_again h

theorem makeParents_grows :
    exists places, Grows places files (files.makeParents path).1 := by
  unfold makeParents
  split
  · exact ⟨_, makeDirectories_grows⟩
  · exact ⟨[], .refl [] files⟩

theorem makeParents_lasts : Lasts files (files.makeParents path).1 := by
  rcases @makeParents_grows files path with ⟨places, hgrows⟩
  exact hgrows.lasts

theorem makeParents_again (h : Lasts (files.makeParents path).1 later) :
    later.makeParents path = (later, (files.makeParents path).2) := by
  unfold makeParents at h ⊢
  cases hparent : path.parent? with
  | none =>
      rfl
  | some directory =>
      rw [hparent] at h
      exact makeDirectories_again h

/-!
# What writing changes
-/

/-- A file is written after its directory was made, to where there is no directory; or nothing
is made but directories. -/
theorem writeBelow_cases (hending : Text.endsWith "/" path.text = false) :
    (exists fault, files.writeBelow path text = ((files.makeParents path).1, .error fault)) ∨
      (exists made, files.makeParents path = (made, .ok ()) ∧
        made.entry? (files.target path) ≠ some .directory ∧
        made.locate path = .ok (files.target path) ∧
        files.writeBelow path text = (made.put (files.target path) (.file (.text text)), .ok ())) := by
  rw [writeBelow_eq]
  rcases hmake : files.makeParents path with ⟨made, fault | done⟩
  · exact Or.inl ⟨fault, rfl⟩
  · have htarget : made.target path = files.target path := by
      have hlasts := @makeParents_lasts files path
      rw [hmake] at hlasts
      exact target_congr hlasts.current path
    dsimp only
    cases hwrite : made.writeText path text with
    | error fault =>
        exact Or.inl ⟨fault, rfl⟩
    | ok after =>
        rcases writeText_ok hending hwrite with ⟨hafter, hdirectory, hlocate⟩
        rw [htarget] at hafter hdirectory hlocate
        refine Or.inr ⟨made, rfl, hdirectory, hlocate, ?_⟩
        rw [hafter]

/-- Whether a text can be written at a path: its directory can be made, and the path then leads to
where there is no directory. -/
structure Writable (files : FileSystem) (path : Path) : Prop where
  ending : Text.endsWith "/" path.text = false
  parents : (files.makeParents path).2 = .ok ()
  reached : (files.makeParents path).1.locate path = .ok (files.target path)
  free : FileSystem.entry? (files.makeParents path).1 (files.target path) ≠ some .directory

theorem Writable.exists_writeBelow (h : files.Writable path) (text : String) :
    exists after, files.writeBelow path text = (after, .ok ()) := by
  rcases h with ⟨hending, hparents, hreached, hfree⟩
  rcases hmake : files.makeParents path with ⟨made, outcome⟩
  rw [hmake] at hparents hreached hfree
  dsimp only at hparents hreached hfree
  rw [writeBelow_eq, hmake, hparents]
  dsimp only
  rw [writeText_eq hending, hreached]
  dsimp only
  rw [if_neg hfree]
  exact ⟨_, rfl⟩

/-- A path can be written at if and only if writing there succeeds, whatever is written. -/
theorem writable_iff :
    files.Writable path ↔ exists after, files.writeBelow path text = (after, .ok ()) := by
  constructor
  · intro h
    exact h.exists_writeBelow text
  · rintro ⟨after, hafter⟩
    have hending := endsWith_of_writeBelow hafter
    rcases @writeBelow_cases files path text hending with
      ⟨fault, hwrite⟩ | ⟨made, hmake, hfree, hreached, hwrite⟩
    · rw [hafter] at hwrite
      cases hwrite
    · constructor
      · exact hending
      · rw [hmake]
      · rw [hmake]
        exact hreached
      · rw [hmake]
        exact hfree

theorem writeBelow_lasts (hending : Text.endsWith "/" path.text = false) :
    Lasts files (files.writeBelow path text).1 := by
  have hparents := @makeParents_lasts files path
  rcases @writeBelow_cases files path text hending with
    ⟨fault, hwrite⟩ | ⟨made, hmake, hdirectory, _, hwrite⟩
  · rw [hwrite]
    exact hparents
  · rw [hmake] at hparents
    rw [hwrite]
    exact hparents.trans (lasts_put hdirectory _)

/-- Writing leaves the files at other places as they are. -/
theorem entry_writeBelow_of_file {contents : Contents}
    (hending : Text.endsWith "/" path.text = false)
    (hentry : files.entry? place = some (.file contents)) (hother : place ≠ files.target path) :
    FileSystem.entry? (files.writeBelow path text).1 place = some (.file contents) := by
  have hmade : FileSystem.entry? (files.makeParents path).1 place = some (.file contents) := by
    rcases @makeParents_grows files path with ⟨places, hgrows⟩
    rcases hgrows.entry place with hsame | ⟨_, hnone, _⟩
    · exact hsame.trans hentry
    · rw [hentry] at hnone
      cases hnone
  rcases @writeBelow_cases files path text hending with
    ⟨fault, hwrite⟩ | ⟨made, hparents, _, _, hwrite⟩
  · rw [hwrite]
    exact hmade
  · rw [hparents] at hmade
    rw [hwrite, entry_put_of_ne hother]
    exact hmade

/-- What was written is at the target of its path, which still leads there. -/
theorem entry_writeBelow (hending : Text.endsWith "/" path.text = false)
    (h : files.writeBelow path text = (after, .ok ())) :
    after.locate path = .ok (files.target path) ∧
      after.entry? (files.target path) = some (.file (.text text)) := by
  rcases @writeBelow_cases files path text hending with
    ⟨fault, hwrite⟩ | ⟨made, _, hdirectory, hlocate, hwrite⟩
  · rw [h] at hwrite
    cases hwrite
  · rw [h] at hwrite
    cases hwrite
    have hne : files.target path ≠ [] := by
      intro hnil
      rw [hnil] at hdirectory
      exact hdirectory rfl
    have hlasts := lasts_put hdirectory (.text text)
    exact ⟨locate_of_directories hlasts.current hlasts.directory hlocate, entry_put_self hne⟩

/-- Writing that is done again ends the same, if what a path leads through was made when its
directory was. -/
theorem writeBelow_again {last : List Char} {other : String}
    (hending : Text.endsWith "/" path.text = false) (hpieces : path.pieces = parts ++ [last])
    (hmade : forall made, files.makeParents path = (made, .ok ()) -> forall place,
      place ∈ files.origin path :: placesFrom (files.origin path) (parts.filter (!Path.isIdle ·)) ->
        made.entry? place = some .directory)
    (h : Lasts (files.writeBelow path text).1 later) :
    (later.writeBelow path other).2 = (files.writeBelow path text).2 := by
  rw [writeBelow_eq] at h ⊢
  rw [writeBelow_eq]
  rcases hmake : files.makeParents path with ⟨made, fault | done⟩
  · rw [hmake] at h
    have hagain : later.makeParents path = (later, .error fault) := by
      have hparents := @makeParents_again files later path
      rw [hmake] at hparents
      exact hparents h
    rw [hagain]
  · rw [hmake] at h
    dsimp only at h ⊢
    have hplaces := hmade made hmake
    have horigin : made.origin path = files.origin path := by
      have hlasts := @makeParents_lasts files path
      rw [hmake] at hlasts
      exact origin_congr hlasts.current path
    rw [← horigin] at hplaces
    have hlasts : Lasts made later := by
      cases hwrite : made.writeText path text with
      | error fault =>
          rw [hwrite] at h
          exact h
      | ok after =>
          rw [hwrite] at h
          rcases writeText_ok hending hwrite with ⟨rfl, hdirectory, _⟩
          exact (lasts_put hdirectory _).trans h
    have hagain : later.makeParents path = (later, .ok ()) := by
      have hparents := @makeParents_again files later path
      rw [hmake] at hparents
      exact hparents hlasts
    have hlocate : later.locate path = made.locate path :=
      locate_congr_of_directories hlasts.current hpieces hplaces
        (fun place hplace => hlasts.directory place (hplaces place hplace))
    rw [hagain]
    dsimp only
    rw [writeText_eq hending] at h ⊢
    rw [writeText_eq hending, hlocate]
    cases hfound : made.locate path with
    | error fault =>
        rfl
    | ok location =>
        rw [hfound] at h
        dsimp only at h ⊢
        by_cases hdirectory : made.entry? location = some .directory
        · rw [if_pos hdirectory, if_pos (hlasts.directory location hdirectory)]
        · rw [if_neg hdirectory] at h ⊢
          have hne : location ≠ [] := by
            rintro rfl
            exact hdirectory rfl
          rcases h.file location ⟨_, entry_put_self hne⟩ with ⟨contents, hcontents⟩
          have hfile : FileSystem.entry? later location ≠ some .directory := by
            rw [hcontents]
            simp
          rw [if_neg hfile]

/-!
# Proper file systems
-/

theorem Proper.properLocation (h : files.Proper) {entry : FileEntry}
    (hentry : files.entry? location = some entry) : ProperLocation location := by
  unfold entry? at hentry
  split at hentry
  · rename_i hempty
    rw [List.isEmpty_iff.mp hempty]
    intro name hname
    cases hname
  · rcases List.lookup_eq_some_iff.mp hentry with ⟨before, after, hentries, _⟩
    apply h.names (location, entry)
    rw [hentries]
    simp

theorem Proper.origin (h : files.Proper) (path : Path) : ProperLocation (files.origin path) := by
  unfold FileSystem.origin
  split
  · intro name hname
    cases hname
  · exact h.properLocation (h.current _ (List.prefix_refl _))

theorem turn_proper (hlocation : ProperLocation location) (hslash : '/' ∉ part) :
    ProperLocation (turn location part) := by
  unfold turn
  split
  · exact hlocation
  · rename_i hidle
    split
    · intro name hname
      exact hlocation name (List.dropLast_subset _ hname)
    · rename_i hparent
      intro name hname
      rcases List.mem_append.mp hname with hbefore | hlast
      · exact hlocation name hbefore
      · rw [List.mem_singleton.mp hlast]
        constructor
        · simpa using hslash
        · simpa using hidle
        · simpa using hparent

theorem endFrom_proper (hlocation : ProperLocation location)
    (hslash : forall part, part ∈ parts -> '/' ∉ part) :
    ProperLocation (endFrom location parts) := by
  induction parts generalizing location with
  | nil =>
      exact hlocation
  | cons part rest ih =>
      rw [endFrom_cons]
      apply ih (turn_proper hlocation (hslash part List.mem_cons_self))
      intro other hother
      exact hslash other (List.mem_cons_of_mem _ hother)

theorem Proper.put (h : files.Proper) {entry : FileEntry} (hlocation : ProperLocation location)
    (hlasts : Lasts files (files.put location entry)) : (files.put location entry).Proper := by
  constructor
  · rw [FileSystem.put, List.map_cons, List.nodup_cons]
    constructor
    · intro hmem
      rcases List.mem_map.mp hmem with ⟨other, hother, hsame⟩
      have hne := (List.mem_filter.mp hother).2
      simp [hsame] at hne
    · exact h.distinct.sublist (List.filter_sublist.map Prod.fst)
  · intro other hother
    rcases List.mem_cons.mp hother with rfl | hbefore
    · exact hlocation
    · exact h.names other (List.mem_filter.mp hbefore).1
  · intro above habove
    rw [hlasts.current] at habove
    exact hlasts.directory above (h.current above habove)

theorem Proper.makeStep (h : files.Proper) (hlocation : ProperLocation location)
    (hslash : '/' ∉ part) : (files.makeStep location part rest).1.Proper := by
  have hlasts : Lasts files (files.makeStep location part rest).1 := makeStep_grows.lasts
  unfold FileSystem.makeStep at hlasts ⊢
  dsimp only at hlasts ⊢
  split
  · exact h
  · rename_i hname
    rw [if_neg hname] at hlasts
    split
    · exact h
    · rename_i hlong
      rw [if_neg hlong] at hlasts
      split
      · exact h
      · exact h
      · rename_i hnone
        rw [hnone] at hlasts
        exact h.put (turn_proper hlocation hslash) hlasts

theorem Proper.makeFrom (h : files.Proper) (hlocation : ProperLocation location)
    (hslash : forall part, part ∈ parts -> '/' ∉ part) :
    (files.makeFrom location parts).1.Proper := by
  induction parts generalizing files location with
  | nil =>
      exact h
  | cons part rest ih =>
      have hpart := hslash part List.mem_cons_self
      have hstep : (files.makeStep location part rest).1.Proper := h.makeStep hlocation hpart
      rw [makeFrom_cons]
      rcases hmake : files.makeStep location part rest with ⟨middle, fault | next⟩
      · rw [hmake] at hstep
        exact hstep
      · rw [hmake] at hstep
        apply ih hstep
        · rw [makeStep_ok hmake]
          exact turn_proper hlocation hpart
        · intro other hother
          exact hslash other (List.mem_cons_of_mem _ hother)

theorem Proper.makeParents (h : files.Proper) (path : Path) :
    (files.makeParents path).1.Proper := by
  unfold FileSystem.makeParents
  split
  · rename_i directory _
    rw [makeDirectories_eq]
    split
    · exact h
    · apply h.makeFrom (h.origin directory)
      intro part hpart
      exact Path.noSlash_of_mem_pieces (List.mem_filter.mp hpart).1
  · exact h

/-- Writing a file leaves a file system that could be one of a machine. -/
theorem Proper.writeBelow (h : files.Proper) (hending : Text.endsWith "/" path.text = false) :
    (files.writeBelow path text).1.Proper := by
  have hparents := h.makeParents path
  rcases @writeBelow_cases files path text hending with
    ⟨fault, hwrite⟩ | ⟨made, hmake, hdirectory, _, hwrite⟩
  · rw [hwrite]
    exact hparents
  · rw [hmake] at hparents
    rw [hwrite]
    apply hparents.put _ (lasts_put hdirectory _)
    apply endFrom_proper (h.origin path)
    intro part hpart
    exact Path.noSlash_of_mem_pieces hpart

end FileSystem
end Docloom
