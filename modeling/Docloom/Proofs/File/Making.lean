import Docloom.Proofs.File.Lookup

/-!
# Making directories and writing files

Directories are made one after another.  Each step makes nothing but the one directory that it
is about, and only where nothing was.  Whether a step fails depends on nothing but whether a file
is in its way, so it does not matter what else is made in between.
-/

namespace Docloom
namespace FileSystem

variable {files other after : FileSystem} {location place next : Location} {part : List Char}
  {parts rest : List (List Char)} {path : Path} {text : String} {fault : FileFault}

/-!
# Steps
-/

/-- Makes the directory that a part of a path leads to, where `rest` are the parts after it. -/
def makeStep (files : FileSystem) (location : Location) (part : List Char)
    (rest : List (List Char)) : FileSystem × Except FileFault Location :=
  let next := turn location part
  if Path.isIdle part || part == ['.', '.'] then
    (files, .ok next)
  else if maxNameSize < (String.ofList part).utf8ByteSize then
    (files, .error .invalidFilename)
  else
    match files.entry? next with
    | some .directory => (files, .ok next)
    | some (.file _) =>
        (files, .error (if rest.all Path.isIdle then .alreadyExists else .notADirectory))
    | none => (files.put next .directory, .ok next)

theorem makeFrom_cons :
    files.makeFrom location (part :: rest) =
      match files.makeStep location part rest with
      | (files, .ok next) => files.makeFrom next rest
      | (files, .error fault) => (files, .error fault) := by
  rw [makeFrom, makeStep, turn]
  by_cases hidle : Path.isIdle part = true
  · simp [hidle]
  · rw [Bool.not_eq_true] at hidle
    cases hparent : part == ['.', '.'] with
    | true =>
        simp [hidle]
    | false =>
        by_cases hlong : maxNameSize < (String.ofList part).utf8ByteSize
        · simp [hidle, hlong]
        · simp only [hidle, hlong, Bool.or_self, Bool.false_eq_true, if_false]
          cases files.entry? (location ++ [String.ofList part]) with
          | none =>
              rfl
          | some entry =>
              cases entry with
              | directory =>
                  rfl
              | file contents =>
                  rfl

theorem makeStep_idle (h : Path.isIdle part = true) :
    files.makeStep location part rest = (files, .ok location) := by
  rw [makeStep, turn_idle h]
  simp [h]

/-- Idle parts make nothing. -/
theorem makeFrom_filter :
    files.makeFrom location (parts.filter (!Path.isIdle ·)) = files.makeFrom location parts := by
  induction parts generalizing files location with
  | nil =>
      rfl
  | cons part rest ih =>
      by_cases hidle : Path.isIdle part = true
      · rw [List.filter_cons_of_neg (by simpa using hidle), makeFrom_cons, makeStep_idle hidle]
        exact ih
      · rw [List.filter_cons_of_pos (by simpa using hidle), makeFrom_cons, makeFrom_cons]
        have hall : (rest.filter (!Path.isIdle ·)).all Path.isIdle = rest.all Path.isIdle := by
          rw [Bool.eq_iff_iff]
          simp
        have hstep : files.makeStep location part (rest.filter (!Path.isIdle ·)) =
            files.makeStep location part rest := by
          rw [makeStep, makeStep, hall]
        rw [hstep]
        split
        · exact ih
        · rfl

/-!
# What steps change
-/

/-- Whether directories were made at some of the places, and nothing else was changed. -/
structure Grows (places : List Location) (before after : FileSystem) : Prop where
  current : after.current = before.current
  entry : forall place, after.entry? place = before.entry? place ∨
    (place ∈ places ∧ before.entry? place = none ∧ after.entry? place = some .directory)

theorem Grows.refl (places : List Location) (files : FileSystem) : Grows places files files :=
  ⟨rfl, fun _ => Or.inl rfl⟩

theorem Grows.trans {first second : List Location} {before middle after : FileSystem}
    (hfirst : Grows first before middle) (hsecond : Grows second middle after) :
    Grows (first ++ second) before after := by
  refine ⟨hsecond.current.trans hfirst.current, ?_⟩
  intro place
  rcases hsecond.entry place with hsame | ⟨hplace, hnone, hmade⟩
  · rcases hfirst.entry place with hsameFirst | ⟨hplace, hnone, hmade⟩
    · exact Or.inl (hsame.trans hsameFirst)
    · exact Or.inr ⟨List.mem_append_left _ hplace, hnone, hsame.trans hmade⟩
  · rcases hfirst.entry place with hsameFirst | ⟨_, _, hmadeFirst⟩
    · exact Or.inr ⟨List.mem_append_right _ hplace, hsameFirst.symm.trans hnone, hmade⟩
    · rw [hmadeFirst] at hnone
      cases hnone

theorem Grows.mono {first second : List Location} {before after : FileSystem}
    (h : Grows first before after) (hsubset : first ⊆ second) : Grows second before after := by
  refine ⟨h.current, ?_⟩
  intro place
  rcases h.entry place with hsame | ⟨hplace, hnone, hmade⟩
  · exact Or.inl hsame
  · exact Or.inr ⟨hsubset hplace, hnone, hmade⟩

theorem turn_ne_nil (hidle : Path.isIdle part = false) (hparent : (part == ['.', '.']) = false)
    (location : Location) : turn location part ≠ [] := by
  simp [turn, hidle, hparent]

theorem makeStep_grows :
    Grows [turn location part] files (files.makeStep location part rest).1 := by
  unfold makeStep
  dsimp only
  split
  · exact Grows.refl _ _
  · rename_i hname
    simp only [Bool.or_eq_true, not_or, Bool.not_eq_true] at hname
    split
    · exact Grows.refl _ _
    · split
      · exact Grows.refl _ _
      · exact Grows.refl _ _
      · rename_i hnone
        refine ⟨rfl, ?_⟩
        intro place
        by_cases hplace : place = turn location part
        · right
          rw [hplace]
          exact ⟨List.mem_singleton_self _, hnone,
            entry_put_self (turn_ne_nil hname.1 hname.2 location)⟩
        · exact Or.inl (entry_put_of_ne hplace)

theorem makeStep_ok (h : files.makeStep location part rest = (after, .ok next)) :
    next = turn location part := by
  unfold makeStep at h
  dsimp only at h
  split at h
  · cases h
    rfl
  · split at h
    · cases h
    · split at h
      · cases h
        rfl
      · cases h
      · cases h
        rfl

theorem makeFrom_grows :
    Grows (placesFrom location parts) files (files.makeFrom location parts).1 := by
  induction parts generalizing files location with
  | nil =>
      exact Grows.refl _ _
  | cons part rest ih =>
      have hstep : Grows [turn location part] files (files.makeStep location part rest).1 :=
        makeStep_grows
      rw [makeFrom_cons, placesFrom]
      rcases hmake : files.makeStep location part rest with ⟨middle, fault | next⟩
      · rw [hmake] at hstep
        exact hstep.mono (by simp)
      · rw [hmake] at hstep
        rw [makeStep_ok hmake]
        exact hstep.trans ih

/-!
# What steps lead to
-/

/-- Whether a location and all that it is in are directories. -/
def Standing (files : FileSystem) (location : Location) : Prop :=
  forall above, above <+: location -> files.entry? above = some .directory

theorem Grows.directory {places : List Location} {before after : FileSystem}
    (h : Grows places before after) (hplace : before.entry? place = some .directory) :
    after.entry? place = some .directory := by
  rcases h.entry place with hsame | ⟨_, hnone, _⟩
  · rw [hsame, hplace]
  · rw [hplace] at hnone
    cases hnone

theorem Grows.standing {places : List Location} {before after : FileSystem}
    (h : Grows places before after) (hlocation : before.Standing location) :
    after.Standing location := by
  intro above habove
  exact h.directory (hlocation above habove)

/-- A step that goes on has got to a directory. -/
theorem makeStep_standing (hlocation : files.Standing location)
    (h : files.makeStep location part rest = (after, .ok next)) : after.Standing next := by
  have hgrows : Grows [turn location part] files after := by
    have hstep : Grows [turn location part] files (files.makeStep location part rest).1 :=
      makeStep_grows
    rw [h] at hstep
    exact hstep
  have hlocationAfter := hgrows.standing hlocation
  have hnext := makeStep_ok h
  unfold makeStep at h
  dsimp only at h
  split at h
  · rename_i hname
    rw [hnext, turn]
    split
    · exact hlocationAfter
    · rename_i hidle
      rw [if_pos (by simpa [hidle] using hname)]
      intro above habove
      exact hlocationAfter above (habove.trans (List.dropLast_prefix _))
  · rename_i hname
    simp only [Bool.or_eq_true, not_or, Bool.not_eq_true] at hname
    have hturn : turn location part = location ++ [String.ofList part] := by
      simp [turn, hname.1, hname.2]
    have hmade : after.entry? next = some .directory := by
      rw [hnext]
      split at h
      · cases h
      · split at h
        · rename_i hdirectory
          cases h
          exact hdirectory
        · cases h
        · cases h
          exact entry_put_self (turn_ne_nil hname.1 hname.2 location)
    intro above habove
    rw [hnext, hturn] at habove
    rcases List.prefix_concat_iff.mp habove with rfl | hbefore
    · rw [hnext, hturn] at hmade
      exact hmade
    · exact hlocationAfter above hbefore

theorem makeFrom_standing (hlocation : files.Standing location)
    (h : files.makeFrom location parts = (after, .ok ())) :
    forall place, place ∈ location :: placesFrom location parts ->
      after.entry? place = some .directory := by
  induction parts generalizing files location with
  | nil =>
      cases h
      intro place hplace
      rw [List.mem_singleton.mp hplace]
      exact hlocation location (List.prefix_refl _)
  | cons part rest ih =>
      have hgrows : Grows (placesFrom location (part :: rest)) files
          (files.makeFrom location (part :: rest)).1 := makeFrom_grows
      rw [h] at hgrows
      rw [makeFrom_cons] at h
      rcases hmake : files.makeStep location part rest with ⟨middle, fault | next⟩
      · rw [hmake] at h
        cases h
      · rw [hmake] at h
        intro place hplace
        rcases List.mem_cons.mp hplace with rfl | hrest
        · exact hgrows.directory (hlocation _ (List.prefix_refl _))
        · rw [placesFrom, ← makeStep_ok hmake] at hrest
          exact ih (makeStep_standing hlocation hmake) h place hrest

/-!
# What steps depend on
-/

/-- Whether a file is at a place. -/
def HoldsFile (files : FileSystem) (place : Location) : Prop :=
  exists contents, files.entry? place = some (.file contents)

theorem Grows.holdsFile_iff {places : List Location} {before after : FileSystem}
    (h : Grows places before after) (place : Location) :
    after.HoldsFile place ↔ before.HoldsFile place := by
  unfold HoldsFile
  rcases h.entry place with hsame | ⟨_, hnone, hmade⟩
  · rw [hsame]
  · rw [hnone, hmade]
    simp

/-- Whether a step fails depends on whether a file is where it leads. -/
theorem makeStep_congr
    (h : other.HoldsFile (turn location part) ↔ files.HoldsFile (turn location part)) :
    (other.makeStep location part rest).2 = (files.makeStep location part rest).2 := by
  unfold HoldsFile at h
  unfold makeStep
  dsimp only
  split
  · rfl
  · split
    · rfl
    · cases hother : other.entry? (turn location part) with
      | none =>
          cases hfiles : files.entry? (turn location part) with
          | none =>
              rfl
          | some entry =>
              cases entry with
              | directory =>
                  rfl
              | file contents =>
                  simp [hother, hfiles] at h
      | some otherEntry =>
          cases hfiles : files.entry? (turn location part) with
          | none =>
              cases otherEntry with
              | directory =>
                  rfl
              | file contents =>
                  simp [hother, hfiles] at h
          | some entry =>
              cases otherEntry <;> cases entry <;> simp_all

theorem makeFrom_congr
    (h : forall place, place ∈ placesFrom location parts ->
      (other.HoldsFile place ↔ files.HoldsFile place)) :
    (other.makeFrom location parts).2 = (files.makeFrom location parts).2 := by
  induction parts generalizing files other location with
  | nil =>
      rfl
  | cons part rest ih =>
      have hstep : (other.makeStep location part rest).2 =
          (files.makeStep location part rest).2 :=
        makeStep_congr (h _ List.mem_cons_self)
      have hgrows : Grows [turn location part] files (files.makeStep location part rest).1 :=
        makeStep_grows
      have hgrowsOther : Grows [turn location part] other
          (other.makeStep location part rest).1 := makeStep_grows
      rw [makeFrom_cons, makeFrom_cons]
      rcases hmake : files.makeStep location part rest with ⟨middle, outcome⟩
      rcases hmakeOther : other.makeStep location part rest with ⟨middleOther, outcomeOther⟩
      rw [hmake, hmakeOther] at hstep
      rw [hmake] at hgrows
      rw [hmakeOther] at hgrowsOther
      dsimp only at hstep
      rw [hstep]
      cases outcome with
      | error fault =>
          rfl
      | ok next =>
          apply ih
          intro place hplace
          rw [makeStep_ok hmake] at hplace
          rw [hgrows.holdsFile_iff, hgrowsOther.holdsFile_iff]
          exact h place (List.mem_cons_of_mem _ hplace)

/-!
# Writing
-/

/-- Makes the directory that a path is in. -/
def makeParents (files : FileSystem) (path : Path) : FileSystem × Except FileFault Unit :=
  match path.parent? with
  | some directory => files.makeDirectories directory
  | none => (files, .ok ())

theorem writeBelow_eq :
    files.writeBelow path text =
      match files.makeParents path with
      | (files, .error fault) => (files, .error fault)
      | (files, .ok ()) =>
          match files.writeText path text with
          | .ok files => (files, .ok ())
          | .error fault => (files, .error fault) := by
  unfold writeBelow makeParents
  cases path.parent? with
  | none =>
      rfl
  | some directory =>
      dsimp only
      rcases files.makeDirectories directory with ⟨made, fault | done⟩
      · rfl
      · rfl

theorem makeDirectories_eq :
    files.makeDirectories path =
      if maxPathSize < path.text.utf8ByteSize then
        (files, .error .invalidFilename)
      else
        files.makeFrom (files.origin path) path.steps := by
  rw [makeDirectories, Path.steps, makeFrom_filter]
  rfl

theorem trimEnd_of_not_ending (h : Text.endsWith "/" text = false) :
    Text.trimEndWhile (· == '/') text = text := by
  rcases List.eq_nil_or_concat' text.toList with hnil | ⟨before, last, hconcat⟩
  · rw [Text.trimEndWhile, hnil, Text.dropEndWhile_nil, ← hnil, String.ofList_toList]
  · have hlast : ¬ (last == '/') = true := by
      intro hslash
      rw [Text.endsWith, hconcat, eq_of_beq hslash] at h
      simp [List.isSuffixOf] at h
    rw [Text.trimEndWhile, hconcat, Text.dropEndWhile_concat, if_neg hlast, ← hconcat,
      String.ofList_toList]

theorem writeText_eq (hending : Text.endsWith "/" path.text = false) :
    files.writeText path text =
      match files.locate path with
      | .error fault => .error fault
      | .ok location =>
          if files.entry? location = some .directory then
            .error .isADirectory
          else
            .ok (files.put location (.file (.text text))) := by
  rw [writeText, trimEnd_of_not_ending hending]
  cases files.locate path with
  | error fault =>
      rfl
  | ok location =>
      simp only [bind, Except.bind, hending, Bool.false_eq_true, false_or]
      rfl

/-- A file that is written is put at the target of its path. -/
theorem writeText_ok (hending : Text.endsWith "/" path.text = false)
    (h : files.writeText path text = .ok after) :
    after = files.put (files.target path) (.file (.text text)) ∧
      files.entry? (files.target path) ≠ some .directory ∧
      files.locate path = .ok (files.target path) := by
  rw [writeText_eq hending] at h
  cases hlocate : files.locate path with
  | error fault =>
      rw [hlocate] at h
      cases h
  | ok location =>
      rw [hlocate] at h
      dsimp only at h
      split at h
      · cases h
      · rename_i hentry
        cases h
        rw [← target_of_locate hlocate]
        exact ⟨rfl, hentry, rfl⟩

/-- Whether a file can be written depends on where its path leads and on whether a directory is
there. -/
theorem writeText_congr (hending : Text.endsWith "/" path.text = false)
    (hlocate : other.locate path = files.locate path)
    (hentry : other.entry? (files.target path) = some .directory ↔
      files.entry? (files.target path) = some .directory) :
    (other.writeText path text).map (fun _ => ()) =
      (files.writeText path text).map (fun _ => ()) := by
  rw [writeText_eq hending, writeText_eq hending, hlocate]
  cases hfound : files.locate path with
  | error fault =>
      rfl
  | ok location =>
      rw [target_of_locate hfound] at *
      dsimp only
      by_cases hdirectory : files.entry? (files.target path) = some .directory
      · rw [if_pos hdirectory, if_pos (hentry.mpr hdirectory)]
      · rw [if_neg hdirectory, if_neg (fun h => hdirectory (hentry.mp h))]
        rfl

end FileSystem
end Docloom
