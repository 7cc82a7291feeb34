import Docloom.Proofs.Text.Trim
import Docloom.Version.Name
import Mathlib.Data.List.Basic

/-!
# Names without their stages

Links name a version by its directory without the release stage; the version table splits the
directory into the version and the stage.  The two agree on each name that the table accepts,
but for the white space around it.
-/

namespace Docloom

namespace VersionName

variable {cs rest after : List Char} {product name version : String} {stage : ReleaseStage}

/-!
# What is cut off
-/

theorem afterGroup?_sublist (h : afterGroup? cs = some after) :
    after.Sublist cs := by
  unfold afterGroup? at h
  split at h
  · rename_i rest
    split at h
    · rename_i hdrop
      cases h
      have hafter : (after).Sublist (rest.dropWhile (· != ')')) := by
        rw [hdrop]
        exact List.sublist_cons_self _ _
      exact (hafter.trans (List.dropWhile_sublist _)).cons _
    · cases h
  · cases h

theorem dropStage_eq (c : Char) (rest : List Char) :
    dropStage (c :: rest) =
      match afterGroup? ((c :: rest).dropWhile Text.isBlank) with
      | some after => after
      | none => c :: dropStage rest := by
  rfl

theorem dropStage_sublist (cs : List Char) : (dropStage cs).Sublist cs := by
  induction cs with
  | nil =>
      exact List.Sublist.refl []
  | cons c rest ih =>
      rw [dropStage_eq]
      split
      · rename_i hgroup
        exact (afterGroup?_sublist hgroup).trans (List.dropWhile_sublist _)
      · exact ih.cons_cons c

/-- A name without its release stage has no characters but those of the name. -/
theorem clean_sublist (name : String) : (clean name).toList.Sublist name.toList := by
  rw [clean, Text.trim, String.toList_ofList, String.toList_ofList]
  have htrim : forall cs : List Char, (Text.trimWhile Text.isBlank cs).Sublist cs := by
    intro cs
    rw [Text.trimWhile, Text.dropEndWhile]
    have hend := (List.dropWhile_sublist (l := (cs.dropWhile Text.isBlank).reverse)
      Text.isBlank).reverse
    rw [List.reverse_reverse] at hend
    exact hend.trans (List.dropWhile_sublist _)
  exact (htrim _).trans (dropStage_sublist _)

/-!
# The two ways to read a name
-/

theorem dropStage_of_plain (h : '(' ∉ cs) : dropStage cs = cs := by
  induction cs with
  | nil =>
      rfl
  | cons c rest ih =>
      have hgroup : afterGroup? ((c :: rest).dropWhile Text.isBlank) = none := by
        unfold afterGroup?
        split
        · rename_i hdrop
          have hmem := (List.dropWhile_sublist Text.isBlank).subset
            (hdrop ▸ List.mem_cons_self : '(' ∈ (c :: rest).dropWhile Text.isBlank)
          exact absurd hmem h
        · rfl
      rw [dropStage_eq, hgroup]
      dsimp only
      rw [ih fun hrest => h (List.mem_cons_of_mem c hrest)]

/-- A character that begins no stage stays. -/
theorem dropStage_cons {c : Char} (hblank : Text.isBlank c = false) (hparen : c ≠ '(') :
    dropStage (c :: rest) = c :: dropStage rest := by
  have hgroup : afterGroup? ((c :: rest).dropWhile Text.isBlank) = none := by
    rw [List.dropWhile_cons_of_neg (by simp [hblank])]
    unfold afterGroup?
    split
    · rename_i heq
      cases heq
      exact absurd rfl hparen
    · rfl
  rw [dropStage_eq, hgroup]

theorem dropStage_group {label : List Char} (hne : label ≠ []) (hlabel : ')' ∉ label) :
    dropStage (' ' :: '(' :: (label ++ [')'])) = [] := by
  have hinside : forall c, c ∈ label -> (c != ')') = true := by
    intro c hc
    rw [bne_iff_ne]
    rintro rfl
    exact hlabel hc
  have htake : (label ++ [')']).takeWhile (· != ')') = label := by
    rw [List.takeWhile_append_of_pos hinside]
    simp
  have hdrop : (label ++ [')']).dropWhile (· != ')') = [')'] := by
    rw [List.dropWhile_append_of_pos hinside]
    simp
  have hgroup : afterGroup? ((' ' :: '(' :: (label ++ [')'])).dropWhile Text.isBlank) =
      some [] := by
    have hopen : (' ' :: '(' :: (label ++ [')'])).dropWhile Text.isBlank =
        '(' :: (label ++ [')']) := by
      rw [List.dropWhile_cons_of_pos (by decide), List.dropWhile_cons_of_neg (by decide)]
    rw [hopen, afterGroup?, htake, hdrop]
    cases label with
    | nil =>
        exact absurd rfl hne
    | cons c label =>
        rfl
  rw [dropStage_eq, hgroup]

theorem dropStage_append_group {label : List Char}
    (h : forall c, c ∈ cs -> Text.isBlank c = false ∧ c ≠ '(') (hne : label ≠ [])
    (hlabel : ')' ∉ label) : dropStage (cs ++ ' ' :: '(' :: (label ++ [')'])) = cs := by
  induction cs with
  | nil =>
      exact dropStage_group hne hlabel
  | cons c rest ih =>
      rcases h c List.mem_cons_self with ⟨hblank, hparen⟩
      rw [List.cons_append, dropStage_cons hblank hparen,
        ih fun d hd => h d (List.mem_cons_of_mem c hd)]

/-- Whether a character may stand in the version before a stage. -/
def IsVersionChar (c : Char) : Prop := Text.isBlank c = false ∧ c ≠ '(' ∧ c ≠ ')'

/-- A name with a stage has nothing but the version, one blank and the stage. -/
theorem splitStage?_eq_some_iff {name version label : List Char} :
    splitStage? name = some (version, label) ↔
      name = version ++ ' ' :: '(' :: (label ++ [')']) ∧ version ≠ [] ∧
        (forall c, c ∈ version -> IsVersionChar c) ∧
        forall c, c ∈ label -> c ≠ '(' ∧ c ≠ ')' := by
  constructor
  · intro h
    unfold splitStage? at h
    dsimp only at h
    split at h
    · rename_i rest hdrop
      split at h
      · rename_i hparts
        rcases hparts with ⟨hlast, hne⟩
        cases h
        refine ⟨?_, hne, ?_, ?_⟩
        · rw [← hlast, List.takeWhile_append_dropWhile, ← hdrop, List.takeWhile_append_dropWhile]
        · intro c hc
          have hword := List.all_eq_true.mp List.all_takeWhile c hc
          simp only [Bool.and_eq_true, Bool.not_eq_true', bne_iff_ne] at hword
          exact ⟨hword.1.1, hword.1.2, hword.2⟩
        · intro c hc
          have hlabel := List.all_eq_true.mp List.all_takeWhile c hc
          simpa only [Bool.and_eq_true, bne_iff_ne] using hlabel
      · cases h
    · cases h
  · rintro ⟨rfl, hne, hversion, hlabel⟩
    have hword : forall c, c ∈ version ->
        (!Text.isBlank c && c != '(' && c != ')') = true := by
      intro c hc
      simpa [IsVersionChar, and_assoc] using hversion c hc
    have hinside : forall c, c ∈ label -> (c != '(' && c != ')') = true := by
      intro c hc
      simpa using hlabel c hc
    have hblank : Text.isBlank ' ' = true := by
      decide
    unfold splitStage?
    simp [List.takeWhile_append_of_pos hword, List.dropWhile_append_of_pos hword,
      List.takeWhile_append_of_pos hinside, List.dropWhile_append_of_pos hinside, hblank, hne]

/-!
# Dated releases
-/

theorem startsDated_iff :
    startsDated cs = true ↔
      exists sign date first rest, cs = sign :: (date ++ '-' :: first :: rest) ∧
        (sign = 'v' ∨ sign = 'V') ∧ date.length = 6 ∧
        (forall c, c ∈ date -> c.isDigit = true) ∧ Text.isDecimal first = true := by
  constructor
  · intro h
    cases cs with
    | nil =>
        cases h
    | cons sign tail =>
        simp only [startsDated, Bool.and_eq_true, Bool.or_eq_true, beq_iff_eq,
          List.all_eq_true] at h
        rcases h with ⟨⟨⟨hsign, hlength⟩, hdigits⟩, hfirst⟩
        split at hfirst
        · rename_i first rest hdrop
          refine ⟨sign, tail.take 6, first, rest, ?_, hsign, hlength, hdigits, hfirst⟩
          rw [← hdrop, List.take_append_drop]
        · cases hfirst
  · rintro ⟨sign, date, first, rest, rfl, hsign, hlength, hdigits, hfirst⟩
    have htake : (date ++ '-' :: first :: rest).take 6 = date := by
      rw [← hlength, List.take_left]
    have hdrop : (date ++ '-' :: first :: rest).drop 6 = '-' :: first :: rest := by
      rw [← hlength, List.drop_left]
    simp only [startsDated, htake, hdrop, hlength, Bool.and_eq_true, Bool.or_eq_true,
      beq_iff_eq, List.all_eq_true]
    exact ⟨⟨⟨hsign, trivial⟩, hdigits⟩, hfirst⟩

/-- Whether a text is a dated release, such as `v202410-1`, up to the first digit of its number. -/
def IsDated (part : List Char) : Prop :=
  exists sign date last, part = sign :: (date ++ ['-', last]) ∧ (sign = 'v' ∨ sign = 'V') ∧
    date.length = 6 ∧ (forall c, c ∈ date -> c.isDigit = true) ∧ Text.isDecimal last = true

theorem startsDated_iff_prefix :
    startsDated cs = true ↔ exists part, IsDated part ∧ part <+: cs := by
  rw [startsDated_iff]
  constructor
  · rintro ⟨sign, date, last, rest, rfl, hdated⟩
    exact ⟨sign :: (date ++ ['-', last]), ⟨sign, date, last, rfl, hdated⟩, rest, by simp⟩
  · rintro ⟨_, ⟨sign, date, last, rfl, hdated⟩, rest, rfl⟩
    exact ⟨sign, date, last, rest, by simp, hdated⟩

theorem holdsDated_iff : holdsDated cs = true ↔ exists part, IsDated part ∧ part <:+: cs := by
  induction cs with
  | nil =>
      constructor
      · intro h
        cases h
      · rintro ⟨_, ⟨sign, date, last, rfl, _⟩, hinfix⟩
        cases List.infix_nil.mp hinfix
  | cons c rest ih =>
      rw [holdsDated, Bool.or_eq_true, ih, startsDated_iff_prefix]
      simp only [List.infix_cons_iff, and_or_left, exists_or]

/-- A character of no dated release. -/
theorem IsDated.not_mem {part : List Char} {c : Char} (h : IsDated part)
    (hdecimal : Text.isDecimal c = false) (hsmall : c ≠ 'v') (hlarge : c ≠ 'V') (hdash : c ≠ '-') :
    c ∉ part := by
  rcases h with ⟨sign, date, last, rfl, hsign, _, hdate, hlast⟩
  intro hmem
  simp only [List.mem_cons, List.mem_append, List.not_mem_nil, or_false] at hmem
  rcases hmem with rfl | hmem | rfl | rfl
  · exact hsign.elim hsmall hlarge
  · rw [Text.isDecimal_of_isDigit (hdate c hmem)] at hdecimal
    cases hdecimal
  · exact hdash rfl
  · rw [hlast] at hdecimal
    cases hdecimal

/-!
# What a name stands for
-/

/-- The labels of stages. -/
def stageLabels : List (String × ReleaseStage) :=
  [("alpha", .alpha), ("beta", .beta), ("rc", .candidate)]

theorem ofLabel?_eq_some_iff {label : String} :
    ReleaseStage.ofLabel? label = some stage ↔ (label, stage) ∈ stageLabels := by
  unfold ReleaseStage.ofLabel? stageLabels
  constructor
  · intro h
    split at h
    · cases h
      simp_all
    · split at h
      · cases h
        simp_all
      · split at h
        · cases h
          simp_all
        · cases h
  · intro h
    simp only [List.mem_cons, Prod.mk.injEq, List.not_mem_nil, or_false] at h
    rcases h with ⟨rfl, rfl⟩ | ⟨rfl, rfl⟩ | ⟨rfl, rfl⟩ <;> rfl

/-- What a name stands for.  Without parentheses it is a stable version itself; any other name is
a version, one blank, and the label of a stage in parentheses. -/
inductive Reads : String -> String -> ReleaseStage -> Prop where
  | plain (name : String) (no_stage : forall c, c ∈ name.toList -> c ≠ '(' ∧ c ≠ ')') :
      Reads name name .stable
  | staged (version label : String) (stage : ReleaseStage) (version_ne : version ≠ "")
      (version_chars : forall c, c ∈ version.toList -> IsVersionChar c)
      (label_stage : (label, stage) ∈ stageLabels) :
      Reads (version ++ " (" ++ label ++ ")") version stage

theorem toList_staged (version label : String) :
    (version ++ " (" ++ label ++ ")").toList =
      version.toList ++ ' ' :: '(' :: (label.toList ++ [')']) := by
  simp

theorem label_chars {label : String} (h : (label, stage) ∈ stageLabels) :
    label.toList ≠ [] ∧ forall c, c ∈ label.toList -> IsVersionChar c := by
  have hall : (stageLabels.all fun entry => !entry.1.toList.isEmpty && entry.1.toList.all fun c =>
      !Text.isBlank c && (c != '(' && c != ')')) = true := by
    decide
  have hlabel := List.all_eq_true.mp hall _ h
  simpa [IsVersionChar] using hlabel

/-- The names that are accepted are those that stand for something, and they are read so. -/
theorem parse_eq_ok_iff : parse product name = .ok (version, stage) ↔ Reads name version stage := by
  have hany : (name.toList.any fun c => c == '(' || c == ')') = true ↔
      ¬ forall c, c ∈ name.toList -> c ≠ '(' ∧ c ≠ ')' := by
    simp only [List.any_eq_true, Bool.or_eq_true, beq_iff_eq, not_forall, exists_prop]
    grind
  constructor
  · intro h
    unfold parse at h
    split at h
    · split at h
      · cases h
      · rename_i found label hsplit
        rcases splitStage?_eq_some_iff.mp hsplit with ⟨hname, hne, hfound, _⟩
        split at h
        · rename_i hstage
          cases h
          have hlabel := ofLabel?_eq_some_iff.mp hstage
          have heq : name = String.ofList found ++ " (" ++ String.ofList label ++ ")" := by
            apply String.toList_inj.mp
            rw [toList_staged, String.toList_ofList, String.toList_ofList, hname]
          rw [heq]
          refine .staged _ _ _ ?_ ?_ hlabel
          · rw [ne_eq, ← String.toList_eq_nil_iff, String.toList_ofList]
            exact hne
          · rw [String.toList_ofList]
            exact hfound
        · cases h
    · rename_i hplain
      cases h
      exact .plain name (by simpa [hany] using hplain)
  · intro h
    cases h with
    | plain _ hplain =>
        have hnone : ¬ (name.toList.any fun c => c == '(' || c == ')') = true := by
          rw [hany, not_not]
          exact hplain
        rw [parse, if_neg hnone]
    | staged _ label _ hne hversion hlabel =>
        have hsplit : splitStage? (version ++ " (" ++ label ++ ")").toList =
            some (version.toList, label.toList) := by
          rw [splitStage?_eq_some_iff, ne_eq, String.toList_eq_nil_iff]
          exact ⟨toList_staged version label, hne, hversion,
            fun c hc => ((label_chars hlabel).2 c hc).2⟩
        have hparens : ((version ++ " (" ++ label ++ ")").toList.any
            fun c => c == '(' || c == ')') = true := by
          rw [toList_staged]
          simp
        rw [parse, if_pos hparens, hsplit]
        simp only [String.ofList_toList, ofLabel?_eq_some_iff.mpr hlabel]

/-!
# Names without white space around them
-/

theorem trim_of_no_blank {cs : List Char} (h : forall c, c ∈ cs -> Text.isBlank c = false) :
    Text.trimWhile Text.isBlank cs = cs :=
  Text.trimWhile_of_trimmed
    ⟨fun c hc => h c (List.mem_of_head? hc), fun c hc => h c (List.mem_of_getLast? hc)⟩

theorem dropStage_of_reads (h : Reads name version stage) :
    dropStage name.toList = version.toList := by
  cases h with
  | plain _ hplain =>
      exact dropStage_of_plain fun hmem => (hplain '(' hmem).1 rfl
  | staged _ label _ _ hversion hlabel =>
      rw [toList_staged]
      refine dropStage_append_group ?_ (label_chars hlabel).1 ?_
      · exact fun c hc => ⟨(hversion c hc).1, (hversion c hc).2.1⟩
      · exact fun hmem => ((label_chars hlabel).2 ')' hmem).2.2 rfl

/-- The two ways to read a name give the same version, unless white space stands around it. -/
theorem clean_of_parse (h : parse product name = .ok (version, stage))
    (htrim : Text.trim name = name) : clean name = version := by
  have hreads := parse_eq_ok_iff.mp h
  rw [clean, dropStage_of_reads hreads, String.ofList_toList]
  cases hreads with
  | plain _ _ =>
      exact htrim
  | staged _ label _ _ hversion _ =>
      rw [Text.trim, trim_of_no_blank fun c hc => (hversion c hc).1, String.ofList_toList]

end VersionName
end Docloom
