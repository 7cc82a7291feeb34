import Docloom.Proofs.Lists
import Docloom.Proofs.Version.Coercion
import Docloom.Proofs.Version.Names
import Docloom.Proofs.Version.Order

/-!
# One name, one version

The name of a version directory is read in three ways: links take the name without its stage, the
table is sorted by the key of the name, and directives compare the normalized name.  On the names
that the table accepts the three agree, so the newest version in the table is also the greatest
one for directives.
-/

namespace Docloom

namespace VersionName

variable {product name version : String} {stage : ReleaseStage}

/-- A name that is accepted, and has no white space but the blank before its stage. -/
structure Tidy (product name : String) : Prop where
  accepted : exists version stage, parse product name = .ok (version, stage)
  blanks : forall before c after, name.toList = before ++ c :: after -> Text.isBlank c = true ->
    c = ' ' ∧ exists label, after = '(' :: (label ++ [')'])

/-- Whether a dated release stands in a name. -/
def ContainsDated (name : String) : Prop :=
  exists part, IsDated part ∧ part <:+: name.toList

/-- The version of a tidy name has no white space. -/
theorem Tidy.version_blank (h : Tidy product name) (hreads : Reads name version stage) {c : Char}
    (hc : c ∈ version.toList) : Text.isBlank c = false := by
  cases hreads with
  | plain _ hplain =>
      by_contra hblank
      rcases List.append_of_mem hc with ⟨before, after, hname⟩
      rcases h.blanks before c after hname (by simpa using hblank) with ⟨_, label, rfl⟩
      exact (hplain '(' (by simp [hname])).1 rfl
  | staged _ _ _ _ hversion _ =>
      exact (hversion c hc).1

/-- It is enough that the version has none. -/
theorem tidy_of_reads (hreads : Reads name version stage)
    (hblanks : version.toList.any Text.isBlank = false) : Tidy product name := by
  have hversion : forall c, c ∈ version.toList -> Text.isBlank c = false := by
    intro c hc
    simpa using List.any_eq_false.mp hblanks c hc
  refine ⟨⟨version, stage, parse_eq_ok_iff.mpr hreads⟩, ?_⟩
  intro before c after hname hblank
  have hnot : forall {cs : List Char}, (forall d, d ∈ cs -> Text.isBlank d = false) -> c ∉ cs := by
    intro cs hcs hmem
    rw [hcs c hmem] at hblank
    cases hblank
  cases hreads with
  | plain _ _ =>
      exact absurd (by simp [hname]) (hnot hversion)
  | staged _ label _ _ _ hlabel =>
      have hgroup : c ∉ '(' :: (label.toList ++ [')']) := by
        apply hnot
        intro d hd
        simp only [List.mem_cons, List.mem_append, List.not_mem_nil, or_false] at hd
        rcases hd with rfl | hd | rfl
        · decide
        · exact ((label_chars hlabel).2 d hd).1
        · decide
      rw [toList_staged] at hname
      rcases List.append_eq_append_iff.mp hname with
        ⟨between, rfl, hrest⟩ | ⟨between, hstart, hrest⟩
      · cases between with
        | nil =>
            cases hrest
            exact ⟨rfl, label.toList, rfl⟩
        | cons first between =>
            exact absurd (by simp [List.tail_eq_of_cons_eq hrest]) hgroup
      · cases between with
        | nil =>
            cases hrest
            exact ⟨rfl, label.toList, rfl⟩
        | cons first between =>
            cases hrest
            exact absurd (by simp [hstart]) (hnot hversion)

theorem clean_of_tidy (h : Tidy product name) (hreads : Reads name version stage) :
    clean name = version := by
  rw [clean, dropStage_of_reads hreads, String.ofList_toList, Text.trim,
    trim_of_no_blank fun c hc => h.version_blank hreads hc, String.ofList_toList]

theorem normalize?_of_tidy (h : Tidy product name) (hreads : Reads name version stage) :
    Version.normalize? name = Version.coerce? (Version.fillPatch version) := by
  apply Version.normalize?_of_head
  · intro hmem
    have hblank := h.version_blank hreads hmem
    cases hblank
  · cases hreads with
    | plain _ _ =>
        exact Or.inl rfl
    | staged _ label _ _ _ _ =>
        exact Or.inr ⟨'(' :: (label.toList ++ [')']), toList_staged version label⟩

/-!
# Dated releases
-/

/-- No dated release goes over a dot. -/
theorem holdsDated_fillPatch (version : String) :
    holdsDated (Version.fillPatch version).toList = holdsDated version.toList := by
  have hdot : forall part, IsDated part -> '.' ∉ part := fun part hpart =>
    hpart.not_mem (by decide) (by decide) (by decide) (by decide)
  have hshort : forall {part : List Char} {c : Char}, IsDated part -> ¬ part <:+: [c] := by
    intro part c hpart hinfix
    rcases hpart with ⟨sign, date, last, rfl, _⟩
    have hlength := hinfix.length_le
    simp at hlength
  rw [Bool.eq_iff_iff, holdsDated_iff, holdsDated_iff]
  rcases Version.fillPatch_cases version.toList with ⟨start, hversion, hfill⟩ | ⟨_, hfill⟩
  · rw [String.ofList_toList] at hfill
    rw [hfill, hversion, String.toList_ofList]
    apply exists_congr
    intro part
    apply and_congr_right
    intro hpart
    rw [Lists.infix_append_cons_iff (hdot part hpart),
      Lists.infix_append_cons_iff (hdot part hpart)]
    simp [hshort hpart]
  · rw [String.ofList_toList] at hfill
    rw [hfill]

theorem holdsDated_of_reads (hreads : Reads name version stage) :
    holdsDated name.toList = holdsDated version.toList := by
  cases hreads with
  | plain _ _ =>
      rfl
  | staged _ label _ _ _ hlabel =>
      have hblank : forall part, IsDated part -> ' ' ∉ part := fun part hpart =>
        hpart.not_mem (by decide) (by decide) (by decide) (by decide)
      have hdash : forall entry, entry ∈ stageLabels -> '-' ∉ entry.1.toList := by
        decide
      have hstage : forall part, IsDated part -> ¬ part <:+: '(' :: (label.toList ++ [')']) := by
        rintro _ ⟨sign, date, last, rfl, _⟩ hinfix
        have hmem := hinfix.subset (by simp : '-' ∈ sign :: (date ++ ['-', last]))
        have hnot := hdash _ hlabel
        simp [hnot] at hmem
      rw [Bool.eq_iff_iff, holdsDated_iff, holdsDated_iff, toList_staged]
      apply exists_congr
      intro part
      apply and_congr_right
      intro hpart
      rw [Lists.infix_append_cons_iff (hblank part hpart)]
      simp [hstage part hpart]

theorem key_eq_version_iff_of_reads (hreads : Reads name version stage) {v : Version} :
    key name = .version v ↔
      holdsDated version.toList = false ∧
        Version.coerce? (Version.fillPatch version) = some v := by
  rw [key, dropStage_of_reads hreads, String.ofList_toList, holdsDated_fillPatch]
  cases holdsDated version.toList with
  | true =>
      simp
  | false =>
      cases Version.coerce? (Version.fillPatch version) with
      | none =>
          simp
      | some found =>
          simp

/-!
# The readings agree
-/

/-- Whether names with the first key stand before names with the second in every table. -/
def Key.IsNewer (a b : Key) : Prop := a.mayPrecede b = true ∧ b.mayPrecede a = false

theorem Key.isNewer_version_iff {v w : Version} :
    (Key.version v).IsNewer (.version w) ↔ Comparator.greater.holds v w = true := by
  rw [IsNewer, ← Bool.not_eq_true, mayPrecede, mayPrecede, Bool.not_eq_true', Bool.not_eq_true',
    Bool.not_eq_false, Version.less_eq_false_iff, Version.less_iff, Comparator.holds_iff]
  exact ⟨fun h => h.2, fun h => ⟨le_of_lt h, h⟩⟩

theorem Tidy.key_eq_version_iff (h : Tidy product name) {v : Version} :
    key name = .version v ↔ ¬ ContainsDated name ∧ Version.normalize? name = some v := by
  rcases h.accepted with ⟨version, stage, hparse⟩
  have hreads := parse_eq_ok_iff.mp hparse
  rw [key_eq_version_iff_of_reads hreads, normalize?_of_tidy h hreads, ← holdsDated_of_reads hreads,
    ContainsDated, ← holdsDated_iff, Bool.not_eq_true]

/-- How the name of a version is read.

The version in links is that of the entry.  A name is sorted by a version exactly when it contains
no dated release and directives compare it by that version.  So a name is newer than another one
in the table exactly when its version is greater for directives, and no name stands behind one
with a smaller version. -/
theorem readings_exact (product : String) :
    (forall name version stage, Tidy product name ->
      parse product name = .ok (version, stage) ->
        clean name = version ∧
        forall v, key name = .version v ↔
          ¬ ContainsDated name ∧ Version.normalize? name = some v) ∧
    (forall a b v w, Tidy product a -> Tidy product b ->
      key a = .version v -> key b = .version w ->
        Version.normalize? a = some v ∧ Version.normalize? b = some w ∧
        ((key a).IsNewer (key b) ↔ Comparator.greater.holds v w = true)) ∧
    forall names, (sort names).Pairwise fun a b =>
      forall v w, Tidy product a -> Tidy product b ->
        ¬ ContainsDated a -> ¬ ContainsDated b ->
        Version.normalize? a = some v -> Version.normalize? b = some w ->
          Comparator.greater.holds w v = false := by
  refine ⟨?_, ?_, ?_⟩
  · intro name version stage htidy hparse
    exact ⟨clean_of_tidy htidy (parse_eq_ok_iff.mp hparse), fun v => htidy.key_eq_version_iff⟩
  · intro a b v w ha hb hkeyA hkeyB
    refine ⟨(ha.key_eq_version_iff.mp hkeyA).2, (hb.key_eq_version_iff.mp hkeyB).2, ?_⟩
    rw [hkeyA, hkeyB]
    exact Key.isNewer_version_iff
  · intro names
    apply (pairwise_sort names).imp
    intro a b hprecedes v w ha hb hdatedA hdatedB hnormA hnormB
    rw [ha.key_eq_version_iff.mpr ⟨hdatedA, hnormA⟩,
      hb.key_eq_version_iff.mpr ⟨hdatedB, hnormB⟩] at hprecedes
    cases hprecedes with
    | versions hle =>
        rw [← Bool.not_eq_true, Comparator.holds_iff]
        exact not_lt.mpr hle

/-- A name with a stage, which is newer than one without the letter. -/
theorem readings_exact_staged :
    Tidy "vault" "v1.10.x (rc)" ∧ clean "v1.10.x (rc)" = "v1.10.x" ∧
      Tidy "vault" "1.9.x" ∧ clean "1.9.x" = "1.9.x" ∧
      Version.normalize? "v1.10.x (rc)" = some ⟨1, 10, 0⟩ ∧
      Version.normalize? "1.9.x" = some ⟨1, 9, 0⟩ ∧
      (key "v1.10.x (rc)").IsNewer (key "1.9.x") := by
  have hparseStaged : parse "vault" "v1.10.x (rc)" = .ok ("v1.10.x", .candidate) := by
    decide
  have hparsePlain : parse "vault" "1.9.x" = .ok ("1.9.x", .stable) := by
    decide
  have hstaged : Tidy "vault" "v1.10.x (rc)" :=
    tidy_of_reads (parse_eq_ok_iff.mp hparseStaged) (by decide)
  have hplain : Tidy "vault" "1.9.x" := tidy_of_reads (parse_eq_ok_iff.mp hparsePlain) (by decide)
  have hkeyStaged : key "v1.10.x (rc)" = .version ⟨1, 10, 0⟩ := by
    decide +kernel
  have hkeyPlain : key "1.9.x" = .version ⟨1, 9, 0⟩ := by
    decide +kernel
  rcases readings_exact "vault" with ⟨hone, htwo, _⟩
  rcases htwo _ _ _ _ hstaged hplain hkeyStaged hkeyPlain with ⟨hfirst, hsecond, hnewer⟩
  exact ⟨hstaged, (hone _ _ _ hstaged hparseStaged).1, hplain, (hone _ _ _ hplain hparsePlain).1,
    hfirst, hsecond, hnewer.mpr (by decide)⟩

end VersionName
end Docloom
