import Docloom.Proofs.Version.Expression

/-!
# Runs of digits

The major part of a version is the first run of digits in a text that is not too long, and the
other parts are the runs that follow it after a dot each.  So the text of a version holds that
version.
-/

namespace Docloom
namespace Version

variable {cs passed before after rest digits : List Char} {c : Char} {version : Version}
  {major other numeral : Numeral}

/-!
# Runs in a text
-/

/-- Whether the digits of a text are all of the Latin script. -/
def LatinDigits (cs : List Char) : Prop :=
  forall c, c ∈ cs -> Text.isDecimal c = true -> c.isDigit = true

/-- Whether a numeral stands in a text without a digit right before it or right after it. -/
structure Numeral.RunIn (numeral : Numeral) (cs before after : List Char) : Prop where
  text_eq : cs = before ++ (numeral.digits ++ after)
  start : forall c, before.getLast? = some c -> Text.isDecimal c = false
  stop : StartsOther after

/-- Whether no other numeral is a run further to the front. -/
structure Numeral.FirstIn (numeral : Numeral) (cs before after : List Char) : Prop where
  run : numeral.RunIn cs before after
  first : forall (other : Numeral) (before' after' : List Char), other.RunIn cs before' after' ->
    before.length ≤ before'.length

/-- What the minor part and the patch part of a version are when a text follows the major part:
the numerals that are runs after a dot, or zero. -/
inductive PartsAfter : List Char -> Nat -> Nat -> Prop where
  | none {cs : List Char} (h : forall (minor : Numeral) rest, ¬ minor.RunIn cs ['.'] rest) :
      PartsAfter cs 0 0
  | minor {cs rest : List Char} {minor : Numeral} (hminor : minor.RunIn cs ['.'] rest)
      (h : forall (patch : Numeral) last, ¬ patch.RunIn rest ['.'] last) :
      PartsAfter cs minor.value 0
  | patch {cs rest last : List Char} {minor patch : Numeral} (hminor : minor.RunIn cs ['.'] rest)
      (hpatch : patch.RunIn rest ['.'] last) : PartsAfter cs minor.value patch.value

theorem LatinDigits.of_append (h : LatinDigits (before ++ after)) :
    LatinDigits before ∧ LatinDigits after :=
  ⟨fun c hc => h c (List.mem_append_left _ hc), fun c hc => h c (List.mem_append_right _ hc)⟩

theorem exists_numeral (hlatin : LatinDigits digits) (hpart : IsPart digits) :
    exists numeral : Numeral, numeral.digits = digits :=
  ⟨⟨digits, hpart.ne_nil, hpart.length_le,
    List.all_eq_true.mpr fun c hc => hlatin c hc (hpart.decimal c hc)⟩, rfl⟩

namespace Numeral

theorem value_eq (h : numeral.digits = other.digits) : numeral.value = other.value := by
  rw [value, value, h]

theorem FirstIn.unique (h : major.FirstIn cs before after)
    (hother : other.FirstIn cs passed rest) :
    major.digits = other.digits ∧ after = rest := by
  have hlength : before.length = passed.length :=
    Nat.le_antisymm (h.first _ _ _ hother.run) (hother.first _ _ _ h.run)
  have htext : major.digits ++ after = other.digits ++ rest :=
    (List.append_inj (h.run.text_eq.symm.trans hother.run.text_eq) hlength).2
  rcases major.span_digits h.run.stop with ⟨htake, hdrop⟩
  rcases other.span_digits hother.run.stop with ⟨htakeOther, hdropOther⟩
  rw [htext] at htake hdrop
  exact ⟨htake.symm.trans htakeOther, hdrop.symm.trans hdropOther⟩

end Numeral

/-!
# The parts after the major part
-/

theorem dotted?_of_runIn (h : numeral.RunIn cs ['.'] rest) :
    dotted? cs = some (numeral.digits, rest) := by
  rw [h.text_eq, List.singleton_append, numeral.dotted?_digits h.stop]

theorem runIn_of_dotted (hlatin : LatinDigits cs) (h : dotted? cs = some (digits, rest)) :
    exists numeral : Numeral, numeral.digits = digits ∧ numeral.RunIn cs ['.'] rest := by
  rcases of_dotted h with ⟨hpart, hrest, rfl⟩
  have hlatinAll : LatinDigits (['.'] ++ (digits ++ rest)) := hlatin
  rcases exists_numeral hlatinAll.of_append.2.of_append.1 hpart with ⟨numeral, rfl⟩
  refine ⟨numeral, rfl, rfl, ?_, hrest⟩
  intro c hc
  cases hc
  exact Text.isDecimal_dot

theorem dotted?_eq_none (hlatin : LatinDigits cs)
    (h : forall (numeral : Numeral) rest, ¬ numeral.RunIn cs ['.'] rest) : dotted? cs = none := by
  rw [Option.eq_none_iff_forall_ne_some]
  rintro ⟨digits, rest⟩ hdotted
  rcases runIn_of_dotted hlatin hdotted with ⟨numeral, _, hrun⟩
  exact h numeral rest hrun

theorem withRest_of_parts {minor patch : Nat} (hlatin : LatinDigits cs)
    (h : PartsAfter cs minor patch) :
    withRest major.digits cs = some ⟨major.value, minor, patch⟩ := by
  cases h with
  | none hnone =>
      rw [withRest, major.number?_digits, dotted?_eq_none hlatin hnone]
      rfl
  | minor hminor hnone =>
      rename_i rest minor
      have hlatinRest : LatinDigits rest := by
        rw [hminor.text_eq] at hlatin
        exact hlatin.of_append.2.of_append.2
      rw [withRest, major.number?_digits, dotted?_of_runIn hminor]
      simp [minor.number?_digits, dotted?_eq_none hlatinRest hnone]
  | patch hminor hpatch =>
      rename_i rest last minor patch
      rw [withRest, major.number?_digits, dotted?_of_runIn hminor]
      simp [minor.number?_digits, dotted?_of_runIn hpatch, patch.number?_digits]

theorem exists_parts (cs : List Char) : exists minor patch, PartsAfter cs minor patch := by
  by_cases hminor : exists (minor : Numeral) (rest : List Char), minor.RunIn cs ['.'] rest
  · rcases hminor with ⟨minor, rest, hminor⟩
    by_cases hpatch : exists (patch : Numeral) (last : List Char), patch.RunIn rest ['.'] last
    · rcases hpatch with ⟨patch, last, hpatch⟩
      exact ⟨minor.value, patch.value, .patch hminor hpatch⟩
    · exact ⟨minor.value, 0, .minor hminor fun patch last hrun => hpatch ⟨patch, last, hrun⟩⟩
  · exact ⟨0, 0, .none fun minor rest hrun => hminor ⟨minor, rest, hrun⟩⟩

/-!
# The first run
-/

/-- Whether the runs of a text that has something in front of it are those of the text. -/
def PassedBy (passed rest : List Char) : Prop :=
  forall (numeral : Numeral) (before after : List Char),
    numeral.RunIn (passed ++ rest) before after ↔
      exists before', before = passed ++ before' ∧ numeral.RunIn rest before' after

theorem runIn_of_append (h : numeral.RunIn (passed ++ rest) (passed ++ before) after) :
    numeral.RunIn rest before after := by
  refine ⟨?_, ?_, h.stop⟩
  · have htext := h.text_eq
    rw [List.append_assoc] at htext
    exact List.append_cancel_left htext
  · intro c hc
    apply h.start c
    rw [List.getLast?_append, hc]
    rfl

theorem runIn_append (h : numeral.RunIn rest before after)
    (hpassed : before = [] -> forall c, passed.getLast? = some c -> Text.isDecimal c = false) :
    numeral.RunIn (passed ++ rest) (passed ++ before) after := by
  refine ⟨by rw [h.text_eq, List.append_assoc], ?_, h.stop⟩
  intro c hc
  rw [List.getLast?_append] at hc
  cases hlast : before.getLast? with
  | none =>
      rw [hlast, Option.none_or] at hc
      exact hpassed (List.getLast?_eq_none_iff.mp hlast) c hc
  | some d =>
      rw [hlast, Option.some_or] at hc
      exact h.start c (hlast.trans hc)

theorem passedBy_other (hc : Text.isDecimal c = false) (rest : List Char) :
    PassedBy [c] rest := by
  intro numeral before after
  constructor
  · intro h
    have htext := h.text_eq
    cases before with
    | nil =>
        rcases List.exists_cons_of_ne_nil numeral.ne_nil with ⟨d, others, hdigits⟩
        rw [hdigits] at htext
        cases htext
        have hdecimal := numeral.decimal (hdigits ▸ List.mem_cons_self)
        rw [hc] at hdecimal
        cases hdecimal
    | cons d before =>
        cases htext
        exact ⟨before, rfl, runIn_of_append h⟩
  · intro h
    rcases h with ⟨before', rfl, hrun⟩
    apply runIn_append hrun
    intro _ d hd
    cases hd
    exact hc

/-- A run that is too long is no numeral, and no part of it is a run. -/
theorem passedBy_long (hpassed : forall c, c ∈ passed -> Text.isDecimal c = true)
    (hlong : digitLimit < passed.length) (hrest : StartsOther rest) : PassedBy passed rest := by
  intro numeral before after
  constructor
  · intro h
    rcases List.append_eq_append_iff.mp h.text_eq with ⟨before', rfl, _⟩ | ⟨others, rfl, htext⟩
    · exact ⟨before', rfl, runIn_of_append h⟩
    · -- The run would begin in the digits that are passed by, and so be all of them.
      rcases List.eq_nil_or_concat' before with rfl | ⟨first, c, rfl⟩
      · rw [List.nil_append] at hpassed hlong
        have hspan := (numeral.span_digits h.stop).1
        rw [htext, (Lists.takeWhile_append hpassed hrest).1] at hspan
        rw [hspan] at hlong
        exact absurd numeral.length_le (Nat.not_le_of_lt hlong)
      · have hfalse := h.start c List.getLast?_concat
        rw [hpassed c (by simp)] at hfalse
        cases hfalse
  · intro h
    rcases h with ⟨before', rfl, hrun⟩
    apply runIn_append hrun
    intro hnil
    -- The run would begin right after the digits that are passed by.
    rcases List.exists_cons_of_ne_nil numeral.ne_nil with ⟨d, others, hdigits⟩
    have htext := hrun.text_eq
    rw [hnil, hdigits] at htext
    have hfalse := hrest d (by rw [htext]; rfl)
    rw [numeral.decimal (hdigits ▸ List.mem_cons_self)] at hfalse
    cases hfalse

/-- Whether the version that is read from a text begins with the first run in it. -/
def Reads (cs : List Char) : Prop :=
  ((forall (numeral : Numeral) before after, ¬ numeral.RunIn cs before after) ∧
    ofChars? cs = none) ∨
  exists (major : Numeral) (before after : List Char), major.FirstIn cs before after ∧
    ofChars? cs = withRest major.digits after

theorem reads_passed (hpassed : PassedBy passed rest)
    (heq : ofChars? (passed ++ rest) = ofChars? rest) (h : Reads rest) :
    Reads (passed ++ rest) := by
  rcases h with ⟨hnone, hread⟩ | ⟨major, before, after, hfirst, hread⟩
  · left
    refine ⟨?_, heq.trans hread⟩
    intro numeral before after hrun
    rcases (hpassed numeral before after).mp hrun with ⟨before', _, hrunRest⟩
    exact hnone numeral before' after hrunRest
  · right
    refine ⟨major, passed ++ before, after, ⟨?_, ?_⟩, heq.trans hread⟩
    · exact (hpassed major _ after).mpr ⟨before, rfl, hfirst.run⟩
    · intro other before' after' hrun
      rcases (hpassed other before' after').mp hrun with ⟨before'', rfl, hrunRest⟩
      have hle := hfirst.first other before'' after' hrunRest
      rw [List.length_append, List.length_append]
      exact Nat.add_le_add_left hle _

theorem reads (cs : List Char) (hlatin : LatinDigits cs) : Reads cs := by
  induction hlength : cs.length using Nat.strong_induction_on generalizing cs with
  | h n ih =>
      cases cs with
      | nil =>
          left
          refine ⟨?_, ofChars?_nil⟩
          intro numeral before after hrun
          have hnil := hrun.text_eq.symm
          rw [List.append_eq_nil_iff, List.append_eq_nil_iff] at hnil
          exact numeral.ne_nil hnil.2.1
      | cons c rest =>
          have hsplit : (c :: rest).takeWhile Text.isDecimal ++
              (c :: rest).dropWhile Text.isDecimal = c :: rest :=
            List.takeWhile_append_dropWhile
          have hlatinSplit := hlatin
          rw [← hsplit] at hlatinSplit
          cases hc : Text.isDecimal c with
          | false =>
              have hrest : Reads rest := by
                refine ih rest.length ?_ rest (fun d hd => hlatin d (List.mem_cons_of_mem _ hd)) rfl
                rw [← hlength]
                exact Nat.lt_succ_self _
              exact reads_passed (passedBy_other hc rest) (ofChars?_cons hc rest) hrest
          | true =>
              by_cases hbegins : BeginsPart (c :: rest)
              · right
                rcases exists_numeral hlatinSplit.of_append.1 (isPart_takeWhile hbegins) with
                  ⟨major, hmajor⟩
                refine ⟨major, [], (c :: rest).dropWhile Text.isDecimal, ⟨⟨?_, ?_, ?_⟩, ?_⟩, ?_⟩
                · rw [hmajor, hsplit]
                  rfl
                · intro d hd
                  cases hd
                · exact startsOther_dropWhile _
                · intro other before' after' _
                  exact Nat.zero_le _
                · rw [ofChars?_eq, if_pos hbegins, hmajor]
              · have hlong : digitLimit < ((c :: rest).takeWhile Text.isDecimal).length := by
                  by_contra hnot
                  apply hbegins
                  refine ⟨?_, Nat.le_of_not_lt hnot⟩
                  rw [List.takeWhile_cons_of_pos hc]
                  exact Nat.succ_le_succ (Nat.zero_le _)
                have hrest : Reads ((c :: rest).dropWhile Text.isDecimal) := by
                  refine ih _ ?_ _ hlatinSplit.of_append.2 rfl
                  rw [← hlength, List.dropWhile_cons_of_pos hc]
                  exact Nat.lt_succ_of_le (List.dropWhile_sublist _).length_le
                have hpassed : PassedBy ((c :: rest).takeWhile Text.isDecimal)
                    ((c :: rest).dropWhile Text.isDecimal) :=
                  passedBy_long (fun _ => List.mem_takeWhile_imp) hlong (startsOther_dropWhile _)
                have hread := reads_passed hpassed (by rw [hsplit, ofChars?_eq, if_neg hbegins])
                  hrest
                rw [hsplit] at hread
                exact hread

/-!
# The text of a version
-/

theorem lt_of_isPart {n : Nat} (hpart : IsPart digits) (h : number? digits = some n) :
    n < 10 ^ digitLimit :=
  (lt_of_number? h).trans_le (Nat.pow_le_pow_right (by decide) hpart.length_le)

/-- Whether the numbers of a version have few enough digits to be read. -/
structure Bounded (version : Version) : Prop where
  major : version.major < 10 ^ digitLimit
  minor : version.minor < 10 ^ digitLimit
  patch : version.patch < 10 ^ digitLimit

theorem bounded_of_withRest (hpart : IsPart digits) (h : withRest digits rest = some version) :
    Bounded version := by
  have hzero : 0 < 10 ^ digitLimit := by decide
  rcases Option.bind_eq_some_iff.mp h with ⟨major, hmajor, h⟩
  cases hdotted : dotted? rest with
  | none =>
      rw [hdotted] at h
      cases h
      exact ⟨lt_of_isPart hpart hmajor, hzero, hzero⟩
  | some part =>
      rcases part with ⟨minorDigits, rest'⟩
      rw [hdotted] at h
      rcases Option.bind_eq_some_iff.mp h with ⟨minor, hminor, h⟩
      have hminorBound := lt_of_isPart (of_dotted hdotted).1 hminor
      cases hdottedRest : dotted? rest' with
      | none =>
          rw [hdottedRest] at h
          cases h
          exact ⟨lt_of_isPart hpart hmajor, hminorBound, hzero⟩
      | some part =>
          rw [hdottedRest] at h
          rcases Option.bind_eq_some_iff.mp h with ⟨patch, hpatch, h⟩
          cases h
          exact ⟨lt_of_isPart hpart hmajor, hminorBound,
            lt_of_isPart (of_dotted hdottedRest).1 hpatch⟩

theorem bounded_of_coerce {text : String} (h : coerce? text = some version) :
    Bounded version := by
  rw [coerce?, ← searchFrom_none 0] at h
  rcases Option.bind_eq_some_iff.mp h with ⟨last, hlast, hversion⟩
  rcases of_searchFrom hlast with ⟨passed, found, _, hbegins, hread⟩
  exact bounded_of_withRest (isPart_takeWhile hbegins) (hread.symm.trans hversion)

/-- A number as it is written without zeros in front. -/
def Numeral.ofNat (n : Nat) (h : n < 10 ^ digitLimit) : Numeral where
  digits := Nat.toDigits 10 n
  ne_nil := Nat.toDigits_ne_nil
  length_le := (Nat.length_toDigits_le_iff (by decide) (by decide)).mpr h
  latin := List.all_eq_true.mpr fun _ => Nat.isDigit_of_mem_toDigits (by decide) (by decide)

theorem Numeral.value_ofNat {n : Nat} (h : n < 10 ^ digitLimit) :
    (Numeral.ofNat n h).value = n := by
  have hnumber := (Numeral.ofNat n h).number?_digits
  rw [number?, if_pos (Numeral.ofNat n h).latin] at hnumber
  have hdigits : Nat.ofDigitChars 10 (Nat.toDigits 10 n) 0 = n :=
    Nat.ofDigitChars_toDigits (by decide) (by decide)
  rw [Nat.ofDigitChars_eq_foldl] at hdigits
  simp only [Nat.mul_comm 10] at hdigits
  exact (Option.some.inj hnumber).symm.trans hdigits

theorem coerce?_text (h : Bounded version) : coerce? version.text = some version := by
  have htext : version.text.toList = (Numeral.ofNat _ h.major).digits ++
      '.' :: ((Numeral.ofNat _ h.minor).digits ++ '.' :: (Numeral.ofNat _ h.patch).digits) := by
    simp [text, Numeral.ofNat, String.toList_append]
  rw [coerce?, htext, ofChars?_three, Numeral.value_ofNat, Numeral.value_ofNat,
    Numeral.value_ofNat]

/-!
# Reading versions exactly
-/

theorem isSome_withRest (major : Numeral) (hlatin : LatinDigits cs) :
    (withRest major.digits cs).isSome = true := by
  rcases exists_parts cs with ⟨minor, patch, hparts⟩
  rw [withRest_of_parts hlatin hparts]
  rfl

theorem LatinDigits.after_run (hlatin : LatinDigits cs) (h : numeral.RunIn cs before after) :
    LatinDigits after := by
  rw [h.text_eq] at hlatin
  exact hlatin.of_append.2.of_append.2

/-- What a search finds in a text with digits of the Latin script is a version. -/
theorem isSome_ofGroups? {text : String} {groups : List (Nat × String)}
    (hlatin : LatinDigits text.toList) (h : regex.search? text = some groups) :
    (ofGroups? groups).isSome = true := by
  rcases Option.map_eq_some_iff.mp h with ⟨last, hlast, rfl⟩
  rcases of_searchFrom hlast with ⟨passed, found, hcs, hbegins, hread⟩
  have hfound : LatinDigits found := by
    rw [hcs] at hlatin
    exact hlatin.of_append.2
  rw [← List.takeWhile_append_dropWhile (p := Text.isDecimal) (l := found)] at hfound
  rcases exists_numeral hfound.of_append.1 (isPart_takeWhile hbegins) with ⟨major, hmajor⟩
  have hsome := isSome_withRest major hfound.of_append.2
  rw [hmajor, ← hread] at hsome
  exact hsome

theorem isSome_part? {groups : List (Nat × String)} (h : (ofGroups? groups).isSome = true) :
    forall number, number ∈ [1, 2, 3] -> (part? groups number).isSome = true := by
  rcases Option.isSome_iff_exists.mp h with ⟨version, hversion⟩
  rcases Option.bind_eq_some_iff.mp hversion with ⟨major, hmajor, hversion⟩
  rcases Option.bind_eq_some_iff.mp hversion with ⟨minor, hminor, hversion⟩
  rcases Option.bind_eq_some_iff.mp hversion with ⟨patch, hpatch, _⟩
  simp [hmajor, hminor, hpatch]

theorem coerce?_eq_some_iff {text : String} (hlatin : LatinDigits text.toList) :
    coerce? text = some version ↔
      exists (major : Numeral) (before after : List Char),
        major.FirstIn text.toList before after ∧ version.major = major.value ∧
          PartsAfter after version.minor version.patch := by
  rcases reads text.toList hlatin with ⟨hnone, hread⟩ | ⟨major, before, after, hfirst, hread⟩
  · rw [coerce?, hread]
    constructor
    · intro h
      cases h
    · intro h
      rcases h with ⟨major, before, after, hfirst, _⟩
      exact absurd hfirst.run (hnone major before after)
  · rw [coerce?, hread]
    have hafter := hlatin.after_run hfirst.run
    constructor
    · intro h
      rcases exists_parts after with ⟨minor, patch, hparts⟩
      rw [withRest_of_parts hafter hparts] at h
      cases h
      exact ⟨major, before, after, hfirst, rfl, hparts⟩
    · intro h
      rcases h with ⟨other, before', after', hother, hmajor, hparts⟩
      rcases hfirst.unique hother with ⟨hdigits, rfl⟩
      rw [withRest_of_parts hafter hparts, Numeral.value_eq hdigits, ← hmajor]

theorem coerce?_eq_none_iff {text : String} (hlatin : LatinDigits text.toList) :
    coerce? text = none ↔
      forall (numeral : Numeral) before after, ¬ numeral.RunIn text.toList before after := by
  rcases reads text.toList hlatin with ⟨hnone, hread⟩ | ⟨major, before, after, hfirst, hread⟩
  · exact iff_of_true hread hnone
  · constructor
    · intro h
      have hsome := isSome_withRest major (hlatin.after_run hfirst.run)
      rw [← hread, ← coerce?, h] at hsome
      cases hsome
    · intro h
      exact absurd hfirst.run (h major before after)

/-- The version in a text is the one that the regular expression of versions finds.  If the digits
of the text are of the Latin script, there is a version exactly if there is a run of digits that is
not too long; the first such run is the major part, the runs after a dot each are the other parts,
and all of them are numbers of 64 bits.  The text of a version that was read is read as that
version. -/
theorem coercion_exact :
    (Regex.read? expression = some regex ∧
      forall text, coerce? text = (regex.search? text).bind ofGroups?) ∧
    (forall text : String, LatinDigits text.toList ->
      (coerce? text = none ↔
        forall (numeral : Numeral) before after, ¬ numeral.RunIn text.toList before after) ∧
      (forall version, coerce? text = some version ↔
        exists (major : Numeral) (before after : List Char),
          major.FirstIn text.toList before after ∧ version.major = major.value ∧
            PartsAfter after version.minor version.patch) ∧
      (forall groups, regex.search? text = some groups ->
        forall number, number ∈ [1, 2, 3] -> (part? groups number).isSome = true)) ∧
    (forall (text : String) version, coerce? text = some version ->
      coerce? version.text = some version) := by
  refine ⟨⟨read?_expression, coerce?_eq_search⟩, ?_, ?_⟩
  · intro text hlatin
    refine ⟨coerce?_eq_none_iff hlatin, fun version => coerce?_eq_some_iff hlatin, ?_⟩
    intro groups hgroups
    exact isSome_part? (isSome_ofGroups? hlatin hgroups)
  · intro text version hversion
    exact coerce?_text (bounded_of_coerce hversion)

/-- A run of digits that is too long is passed over as a whole. -/
example : coerce? "12345678901234567.5" = some ⟨5, 0, 0⟩ := by
  decide +kernel

end Version
end Docloom
