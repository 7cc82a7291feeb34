import Docloom.Proofs.Regex.Preference
import Docloom.Proofs.Version.Numeral
import Docloom.Regex.Reader

/-!
# The expression of versions

A version is what a regular expression finds first in a text: up to three parts of a limited
number of digits with dots between them, and no digit before or after them.  As a digit must not
follow, a part is a run of digits as a whole or nothing, so that the parts that may be left out are
left out only where no such run follows a dot.
-/

namespace Docloom
namespace Version

variable {α : Type} {cs digits minor rest : List Char} {c : Char} {number index : Nat}
  {before : Option Char} {spot last other : Regex.Spot} {f : Regex.Spot -> Option α}

/-!
# The expression
-/

/-- A character that is no digit. -/
def otherRegex : Regex := .char (.not (.union .none .digit))

def partRegex (number : Nat) : Regex := Regex.bounded number .digit 1 digitLimit true

def dotPartRegex (number : Nat) : Regex := .seq (.char (.single '.')) (partRegex number)

/-- A part after a dot, which may be left out, and what follows it. -/
def optionalThen (number : Nat) (after : Regex) : Regex :=
  .seq (.times (dotPartRegex number) 0 (some 1) true) after

def endRegex : Regex := .alt (.anchor .textEnd) otherRegex

/-- The expression from the dot before the patch part on. -/
def patchRegex : Regex := optionalThen 3 endRegex

/-- The expression from the dot before the minor part on. -/
def minorRegex : Regex := optionalThen 2 patchRegex

def majorRegex : Regex := .seq (partRegex 1) minorRegex

def regex : Regex := .seq (.alt (.anchor .textStart) otherRegex) majorRegex

/-- The expression of versions as it is written.  There are no letters in it. -/
def expression : String :=
  "(?-i)(?:^|[^\\d])(\\d\x7b1,16\x7d)(?:\\.(\\d\x7b1,16\x7d))?(?:\\.(\\d\x7b1,16\x7d))?(?:$|[^\\d])"

set_option maxRecDepth 10000 in
theorem read?_expression : Regex.read? expression = some regex := rfl

/-!
# The version of a match
-/

/-- The number that a text writes in digits, if it fits into 64 bits.  A sign may stand in front
of the digits. -/
def parse64? (text : String) : Option Nat :=
  let digits := match text.toList with
    | '+' :: rest => rest
    | cs => cs
  if digits.isEmpty then none else (number? digits).filter (· < 2 ^ 64)

/-- The part of a version that a group tells; it is zero if the group took no part. -/
def part? (groups : List (Nat × String)) (number : Nat) : Option Nat :=
  match groups.lookup number with
  | none => some 0
  | some text => parse64? text

/-- The version that the groups of a match tell. -/
def ofGroups? (groups : List (Nat × String)) : Option Version := do
  let major ← part? groups 1
  let minor ← part? groups 2
  let patch ← part? groups 3
  pure ⟨major, minor, patch⟩

/-- The groups of a match as texts. -/
def groupTexts (spot : Regex.Spot) : List (Nat × String) :=
  spot.groups.map fun group => (group.1, String.ofList group.2)

/-- The version that a match tells at its end. -/
def ofSpot? (spot : Regex.Spot) : Option Version := ofGroups? (groupTexts spot)

theorem lookup_groupTexts (spot : Regex.Spot) (number : Nat) :
    (groupTexts spot).lookup number = (spot.group? number).map String.ofList :=
  Lists.lookup_map spot.groups String.ofList number

theorem part?_of_group (h : spot.group? number = some digits) :
    part? (groupTexts spot) number = parse64? (String.ofList digits) := by
  rw [part?, lookup_groupTexts, h]
  rfl

theorem part?_of_none (h : spot.group? number = none) :
    part? (groupTexts spot) number = some 0 := by
  rw [part?, lookup_groupTexts, h]
  rfl

theorem groupTexts_congr (h : last.groups = other.groups) : groupTexts last = groupTexts other := by
  rw [groupTexts, groupTexts, h]

/-!
# The numbers of parts
-/

/-- Whether a part of a version may consist of digits. -/
structure IsPart (digits : List Char) : Prop where
  ne_nil : digits ≠ []
  decimal : forall c, c ∈ digits -> Text.isDecimal c = true
  length_le : digits.length ≤ digitLimit

/-- A part fits into 64 bits, so only digits of other scripts keep it from being read. -/
theorem parse64?_of_isPart (h : IsPart digits) :
    parse64? (String.ofList digits) = number? digits := by
  rcases List.exists_cons_of_ne_nil h.ne_nil with ⟨c, others, rfl⟩
  have hplus : c ≠ '+' := by
    rintro rfl
    have hfalse := h.decimal '+' List.mem_cons_self
    rw [show Text.isDecimal '+' = false by decide] at hfalse
    cases hfalse
  have hmatch : (match c :: others with
      | '+' :: rest => rest
      | cs => cs) = c :: others := by
    split
    · rename_i heq
      cases heq
      exact absurd rfl hplus
    · rfl
  rw [parse64?, String.toList_ofList, hmatch, List.isEmpty_cons, if_neg Bool.false_ne_true]
  cases hnumber : number? (c :: others) with
  | none =>
      rfl
  | some n =>
      have hlt := lt_of_number? hnumber
      have hbound : 10 ^ (c :: others).length ≤ 10 ^ digitLimit :=
        Nat.pow_le_pow_right (by decide) h.length_le
      have hmax : 10 ^ digitLimit < 2 ^ 64 := by decide
      have hfits : n < 2 ^ 64 := hlt.trans_le (hbound.trans hmax.le)
      rw [Option.filter_some, if_pos (by simpa using hfits)]

/-!
# What is preferred
-/

/-- Whether nothing comes of a spot before a digit. -/
def StopsAtDigits (f : Regex.Spot -> Option α) : Prop :=
  forall spot c rest, spot.rest = c :: rest -> Text.isDecimal c = true -> f spot = none

theorem has_other (c : Char) :
    (Regex.CharSet.not (.union .none .digit)).has c = !Text.isDecimal c := rfl

theorem dotted?_eq (rest : List Char) :
    dotted? ('.' :: rest) =
      if 1 ≤ (rest.takeWhile Text.isDecimal).length ∧
          (rest.takeWhile Text.isDecimal).length ≤ digitLimit then
        some (rest.takeWhile Text.isDecimal, rest.dropWhile Text.isDecimal)
      else
        none := rfl

theorem dotted?_of_ne (hc : c ≠ '.') (rest : List Char) : dotted? (c :: rest) = none := by
  rw [dotted?]
  intro tail heq
  exact hc (List.head_eq_of_cons_eq heq)

theorem startsOther_dropWhile (cs : List Char) : StartsOther (cs.dropWhile Text.isDecimal) := by
  intro c hc
  have hnot := List.head?_dropWhile_not Text.isDecimal cs
  rw [hc] at hnot
  exact hnot

theorem isPart_takeWhile
    (h : 1 ≤ (cs.takeWhile Text.isDecimal).length ∧
      (cs.takeWhile Text.isDecimal).length ≤ digitLimit) :
    IsPart (cs.takeWhile Text.isDecimal) :=
  ⟨List.length_pos_iff.mp h.1, fun _ => List.mem_takeWhile_imp, h.2⟩

/-- What stands after a dot is a part as a whole. -/
theorem of_dotted (h : dotted? cs = some (digits, rest)) :
    IsPart digits ∧ StartsOther rest ∧ cs = '.' :: (digits ++ rest) := by
  cases cs with
  | nil =>
      cases h
  | cons c cs =>
      by_cases hc : c = '.'
      · rw [hc, dotted?_eq] at h
        split at h
        · rename_i hcount
          cases h
          refine ⟨isPart_takeWhile hcount, startsOther_dropWhile cs, ?_⟩
          rw [List.takeWhile_append_dropWhile, hc]
        · cases h
      · rw [dotted?_of_ne hc] at h
        cases h

/-- A part is all the digits that follow, if they are not too many. -/
theorem findSome?_part (hstop : StopsAtDigits f) (number : Nat) (spot : Regex.Spot) :
    ((partRegex number).run spot).findSome? f =
      if 1 ≤ (spot.rest.takeWhile Text.isDecimal).length ∧
          (spot.rest.takeWhile Text.isDecimal).length ≤ digitLimit then
        f ((spot.past (spot.rest.takeWhile Text.isDecimal)
          (spot.rest.dropWhile Text.isDecimal)).keeping number
            (spot.rest.takeWhile Text.isDecimal))
      else
        none := by
  have hset : forall (spot : Regex.Spot) (c : Char) (rest : List Char), spot.rest = c :: rest ->
      Regex.CharSet.digit.has c = true -> f spot = none := hstop
  exact Regex.findSome?_bounded (by decide) hset spot

theorem findSome?_dotPart (hf : Regex.Placed f) (hstop : StopsAtDigits f) (number : Nat)
    (spot : Regex.Spot) :
    ((dotPartRegex number).run spot).findSome? f =
      match dotted? spot.rest with
      | some (digits, rest) =>
          f (((spot.past ['.'] spot.rest.tail).past digits rest).keeping number digits)
      | none => none := by
  rw [dotPartRegex, Regex.findSome?_seq hf, Regex.findSome?_char]
  cases hrest : spot.rest with
  | nil =>
      rfl
  | cons c rest =>
      dsimp only
      by_cases hc : c = '.'
      · have hafter : (spot.past [c] rest).rest = rest := rfl
        rw [if_pos (Regex.has_single_iff.mpr hc), findSome?_part hstop, hafter, hc, dotted?_eq]
        by_cases hcount : 1 ≤ (rest.takeWhile Text.isDecimal).length ∧
            (rest.takeWhile Text.isDecimal).length ≤ digitLimit
        · rw [if_pos hcount, if_pos hcount]
          rfl
        · rw [if_neg hcount, if_neg hcount]
      · rw [if_neg (fun h => hc (Regex.has_single_iff.mp h)), dotted?_of_ne hc]

/-- Whether an expression takes something exactly from the spots that are not before a digit. -/
structure Ends (after : Regex) : Prop where
  stops : StopsAtDigits after.best?
  goes : forall spot : Regex.Spot, StartsOther spot.rest -> (after.best? spot).isSome = true

/-- A part after a dot is taken if it can be, for then no digit is before what follows. -/
theorem best?_optionalThen {after : Regex} (h : Ends after) (number : Nat) (spot : Regex.Spot) :
    (optionalThen number after).best? spot =
      match dotted? spot.rest with
      | some (digits, rest) =>
          after.best? (((spot.past ['.'] spot.rest.tail).past digits rest).keeping number digits)
      | none => after.best? spot := by
  rw [optionalThen, Regex.best?_seq, Regex.findSome?_optional (Regex.placed_best? after),
    findSome?_dotPart (Regex.placed_best? after) h.stops]
  cases hdotted : dotted? spot.rest with
  | none =>
      rfl
  | some part =>
      rcases part with ⟨digits, rest⟩
      have hsome := h.goes
        (((spot.past ['.'] spot.rest.tail).past digits rest).keeping number digits)
        (of_dotted hdotted).2.1
      rcases Option.isSome_iff_exists.mp hsome with ⟨last, hlast⟩
      dsimp only
      rw [hlast]
      rfl

theorem Ends.optionalThen {after : Regex} (h : Ends after) (number : Nat) :
    Ends (optionalThen number after) := by
  constructor
  · intro spot c rest hrest hc
    have hdot : c ≠ '.' := by
      rintro rfl
      rw [Text.isDecimal_dot] at hc
      cases hc
    rw [best?_optionalThen h, hrest, dotted?_of_ne hdot]
    exact h.stops spot c rest hrest hc
  · intro spot hspot
    rw [best?_optionalThen h]
    cases hdotted : dotted? spot.rest with
    | none =>
        exact h.goes spot hspot
    | some part =>
        exact h.goes _ (of_dotted hdotted).2.1

theorem best?_end (spot : Regex.Spot) :
    endRegex.best? spot =
      match spot.rest with
      | [] => some spot
      | c :: rest => if Text.isDecimal c then none else some (spot.past [c] rest) := by
  rw [endRegex, Regex.best?_alt, Regex.best?_anchor, otherRegex, Regex.best?_char]
  cases hrest : spot.rest with
  | nil =>
      simp [Regex.Anchor.holds, hrest]
  | cons c rest =>
      have hholds : Regex.Anchor.textEnd.holds spot = false := by
        simp [Regex.Anchor.holds, hrest]
      dsimp only
      rw [hholds, has_other]
      cases Text.isDecimal c with
      | false =>
          rfl
      | true =>
          rfl

theorem ends_end : Ends endRegex := by
  constructor
  · intro spot c rest hrest hc
    rw [best?_end, hrest]
    exact if_pos hc
  · intro spot hspot
    rw [best?_end]
    cases hrest : spot.rest with
    | nil =>
        rfl
    | cons c rest =>
        have hc : Text.isDecimal c = false := hspot c (by rw [hrest]; rfl)
        dsimp only
        rw [hc, if_neg Bool.false_ne_true]
        rfl

theorem ends_patch : Ends patchRegex := ends_end.optionalThen 3

theorem ends_minor : Ends minorRegex := ends_patch.optionalThen 2

theorem groups_of_best?_end (h : endRegex.best? spot = some last) : last.groups = spot.groups := by
  rw [best?_end] at h
  split at h
  · cases h
    rfl
  · split at h
    · cases h
    · cases h
      rfl

/-!
# The version that is preferred
-/

theorem part?_of_isPart (h : spot.group? number = some digits) (hpart : IsPart digits) :
    part? (groupTexts spot) number = number? digits := by
  rw [part?_of_group h, parse64?_of_isPart hpart]

/-- The groups of a match whose first part is taken already tell the version that is read. -/
theorem ofSpot?_of_minor {major : List Char} (hpart : IsPart major)
    (hmajor : spot.group? 1 = some major) (hminor : spot.group? 2 = none)
    (hpatch : spot.group? 3 = none) (h : minorRegex.best? spot = some last) :
    ofSpot? last = withRest major spot.rest := by
  rw [minorRegex, best?_optionalThen ends_patch] at h
  cases hdotted : dotted? spot.rest with
  | none =>
      rw [hdotted] at h
      dsimp only at h
      rw [patchRegex, best?_optionalThen ends_end, hdotted] at h
      have hgroups := groupTexts_congr (groups_of_best?_end h)
      rw [ofSpot?, ofGroups?, hgroups, part?_of_isPart hmajor hpart, part?_of_none hminor,
        part?_of_none hpatch, withRest, hdotted]
      rfl
  | some part =>
      rcases part with ⟨minor, rest⟩
      have hminorPart := (of_dotted hdotted).1
      rw [hdotted] at h
      dsimp only at h
      rw [patchRegex, best?_optionalThen ends_end] at h
      generalize hspot : ((spot.past ['.'] spot.rest.tail).past minor rest).keeping 2 minor =
        after at h
      have hrest : after.rest = rest := by
        rw [← hspot]
        rfl
      have hfirst : after.group? 1 = some major := by
        rw [← hspot, Regex.Spot.group?_keeping_of_ne (by decide)]
        exact hmajor
      have hsecond : after.group? 2 = some minor := by
        rw [← hspot, Regex.Spot.group?_keeping_self]
      have hthird : after.group? 3 = none := by
        rw [← hspot, Regex.Spot.group?_keeping_of_ne (by decide)]
        exact hpatch
      rw [hrest] at h
      cases hdottedRest : dotted? rest with
      | none =>
          rw [hdottedRest] at h
          have hgroups := groupTexts_congr (groups_of_best?_end h)
          rw [ofSpot?, ofGroups?, hgroups, part?_of_isPart hfirst hpart,
            part?_of_isPart hsecond hminorPart, part?_of_none hthird, withRest, hdotted]
          dsimp only
          rw [hdottedRest]
          rfl
      | some part =>
          rcases part with ⟨patch, rest'⟩
          rw [hdottedRest] at h
          have hgroups := groupTexts_congr (groups_of_best?_end h)
          rw [ofSpot?, ofGroups?, hgroups, part?_of_isPart _ hpart, part?_of_isPart _ hminorPart,
            part?_of_isPart _ (of_dotted hdottedRest).1, withRest, hdotted]
          · dsimp only
            rw [hdottedRest]
          · exact Regex.Spot.group?_keeping_self _ _ _
          · rw [Regex.Spot.group?_keeping_of_ne (by decide)]
            exact hsecond
          · rw [Regex.Spot.group?_keeping_of_ne (by decide)]
            exact hfirst

/-!
# The search
-/

/-- Whether a text begins with a run of digits that is not too long. -/
def BeginsPart (cs : List Char) : Prop :=
  1 ≤ (cs.takeWhile Text.isDecimal).length ∧ (cs.takeWhile Text.isDecimal).length ≤ digitLimit

instance : Decidable (BeginsPart cs) := inferInstanceAs (Decidable (_ ∧ _))

theorem not_beginsPart_of_other (h : StartsOther cs) : ¬ BeginsPart cs := by
  intro hbegins
  have hnil : cs.takeWhile Text.isDecimal = [] := by
    cases cs with
    | nil =>
        rfl
    | cons c rest =>
        have hc : Text.isDecimal c = false := h c rfl
        exact List.takeWhile_cons_of_neg (by rw [hc]; exact Bool.false_ne_true)
  have hpositive := hbegins.1
  rw [hnil] at hpositive
  cases hpositive

/-- Digits at the start of a text are the major part, or they are passed over. -/
theorem ofChars?_eq (cs : List Char) :
    ofChars? cs =
      if BeginsPart cs then
        withRest (cs.takeWhile Text.isDecimal) (cs.dropWhile Text.isDecimal)
      else
        ofChars? (cs.dropWhile Text.isDecimal) := by
  cases cs with
  | nil =>
      rfl
  | cons c rest =>
      cases hc : Text.isDecimal c with
      | false =>
          have hother : StartsOther (c :: rest) := by
            intro d hd
            cases hd
            exact hc
          rw [if_neg (not_beginsPart_of_other hother),
            List.dropWhile_cons_of_neg (by rw [hc]; exact Bool.false_ne_true)]
      | true =>
          have hdrop : (c :: rest).dropWhile (fun c => !Text.isDecimal c) = c :: rest :=
            List.dropWhile_cons_of_neg (by simp [hc])
          have hbegins : BeginsPart (c :: rest) ↔
              (c :: rest.takeWhile Text.isDecimal).length ≤ digitLimit := by
            unfold BeginsPart
            rw [List.takeWhile_cons_of_pos hc]
            exact and_iff_right (by simp)
          rw [ofChars?_of_dropWhile_cons hdrop, List.takeWhile_cons_of_pos hc,
            List.dropWhile_cons_of_pos hc]
          exact (if_congr hbegins rfl rfl).symm

theorem best?_major (spot : Regex.Spot) :
    majorRegex.best? spot =
      if BeginsPart spot.rest then
        minorRegex.best? ((spot.past (spot.rest.takeWhile Text.isDecimal)
          (spot.rest.dropWhile Text.isDecimal)).keeping 1 (spot.rest.takeWhile Text.isDecimal))
      else
        none := by
  rw [majorRegex, Regex.best?_seq]
  exact findSome?_part ends_minor.stops 1 spot

/-- From a spot without groups the digits that follow are the major part of a version, or there is
no match. -/
theorem best?_major_map (hgroups : spot.groups = []) :
    (majorRegex.best? spot).map ofSpot? =
      if BeginsPart spot.rest then
        some (withRest (spot.rest.takeWhile Text.isDecimal) (spot.rest.dropWhile Text.isDecimal))
      else
        none := by
  have hnone : forall number, spot.group? number = none := by
    intro number
    rw [Regex.Spot.group?, hgroups]
    rfl
  rw [best?_major]
  by_cases hbegins : BeginsPart spot.rest
  · rw [if_pos hbegins, if_pos hbegins]
    generalize hspot : (spot.past (spot.rest.takeWhile Text.isDecimal)
      (spot.rest.dropWhile Text.isDecimal)).keeping 1 (spot.rest.takeWhile Text.isDecimal) = after
    have hrest : after.rest = spot.rest.dropWhile Text.isDecimal := by
      rw [← hspot]
      rfl
    have hother : StartsOther after.rest := by
      rw [hrest]
      exact startsOther_dropWhile _
    have hfirst : after.group? 1 = some (spot.rest.takeWhile Text.isDecimal) := by
      rw [← hspot, Regex.Spot.group?_keeping_self]
    have hsecond : after.group? 2 = none := by
      rw [← hspot, Regex.Spot.group?_keeping_of_ne (by decide)]
      exact hnone 2
    have hthird : after.group? 3 = none := by
      rw [← hspot, Regex.Spot.group?_keeping_of_ne (by decide)]
      exact hnone 3
    rcases Option.isSome_iff_exists.mp (ends_minor.goes after hother) with ⟨last, hlast⟩
    rw [hlast, Option.map_some,
      ofSpot?_of_minor (isPart_takeWhile hbegins) hfirst hsecond hthird hlast, hrest]
  · rw [if_neg hbegins, if_neg hbegins]
    rfl

theorem best?_regex (spot : Regex.Spot) :
    regex.best? spot =
      (if spot.before.isNone then majorRegex.best? spot else none).or
        (match spot.rest with
        | [] => none
        | c :: rest =>
            if Text.isDecimal c then none else majorRegex.best? (spot.past [c] rest)) := by
  have hstart : Regex.Anchor.textStart.holds spot = spot.before.isNone := rfl
  rw [regex, Regex.best?_seq, Regex.findSome?_alt (Regex.placed_best? _), Regex.findSome?_anchor,
    hstart, otherRegex, Regex.findSome?_char]
  congr 1
  cases spot.rest with
  | nil =>
      rfl
  | cons c rest =>
      dsimp only
      rw [has_other]
      cases Text.isDecimal c with
      | false =>
          rfl
      | true =>
          rfl

theorem ofChars?_nil : ofChars? [] = none := ofChars?_of_dropWhile_nil rfl

/-- Where the major part cannot begin, a search passes over the digits, as the reader does. -/
theorem bind_or_major {found : Option Regex.Spot} (hgroups : spot.groups = [])
    (h : ¬ BeginsPart spot.rest ->
      found.bind ofSpot? = ofChars? (spot.rest.dropWhile Text.isDecimal)) :
    ((majorRegex.best? spot).or found).bind ofSpot? = ofChars? spot.rest := by
  have hmap := best?_major_map hgroups
  rw [ofChars?_eq]
  by_cases hbegins : BeginsPart spot.rest
  · rw [if_pos hbegins] at hmap ⊢
    rcases Option.map_eq_some_iff.mp hmap with ⟨last, hlast, hversion⟩
    rw [hlast, Option.some_or, Option.bind_some, hversion]
  · rw [if_neg hbegins] at hmap ⊢
    rw [Option.map_eq_none_iff.mp hmap, Option.none_or]
    exact h hbegins

/-- After a first character a search passes over the digits that are next. -/
theorem searchFrom_some (index : Nat) (c : Char) (cs : List Char) :
    (regex.searchFrom index (some c) cs).bind ofSpot? =
      ofChars? (cs.dropWhile Text.isDecimal) := by
  induction cs generalizing index c with
  | nil =>
      rw [Regex.searchFrom_nil, best?_regex, List.dropWhile_nil, ofChars?_nil]
      rfl
  | cons d cs ih =>
      rw [Regex.searchFrom_cons, best?_regex]
      dsimp only
      rw [Option.isNone_some, if_neg Bool.false_ne_true, Option.none_or]
      cases hd : Text.isDecimal d with
      | true =>
          rw [if_pos rfl, Option.none_or, List.dropWhile_cons_of_pos hd]
          exact ih (index + 1) d
      | false =>
          have hkept : (d :: cs).dropWhile Text.isDecimal = d :: cs :=
            List.dropWhile_cons_of_neg (by rw [hd]; exact Bool.false_ne_true)
          rw [if_neg Bool.false_ne_true, hkept, ofChars?_cons hd]
          exact bind_or_major rfl fun _ => ih (index + 1) d

theorem searchFrom_none (index : Nat) (cs : List Char) :
    (regex.searchFrom index none cs).bind ofSpot? = ofChars? cs := by
  cases cs with
  | nil =>
      rw [Regex.searchFrom_nil, best?_regex]
      exact bind_or_major rfl fun _ => ofChars?_nil.symm
  | cons d cs =>
      rw [Regex.searchFrom_cons, best?_regex, Option.or_assoc]
      refine bind_or_major rfl ?_
      intro hnot
      dsimp only
      cases hd : Text.isDecimal d with
      | true =>
          rw [if_pos rfl, Option.none_or, List.dropWhile_cons_of_pos hd]
          exact searchFrom_some (index + 1) d cs
      | false =>
          have hkept : (d :: cs).dropWhile Text.isDecimal = d :: cs :=
            List.dropWhile_cons_of_neg (by rw [hd]; exact Bool.false_ne_true)
          rw [if_neg Bool.false_ne_true, hkept, ofChars?_cons hd]
          exact bind_or_major rfl fun _ => searchFrom_some (index + 1) d cs

theorem of_best?_major (hgroups : spot.groups = []) (h : majorRegex.best? spot = some last) :
    BeginsPart spot.rest ∧ ofSpot? last =
      withRest (spot.rest.takeWhile Text.isDecimal) (spot.rest.dropWhile Text.isDecimal) := by
  have hmap := best?_major_map hgroups
  rw [h, Option.map_some] at hmap
  split at hmap
  · rename_i hbegins
    exact ⟨hbegins, Option.some.inj hmap⟩
  · cases hmap

/-- What is found begins with a part. -/
theorem of_searchFrom (h : regex.searchFrom index before cs = some last) :
    exists passed found, cs = passed ++ found ∧ BeginsPart found ∧ ofSpot? last =
      withRest (found.takeWhile Text.isDecimal) (found.dropWhile Text.isDecimal) := by
  have hbest : forall {index : Nat} {before : Option Char} {cs : List Char},
      regex.best? ⟨index, before, cs, []⟩ = some last ->
        exists passed found, cs = passed ++ found ∧ BeginsPart found ∧ ofSpot? last =
          withRest (found.takeWhile Text.isDecimal) (found.dropWhile Text.isDecimal) := by
    intro index before cs hlast
    rw [best?_regex, Option.or_eq_some_iff] at hlast
    rcases hlast with hfirst | ⟨_, hsecond⟩
    · split at hfirst
      · exact ⟨[], cs, rfl, of_best?_major rfl hfirst⟩
      · cases hfirst
    · cases cs with
      | nil =>
          cases hsecond
      | cons c rest =>
          dsimp only at hsecond
          split at hsecond
          · cases hsecond
          · exact ⟨[c], rest, rfl, of_best?_major rfl hsecond⟩
  induction cs generalizing index before with
  | nil =>
      exact hbest h
  | cons c cs ih =>
      rw [Regex.searchFrom_cons, Option.or_eq_some_iff] at h
      rcases h with hfirst | ⟨_, hlater⟩
      · exact hbest hfirst
      · rcases ih hlater with ⟨passed, found, hcs, hfound⟩
        exact ⟨c :: passed, found, by rw [hcs, List.cons_append], hfound⟩

/-- The version in a text is told by the groups of the match that the expression prefers. -/
theorem coerce?_eq_search (text : String) :
    coerce? text = (regex.search? text).bind ofGroups? := by
  rw [coerce?, ← searchFrom_none 0 text.toList, Regex.search?, Option.bind_map]
  rfl

end Version
end Docloom
