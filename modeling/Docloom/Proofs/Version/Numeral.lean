import Docloom.Proofs.Lists
import Docloom.Proofs.Version.Coercion
import Mathlib.Data.Nat.Digits.Defs

/-!
# Versions in digits

The numbers of a version are written in digits of the Latin script, of which there are not too
many.  A version whose numbers are so written is read as these numbers, whatever zeros stand in
front of them and whatever stage follows the version; a number that is left out is zero.
-/

namespace Docloom

namespace Version

/-- The number that digits of the Latin script write, of which the last counts least. -/
theorem number?_of_latin {digits : List Char} (h : digits.all Char.isDigit = true) :
    number? digits =
      some (Nat.ofDigits 10 (digits.reverse.map fun c => c.toNat - '0'.toNat)) := by
  rw [number?, if_pos h, Nat.ofDigits_eq_foldr, List.foldr_map, List.foldr_reverse]
  congr 2
  funext total c
  rw [Nat.mul_comm, Nat.add_comm]
  rfl

/-- Digits write a number with no more digits than they are. -/
theorem lt_of_number? {digits : List Char} {n : Nat} (h : number? digits = some n) :
    n < 10 ^ digits.length := by
  have hlatin : digits.all Char.isDigit = true := by
    by_contra hnot
    rw [number?, if_neg hnot] at h
    cases h
  rw [number?_of_latin hlatin] at h
  cases h
  have hlength : (digits.reverse.map fun c => c.toNat - '0'.toNat).length = digits.length := by
    rw [List.length_map, List.length_reverse]
  rw [← hlength]
  apply Nat.ofDigits_lt_base_pow_length (by decide)
  intro value hvalue
  rcases List.mem_map.mp hvalue with ⟨c, hc, rfl⟩
  have hdigit := List.all_eq_true.mp hlatin c (List.mem_reverse.mp hc)
  simp only [Char.isDigit, Bool.and_eq_true, decide_eq_true_eq] at hdigit
  have hle : c.toNat ≤ '9'.toNat := hdigit.2
  exact (Nat.sub_le_sub_right hle _).trans_lt (by decide)

/-- Whether the text does not begin with a digit. -/
def StartsOther (cs : List Char) : Prop := forall c, cs.head? = some c -> Text.isDecimal c = false

/-- A number of a version as it is written. -/
structure Numeral where
  digits : List Char
  ne_nil : digits ≠ []
  length_le : digits.length ≤ 16
  latin : digits.all Char.isDigit = true

namespace Numeral

def value (numeral : Numeral) : Nat :=
  Nat.ofDigits 10 (numeral.digits.reverse.map fun c => c.toNat - '0'.toNat)

def zero : Numeral where
  digits := ['0']
  ne_nil := by decide
  length_le := by decide
  latin := by decide

variable (numeral : Numeral) {rest : List Char}

theorem value_zero : zero.value = 0 := by
  decide

theorem number?_digits : number? numeral.digits = some numeral.value :=
  number?_of_latin numeral.latin

theorem isDigit {c : Char} (hc : c ∈ numeral.digits) : c.isDigit = true :=
  List.all_eq_true.mp numeral.latin c hc

theorem decimal {c : Char} (hc : c ∈ numeral.digits) : Text.isDecimal c = true :=
  Text.isDecimal_of_isDigit (numeral.isDigit hc)

theorem length_le_limit : numeral.digits.length ≤ digitLimit :=
  numeral.length_le

theorem blank_not_mem : ' ' ∉ numeral.digits := by
  intro hmem
  cases numeral.isDigit hmem

/-!
# Reading numerals
-/

/-- Whether a numeral that stands before the text is over. -/
def EndsBefore (rest : List Char) : Prop := rest = [] ∨ exists tail, rest = '.' :: tail

theorem EndsBefore.startsOther (h : EndsBefore rest) : StartsOther rest := by
  intro c hc
  rcases h with rfl | ⟨tail, rfl⟩
  · cases hc
  · cases hc
    exact Text.isDecimal_dot

/-- A numeral is all the digits at the start of a text, unless another digit follows. -/
theorem span_digits (hrest : StartsOther rest) :
    (numeral.digits ++ rest).takeWhile Text.isDecimal = numeral.digits ∧
      (numeral.digits ++ rest).dropWhile Text.isDecimal = rest :=
  Lists.takeWhile_append (fun _ => numeral.decimal) hrest

theorem ofChars?_digits (hrest : EndsBefore rest) :
    ofChars? (numeral.digits ++ rest) = withRest numeral.digits rest := by
  rcases numeral.span_digits hrest.startsOther with ⟨htake, hdrop⟩
  cases hdigits : numeral.digits with
  | nil =>
      exact absurd hdigits numeral.ne_nil
  | cons c digits =>
      have hc : Text.isDecimal c = true := numeral.decimal (by simp [hdigits])
      rw [hdigits, List.cons_append, List.takeWhile_cons_of_pos hc] at htake
      rw [hdigits, List.cons_append, List.dropWhile_cons_of_pos hc] at hdrop
      rw [List.cons_append, ofChars?_of_dropWhile_cons (List.dropWhile_cons_of_neg (by simp [hc])),
        htake, hdrop, ← hdigits, if_pos numeral.length_le_limit]

theorem dotted?_digits (hrest : StartsOther rest) :
    dotted? ('.' :: (numeral.digits ++ rest)) = some (numeral.digits, rest) := by
  rcases numeral.span_digits hrest with ⟨htake, hdrop⟩
  have hlength : 0 < numeral.digits.length ∧ numeral.digits.length ≤ digitLimit :=
    ⟨List.length_pos_iff.mpr numeral.ne_nil, numeral.length_le_limit⟩
  simp only [dotted?, htake, hdrop, if_pos hlength]

end Numeral

variable (major minor patch : Numeral)

theorem ofChars?_two :
    ofChars? (major.digits ++ '.' :: minor.digits) = some ⟨major.value, minor.value, 0⟩ := by
  have hminor := minor.dotted?_digits (Numeral.EndsBefore.startsOther (Or.inl rfl))
  rw [List.append_nil] at hminor
  rw [major.ofChars?_digits (Or.inr ⟨_, rfl⟩), withRest, hminor]
  simp [major.number?_digits, minor.number?_digits, dotted?]

theorem ofChars?_three :
    ofChars? (major.digits ++ '.' :: (minor.digits ++ '.' :: patch.digits)) =
      some ⟨major.value, minor.value, patch.value⟩ := by
  have hpatch := patch.dotted?_digits (Numeral.EndsBefore.startsOther (Or.inl rfl))
  rw [List.append_nil] at hpatch
  rw [major.ofChars?_digits (Or.inr ⟨_, rfl⟩), withRest,
    minor.dotted?_digits (Numeral.EndsBefore.startsOther (Or.inr ⟨_, rfl⟩))]
  simp [major.number?_digits, minor.number?_digits, patch.number?_digits, hpatch]

/-- A numeral ends in no wild part. -/
theorem not_wild_suffix (start : List Char) : ¬ ['.', 'x'] <:+ start ++ '.' :: patch.digits := by
  rintro ⟨before, hbefore⟩
  rcases (List.eq_nil_or_concat patch.digits).resolve_left patch.ne_nil with ⟨init, last, hdigits⟩
  have hlast : 'x' = last := by
    have h := congrArg (fun cs => cs.reverse.head?) hbefore
    simpa [hdigits] using h
  have hdigit : last.isDigit = true := patch.isDigit (by simp [hdigits])
  rw [← hlast] at hdigit
  cases hdigit

/-!
# Spelled versions
-/

/-- A version in a comparison, with one number or two: `a.x` or `a.b.x`. -/
structure Bound where
  major : Numeral
  minor : Option Numeral

namespace Bound

def numbers : Bound -> List Char
  | ⟨major, none⟩ => major.digits
  | ⟨major, some minor⟩ => major.digits ++ '.' :: minor.digits

def text (bound : Bound) : String := String.ofList (bound.numbers ++ ['.', 'x'])

def version (bound : Bound) : Version :=
  ⟨bound.major.value, bound.minor.elim 0 Numeral.value, 0⟩

theorem normalize?_text (bound : Bound) : normalize? bound.text = some bound.version := by
  have hblank : ' ' ∉ bound.text.toList := by
    rcases bound with ⟨major, _ | minor⟩
    · simp [text, numbers, major.blank_not_mem]
    · simp [text, numbers, major.blank_not_mem, minor.blank_not_mem]
  rw [normalize?_of_head hblank (Or.inl rfl), text, fillPatch_wild, coerce?, String.toList_ofList]
  rcases bound with ⟨major, _ | minor⟩
  · have h := ofChars?_two major .zero
    rw [Numeral.value_zero] at h
    exact h
  · have h := ofChars?_three major minor .zero
    rw [Numeral.value_zero] at h
    rw [numbers, List.append_assoc, List.cons_append]
    exact h

end Bound

/-- The name of a directory with two numbers or three, and a stage or none: `va.b.x` or
`va.b.c`, and `va.b.x (beta)`. -/
structure Directory where
  major : Numeral
  minor : Numeral
  patch : Option Numeral
  stage : Option String

namespace Directory

def head (directory : Directory) : List Char :=
  'v' :: (directory.major.digits ++ '.' :: (directory.minor.digits ++
    '.' :: directory.patch.elim ['x'] Numeral.digits))

def suffix (directory : Directory) : List Char :=
  directory.stage.elim [] fun stage => ' ' :: '(' :: (stage.toList ++ [')'])

def name (directory : Directory) : String := String.ofList (directory.head ++ directory.suffix)

def version (directory : Directory) : Version :=
  ⟨directory.major.value, directory.minor.value, directory.patch.elim 0 Numeral.value⟩

variable (directory : Directory)

theorem blank_not_mem_head : ' ' ∉ directory.head := by
  have hmajor := directory.major.blank_not_mem
  have hminor := directory.minor.blank_not_mem
  cases hpatch : directory.patch with
  | none =>
      simp [head, hpatch, hmajor, hminor]
  | some patch =>
      simp [head, hpatch, hmajor, hminor, patch.blank_not_mem]

theorem coerce?_head :
    coerce? (fillPatch (String.ofList directory.head)) = some directory.version := by
  rw [head, coerce?_fillPatch_cons (by decide) (by decide), version]
  cases directory.patch with
  | none =>
      have h := ofChars?_three directory.major directory.minor .zero
      have hfill := fillPatch_wild (directory.major.digits ++ '.' :: directory.minor.digits)
      simp only [List.append_assoc, List.cons_append] at hfill
      rw [Numeral.value_zero] at h
      rw [Option.elim_none, hfill, coerce?, String.toList_ofList]
      exact h
  | some patch =>
      have hwild := not_wild_suffix patch (directory.major.digits ++ '.' :: directory.minor.digits)
      simp only [List.append_assoc, List.cons_append] at hwild
      rw [Option.elim_some, fillPatch_of_not_suffix hwild, coerce?, String.toList_ofList]
      exact ofChars?_three directory.major directory.minor patch

theorem normalize?_name : normalize? directory.name = some directory.version := by
  rw [← directory.coerce?_head]
  apply normalize?_of_head
  · rw [String.toList_ofList]
    exact directory.blank_not_mem_head
  · rw [name, String.toList_ofList, String.toList_ofList, suffix]
    cases directory.stage with
    | none =>
        exact Or.inl (List.append_nil _)
    | some stage =>
        exact Or.inr ⟨_, rfl⟩

end Directory

end Version
end Docloom
