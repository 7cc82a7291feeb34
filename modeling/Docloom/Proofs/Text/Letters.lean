import Docloom.Regex.CharSet
import Mathlib

/-!
# Letters

Two texts that differ in letter case only have the same letters.  Characters that have no case,
such as those that cut a url into parts, are like themselves alone.
-/

namespace Docloom
namespace Text

/-- Whether two characters are the same, or differ in case only. -/
def SameLetter (c d : Char) : Prop := c = d ∨ c ∈ caseVariants d

/-- Whether two texts are the same, or differ in case only. -/
def SameLetters (a b : List Char) : Prop := List.Forall₂ SameLetter a b

theorem sameLetters_refl (cs : List Char) : SameLetters cs cs := by
  induction cs with
  | nil =>
      exact .nil
  | cons c cs ih =>
      exact .cons (Or.inl rfl) ih

theorem sameLetters_append {a b c d : List Char} (hfirst : SameLetters a b)
    (hsecond : SameLetters c d) : SameLetters (a ++ c) (b ++ d) := by
  induction hfirst with
  | nil =>
      exact hsecond
  | cons hletter _ ih =>
      exact .cons hletter ih

theorem SameLetters.length_eq {a b : List Char} (h : SameLetters a b) : a.length = b.length :=
  List.Forall₂.length_eq h

theorem SameLetters.exists_of_mem {a b : List Char} {d : Char} (h : SameLetters a b)
    (hd : d ∈ b) : exists c, c ∈ a ∧ SameLetter c d := by
  induction h with
  | nil =>
      cases hd
  | cons hletter hrest ih =>
      rename_i c other a b
      rcases List.mem_cons.mp hd with rfl | hmem
      · exact ⟨c, List.mem_cons_self, hletter⟩
      · rcases ih hmem with ⟨found, hfound, hsame⟩
        exact ⟨found, List.mem_cons_of_mem _ hfound, hsame⟩

/-!
# Letters of the basic Latin block
-/

theorem isUpper_of_toLower_ne {c : Char} (h : c.toLower ≠ c) : c.isUpper = true := by
  by_contra hnot
  exact h (Char.toLower_eq_of_not_isUpper hnot)

theorem toNat_of_isUpper {c : Char} (h : c.isUpper = true) : 65 ≤ c.toNat ∧ c.toNat < 91 := by
  simp only [Char.isUpper, decide_eq_true_eq, ge_iff_le] at h
  exact ⟨UInt32.le_iff_toNat_le.mp h.1, Nat.lt_succ_of_le (UInt32.le_iff_toNat_le.mp h.2)⟩

/-- A capital letter is among the characters that fold to the small one. -/
theorem capital_mem_sources {c : Char} (h : c.isUpper = true) :
    c ∈ (foldShifts.flatMap (Shift.sources · c.toLower.toNat)).map Char.ofNat ∧
      c.toLower.toNat < 128 := by
  have hall : forall n, n < 91 -> 65 ≤ n ->
      Char.ofNat n ∈ (foldShifts.flatMap
          (Shift.sources · (Char.ofNat n).toLower.toNat)).map Char.ofNat ∧
        (Char.ofNat n).toLower.toNat < 128 := by
    decide +kernel
  rcases toNat_of_isUpper h with ⟨hfirst, hlast⟩
  have hself := hall c.toNat hlast hfirst
  rw [Char.ofNat_toNat] at hself
  exact hself

theorem sameLetter_of_toLower_eq {c d : Char} (h : c.toLower = d.toLower) : SameLetter c d := by
  by_cases hbasic : d.toNat < 128
  · have hfold : foldChar d = c.toLower := by
      rw [foldChar, if_pos hbasic, h]
    right
    unfold caseVariants
    rw [hfold]
    by_cases hc : c.toLower = c
    · exact List.mem_cons.mpr (Or.inl hc.symm)
    · exact List.mem_cons_of_mem _ (capital_mem_sources (isUpper_of_toLower_ne hc)).1
  · -- no character outside the block is a letter of the block in another case
    have hsmall : d.toLower = d := by
      by_contra hne
      have hlast := (toNat_of_isUpper (isUpper_of_toLower_ne hne)).2
      omega
    have hsame : c.toLower = c := by
      by_contra hne
      have hlast := (capital_mem_sources (isUpper_of_toLower_ne hne)).2
      rw [h, hsmall] at hlast
      exact hbasic hlast
    rw [hsame, hsmall] at h
    exact Or.inl h

/-- Texts that differ in the case of basic Latin letters only have the same letters. -/
theorem sameLetters_of_map_toLower_eq {a b : List Char}
    (h : a.map Char.toLower = b.map Char.toLower) : SameLetters a b := by
  induction a generalizing b with
  | nil =>
      rw [List.map_eq_nil_iff.mp h.symm]
      exact .nil
  | cons c a ih =>
      cases b with
      | nil =>
          cases h
      | cons d b =>
          rcases List.cons_eq_cons.mp h with ⟨hhead, htail⟩
          exact .cons (sameLetter_of_toLower_eq hhead) (ih htail)

/-!
# Characters without case
-/

/-- Whether a shift of case neither starts nor ends at a number. -/
def Shift.avoids (shift : Shift) (n : Nat) : Bool :=
  (n < shift.first || shift.last < n) &&
    ((n : Int) < shift.first + shift.offset || shift.last + shift.offset < (n : Int))

theorem Shift.target?_ne {shift : Shift} {n m : Nat} (h : shift.avoids n = true) (hpos : 0 < n) :
    shift.target? n = none ∧ shift.target? m ≠ some n := by
  simp only [avoids, Bool.and_eq_true, Bool.or_eq_true, decide_eq_true_eq] at h
  unfold target?
  constructor
  · rw [if_neg]
    simp only [Bool.and_eq_true, decide_eq_true_eq]
    omega
  · split
    · rename_i hrange
      simp only [Bool.and_eq_true, decide_eq_true_eq] at hrange
      rw [ne_eq, Option.some_inj]
      omega
    · simp

structure Caseless (c : Char) : Prop where
  pos : 0 < c.toNat
  basic : c.toNat < 128
  notAlpha : c.isAlpha = false
  avoids : forall shift, shift ∈ foldShifts -> shift.avoids c.toNat = true

instance (c : Char) : Decidable (Caseless c) :=
  decidable_of_iff
    (0 < c.toNat ∧ c.toNat < 128 ∧ c.isAlpha = false ∧
      forall shift, shift ∈ foldShifts -> shift.avoids c.toNat = true)
    ⟨fun h => ⟨h.1, h.2.1, h.2.2.1, h.2.2.2⟩, fun h => ⟨h.pos, h.basic, h.notAlpha, h.avoids⟩⟩

theorem eq_toNat_of_ofNat {n : Nat} {c : Char} (h : Char.ofNat n = c) (hpos : 0 < c.toNat) :
    n = c.toNat := by
  rw [← h, Char.toNat_ofNat] at hpos ⊢
  split at hpos
  · rename_i hvalid
    rw [if_pos hvalid]
  · exact absurd hpos (Nat.lt_irrefl 0)

namespace Caseless

variable {c d : Char}

theorem foldChar_eq (h : Caseless c) : foldChar c = c := by
  have hupper : ¬ c.isUpper = true := by
    intro hupper
    have halpha := h.notAlpha
    rw [Char.isAlpha, hupper] at halpha
    cases halpha
  rw [foldChar, if_pos h.basic, Char.toLower_eq_of_not_isUpper hupper]

theorem eq_of_foldChar (h : Caseless c) (hfold : foldChar d = c) : d = c := by
  unfold foldChar at hfold
  split at hfold
  · have halpha : d.isAlpha = false := by
      rw [← Char.isAlpha_toLower_eq_isAlpha, hfold, h.notAlpha]
    have hupper : ¬ d.isUpper = true := by
      intro hupper
      rw [Char.isAlpha, hupper] at halpha
      cases halpha
    rw [← hfold, Char.toLower_eq_of_not_isUpper hupper]
  · unfold shifted at hfold
    split at hfold
    · rename_i n hn
      rcases List.exists_of_findSome?_eq_some hn with ⟨shift, hshift, htarget⟩
      rw [eq_toNat_of_ofNat hfold h.pos] at htarget
      exact absurd htarget (Shift.target?_ne (h.avoids shift hshift) h.pos).2
    · exact hfold

theorem eq_of_mem_caseVariants (h : Caseless c) (hmem : c ∈ caseVariants d) : d = c := by
  rcases List.mem_cons.mp hmem with hfold | hsource
  · exact h.eq_of_foldChar hfold.symm
  · rcases List.mem_map.mp hsource with ⟨n, hn, heq⟩
    rcases List.mem_flatMap.mp hn with ⟨shift, hshift, hn⟩
    have hnone := (Shift.target?_ne (m := 0) (h.avoids shift hshift) h.pos).1
    simp only [Shift.sources] at hn
    split at hn
    · rename_i htarget
      rw [← List.mem_singleton.mp hn, eq_toNat_of_ofNat heq h.pos, hnone] at htarget
      cases htarget
    · cases hn

theorem eq_of_mem_own_caseVariants (h : Caseless c) (hmem : d ∈ caseVariants c) : d = c := by
  rcases List.mem_cons.mp hmem with hfold | hsource
  · rw [hfold, h.foldChar_eq]
  · rcases List.mem_map.mp hsource with ⟨n, hn, rfl⟩
    rcases List.mem_flatMap.mp hn with ⟨shift, hshift, hn⟩
    simp only [Shift.sources, h.foldChar_eq] at hn
    split at hn
    · rename_i htarget
      exact absurd (eq_of_beq htarget) (Shift.target?_ne (h.avoids shift hshift) h.pos).2
    · cases hn

/-- A character without case is like no other one. -/
theorem sameLetter_iff (h : Caseless c) : SameLetter c d ↔ d = c := by
  constructor
  · rintro (heq | hmem)
    · exact heq.symm
    · exact h.eq_of_mem_caseVariants hmem
  · rintro rfl
    exact Or.inl rfl

theorem sameLetter_left_iff (h : Caseless c) : SameLetter d c ↔ d = c := by
  constructor
  · rintro (heq | hmem)
    · exact heq
    · exact h.eq_of_mem_own_caseVariants hmem
  · rintro rfl
    exact Or.inl rfl

end Caseless

end Text

namespace Regex

theorem has_folded_single {c d : Char} :
    (CharSet.folded (.single c)).has d = true ↔ Text.SameLetter c d := by
  have hsingle : forall e : Char, (CharSet.single c).has e = true ↔ c = e := by
    intro e
    simp only [CharSet.single, CharSet.has, Bool.and_eq_true, decide_eq_true_eq]
    constructor
    · rintro ⟨hle, hge⟩
      exact Char.le_antisymm hle hge
    · rintro rfl
      exact ⟨Char.le_refl _, Char.le_refl _⟩
  simp only [CharSet.has, Bool.or_eq_true, List.any_eq_true, hsingle, Text.SameLetter]
  simp

end Regex
end Docloom
