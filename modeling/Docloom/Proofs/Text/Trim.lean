import Docloom.Text.Cut
import Mathlib.Data.List.TakeWhile

/-!
# Trimmed texts

Trimming takes off all characters of a kind at both ends, and nothing else: what is left neither
begins nor ends with one of them.
-/

namespace Docloom
namespace Text

variable {p : Char -> Bool} {cs left right : List Char} {c : Char}

/-!
# The end of a text
-/

theorem dropEndWhile_append (p : Char -> Bool) (first second : List Char) :
    dropEndWhile p (first ++ second) =
      if dropEndWhile p second = [] then dropEndWhile p first
      else first ++ dropEndWhile p second := by
  rw [dropEndWhile, dropEndWhile, dropEndWhile, List.reverse_append, List.dropWhile_append]
  by_cases h : second.reverse.dropWhile p = []
  · rw [if_pos (by rw [h]; rfl), if_pos (by rw [h]; rfl)]
  · rw [if_neg (by simpa using h), if_neg (by simpa using h), List.reverse_append,
      List.reverse_reverse]

theorem exists_dropped (p : Char -> Bool) (cs : List Char) :
    exists dropped, cs = dropEndWhile p cs ++ dropped ∧
      forall c, c ∈ dropped -> p c = true := by
  refine ⟨(cs.reverse.takeWhile p).reverse, ?_, ?_⟩
  · rw [dropEndWhile, ← List.reverse_append, List.takeWhile_append_dropWhile, List.reverse_reverse]
  · intro c hc
    exact List.mem_takeWhile_imp (List.mem_reverse.mp hc)

theorem dropEndWhile_append_of_pos (h : forall c, c ∈ right -> p c = true) (cs : List Char) :
    dropEndWhile p (cs ++ right) = dropEndWhile p cs := by
  rw [dropEndWhile, List.reverse_append, List.dropWhile_append_of_pos, dropEndWhile]
  intro c hc
  exact h c (List.mem_reverse.mp hc)

theorem dropEndWhile_append_cons (h : p c = false) (before after : List Char) :
    dropEndWhile p (before ++ c :: after) = before ++ c :: dropEndWhile p after := by
  have hassoc : before ++ c :: after = (before ++ [c]) ++ after := by
    simp
  have hkept : dropEndWhile p (before ++ [c]) = before ++ [c] := by
    rw [dropEndWhile_concat, if_neg (by rw [h]; exact Bool.false_ne_true)]
  rw [hassoc, dropEndWhile_append, hkept]
  split
  · rename_i hnil
    rw [hnil]
  · simp

/-- What is dropped from the end of a text does not reach beyond a part with something in it that
is kept. -/
theorem exists_dropEndWhile_of_mem (before : List Char) (hmem : c ∈ cs) (h : p c = false)
    (after : List Char) :
    exists kept,
      dropEndWhile p (before ++ (cs ++ after)) = before ++ (dropEndWhile p cs ++ kept) := by
  rcases List.append_of_mem hmem with ⟨first, last, rfl⟩
  have hkept : exists kept, dropEndWhile p (last ++ after) = dropEndWhile p last ++ kept := by
    rw [dropEndWhile_append]
    split
    · exact ⟨[], (List.append_nil _).symm⟩
    · rcases exists_dropped p last with ⟨dropped, hdropped, _⟩
      exact ⟨dropped ++ dropEndWhile p after, by rw [← List.append_assoc, ← hdropped]⟩
  rcases hkept with ⟨kept, hkept⟩
  refine ⟨kept, ?_⟩
  rw [List.append_assoc, List.cons_append, ← List.append_assoc, dropEndWhile_append_cons h, hkept,
    dropEndWhile_append_cons h, List.append_assoc, List.append_assoc, List.cons_append]

theorem getLast?_dropEndWhile (h : (dropEndWhile p cs).getLast? = some c) : p c = false := by
  have hnot := List.head?_dropWhile_not p cs.reverse
  rw [dropEndWhile, List.getLast?_reverse] at h
  rw [h] at hnot
  exact hnot

/-!
# Both ends
-/

/-- Whether a text neither begins nor ends with a character that would be trimmed. -/
structure Trimmed (p : Char -> Bool) (cs : List Char) : Prop where
  head : forall c, cs.head? = some c -> p c = false
  last : forall c, cs.getLast? = some c -> p c = false

/-- Characters that are trimmed do not count at either end. -/
theorem trimWhile_append (hleft : forall c, c ∈ left -> p c = true)
    (hright : forall c, c ∈ right -> p c = true) (cs : List Char) :
    trimWhile p (left ++ (cs ++ right)) = trimWhile p cs := by
  rw [trimWhile, List.dropWhile_append_of_pos hleft, List.dropWhile_append, trimWhile]
  split
  · rename_i hempty
    have hnil : right.dropWhile p = [] := List.dropWhile_eq_nil_iff.mpr hright
    rw [hnil, List.isEmpty_iff.mp hempty]
  · exact dropEndWhile_append_of_pos hright _

theorem exists_trimWhile (p : Char -> Bool) (cs : List Char) :
    exists left right, cs = left ++ (trimWhile p cs ++ right) ∧
      (forall c, c ∈ left -> p c = true) ∧ forall c, c ∈ right -> p c = true := by
  rcases exists_dropped p (cs.dropWhile p) with ⟨right, hright, hall⟩
  refine ⟨cs.takeWhile p, right, ?_, fun c => List.mem_takeWhile_imp, hall⟩
  rw [trimWhile, ← hright, List.takeWhile_append_dropWhile]

theorem trimmed_trimWhile (p : Char -> Bool) (cs : List Char) : Trimmed p (trimWhile p cs) := by
  refine ⟨?_, fun c => getLast?_dropEndWhile⟩
  intro c hc
  rcases exists_dropped p (cs.dropWhile p) with ⟨right, hright, _⟩
  have hnot := List.head?_dropWhile_not p cs
  have hhead : (cs.dropWhile p).head? = some c := by
    rw [hright, List.head?_append, ← trimWhile, hc]
    rfl
  rw [hhead] at hnot
  exact hnot

theorem trimWhile_of_trimmed (h : Trimmed p cs) : trimWhile p cs = cs := by
  rcases exists_trimWhile p cs with ⟨left, right, hcs, hleft, hright⟩
  have hstart : left = [] := by
    cases left with
    | nil =>
        rfl
    | cons c left =>
        have hfalse := h.head c (by rw [hcs]; rfl)
        rw [hleft c List.mem_cons_self] at hfalse
        cases hfalse
  have hend : right = [] := by
    rcases List.eq_nil_or_concat right with rfl | ⟨before, c, rfl⟩
    · rfl
    · have hfalse := h.last c (by rw [hcs]; simp)
      rw [hright c (by simp)] at hfalse
      cases hfalse
  rw [hstart, hend, List.nil_append, List.append_nil] at hcs
  exact hcs.symm

end Text
end Docloom
