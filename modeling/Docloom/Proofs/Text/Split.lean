import Docloom.Text.Cut
import Mathlib.Data.List.Basic

/-!
# Splitting and joining

The pieces of a text between separators, and the text that pieces are joined to.
-/

namespace Docloom
namespace Text

theorem splitChars_of_not_mem {p : Char -> Bool} {cs : List Char}
    (h : forall c, c ∈ cs -> p c = false) : splitChars p cs = [cs] := by
  induction cs with
  | nil =>
      rfl
  | cons c cs ih =>
      rw [splitChars, h c List.mem_cons_self, ih]
      · rfl
      · intro other hother
        exact h other (List.mem_cons_of_mem _ hother)

theorem splitChars_append_cons {p : Char -> Bool} {cs : List Char} {separator : Char}
    (h : forall c, c ∈ cs -> p c = false) (hseparator : p separator = true)
    (rest : List Char) :
    splitChars p (cs ++ separator :: rest) = cs :: splitChars p rest := by
  induction cs with
  | nil =>
      rw [List.nil_append, splitChars, if_pos hseparator]
  | cons c cs ih =>
      have hrest : splitChars p (cs ++ separator :: rest) = cs :: splitChars p rest := by
        apply ih
        intro other hother
        exact h other (List.mem_cons_of_mem _ hother)
      rw [List.cons_append, splitChars, h c List.mem_cons_self, hrest]
      rfl

/-- No piece of a text holds what separates the pieces. -/
theorem not_separator_of_mem_splitChars {p : Char -> Bool} {cs piece : List Char}
    (hpiece : piece ∈ splitChars p cs) : forall c, c ∈ piece -> p c = false := by
  induction cs generalizing piece with
  | nil =>
      rw [splitChars_nil, List.mem_singleton] at hpiece
      rw [hpiece]
      simp
  | cons c cs ih =>
      rw [splitChars] at hpiece
      by_cases hc : p c = true
      · rw [if_pos hc] at hpiece
        rcases List.mem_cons.mp hpiece with rfl | hrest
        · simp
        · exact ih hrest
      · rw [if_neg hc] at hpiece
        cases hsplit : splitChars p cs with
        | nil =>
            exact absurd hsplit (splitChars_ne_nil p cs)
        | cons first pieces =>
            rw [hsplit] at hpiece ih
            dsimp only at hpiece
            rcases List.mem_cons.mp hpiece with rfl | hrest
            · intro other hother
              rcases List.mem_cons.mp hother with rfl | hbelow
              · simpa using hc
              · exact ih List.mem_cons_self other hbelow
            · exact ih (List.mem_cons_of_mem _ hrest)

theorem splitChars_append_separator {p : Char -> Bool} {separator : Char}
    (hseparator : p separator = true) (cs rest : List Char) :
    splitChars p (cs ++ separator :: rest) = splitChars p cs ++ splitChars p rest := by
  induction cs with
  | nil =>
      rw [List.nil_append, splitChars_nil, splitChars, if_pos hseparator]
      rfl
  | cons c cs ih =>
      rw [List.cons_append, splitChars, ih, splitChars]
      split
      · rfl
      · cases hsplit : splitChars p cs with
        | nil =>
            exact absurd hsplit (splitChars_ne_nil p cs)
        | cons piece pieces =>
            rfl

/-- Pieces without a separator are found again. -/
theorem splitChars_append_flatMap {separator : Char} {first : List Char}
    {others : List (List Char)}
    (h : forall piece, piece ∈ first :: others -> forall c, c ∈ piece -> (c == separator) = false) :
    splitChars (· == separator) (first ++ others.flatMap (separator :: ·)) = first :: others := by
  induction others generalizing first with
  | nil =>
      rw [List.flatMap_nil, List.append_nil]
      exact splitChars_of_not_mem (h first List.mem_cons_self)
  | cons next others ih =>
      rw [List.flatMap_cons, List.cons_append,
        splitChars_append_cons (h first List.mem_cons_self) (beq_self_eq_true separator),
        ih fun piece hpiece => h piece (List.mem_cons_of_mem _ hpiece)]

theorem flatMap_splitChars (separator : Char) (cs : List Char) :
    (splitChars (· == separator) cs).flatMap (separator :: ·) = separator :: cs := by
  induction cs with
  | nil =>
      rfl
  | cons c rest ih =>
      rw [splitChars]
      split
      · rename_i hseparator
        rw [List.flatMap_cons, ih, eq_of_beq hseparator]
        rfl
      · cases hrest : splitChars (· == separator) rest with
        | nil =>
            exact absurd hrest (splitChars_ne_nil _ rest)
        | cons piece pieces =>
            rw [hrest, List.flatMap_cons, List.cons_append] at ih
            rw [List.flatMap_cons, List.cons_append, List.cons_append,
              List.tail_eq_of_cons_eq ih]

/-!
# Joining
-/

theorem splitChars_join_of_noSlash {texts : List String}
    (h : forall text, text ∈ texts -> '/' ∉ text.toList) (hne : texts ≠ []) :
    splitChars (· == '/') (join "/" texts).toList = texts.map String.toList := by
  induction texts with
  | nil =>
      exact absurd rfl hne
  | cons text rest ih =>
      have htext : forall c, c ∈ text.toList -> (c == '/') = false := by
        intro c hc
        apply beq_false_of_ne
        intro heq
        rw [heq] at hc
        exact h text List.mem_cons_self hc
      have hrest : forall other, other ∈ rest -> '/' ∉ other.toList := by
        intro other hother
        exact h other (List.mem_cons_of_mem _ hother)
      cases rest with
      | nil =>
          rw [join, String.intercalate_singleton]
          exact splitChars_of_not_mem htext
      | cons next others =>
          have hjoin : (join "/" (text :: next :: others)).toList =
              text.toList ++ '/' :: (join "/" (next :: others)).toList := by
            simp [join, String.intercalate_cons_cons]
          rw [hjoin, splitChars_append_cons htext (by rfl), ih hrest (by simp)]
          rfl

theorem toList_join_empty (texts : List String) :
    (join "" texts).toList = texts.flatMap String.toList := by
  induction texts with
  | nil =>
      rfl
  | cons text rest ih =>
      cases rest with
      | nil =>
          simp [join]
      | cons next others =>
          rw [List.flatMap_cons, ← ih]
          simp [join, String.intercalate_cons_cons]

end Text
end Docloom
