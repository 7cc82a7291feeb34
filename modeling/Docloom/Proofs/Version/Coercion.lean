import Docloom.Proofs.Text.Split
import Docloom.Version.Basic
import Mathlib.Data.List.Basic

/-!
# Reading versions out of texts

A version is read from the first digits of a text that are not too many.  What stands before them
does not count, so a letter in front of a version is the same as none; and a trailing `.x` is the
same as a patch part of zero.
-/

namespace Docloom

namespace Version

variable {cs rest : List Char} {c : Char}

/-!
# The first digits
-/

theorem ofChars?_of_dropWhile_nil (h : cs.dropWhile (fun c => !Text.isDecimal c) = []) :
    ofChars? cs = none := by
  rw [ofChars?]
  split
  · rfl
  · rename_i heq
    rw [h] at heq
    cases heq

theorem ofChars?_of_dropWhile_cons
    (h : cs.dropWhile (fun c => !Text.isDecimal c) = c :: rest) :
    ofChars? cs =
      if (c :: rest.takeWhile Text.isDecimal).length ≤ digitLimit then
        withRest (c :: rest.takeWhile Text.isDecimal) (rest.dropWhile Text.isDecimal)
      else
        ofChars? (rest.dropWhile Text.isDecimal) := by
  conv => lhs; rw [ofChars?]
  split
  · rename_i heq
    rw [h] at heq
    cases heq
  · rename_i heq
    rw [h] at heq
    cases heq
    rfl

/-- What is no digit is passed over. -/
theorem ofChars?_cons (hc : Text.isDecimal c = false) (cs : List Char) :
    ofChars? (c :: cs) = ofChars? cs := by
  have hdrop : (c :: cs).dropWhile (fun c => !Text.isDecimal c) =
      cs.dropWhile fun c => !Text.isDecimal c :=
    List.dropWhile_cons_of_pos (by simp [hc])
  cases hrest : cs.dropWhile fun c => !Text.isDecimal c with
  | nil =>
      rw [ofChars?_of_dropWhile_nil hrest, ofChars?_of_dropWhile_nil (hdrop.trans hrest)]
  | cons first rest =>
      rw [ofChars?_of_dropWhile_cons hrest, ofChars?_of_dropWhile_cons (hdrop.trans hrest)]

/-!
# Names of versions
-/

theorem fillPatch_wild (start : List Char) :
    fillPatch (String.ofList (start ++ ['.', 'x'])) = String.ofList (start ++ ['.', '0']) := by
  have hending : Text.beforeEnd? ".x" (String.ofList (start ++ ['.', 'x'])) =
      some (String.ofList start) := by
    have hsuffix : ['.', 'x'].isSuffixOf (start ++ ['.', 'x']) = true := by
      rw [List.isSuffixOf_iff_suffix]
      exact List.suffix_append start _
    simp [Text.beforeEnd?, hsuffix]
  rw [fillPatch, hending]
  apply String.toList_inj.mp
  simp

theorem fillPatch_of_not_suffix (h : ¬ ['.', 'x'] <:+ cs) :
    fillPatch (String.ofList cs) = String.ofList cs := by
  have hending : Text.beforeEnd? ".x" (String.ofList cs) = none := by
    have hsuffix : ¬ ['.', 'x'].isSuffixOf cs = true := by
      rw [List.isSuffixOf_iff_suffix]
      exact h
    simp [Text.beforeEnd?, hsuffix]
  rw [fillPatch, hending]

/-- A text ends in a wild part or is left as it is. -/
theorem fillPatch_cases (cs : List Char) :
    (exists start, cs = start ++ ['.', 'x'] ∧
      fillPatch (String.ofList cs) = String.ofList (start ++ ['.', '0'])) ∨
    (¬ ['.', 'x'] <:+ cs ∧ fillPatch (String.ofList cs) = String.ofList cs) := by
  by_cases h : ['.', 'x'] <:+ cs
  · rcases h with ⟨start, rfl⟩
    exact Or.inl ⟨start, rfl, fillPatch_wild start⟩
  · exact Or.inr ⟨h, fillPatch_of_not_suffix h⟩

theorem coerce?_fillPatch_cons (hc : Text.isDecimal c = false) (hdot : c ≠ '.')
    (cs : List Char) :
    coerce? (fillPatch (String.ofList (c :: cs))) = coerce? (fillPatch (String.ofList cs)) := by
  rcases fillPatch_cases cs with ⟨start, rfl, hfill⟩ | ⟨hplain, hfill⟩
  · rw [hfill, ← List.cons_append, fillPatch_wild, coerce?, coerce?, String.toList_ofList,
      String.toList_ofList, List.cons_append, ofChars?_cons hc]
  · have hplain' : ¬ ['.', 'x'] <:+ c :: cs := by
      rintro ⟨start, hstart⟩
      cases start with
      | nil =>
          cases hstart
          exact hdot rfl
      | cons first start =>
          cases hstart
          exact hplain ⟨start, rfl⟩
    rw [hfill, fillPatch_of_not_suffix hplain', coerce?, coerce?, String.toList_ofList,
      String.toList_ofList, ofChars?_cons hc]

/-- The letter in front of a version does not count. -/
theorem coerce?_fillPatch_afterStart (text : String) :
    coerce? (fillPatch ((Text.afterStart? "v" text).getD text)) = coerce? (fillPatch text) := by
  cases hcs : text.toList with
  | nil =>
      simp [Text.afterStart?, hcs]
  | cons c cs =>
      have htext : text = String.ofList (c :: cs) := by
        rw [← hcs, String.ofList_toList]
      by_cases hc : c = 'v'
      · have hafter : Text.afterStart? "v" text = some (String.ofList cs) := by
          simp [Text.afterStart?, hcs, hc]
        rw [hafter, htext, hc, Option.getD_some]
        exact (coerce?_fillPatch_cons (by decide) (by decide) cs).symm
      · have hafter : Text.afterStart? "v" text = none := by
          simp [Text.afterStart?, hcs, Ne.symm hc]
        rw [hafter, Option.getD_none]

/-- Only what stands before the first blank counts. -/
theorem normalize?_of_head {text head : String} (h : ' ' ∉ head.toList)
    (htext : text.toList = head.toList ∨ exists rest, text.toList = head.toList ++ ' ' :: rest) :
    normalize? text = coerce? (fillPatch head) := by
  have hblank : forall c, c ∈ head.toList -> (c == ' ') = false := by
    intro c hc
    apply beq_false_of_ne
    rintro rfl
    exact h hc
  have hhead : (Text.split ' ' text).headD "" = head := by
    rcases htext with htext | ⟨rest, htext⟩
    · rw [Text.split, htext, Text.splitChars_of_not_mem hblank]
      exact String.ofList_toList
    · rw [Text.split, htext, Text.splitChars_append_cons hblank (by rfl)]
      exact String.ofList_toList
  rw [normalize?, hhead]
  exact coerce?_fillPatch_afterStart head

end Version
end Docloom
