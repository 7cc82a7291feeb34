import Docloom.Proofs.Regex.Run
import Docloom.Redirect.Expression

/-!
# Groups of path patterns

In a pattern whose parameters have no pattern of their own, the group of a parameter that is
required has a text in every match.  The group of any other parameter has one only where more is
matched than needs to be, so there is a shortest text that matches and leaves all of these
parameters out.
-/

namespace Docloom
namespace PathPattern

variable {parameter : Parameter} {segments : List Segment} {index number : Nat}
  {spot : Regex.Spot} {rest : List Char}

def parametersOf (segments : List Segment) : List Parameter :=
  segments.filterMap Segment.parameter?

theorem parametersOf_literal (text : String) (segments : List Segment) :
    parametersOf (.literal text :: segments) = parametersOf segments := rfl

theorem parametersOf_parameter (parameter : Parameter) (segments : List Segment) :
    parametersOf (.parameter parameter :: segments) = parameter :: parametersOf segments := rfl

/-!
# Literals
-/

theorem minLength_literalRegex (text : List Char) (after : Regex) :
    (literalRegex text after).minLength = text.length + after.minLength := by
  induction text with
  | nil =>
      exact (Nat.zero_add _).symm
  | cons c text ih =>
      rw [List.length_cons, Nat.add_right_comm, ← ih, Nat.add_comm]
      rfl

theorem fills_literalRegex {after : Regex} (text : List Char) (h : after.Fills number) :
    (literalRegex text after).Fills number := by
  induction text with
  | nil =>
      exact h
  | cons c text ih =>
      exact ⟨trivial, ih⟩

theorem binds_literalRegex {after : Regex} (text : List Char) (h : after.Binds number) :
    (literalRegex text after).Binds number := by
  induction text with
  | nil =>
      exact h
  | cons c text ih =>
      exact Or.inr ih

theorem spares_literalRegex {after : Regex} (text : List Char) (h : after.Spares number) :
    (literalRegex text after).Spares number := by
  induction text with
  | nil =>
      exact h
  | cons c text ih =>
      exact ⟨trivial, ih⟩

theorem exists_mem_literal {after : Regex} {text : List Char} (hspot : spot.rest = text ++ rest)
    (hafter : forall middle : Regex.Spot, middle.rest = rest ->
      exists last, last ∈ after.run middle) :
    exists last, last ∈ (literalRegex text after).run spot := by
  induction text generalizing spot with
  | nil =>
      exact hafter spot hspot
  | cons c text ih =>
      have hset : (Regex.CharSet.folded (.single c)).has c = true := by
        simp [Regex.CharSet.has, Regex.CharSet.single]
      rcases Regex.exists_mem_char hspot hset with ⟨middle, hmiddle, hrest⟩
      rcases ih hrest with ⟨next, hnext⟩
      rcases Regex.exists_mem_seq hmiddle hnext with ⟨last, hlast, _⟩
      exact ⟨last, hlast⟩

/-!
# Parameters
-/

/-- A parameter that is not required may be left out. -/
theorem exists_times_of_not_required (h : parameter.modifier.isRequired = false) (index : Nat) :
    exists inside most, parameterRegex index defaultRegex parameter = .times inside 0 most true ∧
      0 < inside.minLength := by
  rcases parameter with ⟨name, lead, pattern, modifier⟩
  cases modifier with
  | one | oneOrMore =>
      cases h
  | optional | zeroOrMore =>
      cases lead with
      | none =>
          exact ⟨_, _, rfl, Nat.zero_lt_one⟩
      | some lead =>
          exact ⟨_, _, rfl, Nat.zero_lt_two⟩

theorem fills_parameterRegex (number index : Nat) (parameter : Parameter) :
    (parameterRegex index defaultRegex parameter).Fills number := by
  rcases parameter with ⟨name, lead, pattern, modifier⟩
  cases lead <;> cases modifier <;>
    simp [parameterRegex, modifierRegex, Modifier.isRepeated, Regex.Fills, defaultRegex,
      Regex.minLength, charRegex]

theorem binds_parameterRegex (h : parameter.modifier.isRequired = true) (index : Nat) :
    (parameterRegex index defaultRegex parameter).Binds index := by
  rcases parameter with ⟨name, lead, pattern, modifier⟩
  cases modifier with
  | optional | zeroOrMore =>
      cases h
  | one | oneOrMore =>
      cases lead <;>
        simp [parameterRegex, modifierRegex, Modifier.isRepeated, Regex.Binds]

theorem spares_parameterRegex (parameter : Parameter)
    (h : number = index -> parameter.modifier.isRequired = false) :
    (parameterRegex index defaultRegex parameter).Spares number := by
  cases hrequired : parameter.modifier.isRequired with
  | false =>
      rcases exists_times_of_not_required hrequired index with ⟨inside, most, heq, hpos⟩
      rw [heq]
      exact Or.inl ⟨rfl, hpos⟩
  | true =>
      have hne : index ≠ number := by
        intro heq
        rw [h heq.symm] at hrequired
        cases hrequired
      rcases parameter with ⟨name, lead, pattern, modifier⟩
      cases lead <;> cases modifier <;>
        simp [parameterRegex, modifierRegex, Modifier.isRepeated, Regex.Spares, defaultRegex,
          charRegex, hne]

/-- The shortest text that a parameter takes: one character, with the lead before it, or
nothing. -/
def shortestOfParameter (parameter : Parameter) : List Char :=
  if parameter.modifier.isRequired then parameter.lead.toList ++ ['a'] else []

theorem minLength_parameterRegex (index : Nat) (parameter : Parameter) :
    (parameterRegex index defaultRegex parameter).minLength =
      (shortestOfParameter parameter).length := by
  rcases parameter with ⟨name, lead, pattern, modifier⟩
  cases lead <;> cases modifier <;>
    simp [parameterRegex, modifierRegex, Modifier.isRepeated, Modifier.isRequired,
      Regex.minLength, defaultRegex, charRegex, shortestOfParameter]

theorem exists_mem_default (h : spot.rest = 'a' :: rest) :
    exists last, last ∈ defaultRegex.run spot ∧ last.rest = rest := by
  have hset : (Regex.CharSet.not delimiter).has 'a' = true := by
    decide
  rcases Regex.exists_mem_char h hset with ⟨next, hnext, hrest⟩
  rcases Regex.exists_mem_times_once false hnext with ⟨last, hlast, hsame⟩
  exact ⟨last, hlast, hsame.trans hrest⟩

theorem exists_mem_lead {lead : Char} (h : spot.rest = lead :: rest) :
    exists last, last ∈ (charRegex lead).run spot ∧ last.rest = rest := by
  apply Regex.exists_mem_char h
  simp [Regex.CharSet.has, Regex.CharSet.single]

theorem exists_mem_required (hrequired : parameter.modifier.isRequired = true) (index : Nat)
    (h : spot.rest = parameter.lead.toList ++ 'a' :: rest) :
    exists last, last ∈ (parameterRegex index defaultRegex parameter).run spot ∧
      last.rest = rest := by
  rcases parameter with ⟨name, lead, pattern, modifier⟩
  cases lead with
  | none =>
      rcases exists_mem_default h with ⟨value, hvalue, hrest⟩
      rcases Regex.exists_mem_group index hvalue with ⟨next, hnext, hsame⟩
      cases modifier with
      | optional | zeroOrMore =>
          cases hrequired
      | one =>
          exact ⟨next, hnext, hsame.trans hrest⟩
      | oneOrMore =>
          rcases Regex.exists_mem_times_once true hnext with ⟨last, hlast, hsameLast⟩
          exact ⟨last, hlast, hsameLast.trans (hsame.trans hrest)⟩
  | some lead =>
      rcases exists_mem_lead h with ⟨start, hstart, hrestStart⟩
      rcases exists_mem_default hrestStart with ⟨value, hvalue, hrest⟩
      cases modifier with
      | optional | zeroOrMore =>
          cases hrequired
      | one =>
          rcases Regex.exists_mem_group index hvalue with ⟨next, hnext, hsame⟩
          rcases Regex.exists_mem_seq hstart hnext with ⟨last, hlast, hsameLast⟩
          exact ⟨last, hlast, hsameLast.trans (hsame.trans hrest)⟩
      | oneOrMore =>
          rcases Regex.exists_mem_times_stop (.seq (charRegex lead) defaultRegex) none true value
            with ⟨more, hmore, hsameMore⟩
          rcases Regex.exists_mem_seq hvalue hmore with ⟨all, hall, hsameAll⟩
          rcases Regex.exists_mem_group index hall with ⟨next, hnext, hsame⟩
          rcases Regex.exists_mem_seq hstart hnext with ⟨last, hlast, hsameLast⟩
          exact ⟨last, hlast,
            hsameLast.trans (hsame.trans (hsameAll.trans (hsameMore.trans hrest)))⟩

theorem exists_mem_parameter (index : Nat)
    (h : spot.rest = shortestOfParameter parameter ++ rest) :
    exists last, last ∈ (parameterRegex index defaultRegex parameter).run spot ∧
      last.rest = rest := by
  unfold shortestOfParameter at h
  cases hrequired : parameter.modifier.isRequired with
  | true =>
      rw [hrequired, if_pos rfl, List.append_assoc] at h
      exact exists_mem_required hrequired index h
  | false =>
      rw [hrequired, if_neg Bool.false_ne_true] at h
      rcases exists_times_of_not_required hrequired index with ⟨inside, most, heq, _⟩
      rcases Regex.exists_mem_times_stop inside most true spot with ⟨last, hlast, hrest⟩
      rw [heq]
      exact ⟨last, hlast, hrest.trans h⟩

/-!
# Segments
-/

theorem fills_segmentsRegex (number index : Nat) (segments : List Segment) :
    (segmentsRegex index segments).Fills number := by
  induction segments generalizing index with
  | nil =>
      exact ⟨trivial, trivial⟩
  | cons segment segments ih =>
      cases segment with
      | literal text =>
          exact fills_literalRegex _ (ih index)
      | parameter parameter =>
          exact ⟨fills_parameterRegex number index parameter, ih (index + 1)⟩

/-- The group of a required parameter takes part in every match. -/
theorem binds_segmentsRegex {k : Nat} (hparameter : (parametersOf segments)[k]? = some parameter)
    (hrequired : parameter.modifier.isRequired = true) :
    (segmentsRegex index segments).Binds (index + k) := by
  induction segments generalizing index k with
  | nil =>
      cases hparameter
  | cons segment segments ih =>
      cases segment with
      | literal text =>
          exact binds_literalRegex _ (ih hparameter)
      | parameter first =>
          rw [parametersOf_parameter] at hparameter
          cases k with
          | zero =>
              cases hparameter
              exact Or.inl (binds_parameterRegex hrequired index)
          | succ k =>
              have hnumber : index + (k + 1) = index + 1 + k := by
                omega
              rw [hnumber]
              exact Or.inr (ih hparameter)

/-- The group of a parameter that is not required takes part only where more is matched than
needs to be. -/
theorem spares_segmentsRegex
    (h : forall k parameter, (parametersOf segments)[k]? = some parameter ->
      number = index + k -> parameter.modifier.isRequired = false) :
    (segmentsRegex index segments).Spares number := by
  induction segments generalizing index with
  | nil =>
      exact ⟨Or.inr trivial, trivial⟩
  | cons segment segments ih =>
      cases segment with
      | literal text =>
          exact spares_literalRegex _ (ih h)
      | parameter first =>
          rw [parametersOf_parameter] at h
          refine ⟨spares_parameterRegex first (h 0 first rfl), ih ?_⟩
          intro k parameter hparameter hnumber
          apply h (k + 1) parameter hparameter
          omega

/-- The shortest text that segments take. -/
def shortestOf : List Segment -> List Char
  | [] => []
  | .literal text :: segments => text.toList ++ shortestOf segments
  | .parameter parameter :: segments => shortestOfParameter parameter ++ shortestOf segments

theorem minLength_segmentsRegex (index : Nat) (segments : List Segment) :
    (segmentsRegex index segments).minLength = (shortestOf segments).length := by
  induction segments generalizing index with
  | nil =>
      simp [segmentsRegex, shortestOf, Regex.minLength]
  | cons segment segments ih =>
      cases segment with
      | literal text =>
          rw [segmentsRegex, minLength_literalRegex, ih, shortestOf, List.length_append]
      | parameter parameter =>
          rw [segmentsRegex, Regex.minLength, minLength_parameterRegex, ih, shortestOf,
            List.length_append]

/-- Segments match the shortest text that they take. -/
theorem exists_mem_segments (h : spot.rest = shortestOf segments) :
    exists last, last ∈ (segmentsRegex index segments).run spot := by
  induction segments generalizing index spot with
  | nil =>
      rcases Regex.exists_mem_times_stop (.char delimiter) (some 1) true spot with
        ⟨middle, hmiddle, hrest⟩
      have hend : middle ∈ (Regex.anchor .textEnd).run middle := by
        rw [h] at hrest
        simp [Regex.run, Regex.Anchor.holds, hrest, shortestOf]
      rcases Regex.exists_mem_seq hmiddle hend with ⟨last, hlast, _⟩
      exact ⟨last, hlast⟩
  | cons segment segments ih =>
      cases segment with
      | literal text =>
          exact exists_mem_literal h fun middle hmiddle => ih hmiddle
      | parameter parameter =>
          rcases exists_mem_parameter index h with ⟨middle, hmiddle, hrest⟩
          have hbelow : exists next, next ∈ (segmentsRegex (index + 1) segments).run middle :=
            ih hrest
          rcases hbelow with ⟨next, hnext⟩
          rcases Regex.exists_mem_seq hmiddle hnext with ⟨last, hlast, _⟩
          exact ⟨last, hlast⟩

end PathPattern
end Docloom
