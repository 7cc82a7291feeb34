import Docloom.Proofs.Redirect.Reproduction
import Docloom.Proofs.Regex.Language
import Docloom.Proofs.Regex.Reach

/-!
# Instances of patterns

The text of a pattern and the expression that it is matched by are made apart from each other.
Here they are brought together: whatever a pattern without patterns of its own is filled with, the
expression takes it, in any letter case and with an ending.
-/

namespace Docloom

namespace PathPattern

variable {values : Values} {parameter : Parameter} {segments : List Segment}
  {value : Option String} {piece other text body ending : List Char} {lead : Char} {index : Nat}
  {spot : Regex.Spot} {inside : Regex}

/-!
# What parameters take
-/

theorem takesText_default (h : IsValue text) : Regex.TakesText defaultRegex text := by
  refine Regex.takesText_repeat ?_ (List.length_pos_iff.mpr h.ne_nil) (by simp)
  intro c hc
  simp [Regex.CharSet.has, h.has_eq c hc]

theorem takesText_charRegex {c d : Char} (h : Text.SameLetter c d) :
    Regex.TakesText (charRegex c) [d] :=
  Regex.takesText_char (Regex.has_folded_single.mpr h)

theorem takesText_lead (lead : Char) (h : Regex.TakesText inside text) :
    Regex.TakesText (.seq (charRegex lead) inside) (lead :: text) :=
  (takesText_charRegex (Or.inl rfl)).seq h

theorem takesText_modifierRegex {regex : Regex} (modifier : Modifier)
    (h : regex.TakesText text) : (modifierRegex modifier regex).TakesText text := by
  cases modifier with
  | one =>
      exact h
  | optional =>
      exact h.optional
  | zeroOrMore =>
      exact h.once (Nat.zero_le 1)
  | oneOrMore =>
      exact h.once (Nat.le_refl 1)

/-- Repetitions with a lead before each are taken, the first of them apart from the others. -/
theorem takesText_repeated {first : List Char} {others : List (List Char)}
    (h : forall value, value ∈ first :: others -> IsValue value) :
    Regex.TakesText (.seq (charRegex lead) (.group index (.seq defaultRegex
      (.times (.seq (charRegex lead) defaultRegex) 0 none true))))
      ((first :: others).flatMap (lead :: ·)) := by
  have hothers : forall piece, piece ∈ others.map (lead :: ·) ->
      Regex.TakesText (.seq (charRegex lead) defaultRegex) piece := by
    intro piece hpiece
    rcases List.mem_map.mp hpiece with ⟨value, hvalue, rfl⟩
    exact takesText_lead lead (takesText_default (h value (List.mem_cons_of_mem _ hvalue)))
  have hmore : Regex.TakesText (.times (.seq (charRegex lead) defaultRegex) 0 none true)
      (others.map (lead :: ·)).flatten := .times hothers (Nat.zero_le _)
  have hfirst := takesText_default (h first List.mem_cons_self)
  rw [List.flatMap_cons, List.cons_append, List.flatMap_def]
  exact takesText_lead lead ((hfirst.seq hmore).group index)

/-- A parameter takes each part of a url that it can have a value for. -/
theorem takesText_parameterRegex (h : Captures parameter value piece) (index : Nat) :
    Regex.TakesText (parameterRegex index defaultRegex parameter) piece := by
  cases h with
  | absent hoptional =>
      rcases exists_times_of_not_required hoptional index with ⟨inside, most, heq, _⟩
      rw [heq]
      exact Regex.takesText_stop
  | once hsingle hvalue =>
      have hgroup := (takesText_default hvalue).group index
      unfold parameterRegex
      cases parameter.lead with
      | none =>
          exact takesText_modifierRegex _ hgroup
      | some lead =>
          dsimp only
          rw [if_neg (by rw [hsingle]; exact Bool.false_ne_true)]
          exact takesText_modifierRegex _ (takesText_lead lead hgroup)
  | last hrepeated hlead hvalue =>
      rw [parameterRegex, hlead]
      exact takesText_modifierRegex _ ((takesText_default hvalue).group index)
  | all hrepeated hlead hne hvalues =>
      rename_i lead values
      rcases List.exists_cons_of_ne_nil hne with ⟨first, others, rfl⟩
      have hall := @takesText_repeated lead index first others hvalues
      rw [parameterRegex, hlead]
      dsimp only
      rw [if_pos hrepeated]
      split
      · exact hall.optional
      · exact hall

theorem exists_captures_of_isValue (hrepeated : parameter.modifier.isRepeated = true)
    (hlead : parameter.lead = none) (h : IsValue text) :
    exists value, Captures parameter value text := by
  rcases List.eq_nil_or_concat' text with rfl | ⟨before, c, rfl⟩
  · exact absurd rfl h.ne_nil
  · exact ⟨_, .last hrepeated hlead h⟩

/-!
# Other letter case
-/

theorem IsValue.sameLetters (h : IsValue text) (hletters : Text.SameLetters text other) :
    IsValue other := by
  constructor
  · rintro rfl
    cases hletters
    exact h.ne_nil rfl
  · intro c hc
    rw [Bool.eq_false_iff]
    intro hhas
    have hcase : Text.Caseless c := by
      rcases delimiter_has_iff.mp hhas with rfl | rfl | rfl <;>
        decide +kernel
    rcases hletters.exists_of_mem hc with ⟨d, hd, hletter⟩
    rw [hcase.sameLetter_left_iff.mp hletter] at hd
    rw [h.has_eq c hd] at hhas
    cases hhas

theorem sameLetters_repeated {values : List (List Char)} (hcase : Text.Caseless lead)
    (hvalues : forall value, value ∈ values -> IsValue value)
    (hletters : Text.SameLetters (values.flatMap (lead :: ·)) other) :
    exists others : List (List Char), other = others.flatMap (lead :: ·) ∧
      others.length = values.length ∧ forall value, value ∈ others -> IsValue value := by
  induction values generalizing other with
  | nil =>
      cases hletters
      exact ⟨[], rfl, rfl, by simp⟩
  | cons value values ih =>
      rw [List.flatMap_cons, List.cons_append] at hletters
      cases hletters with
      | cons hletter hrest =>
          rw [hcase.sameLetter_iff.mp hletter]
          rcases Text.exists_of_sameLetters_append hrest with ⟨first, rest, rfl, hfirst, hmore⟩
          rcases ih (fun other hother => hvalues other (List.mem_cons_of_mem _ hother)) hmore with
            ⟨others, rfl, hlength, hothers⟩
          refine ⟨first :: others, ?_, congrArg (· + 1) hlength, ?_⟩
          · rw [List.flatMap_cons, List.cons_append]
          · intro other hother
            rcases List.mem_cons.mp hother with rfl | hmem
            · exact (hvalues value List.mem_cons_self).sameLetters hfirst
            · exact hothers other hmem

/-- A part that a parameter can have a value for stays one in another letter case. -/
theorem Captures.sameLetters (h : Captures parameter value piece)
    (hcase : forall lead, parameter.lead = some lead -> Text.Caseless lead)
    (hletters : Text.SameLetters piece other) : exists value, Captures parameter value other := by
  cases h with
  | absent hoptional =>
      cases hletters
      exact ⟨none, .absent hoptional⟩
  | once hsingle hvalue =>
      rcases Text.exists_of_sameLetters_append hletters with ⟨first, rest, rfl, hfirst, hrest⟩
      have hlead : first = parameter.lead.toList := by
        cases hparameter : parameter.lead with
        | none =>
            rw [hparameter] at hfirst
            cases hfirst
            rfl
        | some lead =>
            rw [hparameter] at hfirst
            cases hfirst with
            | cons hletter hnil =>
                cases hnil
                rw [(hcase lead hparameter).sameLetter_iff.mp hletter]
                rfl
      rw [hlead]
      exact ⟨_, .once hsingle (hvalue.sameLetters hrest)⟩
  | last hrepeated hlead hvalue =>
      exact exists_captures_of_isValue hrepeated hlead (hvalue.sameLetters hletters)
  | all hrepeated hlead hne hvalues =>
      rcases sameLetters_repeated (hcase _ hlead) hvalues hletters with
        ⟨others, rfl, hlength, hothers⟩
      refine ⟨_, .all hrepeated hlead ?_ hothers⟩
      rintro rfl
      exact hne (List.length_eq_zero_iff.mp hlength.symm)

/-!
# Filled segments
-/

/-- The values that a parameter may be given: nothing where it may be left out, a text without
delimiters, or for a repeated parameter with a lead such texts with the lead between them. -/
inductive Fits (parameter : Parameter) : Option String -> Prop where
  | absent (hoptional : parameter.modifier.isRequired = false) : Fits parameter none
  | once {value : List Char} (hsingle : parameter.modifier.isRepeated = false)
      (hvalue : IsValue value) : Fits parameter (some (String.ofList value))
  | lone {value : List Char} (hrepeated : parameter.modifier.isRepeated = true)
      (hlead : parameter.lead = none) (hvalue : IsValue value) :
      Fits parameter (some (String.ofList value))
  | joined {lead : Char} {values : List (List Char)}
      (hrepeated : parameter.modifier.isRepeated = true) (hlead : parameter.lead = some lead)
      (hne : values ≠ []) (hvalues : forall value, value ∈ values -> IsValue value ∧ lead ∉ value) :
      Fits parameter (some (Text.join (String.singleton lead) (values.map String.ofList)))

/-- The texts that segments are filled with. -/
inductive Instance : List Segment -> List Char -> Prop where
  | nil : Instance [] []
  | literal {text : String} {segments : List Segment} {rest : List Char}
      (hrest : Instance segments rest) :
      Instance (.literal text :: segments) (text.toList ++ rest)
  | parameter {parameter : Parameter} {value : Option String} {piece : List Char}
      {segments : List Segment} {rest : List Char} (hcaptures : Captures parameter value piece)
      (hrest : Instance segments rest) : Instance (.parameter parameter :: segments) (piece ++ rest)

theorem join_singleton_eq (lead : Char) (first : List Char) (others : List (List Char)) :
    Text.join (String.singleton lead) ((first :: others).map String.ofList) =
      String.ofList (first ++ others.flatMap (lead :: ·)) := by
  induction others generalizing first with
  | nil =>
      simp [Text.join]
  | cons next others ih =>
      have hrest := ih next
      rw [Text.join, List.map_cons] at hrest
      rw [Text.join, List.map_cons, List.map_cons, String.intercalate_cons_cons, hrest,
        ← String.toList_inj]
      simp

/-- Values joined by the lead are cut at the leads again. -/
theorem toList_repeatedText_of_values {first : List Char} {others : List (List Char)}
    (hvalues : forall value, value ∈ first :: others -> IsValue value ∧ lead ∉ value) :
    (repeatedText lead (String.ofList (first ++ others.flatMap (lead :: ·)))).toList =
      (first :: others).flatMap (lead :: ·) := by
  have hsplit : Text.splitChars (· == lead) (first ++ others.flatMap (lead :: ·)) =
      first :: others := by
    apply Text.splitChars_append_flatMap
    intro piece hpiece c hc
    apply beq_false_of_ne
    rintro rfl
    exact (hvalues piece hpiece).2 hc
  have hall : (first :: others).filter (fun part => !part.isEmpty) = first :: others := by
    apply List.filter_eq_self.mpr
    intro part hpart
    simpa using (hvalues part hpart).1.ne_nil
  rw [toList_repeatedText, String.toList_ofList, hsplit, hall]

/-- A parameter with a value that fits it is filled with a part that it can have a value for. -/
theorem exists_filled_parameter (h : Fits parameter (values.get? parameter.name)) :
    exists text, segmentText values (.parameter parameter) = .ok text ∧
      exists value, Captures parameter value text.toList := by
  generalize hget : values.get? parameter.name = given at h
  cases h with
  | absent hoptional =>
      refine ⟨"", ?_, none, .absent hoptional⟩
      simp [segmentText, value?, hget, hoptional]
  | once hsingle hvalue =>
      rename_i value
      refine ⟨_, segmentText_of_value hget hvalue.ne_nil, ?_⟩
      rw [toList_parameterText_of_single hsingle]
      exact ⟨_, .once hsingle hvalue⟩
  | lone hrepeated hlead hvalue =>
      rename_i value
      have htext : (parameterText parameter (String.ofList value)).toList = value := by
        rw [parameterText, hlead]
        exact String.toList_ofList
      refine ⟨_, segmentText_of_value hget hvalue.ne_nil, ?_⟩
      rw [htext]
      exact exists_captures_of_isValue hrepeated hlead hvalue
  | joined hrepeated hlead hne hvalues =>
      rename_i lead values
      rcases List.exists_cons_of_ne_nil hne with ⟨first, others, rfl⟩
      rw [join_singleton_eq] at hget
      have hfilled : first ++ others.flatMap (lead :: ·) ≠ [] := by
        have hfirst := (hvalues first List.mem_cons_self).1.ne_nil
        simp [hfirst]
      have htext : parameterText parameter
          (String.ofList (first ++ others.flatMap (lead :: ·))) =
            repeatedText lead (String.ofList (first ++ others.flatMap (lead :: ·))) := by
        simp [parameterText, hlead, hrepeated]
      refine ⟨_, segmentText_of_value hget hfilled, ?_⟩
      rw [htext, toList_repeatedText_of_values hvalues]
      exact ⟨_, .all hrepeated hlead hne fun value hvalue => (hvalues value hvalue).1⟩

theorem exists_filled (h : forall parameter, parameter ∈ parametersOf segments ->
      Fits parameter (values.get? parameter.name)) :
    exists text, segmentsText values segments = .ok text ∧ Instance segments text.toList := by
  induction segments with
  | nil =>
      exact ⟨"", rfl, .nil⟩
  | cons segment segments ih =>
      cases segment with
      | literal text =>
          rcases ih h with ⟨rest, hrest, hinstance⟩
          refine ⟨text ++ rest, ?_, ?_⟩
          · rw [segmentsText, hrest]
            rfl
          · rw [String.toList_append]
            exact .literal hinstance
      | parameter parameter =>
          rw [parametersOf_parameter] at h
          rcases exists_filled_parameter (h parameter List.mem_cons_self) with
            ⟨text, htext, value, hcaptures⟩
          rcases ih fun other hother => h other (List.mem_cons_of_mem _ hother) with
            ⟨rest, hrest, hinstance⟩
          refine ⟨text ++ rest, ?_, ?_⟩
          · rw [segmentsText, htext, hrest]
            rfl
          · rw [String.toList_append]
            exact .parameter hcaptures hinstance

/-!
# What segments take
-/

theorem exists_takes_literal {after : Regex} {rest : List Char}
    (hletters : Text.SameLetters text piece) (hspot : spot.rest = piece ++ rest)
    (hafter : forall middle : Regex.Spot, middle.rest = rest ->
      exists next, Regex.Takes after middle next) :
    exists next, Regex.Takes (literalRegex text after) spot next := by
  induction hletters generalizing spot with
  | nil =>
      exact hafter spot hspot
  | cons hletter hletters ih =>
      rcases takesText_charRegex hletter spot _ hspot with ⟨middle, hmiddle, hrest⟩
      rcases ih hrest with ⟨next, hnext⟩
      exact ⟨next, .seq hmiddle hnext⟩

theorem exists_takes_ending (hending : ending ∈ endings) (hspot : spot.rest = ending) :
    exists next, Regex.Takes (segmentsRegex index []) spot next := by
  have hdelimiter : Regex.TakesText (.times (.char delimiter) 0 (some 1) true) ending := by
    rcases of_mem_endings hending with rfl | ⟨d, rfl, _, hd⟩
    · exact Regex.takesText_stop
    · exact (Regex.takesText_char hd).optional
  rw [← List.append_nil ending] at hspot
  rcases hdelimiter spot [] hspot with ⟨next, hnext, hrest⟩
  refine ⟨next, .seq hnext (.anchor ?_)⟩
  simp [Regex.Anchor.holds, hrest]

/-- The expression of segments takes what they are filled with, in any letter case. -/
theorem exists_takes_segments (h : Instance segments text)
    (hcase : forall parameter, parameter ∈ parametersOf segments ->
      forall lead, parameter.lead = some lead -> Text.Caseless lead)
    (hletters : Text.SameLetters text body) (hending : ending ∈ endings)
    (hspot : spot.rest = body ++ ending) (index : Nat) :
    exists next, Regex.Takes (segmentsRegex index segments) spot next := by
  induction h generalizing body spot index with
  | nil =>
      cases hletters
      exact exists_takes_ending hending hspot
  | literal hrest ih =>
      rcases Text.exists_of_sameLetters_append hletters with ⟨first, rest, rfl, hfirst, hmore⟩
      rw [List.append_assoc] at hspot
      exact exists_takes_literal hfirst hspot fun middle hmiddle => ih hcase hmore hmiddle index
  | parameter hcaptures hrest ih =>
      rw [parametersOf_parameter] at hcase
      rcases Text.exists_of_sameLetters_append hletters with ⟨first, rest, rfl, hfirst, hmore⟩
      rw [List.append_assoc] at hspot
      rcases hcaptures.sameLetters (hcase _ List.mem_cons_self) hfirst with ⟨value, hother⟩
      rcases takesText_parameterRegex hother index spot _ hspot with ⟨middle, hmiddle, hrest⟩
      rcases ih (fun other hother => hcase other (List.mem_cons_of_mem _ hother)) hmore hrest
        (index + 1) with ⟨next, hnext⟩
      exact ⟨next, .seq hmiddle hnext⟩

end PathPattern

namespace RedirectRule

variable {redirect : RedirectSource} {rule : RedirectRule} {values : PathPattern.Values}

/-- A rule whose source has no patterns of its own matches whatever the source is filled with: if
each parameter has a value that fits it, the source can be filled, and its text matches in any case
of the letters and with any ending. -/
theorem instance_matches (hcompile : compile redirect = .ok rule)
    (hplain : rule.source.isPlain = true)
    (hfits : forall parameter, parameter ∈ rule.source.parameters ->
      PathPattern.Fits parameter (values.get? parameter.name)) :
    exists text, rule.source.render values = .ok text ∧
      forall body ending, body.map Char.toLower = text.toList.map Char.toLower ->
        ending ∈ PathPattern.endings ->
          (rule.values? (String.ofList (body ++ ending))).isSome = true := by
  rcases PathPattern.exists_filled hfits with ⟨text, htext, hinstance⟩
  refine ⟨text, ?_, ?_⟩
  · rw [PathPattern.render, htext]
    rfl
  · intro body ending hbody hending
    have hletters := Text.sameLetters_of_map_toLower_eq hbody.symm
    have hspot : (Regex.Spot.ofText (String.ofList (body ++ ending)).toList).rest =
        body ++ ending := by
      rw [String.toList_ofList]
      rfl
    rcases PathPattern.exists_takes_segments hinstance
      (fun parameter hparameter lead hlead => caseless_of_compile hcompile hparameter hlead)
      hletters hending hspot 1 with ⟨next, hnext⟩
    rw [values?, Option.isSome_map, matcher_of_plain hcompile hplain]
    exact Regex.isSome_search_of_takes hnext

/-- A redirect whose source has a parameter of each kind. -/
def pagesOfArea : RedirectSource :=
  { source := "/:area/:page?/:rest*-:last+", destination := "/new/:area" }

/-- An area, no page, a rest of two parts and a last part. -/
def partsOfArea : PathPattern.Values :=
  Catalog.ofList [("area", "a"), ("rest", "b/c"), ("last", "z")]

theorem instance_matches_otherCase :
    exists rule, compile pagesOfArea = .ok rule ∧ rule.source.isPlain = true ∧
      (forall parameter, parameter ∈ rule.source.parameters ->
        PathPattern.Fits parameter (partsOfArea.get? parameter.name)) ∧
      rule.source.render partsOfArea = .ok "/a/b/c-z" ∧
      (rule.values? "/A/b/C-z/").isSome = true := by
  have hresult : ((compile pagesOfArea).toOption.any fun rule =>
      rule.source.isPlain && rule.source.render partsOfArea == .ok "/a/b/c-z" &&
        decide (rule.source.parameters =
          [⟨"area", some '/', PathPattern.defaultPattern, .one⟩,
            ⟨"page", some '/', PathPattern.defaultPattern, .optional⟩,
            ⟨"rest", some '/', PathPattern.defaultPattern, .zeroOrMore⟩,
            ⟨"last", none, PathPattern.defaultPattern, .oneOrMore⟩])) = true := by
    decide +kernel
  cases hcompile : compile pagesOfArea with
  | error error =>
      rw [hcompile] at hresult
      cases hresult
  | ok rule =>
      rw [hcompile] at hresult
      simp only [Except.toOption, Option.any_some, Bool.and_eq_true, decide_eq_true_eq] at hresult
      rcases hresult with ⟨⟨hplain, hrender⟩, hparameters⟩
      have hvalues : partsOfArea.get? "area" = some (String.ofList ['a']) ∧
          partsOfArea.get? "page" = none ∧
          partsOfArea.get? "rest" =
            some (Text.join (String.singleton '/') ([['b'], ['c']].map String.ofList)) ∧
          partsOfArea.get? "last" = some (String.ofList ['z']) := by
        decide +kernel
      have hfits : forall parameter, parameter ∈ rule.source.parameters ->
          PathPattern.Fits parameter (partsOfArea.get? parameter.name) := by
        rw [hparameters]
        intro parameter hparameter
        simp only [List.mem_cons, List.not_mem_nil, or_false] at hparameter
        rcases hparameter with rfl | rfl | rfl | rfl
        · rw [hvalues.1]
          exact .once rfl (by decide)
        · rw [hvalues.2.1]
          exact .absent rfl
        · rw [hvalues.2.2.1]
          exact .joined rfl rfl (by decide) (by decide)
        · rw [hvalues.2.2.2]
          exact .lone rfl rfl (by decide)
      rcases instance_matches hcompile hplain hfits with ⟨text, htext, hmatches⟩
      obtain rfl : text = "/a/b/c-z" := Except.ok.inj (htext.symm.trans (eq_of_beq hrender))
      exact ⟨rule, rfl, hplain, hfits, htext,
        hmatches "/A/b/C-z".toList ['/'] (by decide) (by decide)⟩

end RedirectRule
end Docloom
