import Docloom.Proofs.Redirect.Reproduction
import Docloom.Proofs.Redirect.Spelling

/-!
# Filled destinations

A destination that is a path is filled wherever a parameter stands in it.  Of a url only the path
is, and that only if a parameter follows a slash somewhere in the text; otherwise it is taken as it
is written, with its parameters.
-/

namespace Docloom

namespace PathPattern

variable {values : Values} {parameter : Parameter} {segments : List Segment} {pattern : PathPattern}
  {source text : String}

/-- What a parameter is replaced with: its value behind its lead, the parts of its value with the
lead before each of them, or nothing at all if it has no value and may be left out. -/
inductive Replaced (values : Values) (parameter : Parameter) : List Char -> Prop where
  | value {value : String} (hvalue : value? values parameter.name = some value)
      (hsingle : parameter.modifier.isRepeated = false ∨ parameter.lead = none) :
      Replaced values parameter (parameter.lead.toList ++ value.toList)
  | parts {lead : Char} {value : String} (hvalue : value? values parameter.name = some value)
      (hrepeated : parameter.modifier.isRepeated = true) (hlead : parameter.lead = some lead) :
      Replaced values parameter
        (((Text.splitChars (· == lead) value.toList).filter fun part => !part.isEmpty).flatMap
          (lead :: ·))
  | dropped (hvalue : value? values parameter.name = none)
      (hoptional : parameter.modifier.isRequired = false) : Replaced values parameter []

/-- What segments are filled with: literals as they are, and each parameter replaced. -/
inductive Filled (values : Values) : List Segment -> List Char -> Prop where
  | nil : Filled values [] []
  | literal {text : String} {segments : List Segment} {rest : List Char}
      (hrest : Filled values segments rest) :
      Filled values (.literal text :: segments) (text.toList ++ rest)
  | parameter {parameter : Parameter} {piece : List Char} {segments : List Segment}
      {rest : List Char} (hpiece : Replaced values parameter piece)
      (hrest : Filled values segments rest) :
      Filled values (.parameter parameter :: segments) (piece ++ rest)

theorem replaced_parameterText {value : String}
    (hvalue : value? values parameter.name = some value) :
    Replaced values parameter (parameterText parameter value).toList := by
  unfold parameterText
  split
  · rename_i lead hlead
    split
    · rename_i hrepeated
      rw [toList_repeatedText]
      exact .parts hvalue hrepeated hlead
    · rename_i hsingle
      have hreplaced : Replaced values parameter (parameter.lead.toList ++ value.toList) :=
        .value hvalue (Or.inl (Bool.eq_false_iff.mpr hsingle))
      rw [hlead] at hreplaced
      simpa using hreplaced
  · rename_i hlead
    have hreplaced : Replaced values parameter (parameter.lead.toList ++ value.toList) :=
      .value hvalue (Or.inr hlead)
    rw [hlead] at hreplaced
    exact hreplaced

theorem replaced_of_segmentText (h : segmentText values (.parameter parameter) = .ok text) :
    Replaced values parameter text.toList := by
  rw [segmentText] at h
  split at h
  · rename_i hvalue
    cases h
    exact replaced_parameterText hvalue
  · rename_i hvalue
    split at h
    · cases h
    · rename_i hoptional
      cases h
      exact .dropped hvalue (Bool.eq_false_iff.mpr hoptional)

theorem filled_of_segmentsText (h : segmentsText values segments = .ok text) :
    Filled values segments text.toList := by
  induction segments generalizing text with
  | nil =>
      cases h
      exact .nil
  | cons segment segments ih =>
      rw [segmentsText] at h
      rcases Results.exists_of_bind h with ⟨piece, hpiece, h⟩
      rcases Results.exists_of_bind h with ⟨rest, hrest, h⟩
      cases h
      rw [String.toList_append]
      cases segment with
      | literal literal =>
          cases hpiece
          exact .literal (ih hrest)
      | parameter parameter =>
          exact .parameter (replaced_of_segmentText hpiece) (ih hrest)

/-- Whether a text comes from the text of a pattern by replacing the parameters in it, wherever
they stand. -/
def Fills (values : Values) (source text : List Char) : Prop :=
  exists segments, Writes 0 segments source ∧ Filled values segments text

theorem fills_of_render (hparse : PathPattern.parse source = .ok pattern)
    (h : pattern.render values = .ok text) : Fills values source.toList text.toList := by
  rw [render] at h
  exact ⟨pattern.segments, writes_of_parse hparse, filled_of_segmentsText (Results.of_mapError h)⟩

end PathPattern

namespace RedirectRule

variable {redirect : RedirectSource} {rule : RedirectRule} {url result : String}

/-- The ways in which the text of a destination becomes the url that a rule leads to. -/
inductive LeadsTo (values : PathPattern.Values) (destination result : String) : Prop where
  /-- A path is filled as a whole. -/
  | path (hslash : Text.startsWith "/" destination = true)
      (hfills : PathPattern.Fills values destination.toList result.toList)
  /-- Of a url with a parameter behind a slash the path is filled, and nothing else. -/
  | external {base : Url} {path : String} (hslash : Text.startsWith "/" destination = false)
      (hparameter : Text.contains "/:" destination = true)
      (hbase : Url.parse? destination = some base)
      (hfills : PathPattern.Fills values base.path.toList path.toList)
      (hresult : result = base.front ++ base.newPath path ++ base.after)
  /-- Any other url stays as it is written. -/
  | fixed (hslash : Text.startsWith "/" destination = false)
      (hparameter : Text.contains "/:" destination = false) (hresult : result = destination)

theorem leadsTo_of_render {values : PathPattern.Values} {destination : String}
    {parsed : Destination} (hparse : Destination.parse destination = .ok parsed)
    (h : parsed.render values = .ok result) : LeadsTo values destination result := by
  unfold Destination.parse at hparse
  split at hparse
  · rename_i hslash
    rcases Results.exists_of_map hparse with ⟨pattern, hpattern, rfl⟩
    exact .path hslash (PathPattern.fills_of_render hpattern h)
  · rename_i hslash
    split at hparse
    · rename_i hparameter
      split at hparse
      · rename_i base hbase
        rcases Results.exists_of_map hparse with ⟨pattern, hpattern, rfl⟩
        rw [Destination.render] at h
        rcases Results.exists_of_map h with ⟨path, hpath, rfl⟩
        exact .external (Bool.eq_false_iff.mpr hslash) hparameter hbase
          (PathPattern.fills_of_render hpattern hpath) rfl
      · cases hparse
    · rename_i hparameter
      cases hparse
      cases h
      exact .fixed (Bool.eq_false_iff.mpr hslash) (Bool.eq_false_iff.mpr hparameter) rfl

/-- The url that a rule leads to is its destination with the values of the match in place of the
parameters: everywhere in a path, in the path of a url that has a parameter behind a slash, and
nowhere in another url. -/
theorem filling_exact (hcompile : compile redirect = .ok rule)
    (hresolve : rule.resolve url = .ok (some result)) :
    exists values, rule.values? url = some values ∧
      LeadsTo values redirect.destination result := by
  unfold resolve at hresolve
  split at hresolve
  · rename_i values hvalues
    rcases Results.exists_of_map hresolve with ⟨text, hrender, htext⟩
    cases htext
    have hparse := (exists_of_compile hcompile).2.2.1
    exact ⟨values, hvalues, leadsTo_of_render hparse hrender⟩
  · cases hresolve

/-- A redirect to another site, where the parameter follows no slash. -/
def productPage : RedirectSource :=
  { source := "/test-external/:product", destination := "https://hashicorp.com/products-:product" }

/-- The parameter has a value, and still stands in the url that the rule leads to. -/
theorem filling_exact_unfilled :
    exists rule values, compile productPage = .ok rule ∧
      rule.resolve "/test-external/vault" =
        .ok (some "https://hashicorp.com/products-:product") ∧
      rule.values? "/test-external/vault" = some values ∧
      PathPattern.value? values "product" = some "vault" ∧
      LeadsTo values "https://hashicorp.com/products-:product"
        "https://hashicorp.com/products-:product" := by
  have hresult : ((compile productPage).toOption.any fun rule =>
      rule.resolve "/test-external/vault" ==
          .ok (some "https://hashicorp.com/products-:product") &&
        (rule.values? "/test-external/vault").any fun values =>
          PathPattern.value? values "product" == some "vault") = true := by
    decide +kernel
  cases hcompile : compile productPage with
  | error error =>
      rw [hcompile] at hresult
      cases hresult
  | ok rule =>
      rw [hcompile] at hresult
      simp only [Except.toOption, Option.any_some, Bool.and_eq_true] at hresult
      rcases hresult with ⟨hresolve, hvalue⟩
      rcases filling_exact hcompile (eq_of_beq hresolve) with ⟨values, hvalues, hleads⟩
      rw [hvalues, Option.any_some] at hvalue
      exact ⟨rule, values, rfl, eq_of_beq hresolve, hvalues, eq_of_beq hvalue, hleads⟩

end RedirectRule
end Docloom
