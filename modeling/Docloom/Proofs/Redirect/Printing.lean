import Docloom.Proofs.Redirect.Steps

/-!
# Patterns printed back

The segments of a pattern without backslashes can be printed so that the text of the pattern comes
out again.  So each of its characters is in one segment, and in one place of it.
-/

namespace Docloom
namespace PathPattern

variable {segments : List Segment} {n : Nat} {cs text : List Char} {source : String}

/-!
# Printing
-/

/-- How the pattern of a named parameter is printed: in parentheses, or not at all where it is the
default one. -/
inductive PrintsPattern (pattern : String) : List Char -> Prop where
  | own : PrintsPattern pattern ('(' :: (pattern.toList ++ [')']))
  | default (hpattern : pattern = defaultPattern) : PrintsPattern pattern []

/-- How a parameter is printed behind so many parameters without a name, and how many there are
then.  A parameter is printed without its name only where the name is the number of those before,
and then with its pattern. -/
inductive PrintsParameter (n : Nat) : Parameter -> Nat -> List Char -> Prop where
  | named {name pattern : String} {lead : Option Char} {modifier : Modifier} {own : List Char}
      (hne : name ≠ "") (hname : forall c, c ∈ name.toList -> isNameChar c = true)
      (hown : PrintsPattern pattern own) :
      PrintsParameter n ⟨name, lead, pattern, modifier⟩ n
        (lead.toList ++ ':' :: (name.toList ++ (own ++ modifier.text.toList)))
  | unnamed {pattern : String} {lead : Option Char} {modifier : Modifier} :
      PrintsParameter n ⟨toString n, lead, pattern, modifier⟩ (n + 1)
        (lead.toList ++ '(' :: (pattern.toList ++ ')' :: modifier.text.toList))

/-- The texts that segments are printed as. -/
inductive Prints : Nat -> List Segment -> List Char -> Prop where
  | nil {n : Nat} : Prints n [] []
  | literal {n : Nat} {text : String} {segments : List Segment} {rest : List Char}
      (hrest : Prints n segments rest) : Prints n (.literal text :: segments) (text.toList ++ rest)
  | parameter {n m : Nat} {parameter : Parameter} {segments : List Segment} {text rest : List Char}
      (hparameter : PrintsParameter n parameter m text) (hrest : Prints m segments rest) :
      Prints n (.parameter parameter :: segments) (text ++ rest)

/-- Without a backslash characters are written as they are. -/
theorem WritesChars.eq_of_plain (h : WritesChars cs text) (hplain : '\\' ∉ text) : text = cs := by
  induction h with
  | nil =>
      rfl
  | plain hchar hrest ih =>
      rw [ih fun hmem => hplain (List.mem_cons_of_mem _ hmem)]
  | escaped hrest =>
      exact absurd List.mem_cons_self hplain

theorem printsPattern_of_writes {pattern : String} {rest : List Char}
    (h : WritesPattern pattern rest text) : PrintsPattern pattern text := by
  cases h with
  | own =>
      exact .own
  | default hpattern _ =>
      exact .default hpattern

theorem prints_of_writes (h : Writes n segments text) (hplain : '\\' ∉ text) :
    Prints n segments text := by
  induction h with
  | nil =>
      exact .nil
  | stray =>
      exact absurd List.mem_cons_self hplain
  | literal hne hchars hstands hrest ih =>
      rename_i n cs text rest segments
      rw [List.mem_append, not_or] at hplain
      have hprints : Prints n (.literal (String.ofList cs) :: segments)
          ((String.ofList cs).toList ++ rest) := .literal (ih hplain.2)
      rw [String.toList_ofList] at hprints
      rw [hchars.eq_of_plain hplain.1]
      exact hprints
  | named hlead hne hname hend hpattern hmodifier hrest ih =>
      rename_i n lead leadText name patternText rest pattern modifier segments
      simp only [List.mem_append, List.mem_cons, not_or] at hplain
      rcases hplain with ⟨hplainLead, _, _, _, _, hplainRest⟩
      have hparameter : PrintsParameter n ⟨String.ofList name, lead, pattern, modifier⟩ n
          (lead.toList ++ ':' :: ((String.ofList name).toList ++
            (patternText ++ modifier.text.toList))) :=
        .named (by simpa using hne) (by simpa using hname) (printsPattern_of_writes hpattern)
      have hprints := Prints.parameter hparameter (ih hplainRest)
      rw [hlead.eq_of_plain hplainLead]
      simpa using hprints
  | unnamed hlead hmodifier hrest ih =>
      rename_i n lead leadText rest pattern modifier segments
      simp only [List.mem_append, List.mem_cons, not_or] at hplain
      rcases hplain with ⟨hplainLead, _, _, _, _, hplainRest⟩
      have hparameter : PrintsParameter n ⟨toString n, lead, pattern, modifier⟩ (n + 1)
          (lead.toList ++ '(' :: (pattern.toList ++ ')' :: modifier.text.toList)) := .unnamed
      have hprints := Prints.parameter hparameter (ih hplainRest)
      rw [hlead.eq_of_plain hplainLead]
      simpa using hprints

/-!
# Segments side by side
-/

/-- Whether no literal is empty or stands beside another one, and each lead is a slash or a dot. -/
structure IsTidy (segments : List Segment) : Prop where
  literal_ne : forall text, .literal text ∈ segments -> text ≠ ""
  apart : segments.IsChain fun first second =>
    first.parameter?.isSome = true ∨ second.parameter?.isSome = true
  lead : forall parameter, parameter ∈ parametersOf segments ->
    parameter.lead = none ∨ parameter.lead = some '/' ∨ parameter.lead = some '.'

theorem literal_ne_of_writes (h : Writes n segments text) {literal : String}
    (hliteral : .literal literal ∈ segments) : literal ≠ "" := by
  induction h with
  | nil | stray =>
      cases hliteral
  | literal hne hchars hstands hrest ih =>
      rcases List.mem_cons.mp hliteral with heq | hmem
      · cases heq
        simpa using hne
      · exact ih hmem
  | named _ _ _ _ _ _ _ ih | unnamed _ _ _ ih =>
      exact ih ((List.mem_cons.mp hliteral).resolve_left (by simp))

theorem apart_of_writes (h : Writes n segments text) :
    segments.IsChain fun first second =>
      first.parameter?.isSome = true ∨ second.parameter?.isSome = true := by
  induction h with
  | nil | stray =>
      exact .nil
  | literal hne hchars hstands hrest ih =>
      rename_i segments
      cases segments with
      | nil =>
          exact .singleton _
      | cons next segments =>
          cases next with
          | literal other =>
              exact hstands.elim
          | parameter parameter =>
              exact .cons_cons (Or.inr rfl) ih
  | named hlead hne hname hend hpattern hmodifier hrest ih | unnamed hlead hmodifier hrest ih =>
      rename_i segments
      cases segments with
      | nil =>
          exact .singleton _
      | cons next segments =>
          exact .cons_cons (Or.inl rfl) ih

/-!
# Outcomes
-/

/-- A pattern without backslashes is read with any fuel that is more than its length, and with one
of two outcomes.  Either a parameter has no name, a parenthesis is not closed or a group would
capture; or the segments can be printed as the pattern again, no literal of them is empty or beside
another one, and each lead is a slash or a dot. -/
theorem printing_exact (hplain : '\\' ∉ source.toList) :
    (exists fault, PathPattern.parse source = .error (.invalidRedirect source fault) ∧
      fault ∈ [RedirectFault.missingName, .unbalanced, .capturing] ∧
      forall fuel, source.toList.length < fuel ->
        readSegments fuel 0 [] source.toList = .error fault) ∨
    exists segments, PathPattern.parse source = .ok ⟨source, segments⟩ ∧
      Prints 0 segments source.toList ∧ IsTidy segments ∧
      forall fuel, source.toList.length < fuel ->
        readSegments fuel 0 [] source.toList = .ok segments := by
  have hfuel : forall fuel, source.toList.length < fuel ->
      readSegments fuel 0 [] source.toList =
        readSegments (source.toList.length + 1) 0 [] source.toList :=
    fun fuel h => readSegments_of_fuel h (Nat.lt_succ_self _)
  cases hread : readSegments (source.toList.length + 1) 0 [] source.toList with
  | error fault =>
      rw [hread] at hfuel
      refine Or.inl ⟨fault, ?_, fault_of_readSegments hread, hfuel⟩
      simp [PathPattern.parse, hread]
  | ok segments =>
      rw [hread] at hfuel
      have hparse : PathPattern.parse source = .ok ⟨source, segments⟩ := by
        simp [PathPattern.parse, hread]
      have hwrites := writes_of_parse hparse
      refine Or.inr ⟨segments, hparse, prints_of_writes hwrites hplain, ?_, hfuel⟩
      refine ⟨fun text => literal_ne_of_writes hwrites, apart_of_writes hwrites, ?_⟩
      intro parameter hparameter
      cases hlead : parameter.lead with
      | none =>
          exact Or.inl rfl
      | some lead =>
          rcases lead_of_readSegments hread hparameter hlead with rfl | rfl
          · exact Or.inr (Or.inl rfl)
          · exact Or.inr (Or.inr rfl)

/-- A pattern with parameters of both kinds, with leads of both kinds. -/
def pagesPattern : String := "/docs/:area(a|b)?/(x|y).:page*-end"

theorem printing_exact_pages :
    exists segments, PathPattern.parse pagesPattern = .ok ⟨pagesPattern, segments⟩ ∧
      segments = [.literal "/docs", .parameter ⟨"area", some '/', "a|b", .optional⟩,
        .parameter ⟨"0", some '/', "x|y", .one⟩,
        .parameter ⟨"page", some '.', defaultPattern, .zeroOrMore⟩, .literal "-end"] ∧
      Prints 0 segments pagesPattern.toList ∧ IsTidy segments := by
  have hsegments : ((PathPattern.parse pagesPattern).toOption.map PathPattern.segments) =
      some [.literal "/docs", .parameter ⟨"area", some '/', "a|b", .optional⟩,
        .parameter ⟨"0", some '/', "x|y", .one⟩,
        .parameter ⟨"page", some '.', defaultPattern, .zeroOrMore⟩, .literal "-end"] := by
    decide +kernel
  have hplain : '\\' ∉ pagesPattern.toList := by
    decide +kernel
  rcases printing_exact hplain with
    ⟨fault, hparse, _⟩ | ⟨segments, hparse, hprints, htidy, _⟩
  · rw [hparse] at hsegments
    cases hsegments
  · rw [hparse] at hsegments
    exact ⟨segments, hparse, Option.some_inj.mp hsegments, hprints, htidy⟩

end PathPattern
end Docloom
