import Docloom.Proofs.Redirect.Steps
import Docloom.Proofs.Regex.Capture
import Docloom.Proofs.Text.Letters

/-!
# What parameters capture

A url that matches a pattern is cut into parts, one for each segment of the pattern.  A literal has
the letters of its part.  What the group of a parameter keeps of a part depends on its modifier and
on the lead: a repeated parameter with a lead keeps the whole text behind the first lead, one
without a lead only the last character.
-/

namespace Docloom
namespace PathPattern

variable {parameter : Parameter} {segments : List Segment} {index : Nat} {lead : Char}
  {spot middle next : Regex.Spot}

/-- The value of a parameter, or part of one: a text that is not empty and has no delimiter. -/
structure IsValue (cs : List Char) : Prop where
  ne_nil : cs ≠ []
  has_eq : forall c, c ∈ cs -> delimiter.has c = false

instance (cs : List Char) : Decidable (IsValue cs) :=
  decidable_of_iff (cs ≠ [] ∧ cs.any delimiter.has = false)
    ⟨fun h => ⟨h.1, fun c hc => Bool.eq_false_iff.mpr (List.any_eq_false.mp h.2 c hc)⟩,
      fun h => ⟨h.ne_nil, List.any_eq_false.mpr fun c hc => Bool.eq_false_iff.mp (h.has_eq c hc)⟩⟩

/-- The values that a parameter can have for a part of a url. -/
inductive Captures (parameter : Parameter) : Option String -> List Char -> Prop where
  /-- It is left out. -/
  | absent (hoptional : parameter.modifier.isRequired = false) : Captures parameter none []
  /-- It stands once, behind its lead. -/
  | once {value : List Char} (hsingle : parameter.modifier.isRepeated = false)
      (hvalue : IsValue value) :
      Captures parameter (some (String.ofList value)) (parameter.lead.toList ++ value)
  /-- It is repeated without a lead: each repetition is a character, and the last one is kept. -/
  | last {before : List Char} {c : Char} (hrepeated : parameter.modifier.isRepeated = true)
      (hlead : parameter.lead = none) (hvalue : IsValue (before ++ [c])) :
      Captures parameter (some (String.ofList [c])) (before ++ [c])
  /-- It is repeated with a lead before each repetition: all are kept but the first lead. -/
  | all {lead : Char} {values : List (List Char)} (hrepeated : parameter.modifier.isRepeated = true)
      (hlead : parameter.lead = some lead) (hne : values ≠ [])
      (hvalues : forall value, value ∈ values -> IsValue value) :
      Captures parameter (some (String.ofList (values.flatMap (lead :: ·)).tail))
        (values.flatMap (lead :: ·))

/-- Whether a parameter takes a part of a url between two spots, and its group, which is the one
with a number, keeps a value of it. -/
def CapturedAt (parameter : Parameter) (index : Nat) (spot next : Regex.Spot) : Prop :=
  exists piece, spot.rest = piece ++ next.rest ∧
    Captures parameter ((next.group? index).map String.ofList) piece ∧
    Regex.SameBut index spot next

theorem capturedAt_of_absent (hoptional : parameter.modifier.isRequired = false)
    (hspot : spot.group? index = none) : CapturedAt parameter index spot spot := by
  refine ⟨[], rfl, ?_, fun _ _ => rfl⟩
  rw [hspot]
  exact .absent hoptional

/-!
# Values
-/

theorem isValue_of_took {taken : List Char} (hne : taken ≠ [])
    (h : Regex.Took (.not delimiter) taken spot next) : IsValue taken := by
  refine ⟨hne, ?_⟩
  intro c hc
  simpa [Regex.CharSet.has] using h.has c hc

theorem exists_of_mem_default (h : next ∈ defaultRegex.run spot) :
    exists value, IsValue value ∧ spot.rest = value ++ next.rest ∧ next.groups = spot.groups := by
  rcases Regex.chain_of_mem_times h with ⟨count, hcount, _, hchain⟩
  rcases Regex.took_of_chain_char hchain with ⟨value, hlength, htook, hgroups⟩
  have hne : value ≠ [] := by
    rintro rfl
    rw [List.length_nil] at hlength
    omega
  exact ⟨value, isValue_of_took hne htook, htook.rest_eq, hgroups⟩

theorem of_mem_charRegex {c : Char} (h : next ∈ (charRegex c).run spot) :
    exists d, spot.rest = d :: next.rest ∧ Text.SameLetter c d ∧ next.groups = spot.groups := by
  cases Regex.takes_of_mem_run h with
  | char hrest hset =>
      exact ⟨_, hrest, Regex.has_folded_single.mp hset, rfl⟩

theorem of_mem_lead (hcase : Text.Caseless lead) (h : next ∈ (charRegex lead).run spot) :
    spot.rest = lead :: next.rest ∧ next.groups = spot.groups := by
  rcases of_mem_charRegex h with ⟨d, hrest, hletter, hgroups⟩
  rw [hcase.sameLetter_iff.mp hletter] at hrest
  exact ⟨hrest, hgroups⟩

/-- Repetitions with a lead before each. -/
theorem exists_of_chain_more {n : Nat} (hcase : Text.Caseless lead)
    (h : Regex.Chain (Regex.seq (charRegex lead) defaultRegex).run n spot next) :
    exists values : List (List Char), (forall value, value ∈ values -> IsValue value) ∧
      spot.rest = values.flatMap (lead :: ·) ++ next.rest ∧ next.groups = spot.groups := by
  induction h with
  | nil =>
      exact ⟨[], by simp, rfl, rfl⟩
  | cons hstep hrest ih =>
      rcases Regex.exists_of_mem_seq hstep with ⟨start, hstart, hvalue⟩
      rcases of_mem_lead hcase hstart with ⟨hrestStart, hgroupsStart⟩
      rcases exists_of_mem_default hvalue with ⟨value, hisValue, hrestValue, hgroupsValue⟩
      rcases ih with ⟨values, hvalues, hrestAll, hgroupsAll⟩
      refine ⟨value :: values, ?_, ?_, ?_⟩
      · intro other hother
        rcases List.mem_cons.mp hother with rfl | hmem
        · exact hisValue
        · exact hvalues other hmem
      · rw [hrestStart, hrestValue, hrestAll, List.flatMap_cons, List.cons_append,
          List.cons_append, List.append_assoc]
      · exact hgroupsAll.trans (hgroupsValue.trans hgroupsStart)

/-!
# Parameters
-/

theorem capturedAt_of_once (hsingle : parameter.modifier.isRepeated = false)
    (hlead : parameter.lead = none)
    (h : next ∈ (Regex.group index defaultRegex).run spot) :
    CapturedAt parameter index spot next := by
  rcases Regex.exists_of_mem_group h with ⟨value, hne, htook, hgroup, hsame⟩
  refine ⟨value, htook.rest_eq, ?_, hsame⟩
  have honce : Captures parameter (some (String.ofList value)) (parameter.lead.toList ++ value) :=
    .once hsingle (isValue_of_took hne htook)
  rw [hlead] at honce
  rw [hgroup]
  exact honce

theorem capturedAt_of_keptLast (hrepeated : parameter.modifier.isRepeated = true)
    (hlead : parameter.lead = none)
    (h : Regex.KeptLast index (.not delimiter) spot next) :
    CapturedAt parameter index spot next := by
  rcases h with ⟨before, c, htook, hgroup, hsame⟩
  refine ⟨before ++ [c], htook.rest_eq, ?_, hsame⟩
  rw [hgroup]
  exact .last hrepeated hlead (isValue_of_took (by simp) htook)

theorem capturedAt_of_lead (hsingle : parameter.modifier.isRepeated = false)
    (hlead : parameter.lead = some lead) (hcase : Text.Caseless lead)
    (h : next ∈ (Regex.seq (charRegex lead) (.group index defaultRegex)).run spot) :
    CapturedAt parameter index spot next := by
  rcases Regex.exists_of_mem_seq h with ⟨start, hstart, hvalue⟩
  rcases of_mem_lead hcase hstart with ⟨hrest, hgroups⟩
  rcases Regex.exists_of_mem_group hvalue with ⟨value, hne, htook, hgroup, hsame⟩
  refine ⟨lead :: value, ?_, ?_, (Regex.SameBut.of_groups_eq hgroups).trans hsame⟩
  · rw [hrest, htook.rest_eq, List.cons_append]
  · have honce : Captures parameter (some (String.ofList value))
        (parameter.lead.toList ++ value) := .once hsingle (isValue_of_took hne htook)
    rw [hlead] at honce
    rw [hgroup]
    exact honce

theorem capturedAt_of_all (hrepeated : parameter.modifier.isRepeated = true)
    (hlead : parameter.lead = some lead) (hcase : Text.Caseless lead)
    (h : next ∈ (Regex.seq (charRegex lead) (.group index (.seq defaultRegex
      (.times (.seq (charRegex lead) defaultRegex) 0 none true)))).run spot) :
    CapturedAt parameter index spot next := by
  rcases Regex.exists_of_mem_seq h with ⟨start, hstart, hgroup⟩
  rcases of_mem_lead hcase hstart with ⟨hrestStart, hgroupsStart⟩
  rcases Regex.exists_inside_of_mem_group hgroup with ⟨last, hinside, hrestLast, hsame, htext⟩
  rcases Regex.exists_of_mem_seq hinside with ⟨middle, hvalue, hmore⟩
  rcases exists_of_mem_default hvalue with ⟨value, hisValue, hrestValue, hgroupsValue⟩
  rcases Regex.chain_of_mem_times hmore with ⟨count, _, _, hchain⟩
  rcases exists_of_chain_more hcase hchain with ⟨values, hvalues, hrestMore, hgroupsMore⟩
  have hrest : start.rest = (value ++ values.flatMap (lead :: ·)) ++ next.rest := by
    rw [hrestValue, hrestMore, hrestLast, List.append_assoc]
  have hgroups : last.groups = spot.groups := hgroupsMore.trans (hgroupsValue.trans hgroupsStart)
  refine ⟨(value :: values).flatMap (lead :: ·), ?_, ?_, ?_⟩
  · rw [hrestStart, hrest, List.flatMap_cons, List.cons_append, List.cons_append]
  · rw [htext _ hrest]
    have hall : forall other, other ∈ value :: values -> IsValue other := by
      intro other hother
      rcases List.mem_cons.mp hother with rfl | hmem
      · exact hisValue
      · exact hvalues other hmem
    exact Captures.all hrepeated hlead (List.cons_ne_nil value values) hall
  · exact (Regex.SameBut.of_groups_eq hgroups).trans hsame

theorem capturedAt_of_mem_parameter
    (hcase : forall lead, parameter.lead = some lead -> Text.Caseless lead)
    (hspot : spot.group? index = none)
    (h : next ∈ (parameterRegex index defaultRegex parameter).run spot) :
    CapturedAt parameter index spot next := by
  rcases parameter with ⟨name, lead, pattern, modifier⟩
  cases lead with
  | none =>
      cases modifier with
      | one =>
          exact capturedAt_of_once rfl rfl h
      | optional =>
          rcases Regex.eq_or_mem_of_mem_optional h with rfl | hmem
          · exact capturedAt_of_absent rfl hspot
          · exact capturedAt_of_once rfl rfl hmem
      | zeroOrMore =>
          rcases Regex.keptLast_of_mem_anyNumber h with rfl | hkept
          · exact capturedAt_of_absent rfl hspot
          · exact capturedAt_of_keptLast rfl rfl hkept
      | oneOrMore =>
          exact capturedAt_of_keptLast rfl rfl (Regex.keptLast_of_mem_onceOrMore h)
  | some lead =>
      have hcaseless := hcase lead rfl
      cases modifier with
      | one =>
          exact capturedAt_of_lead rfl rfl hcaseless h
      | optional =>
          rcases Regex.eq_or_mem_of_mem_optional h with rfl | hmem
          · exact capturedAt_of_absent rfl hspot
          · exact capturedAt_of_lead rfl rfl hcaseless hmem
      | zeroOrMore =>
          rcases Regex.eq_or_mem_of_mem_optional h with rfl | hmem
          · exact capturedAt_of_absent rfl hspot
          · exact capturedAt_of_all rfl rfl hcaseless hmem
      | oneOrMore =>
          exact capturedAt_of_all rfl rfl hcaseless h

/-!
# Segments
-/

/-- What may stand at the end of a url after all segments. -/
def endings : List (List Char) := [[], ['/'], ['#'], ['?']]

/-- The parts of a url that segments take, where `texts` has the texts of the groups and `index` is
the number of the next one. -/
inductive Taken (texts : Nat -> Option String) : Nat -> List (Segment × List Char) -> Prop where
  | nil {index : Nat} : Taken texts index []
  | literal {index : Nat} {text : String} {piece : List Char}
      {parts : List (Segment × List Char)} (hletters : Text.SameLetters text.toList piece)
      (hrest : Taken texts index parts) : Taken texts index ((.literal text, piece) :: parts)
  | parameter {index : Nat} {parameter : Parameter} {piece : List Char}
      {parts : List (Segment × List Char)} (hcaptures : Captures parameter (texts index) piece)
      (hrest : Taken texts (index + 1) parts) :
      Taken texts index ((.parameter parameter, piece) :: parts)

theorem exists_of_mem_literal {text : List Char} {after : Regex}
    (h : next ∈ (literalRegex text after).run spot) :
    exists piece middle, Text.SameLetters text piece ∧ spot.rest = piece ++ middle.rest ∧
      middle.groups = spot.groups ∧ next ∈ after.run middle := by
  induction text generalizing spot with
  | nil =>
      exact ⟨[], spot, .nil, rfl, rfl, h⟩
  | cons c text ih =>
      rcases Regex.exists_of_mem_seq h with ⟨start, hstart, hafter⟩
      rcases of_mem_charRegex hstart with ⟨d, hrest, hletter, hgroups⟩
      rcases ih hafter with ⟨piece, middle, hletters, hmiddle, hgroupsMiddle, hnext⟩
      refine ⟨d :: piece, middle, .cons hletter hletters, ?_, hgroupsMiddle.trans hgroups, hnext⟩
      rw [hrest, hmiddle, List.cons_append]

theorem delimiter_has_iff {c : Char} :
    delimiter.has c = true ↔ c = '/' ∨ c = '#' ∨ c = '?' := by
  have hrange : forall d : Char, (Regex.CharSet.range d d).has c = true ↔ c = d := by
    intro d
    simp only [Regex.CharSet.has, Bool.and_eq_true, decide_eq_true_eq]
    exact ⟨fun h => Char.le_antisymm h.2 h.1, fun h => h ▸ ⟨Char.le_refl _, Char.le_refl _⟩⟩
  have hset : delimiter.has c = ((Regex.CharSet.range '/' '/').has c ||
      ((Regex.CharSet.range '#' '#').has c || ((Regex.CharSet.range '?' '?').has c || false))) :=
    rfl
  rw [hset, Bool.or_false, Bool.or_eq_true, Bool.or_eq_true, hrange, hrange, hrange]

theorem rest_mem_endings (h : next ∈ (segmentsRegex index []).run spot) :
    spot.rest ∈ endings ∧ next.groups = spot.groups := by
  rcases Regex.exists_of_mem_seq h with ⟨middle, hmiddle, hend⟩
  cases Regex.takes_of_mem_run hend with
  | anchor hholds =>
      have hnil : next.rest = [] := by
        simpa [Regex.Anchor.holds] using hholds
      rcases Regex.eq_or_mem_of_mem_optional hmiddle with rfl | hchar
      · rw [hnil]
        exact ⟨List.mem_cons_self, rfl⟩
      · cases Regex.takes_of_mem_run hchar with
        | char hrest hset =>
            simp only at hnil
            rw [hrest, hnil]
            refine ⟨?_, rfl⟩
            rcases delimiter_has_iff.mp hset with rfl | rfl | rfl <;>
              simp [endings]

/-- A match of segments cuts the text into the parts that they take, and an ending. -/
theorem taken_of_mem_segments
    (hcase : forall parameter, parameter ∈ parametersOf segments ->
      forall lead, parameter.lead = some lead -> Text.Caseless lead)
    (hspot : forall number, index ≤ number -> spot.group? number = none)
    (h : next ∈ (segmentsRegex index segments).run spot) :
    exists parts ending, parts.map Prod.fst = segments ∧
      spot.rest = parts.flatMap Prod.snd ++ ending ∧ ending ∈ endings ∧
      Taken (fun number => (next.group? number).map String.ofList) index parts ∧
      forall number, number < index -> next.group? number = spot.group? number := by
  induction segments generalizing index spot with
  | nil =>
      rcases rest_mem_endings h with ⟨hending, hgroups⟩
      refine ⟨[], spot.rest, rfl, rfl, hending, .nil, ?_⟩
      intro number _
      rw [Regex.Spot.group?, hgroups, Regex.Spot.group?]
  | cons segment segments ih =>
      cases segment with
      | literal text =>
          rcases exists_of_mem_literal h with ⟨piece, middle, hletters, hrest, hgroups, hnext⟩
          have hsame : forall number, middle.group? number = spot.group? number := by
            intro number
            rw [Regex.Spot.group?, hgroups, Regex.Spot.group?]
          have hbelow := ih hcase (fun number hle => (hsame number).trans (hspot number hle)) hnext
          rcases hbelow with ⟨parts, ending, hsegments, hparts, hending, htaken, hgroupsBelow⟩
          refine ⟨(.literal text, piece) :: parts, ending, ?_, ?_, hending,
            .literal hletters htaken, ?_⟩
          · rw [List.map_cons, hsegments]
          · rw [hrest, hparts, List.flatMap_cons, List.append_assoc]
          · exact fun number hlt => (hgroupsBelow number hlt).trans (hsame number)
      | parameter parameter =>
          rcases Regex.exists_of_mem_seq h with ⟨middle, hmiddle, hnext⟩
          rw [parametersOf_parameter] at hcase
          rcases capturedAt_of_mem_parameter (hcase parameter List.mem_cons_self)
            (hspot index (Nat.le_refl _)) hmiddle with ⟨piece, hrest, hcaptures, hsame⟩
          have hfresh : forall number, index + 1 ≤ number -> middle.group? number = none := by
            intro number hle
            rw [hsame number (by omega)]
            exact hspot number (by omega)
          have hbelow := ih (fun other hother => hcase other (List.mem_cons_of_mem _ hother))
            hfresh hnext
          rcases hbelow with ⟨parts, ending, hsegments, hparts, hending, htaken, hgroupsBelow⟩
          refine ⟨(.parameter parameter, piece) :: parts, ending, ?_, ?_, hending, ?_, ?_⟩
          · rw [List.map_cons, hsegments]
          · rw [hrest, hparts, List.flatMap_cons, List.append_assoc]
          · rw [← hgroupsBelow index (Nat.lt_succ_self _)] at hcaptures
            exact .parameter hcaptures htaken
          · intro number hlt
            rw [hgroupsBelow number (Nat.lt_succ_of_lt hlt)]
            exact hsame number (Nat.ne_of_lt hlt)

/-!
# Leads
-/

/-- The lead of a parameter is a slash or a dot, which have no case. -/
theorem caseless_of_readSegments {fuel unnamed : Nat} {read cs : List Char}
    (h : readSegments fuel unnamed read cs = .ok segments)
    (hparameter : parameter ∈ parametersOf segments) (hlead : parameter.lead = some lead) :
    Text.Caseless lead := by
  rcases lead_of_readSegments h hparameter hlead with rfl | rfl <;>
    decide +kernel

end PathPattern
end Docloom
