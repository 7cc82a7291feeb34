import Docloom.Proofs.Redirect.Capture
import Docloom.Proofs.Redirect.Grouping
import Docloom.Proofs.Redirect.Resolution
import Docloom.Proofs.Regex.Groups
import Mathlib.Data.List.Forall2

/-!
# Groups and parameters

The values of a match are those of the first groups, in the order of the parameters.  They are the
values of the parameters as long as no parameter has a pattern with a group of its own.
-/

namespace Docloom
namespace PathPattern

open Regex

variable {own : Parameter -> Regex} {parameter : Parameter} {parameters : List Parameter}
  {segments : List Segment} {next count : Nat} {regex first again : Regex}

/-!
# Patterns without groups
-/

theorem groups_valueRegex (first again : Regex) (parameter : Parameter) :
    (valueRegex first again parameter).groups = first.groups ∨
      (valueRegex first again parameter).groups = first.groups ++ again.groups := by
  unfold valueRegex
  split
  · exact Or.inl rfl
  · split
    · exact Or.inr rfl
    · exact Or.inl rfl

theorem valueFrom_of_groups {own : Regex} (next : Nat) (parameter : Parameter)
    (h : own.groups = []) : valueFrom next own parameter = valueRegex own own parameter := by
  rw [valueFrom, renumbered_of_groups _ h, renumbered_of_groups _ h]

theorem groups_valueFrom_eq_nil_iff {own : Regex} (next : Nat) (parameter : Parameter) :
    (valueFrom next own parameter).groups = [] ↔ own.groups = [] := by
  have hlength := fun count => length_groups_renumbered count own
  rw [← List.length_eq_zero_iff, ← List.length_eq_zero_iff]
  rcases groups_valueRegex (own.renumbered next) (own.renumbered (next + own.groups.length))
    parameter with hfirst | hboth
  · rw [valueFrom, hfirst, hlength]
  · rw [valueFrom, hboth, List.length_append, hlength, hlength]
    omega

/-- Where no own pattern has a group, the groups are those of the parameters, one for each. -/
theorem groupsFrom_of_groups (h : forall parameter, parameter ∈ parameters ->
      (own parameter).groups = []) :
    groupsFrom own next parameters =
      (parameters.zipIdx next).map fun numbered =>
        (numbered.2, valueRegex (own numbered.1) (own numbered.1) numbered.1) := by
  induction parameters generalizing next with
  | nil =>
      rfl
  | cons parameter parameters ih =>
      have hfirst := h parameter List.mem_cons_self
      have hgroups : parameterGroups next (own parameter) parameter =
          [(next, valueRegex (own parameter) (own parameter) parameter)] := by
        rw [parameterGroups, (groups_valueFrom_eq_nil_iff next parameter).mpr hfirst,
          valueFrom_of_groups next parameter hfirst]
      rw [groupsFrom, hgroups, ih fun other hother => h other (List.mem_cons_of_mem _ hother)]
      rfl

theorem length_le_groupsFrom (own : Parameter -> Regex) (next : Nat)
    (parameters : List Parameter) :
    parameters.length ≤ (groupsFrom own next parameters).length := by
  induction parameters generalizing next with
  | nil =>
      exact Nat.le_refl _
  | cons parameter parameters ih =>
      have hrest := ih (next + (parameterGroups next (own parameter) parameter).length)
      rw [groupsFrom, List.length_append, List.length_cons, parameterGroups, List.length_cons]
      rw [parameterGroups, List.length_cons] at hrest
      omega

/-- There are as many groups as parameters just where no own pattern has a group. -/
theorem length_groupsFrom_iff :
    (groupsFrom own next parameters).length = parameters.length ↔
      forall parameter, parameter ∈ parameters -> (own parameter).groups = [] := by
  constructor
  · intro h
    induction parameters generalizing next with
    | nil =>
        exact nofun
    | cons parameter parameters ih =>
        have hle := length_le_groupsFrom own
          (next + (parameterGroups next (own parameter) parameter).length) parameters
        rw [groupsFrom, List.length_append, List.length_cons] at h
        have hcount : (parameterGroups next (own parameter) parameter).length =
            (valueFrom next (own parameter) parameter).groups.length + 1 := rfl
        have hrest : (groupsFrom own
            (next + (parameterGroups next (own parameter) parameter).length) parameters).length =
              parameters.length := by
          omega
        have hfirst : (valueFrom next (own parameter) parameter).groups.length = 0 := by
          omega
        intro other hother
        rcases List.mem_cons.mp hother with rfl | hmem
        · exact (groups_valueFrom_eq_nil_iff next other).mp
            (List.eq_nil_of_length_eq_zero hfirst)
        · exact ih hrest other hmem
  · intro h
    rw [groupsFrom_of_groups h, List.length_map, List.length_zipIdx]

/-!
# Patterns that are not read
-/

theorem groups_defaultRegex : defaultRegex.groups = [] := rfl

theorem groups_literalRegex (text : List Char) (after : Regex) :
    (literalRegex text after).groups = after.groups := by
  induction text with
  | nil =>
      rfl
  | cons c text ih =>
      exact ih

theorem groups_parameterRegex (own : Regex) (h : own.groups = []) :
    (parameterRegex next own parameter).groups = [(next, valueRegex own own parameter)] := by
  unfold parameterRegex valueRegex
  cases parameter.lead with
  | none =>
      simp only [groups_modifierRegex, groups, h]
  | some lead =>
      dsimp only
      split
      · split <;> simp [groups, charRegex, h]
      · rw [groups_modifierRegex]
        simp [groups, charRegex, h]

theorem groups_segmentsRegex (next : Nat) (segments : List Segment) :
    (segmentsRegex next segments).groups =
      ((parametersOf segments).zipIdx next).map fun numbered =>
        (numbered.2, valueRegex defaultRegex defaultRegex numbered.1) := by
  induction segments generalizing next with
  | nil =>
      rfl
  | cons segment segments ih =>
      cases segment with
      | literal text =>
          rw [segmentsRegex, groups_literalRegex, ih]
          rfl
      | parameter parameter =>
          rw [segmentsRegex, groups, groups_parameterRegex _ groups_defaultRegex, ih]
          rfl

/-!
# The default pattern
-/

/-- The delimiters as they are read. -/
def readDelimiter : CharSet :=
  .union (.union (.union .none (.single '/')) (.single '#')) (.single '?')

theorem read_defaultPattern :
    Regex.read? defaultPattern =
      some (.times (.char (.not (.folded readDelimiter))) 1 none false) := by
  have htext : defaultPattern.toList = ['[', '^', '/', '#', '?', ']', '+', '?'] := by
    decide +kernel
  unfold Regex.read?
  rw [htext]
  rfl

theorem readDelimiter_has (c : Char) : readDelimiter.has c = delimiter.has c := by
  simp only [readDelimiter, delimiter, CharSet.single, CharSet.ofRanges, CharSet.has,
    Bool.false_or, Bool.or_false, Bool.or_assoc]

/-- Case makes no difference to delimiters. -/
theorem folded_readDelimiter_has (c : Char) :
    (CharSet.folded readDelimiter).has c = delimiter.has c := by
  rw [CharSet.has, readDelimiter_has]
  cases hc : delimiter.has c with
  | true =>
      rfl
  | false =>
      rw [Bool.false_or, List.any_eq_false]
      intro d hd hset
      rw [readDelimiter_has] at hset
      have hcaseless : Text.Caseless d := by
        rcases delimiter_has_iff.mp hset with rfl | rfl | rfl <;> decide +kernel
      rw [hcaseless.eq_of_mem_caseVariants hd, hset] at hc
      cases hc

theorem run_char_congr {set other : CharSet} (h : forall c, set.has c = other.has c) :
    (Regex.char set).run = (Regex.char other).run := by
  funext spot
  simp only [run, takeChar, h]

theorem run_times_congr {inside other : Regex} (h : inside.run = other.run) (greedy : Bool) :
    (Regex.times inside 1 none greedy).run = (Regex.times other 1 none greedy).run := by
  simp only [run, h]

theorem run_valueRegex_congr {other : Regex} (h : first.run = other.run) (parameter : Parameter) :
    (valueRegex first first parameter).run = (valueRegex other other parameter).run := by
  unfold valueRegex
  split
  · exact h
  · split
    · simp [run, h, minLength, charRegex]
    · exact h

/-- A pattern that is the default one is read as the expression that takes its place. -/
theorem of_own_defaultPattern {inside : Regex} (h : own? defaultPattern = some inside) :
    inside.groups = [] ∧ inside.run = defaultRegex.run := by
  have hread := (read_of_own h).1
  rw [read_defaultPattern] at hread
  cases hread
  refine ⟨rfl, run_times_congr (run_char_congr fun c => ?_) false⟩
  rw [CharSet.has, CharSet.has, folded_readDelimiter_has]

/-!
# All patterns
-/

/-- Whether groups have the same numbers, and take the same. -/
def SameGroups (groups others : List (Nat × Regex)) : Prop :=
  List.Forall₂ (fun group other => group.1 = other.1 ∧ group.2.run = other.2.run) groups others

theorem sameGroups_refl (groups : List (Nat × Regex)) : SameGroups groups groups :=
  List.forall₂_same.mpr fun _ _ => ⟨rfl, rfl⟩

variable {source : String} {pattern : PathPattern}

theorem sameGroups_of_regex (hregex : pattern.regex? = some regex)
    (hown : forall parameter, parameter ∈ pattern.parameters ->
      own? parameter.pattern = some (own parameter)) :
    SameGroups regex.groups (groupsFrom own 1 pattern.parameters) ∧
      regex.numbers = List.range' 1 regex.groups.length := by
  unfold regex? at hregex
  split at hregex
  -- Where all patterns are the default one, the expression is put together and not read.
  · rename_i hplain
    have hdefault : forall parameter, parameter ∈ pattern.parameters ->
        (own parameter).groups = [] ∧ (own parameter).run = defaultRegex.run := by
      intro parameter hparameter
      have heq := beq_iff_eq.mp (List.all_eq_true.mp hplain parameter hparameter)
      have hread := hown parameter hparameter
      rw [heq] at hread
      exact of_own_defaultPattern hread
    have hgroups : regex.groups = (pattern.parameters.zipIdx 1).map fun numbered =>
        (numbered.2, valueRegex defaultRegex defaultRegex numbered.1) := by
      cases hregex
      exact groups_segmentsRegex 1 pattern.segments
    constructor
    · rw [hgroups,
        groupsFrom_of_groups fun parameter hparameter => (hdefault parameter hparameter).1]
      unfold SameGroups
      rw [List.forall₂_map_left_iff, List.forall₂_map_right_iff, List.forall₂_same]
      intro numbered hnumbered
      have hmem := List.fst_mem_of_mem_zipIdx hnumbered
      exact ⟨rfl, run_valueRegex_congr (hdefault numbered.1 hmem).2.symm numbered.1⟩
    · rw [numbers, hgroups, List.map_map, List.length_map, List.length_zipIdx]
      exact List.zipIdx_map_snd 1 pattern.parameters
  · rw [groups_of_read hown hregex]
    refine ⟨sameGroups_refl _, ?_⟩
    rcases exists_ends_of_read hregex with ⟨final, _, hreads⟩
    rw [← groups_of_read hown hregex]
    exact hreads.numbers_eq

/-- The text of a group with a number was taken by what is inside the group at that place. -/
theorem exists_group_at {url : String} {found : List (Nat × String)} {k : Nat} {value : String}
    {groups : List (Nat × Regex)} (hsame : SameGroups regex.groups groups)
    (hnumbers : regex.numbers = List.range' 1 regex.groups.length)
    (hsearch : regex.search? url = some found) (hvalue : found.lookup (1 + k) = some value) :
    exists inside, groups[k]? = some (1 + k, inside) ∧ TakesIn inside url.toList value.toList := by
  rcases takesIn_of_search hsearch hvalue with ⟨inside, hmem, htakes⟩
  rcases List.getElem?_of_mem hmem with ⟨place, hplace⟩
  have hnumber : regex.numbers[place]? = some (1 + k) := by
    rw [numbers, List.getElem?_map, hplace]
    rfl
  obtain rfl : place = k := by
    rw [hnumbers, List.getElem?_range' (List.getElem?_eq_some_iff.mp hplace).1] at hnumber
    have heq := Option.some_inj.mp hnumber
    omega
  rcases List.forall₂_iff_get.mp hsame with ⟨hlength, hall⟩
  rcases List.getElem?_eq_some_iff.mp hplace with ⟨hlt, hget⟩
  have hother : place < groups.length := by
    rw [← hlength]
    exact hlt
  have hpair := hall place hlt hother
  simp only [List.get_eq_getElem, hget] at hpair
  refine ⟨groups[place].2, ?_, ?_⟩
  · rw [List.getElem?_eq_getElem hother, hpair.1]
  · rcases htakes with ⟨passed, spot, next, hwhole, hindex, hbefore, hrun, hrest⟩
    rw [hpair.2] at hrun
    exact ⟨passed, spot, next, hwhole, hindex, hbefore, hrun, hrest⟩

/-- The groups of an expression are those of the parameters and of their own patterns, in order, and
are numbered in that order from one on.  So there is one for each parameter just where no own
pattern has a group, which holds of each pattern that cannot have one with a name; and what a match
reports for a parameter was taken by the group at its place, which then is its own pattern. -/
theorem alignment_exact (hparse : PathPattern.parse source = .ok pattern)
    (hregex : pattern.regex? = some regex)
    (hown : forall parameter, parameter ∈ pattern.parameters ->
      own? parameter.pattern = some (own parameter)) :
    SameGroups regex.groups (groupsFrom own 1 pattern.parameters) ∧
      regex.numbers = List.range' 1 regex.groups.length ∧
      (regex.groups.length = pattern.parameters.length ↔
        forall parameter, parameter ∈ pattern.parameters -> (own parameter).groups = []) ∧
      (forall parameter, parameter ∈ pattern.parameters ->
        ¬ MayName parameter.pattern.toList -> (own parameter).groups = []) ∧
      forall rule url values name value, rule.source = pattern -> rule.matcher = regex ->
        RedirectRule.values? rule url = some values -> values.get? name = some value ->
          exists k parameter inside, pattern.parameters[k]? = some parameter ∧
            parameter.name = name ∧
            (groupsFrom own 1 pattern.parameters)[k]? = some (1 + k, inside) ∧
            TakesIn inside url.toList value.toList ∧
            ((forall other, other ∈ pattern.parameters -> (own other).groups = []) ->
              inside = valueRegex (own parameter) (own parameter) parameter) := by
  rcases sameGroups_of_regex hregex hown with ⟨hsame, hnumbers⟩
  refine ⟨hsame, hnumbers, ?_, ?_, ?_⟩
  · rw [← length_groupsFrom_iff, hsame.length_eq]
  · intro parameter hparameter hname
    exact groups_of_hasGroup (read_of_own (hown parameter hparameter)).1
      (hasGroup_of_parse hparse hparameter) hname
  · rintro rule url values name value rfl rfl hvalues hvalue
    rcases Option.map_eq_some_iff.mp hvalues with ⟨found, hsearch, rfl⟩
    rcases RedirectRule.get?_ofList_valuesFrom.2 value hvalue with ⟨k, hname, hlookup⟩
    rcases names_getElem?_eq_some_iff.mp hname with ⟨parameter, hparameter, heq⟩
    rcases exists_group_at hsame hnumbers hsearch hlookup with ⟨inside, hinside, htakes⟩
    refine ⟨k, parameter, inside, hparameter, heq, hinside, htakes, ?_⟩
    intro hgroups
    rw [groupsFrom_of_groups hgroups, List.getElem?_map, List.getElem?_zipIdx,
      hparameter] at hinside
    cases hinside
    rfl

/-- A pattern with two parameters, of which the first has a group with a name in its own pattern. -/
def namedGroup : String := "/a/:x((?<n>b)c)/:y(\\d+)"

/-- What a parameter's own pattern is read as. -/
def ownRegex (parameter : Parameter) : Regex := (own? parameter.pattern).getD .empty

/-- The pattern is accepted and has three groups, so a match reports the text of the second one,
`b`, for the second parameter, whose own pattern takes digits. -/
theorem alignment_exact_namedGroup :
    exists pattern regex values, PathPattern.parse namedGroup = .ok pattern ∧
      pattern.regex? = some regex ∧ pattern.parameters.length = 2 ∧
      regex.numbers = [1, 2, 3] ∧
      ¬ (forall parameter, parameter ∈ pattern.parameters -> (ownRegex parameter).groups = []) ∧
      RedirectRule.values? ⟨pattern, regex, .fixed "", false⟩ "/a/bc/7" = some values ∧
      values.get? "x" = some "bc" ∧ values.get? "y" = some "b" ∧
      exists k parameter inside, pattern.parameters[k]? = some parameter ∧ parameter.name = "y" ∧
        (groupsFrom ownRegex 1 pattern.parameters)[k]? = some (1 + k, inside) ∧
        TakesIn inside "/a/bc/7".toList "b".toList := by
  have hresult : ((PathPattern.parse namedGroup).toOption.any fun pattern =>
      pattern.parameters.length == 2 &&
        pattern.parameters.all (fun parameter => (own? parameter.pattern).isSome) &&
        pattern.regex?.any fun regex => regex.groups.length == 3 &&
          (RedirectRule.values? ⟨pattern, regex, .fixed "", false⟩ "/a/bc/7").any fun values =>
            values.get? "x" == some "bc" && values.get? "y" == some "b") = true := by
    decide +kernel
  cases hparse : PathPattern.parse namedGroup with
  | error error =>
      rw [hparse] at hresult
      cases hresult
  | ok pattern =>
      rw [hparse] at hresult
      simp only [Except.toOption, Option.any_some, Bool.and_eq_true, Option.any_eq_true] at hresult
      rcases hresult with ⟨⟨hcount, hall⟩, regex, hregex, hgroups, values, hvalues, hx, hy⟩
      have hown : forall parameter, parameter ∈ pattern.parameters ->
          own? parameter.pattern = some (ownRegex parameter) := by
        intro parameter hparameter
        have hsome := List.all_eq_true.mp hall parameter hparameter
        rcases Option.isSome_iff_exists.mp hsome with ⟨own, hread⟩
        rw [ownRegex, hread]
        rfl
      have hlength := beq_iff_eq.mp hgroups
      have htwo := beq_iff_eq.mp hcount
      rcases alignment_exact hparse hregex hown with ⟨_, hnumbers, hexact, _, hreports⟩
      refine ⟨pattern, regex, values, rfl, hregex, htwo, ?_, ?_, hvalues, beq_iff_eq.mp hx,
        beq_iff_eq.mp hy, ?_⟩
      · rw [hnumbers, hlength]
        rfl
      · intro hnone
        have hsame := hexact.mpr hnone
        rw [hlength, htwo] at hsame
        cases hsame
      · rcases hreports _ _ _ "y" "b" rfl rfl hvalues (beq_iff_eq.mp hy) with
          ⟨k, parameter, inside, hparameter, hname, hinside, htakes, _⟩
        exact ⟨k, parameter, inside, hparameter, hname, hinside, htakes⟩

end PathPattern
end Docloom
