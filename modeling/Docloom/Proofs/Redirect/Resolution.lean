import Docloom.Proofs.Redirect.Expression
import Docloom.Proofs.Results
import Docloom.Redirect.Rule

/-!
# Redirects that fail

A redirect that was accepted fails on a url that it matches when a parameter that its destination
requires has no value there.  That the parameter stands in the source is not enough: it may be
left out of a match, or match nothing.  It is enough that each match has a text for it.
-/

namespace Docloom

namespace PathPattern

variable {values : Values} {segments : List Segment} {pattern : PathPattern}

/-!
# Filling patterns
-/

/-- The names of the parameters of segments that must have a value. -/
def requiredOf (segments : List Segment) : List String :=
  ((parametersOf segments).filter fun parameter => parameter.modifier.isRequired).map
    Parameter.name

theorem requiredNames_eq (pattern : PathPattern) :
    pattern.requiredNames = requiredOf pattern.segments := rfl

/-- The first of the names that have no value. -/
def firstMissing? (values : Values) (names : List String) : Option String :=
  names.find? fun name => (value? values name).isNone

theorem segmentText_error_iff {segment : Segment} {fault : RedirectFault} :
    segmentText values segment = .error fault ↔
      exists name, firstMissing? values (requiredOf [segment]) = some name ∧
        fault = .noValue name := by
  cases segment with
  | literal text =>
      constructor
      · intro h
        cases h
      · rintro ⟨name, hname, _⟩
        cases hname
  | parameter parameter =>
      simp only [segmentText, firstMissing?, requiredOf, parametersOf_parameter]
      cases hvalue : value? values parameter.name with
      | some value =>
          cases hrequired : parameter.modifier.isRequired <;>
            simp [parametersOf, hrequired, hvalue]
      | none =>
          cases hrequired : parameter.modifier.isRequired <;>
            simp [parametersOf, hrequired, hvalue, eq_comm]

theorem requiredOf_cons (segment : Segment) (segments : List Segment) :
    requiredOf (segment :: segments) = requiredOf [segment] ++ requiredOf segments := by
  rw [requiredOf, requiredOf, requiredOf, ← List.map_append, ← List.filter_append]
  cases segment with
  | literal text =>
      rfl
  | parameter parameter =>
      rfl

/-- A pattern cannot be filled when a parameter that it requires has no value, and the first
such parameter is named. -/
theorem segmentsText_error_iff {fault : RedirectFault} :
    segmentsText values segments = .error fault ↔
      exists name, firstMissing? values (requiredOf segments) = some name ∧
        fault = .noValue name := by
  induction segments with
  | nil =>
      constructor
      · intro h
        cases h
      · rintro ⟨name, hname, _⟩
        cases hname
  | cons segment segments ih =>
      have hfind : firstMissing? values (requiredOf (segment :: segments)) =
          (firstMissing? values (requiredOf [segment])).or
            (firstMissing? values (requiredOf segments)) := by
        rw [requiredOf_cons, firstMissing?, List.find?_append]
        rfl
      rw [hfind, segmentsText]
      cases htext : segmentText values segment with
      | error first =>
          rcases segmentText_error_iff.mp htext with ⟨name, hname, rfl⟩
          rw [hname]
          simp [bind, Except.bind, eq_comm]
      | ok text =>
          have hnone : firstMissing? values (requiredOf [segment]) = none := by
            by_contra hsome
            rcases Option.ne_none_iff_exists'.mp hsome with ⟨name, hname⟩
            rw [segmentText_error_iff.mpr ⟨name, hname, rfl⟩] at htext
            cases htext
          rw [hnone, Option.none_or, ← ih]
          cases segmentsText values segments with
          | error first =>
              simp [bind, Except.bind]
          | ok rest =>
              simp [bind, Except.bind, pure, Except.pure]

theorem render_error_iff {error : Error} :
    pattern.render values = .error error ↔
      exists name, firstMissing? values pattern.requiredNames = some name ∧
        error = .invalidRedirect pattern.source (.noValue name) := by
  rw [requiredNames_eq, render]
  cases htext : segmentsText values pattern.segments with
  | error fault =>
      rcases segmentsText_error_iff.mp htext with ⟨name, hname, rfl⟩
      simp [Except.mapError, hname, eq_comm]
  | ok text =>
      constructor
      · intro h
        cases h
      · rintro ⟨name, hname, _⟩
        rw [segmentsText_error_iff.mpr ⟨name, hname, rfl⟩] at htext
        cases htext

theorem mem_requiredNames_iff {name : String} :
    name ∈ pattern.requiredNames ↔
      exists (k : Nat) (parameter : Parameter), pattern.parameters[k]? = some parameter ∧
        parameter.modifier.isRequired = true ∧ parameter.name = name := by
  rw [requiredNames, List.mem_map]
  constructor
  · rintro ⟨parameter, hparameter, hname⟩
    rcases List.mem_filter.mp hparameter with ⟨hmem, hrequired⟩
    rcases List.mem_iff_getElem?.mp hmem with ⟨k, hk⟩
    exact ⟨k, parameter, hk, hrequired, hname⟩
  · rintro ⟨k, parameter, hk, hrequired, hname⟩
    exact ⟨parameter, List.mem_filter.mpr ⟨List.mem_of_getElem? hk, hrequired⟩, hname⟩

theorem names_getElem?_eq_some_iff {k : Nat} {name : String} :
    pattern.names[k]? = some name ↔
      exists parameter, pattern.parameters[k]? = some parameter ∧ parameter.name = name := by
  rw [names, List.getElem?_map, Option.map_eq_some_iff]

end PathPattern

namespace Destination

/-- The pattern of a destination with parameters. -/
def pattern? : Destination -> Option PathPattern
  | .fixed _ => none
  | .path pattern => some pattern
  | .external _ pattern => some pattern

theorem mem_requiredNames_iff {destination : Destination} {name : String} :
    name ∈ destination.requiredNames ↔
      exists pattern, destination.pattern? = some pattern ∧ name ∈ pattern.requiredNames := by
  cases destination <;> simp [requiredNames, pattern?]

theorem render_error_iff {destination : Destination} {values : PathPattern.Values}
    {error : Error} :
    destination.render values = .error error ↔
      exists pattern, destination.pattern? = some pattern ∧
        pattern.render values = .error error := by
  cases destination with
  | fixed url =>
      constructor
      · intro h
        cases h
      · rintro ⟨pattern, hpattern, _⟩
        cases hpattern
  | path pattern =>
      simp [render, pattern?]
  | external base pattern =>
      cases h : pattern.render values <;> simp [render, pattern?, h, Except.map]

end Destination

namespace RedirectRule

variable {redirect : RedirectSource} {rule : RedirectRule} {rules : List RedirectRule}
  {values : PathPattern.Values} {url name : String}

/-!
# Accepted redirects
-/

theorem exists_of_compile (h : compile redirect = .ok rule) :
    PathPattern.parse redirect.source = .ok rule.source ∧
      rule.source.regex? = some rule.matcher ∧
      Destination.parse redirect.destination = .ok rule.destination ∧
      forall name, name ∈ rule.destination.requiredNames -> name ∈ rule.source.names := by
  unfold compile at h
  rcases Results.exists_of_bind h with ⟨source, hsource, h⟩
  dsimp only at h
  split at h
  · rename_i regex hregex
    rcases Results.exists_of_bind h with ⟨matcher, hmatcher, h⟩
    cases hmatcher
    rcases Results.exists_of_bind h with ⟨destination, hdestination, h⟩
    split at h
    · cases h
    · rename_i hfind
      cases h
      refine ⟨hsource, hregex, hdestination, ?_⟩
      intro name hname
      simpa using List.find?_eq_none.mp hfind name hname
  · cases h

/-!
# Values
-/

theorem mem_valuesFrom_iff {groups : List (Nat × String)} {index : Nat} {names : List String}
    {value : String} :
    (name, value) ∈ valuesFrom groups index names ↔
      exists k, names[k]? = some name ∧ groups.lookup (index + k) = some value := by
  induction names generalizing index with
  | nil =>
      simp [valuesFrom]
  | cons first names ih =>
      have hrest : (name, value) ∈ valuesFrom groups (index + 1) names ↔
          exists k, (first :: names)[k + 1]? = some name ∧
            groups.lookup (index + (k + 1)) = some value := by
        rw [ih]
        simp only [List.getElem?_cons_succ, Nat.add_assoc, Nat.add_comm 1]
      rw [valuesFrom]
      constructor
      · intro h
        have hcases : (first = name ∧ groups.lookup index = some value) ∨
            (name, value) ∈ valuesFrom groups (index + 1) names := by
          cases hgroup : groups.lookup index with
          | none =>
              rw [hgroup] at h
              exact Or.inr h
          | some text =>
              rw [hgroup] at h
              rcases List.mem_cons.mp h with heq | hmem
              · cases heq
                exact Or.inl ⟨rfl, rfl⟩
              · exact Or.inr hmem
        rcases hcases with ⟨rfl, hgroup⟩ | hmem
        · exact ⟨0, rfl, hgroup⟩
        · rcases hrest.mp hmem with ⟨k, hname, hgroup⟩
          exact ⟨k + 1, hname, hgroup⟩
      · rintro ⟨k, hname, hgroup⟩
        cases k with
        | zero =>
            cases hname
            rw [Nat.add_zero] at hgroup
            rw [hgroup]
            exact List.mem_cons_self
        | succ k =>
            have hmem := hrest.mpr ⟨k, hname, hgroup⟩
            cases groups.lookup index with
            | none =>
                exact hmem
            | some text =>
                exact List.mem_cons_of_mem _ hmem

/-- A name has a value when one of its groups took part, and the value is the text of such a
group. -/
theorem get?_ofList_valuesFrom {groups : List (Nat × String)} {names : List String} :
    (((Catalog.ofList (valuesFrom groups 1 names)).get? name).isSome = true ↔
        exists k, names[k]? = some name ∧ (groups.lookup (1 + k)).isSome = true) ∧
      forall value, (Catalog.ofList (valuesFrom groups 1 names)).get? name = some value ->
        exists k, names[k]? = some name ∧ groups.lookup (1 + k) = some value := by
  have hvalue : forall value,
      (Catalog.ofList (valuesFrom groups 1 names)).get? name = some value ->
        exists k, names[k]? = some name ∧ groups.lookup (1 + k) = some value :=
    fun value h => mem_valuesFrom_iff.mp (Catalog.mem_of_get?_ofList h)
  refine ⟨⟨?_, ?_⟩, hvalue⟩
  · intro hsome
    rcases Option.isSome_iff_exists.mp hsome with ⟨value, hget⟩
    rcases hvalue value hget with ⟨k, hname, hgroup⟩
    exact ⟨k, hname, by rw [hgroup]; rfl⟩
  · rintro ⟨k, hname, hgroup⟩
    rcases Option.isSome_iff_exists.mp hgroup with ⟨value, hlookup⟩
    exact Catalog.get?_ofList_isSome (mem_valuesFrom_iff.mpr ⟨k, hname, hlookup⟩)

/-- Whether each match has a text for a name: one of its groups takes part in each match, and no
text of its groups can be empty. -/
structure Supplies (rule : RedirectRule) (name : String) : Prop where
  binds : exists k, rule.source.names[k]? = some name ∧ rule.matcher.Binds (1 + k)
  fills : forall k, rule.source.names[k]? = some name -> rule.matcher.Fills (1 + k)

theorem value?_of_supplies (hsupplies : rule.Supplies name) (h : rule.values? url = some values) :
    (PathPattern.value? values name).isSome = true := by
  rcases Option.map_eq_some_iff.mp h with ⟨groups, hsearch, rfl⟩
  rcases Regex.exists_of_search hsearch with ⟨spot, next, hgroups, hrun, htexts⟩
  have htakes := Regex.takes_of_mem_run hrun
  rcases hsupplies.binds with ⟨k, hname, hbinds⟩
  have hlookup : (groups.lookup (1 + k)).isSome = true := by
    rw [htexts, Option.isSome_map]
    exact htakes.group?_of_binds hbinds
  rcases Option.isSome_iff_exists.mp
    (get?_ofList_valuesFrom.1.mpr ⟨k, hname, hlookup⟩) with ⟨value, hget⟩
  rcases get?_ofList_valuesFrom.2 value hget with ⟨other, hother, hvalue⟩
  have hne : value.isEmpty = false := by
    rw [Bool.eq_false_iff, ne_eq, String.isEmpty_iff]
    rintro rfl
    rw [htexts] at hvalue
    rcases Option.map_eq_some_iff.mp hvalue with ⟨text, htext, hempty⟩
    have hspot : spot.group? (1 + other) ≠ some [] := by
      simp [Regex.Spot.group?, hgroups]
    apply htakes.group?_ne_nil (hsupplies.fills other hother) hspot
    rw [htext, String.ofList_eq_empty_iff.mp hempty]
  rw [PathPattern.value?, hget]
  simp [hne]

/-!
# Sources without patterns of their own
-/

theorem matcher_of_plain (h : compile redirect = .ok rule) (hplain : rule.source.isPlain = true) :
    rule.matcher =
      .seq (.anchor .textStart) (PathPattern.segmentsRegex 1 rule.source.segments) := by
  have hregex := (exists_of_compile h).2.1
  rw [PathPattern.regex?, if_pos hplain] at hregex
  exact (Option.some_inj.mp hregex).symm

theorem supplies_of_plain (h : compile redirect = .ok rule)
    (hplain : rule.source.isPlain = true) (hname : name ∈ rule.source.requiredNames) :
    rule.Supplies name := by
  rcases PathPattern.mem_requiredNames_iff.mp hname with ⟨k, parameter, hk, hrequired, hsame⟩
  constructor
  · refine ⟨k, PathPattern.names_getElem?_eq_some_iff.mpr ⟨parameter, hk, hsame⟩, ?_⟩
    rw [matcher_of_plain h hplain]
    exact Or.inr (PathPattern.binds_segmentsRegex hk hrequired)
  · intro other _
    rw [matcher_of_plain h hplain]
    exact ⟨trivial, PathPattern.fills_segmentsRegex _ _ _⟩

/-- A match of the shortest url has no value for a name that no required parameter of the source
has. -/
theorem exists_values_of_plain (h : compile redirect = .ok rule)
    (hplain : rule.source.isPlain = true) (hname : name ∉ rule.source.requiredNames) :
    exists values,
      rule.values? (String.ofList (PathPattern.shortestOf rule.source.segments)) = some values ∧
        PathPattern.value? values name = none := by
  have hstart : exists next, next ∈ (PathPattern.segmentsRegex 1 rule.source.segments).run
      (.ofText (String.ofList (PathPattern.shortestOf rule.source.segments)).toList) := by
    apply PathPattern.exists_mem_segments
    rw [String.toList_ofList]
    rfl
  rcases hstart with ⟨next, hnext⟩
  rcases Regex.exists_search_of_mem_run hnext with ⟨last, hlast, hsearch⟩
  rw [← matcher_of_plain h hplain] at hlast hsearch
  refine ⟨_, by rw [values?, hsearch]; rfl, ?_⟩
  have htakes := Regex.takes_of_mem_run hlast
  have hlength : last.index ≤ rule.matcher.minLength := by
    rcases htakes.exists_taken with ⟨taken, hrest, hindex⟩
    have hle := congrArg List.length hrest
    rw [matcher_of_plain h hplain, Regex.minLength, PathPattern.minLength_segmentsRegex]
    simp only [Regex.Spot.ofText, String.toList_ofList, List.length_append] at hle hindex
    simp only [Regex.minLength]
    omega
  have hnone : ¬ ((Catalog.ofList (valuesFrom
      (last.groups.map fun group => (group.1, String.ofList group.2)) 1
        rule.source.names)).get? name).isSome = true := by
    rw [get?_ofList_valuesFrom.1]
    rintro ⟨k, hk, hgroup⟩
    rw [Lists.lookup_map, Option.isSome_map] at hgroup
    have hspares : rule.matcher.Spares (1 + k) := by
      rw [matcher_of_plain h hplain]
      refine ⟨trivial, PathPattern.spares_segmentsRegex ?_⟩
      intro other parameter hparameter hnumber
      obtain rfl : k = other := by
        omega
      rcases PathPattern.names_getElem?_eq_some_iff.mp hk with ⟨found, hfound, hsame⟩
      cases hparameter.symm.trans hfound
      cases hrequired : parameter.modifier.isRequired with
      | false =>
          rfl
      | true =>
          exact absurd
            (PathPattern.mem_requiredNames_iff.mpr ⟨k, parameter, hparameter, hrequired, hsame⟩)
            hname
    rcases htakes.group?_of_spares hspares with hsame | hlonger
    · rw [Regex.Spot.group?, Regex.Spot.group?] at hsame
      rw [hsame] at hgroup
      cases hgroup
    · simp only [Regex.Spot.ofText] at hlonger
      omega
  rw [PathPattern.value?, Option.not_isSome_iff_eq_none.mp hnone]
  rfl

/-!
# Failures
-/

/-- Whether a url matches and the first of the parameters that the destination requires and that
have no value there is the one that the error names. -/
def FailsOn (rule : RedirectRule) (url : String) (error : Error) : Prop :=
  exists values pattern name, rule.values? url = some values ∧
    rule.destination.pattern? = some pattern ∧
    PathPattern.firstMissing? values pattern.requiredNames = some name ∧
    error = .invalidRedirect pattern.source (.noValue name)

theorem resolve_error_iff {error : Error} :
    rule.resolve url = .error error ↔ rule.FailsOn url error := by
  unfold resolve FailsOn
  cases hvalues : rule.values? url with
  | none =>
      simp
  | some values =>
      have hmap : (rule.destination.render values).map some = .error error ↔
          rule.destination.render values = .error error := by
        cases rule.destination.render values <;> simp [Except.map]
      simp only [hmap, Destination.render_error_iff, PathPattern.render_error_iff]
      constructor
      · rintro ⟨pattern, hpattern, name, hname, herror⟩
        exact ⟨values, pattern, name, rfl, hpattern, hname, herror⟩
      · rintro ⟨found, pattern, name, hfound, hpattern, hname, herror⟩
        cases hfound
        exact ⟨pattern, hpattern, name, hname, herror⟩

theorem resolve_eq_none_iff : rule.resolve url = .ok none ↔ rule.values? url = none := by
  unfold resolve
  cases rule.values? url with
  | none =>
      simp
  | some values =>
      cases hrender : rule.destination.render values <;> simp [Except.map, hrender]

/-- A link fails at the first rule that it matches, or not at all. -/
theorem resolveFirst_error_iff {error : Error} :
    resolveFirst rules url = .error error ↔
      exists before rule after, rules = before ++ rule :: after ∧
        (forall other, other ∈ before -> other.values? url = none) ∧ rule.FailsOn url error := by
  induction rules with
  | nil =>
      simp [resolveFirst]
  | cons first rest ih =>
      rw [Lists.exists_first_cons_iff, ← resolve_error_iff, ← resolve_eq_none_iff]
      cases hfirst : first.resolve url with
      | error fault =>
          simp [resolveFirst, hfirst]
      | ok found =>
          cases found with
          | none =>
              rw [resolveFirst_cons_none rest hfirst, ih]
              simp
          | some destination =>
              simp [resolveFirst, hfirst]

/-- A link fails exactly at the first rule that it matches, when a parameter that the destination
of the rule requires has no value there.  No link fails at a rule that supplies all of these
parameters; and when the source of a rule has no patterns of its own, no link fails at it exactly
when the source requires them, too. -/
theorem resolution_exact {redirects : List RedirectSource} {rules : List RedirectRule}
    (compiled : redirects.mapM compile = .ok rules) :
    (forall url error, resolveFirst rules url = .error error ↔
      exists before rule after, rules = before ++ rule :: after ∧
        (forall other, other ∈ before -> other.values? url = none) ∧ rule.FailsOn url error) ∧
    forall rule, rule ∈ rules ->
      (forall url error, rule.resolve url = .error error ↔ rule.FailsOn url error) ∧
      ((forall name, name ∈ rule.destination.requiredNames -> rule.Supplies name) ->
        forall url, exists found, rule.resolve url = .ok found) ∧
      (rule.source.isPlain = true ->
        ((forall url, exists found, rule.resolve url = .ok found) ↔
          forall name, name ∈ rule.destination.requiredNames ->
            name ∈ rule.source.requiredNames)) := by
  refine ⟨fun url error => resolveFirst_error_iff, ?_⟩
  intro rule hrule
  rcases (Lists.mem_iff_of_mapM compiled).mp hrule with ⟨redirect, _, hcompile⟩
  have hsupplied : (forall name, name ∈ rule.destination.requiredNames -> rule.Supplies name) ->
      forall url, exists found, rule.resolve url = .ok found := by
    intro hsupplies url
    cases hresolve : rule.resolve url with
    | ok found =>
        exact ⟨found, rfl⟩
    | error error =>
        rcases resolve_error_iff.mp hresolve with
          ⟨values, pattern, name, hvalues, hpattern, hmissing, _⟩
        have hname : name ∈ rule.destination.requiredNames :=
          Destination.mem_requiredNames_iff.mpr
            ⟨pattern, hpattern, List.mem_of_find?_eq_some hmissing⟩
        have hnone := List.find?_some hmissing
        have hsome := value?_of_supplies (hsupplies name hname) hvalues
        rw [Option.isNone_iff_eq_none] at hnone
        rw [hnone] at hsome
        cases hsome
  refine ⟨fun url error => resolve_error_iff, hsupplied, ?_⟩
  intro hplain
  constructor
  · intro hresolves name hname
    by_contra hnot
    rcases exists_values_of_plain hcompile hplain hnot with ⟨values, hvalues, hvalue⟩
    rcases Destination.mem_requiredNames_iff.mp hname with ⟨pattern, hpattern, hrequired⟩
    have hmissing : (PathPattern.firstMissing? values pattern.requiredNames).isSome = true := by
      rw [PathPattern.firstMissing?, List.find?_isSome]
      exact ⟨name, hrequired, by rw [hvalue]; rfl⟩
    rcases Option.isSome_iff_exists.mp hmissing with ⟨first, hfirst⟩
    rcases hresolves _ with ⟨found, hfound⟩
    rw [resolve_error_iff.mpr ⟨values, pattern, first, hvalues, hpattern, hfirst, rfl⟩] at hfound
    cases hfound
  · intro hrequired
    exact hsupplied fun name hname => supplies_of_plain hcompile hplain (hrequired name hname)

/-- A redirect whose destination requires what its source may leave out. -/
def optionalPage : RedirectSource := { source := "/old/:page?", destination := "/new/:page" }

/-- The redirect is accepted, and the url that leaves its parameter out fails at it. -/
theorem resolution_exact_optional :
    exists rule, [optionalPage].mapM compile = .ok [rule] ∧ rule.source.isPlain = true ∧
      resolveFirst [rule] "/old" = .error (.invalidRedirect "/new/:page" (.noValue "page")) ∧
      rule.FailsOn "/old" (.invalidRedirect "/new/:page" (.noValue "page")) ∧
      ¬ forall name, name ∈ rule.destination.requiredNames ->
        name ∈ rule.source.requiredNames := by
  have hresult : ((compile optionalPage).toOption.any fun rule =>
      rule.source.isPlain && resolveFirst [rule] "/old" ==
        .error (.invalidRedirect "/new/:page" (.noValue "page"))) = true := by
    decide +kernel
  cases hcompile : compile optionalPage with
  | error error =>
      rw [hcompile] at hresult
      cases hresult
  | ok rule =>
      rw [hcompile] at hresult
      simp only [Except.toOption, Option.any_some, Bool.and_eq_true, beq_iff_eq] at hresult
      rcases hresult with ⟨hplain, hfirst⟩
      have hcompiled : [optionalPage].mapM compile = .ok [rule] := by
        simp [hcompile, pure, bind, Except.pure, Except.bind]
      rcases resolution_exact hcompiled with ⟨hfirsts, hrules⟩
      rcases hrules rule List.mem_cons_self with ⟨hresolve, _, hexact⟩
      rcases (hfirsts _ _).mp hfirst with ⟨before, failing, after, hsplit, _, hfails⟩
      obtain rfl : failing = rule := by
        have hmem : failing ∈ [rule] := by
          rw [hsplit]
          simp
        exact List.mem_singleton.mp hmem
      refine ⟨failing, hcompiled, hplain, hfirst, hfails, ?_⟩
      intro hrequired
      rcases (hexact hplain).mpr hrequired "/old" with ⟨found, hfound⟩
      rw [(hresolve _ _).mpr hfails] at hfound
      cases hfound

end RedirectRule
end Docloom
