import Docloom.Proofs.Redirect.Spelling

/-!
# Steps of reading a pattern

Reading a pattern goes on behind a character or behind a parameter, or ends.  This is told once, so
that what holds of all segments follows by induction from what one step does: that there is always
enough fuel, which faults there are, and which leads and patterns parameters have.
-/

namespace Docloom
namespace PathPattern

variable {segments : List Segment} {parameter : Parameter} {lead : Char} {fuel other n : Nat}
  {read cs rest own : List Char} {name pattern : String} {fault : RedirectFault}

/-!
# One step
-/

/-- The faults that are found while a pattern is read. -/
def readingFaults : List RedirectFault := [.missingName, .unbalanced, .capturing]

theorem fault_of_readPattern (h : readPattern cs = .error fault) : fault ∈ readingFaults := by
  unfold readPattern at h
  split at h
  · cases h
    decide
  · split at h
    · cases h
      decide
    · cases h

theorem length_of_readPattern (h : readPattern cs = .ok (pattern, rest)) :
    rest.length < cs.length := by
  rw [eq_of_readPattern h, List.length_append, List.length_cons]
  omega

/-- No pattern that is accepted has a parenthesis that the scan for groups finds. -/
theorem hasGroup_of_readPattern (h : readPattern cs = .ok (pattern, rest)) :
    hasGroup pattern.toList = false := by
  unfold readPattern at h
  split at h
  · cases h
  · split at h
    · cases h
    · rename_i hscan
      cases h
      rw [String.toList_ofList]
      exact Bool.eq_false_iff.mpr hscan

theorem hasGroup_defaultPattern : hasGroup defaultPattern.toList = false := by
  decide +kernel

/-- The segments of what was read before a parameter, the parameter, and others behind it. -/
def thenParameter (read : List Char) (name pattern : String) (modifier : Modifier)
    (segments : List Segment) : List Segment :=
  literal (takeLead read).2 ++ .parameter ⟨name, (takeLead read).1, pattern, modifier⟩ :: segments

/-- What reading comes to at one place, with any fuel. -/
inductive StepAt (n : Nat) (read cs : List Char) : Prop where
  | ends (h : forall fuel, readSegments (fuel + 1) n read cs = .ok (literal read))
  | fails (fault : RedirectFault) (hfault : fault ∈ readingFaults)
      (h : forall fuel, readSegments (fuel + 1) n read cs = .error fault)
  /-- A character belongs to a literal. -/
  | goesOn (c : Char) (rest : List Char) (hlength : rest.length < cs.length)
      (h : forall fuel,
        readSegments (fuel + 1) n read cs = readSegments fuel n (c :: read) rest)
  | parameter (count : Nat) (name pattern : String) (modifier : Modifier) (rest : List Char)
      (hlength : rest.length < cs.length) (hscan : hasGroup pattern.toList = false)
      (h : forall fuel, readSegments (fuel + 1) n read cs =
        (readSegments fuel count [] rest).map (thenParameter read name pattern modifier))

theorem stepAt_parameter (count : Nat) (name pattern : String) (hlength : rest.length < cs.length)
    (hscan : hasGroup pattern.toList = false)
    (h : forall fuel, readSegments (fuel + 1) n read cs =
      (readSegments fuel count [] (readModifier rest).2).map
        (thenParameter read name pattern (readModifier rest).1)) :
    StepAt n read cs :=
  .parameter count name pattern _ _ (Nat.lt_of_le_of_lt (length_readModifier_le rest) hlength)
    hscan h

/-- A parameter whose own pattern stands next. -/
theorem stepAt_own (count : Nat) (name : String) (hlength : rest.length < cs.length)
    (h : forall fuel, readSegments (fuel + 1) n read cs =
      (readPattern rest).bind fun own =>
        (readSegments fuel count [] (readModifier own.2).2).map
          (thenParameter read name own.1 (readModifier own.2).1)) :
    StepAt n read cs := by
  cases hown : readPattern rest with
  | error fault =>
      refine .fails fault (fault_of_readPattern hown) ?_
      intro fuel
      rw [h, hown]
      rfl
  | ok own =>
      refine stepAt_parameter count name own.1
        (Nat.lt_trans (length_of_readPattern hown) hlength) (hasGroup_of_readPattern hown) ?_
      intro fuel
      rw [h, hown]
      rfl

theorem stepAt (n : Nat) (read cs : List Char) : StepAt n read cs := by
  rcases cs with _ | ⟨c, rest⟩
  · exact .ends fun fuel => by simp [readSegments]
  by_cases hescape : c = '\\'
  · subst hescape
    rcases rest with _ | ⟨d, rest⟩
    · exact .ends fun fuel => by simp [readSegments]
    · exact .goesOn d rest (Nat.lt_add_of_pos_right (Nat.zero_lt_two)) fun fuel => by
        simp [readSegments]
  by_cases hnamed : c = ':'
  · subst hnamed
    rcases exists_name rest with ⟨name, tail, htake, hdrop, hrest, _, _⟩
    have hlength : tail.length < (':' :: rest).length := by
      rw [hrest, List.length_cons, List.length_append]
      omega
    by_cases hempty : name.isEmpty = true
    · exact .fails .missingName (by decide) fun fuel => by simp [readSegments, htake, hempty]
    by_cases hopen : exists own, tail = '(' :: own
    · rcases hopen with ⟨own, rfl⟩
      refine stepAt_own n (String.ofList name) (Nat.lt_trans (Nat.lt_succ_self _) hlength) ?_
      intro fuel
      simp [readSegments, htake, hdrop, hempty]
      rfl
    · refine stepAt_parameter n (String.ofList name) defaultPattern hlength
        hasGroup_defaultPattern ?_
      intro fuel
      rw [readSegments, htake, hdrop, if_neg hempty]
      split
      · exact absurd ⟨_, rfl⟩ hopen
      · rfl
  by_cases hunnamed : c = '('
  · subst hunnamed
    refine stepAt_own (n + 1) (toString n) (Nat.lt_succ_self _) ?_
    intro fuel
    simp [readSegments]
    rfl
  · refine .goesOn c rest (Nat.lt_succ_self _) ?_
    intro fuel
    conv_lhs => unfold readSegments
    dsimp only
    split <;> simp_all

/-!
# All steps
-/

/-- More fuel than there are characters is always enough. -/
theorem readSegments_of_fuel (h : cs.length < fuel) (hother : cs.length < other) :
    readSegments fuel n read cs = readSegments other n read cs := by
  induction fuel generalizing other n read cs with
  | zero =>
      cases h
  | succ fuel ih =>
      rcases other with _ | other
      · cases hother
      rcases stepAt n read cs with hends | ⟨fault, _, hfails⟩ | ⟨c, rest, hlength, hgoesOn⟩ |
        ⟨count, name, pattern, modifier, rest, hlength, _, hparameter⟩
      · rw [hends, hends]
      · rw [hfails, hfails]
      · rw [hgoesOn, hgoesOn]
        exact ih (by omega) (by omega)
      · rw [hparameter, hparameter, ih (Nat.lt_of_lt_of_le hlength (Nat.le_of_lt_succ h))
          (Nat.lt_of_lt_of_le hlength (Nat.le_of_lt_succ hother))]

theorem fault_of_readSegments (h : readSegments fuel n read cs = .error fault) :
    fault ∈ readingFaults := by
  induction fuel generalizing n read cs with
  | zero =>
      cases h
  | succ fuel ih =>
      rcases stepAt n read cs with hends | ⟨found, hfault, hfails⟩ | ⟨c, rest, _, hgoesOn⟩ |
        ⟨count, name, pattern, modifier, rest, _, _, hparameter⟩
      · rw [hends] at h
        cases h
      · rw [hfails] at h
        cases h
        exact hfault
      · rw [hgoesOn] at h
        exact ih h
      · rw [hparameter] at h
        exact ih (Results.error_of_map h)

theorem parametersOf_append (first second : List Segment) :
    parametersOf (first ++ second) = parametersOf first ++ parametersOf second :=
  List.filterMap_append

theorem parametersOf_literals (read : List Char) : parametersOf (literal read) = [] := by
  unfold literal
  split
  · rfl
  · rfl

theorem lead_of_takeLead (h : (takeLead read).1 = some lead) : lead = '/' ∨ lead = '.' := by
  unfold takeLead at h
  split at h
  · cases h
    exact Or.inl rfl
  · cases h
    exact Or.inr rfl
  · cases h

/-- The lead of a parameter is a slash or a dot, and the scan for groups finds none in its
pattern. -/
theorem parameter_of_readSegments (h : readSegments fuel n read cs = .ok segments)
    (hparameter : parameter ∈ parametersOf segments) :
    (forall lead, parameter.lead = some lead -> lead = '/' ∨ lead = '.') ∧
      hasGroup parameter.pattern.toList = false := by
  induction fuel generalizing n read cs segments with
  | zero =>
      cases h
      rw [parametersOf_literals] at hparameter
      cases hparameter
  | succ fuel ih =>
      rcases stepAt n read cs with hends | ⟨fault, _, hfails⟩ | ⟨c, rest, _, hgoesOn⟩ |
        ⟨count, name, pattern, modifier, rest, _, hscan, hstep⟩
      · rw [hends] at h
        cases h
        rw [parametersOf_literals] at hparameter
        cases hparameter
      · rw [hfails] at h
        cases h
      · rw [hgoesOn] at h
        exact ih h hparameter
      · rw [hstep] at h
        rcases Results.exists_of_map h with ⟨below, hbelow, rfl⟩
        rw [thenParameter, parametersOf_append, parametersOf_literals, List.nil_append,
          parametersOf_parameter] at hparameter
        rcases List.mem_cons.mp hparameter with rfl | hmem
        · exact ⟨fun lead hlead => lead_of_takeLead hlead, hscan⟩
        · exact ih hbelow hmem

theorem lead_of_readSegments (h : readSegments fuel n read cs = .ok segments)
    (hparameter : parameter ∈ parametersOf segments) (hlead : parameter.lead = some lead) :
    lead = '/' ∨ lead = '.' :=
  (parameter_of_readSegments h hparameter).1 lead hlead

theorem hasGroup_of_parse {source : String} {parsed : PathPattern}
    (h : PathPattern.parse source = .ok parsed) (hparameter : parameter ∈ parsed.parameters) :
    hasGroup parameter.pattern.toList = false := by
  unfold PathPattern.parse at h
  dsimp only at h
  split at h
  · rename_i segments hread
    cases h
    exact (parameter_of_readSegments hread hparameter).2
  · cases h

end PathPattern
end Docloom
