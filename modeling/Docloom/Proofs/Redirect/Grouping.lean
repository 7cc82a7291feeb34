import Docloom.Proofs.Redirect.Expression
import Docloom.Proofs.Regex.Continuation
import Docloom.Proofs.Text.Split

/-!
# The groups of path patterns

The expression of a path pattern has a group for each parameter, in their order.  Behind the group
of a parameter stand the groups that the parameter's own pattern opens, so these take numbers that
parameters behind it would have.
-/

namespace Docloom
namespace PathPattern

open Regex

variable {own : Regex} {parameter : Parameter} {segments : List Segment} {next : Nat}
  {level : Level} {outer : List Level} {tail : List Char} {final : Reader}

/-!
# What the groups hold
-/

/-- What is inside the group of a parameter: its own pattern, or all repetitions of it with the
lead between them. -/
def valueRegex (first again : Regex) (parameter : Parameter) : Regex :=
  match parameter.lead with
  | none => first
  | some lead =>
      if parameter.modifier.isRepeated then
        .seq first (.times (.seq (charRegex lead) again) 0 none true)
      else
        first

/-- What is inside the group with a number, where the groups of the parameter's own pattern, which
is read as `own`, take the next numbers. -/
def valueFrom (next : Nat) (own : Regex) (parameter : Parameter) : Regex :=
  valueRegex (own.renumbered next) (own.renumbered (next + own.groups.length)) parameter

/-- The group of a parameter with what is inside, and the groups inside it. -/
def parameterGroups (next : Nat) (own : Regex) (parameter : Parameter) : List (Nat × Regex) :=
  (next, valueFrom next own parameter) :: (valueFrom next own parameter).groups

/-- The groups of parameters, numbered from `next` on. -/
def groupsFrom (own : Parameter -> Regex) : Nat -> List Parameter -> List (Nat × Regex)
  | _, [] => []
  | next, parameter :: parameters =>
      let groups := parameterGroups next (own parameter) parameter
      groups ++ groupsFrom own (next + groups.length) parameters

theorem groups_modifierRegex (modifier : Modifier) (regex : Regex) :
    (modifierRegex modifier regex).groups = regex.groups := by
  cases modifier <;> rfl

/-!
# Reading expressions of parameters
-/

/-- Behind an item its modifier is read. -/
theorem continues_modifier {item : Regex} (modifier : Modifier)
    (htail : forall rest, tail ≠ '?' :: rest)
    (h : Continues next (level.pushed item) outer (modifier.text.toList ++ tail) final) :
    Continues next (level.pushed (modifierRegex modifier item)) outer tail final := by
  cases modifier with
  | one =>
      exact h
  | optional =>
      exact h.repeated .optional htail
  | zeroOrMore =>
      exact h.repeated .any htail
  | oneOrMore =>
      exact h.repeated .some htail

/-- A parameter's own pattern between parentheses is a group with a number. -/
theorem continues_group (hown : own? parameter.pattern = some own)
    (h : Continues next level outer ('(' :: (parameter.pattern.toList ++ ')' :: tail)) final) :
    Continues (next + 1 + own.groups.length)
      (level.pushed (.group next (own.renumbered next))) outer tail final := by
  rcases ne_mark_of_read (read_of_own hown).1 tail with ⟨c, cs, hcs, hc⟩
  rw [hcs] at h
  have hopen := h.openNumbered hc
  rw [← hcs] at hopen
  exact hopen.own hown (Nat.succ_pos next)

/-- A parameter's own pattern between parentheses that keep no text. -/
theorem continues_plain (hown : own? parameter.pattern = some own) (hnext : 0 < next)
    (h : Continues next level outer
      ('(' :: '?' :: ':' :: (parameter.pattern.toList ++ ')' :: tail)) final) :
    Continues (next + own.groups.length)
      (level.pushed (own.renumbered (next - 1))) outer tail final :=
  h.openPlain.own hown hnext

theorem toList_escaped_singleton (c : Char) :
    (escaped (String.singleton c)).toList = escapedChar c := by
  simp [escaped, escapedChar]

theorem exists_pushed {item : Regex} {groups : List (Nat × Regex)} {count : Nat}
    (hitem : item.groups = groups) (hcount : next + groups.length = count)
    (h : Continues count (level.pushed item) outer tail final) :
    exists item, item.groups = groups ∧
      Continues (next + item.groups.length) (level.pushed item) outer tail final := by
  refine ⟨item, hitem, ?_⟩
  rw [hitem, hcount]
  exact h

theorem parameterGroups_once (next : Nat) (own : Regex)
    (hlead : parameter.lead = none ∨ parameter.modifier.isRepeated = false) :
    parameterGroups next own parameter =
      (next, own.renumbered next) :: (own.renumbered next).groups := by
  have hvalue : valueFrom next own parameter = own.renumbered next := by
    unfold valueFrom valueRegex
    rcases hlead with hnone | honce
    · rw [hnone]
    · split
      · rfl
      · rw [honce]
        rfl
  unfold parameterGroups
  rw [hvalue]

/-- A parameter that stands once, or has no lead, is its own pattern in one group. -/
theorem continues_once (hlead : parameter.lead = none ∨ parameter.modifier.isRepeated = false)
    (hown : own? parameter.pattern = some own)
    (htail : forall rest, tail ≠ '?' :: rest)
    (h : Continues next level outer ((parameterExpression parameter).toList ++ tail) final) :
    exists item, item.groups = parameterGroups next own parameter ∧
      Continues (next + item.groups.length) (level.pushed item) outer tail final := by
  have hgroups := parameterGroups_once next own hlead
  have hcount : next + (parameterGroups next own parameter).length =
      next + 1 + own.groups.length := by
    rw [hgroups, List.length_cons, length_groups_renumbered]
    omega
  cases hcases : parameter.lead with
  | none =>
      have htext : (parameterExpression parameter).toList ++ tail =
          '(' :: (parameter.pattern.toList ++ ')' :: (parameter.modifier.text.toList ++ tail)) := by
        simp [parameterExpression, hcases, String.toList_append]
      rw [htext] at h
      refine exists_pushed ?_ hcount
        (continues_modifier parameter.modifier htail (continues_group hown h))
      rw [groups_modifierRegex, hgroups]
      rfl
  | some lead =>
      have honce : parameter.modifier.isRepeated = false := by
        rcases hlead with hnone | honce
        · rw [hcases] at hnone
          cases hnone
        · exact honce
      have htext : (parameterExpression parameter).toList ++ tail =
          '(' :: '?' :: ':' :: (escapedChar lead ++ '(' :: (parameter.pattern.toList ++
            ')' :: ')' :: (parameter.modifier.text.toList ++ tail))) := by
        simp [parameterExpression, hcases, honce, String.toList_append, toList_escaped_singleton]
      rw [htext] at h
      have hinside := continues_group hown h.openPlain.char
      refine exists_pushed ?_ hcount
        (continues_modifier parameter.modifier htail (hinside.close rfl))
      rw [groups_modifierRegex, hgroups]
      rfl

theorem parameterGroups_repeated {lead : Char} (next : Nat) (own : Regex)
    (hlead : parameter.lead = some lead) (hrepeated : parameter.modifier.isRepeated = true) :
    parameterGroups next own parameter =
      (Regex.group next (.seq (own.renumbered next)
        (.times (.seq (charRegex lead) (own.renumbered (next + own.groups.length))) 0 none
          true))).groups := by
  unfold parameterGroups valueFrom valueRegex
  simp only [hlead, hrepeated, if_true, groups]

/-- A repeated parameter with a lead is one group around all repetitions, behind the first lead. -/
theorem continues_repeated {lead : Char} (hlead : parameter.lead = some lead)
    (hrepeated : parameter.modifier.isRepeated = true)
    (hown : own? parameter.pattern = some own) (hnext : 0 < next)
    (htail : forall rest, tail ≠ '?' :: rest)
    (h : Continues next level outer ((parameterExpression parameter).toList ++ tail) final) :
    exists item, item.groups = parameterGroups next own parameter ∧
      Continues (next + item.groups.length) (level.pushed item) outer tail final := by
  have hgroups := parameterGroups_repeated next own hlead hrepeated
  have htext : (parameterExpression parameter).toList ++ tail =
      '(' :: '?' :: ':' :: (escapedChar lead ++ '(' :: '(' :: '?' :: ':' ::
        (parameter.pattern.toList ++ ')' :: '(' :: '?' :: ':' :: (escapedChar lead ++
          '(' :: '?' :: ':' :: (parameter.pattern.toList ++ ')' :: ')' :: '*' :: ')' :: ')' ::
            ((if parameter.modifier = .zeroOrMore then ['?'] else []) ++ tail))))) := by
    simp only [parameterExpression, hlead, hrepeated, if_true]
    split <;> simp [String.toList_append, toList_escaped_singleton]
  rw [htext] at h
  -- The own pattern stands in the text twice, and takes other numbers the second time.
  have hopen := h.openPlain.char.openNumbered (by decide)
  have hfirst := continues_plain hown (Nat.succ_pos next) hopen
  have hagain := continues_plain hown (Nat.add_pos_left (Nat.succ_pos next) _)
    hfirst.openPlain.char
  have hshift : next + 1 + own.groups.length - 1 = next + own.groups.length := by
    omega
  rw [hshift] at hagain
  have hstar := (hagain.close rfl).repeated .any fun rest heq => by cases heq
  have hall := (hstar.close rfl).close rfl
  have hcount : next + (parameterGroups next own parameter).length =
      next + 1 + own.groups.length + own.groups.length := by
    simp only [hgroups, charRegex, groups, List.length_cons, List.length_append,
      List.length_nil, length_groups_renumbered]
    omega
  split at hall
  · refine exists_pushed ?_ hcount (hall.repeated .optional htail)
    rw [hgroups]
    rfl
  · refine exists_pushed ?_ hcount hall
    rw [hgroups]
    rfl

theorem continues_parameter (hown : own? parameter.pattern = some own) (hnext : 0 < next)
    (htail : forall rest, tail ≠ '?' :: rest)
    (h : Continues next level outer ((parameterExpression parameter).toList ++ tail) final) :
    exists item, item.groups = parameterGroups next own parameter ∧
      Continues (next + item.groups.length) (level.pushed item) outer tail final := by
  cases hlead : parameter.lead with
  | none =>
      exact continues_once (Or.inl hlead) hown htail h
  | some lead =>
      cases hrepeated : parameter.modifier.isRepeated with
      | false =>
          exact continues_once (Or.inr hrepeated) hown htail h
      | true =>
          exact continues_repeated hlead hrepeated hown hnext htail h

/-!
# Reading expressions of patterns
-/

/-- The text of segments in an expression. -/
def expressionText (segments : List Segment) : List Char :=
  segments.flatMap fun segment => (segmentExpression segment).toList

theorem toList_escaped (text : String) :
    (escaped text).toList = text.toList.flatMap escapedChar := by
  rw [escaped, String.toList_ofList]
  rfl

theorem escapedChar_ne_mark (c : Char) (rest : List Char) :
    exists d ds, escapedChar c ++ rest = d :: ds ∧ d ≠ '?' := by
  unfold escapedChar
  split
  · exact ⟨'\\', c :: rest, rfl, by decide⟩
  · rename_i hmeta
    refine ⟨c, rest, rfl, ?_⟩
    rintro rfl
    exact hmeta rfl

theorem parameterExpression_eq (parameter : Parameter) :
    exists cs, (parameterExpression parameter).toList = '(' :: cs := by
  unfold parameterExpression
  split
  · exact ⟨_, by simp [String.toList_append]; rfl⟩
  · dsimp only
    split <;> exact ⟨_, by simp [String.toList_append]; rfl⟩

/-- No segment begins with a question mark. -/
theorem expressionText_ne_mark (segments : List Segment) (htail : forall rest, tail ≠ '?' :: rest)
    (rest : List Char) : expressionText segments ++ tail ≠ '?' :: rest := by
  induction segments with
  | nil =>
      exact htail rest
  | cons segment segments ih =>
      rw [expressionText, List.flatMap_cons, List.append_assoc]
      cases segment with
      | literal text =>
          rw [segmentExpression, toList_escaped]
          cases text.toList with
          | nil =>
              exact ih
          | cons c cs =>
              rw [List.flatMap_cons, List.append_assoc]
              rcases escapedChar_ne_mark c (cs.flatMap escapedChar ++
                (expressionText segments ++ tail)) with ⟨d, ds, heq, hd⟩
              intro hmark
              cases heq.symm.trans hmark
              exact hd rfl
      | parameter parameter =>
          rcases parameterExpression_eq parameter with ⟨cs, hcs⟩
          intro hmark
          rw [segmentExpression, hcs] at hmark
          cases hmark

theorem continues_literal (cs : List Char)
    (h : Continues next level outer (cs.flatMap escapedChar ++ tail) final) :
    exists level', level'.groupsInside = level.groupsInside ∧
      Continues next level' outer tail final := by
  induction cs generalizing level with
  | nil =>
      exact ⟨level, rfl, h⟩
  | cons c cs ih =>
      rw [List.flatMap_cons, List.append_assoc] at h
      rcases ih h.char with ⟨level', hgroups, hrest⟩
      refine ⟨level', hgroups.trans ?_, hrest⟩
      rw [Level.groupsInside_pushed]
      exact List.append_nil _

/-- Behind the segments a level has their groups. -/
theorem continues_segments {own : Parameter -> Regex} (hnext : 0 < next)
    (hown : forall parameter, parameter ∈ parametersOf segments ->
      own? parameter.pattern = some (own parameter))
    (htail : forall rest, tail ≠ '?' :: rest)
    (h : Continues next level outer (expressionText segments ++ tail) final) :
    exists next' level', level'.groupsInside =
        level.groupsInside ++ groupsFrom own next (parametersOf segments) ∧
      Continues next' level' outer tail final := by
  induction segments generalizing next level with
  | nil =>
      exact ⟨next, level, (List.append_nil _).symm, h⟩
  | cons segment segments ih =>
      rw [expressionText, List.flatMap_cons, List.append_assoc] at h
      cases segment with
      | literal text =>
          rw [segmentExpression, toList_escaped] at h
          rcases continues_literal text.toList h with ⟨after, hgroups, hrest⟩
          rw [← hgroups]
          exact ih hnext hown hrest
      | parameter parameter =>
          rw [parametersOf_parameter] at hown ⊢
          have hmark := expressionText_ne_mark segments htail
          rcases continues_parameter (hown parameter List.mem_cons_self) hnext hmark h with
            ⟨item, hitem, hrest⟩
          rcases ih (Nat.add_pos_left hnext _)
            (fun other hother => hown other (List.mem_cons_of_mem _ hother)) hrest with
            ⟨next', level', hgroups, hend⟩
          refine ⟨next', level', hgroups.trans ?_, hend⟩
          rw [Level.groupsInside_pushed, hitem, List.append_assoc]
          rfl

/-- What stands at the end of an expression. -/
def endingText : List Char := ['[', '/', '#', '?', ']', '?', '$']

/-- Behind the last segment one delimiter may follow, and then the end. -/
theorem continues_ending (h : Continues next level outer endingText final) :
    final.level.groupsInside = level.groupsInside := by
  have hset : exists set, Bracket.read baseSetting ['/', '#', '?', ']', '?', '$'] =
      some (set, ['?', '$']) := ⟨_, rfl⟩
  rcases hset with ⟨set, hset⟩
  have hbracket : Continues next (level.pushed (.char set)) outer ['?', '$'] final := by
    refine Continues.of_step h fun names => ?_
    simp only [Reader.step, hset]
    rfl
  have hoptional := hbracket.repeated .optional fun rest heq => by cases heq
  have hend := hoptional.anchor (Or.inr ⟨rfl, rfl⟩)
  rcases hend.done with ⟨names, rfl⟩
  simp only [Level.groupsInside_pushed, groups, List.append_nil]

theorem toList_expression (pattern : PathPattern) :
    pattern.expression.toList =
      '^' :: (expressionText pattern.segments ++ endingText) := by
  have hjoin := Text.toList_join_empty (pattern.segments.map segmentExpression)
  rw [List.flatMap_map] at hjoin
  unfold expression expressionText
  have hending : "[/#?]?$".toList = endingText := by
    decide +kernel
  rw [String.toList_append, String.toList_append, hjoin, hending]
  rfl

/-- The groups of an expression that was read are those of the parameters. -/
theorem groups_of_read {own : Parameter -> Regex} {pattern : PathPattern} {regex : Regex}
    (hown : forall parameter, parameter ∈ pattern.parameters ->
      own? parameter.pattern = some (own parameter))
    (h : Regex.read? pattern.expression = some regex) :
    regex.groups = groupsFrom own 1 pattern.parameters := by
  rcases exists_ends_of_read h with ⟨final, hends, hreads⟩
  rw [toList_expression] at hends
  have hstart : Continues 1 (.start none baseSetting) []
      ('^' :: (expressionText pattern.segments ++ endingText)) final := ⟨[], hends⟩
  have hanchor := hstart.anchor (Or.inl ⟨rfl, rfl⟩)
  have hmark : forall rest, endingText ≠ '?' :: rest := by
    intro rest heq
    cases heq
  rcases continues_segments Nat.one_pos hown hmark hanchor with ⟨next, level, hgroups, hend⟩
  rw [← hreads.inside_eq, Level.groups_inside, continues_ending hend, hgroups]
  rfl

/-!
# The scan for groups

Patterns with a group whose text would be kept are refused.  They are looked for by a scan of the
text, which takes each parenthesis that a question mark follows for one that keeps nothing.  So it
finds all such groups but those with a name.
-/

open Regex.Reader

variable {reader result : Reader} {cs rest : List Char} {setting : Setting} {text : String}

/-- Whether a text has a parenthesis that may open a group with a name. -/
def MayName (cs : List Char) : Prop := ['(', '?', '<'] <:+: cs ∨ ['(', '?', 'P', '<'] <:+: cs

instance (cs : List Char) : Decidable (MayName cs) :=
  inferInstanceAs (Decidable (_ ∨ _))

theorem isSuffix_of_passed (h : Passed cs rest) : rest <:+ cs := by
  induction h with
  | refl =>
      exact List.suffix_refl _
  | char _ _ ih =>
      exact ih.trans (List.suffix_cons _ _)
  | escape _ ih =>
      exact ih.trans ((List.suffix_cons _ _).trans (List.suffix_cons _ _))

theorem MayName.of_passed (h : Passed cs rest) (hrest : MayName rest) : MayName cs := by
  have hsuffix := (isSuffix_of_passed h).isInfix
  exact hrest.imp (fun hinfix => hinfix.trans hsuffix) fun hinfix => hinfix.trans hsuffix

/-- Behind whole escapes the scan finds no group that it does not find from the start. -/
theorem hasGroup_of_passed (h : Passed cs rest) (hscan : hasGroup cs = false) :
    hasGroup rest = false := by
  induction h with
  | refl =>
      exact hscan
  | char hc _ ih =>
      rename_i c cs rest _
      refine ih ?_
      unfold hasGroup at hscan
      split at hscan
      · rename_i heq
        cases heq
      · rename_i heq
        cases heq
        exact absurd rfl hc
      · rename_i heq
        cases heq
        exact absurd rfl hc
      · rename_i heq
        cases heq
        simpa [hasGroup] using hscan
      · cases hscan
      · rename_i heq
        cases heq
        exact hscan
  | escape _ ih =>
      rename_i c cs rest _
      exact ih (by simpa [hasGroup] using hscan)

/-- Where the scan finds no group, a parenthesis opens one with a name or keeps nothing. -/
theorem mayName_of_keeps (hscan : hasGroup ('(' :: cs) = false) (h : Keeps (setting.skip cs)) :
    MayName ('(' :: cs) := by
  have hmark : exists rest, cs = '?' :: rest := by
    unfold hasGroup at hscan
    split at hscan
    · rename_i heq
      cases heq
    · rename_i heq
      cases heq
    · rename_i heq
      cases heq
    · rename_i heq
      cases heq
      exact ⟨_, rfl⟩
    · cases hscan
    · rename_i hopen heq
      cases heq
      exact absurd rfl hopen
  rcases hmark with ⟨rest, rfl⟩
  have hskip : setting.skip ('?' :: rest) = '?' :: rest := by
    unfold Setting.skip
    split <;> rfl
  rw [hskip] at h
  rcases h with hnot | ⟨more, heq⟩ | ⟨more, heq⟩
  · exact absurd rfl (hnot rest)
  · rw [heq]
    exact Or.inl (List.prefix_append ['(', '?', '<'] more).isInfix
  · rw [heq]
    exact Or.inr (List.prefix_append ['(', '?', 'P', '<'] more).isInfix

theorem next_of_apply {move : Move} (h : move.apply reader = some result)
    (hopens : move.opens = false) : result.next = reader.next := by
  cases move with
  | char | anchor | put | openPlain | branch =>
      cases h
      rfl
  | openNumbered | openNamed =>
      cases hopens
  | close =>
      exact (numbers_closeGroup h).1
  | repeatLast least most greedy =>
      rw [Move.apply, repeatLast] at h
      split at h <;> cases h
      rfl

/-- Without names no group takes a number in a text where the scan finds none. -/
theorem next_of_ends (h : Ends reader cs final) (hscan : hasGroup cs = false)
    (hname : ¬ MayName cs) : final.next = reader.next := by
  induction h with
  | done =>
      rfl
  | step hskip hstep hrest ih =>
      rename_i reader next final c cs rest behind
      have hpassed := passed_skip hskip
      have hscanNext := hasGroup_of_passed hpassed hscan
      have hnameNext : ¬ MayName (c :: rest) := fun hmay => hname (hmay.of_passed hpassed)
      rcases exists_move hstep with ⟨move, hkeeps, hfound, _⟩
      have hopens : move.opens = false := by
        rw [Bool.eq_false_iff]
        intro hopen
        rcases hkeeps hopen with ⟨rfl, hkeep⟩
        exact hnameNext (mayName_of_keeps hscanNext hkeep)
      have hsame := next_of_apply hfound hopens
      -- The scan goes over the same text as the steps do, as no step ends inside an escape.
      rcases (step_append hstep).1 with rfl | hbehind
      · cases hrest with
        | done =>
            exact hsame
        | step hnone =>
            rw [skip_nil] at hnone
            cases hnone
      · exact (ih (hasGroup_of_passed hbehind hscanNext)
          fun hmay => hnameNext (hmay.of_passed hbehind)).trans hsame

/-- An expression has no groups if the scan finds none in its text and none has a name. -/
theorem groups_of_hasGroup (h : read? text = some own) (hscan : hasGroup text.toList = false)
    (hname : ¬ MayName text.toList) : own.groups = [] := by
  rcases exists_ends_of_read h with ⟨final, hends, hreads⟩
  have hnext := next_of_ends hends hscan hname
  rw [hreads.next_eq] at hnext
  exact List.eq_nil_of_length_eq_zero (Nat.succ_injective hnext)

end PathPattern
end Docloom
