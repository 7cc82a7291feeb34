import Docloom.Proofs.Redirect.Expression
import Docloom.Proofs.Results

/-!
# How patterns are written

The text of a pattern tells its segments: characters stand for themselves or behind a backslash,
and a parameter is written with its name, its own pattern and its modifier, each as long as it can
be, behind the slash or dot that belongs to it.
-/

namespace Docloom
namespace PathPattern

variable {segments : List Segment} {modifier : Modifier} {lead : Option Char} {fuel n depth : Nat}
  {read cs ds own text rest : List Char} {pattern : String}

/-!
# Characters
-/

/-- Whether a character stands for itself in a pattern. -/
def IsPlainChar (c : Char) : Prop := c ≠ '\\' ∧ c ≠ ':' ∧ c ≠ '('

/-- The texts that characters can be written as. -/
inductive WritesChars : List Char -> List Char -> Prop where
  | nil : WritesChars [] []
  | plain {c : Char} {cs text : List Char} (hplain : IsPlainChar c) (hrest : WritesChars cs text) :
      WritesChars (c :: cs) (c :: text)
  | escaped {c : Char} {cs text : List Char} (hrest : WritesChars cs text) :
      WritesChars (c :: cs) ('\\' :: c :: text)

namespace WritesChars

theorem append {other : List Char} (h : WritesChars cs text) (hother : WritesChars ds other) :
    WritesChars (cs ++ ds) (text ++ other) := by
  induction h with
  | nil =>
      exact hother
  | plain hplain _ ih =>
      exact .plain hplain ih
  | escaped _ ih =>
      exact .escaped ih

theorem exists_append (h : WritesChars (cs ++ ds) text) :
    exists first second, text = first ++ second ∧ WritesChars cs first ∧
      WritesChars ds second := by
  induction cs generalizing text with
  | nil =>
      exact ⟨[], text, rfl, .nil, h⟩
  | cons c cs ih =>
      cases h with
      | plain hplain hrest =>
          rcases ih hrest with ⟨first, second, rfl, hfirst, hsecond⟩
          exact ⟨c :: first, second, rfl, .plain hplain hfirst, hsecond⟩
      | escaped hrest =>
          rcases ih hrest with ⟨first, second, rfl, hfirst, hsecond⟩
          exact ⟨'\\' :: c :: first, second, rfl, .escaped hfirst, hsecond⟩

end WritesChars

/-!
# Parts of parameters
-/

/-- A pattern in parentheses is read up to the one that closes it. -/
theorem eq_of_readOwn (h : readOwn depth cs = some (own, rest)) : cs = own ++ ')' :: rest := by
  fun_induction readOwn depth cs generalizing own with
  | case1 | case2 =>
      cases h
  | case3 depth c tail ih | case4 depth tail ih | case6 tail depth ih
  | case7 depth c tail _ _ _ _ ih =>
      rcases Option.map_eq_some_iff.mp h with ⟨⟨own, rest⟩, hread, heq⟩
      cases heq
      rw [ih hread]
      rfl
  | case5 tail =>
      cases h
      rfl

theorem eq_of_readPattern (h : readPattern cs = .ok (pattern, rest)) :
    cs = pattern.toList ++ ')' :: rest := by
  unfold readPattern at h
  split at h
  · cases h
  · rename_i own rest' hown
    split at h
    · cases h
    · cases h
      rw [String.toList_ofList]
      exact eq_of_readOwn hown

/-- A modifier is read where there is one. -/
theorem readModifier_spec (cs : List Char) :
    cs = (readModifier cs).1.text.toList ++ (readModifier cs).2 ∧
      ((readModifier cs).1 = .one ->
        forall c, (readModifier cs).2.head? = some c -> Modifier.ofChar? c = none) := by
  unfold readModifier
  split
  · exact ⟨rfl, fun _ c hc => by cases hc⟩
  · split
    · rename_i hmodifier
      unfold Modifier.ofChar? at hmodifier
      split at hmodifier <;>
        cases hmodifier <;>
        simp [Modifier.text]
    · rename_i hnone
      refine ⟨rfl, ?_⟩
      intro _ d hd
      cases hd
      exact hnone

theorem length_readModifier_le (cs : List Char) : (readModifier cs).2.length ≤ cs.length := by
  have hlength := congrArg List.length (readModifier_spec cs).1
  rw [List.length_append] at hlength
  omega

/-- A slash or a dot at the end of what was read is taken. -/
theorem exists_of_takeLead (hread : WritesChars read.reverse text) :
    exists first second, text = first ++ second ∧
      WritesChars (takeLead read).2.reverse first ∧
      WritesChars (takeLead read).1.toList second := by
  unfold takeLead
  split
  · rw [List.reverse_cons] at hread
    exact hread.exists_append
  · rw [List.reverse_cons] at hread
    exact hread.exists_append
  · exact ⟨text, [], (List.append_nil text).symm, hread, .nil⟩

theorem ne_of_takeLead (h : (takeLead read).1 = none) :
    forall c, (takeLead read).2.head? = some c -> c ≠ '/' ∧ c ≠ '.' := by
  unfold takeLead at h ⊢
  split
  · cases h
  · cases h
  · rename_i hslash hdot
    intro c hc
    cases read with
    | nil =>
        cases hc
    | cons d read =>
        cases hc
        constructor
        · rintro rfl
          exact hslash read rfl
        · rintro rfl
          exact hdot read rfl

/-!
# Segments
-/

/-- Whether characters make up a literal of their own before segments: no literal follows them, and
they keep no slash or dot from a parameter. -/
def StandsBefore (cs : List Char) : List Segment -> Prop
  | [] => True
  | .literal _ :: _ => False
  | .parameter parameter :: _ =>
      parameter.lead = none -> forall c, cs.getLast? = some c -> c ≠ '/' ∧ c ≠ '.'

/-- How the pattern of a named parameter is written before the rest: in parentheses, or not at all
where it is the default one. -/
inductive WritesPattern (pattern : String) (rest : List Char) : List Char -> Prop where
  | own : WritesPattern pattern rest ('(' :: (pattern.toList ++ [')']))
  | default (hpattern : pattern = defaultPattern) (hrest : rest.head? ≠ some '(') :
      WritesPattern pattern rest []

/-- The texts that segments can be written as, where so many parameters without a name stand
before. -/
inductive Writes : Nat -> List Segment -> List Char -> Prop where
  | nil {n : Nat} : Writes n [] []
  /-- A backslash at the end stands for nothing. -/
  | stray {n : Nat} : Writes n [] ['\\']
  | literal {n : Nat} {cs text rest : List Char} {segments : List Segment} (hne : cs ≠ [])
      (hchars : WritesChars cs text) (hstands : StandsBefore cs segments)
      (hrest : Writes n segments rest) :
      Writes n (.literal (String.ofList cs) :: segments) (text ++ rest)
  | named {n : Nat} {lead : Option Char} {leadText name patternText rest : List Char}
      {pattern : String} {modifier : Modifier} {segments : List Segment}
      (hlead : WritesChars lead.toList leadText) (hne : name ≠ [])
      (hname : forall c, c ∈ name -> isNameChar c = true)
      (hend : forall c, (patternText ++ (modifier.text.toList ++ rest)).head? = some c ->
        isNameChar c = false)
      (hpattern : WritesPattern pattern (modifier.text.toList ++ rest) patternText)
      (hmodifier : modifier = .one -> forall c, rest.head? = some c -> Modifier.ofChar? c = none)
      (hrest : Writes n segments rest) :
      Writes n (.parameter ⟨String.ofList name, lead, pattern, modifier⟩ :: segments)
        (leadText ++ ':' :: (name ++ (patternText ++ (modifier.text.toList ++ rest))))
  | unnamed {n : Nat} {lead : Option Char} {leadText rest : List Char} {pattern : String}
      {modifier : Modifier} {segments : List Segment}
      (hlead : WritesChars lead.toList leadText)
      (hmodifier : modifier = .one -> forall c, rest.head? = some c -> Modifier.ofChar? c = none)
      (hrest : Writes (n + 1) segments rest) :
      Writes n (.parameter ⟨toString n, lead, pattern, modifier⟩ :: segments)
        (leadText ++ '(' :: (pattern.toList ++ ')' :: (modifier.text.toList ++ rest)))

theorem writes_literal (hread : WritesChars read.reverse text) (hrest : Writes n segments rest)
    (hstands : StandsBefore read.reverse segments) :
    Writes n (literal read ++ segments) (text ++ rest) := by
  unfold literal
  split
  · rename_i hempty
    rw [List.isEmpty_iff.mp hempty] at hread
    cases hread
    exact hrest
  · rename_i hne
    exact .literal (by simpa using hne) hread hstands hrest

theorem standsBefore_of_takeLead (name pattern : String) (modifier : Modifier) (read : List Char)
    (segments : List Segment) :
    StandsBefore (takeLead read).2.reverse
      (.parameter ⟨name, (takeLead read).1, pattern, modifier⟩ :: segments) := by
  intro hlead c hc
  rw [List.getLast?_reverse] at hc
  exact ne_of_takeLead hlead c hc

/-- A parameter is written behind the literal before it, which is without the lead then. -/
theorem writes_parameter {name : String} {core : List Char} (hread : WritesChars read.reverse text)
    (h : forall leadText, WritesChars (takeLead read).1.toList leadText ->
      Writes n (.parameter ⟨name, (takeLead read).1, pattern, modifier⟩ :: segments)
        (leadText ++ core)) :
    Writes n (literal (takeLead read).2 ++
      .parameter ⟨name, (takeLead read).1, pattern, modifier⟩ :: segments) (text ++ core) := by
  rcases exists_of_takeLead hread with ⟨first, second, rfl, hfirst, hsecond⟩
  rw [List.append_assoc]
  exact writes_literal hfirst (h second hsecond)
    (standsBefore_of_takeLead name pattern modifier read segments)

/-- A name ends where no character of a name follows. -/
theorem exists_name (cs : List Char) :
    exists name tail, cs.takeWhile isNameChar = name ∧ cs.dropWhile isNameChar = tail ∧
      cs = name ++ tail ∧ (forall c, c ∈ name -> isNameChar c = true) ∧
      forall c, tail.head? = some c -> isNameChar c = false := by
  refine ⟨_, _, rfl, rfl, List.takeWhile_append_dropWhile.symm,
    List.all_eq_true.mp List.all_takeWhile, ?_⟩
  intro c hc
  have hnot := List.head?_dropWhile_not isNameChar cs
  rw [hc] at hnot
  simpa using hnot

theorem writes_named {name patternText after leadText : List Char}
    (hlead : WritesChars lead.toList leadText) (hne : name ≠ [])
    (hname : forall c, c ∈ name -> isNameChar c = true)
    (hend : forall c, (patternText ++ after).head? = some c -> isNameChar c = false)
    (hpattern : WritesPattern pattern after patternText)
    (hrest : Writes n segments (readModifier after).2) :
    Writes n (.parameter ⟨String.ofList name, lead, pattern, (readModifier after).1⟩ :: segments)
      (leadText ++ ':' :: (name ++ (patternText ++ after))) := by
  have hafter := readModifier_spec after
  generalize readModifier after = modified at hafter hrest ⊢
  rcases modified with ⟨modifier, rest⟩
  obtain rfl : after = modifier.text.toList ++ rest := hafter.1
  exact .named hlead hne hname hend hpattern hafter.2 hrest

theorem writes_unnamed {after leadText : List Char} (hlead : WritesChars lead.toList leadText)
    (hrest : Writes (n + 1) segments (readModifier after).2) :
    Writes n (.parameter ⟨toString n, lead, pattern, (readModifier after).1⟩ :: segments)
      (leadText ++ '(' :: (pattern.toList ++ ')' :: after)) := by
  have hafter := readModifier_spec after
  generalize readModifier after = modified at hafter hrest ⊢
  rcases modified with ⟨modifier, rest⟩
  obtain rfl : after = modifier.text.toList ++ rest := hafter.1
  exact .unnamed hlead hafter.2 hrest

/-- The segments that are read are written as what they are read from. -/
theorem writes_of_readSegments (h : readSegments fuel n read cs = .ok segments)
    (hfuel : cs.length < fuel) (hread : WritesChars read.reverse text) :
    Writes n segments (text ++ cs) := by
  induction fuel generalizing n read cs segments text with
  | zero =>
      exact absurd hfuel (Nat.not_lt_zero _)
  | succ fuel ih =>
      have hstop : forall rest, Writes n [] rest ->
          Except.ok (literal read) = (Except.ok segments : Except RedirectFault _) ->
            Writes n segments (text ++ rest) := by
        intro rest hrest heq
        cases heq
        have hliteral := writes_literal hread hrest trivial
        rw [List.append_nil] at hliteral
        exact hliteral
      have hgoOn : forall (c : Char) (written rest : List Char), WritesChars [c] written ->
          rest.length < fuel -> readSegments fuel n (c :: read) rest = .ok segments ->
            Writes n segments (text ++ (written ++ rest)) := by
        intro c written rest hwritten hlength hrest
        rw [← List.append_assoc]
        apply ih hrest hlength
        rw [List.reverse_cons]
        exact hread.append hwritten
      have hparameter : forall (count : Nat) (name pattern : String) (after core : List Char),
          (readSegments fuel count [] (readModifier after).2).map (fun below =>
            literal (takeLead read).2 ++
              .parameter ⟨name, (takeLead read).1, pattern, (readModifier after).1⟩ :: below) =
                .ok segments -> after.length < fuel ->
          (forall leadText below, WritesChars (takeLead read).1.toList leadText ->
            Writes count below (readModifier after).2 ->
              Writes n
                (.parameter ⟨name, (takeLead read).1, pattern, (readModifier after).1⟩ :: below)
                (leadText ++ core)) -> Writes n segments (text ++ core) := by
        intro count name pattern after core hmap hlength hwrites
        rcases Results.exists_of_map hmap with ⟨below, hbelow, rfl⟩
        have hrest : Writes count below ([] ++ (readModifier after).2) :=
          ih hbelow (Nat.lt_of_le_of_lt (length_readModifier_le after) hlength) .nil
        exact writes_parameter hread fun leadText hlead => hwrites leadText below hlead hrest
      unfold readSegments at h
      dsimp only at h
      split at h
      · exact hstop [] .nil h
      · exact hstop _ .stray h
      · rename_i c rest
        exact hgoOn c ['\\', c] rest (.escaped .nil) (by simp at hfuel; omega) h
      · rename_i rest
        rcases exists_name rest with ⟨name, tail, htake, hdrop, rfl, hname, hend⟩
        rw [htake, hdrop] at h
        split at h
        · cases h
        · rename_i hempty
          have hne : name ≠ [] := by
            simpa using hempty
          split at h
          · rename_i tail
            rcases Results.exists_of_bind h with ⟨own, hown, h⟩
            have htail : '(' :: tail = '(' :: (own.1.toList ++ [')']) ++ own.2 := by
              simp [eq_of_readPattern hown]
            rw [htail] at hend hfuel ⊢
            apply hparameter _ _ _ own.2 _ h (by simp at hfuel; omega)
            exact fun _ _ hlead hbelow => writes_named hlead hne hname hend .own hbelow
          · rename_i hnone
            have hpattern : WritesPattern defaultPattern tail [] := by
              refine .default rfl ?_
              intro hhead
              rcases List.head?_eq_some_iff.mp hhead with ⟨rest, hrest⟩
              exact hnone rest hrest
            rw [← List.nil_append tail] at hend
            apply hparameter _ _ _ tail _ h (by simp at hfuel; omega)
            exact fun _ _ hlead hbelow => writes_named hlead hne hname hend hpattern hbelow
      · rename_i rest
        rcases Results.exists_of_bind h with ⟨own, hown, hafter⟩
        obtain rfl := eq_of_readPattern hown
        apply hparameter _ _ _ own.2 _ hafter (by simp at hfuel; omega)
        exact fun _ _ hlead hbelow => writes_unnamed hlead hbelow
      · rename_i c rest hstray hescaped hnamed hunnamed
        have hplain : IsPlainChar c := by
          refine ⟨?_, hnamed, hunnamed⟩
          rintro rfl
          cases rest with
          | nil =>
              exact hstray rfl rfl
          | cons d rest =>
              exact hescaped d rest rfl rfl
        exact hgoOn c [c] rest (.plain hplain .nil) (by simpa using hfuel) h

/-- A pattern that is read is written as its source. -/
theorem writes_of_parse {source : String} {parsed : PathPattern}
    (h : PathPattern.parse source = .ok parsed) : Writes 0 parsed.segments source.toList := by
  unfold PathPattern.parse at h
  dsimp only at h
  split at h
  · rename_i segments hread
    cases h
    have hwrites : Writes 0 segments ([] ++ source.toList) :=
      writes_of_readSegments hread (Nat.lt_succ_self _) .nil
    exact hwrites
  · cases h

end PathPattern
end Docloom
