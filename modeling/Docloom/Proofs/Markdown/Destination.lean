import Docloom.Node.Writer
import Docloom.Proofs.Markdown.Decoding
import Mathlib.Data.List.Basic

/-!
# Destinations of links

A url is written as the destination of a link with nothing escaped in it, and a reader decodes it.
It stands in angle brackets if it has white space in it or not as many opening as closing
parentheses.  So it is read as it was just if there is nothing to decode in it, and nothing in it
ends it or goes on behind it.
-/

namespace Docloom
namespace Markdown

open Writer

/-!
# Reading destinations
-/

/-- A text up to the first character at which it stops, and the rest.  Escaped punctuation stops
nothing. -/
def readUpTo (stops : Char -> Bool) : Bool -> List Char -> List Char × List Char
  | _, [] => ([], [])
  | escaped, c :: cs =>
      if stops c && !(escaped && Text.isAsciiPunctuation c) then
        ([], c :: cs)
      else
        let (before, after) := readUpTo stops (!escaped && c == '\\') cs
        (c :: before, after)

def isAsciiControl (c : Char) : Bool := c.toNat < 32 || c.toNat == 127

/-- A destination without brackets, inside `depth` parentheses, and the rest. -/
def readBare : Nat -> Bool -> List Char -> Option (List Char × List Char)
  | depth, _, [] => if depth = 0 then some ([], []) else none
  | depth, escaped, c :: cs =>
      if c = ' ' ∨ isAsciiControl c = true then
        if depth = 0 then some ([], c :: cs) else none
      else if escaped = false ∧ c = ')' then
        if depth = 0 then
          some ([], c :: cs)
        else
          (readBare (depth - 1) false cs).map fun found => (c :: found.1, found.2)
      else
        (readBare (if escaped = false ∧ c = '(' then depth + 1 else depth)
          (!escaped && c == '\\') cs).map fun found => (c :: found.1, found.2)

/-- What ends a destination in brackets, or may not stand in it. -/
def isBracketStop (c : Char) : Bool := c == '<' || c == '>' || c == '\n' || c == '\r'

/-- A destination, decoded, and the rest. -/
def readDestination (cs : List Char) : Option (List Char × List Char) :=
  if cs.head? = some '<' then
    let (body, rest) := readUpTo isBracketStop false cs.tail
    if rest.head? = some '>' then some (decodedText body, rest.tail) else none
  else
    match readBare 0 false cs with
    | some (body, rest) => if body = [] then none else some (decodedText body, rest)
    | none => none

/-!
# Urls that are kept
-/

/-- The number of parentheses that are open behind a text, if none is closed before it is open. -/
def openParens : Nat -> List Char -> Option Nat
  | depth, [] => some depth
  | depth, c :: cs =>
      if c = '(' then
        openParens (depth + 1) cs
      else if c = ')' then
        if depth = 0 then none else openParens (depth - 1) cs
      else
        openParens depth cs

/-- Whether the destination of a link is written in brackets. -/
def InBrackets (url : List Char) : Prop :=
  url = [] ∨ (exists c, c ∈ url ∧ (Text.isBlank c = true ∨ Text.isControl c = true)) ∨
    url.count '(' ≠ url.count ')'

theorem inBrackets_iff {url : List Char} :
    (url.isEmpty || url.any (fun c => Text.isBlank c || Text.isControl c) ||
      decide (url.count '(' ≠ url.count ')')) = true ↔ InBrackets url := by
  simp [InBrackets, or_assoc]

instance (url : List Char) : Decidable (InBrackets url) := decidable_of_iff _ inBrackets_iff

/-- Whether a url is read as it was where it is written before `follow`. -/
structure KeepsUrl (url follow : List Char) : Prop where
  literal : Literal url
  bracketed : InBrackets url -> '<' ∉ url ∧ '>' ∉ url ∧ url.getLast? ≠ some '\\'
  bare : ¬ InBrackets url -> url.head? ≠ some '<' ∧ openParens 0 url = some 0 ∧
    (url.getLast? = some '\\' -> follow.head? ≠ some ')')

/-- Whether a text ends the url before it: it is the end of a line, or begins with the space before
a title or with the parenthesis behind a link. -/
def EndsUrl (follow : List Char) : Prop :=
  follow = [] ∨ exists c rest, follow = c :: rest ∧ c ∈ [' ', ')', '\n', '\r']

section Stops

variable {stops p : Char -> Bool} {escaped : Bool} {cs ds rest : List Char} {c stop : Char}

theorem readUpTo_append (stops : Char -> Bool) (escaped : Bool) (cs : List Char) :
    (readUpTo stops escaped cs).1 ++ (readUpTo stops escaped cs).2 = cs := by
  induction cs generalizing escaped with
  | nil =>
      rfl
  | cons c cs ih =>
      rw [readUpTo]
      split
      · rfl
      · exact congrArg (c :: ·) (ih _)

/-- A character that nothing stops at is read. -/
theorem readUpTo_cons_iff (hc : (stops c && !(escaped && Text.isAsciiPunctuation c)) = false)
    (ds : List Char) : readUpTo stops escaped (c :: cs) = (c :: ds, rest) ↔
      readUpTo stops (!escaped && c == '\\') cs = (ds, rest) := by
  rw [readUpTo, hc, if_neg Bool.false_ne_true, Prod.mk.injEq, List.cons.injEq, Prod.ext_iff]
  simp

/-- Punctuation is not escaped where what is escaped does not begin with punctuation. -/
theorem not_escaped_of_head
    (h : escaped = true -> (c :: cs).head?.any Text.isAsciiPunctuation = false)
    (hc : Text.isAsciiPunctuation c = true) : escaped = false := by
  rw [Bool.eq_false_iff]
  intro hescaped
  have hhead : Text.isAsciiPunctuation c = false := h hescaped
  rw [hc] at hhead
  cases hhead

/-- There every backslash escapes what is behind it. -/
theorem escapes_of_head
    (h : escaped = true -> (c :: cs).head?.any Text.isAsciiPunctuation = false) :
    (!escaped && c == '\\') = (c == '\\') := by
  by_cases hc : c = '\\'
  · rw [not_escaped_of_head h (by rw [hc]; decide)]
    rfl
  · rw [beq_false_of_ne hc, Bool.and_false]

/-- A backslash that escapes nothing goes before no punctuation. -/
theorem not_punctuation_of_literal (h : Literal (c :: cs)) (hc : (c == '\\') = true) :
    cs.head?.any Text.isAsciiPunctuation = false := by
  have hspecial := (literal_cons_iff.mp h).1
  rwa [eq_of_beq hc, special?_backslash_iff] at hspecial

theorem readUpTo_plain_iff (hc : p c = false) :
    readUpTo stops escaped (escapedText p (c :: cs) ++ ds) = (escapedText p (c :: cs), rest) ↔
      (stops c && !(escaped && Text.isAsciiPunctuation c)) = false ∧
        readUpTo stops (!escaped && c == '\\') (escapedText p cs ++ ds) =
          (escapedText p cs, rest) := by
  rw [escapedText_cons_of_neg hc, List.cons_append]
  cases hstop : stops c && !(escaped && Text.isAsciiPunctuation c) with
  | true =>
      rw [readUpTo, hstop, if_pos rfl]
      simp
  | false =>
      rw [readUpTo_cons_iff hstop]
      simp

/-- An escaped quote is read if its backslash is not escaped itself. -/
theorem readUpTo_quote_iff (hbackslash : stops '\\' = false) (hquote : stops '"' = true)
    (hc : p '"' = true) :
    readUpTo stops escaped (escapedText p ('"' :: cs) ++ ds) =
        (escapedText p ('"' :: cs), rest) ↔
      escaped = false ∧
        readUpTo stops false (escapedText p cs ++ ds) = (escapedText p cs, rest) := by
  have hplain : (stops '\\' && !(escaped && Text.isAsciiPunctuation '\\')) = false := by
    rw [hbackslash, Bool.false_and]
  rw [escapedText_cons_of_pos hc, List.cons_append, readUpTo_cons_iff hplain, List.cons_append]
  cases escaped with
  | true =>
      have hstop : (stops '"' && !((!true && '\\' == '\\') && Text.isAsciiPunctuation '"')) =
          true := by
        rw [hquote]
        rfl
      rw [readUpTo, hstop, if_pos rfl]
      simp
  | false =>
      have hescaped : (stops '"' && !((!false && '\\' == '\\') && Text.isAsciiPunctuation '"')) =
          false := by
        rw [hquote]
        decide
      rw [readUpTo_cons_iff hescaped]
      simp

/-- A text whose quotes are escaped is read to its end only if no backslash of its own is before a
quote. -/
theorem guarded_of_readUpTo (hp : forall c, p c = true -> c = '"')
    (hbackslash : stops '\\' = false) (hquote : stops '"' = true)
    (h : readUpTo stops escaped (escapedText p cs ++ ds) = (escapedText p cs, rest)) :
    Guarded p escaped cs := by
  induction cs generalizing escaped with
  | nil =>
      trivial
  | cons c cs ih =>
      cases hc : p c with
      | true =>
          obtain rfl := hp c hc
          rcases (readUpTo_quote_iff hbackslash hquote hc).mp h with ⟨hescaped, hrest⟩
          refine ⟨fun _ => hescaped, ?_⟩
          have hstate : (!escaped && '"' == '\\') = false := by simp
          rw [hstate]
          exact ih hrest
      | false =>
          rcases (readUpTo_plain_iff hc).mp h with ⟨_, hrest⟩
          refine ⟨?_, ih hrest⟩
          intro hpos
          rw [hc] at hpos
          cases hpos

/-- A text with nothing to decode in it is read to its end just if nothing in it stops, and no
backslash is before its end. -/
theorem readUpTo_iff (hp : forall c, p c = true -> c = '"' ∧ stops '"' = true)
    (hbackslash : stops '\\' = false) (hstop : stops stop = true)
    (hpunctuation : Text.isAsciiPunctuation stop = true) (hliteral : Literal cs)
    (hstops : forall c, c ∈ cs -> stops c = true -> Text.isAsciiPunctuation c = true)
    (hescaped : escaped = true -> cs.head?.any Text.isAsciiPunctuation = false) :
    readUpTo stops escaped (escapedText p cs ++ stop :: rest) =
        (escapedText p cs, stop :: rest) ↔
      (forall c, c ∈ cs -> stops c = true -> p c = true) ∧ (cs = [] -> escaped = false) ∧
        cs.getLast? ≠ some '\\' := by
  induction cs generalizing escaped with
  | nil =>
      rw [escapedText, List.flatMap_nil, List.nil_append, readUpTo, hstop, hpunctuation]
      cases escaped <;> simp
  | cons c cs ih =>
      have hlast : (c :: cs).getLast? ≠ some '\\' ↔
          (cs = [] -> c ≠ '\\') ∧ cs.getLast? ≠ some '\\' := by
        cases cs with
        | nil =>
            simp
        | cons d cs =>
            rw [List.getLast?_cons_cons]
            simp
      have hbelow := literal_cons_iff.mp hliteral
      have hrest : forall d, d ∈ cs -> stops d = true -> Text.isAsciiPunctuation d = true :=
        fun d hd => hstops d (List.mem_cons_of_mem _ hd)
      rw [hlast, List.forall_mem_cons]
      cases hc : p c with
      | true =>
          obtain ⟨rfl, hquote⟩ := hp c hc
          have hstate : escaped = false := not_escaped_of_head hescaped (by decide)
          rw [readUpTo_quote_iff hbackslash hquote hc, ih hbelow.2 hrest fun h => by cases h]
          simp [hstate]
      | false =>
          have hstopped : (stops c && !(escaped && Text.isAsciiPunctuation c)) = stops c := by
            cases hstopc : stops c with
            | true =>
                rw [not_escaped_of_head hescaped (hstops c List.mem_cons_self hstopc)]
                rfl
            | false =>
                rfl
          rw [readUpTo_plain_iff hc, escapes_of_head hescaped, hstopped,
            ih hbelow.2 hrest (not_punctuation_of_literal hliteral)]
          simp [and_assoc]

end Stops

section Bare

variable {escaped : Bool} {depth : Nat} {cs follow : List Char} {c : Char}

/-- Whether a backslash stands before what follows a text. -/
def lastEscapes (escaped : Bool) (cs : List Char) : Bool :=
  match cs.getLast? with
  | none => escaped
  | some c => c == '\\'

theorem lastEscapes_cons (escaped : Bool) (c : Char) (cs : List Char) :
    lastEscapes escaped (c :: cs) = lastEscapes (c == '\\') cs := by
  cases cs with
  | nil =>
      rfl
  | cons d cs =>
      rw [lastEscapes, lastEscapes, List.getLast?_cons_cons]
      rfl

theorem lastEscapes_iff : lastEscapes false cs = true ↔ cs.getLast? = some '\\' := by
  unfold lastEscapes
  cases cs.getLast? with
  | none =>
      simp
  | some c =>
      simp

theorem map_cons_eq_iff {found : Option (List Char × List Char)} :
    found.map (fun found => (c :: found.1, found.2)) = some (c :: cs, follow) ↔
      found = some (cs, follow) := by
  cases found with
  | none =>
      simp
  | some found =>
      simp [Prod.ext_iff]

/-- A text with nothing to decode in it is read as a destination just if no parenthesis is closed
in it before it is open, and what follows ends it. -/
theorem readBare_iff (hliteral : Literal cs)
    (hplain : forall c, c ∈ cs -> c ≠ ' ' ∧ isAsciiControl c = false)
    (hescaped : escaped = true -> cs.head?.any Text.isAsciiPunctuation = false) :
    readBare depth escaped (cs ++ follow) = some (cs, follow) ↔
      exists found, openParens depth cs = some found ∧
        readBare found (lastEscapes escaped cs) follow = some ([], follow) := by
  induction cs generalizing depth escaped with
  | nil =>
      simp [openParens, lastEscapes]
  | cons c cs ih =>
      have hbelow := literal_cons_iff.mp hliteral
      have hrest := fun d hd => hplain d (List.mem_cons_of_mem _ hd)
      have hnone : ¬ (c = ' ' ∨ isAsciiControl c = true) := by
        have hc := hplain c List.mem_cons_self
        rw [not_or, Bool.not_eq_true]
        exact hc
      rw [List.cons_append, readBare, if_neg hnone, lastEscapes_cons, openParens]
      by_cases hclose : c = ')'
      · subst hclose
        have hstate : escaped = false := not_escaped_of_head hescaped (by decide)
        have hother : ¬ ')' = '(' := by decide
        rw [if_pos ⟨hstate, rfl⟩, if_neg hother, if_pos (rfl : ')' = ')')]
        cases depth with
        | zero =>
            simp
        | succ depth =>
            rw [if_neg (Nat.succ_ne_zero depth), map_cons_eq_iff,
              ih hbelow.2 hrest fun h => by cases h]
            rfl
      · have hopen : (escaped = false ∧ c = '(') ↔ c = '(' := by
          refine ⟨And.right, ?_⟩
          rintro rfl
          exact ⟨not_escaped_of_head hescaped (by decide), rfl⟩
        rw [if_neg (fun h => hclose h.2), if_neg hclose, map_cons_eq_iff,
          escapes_of_head hescaped, ih hbelow.2 hrest (not_punctuation_of_literal hliteral)]
        simp only [hopen]
        split <;> rfl

/-- What follows a url ends it outside of parentheses, unless it is a parenthesis behind a
backslash. -/
theorem readBare_follow_iff (h : EndsUrl follow) :
    readBare depth escaped follow = some ([], follow) ↔
      depth = 0 ∧ (follow.head? = some ')' -> escaped = false) := by
  rcases h with rfl | ⟨c, rest, rfl, hc⟩
  · rw [readBare]
    simp
  · by_cases hclose : c = ')'
    · subst hclose
      rw [readBare, if_neg (by decide)]
      cases escaped with
      | true =>
          rw [if_neg (by simp)]
          simp
      | false =>
          rw [if_pos ⟨rfl, rfl⟩]
          cases depth with
          | zero =>
              simp
          | succ depth =>
              simp
    · have hspace : c = ' ' ∨ isAsciiControl c = true := by
        simp only [List.mem_cons, List.not_mem_nil, or_false] at hc
        rcases hc with rfl | rfl | rfl | rfl
        · exact Or.inl rfl
        · exact absurd rfl hclose
        · exact Or.inr (by decide)
        · exact Or.inr (by decide)
      rw [readBare, if_pos hspace]
      simp [hclose]

theorem append_of_map_cons {found : Option (List Char × List Char)} {before after : List Char}
    (hfound : forall first second, found = some (first, second) -> first ++ second = cs)
    (h : found.map (fun found => (c :: found.1, found.2)) = some (before, after)) :
    before ++ after = c :: cs := by
  rcases Option.map_eq_some_iff.mp h with ⟨⟨first, second⟩, hfirst, heq⟩
  cases heq
  exact congrArg (c :: ·) (hfound first second hfirst)

theorem readBare_append {before after : List Char}
    (h : readBare depth escaped cs = some (before, after)) : before ++ after = cs := by
  induction cs generalizing depth escaped before after with
  | nil =>
      rw [readBare] at h
      split at h <;> cases h
      rfl
  | cons c cs ih =>
      rw [readBare] at h
      split at h
      · split at h <;> cases h
        rfl
      · split at h
        · split at h
          · cases h
            rfl
          · exact append_of_map_cons (fun _ _ hfound => ih hfound) h
        · exact append_of_map_cons (fun _ _ hfound => ih hfound) h

end Bare

/-!
# Urls as they are read
-/

section Destinations

variable {url : String} {cs follow : List Char}

theorem toList_destination_of_inBrackets (h : InBrackets url.toList) :
    (destination url).toList = '<' :: (url.toList ++ ['>']) := by
  rw [← inBrackets_iff] at h
  unfold destination
  dsimp only
  rw [if_pos h]
  simp

theorem toList_destination_of_bare (h : ¬ InBrackets url.toList) :
    (destination url).toList = url.toList := by
  rw [← inBrackets_iff] at h
  unfold destination
  dsimp only
  rw [if_neg h]

theorem readDestination_bracket_iff {ds rest : List Char} :
    readDestination ('<' :: cs) = some (ds, rest) ↔
      exists body, readUpTo isBracketStop false cs = (body, '>' :: rest) ∧
        decodedText body = ds := by
  have hhead : ('<' :: cs).head? = some '<' := rfl
  unfold readDestination
  rw [if_pos hhead, List.tail_cons]
  rcases hread : readUpTo isBracketStop false cs with ⟨body, more⟩
  dsimp only
  constructor
  · intro h
    split at h
    · rename_i hhead
      cases h
      rcases List.head?_eq_some_iff.mp hhead with ⟨others, rfl⟩
      exact ⟨body, rfl, rfl⟩
    · cases h
  · rintro ⟨found, heq, rfl⟩
    cases heq
    rfl

theorem readDestination_bare_iff (h : cs.head? ≠ some '<') {ds rest : List Char} :
    readDestination cs = some (ds, rest) ↔
      exists body, body ≠ [] ∧ readBare 0 false cs = some (body, rest) ∧ decodedText body = ds := by
  unfold readDestination
  rw [if_neg h]
  constructor
  · intro hread
    split at hread
    · rename_i body more hbare
      split at hread
      · cases hread
      · rename_i hne
        cases hread
        exact ⟨body, hne, hbare, rfl⟩
    · cases hread
  · rintro ⟨body, hne, hbare, rfl⟩
    rw [hbare]
    dsimp only
    rw [if_neg hne]

theorem isBracketStop_cases {c : Char} (h : isBracketStop c = true) :
    c = '<' ∨ c = '>' ∨ c = '\n' ∨ c = '\r' := by
  simpa [isBracketStop, or_assoc] using h

/-- A url with nothing to decode in it is read up to the bracket that closes it just if it has no
angle bracket and no backslash at its end. -/
theorem readUpTo_bracket_iff (hliteral : Literal cs)
    (hbreaks : forall c, c ∈ cs -> c ≠ '\n' ∧ c ≠ '\r') :
    readUpTo isBracketStop false (cs ++ '>' :: follow) = (cs, '>' :: follow) ↔
      '<' ∉ cs ∧ '>' ∉ cs ∧ cs.getLast? ≠ some '\\' := by
  have hcases : forall c, c ∈ cs -> isBracketStop c = true -> c = '<' ∨ c = '>' := by
    intro c hc hstop
    rcases isBracketStop_cases hstop with hopen | hclose | hnewline | hreturn
    · exact Or.inl hopen
    · exact Or.inr hclose
    · exact absurd hnewline (hbreaks c hc).1
    · exact absurd hreturn (hbreaks c hc).2
  have hstops : forall c, c ∈ cs -> isBracketStop c = true ->
      Text.isAsciiPunctuation c = true := by
    intro c hc hstop
    rcases hcases c hc hstop with rfl | rfl
    · decide
    · decide
  have hiff : readUpTo isBracketStop false (escapedText (fun _ => false) cs ++ '>' :: follow) =
      (escapedText (fun _ => false) cs, '>' :: follow) ↔ _ :=
    readUpTo_iff (fun c hc => by cases hc) (by decide) (by decide) (by decide) hliteral hstops
      (fun h => by cases h)
  rw [escapedText_none] at hiff
  rw [hiff]
  constructor
  · rintro ⟨hnone, _, hlast⟩
    refine ⟨?_, ?_, hlast⟩
    · intro hc
      exact absurd (hnone _ hc (by decide)) Bool.false_ne_true
    · intro hc
      exact absurd (hnone _ hc (by decide)) Bool.false_ne_true
  · rintro ⟨hopen, hclose, hlast⟩
    refine ⟨?_, fun _ => rfl, hlast⟩
    intro c hc hstop
    exfalso
    rcases hcases c hc hstop with rfl | rfl
    · exact hopen hc
    · exact hclose hc

/-- What is read in brackets is the url that was written there. -/
theorem readDestination_of_inBrackets (h : InBrackets url.toList)
    (hbreaks : forall c, c ∈ url.toList -> c ≠ '\n' ∧ c ≠ '\r') :
    readDestination ((destination url).toList ++ follow) = some (url.toList, follow) ↔
      Literal url.toList ∧ '<' ∉ url.toList ∧ '>' ∉ url.toList ∧
        url.toList.getLast? ≠ some '\\' := by
  rw [toList_destination_of_inBrackets h, List.cons_append, List.append_assoc,
    List.singleton_append, readDestination_bracket_iff]
  constructor
  · rintro ⟨body, hbody, hdecoded⟩
    have hsplit := readUpTo_append isBracketStop false (url.toList ++ '>' :: follow)
    rw [hbody] at hsplit
    have hsame : body = url.toList := List.append_cancel_right hsplit
    rw [hsame] at hbody hdecoded
    have hliteral := decodedText_eq_self_iff.mp hdecoded
    exact ⟨hliteral, (readUpTo_bracket_iff hliteral hbreaks).mp hbody⟩
  · rintro ⟨hliteral, hkept⟩
    exact ⟨url.toList, (readUpTo_bracket_iff hliteral hbreaks).mpr hkept,
      decodedText_eq_self_iff.mpr hliteral⟩

/-- A url that begins like a destination in brackets is not read as it was. -/
theorem readDestination_of_bracket (hhead : url.toList.head? = some '<') :
    readDestination (url.toList ++ follow) ≠ some (url.toList, follow) := by
  rcases List.head?_eq_some_iff.mp hhead with ⟨cs, hcs⟩
  rw [hcs, List.cons_append, ne_eq, readDestination_bracket_iff]
  rintro ⟨body, hbody, hdecoded⟩
  have hsplit := congrArg List.length (readUpTo_append isBracketStop false (cs ++ follow))
  have hlength := length_decodedText_le body
  rw [hbody] at hsplit
  rw [hdecoded] at hlength
  simp only [List.length_append, List.length_cons] at hsplit hlength
  omega

/-- A url that is not written in brackets has no space and no control character in it. -/
theorem plain_of_not_inBrackets (h : ¬ InBrackets cs) {c : Char} (hc : c ∈ cs) :
    c ≠ ' ' ∧ isAsciiControl c = false := by
  have hneither : ¬ (Text.isBlank c = true ∨ Text.isControl c = true) :=
    fun hc' => h (Or.inr (Or.inl ⟨c, hc, hc'⟩))
  rw [not_or] at hneither
  constructor
  · rintro rfl
    exact hneither.1 (by decide)
  · rw [Bool.eq_false_iff]
    intro hcontrol
    apply hneither.2
    unfold isAsciiControl at hcontrol
    unfold Text.isControl
    rw [Bool.or_eq_true, decide_eq_true_eq, beq_iff_eq] at hcontrol
    rw [Bool.or_eq_true, Bool.and_eq_true, decide_eq_true_eq, decide_eq_true_eq,
      decide_eq_true_eq]
    omega

/-- A url with nothing to decode in it is read up to what ends it just if its parentheses are
balanced and no backslash of it stands before the parenthesis that ends it. -/
theorem readBare_bare_iff (h : ¬ InBrackets cs) (hliteral : Literal cs)
    (hfollow : EndsUrl follow) :
    readBare 0 false (cs ++ follow) = some (cs, follow) ↔
      openParens 0 cs = some 0 ∧
        (cs.getLast? = some '\\' -> follow.head? ≠ some ')') := by
  rw [readBare_iff hliteral (fun _ hc => plain_of_not_inBrackets h hc) fun h => by cases h]
  simp only [readBare_follow_iff hfollow]
  constructor
  · rintro ⟨found, hfound, rfl, hlast⟩
    refine ⟨hfound, ?_⟩
    intro hescape hparenthesis
    rw [lastEscapes_iff.mpr hescape] at hlast
    cases hlast hparenthesis
  · rintro ⟨hfound, hlast⟩
    refine ⟨0, hfound, rfl, ?_⟩
    intro hparenthesis
    rw [Bool.eq_false_iff, ne_eq, lastEscapes_iff]
    exact fun hescape => hlast hescape hparenthesis

/-- What is read without brackets is the url that was written. -/
theorem readDestination_of_bare (h : ¬ InBrackets url.toList) (hhead : url.toList.head? ≠ some '<')
    (hfollow : EndsUrl follow) :
    readDestination ((destination url).toList ++ follow) = some (url.toList, follow) ↔
      Literal url.toList ∧ openParens 0 url.toList = some 0 ∧
        (url.toList.getLast? = some '\\' -> follow.head? ≠ some ')') := by
  have hne : url.toList ≠ [] := fun hnil => h (Or.inl hnil)
  have hstart : (url.toList ++ follow).head? ≠ some '<' := by
    rwa [List.head?_append_of_ne_nil _ hne]
  rw [toList_destination_of_bare h, readDestination_bare_iff hstart]
  constructor
  · rintro ⟨body, _, hbody, hdecoded⟩
    have hsame : body = url.toList := List.append_cancel_right (readBare_append hbody)
    rw [hsame] at hbody hdecoded
    have hliteral := decodedText_eq_self_iff.mp hdecoded
    exact ⟨hliteral, (readBare_bare_iff h hliteral hfollow).mp hbody⟩
  · rintro ⟨hliteral, hkept⟩
    exact ⟨url.toList, hne, (readBare_bare_iff h hliteral hfollow).mpr hkept,
      decodedText_eq_self_iff.mpr hliteral⟩

/-- A url is read as it was just if it is kept. -/
theorem readDestination_iff (hbreaks : forall c, c ∈ url.toList -> c ≠ '\n' ∧ c ≠ '\r')
    (hfollow : EndsUrl follow) :
    readDestination ((destination url).toList ++ follow) = some (url.toList, follow) ↔
      KeepsUrl url.toList follow := by
  by_cases hbrackets : InBrackets url.toList
  · rw [readDestination_of_inBrackets hbrackets hbreaks]
    constructor
    · rintro ⟨hliteral, hkept⟩
      exact ⟨hliteral, fun _ => hkept, fun h => absurd hbrackets h⟩
    · intro h
      exact ⟨h.literal, h.bracketed hbrackets⟩
  · by_cases hhead : url.toList.head? = some '<'
    · rw [toList_destination_of_bare hbrackets]
      apply iff_of_false (readDestination_of_bracket hhead)
      intro h
      exact (h.bare hbrackets).1 hhead
    · rw [readDestination_of_bare hbrackets hhead hfollow]
      constructor
      · rintro ⟨hliteral, hkept⟩
        exact ⟨hliteral, fun h => absurd h hbrackets, fun _ => ⟨hhead, hkept⟩⟩
      · intro h
        exact ⟨h.literal, (h.bare hbrackets).2⟩

end Destinations

end Markdown
end Docloom
