import Docloom.Markdown.Escape
import Docloom.Text.Cut
import Mathlib.Data.List.TakeWhile

/-!
# Decoded text

In urls and titles an escape or a reference stands for a character.  What is decoded is shorter than
what is written, so a text is its own decoding just if there is nothing to decode in it.  Quotes may
be escaped in such a text, and are decoded again.
-/

namespace Docloom
namespace Markdown

/-!
# Escapes and references
-/

/-- A character between the ampersand and the semicolon of a reference. -/
def isReferenceChar (c : Char) : Bool := c.isAlphanum || c == '#'

/-- What a reference stands for, by what is between its ampersand and its semicolon: the number of a
character in one of two bases, or a name. -/
def referenceText? : List Char -> Option (List Char)
  | '#' :: c :: digits =>
      if c = 'x' ∨ c = 'X' then
        if digits ≠ [] ∧ digits.length ≤ 6 ∧ digits.all isHexDigit = true then
          some [numberedCharacter (numeral 16 digits)]
        else
          none
      else if digits.length ≤ 6 ∧ (c :: digits).all Char.isDigit = true then
        some [numberedCharacter (numeral 10 (c :: digits))]
      else
        none
  | name =>
      if name ≠ [] ∧ name.length ≤ 31 ∧ name.all Char.isAlphanum = true then
        (namedCharacter? (String.ofList name)).map String.toList
      else
        none

/-- The escape or the reference that a text begins with: what it stands for, and its size. -/
def special? : List Char -> Option (List Char × Nat)
  | '\\' :: c :: _ => if Text.isAsciiPunctuation c then some ([c], 2) else none
  | '&' :: cs =>
      if (cs.dropWhile isReferenceChar).head? = some ';' then
        (referenceText? (cs.takeWhile isReferenceChar)).map fun text =>
          (text, (cs.takeWhile isReferenceChar).length + 2)
      else
        none
  | _ => none

/-- A text with its escapes and references decoded, behind the first characters. -/
def decodedFrom : Nat -> List Char -> List Char
  | _, [] => []
  | skip + 1, _ :: cs => decodedFrom skip cs
  | 0, c :: cs =>
      match special? (c :: cs) with
      | some (text, size) => text ++ decodedFrom (size - 1) cs
      | none => c :: decodedFrom 0 cs

/-- A text with its escapes and references decoded. -/
def decodedText (cs : List Char) : List Char := decodedFrom 0 cs

/-- Whether there is nothing to decode in a text. -/
def Literal (cs : List Char) : Prop := forall part, part <:+ cs -> special? part = none

section Specials

variable {cs text : List Char} {size : Nat} {c : Char}

theorem special?_cases (h : special? cs = some (text, size)) :
    (exists c rest, cs = '\\' :: c :: rest ∧ Text.isAsciiPunctuation c = true ∧ text = [c] ∧
        size = 2) ∨
      (exists body rest, cs = '&' :: (body ++ ';' :: rest) ∧
        (forall c, c ∈ body -> isReferenceChar c = true) ∧ referenceText? body = some text ∧
        size = body.length + 2) := by
  unfold special? at h
  split at h
  · rename_i c rest
    split at h
    · rename_i hc
      cases h
      exact Or.inl ⟨c, rest, rfl, hc, rfl, rfl⟩
    · cases h
  · rename_i cs
    split at h
    · rename_i hend
      rcases Option.map_eq_some_iff.mp h with ⟨found, hfound, heq⟩
      cases heq
      rcases List.head?_eq_some_iff.mp hend with ⟨rest, hrest⟩
      refine Or.inr ⟨cs.takeWhile isReferenceChar, rest, ?_, ?_, hfound, rfl⟩
      · rw [← hrest, List.takeWhile_append_dropWhile]
      · intro c hc
        exact List.mem_takeWhile_imp hc
    · cases h
  · cases h

/-- No name stands for more than two characters. -/
theorem length_namedCharacter {name found : String} (h : namedCharacter? name = some found) :
    found.toList.length ≤ 2 := by
  have hall : (namedCharacters.all fun group =>
      group.all fun entry => entry.2.toList.length ≤ 2) = true := by
    decide +kernel
  rcases List.exists_of_findSome?_eq_some h with ⟨group, hgroup, hlookup⟩
  rcases List.lookup_eq_some_iff.mp hlookup with ⟨before, after, hentries, _⟩
  have hentry : (name, found) ∈ group := by
    rw [hentries]
    simp
  simpa using List.all_eq_true.mp (List.all_eq_true.mp hall group hgroup) _ hentry

/-- A reference is longer than what it stands for. -/
theorem length_referenceText {body : List Char} (h : referenceText? body = some text) :
    text.length < body.length + 2 := by
  unfold referenceText? at h
  split at h
  · split at h
    · split at h
      · cases h
        simp
      · cases h
    · split at h
      · cases h
        simp
      · cases h
  · split at h
    · rename_i hname
      rcases Option.map_eq_some_iff.mp h with ⟨found, hfound, rfl⟩
      have hlength := length_namedCharacter hfound
      have hpos := List.length_pos_iff.mpr hname.1
      omega
    · cases h

theorem length_special (h : special? cs = some (text, size)) :
    text.length < size ∧ size ≤ cs.length := by
  rcases special?_cases h with ⟨c, rest, rfl, _, rfl, rfl⟩ | ⟨body, rest, rfl, _, hbody, rfl⟩
  · simp
  · have hlength := length_referenceText hbody
    simp
    omega

/-!
# Decoding
-/

theorem decodedFrom_eq (skip : Nat) (cs : List Char) :
    decodedFrom skip cs = decodedText (cs.drop skip) := by
  induction skip generalizing cs with
  | zero =>
      rfl
  | succ skip ih =>
      cases cs with
      | nil =>
          rw [List.drop_nil]
          rfl
      | cons c cs =>
          rw [decodedFrom, ih, List.drop_succ_cons]

theorem decodedText_of_special (h : special? cs = some (text, size)) :
    decodedText cs = text ++ decodedText (cs.drop size) := by
  have hsize := length_special h
  cases cs with
  | nil =>
      cases h
  | cons c cs =>
      rw [decodedText, decodedFrom, h]
      dsimp only
      rw [decodedFrom_eq, ← List.drop_succ_cons, Nat.sub_add_cancel (by omega)]

theorem decodedText_of_plain (h : special? (c :: cs) = none) :
    decodedText (c :: cs) = c :: decodedText cs := by
  rw [decodedText, decodedFrom, h]
  rfl

theorem literal_nil : Literal [] := by
  intro part hpart
  rw [List.suffix_nil.mp hpart]
  rfl

theorem literal_cons_iff : Literal (c :: cs) ↔ special? (c :: cs) = none ∧ Literal cs := by
  constructor
  · intro h
    refine ⟨h _ (List.suffix_refl _), ?_⟩
    intro part hpart
    exact h part (hpart.trans (List.suffix_cons c cs))
  · rintro ⟨hspecial, h⟩ part hpart
    rcases List.suffix_cons_iff.mp hpart with rfl | hpart
    · exact hspecial
    · exact h part hpart

theorem special?_of_ne (hescape : c ≠ '\\') (hreference : c ≠ '&') (cs : List Char) :
    special? (c :: cs) = none := by
  unfold special?
  split
  · rename_i heq
    exact absurd (List.cons.inj heq).1 hescape
  · rename_i heq
    exact absurd (List.cons.inj heq).1 hreference
  · rfl

theorem special?_backslash_iff :
    special? ('\\' :: cs) = none ↔ cs.head?.any Text.isAsciiPunctuation = false := by
  cases cs with
  | nil =>
      simp [special?]
  | cons c cs =>
      simp [special?]

end Specials

/-!
# Escaped text
-/

/-- A text with a backslash before the characters that are to be escaped. -/
def escapedText (p : Char -> Bool) (cs : List Char) : List Char :=
  cs.flatMap fun c => if p c then ['\\', c] else [c]

/-- Whether no character that is to be escaped stands behind a backslash that is not escaped
itself. -/
def Guarded (p : Char -> Bool) : Bool -> List Char -> Prop
  | _, [] => True
  | escaped, c :: cs => (p c = true -> escaped = false) ∧ Guarded p (!escaped && c == '\\') cs

section Escaping

variable {p : Char -> Bool} {cs ds : List Char} {c : Char}

theorem escapedText_cons_of_pos (h : p c = true) (cs : List Char) :
    escapedText p (c :: cs) = '\\' :: c :: escapedText p cs := by
  rw [escapedText, List.flatMap_cons, if_pos h]
  rfl

theorem escapedText_cons_of_neg (h : p c = false) (cs : List Char) :
    escapedText p (c :: cs) = c :: escapedText p cs := by
  rw [escapedText, List.flatMap_cons, h, if_neg Bool.false_ne_true]
  rfl

theorem escapedText_append (cs ds : List Char) :
    escapedText p (cs ++ ds) = escapedText p cs ++ escapedText p ds :=
  List.flatMap_append

theorem escapedText_of_neg (h : forall c, c ∈ cs -> p c = false) : escapedText p cs = cs := by
  induction cs with
  | nil =>
      rfl
  | cons c cs ih =>
      rw [escapedText_cons_of_neg (h c List.mem_cons_self),
        ih fun d hd => h d (List.mem_cons_of_mem _ hd)]

/-- Behind characters that are no backslashes it is as before. -/
theorem guarded_append (hcs : forall c, c ∈ cs -> c ≠ '\\') (h : Guarded p false (cs ++ ds)) :
    Guarded p false ds := by
  induction cs with
  | nil =>
      exact h
  | cons c cs ih =>
      apply ih fun d hd => hcs d (List.mem_cons_of_mem _ hd)
      have hrest := h.2
      rwa [beq_false_of_ne (hcs c List.mem_cons_self), Bool.and_false] at hrest

/-- A backslash that escapes nothing has no effect. -/
theorem guarded_of_plain (hspecial : special? (c :: cs) = none) (h : Guarded p false (c :: cs)) :
    Guarded p false cs := by
  by_cases hescape : c = '\\'
  · subst hescape
    rw [special?_backslash_iff] at hspecial
    cases cs with
    | nil =>
        trivial
    | cons d cs =>
        have hd : d ≠ '\\' := by
          rintro rfl
          have hpunctuation : Text.isAsciiPunctuation '\\' = false := hspecial
          revert hpunctuation
          decide
        have hrest := h.2.2
        refine ⟨fun _ => rfl, ?_⟩
        rw [beq_false_of_ne hd, Bool.and_false] at hrest ⊢
        exact hrest
  · have hplain : forall d, d ∈ [c] -> d ≠ '\\' := by simpa using hescape
    exact guarded_append hplain h

variable (hp : forall c, p c = true -> c = '"')
include hp

/-- Nothing in a reference is escaped, and none ends at an escape. -/
theorem special?_reference (cs : List Char) :
    special? ('&' :: escapedText p cs) = special? ('&' :: cs) := by
  have hbody : (escapedText p cs).takeWhile isReferenceChar = cs.takeWhile isReferenceChar ∧
      (((escapedText p cs).dropWhile isReferenceChar).head? = some ';' ↔
        (cs.dropWhile isReferenceChar).head? = some ';') := by
    induction cs with
    | nil =>
        exact ⟨rfl, Iff.rfl⟩
    | cons c cs ih =>
        cases hc : p c with
        | true =>
            rw [escapedText_cons_of_pos hc, hp c hc, List.dropWhile_cons_of_neg (by decide),
              List.dropWhile_cons_of_neg (by decide)]
            exact ⟨rfl, by simp⟩
        | false =>
            rw [escapedText_cons_of_neg hc, List.takeWhile_cons, List.takeWhile_cons,
              List.dropWhile_cons, List.dropWhile_cons, ih.1]
            split
            · exact ⟨rfl, ih.2⟩
            · exact ⟨rfl, Iff.rfl⟩
  rw [special?, special?, hbody.1]
  simp only [hbody.2]

theorem special?_escapedText (hc : p c = false) (h : special? (c :: cs) = none) :
    special? (c :: escapedText p cs) = none := by
  by_cases hreference : c = '&'
  · subst hreference
    rwa [special?_reference hp]
  · by_cases hescape : c = '\\'
    · subst hescape
      rw [special?_backslash_iff] at h ⊢
      cases cs with
      | nil =>
          exact h
      | cons d cs =>
          have hd : p d = false := by
            rw [Bool.eq_false_iff]
            intro hquote
            rw [hp d hquote] at h
            have hpunctuation : Text.isAsciiPunctuation '"' = false := h
            revert hpunctuation
            decide
          rw [escapedText_cons_of_neg hd]
          exact h
    · exact special?_of_ne hescape hreference _

theorem neg_of_ne (hc : c ≠ '"') : p c = false := by
  rw [Bool.eq_false_iff]
  exact fun hquote => hc (hp c hquote)

/-- A character that nothing begins at is decoded from itself, whether it is escaped or not. -/
theorem decodedText_cons (h : special? (c :: cs) = none) :
    decodedText (escapedText p (c :: cs)) = c :: decodedText (escapedText p cs) := by
  cases hc : p c with
  | true =>
      have hescape : special? ('\\' :: c :: escapedText p cs) = some ([c], 2) := by
        rw [hp c hc]
        rfl
      rw [escapedText_cons_of_pos hc, decodedText_of_special hescape]
      rfl
  | false =>
      rw [escapedText_cons_of_neg hc, decodedText_of_plain (special?_escapedText hp hc h)]

/-- What an escape or a reference stands for is decoded as before its quotes were escaped. -/
theorem decodedText_special (hguarded : Guarded p false cs) {text : List Char} {size : Nat}
    (h : special? cs = some (text, size)) :
    exists rest, cs.length = size + rest.length ∧ Guarded p false rest ∧
      decodedText (escapedText p cs) = text ++ decodedText (escapedText p rest) := by
  rcases special?_cases h with
    ⟨c, rest, rfl, hc, rfl, rfl⟩ | ⟨body, rest, rfl, hbody, htext, rfl⟩
  · have hplain : p c = false := by
      rw [Bool.eq_false_iff]
      intro hquote
      exact absurd (hguarded.2.1 hquote) (by decide)
    have hescape : special? ('\\' :: c :: escapedText p rest) = some ([c], 2) := by
      rw [special?, if_pos hc]
    refine ⟨rest, by simp; omega, hguarded.2.2, ?_⟩
    rw [escapedText_cons_of_neg (neg_of_ne hp (by decide)), escapedText_cons_of_neg hplain,
      decodedText_of_special hescape]
    rfl
  · have hplain : forall c, c ∈ '&' :: (body ++ [';']) -> c ≠ '"' ∧ c ≠ '\\' := by
      intro c hc
      have hmember : isReferenceChar c = true ∨ c = '&' ∨ c = ';' := by
        rcases List.mem_cons.mp hc with rfl | hc
        · exact Or.inr (Or.inl rfl)
        · rcases List.mem_append.mp hc with hc | hc
          · exact Or.inl (hbody c hc)
          · exact Or.inr (Or.inr (List.mem_singleton.mp hc))
      constructor
      · rintro rfl
        revert hmember
        decide
      · rintro rfl
        revert hmember
        decide
    have hsplit : '&' :: (body ++ ';' :: rest) = ('&' :: (body ++ [';'])) ++ rest := by simp
    have hescaped : escapedText p ('&' :: (body ++ ';' :: rest)) =
        ('&' :: (body ++ [';'])) ++ escapedText p rest := by
      rw [hsplit, escapedText_append,
        escapedText_of_neg fun c hc => neg_of_ne hp (hplain c hc).1]
    have hwhole : special? (escapedText p ('&' :: (body ++ ';' :: rest))) =
        some (text, body.length + 2) := by
      rw [escapedText_cons_of_neg (neg_of_ne hp (by decide)), special?_reference hp, h]
    rw [hsplit] at hguarded
    refine ⟨rest, by simp; omega, guarded_append (fun c hc => (hplain c hc).2) hguarded, ?_⟩
    rw [decodedText_of_special hwhole, hescaped, List.drop_left' (by simp)]

/-- A text with nothing to decode in it is decoded from the text with its quotes escaped. -/
theorem decodedText_of_literal (h : Literal cs) : decodedText (escapedText p cs) = cs := by
  induction cs with
  | nil =>
      rfl
  | cons c cs ih =>
      rcases literal_cons_iff.mp h with ⟨hspecial, hrest⟩
      rw [decodedText_cons hp hspecial, ih hrest]

/-- What is decoded is shorter than the text before its quotes were escaped, if there was anything
else to decode in it. -/
theorem length_decodedText (hguarded : Guarded p false cs) :
    (decodedText (escapedText p cs)).length ≤ cs.length ∧
      ((decodedText (escapedText p cs)).length = cs.length -> Literal cs) := by
  induction hn : cs.length using Nat.strong_induction_on generalizing cs with
  | _ n ih =>
      subst hn
      cases hspecial : special? cs with
      | some found =>
          have hsize := length_special hspecial
          rcases decodedText_special hp hguarded hspecial with ⟨rest, hlength, hrest, hdecoded⟩
          have hbelow := (ih rest.length (by omega) hrest rfl).1
          rw [hdecoded, List.length_append]
          omega
      | none =>
          cases cs with
          | nil =>
              exact ⟨Nat.le_refl _, fun _ => literal_nil⟩
          | cons c cs =>
              have hbelow := ih cs.length (by simp) (guarded_of_plain hspecial hguarded) rfl
              rw [decodedText_cons hp hspecial, List.length_cons, List.length_cons]
              refine ⟨Nat.succ_le_succ hbelow.1, ?_⟩
              intro heq
              exact literal_cons_iff.mpr ⟨hspecial, hbelow.2 (Nat.succ.inj heq)⟩

end Escaping

theorem escapedText_none (cs : List Char) : escapedText (fun _ => false) cs = cs :=
  escapedText_of_neg fun _ _ => rfl

theorem guarded_none (escaped : Bool) (cs : List Char) :
    Guarded (fun _ => false) escaped cs := by
  induction cs generalizing escaped with
  | nil =>
      trivial
  | cons c cs ih =>
      refine ⟨?_, ih _⟩
      intro h
      cases h

theorem not_escaped (c : Char) (h : (fun _ : Char => false) c = true) : c = '"' := by
  cases h

/-- What is decoded is not longer than what is written. -/
theorem length_decodedText_le (cs : List Char) : (decodedText cs).length ≤ cs.length := by
  have hlength := (length_decodedText not_escaped (guarded_none false cs)).1
  rwa [escapedText_none] at hlength

/-- A text is its own decoding just if there is nothing to decode in it. -/
theorem decodedText_eq_self_iff {cs : List Char} : decodedText cs = cs ↔ Literal cs := by
  constructor
  · intro h
    have hlength := (length_decodedText not_escaped (guarded_none false cs)).2
    rw [escapedText_none, h] at hlength
    exact hlength rfl
  · intro h
    have hdecoded := decodedText_of_literal not_escaped h
    rwa [escapedText_none] at hdecoded

instance (cs : List Char) : Decidable (Literal cs) := decidable_of_iff _ decodedText_eq_self_iff

end Markdown
end Docloom
