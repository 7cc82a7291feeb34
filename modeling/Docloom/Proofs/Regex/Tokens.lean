import Docloom.Regex.Reader
import Mathlib.Data.List.TakeDrop

/-!
# What is read off a text

Each piece of an expression is read off the front of a text.  What was read is the same when the
text goes on with a closing parenthesis, and the rest begins behind whole escapes, so no backslash
is cut from the character that it stands before.
-/

namespace Docloom
namespace Regex

variable {α : Type} {setting : Setting} {cs ds rest tail inside : List Char} {c d : Char}
  {n m : Nat}

/-!
# Rests of a text
-/

/-- Whether a text ends with another one, and no escape is cut by that. -/
inductive Passed : List Char -> List Char -> Prop where
  | refl {cs : List Char} : Passed cs cs
  | char {c : Char} {cs rest : List Char} (hc : c ≠ '\\') (h : Passed cs rest) :
      Passed (c :: cs) rest
  | escape {c : Char} {cs rest : List Char} (h : Passed cs rest) : Passed ('\\' :: c :: cs) rest

namespace Passed

theorem trans (h : Passed cs ds) (hrest : Passed ds rest) : Passed cs rest := by
  induction h with
  | refl =>
      exact hrest
  | char hc _ ih =>
      exact .char hc (ih hrest)
  | escape _ ih =>
      exact .escape (ih hrest)

/-- What follows a character that is no backslash begins behind whole escapes. -/
theorem behind (hc : c ≠ '\\') : forall cs : List Char, Passed (cs ++ c :: rest) rest
  | [] => .char hc .refl
  | ['\\'] => .escape .refl
  | '\\' :: _ :: cs => .escape (behind hc cs)
  | d :: cs => by
      by_cases hd : d = '\\'
      · subst hd
        cases cs with
        | nil => exact .escape .refl
        | cons e cs => exact .escape (behind hc cs)
      · exact .char hd (behind hc cs)

end Passed

/-- Whether a value is read off a text, and off each longer one that goes on with a closing
parenthesis. -/
structure ReadsOff (read : List Char -> Option (α × List Char)) (cs : List Char) (value : α)
    (rest : List Char) : Prop where
  passed : Passed cs rest
  append : forall tail, read (cs ++ ')' :: tail) = some (value, rest ++ ')' :: tail)

/-!
# Blanks and comments
-/

theorem dropBlanks_append {comment : Bool} (h : dropBlanks comment cs = c :: rest)
    (more : List Char) : dropBlanks comment (cs ++ more) = c :: (rest ++ more) := by
  fun_induction dropBlanks comment cs with
  | case1 comment =>
      cases h
  | case2 d cs ih =>
      rw [List.cons_append, dropBlanks, if_pos rfl]
      exact ih h
  | case3 comment d cs hcomment hblank ih =>
      rw [List.cons_append, dropBlanks, if_neg hcomment, if_pos hblank]
      exact ih h
  | case4 comment d cs hcomment hblank hhash ih =>
      rw [List.cons_append, dropBlanks, if_neg hcomment, if_neg hblank, if_pos hhash]
      exact ih h
  | case5 comment d cs hcomment hblank hhash =>
      cases h
      rw [List.cons_append, dropBlanks, if_neg hcomment, if_neg hblank, if_neg hhash]

/-- Blanks and comments end with a blank or with the end of a line. -/
theorem eq_or_exists_of_dropBlanks {comment : Bool} (h : dropBlanks comment cs = c :: rest) :
    (comment = false ∧ cs = c :: rest) ∨
      exists dropped d, cs = dropped ++ d :: c :: rest ∧ d ≠ '\\' := by
  induction cs generalizing comment with
  | nil =>
      cases h
  | cons d cs ih =>
      have hmore : forall {comment : Bool}, dropBlanks comment cs = c :: rest ->
          (comment = false -> d ≠ '\\') ->
            exists dropped e, d :: cs = dropped ++ e :: c :: rest ∧ e ≠ '\\' := by
        intro comment hcs hd
        rcases ih hcs with ⟨hcomment, rfl⟩ | ⟨dropped, e, rfl, he⟩
        · exact ⟨[], d, rfl, hd hcomment⟩
        · exact ⟨d :: dropped, e, rfl, he⟩
      rw [dropBlanks] at h
      split at h
      · refine Or.inr (hmore h ?_)
        rintro hend rfl
        cases hend
      · rename_i hcomment
        split at h
        · rename_i hblank
          refine Or.inr (hmore h ?_)
          rintro _ rfl
          cases hblank
        · split at h
          · exact Or.inr (hmore h fun hend => by cases hend)
          · cases h
            exact Or.inl ⟨Bool.eq_false_iff.mpr hcomment, rfl⟩

/-- Where all is dropped, a parenthesis behind it is what comes next, or a comment takes it in. -/
theorem dropBlanks_parenthesis {comment : Bool} (h : dropBlanks comment cs = []) :
    (forall tail, dropBlanks comment (cs ++ ')' :: tail) = ')' :: tail) ∨
      dropBlanks comment (cs ++ [')']) = [] := by
  fun_induction dropBlanks comment cs with
  | case1 comment =>
      cases comment with
      | true =>
          exact Or.inr rfl
      | false =>
          exact Or.inl fun tail => rfl
  | case2 d cs ih =>
      simp only [List.cons_append, dropBlanks, if_true]
      exact ih h
  | case3 comment d cs hcomment hblank ih =>
      simp only [List.cons_append, dropBlanks, hcomment, hblank, if_true]
      exact ih h
  | case4 comment d cs hcomment hblank hhash ih =>
      simp only [List.cons_append, dropBlanks, hcomment, hblank, hhash, if_true]
      exact ih h
  | case5 comment d cs hcomment hblank hhash =>
      cases h

theorem skip_append (h : setting.skip cs = c :: rest) (more : List Char) :
    setting.skip (cs ++ more) = c :: (rest ++ more) := by
  unfold Setting.skip at h ⊢
  split
  · rename_i hspaced
    rw [if_pos hspaced] at h
    exact dropBlanks_append h more
  · rename_i hspaced
    rw [if_neg hspaced] at h
    rw [h, List.cons_append]

theorem passed_skip (h : setting.skip cs = c :: rest) : Passed cs (c :: rest) := by
  unfold Setting.skip at h
  split at h
  · rcases eq_or_exists_of_dropBlanks h with ⟨_, rfl⟩ | ⟨dropped, d, rfl, hd⟩
    · exact .refl
    · exact .behind hd dropped
  · rw [h]
    exact .refl

theorem skip_parenthesis (h : setting.skip cs = []) :
    (forall tail, setting.skip (cs ++ ')' :: tail) = ')' :: tail) ∨
      setting.skip (cs ++ [')']) = [] := by
  unfold Setting.skip at h ⊢
  split at h
  · rename_i hspaced
    simp only [hspaced, if_true]
    exact dropBlanks_parenthesis h
  · rename_i hspaced
    simp [h, hspaced]

theorem skip_nil (setting : Setting) : setting.skip [] = [] := by
  unfold Setting.skip
  split <;> rfl

/-!
# Characters and escapes
-/

/-- What stands before a character is cut off in a longer text, too. -/
theorem span_append {p : Char -> Bool} (h : cs.span p = (inside, c :: rest)) (more : List Char) :
    (cs ++ more).span p = (inside, c :: (rest ++ more)) ∧ cs = inside ++ c :: rest := by
  rw [List.span_eq_takeWhile_dropWhile, Prod.mk.injEq] at h
  rcases h with ⟨htake, hdrop⟩
  have hcs : cs = inside ++ c :: rest := by
    rw [← htake, ← hdrop, List.takeWhile_append_dropWhile]
  have hinside : forall d, d ∈ inside -> p d = true := by
    rw [← htake]
    exact List.all_eq_true.mp List.all_takeWhile
  have hc : p c = false := by
    have hnot := List.head?_dropWhile_not p cs
    rw [hdrop] at hnot
    simpa using hnot
  refine ⟨?_, hcs⟩
  rw [List.span_eq_takeWhile_dropWhile, hcs, List.append_assoc, List.cons_append,
    List.takeWhile_append_of_pos hinside, List.dropWhile_append_of_pos hinside]
  simp [hc]

theorem passed_span (h : cs.span (· != d) = (inside, c :: rest)) (hd : d ≠ '\\') :
    Passed cs rest := by
  have hc : c = d := by
    have hnot := List.head?_dropWhile_not (· != d) cs
    rw [List.span_eq_takeWhile_dropWhile, Prod.mk.injEq] at h
    rw [h.2] at hnot
    simpa using hnot
  subst hc
  rw [(span_append h []).2]
  exact .behind hd inside

theorem not_backslash_of_hexNumberFrom (h : (Text.hexNumberFrom? n ds).isSome = true) :
    forall c, c ∈ ds -> c ≠ '\\' := by
  induction ds generalizing n with
  | nil =>
      exact fun c hc => absurd hc List.not_mem_nil
  | cons d ds ih =>
      rw [Text.hexNumberFrom?] at h
      split at h
      · rename_i hvalue
        intro c hc
        rcases List.mem_cons.mp hc with rfl | hmem
        · rintro rfl
          cases hvalue
        · exact ih h c hmem
      · cases h

theorem not_backslash_of_hexNumber (h : Text.hexNumber? ds = some n) :
    forall c, c ∈ ds -> c ≠ '\\' := by
  unfold Text.hexNumber? at h
  split at h
  · cases h
  · exact not_backslash_of_hexNumberFrom (by rw [h]; rfl)

namespace Atom

variable {atom : Atom}

theorem readDigits_append (h : readDigits setting n cs = some (ds, rest)) (more : List Char) :
    readDigits setting n (cs ++ more) = some (ds, rest ++ more) := by
  induction n generalizing cs ds with
  | zero =>
      cases h
      rfl
  | succ n ih =>
      rw [readDigits] at h ⊢
      split at h
      · cases h
      · rename_i c after hskip
        rcases Option.map_eq_some_iff.mp h with ⟨⟨below, rest⟩, hbelow, heq⟩
        cases heq
        rw [skip_append hskip]
        simp [ih hbelow]

theorem passed_readDigits (h : readDigits setting n cs = some (ds, rest))
    (hds : forall c, c ∈ ds -> c ≠ '\\') : Passed cs rest := by
  induction n generalizing cs ds with
  | zero =>
      cases h
      exact .refl
  | succ n ih =>
      rw [readDigits] at h
      split at h
      · cases h
      · rename_i c after hskip
        rcases Option.map_eq_some_iff.mp h with ⟨⟨below, rest⟩, hbelow, heq⟩
        cases heq
        refine (passed_skip hskip).trans (.char (hds c List.mem_cons_self) ?_)
        exact ih hbelow fun d hd => hds d (List.mem_cons_of_mem _ hd)

theorem readBraces_append (h : readBraces setting cs = some (inside, rest)) (more : List Char) :
    readBraces setting (cs ++ more) = some (inside, rest ++ more) := by
  unfold readBraces at h ⊢
  split at h
  · rename_i name c after hspan
    cases h
    rw [(span_append hspan more).1]
  · cases h

theorem passed_readBraces (h : readBraces setting cs = some (inside, rest)) : Passed cs rest := by
  unfold readBraces at h
  split at h
  · rename_i name c after hspan
    cases h
    exact passed_span hspan (by decide)
  · cases h

theorem readsOff_readCode (h : readCode setting (n + 1) cs = some (atom, rest)) :
    ReadsOff (readCode setting (n + 1)) cs atom rest := by
  unfold readCode at h
  split at h
  · rename_i after hskip
    rcases Option.bind_eq_some_iff.mp h with ⟨⟨digits, rest⟩, hbraces, h⟩
    rcases Option.bind_eq_some_iff.mp h with ⟨number, hnumber, h⟩
    rcases Option.bind_eq_some_iff.mp h with ⟨c, hcode, h⟩
    cases h
    refine ⟨(passed_skip hskip).trans (.char (by decide) (passed_readBraces hbraces)), ?_⟩
    intro tail
    unfold readCode
    rw [skip_append hskip]
    simp [readBraces_append hbraces, hnumber, hcode]
  · rename_i hbrace
    rcases Option.bind_eq_some_iff.mp h with ⟨⟨digits, rest⟩, hdigits, h⟩
    rcases Option.bind_eq_some_iff.mp h with ⟨number, hnumber, h⟩
    rcases Option.bind_eq_some_iff.mp h with ⟨c, hcode, h⟩
    cases h
    cases hskip : setting.skip cs with
    | nil =>
        rw [hskip, readDigits, skip_nil] at hdigits
        cases hdigits
    | cons d after =>
        rw [hskip] at hdigits
        have hpassed := passed_readDigits hdigits (not_backslash_of_hexNumber hnumber)
        refine ⟨(passed_skip hskip).trans hpassed, ?_⟩
        intro tail
        have hmore := readDigits_append hdigits (')' :: tail)
        unfold readCode
        rw [skip_append hskip]
        split
        · rename_i heq
          cases heq
          exact absurd hskip (hbrace after)
        · rw [List.cons_append] at hmore
          simp [hmore, hnumber, hcode]

/-- Reads the name of a class, in braces or of one letter. -/
def readName (setting : Setting) (cs : List Char) : Option (CharSet × List Char) :=
  match setting.skip cs with
  | '\x7b' :: rest => do
      let (name, rest) ← readBraces setting rest
      pure (← classInBraces? name, rest)
  | '\\' :: _ => none
  | c :: rest => do pure (← classNamed? (plainName [c]), rest)
  | [] => none

theorem readNamed_eq (setting : Setting) (negated : Bool) (cs : List Char) :
    readNamed setting negated cs = (readName setting cs).bind fun named =>
      if setting.everyScript then
        some
          (.oneOf (if negated then .not (setting.fold named.1) else setting.fold named.1), named.2)
      else
        none := by
  unfold readNamed readName
  cases setting.skip cs with
  | nil =>
      rfl
  | cons c after =>
      by_cases hbrace : c = '\x7b'
      · subst hbrace
        simp [Option.bind_assoc]
      · by_cases hbackslash : c = '\\'
        · subst hbackslash
          rfl
        · simp [Option.bind_assoc]

theorem readsOff_readName {set : CharSet} (h : readName setting cs = some (set, rest)) :
    ReadsOff (readName setting) cs set rest := by
  unfold readName at h
  split at h
  · rename_i after hskip
    rcases Option.bind_eq_some_iff.mp h with ⟨⟨name, behind⟩, hbraces, h⟩
    rcases Option.bind_eq_some_iff.mp h with ⟨found, hfound, h⟩
    cases h
    refine ⟨(passed_skip hskip).trans (.char (by decide) (passed_readBraces hbraces)), ?_⟩
    intro tail
    simp [readName, skip_append hskip, readBraces_append hbraces, hfound]
  · cases h
  · rename_i c after hbrace hbackslash hskip
    rcases Option.bind_eq_some_iff.mp h with ⟨found, hfound, h⟩
    cases h
    have hc : c ≠ '\\' := by
      rintro rfl
      exact hbackslash rfl
    refine ⟨(passed_skip hskip).trans (.char hc .refl), ?_⟩
    intro tail
    unfold readName
    rw [skip_append hskip]
    split
    · rename_i heq
      cases heq
      exact absurd rfl hbrace
    · rename_i heq
      cases heq
      exact absurd rfl hc
    · rename_i heq
      cases heq
      simp [hfound]
    · rename_i heq
      cases heq
  · cases h

theorem readsOff_readNamed {negated : Bool}
    (h : readNamed setting negated cs = some (atom, rest)) :
    ReadsOff (readNamed setting negated) cs atom rest := by
  rw [readNamed_eq] at h
  rcases Option.bind_eq_some_iff.mp h with ⟨⟨set, after⟩, hname, h⟩
  have hafter : after = rest := by
    split at h <;> cases h
    rfl
  subst hafter
  have hreads := readsOff_readName hname
  refine ⟨hreads.passed, ?_⟩
  intro tail
  rw [readNamed_eq, hreads.append]
  split at h
  · rename_i hevery
    cases h
    simp [hevery]
  · cases h

/-- What may stand in braces after a `b`. -/
def edge? (ascii : Bool) (name : List Char) : Option Atom :=
  match String.ofList name with
  | "start" => some (.anchor (.wordStart ascii))
  | "end" => some (.anchor (.wordEnd ascii))
  | "start-half" => some (.anchor (.wordStartHalf ascii))
  | "end-half" => some (.anchor (.wordEndHalf ascii))
  | _ => none

theorem readEdge_braces (h : setting.skip cs = c :: rest) :
    readEdge setting ('\x7b' :: cs) =
      if c.isAlpha || c == '-' then
        (readBraces setting cs).bind fun named =>
          (edge? (!setting.everyScript) named.1).map fun atom => (atom, named.2)
      else
        some (.anchor (.wordEdge (!setting.everyScript)), '\x7b' :: cs) := by
  simp only [readEdge, edge?, h]
  congr 1
  refine Option.bind_congr fun named _ => ?_
  split <;> simp [*]

theorem readEdge_of_ne (h : forall after, cs ≠ '\x7b' :: after) :
    readEdge setting cs = some (.anchor (.wordEdge (!setting.everyScript)), cs) := by
  unfold readEdge
  dsimp only
  split
  · rename_i after
    exact absurd rfl (h after)
  · rfl

theorem readsOff_readEdge (h : readEdge setting cs = some (atom, rest)) :
    ReadsOff (readEdge setting) cs atom rest := by
  by_cases hbrace : exists after, cs = '\x7b' :: after
  · rcases hbrace with ⟨after, rfl⟩
    cases hskip : setting.skip after with
    | nil =>
        simp [readEdge, hskip] at h
    | cons c more =>
        rw [readEdge_braces hskip] at h
        split at h
        · rename_i hletter
          rcases Option.bind_eq_some_iff.mp h with ⟨⟨name, behind⟩, hbraces, h⟩
          rcases Option.map_eq_some_iff.mp h with ⟨edge, hedge, heq⟩
          cases heq
          refine ⟨.char (by decide) (passed_readBraces hbraces), ?_⟩
          intro tail
          rw [List.cons_append, readEdge_braces (skip_append hskip _), if_pos hletter,
            readBraces_append hbraces]
          simp [hedge]
        · rename_i hletter
          cases h
          refine ⟨.refl, ?_⟩
          intro tail
          rw [List.cons_append, readEdge_braces (skip_append hskip _), if_neg hletter]
  · have hne : forall after, cs ≠ '\x7b' :: after := fun after heq => hbrace ⟨after, heq⟩
    rw [readEdge_of_ne hne] at h
    cases h
    refine ⟨.refl, ?_⟩
    intro tail
    refine readEdge_of_ne ?_
    intro after heq
    cases cs with
    | nil =>
        cases heq
    | cons d cs =>
        cases heq
        exact hne cs rfl

/-- Letters behind which more is read after a backslash. -/
def marked : List Char := ['x', 'u', 'U', 'p', 'P', 'b']

/-- What a letter or sign stands for after a backslash, if no more is read. -/
def escaped? (setting : Setting) (c : Char) : Option Atom :=
  if isEscapable c then
    some (.char c false)
  else
    ((letterClass? setting c).map Atom.oneOf).or (letter? setting c)

theorem readEscape_of_not_marked (cs : List Char) (h : c ∉ marked) :
    readEscape setting (c :: cs) = (escaped? setting c).map fun atom => (atom, cs) := by
  simp only [marked, List.mem_cons, List.not_mem_nil, not_or] at h
  rcases h with ⟨hx, hu, hU, hp, hP, hb, _⟩
  simp only [readEscape, escaped?]
  split
  · rfl
  · cases letterClass? setting c <;> rfl

/-- What follows a backslash is read off behind the character that it stands before. -/
theorem readsOff_readEscape (h : readEscape setting (c :: cs) = some (atom, rest)) :
    Passed cs rest ∧
      forall tail, readEscape setting (c :: cs ++ ')' :: tail) =
        some (atom, rest ++ ')' :: tail) := by
  unfold readEscape at h
  dsimp only at h
  split at h
  · have hreads := readsOff_readCode h
    exact ⟨hreads.passed, hreads.append⟩
  · have hreads := readsOff_readCode h
    exact ⟨hreads.passed, hreads.append⟩
  · have hreads := readsOff_readCode h
    exact ⟨hreads.passed, hreads.append⟩
  · have hreads := readsOff_readNamed h
    exact ⟨hreads.passed, hreads.append⟩
  · have hreads := readsOff_readNamed h
    exact ⟨hreads.passed, hreads.append⟩
  · have hreads := readsOff_readEdge h
    exact ⟨hreads.passed, hreads.append⟩
  · rename_i hx hu hU hp hP hb
    have hmarked : c ∉ marked := by
      simpa [marked] using ⟨hx, hu, hU, hp, hP, hb⟩
    have hescape : forall after, readEscape setting (c :: after) =
        (escaped? setting c).map fun atom => (atom, after) :=
      fun after => readEscape_of_not_marked after hmarked
    have hread : readEscape setting (c :: cs) = some (atom, rest) := by
      simp only [readEscape, h]
    rw [hescape] at hread
    rcases Option.map_eq_some_iff.mp hread with ⟨found, hfound, heq⟩
    cases heq
    refine ⟨.refl, ?_⟩
    intro tail
    rw [List.cons_append, hescape, hfound]
    rfl

theorem readsOff_read (h : Atom.read setting cs = some (atom, rest)) :
    ReadsOff (Atom.read setting) cs atom rest := by
  unfold Atom.read at h
  split at h
  · cases h
  · rename_i after
    cases after with
    | nil =>
        cases h
    | cons c cs =>
        have hreads := readsOff_readEscape h
        exact ⟨.escape hreads.1, hreads.2⟩
  · rename_i c after hc
    cases h
    refine ⟨.char hc .refl, ?_⟩
    intro tail
    rw [List.cons_append]
    unfold Atom.read
    split
    · rename_i heq
      cases heq
    · rename_i heq
      cases heq
      exact absurd rfl hc
    · rename_i heq
      cases heq
      rfl

end Atom

end Regex
end Docloom
