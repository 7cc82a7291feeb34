import Docloom.Proofs.Regex.Tokens
import Mathlib.Data.List.TakeWhile

/-!
# What is read off in brackets

A class in brackets ends with a closing bracket, so what follows it does not count.
-/

namespace Docloom
namespace Regex

variable {setting : Setting} {cs rest : List Char} {c : Char}

theorem Passed.length_le (h : Passed cs rest) : rest.length <= cs.length := by
  induction h with
  | refl =>
      exact Nat.le_refl _
  | char _ _ ih =>
      exact Nat.le_succ_of_le ih
  | escape _ ih =>
      exact Nat.le_succ_of_le (Nat.le_succ_of_le ih)

namespace Bracket

variable {set first : CharSet} {left : Left}

/-!
# Items
-/

theorem readsOff_readRange (h : readRange setting cs = some (set, rest)) :
    ReadsOff (readRange setting) cs set rest := by
  rcases Option.bind_eq_some_iff.mp h with ⟨⟨atom, behind⟩, hatom, h⟩
  have hreads := Atom.readsOff_read hatom
  dsimp only at h
  split at h
  · cases h
  · rename_i more hskip
    split at h
    · rename_i hend
      rcases Option.bind_eq_some_iff.mp h with ⟨item, hitem, h⟩
      cases h
      refine ⟨hreads.passed, ?_⟩
      intro tail
      cases hafter : setting.skip more with
      | nil =>
          simp [hafter] at hend
      | cons c after =>
          simp only [hafter, List.head?_cons, Option.some.injEq] at hend
          simp [readRange, hreads.append, skip_append hskip, skip_append hafter, hend, hitem]
    · rename_i hend
      rcases Option.bind_eq_some_iff.mp h with ⟨⟨last, after⟩, hlast, h⟩
      rcases Option.bind_eq_some_iff.mp h with ⟨low, hlow, h⟩
      rcases Option.bind_eq_some_iff.mp h with ⟨high, hhigh, h⟩
      dsimp only at h
      split at h
      · rename_i hle
        cases h
        have hreadsLast := Atom.readsOff_read hlast
        cases hafter : setting.skip more with
        | nil =>
            rw [hafter] at hlast
            cases hlast
        | cons c next =>
            rw [hafter] at hlast hreadsLast hend
            refine ⟨hreads.passed.trans ((passed_skip hskip).trans
              (.char (by decide) ((passed_skip hafter).trans hreadsLast.passed))), ?_⟩
            intro tail
            have happend := hreadsLast.append tail
            simp only [List.head?_cons, Option.some.injEq] at hend
            rw [List.cons_append] at happend
            simp [readRange, hreads.append, skip_append hskip, skip_append hafter, hend, happend,
              hlow, hhigh, hle]
      · cases h
  · rename_i more hnil hdash
    rcases Option.bind_eq_some_iff.mp h with ⟨item, hitem, h⟩
    cases h
    cases hskip : setting.skip behind with
    | nil =>
        exact absurd hskip hnil
    | cons c after =>
        have hc : c ≠ '-' := by
          rintro rfl
          exact hdash after hskip
        refine ⟨hreads.passed.trans (passed_skip hskip), ?_⟩
        intro tail
        simp [readRange, hreads.append, skip_append hskip, hc, hitem]

/-!
# Classes with a name
-/

/-- Reads the name of a class up to its colon and bracket. -/
def readClass (cs : List Char) : Option (CharSet × List Char) :=
  match cs.span (· != ':') with
  | (name, ':' :: ']' :: rest) => (latinClass? (String.ofList name)).map fun set => (set, rest)
  | _ => none

/-- The names of classes of the basic Latin block. -/
def latinNames : List String :=
  ["alnum", "alpha", "ascii", "blank", "cntrl", "digit", "graph", "lower", "print", "punct",
    "space", "upper", "word", "xdigit"]

theorem mem_latinNames {name : String} (h : (latinClass? name).isSome = true) :
    name ∈ latinNames := by
  revert h
  unfold latinClass?
  split <;> simp [latinNames]

theorem not_parenthesis_of_latinClass {name : List Char}
    (h : (latinClass? (String.ofList name)).isSome = true) : ')' ∉ name := by
  have hnames : latinNames.all (fun name => !name.toList.contains ')') = true := by
    decide +kernel
  have hname := List.all_eq_true.mp hnames _ (mem_latinNames h)
  simpa using hname

theorem readClass_append (h : readClass cs = some (set, rest)) :
    Passed cs rest ∧ forall more, readClass (cs ++ more) = some (set, rest ++ more) := by
  unfold readClass at h
  split at h
  · rename_i name after hspan
    rcases Option.map_eq_some_iff.mp h with ⟨found, hfound, heq⟩
    cases heq
    constructor
    · rw [(span_append hspan []).2]
      exact (Passed.behind (by decide) name).trans (.char (by decide) .refl)
    · intro more
      simp only [readClass, (span_append hspan more).1, List.cons_append, hfound, Option.map_some]
  · cases h

/-- A name with a parenthesis is none. -/
theorem readClass_parenthesis (h : readClass cs = none) (tail : List Char) :
    readClass (cs ++ ')' :: tail) = none := by
  cases hspan : cs.span (· != ':') with
  | mk name after =>
      cases after with
      | nil =>
          have hall : forall c, c ∈ cs -> (c != ':') = true := by
            rw [List.span_eq_takeWhile_dropWhile, Prod.mk.injEq] at hspan
            exact List.dropWhile_eq_nil_iff.mp hspan.2
          have hmem : forall rest,
              ((cs ++ ')' :: tail).span (· != ':')).1 = rest -> ')' ∈ rest := by
            rintro rest rfl
            rw [List.span_eq_takeWhile_dropWhile, List.takeWhile_append_of_pos hall,
              List.takeWhile_cons_of_pos (by decide)]
            simp
          unfold readClass
          split
          · rename_i name after hspan
            have hname := hmem name (by rw [hspan])
            rw [Option.map_eq_none_iff, ← Option.not_isSome_iff_eq_none]
            exact fun hsome => not_parenthesis_of_latinClass hsome hname
          · rfl
      | cons c more =>
          unfold readClass at h ⊢
          rw [(span_append hspan _).1]
          rw [hspan] at h
          cases more with
          | nil =>
              simp
          | cons d more =>
              rw [List.cons_append]
              split
              · rename_i heq
                cases heq
                simpa using h
              · rfl

/-- What stands between the colon and the name. -/
def unsigned (cs : List Char) : List Char := if cs.head? = some '^' then cs.tail else cs

theorem readLatin_colon (setting : Setting) (cs : List Char) :
    readLatin setting (':' :: cs) = (readClass (unsigned cs)).map fun read =>
      (if cs.head? = some '^' then .not (setting.fold read.1) else setting.fold read.1,
        read.2) := by
  unfold readLatin readClass unsigned
  cases cs with
  | nil =>
      rfl
  | cons c cs =>
      by_cases hc : c = '^'
      · subst hc
        simp only [List.head?_cons, List.tail_cons, if_true]
        split <;> simp only [*, Option.map_map, Option.map_none]
        rfl
      · have hsign : forall after, c :: cs = '^' :: after -> False := by
          intro after heq
          cases heq
          exact hc rfl
        simp only [List.head?_cons, Option.some.injEq, hc, if_false]
        split <;> simp only [*, Option.map_map, Option.map_none]
        rfl

theorem readLatin_of_ne (h : forall after, cs ≠ ':' :: after) : readLatin setting cs = none := by
  unfold readLatin
  split
  · exact absurd rfl (h _)
  · rfl

theorem unsigned_append (more : List Char) :
    unsigned (c :: cs ++ more) = unsigned (c :: cs) ++ more := by
  unfold unsigned
  split <;> rename_i hhead <;> rw [List.cons_append, List.head?_cons] at hhead <;> simp [hhead]

theorem passed_unsigned (cs : List Char) : Passed cs (unsigned cs) := by
  unfold unsigned
  split
  · rename_i hhead
    cases cs with
    | nil =>
        exact .refl
    | cons c cs =>
        cases hhead
        exact .char (by decide) .refl
  · exact .refl

theorem readLatin_append (h : readLatin setting cs = some (set, rest)) :
    Passed cs rest ∧ forall more, readLatin setting (cs ++ more) = some (set, rest ++ more) := by
  by_cases hcolon : exists after, cs = ':' :: after
  · rcases hcolon with ⟨after, rfl⟩
    rw [readLatin_colon] at h
    rcases Option.map_eq_some_iff.mp h with ⟨⟨found, behind⟩, hclass, heq⟩
    cases heq
    cases after with
    | nil =>
        cases hclass
    | cons c after =>
        have hread := readClass_append hclass
        refine ⟨.char (by decide) ((passed_unsigned _).trans hread.1), ?_⟩
        intro more
        rw [List.cons_append, readLatin_colon, unsigned_append, hread.2]
        rfl
  · rw [readLatin_of_ne fun after heq => hcolon ⟨after, heq⟩] at h
    cases h

theorem readLatin_parenthesis (h : readLatin setting cs = none) (tail : List Char) :
    readLatin setting (cs ++ ')' :: tail) = none := by
  cases cs with
  | nil =>
      rfl
  | cons d cs =>
      by_cases hd : d = ':'
      · subst hd
        rw [readLatin_colon, Option.map_eq_none_iff] at h
        rw [List.cons_append, readLatin_colon, Option.map_eq_none_iff]
        cases cs with
        | nil =>
            exact readClass_parenthesis h tail
        | cons c cs =>
            rw [unsigned_append]
            exact readClass_parenthesis h tail
      · refine readLatin_of_ne ?_
        intro after heq
        cases heq
        exact hd rfl

/-!
# What opens a class
-/

theorem readDashes_nil (n : Nat) : readDashes setting n [] = [] := by
  cases n <;> rfl

theorem readDashes_of_ne (n : Nat) (h : c ≠ '-') :
    readDashes setting n (c :: cs) = c :: cs := by
  unfold readDashes
  split
  · rename_i heq
    cases heq
    exact absurd rfl h
  · rfl

/-- The signs are as many as there are, since there is a count for each character. -/
theorem readDashes_append {n m : Nat} (hn : cs.length <= n)
    (h : readDashes setting n cs = c :: rest) (more : List Char)
    (hm : (cs ++ more).length <= m) :
    Passed cs (c :: rest) ∧ readDashes setting m (cs ++ more) = c :: (rest ++ more) := by
  induction n generalizing cs m with
  | zero =>
      rw [List.length_eq_zero_iff.mp (Nat.le_zero.mp hn)] at h
      cases h
  | succ n ih =>
      cases cs with
      | nil =>
          cases h
      | cons d cs =>
          by_cases hd : d = '-'
          · subst hd
            rw [readDashes] at h
            cases hskip : setting.skip cs with
            | nil =>
                rw [hskip, readDashes_nil] at h
                cases h
            | cons e after =>
                rw [hskip] at h
                have hpassed := passed_skip hskip
                have hlength := hpassed.length_le
                simp only [List.length_cons, List.cons_append, List.length_append] at hn hm hlength
                cases m with
                | zero =>
                    omega
                | succ m =>
                    have hread := ih (by simpa using by omega) h (m := m) (by simpa using by omega)
                    refine ⟨.char (by decide) (hpassed.trans hread.1), ?_⟩
                    rw [List.cons_append, readDashes, skip_append hskip]
                    exact hread.2
          · rw [readDashes_of_ne _ hd] at h
            cases h
            exact ⟨.refl, readDashes_of_ne _ hd⟩

/-- Reads the sign of a class. -/
def readSign (setting : Setting) (cs : List Char) : Bool × List Char :=
  match setting.skip cs with
  | '^' :: rest => (true, setting.skip rest)
  | rest => (false, rest)

/-- Reads what comes after the sign of a class. -/
def readFirst (setting : Setting) (cs : List Char) : CharSet × List Char :=
  let rest := readDashes setting cs.length cs
  if rest.length < cs.length then
    (.single '-', rest)
  else
    match rest with
    | ']' :: more => (.single ']', setting.skip more)
    | rest => (.none, rest)

theorem readOpening_eq (setting : Setting) (cs : List Char) :
    readOpening setting cs =
      ((readSign setting cs).1, readFirst setting (readSign setting cs).2) := by
  have hparts : forall (negated : Bool) (cs : List Char),
      (if (readDashes setting cs.length cs).length < cs.length then
        (negated, .single '-', readDashes setting cs.length cs)
      else
        match readDashes setting cs.length cs with
        | ']' :: more => (negated, .single ']', setting.skip more)
        | rest => (negated, .none, rest)) =
      (negated, readFirst setting cs) := by
    intro negated cs
    unfold readFirst
    dsimp only
    split
    · rfl
    · split <;> rfl
  exact hparts (readSign setting cs).1 (readSign setting cs).2

theorem readSign_append {negated : Bool} (h : readSign setting cs = (negated, c :: rest)) :
    Passed cs (c :: rest) ∧
      forall more, readSign setting (cs ++ more) = (negated, c :: (rest ++ more)) := by
  unfold readSign at h
  split at h
  · rename_i after hskip
    rw [Prod.mk.injEq] at h
    rcases h with ⟨rfl, hafter⟩
    refine ⟨(passed_skip hskip).trans (.char (by decide) (passed_skip hafter)), ?_⟩
    intro more
    simp [readSign, skip_append hskip, skip_append hafter]
  · rename_i hsign
    rw [Prod.mk.injEq] at h
    rcases h with ⟨rfl, hskip⟩
    have hc : c ≠ '^' := by
      rintro rfl
      exact hsign rest hskip
    refine ⟨passed_skip hskip, ?_⟩
    intro more
    simp [readSign, skip_append hskip, hc]

theorem readFirst_append (h : readFirst setting cs = (first, c :: rest)) :
    Passed cs (c :: rest) ∧
      forall more, readFirst setting (cs ++ more) = (first, c :: (rest ++ more)) := by
  cases hdashes : readDashes setting cs.length cs with
  | nil =>
      unfold readFirst at h
      simp only [hdashes] at h
      split at h <;> cases h
  | cons d after =>
      have hread := fun more =>
        readDashes_append (Nat.le_refl _) hdashes more (Nat.le_refl _)
      have hlength := (hread []).1.length_le
      simp only [readFirst, hdashes] at h
      split at h
      · rename_i hless
        cases h
        refine ⟨(hread []).1, ?_⟩
        intro more
        simp only [readFirst, (hread more).2]
        rw [if_pos]
        simp only [List.length_cons, List.length_append] at hless ⊢
        omega
      · rename_i hless
        have hmore : forall more : List Char,
            ¬ (d :: (after ++ more)).length < (cs ++ more).length := by
          intro more
          simp only [List.length_cons, List.length_append] at hless ⊢
          omega
        split at h
        · rename_i heq
          cases heq
          rw [Prod.mk.injEq] at h
          rcases h with ⟨rfl, hskip⟩
          refine ⟨(hread []).1.trans (.char (by decide) (passed_skip hskip)), ?_⟩
          intro more
          simp only [readFirst, (hread more).2, if_neg (hmore more), skip_append hskip]
        · rename_i hbracket
          cases h
          refine ⟨(hread []).1, ?_⟩
          intro more
          have hc : c ≠ ']' := by
            rintro rfl
            exact hbracket rest rfl
          simp only [readFirst, (hread more).2, if_neg (hmore more)]
          simp [hc]

theorem readOpening_append {negated : Bool}
    (h : readOpening setting cs = (negated, first, c :: rest)) :
    Passed cs (c :: rest) ∧
      forall more, readOpening setting (cs ++ more) = (negated, first, c :: (rest ++ more)) := by
  rw [readOpening_eq, Prod.mk.injEq] at h
  rcases h with ⟨hnegated, hfirst⟩
  cases hsign : (readSign setting cs).2 with
  | nil =>
      rw [hsign] at hfirst
      simp [readFirst, readDashes_nil] at hfirst
  | cons d after =>
      have hsigned : readSign setting cs = (negated, d :: after) := Prod.ext hnegated hsign
      have hread := readSign_append hsigned
      rw [hsign] at hfirst
      have hreadFirst := readFirst_append hfirst
      refine ⟨hread.1.trans hreadFirst.1, ?_⟩
      intro more
      rw [readOpening_eq, hread.2]
      exact Prod.ext rfl (hreadFirst.2 more)

/-!
# Whole classes
-/

/-- Reads a class inside another one after its opening bracket. -/
def readInner (setting : Setting) (fuel : Nat) (cs : List Char) : Option (CharSet × List Char) :=
  match readLatin setting cs with
  | some read => some read
  | none =>
      let (negated, first, cs) := readOpening setting cs
      (readItems setting fuel none first cs).map fun read =>
        (if negated then .not (setting.fold read.1) else setting.fold read.1, read.2)

theorem readItems_bracket {fuel : Nat} (h : setting.skip cs = '[' :: rest) :
    readItems setting (fuel + 1) left first cs =
      (readInner setting fuel rest).bind fun read =>
        readItems setting fuel left (.union first read.1) read.2 := by
  simp only [readItems, readInner, h]
  cases readLatin setting rest with
  | some read =>
      rfl
  | none =>
      dsimp only
      split <;> simp [*]

/-- The signs that stand twice between the parts of a class. -/
inductive PartSign : Char -> Operator -> Prop where
  | inter : PartSign '&' .inter
  | diff : PartSign '-' .diff
  | symmDiff : PartSign '~' .symmDiff

theorem readItems_sign {fuel : Nat} {operator : Operator} (hsign : PartSign c operator)
    (h : setting.skip cs = c :: c :: rest) :
    readItems setting (fuel + 1) left first cs =
      readItems setting fuel (some (left.join setting first, operator)) .none rest := by
  cases hsign <;> simp only [readItems, h]

theorem readItems_range {fuel : Nat} (h : setting.skip cs = c :: rest) (hclose : c ≠ ']')
    (hopen : c ≠ '[') (hsign : forall operator more, PartSign c operator -> rest ≠ c :: more) :
    readItems setting (fuel + 1) left first cs =
      (readRange setting (c :: rest)).bind fun read =>
        readItems setting fuel left (.union first read.1) read.2 := by
  rw [readItems, h]
  split
  · rename_i heq
    cases heq
  · rename_i heq
    cases heq
    exact absurd rfl hclose
  · rename_i heq
    cases heq
    exact absurd rfl (hsign _ _ .inter)
  · rename_i heq
    cases heq
    exact absurd rfl (hsign _ _ .diff)
  · rename_i heq
    cases heq
    exact absurd rfl (hsign _ _ .symmDiff)
  · rename_i heq
    cases heq
    exact absurd rfl hopen
  · split <;> simp [*]

/-- Whether items are read the same with a closing parenthesis behind them. -/
def ItemsAppend (setting : Setting) (fuel enough : Nat) : Prop :=
  forall {left : Left} {first set : CharSet} {cs rest : List Char},
    readItems setting fuel left first cs = some (set, rest) ->
      Passed cs rest ∧ forall tail,
        readItems setting enough left first (cs ++ ')' :: tail) = some (set, rest ++ ')' :: tail)

theorem readInner_append {fuel enough : Nat} (hitems : ItemsAppend setting fuel enough)
    (h : readInner setting fuel cs = some (set, rest)) :
    Passed cs rest ∧ forall tail,
      readInner setting enough (cs ++ ')' :: tail) = some (set, rest ++ ')' :: tail) := by
  unfold readInner at h
  split at h
  · rename_i read hlatin
    cases h
    have hread := readLatin_append hlatin
    refine ⟨hread.1, ?_⟩
    intro tail
    simp only [readInner, hread.2]
  · rename_i hlatin
    rcases hopening : readOpening setting cs with ⟨negated, opened, after⟩
    rw [hopening] at h
    rcases Option.map_eq_some_iff.mp h with ⟨⟨inner, behind⟩, hinner, heq⟩
    cases heq
    cases after with
    | nil =>
        cases fuel <;> simp [readItems, skip_nil] at hinner
    | cons c after =>
        have hread := readOpening_append hopening
        have hmore := hitems hinner
        refine ⟨hread.1.trans hmore.1, ?_⟩
        intro tail
        have happend := hmore.2 tail
        rw [List.cons_append] at happend
        simp only [readInner, readLatin_parenthesis hlatin, hread.2, happend, Option.map_some]

/-- A parenthesis behind a text is no second sign. -/
theorem not_sign_append (h : forall operator more, PartSign c operator -> rest ≠ c :: more)
    (tail : List Char) (operator : Operator) (more : List Char) (hsign : PartSign c operator) :
    rest ++ ')' :: tail ≠ c :: more := by
  intro heq
  cases rest with
  | nil =>
      cases heq
      cases hsign
  | cons d rest =>
      cases heq
      exact h operator rest hsign rfl

/-- Items are read the same with more characters to read and a parenthesis behind them. -/
theorem itemsAppend {fuel enough : Nat} (henough : fuel <= enough) :
    ItemsAppend setting fuel enough := by
  -- Classes inside the class are read with the same fuel as the items behind them, so both come
  -- from one induction hypothesis.
  induction fuel generalizing enough with
  | zero =>
      intro left first set cs rest h
      cases h
  | succ fuel ih =>
      cases enough with
      | zero =>
          cases henough
      | succ enough =>
          have hitems : ItemsAppend setting fuel enough := ih (Nat.le_of_succ_le_succ henough)
          intro left first set cs rest h
          cases hskip : setting.skip cs with
          | nil =>
              simp [readItems, hskip] at h
          | cons c after =>
              have hpassed := passed_skip hskip
              by_cases hclose : c = ']'
              · subst hclose
                simp only [readItems, hskip] at h
                cases h
                refine ⟨hpassed.trans (.char (by decide) .refl), ?_⟩
                intro tail
                simp only [readItems, skip_append hskip]
              by_cases hopen : c = '['
              · subst hopen
                rw [readItems_bracket hskip] at h
                rcases Option.bind_eq_some_iff.mp h with ⟨⟨inner, behind⟩, hinner, h⟩
                have hread := readInner_append hitems hinner
                have hmore := hitems h
                refine ⟨hpassed.trans (.char (by decide) (hread.1.trans hmore.1)), ?_⟩
                intro tail
                rw [readItems_bracket (skip_append hskip _), hread.2]
                exact hmore.2 tail
              by_cases hsign : exists operator more, PartSign c operator ∧ after = c :: more
              · rcases hsign with ⟨operator, more, hsign, rfl⟩
                rw [readItems_sign hsign hskip] at h
                have hc : c ≠ '\\' := by
                  rintro rfl
                  cases hsign
                have hmore := hitems h
                refine ⟨hpassed.trans (.char hc (.char hc hmore.1)), ?_⟩
                intro tail
                rw [readItems_sign hsign (skip_append hskip _)]
                exact hmore.2 tail
              · have hsingle : forall operator more,
                    PartSign c operator -> after ≠ c :: more :=
                  fun operator more hpart heq => hsign ⟨operator, more, hpart, heq⟩
                rw [readItems_range hskip hclose hopen hsingle] at h
                rcases Option.bind_eq_some_iff.mp h with ⟨⟨item, behind⟩, hrange, h⟩
                have hread := readsOff_readRange hrange
                have hmore := hitems h
                refine ⟨hpassed.trans (hread.passed.trans hmore.1), ?_⟩
                intro tail
                have happend := hread.append tail
                rw [List.cons_append] at happend
                rw [readItems_range (skip_append hskip _) hclose hopen
                  (not_sign_append hsingle tail), happend]
                exact hmore.2 tail

theorem readsOff_bracket (h : Bracket.read setting cs = some (set, rest)) :
    ReadsOff (Bracket.read setting) cs set rest := by
  rcases hopening : readOpening setting cs with ⟨negated, opened, after⟩
  simp only [Bracket.read, hopening] at h
  rcases Option.bind_eq_some_iff.mp h with ⟨⟨found, behind⟩, hfound, hset⟩
  cases after with
  | nil =>
      simp [readItems, skip_nil] at hfound
  | cons c after =>
      have hread := readOpening_append hopening
      rcases Option.ite_none_right_eq_some.mp hset with ⟨hallows, heq⟩
      cases heq
      have hitems : forall tail, ItemsAppend setting (cs.length + 1)
          ((cs ++ ')' :: tail).length + 1) := fun tail => itemsAppend (by simp)
      have hmore := fun tail => hitems tail hfound
      refine ⟨hread.1.trans (hmore []).1, ?_⟩
      intro tail
      have happend := (hmore tail).2 tail
      rw [List.cons_append] at happend
      simp only [Bracket.read, hread.2, happend, Option.bind_eq_bind, Option.bind_some]
      exact if_pos hallows

end Bracket
end Regex
end Docloom
