import Docloom.Proofs.Regex.Brackets

/-!
# What one piece takes

One step of reading takes a piece off the text.  It goes the same way where a closing parenthesis
stands behind the text, unless a comment at the end takes the parenthesis in.
-/

namespace Docloom
namespace Regex

variable {setting after : Setting} {cs rest seen left : List Char} {c : Char}

theorem passed_dropWhile {p : Char -> Bool} (hp : p '\\' = false) (cs : List Char) :
    Passed cs (cs.dropWhile p) := by
  induction cs with
  | nil =>
      exact .refl
  | cons c cs ih =>
      rw [List.dropWhile_cons]
      split
      · rename_i hc
        refine .char ?_ ih
        rintro rfl
        rw [hp] at hc
        cases hc
      · exact .refl

theorem dropWhile_append {p : Char -> Bool} (h : cs.dropWhile p ≠ []) (more : List Char) :
    (cs ++ more).dropWhile p = cs.dropWhile p ++ more ∧
      (cs ++ more).takeWhile p = cs.takeWhile p := by
  cases hdrop : cs.dropWhile p with
  | nil =>
      exact absurd hdrop h
  | cons c rest =>
      have hspan : cs.span p = (cs.takeWhile p, c :: rest) := by
        rw [List.span_eq_takeWhile_dropWhile, hdrop]
      have hmore := (span_append hspan more).1
      rw [List.span_eq_takeWhile_dropWhile, Prod.mk.injEq] at hmore
      exact ⟨hmore.2, hmore.1⟩

/-!
# Settings
-/

/-- Letters are read up to a colon or a parenthesis. -/
theorem readFrom_append (h : setting.readFrom seen cs = some (after, left, rest)) :
    (exists c more, rest = c :: more ∧ c ≠ '\\') ∧ Passed cs rest ∧
      forall more, setting.readFrom seen (cs ++ more) = some (after, left, rest ++ more) := by
  induction cs generalizing setting seen with
  | nil =>
      cases h
  | cons c cs ih =>
      rw [Setting.readFrom] at h
      simp only [List.cons_append, Setting.readFrom]
      split at h
      · rename_i hend
        simp only [if_pos hend]
        split at h
        · cases h
        · rename_i hseen
          cases h
          simp only [if_neg hseen]
          refine ⟨⟨c, cs, rfl, ?_⟩, .refl, fun more => rfl⟩
          rintro rfl
          cases hend
      · rename_i hend
        simp only [if_neg hend]
        split at h
        · cases h
        · rename_i hseen
          simp only [if_neg hseen]
          split at h
          · rename_i hminus
            have hread := ih h
            simp only [if_pos hminus]
            refine ⟨hread.1, .char ?_ hread.2.1, hread.2.2⟩
            rintro rfl
            cases hminus
          · rename_i hminus
            simp only [if_neg hminus]
            split at h
            · rename_i next hput
              have hread := ih h
              refine ⟨hread.1, .char ?_ hread.2.1, hread.2.2⟩
              rintro rfl
              cases hput
            · cases h

namespace Reader

variable {reader result : Reader} {n least : Nat} {most : Option Nat}

/-!
# Repetitions
-/

theorem readGreed_append (cs tail : List Char) :
    readGreed (cs ++ ')' :: tail) = ((readGreed cs).1, (readGreed cs).2 ++ ')' :: tail) := by
  cases cs with
  | nil =>
      rfl
  | cons c cs =>
      by_cases hc : c = '?'
      · subst hc
        rfl
      · simp [readGreed, hc]

theorem passed_readGreed (cs : List Char) : Passed cs (readGreed cs).2 := by
  unfold readGreed
  split
  · exact .char (by decide) .refl
  · exact .refl

theorem readCount_append (h : readCount setting cs = some (n, c :: rest)) :
    Passed cs (c :: rest) ∧
      forall more, readCount setting (cs ++ more) = some (n, c :: (rest ++ more)) := by
  simp only [readCount] at h
  split at h
  · cases h
  · rename_i hcount
    rw [Option.some.injEq, Prod.mk.injEq] at h
    rcases h with ⟨hn, hskip⟩
    have hpassed := (passed_dropWhile (p := Text.isBlank) rfl cs).trans
      ((passed_dropWhile (p := Char.isDigit) rfl _).trans
        (passed_dropWhile (p := Text.isBlank) rfl _))
    have hbehind : ((cs.dropWhile Text.isBlank).dropWhile Char.isDigit).dropWhile
        Text.isBlank ≠ [] := by
      intro hnil
      rw [hnil, skip_nil] at hskip
      cases hskip
    have hdigits : (cs.dropWhile Text.isBlank).dropWhile Char.isDigit ≠ [] :=
      fun hnil => hbehind (by rw [hnil]; rfl)
    have hblank : cs.dropWhile Text.isBlank ≠ [] :=
      fun hnil => hdigits (by rw [hnil]; rfl)
    refine ⟨hpassed.trans (passed_skip hskip), ?_⟩
    intro more
    simp only [readCount, (dropWhile_append hblank more).1, (dropWhile_append hdigits more).1,
      (dropWhile_append hdigits more).2, (dropWhile_append hbehind more).1,
      skip_append hskip more]
    rw [if_neg hcount, hn]

theorem readCount_nil : readCount setting [] = none := rfl

/-- A number is read in the same way behind what is passed over. -/
theorem readCount_skip_append (h : readCount setting (setting.skip cs) = some (n, c :: rest)) :
    Passed cs (c :: rest) ∧
      forall more,
        readCount setting (setting.skip (cs ++ more)) = some (n, c :: (rest ++ more)) := by
  cases hskip : setting.skip cs with
  | nil =>
      rw [hskip, readCount_nil] at h
      cases h
  | cons d next =>
      rw [hskip] at h
      have hread := readCount_append h
      refine ⟨(passed_skip hskip).trans hread.1, ?_⟩
      intro more
      rw [skip_append hskip]
      exact hread.2 more

/-- Reads the greatest number of repetitions behind the comma, if there is one. -/
def readMost (setting : Setting) (least : Nat) (cs : List Char) :
    Option (Nat × Option Nat × List Char) :=
  match setting.skip cs with
  | '\x7d' :: rest => some (least, none, rest)
  | cs =>
      (readCount setting cs).bind fun read =>
        match read.2 with
        | '\x7d' :: rest => if least ≤ read.1 then some (least, some read.1, rest) else none
        | _ => none

theorem readMost_append (h : readMost setting n cs = some (least, most, rest)) :
    Passed cs rest ∧
      forall more, readMost setting n (cs ++ more) = some (least, most, rest ++ more) := by
  unfold readMost at h
  split at h
  · rename_i last hlast
    cases h
    refine ⟨(passed_skip hlast).trans (.char (by decide) .refl), ?_⟩
    intro more
    simp [readMost, skip_append hlast]
  · rename_i hbrace
    rcases Option.bind_eq_some_iff.mp h with ⟨⟨high, beyond⟩, hhigh, hrest⟩
    dsimp only at hrest
    split at hrest
    · rcases Option.ite_none_right_eq_some.mp hrest with ⟨hle, heq⟩
      cases heq
      have hread := readCount_skip_append hhigh
      refine ⟨hread.1.trans (.char (by decide) .refl), ?_⟩
      intro more
      have hmore := hread.2 more
      unfold readMost
      split
      · rename_i heq
        cases hskip : setting.skip cs with
        | nil =>
            rw [hskip, readCount_nil] at hhigh
            cases hhigh
        | cons d next =>
            rw [skip_append hskip] at heq
            cases heq
            exact absurd hskip (hbrace next)
      · rw [hmore]
        exact if_pos hle
    · cases hrest

theorem readCounts_eq (setting : Setting) (cs : List Char) :
    readCounts setting cs = (readCount setting (setting.skip cs)).bind fun read =>
      match read.2 with
      | '\x7d' :: rest => some (read.1, some read.1, rest)
      | ',' :: rest => readMost setting read.1 rest
      | _ => none := rfl

theorem readCounts_append (h : readCounts setting cs = some (least, most, rest)) :
    Passed cs rest ∧
      forall more, readCounts setting (cs ++ more) = some (least, most, rest ++ more) := by
  rw [readCounts_eq] at h
  rcases Option.bind_eq_some_iff.mp h with ⟨⟨low, behind⟩, hlow, hbehind⟩
  dsimp only at hbehind
  split at hbehind
  · cases hbehind
    have hread := readCount_skip_append hlow
    refine ⟨hread.1.trans (.char (by decide) .refl), ?_⟩
    intro more
    rw [readCounts_eq, hread.2]
    rfl
  · have hread := readCount_skip_append hlow
    have hhigh := readMost_append hbehind
    refine ⟨hread.1.trans (.char (by decide) hhigh.1), ?_⟩
    intro more
    rw [readCounts_eq, hread.2]
    exact hhigh.2 more
  · cases hbehind

/-!
# Groups
-/

theorem openNamed_append (h : reader.openNamed cs = some (result, rest)) :
    Passed cs rest ∧
      forall more, reader.openNamed (cs ++ more) = some (result, rest ++ more) := by
  unfold openNamed at h
  split at h
  · rename_i name d behind hspan
    dsimp only at h
    split at h
    · cases h
    · rename_i hname
      cases h
      refine ⟨passed_span hspan (by decide), ?_⟩
      intro more
      simp only [openNamed, (span_append hspan more).1]
      rw [if_neg hname]
  · cases h

/-- Opens a group without a number, or puts a setting, after the question mark. -/
def openSetting (reader : Reader) (cs : List Char) : Option (Reader × List Char) :=
  match reader.setting.read cs with
  | some (setting, _, ':' :: rest) => some (reader.openGroup none setting, rest)
  | some (setting, seen, _ :: rest) =>
      if seen.isEmpty then none else some ({ reader.push none with setting }, rest)
  | _ => none

theorem openSetting_append (h : reader.openSetting cs = some (result, rest)) :
    Passed cs rest ∧
      forall more, reader.openSetting (cs ++ more) = some (result, rest ++ more) := by
  unfold openSetting at h
  split at h
  · rename_i setting seen behind hread
    cases h
    have hletters := readFrom_append hread
    refine ⟨hletters.2.1.trans (.char (by decide) .refl), ?_⟩
    intro more
    simp only [openSetting, Setting.read, hletters.2.2, List.cons_append]
  · rename_i setting seen c behind hcolon hread
    split at h
    · cases h
    · rename_i hseen
      cases h
      have hletters := readFrom_append hread
      have hc : c ≠ '\\' := by
        rcases hletters.1 with ⟨d, more, heq, hd⟩
        cases heq
        exact hd
      refine ⟨hletters.2.1.trans (.char hc .refl), ?_⟩
      intro more
      have hsign : c ≠ ':' := by
        rintro rfl
        exact hcolon rfl
      simp only [openSetting, Setting.read, hletters.2.2, List.cons_append]
      rw [if_neg hseen]
  · cases h

/-- The ways to go on behind an opening parenthesis. -/
inductive OpeningAt (reader : Reader) :
    List Char -> Option (Reader × List Char) -> Prop where
  | plain {c : Char} {cs : List Char} (hc : c ≠ '?') :
      OpeningAt reader (c :: cs) (some (reader.openNumbered, c :: cs))
  | around {c : Char} {cs : List Char} (hc : c = '=' ∨ c = '!') :
      OpeningAt reader ('?' :: c :: cs) none
  | behind {c : Char} {cs : List Char} (hc : c = '=' ∨ c = '!') :
      OpeningAt reader ('?' :: '<' :: c :: cs) none
  | named {c : Char} {cs : List Char} (hc : c ≠ '=' ∧ c ≠ '!') :
      OpeningAt reader ('?' :: '<' :: c :: cs) (reader.openNamed (c :: cs))
  | prefixed (cs : List Char) :
      OpeningAt reader ('?' :: 'P' :: '<' :: cs) (reader.openNamed cs)
  | setting {c : Char} {cs : List Char} (hc : c ∉ ['=', '!', '<'])
      (hnamed : forall rest, c :: cs ≠ 'P' :: '<' :: rest) :
      OpeningAt reader ('?' :: c :: cs) (reader.openSetting (c :: cs))
  | short : OpeningAt reader ['?'] none
  | shorter : OpeningAt reader ['?', '<'] none

theorem openingAt (h : reader.setting.skip cs ≠ []) :
    OpeningAt reader (reader.setting.skip cs) (reader.readOpening cs) := by
  unfold readOpening
  split
  · rename_i heq
    rw [heq]
    exact .around (Or.inl rfl)
  · rename_i heq
    rw [heq]
    exact .around (Or.inr rfl)
  · rename_i heq
    rw [heq]
    exact .behind (Or.inl rfl)
  · rename_i heq
    rw [heq]
    exact .behind (Or.inr rfl)
  · rename_i heq
    rw [heq]
    exact .prefixed _
  · rename_i rest hequal hnot heq
    rw [heq]
    cases rest with
    | nil =>
        exact .shorter
    | cons c cs =>
        refine .named ⟨?_, ?_⟩
        · rintro rfl
          exact hequal cs rfl
        · rintro rfl
          exact hnot cs rfl
  · rename_i rest hequal hnot hbehind hnotBehind hnamed hangle heq
    rw [heq]
    cases rest with
    | nil =>
        exact .short
    | cons c cs =>
        refine .setting ?_ hnamed
        simp only [List.mem_cons, List.not_mem_nil, or_false, not_or]
        refine ⟨?_, ?_, ?_⟩
        · rintro rfl
          exact hequal cs rfl
        · rintro rfl
          exact hnot cs rfl
        · rintro rfl
          exact hangle cs rfl
  · rename_i hequal hnot hbehind hnotBehind hnamed hangle hmark
    cases hskip : reader.setting.skip cs with
    | nil =>
        exact absurd hskip h
    | cons c more =>
        refine .plain ?_
        rintro rfl
        exact hmark more hskip

theorem OpeningAt.eq {found : Option (Reader × List Char)}
    (h : OpeningAt reader (reader.setting.skip cs) found) : reader.readOpening cs = found := by
  generalize htext : reader.setting.skip cs = text at h
  unfold readOpening
  rw [htext]
  cases h with
  | plain hc =>
      simp [hc]
  | around hc =>
      rcases hc with rfl | rfl <;> rfl
  | behind hc =>
      rcases hc with rfl | rfl <;> rfl
  | named hc =>
      simp [hc]
  | prefixed =>
      rfl
  | setting hc hnamed =>
      split
      · rename_i heq
        cases heq
        exact absurd (by simp) hc
      · rename_i heq
        cases heq
        exact absurd (by simp) hc
      · rename_i heq
        cases heq
        exact absurd (by simp) hc
      · rename_i heq
        cases heq
        exact absurd (by simp) hc
      · rename_i heq
        cases heq
        exact absurd rfl (hnamed _)
      · rename_i heq
        cases heq
        exact absurd (by simp) hc
      · rename_i heq
        cases heq
        rfl
      · rename_i hmark
        exact absurd rfl (hmark _)
  | short =>
      rfl
  | shorter =>
      rfl

theorem readOpening_append (hskip : reader.setting.skip cs ≠ [])
    (h : reader.readOpening cs = some (result, rest)) :
    Passed cs rest ∧ forall tail,
      reader.readOpening (cs ++ ')' :: tail) = some (result, rest ++ ')' :: tail) := by
  cases hcs : reader.setting.skip cs with
  | nil =>
      exact absurd hcs hskip
  | cons c more =>
      have hpassed := passed_skip hcs
      have hopening := openingAt hskip
      rw [hcs, h] at hopening
      have hmore : forall tail, OpeningAt reader (c :: more ++ ')' :: tail)
          (some (result, rest ++ ')' :: tail)) ->
            reader.readOpening (cs ++ ')' :: tail) = some (result, rest ++ ')' :: tail) := by
        intro tail hat
        refine OpeningAt.eq ?_
        rw [skip_append hcs]
        exact hat
      generalize hfound : some (result, rest) = found at hopening
      cases hopening with
      | plain hc =>
          cases hfound
          exact ⟨hpassed, fun tail => hmore tail (.plain hc)⟩
      | around hc =>
          cases hfound
      | behind hc =>
          cases hfound
      | named hc =>
          have hread := openNamed_append hfound.symm
          refine ⟨hpassed.trans (.char (by decide) (.char (by decide) hread.1)), ?_⟩
          intro tail
          refine hmore tail ?_
          rw [← hread.2]
          exact .named hc
      | prefixed =>
          have hread := openNamed_append hfound.symm
          refine ⟨hpassed.trans (.char (by decide) (.char (by decide)
            (.char (by decide) hread.1))), ?_⟩
          intro tail
          refine hmore tail ?_
          rw [← hread.2]
          exact .prefixed _
      | setting hc hnamed =>
          have hread := openSetting_append hfound.symm
          refine ⟨hpassed.trans (.char (by decide) hread.1), ?_⟩
          intro tail
          refine hmore tail ?_
          rw [← hread.2]
          refine .setting hc ?_
          intro next heq
          rename_i letters
          cases letters with
          | nil =>
              cases heq
          | cons d letters =>
              cases heq
              exact hnamed letters rfl
      | short =>
          cases hfound
      | shorter =>
          cases hfound

/-!
# Whole pieces
-/

/-- Where a repetition of what came before follows, only what is read counts. -/
theorem repeated_append (least : Nat) (most : Option Nat)
    (h : ((reader.repeatLast least most (readGreed cs).1).map fun reader =>
      (reader, (readGreed cs).2)) = some (result, rest)) :
    Passed cs rest ∧ forall tail,
      (reader.repeatLast least most (readGreed (cs ++ ')' :: tail)).1).map
        (fun reader => (reader, (readGreed (cs ++ ')' :: tail)).2)) =
          some (result, rest ++ ')' :: tail) := by
  rcases Option.map_eq_some_iff.mp h with ⟨repeated, hrepeat, heq⟩
  cases heq
  refine ⟨passed_readGreed cs, ?_⟩
  intro tail
  rw [readGreed_append, hrepeat]
  rfl

/-- Reads how often what came before is repeated, behind an opening brace. -/
def readRepetition (reader : Reader) (cs : List Char) : Option (Reader × List Char) :=
  (readCounts reader.setting cs).bind fun counts =>
    (reader.repeatLast counts.1 counts.2.1 (readGreed (reader.setting.skip counts.2.2)).1).bind
      fun repeated => some (repeated, (readGreed (reader.setting.skip counts.2.2)).2)

theorem readRepetition_append (h : reader.readRepetition cs = some (result, rest)) :
    (rest = [] ∨ Passed cs rest) ∧
      ((forall tail, reader.readRepetition (cs ++ ')' :: tail) =
        some (result, rest ++ ')' :: tail)) ∨
          rest = [] ∧ reader.readRepetition (cs ++ [')']) = some (result, [])) := by
  rcases Option.bind_eq_some_iff.mp h with ⟨⟨least, most, behind⟩, hcounts, hgreed⟩
  rcases Option.bind_eq_some_iff.mp hgreed with ⟨repeated, hrepeat, heq⟩
  have hread := readCounts_append hcounts
  dsimp only at hrepeat heq
  cases hskip : reader.setting.skip behind with
  | nil =>
      rw [hskip] at hrepeat heq
      cases heq
      refine ⟨Or.inl rfl, ?_⟩
      rcases skip_parenthesis hskip with hbehind | hcomment
      · refine Or.inl fun tail => ?_
        simp only [readRepetition, hread.2, Option.bind_some, hbehind]
        exact Option.bind_eq_some_iff.mpr ⟨_, hrepeat, rfl⟩
      · refine Or.inr ⟨rfl, ?_⟩
        simp only [readRepetition, hread.2, Option.bind_some, hcomment]
        exact Option.bind_eq_some_iff.mpr ⟨_, hrepeat, rfl⟩
  | cons d more =>
      rw [hskip] at hrepeat heq
      cases heq
      refine ⟨Or.inr (hread.1.trans ((passed_skip hskip).trans (passed_readGreed _))),
        Or.inl fun tail => ?_⟩
      simp only [readRepetition, hread.2, Option.bind_some, skip_append hskip]
      rw [← List.cons_append, readGreed_append]
      exact Option.bind_eq_some_iff.mpr ⟨_, hrepeat, rfl⟩

theorem step_append (h : reader.step c cs = some (result, rest)) :
    (rest = [] ∨ Passed (c :: cs) rest) ∧
      ((forall tail, reader.step c (cs ++ ')' :: tail) = some (result, rest ++ ')' :: tail)) ∨
        rest = [] ∧ reader.step c (cs ++ [')']) = some (result, [])) := by
  unfold step at h ⊢
  dsimp only at h ⊢
  split at h
  · cases hskip : reader.setting.skip cs with
    | nil =>
        have hopen : forall cs, reader.setting.skip cs = [] ->
            reader.readOpening cs = some (reader.openNumbered, []) := by
          intro cs hcs
          simp [readOpening, hcs]
        rw [hopen cs hskip] at h
        cases h
        refine ⟨Or.inl rfl, ?_⟩
        rcases skip_parenthesis hskip with hbehind | hcomment
        · refine Or.inl fun tail => OpeningAt.eq ?_
          rw [hbehind]
          exact .plain (by decide)
        · exact Or.inr ⟨rfl, hopen _ hcomment⟩
    | cons d more =>
        have hread := readOpening_append (by rw [hskip]; exact List.cons_ne_nil _ _) h
        exact ⟨Or.inr (.char (by decide) hread.1), Or.inl hread.2⟩
  · rcases Option.map_eq_some_iff.mp h with ⟨closed, hclose, heq⟩
    cases heq
    refine ⟨Or.inr (.char (by decide) .refl), Or.inl fun tail => ?_⟩
    simp only [hclose, Option.map_some]
  · cases h
    exact ⟨Or.inr (.char (by decide) .refl), Or.inl fun tail => rfl⟩
  · rcases Option.map_eq_some_iff.mp h with ⟨⟨set, behind⟩, hbracket, heq⟩
    cases heq
    have hread := Bracket.readsOff_bracket hbracket
    refine ⟨Or.inr (.char (by decide) hread.passed), Or.inl fun tail => ?_⟩
    simp only [hread.append, Option.map_some]
  · have hread := repeated_append 0 (some 1) h
    exact ⟨Or.inr (.char (by decide) hread.1), Or.inl hread.2⟩
  · have hread := repeated_append 0 none h
    exact ⟨Or.inr (.char (by decide) hread.1), Or.inl hread.2⟩
  · have hread := repeated_append 1 none h
    exact ⟨Or.inr (.char (by decide) hread.1), Or.inl hread.2⟩
  · have hread := readRepetition_append h
    exact ⟨hread.1.imp id (.char (by decide)), hread.2⟩
  · cases h
    exact ⟨Or.inr (.char (by decide) .refl), Or.inl fun tail => rfl⟩
  · cases h
    exact ⟨Or.inr (.char (by decide) .refl), Or.inl fun tail => rfl⟩
  · rcases Option.ite_none_right_eq_some.mp h with ⟨hallows, heq⟩
    cases heq
    refine ⟨Or.inr (.char (by decide) .refl), Or.inl fun tail => ?_⟩
    exact if_pos hallows
  · rcases Option.bind_eq_some_iff.mp h with ⟨⟨atom, behind⟩, hatom, hitem⟩
    rcases Option.bind_eq_some_iff.mp hitem with ⟨item, hregex, heq⟩
    cases heq
    have hread := Atom.readsOff_read hatom
    refine ⟨Or.inr hread.passed, Or.inl fun tail => ?_⟩
    have happend := hread.append tail
    rw [List.cons_append] at happend
    simp only [happend, Option.bind_eq_bind, Option.bind_some]
    exact Option.bind_eq_some_iff.mpr ⟨item, hregex, rfl⟩

end Reader
end Regex
end Docloom
