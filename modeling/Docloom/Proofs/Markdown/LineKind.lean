import Docloom.Markdown.Blocks
import Docloom.Node.Writer
import Docloom.Proofs.Markdown.PlainText

/-!
# Telling plain lines apart

What a line is when no container is open: a blank line, a line of text, a heading, a thematic
break, or a fence of code.  The first character of a line decides most of this.
-/

namespace Docloom
namespace Markdown

/-!
# Lines by their first character
-/

/-- Whether a line that starts with a character opens no container. -/
def opensNothing (c : Char) : Bool :=
  !"\n\t *+->[".toList.contains c && !c.isDigit

/-- Whether a line that starts with a character is a line of text. -/
def isLineStart (c : Char) : Bool :=
  opensNothing c && !"#:<=_\x60|~".toList.contains c

section Starts

variable {c : Char}

theorem opensNothing_of_isLineStart (h : isLineStart c = true) : opensNothing c = true := by
  unfold isLineStart at h
  rw [Bool.and_eq_true] at h
  exact h.1

theorem isLineStart_ne (other : Char) (h : isLineStart c = true)
    (hother : isLineStart other = false) : c ≠ other := by
  intro heq
  rw [heq, hother] at h
  cases h

theorem opensNothing_ne (other : Char) (h : opensNothing c = true)
    (hother : opensNothing other = false) : c ≠ other := by
  intro heq
  rw [heq, hother] at h
  cases h

theorem not_isSpace_of_opensNothing (h : opensNothing c = true) : Text.isSpace c = false := by
  have hblank := opensNothing_ne ' ' h (by decide)
  have htab := opensNothing_ne '\t' h (by decide)
  simp [Text.isSpace, hblank, htab]

theorem not_isDigit_of_opensNothing (h : opensNothing c = true) : c.isDigit = false := by
  unfold opensNothing at h
  rw [Bool.and_eq_true, Bool.not_eq_true', Bool.not_eq_true'] at h
  exact h.2

end Starts

theorem replicate_of_pos {n : Nat} (hpos : 0 < n) (c : Char) :
    List.replicate n c = c :: List.replicate (n - 1) c := by
  rw [← List.replicate_succ, Nat.sub_add_cancel hpos]

namespace Run

variable {run : Run} {p : Char -> Bool} {c : Char} {cs : List Char} {i n : Nat}

theorem skip_of_head? (h : (run.letters.drop i).head?.all (!p ·) = true) : run.skip p i = i := by
  rw [skip_eq, takeWhile_of_head? h]
  rfl

theorem skipUpTo_of_head? (h : (run.letters.drop i).head?.all (!p ·) = true) (limit : Nat) :
    run.skipUpTo p limit i = i := by
  rw [skipUpTo_eq]
  cases limit with
  | zero =>
      rfl
  | succ limit =>
      rw [takeWhile_of_head?]
      · rfl
      · rw [List.head?_take, if_neg (Nat.succ_ne_zero limit)]
        exact h

theorem skip_of_replicate (hletters : run.letters = List.replicate n c ++ cs)
    (h : cs.head? ≠ some c) : run.skip (· == c) 0 = n := by
  have hrest : cs.takeWhile (· == c) = [] := by
    apply takeWhile_of_head?
    cases cs with
    | nil =>
        rfl
    | cons d cs =>
        have hne : d ≠ c := fun heq => h (congrArg some heq)
        simpa using hne
  rw [skip_eq, hletters, List.drop_zero, List.takeWhile_append_of_pos, hrest]
  · simp
  · intro d hd
    rw [(List.mem_replicate.mp hd).2]
    exact beq_self_eq_true c

end Run

/-!
# Lines that open no container
-/

section Containers

variable {source : Source} {line : Line}

theorem openContainer?_eq_none {interrupting : Bool}
    (hspace : line.run.letters.head?.all (!Text.isSpace ·) = true)
    (hquote : line.run.letters.head? ≠ some '>')
    (hitem : line.run.itemMarker? interrupting 0 = none)
    (hnote : line.run.letters.head? ≠ some '[') (number : Nat) :
    openContainer? source line number interrupting 0 = none := by
  have hskip : line.run.skipUpTo Text.isSpace 3 0 = 0 := Run.skipUpTo_of_head? hspace 3
  have hat (c : Char) (hc : line.run.letters.head? ≠ some c) : line.run.isAt 0 c = false := by
    rw [Bool.eq_false_iff]
    intro hat
    rw [Run.isAt_iff, ← List.head?_eq_getElem?] at hat
    exact hc hat
  unfold openContainer? Run.quoteMarker? Run.noteLabel?
  dsimp only
  rw [hskip, hitem, hat '>' hquote, hat '[' hnote]
  rfl

theorem openContainer?_of_head? (h : line.run.letters.head?.all opensNothing = true)
    (number : Nat) (interrupting : Bool) :
    openContainer? source line number interrupting 0 = none := by
  have hne (other : Char) (hother : opensNothing other = false) :
      line.run.letters.head? ≠ some other := by
    intro hhead
    rw [hhead, Option.all_some, hother] at h
    cases h
  apply openContainer?_eq_none
  · cases hhead : line.run.letters.head? with
    | none =>
        rfl
    | some c =>
        rw [hhead] at h
        simp [not_isSpace_of_opensNothing h]
  · exact hne '>' (by decide)
  · unfold Run.itemMarker?
    rw [Run.char?_eq, ← List.head?_eq_getElem?]
    cases hhead : line.run.letters.head? with
    | none =>
        rfl
    | some c =>
        rw [hhead] at h
        have hplus := opensNothing_ne '+' h (by decide)
        have hdash := opensNothing_ne '-' h (by decide)
        have hstar := opensNothing_ne '*' h (by decide)
        have hdigit := not_isDigit_of_opensNothing h
        simp [hplus, hdash, hstar, hdigit]
  · exact hne '[' (by decide)

end Containers

/-!
# Kinds of lines
-/

section Kinds

open Reader

variable {source : Source} {run : Run} {leaf : Leaf} {c : Char} {cs : List Char} {i fuel : Nat}

theorem lineKind_blank (h : run.letters = []) (leaf : Leaf) :
    lineKind source leaf false run = .blank := by
  have hskip : run.skipSpace 0 = 0 := by
    apply Run.skip_of_head?
    rw [h]
    rfl
  have hend : run.atLineEnd (run.skipSpace 0) = true := by
    rw [hskip, Run.atLineEnd_eq, h]
    rfl
  unfold lineKind
  dsimp only
  rw [if_pos hend]

theorem delimiterLine?_of_head (h : run.letters = c :: cs)
    (hbar : "\t -:|".toList.contains c = false) (lines : List Line) :
    delimiterLine? run lines = none := by
  have hne (other : Char) (hother : "\t -:|".toList.contains other = true) :
      (c == other) = false := by
    apply beq_false_of_ne
    intro heq
    rw [heq, hother] at hbar
    cases hbar
  have hskip : run.skipUpTo Text.isSpace 3 0 = 0 := by
    apply Run.skipUpTo_of_head?
    rw [h, List.drop_zero, List.head?_cons, Option.all_some, Text.isSpace, hne ' ' (by decide),
      hne '\t' (by decide)]
    rfl
  have hrow : run.delimiterRow? = none := by
    unfold Run.delimiterRow?
    dsimp only
    rw [hskip, Run.sat_eq, h, List.getElem?_cons_zero, Option.any_some, hne '-' (by decide),
      hne ':' (by decide), hne '|' (by decide)]
    rfl
  unfold delimiterLine?
  rw [hrow]
  cases lines with
  | nil =>
      rfl
  | cons head lines =>
      rfl

/-- A line that does not start with a blank is read from its first character on. -/
theorem lineStart_facts (h : run.letters = c :: cs) (hline : c ≠ '\n')
    (hspace : Text.isSpace c = false) :
    run.skipUpTo Text.isSpace 3 0 = 0 ∧ run.skipUpTo Text.isSpace 4 0 = 0 ∧
      run.atLineEnd (run.skipSpace 0) = false := by
  have hhead : (run.letters.drop 0).head?.all (!Text.isSpace ·) = true := by
    rw [h, List.drop_zero, List.head?_cons, Option.all_some, hspace]
    rfl
  have hskip : run.skipSpace 0 = 0 := Run.skip_of_head? hhead
  refine ⟨Run.skipUpTo_of_head? hhead 3, Run.skipUpTo_of_head? hhead 4, ?_⟩
  rw [hskip, Run.atLineEnd_eq, h]
  simpa using hline

theorem isSpace_of_row (hbar : "\t -:|".toList.contains c = false) : Text.isSpace c = false := by
  rw [Text.isSpace, Bool.or_eq_false_iff]
  constructor
  · apply beq_false_of_ne
    intro heq
    rw [heq] at hbar
    cases hbar
  · apply beq_false_of_ne
    intro heq
    rw [heq] at hbar
    cases hbar

theorem htmlBlock?_of_head (h : run.letters = c :: cs) (hmarkup : c ≠ '<') (complete : Bool) :
    run.htmlBlock? complete 0 = none := by
  unfold Run.htmlBlock?
  rw [Run.isAt, Run.char?_eq, h, List.getElem?_cons_zero]
  simp [hmarkup]

theorem fenceLine?_of_head (h : run.letters = c :: cs) (hquote : c ≠ '\x60') (htilde : c ≠ '~') :
    fenceLine? source run 0 = none := by
  unfold fenceLine?
  rw [Run.char?_eq, h, List.getElem?_cons_zero]
  simp [hquote, htilde]

theorem headingLine?_of_head (h : run.letters = c :: cs) (hsign : c ≠ '#') :
    headingLine? run 0 = none := by
  have hskip : run.skip (· == '#') 0 = 0 := by
    apply Run.skip_of_head?
    rw [h]
    simpa using hsign
  unfold headingLine?
  dsimp only
  rw [hskip]
  simp

theorem underlineDepth?_of_head (h : run.letters = c :: cs) (hdouble : c ≠ '=') (hdash : c ≠ '-') :
    underlineDepth? run 0 = none := by
  unfold underlineDepth?
  rw [Run.char?_eq, h, List.getElem?_cons_zero]
  simp [hdouble, hdash]

section First

variable (h : run.letters = c :: cs) (hline : c ≠ '\n')
  (hbar : "\t -:|".toList.contains c = false)

include h hline hbar

theorem lineKind_of_fence {kind : LineKind} (hfence : fenceLine? source run 0 = some kind)
    (leaf : Leaf) : lineKind source leaf false run = kind := by
  rcases lineStart_facts h hline (isSpace_of_row hbar) with ⟨hthree, hfour, hend⟩
  unfold lineKind
  dsimp only
  rw [hthree, hfour, hend, delimiterLine?_of_head h hbar, hfence]
  simp

theorem lineKind_of_heading {kind : LineKind} (hfence : fenceLine? source run 0 = none)
    (hmarkup : c ≠ '<') (hheading : headingLine? run 0 = some kind) (leaf : Leaf) :
    lineKind source leaf false run = kind := by
  rcases lineStart_facts h hline (isSpace_of_row hbar) with ⟨hthree, hfour, hend⟩
  unfold lineKind
  dsimp only
  rw [hthree, hfour, hend, delimiterLine?_of_head h hbar, hfence, htmlBlock?_of_head h hmarkup,
    hheading]
  simp

theorem lineKind_of_rest (hfence : fenceLine? source run 0 = none)
    (hmarkup : c ≠ '<') (hheading : headingLine? run 0 = none)
    (hunderline : underlineDepth? run 0 = none)
    (hleaf : leaf = .none ∨ exists lines, leaf = .paragraph lines) :
    lineKind source leaf false run = if run.isThematicBreak 0 then .thematicBreak else .text := by
  rcases lineStart_facts h hline (isSpace_of_row hbar) with ⟨hthree, hfour, hend⟩
  unfold lineKind
  dsimp only
  rw [hthree, hfour, hend, delimiterLine?_of_head h hbar, hfence, htmlBlock?_of_head h hmarkup,
    hheading, hunderline]
  rcases hleaf with rfl | ⟨lines, rfl⟩
  · simp
  · simp

end First

theorem lineKind_text (h : run.letters = c :: cs) (hstart : isLineStart c = true)
    (hleaf : leaf = .none ∨ exists lines, leaf = .paragraph lines) :
    lineKind source leaf false run = .text := by
  have hne (other : Char) (hother : isLineStart other = false) : c ≠ other :=
    isLineStart_ne other hstart hother
  have hbar : "\t -:|".toList.contains c = false := by
    simp [hne '\t' (by decide), hne ' ' (by decide), hne '-' (by decide), hne ':' (by decide),
      hne '|' (by decide)]
  have hbreak : run.isThematicBreak 0 = false := by
    unfold Run.isThematicBreak
    rw [Run.char?_eq, h, List.getElem?_cons_zero]
    simp [hne '*' (by decide), hne '-' (by decide), hne '_' (by decide)]
  rw [lineKind_of_rest h (hne '\n' (by decide)) hbar
    (fenceLine?_of_head h (hne '\x60' (by decide)) (hne '~' (by decide)))
    (hne '<' (by decide)) (headingLine?_of_head h (hne '#' (by decide)))
    (underlineDepth?_of_head h (hne '=' (by decide)) (hne '-' (by decide))) hleaf, hbreak]
  rfl

theorem isThematicBreak_of_stars (h : run.letters = ['*', '*', '*']) :
    run.isThematicBreak 0 = true := by
  unfold Run.isThematicBreak
  rw [Run.char?_eq, Run.chars_eq, Run.size_eq, h]
  decide

theorem lineKind_break (h : run.letters = ['*', '*', '*']) :
    lineKind source .none false run = .thematicBreak := by
  rw [lineKind_of_rest h (by decide) (by decide) (fenceLine?_of_head h (by decide) (by decide))
    (by decide) (headingLine?_of_head h (by decide))
    (underlineDepth?_of_head h (by decide) (by decide)) (Or.inl rfl), isThematicBreak_of_stars h]
  rfl

/-!
# Headings
-/

theorem headingExtent_end (h : run.letters.length ≤ i) (fuel : Nat) (extent : Option (Nat × Nat)) :
    headingExtent run fuel i extent = extent := by
  cases fuel with
  | zero =>
      rfl
  | succ fuel =>
      have hdrop : run.letters.drop i = [] := List.drop_eq_nil_of_le h
      have hskip : run.skipSpace i = i := by
        apply Run.skip_of_head?
        rw [hdrop]
        rfl
      have hend : run.atLineEnd i = true := by
        rw [Run.atLineEnd_eq, List.getElem?_eq_none h]
        rfl
      rw [headingExtent, hskip]
      dsimp only
      rw [if_pos hend]

/-- A list that does not end with an item that satisfies `p` holds an item that does not. -/
theorem exists_takeWhile {p : Char -> Bool} (hlast : cs.getLast?.any (!p ·) = true) :
    exists taken c rest, cs = taken ++ c :: rest ∧ cs.takeWhile p = taken ∧ p c = false ∧
      (c :: rest).getLast?.any (!p ·) = true := by
  have hsplit : cs.takeWhile p ++ cs.dropWhile p = cs := List.takeWhile_append_dropWhile
  cases hrest : cs.dropWhile p with
  | nil =>
      have hall := List.dropWhile_eq_nil_iff.mp hrest
      cases hend : cs.getLast? with
      | none =>
          rw [hend] at hlast
          cases hlast
      | some last =>
          rw [hend, Option.any_some, hall last (List.mem_of_getLast? hend)] at hlast
          cases hlast
  | cons c rest =>
      rw [hrest] at hsplit
      refine ⟨_, c, rest, hsplit.symm, rfl, ?_, ?_⟩
      · have hne : cs.dropWhile p ≠ [] := by
          rw [hrest]
          exact List.cons_ne_nil _ _
        have hhead := List.head_dropWhile_not p hne
        simpa [hrest] using hhead
      · rw [← hsplit, List.getLast?_append_of_ne_nil _ (List.cons_ne_nil _ _)] at hlast
        exact hlast

/-- A text without number signs and without blanks at its end has its words up to its end. -/
theorem headingExtent_of_plain (hsigns : forall c, c ∈ run.letters.drop i -> c ≠ '#' ∧ c ≠ '\n')
    (hlast : (run.letters.drop i).getLast?.any (!Text.isSpace ·) = true)
    (hfuel : run.letters.length ≤ i + fuel) (extent : Option (Nat × Nat)) :
    headingExtent run fuel i extent =
      some ((extent.map Prod.fst).getD (run.skipSpace i), run.letters.length) := by
  induction fuel generalizing i extent with
  | zero =>
      rw [List.drop_eq_nil_of_le (by simpa using hfuel)] at hlast
      cases hlast
  | succ fuel ih =>
      rcases exists_takeWhile hlast with ⟨blanks, c, rest, hdrop, hblanks, hc, hend⟩
      have hj : run.skipSpace i = i + blanks.length := by
        rw [Run.skipSpace, Run.skip_eq, hblanks]
      have hbelow : run.letters.drop (i + blanks.length) = c :: rest := by
        rw [← List.drop_drop, hdrop, List.drop_left]
      have hletter : run.letters[i + blanks.length]? = some c := by
        rw [← List.head?_drop, hbelow]
        rfl
      have hsign := hsigns c (by rw [hdrop]; simp)
      have hline : run.atLineEnd (i + blanks.length) = false := by
        rw [Run.atLineEnd_eq, hletter]
        simpa using hsign.2
      have hat : run.isAt (i + blanks.length) '#' = false := by
        rw [Run.isAt, Run.char?_eq, hletter]
        simpa using hsign.1
      have hk := run.skip_eq (fun c => !Text.isSpace c) (i + blanks.length)
      rw [hbelow, List.takeWhile_cons_of_pos (by rw [hc]; rfl), List.length_cons] at hk
      generalize hword : rest.takeWhile (fun c => !Text.isSpace c) = word at hk
      have hafter : run.letters.drop (i + blanks.length + (word.length + 1)) =
          rest.drop word.length := by
        rw [← List.drop_drop, hbelow, List.drop_succ_cons]
      have hwordLength : word.length ≤ rest.length := by
        rw [← hword]
        exact (List.takeWhile_prefix _).length_le
      have hlength : run.letters.length = i + blanks.length + (rest.length + 1) := by
        have hcount := congrArg List.length hbelow
        rw [List.length_drop, List.length_cons] at hcount
        omega
      rw [headingExtent, hj]
      dsimp only
      rw [hline, hat, hk, if_neg Bool.false_ne_true, if_neg Bool.false_ne_true]
      by_cases hnone : rest.drop word.length = []
      · -- The word is the last one.
        have hstop : i + blanks.length + (word.length + 1) = run.letters.length := by
          have hle := List.drop_eq_nil_iff.mp hnone
          omega
        rw [hstop, headingExtent_end (Nat.le_refl _)]
      · rw [ih]
        · rfl
        · intro d hd
          rw [hafter] at hd
          apply hsigns d
          rw [hdrop]
          exact List.mem_append_right _ (List.mem_cons_of_mem _ (List.mem_of_mem_drop hd))
        · rw [hafter]
          have hsuffix := List.drop_suffix (word.length + 1) (c :: rest)
          rw [List.drop_succ_cons] at hsuffix
          rcases hsuffix with ⟨front, hfront⟩
          rw [← hfront, List.getLast?_append_of_ne_nil _ hnone] at hend
          exact hend
        · omega

theorem headingLine?_of_text {depth : Nat} {text : List Char}
    (h : run.letters = List.replicate depth '#' ++ ' ' :: text) (hpos : 0 < depth)
    (hdepth : depth ≤ 6) (htext : isPlainLine text = true) :
    headingLine? run 0 = some (.heading depth (depth + 1) run.letters.length) := by
  have hskip : run.skip (· == '#') 0 = depth := Run.skip_of_replicate h (by simp)
  have hdrop : run.letters.drop depth = ' ' :: text := by
    rw [h, List.drop_append_of_le_length (by simp)]
    simp
  have htrimmed := isTrimmed_of_isPlainLine htext
  unfold isTrimmed at htrimmed
  simp only [Bool.and_eq_true] at htrimmed
  rcases htrimmed with ⟨⟨hne, hhead⟩, hlast⟩
  have hspace : run.sat Text.isSpace depth = true := by
    rw [Run.sat_eq, ← List.head?_drop, hdrop]
    rfl
  have hwords : run.skipSpace depth = depth + 1 := by
    rw [Run.skipSpace, Run.skip_eq, hdrop, List.takeWhile_cons_of_pos (by rfl),
      takeWhile_of_head? hhead]
    rfl
  have hextent : headingExtent run (run.size + 1) depth none =
      some (depth + 1, run.letters.length) := by
    rw [headingExtent_of_plain, hwords]
    · rfl
    · intro c hc
      rw [hdrop] at hc
      rcases List.mem_cons.mp hc with rfl | hmem
      · decide
      · have hinert := inert_of_isPlainLine htext hmem
        exact ⟨isInert_ne hinert (by decide), isInert_ne hinert (by decide)⟩
    · have hnil := ne_nil_of_isPlainLine htext
      rw [hdrop, List.getLast?_cons, List.getLast?_eq_some_getLast hnil]
      rw [List.getLast?_eq_some_getLast hnil] at hlast
      exact hlast
    · rw [Run.size_eq]
      omega
  unfold headingLine?
  dsimp only
  rw [hskip, hspace, hextent, Bool.or_true, Nat.zero_add, Nat.sub_zero]
  simp [hpos, hdepth]

theorem headingLine?_of_signs {depth : Nat} (h : run.letters = List.replicate depth '#')
    (hpos : 0 < depth) (hdepth : depth ≤ 6) :
    headingLine? run 0 = some (.heading depth depth depth) := by
  have hskip : run.skip (· == '#') 0 = depth := by
    apply Run.skip_of_replicate
    · rw [h, List.append_nil]
    · simp
  have hlength : run.letters.length = depth := by
    rw [h, List.length_replicate]
  have hend : run.atLineEnd depth = true := by
    rw [Run.atLineEnd_eq, List.getElem?_eq_none (Nat.le_of_eq hlength)]
    rfl
  unfold headingLine?
  dsimp only
  rw [hskip, hend, headingExtent_end (Nat.le_of_eq hlength), Run.size_eq, hlength, Bool.true_or,
    Nat.zero_add, Nat.sub_zero]
  simp [hpos, hdepth]

/-!
# Fences
-/

/-- Whether a character stands for itself after the fence of a code. -/
def isInfoChar (c : Char) : Bool := !"\n\r\t&\\\x60\uFEFF".toList.contains c

theorem resolvedLines_of_plain {first : Nat} (h : run.Spells source first cs)
    (hplain : forall c, c ∈ cs -> c ≠ '\n' ∧ c ≠ '&' ∧ c ≠ '\\') :
    run.resolvedLines source (run.size + 1) 0 = String.ofList cs := by
  have hsize : run.size = cs.length := by
    rw [Run.size_eq, h.letters]
  have hend : run.skip (· != '\n') 0 = run.size := by
    rw [Run.skip_eq, h.letters, List.drop_zero, Nat.zero_add, hsize, List.takeWhile_eq_self_iff.mpr]
    intro c hc
    simpa using (hplain c hc).1
  have hrest : run.skipPlain 1 = max 1 run.size := by
    rw [Run.skipPlain, Run.skip_eq, h.letters, List.takeWhile_eq_self_iff.mpr, List.length_drop,
      hsize]
    · omega
    · intro c hc
      have hne := hplain c (List.mem_of_mem_drop hc)
      simpa using ⟨hne.2.2, hne.2.1⟩
  have hfirst (c : Char) (hc : c = '&' ∨ c = '\\') : run.isAt 0 c = false := by
    rw [Bool.eq_false_iff]
    intro hat
    rw [Run.isAt_iff, h.letters] at hat
    have hne := hplain c (List.mem_of_getElem? hat)
    rcases hc with rfl | rfl
    · exact hne.2.1 rfl
    · exact hne.2.2 rfl
  have hescapes : run.escapes 0 = false := by
    rw [Run.escapes, hfirst '\\' (Or.inr rfl)]
    rfl
  have hreference : run.reference? 0 = none := by
    unfold Run.reference?
    rw [hfirst '&' (Or.inl rfl)]
    rfl
  have hnone (fuel : Nat) : run.resolved source fuel run.size run.size = "" := by
    cases fuel with
    | zero =>
        rfl
    | succ fuel =>
        rw [Run.resolved, if_pos (Nat.le_refl _)]
  have htext : run.text source 0 run.size = String.ofList cs := by
    rw [h.text_eq (Nat.zero_le _) (Nat.le_of_eq hsize), List.drop_zero, Nat.sub_zero, hsize,
      List.take_length]
  rw [Run.resolvedLines, hend, if_neg (Nat.lt_irrefl _), Run.resolved, hescapes, hreference]
  by_cases hzero : run.size ≤ 0
  · rw [if_pos hzero, List.length_eq_zero_iff.mp (hsize.symm.trans (Nat.le_zero.mp hzero))]
  · have hmin : min run.size (run.skipPlain (0 + 1)) = run.size := by
      rw [hrest]
      omega
    rw [if_neg hzero]
    dsimp only
    rw [hmin, htext, hnone, String.append_empty]
    rfl

/-- What follows the fence of a code is read as it is. -/
theorem decoded_of_plain {first j : Nat} (h : run.Spells source first cs) (hij : i ≤ j)
    (hj : j ≤ cs.length)
    (hplain : forall c, c ∈ (cs.drop i).take (j - i) -> isInfoChar c = true) :
    run.decoded source i j = String.ofList ((cs.drop i).take (j - i)) := by
  apply resolvedLines_of_plain (h.part hij hj)
  intro c hc
  have hinfo := hplain c hc
  have hne (other : Char) (hother : isInfoChar other = false) : c ≠ other := by
    intro heq
    rw [heq, hother] at hinfo
    cases hinfo
  exact ⟨hne '\n' (by decide), hne '&' (by decide), hne '\\' (by decide)⟩

/-- A text, if there is something in it. -/
def given (cs : List Char) : Option String := if cs.isEmpty then none else some (String.ofList cs)

theorem given_of_decoded {first j : Nat} {ds : List Char} (h : run.Spells source first cs)
    (hij : i ≤ j) (hj : j ≤ cs.length) (hcut : (cs.drop i).take (j - i) = ds)
    (hplain : forall c, c ∈ ds -> isInfoChar c = true) :
    (if i < j then some (run.decoded source i j) else none) = given ds := by
  have hlength : ds.length = j - i := by
    rw [← hcut, List.length_take, List.length_drop]
    omega
  unfold given
  by_cases hlt : i < j
  · have hne : ds.isEmpty = false := by
      rw [List.isEmpty_eq_false_iff, ← List.length_pos_iff]
      omega
    rw [if_pos hlt, hne, decoded_of_plain h hij hj (by rw [hcut]; exact hplain), hcut]
    rfl
  · have hnil : ds = [] := by
      rw [← List.length_eq_zero_iff]
      omega
    rw [if_neg hlt, hnil]
    rfl

section Fence

variable {first n : Nat} {word gap rest : List Char}

/-- What follows the fence of a code: its language, and what else is said of it. -/
structure FenceInfo (word gap rest : List Char) : Prop where
  inWord : forall c, c ∈ word -> isInfoChar c = true ∧ c ≠ ' '
  inRest : forall c, c ∈ rest -> isInfoChar c = true
  start : rest.head?.all (!Text.isSpace ·) = true
  between : gap = [' '] ∨ gap = [] ∧ rest = []
  first : word = [] -> gap = [] ∧ rest = []

namespace FenceInfo

theorem not_isSpace (h : FenceInfo word gap rest) {c : Char} (hc : c ∈ word) :
    Text.isSpace c = false := by
  have hchar := h.inWord c hc
  have htab : c ≠ '\t' := by
    intro heq
    rw [heq] at hchar
    cases hchar.1
  simp [Text.isSpace, hchar.2, htab]

theorem isInfoChar_of_mem (h : FenceInfo word gap rest) {c : Char}
    (hc : c ∈ word ++ (gap ++ rest)) : isInfoChar c = true := by
  rcases List.mem_append.mp hc with hword | hafter
  · exact (h.inWord c hword).1
  · rcases List.mem_append.mp hafter with hgap | hrest
    · rcases h.between with hblank | ⟨hnil, _⟩
      · rw [hblank] at hgap
        rw [List.mem_singleton.mp hgap]
        decide
      · rw [hnil] at hgap
        cases hgap
    · exact h.inRest c hrest

theorem not_mem (h : FenceInfo word gap rest) {c : Char} (hc : isInfoChar c = false) :
    c ∉ word ++ (gap ++ rest) := by
  intro hmem
  rw [h.isInfoChar_of_mem hmem] at hc
  cases hc

theorem head?_info (h : FenceInfo word gap rest) :
    (word ++ (gap ++ rest)).head?.all (!Text.isSpace ·) = true := by
  cases hword : word with
  | nil =>
      rcases h.first hword with ⟨hgap, hrest⟩
      rw [hgap, hrest]
      rfl
  | cons c word =>
      have hc := h.not_isSpace (c := c) (by rw [hword]; exact List.mem_cons_self)
      simp [hc]

theorem takeWhile_gap (h : FenceInfo word gap rest) :
    (gap ++ rest).takeWhile (fun c => !Text.isSpace c) = [] ∧
      (gap ++ rest).takeWhile Text.isSpace = gap := by
  rcases h.between with hgap | ⟨hgap, hrest⟩
  · rw [hgap]
    constructor
    · rfl
    · rw [List.singleton_append, List.takeWhile_cons_of_pos (by rfl), takeWhile_of_head? h.start]
  · rw [hgap, hrest]
    constructor
    · rfl
    · rfl

end FenceInfo

theorem fenceLine?_of_info
    (h : run.Spells source first (List.replicate n '\x60' ++ (word ++ (gap ++ rest))))
    (hn : 3 ≤ n) (hinfo : FenceInfo word gap rest) :
    fenceLine? source run 0 = some (.fence 0 '\x60' n (given word) (given rest)) := by
  have hletters := h.letters
  have hsize : run.size = n + (word.length + (gap.length + rest.length)) := by
    rw [Run.size_eq, hletters]
    simp
  have hdrop : run.letters.drop n = word ++ (gap ++ rest) := by
    rw [hletters, List.drop_append_of_le_length (by simp)]
    simp
  have hafter : run.letters.drop (n + word.length) = gap ++ rest := by
    rw [← List.drop_drop, hdrop, List.drop_left]
  have hmarks : run.skip (· == '\x60') 0 = n := by
    apply Run.skip_of_replicate hletters
    intro hhead
    exact hinfo.not_mem (by decide) (List.mem_of_mem_head? hhead)
  have hstart : run.skipSpace n = n := by
    apply Run.skip_of_head?
    rw [hdrop]
    exact hinfo.head?_info
  have hstop : run.skip (fun c => !Text.isSpace c) n = n + word.length := by
    rw [Run.skip_eq, hdrop, List.takeWhile_append_of_pos, hinfo.takeWhile_gap.1, List.append_nil]
    intro c hc
    rw [hinfo.not_isSpace hc]
    rfl
  have hother : run.skipSpace (n + word.length) = n + word.length + gap.length := by
    rw [Run.skipSpace, Run.skip_eq, hafter, hinfo.takeWhile_gap.2]
  have hchars : (run.chars n run.size).contains '\x60' = false := by
    rw [Bool.eq_false_iff, Run.chars_eq, hdrop]
    intro hcontains
    exact hinfo.not_mem (by decide) (List.mem_of_mem_take (List.contains_iff_mem.mp hcontains))
  have hlength := h.letters ▸ (Run.size_eq run).symm
  have hlang : (if n < n + word.length then some (run.decoded source n (n + word.length)) else none)
      = given word := by
    apply given_of_decoded h (Nat.le_add_right _ _)
    · omega
    · rw [← hletters, hdrop, Nat.add_sub_cancel_left, List.take_left]
    · exact fun c hc => (hinfo.inWord c hc).1
  have hmeta : (if n + word.length + gap.length < run.size then
      some (run.decoded source (n + word.length + gap.length) run.size) else none) =
        given rest := by
    have hcut : run.size - (n + word.length + gap.length) = rest.length := by
      omega
    apply given_of_decoded h
    · omega
    · exact Nat.le_of_eq hlength.symm
    · rw [← hletters, ← List.drop_drop, hafter, List.drop_left, hcut, List.take_length]
    · exact hinfo.inRest
  have hindent : (source.content (run.place 0) (run.place 0)).length = 0 := by
    have hplace := h.place_isAt (Nat.zero_le _)
    rw [h.holds.content_eq hplace hplace (Nat.le_refl _) (Nat.zero_le _)]
    simp
  have hfirst : run.char? 0 = some '\x60' := by
    rw [Run.char?_eq, hletters, List.getElem?_append_left]
    · rw [List.getElem?_replicate, if_pos (by omega)]
    · rw [List.length_replicate]
      omega
  unfold fenceLine?
  rw [hfirst]
  dsimp only
  rw [hmarks, hstart, hstop, hother, hchars, hlang, hmeta, hindent]
  simp [hn]

end Fence

/-!
# Ends of fences
-/

section Ends

open Writer

variable {first second : Nat × Nat} {size : Nat}

/-- What is known of the runs of a character after one more character: the size of the longest
one, and of the one that has not ended. -/
def runStep (c : Char) (state : Nat × Nat) (d : Char) : Nat × Nat :=
  if d == c then (max state.1 (state.2 + 1), state.2 + 1) else (state.1, 0)

theorem longestRun_eq (c : Char) (cs : List Char) :
    longestRun c cs = (cs.foldl (runStep c) (0, 0)).1 := rfl

theorem le_runs (c : Char) (cs : List Char) (state : Nat × Nat) :
    state.1 ≤ (cs.foldl (runStep c) state).1 := by
  induction cs generalizing state with
  | nil =>
      exact Nat.le_refl _
  | cons d cs ih =>
      refine Nat.le_trans ?_ (ih (runStep c state d))
      unfold runStep
      split
      · exact Nat.le_max_left _ _
      · exact Nat.le_refl _

theorem runs_mono (c : Char) (cs : List Char) (hlongest : first.1 ≤ second.1)
    (hsize : first.2 ≤ second.2) :
    (cs.foldl (runStep c) first).1 ≤ (cs.foldl (runStep c) second).1 := by
  induction cs generalizing first second with
  | nil =>
      exact hlongest
  | cons d cs ih =>
      apply ih
      · unfold runStep
        split
        · dsimp only
          omega
        · exact hlongest
      · unfold runStep
        split
        · dsimp only
          omega
        · exact Nat.le_refl _

/-- No run is longer in a part of a text. -/
theorem longestRun_le_append (c : Char) (before cs after : List Char) :
    longestRun c cs ≤ longestRun c (before ++ (cs ++ after)) := by
  rw [longestRun_eq, longestRun_eq, List.foldl_append, List.foldl_append]
  exact Nat.le_trans (runs_mono c cs (Nat.zero_le _) (Nat.zero_le _)) (le_runs c after _)

theorem length_takeWhile_le (c : Char) (cs : List Char) :
    (cs.takeWhile (· == c)).length ≤ longestRun c cs := by
  have hrun : forall state : Nat × Nat, state.2 ≤ state.1 ->
      (cs.takeWhile (· == c)).length + state.2 ≤ (cs.foldl (runStep c) state).1 := by
    induction cs with
    | nil =>
        intro state hstate
        simpa using hstate
    | cons d cs ih =>
        intro state hstate
        rw [List.foldl_cons, runStep]
        by_cases hd : (d == c) = true
        · have hbelow := ih (max state.1 (state.2 + 1), state.2 + 1) (Nat.le_max_right _ _)
          rw [if_pos hd, List.takeWhile_cons, if_pos hd, List.length_cons]
          dsimp only at hbelow
          omega
        · rw [if_neg hd, List.takeWhile_cons, if_neg hd, List.length_nil, Nat.zero_add]
          exact Nat.le_trans hstate (le_runs c cs (state.1, 0))
  exact hrun (0, 0) (Nat.le_refl _)

/-- A line ends no fence that is longer than the runs of its mark in the line. -/
theorem endsFence_of_short (h : longestRun c run.letters < size) :
    endsFence run c size = false := by
  have hskip (i : Nat) : run.skip (· == c) i < i + size := by
    have hrest := length_takeWhile_le c (run.letters.drop i)
    have hpart := longestRun_le_append c (run.letters.take i) (run.letters.drop i) []
    rw [List.append_nil, List.take_append_drop] at hpart
    rw [Run.skip_eq]
    omega
  unfold endsFence
  dsimp only
  rw [decide_eq_false (Nat.not_le_of_lt (hskip _))]
  rfl

theorem endsFence_of_marks (h : run.letters = List.replicate size c) (hc : Text.isSpace c = false) :
    endsFence run c size = true := by
  have hstart : run.skipUpTo Text.isSpace 3 0 = 0 := by
    apply Run.skipUpTo_of_head?
    rw [h, List.drop_zero]
    cases size with
    | zero =>
        rfl
    | succ size =>
        simp [List.replicate_succ, hc]
  have hmarks : run.skip (· == c) 0 = size := by
    apply Run.skip_of_replicate
    · rw [h, List.append_nil]
    · simp
  have hlength : run.letters.length ≤ size := by
    rw [h, List.length_replicate]
  have hend : run.skipSpace size = size := by
    apply Run.skip_of_head?
    rw [List.drop_eq_nil_of_le hlength]
    rfl
  unfold endsFence
  dsimp only
  rw [hstart, hmarks, hend, Run.atLineEnd_eq, List.getElem?_eq_none hlength]
  simp

end Ends

end Kinds

end Markdown
end Docloom
