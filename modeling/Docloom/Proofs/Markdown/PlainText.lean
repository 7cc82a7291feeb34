import Docloom.Markdown.Document
import Docloom.Proofs.Markdown.Spelling
import Mathlib.Data.List.Infix

/-!
# Text without markup

A run in which no character can start a token is read as one text: the run is cut at the
characters that some tokens start with and at its line endings, and put together again.
-/

namespace Docloom
namespace Markdown

/-!
# Characters that mean nothing
-/

/-- Whether a character stands for itself wherever it is in a line. -/
def isInert (c : Char) : Bool :=
  !"\n\r\t#&*:<@[\\]_\x60~\uFEFF".toList.contains c

/-- Whether a text starts as urls without a protocol do. -/
def startsWww : List Char -> Bool
  | a :: b :: c :: d :: _ =>
      let isW (c : Char) : Bool := c == 'w' || c == 'W'
      isW a && isW b && isW c && d == '.'
  | _ => false

/-- Lines with line endings between them. -/
def joined : List (List Char) -> List Char
  | [] => []
  | line :: lines => line ++ lines.flatMap ('\n' :: ·)

/-- Whether there is something in a line, but no blank at its start or end. -/
def isTrimmed (cs : List Char) : Bool :=
  !cs.isEmpty && cs.head?.all (!Text.isSpace ·) && cs.getLast?.all (!Text.isSpace ·)

/-- Whether a line means nothing but its characters. -/
def isPlainLine (cs : List Char) : Bool :=
  isTrimmed cs && cs.all isInert && !cs.tails.any startsWww

/-- Whether characters are the lines of a text that mean nothing but their characters. -/
def isPlainText (cs : List Char) : Bool := (Text.splitChars (· == '\n') cs).all isPlainLine

section Characters

variable {c : Char} {cs piece : List Char}

theorem isInert_ne {other : Char} (h : isInert c = true) (hother : isInert other = false) :
    c ≠ other := by
  intro heq
  rw [heq, hother] at h
  cases h

theorem exists_piece_of_mem (hc : c ∈ cs) (hline : c ≠ '\n') :
    exists piece, piece ∈ Text.splitChars (· == '\n') cs ∧ c ∈ piece := by
  have hmem : c ∈ (Text.splitChars (· == '\n') cs).flatMap ('\n' :: ·) := by
    rw [Text.flatMap_splitChars]
    exact List.mem_cons_of_mem _ hc
  rcases List.mem_flatMap.mp hmem with ⟨piece, hpiece, hin⟩
  exact ⟨piece, hpiece, (List.mem_cons.mp hin).resolve_left hline⟩

theorem isPlainLine_of_mem (h : isPlainText cs = true)
    (hpiece : piece ∈ Text.splitChars (· == '\n') cs) : isPlainLine piece = true :=
  List.all_eq_true.mp h piece hpiece

theorem inert_of_isPlainLine (h : isPlainLine cs = true) (hc : c ∈ cs) : isInert c = true := by
  unfold isPlainLine at h
  simp only [Bool.and_eq_true] at h
  exact List.all_eq_true.mp h.1.2 c hc

theorem inert_of_isPlainText (h : isPlainText cs = true) (hc : c ∈ cs) :
    c = '\n' ∨ isInert c = true := by
  by_cases hline : c = '\n'
  · exact Or.inl hline
  · rcases exists_piece_of_mem hc hline with ⟨piece, hpiece, hin⟩
    exact Or.inr (inert_of_isPlainLine (isPlainLine_of_mem h hpiece) hin)

theorem not_mem_of_isPlainText (h : isPlainText cs = true) (hline : c ≠ '\n')
    (hc : isInert c = false) : c ∉ cs := by
  intro hmem
  rcases inert_of_isPlainText h hmem with heq | hinert
  · exact hline heq
  · rw [hc] at hinert
    cases hinert

theorem joined_splitChars (cs : List Char) : joined (Text.splitChars (· == '\n') cs) = cs := by
  have hjoin := Text.flatMap_splitChars '\n' cs
  cases hsplit : Text.splitChars (· == '\n') cs with
  | nil =>
      exact absurd hsplit (Text.splitChars_ne_nil _ cs)
  | cons line lines =>
      rw [hsplit, List.flatMap_cons, List.cons_append] at hjoin
      exact List.tail_eq_of_cons_eq hjoin

/-- A text is its lines with line endings between them. -/
theorem exists_lines (h : isPlainText cs = true) :
    exists first others, cs = first ++ others.flatMap ('\n' :: ·) ∧
      forall line, line ∈ first :: others -> isPlainLine line = true := by
  cases hsplit : Text.splitChars (· == '\n') cs with
  | nil =>
      exact absurd hsplit (Text.splitChars_ne_nil _ cs)
  | cons first others =>
      have hjoin := joined_splitChars cs
      rw [hsplit] at hjoin
      refine ⟨first, others, hjoin.symm, ?_⟩
      intro line hline
      rw [← hsplit] at hline
      exact isPlainLine_of_mem h hline

theorem startsWww_of_newline {rest : List Char} (h : startsWww (cs ++ '\n' :: rest) = true) :
    startsWww cs = true := by
  rcases cs with _ | ⟨a, _ | ⟨b, _ | ⟨c, _ | ⟨d, cs⟩⟩⟩⟩
  · cases rest with
    | nil =>
        cases h
    | cons b rest =>
        rcases rest with _ | ⟨c, _ | ⟨d, rest⟩⟩ <;> simp [startsWww] at h
  · rcases rest with _ | ⟨c, _ | ⟨d, rest⟩⟩ <;> simp [startsWww] at h
  · cases rest <;> simp [startsWww] at h
  · simp [startsWww] at h
  · exact h

theorem startsWww_drop_lines {first : List Char} {others : List (List Char)}
    (h : forall line, line ∈ first :: others -> line.tails.any startsWww = false) (i : Nat) :
    startsWww ((first ++ others.flatMap ('\n' :: ·)).drop i) = false := by
  induction others generalizing first i with
  | nil =>
      rw [List.flatMap_nil, List.append_nil, Bool.eq_false_iff]
      intro hstarts
      have hany : first.tails.any startsWww = true :=
        List.any_eq_true.mpr ⟨_, (List.mem_tails _ _).mpr (List.drop_suffix i first), hstarts⟩
      rw [h first List.mem_cons_self] at hany
      cases hany
  | cons next others ih =>
      rw [List.flatMap_cons, List.cons_append, Bool.eq_false_iff]
      intro hstarts
      by_cases hi : i ≤ first.length
      · rw [List.drop_append_of_le_length hi] at hstarts
        have hany : first.tails.any startsWww = true :=
          List.any_eq_true.mpr ⟨_, (List.mem_tails _ _).mpr (List.drop_suffix i first),
            startsWww_of_newline hstarts⟩
        rw [h first List.mem_cons_self] at hany
        cases hany
      · have hsplit : i = first.length + ((i - first.length - 1) + 1) := by
          omega
        rw [hsplit, List.drop_length_add_append, List.drop_succ_cons,
          ih fun line hline => h line (List.mem_cons_of_mem _ hline)] at hstarts
        cases hstarts

theorem startsWww_drop (h : isPlainText cs = true) (i : Nat) :
    startsWww (cs.drop i) = false := by
  rcases exists_lines h with ⟨first, others, rfl, hlines⟩
  apply startsWww_drop_lines
  intro line hline
  have hplain := hlines line hline
  unfold isPlainLine at hplain
  simp only [Bool.and_eq_true, Bool.not_eq_true'] at hplain
  exact hplain.2

end Characters

/-!
# Urls
-/

namespace Run

variable {run : Run}

theorem protocolUrl?_of_plain (h : isPlainText run.letters = true) (i : Nat) :
    run.protocolUrl? i = none := by
  have hcolon (j : Nat) : run.looksAt [':', '/', '/'] j = false := by
    have hne : run.letters[j]? ≠ some ':' := by
      intro hletter
      exact not_mem_of_isPlainText h (by decide) (by decide) (List.mem_of_getElem? hletter)
    rw [looksAt, isAt, char?_eq, beq_false_of_ne hne]
    rfl
  unfold protocolUrl?
  dsimp only
  split
  · rfl
  · rw [hcolon, Bool.and_false]
    rfl

theorem wwwUrl?_of_plain (h : isPlainText run.letters = true) (i : Nat) :
    run.wwwUrl? i = none := by
  unfold wwwUrl?
  dsimp only
  rw [if_neg]
  intro hstarts
  simp only [Bool.and_eq_true, beq_iff_eq] at hstarts
  rcases hstarts with ⟨⟨⟨_, hw⟩, hdot⟩, _⟩
  rw [skipUpTo_eq] at hw
  rw [isAt_iff, ← List.getElem?_drop] at hdot
  have hplain := startsWww_drop h i
  generalize run.letters.drop i = cs at hw hdot hplain
  rcases cs with _ | ⟨a, _ | ⟨b, _ | ⟨c, _ | ⟨d, cs⟩⟩⟩⟩
  · cases hdot
  · cases hdot
  · cases hdot
  · cases hdot
  · have hself : [a, b, c].takeWhile (fun c => c == 'w' || c == 'W') = [a, b, c] := by
      apply (List.takeWhile_prefix _).eq_of_length
      exact Nat.add_left_cancel hw
    have hall := List.takeWhile_eq_self_iff.mp hself
    have hstarts : startsWww (a :: b :: c :: '.' :: cs) = true := by
      unfold startsWww
      dsimp only
      rw [hall a (by simp), hall b (by simp), hall c (by simp)]
      rfl
    cases hdot
    rw [hstarts] at hplain
    cases hplain

theorem bareUrl?_of_plain (h : isPlainText run.letters = true) (i : Nat) :
    run.bareUrl? i = none := by
  rw [bareUrl?, protocolUrl?_of_plain h, wwwUrl?_of_plain h]
  split
  · rfl
  · rfl

end Run

/-!
# Tokens
-/

/-- The tokens of a text without markup that stands from an index on. -/
def plainTokens (i : Nat) : List Char -> List Inline
  | [] => []
  | c :: cs =>
      if c = '\n' then
        .line i :: plainTokens (i + 1) cs
      else
        Inline.cons (.data i (i + 1)) (plainTokens (i + 1) cs)

/-- Whether a token is characters that stand for themselves, or a line ending. -/
def Inline.isPlain : Inline -> Bool
  | .data _ _ | .line _ => true
  | _ => false

section Tokens

variable {source : Source} {labels : Labels} {run : Run} {cs ds : List Char} {c : Char} {i : Nat}
  {tokens : List Inline}

theorem cons_data_cons (i j k : Nat) (tokens : List Inline) :
    Inline.cons (.data i j) (Inline.cons (.data j k) tokens) = Inline.cons (.data i k) tokens := by
  cases tokens with
  | nil =>
      simp [Inline.cons]
  | cons token tokens =>
      cases token with
      | data first last =>
          by_cases h : k = first
          · simp [Inline.cons, h]
          · simp [Inline.cons, h]
      | _ =>
          simp [Inline.cons]

theorem plainTokens_append (hne : ds ≠ []) (hline : '\n' ∉ ds) (i : Nat) (cs : List Char) :
    plainTokens i (ds ++ cs) =
      Inline.cons (.data i (i + ds.length)) (plainTokens (i + ds.length) cs) := by
  induction ds generalizing i with
  | nil =>
      exact absurd rfl hne
  | cons d ds ih =>
      rw [List.mem_cons, not_or] at hline
      rw [List.cons_append, plainTokens, if_neg (Ne.symm hline.1)]
      by_cases hds : ds = []
      · rw [hds]
        rfl
      · rw [ih hds hline.2, cons_data_cons, List.length_cons, Nat.add_comm ds.length, Nat.add_assoc]

/-- The tokens of a line with others after it. -/
theorem plainTokens_line (hne : ds ≠ []) (hline : '\n' ∉ ds) (i : Nat) (cs : List Char) :
    plainTokens i (ds ++ '\n' :: cs) =
      .data i (i + ds.length) :: .line (i + ds.length) :: plainTokens (i + ds.length + 1) cs := by
  rw [plainTokens_append hne hline, plainTokens, if_pos rfl]
  rfl

theorem plainTokens_last (hne : ds ≠ []) (hline : '\n' ∉ ds) (i : Nat) :
    plainTokens i ds = [.data i (i + ds.length)] := by
  have h := plainTokens_append hne hline i []
  rw [List.append_nil] at h
  exact h

/-- What leaves tokens as they are leaves all of them so. -/
theorem tokens_foldl {f : List Piece -> Inline -> List Piece}
    (hkept : forall pieces token, token.isPlain = true -> f pieces token = .token token :: pieces)
    (h : forall token, token ∈ tokens -> token.isPlain = true) (pieces : List Piece)
    (rest : List Inline) :
    Piece.tokens (tokens.foldl f pieces) rest =
      Piece.tokens pieces (tokens.foldr Inline.cons rest) := by
  induction tokens generalizing pieces rest with
  | nil =>
      rfl
  | cons token tokens ih =>
      rw [List.foldl_cons, ih fun other hother => h other (List.mem_cons_of_mem _ hother),
        List.foldr_cons, hkept pieces token (h token List.mem_cons_self)]
      rfl

theorem matchEmphasis_of_plain (h : forall token, token ∈ tokens -> token.isPlain = true) :
    matchEmphasis source run tokens = tokens.foldr Inline.cons [] := by
  unfold matchEmphasis
  apply tokens_foldl _ h
  intro pieces token hplain
  cases token with
  | data | line =>
      rfl
  | _ =>
      cases hplain

theorem readToken_newline (hletter : run.letters[i]? = some '\n') (scan : Scan) :
    readToken source labels run scan i = (scan.push (.line i), i + 1) := by
  unfold readToken
  dsimp only
  rw [Run.char?_eq, hletter]
  rfl

theorem readToken_inert (h : isPlainText run.letters = true)
    (hletter : run.letters[i]? = some c) (hinert : isInert c = true) (scan : Scan) :
    readToken source labels run scan i =
      (scan.push (.data i (run.skip (fun c => !startsToken c) (i + 1))),
        run.skip (fun c => !startsToken c) (i + 1)) := by
  have hne (other : Char) (hother : isInert other = false) : (c == other) = false :=
    beq_false_of_ne (isInert_ne hinert hother)
  have hbracket : run.isAt (i + 1) '[' = false := by
    rw [Bool.eq_false_iff]
    intro hat
    have hletter := Run.isAt_iff.mp hat
    exact not_mem_of_isPlainText h (by decide) (by decide) (List.mem_of_getElem? hletter)
  unfold readToken
  dsimp only
  rw [Run.char?_eq, hletter]
  dsimp only
  rw [hne '\n' (by decide), hne '[' (by decide), hne ']' (by decide), hne '&' (by decide),
    hne '*' (by decide), hne '_' (by decide), hne '~' (by decide), hne '<' (by decide),
    hne '\\' (by decide), hne '\x60' (by decide), hbracket, Run.bareUrl?_of_plain h]
  by_cases hmark : (c == '!') = true
  · rw [hmark]
    rfl
  · rw [Bool.not_eq_true] at hmark
    rw [hmark]
    rfl

/-- A token of a text without markup is a line ending, or characters up to one that may start a
token. -/
theorem readToken_of_plain (h : isPlainText run.letters = true) (scan : Scan)
    (hi : i < run.letters.length) :
    exists token size, readToken source labels run scan i = (scan.push token, i + (size + 1)) ∧
      token.isPlain = true ∧ i + (size + 1) ≤ run.letters.length ∧
      Inline.cons token (plainTokens (i + (size + 1)) (run.letters.drop (i + (size + 1)))) =
        plainTokens i (run.letters.drop i) := by
  have hdrop := List.drop_eq_getElem_cons hi
  have hletter := List.getElem?_eq_getElem hi
  generalize run.letters[i] = c at hdrop hletter
  rcases inert_of_isPlainText h (List.mem_of_getElem? hletter) with rfl | hinert
  · refine ⟨.line i, 0, readToken_newline hletter scan, rfl, hi, ?_⟩
    rw [hdrop, plainTokens, if_pos rfl]
    rfl
  · have hread : readToken source labels run scan i = _ := readToken_inert h hletter hinert scan
    have hsplit : exists taken after, run.letters.drop (i + 1) = taken ++ after ∧
        (run.letters.drop (i + 1)).takeWhile (fun c => !startsToken c) = taken :=
      ⟨_, _, List.takeWhile_append_dropWhile.symm, rfl⟩
    rcases hsplit with ⟨taken, after, hsplit, htaken⟩
    rw [Run.skip_eq, htaken, Nat.add_assoc, Nat.add_comm 1] at hread
    have hafter : run.letters.drop (i + (taken.length + 1)) = after := by
      rw [Nat.add_comm taken.length, ← Nat.add_assoc, ← List.drop_drop, hsplit, List.drop_left]
    have hlines : '\n' ∉ c :: taken := by
      intro hmem
      rcases List.mem_cons.mp hmem with rfl | hrest
      · cases hinert
      · rw [← htaken] at hrest
        have hstarts := List.mem_takeWhile_imp hrest
        cases hstarts
    have hlength : i + (taken.length + 1) ≤ run.letters.length := by
      have hlength := congrArg List.length hsplit
      rw [List.length_append, List.length_drop] at hlength
      omega
    refine ⟨_, taken.length, hread, rfl, hlength, ?_⟩
    rw [hafter, hdrop, hsplit, ← List.cons_append,
      plainTokens_append (List.cons_ne_nil _ _) hlines]
    rfl

/-- The tokens of a text without markup are line endings and the characters between them. -/
theorem readTokens_of_plain (source : Source) (labels : Labels)
    (h : isPlainText run.letters = true) (scan : Scan) (hbrackets : scan.brackets = [])
    (hi : i ≤ run.letters.length) :
    exists more : List Inline,
      readTokens source labels run scan i = ⟨more.reverse ++ scan.tokens, []⟩ ∧
      (forall token, token ∈ more -> token.isPlain = true) ∧
      more.foldr Inline.cons [] = plainTokens i (run.letters.drop i) := by
  fun_induction readTokens source labels run scan i with
  | case1 scan i hlt next j hread ih =>
      rw [Run.size_eq] at hlt
      rcases readToken_of_plain h scan hlt with ⟨token, size, htoken, hplain, hle, hjoin⟩
      rw [htoken] at hread
      cases hread
      have hmax : max (i + 1) (i + (size + 1)) = i + (size + 1) := by
        omega
      rw [hmax] at ih ⊢
      rcases ih hbrackets hle with ⟨more, hmore, hall, hfold⟩
      refine ⟨token :: more, ?_, ?_, ?_⟩
      · rw [hmore, Scan.push, List.reverse_cons, List.append_assoc]
        rfl
      · intro other hother
        rcases List.mem_cons.mp hother with rfl | hrest
        · exact hplain
        · exact hall other hrest
      · rw [List.foldr_cons, hfold, hjoin]
  | case2 scan i hge =>
      rw [Run.size_eq] at hge
      have hend : i = run.letters.length := by
        omega
      refine ⟨[], ?_, ?_, ?_⟩
      · rw [← hbrackets]
        rfl
      · intro token htoken
        cases htoken
      · rw [hend, List.drop_length]
        rfl

theorem inlines_of_plain (h : isPlainText run.letters = true) :
    run.inlines source labels 0 = plainTokens 0 run.letters := by
  rcases readTokens_of_plain source labels h ⟨[], []⟩ rfl (Nat.zero_le _) with
    ⟨tokens, hread, hplain, hjoin⟩
  rw [List.append_nil] at hread
  unfold Run.inlines
  dsimp only
  rw [hread, List.length_nil, Scan.finish, List.reverse_reverse, matchEmphasis_of_plain hplain,
    hjoin, List.drop_zero]

end Tokens

/-!
# Elements
-/

section Elements

variable {source : Source} {labels : Labels} {run : Run} {first i j : Nat}
  {cs line rest : List Char} {start stop : Place} {others : List (List Char)}

theorem mails_of_plain (h : isPlainText run.letters = true) (limit fuel first i : Nat) :
    run.mails limit fuel first i = [] := by
  induction fuel generalizing i with
  | zero =>
      rfl
  | succ fuel ih =>
      have hsign : run.isAt i '@' = false := by
        rw [Bool.eq_false_iff]
        intro hat
        have hletter := Run.isAt_iff.mp hat
        exact not_mem_of_isPlainText h (by decide) (by decide) (List.mem_of_getElem? hletter)
      rw [Run.mails, hsign, ih]
      split
      · rfl
      · rfl

theorem takeWhile_of_head? {p : Char -> Bool} (h : cs.head?.all (!p ·) = true) :
    cs.takeWhile p = [] := by
  cases cs with
  | nil =>
      rfl
  | cons c cs =>
      apply List.takeWhile_cons_of_neg
      simpa using h

/-- There is nothing to take off the ends of a trimmed line. -/
theorem trimPlaces_of_trimmed (h : source.Holds first cs) (hstart : start.IsAt (first + i))
    (hstop : stop.IsAt (first + j)) (hij : i ≤ j) (hj : j ≤ cs.length)
    (htrimmed : isTrimmed ((cs.drop i).take (j - i)) = true) (atStart atEnd : Bool) :
    trimPlaces source start stop atStart atEnd = ⟨start, stop, false, false⟩ := by
  have hslice := h.slice hij hj
  generalize (cs.drop i).take (j - i) = line at hslice htrimmed
  unfold isTrimmed at htrimmed
  simp only [Bool.and_eq_true] at htrimmed
  rcases htrimmed with ⟨⟨hne, hhead⟩, hlast⟩
  have hleading : line.takeWhile Text.isSpace = [] := takeWhile_of_head? hhead
  have htrailing : line.reverse.takeWhile Text.isSpace = [] := by
    apply takeWhile_of_head?
    rw [List.head?_reverse]
    exact hlast
  have hlength : ¬ 0 = line.length := by
    intro hzero
    rw [List.length_eq_zero_iff.mp hzero.symm] at hne
    cases hne
  unfold trimPlaces
  dsimp only
  rw [hstart.2, hstop.2, hstart.1, hstop.1, if_pos rfl, if_pos rfl, hslice, htrailing, hleading]
  simp [hlength]

theorem ne_nil_of_isPlainLine (h : isPlainLine line = true) : line ≠ [] := by
  intro hnil
  rw [hnil] at h
  cases h

theorem not_newline_of_isPlainLine (h : isPlainLine line = true) : '\n' ∉ line := by
  intro hmem
  have hinert := inert_of_isPlainLine h hmem
  cases hinert

theorem isTrimmed_of_isPlainLine (h : isPlainLine line = true) : isTrimmed line = true := by
  unfold isPlainLine at h
  simp only [Bool.and_eq_true] at h
  exact h.1.1

theorem length_of_drop (hi : i ≤ cs.length) (hrest : cs.drop i = line ++ rest) :
    cs.length = i + line.length + rest.length := by
  have hlength := congrArg List.length hrest
  rw [List.length_drop, List.length_append] at hlength
  omega

theorem dataSegments_of_line (h : run.Spells source first cs) (hplain : isPlainText cs = true)
    (hi : i ≤ cs.length) (hrest : cs.drop i = line ++ rest) (hline : isPlainLine line = true)
    (inCell mails atStart atEnd : Bool) :
    Scope.dataSegments ⟨source, run, inCell⟩ i (i + line.length) mails atStart atEnd =
      ([.text (run.place i) (run.placeAfter (i + line.length)) (String.ofList line)], false) := by
  have hlength := length_of_drop hi hrest
  have hij := Nat.le_add_right i line.length
  have hj : i + line.length ≤ cs.length := by
    omega
  have hlt : i < i + line.length := by
    have hpos := List.length_pos_iff.mpr (ne_nil_of_isPlainLine hline)
    omega
  have hcut : (cs.drop i).take (i + line.length - i) = line := by
    rw [Nat.add_sub_cancel_left, hrest, List.take_left]
  have hstart := h.place_isAt hi
  have hstop := h.placeAfter_isAt hj
  have htrimmed := trimPlaces_of_trimmed h.holds hstart hstop hij hj
    (by rw [hcut]; exact isTrimmed_of_isPlainLine hline)
  have hmails : (if mails = true then
      run.mails (i + line.length) (run.size + 1) i i else []) = [] := by
    rw [mails_of_plain (by rw [h.letters]; exact hplain)]
    split
    · rfl
    · rfl
  unfold Scope.dataSegments
  dsimp only
  rw [hmails, Scope.dataSegments.go, if_pos hlt, htrimmed, h.holds.content_eq hstart hstop hij hj,
    hcut]
  rfl

theorem lineSegment_of_newline (h : run.Spells source first cs) (hi : cs[i]? = some '\n')
    (inCell : Bool) :
    Scope.lineSegment ⟨source, run, inCell⟩ i =
      .text (run.place i) (run.placeAfter (i + 1)) "\n" := by
  have hlt : i < cs.length := (List.getElem?_eq_some_iff.mp hi).1
  have hcut : (cs.drop i).take (i + 1 - i) = ['\n'] := by
    rw [List.drop_eq_getElem_cons hlt, Nat.add_sub_cancel_left, List.take_succ_cons,
      List.take_zero, (List.getElem?_eq_some_iff.mp hi).2]
  have htext := h.holds.between_eq (h.place_isAt hlt.le) (h.placeAfter_isAt hlt)
    (Nat.le_succ i) hlt
  rw [Scope.lineSegment, Run.lineEnding, htext, hcut]

theorem joinSegments_of_lines (h : run.Spells source first cs) (hplain : isPlainText cs = true)
    (hlines : forall other, other ∈ line :: others -> isPlainLine other = true)
    (hi : i ≤ cs.length) (hrest : cs.drop i = line ++ others.flatMap ('\n' :: ·))
    (inCell : Bool) (before : Option (Place × Place × String)) :
    exists last : Place, last.IsAt (first + cs.length) ∧
      joinSegments source before
          (Scope.segmentsFrom ⟨source, run, inCell⟩ true true true (plainTokens i (cs.drop i))) =
        [.ofText source ((before.map (·.2.2)).getD "" ++ String.ofList (cs.drop i))
          ((before.map (·.1)).getD (run.place i)) last] := by
  induction others generalizing i line before with
  | nil =>
      have hline := hlines line List.mem_cons_self
      have hdata := dataSegments_of_line h hplain hi hrest hline inCell true true true
      have hlength := length_of_drop hi hrest
      rw [List.flatMap_nil, List.length_nil, Nat.add_zero] at hlength
      rw [List.flatMap_nil, List.append_nil] at hrest
      refine ⟨run.placeAfter (i + line.length), ?_, ?_⟩
      · rw [hlength]
        exact h.placeAfter_isAt (Nat.le_of_eq hlength.symm)
      · rw [hrest, plainTokens_last (ne_nil_of_isPlainLine hline)
          (not_newline_of_isPlainLine hline), Scope.segmentsFrom, hdata]
        cases before with
        | none =>
            simp [joinSegments, joinSegments.flush]
        | some before =>
            simp [joinSegments, joinSegments.flush]
  | cons next others ih =>
      have hline := hlines line List.mem_cons_self
      have hdata := dataSegments_of_line h hplain hi hrest hline inCell true true true
      have hlength := length_of_drop hi hrest
      rw [List.flatMap_cons, List.cons_append] at hrest hlength
      rw [List.length_cons] at hlength
      have hafter : cs.drop (i + line.length) =
          '\n' :: (next ++ others.flatMap ('\n' :: ·)) := by
        rw [← List.drop_drop, hrest, List.drop_left]
      have hbelow : cs.drop (i + line.length + 1) = next ++ others.flatMap ('\n' :: ·) := by
        rw [← List.drop_drop, hafter]
        rfl
      have hletter : cs[i + line.length]? = some '\n' := by
        rw [← List.head?_drop, hafter]
        rfl
      have hnext := ih (fun other hother => hlines other (List.mem_cons_of_mem _ hother))
        (by omega) hbelow (some ((before.map (·.1)).getD (run.place i),
          run.placeAfter (i + line.length + 1),
          (before.map (·.2.2)).getD "" ++ String.ofList line ++ "\n"))
      rcases hnext with ⟨last, hlast, hjoin⟩
      rw [hbelow] at hjoin
      refine ⟨last, hlast, ?_⟩
      have hsegments : Scope.segmentsFrom ⟨source, run, inCell⟩ true true true
          (plainTokens i (cs.drop i)) =
          .text (run.place i) (run.placeAfter (i + line.length)) (String.ofList line) ::
            .text (run.place (i + line.length)) (run.placeAfter (i + line.length + 1)) "\n" ::
              Scope.segmentsFrom ⟨source, run, inCell⟩ true true true
                (plainTokens (i + line.length + 1) (next ++ others.flatMap ('\n' :: ·))) := by
        rw [hrest, plainTokens_line (ne_nil_of_isPlainLine hline)
          (not_newline_of_isPlainLine hline), Scope.segmentsFrom, hdata]
        dsimp only
        rw [lineSegment_of_newline h hletter]
        rfl
      have htext : String.ofList (cs.drop i) = String.ofList line ++ "\n" ++
          String.ofList (next ++ others.flatMap ('\n' :: ·)) := by
        rw [hrest]
        apply String.toList_injective
        simp
      rw [hsegments, htext]
      cases before with
      | none =>
          simp only [Option.map_none, Option.getD_none, Option.map_some, Option.getD_some,
            String.empty_append] at hjoin ⊢
          rw [joinSegments, joinSegments, hjoin]
      | some before =>
          simp only [Option.map_some, Option.getD_some] at hjoin ⊢
          rw [joinSegments, joinSegments, hjoin]
          simp only [String.append_assoc]

/-- A run that spells text without markup is read as this text. -/
theorem runElements_of_plain (h : run.Spells source first cs) (hplain : isPlainText cs = true)
    (labels : Labels) (inCell : Bool) :
    exists position, runElements source labels run inCell =
      [⟨.text (some (String.ofList cs)), some (String.ofList cs), position, []⟩] := by
  rcases exists_lines hplain with ⟨line, others, hcs, hlines⟩
  have hletters : isPlainText run.letters = true := by
    rw [h.letters]
    exact hplain
  rcases joinSegments_of_lines h hplain hlines (Nat.zero_le _) hcs inCell none with
    ⟨last, hlast, hjoin⟩
  have hstart := h.place_isAt (Nat.zero_le _)
  have hwritten := h.holds.between_eq hstart hlast (Nat.zero_le _) (Nat.le_refl _)
  rw [Nat.sub_zero, List.drop_zero, List.take_length] at hwritten
  refine ⟨positionOf (run.place 0) last, ?_⟩
  unfold runElements Scope.elements
  rw [inlines_of_plain hletters, h.letters]
  simp only [List.drop_zero, Option.map_none, Option.getD_none, String.empty_append] at hjoin
  have hle : (run.place 0).index ≤ last.index := by
    rw [hstart.1, hlast.1]
    exact Nat.le_add_right _ _
  rw [hjoin, Element.ofText, Source.between?, if_pos hle, hwritten]

end Elements

end Markdown
end Docloom
