import Docloom.Proofs.Markdown.CodeLines

/-!
# Code between fences

What containers put before lines is written after each line feed in code.  A reader ends a line at
a carriage return too, so code is read as it was written just if its carriage returns end no lines
with something after them in a container.
-/

namespace Docloom
namespace Markdown

open Writer

/-!
# Code as it is written
-/

/-- A line of code with what stands before it where it is written. -/
structure MarkedLine where
  mark : List Char
  line : CodeLine

def MarkedLine.written (marked : MarkedLine) : CodeLine :=
  ⟨marked.mark ++ marked.line.text, marked.line.ending⟩

/-- The first of some lines is marked. -/
def markFirst (mark : List Char) : List CodeLine -> List MarkedLine
  | [] => []
  | line :: lines => ⟨mark, line⟩ :: lines.map (⟨[], ·⟩)

/-- What is put before a part of a text that a line feed ends. -/
def partMark (indent part : List Char) : List Char :=
  if part.isEmpty then Text.dropEndWhile Text.isBlank indent else indent

/-- The lines of a text with what is put before them: something only behind line feeds. -/
def markedLines (indent cs : List Char) : List MarkedLine :=
  (Text.splitChars (· == '\n') cs).flatMap fun part =>
    markFirst (partMark indent part) (cutLines (part ++ ['\n']))

section Writing

variable {indent cs part : List Char} {marked : MarkedLine}

theorem map_line_markFirst (mark : List Char) (lines : List CodeLine) :
    (markFirst mark lines).map MarkedLine.line = lines := by
  cases lines with
  | nil =>
      rfl
  | cons line lines =>
      simp [markFirst, Function.comp_def]

theorem map_written_markFirst (hindent : forall c, c ∈ indent -> c ≠ '\n' ∧ c ≠ '\r')
    (part : List Char) :
    (markFirst (partMark indent part) (cutLines (part ++ ['\n']))).map MarkedLine.written =
      cutLines (written indent part ++ ['\n']) := by
  have hmark : forall c, c ∈ partMark indent part -> c ≠ '\n' ∧ c ≠ '\r' := by
    intro c hc
    apply hindent
    unfold partMark at hc
    split at hc
    · rcases Text.exists_dropped Text.isBlank indent with ⟨dropped, hdropped, _⟩
      rw [hdropped]
      exact List.mem_append_left _ hc
    · exact hc
  have hwritten : written indent part = partMark indent part ++ part := by
    unfold written partMark
    split
    · rename_i hempty
      rw [List.isEmpty_iff.mp hempty, List.append_nil]
    · rfl
  cases hlines : cutLines (part ++ ['\n']) with
  | nil =>
      exact absurd hlines (cutLines_ne_nil (by simp))
  | cons line lines =>
      rw [hwritten, List.append_assoc, cutLines_append_plain hmark hlines]
      simp [markFirst, MarkedLine.written, Function.comp_def]

/-- Parts with a line feed before each are parts with a line feed behind each. -/
theorem flatMap_newline (parts : List (List Char)) (write : List Char -> List Char) :
    '\n' :: (parts.flatMap fun part => write part ++ ['\n']) =
      (parts.flatMap fun part => '\n' :: write part) ++ ['\n'] := by
  induction parts with
  | nil =>
      rfl
  | cons part parts ih =>
      rw [List.flatMap_cons, List.flatMap_cons, List.append_assoc, List.append_assoc, ← ih]
      simp

/-- The lines of parts with a line feed behind each are the lines of each part. -/
theorem flatMap_cutLines (write : List Char -> List Char) (whole : List Char)
    (h : ((Text.splitChars (· == '\n') cs).flatMap fun part => '\n' :: write part) =
      '\n' :: whole) (rest : List Char) :
    cutLines (whole ++ '\n' :: rest) =
      ((Text.splitChars (· == '\n') cs).flatMap fun part => cutLines (write part ++ ['\n'])) ++
        cutLines rest := by
  have hparts := flatMap_newline (Text.splitChars (· == '\n') cs) write
  rw [h, List.cons_append] at hparts
  rw [← cutLines_flatMap, List.tail_eq_of_cons_eq hparts, List.append_assoc]
  rfl

theorem map_line_markedLines (indent cs : List Char) :
    (markedLines indent cs).map MarkedLine.line = cutLines (cs ++ ['\n']) := by
  rw [flatMap_cutLines id cs (Text.flatMap_splitChars '\n' cs) [], markedLines, List.map_flatMap]
  simp only [map_line_markFirst, id, cutLines, List.append_nil]

/-- The lines of a text with something before its lines. -/
theorem map_written_markedLines (hindent : forall c, c ∈ indent -> c ≠ '\n' ∧ c ≠ '\r')
    (cs rest : List Char) :
    cutLines (indented indent cs ++ '\n' :: rest) =
      (markedLines indent cs).map MarkedLine.written ++ cutLines rest := by
  have hparts : ((Text.splitChars (· == '\n') cs).flatMap fun part => '\n' :: written indent part) =
      '\n' :: indented indent cs := by
    cases hsplit : Text.splitChars (· == '\n') cs with
    | nil =>
        exact absurd hsplit (Text.splitChars_ne_nil _ cs)
    | cons part parts =>
        rw [List.flatMap_cons, List.cons_append, written_flatMap_splitChars indent indent cs hsplit]
        rfl
  rw [flatMap_cutLines (written indent) _ hparts rest, markedLines, List.map_flatMap]
  simp only [map_written_markFirst hindent]

theorem forall_markedLines_iff {P : MarkedLine -> Prop} :
    (forall marked, marked ∈ markedLines indent cs -> P marked) ↔
      forall part, part ∈ Text.splitChars (· == '\n') cs -> forall line lines,
        cutLines (part ++ ['\n']) = line :: lines ->
          P ⟨partMark indent part, line⟩ ∧ forall other, other ∈ lines -> P ⟨[], other⟩ := by
  constructor
  · intro h part hpart line lines hlines
    have hmem (marked : MarkedLine)
        (hmarked : marked ∈ markFirst (partMark indent part) (line :: lines)) : P marked := by
      apply h
      rw [markedLines, List.mem_flatMap]
      exact ⟨part, hpart, by rwa [hlines]⟩
    refine ⟨hmem _ List.mem_cons_self, ?_⟩
    intro other hother
    exact hmem _ (List.mem_cons_of_mem _ (List.mem_map_of_mem hother))
  · intro h marked hmarked
    rcases List.mem_flatMap.mp hmarked with ⟨part, hpart, hmem⟩
    cases hlines : cutLines (part ++ ['\n']) with
    | nil =>
        exact absurd hlines (cutLines_ne_nil (by simp))
    | cons line lines =>
        rcases h part hpart line lines hlines with ⟨hfirst, hothers⟩
        rw [hlines, markFirst] at hmem
        rcases List.mem_cons.mp hmem with rfl | hmem
        · exact hfirst
        · rcases List.mem_map.mp hmem with ⟨other, hother, rfl⟩
          exact hothers other hother

end Writing

/-!
# Code as it is read
-/

section Reading

variable {layers : List Layer} {size : Nat} {marks : List MarkedLine} {more : List CodeLine}
  {part value : List Char} {line : CodeLine} {lines : List CodeLine}

/-- Whether a line is read as it was before something was put in front of it. -/
def Kept (layers : List Layer) (marked : MarkedLine) : Prop :=
  within? layers marked.written.text = some marked.line.text

/-- Whether nothing is read of a line but its end. -/
def Rests (layers : List Layer) (marked : MarkedLine) : Prop :=
  forall rest, within? layers marked.written.text = some rest -> rest <:+ marked.line.text

/-- What is left of a marked line. -/
def stripped (layers : List Layer) (marked : MarkedLine) : CodeLine :=
  ⟨(within? layers marked.written.text).getD [], marked.line.ending⟩

/-- What was put in front of the first line of a part is taken away again. -/
theorem kept_first (hlines : cutLines (part ++ ['\n']) = line :: lines) :
    Kept layers ⟨partMark (indents layers) part, line⟩ := by
  unfold Kept MarkedLine.written partMark
  dsimp only
  split
  · rename_i hempty
    rw [List.isEmpty_iff.mp hempty] at hlines
    obtain ⟨rfl, _⟩ := List.cons.inj hlines
    rw [List.append_nil]
    exact within?_trimmed layers
  · exact within?_indents layers line.text

theorem kept_other_iff :
    Kept layers ⟨[], line⟩ ↔ layers = [] ∨ (line.text = [] ∧ .quote ∉ layers) :=
  within?_self_iff

theorem rests_of_mem {marked : MarkedLine} (h : marked ∈ markedLines (indents layers) value) :
    Rests layers marked := by
  revert marked
  rw [forall_markedLines_iff]
  intro part _ line lines hlines
  constructor
  · intro rest hrest
    rw [kept_first hlines] at hrest
    cases hrest
    exact List.suffix_refl _
  · intro other _ rest hrest
    exact suffix_of_within? hrest

theorem longestRun_concat_newline (cs : List Char) :
    longestRun '\x60' (cs ++ ['\n']) = longestRun '\x60' cs := by
  rw [longestRun_eq, longestRun_eq, List.foldl_append]
  rfl

/-- No line of the code ends it, for its fence is longer than all runs of back quotes in it. -/
theorem closes_of_mem {marked : MarkedLine} {rest : List Char}
    (hsize : longestRun '\x60' value < size)
    (h : marked ∈ markedLines (indents layers) value)
    (hrest : within? layers marked.written.text = some rest) : closes size rest = false := by
  apply closes_of_short
  refine Nat.lt_of_le_of_lt ?_ hsize
  rw [← longestRun_concat_newline value]
  apply longestRun_le_of_infix
  have hline : marked.line ∈ cutLines (value ++ ['\n']) := by
    rw [← map_line_markedLines (indents layers) value]
    exact List.mem_map_of_mem h
  have hinfix : marked.line.text <:+: value ++ ['\n'] := by
    rw [← plainText_cutLines (value ++ ['\n'])]
    rcases List.append_of_mem hline with ⟨before, after, hlines⟩
    rw [hlines]
    exact ⟨plainText before, marked.line.ending ++ plainText after, by simp [plainText]⟩
  exact (rests_of_mem h rest hrest).isInfix.trans hinfix

/-- Lines in the containers that end no code are read one after another. -/
theorem readBody_of_all
    (hall : forall marked, marked ∈ marks -> exists rest,
      within? layers marked.written.text = some rest ∧ closes size rest = false) :
    readBody layers 0 size (marks.map MarkedLine.written ++ more) =
      (marks.map (stripped layers) ++ (readBody layers 0 size more).1,
        (readBody layers 0 size more).2) := by
  induction marks with
  | nil =>
      rfl
  | cons marked marks ih =>
      rcases hall marked List.mem_cons_self with ⟨rest, hrest, hcloses⟩
      have hbelow := ih fun other hother => hall other (List.mem_cons_of_mem _ hother)
      have hstripped : stripped layers marked = ⟨rest, marked.written.ending⟩ := by
        rw [stripped, hrest]
        rfl
      rw [List.map_cons, List.cons_append, readBody, hrest]
      dsimp only
      rw [hcloses, hbelow, if_neg Bool.false_ne_true, List.map_cons, hstripped, unindented,
        Nat.zero_min]
      rfl

/-- At a line that is not in the containers the code is over. -/
theorem readBody_of_none {marked : MarkedLine} (hmarked : marked ∈ marks)
    (hnone : within? layers marked.written.text = none)
    (hopen : forall marked, marked ∈ marks -> forall rest,
      within? layers marked.written.text = some rest -> closes size rest = false) :
    exists left, (readBody layers 0 size (marks.map MarkedLine.written ++ more)).2 =
      left ++ more := by
  induction marks with
  | nil =>
      cases hmarked
  | cons first marks ih =>
      rw [List.map_cons, List.cons_append, readBody]
      cases hrest : within? layers first.written.text with
      | none =>
          exact ⟨first.written :: marks.map MarkedLine.written, rfl⟩
      | some rest =>
          have hmem : marked ∈ marks := by
            rcases List.mem_cons.mp hmarked with rfl | hmem
            · rw [hnone] at hrest
              cases hrest
            · exact hmem
          rcases ih hmem fun other hother => hopen other (List.mem_cons_of_mem _ hother) with
            ⟨left, hleft⟩
          dsimp only
          rw [hopen first List.mem_cons_self rest hrest]
          exact ⟨left, hleft⟩

/-- What is read of the lines is not longer than they are, and is the same only if nothing is lost
of any line. -/
theorem contentText_stripped (hrests : forall marked, marked ∈ marks -> Rests layers marked)
    (hsome : forall marked, marked ∈ marks -> within? layers marked.written.text ≠ none) :
    (contentText (marks.map (stripped layers))).length ≤
        (contentText (marks.map MarkedLine.line)).length ∧
      (contentText (marks.map (stripped layers)) = contentText (marks.map MarkedLine.line) ->
        forall marked, marked ∈ marks -> Kept layers marked) := by
  induction marks with
  | nil =>
      exact ⟨Nat.le_refl _, fun _ marked hmarked => by cases hmarked⟩
  | cons marked marks ih =>
      have hbelow := ih (fun other hother => hrests other (List.mem_cons_of_mem _ hother))
        (fun other hother => hsome other (List.mem_cons_of_mem _ hother))
      rcases Option.ne_none_iff_exists'.mp (hsome marked List.mem_cons_self) with ⟨rest, hrest⟩
      have hsuffix := hrests marked List.mem_cons_self rest hrest
      have hkept (hlength : rest.length = marked.line.text.length) : Kept layers marked := by
        rw [Kept, hrest, hsuffix.eq_of_length hlength]
      have hstripped : stripped layers marked = ⟨rest, marked.line.ending⟩ := by
        rw [stripped, hrest]
        rfl
      by_cases hmarks : marks = []
      · subst hmarks
        rw [List.map_cons, hstripped]
        refine ⟨hsuffix.length_le, ?_⟩
        intro heq other hother
        rw [List.mem_singleton.mp hother]
        exact hkept (congrArg List.length heq)
      · have hlength := hsuffix.length_le
        rw [List.map_cons, List.map_cons, hstripped, contentText_cons (by simpa using hmarks),
          contentText_cons (by simpa using hmarks)]
        refine ⟨?_, ?_⟩
        · simp only [List.length_append]
          omega
        · intro heq other hother
          have hsame : rest.length = marked.line.text.length := by
            have hboth := congrArg List.length heq
            simp only [List.length_append] at hboth
            omega
          rcases List.mem_cons.mp hother with rfl | hother
          · exact hkept hsame
          · have hends := List.append_inj_right heq hsame
            exact hbelow.2 (List.append_cancel_left hends) other hother

end Reading

/-!
# Carriage returns in code
-/

section Returns

variable {layers : List Layer} {part value : List Char} {Q : Prop}

/-- Whether code can stand in containers.  No carriage return ends it, and in a container none
stands inside a line: only at its end, or in items before another one. -/
def KeepsReturns (layers : List Layer) (value : List Char) : Prop :=
  value.getLast? ≠ some '\r' ∧
    (layers ≠ [] -> forall part, part ∈ Text.splitChars (· == '\n') value ->
      forall before after, part = before ++ '\r' :: after ->
        after = [] ∨ (after.head? = some '\r' ∧ .quote ∉ layers))

theorem text_eq_nil_iff {c : Char} {cs : List Char} (hc : c ≠ '\n') {line : CodeLine}
    {lines : List CodeLine} (hlines : cutLines (c :: cs) = line :: lines) :
    line.text = [] ↔ c = '\r' := by
  rw [cutLines] at hlines
  split at hlines
  · rename_i hbreak
    obtain ⟨rfl, _⟩ := List.cons.inj hlines
    exact ⟨fun _ => (hbreak.resolve_left hc).1, fun _ => rfl⟩
  · rename_i hbreak
    by_cases hreturn : c = '\r'
    · have hhead : cs.head? = some '\n' := by
        by_contra hhead
        exact hbreak (Or.inr ⟨hreturn, hhead⟩)
      rcases List.head?_eq_some_iff.mp hhead with ⟨rest, rfl⟩
      rw [cutLines_newline] at hlines
      dsimp only at hlines
      rw [if_pos hreturn] at hlines
      obtain ⟨rfl, _⟩ := List.cons.inj hlines
      exact ⟨fun _ => hreturn, fun _ => rfl⟩
    · split at hlines
      · obtain ⟨rfl, _⟩ := List.cons.inj hlines
        simpa using hreturn
      · rw [if_neg hreturn] at hlines
        obtain ⟨rfl, _⟩ := List.cons.inj hlines
        simpa using hreturn

theorem forall_behind_return_cons_iff {c : Char} {cs : List Char} {P : List Char -> Prop} :
    (forall before after, c :: cs = before ++ '\r' :: after -> P after) ↔
      (c = '\r' -> P cs) ∧ forall before after, cs = before ++ '\r' :: after -> P after := by
  constructor
  · intro h
    refine ⟨fun hc => h [] cs (by rw [hc]; rfl), ?_⟩
    intro before after heq
    exact h (c :: before) after (by rw [heq, List.cons_append])
  · rintro ⟨hfirst, hrest⟩ before after heq
    cases before with
    | nil =>
        rw [← (List.cons.inj heq).2]
        exact hfirst (List.cons.inj heq).1
    | cons d before =>
        exact hrest before after (List.cons.inj heq).2

/-- The lines that carriage returns begin in a part of a text. -/
theorem forall_lines_iff (hpart : forall c, c ∈ part -> c ≠ '\n') {line : CodeLine}
    {lines : List CodeLine} (hlines : cutLines (part ++ ['\n']) = line :: lines) :
    (forall other, other ∈ lines -> other.text = [] ∧ Q) ↔
      forall before after, part = before ++ '\r' :: after ->
        after = [] ∨ (after.head? = some '\r' ∧ Q) := by
  induction part generalizing line lines with
  | nil =>
      obtain ⟨_, rfl⟩ := List.cons.inj hlines
      simp [cutLines]
  | cons c part ih =>
      have hbelow : forall c, c ∈ part -> c ≠ '\n' :=
        fun d hd => hpart d (List.mem_cons_of_mem c hd)
      rw [forall_behind_return_cons_iff]
      cases hrest : cutLines (part ++ ['\n']) with
      | nil =>
          exact absurd hrest (cutLines_ne_nil (by simp))
      | cons next others =>
          by_cases hreturn : c = '\r'
          · subst hreturn
            rcases part with _ | ⟨d, part⟩
            · -- The return and the line feed behind it end one line.
              obtain ⟨_, rfl⟩ := List.cons.inj hlines
              simp [cutLines]
            · have hd : d ≠ '\n' := hbelow d List.mem_cons_self
              rw [List.cons_append, cutLines, if_pos (Or.inr ⟨rfl, by simpa using hd⟩),
                hrest] at hlines
              obtain ⟨_, rfl⟩ := List.cons.inj hlines
              rw [List.forall_mem_cons, ih hbelow hrest, text_eq_nil_iff hd hrest]
              simp
          · rw [List.cons_append,
              cutLines_plain ⟨hpart c List.mem_cons_self, hreturn⟩ hrest] at hlines
            obtain ⟨_, rfl⟩ := List.cons.inj hlines
            rw [ih hbelow hrest]
            simp [hreturn]

/-- The lines of code are read as they were just if its carriage returns are kept. -/
theorem forall_kept_iff :
    (forall marked, marked ∈ markedLines (indents layers) value -> Kept layers marked) ↔
      (layers ≠ [] -> forall part, part ∈ Text.splitChars (· == '\n') value ->
        forall before after, part = before ++ '\r' :: after ->
          after = [] ∨ (after.head? = some '\r' ∧ .quote ∉ layers)) := by
  have hplain : forall part, part ∈ Text.splitChars (· == '\n') value ->
      forall c, c ∈ part -> c ≠ '\n' := by
    intro part hpart c hc
    simpa using Text.not_separator_of_mem_splitChars hpart c hc
  rw [forall_markedLines_iff]
  constructor
  · intro h hlayers part hpart
    cases hlines : cutLines (part ++ ['\n']) with
    | nil =>
        exact absurd hlines (cutLines_ne_nil (by simp))
    | cons line lines =>
        rw [← forall_lines_iff (hplain part hpart) hlines]
        intro other hother
        exact (kept_other_iff.mp ((h part hpart line lines hlines).2 other hother)).resolve_left
          hlayers
  · intro h part hpart line lines hlines
    refine ⟨kept_first hlines, ?_⟩
    intro other hother
    rw [kept_other_iff]
    by_cases hlayers : layers = []
    · exact Or.inl hlayers
    · have hreturns := h hlayers part hpart
      rw [← forall_lines_iff (hplain part hpart) hlines] at hreturns
      exact Or.inr (hreturns other hother)

end Returns

/-!
# Code in a document
-/

section Documents

variable {layers : List Layer} {lang info : Option String} {afterList fenced first : Bool}
  {lead : List Char} {size : Nat}

/-- What stands behind the fence of code. -/
def infoText (lang info : Option String) : List Char :=
  (lang.getD "" ++ (info.map (" " ++ ·)).getD "").toList

/-- Whether code is written with a fence. -/
def HasFence (afterList : Bool) (lang : Option String) (fenced : Bool) (value : String) : Prop :=
  fenced = true ∨ afterList = true ∨ lang ≠ none ∨ Text.trim value = ""

/-- The lines of code that stand between its fences. -/
def bodyLines (layers : List Layer) (value : List Char) : List MarkedLine :=
  if value = [] then [] else markedLines (indents layers) value

theorem code_of_hasFence {value : String} (h : HasFence afterList lang fenced value)
    (info : Option String) :
    code afterList lang info fenced value = fencedCode lang info value := by
  unfold code
  rw [if_neg]
  intro hindented
  rw [Bool.and_eq_true, Bool.and_eq_true, Bool.and_eq_true] at hindented
  rcases hindented with ⟨⟨⟨hfenced, hafter⟩, hlang⟩, htrim⟩
  rcases h with hfence | hlist | hword | hempty
  · rw [hfence] at hfenced
    cases hfenced
  · rw [hlist] at hafter
    cases hafter
  · exact hword (Option.isNone_iff_eq_none.mp hlang)
  · rw [hempty] at htrim
    revert htrim
    decide

/-- The size of the fence around code. -/
def fenceSize (value : List Char) : Nat := max (longestRun '\x60' value) 2 + 1

theorem fenceSize_pos (value : List Char) : 0 < fenceSize value := Nat.succ_pos _

theorem toList_fencedCode (lang info : Option String) (value : String) :
    (fencedCode lang info value).toList =
      ticks (fenceSize value.toList) ++ (infoText lang info ++ '\n' ::
        ((if value.toList = [] then [] else value.toList ++ ['\n']) ++
          ticks (fenceSize value.toList))) := by
  unfold fencedCode
  dsimp only
  by_cases hvalue : value.toList = []
  · have hempty : value.isEmpty = true := by simpa using hvalue
    rw [if_pos hempty, if_pos hvalue]
    simp [Text.repeated, ticks, fenceSize, infoText]
  · have hne : ¬ value.isEmpty = true := by simpa using hvalue
    rw [if_neg hne, if_neg hvalue]
    simp [Text.repeated, ticks, fenceSize, infoText]

theorem indented_append_newline (indent cs ds : List Char) :
    indented indent (cs ++ '\n' :: ds) = indented indent cs ++ '\n' :: indented indent ds := by
  have h := hang_append_newline indent ('\n' :: cs) ds
  rw [List.cons_append, hang_newline, hang_newline, List.cons_append] at h
  exact List.tail_eq_of_cons_eq h

theorem not_newline_mem_ticks (size : Nat) : '\n' ∉ ticks size := by
  intro h
  exact absurd (List.eq_of_mem_replicate h) (by decide)

theorem indented_ticks (indent : List Char) (hsize : 0 < size) :
    indented indent (ticks size) = indent ++ ticks size := by
  have hhang := hang_append_of_not_mem indent (not_newline_mem_ticks size) []
  rw [List.append_nil, hang, List.append_nil] at hhang
  rw [indented, hhang, ticks, replicate_of_pos hsize, lineStart, if_neg (by decide)]

theorem cutLines_plain_newline {cs : List Char} (hcs : forall c, c ∈ cs -> c ≠ '\n' ∧ c ≠ '\r')
    (ds : List Char) : cutLines (cs ++ '\n' :: ds) = ⟨cs, ['\n']⟩ :: cutLines ds := by
  rw [cutLines_append_plain hcs (cutLines_newline ds), List.append_nil]

/-- The lines of code in containers: its fence, the code, its fence again, and what follows. -/
theorem cutLines_fencedCode (hlead : Leads layers lead)
    (hinfo : forall c, c ∈ infoText lang info -> c ≠ '\n' ∧ c ≠ '\r') (value : String)
    (after : List Char) :
    cutLines (lead ++ (hang (indents layers) (fencedCode lang info value).toList ++
        '\n' :: after)) =
      ⟨lead ++ (ticks (fenceSize value.toList) ++ infoText lang info), ['\n']⟩ ::
        ((bodyLines layers value.toList).map MarkedLine.written ++
          ⟨indents layers ++ ticks (fenceSize value.toList), ['\n']⟩ :: cutLines after) := by
  have hticks : forall c, c ∈ ticks (fenceSize value.toList) -> c ≠ '\n' ∧ c ≠ '\r' := by
    intro c hc
    rw [List.eq_of_mem_replicate hc]
    decide
  have hopening : forall c, c ∈ lead ++ (ticks (fenceSize value.toList) ++ infoText lang info) ->
      c ≠ '\n' ∧ c ≠ '\r' := by
    intro c hc
    rcases List.mem_append.mp hc with hc | hc
    · exact not_break_of_mem_lead hlead hc
    · rcases List.mem_append.mp hc with hc | hc
      · exact hticks c hc
      · exact hinfo c hc
  have hclosing : forall c, c ∈ indents layers ++ ticks (fenceSize value.toList) ->
      c ≠ '\n' ∧ c ≠ '\r' := by
    intro c hc
    rcases List.mem_append.mp hc with hc | hc
    · exact not_break_of_mem_indents layers hc
    · exact hticks c hc
  have hfence := indented_ticks (indents layers) (fenceSize_pos value.toList)
  rw [toList_fencedCode, hang_append_of_not_mem _ (not_newline_mem_ticks _),
    hang_append_of_not_mem _ (fun h => (hinfo _ h).1 rfl), hang_newline]
  have hassoc (cs : List Char) :
      lead ++ (ticks (fenceSize value.toList) ++ (infoText lang info ++ '\n' :: cs) ++
        '\n' :: after) = (lead ++ (ticks (fenceSize value.toList) ++ infoText lang info)) ++
          '\n' :: (cs ++ '\n' :: after) := by simp
  rw [hassoc, cutLines_plain_newline hopening]
  unfold bodyLines
  by_cases hvalue : value.toList = []
  · rw [if_pos hvalue, if_pos hvalue, List.nil_append, hfence,
      cutLines_plain_newline hclosing]
    rfl
  · rw [if_neg hvalue, if_neg hvalue, List.append_assoc, List.singleton_append,
      indented_append_newline, List.append_assoc, List.cons_append, hfence,
      map_written_markedLines (fun c hc => not_break_of_mem_indents layers hc),
      cutLines_plain_newline hclosing]

theorem readCode_of_cutLines {cs : List Char} {line : CodeLine} {lines : List CodeLine}
    {indent : Nat} (hlines : cutLines cs = line :: lines)
    (hfence : (opening? layers line.text).bind fence? = some (indent, size)) :
    readCode layers cs = some (contentText (readBody layers indent size lines).1,
      plainText (readBody layers indent size lines).2) := by
  rw [readCode, hlines]
  dsimp only
  rw [hfence]
  rfl

/-- The fence at the end is read as the end of the code. -/
theorem readBody_closing (layers : List Layer) (value after : List Char) :
    readBody layers 0 (fenceSize value)
        (⟨indents layers ++ ticks (fenceSize value), ['\n']⟩ :: cutLines after) =
      ([], cutLines after) := by
  rw [readBody, within?_indents]
  dsimp only
  rw [closes_ticks (fenceSize_pos value), if_pos rfl]

/-- Lines that all stand in the containers give the code back just if they are read as they were and
no carriage return is at the end of the code. -/
theorem contentText_stripped_iff {value : List Char} (hvalue : value ≠ [])
    (hall : forall marked, marked ∈ markedLines (indents layers) value ->
      within? layers marked.written.text ≠ none) :
    contentText ((markedLines (indents layers) value).map (stripped layers)) = value ↔
      KeepsReturns layers value := by
  have hshort := contentText_stripped (fun marked hmarked => rests_of_mem hmarked) hall
  rw [map_line_markedLines, contentText_cutLines] at hshort
  rw [KeepsReturns, ← forall_kept_iff]
  constructor
  · intro hcontent
    rw [hcontent] at hshort
    have hlast : value.getLast? ≠ some '\r' := by
      intro hlast
      have hlength := hshort.1
      have hpos := List.length_pos_iff.mpr hvalue
      rw [if_pos hlast, List.length_dropLast] at hlength
      omega
    rw [if_neg hlast] at hshort
    exact ⟨hlast, hshort.2 rfl⟩
  · rintro ⟨hlast, hkept⟩
    have hsame : (markedLines (indents layers) value).map (stripped layers) =
        (markedLines (indents layers) value).map MarkedLine.line := by
      apply List.map_congr_left
      intro marked hmarked
      rw [stripped, hkept marked hmarked]
      rfl
    rw [hsame, map_line_markedLines, contentText_cutLines, if_neg hlast]

/-- The lines of code give the code back, and nothing behind it, just if the code can stand in the
containers. -/
theorem readBody_exact (layers : List Layer) (value after : List Char) :
    (contentText (readBody layers 0 (fenceSize value)
          ((bodyLines layers value).map MarkedLine.written ++
            ⟨indents layers ++ ticks (fenceSize value), ['\n']⟩ :: cutLines after)).1 = value ∧
        plainText (readBody layers 0 (fenceSize value)
          ((bodyLines layers value).map MarkedLine.written ++
            ⟨indents layers ++ ticks (fenceSize value), ['\n']⟩ :: cutLines after)).2 = after) ↔
      KeepsReturns layers value := by
  have hsize : longestRun '\x60' value < fenceSize value :=
    Nat.lt_succ_of_le (Nat.le_max_left _ _)
  unfold bodyLines
  by_cases hvalue : value = []
  · subst hvalue
    rw [if_pos rfl, List.map_nil, List.nil_append, readBody_closing, plainText_cutLines]
    refine iff_of_true ⟨rfl, rfl⟩ ⟨by simp, ?_⟩
    intro _ part hpart before after heq
    rw [List.mem_singleton.mp hpart] at heq
    simp at heq
  rw [if_neg hvalue]
  by_cases hall : forall marked, marked ∈ markedLines (indents layers) value ->
      within? layers marked.written.text ≠ none
  · have hread : forall marked, marked ∈ markedLines (indents layers) value -> exists rest,
        within? layers marked.written.text = some rest ∧ closes (fenceSize value) rest = false := by
      intro marked hmarked
      rcases Option.ne_none_iff_exists'.mp (hall marked hmarked) with ⟨rest, hrest⟩
      exact ⟨rest, hrest, closes_of_mem hsize hmarked hrest⟩
    rw [readBody_of_all hread, readBody_closing, List.append_nil, plainText_cutLines,
      ← contentText_stripped_iff hvalue hall]
    exact and_iff_left rfl
  · -- A line leaves the containers: the code ends there, and its fence is among what follows.
    simp only [not_forall, not_not] at hall
    rcases hall with ⟨marked, hmarked, hnone⟩
    rcases readBody_of_none hmarked hnone fun other hother rest hrest =>
        closes_of_mem hsize hother hrest with ⟨left, hleft⟩
    apply iff_of_false
    · rintro ⟨_, hafter⟩
      rw [hleft, plainText, List.flatMap_append, List.flatMap_cons, ← plainText,
        ← plainText, plainText_cutLines] at hafter
      have hlength := congrArg List.length hafter
      simp only [List.length_append, List.length_singleton] at hlength
      omega
    · intro hkeeps
      have hkept := forall_kept_iff.mpr hkeeps.2 marked hmarked
      rw [Kept, hnone] at hkept
      cases hkept

/-- The lines of code that has a fence stand in the text of a document behind what the containers
around the code put there.  A reader that takes this away again reads the code, up to its last
line, just if the code can stand in the containers. -/
theorem fencedCode_exact {document block : Node} {value : String}
    (hstands : Node.Stands block afterList document false layers first)
    (hkind : block.kind = .code lang info fenced) (hvalue : block.value = some value)
    (hfence : HasFence afterList lang fenced value)
    (hinfo : forall c, c ∈ infoText lang info -> c ≠ '\x60' ∧ c ≠ '\n' ∧ c ≠ '\r') :
    exists before lead after,
      document.toMarkdown.toList = before ++ (lead ++
          (hang (indents layers) (fencedCode lang info value).toList ++ '\n' :: after)) ∧
        PrecedesLine first before ∧ Leads layers lead ∧
        (readCode layers (lead ++
            (hang (indents layers) (fencedCode lang info value).toList ++ '\n' :: after)) =
          some (value.toList, after) ↔ KeepsReturns layers value.toList) := by
  have htext : forall setting : Setting, setting.afterList = afterList ->
      (nodeText setting block).toList = (fencedCode lang info value).toList := by
    intro setting hsetting
    rcases block with ⟨id, kind, stored, children, position⟩
    obtain rfl : kind = .code lang info fenced := hkind
    obtain rfl : stored = some value := hvalue
    rw [nodeText, hsetting]
    exact congrArg String.toList (code_of_hasFence hfence info)
  have hhead : (fencedCode lang info value).toList.head?.any (· != '\n') = true := by
    rw [toList_fencedCode, ticks, replicate_of_pos (fenceSize_pos _)]
    rfl
  have hlast : (fencedCode lang info value).toList.getLast?.any (· != '\n') = true := by
    have hticks : ticks (fenceSize value.toList) =
        ticks (fenceSize value.toList - 1) ++ ['\x60'] := by
      rw [ticks, ticks, ← List.replicate_succ', Nat.sub_add_cancel (fenceSize_pos _)]
    rw [toList_fencedCode, hticks, ← List.append_assoc, ← List.cons_append, ← List.append_assoc,
      ← List.append_assoc, List.getLast?_concat]
    rfl
  rcases exists_place_toMarkdown hstands htext hhead hlast with
    ⟨before, lead, after, hwhole, hbefore, hlead⟩
  refine ⟨before, lead, after, hwhole, hbefore, hlead, ?_⟩
  have hsize : 3 ≤ fenceSize value.toList := Nat.succ_le_succ (Nat.le_max_right _ _)
  have hopening : (opening? layers
      (lead ++ (ticks (fenceSize value.toList) ++ infoText lang info))).bind fence? =
        some (0, fenceSize value.toList) := by
    rw [opening?_lead hlead, Option.bind_some]
    exact fence?_ticks hsize fun hc => (hinfo _ hc).1 rfl
  rw [readCode_of_cutLines (cutLines_fencedCode hlead (fun c hc => (hinfo c hc).2) value after)
    hopening, Option.some.injEq, Prod.mk.injEq]
  exact readBody_exact layers value.toList after

/-- A block of code with a fence. -/
def codeBlock (value : String) : Node := ⟨5, .code none none true, some value, [], none⟩

def codeItem (value : String) : Node := ⟨4, .listItem false none, none, [codeBlock value], none⟩

def codeList (value : String) : Node := ⟨3, .list false none false, none, [codeItem value], none⟩

def codeQuote (value : String) : Node := ⟨2, .blockquote, none, [codeList value], none⟩

/-- A document with a block of code in an item of a list in a quote. -/
def codeDocument (value : String) : Node := ⟨1, .root, none, [codeQuote value], none⟩

theorem stands_codeDocument (value : String) :
    Node.Stands (codeBlock value) false (codeDocument value) false [.quote, .item 1 true] true := by
  have hitem : Node.Stands (codeBlock value) false (codeItem value) false [] true :=
    .block rfl (show (codeItem value).children = [] ++ codeBlock value :: [] from rfl) .self
  have hkind : (codeList value).kind = .list false none false := rfl
  have hwidth : (itemMarker false 1 0 .primary).length = 1 := by decide
  have hlist : Node.Stands (codeBlock value) false (codeList value) false
      [.item (itemMarker false 1 0 .primary).length true] true :=
    .item hkind (show (codeList value).children = [] ++ codeItem value :: [] from rfl) rfl hitem
  rw [hwidth] at hlist
  have hquote : Node.Stands (codeBlock value) false (codeQuote value) false
      [.quote, .item 1 true] true :=
    .block rfl (show (codeQuote value).children = [] ++ codeList value :: [] from rfl) hlist
  exact .block rfl (show (codeDocument value).children = [] ++ codeQuote value :: [] from rfl)
    hquote

/-- Code with a run of back quotes and an empty line is read again from an item in a quote, and code
with a carriage return inside a line is not. -/
theorem fencedCode_exact_quoted :
    (exists before lead after,
      (codeDocument "\x60\x60\x60\n\na").toMarkdown.toList = before ++ (lead ++
          (hang (indents [.quote, .item 1 true])
            (fencedCode none none "\x60\x60\x60\n\na").toList ++ '\n' :: after)) ∧
        readCode [.quote, .item 1 true] (lead ++ (hang (indents [.quote, .item 1 true])
            (fencedCode none none "\x60\x60\x60\n\na").toList ++ '\n' :: after)) =
          some ("\x60\x60\x60\n\na".toList, after)) ∧
      exists before lead after,
        (codeDocument "a\rb").toMarkdown.toList = before ++ (lead ++
            (hang (indents [.quote, .item 1 true]) (fencedCode none none "a\rb").toList ++
              '\n' :: after)) ∧
          readCode [.quote, .item 1 true] (lead ++ (hang (indents [.quote, .item 1 true])
              (fencedCode none none "a\rb").toList ++ '\n' :: after)) ≠
            some ("a\rb".toList, after) := by
  have hinfo : forall c, c ∈ infoText none none -> c ≠ '\x60' ∧ c ≠ '\n' ∧ c ≠ '\r' := by
    intro c hc
    cases hc
  have hplain : forall part,
      part ∈ Text.splitChars (· == '\n') "\x60\x60\x60\n\na".toList -> '\r' ∉ part := by
    decide
  constructor
  · rcases fencedCode_exact (stands_codeDocument "\x60\x60\x60\n\na") rfl rfl (Or.inl rfl)
      hinfo with ⟨before, lead, after, hwhole, _, _, hread⟩
    refine ⟨before, lead, after, hwhole, hread.mpr ⟨by decide, ?_⟩⟩
    rintro _ part hpart before after rfl
    exact absurd (List.mem_append_right before List.mem_cons_self) (hplain _ hpart)
  · rcases fencedCode_exact (stands_codeDocument "a\rb") rfl rfl (Or.inl rfl) hinfo with
      ⟨before, lead, after, hwhole, _, _, hread⟩
    refine ⟨before, lead, after, hwhole, ?_⟩
    rw [ne_eq, hread]
    rintro ⟨_, hkeeps⟩
    have hreturn := hkeeps (by simp) "a\rb".toList (by decide) ['a'] ['b'] rfl
    revert hreturn
    decide

end Documents

end Markdown
end Docloom
