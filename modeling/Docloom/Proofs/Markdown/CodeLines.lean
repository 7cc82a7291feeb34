import Docloom.Proofs.Markdown.CodeSpan
import Docloom.Proofs.Node.Standing

/-!
# The lines of code

Code between fences is read line by line.  Each line loses what the containers around the code put
before it, and the code goes on up to a fence that is long enough, or up to a line that is not in
the containers.
-/

namespace Docloom

/-!
# Lines
-/

namespace Markdown

open Writer

/-- A line with its ending, which the last line of a text may lack. -/
structure CodeLine where
  text : List Char
  ending : List Char
  deriving DecidableEq, Repr

/-- The lines of a text.  A line ends at a line feed, at a carriage return, or at both. -/
def cutLines : List Char -> List CodeLine
  | [] => []
  | c :: cs =>
      if c = '\n' ∨ (c = '\r' ∧ cs.head? ≠ some '\n') then
        ⟨[], [c]⟩ :: cutLines cs
      else
        match cutLines cs with
        | [] => [⟨[c], []⟩]
        | line :: lines =>
            if c = '\r' then
              ⟨line.text, c :: line.ending⟩ :: lines
            else
              ⟨c :: line.text, line.ending⟩ :: lines

/-- The text of lines with their endings. -/
def plainText (lines : List CodeLine) : List Char :=
  lines.flatMap fun line => line.text ++ line.ending

/-- The text of lines without the last ending. -/
def contentText : List CodeLine -> List Char
  | [] => []
  | [line] => line.text
  | line :: lines => line.text ++ (line.ending ++ contentText lines)

end Markdown

/-!
# Lines in containers
-/

namespace Writer

/-- What is left of a line that goes on in a container: the rest behind the mark of a quote, or
behind the blanks below the marker of an item.  An empty line goes on in an item. -/
def Layer.continue? : Layer -> List Char -> Option (List Char)
  | .quote, text =>
      if (text.takeWhile (· == ' ')).length ≤ 3 then
        match text.dropWhile (· == ' ') with
        | '>' :: ' ' :: rest => some rest
        | '>' :: rest => some rest
        | _ => none
      else
        none
  | .item width _, text =>
      if text.all Text.isSpace || (List.replicate (width + 1) ' ').isPrefixOf text then
        some (text.drop (width + 1))
      else
        none

/-- What is left of the line that a block begins on. -/
def Layer.open? : Layer -> List Char -> Option (List Char)
  | .item width true, text =>
      if isMarker (text.take width) && text[width]? == some ' ' then
        some (text.drop (width + 1))
      else
        none
  | layer, text => layer.continue? text

end Writer

namespace Markdown

open Writer

/-- What is left of a line that goes on in all containers. -/
def within? (layers : List Layer) (text : List Char) : Option (List Char) :=
  layers.foldlM (fun text layer => layer.continue? text) text

def opening? (layers : List Layer) (text : List Char) : Option (List Char) :=
  layers.foldlM (fun text layer => layer.open? text) text

/-!
# Fences
-/

/-- The indentation and the size of a fence that opens code. -/
def fence? (text : List Char) : Option (Nat × Nat) :=
  let indent := (text.takeWhile (· == ' ')).length
  let rest := text.dropWhile (· == ' ')
  let size := (rest.takeWhile (· == '\x60')).length
  if indent ≤ 3 ∧ 3 ≤ size ∧ '\x60' ∉ rest.drop size then some (indent, size) else none

/-- Whether a line is a fence that ends code. -/
def closes (size : Nat) (text : List Char) : Bool :=
  let rest := text.dropWhile (· == ' ')
  (text.takeWhile (· == ' ')).length ≤ 3 && size ≤ (rest.takeWhile (· == '\x60')).length &&
    (rest.dropWhile (· == '\x60')).all Text.isSpace

/-- A line of code without the indentation of the fence. -/
def unindented (indent : Nat) (text : List Char) : List Char :=
  text.drop (min indent (text.takeWhile (· == ' ')).length)

/-- The lines of code behind its fence, and the lines after the code. -/
def readBody (layers : List Layer) (indent size : Nat) :
    List CodeLine -> List CodeLine × List CodeLine
  | [] => ([], [])
  | line :: lines =>
      match within? layers line.text with
      | none => ([], line :: lines)
      | some text =>
          if closes size text then
            ([], lines)
          else
            let (body, rest) := readBody layers indent size lines
            (⟨unindented indent text, line.ending⟩ :: body, rest)

/-- The code whose fence stands on the first line of a text, and the text after the code. -/
def readCode (layers : List Layer) (cs : List Char) : Option (List Char × List Char) :=
  match cutLines cs with
  | [] => none
  | first :: lines => do
      let (indent, size) ← (opening? layers first.text).bind fence?
      let (body, rest) := readBody layers indent size lines
      pure (contentText body, plainText rest)

/-!
# Facts about lines
-/

section Lines

variable {cs ds text : List Char} {line : CodeLine} {lines : List CodeLine} {c : Char}

theorem cutLines_newline (cs : List Char) :
    cutLines ('\n' :: cs) = ⟨[], ['\n']⟩ :: cutLines cs := by
  rw [cutLines, if_pos (Or.inl rfl)]

theorem cutLines_plain (hc : c ≠ '\n' ∧ c ≠ '\r') (h : cutLines cs = line :: lines) :
    cutLines (c :: cs) = ⟨c :: line.text, line.ending⟩ :: lines := by
  have hbreak : ¬ (c = '\n' ∨ (c = '\r' ∧ cs.head? ≠ some '\n')) := by
    rintro (hnewline | ⟨hreturn, _⟩)
    · exact hc.1 hnewline
    · exact hc.2 hreturn
  rw [cutLines, if_neg hbreak, h]
  dsimp only
  rw [if_neg hc.2]

theorem cutLines_append_plain (hds : forall c, c ∈ ds -> c ≠ '\n' ∧ c ≠ '\r')
    (h : cutLines cs = line :: lines) :
    cutLines (ds ++ cs) = ⟨ds ++ line.text, line.ending⟩ :: lines := by
  induction ds with
  | nil =>
      exact h
  | cons d ds ih =>
      have hbelow := ih fun c hc => hds c (List.mem_cons_of_mem _ hc)
      rw [List.cons_append, cutLines_plain (hds d List.mem_cons_self) hbelow, List.cons_append]

theorem cutLines_ne_nil (hne : cs ≠ []) : cutLines cs ≠ [] := by
  rcases List.exists_cons_of_ne_nil hne with ⟨c, rest, rfl⟩
  rw [cutLines]
  split
  · exact List.cons_ne_nil _ _
  · split
    · exact List.cons_ne_nil _ _
    · split <;> exact List.cons_ne_nil _ _

/-- The lines of a text are all there is in it. -/
theorem plainText_cutLines (cs : List Char) : plainText (cutLines cs) = cs := by
  induction cs with
  | nil =>
      rfl
  | cons c cs ih =>
      rw [cutLines]
      split
      · rw [plainText, List.flatMap_cons, ← plainText, ih]
        rfl
      · rename_i hbreak
        cases hlines : cutLines cs with
        | nil =>
            rw [hlines] at ih
            rw [← ih]
            rfl
        | cons line lines =>
            rw [hlines, plainText, List.flatMap_cons] at ih
            dsimp only
            split
            · rename_i hreturn
              -- A return that is no break of its own stands before a line feed.
              have hhead : cs.head? = some '\n' := by
                by_contra hhead
                exact hbreak (Or.inr ⟨hreturn, hhead⟩)
              rcases List.head?_eq_some_iff.mp hhead with ⟨rest, rfl⟩
              rw [cutLines_newline] at hlines
              obtain ⟨rfl, rfl⟩ := List.cons.inj hlines
              rw [plainText, List.flatMap_cons, ← ih]
              rfl
            · rw [plainText, List.flatMap_cons, ← ih]
              rfl

/-- A line feed ends a line, so lines before and after it are cut apart from each other. -/
theorem cutLines_append_newline (cs ds : List Char) :
    cutLines (cs ++ '\n' :: ds) = cutLines (cs ++ ['\n']) ++ cutLines ds := by
  induction cs with
  | nil =>
      rw [List.nil_append, List.nil_append, cutLines_newline, cutLines_newline]
      rfl
  | cons c cs ih =>
      have hhead : (cs ++ '\n' :: ds).head? = (cs ++ ['\n']).head? := by
        cases cs <;> rfl
      rw [List.cons_append, List.cons_append, cutLines, cutLines, hhead, ih]
      split
      · rfl
      · cases hlines : cutLines (cs ++ ['\n']) with
        | nil =>
            exact absurd hlines (cutLines_ne_nil (by simp))
        | cons line lines =>
            rw [List.cons_append]
            dsimp only
            split <;> rfl

theorem cutLines_flatMap (parts : List (List Char)) (write : List Char -> List Char)
    (rest : List Char) :
    cutLines ((parts.flatMap fun part => write part ++ ['\n']) ++ rest) =
      (parts.flatMap fun part => cutLines (write part ++ ['\n'])) ++ cutLines rest := by
  induction parts with
  | nil =>
      rfl
  | cons part parts ih =>
      rw [List.flatMap_cons, List.flatMap_cons, List.append_assoc, List.append_assoc,
        List.singleton_append, cutLines_append_newline, ih, List.append_assoc]

/-- The last line of a text that ends with a line feed: the carriage return before the feed is part
of the line ending. -/
theorem exists_last_line (cs : List Char) :
    exists lines text ending, cutLines (cs ++ ['\n']) = lines ++ [⟨text, ending⟩] ∧
      ((ending = ['\n'] ∧ cs.getLast? ≠ some '\r') ∨
        (ending = ['\r', '\n'] ∧ cs.getLast? = some '\r')) := by
  induction cs with
  | nil =>
      exact ⟨[], [], ['\n'], cutLines_newline [], Or.inl ⟨rfl, by simp⟩⟩
  | cons c cs ih =>
      rcases ih with ⟨lines, text, ending, hlines, hending⟩
      by_cases hempty : cs = []
      · subst hempty
        by_cases hreturn : c = '\r'
        · subst hreturn
          exact ⟨[], [], ['\r', '\n'], rfl, Or.inr ⟨rfl, rfl⟩⟩
        · have hlast : [c].getLast? ≠ some '\r' := by simpa using hreturn
          by_cases hnewline : c = '\n'
          · subst hnewline
            exact ⟨[⟨[], ['\n']⟩], [], ['\n'], rfl, Or.inl ⟨rfl, hlast⟩⟩
          · exact ⟨[], [c], ['\n'], cutLines_plain ⟨hnewline, hreturn⟩ (cutLines_newline []),
              Or.inl ⟨rfl, hlast⟩⟩
      · have hlast : (c :: cs).getLast? = cs.getLast? :=
          List.getLast?_append_of_ne_nil [c] hempty
        rw [hlast, List.cons_append, cutLines, hlines]
        split
        · exact ⟨⟨[], [c]⟩ :: lines, text, ending, rfl, hending⟩
        · rename_i hbreak
          cases lines with
          | cons line lines =>
              rw [List.cons_append]
              dsimp only
              split
              · exact ⟨⟨line.text, c :: line.ending⟩ :: lines, text, ending, rfl, hending⟩
              · exact ⟨⟨c :: line.text, line.ending⟩ :: lines, text, ending, rfl, hending⟩
          | nil =>
              -- A line feed behind the return would end a line that is not the last one.
              have hreturn : c ≠ '\r' := by
                intro hreturn
                have hhead : (cs ++ ['\n']).head? = some '\n' := by
                  by_contra hhead
                  exact hbreak (Or.inr ⟨hreturn, hhead⟩)
                rcases List.exists_cons_of_ne_nil hempty with ⟨d, rest, rfl⟩
                obtain rfl : d = '\n' := Option.some.inj hhead
                rw [List.cons_append, cutLines_newline] at hlines
                exact cutLines_ne_nil (by simp) (List.cons.inj hlines).2
              rw [List.nil_append]
              dsimp only
              rw [if_neg hreturn]
              exact ⟨[], c :: text, ending, rfl, hending⟩

theorem contentText_cons (h : lines ≠ []) (line : CodeLine) :
    contentText (line :: lines) = line.text ++ (line.ending ++ contentText lines) := by
  cases lines with
  | nil =>
      exact absurd rfl h
  | cons next others =>
      rfl

theorem contentText_concat (lines : List CodeLine) (text ending : List Char) :
    contentText (lines ++ [⟨text, ending⟩]) = plainText lines ++ text := by
  induction lines with
  | nil =>
      rfl
  | cons line lines ih =>
      rw [List.cons_append, contentText_cons (by simp), ih]
      simp [plainText]

theorem plainText_concat (lines : List CodeLine) (text ending : List Char) :
    plainText (lines ++ [⟨text, ending⟩]) = plainText lines ++ (text ++ ending) := by
  simp [plainText]

/-- Of a text with a line feed behind it, all is content but a carriage return at its end. -/
theorem contentText_cutLines (cs : List Char) :
    contentText (cutLines (cs ++ ['\n'])) =
      if cs.getLast? = some '\r' then cs.dropLast else cs := by
  rcases exists_last_line cs with ⟨lines, text, ending, hlines, hending⟩
  have hall := plainText_cutLines (cs ++ ['\n'])
  rw [hlines, plainText_concat] at hall
  rw [hlines, contentText_concat]
  rcases hending with ⟨rfl, hlast⟩ | ⟨rfl, hlast⟩
  · rw [if_neg hlast]
    rw [← List.append_assoc] at hall
    exact List.append_cancel_right hall
  · have hpair : (['\r', '\n'] : List Char) = ['\r'] ++ ['\n'] := rfl
    rw [hpair, ← List.append_assoc, ← List.append_assoc] at hall
    rw [if_pos hlast, ← List.append_cancel_right hall, List.dropLast_concat]

end Lines

/-!
# Facts about containers
-/

section Containers

variable {layer : Layer} {layers : List Layer} {text rest lead cs : List Char}

theorem within?_cons (layer : Layer) (layers : List Layer) (text : List Char) :
    within? (layer :: layers) text = (layer.continue? text).bind (within? layers) := rfl

theorem opening?_cons (layer : Layer) (layers : List Layer) (text : List Char) :
    opening? (layer :: layers) text = (layer.open? text).bind (opening? layers) := rfl

/-- A line loses a part at its start, if it is not an empty line in an item. -/
theorem suffix_of_continue? (h : layer.continue? text = some rest) :
    rest <:+ text ∧ (rest = text -> text = [] ∧ layer ≠ .quote) := by
  cases layer with
  | quote =>
      have hshorter : exists mark, mark ≠ [] ∧ text = mark ++ rest := by
        rw [Layer.continue?] at h
        split at h
        · rw [← List.takeWhile_append_dropWhile (p := (· == ' ')) (l := text)]
          split at h
          · rename_i hdrop
            cases h
            exact ⟨text.takeWhile (· == ' ') ++ ['>', ' '], by simp, by simp [hdrop]⟩
          · rename_i hdrop
            cases h
            exact ⟨text.takeWhile (· == ' ') ++ ['>'], by simp, by simp [hdrop]⟩
          · cases h
        · cases h
      rcases hshorter with ⟨mark, hmark, rfl⟩
      refine ⟨List.suffix_append mark rest, ?_⟩
      intro heq
      exact absurd (List.self_eq_append_left.mp heq) hmark
  | item width opens =>
      rw [Layer.continue?] at h
      split at h
      · cases h
        refine ⟨List.drop_suffix _ _, ?_⟩
        intro heq
        refine ⟨?_, by simp⟩
        have hlength := congrArg List.length heq
        rw [List.length_drop] at hlength
        rw [← List.length_eq_zero_iff]
        omega
      · cases h

theorem suffix_of_within? (h : within? layers text = some rest) : rest <:+ text := by
  induction layers generalizing text with
  | nil =>
      cases h
      exact List.suffix_refl _
  | cons layer layers ih =>
      rw [within?_cons] at h
      rcases Option.bind_eq_some_iff.mp h with ⟨below, hbelow, hrest⟩
      exact (ih hrest).trans (suffix_of_continue? hbelow).1

theorem within?_nil_iff : within? layers [] = some [] ↔ .quote ∉ layers := by
  induction layers with
  | nil =>
      simp [within?]
  | cons layer layers ih =>
      rw [within?_cons]
      cases layer with
      | quote =>
          have hnone : Layer.quote.continue? [] = none := rfl
          simp [hnone]
      | item width opens =>
          have hempty : (Layer.item width opens).continue? [] = some [] := by
            simp [Layer.continue?]
          rw [hempty, Option.bind_some, ih]
          simp

/-- A line loses nothing just if there are no containers, or only items and nothing on the line. -/
theorem within?_self_iff :
    within? layers text = some text ↔ layers = [] ∨ (text = [] ∧ .quote ∉ layers) := by
  constructor
  · intro h
    cases layers with
    | nil =>
        exact Or.inl rfl
    | cons layer layers =>
        right
        rw [within?_cons] at h
        rcases Option.bind_eq_some_iff.mp h with ⟨below, hbelow, hrest⟩
        have hsuffix := suffix_of_continue? hbelow
        have hsame : below = text :=
          hsuffix.1.eq_of_length_le (suffix_of_within? hrest).length_le
        rcases hsuffix.2 hsame with ⟨rfl, _⟩
        rw [← within?_cons] at h
        exact ⟨rfl, within?_nil_iff.mp h⟩
  · rintro (rfl | ⟨rfl, hquote⟩)
    · rfl
    · exact within?_nil_iff.mpr hquote

theorem continue?_indent (layer : Layer) (cs : List Char) :
    layer.continue? (layer.indent ++ cs) = some cs := by
  cases layer with
  | quote =>
      rfl
  | item width opens =>
      have hblanks : (List.replicate (width + 1) ' ').isPrefixOf
          (List.replicate (width + 1) ' ' ++ cs) = true := by simp
      rw [Layer.continue?, Layer.indent, hblanks, Bool.or_true, if_pos rfl,
        List.drop_left' List.length_replicate]

/-- Behind what containers put before a line stands the line. -/
theorem within?_indents (layers : List Layer) (cs : List Char) :
    within? layers (indents layers ++ cs) = some cs := by
  induction layers with
  | nil =>
      rfl
  | cons layer layers ih =>
      rw [within?_cons, indents, List.flatMap_cons, List.append_assoc, continue?_indent,
        Option.bind_some]
      exact ih

theorem within?_trimmed (layers : List Layer) :
    within? layers (Text.dropEndWhile Text.isBlank (indents layers)) = some [] := by
  induction layers with
  | nil =>
      rfl
  | cons layer layers ih =>
      have hindents : indents (layer :: layers) = layer.indent ++ indents layers := rfl
      rw [within?_cons, hindents, Text.dropEndWhile_append]
      split
      · rename_i hnil
        rw [hnil] at ih
        have hempty : layer.continue? (Text.dropEndWhile Text.isBlank layer.indent) = some [] := by
          cases layer with
          | quote =>
              rfl
          | item width opens =>
              have hblank :
                  Text.dropEndWhile Text.isBlank (List.replicate (width + 1) ' ') = [] := by
                rw [Text.dropEndWhile, List.reverse_eq_nil_iff, List.dropWhile_eq_nil_iff]
                intro c hc
                rw [List.mem_reverse] at hc
                rw [List.eq_of_mem_replicate hc]
                rfl
              rw [Layer.indent, hblank]
              simp [Layer.continue?]
        rw [hempty, Option.bind_some, ih]
      · rw [continue?_indent, Option.bind_some, ih]

theorem opening?_lead (h : Leads layers lead) (cs : List Char) :
    opening? layers (lead ++ cs) = some cs := by
  induction h with
  | nil =>
      rfl
  | quote hlead ih =>
      rw [opening?_cons]
      exact ih
  | item width hlead ih =>
      rename_i layers lead
      have hopen : (Layer.item width false).open?
          ((Layer.item width false).indent ++ (lead ++ cs)) = some (lead ++ cs) :=
        continue?_indent (.item width false) (lead ++ cs)
      rw [Layer.indent] at hopen
      rw [opening?_cons, List.append_assoc, hopen]
      exact ih
  | marker hmarker hlead ih =>
      rename_i layers marker lead
      have hdrop : (marker ++ ' ' :: (lead ++ cs)).drop (marker.length + 1) = lead ++ cs := by
        rw [List.drop_append, List.drop_eq_nil_of_le (Nat.le_succ _), Nat.add_sub_cancel_left]
        rfl
      rw [opening?_cons, List.append_assoc, List.cons_append, Layer.open?,
        List.take_left' rfl, hmarker, List.getElem?_append_right (Nat.le_refl _), Nat.sub_self,
        hdrop]
      exact ih

end Containers

/-!
# Facts about fences
-/

section Fences

variable {size : Nat} {text info part : List Char}

theorem fence?_ticks (hsize : 3 ≤ size) (hinfo : '\x60' ∉ info) :
    fence? (ticks size ++ info) = some (0, size) := by
  have hhead : info.head? ≠ some '\x60' := fun h => hinfo (List.mem_of_head? h)
  have hblank : (ticks size ++ info).takeWhile (· == ' ') = [] := by
    rw [ticks, replicate_of_pos (by omega)]
    rfl
  have hrest : (ticks size ++ info).dropWhile (· == ' ') = ticks size ++ info := by
    rw [ticks, replicate_of_pos (by omega)]
    rfl
  unfold fence?
  dsimp only
  rw [hblank, hrest, takeWhile_ticks hhead, length_ticks, List.drop_left' (length_ticks size),
    if_pos ⟨Nat.zero_le 3, hsize, hinfo⟩]
  rfl

theorem closes_ticks (hsize : 0 < size) : closes size (ticks size) = true := by
  have hblank : (ticks size).takeWhile (· == ' ') = [] := by
    rw [ticks, replicate_of_pos hsize]
    rfl
  have hrest : (ticks size).dropWhile (· == ' ') = ticks size := by
    rw [ticks, replicate_of_pos hsize]
    rfl
  have hall : (ticks size).takeWhile (· == '\x60') = ticks size := by
    have htaken := takeWhile_ticks (by simp : ([] : List Char).head? ≠ some '\x60') size
    rwa [List.append_nil] at htaken
  have hnone : (ticks size).dropWhile (· == '\x60') = [] := by
    simp [ticks]
  unfold closes
  dsimp only
  rw [hblank, hrest, hall, hnone, length_ticks]
  simp

/-- No line ends code whose fence is longer than all runs of back quotes in the line. -/
theorem closes_of_short (h : longestRun '\x60' text < size) : closes size text = false := by
  have hpart := longestRun_le_append '\x60' (text.takeWhile (· == ' '))
    (text.dropWhile (· == ' ')) []
  rw [List.append_nil, List.takeWhile_append_dropWhile] at hpart
  have hrun := length_takeWhile_le '\x60' (text.dropWhile (· == ' '))
  unfold closes
  dsimp only
  rw [decide_eq_false (by omega : ¬ size ≤ _), Bool.and_false, Bool.false_and]

theorem longestRun_le_of_infix (h : part <:+: text) :
    longestRun '\x60' part ≤ longestRun '\x60' text := by
  rcases h with ⟨before, after, rfl⟩
  rw [List.append_assoc]
  exact longestRun_le_append '\x60' before part after

end Fences

end Markdown
end Docloom
