import Docloom.Proofs.Partials.Expansion
import Docloom.Site.Transform

/-!
# Frontmatter that is kept

A source with frontmatter is put together from the line that opens it, the raw text, the line that
closes it, line ends, and the body.  The raw text has whole lines, and none of them is a delimiter,
so it is found again in every text that is written with it, whatever the body is.
-/

namespace Docloom

namespace Frontmatter

variable {source raw rest cs line : List Char} {before later : List (List Char)}

/-!
# Lines
-/

/-- Whether a text is made of lines that end. -/
def HasWholeLines (cs : List Char) : Prop := cs = [] ∨ cs.getLast? = some '\n'

theorem lines_newline (cs : List Char) : lines ('\n' :: cs) = ['\n'] :: lines cs := by
  rw [lines, if_pos rfl]

theorem lines_cons_of_nil {c : Char} (hc : c ≠ '\n') (h : lines cs = []) :
    lines (c :: cs) = [[c]] := by
  rw [lines, if_neg hc, h]

theorem lines_cons_of_cons {c : Char} (hc : c ≠ '\n') (h : lines cs = line :: later) :
    lines (c :: cs) = (c :: line) :: later := by
  rw [lines, if_neg hc, h]

theorem HasWholeLines.cons {c : Char} (h : HasWholeLines cs) (hne : cs ≠ []) :
    HasWholeLines (c :: cs) := by
  rcases h with rfl | hlast
  · exact absurd rfl hne
  · exact Or.inr (by rw [List.getLast?_cons, hlast]; rfl)

theorem HasWholeLines.of_cons {c : Char} (h : HasWholeLines (c :: cs)) : HasWholeLines cs := by
  rcases h with hnil | hlast
  · cases hnil
  · cases cs with
    | nil =>
        exact Or.inl rfl
    | cons d cs =>
        rw [List.getLast?_cons_cons] at hlast
        exact Or.inr hlast

theorem lines_append (h : HasWholeLines raw) (cs : List Char) :
    lines (raw ++ cs) = lines raw ++ lines cs := by
  induction raw with
  | nil =>
      rfl
  | cons c raw ih =>
      rw [List.cons_append]
      by_cases hc : c = '\n'
      · rw [hc, lines_newline, lines_newline, ih h.of_cons, List.cons_append]
      · cases hraw : lines raw with
        | nil =>
            -- a text without lines is empty, and then the first character would end no line
            have hnil : raw = [] := by
              rw [← flatten_lines raw, hraw]
              rfl
            rw [hnil] at h
            rcases h with h | h
            · cases h
            · exact absurd (by simpa using h) hc
        | cons line later =>
            have happend := ih h.of_cons
            rw [hraw, List.cons_append] at happend
            rw [lines_cons_of_cons hc happend, lines_cons_of_cons hc hraw, List.cons_append]

/-- A text that is cut between two of its lines has the lines before the cut and those after it,
and what stands before the cut ends. -/
theorem lines_cut (h : lines cs = before ++ later) :
    lines before.flatten = before ∧ lines later.flatten = later ∧
      (later ≠ [] -> HasWholeLines before.flatten) := by
  induction cs generalizing before with
  | nil =>
      rcases List.append_eq_nil_iff.mp h.symm with ⟨rfl, rfl⟩
      exact ⟨rfl, rfl, fun _ => Or.inl rfl⟩
  | cons c cs ih =>
      cases before with
      | nil =>
          rw [List.nil_append] at h
          rw [← h, flatten_lines]
          exact ⟨rfl, rfl, fun _ => Or.inl rfl⟩
      | cons line before =>
          by_cases hc : c = '\n'
          · rw [hc, lines_newline, List.cons_append, List.cons.injEq] at h
            rcases h with ⟨rfl, hrest⟩
            rcases ih hrest with ⟨hbefore, hlater, hwhole⟩
            refine ⟨?_, hlater, ?_⟩
            · rw [List.flatten_cons, List.singleton_append, lines_newline, hbefore]
            · intro hne
              rw [List.flatten_cons, List.singleton_append]
              by_cases hempty : before.flatten = []
              · rw [hempty]
                exact Or.inr rfl
              · exact (hwhole hne).cons hempty
          · cases hlines : lines cs with
            | nil =>
                rw [lines_cons_of_nil hc hlines, List.cons_append, List.cons.injEq] at h
                rcases h with ⟨rfl, hrest⟩
                rcases List.append_eq_nil_iff.mp hrest.symm with ⟨rfl, rfl⟩
                exact ⟨lines_cons_of_nil hc rfl, rfl, fun hne => absurd rfl hne⟩
            | cons first others =>
                rw [lines_cons_of_cons hc hlines, List.cons_append, List.cons.injEq] at h
                rcases h with ⟨rfl, rfl⟩
                have hcut : lines cs = first :: before ++ later := hlines
                rcases ih hcut with ⟨hbefore, hlater, hwhole⟩
                have hne : (first :: before).flatten ≠ [] := by
                  intro hnil
                  rw [hnil] at hbefore
                  cases hbefore
                exact ⟨lines_cons_of_cons hc hbefore, hlater, fun h => (hwhole h).cons hne⟩

/-!
# Delimiters
-/

/-- Whether a line is a delimiter: three dashes, and nothing but the end of the line after them. -/
def IsDelimiter (line : List Char) : Prop :=
  exists ends, line = delimiter ++ ends ∧ forall c, c ∈ ends -> isLineEnd c = true

theorem isDelimiter_iff : isDelimiter line = true ↔ IsDelimiter line := by
  rw [isDelimiter, beq_iff_eq]
  constructor
  · intro h
    refine ⟨(line.reverse.takeWhile isLineEnd).reverse, ?_, ?_⟩
    · rw [← h, ← List.reverse_append, List.takeWhile_append_dropWhile, List.reverse_reverse]
    · intro c hc
      exact List.all_eq_true.mp List.all_takeWhile c (List.mem_reverse.mp hc)
  · rintro ⟨ends, rfl, hends⟩
    rw [List.reverse_append, List.dropWhile_append_of_pos]
    · rfl
    · intro c hc
      exact hends c (List.mem_reverse.mp hc)

theorem afterOpening?_eq_some_iff :
    afterOpening? source = some rest ↔
      exists opening, (opening = delimiter ++ ['\n'] ∨ opening = delimiter ++ ['\r', '\n']) ∧
        source = opening ++ rest := by
  constructor
  · intro h
    unfold afterOpening? at h
    split at h
    · cases h
      exact ⟨_, Or.inl rfl, rfl⟩
    · cases h
      exact ⟨_, Or.inr rfl, rfl⟩
    · cases h
  · rintro ⟨opening, rfl | rfl, rfl⟩
    · rfl
    · rfl

/-- The text before the first delimiter, and the text after it. -/
theorem exists_of_atClosing {all : List (List Char)} (h : atClosing? all = some (raw, rest)) :
    exists before line later, all = before ++ line :: later ∧
      (forall other, other ∈ before -> ¬ IsDelimiter other) ∧ IsDelimiter line ∧
      raw = before.flatten ∧ rest = later.flatten := by
  induction all generalizing raw with
  | nil =>
      cases h
  | cons line all ih =>
      rw [atClosing?] at h
      split at h
      · rename_i hline
        cases h
        exact ⟨[], line, all, rfl, by simp, isDelimiter_iff.mp hline, rfl, rfl⟩
      · rename_i hline
        rcases Option.map_eq_some_iff.mp h with ⟨⟨found, after⟩, hfound, hparts⟩
        cases hparts
        rcases ih hfound with ⟨before, closing, later, rfl, hbefore, hclosing, rfl, rfl⟩
        refine ⟨line :: before, closing, later, rfl, ?_, hclosing, rfl, rfl⟩
        intro other hother
        rcases List.mem_cons.mp hother with rfl | hmem
        · exact fun hdelimiter => hline (isDelimiter_iff.mpr hdelimiter)
        · exact hbefore other hmem

theorem atClosing?_append (hbefore : forall other, other ∈ before -> ¬ IsDelimiter other)
    (hline : IsDelimiter line) (later : List (List Char)) :
    atClosing? (before ++ line :: later) = some (before.flatten, later.flatten) := by
  induction before with
  | nil =>
      rw [List.nil_append, atClosing?, if_pos (isDelimiter_iff.mpr hline)]
      rfl
  | cons first before ih =>
      have hfirst : ¬ isDelimiter first = true := by
        rw [isDelimiter_iff]
        exact hbefore first List.mem_cons_self
      rw [List.cons_append, atClosing?, if_neg hfirst,
        ih fun other hother => hbefore other (List.mem_cons_of_mem _ hother)]
      rfl

/-!
# Parts
-/

/-- The parts of a source with frontmatter: the line that opens the frontmatter, the raw text, the
line that closes it, line ends, and the body. -/
structure Parts (source : List Char) where
  opening : List Char
  raw : List Char
  closing : List Char
  gap : List Char
  body : List Char
  source_eq : source = opening ++ (raw ++ (closing ++ (gap ++ body)))
  opening_eq : opening = delimiter ++ ['\n'] ∨ opening = delimiter ++ ['\r', '\n']
  /-- The raw text is made of whole lines, and one line closes it. -/
  lines_eq :
    lines (raw ++ (closing ++ (gap ++ body))) = lines raw ++ closing :: lines (gap ++ body)
  raw_plain : forall line, line ∈ lines raw -> ¬ IsDelimiter line
  closing_delimiter : IsDelimiter closing
  gap_ends : forall c, c ∈ gap -> isLineEnd c = true
  body_starts : forall c, body.head? = some c -> isLineEnd c = false

namespace Parts

theorem raw_whole (parts : Parts source) : HasWholeLines parts.raw := by
  have hwhole := (lines_cut parts.lines_eq).2.2 (by simp)
  rw [flatten_lines] at hwhole
  exact hwhole

theorem cut_eq (parts : Parts source) :
    cut? source = some (parts.raw, parts.gap ++ parts.body) := by
  have hopening : afterOpening? source =
      some (parts.raw ++ (parts.closing ++ (parts.gap ++ parts.body))) :=
    afterOpening?_eq_some_iff.mpr ⟨parts.opening, parts.opening_eq, parts.source_eq⟩
  rw [cut?, hopening, Option.bind_some, parts.lines_eq,
    atClosing?_append parts.raw_plain parts.closing_delimiter, flatten_lines, flatten_lines]

theorem dropWhile_rest (parts : Parts source) :
    (parts.gap ++ parts.body).dropWhile isLineEnd = parts.body := by
  rw [List.dropWhile_append_of_pos parts.gap_ends]
  cases hbody : parts.body with
  | nil =>
      rfl
  | cons c body =>
      have hc := parts.body_starts c (by rw [hbody]; rfl)
      exact List.dropWhile_cons_of_neg (by simp [hc])

end Parts

theorem exists_parts (h : cut? source = some (raw, rest)) :
    exists parts : Parts source, parts.raw = raw ∧ parts.gap ++ parts.body = rest := by
  rcases Option.bind_eq_some_iff.mp h with ⟨opened, hopened, hclosing⟩
  rcases afterOpening?_eq_some_iff.mp hopened with ⟨opening, hopening, hsource⟩
  rcases exists_of_atClosing hclosing with
    ⟨before, closing, later, hlines, hbefore, hdelimiter, rfl, rfl⟩
  have hopenedLines : opened = before.flatten ++ (closing ++ later.flatten) := by
    rw [← flatten_lines opened, hlines, List.flatten_append, List.flatten_cons]
  have hraw : lines before.flatten = before := (lines_cut hlines).1
  have hlater : lines later.flatten = later := by
    have hmoved : lines opened = (before ++ [closing]) ++ later := by
      rw [hlines, List.append_assoc]
      rfl
    exact (lines_cut hmoved).2.1
  have hrest : later.flatten.takeWhile isLineEnd ++ later.flatten.dropWhile isLineEnd =
      later.flatten :=
    List.takeWhile_append_dropWhile
  refine ⟨
    { opening, closing
      raw := before.flatten
      gap := later.flatten.takeWhile isLineEnd
      body := later.flatten.dropWhile isLineEnd
      source_eq := by rw [hrest, ← hopenedLines, hsource]
      opening_eq := hopening
      lines_eq := by rw [hrest, ← hopenedLines, hlines, hraw, hlater]
      raw_plain := by rwa [hraw]
      closing_delimiter := hdelimiter
      gap_ends := fun c hc => List.all_eq_true.mp List.all_takeWhile c hc
      body_starts := ?_ }, rfl, hrest⟩
  intro c hc
  have hhead := List.head?_dropWhile_not isLineEnd later.flatten
  rw [hc] at hhead
  simpa using hhead

/-!
# Splitting
-/

variable {text body : String} {kept : Frontmatter}

theorem split_of_parts (parts : Parts text.toList) :
    split text = ((entriesOf (String.ofList parts.raw)).mapError Error.frontmatter).map
      fun entries => (some ⟨String.ofList parts.raw, entries⟩, String.ofList parts.body) := by
  unfold split
  rw [parts.cut_eq]
  dsimp only
  rw [parts.dropWhile_rest]
  cases entriesOf (String.ofList parts.raw) with
  | error fault =>
      rfl
  | ok entries =>
      rfl

theorem split_of_no_parts (h : ¬ Nonempty (Parts text.toList)) : split text = .ok (none, text) := by
  unfold split
  cases hcut : cut? text.toList with
  | none =>
      rfl
  | some cut =>
      rcases exists_parts hcut with ⟨parts, _⟩
      exact absurd ⟨parts⟩ h

theorem exists_of_split (h : split text = .ok (some kept, body)) :
    exists parts : Parts text.toList,
      kept.raw = String.ofList parts.raw ∧ entriesOf kept.raw = .ok kept.entries := by
  by_cases hparts : Nonempty (Parts text.toList)
  · rcases hparts with ⟨parts⟩
    rw [split_of_parts parts] at h
    rcases Results.exists_of_map h with ⟨entries, hentries, heq⟩
    cases heq
    exact ⟨parts, rfl, Results.of_mapError hentries⟩
  · rw [split_of_no_parts hparts] at h
    cases h

/-!
# Writing
-/

/-- Raw text of whole lines is written as it is, between two delimiters. -/
theorem toList_stringify (h : HasWholeLines kept.raw.toList) (body : String) :
    (kept.stringify body).toList = delimiter ++ ['\n'] ++ (kept.raw.toList ++
      (delimiter ++ ['\n'] ++ if body.toList = [] then [] else '\n' :: body.toList)) := by
  have hending : (kept.raw.toList.isEmpty || kept.raw.toList.getLast? == some '\n') = true := by
    rw [Bool.or_eq_true, List.isEmpty_iff, beq_iff_eq]
    exact h
  rw [stringify]
  simp only [hending, if_true, String.toList_ofList]
  by_cases hbody : body.toList = []
  · simp [String.toList_eq_nil_iff.mp hbody]
  · have hne : ¬ body.isEmpty = true := by
      rw [String.isEmpty_iff, ← String.toList_eq_nil_iff]
      exact hbody
    simp [hbody, hne]

theorem exists_stringify_eq (h : HasWholeLines kept.raw.toList) (body : String) :
    exists rest, kept.stringify body = "---\n" ++ kept.raw ++ "---\n" ++ rest := by
  refine ⟨String.ofList (if body.toList = [] then [] else '\n' :: body.toList), ?_⟩
  apply String.toList_inj.mp
  rw [toList_stringify h]
  simp [delimiter]

/-- The parts of what is written with raw text for a body. -/
def Parts.written (parts : Parts source) (body : List Char) :
    Parts (delimiter ++ ['\n'] ++ (parts.raw ++
      (delimiter ++ ['\n'] ++ if body = [] then [] else '\n' :: body))) where
  opening := delimiter ++ ['\n']
  raw := parts.raw
  closing := delimiter ++ ['\n']
  gap := if body = [] then [] else '\n' :: body.takeWhile isLineEnd
  body := body.dropWhile isLineEnd
  source_eq := by
    by_cases hbody : body = []
    · simp [hbody]
    · simp [hbody]
  opening_eq := Or.inl rfl
  lines_eq := by
    rw [lines_append parts.raw_whole]
    rfl
  raw_plain := parts.raw_plain
  closing_delimiter := ⟨['\n'], rfl, by simp [isLineEnd]⟩
  gap_ends := by
    intro c hc
    by_cases hbody : body = []
    · rw [if_pos hbody] at hc
      cases hc
    · rw [if_neg hbody] at hc
      rcases List.mem_cons.mp hc with rfl | hmem
      · rfl
      · exact List.all_eq_true.mp List.all_takeWhile c hmem
  body_starts := by
    intro c hc
    have hhead := List.head?_dropWhile_not isLineEnd body
    rw [hc] at hhead
    simpa using hhead

theorem exists_parts_stringify (parts : Parts source) (hraw : kept.raw.toList = parts.raw)
    (other : String) :
    exists written : Parts (kept.stringify other).toList,
      written.raw = parts.raw ∧ written.body = other.toList.dropWhile isLineEnd := by
  rw [toList_stringify (by rw [hraw]; exact parts.raw_whole), hraw]
  exact ⟨parts.written other.toList, rfl, rfl⟩

/-- Frontmatter that was found is found again in what is written with it. -/
theorem split_stringify (h : split text = .ok (some kept, body)) (other : String) :
    split (kept.stringify other) = .ok (some kept, Text.trimStartWhile isLineEnd other) := by
  rcases exists_of_split h with ⟨parts, hraw, hentries⟩
  have hparts : kept.raw.toList = parts.raw := by
    rw [hraw, String.toList_ofList]
  rcases exists_parts_stringify parts hparts other with ⟨written, hsame, hbody⟩
  rw [split_of_parts written, hsame, ← hraw, hentries, hbody]
  rfl

/-!
# Documents
-/

/-- The frontmatter of a source is put before the text of its tree. -/
theorem exists_of_transformText {site : Site} {files : FileSystem} {cache after : RedirectCache}
    {document : Document} {front : Option Frontmatter} {output : String}
    (hsplit : split text = .ok (front, body))
    (h : site.transformText files cache document text = (after, .ok output)) :
    exists root, output = Site.textOf front root := by
  unfold Site.transformText at h
  cases hread : site.readSource files document text with
  | error error =>
      rw [hread] at h
      cases h
  | ok read =>
      rcases Results.exists_of_bind hread with ⟨config, _, hrest⟩
      rcases Results.exists_of_bind hrest with ⟨parts, hparts, hrest⟩
      rcases Results.exists_of_bind hrest with ⟨root, _, hrest⟩
      rw [hsplit] at hparts
      cases hparts
      cases hrest
      rw [hread] at h
      rcases Results.exists_of_bind (congrArg Prod.snd h) with ⟨rules, _, hrest⟩
      rcases Results.exists_of_bind hrest with ⟨linked, _, hlinked⟩
      cases hlinked
      exact ⟨linked, rfl⟩

/-- How a source is split, and what becomes of its frontmatter.

A source that cannot be put together from the parts that frontmatter asks for has none.  Another
one is cut into these parts, and fails only when its raw text does not hold a mapping.  Whatever is
written with frontmatter that was found, it is found there again as it was; so is that of a source
in the text that is written for the source, which starts with the raw text between two
delimiters. -/
theorem split_exact :
    (forall source : String,
      (¬ Nonempty (Parts source.toList) ∧ split source = .ok (none, source)) ∨
      exists parts : Parts source.toList,
        split source = ((entriesOf (String.ofList parts.raw)).mapError Error.frontmatter).map
          fun entries => (some ⟨String.ofList parts.raw, entries⟩, String.ofList parts.body)) ∧
    forall (source body : String) (kept : Frontmatter),
      split source = .ok (some kept, body) ->
        (forall other : String, split (kept.stringify other) =
          .ok (some kept, Text.trimStartWhile isLineEnd other)) ∧
        forall (site : Site) (files : FileSystem) (cache after : RedirectCache)
          (document : Document) (output : String),
          site.transformText files cache document source = (after, .ok output) ->
            exists written rest, output = kept.stringify written ∧
              output = "---\n" ++ kept.raw ++ "---\n" ++ rest ∧
              split output = .ok (some kept, Text.trimStartWhile isLineEnd written) := by
  constructor
  · intro source
    by_cases hparts : Nonempty (Parts source.toList)
    · rcases hparts with ⟨parts⟩
      exact Or.inr ⟨parts, split_of_parts parts⟩
    · exact Or.inl ⟨hparts, split_of_no_parts hparts⟩
  · intro source body kept hsplit
    refine ⟨split_stringify hsplit, ?_⟩
    intro site files cache after document output houtput
    rcases exists_of_transformText hsplit houtput with ⟨root, rfl⟩
    rcases exists_of_split hsplit with ⟨parts, hraw, _⟩
    have hwhole : HasWholeLines kept.raw.toList := by
      rw [hraw, String.toList_ofList]
      exact parts.raw_whole
    rcases exists_stringify_eq hwhole root.toMarkdown with ⟨rest, hrest⟩
    exact ⟨root.toMarkdown, rest, rfl, hrest, split_stringify hsplit root.toMarkdown⟩

/-- A product without versions, and nothing else. -/
def plainSite : Site where
  config := { products := Catalog.ofList [("vault", { versionedDocs := false })] }
  contentRoot := ⟨"content"⟩
  outputRoot := ⟨"public"⟩
  table := Catalog.empty
  shared := []

def plainDocument : Document where
  file := ⟨"content/vault/a.mdx"⟩
  relative := ⟨"vault/a.mdx"⟩
  product := "vault"
  version := none
  partialsDir := ⟨"content/vault/partials"⟩
  redirectsDir := ⟨"content/vault"⟩
  outputPath := ⟨"public/vault/a.mdx"⟩

/-- Lines that end in two characters, and a body that looks like frontmatter itself. -/
theorem split_exact_lookalike :
    exists kept,
      split "---\r\na: b\r\n---\r\n\r\nA\n" = .ok (some kept, "A\n") ∧
      kept.raw = "a: b\r\n" ∧
      split (kept.stringify "\n---\nb: c\n---\n") = .ok (some kept, "---\nb: c\n---\n") ∧
      (plainSite.transformText ⟨[], []⟩ .empty plainDocument
        "---\r\na: b\r\n---\r\n\r\nA\n").2 = .ok "---\na: b\r\n---\n\nA\n" ∧
      split "---\na: b\r\n---\n\nA\n" = .ok (some kept, "A\n") := by
  have hfound : (split "---\r\na: b\r\n---\r\n\r\nA\n").map
      (fun found => (found.1.map raw, found.2)) = .ok (some "a: b\r\n", "A\n") := by
    decide +kernel
  have houtput : (plainSite.transformText ⟨[], []⟩ .empty plainDocument
      "---\r\na: b\r\n---\r\n\r\nA\n").2 = .ok "---\na: b\r\n---\n\nA\n" := by
    decide +kernel
  have hbody : (split "---\na: b\r\n---\n\nA\n").map Prod.snd = .ok "A\n" := by
    decide +kernel
  cases hsplit : split "---\r\na: b\r\n---\r\n\r\nA\n" with
  | error error =>
      rw [hsplit] at hfound
      cases hfound
  | ok found =>
      rcases found with ⟨_ | kept, body⟩
      · rw [hsplit] at hfound
        cases hfound
      · rw [hsplit] at hfound
        injection hfound with hfound
        obtain ⟨hraw, rfl⟩ := Prod.mk.inj hfound
        rcases split_exact.2 _ _ _ hsplit with ⟨hother, htransform⟩
        rcases htransform _ _ _ _ _ _ (Prod.ext rfl houtput) with
          ⟨written, rest, _, _, hagain⟩
        rw [hagain] at hbody
        injection hbody with hbody
        refine ⟨kept, rfl, Option.some.inj hraw, ?_, houtput, ?_⟩
        · rw [hother]
          rfl
        · rw [hagain, ← hbody]

end Frontmatter
end Docloom
