import Docloom.Proofs.Markdown.CodeLines
import Docloom.Proofs.Markdown.Destination

/-!
# The targets of links

A link and a definition are written with a url and a title, which a reader decodes.  Quotes in the
title are escaped, and nothing else is.  So a target is read as it was just if there is nothing to
decode in it and nothing in it ends it.
-/

namespace Docloom
namespace Markdown

open Writer

/-!
# Titles
-/

/-- Whether there is nothing on a line of a text between two others. -/
def hasBlankLine (cs : List Char) : Bool :=
  (cutLines cs).tail.any fun line => !line.ending.isEmpty && line.text.all Text.isSpace

/-- A text without the space it begins with, which has one line break in it at most. -/
def skipSpace (cs : List Char) : List Char :=
  match cs.dropWhile Text.isSpace with
  | '\r' :: '\n' :: rest => rest.dropWhile Text.isSpace
  | '\n' :: rest => rest.dropWhile Text.isSpace
  | '\r' :: rest => rest.dropWhile Text.isSpace
  | rest => rest

/-- What ends a title. -/
def isTitleStop (c : Char) : Bool := c == '"'

/-- A title in quotes behind space, decoded, and the rest. -/
def readTitle (cs : List Char) : Option (List Char × List Char) :=
  if cs.head? ≠ some '"' ∧ (skipSpace cs).head? = some '"' then
    let (body, rest) := readUpTo isTitleStop false (skipSpace cs).tail
    if rest.head? = some '"' ∧ hasBlankLine body = false then
      some (decodedText body, rest.tail)
    else
      none
  else
    none

/-- Whether a title is read as it was. -/
def KeepsTitle (title : List Char) : Prop := Literal title ∧ title.getLast? ≠ some '\\'

instance (title : List Char) : Decidable (KeepsTitle title) :=
  inferInstanceAs (Decidable (_ ∧ _))

section Titles

variable {title : String} {cs rest : List Char}

theorem isTitleStop_iff {c : Char} : isTitleStop c = true ↔ c = '"' := beq_iff_eq

theorem toList_titleSuffix (title : String) :
    (titleSuffix (some title)).toList =
      ' ' :: '"' :: (escapedText isTitleStop title.toList ++ ['"']) := by
  have hescaped : (Text.replaceChar '"' "\\\"" title).toList =
      escapedText isTitleStop title.toList := by
    rw [Text.replaceChar, String.toList_ofList, escapedText]
    congr 1
    funext c
    by_cases hc : c = '"'
    · rw [hc]
      rfl
    · rw [if_neg (mt eq_of_beq hc), if_neg (mt isTitleStop_iff.mp hc)]
  simp [titleSuffix, hescaped]

theorem escapedText_breaks (h : forall c, c ∈ cs -> c ≠ '\n' ∧ c ≠ '\r') :
    forall c, c ∈ escapedText isTitleStop cs -> c ≠ '\n' ∧ c ≠ '\r' := by
  intro c hc
  rcases List.mem_flatMap.mp hc with ⟨d, hd, hmember⟩
  split at hmember
  · simp only [List.mem_cons, List.not_mem_nil, or_false] at hmember
    rcases hmember with rfl | rfl
    · decide
    · exact h _ hd
  · rw [List.mem_singleton.mp hmember]
    exact h _ hd

/-- A text of one line has no blank lines. -/
theorem hasBlankLine_of_plain (h : forall c, c ∈ cs -> c ≠ '\n' ∧ c ≠ '\r') :
    hasBlankLine cs = false := by
  have htail : (cutLines cs).tail = [] := by
    induction cs with
    | nil =>
        rfl
    | cons c cs ih =>
        have hrest := ih fun d hd => h d (List.mem_cons_of_mem _ hd)
        cases hlines : cutLines cs with
        | nil =>
            have hnil : cs = [] := by
              by_contra hne
              exact cutLines_ne_nil hne hlines
            have hc := h c List.mem_cons_self
            rw [hnil, cutLines, if_neg (by simp [hc.1, hc.2])]
            rfl
        | cons line lines =>
            rw [cutLines_plain (h c List.mem_cons_self) hlines]
            rwa [hlines] at hrest
  rw [hasBlankLine, htail]
  rfl

theorem readTitle_quoted_iff {ds : List Char} :
    readTitle (' ' :: '"' :: cs) = some (ds, rest) ↔
      exists body, readUpTo isTitleStop false cs = (body, '"' :: rest) ∧
        hasBlankLine body = false ∧ decodedText body = ds := by
  have hskip : skipSpace (' ' :: '"' :: cs) = '"' :: cs := rfl
  have hquoted : (' ' :: '"' :: cs).head? ≠ some '"' ∧ ('"' :: cs).head? = some '"' := by
    simp
  unfold readTitle
  rw [hskip, if_pos hquoted, List.tail_cons]
  rcases hread : readUpTo isTitleStop false cs with ⟨body, more⟩
  dsimp only
  constructor
  · intro h
    split at h
    · rename_i hend
      cases h
      rcases List.head?_eq_some_iff.mp hend.1 with ⟨others, rfl⟩
      exact ⟨body, rfl, hend.2, rfl⟩
    · cases h
  · rintro ⟨found, heq, hblank, rfl⟩
    cases heq
    rw [if_pos ⟨rfl, hblank⟩]
    rfl

/-- A title is read as it was just if there is nothing to decode in it and no backslash before its
end. -/
theorem readTitle_iff (hbreaks : forall c, c ∈ title.toList -> c ≠ '\n' ∧ c ≠ '\r') :
    readTitle ((titleSuffix (some title)).toList ++ rest) = some (title.toList, rest) ↔
      KeepsTitle title.toList := by
  have hread (hliteral : Literal title.toList) :
      readUpTo isTitleStop false (escapedText isTitleStop title.toList ++ '"' :: rest) =
          (escapedText isTitleStop title.toList, '"' :: rest) ↔
        title.toList.getLast? ≠ some '\\' := by
    rw [readUpTo_iff (fun c hc => ⟨isTitleStop_iff.mp hc, rfl⟩) (by decide) rfl (by decide) hliteral
      (fun c _ hc => by rw [isTitleStop_iff.mp hc]; decide) fun h => by cases h]
    simp
  rw [toList_titleSuffix, List.cons_append, List.cons_append, List.append_assoc,
    List.singleton_append, readTitle_quoted_iff]
  constructor
  · rintro ⟨body, hbody, _, hdecoded⟩
    have hsplit := readUpTo_append isTitleStop false
      (escapedText isTitleStop title.toList ++ '"' :: rest)
    rw [hbody] at hsplit
    have hsame : body = escapedText isTitleStop title.toList := List.append_cancel_right hsplit
    rw [hsame] at hbody hdecoded
    have hguarded := guarded_of_readUpTo (fun _ => isTitleStop_iff.mp) (by decide) rfl hbody
    have hliteral : Literal title.toList :=
      (length_decodedText (fun _ => isTitleStop_iff.mp) hguarded).2 (by rw [hdecoded])
    exact ⟨hliteral, (hread hliteral).mp hbody⟩
  · rintro ⟨hliteral, hlast⟩
    exact ⟨_, (hread hliteral).mpr hlast, hasBlankLine_of_plain (escapedText_breaks hbreaks),
      decodedText_of_literal (fun _ => isTitleStop_iff.mp) hliteral⟩

end Titles

/-!
# Targets in a document
-/

/-- A url and a title, and what is written on both sides of them. -/
structure WrittenTarget where
  opening : List Char
  url : String
  title : Option String
  closing : List Char

/-- What the target of a link or of a definition is, and where it is written. -/
def writtenTarget? : NodeKind -> Option WrittenTarget
  | .link url title .inline => some ⟨[']', '('], url, title, [')']⟩
  | .definition _ _ url title => some ⟨[']', ':', ' '], url, title, []⟩
  | _ => none

namespace WrittenTarget

/-- A target has no line breaks in it. -/
structure InLine (target : WrittenTarget) : Prop where
  url : forall c, c ∈ target.url.toList -> c ≠ '\n' ∧ c ≠ '\r'
  title : forall title, target.title = some title ->
    forall c, c ∈ title.toList -> c ≠ '\n' ∧ c ≠ '\r'

/-- What may stand behind a target: anything behind the parenthesis of a link, and the end of a line
that no title follows behind a definition. -/
def MayPrecede (target : WrittenTarget) (more : List Char) : Prop :=
  target.closing = [] ->
    more = [] ∨ exists c rest, more = c :: rest ∧ c ∈ ['\n', '\r'] ∧ readTitle more = none

/-- Whether the url and the title are read as they were, up to `follow`. -/
structure IsRead (target : WrittenTarget) (follow : List Char) : Prop where
  url : readDestination
      ((destination target.url).toList ++ ((titleSuffix target.title).toList ++ follow)) =
    some (target.url.toList, (titleSuffix target.title).toList ++ follow)
  title : readTitle ((titleSuffix target.title).toList ++ follow) =
    target.title.map fun title => (title.toList, follow)

/-- Whether the url and the title of a target are kept. -/
structure Keeps (target : WrittenTarget) (follow : List Char) : Prop where
  url : KeepsUrl target.url.toList ((titleSuffix target.title).toList ++ follow)
  title : forall title, target.title = some title -> KeepsTitle title.toList

end WrittenTarget

section Documents

variable {node : Node} {setting : Setting} {target : WrittenTarget} {more : List Char}

/-- Where the target of a node is written. -/
theorem exists_toList_nodeText (htarget : writtenTarget? node.kind = some target)
    (hcell : setting.inCell = false) :
    exists before, (nodeText setting node).toList = before ++ (target.opening ++
      ((destination target.url).toList ++
        ((titleSuffix target.title).toList ++ target.closing))) := by
  rcases node with ⟨id, kind, value, children, position⟩
  unfold writtenTarget? at htarget
  split at htarget
  · rename_i url title hkind
    cases htarget
    obtain rfl : kind = .link url title .inline := hkind
    refine ⟨'[' :: (inlineTexts false false children).toList, ?_⟩
    rw [nodeText, hcell]
    simp [escapeBars]
  · rename_i identifier label url title hkind
    cases htarget
    obtain rfl : kind = .definition identifier label url title := hkind
    refine ⟨'[' :: (label.getD identifier).toList, ?_⟩
    rw [nodeText]
    simp
  · cases htarget

theorem closing_cases (htarget : writtenTarget? node.kind = some target) :
    target.closing = [')'] ∨ target.closing = [] := by
  unfold writtenTarget? at htarget
  split at htarget <;> cases htarget
  · exact Or.inl rfl
  · exact Or.inr rfl

/-- What is written behind the url ends it. -/
theorem endsUrl_follow (htarget : writtenTarget? node.kind = some target)
    (hmore : target.MayPrecede more) :
    EndsUrl ((titleSuffix target.title).toList ++ (target.closing ++ more)) := by
  cases htitle : target.title with
  | some title =>
      rw [toList_titleSuffix]
      exact Or.inr ⟨' ', _, rfl, by decide⟩
  | none =>
      rcases closing_cases htarget with hclosing | hclosing
      · rw [hclosing]
        exact Or.inr ⟨')', more, rfl, by decide⟩
      · rw [hclosing]
        rcases hmore hclosing with rfl | ⟨c, rest, rfl, hc, _⟩
        · exact Or.inl rfl
        · exact Or.inr ⟨c, rest, rfl, List.mem_cons_of_mem _ (List.mem_cons_of_mem _ hc)⟩

/-- No title is read behind a url without one. -/
theorem readTitle_follow (htarget : writtenTarget? node.kind = some target)
    (hmore : target.MayPrecede more) : readTitle (target.closing ++ more) = none := by
  rcases closing_cases htarget with hclosing | hclosing
  · rw [hclosing]
    rfl
  · rw [hclosing]
    rcases hmore hclosing with rfl | ⟨_, _, _, _, hnone⟩
    · rfl
    · exact hnone

/-- The url and the title of a link and of a definition are written with nothing escaped in them but
the quotes of the title.  A reader finds them as they were, and ends where they end, just if there
is nothing to decode in them and nothing in them ends them. -/
theorem linkTarget_exact (htarget : writtenTarget? node.kind = some target)
    (hcell : setting.inCell = false) (hline : target.InLine)
    (hmore : target.MayPrecede more) :
    (exists before, (nodeText setting node).toList = before ++ (target.opening ++
      ((destination target.url).toList ++
        ((titleSuffix target.title).toList ++ target.closing)))) ∧
      (target.IsRead (target.closing ++ more) ↔ target.Keeps (target.closing ++ more)) := by
  refine ⟨exists_toList_nodeText htarget hcell, ?_⟩
  have hurl := readDestination_iff hline.url (endsUrl_follow htarget hmore)
  have htitle : readTitle ((titleSuffix target.title).toList ++ (target.closing ++ more)) =
      target.title.map (fun title => (title.toList, target.closing ++ more)) ↔
        forall title, target.title = some title -> KeepsTitle title.toList := by
    cases hkind : target.title with
    | none =>
        simpa [titleSuffix] using readTitle_follow htarget hmore
    | some title =>
        simpa using readTitle_iff (hline.title title hkind)
  constructor
  · intro h
    exact ⟨hurl.mp h.url, htitle.mp h.title⟩
  · intro h
    exact ⟨hurl.mpr h.url, htitle.mpr h.title⟩

/-- A definition whose title has quotes in it. -/
def quotedDefinition : Node :=
  ⟨0, .definition "x" none "/a(b)" (some "say \"c\""), none, [], none⟩

def quotedTarget : WrittenTarget := ⟨[']', ':', ' '], "/a(b)", some "say \"c\"", []⟩

/-- A link whose url has a backslash before punctuation. -/
def escapingLink : Node := ⟨0, .link "a\\*b" none .inline, none, [], none⟩

def escapingTarget : WrittenTarget := ⟨[']', '('], "a\\*b", none, [')']⟩

/-- A title with quotes is read as it was, and a url with the text of an escape is not. -/
theorem linkTarget_exact_escaping :
    ((exists before, (nodeText .block quotedDefinition).toList =
        before ++ (quotedTarget.opening ++ ((destination quotedTarget.url).toList ++
          ((titleSuffix quotedTarget.title).toList ++ quotedTarget.closing)))) ∧
      quotedTarget.IsRead (quotedTarget.closing ++ ['\n'])) ∧
      (exists before, (nodeText .block escapingLink).toList =
        before ++ (escapingTarget.opening ++ ((destination escapingTarget.url).toList ++
          ((titleSuffix escapingTarget.title).toList ++ escapingTarget.closing)))) ∧
      ¬ escapingTarget.IsRead (escapingTarget.closing ++ ['\n']) := by
  have hquotedLine : quotedTarget.InLine := by
    refine ⟨by simp [quotedTarget], ?_⟩
    intro title htitle
    cases htitle
    simp
  have hquotedMore : quotedTarget.MayPrecede ['\n'] :=
    fun _ => Or.inr ⟨'\n', [], rfl, List.mem_cons_self, rfl⟩
  have hescapingLine : escapingTarget.InLine := by
    refine ⟨by simp [escapingTarget], ?_⟩
    intro title htitle
    cases htitle
  have hescapingMore : escapingTarget.MayPrecede ['\n'] := by
    intro hclosing
    cases hclosing
  constructor
  · rcases linkTarget_exact (rfl : writtenTarget? quotedDefinition.kind = some quotedTarget)
      (rfl : Setting.block.inCell = false) hquotedLine hquotedMore with ⟨htext, hread⟩
    refine ⟨htext, hread.mpr ⟨⟨by decide, ?_, ?_⟩, ?_⟩⟩
    · intro hbrackets
      revert hbrackets
      decide
    · intro _
      decide
    · intro title htitle
      cases htitle
      decide
  · rcases linkTarget_exact (rfl : writtenTarget? escapingLink.kind = some escapingTarget)
      (rfl : Setting.block.inCell = false) hescapingLine hescapingMore with ⟨htext, hread⟩
    refine ⟨htext, ?_⟩
    intro hkept
    have hliteral := (hread.mp hkept).url.literal
    revert hliteral
    decide

end Documents

end Markdown
end Docloom
