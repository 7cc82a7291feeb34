import Docloom.Markdown.Document
import Docloom.Proofs.Node.Numbering

/-!
# What blocks hold

What is inside a paragraph, a heading or a table is of a few kinds: text, spans of text, code,
markup, line breaks and what nothing looks into.  Markup is told apart: what is a comment by its
text is of the kind of comments, and nothing else is.
-/

namespace Docloom
namespace Markdown

/-!
# Elements with all that is below them
-/

/-- Whether the kinds and the texts of elements, and of those below them, are as told. -/
def Everywhere (told : NodeKind -> Option String -> Prop) : List Element -> Prop
  | [] => True
  | ⟨kind, value, _, children⟩ :: rest =>
      told kind value ∧ Everywhere told children ∧ Everywhere told rest

section Everywhere

variable {told other : NodeKind -> Option String -> Prop} {element : Element}
  {elements rest a b : List Element}

theorem everywhere_nil : Everywhere told [] := by
  rw [Everywhere]
  trivial

theorem everywhere_cons_iff :
    Everywhere told (element :: rest) ↔
      told element.kind element.value ∧ Everywhere told element.children ∧
        Everywhere told rest := by
  cases element
  rw [Everywhere]

theorem everywhere_append (ha : Everywhere told a) (hb : Everywhere told b) :
    Everywhere told (a ++ b) := by
  induction a with
  | nil =>
      exact hb
  | cons element a ih =>
      rw [everywhere_cons_iff] at ha
      rw [List.cons_append, everywhere_cons_iff]
      exact ⟨ha.1, ha.2.1, ih ha.2.2⟩

theorem everywhere_singleton_iff :
    Everywhere told [element] ↔
      told element.kind element.value ∧ Everywhere told element.children := by
  rw [everywhere_cons_iff]
  exact and_congr_right fun _ => and_iff_left everywhere_nil

theorem Everywhere.mono (hother : forall kind value, told kind value -> other kind value)
    (h : Everywhere told elements) : Everywhere other elements := by
  induction elements using Node.elements_induction with
  | nil =>
      exact everywhere_nil
  | cons element rest ihChildren ihRest =>
      rw [everywhere_cons_iff] at h ⊢
      exact ⟨hother _ _ h.1, ihChildren h.2.1, ihRest h.2.2⟩

/-- What is told of elements holds of the nodes that they become. -/
theorem Everywhere.of_mem_nodes (h : Everywhere told elements) (next : Nat) :
    forall node, node ∈ Node.nodesOf (Node.ofElements next elements).1 ->
      told node.kind node.value := by
  induction elements using Node.elements_induction generalizing next with
  | nil =>
      simp [Node.ofElements, Node.nodesOf]
  | cons element rest ihChildren ihRest =>
      rw [everywhere_cons_iff] at h
      rw [Node.ofElements_cons, Node.ofElement_eq]
      intro node hnode
      rcases Node.mem_nodesOf_cons.mp hnode with rfl | hbelow | hafter
      · exact h.1
      · exact ihChildren h.2.1 _ node hbelow
      · exact ihRest h.2.2 _ node hafter

end Everywhere

/-- The kinds of what is inside paragraphs, headings and tables, with the texts. -/
inductive IsInside : NodeKind -> Option String -> Prop where
  | text {source : Option String} {value : String} : IsInside (.text source) (some value)
  | comment {value : String} (h : isCommentText value = true) : IsInside .comment (some value)
  | html {value : String} (h : isCommentText value = false) : IsInside .html (some value)
  | raw {value : String} : IsInside .raw (some value)
  | code {value : String} : IsInside .inlineCode (some value)
  | lineBreak : IsInside .lineBreak none
  | emphasis : IsInside .emphasis none
  | strong : IsInside .strong none
  | delete : IsInside .delete none
  | link {url : String} {title : Option String} {style : LinkStyle} :
      IsInside (.link url title style) none
  | reference {identifier : String} {label : Option String} {style : ReferenceStyle} :
      IsInside (.linkReference identifier label style) none
  | row : IsInside .tableRow none
  | cell : IsInside .tableCell none

/-!
# Elements of a run
-/

theorem inside_ofText (source : Source) (value : String) (start stop : Place) :
    Everywhere IsInside [.ofText source value start stop] := by
  rw [everywhere_singleton_iff]
  exact ⟨.text, everywhere_nil⟩

theorem inside_ofRaw (source : Source) (start stop : Place) :
    Everywhere IsInside [.ofRaw source start stop] := by
  rw [everywhere_singleton_iff]
  exact ⟨.raw, everywhere_nil⟩

theorem inside_ofHtml (value : String) (start stop : Place) :
    Everywhere IsInside [.ofHtml value start stop] := by
  rw [everywhere_singleton_iff]
  refine ⟨?_, everywhere_nil⟩
  unfold Element.ofHtml
  split
  · rename_i hcomment
    exact .comment hcomment
  · rename_i hcomment
    exact .html (Bool.eq_false_iff.mpr hcomment)

/-- Whether what is in segments is of these kinds. -/
def InsideSegments (segments : List Segment) : Prop :=
  forall element, .element element ∈ segments -> Everywhere IsInside [element]

theorem insideSegments_text (start stop : Place) (value : String) :
    InsideSegments [.text start stop value] := by
  intro element h
  simp at h

theorem insideSegments_element {element : Element} (h : Everywhere IsInside [element]) :
    InsideSegments [.element element] := by
  intro other hother
  simp only [List.mem_singleton, Segment.element.injEq] at hother
  rw [hother]
  exact h

theorem insideSegments_nil : InsideSegments [] := by
  intro element h
  cases h

theorem insideSegments_append {a b : List Segment} (ha : InsideSegments a)
    (hb : InsideSegments b) : InsideSegments (a ++ b) := by
  intro element h
  rcases List.mem_append.mp h with hleft | hright
  · exact ha element hleft
  · exact hb element hright

theorem insideSegments_cons {segment : Segment} {rest : List Segment}
    (hsegment : InsideSegments [segment]) (hrest : InsideSegments rest) :
    InsideSegments (segment :: rest) := by
  exact insideSegments_append hsegment hrest

theorem inside_flush (source : Source) (opened : Option (Place × Place × String)) :
    Everywhere IsInside (joinSegments.flush source opened) := by
  cases opened with
  | none =>
      exact everywhere_nil
  | some opened =>
      exact inside_ofText source _ _ _

theorem inside_joinSegments (source : Source) (opened : Option (Place × Place × String))
    {segments : List Segment} (h : InsideSegments segments) :
    Everywhere IsInside (joinSegments source opened segments) := by
  induction segments generalizing opened with
  | nil =>
      rw [joinSegments]
      exact inside_flush source opened
  | cons segment rest ih =>
      have hrest : InsideSegments rest := by
        intro element hmem
        exact h element (List.mem_cons_of_mem _ hmem)
      cases segment with
      | text start stop value =>
          cases opened with
          | none =>
              rw [joinSegments]
              exact ih _ hrest
          | some opened =>
              rw [joinSegments]
              exact ih _ hrest
      | element element =>
          have helement : Everywhere IsInside [element] := h element List.mem_cons_self
          rw [joinSegments]
          exact everywhere_append (inside_flush source opened)
            (everywhere_append helement (ih none hrest))

namespace Scope

variable (scope : Scope)

theorem inside_urlElement (start stop i j : Nat) (before : String) :
    Everywhere IsInside [scope.urlElement start stop i j before] := by
  rw [everywhere_singleton_iff]
  exact ⟨.link, inside_ofText _ _ _ _⟩

theorem inside_atomElement (start stop : Nat) (atom : Atom) :
    Everywhere IsInside [scope.atomElement start stop atom] := by
  cases atom with
  | code i j =>
      rw [everywhere_singleton_iff]
      exact ⟨.code, everywhere_nil⟩
  | html =>
      exact inside_ofHtml _ _ _
  | autolink mail =>
      exact scope.inside_urlElement _ _ _ _ _
  | url before =>
      exact scope.inside_urlElement _ _ _ _ _
  | note =>
      exact inside_ofRaw _ _ _

theorem inside_breakElement (start : Place) (i : Nat) :
    Everywhere IsInside [scope.breakElement start i] := by
  rw [everywhere_singleton_iff]
  exact ⟨.lineBreak, everywhere_nil⟩

theorem inside_spanElement (start stop : Nat) (wrapper : Wrapper) {children : List Element}
    (h : Everywhere IsInside children) :
    Everywhere IsInside [scope.spanElement start stop wrapper children] := by
  cases wrapper with
  | image =>
      exact inside_ofRaw _ _ _
  | emphasis =>
      exact everywhere_singleton_iff.mpr ⟨.emphasis, h⟩
  | strong =>
      exact everywhere_singleton_iff.mpr ⟨.strong, h⟩
  | delete =>
      exact everywhere_singleton_iff.mpr ⟨.delete, h⟩
  | link url title =>
      exact everywhere_singleton_iff.mpr ⟨.link, h⟩
  | reference identifier label style =>
      exact everywhere_singleton_iff.mpr ⟨.reference, h⟩

theorem inside_dataSegments_go {cut : Nat -> Nat -> Bool -> Bool -> List Segment × Bool}
    (hcut : forall i j atStart atEnd, InsideSegments (cut i j atStart atEnd).1)
    (mails : List MailExtent) (i stop : Nat) (atStart atEnd : Bool) :
    InsideSegments (dataSegments.go scope cut i stop atStart atEnd mails).1 := by
  induction mails generalizing i atStart with
  | nil =>
      rw [dataSegments.go]
      split
      · exact hcut _ _ _ _
      · exact insideSegments_nil
  | cons mail rest ih =>
      rw [dataSegments.go]
      apply insideSegments_append
      · split
        · exact hcut _ _ _ _
        · exact insideSegments_nil
      · apply insideSegments_cons
        · exact insideSegments_element (scope.inside_urlElement _ _ _ _ _)
        · exact ih _ _

theorem inside_dataSegments (start stop : Nat) (mails atStart atEnd : Bool) :
    InsideSegments (scope.dataSegments start stop mails atStart atEnd).1 := by
  apply inside_dataSegments_go
  intro i j atStart atEnd
  dsimp only
  split
  · exact insideSegments_nil
  · exact insideSegments_text _ _ _

theorem inside_segmentsFrom (mails top atStart : Bool) (tokens : List Inline) :
    InsideSegments (scope.segmentsFrom mails top atStart tokens) := by
  refine segmentsFrom.induct scope
    (fun mails token => InsideSegments (scope.tokenSegment mails token))
    (fun mails top atStart tokens =>
      InsideSegments (scope.segmentsFrom mails top atStart tokens))
    ?escape ?reference ?atom ?span ?other ?nil ?dataLine ?dataLast ?data ?hardBreak ?line ?token
    mails top atStart tokens
  case escape =>
    intro mails i
    rw [tokenSegment]
    exact insideSegments_text _ _ _
  case reference =>
    intro mails i j text
    rw [tokenSegment]
    exact insideSegments_text _ _ _
  case atom =>
    intro mails i j atom
    rw [tokenSegment]
    exact insideSegments_element (scope.inside_atomElement i j atom)
  case span =>
    intro mails i j wrapper inside inner ih
    rw [tokenSegment]
    apply insideSegments_element
    apply scope.inside_spanElement
    exact inside_joinSegments _ _ ih
  case other =>
    intro token mails hescape hreference hatom hspan
    rw [tokenSegment]
    · exact insideSegments_nil
    · exact hescape
    · exact hreference
    · exact hatom
    · exact hspan
  case nil =>
    intro mails top atStart
    rw [segmentsFrom]
    exact insideSegments_nil
  case dataLine =>
    intro mails top atStart i j k rest segments breaks hsegments ih
    have hdata := scope.inside_dataSegments i j mails atStart true
    rw [hsegments] at hdata
    rw [segmentsFrom, hsegments]
    apply insideSegments_append hdata
    refine insideSegments_cons ?_ ih
    split
    · exact insideSegments_element (scope.inside_breakElement _ _)
    · exact insideSegments_text _ _ _
  case dataLast =>
    intro mails top atStart i j
    rw [segmentsFrom]
    exact scope.inside_dataSegments i j mails atStart top
  case data =>
    intro mails top atStart i j token rest hline ih
    rw [segmentsFrom]
    · exact insideSegments_append (scope.inside_dataSegments i j mails atStart false) ih
    · exact hline
  case hardBreak =>
    intro mails top atStart i k rest ih
    rw [segmentsFrom]
    exact insideSegments_cons
      (insideSegments_element (scope.inside_breakElement _ _)) ih
  case line =>
    intro mails top atStart k rest ih
    rw [segmentsFrom]
    exact insideSegments_cons (insideSegments_text _ _ _) ih
  case token =>
    intro mails top atStart token rest hdataLine hdataLast hdata hhardBreak hline ihToken ih
    rw [segmentsFrom]
    · exact insideSegments_append ihToken ih
    · exact hdataLine
    · exact hdataLast
    · exact hdata
    · exact hhardBreak
    · exact hline

theorem inside_elements (atStart : Bool) (tokens : List Inline) :
    Everywhere IsInside (scope.elements atStart tokens) := by
  exact inside_joinSegments _ _ (scope.inside_segmentsFrom true true atStart tokens)

end Scope

/-!
# Elements of blocks
-/

theorem inside_runElements (source : Source) (labels : Labels) (run : Run) (inCell : Bool) :
    Everywhere IsInside (runElements source labels run inCell) := by
  exact Scope.inside_elements _ _ _

/-- The rows of a table hold cells, and cells hold runs. -/
theorem inside_tableRows (source : Source) (labels : Labels) (rows : List RowText) :
    Everywhere IsInside (rows.map (rowElement source labels)) := by
  have hcells : forall cells : List CellText,
      Everywhere IsInside (cells.map (cellElement source labels)) := by
    intro cells
    induction cells with
    | nil =>
        exact everywhere_nil
    | cons cell cells ih =>
        rw [List.map_cons, everywhere_cons_iff]
        exact ⟨.cell, inside_runElements _ _ _ _, ih⟩
  induction rows with
  | nil =>
      exact everywhere_nil
  | cons row rows ih =>
      rw [List.map_cons, everywhere_cons_iff]
      exact ⟨.row, hcells row.cells, ih⟩

/-- Taking the end of a check box off a text leaves a text. -/
theorem inside_dropAfterCheck {element : Element} (h : Everywhere IsInside [element]) :
    Everywhere IsInside [dropAfterCheck element] := by
  rw [everywhere_singleton_iff] at h ⊢
  unfold dropAfterCheck
  split
  · split
    · exact h
    · exact ⟨.text, h.2⟩
  · exact h

theorem inside_checkedParagraph (source : Source) (labels : Labels) (run : Run)
    (block : Block) : Everywhere IsInside (checkedParagraph source labels run block).children := by
  have hinside : Everywhere IsInside
      (Scope.elements ⟨source, run, false⟩ false (run.inlines source labels 3)) :=
    Scope.inside_elements _ _ _
  unfold checkedParagraph
  dsimp only
  split
  · rename_i first rest helements
    rw [helements, everywhere_cons_iff] at hinside
    have hfirst : Everywhere IsInside [dropAfterCheck first] :=
      inside_dropAfterCheck (everywhere_singleton_iff.mpr ⟨hinside.1, hinside.2.1⟩)
    exact everywhere_append hfirst hinside.2.2
  · exact everywhere_nil

end Markdown
end Docloom
