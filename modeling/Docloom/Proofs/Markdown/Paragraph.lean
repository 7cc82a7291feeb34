import Docloom.Proofs.Markdown.Inside
import Docloom.Proofs.Markdown.Items

/-!
# Paragraphs of a text

Paragraphs hold text, spans of text and other small things, but no paragraphs.  So the tree
of a text has no paragraph below another one: what is above a paragraph is a quote, a list or an
item, and nothing but items is directly in a list.
-/

namespace Docloom

/-- Whether nodes of a kind may have paragraphs below them. -/
def NodeKind.isContainer : NodeKind -> Bool
  | .blockquote | .list .. | .listItem .. => true
  | _ => false

namespace Markdown

/-!
# Elements without paragraphs
-/

/-- Whether there is no paragraph among elements and below them. -/
def Phrasing : List Element -> Prop
  | [] => True
  | ⟨kind, _, _, children⟩ :: rest => kind ≠ .paragraph ∧ Phrasing children ∧ Phrasing rest

/-- Whether paragraphs are only in quotes, lists and items, and none of them directly in a list. -/
def Flow : List Element -> Prop
  | [] => True
  | ⟨kind, _, _, children⟩ :: rest =>
      (kind.isContainer = false -> Phrasing children) ∧
        (kind.isList = true -> forall child, child ∈ children -> child.kind ≠ .paragraph) ∧
          Flow children ∧ Flow rest

theorem phrasing_nil : Phrasing [] := by
  rw [Phrasing]
  trivial

theorem phrasing_cons_iff {element : Element} {rest : List Element} :
    Phrasing (element :: rest) ↔
      element.kind ≠ .paragraph ∧ Phrasing element.children ∧ Phrasing rest := by
  cases element
  rw [Phrasing]

theorem flow_nil : Flow [] := by
  rw [Flow]
  trivial

theorem flow_cons_iff {element : Element} {rest : List Element} :
    Flow (element :: rest) ↔
      (element.kind.isContainer = false -> Phrasing element.children) ∧
        (element.kind.isList = true ->
          forall child, child ∈ element.children -> child.kind ≠ .paragraph) ∧
          Flow element.children ∧ Flow rest := by
  cases element
  rw [Flow]

theorem Phrasing.kind_ne {elements : List Element} (h : Phrasing elements) :
    forall element, element ∈ elements -> element.kind ≠ .paragraph := by
  induction elements with
  | nil =>
      exact fun element helement => absurd helement List.not_mem_nil
  | cons first rest ih =>
      rw [phrasing_cons_iff] at h
      intro element helement
      rcases List.mem_cons.mp helement with rfl | hmem
      · exact h.1
      · exact ih h.2.2 element hmem

theorem Phrasing.flow {elements : List Element} (h : Phrasing elements) : Flow elements := by
  induction elements using Node.elements_induction with
  | nil =>
      exact flow_nil
  | cons element rest ihChildren ihRest =>
      rw [phrasing_cons_iff] at h
      rw [flow_cons_iff]
      exact ⟨fun _ => h.2.1, fun _ => h.2.1.kind_ne, ihChildren h.2.1, ihRest h.2.2⟩

/-!
# Elements of blocks
-/

/-- Nothing inside a paragraph, a heading or a table is a paragraph. -/
theorem phrasing_of_inside {elements : List Element} (h : Everywhere IsInside elements) :
    Phrasing elements := by
  induction elements using Node.elements_induction with
  | nil =>
      exact phrasing_nil
  | cons element rest ihChildren ihRest =>
      rw [everywhere_cons_iff] at h
      rw [phrasing_cons_iff]
      refine ⟨?_, ihChildren h.2.1, ihRest h.2.2⟩
      intro hkind
      have hinside := h.1
      rw [hkind] at hinside
      cases hinside

theorem flow_singleton_of_phrasing {element : Element} (h : Phrasing element.children) :
    Flow [element] := by
  rw [flow_cons_iff]
  exact ⟨fun _ => h, fun _ => h.kind_ne, h.flow, flow_nil⟩

theorem flow_leafElement {kind : NodeKind} {value : Option String} {block : Block}
    {children : List Element} (hkind : kind.isContainer = true)
    (hlist : kind.isList = true -> forall child, child ∈ children -> child.kind ≠ .paragraph)
    (h : Flow children) : Flow [leafElement kind value block children] := by
  rw [flow_cons_iff]
  refine ⟨?_, hlist, h, flow_nil⟩
  intro hnot
  have hcontainer : (leafElement kind value block children).kind.isContainer = true := hkind
  rw [hcontainer] at hnot
  cases hnot

/-- Items are no paragraphs. -/
theorem kind_ne_of_isItem (source : Source) (labels : Labels) {checks : Bool}
    {blocks : List Block} (h : forall block, block ∈ blocks -> block.shape.isItem = true) :
    forall element, element ∈ blockElements source labels checks blocks ->
      element.kind ≠ .paragraph := by
  induction blocks generalizing checks with
  | nil =>
      rw [blockElements]
      exact fun element helement => absurd helement List.not_mem_nil
  | cons block blocks ih =>
      have hcons : exists after, blockElements source labels checks (block :: blocks) =
          blockElement source labels checks block :: blockElements source labels after blocks :=
        ⟨_, rfl⟩
      rcases hcons with ⟨after, hcons⟩
      rw [hcons]
      intro element helement
      rcases List.mem_cons.mp helement with rfl | hrest
      · have hitem := h block List.mem_cons_self
        rcases block with ⟨shape, start, stop, children⟩
        cases shape with
        | item marker number spread =>
            rw [blockElement]
            simp [leafElement]
        | _ =>
            cases hitem
      · exact ih (fun other hother => h other (List.mem_cons_of_mem _ hother)) element hrest

theorem flow_blockElements (source : Source) (labels : Labels) (checks : Bool)
    (blocks : List Block) (hblocks : Itemized blocks) :
    Flow (blockElements source labels checks blocks) := by
  revert hblocks
  refine blockElements.induct source labels
    (fun checks block => Itemized [block] -> Flow [blockElement source labels checks block])
    (fun checks blocks => Itemized blocks -> Flow (blockElements source labels checks blocks))
    ?checked ?paragraph ?heading ?thematicBreak ?code ?html ?definition ?table ?quote ?list
    ?item ?note ?nil ?cons checks blocks
  case checked =>
    intro checks start stop children run hchecks _ _
    rw [blockElement, if_pos hchecks]
    exact flow_singleton_of_phrasing (phrasing_of_inside (inside_checkedParagraph _ _ _ _))
  case paragraph =>
    intro checks start stop children run hchecks _ _
    rw [blockElement, if_neg hchecks]
    exact flow_singleton_of_phrasing (phrasing_of_inside (inside_runElements _ _ _ _))
  case heading =>
    intro checks start stop children depth run _ _
    rw [blockElement]
    exact flow_singleton_of_phrasing (phrasing_of_inside (inside_runElements _ _ _ _))
  case thematicBreak =>
    intro checks start stop children _ _
    rw [blockElement]
    exact flow_singleton_of_phrasing phrasing_nil
  case code =>
    intro checks start stop children lang info value _ _
    rw [blockElement]
    exact flow_singleton_of_phrasing phrasing_nil
  case html =>
    intro checks start stop children value _ _
    rw [blockElement]
    exact (phrasing_of_inside (inside_ofHtml value start stop)).flow
  case definition =>
    intro checks start stop children matching label url title _ _
    rw [blockElement]
    exact flow_singleton_of_phrasing phrasing_nil
  case table =>
    intro checks start stop children aligns rows _ _
    rw [blockElement]
    exact flow_singleton_of_phrasing (phrasing_of_inside (inside_tableRows _ _ _))
  case quote =>
    intro checks start stop children ih hitems
    rw [itemized_cons_iff] at hitems
    rw [blockElement]
    exact flow_leafElement rfl (by simp [NodeKind.isList]) (ih false hitems.2.1)
  case list =>
    intro checks start stop children first spread ih hitems
    rw [itemized_cons_iff] at hitems
    rw [blockElement]
    exact flow_leafElement rfl (fun _ => kind_ne_of_isItem source labels (hitems.1 rfl))
      (ih false hitems.2.1)
  case item =>
    intro checks start stop children marker number spread ih hitems
    rw [itemized_cons_iff] at hitems
    rw [blockElement]
    exact flow_leafElement rfl (by simp [NodeKind.isList]) (ih true hitems.2.1)
  case note =>
    intro checks start stop children label _ _
    rw [blockElement]
    exact (phrasing_of_inside (inside_ofRaw source start stop)).flow
  case nil =>
    intro checks _
    rw [blockElements]
    exact flow_nil
  case cons =>
    intro checks block blocks isDefinition hblock hblocks hitems
    rw [itemized_cons_iff] at hitems
    change Flow (blockElement source labels checks block ::
      blockElements source labels (checks && isDefinition) blocks)
    have hfirst := hblock (by rw [itemized_cons_iff]; exact ⟨hitems.1, hitems.2.1, itemized_nil⟩)
    rw [flow_cons_iff] at hfirst ⊢
    exact ⟨hfirst.1, hfirst.2.1, hfirst.2.2.1, hblocks hitems.2.2⟩

theorem flow_read_children (text : String) : Flow (read text).children := by
  have hitems : Itemized (Source.ofString text).blocks := Reader.itemized_blocks _
  rw [read]
  generalize (Source.ofString text).blocks = blocks at hitems
  exact flow_blockElements (Source.ofString text) (blockLabels blocks) false blocks hitems

end Markdown

/-!
# Trees of a text
-/

namespace Node

/-- Whether no paragraph is below another one. -/
def ParagraphsApart (nodes : List Node) : Prop :=
  forall node, node ∈ nodesOf nodes -> node.kind = .paragraph ->
    forall below, below ∈ nodesOf node.children -> below.kind ≠ .paragraph

namespace ParagraphsApart

variable {node : Node} {rest : List Node}

theorem of_head (h : ParagraphsApart (node :: rest)) (hkind : node.kind = .paragraph) :
    forall below, below ∈ nodesOf node.children -> below.kind ≠ .paragraph := by
  exact h node (mem_nodesOf_cons.mpr (Or.inl rfl)) hkind

theorem of_children (h : ParagraphsApart (node :: rest)) : ParagraphsApart node.children := by
  intro below hbelow
  exact h below (mem_nodesOf_cons.mpr (Or.inr (Or.inl hbelow)))

theorem of_rest (h : ParagraphsApart (node :: rest)) : ParagraphsApart rest := by
  intro after hafter
  exact h after (mem_nodesOf_cons.mpr (Or.inr (Or.inr hafter)))

end ParagraphsApart

theorem kind_ne_paragraph_of_phrasing {elements : List Markdown.Element}
    (h : Markdown.Phrasing elements) (next : Nat) :
    forall node, node ∈ nodesOf (ofElements next elements).1 -> node.kind ≠ .paragraph := by
  induction elements using elements_induction generalizing next with
  | nil =>
      simp [ofElements, nodesOf]
  | cons element rest ihChildren ihRest =>
      rw [Markdown.phrasing_cons_iff] at h
      rw [ofElements_cons, ofElement_eq]
      intro node hnode
      rcases mem_nodesOf_cons.mp hnode with rfl | hbelow | hafter
      · exact h.1
      · exact ihChildren h.2.1 _ node hbelow
      · exact ihRest h.2.2 _ node hafter

/-!
# Where paragraphs are
-/

/-- Whether a node that has paragraphs below it is a quote, a list or an item, and none of them is
directly in a list. -/
structure Houses (node : Node) : Prop where
  isContainer : node.kind.isContainer = false ->
    forall below, below ∈ nodesOf node.children -> below.kind ≠ .paragraph
  isList : node.kind.isList = true ->
    forall child, child ∈ node.children -> child.kind ≠ .paragraph

def Housed (nodes : List Node) : Prop := forall node, node ∈ nodesOf nodes -> node.Houses

theorem housed_nil : Housed [] := by
  intro node hnode
  cases hnode

theorem housed_cons_iff {node : Node} {rest : List Node} :
    Housed (node :: rest) ↔ node.Houses ∧ Housed node.children ∧ Housed rest := by
  constructor
  · intro h
    exact ⟨h node (mem_nodesOf_cons.mpr (Or.inl rfl)),
      fun below hbelow => h below (mem_nodesOf_cons.mpr (Or.inr (Or.inl hbelow))),
      fun after hafter => h after (mem_nodesOf_cons.mpr (Or.inr (Or.inr hafter)))⟩
  · rintro ⟨hnode, hchildren, hrest⟩ other hother
    rcases mem_nodesOf_cons.mp hother with rfl | hbelow | hafter
    · exact hnode
    · exact hchildren other hbelow
    · exact hrest other hafter

theorem housed_append_iff {a b : List Node} : Housed (a ++ b) ↔ Housed a ∧ Housed b := by
  unfold Housed
  rw [nodesOf_append]
  simp only [List.mem_append]
  constructor
  · exact fun h => ⟨fun node hnode => h node (Or.inl hnode), fun node hnode => h node (Or.inr hnode)⟩
  · rintro ⟨ha, hb⟩ node (hnode | hnode)
    · exact ha node hnode
    · exact hb node hnode

theorem kinds_ofElements (next : Nat) (elements : List Markdown.Element) :
    (ofElements next elements).1.map Node.kind = elements.map Markdown.Element.kind := by
  induction elements generalizing next with
  | nil =>
      rw [ofElements]
      rfl
  | cons element rest ih =>
      rw [ofElements_cons, ofElement_eq, List.map_cons, List.map_cons, ih]

theorem housed_of_flow {elements : List Markdown.Element} (h : Markdown.Flow elements)
    (next : Nat) : Housed (ofElements next elements).1 := by
  induction elements using elements_induction generalizing next with
  | nil =>
      rw [ofElements]
      exact housed_nil
  | cons element rest ihChildren ihRest =>
      rw [Markdown.flow_cons_iff] at h
      rw [ofElements_cons, ofElement_eq, housed_cons_iff]
      refine ⟨⟨?_, ?_⟩, ihChildren h.2.2.1 _, ihRest h.2.2.2 _⟩
      · intro hkind
        exact kind_ne_paragraph_of_phrasing (h.1 hkind) _
      · intro hkind child hchild
        have hmem := List.mem_map_of_mem (f := Node.kind) hchild
        dsimp only at hmem
        rw [kinds_ofElements] at hmem
        rcases List.mem_map.mp hmem with ⟨below, hbelow, hsame⟩
        rw [← hsame]
        exact h.2.1 hkind below hbelow

theorem housed_ofMarkdown (next : Nat) (text : String) :
    Housed (ofMarkdown next text).1.children := by
  have hflow : Markdown.Flow (Markdown.read text).children := Markdown.flow_read_children text
  rw [ofMarkdown, ofElement_eq]
  generalize Markdown.read text = element at hflow
  exact housed_of_flow hflow (next + 1)

/-- No paragraph of a text is below another one. -/
theorem paragraphsApart_ofMarkdown (next : Nat) (text : String) :
    ParagraphsApart (ofMarkdown next text).1.children := by
  intro node hnode hkind
  apply (housed_ofMarkdown next text node hnode).isContainer
  rw [hkind]
  rfl

end Node
end Docloom
