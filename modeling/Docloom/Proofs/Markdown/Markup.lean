import Docloom.Proofs.Markdown.Inside

/-!
# Markup of a text

Markup becomes a comment if its text is one, wherever it stands in a text, and stays markup if
not.  So the kind of a node that was read tells whether its text is a comment.
-/

namespace Docloom

/-- Whether a kind is that of markup, be it a comment or not. -/
def NodeKind.isMarkup : NodeKind -> Bool
  | .comment | .html => true
  | _ => false

namespace Markdown

variable {kind : NodeKind} {value : Option String} {element : Element}

/-- Whether markup is a comment if its text is one, and only then. -/
def ToldApart (kind : NodeKind) (value : Option String) : Prop :=
  kind.isMarkup = true -> exists text, value = some text ∧
    kind = if isCommentText text then .comment else .html

theorem IsInside.toldApart (h : IsInside kind value) : ToldApart kind value := by
  intro hkind
  cases h with
  | comment hcomment =>
      exact ⟨_, rfl, by rw [if_pos hcomment]⟩
  | html hcomment =>
      exact ⟨_, rfl, by rw [hcomment, if_neg Bool.false_ne_true]⟩
  | _ =>
      cases hkind

/-- Elements of other kinds do not matter, only what is below them. -/
theorem everywhere_toldApart_of_not (hkind : element.kind.isMarkup = false)
    (h : Everywhere ToldApart element.children) : Everywhere ToldApart [element] := by
  rw [everywhere_singleton_iff]
  refine ⟨?_, h⟩
  intro hmarkup
  rw [hkind] at hmarkup
  cases hmarkup

theorem everywhere_toldApart_of_inside {elements : List Element}
    (h : Everywhere IsInside elements) : Everywhere ToldApart elements :=
  h.mono fun _ _ => IsInside.toldApart

theorem everywhere_toldApart_blockElements (source : Source) (labels : Labels) (checks : Bool)
    (blocks : List Block) : Everywhere ToldApart (blockElements source labels checks blocks) := by
  refine blockElements.induct source labels
    (fun checks block => Everywhere ToldApart [blockElement source labels checks block])
    (fun checks blocks => Everywhere ToldApart (blockElements source labels checks blocks))
    ?checked ?paragraph ?heading ?thematicBreak ?code ?html ?definition ?table ?quote ?list
    ?item ?note ?nil ?cons checks blocks
  case checked =>
    intro checks start stop children run hchecks _
    have hkind : forall block, (checkedParagraph source labels run block).kind = .paragraph := by
      intro block
      unfold checkedParagraph
      dsimp only
      split <;> rfl
    rw [blockElement, if_pos hchecks]
    exact everywhere_toldApart_of_not (by rw [hkind]; rfl)
      (everywhere_toldApart_of_inside (inside_checkedParagraph _ _ _ _))
  case paragraph =>
    intro checks start stop children run hchecks _
    rw [blockElement, if_neg hchecks]
    exact everywhere_toldApart_of_not rfl
      (everywhere_toldApart_of_inside (inside_runElements _ _ _ _))
  case heading =>
    intro checks start stop children depth run _
    rw [blockElement]
    exact everywhere_toldApart_of_not rfl
      (everywhere_toldApart_of_inside (inside_runElements _ _ _ _))
  case thematicBreak =>
    intro checks start stop children _
    rw [blockElement]
    exact everywhere_toldApart_of_not rfl everywhere_nil
  case code =>
    intro checks start stop children lang info value _
    rw [blockElement]
    exact everywhere_toldApart_of_not rfl everywhere_nil
  case html =>
    intro checks start stop children value _
    rw [blockElement]
    exact everywhere_toldApart_of_inside (inside_ofHtml value start stop)
  case definition =>
    intro checks start stop children matching label url title _
    rw [blockElement]
    exact everywhere_toldApart_of_not rfl everywhere_nil
  case table =>
    intro checks start stop children aligns rows _
    rw [blockElement]
    exact everywhere_toldApart_of_not rfl
      (everywhere_toldApart_of_inside (inside_tableRows _ _ _))
  case quote =>
    intro checks start stop children ih
    rw [blockElement]
    exact everywhere_toldApart_of_not rfl (ih false)
  case list =>
    intro checks start stop children first spread ih
    rw [blockElement]
    exact everywhere_toldApart_of_not rfl (ih false)
  case item =>
    intro checks start stop children marker number spread ih
    rw [blockElement]
    exact everywhere_toldApart_of_not rfl (ih true)
  case note =>
    intro checks start stop children label _
    rw [blockElement]
    exact everywhere_toldApart_of_inside (inside_ofRaw source start stop)
  case nil =>
    intro checks
    rw [blockElements]
    exact everywhere_nil
  case cons =>
    intro checks block blocks isDefinition hblock hblocks
    change Everywhere ToldApart (blockElement source labels checks block ::
      blockElements source labels (checks && isDefinition) blocks)
    exact everywhere_append hblock hblocks

theorem everywhere_toldApart_read (text : String) : Everywhere ToldApart [read text] := by
  rw [read]
  exact everywhere_toldApart_of_not rfl (everywhere_toldApart_blockElements _ _ _ _)

end Markdown

namespace Node

/-- The kind of a node that was read tells whether markup is a comment. -/
theorem toldApart_ofMarkdown (next : Nat) (text : String) :
    forall node, node ∈ (ofMarkdown next text).1.nodes ->
      Markdown.ToldApart node.kind node.value := by
  have hnodes := (Markdown.everywhere_toldApart_read text).of_mem_nodes next
  rw [ofElements_cons, ofElements, nodesOf_singleton, ← ofMarkdown] at hnodes
  exact hnodes

/-- What was read from a text has a place in it. -/
theorem isSome_position_ofElements (next : Nat) (elements : List Markdown.Element) :
    forall node, node ∈ nodesOf (ofElements next elements).1 -> node.position.isSome = true := by
  induction elements using elements_induction generalizing next with
  | nil =>
      simp [ofElements, nodesOf]
  | cons element rest ihChildren ihRest =>
      rw [ofElements_cons, ofElement_eq]
      intro node hnode
      rcases mem_nodesOf_cons.mp hnode with rfl | hbelow | hafter
      · rfl
      · exact ihChildren _ node hbelow
      · exact ihRest _ node hafter

theorem isSome_position_ofMarkdown (next : Nat) (text : String) :
    forall node, node ∈ (ofMarkdown next text).1.nodes -> node.position.isSome = true := by
  have hnodes := isSome_position_ofElements next [Markdown.read text]
  rw [ofElements_cons, ofElements, nodesOf_singleton, ← ofMarkdown] at hnodes
  exact hnodes

end Node
end Docloom
