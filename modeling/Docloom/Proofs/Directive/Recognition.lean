import Docloom.Proofs.Directive.Expression
import Docloom.Proofs.Directive.Pairing
import Docloom.Proofs.Markdown.Markup

/-!
# Markers in markup

What spells a marker is a comment by its text.  So markup that carries a marker is read as a
comment, and all the markers in the markup of a text are found.
-/

namespace Docloom
namespace Marker

variable {cs : List Char} {marker : Marker} {text value : String} {next : Nat}

theorem Spells.isComment (h : Spells cs marker) :
    "<!--".toList.isPrefixOf cs = true ∧ "-->".toList.isSuffixOf cs = true := by
  cases h with
  | comment kind hne hblanks hmiddle =>
      rename_i blanks middle
      rw [List.isPrefixOf_iff_prefix, List.isSuffixOf_iff_suffix]
      constructor
      · exact List.prefix_append _ _
      · exact ⟨"<!--".toList ++ (blanks ++ (kind.text.toList ++ ':' :: middle)), by simp⟩

theorem isCommentText_of_parse (h : parse? text = some marker) :
    Markdown.isCommentText text = true := by
  rcases (parse?_eq_some_iff.mp h).isComment with ⟨hopening, hend⟩
  have htrim : (Text.trim text).toList = Text.trimWhile Text.isBlank text.toList :=
    String.toList_ofList
  rw [Markdown.isCommentText, Text.startsWith, Text.endsWith, htrim, hopening, hend]
  rfl

/-- Markup in a text that carries a marker is a comment, and the marker is found. -/
theorem mem_markers_of_markup {node : Node} (hnode : node ∈ (Node.ofMarkdown next text).1.nodes)
    (hmarkup : node.kind.isMarkup = true) (hvalue : node.value = some value)
    (hmarker : parse? value = some marker) :
    node.kind = .comment ∧ exists position, node.position = some position ∧
      ⟨node.id, marker, position.endLine⟩ ∈ (Node.ofMarkdown next text).1.markers := by
  have hkind : node.kind = .comment := by
    rcases Node.toldApart_ofMarkdown next text node hnode hmarkup with ⟨value', hvalue', hkind⟩
    obtain rfl : value = value' := Option.some.inj (hvalue.symm.trans hvalue')
    rw [hkind, if_pos (isCommentText_of_parse hmarker)]
  rcases Option.isSome_iff_exists.mp (Node.isSome_position_ofMarkdown next text node hnode) with
    ⟨position, hposition⟩
  refine ⟨hkind, position, hposition, ?_⟩
  rw [Node.markers, List.mem_filterMap]
  refine ⟨node, hnode, ?_⟩
  rw [Node.marker?_eq_some_iff]
  exact ⟨by rw [hkind]; rfl, position, value, marker, hposition, hvalue, hmarker, rfl⟩

/-- A text is a marker exactly if it spells one when it is trimmed, which is what the regular
expression of markers finds.  It is a comment then, so markup that it is the text of is read as a
comment, and no marker in the markup of a text is missed. -/
theorem recognition_exact :
    (forall (text : String) (marker : Marker), parse? text = some marker ↔
      Spells (Text.trimWhile Text.isBlank text.toList) marker) ∧
    (exists regex, Regex.read? expression = some regex ∧
      forall text, parse? text = (regex.search? text).bind ofGroups?) ∧
    (forall (text : String) (marker : Marker), parse? text = some marker ->
      Markdown.isCommentText text = true ∧
        forall start stop, (Markdown.Element.ofHtml text start stop).kind = .comment) ∧
    (forall (next : Nat) (text value : String) (marker : Marker) (node : Node),
      node ∈ (Node.ofMarkdown next text).1.nodes -> node.kind.isMarkup = true ->
        node.value = some value -> parse? value = some marker ->
          node.kind = .comment ∧ exists position, node.position = some position ∧
            ⟨node.id, marker, position.endLine⟩ ∈ (Node.ofMarkdown next text).1.markers) := by
  refine ⟨fun text marker => parse?_eq_some_iff, ⟨_, read?_expression, parse?_eq_search⟩, ?_, ?_⟩
  · intro text marker hmarker
    have hcomment := isCommentText_of_parse hmarker
    refine ⟨hcomment, ?_⟩
    intro start stop
    rw [Markdown.Element.ofHtml, if_pos hcomment]
  · intro next text value marker node hnode hmarkup hvalue hmarker
    exact mem_markers_of_markup hnode hmarkup hvalue hmarker

/-- The end of a comment may stand in the content of a marker. -/
example : parse? "\u2003<!--\tBEGIN: a --> b\n-->\n" = some ⟨.begins, "a --> b"⟩ := by
  decide +kernel

end Marker
end Docloom
