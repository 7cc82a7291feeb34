import Docloom.Proofs.Node.Writing

/-!
# Where blocks stand

A block inside quotes and list items stands on lines of its own, and the lines begin with what the
containers around it put there: the mark of a quote, and blanks below the marker of an item.  The
marker itself stands on the line that the first block of the item begins on.
-/

namespace Docloom
namespace Writer

/-!
# Layers
-/

/-- A container around a block.  An item has a marker of some width; it opens on the line that the
block begins on, if nothing in the item stands before the block. -/
inductive Layer where
  | quote
  | item (width : Nat) (opens : Bool)
  deriving DecidableEq, Repr

/-- What a container puts before its lines. -/
def Layer.indent : Layer -> List Char
  | .quote => ['>', ' ']
  | .item width _ => List.replicate (width + 1) ' '

/-- What containers put before their lines, the outermost first. -/
def indents (layers : List Layer) : List Char := layers.flatMap Layer.indent

/-- Whether a text is the marker of an item. -/
def isMarker (cs : List Char) : Bool :=
  cs == ['-'] || cs == ['*'] || cs == ['+'] ||
    (2 ≤ cs.length && cs.dropLast.all Char.isDigit &&
      (cs.getLast? == some '.' || cs.getLast? == some ')'))

/-- What containers put before the line that a block begins on. -/
inductive Leads : List Layer -> List Char -> Prop where
  | nil : Leads [] []
  | quote {layers : List Layer} {lead : List Char} (hlead : Leads layers lead) :
      Leads (.quote :: layers) ('>' :: ' ' :: lead)
  | item {layers : List Layer} {lead : List Char} (width : Nat) (hlead : Leads layers lead) :
      Leads (.item width false :: layers) (List.replicate (width + 1) ' ' ++ lead)
  | marker {layers : List Layer} {marker lead : List Char} (hmarker : isMarker marker = true)
      (hlead : Leads layers lead) :
      Leads (.item marker.length true :: layers) (marker ++ ' ' :: lead)

theorem isMarker_itemMarker (ordered : Bool) (start index : Nat) (bullet : Bullet) :
    isMarker (itemMarker ordered start index bullet).toList = true := by
  have hend (n : Nat) (c : Char) (hc : c = '.' ∨ c = ')') :
      isMarker (Nat.toDigits 10 n ++ [c]) = true := by
    have hdigits : (Nat.toDigits 10 n).all Char.isDigit = true := by
      rw [List.all_eq_true]
      intro d hd
      exact Nat.isDigit_of_mem_toDigits (b := 10) (by decide) (by decide) hd
    have hsize : 0 < (Nat.toDigits 10 n).length := List.length_pos_iff.mpr Nat.toDigits_ne_nil
    unfold isMarker
    rw [List.dropLast_concat, List.getLast?_concat, hdigits, List.length_append,
      List.length_singleton, decide_eq_true (by omega : 2 ≤ (Nat.toDigits 10 n).length + 1)]
    rcases hc with rfl | rfl <;> simp
  cases ordered with
  | false =>
      cases bullet <;> simp only [itemMarker] <;> decide
  | true =>
      cases bullet with
      | primary =>
          have hdot := hend (start + index) '.' (Or.inl rfl)
          simpa [itemMarker] using hdot
      | secondary =>
          have hparen := hend (start + index) ')' (Or.inr rfl)
          simpa [itemMarker] using hparen

section Leading

variable {layers : List Layer} {lead cs : List Char} {c : Char}

theorem not_break_of_isMarker (h : isMarker cs = true) (hc : c ∈ cs) : c ≠ '\n' ∧ c ≠ '\r' := by
  have hmember : c.isDigit = true ∨ c ∈ ['-', '*', '+', '.', ')'] := by
    unfold isMarker at h
    rw [Bool.or_eq_true, Bool.or_eq_true, Bool.or_eq_true, beq_iff_eq, beq_iff_eq,
      beq_iff_eq] at h
    rcases h with ((rfl | rfl) | rfl) | h
    · rw [List.mem_singleton.mp hc]
      decide
    · rw [List.mem_singleton.mp hc]
      decide
    · rw [List.mem_singleton.mp hc]
      decide
    · rw [Bool.and_eq_true, Bool.and_eq_true, Bool.or_eq_true, beq_iff_eq, beq_iff_eq] at h
      rcases h with ⟨⟨_, hdigits⟩, hlast⟩
      rcases List.eq_nil_or_concat' cs with rfl | ⟨digits, d, rfl⟩
      · cases hc
      · rw [List.dropLast_concat] at hdigits
        rw [List.getLast?_concat] at hlast
        rcases List.mem_append.mp hc with hdigit | hd
        · exact Or.inl (List.all_eq_true.mp hdigits c hdigit)
        · rw [List.mem_singleton.mp hd]
          rcases hlast with hdot | hparen
          · rw [Option.some.inj hdot]
            decide
          · rw [Option.some.inj hparen]
            decide
  constructor
  · rintro rfl
    revert hmember
    decide
  · rintro rfl
    revert hmember
    decide

theorem not_break_of_mem_lead (h : Leads layers lead) (hc : c ∈ lead) : c ≠ '\n' ∧ c ≠ '\r' := by
  induction h with
  | nil =>
      cases hc
  | quote hlead ih =>
      rcases List.mem_cons.mp hc with rfl | hc
      · decide
      · rcases List.mem_cons.mp hc with rfl | hc
        · decide
        · exact ih hc
  | item width hlead ih =>
      rcases List.mem_append.mp hc with hblank | hc
      · rw [List.eq_of_mem_replicate hblank]
        decide
      · exact ih hc
  | marker hmarker hlead ih =>
      rcases List.mem_append.mp hc with hmark | hc
      · exact not_break_of_isMarker hmarker hmark
      · rcases List.mem_cons.mp hc with rfl | hc
        · decide
        · exact ih hc

theorem not_break_of_mem_indents (layers : List Layer) (hc : c ∈ indents layers) :
    c ≠ '\n' ∧ c ≠ '\r' := by
  rcases List.mem_flatMap.mp hc with ⟨layer, _, hc⟩
  cases layer with
  | quote =>
      rcases List.mem_cons.mp hc with rfl | hc
      · decide
      · rw [List.mem_singleton.mp hc]
        decide
  | item width opens =>
      rw [List.eq_of_mem_replicate hc]
      decide

end Leading

/-!
# Places
-/

section Places

variable {first alone : Bool} {lead indent start mark text whole before after : List Char}

/-- Whether a text stands in front of a line: no text, if the line is the first one. -/
def PrecedesLine : Bool -> List Char -> Prop
  | true, before => before = []
  | false, before => exists lines, before = lines ++ ['\n']

/-- Whether the lines of a text stand in a whole, behind `lead` on the first line and behind
`indent` on all others. -/
def Place (first : Bool) (lead indent text whole : List Char) : Prop :=
  exists before after, whole = before ++ (lead ++ (hang indent text ++ after)) ∧
    PrecedesLine first before ∧ EndsLine after

theorem Place.refl (text : List Char) : Place true [] [] text text := by
  refine ⟨[], [], ?_, rfl, Or.inl rfl⟩
  rw [hang_nil_indent, List.append_nil, List.nil_append, List.nil_append]

/-- A place in a text is a place in what the text is put between. -/
theorem Place.beside (h : Place first lead indent text whole) (hbefore : PrecedesLine alone before)
    (hafter : EndsLine after) :
    Place (first && alone) lead indent text (before ++ (whole ++ after)) := by
  rcases h with ⟨prior, next, rfl, hprior, hnext⟩
  refine ⟨before ++ prior, next ++ after, by simp, ?_, hnext.append hafter⟩
  cases first with
  | true =>
      obtain rfl : prior = [] := hprior
      rw [List.append_nil]
      exact hbefore
  | false =>
      rcases hprior with ⟨lines, rfl⟩
      exact ⟨before ++ lines, by rw [List.append_assoc]⟩

/-- What is put before the lines of a whole stands before those of a text in it. -/
theorem Place.hung (h : Place first lead indent text whole) (hlead : '\n' ∉ lead)
    (hindent : '\n' ∉ indent) (htext : text.head?.any (· != '\n') = true)
    (start mark : List Char) :
    Place first ((if first then start else mark) ++ lead) (mark ++ indent) text
      (lineStart start whole ++ hang mark whole) := by
  rcases h with ⟨before, after, rfl, hbefore, hafter⟩
  rcases text with _ | ⟨c, text⟩
  · cases htext
  have hc : c ≠ '\n' := by simpa using htext
  have hstart (start : List Char) :
      lineStart start (lead ++ (hang indent (c :: text) ++ after)) = start := by
    rw [hang_cons hc, List.cons_append]
    cases lead with
    | nil =>
        rw [List.nil_append, lineStart, if_neg hc]
    | cons d lead =>
        exact lineStart_append start hlead (List.cons_ne_nil d lead) _
  have hbelow : hang mark (lead ++ (hang indent (c :: text) ++ after)) =
      lead ++ (hang (mark ++ indent) (c :: text) ++ hang mark after) := by
    rw [hang_append_of_not_mem mark hlead, ← hang_hang hindent]
    rcases hafter with rfl | ⟨rest, rfl⟩
    · rw [List.append_nil, hang, List.append_nil]
    · rw [hang_append_newline, hang_newline]
  have hends : EndsLine (hang mark after) := by
    rcases hafter with rfl | ⟨rest, rfl⟩
    · exact Or.inl rfl
    · rw [hang_newline]
      exact Or.inr ⟨_, rfl⟩
  cases first with
  | true =>
      obtain rfl : before = [] := hbefore
      rw [List.nil_append, hstart, hbelow]
      exact ⟨[], hang mark after, by simp, rfl, hends⟩
  | false =>
      rcases hbefore with ⟨lines, rfl⟩
      rw [List.append_assoc, List.singleton_append, hang_append_newline, indented, hstart, hbelow]
      refine ⟨lineStart start (lines ++ '\n' :: (lead ++ (hang indent (c :: text) ++ after))) ++
        (hang mark lines ++ ['\n']), hang mark after, by simp, ?_, hends⟩
      exact ⟨_, (List.append_assoc _ _ _).symm⟩

end Places

end Writer

/-!
# Blocks in containers
-/

/-- The containers that nodes of a kind are. -/
def NodeKind.layers : NodeKind -> List Writer.Layer
  | .blockquote => [.quote]
  | _ => []

namespace Node

open Writer

/-- Whether a block stands in a node, inside quotes and items without a box, and whether nothing in
the node stands before it.  The node follows a list if it has `below`, the block if it has
`afterList`. -/
inductive Stands (block : Node) (afterList : Bool) :
    Node -> Bool -> List Layer -> Bool -> Prop where
  | self : Stands block afterList block afterList [] true
  | block {node child : Node} {below first : Bool} {before after : List Node}
      {layers : List Layer} (hkind : node.kind.holdsBlocks = true)
      (hchildren : node.children = before ++ child :: after)
      (hchild : Stands block afterList child (before.getLast?.any (·.kind.isList)) layers first) :
      Stands block afterList node below (node.kind.layers ++ layers) (first && before.isEmpty)
  | item {node item : Node} {below first ordered spread loose : Bool} {start : Option Nat}
      {before after : List Node} {layers : List Layer}
      (hkind : node.kind = .list ordered start spread)
      (hchildren : node.children = before ++ item :: after)
      (hplain : item.kind = .listItem loose none)
      (hitem : Stands block afterList item false layers first) :
      Stands block afterList node below
        (.item (itemMarker ordered (start.getD 1) before.length .primary).length first :: layers)
        (first && before.isEmpty)

end Node

namespace Writer

variable {node block item : Node} {afterList below first : Bool} {layers : List Layer}

theorem indents_append (outer inner : List Layer) :
    indents (outer ++ inner) = indents outer ++ indents inner :=
  List.flatMap_append

theorem indents_layers (kind : NodeKind) : indents kind.layers = kind.quoteMark := by
  cases kind <;> rfl

/-- The text of a block stands between those of the blocks before and after it. -/
theorem exists_blockTexts (tight : Bool) (previous : Option NodeKind) (bullet : Bullet)
    (before : List Node) (child : Node) (after : List Node) :
    exists setting prior next,
      (blockTexts tight previous bullet (before ++ child :: after)).toList =
          prior ++ ((nodeText setting child).toList ++ next) ∧
        setting.afterList = ((before.getLast?.map Node.kind).or previous).any NodeKind.isList ∧
        PrecedesLine (before.isEmpty && previous.isNone) prior ∧ EndsLine next := by
  induction before generalizing previous bullet with
  | nil =>
      rw [List.nil_append, blockTexts]
      simp only [String.toList_append, List.append_assoc]
      refine ⟨_, _, _, rfl, by rfl, ?_, endsLine_blockTexts _ _ _ _⟩
      cases previous with
      | none =>
          rfl
      | some kind =>
          cases tight with
          | true =>
              exact ⟨[], by simp⟩
          | false =>
              exact ⟨['\n'], by simp⟩
  | cons node before ih =>
      rw [List.cons_append, blockTexts]
      simp only [String.toList_append]
      rcases ih (some node.kind) _ with ⟨setting, prior, next, htext, hafter, hprior, hnext⟩
      rw [htext]
      refine ⟨setting, _ ++ prior, next, (List.append_assoc _ _ _).symm, ?_, ?_, hnext⟩
      · rw [hafter, List.getLast?_cons]
        cases before.getLast? <;> rfl
      · rw [Option.isNone_some, Bool.and_false] at hprior
        rcases hprior with ⟨lines, rfl⟩
        exact ⟨_, (List.append_assoc _ _ _).symm⟩

/-- The text of an item stands between those of the items before and after it. -/
theorem exists_itemTexts (ordered : Bool) (start index : Nat) (bullet : Bullet)
    (before : List Node) (after : List Node) {loose : Bool}
    (hplain : item.kind = .listItem loose none) :
    exists prior next, itemTexts ordered start bullet index (before ++ item :: after) =
        prior ++ itemText none (itemMarker ordered start (index + before.length) bullet)
          (nodeText .block item) :: next ∧
      prior.isEmpty = before.isEmpty := by
  induction before generalizing index with
  | nil =>
      rw [List.nil_append, itemTexts, hplain]
      exact ⟨[], _, rfl, rfl⟩
  | cons node before ih =>
      rw [List.cons_append, itemTexts]
      rcases ih (index + 1) with ⟨prior, next, htexts, _⟩
      rw [htexts, List.length_cons, Nat.add_right_comm index 1, Nat.add_assoc index]
      exact ⟨_ :: prior, next, rfl, rfl⟩

theorem exists_join {separator : String} (hseparator : separator = "\n" ∨ separator = "\n\n")
    (before : List String) (text : String) (after : List String) :
    exists prior next, (Text.join separator (before ++ text :: after)).toList =
        prior ++ (text.toList ++ next) ∧
      PrecedesLine before.isEmpty prior ∧ EndsLine next := by
  cases before with
  | nil =>
      rw [List.nil_append, toList_join_cons]
      exact ⟨[], _, rfl, rfl, endsLine_flatMap hseparator after⟩
  | cons other before =>
      rw [List.cons_append, toList_join_cons, List.flatMap_append, List.flatMap_cons]
      have hlast : exists lines, separator.toList = lines ++ ['\n'] := by
        rcases hseparator with rfl | rfl
        · exact ⟨[], rfl⟩
        · exact ⟨['\n'], rfl⟩
      rcases hlast with ⟨lines, hlast⟩
      refine ⟨other.toList ++ ((before.flatMap fun text => separator.toList ++ text.toList) ++
        separator.toList), _, ?_, ?_, endsLine_flatMap hseparator after⟩
      · simp
      · rw [hlast]
        exact ⟨_, by rw [← List.append_assoc, ← List.append_assoc]⟩

theorem toList_itemText (marker content : String) :
    (itemText none marker content).toList = lineStart (marker ++ " ").toList content.toList ++
      hang (List.replicate (marker.length + 1) ' ') content.toList := by
  unfold itemText
  dsimp only
  rw [toList_prefixLines, Text.repeated, String.toList_ofList, String.empty_append]

theorem leads_item {marker : String} {lead : List Char} (hmarker : isMarker marker.toList = true)
    (hlead : Leads layers lead) (opens : Bool) :
    Leads (.item marker.length opens :: layers)
      ((if opens then (marker ++ " ").toList else List.replicate (marker.length + 1) ' ') ++
        lead) := by
  cases opens with
  | true =>
      have hopening := Leads.marker hmarker hlead
      rw [String.length_toList] at hopening
      rw [if_pos rfl, String.toList_append, List.append_assoc]
      exact hopening
  | false =>
      exact .item marker.length hlead

/-- What stands in an item of a list stands in the list, behind the marker of the item. -/
theorem Place.ofItem {first loose : Bool} {lead text : List Char} {item : Node}
    {separator : String}
    (h : Place first lead (indents layers) text (nodeText .block item).toList)
    (hplain : item.kind = .listItem loose none) (hhead : text.head?.any (· != '\n') = true)
    (hlead : Leads layers lead) (hseparator : separator = "\n" ∨ separator = "\n\n")
    (ordered : Bool) (start : Nat) (bullet : Bullet) (before after : List Node) :
    exists lead, Leads (.item (itemMarker ordered start before.length bullet).length first ::
        layers) lead ∧
      Place (first && before.isEmpty) lead
        (indents (.item (itemMarker ordered start before.length bullet).length first :: layers))
        text (Text.join separator
          (itemTexts ordered start bullet 0 (before ++ item :: after))).toList := by
  rcases exists_itemTexts ordered start 0 bullet before after hplain with
    ⟨priorTexts, nextTexts, htexts, hpriorTexts⟩
  rw [Nat.zero_add] at htexts
  have hmarker := isMarker_itemMarker ordered start before.length bullet
  generalize itemMarker ordered start before.length bullet = marker at htexts hmarker ⊢
  rcases exists_join hseparator priorTexts (itemText none marker (nodeText .block item))
    nextTexts with ⟨prior, next, hjoin, hprior, hnext⟩
  have hhung := h.hung (fun hc => (not_break_of_mem_lead hlead hc).1 rfl)
    (fun hc => (not_break_of_mem_indents _ hc).1 rfl) hhead (marker ++ " ").toList
    (List.replicate (marker.length + 1) ' ')
  rw [← toList_itemText] at hhung
  rw [hpriorTexts] at hprior
  rw [htexts, hjoin]
  exact ⟨_, leads_item hmarker hlead first, hhung.beside hprior hnext⟩

/-- The lines of a block in a tree stand in the text of the tree, each behind what the containers
around the block put there. -/
theorem place_of_stands (h : Node.Stands block afterList node below layers first) {text : List Char}
    (htext : forall setting : Setting, setting.afterList = afterList ->
      (nodeText setting block).toList = text)
    (hhead : text.head?.any (· != '\n') = true) {setting : Setting}
    (hbelow : setting.afterList = below) :
    exists lead, Leads layers lead ∧
      Place first lead (indents layers) text (nodeText setting node).toList := by
  induction h generalizing setting with
  | self =>
      rw [htext setting hbelow]
      exact ⟨[], .nil, .refl text⟩
  | block hkind hchildren hchild ih =>
      rename_i node child below first before after layers
      rcases exists_blockTexts node.kind.isTight none .primary before child after with
        ⟨inner, prior, next, hblocks, hinner, hprior, hnext⟩
      have hafter : inner.afterList = before.getLast?.any (·.kind.isList) := by
        rw [hinner]
        cases before.getLast? <;> rfl
      rcases ih hafter with ⟨lead, hlead, hplace⟩
      have hwhole := hplace.beside hprior hnext
      rw [← hblocks, ← hchildren, Option.isNone_none, Bool.and_true] at hwhole
      have hout := hwhole.hung (fun hc => (not_break_of_mem_lead hlead hc).1 rfl)
        (fun hc => (not_break_of_mem_indents _ hc).1 rfl) hhead node.kind.quoteMark
        node.kind.quoteMark
      rw [toList_nodeText_of_holdsBlocks hkind, indents_append, indents_layers]
      rw [ite_self] at hout
      refine ⟨node.kind.quoteMark ++ lead, ?_, hout⟩
      cases hkinds : node.kind with
      | blockquote =>
          exact .quote hlead
      | _ =>
          exact hlead
  | item hkind hchildren hplain hitem ih =>
      rename_i node item below first ordered spread loose start before after layers
      rcases ih (rfl : Setting.block.afterList = false) with ⟨lead, hlead, hplace⟩
      rcases node with ⟨id, kind, value, children, position⟩
      obtain rfl : kind = .list ordered start spread := hkind
      obtain rfl : children = before ++ item :: after := hchildren
      have hseparator (spread : Bool) : (if spread then "\n\n" else "\n") = "\n" ∨
          (if spread then "\n\n" else "\n") = "\n\n" := by
        cases spread
        · exact Or.inl rfl
        · exact Or.inr rfl
      rw [nodeText, ← length_itemMarker ordered (start.getD 1) before.length setting.bullet]
      exact hplace.ofItem hplain hhead hlead (hseparator _) ordered (start.getD 1) setting.bullet
        before after

/-!
# Whole texts
-/

/-- The empty lines at the end of a text are cut off, but not the last line with something on it. -/
theorem exists_toMarkdown_line {lines after : List Char} {c : Char}
    (h : (nodeText .block node).toList = lines ++ c :: after) (hc : c ≠ '\n')
    (hafter : EndsLine after) :
    exists more, node.toMarkdown.toList = lines ++ c :: '\n' :: more := by
  have hkept : (Text.trimEndWhile (· == '\n') (nodeText .block node)).toList =
      lines ++ c :: Text.dropEndWhile (· == '\n') after := by
    rw [Text.trimEndWhile, String.toList_ofList, h,
      Text.dropEndWhile_append_cons (by simpa using hc)]
  have hne : (Text.trimEndWhile (· == '\n') (nodeText .block node)).isEmpty = false := by
    rw [Bool.eq_false_iff]
    intro hempty
    rw [String.isEmpty_iff.mp hempty] at hkept
    simp at hkept
  unfold Node.toMarkdown
  dsimp only
  rw [hne, if_neg Bool.false_ne_true, String.toList_append, hkept]
  rcases Text.exists_dropped (· == '\n') after with ⟨dropped, hdropped, _⟩
  cases hrest : Text.dropEndWhile (· == '\n') after with
  | nil =>
      exact ⟨[], by simp⟩
  | cons d rest =>
      rw [hrest, List.cons_append] at hdropped
      rcases hafter with hnil | ⟨others, hothers⟩
      · rw [hnil] at hdropped
        cases hdropped
      · rw [hothers] at hdropped
        obtain ⟨rfl, _⟩ := List.cons.inj hdropped
        exact ⟨rest ++ ['\n'], by simp⟩

/-- The lines of a block in a document stand in the text of the document up to the end of a line. -/
theorem exists_place_toMarkdown (h : Node.Stands block afterList node false layers first)
    {text : List Char} (htext : forall setting : Setting, setting.afterList = afterList ->
      (nodeText setting block).toList = text)
    (hhead : text.head?.any (· != '\n') = true) (hlast : text.getLast?.any (· != '\n') = true) :
    exists before lead after,
      node.toMarkdown.toList =
          before ++ (lead ++ (hang (indents layers) text ++ '\n' :: after)) ∧
        PrecedesLine first before ∧ Leads layers lead := by
  rcases place_of_stands h htext hhead (rfl : Setting.block.afterList = false) with
    ⟨lead, hlead, before, after, hwhole, hbefore, hafter⟩
  rcases List.eq_nil_or_concat' text with rfl | ⟨init, c, rfl⟩
  · cases hhead
  have hc : c ≠ '\n' := by simpa using hlast
  rcases exists_hang_append (indents layers) init [c] with ⟨inner, hinner⟩
  rw [hang_cons hc, hang] at hinner
  rw [hinner] at hwhole ⊢
  have hsplit : (nodeText .block node).toList = (before ++ (lead ++ inner)) ++ c :: after := by
    rw [hwhole]
    simp
  rcases exists_toMarkdown_line hsplit hc hafter with ⟨more, hmore⟩
  refine ⟨before, lead, more, ?_, hbefore, hlead⟩
  rw [hmore]
  simp

end Writer
end Docloom
