import Docloom.Node.Writer
import Docloom.Proofs.Text.Split
import Docloom.Proofs.Text.Trim

/-!
# Texts inside texts

What a container writes for the nodes in it is their text with something before each line.  So a
text that stands on lines of its own in a container stands in the text of the whole tree too, and
its lines begin with what the containers around it put there.
-/

namespace Docloom

namespace Writer

variable {indent first rest : List Char} {cs ds whole part : List Char} {c : Char}

/-!
# Lines with something before them
-/

/-- What is put before a line that begins a text: nothing at the end of it, if the line is
empty. -/
def lineStart (indent : List Char) : List Char -> List Char
  | [] => Text.dropEndWhile Text.isBlank indent
  | c :: _ => if c = '\n' then Text.dropEndWhile Text.isBlank indent else indent

/-- A text with something before each line but the first. -/
def hang (indent : List Char) : List Char -> List Char
  | [] => []
  | c :: cs =>
      if c = '\n' then
        '\n' :: (lineStart indent cs ++ hang indent cs)
      else
        c :: hang indent cs

/-- A text with something before each line. -/
def indented (indent cs : List Char) : List Char := lineStart indent cs ++ hang indent cs

theorem lineStart_nil_indent (cs : List Char) : lineStart [] cs = [] := by
  cases cs with
  | nil =>
      rfl
  | cons c cs =>
      simp [lineStart, Text.dropEndWhile_nil]

theorem hang_newline (indent cs : List Char) :
    hang indent ('\n' :: cs) = '\n' :: indented indent cs := by
  rw [hang, if_pos rfl, indented]

theorem hang_cons (h : c ≠ '\n') (indent cs : List Char) :
    hang indent (c :: cs) = c :: hang indent cs := by
  rw [hang, if_neg h]

/-- The text of a line with what stands before it. -/
def written (indent line : List Char) : List Char :=
  if line.isEmpty then Text.dropEndWhile Text.isBlank indent else indent ++ line

theorem written_flatMap_splitChars (first rest cs : List Char) {line : List Char}
    {lines : List (List Char)} (h : Text.splitChars (· == '\n') cs = line :: lines) :
    written first line ++ lines.flatMap (fun line => '\n' :: written rest line) =
      lineStart first cs ++ hang rest cs := by
  induction cs generalizing first line lines with
  | nil =>
      cases h
      simp [written, lineStart, hang]
  | cons c cs ih =>
      cases hcs : Text.splitChars (· == '\n') cs with
      | nil =>
          exact absurd hcs (Text.splitChars_ne_nil _ cs)
      | cons next others =>
          rw [Text.splitChars, hcs] at h
          by_cases hc : c = '\n'
          · subst hc
            cases h
            rw [List.flatMap_cons, List.cons_append, ih rest hcs, hang_newline]
            rfl
          · rw [if_neg (by simpa using hc)] at h
            cases h
            have hbelow := ih [] hcs
            have hfirst : written [] next = next := by
              cases next <;> rfl
            rw [hfirst, lineStart_nil_indent, List.nil_append] at hbelow
            rw [hang_cons hc, lineStart, if_neg hc, ← hbelow]
            simp [written]

theorem toList_join_cons (separator text : String) (texts : List String) :
    (Text.join separator (text :: texts)).toList =
      text.toList ++ texts.flatMap fun text => separator.toList ++ text.toList := by
  induction texts generalizing text with
  | nil =>
      simp [Text.join]
  | cons next others ih =>
      have hcons : Text.join separator (text :: next :: others) =
          text ++ separator ++ Text.join separator (next :: others) :=
        String.intercalate_cons_cons
      rw [hcons, String.toList_append, String.toList_append, ih, List.flatMap_cons,
        List.append_assoc, List.append_assoc]

/-- What is written with something before its lines. -/
theorem toList_prefixLines (first rest text : String) :
    (prefixLines first rest text).toList =
      lineStart first.toList text.toList ++ hang rest.toList text.toList := by
  have hwrite : forall start line : String,
      (if line.isEmpty then Text.trimEndWhile Text.isBlank start else start ++ line).toList =
        written start.toList line.toList := by
    intro start line
    unfold written
    by_cases hline : line.toList = []
    · rw [if_pos (by simpa using hline), if_pos (by rw [hline]; rfl)]
      simp [Text.trimEndWhile]
    · rw [if_neg (by simpa using hline), if_neg (by simpa using hline)]
      simp
  cases hsplit : Text.splitChars (· == '\n') text.toList with
  | nil =>
      exact absurd hsplit (Text.splitChars_ne_nil _ _)
  | cons line lines =>
      rw [← written_flatMap_splitChars first.toList rest.toList text.toList hsplit, prefixLines]
      simp only [Text.split, hsplit, List.map_cons]
      rw [toList_join_cons, hwrite, String.toList_ofList, List.map_map, List.flatMap_map]
      congr 1
      apply List.flatMap_congr
      intro other _
      rw [Function.comp_apply, hwrite]
      simp

/-!
# Parts of texts
-/

theorem hang_nil_indent (cs : List Char) : hang [] cs = cs := by
  induction cs with
  | nil =>
      rfl
  | cons c cs ih =>
      by_cases hc : c = '\n'
      · subst hc
        rw [hang_newline, indented, lineStart_nil_indent, List.nil_append, ih]
      · rw [hang_cons hc, ih]

theorem hang_append_newline (indent cs ds : List Char) :
    hang indent (cs ++ '\n' :: ds) = hang indent cs ++ '\n' :: indented indent ds := by
  induction cs with
  | nil =>
      rw [List.nil_append, hang_newline, hang, List.nil_append]
  | cons c cs ih =>
      rw [List.cons_append]
      by_cases hc : c = '\n'
      · subst hc
        have hstart : lineStart indent (cs ++ '\n' :: ds) = lineStart indent cs := by
          cases cs with
          | nil =>
              simp [lineStart]
          | cons d rest =>
              rfl
        rw [hang_newline, hang_newline, indented, hstart, ih, ← List.append_assoc, ← indented,
          List.cons_append]
      · rw [hang_cons hc, hang_cons hc, ih, List.cons_append]

theorem exists_hang_append (indent cs ds : List Char) :
    exists before, hang indent (cs ++ ds) = before ++ hang indent ds := by
  induction cs with
  | nil =>
      exact ⟨[], rfl⟩
  | cons c cs ih =>
      rcases ih with ⟨before, hbefore⟩
      rw [List.cons_append]
      by_cases hc : c = '\n'
      · subst hc
        refine ⟨'\n' :: (lineStart indent (cs ++ ds) ++ before), ?_⟩
        rw [hang_newline, indented, hbefore, List.cons_append, List.append_assoc]
      · refine ⟨c :: before, ?_⟩
        rw [hang_cons hc, hbefore, List.cons_append]

theorem mem_hang (indent : List Char) (h : c ∈ cs) : c ∈ hang indent cs := by
  induction cs with
  | nil =>
      cases h
  | cons d cs ih =>
      by_cases hd : d = '\n'
      · subst hd
        rw [hang_newline, indented]
        rcases List.mem_cons.mp h with rfl | hrest
        · exact List.mem_cons_self
        · exact List.mem_cons_of_mem _ (List.mem_append_right _ (ih hrest))
      · rw [hang_cons hd]
        rcases List.mem_cons.mp h with rfl | hrest
        · exact List.mem_cons_self
        · exact List.mem_cons_of_mem _ (ih hrest)

theorem hang_append_of_not_mem (indent : List Char) (h : '\n' ∉ cs) (ds : List Char) :
    hang indent (cs ++ ds) = cs ++ hang indent ds := by
  induction cs with
  | nil =>
      rfl
  | cons c cs ih =>
      have hc : c ≠ '\n' := by
        rintro rfl
        exact h List.mem_cons_self
      rw [List.cons_append, hang_cons hc, ih fun hmem => h (List.mem_cons_of_mem _ hmem),
        List.cons_append]

theorem lineStart_append (outer : List Char) (h : '\n' ∉ cs) (hne : cs ≠ []) (ds : List Char) :
    lineStart outer (cs ++ ds) = outer := by
  rcases List.exists_cons_of_ne_nil hne with ⟨c, rest, rfl⟩
  have hc : c ≠ '\n' := by
    rintro rfl
    exact h List.mem_cons_self
  rw [List.cons_append, lineStart, if_neg hc]

theorem not_mem_lineStart (h : '\n' ∉ indent) (cs : List Char) : '\n' ∉ lineStart indent cs := by
  have hdrop : '\n' ∉ Text.dropEndWhile Text.isBlank indent := by
    rcases Text.exists_dropped Text.isBlank indent with ⟨dropped, hdropped, _⟩
    intro hmem
    apply h
    rw [hdropped]
    exact List.mem_append_left _ hmem
  cases cs with
  | nil =>
      exact hdrop
  | cons c cs =>
      rw [lineStart]
      split
      · exact hdrop
      · exact h

/-- What is put before a line twice is put before it at once. -/
theorem lineStart_indented {outer inner : List Char} (h : '\n' ∉ inner) (cs : List Char) :
    lineStart outer (indented inner cs) ++ lineStart inner cs = lineStart (outer ++ inner) cs := by
  have hempty : forall ds, (ds = [] ∨ exists rest, ds = '\n' :: rest) ->
      lineStart outer (lineStart inner ds ++ hang inner ds) ++ lineStart inner ds =
        lineStart (outer ++ inner) ds := by
    intro ds hds
    have hstart : forall indent, lineStart indent ds = Text.dropEndWhile Text.isBlank indent := by
      rcases hds with rfl | ⟨rest, rfl⟩ <;> exact fun _ => rfl
    rw [hstart, hstart, Text.dropEndWhile_append]
    split
    · rename_i hnil
      have hhang : lineStart outer (hang inner ds) = Text.dropEndWhile Text.isBlank outer := by
        rcases hds with rfl | ⟨rest, rfl⟩
        · rfl
        · rw [hang_newline]
          rfl
      rw [hnil, List.nil_append, hhang, List.append_nil]
    · rename_i hne
      have hmem := not_mem_lineStart h ds
      rw [hstart] at hmem
      rw [lineStart_append outer hmem hne]
  cases cs with
  | nil =>
      exact hempty [] (Or.inl rfl)
  | cons c cs =>
      by_cases hc : c = '\n'
      · subst hc
        exact hempty _ (Or.inr ⟨cs, rfl⟩)
      · have hstart : forall indent, lineStart indent (c :: cs) = indent := by
          intro indent
          rw [lineStart, if_neg hc]
        rw [indented, hstart, hstart, hang_cons hc]
        by_cases hnil : inner = []
        · rw [hnil, List.nil_append, lineStart, if_neg hc]
        · rw [lineStart_append outer h hnil]

theorem hang_hang {outer inner : List Char} (h : '\n' ∉ inner) (cs : List Char) :
    hang outer (hang inner cs) = hang (outer ++ inner) cs := by
  induction cs with
  | nil =>
      rfl
  | cons c cs ih =>
      by_cases hc : c = '\n'
      · subst hc
        have hstart := not_mem_lineStart h cs
        rw [hang_newline, hang_newline, hang_newline, indented, indented]
        rw [hang_append_of_not_mem outer hstart, ih, ← List.append_assoc, ← indented,
          lineStart_indented h, ← indented]
      · rw [hang_cons hc, hang_cons hc, hang_cons hc, ih]

/-- Whether nothing follows on a line. -/
def EndsLine (after : List Char) : Prop := after = [] ∨ exists rest, after = '\n' :: rest

theorem EndsLine.append (hcs : EndsLine cs) (hds : EndsLine ds) : EndsLine (cs ++ ds) := by
  rcases hcs with rfl | ⟨rest, rfl⟩
  · exact hds
  · exact Or.inr ⟨rest ++ ds, rfl⟩

/-- Whether a text stands in another one up to the end of a line. -/
def Shows (whole part : List Char) : Prop :=
  exists before after, whole = before ++ (part ++ after) ∧ EndsLine after

namespace Shows

theorem refl (cs : List Char) : Shows cs cs := ⟨[], [], by simp, Or.inl rfl⟩

theorem trans {middle : List Char} (h : Shows whole middle) (hinner : Shows middle part) :
    Shows whole part := by
  rcases h with ⟨first, last, rfl, hlast⟩
  rcases hinner with ⟨before, after, rfl, hafter⟩
  exact ⟨first ++ before, after ++ last, by simp, hafter.append hlast⟩

/-- Lines with something before them show the parts of the text in the same way. -/
theorem hang (indent : List Char) (h : Shows whole part) :
    Shows (Writer.hang indent whole) (Writer.hang indent part) := by
  rcases h with ⟨before, after, rfl, hafter⟩
  rcases exists_hang_append indent before (part ++ after) with ⟨first, hfirst⟩
  rcases hafter with rfl | ⟨rest, rfl⟩
  · refine ⟨first, [], ?_, Or.inl rfl⟩
    rw [hfirst, List.append_nil, List.append_nil]
  · refine ⟨first, '\n' :: indented indent rest, ?_, Or.inr ⟨_, rfl⟩⟩
    rw [hfirst, hang_append_newline]

theorem append_left (before : List Char) (h : Shows whole part) :
    Shows (before ++ whole) part := by
  rcases h with ⟨first, after, rfl, hafter⟩
  exact ⟨before ++ first, after, by rw [List.append_assoc], hafter⟩

theorem append_right (h : Shows whole part) {after : List Char} (hafter : EndsLine after) :
    Shows (whole ++ after) part := by
  rcases h with ⟨before, last, rfl, hlast⟩
  exact ⟨before, last ++ after, by simp, hlast.append hafter⟩

end Shows

end Writer

/-!
# Nodes inside nodes
-/

/-- Whether nodes of a kind are written as their children, one block after another. -/
def NodeKind.holdsBlocks : NodeKind -> Bool
  | .root | .blockquote | .listItem .. => true
  | _ => false

/-- Whether there are no blank lines between the blocks in nodes of a kind. -/
def NodeKind.isTight : NodeKind -> Bool
  | .listItem spread _ => !spread
  | _ => false

/-- What nodes of a kind put before the lines of the blocks in them. -/
def NodeKind.quoteMark : NodeKind -> List Char
  | .blockquote => ['>', ' ']
  | _ => []

/-- The number of blanks before the lines of an item below its marker. -/
def Writer.itemSize (ordered : Bool) (start : Option Nat) (index : Nat) : Nat :=
  (itemMarker ordered (start.getD 1) index .primary).length + 1

namespace Node

/-- Whether a node is inside another one, where all between them hold blocks, and what they put
before the lines inside: the marks of quotes, and blanks below the markers of items. -/
inductive Encloses : Node -> List Char -> Node -> Prop where
  | self {node : Node} (hkind : node.kind.holdsBlocks = true) :
      Encloses node node.kind.quoteMark node
  | block {node child inner : Node} {indent : List Char} (hkind : node.kind.holdsBlocks = true)
      (hchild : child ∈ node.children) (hinner : Encloses child indent inner) :
      Encloses node (node.kind.quoteMark ++ indent) inner
  | item {node item inner : Node} {indent : List Char} {ordered spread : Bool}
      {start : Option Nat} {index : Nat} (hkind : node.kind = .list ordered start spread)
      (hitem : node.children[index]? = some item) (hinner : Encloses item indent inner) :
      Encloses node (List.replicate (Writer.itemSize ordered start index) ' ' ++ indent) inner

/-- The text of the blocks in a node. -/
def blockText (node : Node) : List Char :=
  (Writer.blockTexts node.kind.isTight none .primary node.children).toList

/-- The text of the inline nodes in a node. -/
def inlineText (node : Node) : List Char := (Writer.inlineTexts false false node.children).toList

end Node

namespace Writer

open Node

variable {node child inner a b : Node} {nodes before after : List Node} {setting : Setting}
  {tight : Bool} {previous : Option NodeKind} {bullet : Bullet}

theorem indented_nil (cs : List Char) : indented [] cs = cs := by
  rw [indented, lineStart_nil_indent, hang_nil_indent, List.nil_append]

theorem toList_nodeText_of_holdsBlocks (hkind : node.kind.holdsBlocks = true) (setting : Setting) :
    (nodeText setting node).toList = indented node.kind.quoteMark node.blockText := by
  rcases node with ⟨id, kind, value, children, position⟩
  cases kind with
  | root | listItem =>
      change _ = indented [] _
      rw [nodeText, indented_nil]
      rfl
  | blockquote =>
      rw [nodeText, toList_prefixLines]
      rfl
  | _ =>
      cases hkind

theorem endsLine_blockTexts (tight : Bool) (kind : NodeKind) (bullet : Bullet)
    (nodes : List Node) : EndsLine (blockTexts tight (some kind) bullet nodes).toList := by
  cases nodes with
  | nil =>
      rw [blockTexts]
      exact Or.inl rfl
  | cons node nodes =>
      right
      rw [blockTexts]
      cases tight with
      | true =>
          exact ⟨_, by simp [String.toList_append]; rfl⟩
      | false =>
          exact ⟨_, by simp [String.toList_append]; rfl⟩

/-- The text of a block is shown between those before and after it. -/
theorem exists_shows_blockTexts (tight : Bool) (previous : Option NodeKind) (bullet : Bullet)
    (hchild : child ∈ nodes) :
    exists setting, Shows (blockTexts tight previous bullet nodes).toList
      (nodeText setting child).toList := by
  induction nodes generalizing previous bullet with
  | nil =>
      cases hchild
  | cons node nodes ih =>
      rw [blockTexts]
      simp only [String.toList_append]
      rcases List.mem_cons.mp hchild with rfl | hrest
      · exact ⟨_, ((Shows.refl _).append_left _).append_right (endsLine_blockTexts _ _ _ _)⟩
      · rcases ih (some node.kind) _ hrest with ⟨setting, hsetting⟩
        exact ⟨setting, hsetting.append_left _⟩

/-- What stands between two paragraphs of a node. -/
def gap (tight : Bool) : String := if tight then "\n" else "\n\n"

theorem nodeText_paragraph (hkind : node.kind = .paragraph) (setting : Setting) :
    (nodeText setting node).toList = node.inlineText := by
  rcases node with ⟨id, kind, value, children, position⟩
  obtain rfl : kind = .paragraph := hkind
  rw [nodeText]
  rfl

/-- The texts of two paragraphs that stand side by side are shown with the gap between them. -/
theorem shows_paragraphs (tight : Bool) (previous : Option NodeKind) (bullet : Bullet)
    (before after : List Node) (ha : a.kind = .paragraph) (hb : b.kind = .paragraph) :
    Shows (blockTexts tight previous bullet (before ++ a :: b :: after)).toList
      (a.inlineText ++ ((gap tight).toList ++ b.inlineText)) := by
  induction before generalizing previous bullet with
  | nil =>
      rw [List.nil_append, blockTexts, blockTexts]
      simp only [String.toList_append, nodeText_paragraph ha, nodeText_paragraph hb]
      have hgap : (if (some a.kind).isNone = true then "" else
          if tight = true then "\n" else "\n\n") = gap tight := rfl
      rw [hgap, List.append_assoc]
      apply Shows.append_left
      rw [← List.append_assoc, ← List.append_assoc a.inlineText]
      exact (Shows.refl _).append_right (endsLine_blockTexts _ _ _ _)
  | cons node before ih =>
      rw [List.cons_append, blockTexts]
      simp only [String.toList_append]
      exact (ih (some node.kind) _).append_left _

/-!
# Lists
-/

theorem endsLine_flatMap {separator : String} (hseparator : separator = "\n" ∨ separator = "\n\n")
    (items : List String) :
    EndsLine (items.flatMap fun item => separator.toList ++ item.toList) := by
  cases items with
  | nil =>
      exact Or.inl rfl
  | cons item items =>
      right
      rw [List.flatMap_cons]
      rcases hseparator with rfl | rfl
      · exact ⟨_, by simp; rfl⟩
      · exact ⟨_, by simp; rfl⟩

theorem shows_join {separator item : String} {items : List String}
    (hseparator : separator = "\n" ∨ separator = "\n\n") (hitem : item ∈ items) :
    Shows (Text.join separator items).toList item.toList := by
  cases items with
  | nil =>
      cases hitem
  | cons first others =>
      rw [toList_join_cons]
      rcases List.mem_cons.mp hitem with rfl | hrest
      · exact (Shows.refl _).append_right (endsLine_flatMap hseparator others)
      · rcases List.append_of_mem hrest with ⟨between, last, rfl⟩
        rw [List.flatMap_append, List.flatMap_cons]
        exact ((((Shows.refl _).append_left _).append_right
          (endsLine_flatMap hseparator last)).append_left _).append_left _

/-- The marker has the same length whatever stands before the list. -/
theorem length_itemMarker (ordered : Bool) (start index : Nat) (bullet : Bullet) :
    (itemMarker ordered start index bullet).length =
      (itemMarker ordered start index .primary).length := by
  cases ordered <;> cases bullet <;> simp only [itemMarker, String.length_append] <;> rfl

theorem mem_itemTexts (ordered : Bool) (start : Nat) {index : Nat} (offset : Nat)
    (bullet : Bullet) (hitem : nodes[index]? = some child) :
    exists checked,
      itemText checked (itemMarker ordered start (offset + index) bullet) (nodeText .block child) ∈
        itemTexts ordered start bullet offset nodes := by
  induction nodes generalizing index offset with
  | nil =>
      cases hitem
  | cons node nodes ih =>
      rw [itemTexts]
      cases index with
      | zero =>
          cases hitem
          exact ⟨_, List.mem_cons_self⟩
      | succ index =>
          rcases ih (offset + 1) hitem with ⟨checked, hmem⟩
          rw [Nat.add_right_comm, Nat.add_assoc] at hmem
          exact ⟨checked, List.mem_cons_of_mem _ hmem⟩

theorem shows_itemText (checked : Option Bool) (marker : String) {content : String}
    (h : Shows content.toList part) :
    Shows (itemText checked marker content).toList
      (hang (List.replicate (marker.length + 1) ' ') part) := by
  unfold itemText
  dsimp only
  rw [toList_prefixLines, Text.repeated]
  simp only [String.toList_append, String.toList_ofList]
  exact ((h.append_left _).hang _).append_left _

/-- The text of an item is shown in the text of its list, with blanks before its lines. -/
theorem shows_list {ordered spread : Bool} {start : Option Nat} {index : Nat}
    (hkind : node.kind = .list ordered start spread) (hitem : node.children[index]? = some child)
    (setting : Setting) (h : Shows (nodeText .block child).toList part) :
    Shows (nodeText setting node).toList
      (hang (List.replicate (itemSize ordered start index) ' ') part) := by
  rcases node with ⟨id, kind, value, children, position⟩
  obtain rfl : kind = .list ordered start spread := hkind
  have hmem := mem_itemTexts ordered (start.getD 1) 0 setting.bullet hitem
  rcases hmem with ⟨checked, hmem⟩
  have hshown := shows_itemText checked
    (itemMarker ordered (start.getD 1) (0 + index) setting.bullet) h
  rw [length_itemMarker, Nat.zero_add] at hshown
  rw [Nat.zero_add] at hmem
  rw [nodeText]
  refine Shows.trans (shows_join ?_ hmem) hshown
  split
  · exact Or.inr rfl
  · exact Or.inl rfl

/-!
# What is inside a tree
-/

theorem not_mem_quoteMark (kind : NodeKind) : '\n' ∉ kind.quoteMark := by
  cases kind <;> simp [NodeKind.quoteMark]

theorem not_mem_indent {indent : List Char} (h : Encloses node indent inner) : '\n' ∉ indent := by
  induction h with
  | self hkind =>
      exact not_mem_quoteMark _
  | block hkind hchild hinner ih =>
      simp [not_mem_quoteMark, ih]
  | item hkind hitem hinner ih =>
      simp [List.mem_replicate, ih]

/-- The blocks of a node inside a tree are shown in the text of the tree, with what stands before
lines there. -/
theorem shows_of_encloses {indent : List Char} (h : Encloses node indent inner)
    (setting : Setting) :
    Shows (nodeText setting node).toList (hang indent inner.blockText) := by
  induction h generalizing setting with
  | self hkind =>
      rw [toList_nodeText_of_holdsBlocks hkind]
      exact (Shows.refl _).append_left _
  | block hkind hchild hinner ih =>
      rename_i node child inner indent
      rcases exists_shows_blockTexts node.kind.isTight none .primary hchild with ⟨below, hbelow⟩
      rw [toList_nodeText_of_holdsBlocks hkind, ← hang_hang (not_mem_indent hinner)]
      exact ((hbelow.trans (ih below)).hang _).append_left _
  | item hkind hitem hinner ih =>
      rw [← hang_hang (not_mem_indent hinner)]
      exact shows_list hkind hitem setting (ih .block)

end Writer
end Docloom
