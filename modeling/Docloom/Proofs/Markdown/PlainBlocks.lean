import Docloom.Proofs.Markdown.Reading
import Docloom.Proofs.Node.Numbering

/-!
# Reading plain blocks

Headings, paragraphs, thematic breaks and code that stand side by side outside of containers, with
blank lines between them, are read as nodes with the same content.
-/

namespace Docloom

/-!
# The content of a tree
-/

/-- A kind without what only tells how the node was written. -/
def NodeKind.bare : NodeKind -> NodeKind
  | .text _ => .text none
  | .code lang info _ => .code lang info false
  | .list ordered start _ => .list ordered start false
  | .listItem _ checked => .listItem false checked
  | kind => kind

namespace Node

mutual
/-- A tree without numbers and places, and without what only tells how it was written. -/
def content (node : Node) : Node :=
  match node with
  | ⟨_, kind, value, children, _⟩ => ⟨0, kind.bare, value, contents children, none⟩

def contents : List Node -> List Node
  | [] => []
  | node :: nodes => content node :: contents nodes
end

theorem content_eq (node : Node) :
    node.content = ⟨0, node.kind.bare, node.value, contents node.children, none⟩ := by
  cases node
  rfl

/-- The content of a heading, of a paragraph or of another node that holds one text. -/
def texted (kind : NodeKind) (text : List Char) : Node :=
  ⟨0, kind, none, [⟨0, .text none, some (String.ofList text), [], none⟩], none⟩

/-- The content of a node without children. -/
def childless (kind : NodeKind) (value : Option String) : Node := ⟨0, kind, value, [], none⟩

end Node

namespace Markdown

open Node

/-!
# Nodes of blocks
-/

section Means

variable {source : Source} {block : Block} {blocks : List Block} {node : Node} {nodes : List Node}
  {run : Run} {start stop : Place} {first : Nat} {cs : List Char}

/-- Whether a block outside of containers stands for nodes with a given content. -/
def Block.Means (source : Source) (block : Block) (node : Node) : Prop :=
  block.shape.isItem = false ∧ forall labels next,
    (ofElement next (blockElement source labels false block)).1.content = node

theorem means_heading (h : run.Spells source first cs) (hplain : isPlainText cs = true)
    (depth : Nat) (start stop : Place) :
    Block.Means source ⟨.heading depth run, start, stop, []⟩ (texted (.heading depth) cs) := by
  refine ⟨rfl, ?_⟩
  intro labels next
  rcases runElements_of_plain h hplain labels false with ⟨position, helements⟩
  rw [blockElement, helements]
  rfl

theorem means_paragraph (h : run.Spells source first cs) (hplain : isPlainText cs = true)
    (start stop : Place) :
    Block.Means source ⟨.paragraph run, start, stop, []⟩ (texted .paragraph cs) := by
  refine ⟨rfl, ?_⟩
  intro labels next
  rcases runElements_of_plain h hplain labels false with ⟨position, helements⟩
  rw [blockElement, helements]
  rfl

theorem means_emptyHeading (h : run.letters = []) (depth : Nat) (start stop : Place) :
    Block.Means source ⟨.heading depth run, start, stop, []⟩
      (childless (.heading depth) none) := by
  refine ⟨rfl, ?_⟩
  intro labels next
  have hsize : ¬ 0 < run.size := by
    rw [Run.size_eq, h]
    exact Nat.lt_irrefl 0
  have hnone : runElements source labels run false = [] := by
    unfold runElements Run.inlines
    rw [readTokens, if_neg hsize]
    rfl
  rw [blockElement, hnone]
  rfl

theorem means_thematicBreak (start stop : Place) :
    Block.Means source ⟨.thematicBreak, start, stop, []⟩ (childless .thematicBreak none) := by
  refine ⟨rfl, ?_⟩
  intro labels next
  rw [blockElement]
  rfl

theorem means_code (lang info : Option String) (value : String) (start stop : Place) :
    Block.Means source ⟨.code lang info value, start, stop, []⟩
      (childless (.code lang info false) (some value)) := by
  refine ⟨rfl, ?_⟩
  intro labels next
  rw [blockElement]
  rfl

end Means

/-!
# Plain blocks
-/

/-- Whether a line of text goes on with a paragraph. -/
def isTextLine (cs : List Char) : Bool := isPlainLine cs && cs.head?.any isLineStart

/-- A block that means nothing but its characters. -/
inductive PlainBlock where
  | heading (depth : Nat) (lines : List (List Char))
  | paragraph (lines : List (List Char))
  | thematicBreak
  | code (lang info value : List Char)
  deriving DecidableEq

namespace PlainBlock

def isValid : PlainBlock -> Bool
  | .heading depth [] => 0 < depth && depth ≤ 6
  | .heading depth (line :: lines) =>
      0 < depth && depth ≤ 6 && isPlainLine line && lines.all isTextLine
  | .paragraph lines => !lines.isEmpty && lines.all isTextLine
  | .thematicBreak => true
  | .code lang info value =>
      lang.all (fun c => isInfoChar c && c != ' ') && info.all isInfoChar &&
        info.head?.all (!Text.isSpace ·) && (info.isEmpty || !lang.isEmpty) && !value.contains '\r'

/-- The content of the node that a block is. -/
def node : PlainBlock -> Node
  | .heading depth [] => childless (.heading depth) none
  | .heading depth (line :: lines) => texted (.heading depth) (joined (line :: lines))
  | .paragraph lines => texted .paragraph (joined lines)
  | .thematicBreak => childless .thematicBreak none
  | .code lang info value =>
      childless (.code (given lang) (given info) false) (some (String.ofList value))

/-- The fence around a code is longer than the runs of its mark in the code. -/
def fence (value : List Char) : List Char :=
  List.replicate (max (Writer.longestRun '\x60' value) 2 + 1) '\x60'

/-- The lines of a code. -/
def codeLines (value : List Char) : List (List Char) :=
  if value.isEmpty then [] else Text.splitChars (· == '\n') value

/-- The lines that a block is written as. -/
def written : PlainBlock -> List (List Char)
  | .heading depth [] => [List.replicate depth '#']
  | .heading depth (line :: lines) => (List.replicate depth '#' ++ ' ' :: line) :: lines
  | .paragraph lines => lines
  | .thematicBreak => [['*', '*', '*']]
  | .code lang info value =>
      let gap := if info.isEmpty then [] else [' ']
      (fence value ++ (lang ++ (gap ++ info))) :: (codeLines value ++ [fence value])

/-- The blocks that a block is read as again: a heading ends with its first line. -/
def parts : PlainBlock -> List PlainBlock
  | .heading depth (line :: next :: lines) => [.heading depth [line], .paragraph (next :: lines)]
  | block => [block]

end PlainBlock

/-!
# Lines of plain blocks
-/

section Stands

variable {source : Source} {line : Line} {lines : List Line} {first : Nat} {piece cs : List Char}
  {pieces others : List (List Char)}

theorem LinesStand.split (h : LinesStand source first (pieces ++ others) lines) :
    exists before after next, lines = before ++ after ∧ LinesStand source first pieces before ∧
      LinesStand source next others after := by
  induction pieces generalizing first lines with
  | nil =>
      exact ⟨[], lines, first, rfl, .nil, h⟩
  | cons piece pieces ih =>
      cases h with
      | cons hline hlines =>
          rcases ih hlines with ⟨before, after, next, rfl, hbefore, hafter⟩
          exact ⟨_ :: before, after, next, rfl, .cons hline hbefore, hafter⟩

theorem isPlainLine_of_isTextLine (h : isTextLine piece = true) : isPlainLine piece = true := by
  unfold isTextLine at h
  rw [Bool.and_eq_true] at h
  exact h.1

theorem exists_cons_of_isTextLine (h : isTextLine piece = true) :
    exists c cs, piece = c :: cs ∧ isLineStart c = true := by
  unfold isTextLine at h
  rw [Bool.and_eq_true] at h
  cases piece with
  | nil =>
      cases h.2
  | cons c cs =>
      exact ⟨c, cs, rfl, h.2⟩

theorem not_tab_of_isPlainLine (h : isPlainLine piece = true) : '\t' ∉ piece := fun hmem =>
  isInert_ne (inert_of_isPlainLine h hmem) (by decide) rfl

theorem isPlainText_joined (hne : pieces ≠ [])
    (h : forall piece, piece ∈ pieces -> isPlainLine piece = true) :
    isPlainText (joined pieces) = true := by
  cases pieces with
  | nil =>
      exact absurd rfl hne
  | cons piece pieces =>
      unfold isPlainText
      rw [joined, Text.splitChars_append_flatMap]
      · exact List.all_eq_true.mpr h
      · intro other hother c hc
        apply beq_false_of_ne
        intro heq
        rw [heq] at hc
        exact not_newline_of_isPlainLine (h other hother) hc

namespace Line.Stands

variable (h : line.Stands source first piece)

include h

theorem endingText_eq : line.endingText source = "\n" := by
  rcases h.ending with ⟨cell, hcell, _, _, hstop⟩
  have hnext : line.next.IsAt (first + (piece ++ ['\n']).length) := by
    rw [Line.next, hcell, List.length_append]
    exact hstop
  rw [Line.endingText, h.holds.between_eq h.stop hnext (by simp) (Nat.le_refl _), List.drop_left]
  simp

theorem textFrom_eq : line.textFrom source 0 = String.ofList piece := by
  have hstop : line.run.place line.run.size = line.run.stop := by
    simp [Run.place, Run.size]
  have hcontent := h.holds.left.content_eq h.start h.stop (Nat.zero_le _) (Nat.le_refl _)
  rw [List.drop_zero, Nat.sub_zero, List.take_length] at hcontent
  rw [Line.textFrom, Run.text, hstop]
  exact hcontent

theorem longestRun_letters (c : Char) (hblank : c ≠ ' ') (htab : c ≠ '\t') :
    Writer.longestRun c line.run.letters = Writer.longestRun c piece := by
  have hstep (state : Nat × Nat) :
      runStep c (runStep c state '\t') ' ' = runStep c state '\t' := by
    rw [runStep, runStep, if_neg (by simpa using Ne.symm hblank),
      if_neg (by simpa using Ne.symm htab)]
  rw [longestRun_eq, longestRun_eq, h.letters hstep]

end Line.Stands

end Stands

/-!
# Between blocks
-/

/-- Whether what was read stands for nodes, and no leaf is open. -/
def Idle (source : Source) (reader : Reader) (nodes : List Node) : Prop :=
  exists blocks, reader.Rests .none blocks ∧ List.Forall₂ (Block.Means source) blocks nodes

/-- Whether what was read stands for nodes, the last of which may be a paragraph that goes on. -/
inductive ReadAs (source : Source) (reader : Reader) : List Node -> Prop where
  | idle {nodes : List Node} (h : Idle source reader nodes) : ReadAs source reader nodes
  | paragraph {blocks : List Block} {nodes : List Node} {first : Nat}
      {pieces : List (List Char)} {lines : List Line}
      (hrests : reader.Rests (.paragraph lines) blocks)
      (hblocks : List.Forall₂ (Block.Means source) blocks nodes)
      (hlines : LinesStand source first pieces lines.reverse) (hne : pieces ≠ [])
      (htext : forall piece, piece ∈ pieces -> isTextLine piece = true) :
      ReadAs source reader (nodes ++ [texted .paragraph (joined pieces)])

section Between

open Reader

variable {source : Source} {reader : Reader} {nodes : List Node} {blocks : List Block}
  {block : Block} {node : Node} {line : Line} {lines : List Line} {first : Nat}
  {piece : List Char} {pieces : List (List Char)}

theorem idle_concat (hblocks : List.Forall₂ (Block.Means source) blocks nodes)
    (hrests : reader.Rests .none (blocks ++ [block])) (hblock : block.Means source node) :
    Idle source reader (nodes ++ [node]) :=
  ⟨_, hrests, List.rel_append hblocks (.cons hblock .nil)⟩

/-- The lines of a paragraph are one block of text. -/
theorem means_of_lines (hlines : LinesStand source first pieces lines) (hne : pieces ≠ [])
    (htext : forall piece, piece ∈ pieces -> isTextLine piece = true) :
    (exists c cs, (Run.ofLines lines).letters = c :: cs ∧ opensNothing c = true) ∧
      forall start stop, Block.Means source ⟨.paragraph (Run.ofLines lines), start, stop, []⟩
        (texted .paragraph (joined pieces)) := by
  have hplain (piece : List Char) (hpiece : piece ∈ pieces) : isPlainLine piece = true :=
    isPlainLine_of_isTextLine (htext piece hpiece)
  cases hlines with
  | nil =>
      exact absurd rfl hne
  | @cons _ piece line pieces lines hline hlines =>
      have hspells := (LinesStand.cons hline hlines).spells fun other hother =>
        not_tab_of_isPlainLine (hplain other hother)
      constructor
      · rcases exists_cons_of_isTextLine (htext piece List.mem_cons_self) with ⟨c, cs, rfl, hc⟩
        exact ⟨c, _, hspells.letters, opensNothing_of_isLineStart hc⟩
      · exact means_paragraph hspells (isPlainText_joined hne hplain)

theorem ReadAs.blank (h : ReadAs source reader nodes) (hline : line.Stands source first []) :
    Idle source (reader.read source line) nodes := by
  have hletters : line.run.letters = [] := (hline.spells List.not_mem_nil).letters
  cases h with
  | idle h =>
      rcases h with ⟨blocks, hrests, hblocks⟩
      exact ⟨blocks, hrests.blank hletters, hblocks⟩
  | paragraph hrests hblocks hlines hne htext =>
      rcases means_of_lines hlines hne htext with ⟨⟨c, cs, hcs, hc⟩, hmeans⟩
      exact idle_concat hblocks (hrests.blank_paragraph hcs hc hletters) (hmeans _ _)

theorem not_isItem_of_means (h : List.Forall₂ (Block.Means source) blocks nodes) :
    forall block, block ∈ blocks -> block.shape.isItem = false := by
  induction h with
  | nil =>
      intro block hblock
      cases hblock
  | cons hblock hblocks ih =>
      intro other hother
      rcases List.mem_cons.mp hother with rfl | hrest
      · exact hblock.1
      · exact ih other hrest

theorem ReadAs.finish (h : ReadAs source reader nodes) :
    List.Forall₂ (Block.Means source) (reader.finish source) nodes := by
  have hclosed : exists blocks, (reader.closeLeaf source true).1.Rests .none blocks ∧
      List.Forall₂ (Block.Means source) blocks nodes := by
    cases h with
    | idle h =>
        rcases h with ⟨blocks, hrests, hblocks⟩
        exact ⟨blocks, hrests.closed source true, hblocks⟩
    | paragraph hrests hblocks hlines hne htext =>
        rcases means_of_lines hlines hne htext with ⟨⟨c, cs, hcs, hc⟩, hmeans⟩
        exact idle_concat hblocks (hrests.closed_paragraph hcs hc source true) (hmeans _ _)
  rcases hclosed with ⟨blocks, hrests, hblocks⟩
  rw [Reader.Rests.finish_of_closed hrests (not_isItem_of_means hblocks)]
  exact hblocks

/-!
# One block
-/

theorem Line.Stands.letters_of_isPlainLine (h : line.Stands source first piece)
    (hplain : isPlainLine piece = true) : line.run.letters = piece :=
  (h.spells (not_tab_of_isPlainLine hplain)).letters

theorem Idle.headingLine (h : Idle source reader nodes) {cs : List Char} {depth i j : Nat}
    (hletters : line.run.letters = '#' :: cs)
    (hheading : headingLine? line.run 0 = some (.heading depth i j))
    (hmeans : forall start stop,
      Block.Means source ⟨.heading depth (line.run.part i j), start, stop, []⟩ node) :
    Idle source (reader.read source line) (nodes ++ [node]) := by
  rcases h with ⟨blocks, hrests, hblocks⟩
  have hopens : OpensNone source line := opensNone_of_head? (by rw [hletters]; rfl)
  have hkind : lineKind source .none false line.run = .heading depth i j :=
    lineKind_of_heading hletters (by decide) (by decide)
      (fenceLine?_of_head hletters (by decide) (by decide)) (by decide) hheading .none
  exact idle_concat hblocks (hrests.heading hopens hkind) (hmeans _ _)

theorem Idle.emptyHeading (h : Idle source reader nodes) {depth : Nat}
    (hline : line.Stands source first (List.replicate depth '#')) (hpos : 0 < depth)
    (hdepth : depth ≤ 6) :
    Idle source (reader.read source line) (nodes ++ [childless (.heading depth) none]) := by
  have hletters : line.run.letters = List.replicate depth '#' := by
    refine (hline.spells fun hmem => ?_).letters
    cases (List.mem_replicate.mp hmem).2
  have hcons : line.run.letters = '#' :: List.replicate (depth - 1) '#' := by
    rw [hletters, replicate_of_pos hpos]
  apply h.headingLine hcons (headingLine?_of_signs hletters hpos hdepth)
  apply means_emptyHeading
  rw [Run.letters_part, Nat.sub_self, List.take_zero]

theorem Idle.heading (h : Idle source reader nodes) {depth : Nat}
    (hline : line.Stands source first (List.replicate depth '#' ++ ' ' :: piece)) (hpos : 0 < depth)
    (hdepth : depth ≤ 6) (hplain : isPlainLine piece = true) :
    Idle source (reader.read source line) (nodes ++ [texted (.heading depth) piece]) := by
  have hspells := hline.spells (by simp [List.mem_replicate, not_tab_of_isPlainLine hplain])
  have hletters := hspells.letters
  have hcons : line.run.letters = '#' :: (List.replicate (depth - 1) '#' ++ ' ' :: piece) := by
    rw [hletters, replicate_of_pos hpos, List.cons_append]
  have hlength : line.run.letters.length = depth + 1 + piece.length := by
    rw [hletters, List.length_append, List.length_replicate, List.length_cons]
    omega
  have hpart := hspells.part (i := depth + 1) (j := line.run.letters.length)
    (by omega) (Nat.le_of_eq (congrArg List.length hletters))
  have hrest : ((List.replicate depth '#' ++ ' ' :: piece).drop (depth + 1)).take
      (line.run.letters.length - (depth + 1)) = piece := by
    rw [List.append_cons, List.drop_left' (by simp), hlength, Nat.add_sub_cancel_left,
      List.take_length]
  have htext : isPlainText (joined [piece]) = true :=
    isPlainText_joined (List.cons_ne_nil _ _) (by simpa using hplain)
  rw [joined, List.flatMap_nil, List.append_nil] at htext
  rw [hrest] at hpart
  exact h.headingLine hcons (headingLine?_of_text hletters hpos hdepth hplain)
    (means_heading hpart htext depth)

theorem Idle.thematicBreak (h : Idle source reader nodes)
    (hline : line.Stands source first ['*', '*', '*']) :
    Idle source (reader.read source line) (nodes ++ [childless .thematicBreak none]) := by
  rcases h with ⟨blocks, hrests, hblocks⟩
  have hletters : line.run.letters = ['*', '*', '*'] := (hline.spells (by decide)).letters
  have hitem (interrupting : Bool) : line.run.itemMarker? interrupting 0 = none := by
    unfold Run.itemMarker?
    rw [Run.char?_eq, hletters, isThematicBreak_of_stars hletters]
    simp
  have hopens : OpensNone source line := by
    intro number interrupting
    apply openContainer?_eq_none
    · rw [hletters]
      rfl
    · rw [hletters]
      decide
    · exact hitem interrupting
    · rw [hletters]
      decide
  exact idle_concat hblocks (hrests.thematicBreak hopens (lineKind_break hletters))
    (means_thematicBreak _ _)

/-!
# Paragraphs
-/

theorem Line.Stands.isText (h : line.Stands source first piece) (htext : isTextLine piece = true) :
    OpensNone source line ∧ forall leaf, (leaf = .none ∨ exists lines, leaf = .paragraph lines) ->
      lineKind source leaf false line.run = .text := by
  have hletters := h.letters_of_isPlainLine (isPlainLine_of_isTextLine htext)
  rcases exists_cons_of_isTextLine htext with ⟨c, cs, rfl, hc⟩
  constructor
  · apply opensNone_of_head?
    rw [hletters]
    exact opensNothing_of_isLineStart hc
  · exact fun leaf hleaf => lineKind_text hletters hc hleaf

/-- Lines of text go on with a paragraph. -/
theorem rests_paragraph {done : List Line} (hrests : reader.Rests (.paragraph done) blocks)
    (hlines : LinesStand source first pieces lines)
    (htext : forall piece, piece ∈ pieces -> isTextLine piece = true) :
    (lines.foldl (Reader.read source) reader).Rests (.paragraph (lines.reverse ++ done))
      blocks := by
  induction hlines generalizing reader done with
  | nil =>
      exact hrests
  | cons hline hlines ih =>
      rcases hline.isText (htext _ List.mem_cons_self) with ⟨hopens, hkind⟩
      have hnext := hrests.nextText hopens (hkind _ (Or.inr ⟨done, rfl⟩))
      rw [List.reverse_cons, List.append_assoc]
      exact ih hnext fun other hother => htext other (List.mem_cons_of_mem _ hother)

theorem Idle.paragraph (h : Idle source reader nodes)
    (hlines : LinesStand source first pieces lines) (hne : pieces ≠ [])
    (htext : forall piece, piece ∈ pieces -> isTextLine piece = true) :
    ReadAs source (lines.foldl (Reader.read source) reader)
      (nodes ++ [texted .paragraph (joined pieces)]) := by
  rcases h with ⟨blocks, hrests, hblocks⟩
  have hread :
      (lines.foldl (Reader.read source) reader).Rests (.paragraph lines.reverse) blocks := by
    cases hlines with
    | nil =>
        exact absurd rfl hne
    | cons hline hlines =>
        rcases hline.isText (htext _ List.mem_cons_self) with ⟨hopens, hkind⟩
        rw [List.reverse_cons]
        exact rests_paragraph (hrests.firstText hopens (hkind _ (Or.inl rfl))) hlines
          fun other hother => htext other (List.mem_cons_of_mem _ hother)
  have hstand : LinesStand source first pieces lines.reverse.reverse := by
    rw [List.reverse_reverse]
    exact hlines
  exact .paragraph hread hblocks hstand hne htext

/-!
# Code
-/

/-- Lines that do not end a fence go on with its code. -/
theorem rests_code {start : Place} {size : Nat} {lang info : Option String} {value : String}
    (hrests : reader.Rests (.fence start 0 '\x60' size lang info value) blocks)
    (hlast : reader.last.text = "\n") (hlines : LinesStand source first pieces lines)
    (hshort : forall piece, piece ∈ pieces -> Writer.longestRun '\x60' piece < size) :
    (lines.foldl (Reader.read source) reader).Rests (.fence start 0 '\x60' size lang info
        (String.ofList (value.toList ++ pieces.flatMap ('\n' :: ·)))) blocks ∧
      (lines.foldl (Reader.read source) reader).last.text = "\n" := by
  induction hlines generalizing reader value with
  | nil =>
      rw [List.flatMap_nil, List.append_nil, String.ofList_toList]
      exact ⟨hrests, hlast⟩
  | @cons first piece line pieces lines hline hlines ih =>
      have hends : endsFence line.run '\x60' size = false := by
        apply endsFence_of_short
        rw [hline.longestRun_letters '\x60' (by decide) (by decide)]
        exact hshort piece List.mem_cons_self
      rcases hrests.code hends hline.textFrom_eq with ⟨hread, hending⟩
      rw [hlast] at hread
      have hrest := ih hread (hending.trans hline.endingText_eq) fun other hother =>
        hshort other (List.mem_cons_of_mem _ hother)
      have hvalue : (value ++ "\n" ++ String.ofList piece).toList ++ pieces.flatMap ('\n' :: ·) =
          value.toList ++ (piece :: pieces).flatMap ('\n' :: ·) := by
        simp
      rw [hvalue] at hrest
      exact hrest

theorem dropEndings {cs : List Char} (h : '\r' ∉ cs) :
    dropLastEnding (dropFirstEnding ('\n' :: (cs ++ ['\n']))) = cs := by
  have hfirst : dropFirstEnding ('\n' :: (cs ++ ['\n'])) = cs ++ ['\n'] := rfl
  obtain ⟨back, rfl⟩ : exists back, cs = List.reverse back :=
    ⟨cs.reverse, (List.reverse_reverse cs).symm⟩
  rw [List.mem_reverse] at h
  rw [hfirst, dropLastEnding, List.reverse_concat, List.reverse_reverse]
  cases back with
  | nil =>
      rfl
  | cons c rest =>
      rw [List.mem_cons, not_or] at h
      split
      · rename_i heq
        rw [List.cons.injEq, List.cons.injEq] at heq
        exact absurd heq.2.1.symm h.1
      · rename_i heq
        rw [(List.cons.inj heq).2]
      · rename_i heq
        cases heq
      · rename_i hnone _
        exact absurd rfl (hnone _)

/-- The lines of a code are put together again. -/
theorem dropEndings_codeLines {value : List Char} (h : '\r' ∉ value) :
    dropLastEnding (dropFirstEnding
      ((PlainBlock.codeLines value).flatMap ('\n' :: ·) ++ ['\n'])) = value := by
  unfold PlainBlock.codeLines
  cases value with
  | nil =>
      rfl
  | cons c cs =>
      have hlines :
          (if (c :: cs).isEmpty = true then [] else Text.splitChars (· == '\n') (c :: cs)) =
            Text.splitChars (· == '\n') (c :: cs) := rfl
      rw [hlines, Text.flatMap_splitChars, List.cons_append]
      exact dropEndings h

theorem mem_splitChars_of_codeLines {value : List Char}
    (h : piece ∈ PlainBlock.codeLines value) : piece ∈ Text.splitChars (· == '\n') value := by
  unfold PlainBlock.codeLines at h
  split at h
  · cases h
  · exact h

/-- A line of a code stands in the code, after a line ending or at its start. -/
theorem exists_around_of_codeLines {value : List Char}
    (h : piece ∈ PlainBlock.codeLines value) :
    exists before after, '\n' :: value = before ++ (piece ++ after) := by
  rcases List.append_of_mem (mem_splitChars_of_codeLines h) with ⟨before, after, hsplit⟩
  refine ⟨before.flatMap ('\n' :: ·) ++ ['\n'], after.flatMap ('\n' :: ·), ?_⟩
  rw [← Text.flatMap_splitChars, hsplit]
  simp

theorem longestRun_codeLines {value : List Char} (h : piece ∈ PlainBlock.codeLines value) :
    Writer.longestRun '\x60' piece ≤ Writer.longestRun '\x60' value := by
  rcases exists_around_of_codeLines h with ⟨before, after, hvalue⟩
  have hle := longestRun_le_append '\x60' before piece after
  rw [← hvalue] at hle
  exact hle

/-- What is said of a code stands on the line of its fence. -/
theorem fenceInfo_of_isValid {lang info value : List Char}
    (h : (PlainBlock.code lang info value).isValid = true) :
    FenceInfo lang (if info.isEmpty then [] else [' ']) info ∧ '\r' ∉ value := by
  unfold PlainBlock.isValid at h
  simp only [Bool.and_eq_true, List.all_eq_true, bne_iff_ne, Bool.or_eq_true] at h
  rcases h with ⟨⟨⟨⟨hlang, hinfo⟩, hstart⟩, hfirst⟩, hvalue⟩
  constructor
  · constructor
    · exact hlang
    · exact hinfo
    · exact hstart
    · cases info with
      | nil =>
          exact Or.inr ⟨rfl, rfl⟩
      | cons c cs =>
          exact Or.inl rfl
    · intro hnil
      rw [hnil] at hfirst
      have hempty : info = [] := by
        simpa using hfirst
      rw [hempty]
      exact ⟨rfl, rfl⟩
  · simpa using hvalue

theorem rests_fence (hrests : reader.Rests .none blocks) {size : Nat}
    {lang gap info : List Char} (hinfo : FenceInfo lang gap info) (hsize : 3 ≤ size)
    (hline : line.Stands source first (List.replicate size '\x60' ++ (lang ++ (gap ++ info)))) :
    (reader.read source line).Rests
        (.fence line.start 0 '\x60' size (given lang) (given info) "") blocks ∧
      (reader.read source line).last.text = "\n" := by
  have htab : '\t' ∉ List.replicate size '\x60' ++ (lang ++ (gap ++ info)) := by
    rw [List.mem_append, not_or]
    constructor
    · intro hmem
      cases (List.mem_replicate.mp hmem).2
    · exact hinfo.not_mem (by decide)
  have hspells := hline.spells htab
  have hletters : line.run.letters =
      '\x60' :: (List.replicate (size - 1) '\x60' ++ (lang ++ (gap ++ info))) := by
    rw [hspells.letters, replicate_of_pos (by omega), List.cons_append]
  have hopens : OpensNone source line := opensNone_of_head? (by rw [hletters]; rfl)
  have hkind := lineKind_of_fence hletters (by decide) (by decide)
    (fenceLine?_of_info hspells hsize hinfo) .none
  rw [← hline.endingText_eq]
  exact hrests.fence hopens hkind

theorem rests_endFence {start : Place} {size : Nat} {lang info : Option String} {value : String}
    (hrests : reader.Rests (.fence start 0 '\x60' size lang info value) blocks)
    (hlast : reader.last.text = "\n")
    (hline : line.Stands source first (List.replicate size '\x60')) :
    (reader.read source line).Rests .none (blocks ++ [⟨.code lang info (String.ofList
      (dropLastEnding (dropFirstEnding (value.toList ++ ['\n'])))), start, line.stop, []⟩]) := by
  have hletters : line.run.letters = List.replicate size '\x60' := by
    refine (hline.spells fun hmem => ?_).letters
    cases (List.mem_replicate.mp hmem).2
  have hclosed : (reader.read source line).Rests .none _ :=
    hrests.endFence (endsFence_of_marks hletters (by decide))
  rw [hlast, String.toList_append] at hclosed
  exact hclosed

theorem Idle.code (h : Idle source reader nodes) {lang info value : List Char}
    (hvalid : (PlainBlock.code lang info value).isValid = true)
    (hlines : LinesStand source first (PlainBlock.code lang info value).written lines) :
    Idle source (lines.foldl (Reader.read source) reader)
      (nodes ++ [(PlainBlock.code lang info value).node]) := by
  rcases h with ⟨blocks, hrests, hblocks⟩
  rcases fenceInfo_of_isValid hvalid with ⟨hinfo, hvalue⟩
  have hshort (piece : List Char) (hpiece : piece ∈ PlainBlock.codeLines value) :
      Writer.longestRun '\x60' piece < max (Writer.longestRun '\x60' value) 2 + 1 := by
    have hle := longestRun_codeLines hpiece
    omega
  unfold PlainBlock.written PlainBlock.fence at hlines
  cases hlines with
  | cons hhead hrest =>
      rcases hrest.split with ⟨codes, last, next, rfl, hcodes, hlast⟩
      cases hlast with
      | cons hclosing hothers =>
          cases hothers
          rcases rests_fence hrests hinfo (by omega) hhead with ⟨hopened, hending⟩
          rcases rests_code hopened hending hcodes hshort with ⟨hread, htext⟩
          have hclosed := rests_endFence hread htext hclosing
          rw [String.toList_ofList, String.toList_empty, List.nil_append,
            dropEndings_codeLines hvalue] at hclosed
          rw [List.foldl_cons, List.foldl_append]
          exact idle_concat hblocks hclosed (means_code _ _ _ _ _)

/-!
# All blocks
-/

theorem joined_singleton (piece : List Char) : joined [piece] = piece := List.append_nil piece

/-- What a block is written as is read as the parts of the block. -/
theorem Idle.parts (h : Idle source reader nodes) {plain : PlainBlock}
    (hvalid : plain.isValid = true) (hlines : LinesStand source first plain.written lines) :
    ReadAs source (lines.foldl (Reader.read source) reader)
      (nodes ++ plain.parts.map PlainBlock.node) := by
  cases plain with
  | heading depth texts =>
      rcases texts with _ | ⟨text, texts⟩
      · simp only [PlainBlock.isValid, Bool.and_eq_true, decide_eq_true_eq] at hvalid
        cases hlines with
        | cons hline hothers =>
            cases hothers
            exact .idle (h.emptyHeading hline hvalid.1 hvalid.2)
      · simp only [PlainBlock.isValid, Bool.and_eq_true, decide_eq_true_eq,
          List.all_eq_true] at hvalid
        rcases hvalid with ⟨⟨⟨hpos, hdepth⟩, htext⟩, htexts⟩
        cases hlines with
        | cons hline hothers =>
            have hheading := h.heading hline hpos hdepth htext
            rw [← joined_singleton text] at hheading
            rcases texts with _ | ⟨next, texts⟩
            · cases hothers
              exact .idle hheading
            · have hrest := hheading.paragraph hothers (List.cons_ne_nil _ _) htexts
              rw [List.append_assoc] at hrest
              exact hrest
  | paragraph texts =>
      simp only [PlainBlock.isValid, Bool.and_eq_true, List.all_eq_true, Bool.not_eq_true',
        List.isEmpty_eq_false_iff] at hvalid
      exact h.paragraph hlines hvalid.1 hvalid.2
  | thematicBreak =>
      cases hlines with
      | cons hline hothers =>
          cases hothers
          exact .idle (h.thematicBreak hline)
  | code lang info value =>
      exact .idle (h.code hvalid hlines)

end Between

end Markdown
end Docloom
