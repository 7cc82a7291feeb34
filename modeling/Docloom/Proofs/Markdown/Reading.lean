import Docloom.Proofs.Markdown.Items
import Docloom.Proofs.Markdown.LineKind

/-!
# Reading plain lines

What reading a plain line does when no container is open: it ends the open leaf, goes on with it,
or starts another one.  A blank line that was read is kept for later, and leaves no block.
-/

namespace Docloom
namespace Markdown

/-!
# States of a reader
-/

def Part.block? : Part -> Option Block
  | .block closed => some closed
  | .blank _ => none

/-- Whether no container is open, and what leaf is open after what blocks. -/
structure Reader.Rests (reader : Reader) (leaf : Leaf) (blocks : List Block) : Prop where
  frames : reader.frames = []
  leaf : reader.leaf = leaf
  parts : reader.parts.reverse.filterMap Part.block? = blocks

theorem blocks_gatherItems {parts : List Part}
    (h : forall block, block ∈ parts.filterMap Part.block? -> block.shape.isItem = false) :
    (gatherItems none parts).blocks = parts.filterMap Part.block? := by
  induction parts with
  | nil =>
      rfl
  | cons part parts ih =>
      cases part with
      | blank spreads =>
          rw [List.filterMap_cons_none rfl] at h ⊢
          rw [gatherItems]
          exact ih h
      | block block =>
          have hcons : (Part.block block :: parts).filterMap Part.block? =
              block :: parts.filterMap Part.block? := List.filterMap_cons_some rfl
          rw [hcons] at h ⊢
          have hrest := ih fun other hother => h other (List.mem_cons_of_mem _ hother)
          have hplain := h block List.mem_cons_self
          rw [← hrest, gatherItems]
          cases hshape : block.shape with
          | item marker number spread =>
              rw [hshape] at hplain
              cases hplain
          | _ =>
              rfl

namespace Reader

variable {source : Source} {reader : Reader} {leaf : Leaf} {blocks : List Block} {line : Line}
  {shape : Shape} {start stop : Place}

namespace Rests

theorem push (h : reader.Rests leaf blocks) (part : Part) :
    (reader.push part).Rests leaf (blocks ++ part.block?.toList) := by
  have hpush : reader.push part = { reader with parts := part :: reader.parts } := by
    unfold Reader.push
    rw [h.frames]
  rw [hpush]
  refine ⟨h.frames, h.leaf, ?_⟩
  rw [List.reverse_cons, List.filterMap_append, h.parts]
  cases part with
  | block block =>
      rfl
  | blank spreads =>
      rfl

theorem pushBlock (h : reader.Rests leaf blocks) (shape : Shape) (start stop : Place) :
    (reader.pushBlock shape start stop).Rests leaf (blocks ++ [⟨shape, start, stop, []⟩]) :=
  h.push _

theorem withLeaf (h : reader.Rests leaf blocks) (next : Leaf) :
    { reader with leaf := next }.Rests next blocks := ⟨h.frames, rfl, h.parts⟩

theorem placeBlank (h : reader.Rests leaf blocks) (closed : List Frame) :
    (reader.placeBlank closed).Rests leaf blocks := by
  unfold Reader.placeBlank
  split
  · have hkept : { reader with last := { reader.last with blank := false } }.Rests leaf blocks :=
      ⟨h.frames, h.leaf, h.parts⟩
    have hpushed := hkept.push (.blank (reader.blankSpreads closed))
    dsimp only [Part.block?] at hpushed
    rw [Option.toList_none, List.append_nil] at hpushed
    exact hpushed
  · exact h

theorem endLine (h : reader.Rests leaf blocks) (source : Source) (line : Line)
    (blank underlined : Bool) : (reader.endLine source line blank underlined).Rests leaf blocks :=
  ⟨h.frames, h.leaf, h.parts⟩

/-- Without an open leaf there is nothing to close. -/
theorem closed (h : reader.Rests .none blocks) (source : Source) (swallows : Bool) :
    (reader.closeLeaf source swallows).1.Rests .none blocks := by
  unfold Reader.closeLeaf
  dsimp only
  rw [h.leaf]
  exact h.withLeaf .none

end Rests

/-!
# One line
-/

theorem read_of_unopened (hframes : reader.frames = [])
    (h : reader.leaf.isSealed = true ∨
      openContainer? source line (reader.line + 1) reader.leaf.isParagraph 0 = none) :
    reader.read source line = reader.readRest source line := by
  have hcut : line.cut 0 = line := by
    rw [Line.cut, Run.part_all]
  rcases reader with ⟨count, frames, parts, leaf, last, continues⟩
  obtain rfl : frames = [] := hframes
  have hopened : (if leaf.isSealed = true then none
      else openContainer? source line (count + 1) leaf.isParagraph 0) = none := by
    rcases h with hsealed | hnone
    · exact if_pos hsealed
    · rw [hnone]
      split
      · rfl
      · rfl
  have hcontinued : continued line [].reverse [] 0 = ([], 0, 0) := rfl
  unfold Reader.read
  dsimp only
  rw [hcontinued]
  dsimp only
  rw [List.take_nil, beq_self_eq_true, Bool.true_and, Bool.true_and, hopened, if_pos rfl, hcut]
  rfl

/-- Whether a line opens no container. -/
def OpensNone (source : Source) (line : Line) : Prop :=
  forall number interrupting, openContainer? source line number interrupting 0 = none

theorem rests_readRest (h : (reader.goOn source line).Rests leaf blocks) :
    (reader.readRest source line).Rests leaf blocks := h.endLine source line _ _

theorem goOn_of_leaf (hleaf : reader.leaf = .none ∨ exists lines, reader.leaf = .paragraph lines) :
    reader.goOn source line = reader.start source line := by
  unfold goOn
  rcases hleaf with hnone | ⟨lines, hlines⟩
  · rw [hnone]
  · rw [hlines]

/-- A line that opens no container is read by what it starts. -/
theorem rests_read (hframes : reader.frames = []) (hopens : OpensNone source line)
    (hleaf : reader.leaf = .none ∨ exists lines, reader.leaf = .paragraph lines)
    (h : (reader.start source line).Rests leaf blocks) :
    (reader.read source line).Rests leaf blocks := by
  rw [read_of_unopened hframes (Or.inr (hopens _ _))]
  apply rests_readRest
  rw [goOn_of_leaf hleaf]
  exact h

theorem definition?_of_head {run : Run} {c : Char} {cs : List Char} (h : run.letters = c :: cs)
    (hc : opensNothing c = true) : run.definition? 0 = none := by
  have hskip : run.skipUpTo Text.isSpace 3 0 = 0 := by
    apply Run.skipUpTo_of_head?
    rw [h]
    simp [not_isSpace_of_opensNothing hc]
  have hbracket : run.isAt 0 '[' = false := by
    rw [Run.isAt, Run.char?_eq, h]
    simpa using opensNothing_ne '[' hc (by decide)
  have hlabel : run.label? 0 = none := by
    rw [Run.label?, hbracket]
    rfl
  rw [Run.definition?, hskip, hlabel]

theorem opensNone_of_head? (h : line.run.letters.head?.all opensNothing = true) :
    OpensNone source line := fun number interrupting =>
  openContainer?_of_head? h number interrupting

namespace Rests

section None

variable (h : reader.Rests .none blocks)

include h

theorem blank (hline : line.run.letters = []) : (reader.read source line).Rests .none blocks := by
  have hopens : OpensNone source line := opensNone_of_head? (by rw [hline]; rfl)
  apply rests_read h.frames hopens (Or.inl h.leaf)
  unfold start
  dsimp only
  rw [lineKind_blank hline]
  exact (h.closed source false).placeBlank []

theorem heading (hopens : OpensNone source line) {depth first last : Nat}
    (hkind : lineKind source .none false line.run = .heading depth first last) :
    (reader.read source line).Rests .none
      (blocks ++ [⟨.heading depth (line.run.part first last), line.start, line.stop, []⟩]) := by
  apply rests_read h.frames hopens (Or.inl h.leaf)
  unfold start
  dsimp only
  rw [h.leaf, hkind]
  exact ((h.closed source false).placeBlank []).pushBlock _ _ _

theorem thematicBreak (hopens : OpensNone source line)
    (hkind : lineKind source .none false line.run = .thematicBreak) :
    (reader.read source line).Rests .none
      (blocks ++ [⟨.thematicBreak, line.start, line.stop, []⟩]) := by
  apply rests_read h.frames hopens (Or.inl h.leaf)
  unfold start
  dsimp only
  rw [h.leaf, hkind]
  exact ((h.closed source false).placeBlank []).pushBlock _ _ _

theorem firstText (hopens : OpensNone source line)
    (hkind : lineKind source .none false line.run = .text) :
    (reader.read source line).Rests (.paragraph [line]) blocks := by
  apply rests_read h.frames hopens (Or.inl h.leaf)
  unfold start
  dsimp only
  rw [h.leaf, hkind]
  exact ((h.closed source false).placeBlank []).withLeaf _

theorem fence (hopens : OpensNone source line) {indent size : Nat} {marker : Char}
    {lang info : Option String}
    (hkind : lineKind source .none false line.run = .fence indent marker size lang info) :
    (reader.read source line).Rests (.fence line.start indent marker size lang info "") blocks ∧
      (reader.read source line).last.text = line.endingText source := by
  constructor
  · apply rests_read h.frames hopens (Or.inl h.leaf)
    unfold start
    dsimp only
    rw [h.leaf, hkind]
    exact ((h.closed source false).placeBlank []).withLeaf _
  · rw [read_of_unopened h.frames (Or.inr (hopens _ _))]
    rfl

end None

/-!
# Paragraphs
-/

section Paragraph

variable {lines : List Line} (h : reader.Rests (.paragraph lines) blocks)

include h

theorem nextText (hopens : OpensNone source line)
    (hkind : lineKind source (.paragraph lines) false line.run = .text) :
    (reader.read source line).Rests (.paragraph (line :: lines)) blocks := by
  apply rests_read h.frames hopens (Or.inr ⟨lines, h.leaf⟩)
  unfold start
  dsimp only
  rw [h.leaf, hkind]
  exact h.withLeaf _

variable {c : Char} {cs : List Char} (hletters : (Run.ofLines lines.reverse).letters = c :: cs)
  (hc : opensNothing c = true)

include hletters hc

theorem closed_paragraph (source : Source) (swallows : Bool) :
    (reader.closeLeaf source swallows).1.Rests .none
      (blocks ++ [⟨.paragraph (Run.ofLines lines.reverse),
        (Run.ofLines lines.reverse).place 0, (Run.ofLines lines.reverse).stop, []⟩]) := by
  have hdefinitions : (Run.ofLines lines.reverse).definitions
      ((Run.ofLines lines.reverse).size + 1) 0 = ([], 0) := by
    rw [Run.definitions, definition?_of_head hletters hc]
  have hsize : 0 < (Run.ofLines lines.reverse).size := by
    rw [Run.size_eq, hletters]
    exact Nat.succ_pos _
  unfold closeLeaf
  dsimp only
  rw [h.leaf]
  dsimp only
  unfold closeText
  dsimp only
  rw [hdefinitions, if_pos hsize, Run.part_all]
  exact (h.withLeaf .none).pushBlock _ _ _

theorem blank_paragraph (hline : line.run.letters = []) :
    (reader.read source line).Rests .none
      (blocks ++ [⟨.paragraph (Run.ofLines lines.reverse),
        (Run.ofLines lines.reverse).place 0, (Run.ofLines lines.reverse).stop, []⟩]) := by
  have hopens : OpensNone source line := opensNone_of_head? (by rw [hline]; rfl)
  apply rests_read h.frames hopens (Or.inr ⟨lines, h.leaf⟩)
  unfold start
  dsimp only
  rw [lineKind_blank hline]
  exact (h.closed_paragraph hletters hc source false).placeBlank []

end Paragraph

/-!
# Code
-/

section Fence

variable {start : Place} {indent size : Nat} {marker : Char} {lang info : Option String}
  {value content : String}
  (h : reader.Rests (.fence start indent marker size lang info value) blocks)

include h

theorem isSealed : reader.leaf.isSealed = true := by
  rw [h.leaf]
  rfl

theorem code (hends : endsFence line.run marker size = false)
    (hcontent : line.textFrom source (line.run.skipUpTo Text.isSpace indent 0) = content) :
    (reader.read source line).Rests
        (.fence start indent marker size lang info (value ++ reader.last.text ++ content)) blocks ∧
      (reader.read source line).last.text = line.endingText source := by
  rw [read_of_unopened h.frames (Or.inl h.isSealed)]
  constructor
  · apply rests_readRest
    unfold goOn
    dsimp only
    rw [h.leaf]
    dsimp only
    rw [hends, hcontent]
    exact h.withLeaf _
  · rfl

theorem endFence (hends : endsFence line.run marker size = true) :
    (reader.read source line).Rests .none
      (blocks ++ [⟨.code lang info (String.ofList
        (dropLastEnding (dropFirstEnding (value ++ reader.last.text).toList))),
        start, line.stop, []⟩]) := by
  rw [read_of_unopened h.frames (Or.inl h.isSealed)]
  apply rests_readRest
  unfold goOn
  dsimp only
  rw [h.leaf]
  dsimp only
  rw [hends]
  exact (h.withLeaf .none).pushBlock _ _ _

end Fence

/-!
# The end of a text
-/

theorem finish_of_closed (h : (reader.closeLeaf source true).1.Rests .none blocks)
    (hplain : forall block, block ∈ blocks -> block.shape.isItem = false) :
    reader.finish source = blocks := by
  have hblocks (last : Reader) (hlast : last.Rests .none blocks) :
      (gatherItems none last.parts.reverse).blocks = blocks := by
    rw [blocks_gatherItems]
    · exact hlast.parts
    · rw [hlast.parts]
      exact hplain
  unfold finish endContainers
  dsimp only
  rw [h.frames]
  apply hblocks
  exact h.placeBlank _

end Rests

end Reader

end Markdown
end Docloom
