import Docloom.Markdown.Blocks
import Mathlib.Data.List.Basic

/-!
# Items of a text

A list is made of the items that stand side by side, so nothing but items is directly in it.  While
lines are read no list is there yet: what is closed is a block of another shape, and lists are made
when the parts of a container are gathered.
-/

namespace Docloom
namespace Markdown

def Shape.isList : Shape -> Bool
  | .list .. => true
  | _ => false

def Shape.isItem : Shape -> Bool
  | .item .. => true
  | _ => false

/-- Whether lists among blocks and below them hold items only. -/
def Itemized : List Block -> Prop
  | [] => True
  | ⟨shape, _, _, children⟩ :: rest =>
      (shape.isList = true -> forall child, child ∈ children -> child.shape.isItem = true) ∧
        Itemized children ∧ Itemized rest

variable {block : Block} {blocks : List Block} {parts : List Part} {run : Option ItemRun}

theorem itemized_nil : Itemized [] := by
  rw [Itemized]
  trivial

theorem itemized_cons_iff :
    Itemized (block :: blocks) ↔
      (block.shape.isList = true ->
        forall child, child ∈ block.children -> child.shape.isItem = true) ∧
        Itemized block.children ∧ Itemized blocks := by
  cases block
  rw [Itemized]

theorem itemized_append {a b : List Block} (ha : Itemized a) (hb : Itemized b) :
    Itemized (a ++ b) := by
  induction a with
  | nil =>
      exact hb
  | cons block a ih =>
      rw [itemized_cons_iff] at ha
      rw [List.cons_append, itemized_cons_iff]
      exact ⟨ha.1, ha.2.1, ih ha.2.2⟩

/-!
# Gathered items
-/

/-- Whether a block is no list itself, and lists below it hold items only. -/
structure Plain (block : Block) : Prop where
  isList_eq : block.shape.isList = false
  itemized : Itemized block.children

theorem itemized_of_plain (h : forall block, block ∈ blocks -> Plain block) : Itemized blocks := by
  induction blocks with
  | nil =>
      exact itemized_nil
  | cons block blocks ih =>
      rcases h block List.mem_cons_self with ⟨hlist, hbelow⟩
      rw [itemized_cons_iff]
      refine ⟨?_, hbelow, ih fun other hother => h other (List.mem_cons_of_mem _ hother)⟩
      intro htrue
      rw [hlist] at htrue
      cases htrue

/-- Whether the items of an open list are items. -/
def ItemRun.Sound (run : ItemRun) : Prop :=
  forall item, item ∈ run.items -> item.shape.isItem = true ∧ Itemized item.children

theorem plain_of_isItem (hitem : block.shape.isItem = true) (h : Itemized block.children) :
    Plain block := by
  refine ⟨?_, h⟩
  cases hshape : block.shape <;> rw [hshape] at hitem <;> first | rfl | cases hitem

theorem itemized_after {content : Content} (hrun : forall open_, run = some open_ -> open_.Sound)
    (h : Itemized content.blocks) : Itemized (Content.after run content).blocks := by
  cases run with
  | none =>
      exact h
  | some open_ =>
      have hsound := hrun open_ rfl
      refine itemized_append ?_ h
      unfold ItemRun.block?
      split
      · rw [Option.toList_some, itemized_cons_iff]
        refine ⟨?_, ?_, itemized_nil⟩
        · intro _ child hchild
          exact (hsound child (List.mem_reverse.mp hchild)).1
        · apply itemized_of_plain
          intro child hchild
          rcases hsound child (List.mem_reverse.mp hchild) with ⟨hitem, hbelow⟩
          exact plain_of_isItem hitem hbelow
      · exact itemized_nil

/-- Whether the blocks among parts are no lists themselves. -/
def PlainParts (parts : List Part) : Prop :=
  forall block, Part.block block ∈ parts -> Plain block

theorem PlainParts.of_cons {part : Part} (h : PlainParts (part :: parts)) : PlainParts parts :=
  fun block hblock => h block (List.mem_cons_of_mem _ hblock)

theorem ItemRun.sound_start {marker : Char} {number : Option Nat}
    (hitem : block.shape.isItem = true) (h : Itemized block.children) :
    (ItemRun.start marker number block).Sound := by
  intro item hmem
  rw [List.mem_singleton.mp hmem]
  exact ⟨hitem, h⟩

theorem ItemRun.Sound.add {open_ : ItemRun} (hopen : open_.Sound)
    (hitem : block.shape.isItem = true) (h : Itemized block.children) :
    (open_.add block).Sound := by
  intro item hmem
  rcases List.mem_cons.mp hmem with rfl | hrest
  · exact ⟨hitem, h⟩
  · exact hopen item hrest

/-- Gathering makes lists of items, and no others. -/
theorem itemized_gatherItems (hrun : forall open_, run = some open_ -> open_.Sound)
    (hparts : PlainParts parts) : Itemized (gatherItems run parts).blocks := by
  induction parts generalizing run with
  | nil =>
      rw [gatherItems]
      exact itemized_after hrun itemized_nil
  | cons part parts ih =>
      have hnone : Itemized (gatherItems none parts).blocks :=
        ih (fun _ hopen => absurd hopen (Option.some_ne_none _).symm) hparts.of_cons
      cases part with
      | blank spreads =>
          cases run with
          | none =>
              rw [gatherItems]
              exact hnone
          | some open_ =>
              rw [gatherItems]
              apply ih _ hparts.of_cons
              rintro _ ⟨⟩
              exact hrun open_ rfl
      | block block =>
          have hplain := hparts block List.mem_cons_self
          rw [gatherItems]
          split
          · rename_i marker number spread hshape
            have hitem : block.shape.isItem = true := by
              rw [hshape]
              rfl
            have hstart : Itemized
                (gatherItems (some (.start marker number block)) parts).blocks := by
              apply ih _ hparts.of_cons
              rintro _ ⟨⟩
              exact ItemRun.sound_start hitem hplain.itemized
            split
            · rename_i open_
              split
              · apply ih _ hparts.of_cons
                rintro _ ⟨⟩
                exact (hrun open_ rfl).add hitem hplain.itemized
              · exact itemized_after hrun hstart
            · exact hstart
          · apply itemized_after hrun
            rw [itemized_cons_iff]
            refine ⟨?_, hplain.itemized, hnone⟩
            intro hlist
            rw [hplain.isList_eq] at hlist
            cases hlist

theorem plain_close {frame : Frame} (h : PlainParts frame.parts) (stop : Place) :
    Plain (frame.close stop) := by
  have hparts : PlainParts frame.parts.reverse :=
    fun block hblock => h block (List.mem_reverse.mp hblock)
  refine ⟨?_, itemized_gatherItems (fun _ hopen => absurd hopen (Option.some_ne_none _).symm) hparts⟩
  unfold Frame.close
  dsimp only
  cases frame.container <;> rfl

/-!
# Reading lines
-/

namespace Reader

variable {reader : Reader} {source : Source} {line : Line} {shape : Shape} {first last : Place}

/-- Whether the blocks that were closed are no lists themselves. -/
structure Sound (reader : Reader) : Prop where
  parts : PlainParts reader.parts
  frames : forall frame, frame ∈ reader.frames -> PlainParts frame.parts

theorem sound_empty : Sound empty := by
  constructor
  · intro block hblock
    cases hblock
  · intro frame hframe
    cases hframe

theorem plainParts_cons {part : Part} (hpart : forall block, part = .block block -> Plain block)
    (h : PlainParts parts) : PlainParts (part :: parts) := by
  intro block hblock
  rcases List.mem_cons.mp hblock with heq | hrest
  · exact hpart block heq.symm
  · exact h block hrest

namespace Sound

theorem push (h : Sound reader) {part : Part}
    (hpart : forall block, part = .block block -> Plain block) : Sound (reader.push part) := by
  unfold Reader.push
  split
  · rename_i frame frames hframes
    refine ⟨h.parts, ?_⟩
    intro other hother
    rcases List.mem_cons.mp hother with rfl | hrest
    · apply plainParts_cons hpart
      apply h.frames frame
      rw [hframes]
      exact List.mem_cons_self
    · apply h.frames other
      rw [hframes]
      exact List.mem_cons_of_mem _ hrest
  · exact ⟨plainParts_cons hpart h.parts, h.frames⟩

theorem pushBlank (h : Sound reader) (spreads : Bool) : Sound (reader.push (.blank spreads)) := by
  apply h.push
  rintro block ⟨⟩

theorem pushBlock (h : Sound reader) (hshape : shape.isList = false) :
    Sound (reader.pushBlock shape first last) := by
  apply h.push
  rintro block ⟨⟩
  exact ⟨hshape, itemized_nil⟩

theorem leaf (h : Sound reader) (leaf : Leaf) : Sound { reader with leaf } := ⟨h.parts, h.frames⟩

theorem foldl (h : Sound reader) {α : Type} {step : Reader -> α -> Reader}
    (hstep : forall reader item, Sound reader -> Sound (step reader item)) (items : List α) :
    Sound (items.foldl step reader) := by
  induction items generalizing reader with
  | nil =>
      exact h
  | cons item items ih =>
      exact ih (hstep reader item h)

theorem closeText (h : Sound reader) (source : Source) (lines : List Line) :
    Sound (reader.closeText source lines).1 := by
  have hfold : Sound (((Run.ofLines lines).definitions ((Run.ofLines lines).size + 1) 0).1.foldl
      (fun reader definition =>
        reader.pushBlock (definitionShape source (Run.ofLines lines) definition.2)
          ((Run.ofLines lines).place definition.1) ((Run.ofLines lines).place definition.2.stop))
      reader) :=
    h.foldl (fun reader definition hreader => hreader.pushBlock rfl) _
  unfold Reader.closeText
  dsimp only
  split
  · exact hfold
  · exact hfold

theorem closeLeaf (h : Sound reader) (source : Source) (swallows : Bool) :
    Sound (reader.closeLeaf source swallows).1 := by
  unfold Reader.closeLeaf
  dsimp only
  split
  · exact h.leaf .none
  · rename_i lines _
    have htext := (h.leaf .none).closeText source lines.reverse
    split
    · rename_i closed run start hclosed
      rw [hclosed] at htext
      exact htext.pushBlock rfl
    · rename_i closed hclosed
      rw [hclosed] at htext
      exact htext
  · refine Sound.foldl ?_ ?_ _
    · exact (h.leaf .none).pushBlock rfl
    · exact fun reader _ hreader => hreader.pushBlank true
  · exact (h.leaf .none).pushBlock rfl
  · exact (h.leaf .none).pushBlock rfl
  · exact (h.leaf .none).pushBlock rfl

theorem closeFrames (h : Sound reader) (stop : Place) (count : Nat) :
    Sound (Reader.closeFrames stop count reader) := by
  induction count generalizing reader with
  | zero =>
      exact h
  | succ count ih =>
      rw [Reader.closeFrames]
      split
      · exact h
      · rename_i frame frames hframes
        apply ih
        apply Sound.push
        · refine ⟨h.parts, ?_⟩
          intro other hother
          apply h.frames other
          rw [hframes]
          exact List.mem_cons_of_mem _ hother
        · rintro block ⟨⟩
          apply plain_close
          apply h.frames frame
          rw [hframes]
          exact List.mem_cons_self

theorem placeBlank (h : Sound reader) (closed : List Frame) :
    Sound (reader.placeBlank closed) := by
  unfold Reader.placeBlank
  split
  · apply Sound.pushBlank
    exact ⟨h.parts, h.frames⟩
  · exact h

theorem endContainers (h : Sound reader) (source : Source) (swallows : Bool) (kept : Nat) :
    Sound (reader.endContainers source swallows kept) :=
  ((h.closeLeaf source swallows).closeFrames _ _).placeBlank _

theorem start (h : Sound reader) (source : Source) (line : Line) :
    Sound (reader.start source line) := by
  have hclosed := (h.closeLeaf source false).placeBlank []
  unfold Reader.start
  dsimp only
  split
  · exact hclosed
  · exact hclosed.leaf _
  · exact hclosed.leaf _
  · split
    · exact hclosed.pushBlock rfl
    · exact hclosed.leaf _
  · exact hclosed.pushBlock rfl
  · exact hclosed.pushBlock rfl
  · split
    · rename_i lines _
      have htext := (h.leaf .none).closeText source lines.reverse
      split
      · rename_i closed text first hclosed
        rw [hclosed] at htext
        exact htext.pushBlock rfl
      · rename_i closed hclosed
        rw [hclosed] at htext
        exact htext.leaf _
    · exact h
  · split
    · exact ((h.leaf _).closeLeaf source false).leaf _
    · exact h
  · split
    · exact h.leaf _
    · exact h
  · split
    · exact h.leaf _
    · exact hclosed.leaf _

theorem goOn (h : Sound reader) (source : Source) (line : Line) :
    Sound (reader.goOn source line) := by
  unfold Reader.goOn
  dsimp only
  split
  · split
    · exact (h.leaf .none).pushBlock rfl
    · exact h.leaf _
  · split
    · exact h.start source line
    · split
      · exact (h.leaf .none).pushBlock rfl
      · exact h.leaf _
  · split
    · exact h.leaf _
    · split
      · exact h.leaf _
      · exact h.start source line
  · exact h.start source line

theorem readRest (h : Sound reader) (source : Source) (line : Line) :
    Sound (reader.readRest source line) :=
  ⟨(h.goOn source line).parts, (h.goOn source line).frames⟩

end Sound

/-- Going on inside containers leaves what was closed in them. -/
theorem plainParts_continued {frames kept : List Frame} {i : Nat}
    (hframes : forall frame, frame ∈ frames -> PlainParts frame.parts)
    (hkept : forall frame, frame ∈ kept -> PlainParts frame.parts) :
    forall frame, frame ∈ (continued line frames kept i).1 -> PlainParts frame.parts := by
  induction frames generalizing kept i with
  | nil =>
      exact hkept
  | cons frame frames ih =>
      rw [continued]
      split
      · rename_i container j _
        apply ih fun other hother => hframes other (List.mem_cons_of_mem _ hother)
        intro other hother
        rcases List.mem_cons.mp hother with rfl | hrest
        · exact hframes frame List.mem_cons_self
        · exact hkept other hrest
      · exact hkept

theorem parts_of_openContainer {number i : Nat} {interrupting : Bool} {opened : Frame × Nat}
    (h : openContainer? source line number interrupting i = some opened) : opened.1.parts = [] := by
  unfold openContainer? at h
  dsimp only at h
  split at h
  · cases h
    rfl
  · split at h
    · split at h
      · split at h
        · cases h
        · cases h
          rfl
      · split at h
        · split at h
          · cases h
          · cases h
            rfl
        · split at h
          · cases h
          · cases h
            rfl
    · split at h
      · cases h
        rfl
      · cases h

theorem plainParts_openFrames {number fuel i : Nat} {frames : List Frame}
    (h : forall frame, frame ∈ frames -> PlainParts frame.parts) :
    forall frame, frame ∈ (openFrames source line number fuel frames i).1 ->
      PlainParts frame.parts := by
  induction fuel generalizing frames i with
  | zero =>
      exact h
  | succ fuel ih =>
      rw [openFrames]
      split
      · rename_i opened j hopened
        apply ih
        intro other hother
        rcases List.mem_cons.mp hother with rfl | hrest
        · rw [parts_of_openContainer hopened]
          intro block hblock
          cases hblock
        · exact h other hrest
      · exact h

theorem Sound.read (h : Sound reader) (source : Source) (line : Line) :
    Sound (reader.read source line) := by
  have hkept : forall frame, frame ∈ (continued line reader.frames.reverse [] 0).1 ->
      PlainParts frame.parts :=
    plainParts_continued (fun frame hframe => h.frames frame (List.mem_reverse.mp hframe))
      (fun frame hframe => absurd hframe List.not_mem_nil)
  have hinside : Sound { reader with
      frames := reader.frames.take (continued line reader.frames.reverse [] 0).2.1 ++
        (continued line reader.frames.reverse [] 0).1 } := by
    refine ⟨h.parts, ?_⟩
    intro frame hframe
    rcases List.mem_append.mp hframe with hmissing | hmem
    · exact h.frames frame (List.mem_of_mem_take hmissing)
    · exact hkept frame hmem
  unfold Reader.read
  dsimp only
  split
  · rename_i opened j hopened
    have hended := hinside.endContainers source
      (!((continued line reader.frames.reverse [] 0).2.1 == 0))
      (continued line reader.frames.reverse [] 0).1.length
    apply Sound.readRest
    refine ⟨hended.parts, plainParts_openFrames ?_⟩
    intro frame hframe
    rcases List.mem_cons.mp hframe with rfl | hrest
    · split at hopened
      · cases hopened
      · rw [parts_of_openContainer hopened]
        intro block hblock
        cases hblock
    · exact hended.frames frame hrest
  · split
    · exact hinside.readRest source _
    · split
      · exact ⟨hinside.parts, hinside.frames⟩
      · exact (hinside.endContainers source false _).readRest source _

/-- Lists of a text hold items only. -/
theorem itemized_blocks (source : Source) : Itemized source.blocks := by
  have hread : Sound (source.lines.foldl (Reader.read source) Reader.empty) :=
    sound_empty.foldl (fun reader line hreader => hreader.read source line) source.lines
  have hparts := (hread.endContainers source true 0).parts
  unfold Source.blocks finish
  apply itemized_gatherItems (fun _ hopen => absurd hopen (Option.some_ne_none _).symm)
  exact fun block hblock => hparts block (List.mem_reverse.mp hblock)

end Reader

end Markdown
end Docloom
