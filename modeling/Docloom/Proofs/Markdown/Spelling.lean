import Docloom.Markdown.Line
import Docloom.Proofs.Text.Split
import Mathlib.Data.List.TakeWhile

/-!
# The characters of runs

What a reader finds in a run depends on the characters of its cells alone.  Where a run spells a
part of a text, each of its cells is one character of the text, so what is cut out between two of
its places is what the characters between them are.
-/

namespace Docloom
namespace Markdown

/-!
# Passing over characters
-/

/-- The characters of a run. -/
def Run.letters (run : Run) : List Char := run.cells.toList.map Cell.char

namespace Run

variable {run : Run} {p : Char -> Bool} {c : Char}

theorem char?_eq (run : Run) (i : Nat) : run.char? i = run.letters[i]? := by
  simp [char?, letters]

theorem size_eq (run : Run) : run.size = run.letters.length := by
  simp [size, letters]

theorem isAt_iff {i : Nat} : run.isAt i c = true ↔ run.letters[i]? = some c := by
  rw [isAt, char?_eq, beq_iff_eq]

theorem atLineEnd_eq (run : Run) (i : Nat) :
    run.atLineEnd i = run.letters[i]?.all (· == '\n') := by
  rw [atLineEnd, char?_eq]

theorem sat_eq (run : Run) (p : Char -> Bool) (i : Nat) : run.sat p i = run.letters[i]?.any p := by
  rw [sat, char?_eq]

theorem chars_eq (run : Run) (i j : Nat) : run.chars i j = (run.letters.drop i).take (j - i) := by
  simp [chars, letters]

theorem skip_eq (run : Run) (p : Char -> Bool) (i : Nat) :
    run.skip p i = i + ((run.letters.drop i).takeWhile p).length := by
  fun_induction skip run p i with
  | case1 i h hp ih =>
      have hlt : i < run.letters.length := by
        rw [← size_eq]
        exact h
      have hletter : run.letters[i] = run.cells[i].char := by
        simp [letters]
      rw [ih, List.drop_eq_getElem_cons hlt, List.takeWhile_cons_of_pos (by rw [hletter]; exact hp),
        List.length_cons]
      omega
  | case2 i h hp =>
      have hlt : i < run.letters.length := by
        rw [← size_eq]
        exact h
      have hletter : run.letters[i] = run.cells[i].char := by
        simp [letters]
      rw [List.drop_eq_getElem_cons hlt, List.takeWhile_cons_of_neg (by rw [hletter]; exact hp)]
      rfl
  | case3 i h =>
      have hle : run.letters.length ≤ i := by
        rw [← size_eq]
        exact Nat.le_of_not_lt h
      rw [List.drop_eq_nil_of_le hle]
      rfl

theorem skipUpTo_eq (run : Run) (p : Char -> Bool) (limit i : Nat) :
    run.skipUpTo p limit i = i + (((run.letters.drop i).take limit).takeWhile p).length := by
  induction limit generalizing i with
  | zero =>
      rfl
  | succ limit ih =>
      rw [skipUpTo, sat_eq]
      by_cases hlt : i < run.letters.length
      · rw [List.drop_eq_getElem_cons hlt, List.take_succ_cons, List.getElem?_eq_getElem hlt,
          Option.any_some]
        by_cases hp : p run.letters[i] = true
        · rw [if_pos hp, ih, List.takeWhile_cons_of_pos hp, List.length_cons]
          omega
        · rw [if_neg hp, List.takeWhile_cons_of_neg hp]
          rfl
      · have hle := Nat.le_of_not_lt hlt
        rw [List.getElem?_eq_none hle, List.drop_eq_nil_of_le hle]
        rfl

theorem letters_part (run : Run) (i j : Nat) :
    (run.part i j).letters = (run.letters.drop i).take (j - i) := by
  simp [part, letters, List.map_take, List.map_drop]

theorem part_all (run : Run) : run.part 0 run.size = run := by
  simp [part, place, size]

end Run

/-!
# Places in a text
-/

/-- Whether a place is before the character with a given index. -/
def Place.IsAt (place : Place) (index : Nat) : Prop := place.index = index ∧ place.inside = 0

/-- Whether characters stand in a text from an index on. -/
def Source.Holds (source : Source) (first : Nat) (cs : List Char) : Prop :=
  exists before after, source.chars.toList = before ++ (cs ++ after) ∧ before.length = first

namespace Source

variable {source : Source} {first i j : Nat} {cs : List Char} {start stop : Place}

theorem Holds.slice (h : source.Holds first cs) (hij : i ≤ j) (hj : j ≤ cs.length) :
    (source.chars.extract (first + i) (first + j)).toList = (cs.drop i).take (j - i) := by
  rcases h with ⟨before, after, hchars, rfl⟩
  rw [Array.toList_extract, hchars, List.extract_eq_take_drop, List.drop_append,
    List.drop_eq_nil_of_le (Nat.le_add_right _ _), List.nil_append, Nat.add_sub_cancel_left,
    Nat.add_sub_add_left, List.drop_append, List.take_append_of_le_length]
  rw [List.length_drop]
  omega

theorem Holds.content_eq (h : source.Holds first cs) (hstart : start.IsAt (first + i))
    (hstop : stop.IsAt (first + j)) (hij : i ≤ j) (hj : j ≤ cs.length) :
    source.content start stop = String.ofList ((cs.drop i).take (j - i)) := by
  unfold Source.content
  rw [hstart.2, hstop.2, hstart.1, hstop.1]
  dsimp only [ite_true]
  rw [if_pos rfl, if_pos rfl, if_pos rfl, h.slice hij hj]
  simp

theorem Holds.between_eq (h : source.Holds first cs) (hstart : start.IsAt (first + i))
    (hstop : stop.IsAt (first + j)) (hij : i ≤ j) (hj : j ≤ cs.length) :
    source.between start stop = String.ofList ((cs.drop i).take (j - i)) := by
  rw [Source.between, hstart.1, hstop.1, h.slice hij hj]

theorem Holds.left {ds : List Char} (h : source.Holds first (cs ++ ds)) :
    source.Holds first cs := by
  rcases h with ⟨before, after, hchars, hlength⟩
  exact ⟨before, ds ++ after, by rw [hchars, List.append_assoc], hlength⟩

theorem Holds.right {ds : List Char} (h : source.Holds first (cs ++ ds)) :
    source.Holds (first + cs.length) ds := by
  rcases h with ⟨before, after, hchars, rfl⟩
  exact ⟨before ++ cs, after, by simp [hchars], List.length_append⟩

theorem Holds.append {ds : List Char} (h : source.Holds first cs)
    (hds : source.Holds (first + cs.length) ds) : source.Holds first (cs ++ ds) := by
  rcases h with ⟨before, after, hchars, rfl⟩
  rcases hds with ⟨others, rest, hothers, hlength⟩
  have hsplit : (before ++ cs) ++ after = others ++ (ds ++ rest) := by
    rw [← hothers, hchars, List.append_assoc]
  rcases List.append_inj hsplit (by rw [List.length_append, hlength]) with ⟨rfl, rfl⟩
  exact ⟨before, rest, by rw [hchars, List.append_assoc], rfl⟩

end Source

/-!
# Runs in a text
-/

/-- Whether each cell takes one character, and the first one is at a given index. -/
def Consecutive : Nat -> List Cell -> Prop
  | _, [] => True
  | first, cell :: cells =>
      cell.start.IsAt first ∧ cell.stop.IsAt (first + 1) ∧ Consecutive (first + 1) cells

theorem Consecutive.append {first : Nat} {cells others : List Cell} (h : Consecutive first cells)
    (hothers : Consecutive (first + cells.length) others) :
    Consecutive first (cells ++ others) := by
  induction cells generalizing first with
  | nil =>
      exact hothers
  | cons cell cells ih =>
      rw [List.length_cons, Nat.add_comm cells.length, ← Nat.add_assoc] at hothers
      exact ⟨h.1, h.2.1, ih h.2.2 hothers⟩

theorem Consecutive.getElem? {first i : Nat} {cells : List Cell} {cell : Cell}
    (h : Consecutive first cells) (hcell : cells[i]? = some cell) :
    cell.start.IsAt (first + i) ∧ cell.stop.IsAt (first + i + 1) := by
  induction cells generalizing first i with
  | nil =>
      cases hcell
  | cons head cells ih =>
      cases i with
      | zero =>
          cases hcell
          exact ⟨h.1, h.2.1⟩
      | succ i =>
          have hbelow := ih h.2.2 hcell
          rw [Nat.add_assoc first, Nat.add_comm 1] at hbelow
          exact hbelow

theorem Consecutive.drop {first : Nat} {cells : List Cell} (h : Consecutive first cells)
    (i : Nat) : Consecutive (first + i) (cells.drop i) := by
  induction cells generalizing first i with
  | nil =>
      rw [List.drop_nil]
      trivial
  | cons cell cells ih =>
      cases i with
      | zero =>
          exact h
      | succ i =>
          have hbelow := ih h.2.2 i
          rw [Nat.add_assoc, Nat.add_comm 1] at hbelow
          exact hbelow

theorem Consecutive.take {first : Nat} {cells : List Cell} (h : Consecutive first cells)
    (n : Nat) : Consecutive first (cells.take n) := by
  induction cells generalizing first n with
  | nil =>
      rw [List.take_nil]
      trivial
  | cons cell cells ih =>
      cases n with
      | zero =>
          trivial
      | succ n =>
          exact ⟨h.1, h.2.1, ih h.2.2 n⟩

/-- Whether a run is what stands in a text from an index on, one cell for each character. -/
structure Run.Spells (source : Source) (run : Run) (first : Nat) (cs : List Char) : Prop where
  letters : run.letters = cs
  cells : Consecutive first run.cells.toList
  stop : run.stop.IsAt (first + cs.length)
  holds : source.Holds first cs

namespace Run.Spells

variable {source : Source} {run : Run} {first i j : Nat} {cs ds : List Char}

theorem length_cells (h : run.Spells source first cs) : run.cells.size = cs.length := by
  rw [← h.letters, ← size_eq]
  rfl

theorem place_isAt (h : run.Spells source first cs) (hi : i ≤ cs.length) :
    (run.place i).IsAt (first + i) := by
  unfold Run.place
  cases hcell : run.cells[i]? with
  | some cell =>
      have hmem : run.cells.toList[i]? = some cell := by
        rw [Array.getElem?_toList]
        exact hcell
      exact (h.cells.getElem? hmem).1
  | none =>
      have hle : cs.length ≤ i := by
        rw [← h.length_cells]
        exact Array.getElem?_eq_none_iff.mp hcell
      rw [Nat.le_antisymm hi hle]
      exact h.stop

theorem placeAfter_isAt (h : run.Spells source first cs) (hi : i ≤ cs.length) :
    (run.placeAfter i).IsAt (first + i) := by
  cases i with
  | zero =>
      exact h.place_isAt hi
  | succ i =>
      unfold Run.placeAfter
      dsimp only
      cases hcell : run.cells[i]? with
      | some cell =>
          have hmem : run.cells.toList[i]? = some cell := by
            rw [Array.getElem?_toList]
            exact hcell
          exact (h.cells.getElem? hmem).2
      | none =>
          have hle : cs.length ≤ i := by
            rw [← h.length_cells]
            exact Array.getElem?_eq_none_iff.mp hcell
          omega

theorem text_eq (h : run.Spells source first cs) (hij : i ≤ j) (hj : j ≤ cs.length) :
    run.text source i j = String.ofList ((cs.drop i).take (j - i)) :=
  h.holds.content_eq (h.place_isAt (hij.trans hj)) (h.place_isAt hj) hij hj

/-- A part of a run spells what the run spells there. -/
theorem part (h : run.Spells source first cs) (hij : i ≤ j) (hj : j ≤ cs.length) :
    (run.part i j).Spells source (first + i) ((cs.drop i).take (j - i)) := by
  have hlength : ((cs.drop i).take (j - i)).length = j - i := by
    rw [List.length_take, List.length_drop]
    omega
  constructor
  · rw [letters_part, h.letters]
  · have hcells : (run.part i j).cells.toList = (run.cells.toList.drop i).take (j - i) := by
      simp [Run.part]
    rw [hcells]
    exact (h.cells.drop i).take _
  · rw [hlength, Nat.add_assoc, Nat.add_sub_cancel' hij]
    exact h.place_isAt hj
  · have hsplit : cs = cs.take i ++ ((cs.drop i).take (j - i) ++ (cs.drop i).drop (j - i)) := by
      rw [List.take_append_drop, List.take_append_drop]
    have hholds := h.holds
    rw [hsplit] at hholds
    have hright := hholds.right.left
    rw [List.length_take, Nat.min_eq_left (hij.trans hj)] at hright
    exact hright

end Run.Spells

/-!
# Lines of a text
-/

/-- The place after a character that ends no line. -/
def Place.step (place : Place) (c : Char) : Place :=
  let width := if c = '\t' then tabWidth place.column else c.utf8Size
  { place with column := place.column + width, index := place.index + 1 }

/-- The place after characters that end no line. -/
def Place.after (place : Place) (cs : List Char) : Place := cs.foldl Place.step place

section Cells

variable {place : Place} {first : Nat} {c : Char} {cs rest : List Char}

theorem Place.IsAt.after (h : place.IsAt first) (cs : List Char) :
    (place.after cs).IsAt (first + cs.length) := by
  induction cs generalizing place first with
  | nil =>
      exact h
  | cons c cs ih =>
      have hstep : (place.step c).IsAt (first + 1) := ⟨congrArg (· + 1) h.1, h.2⟩
      have hbelow := ih hstep
      rw [List.length_cons, Nat.add_comm cs.length, ← Nat.add_assoc]
      exact hbelow

theorem Place.IsAt.nextLine (h : place.IsAt first) : (place.nextLine 1).IsAt (first + 1) :=
  ⟨congrArg (· + 1) h.1, rfl⟩

end Cells

/-!
# Lines of a text
-/

/-- Whether a line, with the line ending after it, stands in a text from an index on. -/
structure Line.Stands (source : Source) (first : Nat) (piece : List Char) (line : Line) : Prop where
  start : line.start.IsAt first
  stop : line.stop.IsAt (first + piece.length)
  ending : exists cell, line.ending = some cell ∧ cell.char = '\n' ∧
    cell.start.IsAt (first + piece.length) ∧ cell.stop.IsAt (first + piece.length + 1)
  holds : source.Holds first (piece ++ ['\n'])
  letters : forall {α : Type} {f : α -> Char -> α},
    (forall state, f (f state '\t') ' ' = f state '\t') ->
      forall state, line.run.letters.foldl f state = piece.foldl f state
  spells : '\t' ∉ piece -> line.run.Spells source first piece

/-- Whether lines stand in a text from an index on, one after the other. -/
inductive LinesStand (source : Source) : Nat -> List (List Char) -> List Line -> Prop where
  | nil {first : Nat} : LinesStand source first [] []
  | cons {first : Nat} {piece : List Char} {line : Line} {pieces : List (List Char)}
      {lines : List Line} (hline : line.Stands source first piece)
      (hlines : LinesStand source (first + piece.length + 1) pieces lines) :
      LinesStand source first (piece :: pieces) (line :: lines)

section Lines

variable {source : Source} {place stop : Place} {first : Nat} {piece : List Char}
  {pieces : List (List Char)} {cells rest : List Cell} {ending : Cell}

/-- Lines without tabs are one run with the line endings between them. -/
theorem LinesStand.spells {line : Line} {lines : List Line}
    (h : LinesStand source first (piece :: pieces) (line :: lines))
    (htab : forall other, other ∈ piece :: pieces -> '\t' ∉ other) :
    (Run.ofLines (line :: lines)).Spells source first
      (piece ++ pieces.flatMap ('\n' :: ·)) := by
  induction pieces generalizing first piece line lines with
  | nil =>
      cases h with
      | cons hline hlines =>
          cases hlines
          rw [List.flatMap_nil, List.append_nil]
          exact hline.spells (htab piece List.mem_cons_self)
  | cons next pieces ih =>
      cases h with
      | cons hline hlines =>
          rcases lines with _ | ⟨second, lines⟩
          · cases hlines
          · have hspells := hline.spells (htab piece List.mem_cons_self)
            have hrest := ih hlines fun other hother => htab other (List.mem_cons_of_mem _ hother)
            rcases hline.ending with ⟨cell, hcell, hchar, hstart, hstop⟩
            have hcells : (Run.ofLines (line :: second :: lines)).cells.toList =
                line.run.cells.toList ++ cell :: (Run.ofLines (second :: lines)).cells.toList := by
              rw [Run.ofLines, hcell]
              · simp
              · intro hnil
                cases hnil
            have hend : (Run.ofLines (line :: second :: lines)).stop =
                (Run.ofLines (second :: lines)).stop := by
              rw [Run.ofLines]
              intro hnil
              cases hnil
            have hlength : line.run.cells.toList.length = piece.length := hspells.length_cells
            rw [List.flatMap_cons, List.cons_append]
            constructor
            · have hfront := hspells.letters
              have hback := hrest.letters
              rw [Run.letters] at hfront hback
              rw [Run.letters, hcells, List.map_append, List.map_cons, hfront, hback, hchar]
            · rw [hcells]
              apply hspells.cells.append
              rw [hlength]
              exact ⟨hstart, hstop, hrest.cells⟩
            · have hstop := hrest.stop
              rw [hend, List.length_append, List.length_cons]
              rw [Nat.add_assoc, Nat.add_assoc, Nat.add_comm 1] at hstop
              exact hstop
            · have hback := hrest.holds
              have hholds := hline.holds
              rw [List.append_cons]
              apply hholds.append
              rw [List.length_append]
              exact hback

end Lines

end Markdown
end Docloom
