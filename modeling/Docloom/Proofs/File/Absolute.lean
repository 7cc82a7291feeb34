import Docloom.Proofs.File.Discovery

/-!
# Plain spellings of paths

The plain spelling of a path that starts at the root has the steps of the path and no other
pieces but those at the start.  It is not longer than the path, leads to the same place, and what
is below a directory is below it in the plain spelling, too.
-/

namespace Docloom
namespace Path

variable {path base : Path} {names : List String}

/-!
# Sizes
-/

/-- The size of pieces with what separates them, and one more of it. -/
def piecesSize : List (List Char) → Nat
  | [] => 0
  | piece :: pieces => (String.ofList piece).utf8ByteSize + 1 + piecesSize pieces

theorem piecesSize_splitChars (cs : List Char) :
    piecesSize (Text.splitChars (· == '/') cs) = (String.ofList cs).utf8ByteSize + 1 := by
  induction cs with
  | nil =>
      rfl
  | cons c cs ih =>
      rw [String.ofList_cons, String.utf8ByteSize_append, String.utf8ByteSize_singleton,
        Text.splitChars]
      split
      · rename_i hc
        have hsize : c.utf8Size = 1 := by
          rw [eq_of_beq hc]
          rfl
        rw [piecesSize, ih, hsize, String.ofList_nil, String.utf8ByteSize_empty]
        omega
      · cases hsplit : Text.splitChars (· == '/') cs with
        | nil =>
            exact absurd hsplit (Text.splitChars_ne_nil _ _)
        | cons piece pieces =>
            rw [hsplit, piecesSize] at ih
            dsimp only
            rw [piecesSize, String.ofList_cons, String.utf8ByteSize_append,
              String.utf8ByteSize_singleton]
            omega

theorem piecesSize_le {some all : List (List Char)} (h : some.Sublist all) :
    piecesSize some ≤ piecesSize all := by
  induction h with
  | slnil =>
      exact Nat.le_refl _
  | cons piece _ ih =>
      rw [piecesSize]
      omega
  | cons_cons piece _ ih =>
      rw [piecesSize, piecesSize]
      omega

/-- A path of some of the pieces of another one is not longer. -/
theorem size_le {other : Path} (h : other.pieces.Sublist path.pieces) :
    other.text.utf8ByteSize ≤ path.text.utf8ByteSize := by
  have hsizes := piecesSize_le h
  rw [pieces, pieces, piecesSize_splitChars, piecesSize_splitChars, String.ofList_toList,
    String.ofList_toList] at hsizes
  omega

/-!
# Plain spellings
-/

theorem parts_of_slash {cs : List Char} (h : path.text.toList = '/' :: cs) :
    path.parts = (['/'], Text.splitChars (· == '/') cs) := by
  rw [parts, h]
  rfl

/-- The plain spelling of a path from the root has a slash or two, and then the steps. -/
theorem absolute_eq (current : Path) (habsolute : path.isAbsolute = true)
    (hending : Text.endsWith "/" path.text = false) :
    current.absolute path =
      ⟨(if Text.startsWith "//" path.text && !Text.startsWith "///" path.text then "//" else "/") ++
        Text.join "/" (path.steps.map String.ofList)⟩ := by
  rcases Text.startsWith_slash_iff.mp habsolute with ⟨cs, htext⟩
  have hsteps : path.steps = (Text.splitChars (· == '/') cs).filter (!isIdle ·) := by
    rw [steps, pieces, htext, Text.splitChars, if_pos (by rfl),
      List.filter_cons_of_neg (by simp [isIdle])]
  unfold absolute
  rw [parts_of_slash htext, hsteps]
  simp only [habsolute, hending, if_true, Bool.false_eq_true, if_false, String.append_empty,
    ite_self]

/-- The plain spelling of a path from the root has the steps of the path after pieces that lead
nowhere, and no pieces that the path does not have. -/
theorem pieces_absolute (current : Path) (habsolute : path.isAbsolute = true)
    (hsteps : path.steps ≠ []) (hending : Text.endsWith "/" path.text = false) :
    exists front, (forall piece, piece ∈ front -> isIdle piece = true) ∧
      (current.absolute path).pieces = front ++ path.steps ∧
        (front ++ path.steps).Sublist path.pieces := by
  have hslash : forall piece, piece ∈ path.steps -> '/' ∉ piece := by
    intro piece hpiece
    exact noSlash_of_mem_pieces (List.mem_filter.mp hpiece).1
  have hjoin := pieces_join_parts hslash hsteps
  rw [absolute_eq current habsolute hending]
  by_cases hdouble : (Text.startsWith "//" path.text && !Text.startsWith "///" path.text) = true
  · rw [if_pos hdouble]
    have hstart : exists cs, path.text.toList = '/' :: '/' :: cs := by
      rw [Bool.and_eq_true, Text.startsWith, List.isPrefixOf_iff_prefix] at hdouble
      rcases hdouble.1 with ⟨cs, hcs⟩
      exact ⟨cs, hcs.symm⟩
    rcases hstart with ⟨cs, htext⟩
    have hpieces : path.pieces = [] :: [] :: Text.splitChars (· == '/') cs := by
      rw [pieces, htext, Text.splitChars, if_pos (by rfl), Text.splitChars, if_pos (by rfl)]
    have hfilter : path.steps = (Text.splitChars (· == '/') cs).filter (!isIdle ·) := by
      rw [steps, hpieces]
      rfl
    refine ⟨[[], []], by simp [isIdle], ?_, ?_⟩
    · have hchars : ("//" ++ Text.join "/" (path.steps.map String.ofList)).toList =
          '/' :: '/' :: (Text.join "/" (path.steps.map String.ofList)).toList := by
        simp
      rw [pieces, hchars, Text.splitChars, if_pos (by rfl), Text.splitChars, if_pos (by rfl),
        hjoin]
      rfl
    · rw [hpieces, hfilter]
      exact (List.filter_sublist.cons_cons _).cons_cons _
  · rw [if_neg hdouble]
    rcases Text.startsWith_slash_iff.mp habsolute with ⟨cs, htext⟩
    have hpieces : path.pieces = [] :: Text.splitChars (· == '/') cs := by
      rw [pieces, htext, Text.splitChars, if_pos (by rfl)]
    have hfilter : path.steps = (Text.splitChars (· == '/') cs).filter (!isIdle ·) := by
      rw [steps, hpieces]
      rfl
    refine ⟨[[]], by simp [isIdle], ?_, ?_⟩
    · have hchars : ("/" ++ Text.join "/" (path.steps.map String.ofList)).toList =
          '/' :: (Text.join "/" (path.steps.map String.ofList)).toList := by
        simp
      rw [pieces, hchars, Text.splitChars, if_pos (by rfl), hjoin]
      rfl
    · rw [hpieces, hfilter]
      exact List.filter_sublist.cons_cons _

theorem startsWith_slash_append {text : String} (h : Text.startsWith "/" text = true)
    (more : String) : Text.startsWith "/" (text ++ more) = true := by
  rcases Text.startsWith_slash_iff.mp h with ⟨cs, hcs⟩
  apply Text.startsWith_slash_iff.mpr
  exact ⟨cs ++ more.toList, by simp [hcs]⟩

theorem isAbsolute_absolute_of_isAbsolute (current : Path) (h : path.isAbsolute = true) :
    (current.absolute path).isAbsolute = true := by
  have hlead : Text.startsWith "/" (if Text.startsWith "//" path.text &&
      !Text.startsWith "///" path.text then "//" else "/") = true := by
    split
    · rfl
    · rfl
  unfold absolute
  dsimp only
  generalize (if Text.startsWith "//" path.text && !Text.startsWith "///" path.text then "//"
    else "/") = lead at hlead ⊢
  rw [if_pos h, isAbsolute]
  dsimp only
  split
  · exact startsWith_slash_append hlead _
  · exact startsWith_slash_append (startsWith_slash_append hlead _) _

theorem isAbsolute_locationPath (location : Location) :
    (FileSystem.locationPath location).isAbsolute = true :=
  startsWith_slash_append (by rfl) _

/-- A path that is joined to one from the root is one from the root. -/
theorem isAbsolute_join_of_isAbsolute (h : path.isAbsolute = true) (below : String) :
    (path.join below).isAbsolute = true := by
  by_cases hslash : Text.startsWith "/" below = true
  · rw [join, if_pos hslash]
    exact hslash
  · rw [isAbsolute_join (by simpa using hslash)]
    exact h

theorem isAbsolute_foldl_join {pieces : List (List Char)} (h : path.isAbsolute = true)
    (hslash : forall piece, piece ∈ pieces -> '/' ∉ piece) :
    (pieces.foldl (fun path piece => path.join (String.ofList piece)) path).isAbsolute = true := by
  induction pieces generalizing path with
  | nil =>
      exact h
  | cons piece pieces ih =>
      have hnot : Text.startsWith "/" (String.ofList piece) = false := by
        rw [Bool.eq_false_iff, ne_eq, Text.startsWith_slash_iff]
        rintro ⟨cs, hcs⟩
        apply hslash piece List.mem_cons_self
        rw [String.toList_ofList] at hcs
        rw [hcs]
        exact List.mem_cons_self
      apply ih
      · rw [isAbsolute_join hnot]
        exact h
      · intro other hother
        exact hslash other (List.mem_cons_of_mem _ hother)

/-- Every path has a plain spelling from the root. -/
theorem isAbsolute_absolute {current : Path} (hcurrent : current.isAbsolute = true) (path : Path) :
    (current.absolute path).isAbsolute = true := by
  by_cases habsolute : path.isAbsolute = true
  · exact isAbsolute_absolute_of_isAbsolute current habsolute
  · have hbelow : ((path.parts.2.filter (!isIdle ·)).foldl
        (fun path piece => path.join (String.ofList piece)) current).isAbsolute = true := by
      apply isAbsolute_foldl_join hcurrent
      intro piece hpiece
      rcases parts_spec path with ⟨_, _, front, hpieces, _⟩
      apply @noSlash_of_mem_pieces path
      rw [hpieces]
      exact List.mem_append_right _ (List.mem_filter.mp hpiece).1
    unfold absolute
    dsimp only
    rw [if_neg habsolute]
    exact startsWith_slash_append hbelow _

/-- Names that lead on from a path from the root are below it in the plain spelling. -/
theorem below_absolute (current : Path) (hbase : base.isAbsolute = true)
    (h : ProperLocation names) (hne : names ≠ []) :
    (current.absolute (base.joins names)).below? base = some ⟨Text.join "/" names⟩ := by
  have habsolute : (base.joins names).isAbsolute = true := by
    rw [isAbsolute_joins h, hbase]
  have hsteps : (base.joins names).steps ≠ [] := by
    rw [steps_joins h]
    simp [hne]
  have hending : Text.endsWith "/" (base.joins names).text = false := by
    rcases List.eq_nil_or_concat' names with rfl | ⟨before, last, rfl⟩
    · exact absurd rfl hne
    · rw [joins_concat]
      exact endsWith_join (h last (by simp))
  have htext : base.text ≠ "" := by
    intro hempty
    rw [isAbsolute, hempty] at hbase
    cases hbase
  rcases pieces_absolute current habsolute hsteps hending with ⟨front, hfront, hpieces, _⟩
  have hplain := isAbsolute_absolute_of_isAbsolute current habsolute
  rw [steps_joins h, ← List.append_assoc] at hpieces
  apply below_of_pieces h htext hpieces
  · rw [filter_of_idle hfront, steps, List.filter_filter]
    simp
  · rw [isAbsolute_iff.mp hplain, isAbsolute_iff.mp hbase]

end Path

namespace FileSystem

variable {files : FileSystem} {path : Path} {location : Location} {part last : List Char}
  {parts : List (List Char)}

/-!
# Where plain spellings lead
-/

theorem walk_idle (hidle : Path.isIdle part = true) (hne : parts ≠ []) :
    files.walk location (part :: parts) = files.walk location parts := by
  cases parts with
  | nil =>
      exact absurd rfl hne
  | cons next parts =>
      rw [walk]
      cases hentry : files.entry? location with
      | none =>
          rw [walk, hentry]
      | some entry =>
          cases entry with
          | directory =>
              simp [hidle]
          | file contents =>
              rw [walk, hentry]

/-- What leads nowhere can be left out of a walk, unless the walk ends with it. -/
theorem walk_filter (hlast : Path.isIdle last = false) :
    files.walk location ((parts ++ [last]).filter (!Path.isIdle ·)) =
      files.walk location (parts ++ [last]) := by
  induction parts generalizing location with
  | nil =>
      rw [List.nil_append, List.filter_cons_of_pos (by simp [hlast]), List.filter_nil]
  | cons part parts ih =>
      rw [List.cons_append]
      by_cases hidle : Path.isIdle part = true
      · rw [List.filter_cons_of_neg (by simp [hidle]), walk_idle hidle (by simp)]
        exact ih
      · rw [List.filter_cons_of_pos (by simp [hidle]), walk, walk]
        cases files.entry? location with
        | none =>
            rfl
        | some entry =>
            cases entry with
            | directory =>
                simp only [hidle, Bool.false_eq_true, if_false, ih]
            | file contents =>
                rfl

theorem walk_of_idle {front : List (List Char)}
    (hfront : forall piece, piece ∈ front -> Path.isIdle piece = true) (hne : parts ≠ []) :
    files.walk location (front ++ parts) = files.walk location parts := by
  induction front with
  | nil =>
      rfl
  | cons piece front ih =>
      rw [List.cons_append, walk_idle (hfront piece List.mem_cons_self) (by simp [hne])]
      exact ih fun other hother => hfront other (List.mem_cons_of_mem _ hother)

/-- The plain spelling of a path leads where the path leads, unless the path is too long and its
plain spelling is not. -/
theorem locate_absolute (current : Path) (habsolute : path.isAbsolute = true)
    (hpieces : path.pieces = parts ++ [last]) (hlast : Path.isIdle last = false)
    (hsize : maxPathSize < path.text.utf8ByteSize ->
      maxPathSize < (current.absolute path).text.utf8ByteSize) :
    files.locate (current.absolute path) = files.locate path := by
  have hsteps : path.steps ≠ [] := by
    rw [Path.steps, hpieces, List.filter_append]
    simp [hlast]
  have hending : Text.endsWith "/" path.text = false := Path.endsWith_of_pieces hpieces hlast
  rcases Path.pieces_absolute current habsolute hsteps hending with
    ⟨front, hfront, habsolutePieces, hsublist⟩
  have hwalk : files.walk [] (current.absolute path).pieces = files.walk [] path.pieces := by
    rw [habsolutePieces, walk_of_idle hfront hsteps, Path.steps, hpieces, walk_filter hlast]
  have hle : (current.absolute path).text.utf8ByteSize ≤ path.text.utf8ByteSize := by
    apply Path.size_le
    rw [habsolutePieces]
    exact hsublist
  have hplain := Path.isAbsolute_absolute_of_isAbsolute current habsolute
  have hne : forall other : Path, other.isAbsolute = true -> ¬ other.text.isEmpty = true := by
    intro other hother hempty
    rcases Text.startsWith_slash_iff.mp hother with ⟨cs, hcs⟩
    rw [String.isEmpty_iff.mp hempty] at hcs
    cases hcs
  rw [locate, locate, if_neg (hne _ hplain), if_neg (hne _ habsolute), hplain, habsolute]
  by_cases hlong : maxPathSize < path.text.utf8ByteSize
  · rw [if_pos hlong, if_pos (hsize hlong)]
  · rw [if_neg hlong, if_neg (by omega)]
    exact hwalk

end FileSystem
end Docloom
