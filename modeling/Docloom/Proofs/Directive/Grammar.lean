import Docloom.Directive.Block
import Docloom.Proofs.Text.Trim

/-!
# The grammar of markers

A marker is a comment that consists of white space, a keyword with a colon, and a content with
white space on both sides.  Here it is said which texts that are, and that no others are read as
markers.
-/

namespace Docloom
namespace Marker

variable {cs rest blanks middle content : List Char} {kind : MarkerKind} {marker : Marker}

/-!
# What spells a marker
-/

/-- Whether a text is white space. -/
def AllBlank (cs : List Char) : Prop := forall c, c ∈ cs -> Text.isBlank c = true

/-- Whether characters stand between the colon of a marker and the end of its comment: there is
white space on both sides, and no line feed in what stands between. -/
structure IsMiddle (middle : List Char) : Prop where
  length_le : 2 ≤ middle.length
  head : middle.head?.any Text.isBlank = true
  last : middle.getLast?.any Text.isBlank = true
  oneLine : '\n' ∉ Text.trimWhile Text.isBlank middle

/-- Whether characters, trimmed of white space, spell a marker. -/
inductive Spells : List Char -> Marker -> Prop where
  | comment (kind : MarkerKind) {blanks middle : List Char} (hne : blanks ≠ [])
      (hblanks : AllBlank blanks) (hmiddle : IsMiddle middle) :
      Spells
        ("<!--".toList ++ (blanks ++ (kind.text.toList ++ ':' :: (middle ++ "-->".toList))))
        ⟨kind, String.ofList (Text.trimWhile Text.isBlank middle)⟩

theorem keyword?_eq_some_iff :
    keyword? cs = some (kind, rest) ↔ cs = kind.text.toList ++ ':' :: rest := by
  have hparts (text : List Char) : text.isPrefixOf cs = true ↔ exists after, cs = text ++ after := by
    rw [List.isPrefixOf_iff_prefix]
    exact ⟨fun ⟨after, h⟩ => ⟨after, h.symm⟩, fun ⟨after, h⟩ => ⟨after, h.symm⟩⟩
  constructor
  · intro h
    unfold keyword? at h
    split at h
    · rename_i hbegins
      rcases (hparts _).mp hbegins with ⟨after, rfl⟩
      cases h
      rfl
    · split at h
      · rename_i hends
        rcases (hparts _).mp hends with ⟨after, rfl⟩
        cases h
        rfl
      · cases h
  · rintro rfl
    cases kind <;> rfl

theorem take_middle (middle : List Char) :
    (middle ++ "-->".toList).take ((middle ++ "-->".toList).length - 3) = middle := by
  rw [List.length_append]
  exact List.take_left

/-- The comment ends with the last of its characters. -/
theorem content?_eq_some_iff :
    content? cs = some content ↔ exists middle, cs = middle ++ "-->".toList ∧ IsMiddle middle ∧
      content = Text.trimWhile Text.isBlank middle := by
  constructor
  · intro h
    unfold content? at h
    dsimp only at h
    split at h
    · rename_i hall
      simp only [Bool.and_eq_true, decide_eq_true_eq, Bool.not_eq_true',
        List.contains_eq_mem, decide_eq_false_iff_not] at hall
      rcases hall with ⟨⟨⟨⟨hend, hlength⟩, hhead⟩, hlast⟩, hline⟩
      rcases List.isSuffixOf_iff_suffix.mp hend with ⟨middle, rfl⟩
      rw [take_middle] at h hlength hhead hlast hline
      cases h
      exact ⟨middle, rfl, ⟨hlength, hhead, hlast, hline⟩, rfl⟩
    · cases h
  · rintro ⟨middle, rfl, hmiddle, rfl⟩
    have hend : "-->".toList.isSuffixOf (middle ++ "-->".toList) = true :=
      List.isSuffixOf_iff_suffix.mpr (List.suffix_append _ _)
    unfold content?
    dsimp only
    rw [take_middle, hend, if_pos]
    simp [hmiddle.length_le, hmiddle.head, hmiddle.last, hmiddle.oneLine]

/-- No keyword begins with white space. -/
theorem head_text (kind : MarkerKind) :
    exists c after, kind.text.toList = c :: after ∧ Text.isBlank c = false := by
  cases kind with
  | begins =>
      exact ⟨'B', "EGIN".toList, rfl, rfl⟩
  | ends =>
      exact ⟨'E', "ND".toList, rfl, rfl⟩

theorem dropWhile_blanks (hblanks : AllBlank blanks) (kind : MarkerKind) (rest : List Char) :
    (blanks ++ (kind.text.toList ++ rest)).dropWhile Text.isBlank = kind.text.toList ++ rest := by
  rcases head_text kind with ⟨c, after, htext, hc⟩
  rw [List.dropWhile_append_of_pos hblanks, htext, List.cons_append,
    List.dropWhile_cons_of_neg (by rw [hc]; exact Bool.false_ne_true)]

theorem ofChars?_eq_some_iff : ofChars? cs = some marker ↔ Spells cs marker := by
  constructor
  · intro h
    unfold ofChars? at h
    split at h
    · rename_i hopening
      rcases List.isPrefixOf_iff_prefix.mp hopening with ⟨rest, rfl⟩
      have hdrop : ("<!--".toList ++ rest).drop 4 = rest := rfl
      dsimp only at h
      rw [hdrop] at h
      split at h
      · rename_i hblank
        split at h
        · rename_i kind after hkeyword
          rcases Option.map_eq_some_iff.mp h with ⟨content, hcontent, rfl⟩
          rcases content?_eq_some_iff.mp hcontent with ⟨middle, rfl, hmiddle, rfl⟩
          have hrest : rest = rest.takeWhile Text.isBlank ++
              (kind.text.toList ++ ':' :: (middle ++ "-->".toList)) := by
            rw [← keyword?_eq_some_iff.mp hkeyword, List.takeWhile_append_dropWhile]
          rw [hrest]
          refine .comment kind ?_ (fun c => List.mem_takeWhile_imp) hmiddle
          cases rest with
          | nil =>
              cases hblank
          | cons c rest =>
              have hc : Text.isBlank c = true := hblank
              rw [List.takeWhile_cons_of_pos hc]
              exact List.cons_ne_nil _ _
        · cases h
      · cases h
    · cases h
  · intro h
    cases h with
    | comment kind hne hblanks hmiddle =>
        rename_i blanks middle
        have hopening : "<!--".toList.isPrefixOf ("<!--".toList ++
            (blanks ++ (kind.text.toList ++ ':' :: (middle ++ "-->".toList)))) = true :=
          List.isPrefixOf_iff_prefix.mpr (List.prefix_append _ _)
        have hblank : (blanks ++ (kind.text.toList ++ ':' :: (middle ++ "-->".toList))).head?.any
            Text.isBlank = true := by
          rcases List.exists_cons_of_ne_nil hne with ⟨c, after, rfl⟩
          exact hblanks c List.mem_cons_self
        have hcontent : content? (middle ++ "-->".toList) =
            some (Text.trimWhile Text.isBlank middle) :=
          content?_eq_some_iff.mpr ⟨middle, rfl, hmiddle, rfl⟩
        have hdrop : ("<!--".toList ++
            (blanks ++ (kind.text.toList ++ ':' :: (middle ++ "-->".toList)))).drop 4 =
              blanks ++ (kind.text.toList ++ ':' :: (middle ++ "-->".toList)) := rfl
        unfold ofChars?
        rw [if_pos hopening]
        dsimp only
        rw [hdrop, if_pos hblank, dropWhile_blanks hblanks, keyword?_eq_some_iff.mpr rfl]
        dsimp only
        rw [hcontent]
        rfl

theorem parse?_eq_some_iff {text : String} :
    parse? text = some marker ↔ Spells (Text.trimWhile Text.isBlank text.toList) marker :=
  ofChars?_eq_some_iff

end Marker
end Docloom
