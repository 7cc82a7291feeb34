import Docloom.Proofs.Regex.Capture

/-!
# The texts of an expression

Which texts an expression takes is told part by part: a sequence takes a text of its first part
and then one of its second, and a repetition takes texts of what it repeats.  In the other
direction, what was taken is cut into what the parts took.
-/

namespace Docloom

namespace Regex

variable {regex inside first second : Regex} {set : CharSet} {text other : List Char}
  {most : Option Nat} {least : Nat} {greedy : Bool}

/-- Whether an expression takes a text wherever it stands. -/
def TakesText (regex : Regex) (text : List Char) : Prop :=
  forall spot rest, spot.rest = text ++ rest ->
    exists next, Takes regex spot next ∧ next.rest = rest

theorem takesText_char {c : Char} (h : set.has c = true) : TakesText (.char set) [c] :=
  fun _ _ hspot => ⟨_, .char hspot h, rfl⟩

theorem takesText_stop : TakesText (.times inside 0 most greedy) [] :=
  fun spot _ hspot => ⟨spot, .stop, hspot⟩

namespace TakesText

theorem seq (hfirst : TakesText first text) (hsecond : TakesText second other) :
    TakesText (.seq first second) (text ++ other) := by
  intro spot rest hspot
  rw [List.append_assoc] at hspot
  rcases hfirst spot _ hspot with ⟨middle, hmiddle, hrest⟩
  rcases hsecond middle rest hrest with ⟨next, hnext, hlast⟩
  exact ⟨next, .seq hmiddle hnext, hlast⟩

theorem group (number : Nat) (h : TakesText inside text) :
    TakesText (.group number inside) text := by
  intro spot rest hspot
  rcases h spot rest hspot with ⟨next, hnext, hrest⟩
  exact ⟨_, .group hnext, hrest⟩

theorem optional (h : TakesText inside text) :
    TakesText (.times inside 0 (some 1) greedy) text := by
  intro spot rest hspot
  rcases h spot rest hspot with ⟨next, hnext, hrest⟩
  exact ⟨next, .more (Or.inr (by simp)) hnext .stop, hrest⟩

theorem times {texts : List (List Char)} (h : forall text, text ∈ texts -> TakesText inside text)
    (hleast : least ≤ texts.length) :
    TakesText (.times inside least none greedy) texts.flatten := by
  induction texts generalizing least with
  | nil =>
      rw [Nat.le_zero.mp hleast]
      exact takesText_stop
  | cons text texts ih =>
      intro spot rest hspot
      rw [List.flatten_cons, List.append_assoc] at hspot
      rcases h text List.mem_cons_self spot _ hspot with ⟨middle, hmiddle, hrest⟩
      have hmore : TakesText (.times inside (least - 1) none greedy) texts.flatten := by
        apply ih fun other hother => h other (List.mem_cons_of_mem _ hother)
        exact Nat.sub_le_of_le_add hleast
      rcases hmore middle rest hrest with ⟨next, hnext, hlast⟩
      exact ⟨next, .more (Or.inr (by simp)) hmiddle hnext, hlast⟩

theorem once (h : TakesText inside text) (hleast : least ≤ 1) :
    TakesText (.times inside least none greedy) text := by
  have htimes : TakesText (.times inside least none greedy) [text].flatten := by
    apply times _ hleast
    intro other hother
    rw [List.mem_singleton.mp hother]
    exact h
  rw [List.flatten_singleton] at htimes
  exact htimes

end TakesText

/-- Whether an expression takes something of a text that stands at the end. -/
def TakesEnd (regex : Regex) (text : List Char) : Prop :=
  forall spot, spot.rest = text -> exists next, Takes regex spot next

theorem takesEnd_textEnd : TakesEnd (.anchor .textEnd) [] := by
  intro spot hspot
  exact ⟨spot, .anchor (by simp [Anchor.holds, hspot])⟩

theorem TakesText.seq_end (hfirst : TakesText first text) (hsecond : TakesEnd second other) :
    TakesEnd (.seq first second) (text ++ other) := by
  intro spot hspot
  rcases hfirst spot _ hspot with ⟨middle, hmiddle, hrest⟩
  rcases hsecond middle hrest with ⟨next, hnext⟩
  exact ⟨next, .seq hmiddle hnext⟩

/-!
# Given characters
-/

/-- The expression of a text and what follows it. -/
def spelled (text : List Char) (after : Regex) : Regex :=
  text.foldr (fun c regex => .seq (.char (.single c)) regex) after

/-- The expression of a word, which is not empty. -/
def word (c : Char) : List Char -> Regex
  | [] => .char (.single c)
  | d :: cs => .seq (.char (.single c)) (word d cs)

theorem has_single_iff {c d : Char} : (CharSet.single c).has d = true ↔ d = c := by
  rw [CharSet.single, CharSet.has, Bool.and_eq_true, decide_eq_true_eq, decide_eq_true_eq]
  constructor
  · rintro ⟨hle, hge⟩
    exact Char.le_antisymm hge hle
  · rintro rfl
    exact ⟨Char.le_refl d, Char.le_refl d⟩

theorem takesEnd_spelled {after : Regex} (h : TakesEnd after other) (text : List Char) :
    TakesEnd (spelled text after) (text ++ other) := by
  induction text with
  | nil =>
      exact h
  | cons c text ih =>
      exact (takesText_char (has_single_iff.mpr rfl)).seq_end ih

theorem takesText_word (c : Char) (cs : List Char) : TakesText (word c cs) (c :: cs) := by
  induction cs generalizing c with
  | nil =>
      exact takesText_char (has_single_iff.mpr rfl)
  | cons d cs ih =>
      exact (takesText_char (has_single_iff.mpr rfl)).seq (ih d)

/-- Characters of a set, as many as there may be, are taken by their repetition. -/
theorem takesText_repeat (h : forall c, c ∈ text -> set.has c = true)
    (hleast : least ≤ text.length)
    (hmost : forall limit, most = some limit -> text.length ≤ max least limit) :
    TakesText (.times (.char set) least most greedy) text := by
  induction text generalizing least most with
  | nil =>
      rw [Nat.le_zero.mp hleast]
      exact takesText_stop
  | cons c text ih =>
      intro spot rest hspot
      rw [List.length_cons] at hleast hmost
      have hcount : 0 < least ∨ most ≠ some 0 := by
        by_contra hnot
        rw [not_or, not_not] at hnot
        have := hmost 0 hnot.2
        omega
      have hmore : TakesText (.times (.char set) (least - 1) (most.map (· - 1)) greedy) text := by
        refine ih (fun d hd => h d (List.mem_cons_of_mem _ hd)) (by omega) ?_
        intro limit hlimit
        rcases Option.map_eq_some_iff.mp hlimit with ⟨above, habove, rfl⟩
        have := hmost above habove
        omega
      rcases takesText_char (h c List.mem_cons_self) spot _ hspot with ⟨middle, hmiddle, hrest⟩
      rcases hmore middle rest hrest with ⟨next, hnext, hlast⟩
      exact ⟨next, .more hcount hmiddle hnext, hlast⟩

/-!
# What was taken
-/

variable {spot next : Spot} {number : Nat}

theorem rest_of_takes_char {c : Char} (h : Takes (.char (.single c)) spot next) :
    spot.rest = c :: next.rest ∧ next.groups = spot.groups := by
  cases h with
  | char hrest hset =>
      rw [hrest, has_single_iff.mp hset]
      exact ⟨rfl, rfl⟩

theorem exists_of_takes_spelled {after : Regex} (h : Takes (spelled text after) spot next) :
    exists middle, spot.rest = text ++ middle.rest ∧ middle.groups = spot.groups ∧
      Takes after middle next := by
  induction text generalizing spot with
  | nil =>
      exact ⟨spot, rfl, rfl, h⟩
  | cons c text ih =>
      cases h with
      | seq hfirst hsecond =>
          rcases rest_of_takes_char hfirst with ⟨hrest, hgroups⟩
          rcases ih hsecond with ⟨middle, hmiddle, hsame, hafter⟩
          exact ⟨middle, by rw [hrest, hmiddle, List.cons_append], hsame.trans hgroups, hafter⟩

theorem rest_of_takes_word {c : Char} {cs : List Char} (h : Takes (word c cs) spot next) :
    spot.rest = c :: cs ++ next.rest ∧ next.groups = spot.groups := by
  induction cs generalizing c spot with
  | nil =>
      exact rest_of_takes_char h
  | cons d cs ih =>
      cases h with
      | seq hfirst hsecond =>
          rcases rest_of_takes_char hfirst with ⟨hrest, hgroups⟩
          rcases ih hsecond with ⟨hword, hsame⟩
          exact ⟨by rw [hrest, hword]; rfl, hsame.trans hgroups⟩

/-- A repetition of the characters of a set takes such characters, and keeps no texts. -/
theorem exists_of_takes_repeat (h : Takes (.times (.char set) least most greedy) spot next) :
    exists taken, Took set taken spot next ∧ least ≤ taken.length ∧
      (forall limit, most = some limit -> taken.length ≤ max least limit) ∧
      next.groups = spot.groups := by
  generalize hregex : Regex.times (.char set) least most greedy = regex at h
  induction h generalizing least most with
  | stop =>
      cases hregex
      exact ⟨[], .nil _, Nat.le_refl _, fun _ _ => Nat.zero_le _, rfl⟩
  | more hcount hstep hrest ihStep ihRest =>
      cases hregex
      rename_i least most
      rcases ihRest rfl with ⟨taken, htook, hleast, hmost, hgroups⟩
      cases hstep with
      | char hspot hset =>
          rename_i c rest
          refine ⟨c :: taken, ⟨?_, ?_, ?_⟩, ?_, ?_, hgroups⟩
          · rw [hspot, List.cons_append, ← htook.rest_eq]
          · rw [htook.index_eq, List.length_cons]
            dsimp only
            omega
          · intro d hd
            rcases List.mem_cons.mp hd with rfl | hmem
            · exact hset
            · exact htook.has d hmem
          · rw [List.length_cons]
            omega
          · intro limit hlimit
            have hbound := hmost (limit - 1) (by rw [hlimit]; rfl)
            have hpositive : 0 < least ∨ limit ≠ 0 := by
              rcases hcount with hleast | hne
              · exact Or.inl hleast
              · exact Or.inr fun hzero => hne (by rw [hlimit, hzero])
            rw [List.length_cons]
            omega
  | _ =>
      cases hregex

/-- A group keeps what stands between the spots before and after it. -/
theorem exists_of_takes_group (h : Takes (.group number inside) spot next)
    (htext : spot.rest = text ++ next.rest) :
    exists last, Takes inside spot last ∧ last.rest = next.rest ∧
      next = last.keeping number text := by
  cases h with
  | group hinside =>
      rename_i last
      rcases hinside.exists_taken with ⟨taken, hrest, hindex⟩
      have hsame : taken = text := List.append_cancel_right (hrest.symm.trans htext)
      refine ⟨last, hinside, rfl, ?_⟩
      rw [hindex, Nat.add_sub_cancel_left, hrest, List.take_left, hsame]

end Regex
end Docloom
