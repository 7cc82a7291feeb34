import Docloom.Proofs.Regex.Capture
import Docloom.Proofs.Regex.Embedding
import Docloom.Proofs.Regex.Reach
import Mathlib.Data.List.Flatten

/-!
# Numbers of groups

The groups of an expression are numbered from one on, in the order in which they are opened.
-/

namespace Docloom
namespace Regex

/-- The groups of an expression with what is inside them, in the order in which they are opened. -/
def groups : Regex -> List (Nat × Regex)
  | .empty => []
  | .char _ => []
  | Regex.anchor _ => []
  | .group number inside => (number, inside) :: inside.groups
  | .seq first second => first.groups ++ second.groups
  | .alt first second => first.groups ++ second.groups
  | .times inside _ _ _ => inside.groups

/-- The numbers of the groups of an expression, in the order in which they are opened. -/
def numbers (regex : Regex) : List Nat := regex.groups.map Prod.fst

variable {regex : Regex} {count : Nat}

theorem length_numbers (regex : Regex) : regex.numbers.length = regex.groups.length :=
  List.length_map _

theorem length_groups_renumbered (count : Nat) (regex : Regex) :
    (regex.renumbered count).groups.length = regex.groups.length := by
  induction regex with
  | empty =>
      rfl
  | char set =>
      rfl
  | anchor condition =>
      rfl
  | group number inside ih =>
      exact congrArg Nat.succ ih
  | seq first second ihFirst ihSecond =>
      simp only [renumbered, groups, List.length_append, ihFirst, ihSecond]
  | alt first second ihFirst ihSecond =>
      simp only [renumbered, groups, List.length_append, ihFirst, ihSecond]
  | times inside least most greedy ih =>
      exact ih

theorem renumbered_of_groups (count : Nat) (h : regex.groups = []) :
    regex.renumbered count = regex := by
  induction regex with
  | empty =>
      rfl
  | char set =>
      rfl
  | anchor condition =>
      rfl
  | group number inside ih =>
      cases h
  | seq first second ihFirst ihSecond =>
      rw [groups, List.append_eq_nil_iff] at h
      rw [renumbered, ihFirst h.1, ihSecond h.2]
  | alt first second ihFirst ihSecond =>
      rw [groups, List.append_eq_nil_iff] at h
      rw [renumbered, ihFirst h.1, ihSecond h.2]
  | times inside least most greedy ih =>
      rw [renumbered, ih h]

namespace Level

/-- The groups in what was read at a level. -/
def groupsInside (level : Level) : List (Nat × Regex) :=
  level.branches.reverse.flatMap groups ++
    level.items.reverse.flatMap fun item => item.elim [] groups

/-- The numbers of the groups in a level, that of the level itself first. -/
def numbers (level : Level) : List Nat :=
  level.number.toList ++ level.groupsInside.map Prod.fst

theorem groups_sequenceOnto (after : Regex) (items : List (Option Regex)) :
    (sequenceOnto after items).groups =
      (items.reverse.flatMap fun item => item.elim [] groups) ++ after.groups := by
  induction items generalizing after with
  | nil =>
      rfl
  | cons item items ih =>
      cases item with
      | none =>
          rw [sequenceOnto, ih]
          simp
      | some item =>
          rw [sequenceOnto, ih]
          simp [groups]

theorem groups_sequence (items : List (Option Regex)) :
    (sequence items).groups = items.reverse.flatMap fun item => item.elim [] groups := by
  induction items with
  | nil =>
      rfl
  | cons item items ih =>
      cases item with
      | none =>
          rw [sequence, ih]
          simp
      | some item =>
          rw [sequence, groups_sequenceOnto]
          simp

theorem groups_alternatives (last : Regex) (branches : List Regex) :
    (alternatives last branches).groups = branches.reverse.flatMap groups ++ last.groups := by
  induction branches generalizing last with
  | nil =>
      rfl
  | cons branch branches ih =>
      rw [alternatives, ih]
      simp [groups]

theorem groups_inside (level : Level) : level.inside.groups = level.groupsInside := by
  unfold inside groupsInside
  rw [groups_alternatives, groups_sequence]

theorem numbers_group (level : Level) : level.group.numbers = level.numbers := by
  unfold group numbers
  rw [← groups_inside]
  cases level.number with
  | none =>
      rfl
  | some number =>
      rfl

end Level

namespace Reader

variable {reader result final : Reader} {cs rest : List Char} {c : Char}

/-- The numbers of the groups that were opened so far. -/
def numbers (reader : Reader) : List Nat :=
  reader.outer.reverse.flatMap Level.numbers ++ reader.level.numbers

/-- The lowest one of levels, which is that of the whole expression. -/
def ground : Level -> List Level -> Level
  | level, [] => level
  | _, below :: outer => ground below outer

/-- Whether the groups of a reader are numbered from one on, and the whole expression has no
number. -/
structure Numbered (reader : Reader) : Prop where
  next_eq : reader.next = reader.numbers.length + 1
  numbers_eq : reader.numbers = List.range' 1 reader.numbers.length
  ground_eq : (ground reader.level reader.outer).number = none

theorem numbered_start (setting : Setting) : Numbered (start setting) := ⟨rfl, rfl, rfl⟩

/-- Where no group was opened, nothing changes. -/
theorem Numbered.of_numbers (h : Numbered reader) (hnext : result.next = reader.next)
    (hnumbers : result.numbers = reader.numbers)
    (hground : (ground result.level result.outer).number =
      (ground reader.level reader.outer).number) : Numbered result := by
  refine ⟨?_, ?_, hground.trans h.ground_eq⟩
  · rw [hnext, hnumbers]
    exact h.next_eq
  · rw [hnumbers]
    exact h.numbers_eq

theorem numbers_push (reader : Reader) (item : Option Regex) :
    (reader.push item).numbers = reader.numbers ++ item.elim [] Regex.numbers := by
  cases item <;> simp [numbers, push, Level.numbers, Level.groupsInside, Regex.numbers]

theorem ground_push (reader : Reader) (item : Option Regex) :
    (ground (reader.push item).level (reader.push item).outer).number =
      (ground reader.level reader.outer).number := by
  rcases reader with ⟨setting, next, names, level, outer⟩
  cases outer <;> rfl

theorem Numbered.push (h : Numbered reader) {item : Option Regex}
    (hitem : item.elim [] Regex.numbers = []) : Numbered (reader.push item) := by
  refine h.of_numbers rfl ?_ (ground_push reader item)
  rw [numbers_push, hitem, List.append_nil]

theorem numbers_openGroup (reader : Reader) (number : Option Nat) (setting : Setting) :
    (reader.openGroup number setting).numbers = reader.numbers ++ number.toList := by
  simp [numbers, openGroup, Level.numbers, Level.groupsInside, Level.start]

theorem Numbered.openNumbered (h : Numbered reader) : Numbered reader.openNumbered := by
  have hnumbers : reader.openNumbered.numbers = reader.numbers ++ [reader.next] :=
    numbers_openGroup reader (some reader.next) reader.setting
  have hlength : reader.openNumbered.numbers.length = reader.numbers.length + 1 := by
    rw [hnumbers, List.length_append]
    rfl
  refine ⟨?_, ?_, h.ground_eq⟩
  · rw [hlength]
    exact congrArg Nat.succ h.next_eq
  · rw [hlength, List.range'_concat, hnumbers, ← h.numbers_eq, h.next_eq]
    simp [Nat.add_comm]

theorem numbers_closeGroup (h : reader.closeGroup = some result) :
    result.next = reader.next ∧ result.numbers = reader.numbers ∧
      (ground result.level result.outer).number = (ground reader.level reader.outer).number := by
  rcases reader with ⟨setting, next, names, level, outer⟩
  cases outer with
  | nil =>
      cases h
  | cons below outer =>
      have hclose : Reader.closeGroup ⟨setting, next, names, level, below :: outer⟩ =
          some (Reader.push ⟨level.outside, next, names, below, outer⟩ (some level.group)) := rfl
      rw [hclose] at h
      cases h
      refine ⟨rfl, ?_, ground_push _ _⟩
      rw [numbers_push, Option.elim_some, Level.numbers_group]
      simp [numbers]

theorem Numbered.apply {move : Move} (h : Numbered reader)
    (hmove : move.apply reader = some result) : Numbered result := by
  cases move with
  | char set =>
      cases hmove
      exact h.push rfl
  | anchor condition =>
      cases hmove
      exact h.push rfl
  | put setting =>
      cases hmove
      have hpush : Numbered (reader.push none) := h.push rfl
      exact hpush.of_numbers rfl rfl rfl
  | openPlain setting =>
      cases hmove
      refine h.of_numbers rfl ?_ rfl
      rw [numbers_openGroup]
      exact List.append_nil _
  | openNumbered =>
      cases hmove
      exact h.openNumbered
  | openNamed name =>
      rw [Move.apply] at hmove
      split at hmove
      · cases hmove
      · cases hmove
        exact Numbered.openNumbered (h.of_numbers rfl rfl rfl)
  | close =>
      have hclose := numbers_closeGroup hmove
      exact h.of_numbers hclose.1 hclose.2.1 hclose.2.2
  | branch =>
      cases hmove
      rcases reader with ⟨setting, next, names, level, outer⟩
      refine h.of_numbers rfl ?_ (by cases outer <;> rfl)
      simp [numbers, Reader.branch, Level.numbers, Level.groupsInside, Level.groups_sequence]
  | repeatLast least most greedy =>
      rcases reader with ⟨setting, next, names, ⟨number, outside, branches, items⟩, outer⟩
      rw [Move.apply, Reader.repeatLast] at hmove
      dsimp only at hmove
      split at hmove
      · rename_i item below
        cases hmove
        refine h.of_numbers rfl ?_ (by cases outer <;> rfl)
        simp [numbers, Level.numbers, Level.groupsInside, groups]
      · cases hmove

theorem Numbered.ends (h : Numbered reader) (hends : Ends reader cs final) : Numbered final := by
  induction hends with
  | done =>
      exact h
  | step hskip hstep hrest ih =>
      rename_i reader next final c cs rest behind
      rcases exists_move hstep with ⟨move, _, hfound, _⟩
      exact ih (h.apply hfound)

/-- What a reader has read, if it has read the whole of an expression. -/
structure Reads (final : Reader) (regex : Regex) : Prop where
  outer_eq : final.outer = []
  inside_eq : final.level.inside = regex
  next_eq : final.next = regex.groups.length + 1
  numbers_eq : regex.numbers = List.range' 1 regex.groups.length

theorem Numbered.reads (h : Numbered reader) (houter : reader.outer = []) :
    Reads reader reader.level.inside := by
  rcases reader with ⟨setting, next, names, level, outer⟩
  cases houter
  have hnumbers : Reader.numbers ⟨setting, next, names, level, []⟩ = level.inside.numbers := by
    have hground : level.number = none := h.ground_eq
    rw [Regex.numbers, Level.groups_inside, numbers, Level.numbers, hground]
    rfl
  have hlength := length_numbers level.inside
  refine ⟨rfl, rfl, ?_, ?_⟩
  · rw [h.next_eq, hnumbers, hlength]
  · rw [← hlength, ← hnumbers]
    exact h.numbers_eq

end Reader

/-!
# Whole expressions
-/

open Reader

variable {text : String}

/-- The setting in which expressions are read. -/
def baseSetting : Setting := { ignoreCase := true }

theorem exists_ends_of_read (h : read? text = some regex) :
    exists final, Ends (start baseSetting) text.toList final ∧ Reads final regex := by
  unfold read? at h
  dsimp only at h
  split at h
  · rename_i final hread
    rcases Option.ite_none_right_eq_some.mp h with ⟨⟨houter, _⟩, heq⟩
    cases heq
    have hends := ends_of_readPieces hread
    have hnumbered := (numbered_start baseSetting).ends hends
    exact ⟨final, hends, hnumbered.reads (by simpa using houter)⟩
  · cases h

/-- The expression of a text that is an expression by itself, also between parentheses. -/
def own? (text : String) : Option Regex :=
  if (read? ("(" ++ text ++ ")")).isSome then read? text else none

/-!
# Texts of groups

The text of a group in a match was taken by what is inside that group, at its place in the text.
-/

section Taken

variable {spot middle next : Spot} {number : Nat} {text : List Char}

/-- Whether a text was taken by a group with a number, somewhere ahead of a spot. -/
def TakenAhead (groups : List (Nat × Regex)) (spot : Spot) (number : Nat) (text : List Char) :
    Prop :=
  exists inside start last, (number, inside) ∈ groups ∧ Ahead spot start ∧
    last ∈ inside.run start ∧ start.rest = text ++ last.rest

theorem TakenAhead.of_subset {groups more : List (Nat × Regex)}
    (h : TakenAhead groups spot number text) (hsub : groups ⊆ more) :
    TakenAhead more spot number text := by
  rcases h with ⟨inside, start, last, hmem, hrest⟩
  exact ⟨inside, start, last, hsub hmem, hrest⟩

theorem TakenAhead.of_ahead {groups : List (Nat × Regex)}
    (h : TakenAhead groups middle number text) (hahead : Ahead spot middle) :
    TakenAhead groups spot number text := by
  rcases h with ⟨inside, start, last, hmem, hstart, hrest⟩
  exact ⟨inside, start, last, hmem, hahead.trans hstart, hrest⟩

/-- After a run a group has the text that it had before, or one that was taken inside it. -/
theorem eq_or_takenAhead (h : next ∈ regex.run spot) (hgroup : next.group? number = some text) :
    spot.group? number = some text ∨ TakenAhead regex.groups spot number text := by
  induction regex generalizing spot next with
  | empty =>
      rw [List.mem_singleton.mp h] at hgroup
      exact Or.inl hgroup
  | char set =>
      cases takes_of_mem_run h with
      | char hrest hset =>
          exact Or.inl hgroup
  | anchor condition =>
      cases takes_of_mem_run h with
      | anchor hholds =>
          exact Or.inl hgroup
  | group index inside ih =>
      rcases exists_inside_of_mem_group h with ⟨last, hlast, hrest, hsame, hkept⟩
      by_cases hnumber : number = index
      · subst hnumber
        rcases (takes_of_mem_run h).ahead with ⟨taken, htaken, _, _⟩
        have heq := hkept taken htaken
        rw [hgroup] at heq
        cases heq
        rw [← hrest] at htaken
        exact Or.inr ⟨inside, spot, last, List.mem_cons_self, .refl spot, hlast, htaken⟩
      · rw [hsame number hnumber] at hgroup
        rcases ih hlast hgroup with hbefore | htaken
        · exact Or.inl hbefore
        · exact Or.inr (htaken.of_subset (List.subset_cons_self _ _))
  | seq first second ihFirst ihSecond =>
      rcases exists_of_mem_seq h with ⟨middle, hfirst, hsecond⟩
      rcases ihSecond hsecond hgroup with hmiddle | htaken
      · rcases ihFirst hfirst hmiddle with hbefore | htaken
        · exact Or.inl hbefore
        · exact Or.inr (htaken.of_subset (List.subset_append_left _ _))
      · have hahead := (takes_of_mem_run hfirst).ahead
        exact Or.inr ((htaken.of_ahead hahead).of_subset (List.subset_append_right _ _))
  | alt first second ihFirst ihSecond =>
      rcases List.mem_append.mp (mem_of_mem_distinct h) with hfirst | hsecond
      · rcases ihFirst hfirst hgroup with hbefore | htaken
        · exact Or.inl hbefore
        · exact Or.inr (htaken.of_subset (List.subset_append_left _ _))
      · rcases ihSecond hsecond hgroup with hbefore | htaken
        · exact Or.inl hbefore
        · exact Or.inr (htaken.of_subset (List.subset_append_right _ _))
  | times inside least most greedy ih =>
      rcases chain_of_mem_times h with ⟨count, hleast, hmost, hchain⟩
      clear h hleast hmost
      -- The group may have its text from an earlier repetition than the last one.
      induction hchain with
      | nil =>
          exact Or.inl hgroup
      | cons hstep hrest ihRest =>
          rcases ihRest hgroup with hmiddle | htaken
          · exact ih hstep hmiddle
          · exact Or.inr (htaken.of_ahead (takes_of_mem_run hstep).ahead)

/-!
# Searches
-/

/-- Whether an expression takes a text at some place of a longer one. -/
def TakesIn (regex : Regex) (whole text : List Char) : Prop :=
  exists passed spot next, whole = passed ++ spot.rest ∧ spot.index = passed.length ∧
    spot.before = passed.getLast? ∧ next ∈ regex.run spot ∧ spot.rest = text ++ next.rest

theorem ahead_of_searchFrom {whole : List Char} {before : Option Char} {cs : List Char} {n : Nat}
    (hstands : Ahead (.ofText whole) ⟨n, before, cs, []⟩)
    (h : regex.searchFrom n before cs = some next) :
    exists spot, Ahead (.ofText whole) spot ∧ spot.groups = [] ∧ next ∈ regex.run spot := by
  induction cs generalizing n before with
  | nil =>
      exact ⟨_, hstands, rfl, List.mem_of_head? h⟩
  | cons c rest ih =>
      rw [searchFrom] at h
      split at h
      · rename_i found others hrun
        cases h
        exact ⟨_, hstands, rfl, by rw [hrun]; exact List.mem_cons_self⟩
      · refine ih (hstands.trans ?_) h
        exact ⟨[c], rfl, rfl, rfl⟩

theorem takesIn_of_search {whole : String} {found : List (Nat × String)} {value : String}
    (h : regex.search? whole = some found) (hvalue : found.lookup number = some value) :
    exists inside, (number, inside) ∈ regex.groups ∧ TakesIn inside whole.toList value.toList := by
  rcases Option.map_eq_some_iff.mp h with ⟨next, hsearch, rfl⟩
  rcases ahead_of_searchFrom (.refl _) hsearch with ⟨spot, hspot, hgroups, hrun⟩
  rw [Lists.lookup_map] at hvalue
  rcases Option.map_eq_some_iff.mp hvalue with ⟨text, htext, rfl⟩
  rcases eq_or_takenAhead hrun htext with
    hbefore | ⟨inside, start, last, hmem, hstart, hlast, hrest⟩
  · simp [Spot.group?, hgroups] at hbefore
  · rcases hspot.trans hstart with ⟨passed, hpassed, hindex, hbefore⟩
    refine ⟨inside, hmem, passed, start, last, hpassed, ?_, ?_, hlast, ?_⟩
    · simpa [Spot.ofText] using hindex
    · simpa [Spot.ofText] using hbefore
    · simpa using hrest

end Taken

end Regex
end Docloom
