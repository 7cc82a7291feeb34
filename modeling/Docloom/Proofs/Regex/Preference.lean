import Docloom.Proofs.Regex.Language
import Docloom.Proofs.Regex.Reach

/-!
# What a run prefers

A search takes the first spot that a run leads to.  Of spots at one place only the first is kept;
that loses nothing for what comes after, for whether an expression takes anything from a spot on
depends on the place alone.  So a sequence goes through the spots after its first part in turn,
until the second part leads on from one of them.
-/

namespace Docloom
namespace Regex

variable {α : Type} {f : Spot -> Option α} {start spot next other : Spot} {spots : List Spot}
  {regex inside first second : Regex} {set : CharSet} {c : Char} {taken rest text : List Char}
  {least most number : Nat} {greedy : Bool}

/-- The spot that a run prefers. -/
def best? (regex : Regex) (spot : Spot) : Option Spot := (regex.run spot).head?

/-- Whether it is the place of a spot alone that decides whether something comes of it. -/
def Placed (f : Spot -> Option α) : Prop :=
  forall spot other, SamePlace spot other -> f spot = none -> f other = none

theorem placed_best? (regex : Regex) : Placed regex.best? := by
  intro spot other hsame hnone
  rw [best?, List.head?_eq_none_iff] at hnone ⊢
  rw [List.eq_nil_iff_forall_not_mem]
  intro next hnext
  rcases exists_mem_of_takes (takes_of_mem_run hnext) hsame.symm with ⟨last, hlast, _⟩
  rw [hnone] at hlast
  cases hlast

/-!
# Spots at one place
-/

theorem findSome?_distinctFrom (hf : Placed f) {seen : List Nat}
    (hspots : forall spot, spot ∈ spots -> Ahead start spot)
    (hseen : forall spot, spot ∈ spots -> spot.index ∈ seen -> f spot = none) :
    (distinctFrom seen spots).findSome? f = spots.findSome? f := by
  induction spots generalizing seen with
  | nil =>
      rfl
  | cons spot spots ih =>
      have hrest : forall other, other ∈ spots -> Ahead start other :=
        fun other hother => hspots other (List.mem_cons_of_mem _ hother)
      have hseenRest : forall other, other ∈ spots -> other.index ∈ seen -> f other = none :=
        fun other hother => hseen other (List.mem_cons_of_mem _ hother)
      rw [distinctFrom]
      split
      · rename_i hmem
        rw [List.findSome?_cons, hseen spot List.mem_cons_self (by simpa using hmem)]
        exact ih hrest hseenRest
      · rw [List.findSome?_cons, List.findSome?_cons]
        cases hspot : f spot with
        | some result =>
            rfl
        | none =>
            apply ih hrest
            intro other hother hmem
            rcases List.mem_cons.mp hmem with hindex | hbefore
            · have hplace : SamePlace spot other :=
                (hspots spot List.mem_cons_self).samePlace (hrest other hother) hindex.symm
              exact hf spot other hplace hspot
            · exact hseenRest other hother hbefore

/-- Spots that are left out would have come to nothing. -/
theorem findSome?_distinct (hf : Placed f)
    (hspots : forall spot, spot ∈ spots -> Ahead start spot) :
    (distinct spots).findSome? f = spots.findSome? f :=
  findSome?_distinctFrom hf hspots (by simp)

theorem head?_distinct (spots : List Spot) : (distinct spots).head? = spots.head? := by
  cases spots <;> rfl

theorem ahead_of_mem_run (h : next ∈ regex.run spot) : Ahead spot next :=
  (takes_of_mem_run h).ahead

/-!
# Parts of an expression
-/

/-- The spot after characters that follow another one. -/
def Spot.past (spot : Spot) (taken rest : List Char) : Spot :=
  { spot with index := spot.index + taken.length, before := taken.getLast?.or spot.before, rest }

theorem findSome?_char (set : CharSet) (spot : Spot) (f : Spot -> Option α) :
    ((Regex.char set).run spot).findSome? f =
      match spot.rest with
      | [] => none
      | c :: rest =>
          if set.has c then f (spot.past [c] rest) else none := by
  rw [run, takeChar]
  cases spot.rest with
  | nil =>
      rfl
  | cons c rest =>
      dsimp only
      split
      · exact List.findSome?_singleton
      · rfl

theorem findSome?_anchor (condition : Anchor) (spot : Spot) (f : Spot -> Option α) :
    ((Regex.anchor condition).run spot).findSome? f =
      if condition.holds spot then f spot else none := by
  rw [run]
  dsimp only
  split
  · exact List.findSome?_singleton
  · rfl

theorem best?_char (set : CharSet) (spot : Spot) :
    best? (.char set) spot =
      match spot.rest with
      | [] => none
      | c :: rest => if set.has c then some (spot.past [c] rest) else none := by
  rw [best?, run, takeChar]
  cases spot.rest with
  | nil =>
      rfl
  | cons c rest =>
      dsimp only
      split
      · rfl
      · rfl

theorem best?_anchor (condition : Anchor) (spot : Spot) :
    best? (.anchor condition) spot = if condition.holds spot then some spot else none := by
  rw [best?, run]
  dsimp only
  split
  · rfl
  · rfl

theorem best?_seq (first second : Regex) (spot : Spot) :
    best? (.seq first second) spot = (first.run spot).findSome? second.best? := by
  rw [best?, run, andThen, head?_distinct, List.head?_flatMap]
  rfl

theorem findSome?_seq (hf : Placed f) :
    ((Regex.seq first second).run spot).findSome? f =
      (first.run spot).findSome? fun middle => (second.run middle).findSome? f := by
  have hspots : forall next, next ∈ (first.run spot).flatMap second.run -> Ahead spot next := by
    intro next hnext
    rcases List.mem_flatMap.mp hnext with ⟨middle, hmiddle, hlast⟩
    exact (ahead_of_mem_run hmiddle).trans (ahead_of_mem_run hlast)
  rw [run, andThen, findSome?_distinct hf hspots, Lists.findSome?_flatMap]

theorem best?_alt (first second : Regex) (spot : Spot) :
    best? (.alt first second) spot = (first.best? spot).or (second.best? spot) := by
  rw [best?, run, orElse, head?_distinct, List.head?_append]
  rfl

theorem findSome?_alt (hf : Placed f) :
    ((Regex.alt first second).run spot).findSome? f =
      ((first.run spot).findSome? f).or ((second.run spot).findSome? f) := by
  have hspots : forall next, next ∈ first.run spot ++ second.run spot -> Ahead spot next := by
    intro next hnext
    rcases List.mem_append.mp hnext with hmem | hmem
    · exact ahead_of_mem_run hmem
    · exact ahead_of_mem_run hmem
  rw [run, orElse, findSome?_distinct hf hspots, List.findSome?_append]

/-- What may be left out is taken where that comes to something. -/
theorem findSome?_optional (hf : Placed f) :
    ((Regex.times inside 0 (some 1) true).run spot).findSome? f =
      ((inside.run spot).findSome? f).or (f spot) := by
  have honce : andThen inside.run (atMost true inside.run 0) spot =
      distinct (inside.run spot) := by
    rw [andThen]
    exact congrArg distinct (List.flatMap_singleton' _)
  have hmem : forall next, next ∈ distinct (inside.run spot) ++ [spot] -> Ahead spot next := by
    intro next hnext
    rcases List.mem_append.mp hnext with hinside | hself
    · exact ahead_of_mem_run (mem_of_mem_distinct hinside)
    · rw [List.mem_singleton.mp hself]
      exact .refl spot
  have hrun : (Regex.times inside 0 (some 1) true).run spot =
      distinct (distinct (distinct (inside.run spot) ++ [spot])) := by
    rw [← honce]
    exact congrArg distinct (List.flatMap_singleton _ _)
  rw [hrun, findSome?_distinct hf fun next hnext => hmem next (mem_of_mem_distinct hnext),
    findSome?_distinct hf hmem, List.findSome?_append,
    findSome?_distinct hf fun next => ahead_of_mem_run, List.findSome?_singleton]

/-!
# Bounded repetitions
-/

theorem eq_past_of_ahead (h : Ahead spot next) (hrest : spot.rest = taken ++ next.rest)
    (hgroups : next.groups = spot.groups) : next = spot.past taken next.rest := by
  rcases h with ⟨text, htext, hindex, hbefore⟩
  obtain rfl : text = taken := List.append_cancel_right (htext.symm.trans hrest)
  cases next
  simp only [Spot.past, Spot.mk.injEq] at hindex hbefore hgroups ⊢
  exact ⟨hindex, hbefore, trivial, hgroups⟩

/-- A group of so many characters of a set. -/
def bounded (number : Nat) (set : CharSet) (least most : Nat) (greedy : Bool) : Regex :=
  .group number (.times (.char set) least (some most) greedy)

theorem exists_of_mem_bounded (hle : least ≤ most)
    (h : next ∈ (bounded number set least most greedy).run spot) :
    exists taken, spot.rest = taken ++ next.rest ∧ (forall c, c ∈ taken -> set.has c = true) ∧
      least ≤ taken.length ∧ taken.length ≤ most ∧
      next = (spot.past taken next.rest).keeping number taken := by
  have htakes := takes_of_mem_run h
  rcases htakes.exists_taken with ⟨taken, hrest, _⟩
  rcases exists_of_takes_group htakes hrest with ⟨last, hinside, hlast, rfl⟩
  rcases exists_of_takes_repeat hinside with ⟨text, htook, hleast, hmost, hgroups⟩
  obtain rfl : text = taken :=
    List.append_cancel_right (htook.rest_eq.symm.trans (hlast ▸ hrest))
  have hbound := hmost most rfl
  rw [Nat.max_eq_right hle] at hbound
  refine ⟨text, hrest, htook.has, hleast, hbound, ?_⟩
  rw [← hlast, ← eq_past_of_ahead hinside.ahead htook.rest_eq hgroups]

/-- Where nothing comes of a spot before another character of the set, all characters of the set
must be taken. -/
theorem findSome?_bounded (hle : least ≤ most)
    (hstop : forall spot c rest, spot.rest = c :: rest -> set.has c = true -> f spot = none)
    (spot : Spot) :
    ((bounded number set least most greedy).run spot).findSome? f =
      if least ≤ (spot.rest.takeWhile set.has).length ∧
          (spot.rest.takeWhile set.has).length ≤ most then
        f ((spot.past (spot.rest.takeWhile set.has)
          (spot.rest.dropWhile set.has)).keeping number (spot.rest.takeWhile set.has))
      else
        none := by
  have hwhole : forall next, next ∈ (bounded number set least most greedy).run spot ->
      f next ≠ none -> least ≤ (spot.rest.takeWhile set.has).length ∧
        (spot.rest.takeWhile set.has).length ≤ most ∧
          next = (spot.past (spot.rest.takeWhile set.has)
            (spot.rest.dropWhile set.has)).keeping number (spot.rest.takeWhile set.has) := by
    intro next hnext hsome
    rcases exists_of_mem_bounded hle hnext with ⟨taken, hrest, hset, hleast, hmost, heq⟩
    have hhead : forall c, next.rest.head? = some c -> set.has c = false := by
      intro c hc
      rw [Bool.eq_false_iff]
      intro hhas
      exact hsome (hstop next c next.rest.tail (List.eq_cons_of_mem_head? hc) hhas)
    rcases Lists.takeWhile_append hset hhead with ⟨htake, hdrop⟩
    rw [hrest, htake, hdrop]
    exact ⟨hleast, hmost, heq⟩
  split
  · rename_i hcount
    have htakes : (bounded number set least most greedy).TakesText
        (spot.rest.takeWhile set.has) := by
      apply TakesText.group
      refine takesText_repeat (fun c => List.mem_takeWhile_imp) hcount.1 ?_
      rintro _ ⟨⟩
      rw [Nat.max_eq_right hle]
      exact hcount.2
    have hsplit : spot.rest = spot.rest.takeWhile set.has ++ spot.rest.dropWhile set.has :=
      List.takeWhile_append_dropWhile.symm
    rcases htakes spot _ hsplit with ⟨next, hnext, hrest⟩
    rcases exists_mem_of_takes hnext (.refl spot) with ⟨last, hlast, hplace⟩
    rcases exists_of_mem_bounded hle hlast with ⟨taken, htaken, _, _, _, heq⟩
    rw [← hplace.rest_eq, hrest] at htaken heq
    obtain rfl : spot.rest.takeWhile set.has = taken :=
      List.append_cancel_right (hsplit.symm.trans htaken)
    rw [← heq]
    apply Lists.findSome?_of_unique hlast
    intro other hother hne
    by_contra hsome
    exact hne ((hwhole other hother hsome).2.2.trans heq.symm)
  · rename_i hcount
    rw [List.findSome?_eq_none_iff]
    intro next hnext
    by_contra hsome
    rcases hwhole next hnext hsome with ⟨hleast, hmost, _⟩
    exact hcount ⟨hleast, hmost⟩

/-!
# Searches
-/

theorem searchFrom_nil (regex : Regex) (index : Nat) (before : Option Char) :
    regex.searchFrom index before [] = regex.best? ⟨index, before, [], []⟩ := by
  rfl

/-- A search goes on where the expression takes nothing. -/
theorem searchFrom_cons (regex : Regex) (index : Nat) (before : Option Char) (c : Char)
    (rest : List Char) :
    regex.searchFrom index before (c :: rest) =
      (regex.best? ⟨index, before, c :: rest, []⟩).or
        (regex.searchFrom (index + 1) (some c) rest) := by
  rw [searchFrom, best?]
  cases regex.run ⟨index, before, c :: rest, []⟩ <;> rfl

end Regex
end Docloom
