import Docloom.Proofs.Lists
import Docloom.Regex.Basic

/-!
# What expressions take

A run prefers some ways to others, and leaves out ways to places that it has reached already.
Still each spot that it leads to is one that the expression takes.  What is true of all that an
expression takes is so true of every match: how much of the text it is at least, and which
groups have a text.
-/

namespace Docloom
namespace Regex

/-!
# What an expression takes
-/

namespace Spot

/-- The text of the group with a number, if the group took part. -/
def group? (spot : Spot) (number : Nat) : Option (List Char) := spot.groups.lookup number

/-- The spot with a text for the group with a number. -/
def keeping (spot : Spot) (number : Nat) (text : List Char) : Spot :=
  { spot with groups := (number, text) :: spot.groups.filter fun group => group.1 != number }

theorem group?_keeping_self (spot : Spot) (number : Nat) (text : List Char) :
    (spot.keeping number text).group? number = some text := by
  simp [group?, keeping]

theorem group?_keeping_of_ne {number other : Nat} (hne : other ≠ number) (spot : Spot)
    (text : List Char) : (spot.keeping number text).group? other = spot.group? other := by
  rw [group?, keeping, List.lookup_cons, beq_false_of_ne hne]
  exact Lists.lookup_filter_ne hne

end Spot

/-- What an expression takes from a spot on, whatever it prefers. -/
inductive Takes : Regex -> Spot -> Spot -> Prop where
  | empty {spot : Spot} : Takes .empty spot spot
  | char {spot : Spot} {set : CharSet} {c : Char} {rest : List Char}
      (hrest : spot.rest = c :: rest) (hset : set.has c = true) :
      Takes (.char set) spot { spot with index := spot.index + 1, before := some c, rest }
  | anchor {spot : Spot} {condition : Anchor} (hholds : condition.holds spot = true) :
      Takes (.anchor condition) spot spot
  | group {inside : Regex} {spot next : Spot} {number : Nat} (hinside : Takes inside spot next) :
      Takes (.group number inside) spot
        (next.keeping number (spot.rest.take (next.index - spot.index)))
  | seq {first second : Regex} {spot middle next : Spot} (hfirst : Takes first spot middle)
      (hsecond : Takes second middle next) : Takes (.seq first second) spot next
  | left {first second : Regex} {spot next : Spot} (hfirst : Takes first spot next) :
      Takes (.alt first second) spot next
  | right {first second : Regex} {spot next : Spot} (hsecond : Takes second spot next) :
      Takes (.alt first second) spot next
  | stop {inside : Regex} {spot : Spot} {most : Option Nat} {greedy : Bool} :
      Takes (.times inside 0 most greedy) spot spot
  | more {inside : Regex} {spot middle next : Spot} {least : Nat} {most : Option Nat}
      {greedy : Bool} (hcount : 0 < least ∨ most ≠ some 0) (hstep : Takes inside spot middle)
      (hrest : Takes (.times inside (least - 1) (most.map (· - 1)) greedy) middle next) :
      Takes (.times inside least most greedy) spot next

/-- A number of steps of a way, one after another. -/
inductive Chain (way : Way) : Nat -> Spot -> Spot -> Prop where
  | nil {spot : Spot} : Chain way 0 spot spot
  | cons {spot middle next : Spot} {n : Nat} (hstep : middle ∈ way spot)
      (hrest : Chain way n middle next) : Chain way (n + 1) spot next

variable {way : Way} {spot middle next : Spot} {spots found : List Spot}
  {regex inside first second : Regex} {n m : Nat} {greedy : Bool}

/-!
# Distinct spots
-/

theorem mem_of_mem_distinctFrom {seen : List Nat} (h : spot ∈ distinctFrom seen spots) :
    spot ∈ spots := by
  induction spots generalizing seen with
  | nil =>
      cases h
  | cons other rest ih =>
      rw [distinctFrom] at h
      split at h
      · exact List.mem_cons_of_mem _ (ih h)
      · rcases List.mem_cons.mp h with rfl | hrest
        · exact List.mem_cons_self
        · exact List.mem_cons_of_mem _ (ih hrest)

theorem mem_of_mem_distinct (h : spot ∈ distinct spots) : spot ∈ spots :=
  mem_of_mem_distinctFrom h

theorem exists_mem_distinctFrom {seen : List Nat} (h : spot ∈ spots)
    (hseen : spot.index ∉ seen) :
    exists kept, kept ∈ distinctFrom seen spots ∧ kept.index = spot.index := by
  induction spots generalizing seen with
  | nil =>
      cases h
  | cons other rest ih =>
      rw [distinctFrom]
      by_cases hother : other.index = spot.index
      · rw [if_neg (by simpa [hother] using hseen)]
        exact ⟨other, List.mem_cons_self, hother⟩
      · have hrest : spot ∈ rest := by
          rcases List.mem_cons.mp h with rfl | hrest
          · exact absurd rfl hother
          · exact hrest
        split
        · exact ih hrest hseen
        · have hmore : spot.index ∉ other.index :: seen := by
            simp [hseen, Ne.symm hother]
          rcases ih hrest hmore with ⟨kept, hkept, hindex⟩
          exact ⟨kept, List.mem_cons_of_mem _ hkept, hindex⟩

/-- Of the spots at one place one is kept. -/
theorem exists_mem_distinct (h : spot ∈ spots) :
    exists kept, kept ∈ distinct spots ∧ kept.index = spot.index :=
  exists_mem_distinctFrom h List.not_mem_nil

/-!
# Repeated ways
-/

namespace Chain

theorem single (h : next ∈ way spot) : Chain way 1 spot next := .cons h .nil

theorem append (hfirst : Chain way n spot middle) (hsecond : Chain way m middle next) :
    Chain way (n + m) spot next := by
  induction hfirst with
  | nil =>
      rw [Nat.zero_add]
      exact hsecond
  | cons hstep hrest ih =>
      rw [Nat.add_right_comm]
      exact .cons hstep (ih hsecond)

end Chain

theorem chain_of_mem_exactly (h : next ∈ exactly way n spot) : Chain way n spot next := by
  induction n generalizing next with
  | zero =>
      rw [List.mem_singleton.mp h]
      exact .nil
  | succ n ih =>
      rcases List.mem_flatMap.mp (mem_of_mem_distinct h) with ⟨middle, hmiddle, hlast⟩
      exact (ih hmiddle).append (.single hlast)

theorem mem_optionally (h : next ∈ optionally greedy way spot) :
    next = spot ∨ next ∈ way spot := by
  have hmem := mem_of_mem_distinct h
  split at hmem
  · rcases List.mem_append.mp hmem with hway | hself
    · exact Or.inr hway
    · exact Or.inl (List.mem_singleton.mp hself)
  · exact List.mem_cons.mp hmem

theorem chain_of_mem_atMost (h : next ∈ atMost greedy way n spot) :
    exists count, count ≤ n ∧ Chain way count spot next := by
  induction n generalizing spot with
  | zero =>
      rw [List.mem_singleton.mp h]
      exact ⟨0, Nat.le_refl _, .nil⟩
  | succ n ih =>
      rcases mem_optionally h with rfl | hway
      · exact ⟨0, Nat.zero_le _, .nil⟩
      · rcases List.mem_flatMap.mp (mem_of_mem_distinct hway) with ⟨middle, hstep, hrest⟩
        rcases ih hrest with ⟨count, hcount, hchain⟩
        exact ⟨count + 1, by omega, .cons hstep hchain⟩

theorem chain_of_mem_foldl {reached : List Spot -> Spot -> List Spot}
    (hreached : forall found middle, next ∈ reached found middle ->
      next ∈ found ∨ exists count, Chain way count middle next)
    (hspots : forall middle, middle ∈ spots -> middle ∈ way spot)
    (h : next ∈ spots.foldl reached found) :
    next ∈ found ∨ exists count, Chain way count spot next := by
  induction spots generalizing found with
  | nil =>
      exact Or.inl h
  | cons middle rest ih =>
      rw [List.foldl_cons] at h
      rcases ih (fun other hother => hspots other (List.mem_cons_of_mem _ hother)) h with
        hmem | hchain
      · rcases hreached found middle hmem with hfound | ⟨count, hchain⟩
        · exact Or.inl hfound
        · exact Or.inr ⟨count + 1, .cons (hspots middle List.mem_cons_self) hchain⟩
      · exact Or.inr hchain

theorem chain_of_mem_reach (h : next ∈ reach greedy way n found spot) :
    next ∈ found ∨ exists count, Chain way count spot next := by
  have self : forall {spot : Spot}, next = spot -> exists count, Chain way count spot next := by
    rintro _ rfl
    exact ⟨0, .nil⟩
  induction n generalizing found spot with
  | zero =>
      rcases List.mem_append.mp h with hfound | hself
      · exact Or.inl hfound
      · exact Or.inr (self (List.mem_singleton.mp hself))
  | succ n ih =>
      rw [reach] at h
      split at h
      · exact Or.inl h
      · have hsteps : forall middle,
            middle ∈ (way spot).filter (fun next => spot.index < next.index) ->
              middle ∈ way spot := fun middle hmiddle => (List.mem_filter.mp hmiddle).1
        split at h
        · rcases List.mem_append.mp h with hfold | hself
          · exact chain_of_mem_foldl (fun found middle => ih) hsteps hfold
          · exact Or.inr (self (List.mem_singleton.mp hself))
        · rcases chain_of_mem_foldl (fun found middle => ih) hsteps h with hfound | hchain
          · rcases List.mem_append.mp hfound with hbefore | hself
            · exact Or.inl hbefore
            · exact Or.inr (self (List.mem_singleton.mp hself))
          · exact Or.inr hchain

theorem chain_of_mem_again (h : next ∈ again greedy way spot) :
    exists count, Chain way count spot next := by
  rcases chain_of_mem_reach h with hfound | hchain
  · cases hfound
  · exact hchain

theorem chain_of_mem_onceOrMore (h : next ∈ onceOrMore greedy way spot) :
    exists count, 1 ≤ count ∧ Chain way count spot next := by
  rcases List.mem_flatMap.mp (mem_of_mem_distinct h) with ⟨middle, hstep, hrest⟩
  split at hrest
  · rw [List.mem_singleton.mp hrest]
    exact ⟨1, Nat.le_refl _, .single hstep⟩
  · rcases chain_of_mem_again hrest with ⟨count, hchain⟩
    exact ⟨count + 1, by omega, .cons hstep hchain⟩

theorem chain_of_mem_anyNumber {nullable : Bool}
    (h : next ∈ anyNumber greedy nullable way spot) :
    exists count, Chain way count spot next := by
  unfold anyNumber at h
  split at h
  · rcases mem_optionally h with rfl | hway
    · exact ⟨0, .nil⟩
    · rcases chain_of_mem_onceOrMore hway with ⟨count, _, hchain⟩
      exact ⟨count, hchain⟩
  · exact chain_of_mem_again h

/-- A repetition takes as many steps as it may. -/
theorem chain_of_mem_times {least : Nat} {most : Option Nat}
    (h : next ∈ (Regex.times inside least most greedy).run spot) :
    exists count, least ≤ count ∧ (forall limit, most = some limit -> count ≤ max least limit) ∧
      Chain inside.run count spot next := by
  cases most with
  | some limit =>
      rcases List.mem_flatMap.mp (mem_of_mem_distinct h) with ⟨middle, hexactly, hmore⟩
      rcases chain_of_mem_atMost hmore with ⟨count, hcount, hchain⟩
      refine ⟨least + count, by omega, ?_, (chain_of_mem_exactly hexactly).append hchain⟩
      rintro _ ⟨⟩
      omega
  | none =>
      cases least with
      | zero =>
          rcases chain_of_mem_anyNumber h with ⟨count, hchain⟩
          exact ⟨count, Nat.zero_le _, by simp, hchain⟩
      | succ least =>
          rcases List.mem_flatMap.mp (mem_of_mem_distinct h) with ⟨middle, hexactly, hmore⟩
          rcases chain_of_mem_onceOrMore hmore with ⟨count, hcount, hchain⟩
          exact ⟨least + count, by omega, by simp, (chain_of_mem_exactly hexactly).append hchain⟩

theorem takes_of_chain {least : Nat} {most : Option Nat}
    (hinside : forall spot next, next ∈ inside.run spot -> Takes inside spot next)
    (h : Chain inside.run n spot next) (hleast : least ≤ n)
    (hmost : forall limit, most = some limit -> n ≤ max least limit) :
    Takes (.times inside least most greedy) spot next := by
  induction h generalizing least most with
  | nil =>
      rw [Nat.le_zero.mp hleast]
      exact .stop
  | cons hstep hrest ih =>
      rename_i n middle spot next
      have hcount : 0 < least ∨ most ≠ some 0 := by
        by_contra hnot
        rw [not_or, not_not] at hnot
        have := hmost 0 hnot.2
        omega
      refine .more hcount (hinside _ _ hstep) (ih (by omega) ?_)
      intro limit hlimit
      rcases Option.map_eq_some_iff.mp hlimit with ⟨above, habove, rfl⟩
      have := hmost above habove
      omega

/-- A run leads only to what the expression takes. -/
theorem takes_of_mem_run (h : next ∈ regex.run spot) : Takes regex spot next := by
  induction regex generalizing spot next with
  | empty =>
      rw [List.mem_singleton.mp h]
      exact .empty
  | char set =>
      rw [run, takeChar] at h
      split at h
      · cases h
      · rename_i c rest hrest
        split at h
        · rename_i hset
          rw [List.mem_singleton.mp h]
          exact .char hrest hset
        · cases h
  | anchor condition =>
      rw [run] at h
      dsimp only at h
      split at h
      · rename_i hholds
        rw [List.mem_singleton.mp h]
        exact .anchor hholds
      · cases h
  | group number inside ih =>
      rcases List.mem_map.mp h with ⟨last, hlast, rfl⟩
      exact .group (ih hlast)
  | seq first second ihFirst ihSecond =>
      rcases List.mem_flatMap.mp (mem_of_mem_distinct h) with ⟨middle, hfirst, hsecond⟩
      exact .seq (ihFirst hfirst) (ihSecond hsecond)
  | alt first second ihFirst ihSecond =>
      rcases List.mem_append.mp (mem_of_mem_distinct h) with hfirst | hsecond
      · exact .left (ihFirst hfirst)
      · exact .right (ihSecond hsecond)
  | times inside least most greedy ih =>
      rcases chain_of_mem_times h with ⟨count, hleast, hmost, hchain⟩
      exact takes_of_chain (fun spot next => ih) hchain hleast hmost

/-!
# How much is taken
-/

/-- What is taken stands between the two spots. -/
theorem Takes.exists_taken (h : Takes regex spot next) :
    exists taken, spot.rest = taken ++ next.rest ∧ next.index = spot.index + taken.length := by
  induction h with
  | empty | anchor | stop =>
      exact ⟨[], rfl, rfl⟩
  | char hrest hset =>
      rename_i c rest
      exact ⟨[c], hrest, rfl⟩
  | group hinside ih =>
      exact ih
  | seq hfirst hsecond ihFirst ihSecond | more hcount hfirst hsecond ihFirst ihSecond =>
      rcases ihFirst with ⟨before, hbefore, hmiddle⟩
      rcases ihSecond with ⟨after, hafter, hnext⟩
      refine ⟨before ++ after, ?_, ?_⟩
      · rw [hbefore, hafter, List.append_assoc]
      · rw [hnext, hmiddle, List.length_append, Nat.add_assoc]
  | left h ih | right h ih =>
      exact ih

/-- Spots at one place have the same text after them. -/
theorem Takes.rest_eq {other : Regex} {last : Spot} (h : Takes regex spot next)
    (hother : Takes other spot last) (hindex : next.index = last.index) :
    next.rest = last.rest := by
  rcases h.exists_taken with ⟨taken, hrest, hnext⟩
  rcases hother.exists_taken with ⟨taken', hrest', hlast⟩
  have hlength : taken.length = taken'.length := by omega
  exact (List.append_inj (hrest.symm.trans hrest') hlength).2

/-- An expression takes at least its least number of characters. -/
theorem Takes.minLength_le (h : Takes regex spot next) :
    spot.index + regex.minLength ≤ next.index := by
  induction h with
  | empty | anchor =>
      exact Nat.le_refl _
  | char =>
      exact Nat.le_refl _
  | group hinside ih =>
      exact ih
  | seq hfirst hsecond ihFirst ihSecond =>
      simp only [minLength]
      omega
  | left hfirst ih | right hsecond ih =>
      simp only [minLength]
      omega
  | stop =>
      simp [minLength]
  | more hcount hstep hrest ihStep ihRest =>
      rename_i inside spot middle next least most greedy
      simp only [minLength] at ihRest ⊢
      have hle : least * inside.minLength ≤
          inside.minLength + (least - 1) * inside.minLength := by
        rw [Nat.sub_mul, Nat.one_mul]
        omega
      omega

/-!
# Texts of groups
-/

/-- Whether the texts of a group with a number cannot be empty. -/
def Fills (number : Nat) : Regex -> Prop
  | .group other inside => (other = number -> 0 < inside.minLength) ∧ inside.Fills number
  | .seq first second | .alt first second => first.Fills number ∧ second.Fills number
  | .times inside _ _ _ => inside.Fills number
  | .empty | .char _ | Regex.anchor _ => True

/-- Whether a group with a number takes part whenever the expression takes something. -/
def Binds (number : Nat) : Regex -> Prop
  | .group other inside => other = number ∨ inside.Binds number
  | .seq first second => first.Binds number ∨ second.Binds number
  | .alt first second => first.Binds number ∧ second.Binds number
  | .times inside least _ _ => 0 < least ∧ inside.Binds number
  | .empty | .char _ | Regex.anchor _ => False

/-- Whether a group with a number takes part only in what is longer than it needs to be. -/
def Spares (number : Nat) : Regex -> Prop
  | .group other inside => other ≠ number ∧ inside.Spares number
  | .seq first second | .alt first second => first.Spares number ∧ second.Spares number
  | .times inside least _ _ => (least = 0 ∧ 0 < inside.minLength) ∨ inside.Spares number
  | .empty | .char _ | Regex.anchor _ => True

/-- A group has a text after it if it had one before. -/
theorem Takes.group?_isSome {number : Nat} (h : Takes regex spot next)
    (hspot : (spot.group? number).isSome = true) : (next.group? number).isSome = true := by
  induction h with
  | empty | anchor | stop =>
      exact hspot
  | char =>
      exact hspot
  | group hinside ih =>
      rename_i inside spot next other
      by_cases hother : number = other
      · rw [hother, Spot.group?_keeping_self]
        rfl
      · rw [Spot.group?_keeping_of_ne hother]
        exact ih hspot
  | seq hfirst hsecond ihFirst ihSecond | more hcount hfirst hsecond ihFirst ihSecond =>
      exact ihSecond (ihFirst hspot)
  | left h ih | right h ih =>
      exact ih hspot

theorem Takes.group?_of_binds {number : Nat} (h : Takes regex spot next)
    (hbinds : regex.Binds number) : (next.group? number).isSome = true := by
  induction h with
  | empty | anchor | char =>
      cases hbinds
  | group hinside ih =>
      rename_i inside spot next other
      by_cases hother : number = other
      · rw [hother, Spot.group?_keeping_self]
        rfl
      · rw [Spot.group?_keeping_of_ne hother]
        exact ih (hbinds.resolve_left (Ne.symm hother))
  | seq hfirst hsecond ihFirst ihSecond =>
      rcases hbinds with hbinds | hbinds
      · exact hsecond.group?_isSome (ihFirst hbinds)
      · exact ihSecond hbinds
  | left h ih =>
      exact ih hbinds.1
  | right h ih =>
      exact ih hbinds.2
  | stop =>
      exact absurd hbinds.1 (Nat.lt_irrefl 0)
  | more hcount hstep hrest ihStep ihRest =>
      exact hrest.group?_isSome (ihStep hbinds.2)

/-- No text of a group is empty afterwards if it was not so before. -/
theorem Takes.group?_ne_nil {number : Nat} (h : Takes regex spot next)
    (hfills : regex.Fills number) (hspot : spot.group? number ≠ some []) :
    next.group? number ≠ some [] := by
  induction h with
  | empty | anchor | stop =>
      exact hspot
  | char =>
      exact hspot
  | group hinside ih =>
      rename_i inside spot next other
      by_cases hother : number = other
      · rw [hother, Spot.group?_keeping_self]
        intro hnil
        rcases hinside.exists_taken with ⟨taken, hrest, hnext⟩
        have hlength := hinside.minLength_le
        have hpos := hfills.1 hother.symm
        rw [Option.some_inj, hnext, Nat.add_sub_cancel_left, hrest, List.take_left] at hnil
        rw [hnil, List.length_nil] at hnext
        omega
      · rw [Spot.group?_keeping_of_ne hother]
        exact ih hfills.2 hspot
  | seq hfirst hsecond ihFirst ihSecond =>
      exact ihSecond hfills.2 (ihFirst hfills.1 hspot)
  | more hcount hfirst hsecond ihFirst ihSecond =>
      exact ihSecond hfills (ihFirst hfills hspot)
  | left h ih =>
      exact ih hfills.1 hspot
  | right h ih =>
      exact ih hfills.2 hspot

/-- A group that is spared has the text that it had before, unless more is taken than needs to
be. -/
theorem Takes.group?_of_spares {number : Nat} (h : Takes regex spot next)
    (hspares : regex.Spares number) :
    next.group? number = spot.group? number ∨ spot.index + regex.minLength < next.index := by
  induction h with
  | empty | anchor | stop =>
      exact Or.inl rfl
  | char =>
      exact Or.inl rfl
  | group hinside ih =>
      rw [Spot.group?_keeping_of_ne hspares.1.symm]
      exact ih hspares.2
  | seq hfirst hsecond ihFirst ihSecond =>
      have hleFirst := hfirst.minLength_le
      have hleSecond := hsecond.minLength_le
      simp only [minLength]
      rcases ihSecond hspares.2 with hsame | hlonger
      · rcases ihFirst hspares.1 with hsameFirst | hlonger
        · exact Or.inl (hsame.trans hsameFirst)
        · right
          omega
      · right
        omega
  | left h ih =>
      simp only [minLength]
      rcases ih hspares.1 with hsame | hlonger
      · exact Or.inl hsame
      · right
        omega
  | right h ih =>
      simp only [minLength]
      rcases ih hspares.2 with hsame | hlonger
      · exact Or.inl hsame
      · right
        omega
  | more hcount hstep hrest ihStep ihRest =>
      rename_i inside spot middle next least most greedy
      have hleStep := hstep.minLength_le
      have hleRest := hrest.minLength_le
      simp only [minLength] at hleRest ihRest ⊢
      rcases hspares with ⟨rfl, hpos⟩ | hspares
      · right
        omega
      · have hle : least * inside.minLength ≤
            inside.minLength + (least - 1) * inside.minLength := by
          rw [Nat.sub_mul, Nat.one_mul]
          omega
        rcases ihRest (Or.inr hspares) with hsame | hlonger
        · rcases ihStep hspares with hsameStep | hlonger
          · exact Or.inl (hsame.trans hsameStep)
          · right
            omega
        · right
          omega

/-!
# Where a run leads at least

What follows after a spot decides where a run can lead, so a run that starts with one part of an
expression goes on from whatever spot is kept at the end of that part.
-/

theorem exists_mem_char {set : CharSet} {c : Char} {rest : List Char}
    (hrest : spot.rest = c :: rest) (hset : set.has c = true) :
    exists last, last ∈ (Regex.char set).run spot ∧ last.rest = rest := by
  refine ⟨{ spot with index := spot.index + 1, before := some c, rest }, ?_, rfl⟩
  rw [run, takeChar, hrest]
  simp [hset]

theorem exists_mem_group (number : Nat) (h : next ∈ inside.run spot) :
    exists last, last ∈ (Regex.group number inside).run spot ∧ last.rest = next.rest :=
  ⟨_, List.mem_map_of_mem h, rfl⟩

theorem exists_mem_seq (hfirst : middle ∈ first.run spot) (hsecond : next ∈ second.run middle) :
    exists last, last ∈ (Regex.seq first second).run spot ∧ last.rest = next.rest := by
  have htakes : Takes (.seq first second) spot next :=
    .seq (takes_of_mem_run hfirst) (takes_of_mem_run hsecond)
  rcases exists_mem_distinct (List.mem_flatMap.mpr ⟨middle, hfirst, hsecond⟩) with
    ⟨last, hlast, hindex⟩
  have hrun : last ∈ (Regex.seq first second).run spot := hlast
  exact ⟨last, hrun, (takes_of_mem_run hrun).rest_eq htakes hindex⟩

theorem mem_foldl_of_mem {reached : List Spot -> Spot -> List Spot}
    (hreached : forall found start, spot ∈ found -> spot ∈ reached found start)
    (h : spot ∈ found) : spot ∈ spots.foldl reached found := by
  induction spots generalizing found with
  | nil =>
      exact h
  | cons start rest ih =>
      exact ih (hreached found start h)

theorem mem_reach_of_mem (h : spot ∈ found) (start : Spot) :
    spot ∈ reach greedy way n found start := by
  induction n generalizing found start with
  | zero =>
      exact List.mem_append_left _ h
  | succ n ih =>
      rw [reach]
      split
      · exact h
      · split
        · exact List.mem_append_left _ (mem_foldl_of_mem (fun _ start h => ih h start) h)
        · exact mem_foldl_of_mem (fun _ start h => ih h start) (List.mem_append_left _ h)

theorem mem_again_self (spot : Spot) : spot ∈ again greedy way spot := by
  rw [again, reach, if_neg (by simp)]
  split
  · exact List.mem_append_right _ List.mem_cons_self
  · exact mem_foldl_of_mem (fun _ start h => mem_reach_of_mem h start) List.mem_cons_self

theorem exists_mem_optionally (spot : Spot) :
    exists last, last ∈ optionally greedy way spot ∧ last.index = spot.index := by
  apply exists_mem_distinct
  split
  · exact List.mem_append_right _ List.mem_cons_self
  · exact List.mem_cons_self

/-- What may be left out need not take anything. -/
theorem exists_mem_times_stop (inside : Regex) (most : Option Nat) (greedy : Bool)
    (spot : Spot) :
    exists last, last ∈ (Regex.times inside 0 most greedy).run spot ∧ last.rest = spot.rest := by
  have hrun : exists last, last ∈ (Regex.times inside 0 most greedy).run spot ∧
      last.index = spot.index := by
    cases most with
    | some limit =>
        have hmost : exists last, last ∈ atMost greedy inside.run limit spot ∧
            last.index = spot.index := by
          cases limit with
          | zero =>
              exact ⟨spot, List.mem_cons_self, rfl⟩
          | succ limit =>
              exact exists_mem_optionally spot
        rcases hmost with ⟨last, hlast, hindex⟩
        rcases exists_mem_distinct (List.mem_flatMap.mpr ⟨spot, List.mem_cons_self, hlast⟩) with
          ⟨kept, hkept, hsame⟩
        exact ⟨kept, hkept, hsame.trans hindex⟩
    | none =>
        have hany : exists last,
            last ∈ anyNumber greedy (decide (inside.minLength = 0)) inside.run spot ∧
              last.index = spot.index := by
          unfold anyNumber
          split
          · exact exists_mem_optionally spot
          · exact ⟨spot, mem_again_self spot, rfl⟩
        exact hany
  have hstop : Takes (.times inside 0 most greedy) spot spot := .stop
  rcases hrun with ⟨last, hlast, hindex⟩
  exact ⟨last, hlast, (takes_of_mem_run hlast).rest_eq hstop hindex⟩

/-- What is taken once is also taken once or more. -/
theorem exists_mem_times_once (greedy : Bool) (h : next ∈ inside.run spot) :
    exists last, last ∈ (Regex.times inside 1 none greedy).run spot ∧ last.rest = next.rest := by
  have hself : next ∈ (inside.run spot).flatMap fun next =>
      if next.index = spot.index then [next] else again greedy inside.run next := by
    refine List.mem_flatMap.mpr ⟨next, h, ?_⟩
    split
    · exact List.mem_cons_self
    · exact mem_again_self next
  rcases exists_mem_distinct hself with ⟨kept, hkept, hkeptIndex⟩
  have hafter : kept ∈ onceOrMore greedy inside.run spot := hkept
  rcases exists_mem_distinct (List.mem_flatMap.mpr ⟨spot, List.mem_cons_self, hafter⟩) with
    ⟨last, hlast, hlastIndex⟩
  have hrun : last ∈ (Regex.times inside 1 none greedy).run spot := hlast
  exact ⟨last, hrun,
    (takes_of_mem_run hrun).rest_eq (takes_of_mem_run h) (hlastIndex.trans hkeptIndex)⟩

/-!
# Searches
-/

theorem exists_of_searchFrom {before : Option Char} {cs : List Char}
    (h : regex.searchFrom n before cs = some next) :
    exists spot, spot.groups = [] ∧ next ∈ regex.run spot := by
  induction cs generalizing n before with
  | nil =>
      exact ⟨_, rfl, List.mem_of_head? h⟩
  | cons c rest ih =>
      rw [searchFrom] at h
      split at h
      · rename_i found others hrun
        cases h
        exact ⟨_, rfl, by rw [hrun]; exact List.mem_cons_self⟩
      · exact ih h

/-- A search leads to a spot that the expression takes, and gives the texts of its groups. -/
theorem exists_of_search {text : String} {groups : List (Nat × String)}
    (h : regex.search? text = some groups) :
    exists spot next, spot.groups = [] ∧ next ∈ regex.run spot ∧
      forall number, groups.lookup number = (next.group? number).map String.ofList := by
  rcases Option.map_eq_some_iff.mp h with ⟨next, hsearch, rfl⟩
  rcases exists_of_searchFrom hsearch with ⟨spot, hgroups, hrun⟩
  exact ⟨spot, next, hgroups, hrun, Lists.lookup_map next.groups String.ofList⟩

/-- Where an expression for the start of a text leads anywhere, a search finds a match there. -/
theorem exists_search_of_mem_run {text : String}
    (hrun : next ∈ regex.run (.ofText text.toList)) :
    exists last, last ∈ (Regex.seq (.anchor .textStart) regex).run (.ofText text.toList) ∧
      ((Regex.seq (.anchor .textStart) regex).search? text) =
        some (last.groups.map fun group => (group.1, String.ofList group.2)) := by
  have hstart : Spot.ofText text.toList ∈
      (Regex.anchor .textStart).run (.ofText text.toList) := by
    simp [run, Anchor.holds, Spot.ofText]
  rcases exists_mem_seq hstart hrun with ⟨found, hfound, _⟩
  cases hall : (Regex.seq (.anchor .textStart) regex).run (.ofText text.toList) with
  | nil =>
      rw [hall] at hfound
      cases hfound
  | cons last others =>
      refine ⟨last, List.mem_cons_self, ?_⟩
      unfold Spot.ofText at hall
      unfold search?
      cases htext : text.toList with
      | nil =>
          rw [htext] at hall
          rw [searchFrom, hall]
          rfl
      | cons c rest =>
          rw [htext] at hall
          rw [searchFrom, hall]
          rfl

end Regex
end Docloom
