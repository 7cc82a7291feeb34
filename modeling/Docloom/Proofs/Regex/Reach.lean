import Docloom.Proofs.Regex.Run

/-!
# Where a run leads

A run leaves out ways to places that it has reached already, and a repetition does not go on from
where it got no further.  Still a run leads to each place up to which the expression takes the
text: what follows from a place depends on the place alone and not on the texts of the groups, and
a repetition that gets no further leads nowhere new.
-/

namespace Docloom
namespace Regex

variable {way : Way} {start spot middle next other last target : Spot}
  {spots steps found more : List Spot} {regex inside first second : Regex}
  {n m index fuel : Nat} {greedy : Bool}

/-!
# Places
-/

/-- Whether two spots are at one place, whatever the texts of the groups. -/
structure SamePlace (spot other : Spot) : Prop where
  index_eq : spot.index = other.index
  before_eq : spot.before = other.before
  rest_eq : spot.rest = other.rest

/-- Whether a spot comes after some characters of the text that follows another one. -/
def Ahead (spot next : Spot) : Prop :=
  exists taken, spot.rest = taken ++ next.rest ∧ next.index = spot.index + taken.length ∧
    next.before = taken.getLast?.or spot.before

namespace SamePlace

theorem refl (spot : Spot) : SamePlace spot spot := ⟨rfl, rfl, rfl⟩

theorem symm (h : SamePlace spot other) : SamePlace other spot :=
  ⟨h.index_eq.symm, h.before_eq.symm, h.rest_eq.symm⟩

theorem trans (hfirst : SamePlace spot middle) (hsecond : SamePlace middle next) :
    SamePlace spot next :=
  ⟨hfirst.index_eq.trans hsecond.index_eq, hfirst.before_eq.trans hsecond.before_eq,
    hfirst.rest_eq.trans hsecond.rest_eq⟩

theorem keeping (number : Nat) (text : List Char) : SamePlace spot (spot.keeping number text) :=
  ⟨rfl, rfl, rfl⟩

theorem holds_eq (h : SamePlace spot other) (condition : Anchor) :
    condition.holds other = condition.holds spot := by
  unfold Anchor.holds
  rw [h.before_eq, h.rest_eq]

end SamePlace

namespace Ahead

theorem refl (spot : Spot) : Ahead spot spot := ⟨[], rfl, rfl, rfl⟩

theorem trans (hfirst : Ahead spot middle) (hsecond : Ahead middle next) : Ahead spot next := by
  rcases hfirst with ⟨taken, hrest, hindex, hbefore⟩
  rcases hsecond with ⟨more, hrestMore, hindexMore, hbeforeMore⟩
  refine ⟨taken ++ more, ?_, ?_, ?_⟩
  · rw [hrest, hrestMore, List.append_assoc]
  · rw [hindexMore, hindex, List.length_append, Nat.add_assoc]
  · rw [hbeforeMore, hbefore, List.getLast?_append, Option.or_assoc]

theorem of_samePlace (h : SamePlace spot next) : Ahead spot next :=
  ⟨[], h.rest_eq, h.index_eq.symm, h.before_eq.symm⟩

theorem index_le (h : Ahead spot next) : spot.index ≤ next.index := by
  rcases h with ⟨taken, _, hindex, _⟩
  omega

theorem length_rest_lt (h : Ahead spot next) (hlt : spot.index < next.index) :
    next.rest.length < spot.rest.length := by
  rcases h with ⟨taken, hrest, hindex, _⟩
  rw [hrest, List.length_append]
  omega

/-- Of the spots ahead of one spot, those with the same number of characters before them are at
one place. -/
theorem samePlace (h : Ahead start spot) (hother : Ahead start other)
    (hindex : spot.index = other.index) : SamePlace spot other := by
  rcases h with ⟨taken, hrest, hcount, hbefore⟩
  rcases hother with ⟨more, hrestOther, hcountOther, hbeforeOther⟩
  have hlength : taken.length = more.length := by
    omega
  rcases List.append_inj (hrest.symm.trans hrestOther) hlength with ⟨rfl, hsame⟩
  exact ⟨hindex, hbefore.trans hbeforeOther.symm, hsame⟩

end Ahead

/-- What an expression takes stands between the two spots. -/
theorem Takes.ahead (h : Takes regex spot next) : Ahead spot next := by
  induction h with
  | empty | anchor | stop =>
      exact .refl _
  | char hrest hset =>
      rename_i c rest
      exact ⟨[c], hrest, rfl, rfl⟩
  | group hinside ih =>
      exact ih
  | seq hfirst hsecond ihFirst ihSecond | more hcount hfirst hsecond ihFirst ihSecond =>
      exact ihFirst.trans ihSecond
  | left h ih | right h ih =>
      exact ih

/-!
# Ways that depend on places
-/

/-- Whether a way leads ahead, and to the same places from spots at one place. -/
structure Steady (way : Way) : Prop where
  ahead : forall spot next, next ∈ way spot -> Ahead spot next
  moves : forall spot other next, SamePlace spot other -> next ∈ way spot ->
    exists last, last ∈ way other ∧ SamePlace next last

namespace Chain

theorem ahead (hsteady : Steady way) (h : Chain way n spot next) : Ahead spot next := by
  induction h with
  | nil =>
      exact .refl _
  | cons hstep hrest ih =>
      exact (hsteady.ahead _ _ hstep).trans ih

theorem moves (hsteady : Steady way) (h : Chain way n spot next) (hsame : SamePlace spot other) :
    exists last, Chain way n other last ∧ SamePlace next last := by
  induction h generalizing other with
  | nil =>
      exact ⟨other, .nil, hsame⟩
  | cons hstep hrest ih =>
      rcases hsteady.moves _ _ _ hsame hstep with ⟨middle, hmiddle, hsameMiddle⟩
      rcases ih hsameMiddle with ⟨last, hchain, hlast⟩
      exact ⟨last, .cons hmiddle hchain, hlast⟩

end Chain

/-!
# Repetitions that get further

The search for the places that repetitions lead to passes over places that were found.  That loses
nothing, for whatever leads on from a place that was found is found as well, except from the places
on the way to where the search is, which come earlier in the text.
-/

/-- Whether a spot with a number of characters before it is found. -/
def Finds (spots : List Spot) (index : Nat) : Prop :=
  exists spot, spot ∈ spots ∧ spot.index = index

/-- Whether everything that leads on from what was found, not before a number of characters, is
found as well. -/
def Closed (way : Way) (index : Nat) (found : List Spot) : Prop :=
  forall spot n target, spot ∈ found -> index ≤ spot.index -> Chain way n spot target ->
    Finds found target.index

theorem Finds.mono (h : Finds spots index) (hsub : spots ⊆ more) : Finds more index := by
  rcases h with ⟨spot, hspot, hindex⟩
  exact ⟨spot, hsub hspot, hindex⟩

theorem Closed.mono (h : Closed way n found) (hle : n ≤ m) : Closed way m found :=
  fun spot count target hspot hindex => h spot count target hspot (Nat.le_trans hle hindex)

theorem subset_reach (spot : Spot) : found ⊆ reach greedy way fuel found spot :=
  fun _ hmem => mem_reach_of_mem hmem spot

theorem subset_foldl_reach : found ⊆ steps.foldl (reach greedy way fuel) found :=
  fun _ hmem => mem_foldl_of_mem (fun _ spot hfound => mem_reach_of_mem hfound spot) hmem

/-- What a search adds comes from the place where it starts. -/
theorem ahead_of_mem_reach (hsteady : Steady way) (h : next ∈ reach greedy way fuel found spot) :
    next ∈ found ∨ Ahead spot next := by
  rcases chain_of_mem_reach h with hfound | ⟨count, hchain⟩
  · exact Or.inl hfound
  · exact Or.inr (hchain.ahead hsteady)

/-- Whether a search of so many steps from a spot finds the spot, and leaves nothing out that leads
on from what it found. -/
def Explores (way : Way) (greedy : Bool) (start : Spot) (fuel : Nat) : Prop :=
  forall found spot, spot.rest.length < fuel -> Ahead start spot ->
    (forall other, other ∈ found -> Ahead start other) -> Closed way spot.index found ->
      Closed way spot.index (reach greedy way fuel found spot) ∧
        Finds (reach greedy way fuel found spot) spot.index

theorem Explores.foldl (hsteady : Steady way) (h : Explores way greedy start fuel)
    (hsteps : forall step, step ∈ steps ->
      index ≤ step.index ∧ step.rest.length < fuel ∧ Ahead start step)
    (hfound : forall other, other ∈ found -> Ahead start other) (hclosed : Closed way index found) :
    Closed way index (steps.foldl (reach greedy way fuel) found) ∧
      (forall step, step ∈ steps ->
        Finds (steps.foldl (reach greedy way fuel) found) step.index) ∧
      forall other, other ∈ steps.foldl (reach greedy way fuel) found -> Ahead start other := by
  induction steps generalizing found with
  | nil =>
      exact ⟨hclosed, by simp, hfound⟩
  | cons step steps ih =>
      rcases hsteps step List.mem_cons_self with ⟨hindex, hfuel, hstep⟩
      rcases h found step hfuel hstep hfound (hclosed.mono hindex) with ⟨hreach, hfinds⟩
      have hmembers : forall other, other ∈ reach greedy way fuel found step ->
          Ahead start other := by
        intro other hother
        rcases ahead_of_mem_reach hsteady hother with hmem | hahead
        · exact hfound other hmem
        · exact hstep.trans hahead
      -- what stands before the step was found before, and what was found then was closed
      have hclosedReach : Closed way index (reach greedy way fuel found step) := by
        intro other count target hother hle hchain
        rcases ahead_of_mem_reach hsteady hother with hmem | hahead
        · exact (hclosed other count target hmem hle hchain).mono (subset_reach step)
        · exact hreach other count target hother hahead.index_le hchain
      rcases ih (fun other hother => hsteps other (List.mem_cons_of_mem _ hother)) hmembers
        hclosedReach with ⟨hfold, hfindsFold, hmembersFold⟩
      refine ⟨hfold, ?_, hmembersFold⟩
      intro other hother
      rcases List.mem_cons.mp hother with rfl | hmem
      · exact hfinds.mono subset_foldl_reach
      · exact hfindsFold other hmem

/-- Where all steps of a spot were searched, nothing that leads on from the spot is left out. -/
theorem finds_of_chain (hsteady : Steady way) (hspot : Ahead start spot)
    (hself : Finds more spot.index) (hsub : found ⊆ more)
    (hfound : forall other, other ∈ found -> Ahead start other)
    (hclosed : Closed way (spot.index + 1) found)
    (hsteps : forall step, step ∈ way spot -> spot.index < step.index -> Finds found step.index)
    (hother : Ahead start other) (hindex : other.index = spot.index)
    (h : Chain way n other target) : Finds more target.index := by
  induction h with
  | nil =>
      rw [hindex]
      exact hself
  | cons hstep hrest ih =>
      rename_i other middle target count
      have hmiddle : Ahead start middle := hother.trans (hsteady.ahead _ _ hstep)
      have hle := (hsteady.ahead _ _ hstep).index_le
      by_cases hlt : spot.index < middle.index
      · rcases hsteady.moves _ _ _ (hother.samePlace hspot hindex) hstep with
          ⟨step, hmem, hsame⟩
        have hfurther : spot.index < step.index := by
          rw [← hsame.index_eq]
          exact hlt
        rcases hsteps step hmem hfurther with ⟨reached, hreached, hreachedIndex⟩
        have hplace : SamePlace middle reached :=
          hmiddle.samePlace (hfound reached hreached) (hsame.index_eq.trans hreachedIndex.symm)
        rcases hrest.moves hsteady hplace with ⟨last, hchain, hlast⟩
        have hbound : spot.index + 1 ≤ reached.index := by
          rw [hreachedIndex]
          exact hfurther
        rw [hlast.index_eq]
        exact (hclosed reached _ last hreached hbound hchain).mono hsub
      · apply ih hmiddle
        omega

/-- The steps of a spot that get further. -/
def further (way : Way) (spot : Spot) : List Spot :=
  (way spot).filter fun next => spot.index < next.index

/-- A search that goes through all steps of a spot, and puts the spot itself before or after what
they lead to, leaves nothing out. -/
theorem Explores.closed (hsteady : Steady way) (h : Explores way greedy start fuel)
    (hfuel : spot.rest.length < fuel + 1) (hspot : Ahead start spot)
    (hfound : forall other, other ∈ found -> Ahead start other)
    (hclosed : Closed way (spot.index + 1) found)
    (hmore : forall other, other ∈ more ↔
      other ∈ (further way spot).foldl (reach greedy way fuel) found ∨ other = spot) :
    Closed way spot.index more ∧ Finds more spot.index := by
  have hsteps : forall step, step ∈ further way spot ->
      spot.index + 1 ≤ step.index ∧ step.rest.length < fuel ∧ Ahead start step := by
    intro step hstep
    rcases List.mem_filter.mp hstep with ⟨hmem, hlt⟩
    have hahead := hsteady.ahead _ _ hmem
    have hlength := hahead.length_rest_lt (of_decide_eq_true hlt)
    exact ⟨of_decide_eq_true hlt, by omega, hspot.trans hahead⟩
  rcases h.foldl hsteady hsteps hfound hclosed with ⟨hfold, hfinds, hmembers⟩
  have hsub : (further way spot).foldl (reach greedy way fuel) found ⊆ more :=
    fun other hother => (hmore other).mpr (Or.inl hother)
  have hself : Finds more spot.index := ⟨spot, (hmore spot).mpr (Or.inr rfl), rfl⟩
  refine ⟨?_, hself⟩
  intro other count target hother hle hchain
  rcases (hmore other).mp hother with hmem | rfl
  · by_cases hindex : other.index = spot.index
    · refine finds_of_chain hsteady hspot hself hsub hmembers hfold ?_ (hmembers other hmem)
        hindex hchain
      intro step hstep hlt
      exact hfinds step (List.mem_filter.mpr ⟨hstep, decide_eq_true hlt⟩)
    · exact (hfold other count target hmem (by omega) hchain).mono hsub
  · refine finds_of_chain hsteady hspot hself hsub hmembers hfold ?_ hspot rfl hchain
    intro step hstep hlt
    exact hfinds step (List.mem_filter.mpr ⟨hstep, decide_eq_true hlt⟩)

theorem explores (hsteady : Steady way) : Explores way greedy start fuel := by
  induction fuel with
  | zero =>
      intro found spot hfuel
      exact absurd hfuel (Nat.not_lt_zero _)
  | succ fuel ih =>
      intro found spot hfuel hspot hfound hclosed
      rw [reach]
      by_cases hany : (found.any fun other => other.index == spot.index) = true
      · rw [if_pos hany]
        refine ⟨hclosed, ?_⟩
        rcases List.any_eq_true.mp hany with ⟨other, hother, hindex⟩
        exact ⟨other, hother, eq_of_beq hindex⟩
      · rw [if_neg hany]
        have hclosedNext : Closed way (spot.index + 1) found := hclosed.mono (Nat.le_succ _)
        cases greedy with
        | true =>
            apply ih.closed hsteady hfuel hspot hfound hclosedNext
            intro other
            simp [further]
        | false =>
            have hbase : forall other, other ∈ found ++ [spot] -> Ahead start other := by
              intro other hother
              rcases List.mem_append.mp hother with hmem | hself
              · exact hfound other hmem
              · rw [List.mem_singleton.mp hself]
                exact hspot
            have hclosedBase : Closed way (spot.index + 1) (found ++ [spot]) := by
              intro other count target hother hle hchain
              rcases List.mem_append.mp hother with hmem | hself
              · exact (hclosedNext other count target hmem hle hchain).mono
                  (List.subset_append_left _ _)
              · rw [List.mem_singleton.mp hself] at hle
                exact absurd hle (Nat.not_succ_le_self _)
            apply ih.closed hsteady hfuel hspot hbase hclosedBase
            intro other
            constructor
            · exact Or.inl
            · intro hother
              rcases hother with hmem | rfl
              · exact hmem
              · exact subset_foldl_reach (List.mem_append_right _ List.mem_cons_self)

theorem finds_again (hsteady : Steady way) (h : Chain way n spot target) :
    Finds (again greedy way spot) target.index := by
  have hexplores : Explores way greedy spot (spot.rest.length + 1) := explores hsteady
  rcases hexplores [] spot (Nat.lt_succ_self _) (.refl _) (by simp)
    (fun _ _ _ hmem => absurd hmem List.not_mem_nil) with ⟨hclosed, found, hfound, hindex⟩
  have hmember : Ahead spot found := by
    rcases ahead_of_mem_reach hsteady hfound with hmem | hahead
    · exact absurd hmem List.not_mem_nil
    · exact hahead
  have hplace : SamePlace spot found := (Ahead.refl spot).samePlace hmember hindex.symm
  rcases h.moves hsteady hplace with ⟨last, hchain, hlast⟩
  rw [hlast.index_eq]
  exact hclosed found n last hfound (Nat.le_of_eq hindex.symm) hchain

/-!
# Ways one after another
-/

theorem finds_distinct (h : spot ∈ spots) : Finds (distinct spots) spot.index :=
  exists_mem_distinct h

theorem finds_andThen {one two : Way} (hone : middle ∈ one spot) (htwo : Finds (two middle) index) :
    Finds (andThen one two spot) index := by
  rcases htwo with ⟨last, hlast, rfl⟩
  exact finds_distinct (List.mem_flatMap.mpr ⟨middle, hone, hlast⟩)

theorem finds_optionally (h : Finds (way spot) index) :
    Finds (optionally greedy way spot) index := by
  rcases h with ⟨next, hnext, rfl⟩
  apply finds_distinct
  split
  · exact List.mem_append_left _ hnext
  · exact List.mem_cons_of_mem _ hnext

theorem Chain.exists_append (h : Chain way (n + m) spot target) :
    exists middle, Chain way n spot middle ∧ Chain way m middle target := by
  induction n generalizing spot with
  | zero =>
      rw [Nat.zero_add] at h
      exact ⟨spot, .nil, h⟩
  | succ n ih =>
      rw [Nat.add_right_comm] at h
      cases h with
      | cons hstep hrest =>
          rcases ih hrest with ⟨middle, hfirst, hsecond⟩
          exact ⟨middle, .cons hstep hfirst, hsecond⟩

theorem ahead_of_mem_exactly (hsteady : Steady way) (h : next ∈ exactly way n spot) :
    Ahead spot next :=
  (chain_of_mem_exactly h).ahead hsteady

/-- A chain may be cut in two, where one way does the first part and another one the rest. -/
theorem finds_andThen_of_chain {one two : Way} (hsteady : Steady way)
    (h : Chain way (n + m) spot target) (hahead : forall next, next ∈ one spot -> Ahead spot next)
    (hone : forall middle, Chain way n spot middle -> Finds (one spot) middle.index)
    (htwo : forall middle last, Chain way m middle last -> Finds (two middle) last.index) :
    Finds (andThen one two spot) target.index := by
  rcases h.exists_append with ⟨middle, hfirst, hsecond⟩
  rcases hone middle hfirst with ⟨reached, hreached, hindex⟩
  have hplace : SamePlace middle reached :=
    (hfirst.ahead hsteady).samePlace (hahead reached hreached) hindex.symm
  rcases hsecond.moves hsteady hplace with ⟨last, hchain, hsame⟩
  rw [hsame.index_eq]
  exact finds_andThen hreached (htwo reached last hchain)

theorem finds_exactly (hsteady : Steady way) (h : Chain way n spot target) :
    Finds (exactly way n spot) target.index := by
  induction n generalizing target with
  | zero =>
      cases h
      exact ⟨spot, List.mem_cons_self, rfl⟩
  | succ n ih =>
      apply finds_andThen_of_chain hsteady h (fun _ => ahead_of_mem_exactly hsteady) fun _ => ih
      intro middle last hchain
      cases hchain with
      | cons hstep hrest =>
          cases hrest
          exact ⟨_, hstep, rfl⟩

theorem finds_atMost (h : Chain way n spot target) (hle : n ≤ m) :
    Finds (atMost greedy way m spot) target.index := by
  induction m generalizing n spot with
  | zero =>
      obtain rfl : n = 0 := Nat.le_zero.mp hle
      cases h
      exact ⟨target, List.mem_cons_self, rfl⟩
  | succ m ih =>
      cases h with
      | nil =>
          exact exists_mem_optionally target
      | cons hstep hrest =>
          have hmore : Finds (andThen way (atMost greedy way m) spot) target.index :=
            finds_andThen hstep (ih hrest (Nat.le_of_succ_le_succ hle))
          exact finds_optionally hmore

/-- A repetition that got no further is as good as none, so one of the others must do. -/
theorem finds_onceOrMore (hsteady : Steady way) (h : Chain way (n + 1) spot target) :
    Finds (onceOrMore greedy way spot) target.index := by
  induction n generalizing target with
  | zero =>
      cases h with
      | cons hstep hrest =>
          rename_i middle
          cases hrest
          apply finds_distinct
          refine List.mem_flatMap.mpr ⟨target, hstep, ?_⟩
          split
          · exact List.mem_cons_self
          · exact mem_again_self target
  | succ n ih =>
      cases h with
      | cons hstep hrest =>
          rename_i middle
          by_cases hindex : middle.index = spot.index
          · have hplace : SamePlace middle spot :=
              (hsteady.ahead _ _ hstep).samePlace (.refl spot) hindex
            rcases hrest.moves hsteady hplace with ⟨last, hchain, hsame⟩
            rw [hsame.index_eq]
            exact ih hchain
          · have hagain : Finds (again greedy way middle) target.index := finds_again hsteady hrest
            rcases hagain with ⟨last, hlast, hlastIndex⟩
            rw [← hlastIndex]
            apply finds_distinct
            refine List.mem_flatMap.mpr ⟨middle, hstep, ?_⟩
            rw [if_neg hindex]
            exact hlast

theorem finds_anyNumber {nullable : Bool} (hsteady : Steady way) (h : Chain way n spot target) :
    Finds (anyNumber greedy nullable way spot) target.index := by
  unfold anyNumber
  split
  · cases n with
    | zero =>
        cases h
        exact exists_mem_optionally spot
    | succ n =>
        exact finds_optionally (finds_onceOrMore hsteady h)
  · exact finds_again hsteady h

/-- After a number of steps another way may do the rest. -/
theorem finds_exactly_andThen {rest : Way} (hsteady : Steady way)
    (h : Chain way (n + m) spot target)
    (hrest : forall middle last, Chain way m middle last -> Finds (rest middle) last.index) :
    Finds (andThen (exactly way n) rest spot) target.index :=
  finds_andThen_of_chain hsteady h (fun _ => ahead_of_mem_exactly hsteady)
    (fun _ => finds_exactly hsteady) hrest

/-- A run of a repetition leads to each place that a number of repetitions leads to. -/
theorem finds_times {least : Nat} {most : Option Nat} (hsteady : Steady inside.run)
    (h : Chain inside.run n spot target) (hleast : least ≤ n)
    (hmost : forall limit, most = some limit -> n ≤ max least limit) :
    Finds ((Regex.times inside least most greedy).run spot) target.index := by
  obtain ⟨more, rfl⟩ := Nat.exists_eq_add_of_le hleast
  cases most with
  | some limit =>
      have hmore : more ≤ limit - least := by
        have hlimit := hmost limit rfl
        omega
      exact finds_exactly_andThen hsteady h fun _ _ hchain => finds_atMost hchain hmore
  | none =>
      cases least with
      | zero =>
          exact finds_anyNumber hsteady h
      | succ least =>
          rw [Nat.add_assoc, Nat.add_comm 1 more] at h
          exact finds_exactly_andThen hsteady h fun _ _ => finds_onceOrMore hsteady

/-!
# What expressions take
-/

/-- What an expression takes repeatedly is a chain of steps as long as it may be, where a run leads
to all that the repeated expression takes. -/
theorem exists_chain_of_takes {least : Nat} {most : Option Nat}
    (hinside : forall spot next other, Takes inside spot next -> SamePlace spot other ->
      exists last, last ∈ inside.run other ∧ SamePlace next last)
    (h : Takes (.times inside least most greedy) spot next) (hsame : SamePlace spot other) :
    exists count last, least ≤ count ∧
      (forall limit, most = some limit -> count ≤ max least limit) ∧
        Chain inside.run count other last ∧ SamePlace next last := by
  generalize htimes : Regex.times inside least most greedy = regex at h
  induction h generalizing least most other with
  | stop =>
      cases htimes
      exact ⟨0, other, Nat.le_refl _, fun _ _ => Nat.zero_le _, .nil, hsame⟩
  | more hcount hstep hrest ihStep ihRest =>
      cases htimes
      rename_i least most
      rcases hinside _ _ _ hstep hsame with ⟨middle, hmiddle, hplace⟩
      rcases ihRest hplace rfl with ⟨count, last, hleast, hmost, hchain, hlast⟩
      refine ⟨count + 1, last, by omega, ?_, .cons hmiddle hchain, hlast⟩
      intro limit hlimit
      have hbound := hmost (limit - 1) (by rw [hlimit]; rfl)
      have hpositive : 0 < least ∨ limit ≠ 0 := by
        rcases hcount with hleast | hne
        · exact Or.inl hleast
        · exact Or.inr fun hzero => hne (by rw [hlimit, hzero])
      omega
  | empty | char | anchor | group | seq | left | right =>
      cases htimes

/-- A spot found where the expression leads, with as many characters before it, is at the place. -/
theorem exists_mem_of_finds (h : Takes regex spot next) (hsame : SamePlace spot other)
    (hfinds : Finds (regex.run other) next.index) :
    exists last, last ∈ regex.run other ∧ SamePlace next last := by
  rcases hfinds with ⟨last, hlast, hindex⟩
  have hnext : Ahead other next := (Ahead.of_samePlace hsame.symm).trans h.ahead
  exact ⟨last, hlast, hnext.samePlace (takes_of_mem_run hlast).ahead hindex.symm⟩

/-- A run leads to each place up to which the expression takes the text. -/
theorem exists_mem_of_takes (h : Takes regex spot next) (hsame : SamePlace spot other) :
    exists last, last ∈ regex.run other ∧ SamePlace next last := by
  induction regex generalizing spot next other with
  | empty =>
      cases h
      exact ⟨other, List.mem_cons_self, hsame⟩
  | char set =>
      apply exists_mem_of_finds h hsame
      cases h with
      | char hrest hset =>
          rename_i c rest
          rw [hsame.rest_eq] at hrest
          refine ⟨{ other with index := other.index + 1, before := some c, rest }, ?_,
            congrArg (· + 1) hsame.index_eq.symm⟩
          rw [run, takeChar, hrest]
          simp [hset]
  | anchor condition =>
      cases h with
      | anchor hholds =>
          rw [← hsame.holds_eq] at hholds
          refine ⟨other, ?_, hsame⟩
          simp [run, hholds]
  | group number inside ih =>
      cases h with
      | group hinside =>
          rcases ih hinside hsame with ⟨last, hlast, hplace⟩
          exact ⟨_, List.mem_map_of_mem hlast, ⟨hplace.index_eq, hplace.before_eq, hplace.rest_eq⟩⟩
  | seq first second ihFirst ihSecond =>
      apply exists_mem_of_finds h hsame
      cases h with
      | seq hfirst hsecond =>
          rcases ihFirst hfirst hsame with ⟨middle, hmiddle, hplace⟩
          rcases ihSecond hsecond hplace with ⟨last, hlast, hsameLast⟩
          exact finds_andThen hmiddle ⟨last, hlast, hsameLast.index_eq.symm⟩
  | alt first second ihFirst ihSecond =>
      apply exists_mem_of_finds h hsame
      cases h with
      | left hfirst =>
          rcases ihFirst hfirst hsame with ⟨last, hlast, hplace⟩
          rw [hplace.index_eq]
          exact finds_distinct (List.mem_append_left _ hlast)
      | right hsecond =>
          rcases ihSecond hsecond hsame with ⟨last, hlast, hplace⟩
          rw [hplace.index_eq]
          exact finds_distinct (List.mem_append_right _ hlast)
  | times inside least most greedy ih =>
      have hsteady : Steady inside.run :=
        ⟨fun _ _ hmem => (takes_of_mem_run hmem).ahead,
          fun _ _ _ hplace hmem => ih (takes_of_mem_run hmem) hplace⟩
      rcases exists_chain_of_takes (fun _ _ _ => ih) h hsame with
        ⟨count, last, hleast, hmost, hchain, hplace⟩
      apply exists_mem_of_finds h hsame
      rw [hplace.index_eq]
      exact finds_times hsteady hchain hleast hmost

/-- What the expression takes at the start of a text is found by a search for it there. -/
theorem isSome_search_of_takes {text : String}
    (h : Takes regex (Spot.ofText text.toList) next) :
    ((Regex.seq (.anchor .textStart) regex).search? text).isSome = true := by
  rcases exists_mem_of_takes h (.refl _) with ⟨last, hlast, _⟩
  rcases exists_search_of_mem_run hlast with ⟨found, _, hfound⟩
  rw [hfound]
  rfl

end Regex
end Docloom
