import Docloom.Proofs.Regex.Run

/-!
# What groups keep

A group in which the characters of a set stand as seldom as possible keeps all of them.  When the
group itself is repeated, each repetition takes a single character, for that is what is preferred,
and the text of the group is that of the last one.
-/

namespace Docloom
namespace Regex

variable {spot middle next : Spot} {spots found : List Spot} {set : CharSet}
  {taken more rest : List Char} {c : Char} {n number fuel : Nat} {greedy : Bool} {way : Way}

/-- Whether two spots have the same texts for all groups but the one with a number. -/
def SameBut (number : Nat) (spot next : Spot) : Prop :=
  forall other, other ≠ number -> next.group? other = spot.group? other

theorem SameBut.of_groups_eq (h : next.groups = spot.groups) : SameBut number spot next := by
  intro other _
  rw [Spot.group?, h, Spot.group?]

theorem SameBut.trans (hfirst : SameBut number spot middle) (hsecond : SameBut number middle next) :
    SameBut number spot next :=
  fun other hother => (hsecond other hother).trans (hfirst other hother)

/-- Whether the characters between two spots are these, all of them in a set. -/
structure Took (set : CharSet) (taken : List Char) (spot next : Spot) : Prop where
  rest_eq : spot.rest = taken ++ next.rest
  index_eq : next.index = spot.index + taken.length
  has : forall c, c ∈ taken -> set.has c = true

namespace Took

theorem nil (spot : Spot) : Took set [] spot spot := ⟨rfl, rfl, by simp⟩

theorem append (hfirst : Took set taken spot middle) (hsecond : Took set more middle next) :
    Took set (taken ++ more) spot next := by
  refine ⟨?_, ?_, ?_⟩
  · rw [hfirst.rest_eq, hsecond.rest_eq, List.append_assoc]
  · rw [hsecond.index_eq, hfirst.index_eq, List.length_append, Nat.add_assoc]
  · intro c hc
    rcases List.mem_append.mp hc with hc | hc
    · exact hfirst.has c hc
    · exact hsecond.has c hc

/-- The text that is kept when characters are taken is that of the characters. -/
theorem take_rest (h : Took set taken spot next) :
    spot.rest.take (next.index - spot.index) = taken := by
  rw [h.index_eq, h.rest_eq, Nat.add_sub_cancel_left, List.take_left]

end Took

/-!
# Parts of expressions
-/

section Parts

variable {inside first second : Regex}

theorem exists_of_mem_seq (h : next ∈ (Regex.seq first second).run spot) :
    exists middle, middle ∈ first.run spot ∧ next ∈ second.run middle :=
  List.mem_flatMap.mp (mem_of_mem_distinct h)

theorem eq_or_mem_of_mem_optional (h : next ∈ (Regex.times inside 0 (some 1) greedy).run spot) :
    next = spot ∨ next ∈ inside.run spot := by
  rcases chain_of_mem_times h with ⟨count, _, hcount, hchain⟩
  have hle := hcount 1 rfl
  cases hchain with
  | nil =>
      exact Or.inl rfl
  | cons hstep hrest =>
      cases hrest with
      | nil =>
          exact Or.inr hstep
      | cons =>
          omega

/-- A group keeps what is taken inside it, and leaves the other groups as they are. -/
theorem exists_inside_of_mem_group (h : next ∈ (Regex.group number inside).run spot) :
    exists last, last ∈ inside.run spot ∧ last.rest = next.rest ∧ SameBut number last next ∧
      forall text, spot.rest = text ++ next.rest -> next.group? number = some text := by
  rcases List.mem_map.mp h with ⟨last, hlast, rfl⟩
  refine ⟨last, hlast, rfl, fun other hother => Spot.group?_keeping_of_ne hother last _, ?_⟩
  intro text htext
  rcases (takes_of_mem_run hlast).exists_taken with ⟨taken, hrest, hindex⟩
  have hsame : taken = text := List.append_cancel_right (hrest.symm.trans htext)
  have hkept : spot.rest.take (last.index - spot.index) = text := by
    rw [hindex, Nat.add_sub_cancel_left, hrest, List.take_left, hsame]
  rw [← hkept]
  exact Spot.group?_keeping_self last number _

end Parts

/-!
# Characters of a set
-/

theorem took_of_chain_char (h : Chain (Regex.char set).run n spot next) :
    exists taken, taken.length = n ∧ Took set taken spot next ∧ next.groups = spot.groups := by
  induction h with
  | nil =>
      rename_i spot
      exact ⟨[], rfl, .nil spot, rfl⟩
  | cons hstep hrest ih =>
      rename_i spot middle next n
      rcases ih with ⟨taken, hlength, htook, hgroups⟩
      cases takes_of_mem_run hstep with
      | char hspot hset =>
          rename_i c rest
          have hfirst : Took set [c] spot
              { spot with index := spot.index + 1, before := some c, rest } :=
            ⟨hspot, rfl, by simpa using hset⟩
          exact ⟨[c] ++ taken, by simp [hlength], hfirst.append htook, hgroups⟩

/-- A group of characters of a set, at least one of them, keeps all of them. -/
theorem exists_of_mem_group
    (h : next ∈ (Regex.group number (.times (.char set) 1 none greedy)).run spot) :
    exists taken, taken ≠ [] ∧ Took set taken spot next ∧ next.group? number = some taken ∧
      SameBut number spot next := by
  rcases List.mem_map.mp h with ⟨last, hlast, rfl⟩
  rcases chain_of_mem_times hlast with ⟨count, hcount, _, hchain⟩
  rcases took_of_chain_char hchain with ⟨taken, hlength, htook, hgroups⟩
  refine ⟨taken, ?_, ⟨htook.rest_eq, htook.index_eq, htook.has⟩, ?_, ?_⟩
  · rintro rfl
    rw [List.length_nil] at hlength
    omega
  · rw [← htook.take_rest]
    exact Spot.group?_keeping_self last number _
  · exact (SameBut.of_groups_eq hgroups).trans fun other hother =>
      Spot.group?_keeping_of_ne hother last _

/-!
# What comes first
-/

theorem foldl_eq_append {reached : List Spot -> Spot -> List Spot}
    (hreached : forall found start, exists more, reached found start = found ++ more) :
    exists more, spots.foldl reached found = found ++ more := by
  induction spots generalizing found with
  | nil =>
      exact ⟨[], (List.append_nil found).symm⟩
  | cons start spots ih =>
      rcases hreached found start with ⟨first, hfirst⟩
      have hrest : exists more, spots.foldl reached (found ++ first) = found ++ first ++ more := ih
      rcases hrest with ⟨more, hmore⟩
      exact ⟨first ++ more, by rw [List.foldl_cons, hfirst, hmore, List.append_assoc]⟩

/-- What was found stays in front. -/
theorem reach_eq_append : exists more, reach greedy way n found spot = found ++ more := by
  induction n generalizing found spot with
  | zero =>
      exact ⟨[spot], rfl⟩
  | succ n ih =>
      rw [reach]
      split
      · exact ⟨[], (List.append_nil found).symm⟩
      · have hsteps : forall (spots found : List Spot),
            exists more, spots.foldl (reach greedy way n) found = found ++ more :=
          fun _ _ => foldl_eq_append fun _ _ => ih
        dsimp only
        split
        · rcases hsteps ((way spot).filter fun next => spot.index < next.index) found with
            ⟨more, hmore⟩
          exact ⟨more ++ [spot], by rw [hmore, List.append_assoc]⟩
        · rcases hsteps ((way spot).filter fun next => spot.index < next.index)
            (found ++ [spot]) with ⟨more, hmore⟩
          exact ⟨[spot] ++ more, by rw [hmore, List.append_assoc]⟩

theorem distinct_cons (spot : Spot) (spots : List Spot) :
    exists others, distinct (spot :: spots) = spot :: others :=
  ⟨distinctFrom [spot.index] spots, rfl⟩

/-- A way that need not be gone again stops at once, if it may choose. -/
theorem again_eq_cons (way : Way) (spot : Spot) :
    exists others, again false way spot = spot :: others := by
  rw [again, reach, if_neg (by simp), if_neg Bool.false_ne_true]
  exact foldl_eq_append fun _ _ => reach_eq_append

/-- The group of the characters of a set as seldom as possible. -/
def lazyGroup (number : Nat) (set : CharSet) : Regex :=
  .group number (.times (.char set) 1 none false)

/-- The spot after the first character, which is kept in the group with a number. -/
def Spot.afterFirst (spot : Spot) (number : Nat) (c : Char) (rest : List Char) : Spot :=
  Spot.keeping { spot with index := spot.index + 1, before := some c, rest } number [c]

theorem took_afterFirst (number : Nat) (hrest : spot.rest = c :: rest) (hset : set.has c = true) :
    Took set [c] spot (spot.afterFirst number c rest) :=
  ⟨hrest, rfl, by simpa using hset⟩

/-- What a group prefers is a single character. -/
theorem run_lazyGroup_cons (number : Nat) (hrest : spot.rest = c :: rest)
    (hset : set.has c = true) :
    exists others,
      (lazyGroup number set).run spot = spot.afterFirst number c rest :: others := by
  have hchar : (Regex.char set).run spot =
      [{ spot with index := spot.index + 1, before := some c, rest }] := by
    rw [run, takeChar, hrest]
    simp [hset]
  have honce : exists others, onceOrMore false (Regex.char set).run spot =
      { spot with index := spot.index + 1, before := some c, rest } :: others := by
    rw [onceOrMore, hchar, List.flatMap_singleton, if_neg (by simp)]
    rcases again_eq_cons (Regex.char set).run
      { spot with index := spot.index + 1, before := some c, rest } with ⟨others, hothers⟩
    rw [hothers]
    exact distinct_cons _ _
  have htimes : exists others, (Regex.times (.char set) 1 none false).run spot =
      { spot with index := spot.index + 1, before := some c, rest } :: others := by
    rcases honce with ⟨others, hothers⟩
    have hrun : (Regex.times (.char set) 1 none false).run spot =
        distinct ([spot].flatMap (onceOrMore false (Regex.char set).run)) := rfl
    rw [hrun, List.flatMap_singleton, hothers]
    exact distinct_cons _ _
  rcases htimes with ⟨others, hothers⟩
  rw [lazyGroup, run, keep, hothers, List.map_cons]
  have htext : spot.rest.take (spot.index + 1 - spot.index) = [c] := by
    rw [hrest, Nat.add_sub_cancel_left]
    rfl
  dsimp only
  rw [htext]
  exact ⟨_, rfl⟩

/-!
# Repeated groups
-/

/-- Whether characters of a set were taken of which a group keeps the last one only. -/
def KeptLast (number : Nat) (set : CharSet) (spot next : Spot) : Prop :=
  exists before c, Took set (before ++ [c]) spot next ∧ next.group? number = some [c] ∧
    SameBut number spot next

theorem keptLast_afterFirst (hrest : spot.rest = c :: rest) (hset : set.has c = true)
    (h : next = spot.afterFirst number c rest ∨
      KeptLast number set (spot.afterFirst number c rest) next) :
    KeptLast number set spot next := by
  have hfirst := took_afterFirst number hrest hset
  have hsame : SameBut number spot (spot.afterFirst number c rest) :=
    fun other hother => Spot.group?_keeping_of_ne hother _ _
  rcases h with rfl | ⟨before, last, htook, hgroup, hafter⟩
  · exact ⟨[], c, hfirst, Spot.group?_keeping_self _ _ _, hsame⟩
  · exact ⟨c :: before, last, hfirst.append htook, hgroup, hsame.trans hafter⟩

/-- From a spot where the group can be gone at all, its ways lead on from a single character. -/
theorem exists_first (h : next ∈ (lazyGroup number set).run spot) :
    exists c rest others, spot.rest = c :: rest ∧ set.has c = true ∧
      (lazyGroup number set).run spot = spot.afterFirst number c rest :: others := by
  rcases exists_of_mem_group h with ⟨taken, hne, htook, _, _⟩
  rcases List.exists_cons_of_ne_nil hne with ⟨c, more, rfl⟩
  have hset := htook.has c List.mem_cons_self
  rcases run_lazyGroup_cons number htook.rest_eq hset with ⟨others, hothers⟩
  exact ⟨c, _, others, htook.rest_eq, hset, hothers⟩

theorem took_of_chain_group (h : Chain (lazyGroup number set).run n spot next) :
    exists taken, Took set taken spot next := by
  induction h with
  | nil =>
      exact ⟨[], .nil _⟩
  | cons hstep hrest ih =>
      rcases exists_of_mem_group hstep with ⟨taken, _, htook, _, _⟩
      rcases ih with ⟨more, hmore⟩
      exact ⟨taken ++ more, htook.append hmore⟩

theorem mem_reach_self (spot : Spot) : spot ∈ reach true way fuel [] spot := by
  cases fuel with
  | zero =>
      exact List.mem_cons_self
  | succ fuel =>
      rw [reach, if_neg (by simp), if_pos rfl]
      exact List.mem_append_right _ List.mem_cons_self

/-- Repetitions of the group lead to each place before which all characters are in the set. -/
theorem exists_mem_reach (hrest : spot.rest = taken ++ rest)
    (hset : forall c, c ∈ taken -> set.has c = true) (hfuel : taken.length ≤ fuel) :
    exists reached, reached ∈ reach true (lazyGroup number set).run fuel [] spot ∧
      reached.index = spot.index + taken.length := by
  induction taken generalizing spot fuel with
  | nil =>
      exact ⟨spot, mem_reach_self spot, rfl⟩
  | cons c taken ih =>
      cases fuel with
      | zero =>
          cases hfuel
      | succ fuel =>
          have hc := hset c List.mem_cons_self
          rcases run_lazyGroup_cons number hrest hc with ⟨others, hothers⟩
          have hfirst : spot.index < (spot.afterFirst number c (taken ++ rest)).index :=
            Nat.lt_succ_self _
          have hbelow : exists reached, reached ∈ reach true (lazyGroup number set).run fuel []
              (spot.afterFirst number c (taken ++ rest)) ∧
                reached.index = (spot.afterFirst number c (taken ++ rest)).index + taken.length :=
            ih rfl (fun d hd => hset d (List.mem_cons_of_mem _ hd)) (Nat.le_of_succ_le_succ hfuel)
          rcases hbelow with ⟨reached, hreached, hindex⟩
          refine ⟨reached, ?_, ?_⟩
          · rw [reach, if_neg (by simp), if_pos rfl, hothers,
              List.filter_cons_of_pos (by simpa using hfirst), List.foldl_cons]
            exact List.mem_append_left _
              (mem_foldl_of_mem (fun _ start h => mem_reach_of_mem h start) hreached)
          · rw [hindex, List.length_cons]
            simp only [Spot.afterFirst, Spot.keeping]
            omega

/-- The single character leads to each place that more characters lead to. -/
theorem exists_mem_reach_afterFirst (hrest : spot.rest = c :: rest)
    (htook : Took set taken spot next) (hne : taken ≠ []) (hfuel : rest.length ≤ fuel) :
    exists reached,
      reached ∈ reach true (lazyGroup number set).run fuel [] (spot.afterFirst number c rest) ∧
        reached.index = next.index := by
  rcases List.exists_cons_of_ne_nil hne with ⟨d, more, rfl⟩
  have hmore : rest = more ++ next.rest :=
    List.tail_eq_of_cons_eq (hrest.symm.trans htook.rest_eq)
  have hcount : more.length ≤ fuel := by
    rw [hmore, List.length_append] at hfuel
    omega
  have hreach : exists reached, reached ∈ reach true (lazyGroup number set).run fuel []
      (spot.afterFirst number c rest) ∧
        reached.index = (spot.afterFirst number c rest).index + more.length :=
    exists_mem_reach hmore (fun e he => htook.has e (List.mem_cons_of_mem _ he)) hcount
  rcases hreach with ⟨reached, hreached, hindex⟩
  refine ⟨reached, hreached, ?_⟩
  rw [hindex, htook.index_eq, List.length_cons]
  simp only [Spot.afterFirst, Spot.keeping]
  omega

/-- Spots at places that were found lead to nothing new. -/
theorem foldl_reach_of_found
    (h : forall spot, spot ∈ spots -> exists other, other ∈ found ∧ other.index = spot.index) :
    spots.foldl (reach greedy way (fuel + 1)) found = found := by
  induction spots with
  | nil =>
      rfl
  | cons spot spots ih =>
      have hfound : (found.any fun other => other.index == spot.index) = true := by
        simpa using h spot List.mem_cons_self
      rw [List.foldl_cons, reach, if_pos hfound]
      exact ih fun other hother => h other (List.mem_cons_of_mem _ hother)

theorem mem_reach_lazyGroup (hfuel : spot.rest.length < fuel)
    (h : next ∈ reach true (lazyGroup number set).run fuel [] spot) :
    next = spot ∨ KeptLast number set spot next := by
  induction fuel generalizing spot with
  | zero =>
      cases hfuel
  | succ fuel ih =>
      rw [reach, if_neg (by simp), if_pos rfl] at h
      rcases List.mem_append.mp h with hfold | hself
      · right
        cases hway : (lazyGroup number set).run spot with
        | nil =>
            rw [hway] at hfold
            cases hfold
        | cons start others =>
            have hstart : start ∈ (lazyGroup number set).run spot := by
              rw [hway]
              exact List.mem_cons_self
            rcases exists_first hstart with ⟨c, rest, others, hrest, hset, hothers⟩
            have hlength : rest.length < fuel := by
              rw [hrest, List.length_cons] at hfuel
              omega
            have hfirst : spot.index < (spot.afterFirst number c rest).index :=
              Nat.lt_succ_self _
            rw [hothers, List.filter_cons_of_pos (by simpa using hfirst), List.foldl_cons] at hfold
            rcases Nat.exists_eq_add_one_of_ne_zero (Nat.ne_zero_of_lt hlength) with ⟨f, rfl⟩
            rw [foldl_reach_of_found] at hfold
            · exact keptLast_afterFirst hrest hset (ih hlength hfold)
            · intro other hother
              have hmem : other ∈ (lazyGroup number set).run spot := by
                rw [hothers]
                exact List.mem_cons_of_mem _ (List.mem_filter.mp hother).1
              rcases exists_of_mem_group hmem with ⟨taken, hne, htook, _, _⟩
              exact exists_mem_reach_afterFirst hrest htook hne (Nat.le_of_lt hlength)
      · exact Or.inl (List.mem_singleton.mp hself)

/-- A group repeated any number of times keeps the last character. -/
theorem keptLast_of_mem_anyNumber
    (h : next ∈ (Regex.times (lazyGroup number set) 0 none true).run spot) :
    next = spot ∨ KeptLast number set spot next :=
  mem_reach_lazyGroup (Nat.lt_succ_self _) h

theorem distinctFrom_of_seen {seen : List Nat}
    (h : forall spot, spot ∈ spots -> spot.index ∈ seen) : distinctFrom seen spots = [] := by
  induction spots with
  | nil =>
      rfl
  | cons spot spots ih =>
      rw [distinctFrom, if_pos (by simpa using h spot List.mem_cons_self)]
      exact ih fun other hother => h other (List.mem_cons_of_mem _ hother)

/-- Spots at places that come before them are left out. -/
theorem mem_of_mem_distinctFrom_append {seen : List Nat} {others : List Spot}
    (hfound : forall other, other ∈ others ->
      other.index ∈ seen ∨ exists earlier, earlier ∈ spots ∧ earlier.index = other.index)
    (h : next ∈ distinctFrom seen (spots ++ others)) : next ∈ spots := by
  induction spots generalizing seen with
  | nil =>
      rw [List.nil_append, distinctFrom_of_seen (by simpa using hfound)] at h
      cases h
  | cons spot spots ih =>
      rw [List.cons_append, distinctFrom] at h
      split at h
      · rename_i hseen
        apply List.mem_cons_of_mem
        apply ih _ h
        intro other hother
        rcases hfound other hother with hmem | ⟨earlier, hearlier, hindex⟩
        · exact Or.inl hmem
        · rcases List.mem_cons.mp hearlier with rfl | hrest
          · left
            rw [← hindex]
            simpa using hseen
          · exact Or.inr ⟨earlier, hrest, hindex⟩
      · rcases List.mem_cons.mp h with rfl | hrest
        · exact List.mem_cons_self
        · apply List.mem_cons_of_mem
          apply ih _ hrest
          intro other hother
          rcases hfound other hother with hmem | ⟨earlier, hearlier, hindex⟩
          · exact Or.inl (List.mem_cons_of_mem _ hmem)
          · rcases List.mem_cons.mp hearlier with rfl | hrest
            · left
              rw [← hindex]
              exact List.mem_cons_self
            · exact Or.inr ⟨earlier, hrest, hindex⟩

/-- The same of a group repeated once at least. -/
theorem keptLast_of_mem_onceOrMore
    (h : next ∈ (Regex.times (lazyGroup number set) 1 none true).run spot) :
    KeptLast number set spot next := by
  have honce : next ∈ onceOrMore true (lazyGroup number set).run spot := by
    rcases List.mem_flatMap.mp (mem_of_mem_distinct h) with ⟨start, hstart, honce⟩
    rw [← List.mem_singleton.mp hstart]
    exact honce
  have hsome := List.mem_flatMap.mp (mem_of_mem_distinct honce)
  rcases hsome with ⟨start, hstart, _⟩
  rcases exists_first hstart with ⟨c, rest, others, hrest, hset, hothers⟩
  have hne : (spot.afterFirst number c rest).index ≠ spot.index := Nat.succ_ne_self _
  rw [onceOrMore, hothers, List.flatMap_cons, if_neg hne] at honce
  have hfirst : next ∈ again true (lazyGroup number set).run (spot.afterFirst number c rest) := by
    refine mem_of_mem_distinctFrom_append ?_ honce
    intro other hother
    right
    rcases List.mem_flatMap.mp hother with ⟨start, hmem, hafter⟩
    have hstart : start ∈ (lazyGroup number set).run spot := by
      rw [hothers]
      exact List.mem_cons_of_mem _ hmem
    rcases exists_of_mem_group hstart with ⟨taken, htaken, htook, _, _⟩
    have hchain : exists more, Took set more start other := by
      split at hafter
      · rw [List.mem_singleton.mp hafter]
        exact ⟨[], .nil start⟩
      · rcases chain_of_mem_again hafter with ⟨count, hchain⟩
        exact took_of_chain_group hchain
    rcases hchain with ⟨more, hmore⟩
    have hne : taken ++ more ≠ [] := by
      simp [htaken]
    exact exists_mem_reach_afterFirst hrest (htook.append hmore) hne (Nat.le_succ _)
  exact keptLast_afterFirst hrest hset (mem_reach_lazyGroup (Nat.lt_succ_self _) hfirst)

/-!
# Searches from the start
-/

section Searches

variable {regex : Regex} {before : Option Char} {cs : List Char} {text : String}
  {groups : List (Nat × String)}

theorem run_anchored_of_before (h : before.isSome = true) :
    (Regex.seq (.anchor .textStart) regex).run ⟨n, before, cs, []⟩ = [] := by
  have hfails : (Regex.anchor .textStart).run ⟨n, before, cs, []⟩ = [] := by
    rw [run]
    simp [Anchor.holds, Option.isSome_iff_ne_none.mp h]
  rw [run, andThen, hfails]
  rfl

theorem searchFrom_anchored_of_before (h : before.isSome = true) :
    (Regex.seq (.anchor .textStart) regex).searchFrom n before cs = none := by
  induction cs generalizing n before with
  | nil =>
      rw [searchFrom, run_anchored_of_before h]
      rfl
  | cons c rest ih =>
      rw [searchFrom, run_anchored_of_before h]
      exact ih rfl

/-- An expression for the start of a text matches there or nowhere. -/
theorem exists_of_search_anchored
    (h : (Regex.seq (.anchor .textStart) regex).search? text = some groups) :
    exists next, next ∈ regex.run (.ofText text.toList) ∧
      forall number, groups.lookup number = (next.group? number).map String.ofList := by
  rcases Option.map_eq_some_iff.mp h with ⟨next, hsearch, rfl⟩
  have hrun : next ∈ (Regex.seq (.anchor .textStart) regex).run (.ofText text.toList) := by
    cases hcs : text.toList with
    | nil =>
        rw [hcs, searchFrom] at hsearch
        exact List.mem_of_head? hsearch
    | cons c rest =>
        rw [hcs, searchFrom] at hsearch
        split at hsearch
        · rename_i found others hfound
          cases hsearch
          rw [Spot.ofText, hfound]
          exact List.mem_cons_self
        · rw [searchFrom_anchored_of_before rfl] at hsearch
          cases hsearch
  rcases exists_of_mem_seq hrun with ⟨start, hstart, hnext⟩
  cases takes_of_mem_run hstart with
  | anchor _ =>
      exact ⟨next, hnext, Lists.lookup_map next.groups String.ofList⟩

end Searches

end Regex
end Docloom
