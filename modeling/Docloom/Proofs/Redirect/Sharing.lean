import Docloom.Redirect.Cache
import Mathlib.Data.List.Dedup
import Mathlib.Logic.Function.Basic

/-!
# Sharing a redirect cache

Workers share one cache.  A call for a directory takes three steps, and steps of other workers
may come between them, as may changes of files: the worker looks the directory up, loads its
rules if they are not there, and puts them in unless others have done so by then.  Whatever the
order of the steps, what is in the cache stays, so all calls for a directory that are answered
with rules are answered with the same ones.
-/

namespace Docloom
namespace RedirectCache

variable {cache : RedirectCache} {directory other : Path} {rules : List RedirectRule}
  {shared : SharedRules} {files : FileSystem}

/-!
# Putting rules in
-/

theorem lookup_congr (h : directory.components = other.components) :
    cache.lookup directory = cache.lookup other := by
  rw [lookup, lookup, h]

theorem insert_of_none (h : cache.lookup directory = none) :
    cache.insert directory rules =
      (⟨cache.entries ++ [(directory.components, ⟨cache.next, rules⟩)], cache.next + 1⟩,
        ⟨cache.next, rules⟩) := by
  simp [insert, h]

/-- Rules that are there stay. -/
theorem lookup_insert_of_lookup (h : cache.lookup other = some shared) :
    (cache.insert directory rules).1.lookup other = some shared := by
  cases hfound : cache.lookup directory with
  | some found =>
      rw [insert_of_lookup rules hfound]
      exact h
  | none =>
      rw [insert_of_none hfound]
      unfold lookup at h ⊢
      rw [List.lookup_append, h]
      rfl

theorem lookup_insert_self :
    (cache.insert directory rules).1.lookup directory =
      some (cache.insert directory rules).2 := by
  cases hfound : cache.lookup directory with
  | some found =>
      rw [insert_of_lookup rules hfound]
      exact hfound
  | none =>
      rw [insert_of_none hfound]
      unfold lookup at hfound ⊢
      rw [List.lookup_append, hfound]
      simp

/-- What is there after rules were put in was there before or is what was put in. -/
theorem lookup_of_lookup_insert
    (h : (cache.insert directory rules).1.lookup other = some shared) :
    cache.lookup other = some shared ∨
      (cache.lookup directory = none ∧ other.components = directory.components ∧
        shared.rules = rules) := by
  cases hfound : cache.lookup directory with
  | some found =>
      rw [insert_of_lookup rules hfound] at h
      exact Or.inl h
  | none =>
      rw [insert_of_none hfound] at h
      cases hother : cache.lookup other with
      | some before =>
          left
          have hkept : (cache.insert directory rules).1.lookup other = some before :=
            lookup_insert_of_lookup hother
          rw [insert_of_none hfound] at hkept
          exact hkept.symm.trans h
      | none =>
          right
          unfold lookup at h hother
          rw [List.lookup_append, hother, Option.none_or, List.lookup_cons] at h
          split at h
          · rename_i hsame
            cases h
            exact ⟨rfl, eq_of_beq hsame, rfl⟩
          · cases h

/-!
# Keys and numbers
-/

/-- The components of the directories that have rules. -/
def keys (cache : RedirectCache) : List (List Path.Component) := cache.entries.map Prod.fst

/-- Whether no directory is there twice, and no number. -/
structure Sound (cache : RedirectCache) : Prop where
  keys : cache.keys.Nodup
  numbers : (cache.entries.map fun entry => entry.2.number).Nodup
  handedOut : forall entry, entry ∈ cache.entries -> entry.2.number < cache.next

theorem sound_empty : Sound empty := by
  constructor <;> simp [empty, RedirectCache.keys]

theorem lookup_eq_none_iff : cache.lookup directory = none ↔ directory.components ∉ cache.keys := by
  rw [lookup, List.lookup_eq_none_iff, keys]
  constructor
  · intro h hmem
    rcases List.mem_map.mp hmem with ⟨entry, hentry, heq⟩
    have := h entry hentry
    simp [heq] at this
  · intro h entry hentry
    rw [bne_iff_ne]
    intro heq
    exact h (List.mem_map.mpr ⟨entry, hentry, heq.symm⟩)

theorem mem_keys_insert {key : List Path.Component} :
    key ∈ (cache.insert directory rules).1.keys ↔
      key = directory.components ∨ key ∈ cache.keys := by
  cases hfound : cache.lookup directory with
  | some found =>
      rw [insert_of_lookup rules hfound]
      have hmem : directory.components ∈ cache.keys := by
        apply Decidable.byContradiction
        intro hnot
        rw [lookup_eq_none_iff.mpr hnot] at hfound
        cases hfound
      constructor
      · exact Or.inr
      · rintro (rfl | hkey)
        · exact hmem
        · exact hkey
  | none =>
      rw [insert_of_none hfound]
      simp [keys, or_comm]

theorem Sound.insert (h : Sound cache) : Sound (cache.insert directory rules).1 := by
  cases hfound : cache.lookup directory with
  | some found =>
      rw [insert_of_lookup rules hfound]
      exact h
  | none =>
      rw [insert_of_none hfound]
      have hnew := lookup_eq_none_iff.mp hfound
      have hlt := h.handedOut
      constructor
      · simp only [RedirectCache.keys, List.map_append, List.map_cons, List.map_nil]
        apply List.Nodup.append h.keys (List.nodup_singleton _)
        simpa [RedirectCache.keys] using hnew
      · simp only [List.map_append, List.map_cons, List.map_nil]
        apply List.Nodup.append h.numbers (List.nodup_singleton _)
        intro number hnumber hsame
        rcases List.mem_map.mp hnumber with ⟨entry, hentry, rfl⟩
        have := hlt entry hentry
        simp only [List.mem_singleton] at hsame
        omega
      · intro entry hentry
        rcases List.mem_append.mp hentry with hold | hput
        · exact Nat.lt_succ_of_lt (hlt entry hold)
        · rw [List.mem_singleton.mp hput]
          exact Nat.lt_succ_self _

/-- Directories share rules only if they are the same. -/
theorem Sound.components_eq (h : Sound cache) (hdirectory : cache.lookup directory = some shared)
    (hother : cache.lookup other = some shared) : directory.components = other.components := by
  unfold lookup at hdirectory hother
  rcases List.lookup_eq_some_iff.mp hdirectory with ⟨a, b, hentries, _⟩
  rcases List.lookup_eq_some_iff.mp hother with ⟨c, d, hothers, _⟩
  have hmem : (directory.components, shared) ∈ cache.entries := by simp [hentries]
  have hmemOther : (other.components, shared) ∈ cache.entries := by simp [hothers]
  have hsame := List.inj_on_of_nodup_map h.numbers hmem hmemOther rfl
  exact congrArg Prod.fst hsame

/-!
# Calls in steps
-/

/-- How far a call for a directory has come. -/
inductive Stage where
  | called
  | missed
  | loaded (rules : List RedirectRule)

/-- What a step of a call leads to. -/
inductive Progress where
  | goes (stage : Stage)
  | answered (outcome : Except Error SharedRules)

/-- The next step of a call, with the cache and the files as they are when it is taken. -/
def advance (cache : RedirectCache) (files : FileSystem) (directory : Path) :
    Stage → RedirectCache × Progress
  | .called =>
      match cache.lookup directory with
      | some shared => (cache, .answered (.ok shared))
      | none => (cache, .goes .missed)
  | .missed =>
      match RedirectRule.load files directory with
      | .ok rules => (cache, .goes (.loaded rules))
      | .error error => (cache, .answered (.error error))
  | .loaded rules =>
      let (cache, shared) := cache.insert directory rules
      (cache, .answered (.ok shared))

end RedirectCache

/-!
# Workers
-/

/-- Workers with the cache that they share.  Beside what they work on, the state keeps what was
answered and for which directories rules were put in, the last first. -/
structure SharedCache (Worker : Type) where
  files : FileSystem
  cache : RedirectCache
  /-- The call that a worker has begun. -/
  calls : Worker → Option (Path × RedirectCache.Stage)
  answers : List (Path × Except Error SharedRules)
  inserted : List Path

namespace SharedCache

/-- What can happen next. -/
inductive Event (Worker : Type) where
  | call (worker : Worker) (directory : Path)
  | advance (worker : Worker)
  | change (files : FileSystem)

def start (Worker : Type) (files : FileSystem) : SharedCache Worker :=
  ⟨files, .empty, fun _ => none, [], []⟩

/-- The directories for which a step of a call puts rules in. -/
def insertedBy (directory : Path) : RedirectCache.Stage → List Path
  | .loaded _ => [directory]
  | _ => []

section Answers

variable {Worker : Type}

/-!
# What every order of steps keeps
-/

/-- Answers are in the cache, and the cache has the directories for which rules were put in. -/
structure Invariant (state : SharedCache Worker) : Prop where
  sound : state.cache.Sound
  answered : forall directory shared, (directory, .ok shared) ∈ state.answers ->
    state.cache.lookup directory = some shared
  filled : forall key, key ∈ state.cache.keys ↔ key ∈ state.inserted.map Path.components

theorem invariant_start (files : FileSystem) : Invariant (start Worker files) := by
  refine ⟨RedirectCache.sound_empty, ?_, ?_⟩
  · simp [start]
  · simp [start, RedirectCache.keys, RedirectCache.empty]

namespace Invariant

variable {state : SharedCache Worker}

/-- An answer that is in the cache may be given. -/
theorem answer (h : Invariant state) {directory : Path} {outcome : Except Error SharedRules}
    (calls : Worker -> Option (Path × RedirectCache.Stage))
    (houtcome : forall shared, outcome = .ok shared -> state.cache.lookup directory = some shared) :
    Invariant { state with calls, answers := (directory, outcome) :: state.answers } := by
  refine ⟨h.sound, ?_, h.filled⟩
  intro asked shared hmem
  rcases List.mem_cons.mp hmem with heq | hbefore
  · cases heq
    exact houtcome shared rfl
  · exact h.answered asked shared hbefore

/-- Two answers with rules hold the same list if they are for one directory, and only then. -/
theorem answers_eq_iff (h : Invariant state) {directory other : Path} {a b : SharedRules}
    (ha : (directory, .ok a) ∈ state.answers) (hb : (other, .ok b) ∈ state.answers) :
    a = b ↔ directory.same other = true := by
  have hlookup := h.answered directory a ha
  have hother := h.answered other b hb
  rw [Path.same, beq_iff_eq]
  constructor
  · rintro rfl
    exact h.sound.components_eq hlookup hother
  · intro hsame
    rw [RedirectCache.lookup_congr hsame, hother] at hlookup
    cases hlookup
    rfl

theorem size_eq (h : Invariant state) :
    state.cache.size = (state.inserted.map Path.components).dedup.length := by
  have hperm : state.cache.keys.Perm (state.inserted.map Path.components).dedup := by
    rw [List.perm_ext_iff_of_nodup h.sound.keys (List.nodup_dedup _)]
    intro key
    rw [List.mem_dedup, h.filled key]
  rw [← hperm.length_eq, RedirectCache.size, RedirectCache.keys, List.length_map]

end Invariant

end Answers

/-!
# Events
-/

variable {Worker : Type} [DecidableEq Worker]

/-- The state after a step of a call.  A worker whose call is answered can begin another one. -/
def settle (state : SharedCache Worker) (worker : Worker) (directory : Path)
    (stage : RedirectCache.Stage) : SharedCache Worker :=
  let (cache, progress) := state.cache.advance state.files directory stage
  let inserted := insertedBy directory stage ++ state.inserted
  match progress with
  | .goes next =>
      { state with
        cache, inserted, calls := Function.update state.calls worker (some (directory, next)) }
  | .answered outcome =>
      { state with
        cache, inserted
        calls := Function.update state.calls worker none
        answers := (directory, outcome) :: state.answers }

/-- The state after an event.  A worker that has begun a call does not begin another one. -/
def step (state : SharedCache Worker) : Event Worker → SharedCache Worker
  | .change files => { state with files }
  | .call worker directory =>
      match state.calls worker with
      | none =>
          { state with calls := Function.update state.calls worker (some (directory, .called)) }
      | some _ => state
  | .advance worker =>
      match state.calls worker with
      | none => state
      | some (directory, stage) => state.settle worker directory stage

def run (state : SharedCache Worker) (events : List (Event Worker)) : SharedCache Worker :=
  events.foldl step state

/-!
# What a step does
-/

section Steps

variable {state : SharedCache Worker} {worker : Worker} {directory other : Path}
  {stage : RedirectCache.Stage} {shared : SharedRules} {event : Event Worker}
  {rules : List RedirectRule} {error : Error}

theorem settle_hit (h : state.cache.lookup directory = some shared) :
    state.settle worker directory .called =
      { state with
        calls := Function.update state.calls worker none
        answers := (directory, .ok shared) :: state.answers } := by
  simp [settle, RedirectCache.advance, h, insertedBy]

theorem settle_miss (h : state.cache.lookup directory = none) :
    state.settle worker directory .called =
      { state with
        calls := Function.update state.calls worker (some (directory, .missed)) } := by
  simp [settle, RedirectCache.advance, h, insertedBy]

theorem settle_load (h : RedirectRule.load state.files directory = .ok rules) :
    state.settle worker directory .missed =
      { state with
        calls := Function.update state.calls worker (some (directory, .loaded rules)) } := by
  simp [settle, RedirectCache.advance, h, insertedBy]

theorem settle_fail (h : RedirectRule.load state.files directory = .error error) :
    state.settle worker directory .missed =
      { state with
        calls := Function.update state.calls worker none
        answers := (directory, .error error) :: state.answers } := by
  simp [settle, RedirectCache.advance, h, insertedBy]

theorem settle_insert :
    state.settle worker directory (.loaded rules) =
      { state with
        cache := (state.cache.insert directory rules).1
        inserted := directory :: state.inserted
        calls := Function.update state.calls worker none
        answers := (directory, .ok (state.cache.insert directory rules).2) :: state.answers } := by
  simp [settle, RedirectCache.advance, insertedBy]

/-- A statement about states that is kept by the steps of calls and does not depend on files
and calls is kept by all events. -/
theorem step_induction {motive : SharedCache Worker -> Prop} (h : motive state)
    (hfiles : forall files, motive { state with files })
    (hcalls : forall calls, motive { state with calls })
    (hsettle : forall worker directory stage, motive (state.settle worker directory stage)) :
    motive (step state event) := by
  cases event with
  | change files =>
      exact hfiles files
  | call worker directory =>
      rw [step]
      split
      · exact hcalls _
      · exact h
  | advance worker =>
      rw [step]
      split
      · exact h
      · exact hsettle _ _ _

theorem lookup_settle_of_lookup (h : state.cache.lookup other = some shared) :
    (state.settle worker directory stage).cache.lookup other = some shared := by
  cases stage with
  | called =>
      cases hfound : state.cache.lookup directory with
      | some found =>
          rw [settle_hit hfound]
          exact h
      | none =>
          rw [settle_miss hfound]
          exact h
  | missed =>
      cases hload : RedirectRule.load state.files directory with
      | ok rules =>
          rw [settle_load hload]
          exact h
      | error error =>
          rw [settle_fail hload]
          exact h
  | loaded rules =>
      rw [settle_insert]
      exact RedirectCache.lookup_insert_of_lookup h

/-- Once a directory has rules, these stay. -/
theorem lookup_run_of_lookup {events : List (Event Worker)}
    (h : state.cache.lookup other = some shared) :
    (run state events).cache.lookup other = some shared := by
  induction events generalizing state with
  | nil =>
      exact h
  | cons event events ih =>
      apply ih
      apply step_induction (motive := fun state => state.cache.lookup other = some shared) h
      · intro files
        exact h
      · intro calls
        exact h
      · intro worker directory stage
        exact lookup_settle_of_lookup h

end Steps

namespace Invariant

variable {state : SharedCache Worker}

theorem settle (h : Invariant state) (worker : Worker) (directory : Path)
    (stage : RedirectCache.Stage) : Invariant (state.settle worker directory stage) := by
  cases stage with
  | called =>
      cases hfound : state.cache.lookup directory with
      | some found =>
          rw [settle_hit hfound]
          apply h.answer
          intro shared hshared
          cases hshared
          exact hfound
      | none =>
          rw [settle_miss hfound]
          exact ⟨h.sound, h.answered, h.filled⟩
  | missed =>
      cases hload : RedirectRule.load state.files directory with
      | ok rules =>
          rw [settle_load hload]
          exact ⟨h.sound, h.answered, h.filled⟩
      | error error =>
          rw [settle_fail hload]
          apply h.answer
          intro shared hshared
          cases hshared
  | loaded rules =>
      rw [settle_insert]
      refine ⟨h.sound.insert, ?_, ?_⟩
      · intro asked shared hmem
        rcases List.mem_cons.mp hmem with heq | hbefore
        · cases heq
          exact RedirectCache.lookup_insert_self
        · exact RedirectCache.lookup_insert_of_lookup (h.answered asked shared hbefore)
      · intro key
        rw [RedirectCache.mem_keys_insert, h.filled key, List.map_cons, List.mem_cons]

theorem run (h : Invariant state) (events : List (Event Worker)) :
    Invariant (run state events) := by
  induction events generalizing state with
  | nil =>
      exact h
  | cons event events ih =>
      apply ih
      apply step_induction (motive := Invariant) h
      · intro files
        exact ⟨h.sound, h.answered, h.filled⟩
      · intro calls
        exact ⟨h.sound, h.answered, h.filled⟩
      · exact h.settle

end Invariant

/-!
# Calls that fail
-/

section Failures

variable {state : SharedCache Worker} {worker : Worker} {directory : Path}
  {stage : RedirectCache.Stage} {rules : List RedirectRule}

/-- Only the last step of a call touches the cache. -/
theorem settle_cache (h : forall rules, stage ≠ .loaded rules) :
    (state.settle worker directory stage).cache = state.cache := by
  cases stage with
  | called =>
      cases hfound : state.cache.lookup directory with
      | some found =>
          rw [settle_hit hfound]
      | none =>
          rw [settle_miss hfound]
  | missed =>
      cases hload : RedirectRule.load state.files directory with
      | ok rules =>
          rw [settle_load hload]
      | error error =>
          rw [settle_fail hload]
  | loaded rules =>
      exact absurd rfl (h rules)

/-- A call is answered with an error only if its own load fails. -/
theorem settle_error_iff {error : Error} :
    (state.settle worker directory stage).answers = (directory, .error error) :: state.answers ↔
      stage = .missed ∧ RedirectRule.load state.files directory = .error error := by
  cases stage with
  | called =>
      cases hfound : state.cache.lookup directory with
      | some found =>
          simp [settle_hit hfound]
      | none =>
          simp [settle_miss hfound]
  | missed =>
      cases hload : RedirectRule.load state.files directory with
      | ok rules =>
          simp [settle_load hload]
      | error found =>
          simp [settle_fail hload]
  | loaded rules =>
      simp [settle_insert]

/-- A call without anything between its steps is one that is made at once. -/
theorem run_call (hidle : state.calls worker = none) :
    (run state [.call worker directory, .advance worker, .advance worker,
        .advance worker]).cache = (state.cache.get state.files directory).1 ∧
      (run state [.call worker directory, .advance worker, .advance worker,
        .advance worker]).answers =
          (directory, (state.cache.get state.files directory).2) :: state.answers := by
  cases hfound : state.cache.lookup directory with
  | some shared =>
      simp [run, step, hidle, settle_hit, hfound, RedirectCache.get]
  | none =>
      cases hload : RedirectRule.load state.files directory with
      | ok rules =>
          simp [run, step, hidle, settle_miss, settle_load, settle_insert, hfound, hload,
            RedirectCache.get]
      | error error =>
          simp [run, step, hidle, settle_miss, settle_fail, hfound, hload, RedirectCache.get]

theorem step_advance (h : state.calls worker = some (directory, stage)) :
    step state (.advance worker) = state.settle worker directory stage := by
  simp [step, h]

end Failures

/-!
# Steps of others
-/

section Others

variable {state : SharedCache Worker} {worker : Worker} {directory : Path}
  {rules : List RedirectRule} {events : List (Event Worker)}

/-- The worker that an event is a step of. -/
def Event.worker? : Event Worker → Option Worker
  | .call worker _ => some worker
  | .advance worker => some worker
  | .change _ => none

theorem settle_calls_of_ne {other : Worker} {stage : RedirectCache.Stage} (h : worker ≠ other) :
    (state.settle other directory stage).calls worker = state.calls worker := by
  unfold settle
  dsimp only
  split
  · exact Function.update_of_ne h _ _
  · exact Function.update_of_ne h _ _

theorem step_calls_of_other {event : Event Worker} (h : event.worker? ≠ some worker) :
    (step state event).calls worker = state.calls worker := by
  cases event with
  | change files =>
      rfl
  | call other directory =>
      have hne : worker ≠ other := by
        rintro rfl
        exact h rfl
      rw [step]
      split
      · exact Function.update_of_ne hne _ _
      · rfl
  | advance other =>
      have hne : worker ≠ other := by
        rintro rfl
        exact h rfl
      rw [step]
      split
      · rfl
      · exact settle_calls_of_ne hne

/-- The call of a worker stays as it is while others take their steps. -/
theorem run_calls_of_others
    (h : forall event, event ∈ events -> event.worker? ≠ some worker) :
    (run state events).calls worker = state.calls worker := by
  induction events generalizing state with
  | nil =>
      rfl
  | cons event events ih =>
      have hrest : (run (step state event) events).calls worker =
          (step state event).calls worker := by
        apply ih
        intro later hlater
        exact h later (List.mem_cons_of_mem _ hlater)
      exact hrest.trans (step_calls_of_other (h event List.mem_cons_self))

theorem settle_answers_subset {worker : Worker} {stage : RedirectCache.Stage} :
    state.answers ⊆ (state.settle worker directory stage).answers := by
  unfold settle
  dsimp only
  split
  · exact List.Subset.refl _
  · exact List.subset_cons_self _ _

/-- What was answered stays answered. -/
theorem run_answers_subset (state : SharedCache Worker) (events : List (Event Worker)) :
    state.answers ⊆ (run state events).answers := by
  induction events generalizing state with
  | nil =>
      exact List.Subset.refl _
  | cons event events ih =>
      refine List.Subset.trans ?_ (ih (step state event))
      apply step_induction (motive := fun later => state.answers ⊆ later.answers)
      · exact List.Subset.refl _
      · intro files
        exact List.Subset.refl _
      · intro calls
        exact List.Subset.refl _
      · intro worker directory stage
        exact settle_answers_subset

/-- When the load of a call finds rules, the call is answered with rules, whatever others did
before and do between its steps. -/
theorem call_answered {before between after : List (Event Worker)}
    (hidle : state.calls worker = none)
    (hbefore : forall event, event ∈ before -> event.worker? ≠ some worker)
    (hbetween : forall event, event ∈ between -> event.worker? ≠ some worker)
    (hafter : forall event, event ∈ after -> event.worker? ≠ some worker) :
    let asked := run (step state (.call worker directory)) before
    let looked := run (step asked (.advance worker)) between
    let loaded := run (step looked (.advance worker)) after
    RedirectRule.load looked.files directory = .ok rules ->
      exists shared, (directory, .ok shared) ∈ (step loaded (.advance worker)).answers := by
  intro asked looked loaded hload
  have hasked : asked.calls worker = some (directory, .called) := by
    rw [run_calls_of_others hbefore]
    simp [step, hidle]
  have hlook := step_advance hasked
  cases hfound : asked.cache.lookup directory with
  | some shared =>
      rw [settle_hit hfound] at hlook
      have hmem : (directory, .ok shared) ∈ (step asked (.advance worker)).answers := by
        simp [hlook]
      have hmemLooked := run_answers_subset _ between hmem
      have hmemLoaded := run_answers_subset looked (.advance worker :: after) hmemLooked
      exact ⟨shared, run_answers_subset loaded [.advance worker] hmemLoaded⟩
  | none =>
      rw [settle_miss hfound] at hlook
      have hlooked : looked.calls worker = some (directory, .missed) := by
        rw [run_calls_of_others hbetween, hlook]
        simp
      have hmiss := step_advance hlooked
      rw [settle_load hload] at hmiss
      have hloaded : loaded.calls worker = some (directory, .loaded rules) := by
        rw [run_calls_of_others hafter, hmiss]
        simp
      rw [step_advance hloaded, settle_insert]
      exact ⟨_, List.mem_cons_self⟩

end Others

/-- Whatever the workers are, in whatever order they take their steps, and however the files
change between them: the rules of a directory stay once it has some; calls are answered with
the same list exactly if they are for the same directory; a call fails only by its own load,
leaves the cache as it is, and does not keep a later one from being answered; and there are as
many entries as directories for which rules were put in. -/
theorem sharing_exact (files : FileSystem) (events : List (Event Worker)) :
    let state := run (start Worker files) events
    (forall more directory shared, state.cache.lookup directory = some shared ->
      (run state more).cache.lookup directory = some shared) ∧
    (forall directory other a b, (directory, .ok a) ∈ state.answers ->
      (other, .ok b) ∈ state.answers -> (a = b ↔ directory.same other = true)) ∧
    (forall worker directory stage, state.calls worker = some (directory, stage) ->
      (forall error,
        (step state (.advance worker)).answers = (directory, .error error) :: state.answers ↔
          stage = .missed ∧ RedirectRule.load state.files directory = .error error) ∧
      ((forall rules, stage ≠ .loaded rules) ->
        (step state (.advance worker)).cache = state.cache)) ∧
    (forall worker directory before between after rules, state.calls worker = none ->
      (forall event, event ∈ before ++ between ++ after -> event.worker? ≠ some worker) ->
        let asked := run (step state (.call worker directory)) before
        let looked := run (step asked (.advance worker)) between
        let loaded := run (step looked (.advance worker)) after
        RedirectRule.load looked.files directory = .ok rules ->
          exists shared, (directory, .ok shared) ∈ (step loaded (.advance worker)).answers) ∧
    state.cache.size = (state.inserted.map Path.components).dedup.length := by
  have hinvariant : Invariant (run (start Worker files) events) :=
    (invariant_start files).run events
  refine ⟨?_, ?_, ?_, ?_, hinvariant.size_eq⟩
  · intro more directory shared h
    exact lookup_run_of_lookup h
  · intro directory other a b ha hb
    exact hinvariant.answers_eq_iff ha hb
  · intro worker directory stage hcall
    rw [step_advance hcall]
    exact ⟨fun error => settle_error_iff, settle_cache⟩
  · intro worker directory before between after rules hidle hothers
    apply call_answered hidle
    · intro event hevent
      exact hothers event (by simp [hevent])
    · intro event hevent
      exact hothers event (by simp [hevent])
    · intro event hevent
      exact hothers event (by simp [hevent])

end SharedCache
end Docloom
