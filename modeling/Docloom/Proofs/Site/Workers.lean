import Docloom.Proofs.File.Making
import Docloom.Proofs.Redirect.Sharing
import Docloom.Proofs.Site.Documents
import Docloom.Proofs.Site.Drafts

/-!
# Documents that are built side by side

Workers build the documents of a site side by side.  They share the files and the redirect
cache.  Each step of a document is one look at the files, one access to the cache, or one change
of the files, and steps of other documents may come between any two of them.  A build that takes
one document after another is one of the orders in which workers can take their steps.
-/

namespace Docloom
namespace Site

/-!
# Stages
-/

/-- How far a document has come. -/
inductive Stage where
  | waiting
  /-- The moments at which the document and its partials were looked at. -/
  | reading (document : Document) (moments : List FileSystem)
  | redirecting (document : Document) (draft : Draft) (stage : RedirectCache.Stage)
  /-- The directory is made as far as a location; the parts lead to the others. -/
  | making (document : Document) (text : String) (location : Location)
      (parts : List (List Char))
  | writing (document : Document) (text : String)
  | done (outcome : Except Error Path)

/-- The stage of a document whose text is there. -/
def Stage.ofText (files : FileSystem) (document : Document) : Except Error String → Stage
  | .error error => .done (.error error)
  | .ok text =>
      match document.outputPath.parent? with
      | none => .writing document text
      | some directory =>
          if FileSystem.maxPathSize < directory.text.utf8ByteSize then
            .done (.error (.file .invalidFilename))
          else
            .making document text (files.origin directory) directory.steps

/-- The next step of the document in a file. -/
def advance (site : Site) (file : Path) (state : BuildState) : Stage → BuildState × Stage
  | .waiting =>
      match site.document file with
      | .error error => (state, .done (.error error))
      | .ok document => (state, .reading document [])
  | .reading document moments =>
      let moments := moments ++ [state.files]
      match site.draftOver document moments with
      | none => (state, .reading document moments)
      | some (.error error, _) => (state, .done (.error error))
      | some (.ok draft, _) => (state, .redirecting document draft .called)
  | .redirecting document draft stage =>
      match state.cache.advance state.files document.redirectsDir stage with
      | (cache, .goes stage) => ({ state with cache }, .redirecting document draft stage)
      | (cache, .answered (.error error)) => ({ state with cache }, .done (.error error))
      | (cache, .answered (.ok shared)) =>
          ({ state with cache },
            .ofText state.files document (site.finish document draft shared.rules))
  | .making document text _ [] => (state, .writing document text)
  | .making document text location (part :: rest) =>
      match state.files.makeStep location part rest with
      | (files, .error fault) => ({ state with files }, .done (.error (.file fault)))
      | (files, .ok next) => ({ state with files }, .making document text next rest)
  | .writing document text =>
      match state.files.writeText document.outputPath text with
      | .error fault => (state, .done (.error (.file fault)))
      | .ok files => ({ state with files }, .done (.ok document.outputPath))
  | .done outcome => (state, .done outcome)

/-!
# Steps without others between them
-/

/-- Takes steps of the document in a file without steps of others between them. -/
def advances (site : Site) (file : Path) : Nat → BuildState × Stage → BuildState × Stage
  | 0, reached => reached
  | count + 1, (state, stage) => advances site file count (site.advance file state stage)

/-- Whether a document gets from one stage to another one by itself. -/
def Goes (site : Site) (file : Path) (start reached : BuildState × Stage) : Prop :=
  exists count, site.advances file count start = reached

section Alone

variable {site : Site} {file : Path} {state : BuildState} {document : Document} {draft : Draft}
  {text : String} {start middle reached : BuildState × Stage}

theorem Goes.refl : Goes site file start start := ⟨0, rfl⟩

theorem Goes.cons {stage : Stage} (h : Goes site file (site.advance file state stage) reached) :
    Goes site file (state, stage) reached := by
  rcases h with ⟨count, hcount⟩
  exact ⟨count + 1, hcount⟩

theorem advances_add (first second : Nat) :
    site.advances file (first + second) start =
      site.advances file second (site.advances file first start) := by
  induction first generalizing start with
  | zero =>
      rw [Nat.zero_add]
      rfl
  | succ first ih =>
      rw [Nat.succ_add, advances, ih, advances]

theorem Goes.trans (hfirst : Goes site file start middle) (hsecond : Goes site file middle reached) :
    Goes site file start reached := by
  rcases hfirst with ⟨first, rfl⟩
  rcases hsecond with ⟨second, rfl⟩
  exact ⟨first + second, advances_add first second⟩

/-- The stage after the draft of a document. -/
def Stage.ofDraft (document : Document) : Except Error Draft → Stage
  | .error error => .done (.error error)
  | .ok draft => .redirecting document draft .called

theorem advance_reading_none {moments : List FileSystem}
    (h : site.draftOver document (moments ++ [state.files]) = none) :
    site.advance file state (.reading document moments) =
      (state, .reading document (moments ++ [state.files])) := by
  simp [advance, h]

theorem advance_reading_some {moments rest : List FileSystem} {outcome : Except Error Draft}
    (h : site.draftOver document (moments ++ [state.files]) = some (outcome, rest)) :
    site.advance file state (.reading document moments) =
      (state, .ofDraft document outcome) := by
  cases outcome with
  | error error =>
      simp [advance, h, Stage.ofDraft]
  | ok draft =>
      simp [advance, h, Stage.ofDraft]

theorem goes_reading :
    Goes site file (state, .reading document [])
      (state, .ofDraft document (site.draft state.files document)) := by
  rcases exists_draftOver_replicate site state.files document with ⟨count, htakes⟩
  have hbefore : forall number, number ≤ count ->
      Goes site file (state, .reading document [])
        (state, .reading document (List.replicate number state.files)) := by
    intro number hnumber
    induction number with
    | zero =>
        exact Goes.refl
    | succ number ih =>
        apply (ih (by omega)).trans
        apply Goes.cons
        rw [advance_reading_none, ← List.replicate_succ']
        · exact Goes.refl
        · rw [← List.replicate_succ', htakes, if_pos (by omega)]
  apply (hbefore count (Nat.le_refl _)).trans
  apply Goes.cons
  have hlast := htakes (count + 1)
  rw [if_neg (by omega), List.replicate_succ'] at hlast
  rw [advance_reading_some hlast]
  exact Goes.refl

/-- The stage after the redirects of a document were asked for. -/
def Stage.ofRules (site : Site) (files : FileSystem) (document : Document) (draft : Draft) :
    Except Error SharedRules → Stage
  | .error error => .done (.error error)
  | .ok shared => .ofText files document (site.finish document draft shared.rules)

theorem goes_redirecting :
    Goes site file (state, .redirecting document draft .called)
      ({ state with cache := (state.cache.get state.files document.redirectsDir).1 },
        .ofRules site state.files document draft
          (state.cache.get state.files document.redirectsDir).2) := by
  apply Goes.cons
  cases hlookup : state.cache.lookup document.redirectsDir with
  | some shared =>
      simp only [advance, RedirectCache.advance, RedirectCache.get, hlookup, Stage.ofRules]
      exact Goes.refl
  | none =>
      simp only [advance, RedirectCache.advance, hlookup]
      apply Goes.cons
      cases hload : RedirectRule.load state.files document.redirectsDir with
      | error error =>
          simp only [advance, RedirectCache.advance, RedirectCache.get, hlookup, hload,
            Stage.ofRules]
          exact Goes.refl
      | ok rules =>
          simp only [advance, RedirectCache.advance, hload]
          apply Goes.cons
          simp only [advance, RedirectCache.advance, RedirectCache.get, hlookup, hload,
            Stage.ofRules]
          exact Goes.refl

/-- The stage after the directory of a document was made. -/
def Stage.ofMaking (document : Document) (text : String) : Except FileFault Unit → Stage
  | .error fault => .done (.error (.file fault))
  | .ok () => .writing document text

theorem goes_making (location : Location) (parts : List (List Char)) :
    Goes site file (state, .making document text location parts)
      ({ state with files := (state.files.makeFrom location parts).1 },
        .ofMaking document text (state.files.makeFrom location parts).2) := by
  induction parts generalizing state location with
  | nil =>
      exact Goes.cons Goes.refl
  | cons part rest ih =>
      apply Goes.cons
      rw [FileSystem.makeFrom_cons]
      rcases hmake : state.files.makeStep location part rest with ⟨files, fault | next⟩
      · simp only [advance, hmake, Stage.ofMaking]
        exact Goes.refl
      · simp only [advance, hmake]
        exact @ih { state with files } next

/-- What is left of writing a document when its directory was made. -/
theorem goes_ofMaking (made : FileSystem × Except FileFault Unit) :
    Goes site file ({ state with files := made.1 }, .ofMaking document text made.2)
      (match made with
      | (files, .error fault) => ({ state with files }, .done (.error (.file fault)))
      | (files, .ok ()) =>
          match files.writeText document.outputPath text with
          | .error fault => ({ state with files }, .done (.error (.file fault)))
          | .ok files => ({ state with files }, .done (.ok document.outputPath))) := by
  rcases made with ⟨files, fault | ⟨⟨⟩⟩⟩
  · exact Goes.refl
  · apply Goes.cons
    simp only [Stage.ofMaking, advance]
    cases hwrite : files.writeText document.outputPath text with
    | error fault =>
        exact Goes.refl
    | ok files =>
        exact Goes.refl

theorem goes_making_parents :
    Goes site file (state, .ofText state.files document (.ok text))
      ({ state with files := (state.files.makeParents document.outputPath).1 },
        .ofMaking document text (state.files.makeParents document.outputPath).2) := by
  unfold FileSystem.makeParents
  cases hparent : document.outputPath.parent? with
  | none =>
      simp only [Stage.ofText, hparent]
      exact Goes.refl
  | some directory =>
      simp only [Stage.ofText, hparent]
      rw [FileSystem.makeDirectories_eq]
      split
      · exact Goes.refl
      · exact goes_making _ _

theorem goes_ofText (outcome : Except Error String) :
    Goes site file (state, .ofText state.files document outcome)
      (match outcome with
      | .error error => (state, .done (.error error))
      | .ok text =>
          ({ state with files := (writeDocument state.files document text).1 },
            .done ((writeDocument state.files document text).2.map
              fun _ => document.outputPath))) := by
  cases outcome with
  | error error =>
      exact Goes.refl
  | ok text =>
      apply goes_making_parents.trans
      simp only [writeDocument, FileSystem.writeBelow_eq]
      have hlast := @goes_ofMaking site file state document text
        (state.files.makeParents document.outputPath)
      rcases hmade : state.files.makeParents document.outputPath with ⟨files, fault | ⟨⟨⟩⟩⟩
      · rw [hmade] at hlast
        exact hlast
      · rw [hmade] at hlast
        dsimp only at hlast ⊢
        cases hwrite : files.writeText document.outputPath text with
        | error fault =>
            rw [hwrite] at hlast
            exact hlast
        | ok written =>
            rw [hwrite] at hlast
            exact hlast

/-- A document that is built by itself goes through the stages. -/
theorem goes_buildDocument (site : Site) (file : Path) (state : BuildState) :
    Goes site file (state, .waiting)
      ((site.buildDocument state file).1, .done (site.buildDocument state file).2) := by
  apply Goes.cons
  unfold buildDocument
  cases hdocument : site.document file with
  | error error =>
      simp only [advance, hdocument]
      exact Goes.refl
  | ok document =>
      simp only [advance, hdocument]
      apply goes_reading.trans
      rw [transform_eq]
      cases hdraft : site.draft state.files document with
      | error error =>
          exact Goes.refl
      | ok draft =>
          apply goes_redirecting.trans
          rcases hget : state.cache.get state.files document.redirectsDir with
            ⟨cache, error | shared⟩
          · exact Goes.refl
          · simp only [Stage.ofRules]
            have hlast := @goes_ofText site file { state with cache } document
              (site.finish document draft shared.rules)
            cases hfinish : site.finish document draft shared.rules with
            | error error =>
                rw [hfinish] at hlast
                exact hlast
            | ok text =>
                rw [hfinish] at hlast
                exact hlast

end Alone

/-!
# Runs
-/

/-- What is shared by the workers, and how far each document has come. -/
structure BuildRun where
  state : BuildState
  stage : Path → Stage

/-- Whether a document keeps a worker busy. -/
def Stage.isBusy : Stage → Bool
  | .waiting => false
  | .done _ => false
  | _ => true

def Stage.outcome? : Stage → Option (Except Error Path)
  | .done outcome => some outcome
  | _ => none

namespace BuildRun

def start (files : FileSystem) : BuildRun := ⟨⟨files, .empty⟩, fun _ => .waiting⟩

/-- The number of workers that are busy. -/
def busy (paths : List Path) (run : BuildRun) : Nat :=
  (paths.filter fun file => (run.stage file).isBusy).length

/-- Whether a worker works on the document in a file, or is free to begin with it. -/
def MayStep (workers : Nat) (paths : List Path) (run : BuildRun) (file : Path) : Prop :=
  file ∈ paths ∧ ((run.stage file).isBusy = true ∨ run.busy paths < workers)

instance (workers : Nat) (paths : List Path) (run : BuildRun) (file : Path) :
    Decidable (MayStep workers paths run file) :=
  inferInstanceAs (Decidable (_ ∧ _))

def advance (site : Site) (run : BuildRun) (file : Path) : BuildRun :=
  let (state, stage) := site.advance file run.state (run.stage file)
  ⟨state, Function.update run.stage file stage⟩

/-- The next step of the document in a file, if there is a worker for it. -/
def step (site : Site) (workers : Nat) (paths : List Path) (run : BuildRun) (file : Path) :
    BuildRun :=
  if MayStep workers paths run file then run.advance site file else run

/-- Steps of documents in a certain order. -/
def steps (site : Site) (workers : Nat) (paths : List Path) (run : BuildRun)
    (order : List Path) : BuildRun :=
  order.foldl (step site workers paths) run

/-- Whether all documents are done. -/
def Finished (paths : List Path) (run : BuildRun) : Prop :=
  forall file, file ∈ paths -> exists outcome, run.stage file = .done outcome

/-- What is reported when all documents are done. -/
def report? (paths : List Path) (run : BuildRun) : Option BuildReport :=
  (paths.mapM fun file => (run.stage file).outcome?.map fun outcome => (file, outcome)).map
    BuildReport.ofOutcomes

end BuildRun

/-!
# One document after another
-/

section Sequence

open BuildRun

variable {site : Site} {workers : Nat} {paths : List Path} {run : BuildRun} {file : Path}

theorem advance_of_done {outcome : Except Error Path} (h : run.stage file = .done outcome) :
    run.advance site file = run := by
  rw [BuildRun.advance, h]
  simp only [Site.advance]
  rw [← h, Function.update_eq_self]

theorem steps_append (first second : List Path) :
    run.steps site workers paths (first ++ second) =
      (run.steps site workers paths first).steps site workers paths second := by
  rw [steps, steps, steps, List.foldl_append]

/-- While nobody else is busy, a document may take all of its steps. -/
theorem steps_replicate (hworkers : 0 < workers) (hfile : file ∈ paths)
    (hothers : forall other, other ∈ paths -> other ≠ file -> (run.stage other).isBusy = false)
    (count : Nat) :
    run.steps site workers paths (List.replicate count file) =
      ⟨(site.advances file count (run.state, run.stage file)).1,
        Function.update run.stage file
          (site.advances file count (run.state, run.stage file)).2⟩ := by
  induction count generalizing run with
  | zero =>
      simp [steps, advances]
  | succ count ih =>
      have hmay : MayStep workers paths run file := by
        refine ⟨hfile, ?_⟩
        by_cases hbusy : (run.stage file).isBusy = true
        · exact Or.inl hbusy
        · right
          have hnone : run.busy paths = 0 := by
            rw [busy, List.length_eq_zero_iff, List.filter_eq_nil_iff]
            intro other hother
            by_cases hsame : other = file
            · rw [hsame]
              exact hbusy
            · simp [hothers other hother hsame]
          omega
      have hstep : run.step site workers paths file = run.advance site file := if_pos hmay
      rw [List.replicate_succ, steps, List.foldl_cons, hstep]
      have hidle : forall other, other ∈ paths -> other ≠ file ->
          ((run.advance site file).stage other).isBusy = false := by
        intro other hother hne
        rw [BuildRun.advance]
        dsimp only
        rw [Function.update_of_ne hne]
        exact hothers other hother hne
      have hrest := ih hidle
      rw [steps] at hrest
      rw [hrest]
      simp [BuildRun.advance, advances]

theorem exists_replicate_of_buildDocument (site : Site) (hworkers : 0 < workers) (hfile : file ∈ paths)
    (hothers : forall other, other ∈ paths -> other ≠ file -> (run.stage other).isBusy = false)
    (hwaiting : run.stage file = .waiting) :
    exists count,
      run.steps site workers paths (List.replicate count file) =
        ⟨(site.buildDocument run.state file).1,
          Function.update run.stage file (.done (site.buildDocument run.state file).2)⟩ := by
  rcases goes_buildDocument site file run.state with ⟨count, hcount⟩
  refine ⟨count, ?_⟩
  rw [steps_replicate hworkers hfile hothers, hwaiting, hcount]

/-- An order in which one document after another is built. -/
theorem exists_order_of_buildDocuments (site : Site) (hworkers : 0 < workers) {left : List Path}
    (hleft : left ⊆ paths) (hnodup : left.Nodup)
    (hidle : forall other, other ∈ paths -> (run.stage other).isBusy = false)
    (hwaiting : forall other, other ∈ left -> run.stage other = .waiting) :
    exists order,
      (run.steps site workers paths order).state = (site.buildDocuments run.state left).1 ∧
      (forall outcome, outcome ∈ (site.buildDocuments run.state left).2 ->
        (run.steps site workers paths order).stage outcome.1 = .done outcome.2) ∧
      (forall other, other ∉ left ->
        (run.steps site workers paths order).stage other = run.stage other) := by
  induction left generalizing run with
  | nil =>
      refine ⟨[], rfl, ?_, fun _ _ => rfl⟩
      intro outcome houtcome
      cases houtcome
  | cons file rest ih =>
      have hfile : file ∈ paths := hleft List.mem_cons_self
      rw [List.nodup_cons] at hnodup
      rcases exists_replicate_of_buildDocument site hworkers hfile
        (fun other hother _ => hidle other hother) (hwaiting file List.mem_cons_self) with
        ⟨count, hcount⟩
      let after : BuildRun := ⟨(site.buildDocument run.state file).1,
        Function.update run.stage file (.done (site.buildDocument run.state file).2)⟩
      have hstage : forall other, other ≠ file -> after.stage other = run.stage other :=
        fun other hne => Function.update_of_ne hne _ _
      have hdone : after.stage file = .done (site.buildDocument run.state file).2 :=
        Function.update_self _ _ _
      have hrest : exists order,
          (after.steps site workers paths order).state =
            (site.buildDocuments after.state rest).1 ∧
          (forall outcome, outcome ∈ (site.buildDocuments after.state rest).2 ->
            (after.steps site workers paths order).stage outcome.1 = .done outcome.2) ∧
          (forall other, other ∉ rest ->
            (after.steps site workers paths order).stage other = after.stage other) := by
        apply ih
        · exact fun other hother => hleft (List.mem_cons_of_mem _ hother)
        · exact hnodup.2
        · intro other hother
          by_cases hsame : other = file
          · rw [hsame, hdone]
            rfl
          · rw [hstage other hsame]
            exact hidle other hother
        · intro other hother
          have hne : other ≠ file := by
            rintro rfl
            exact hnodup.1 hother
          rw [hstage other hne]
          exact hwaiting other (List.mem_cons_of_mem _ hother)
      rcases hrest with ⟨order, hstate, houtcomes, hothers⟩
      refine ⟨List.replicate count file ++ order, ?_, ?_, ?_⟩
      · rw [steps_append, hcount]
        exact hstate
      · intro outcome houtcome
        rw [steps_append, hcount]
        rcases List.mem_cons.mp houtcome with rfl | hlater
        · exact (hothers file hnodup.1).trans hdone
        · exact houtcomes outcome hlater
      · intro other hother
        rw [List.mem_cons, not_or] at hother
        rw [steps_append, hcount]
        exact (hothers other hother.2).trans (hstage other hother.1)

/-- The report of documents that are all done. -/
theorem report_of_done {outcomes : List (Path × Except Error Path)}
    (h : forall outcome, outcome ∈ outcomes -> run.stage outcome.1 = .done outcome.2) :
    run.report? (outcomes.map Prod.fst) = some (BuildReport.ofOutcomes outcomes) := by
  have hall : (outcomes.map Prod.fst).mapM (fun file =>
      (run.stage file).outcome?.map fun outcome => (file, outcome)) = some outcomes := by
    induction outcomes with
    | nil =>
        rfl
    | cons first rest ih =>
        have hrest := ih (fun outcome houtcome => h outcome (List.mem_cons_of_mem _ houtcome))
        rw [List.map_cons, List.mapM_cons, hrest, h first List.mem_cons_self]
        rfl
  rw [report?, hall]
  rfl

/-- The build is one of the runs. -/
theorem exists_order_of_build {files : FileSystem} (hworkers : 0 < workers)
    (hpaths : site.documents files = .ok paths) (hnodup : paths.Nodup) :
    exists order report,
      ((start files).steps site workers paths order).Finished paths ∧
      site.build files =
        (((start files).steps site workers paths order).state.files, .ok report) ∧
      ((start files).steps site workers paths order).report? paths = some report := by
  have hstart : forall other, (start files).stage other = .waiting := fun _ => rfl
  have hidle : forall other, other ∈ paths -> ((start files).stage other).isBusy = false :=
    fun _ _ => rfl
  rcases exists_order_of_buildDocuments site hworkers (List.Subset.refl paths) hnodup hidle
    (fun other _ => hstart other) with ⟨order, hstate, houtcomes, _⟩
  have hfiles := map_fst_buildDocuments site (start files).state paths
  refine ⟨order, BuildReport.ofOutcomes (site.buildDocuments ⟨files, .empty⟩ paths).2, ?_, ?_, ?_⟩
  · intro file hfile
    rw [← hfiles] at hfile
    rcases List.mem_map.mp hfile with ⟨outcome, houtcome, rfl⟩
    exact ⟨outcome.2, houtcomes outcome houtcome⟩
  · rw [build, hpaths, hstate]
    rfl
  · have hreport := report_of_done houtcomes
    rw [hfiles] at hreport
    exact hreport

end Sequence

end Site
end Docloom
