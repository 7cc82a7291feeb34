import Docloom.Proofs.Site.Independence
import Mathlib.Algebra.Order.BigOperators.Group.List
import Mathlib.Algebra.Order.Group.Nat
import Mathlib.Algebra.GroupWithZero.Nat

/-!
# Orders of steps

Each step of a document leaves less to do, so every order in which each document gets its turns
again and again comes to an end.  What is reported then, and what was written, is the same for
all of them.
-/

namespace Docloom
namespace Site

variable {site : Site} {files now : FileSystem} {paths : List Path} {path : Path}
  {document : Document} {run : BuildRun} {workers looks steps : Nat}

/-!
# What is left to do
-/

/-- A bound on the steps that a document still takes, if it looks at files no more than `looks`
times and is no more than `steps` steps away from where paths start. -/
def Stage.weight (looks steps : Nat) : Stage → Nat
  | .waiting => looks + steps + 8
  | .reading _ moments => looks - moments.length + steps + 7
  | .redirecting _ _ .called => steps + 6
  | .redirecting _ _ .missed => steps + 5
  | .redirecting _ _ (.loaded _) => steps + 4
  | .making _ _ _ parts => parts.length + 2
  | .writing _ _ => 1
  | .done _ => 0

/-- Whether the numbers are bounds for the document in a file. -/
def Bounds (site : Site) (files : FileSystem) (paths : List Path) (path : Path)
    (looks steps : Nat) : Prop :=
  forall document, site.document path = .ok document ->
    document.outputPath.steps.length ≤ steps ∧
    forall moments, (forall moment, moment ∈ moments -> site.Keeps files paths moment) ->
      site.draftOver document moments = none -> moments.length < looks

theorem exists_bounds (hproper : files.Proper) (hpaths : site.documents files = .ok paths)
    (hapart : site.Apart files paths) (hpath : path ∈ paths) :
    exists looks steps, Bounds site files paths path looks steps := by
  cases hdocument : site.document path with
  | error error =>
      refine ⟨0, 0, ?_⟩
      intro document h
      rw [hdocument] at h
      cases h
  | ok document =>
      rcases exists_takes_draftOver site
        (fun _ => readAlike_of_consults hproper hpaths hapart.toClear hpath hdocument) with
        ⟨count, hcount⟩
      refine ⟨count + 1, document.outputPath.steps.length, ?_⟩
      intro other hother
      rw [hdocument] at hother
      cases hother
      refine ⟨Nat.le_refl _, ?_⟩
      intro moments hmoments hnone
      by_contra hlong
      rw [hcount _ moments (Nat.le_refl _) hmoments, if_neg hlong] at hnone
      cases hnone

theorem weight_making_le (hbounds : Bounds site files paths path looks steps) {text : String}
    {location : Location} {parts : List (List Char)}
    (h : Holds site files paths path now (.making document text location parts)) :
    parts.length ≤ steps := by
  cases h with
  | @making _ _ _ passed _ hdocument htext hparts =>
      have hlength := congrArg List.length hparts
      rw [List.length_append, List.length_dropLast] at hlength
      have hsteps := (hbounds document hdocument).1
      omega

theorem weight_ofText_le (hbounds : Bounds site files paths path looks steps)
    {other : FileSystem} {outcome : Except Error String}
    (h : Holds site files paths path now (.ofText other document outcome)) :
    (Stage.ofText other document outcome).weight looks steps ≤ steps + 2 := by
  cases outcome with
  | error error =>
      exact Nat.zero_le _
  | ok text =>
      unfold Stage.ofText at h ⊢
      dsimp only at h ⊢
      cases hparent : document.outputPath.parent? with
      | none =>
          simp only [Stage.weight]
          omega
      | some directory =>
          rw [hparent] at h
          dsimp only at h ⊢
          split
          · exact Nat.zero_le _
          · rename_i hsize
            rw [if_neg hsize] at h
            have hparts := weight_making_le hbounds h
            simp only [Stage.weight]
            omega

/-- Each step of a document that is not done leaves less to do. -/
theorem weight_advance_lt (hbounds : Bounds site files paths path looks steps)
    {state : BuildState} {stage : Stage} (h : Holds site files paths path now stage)
    (hnext : Holds site files paths path (site.advance path state stage).1.files
      (site.advance path state stage).2)
    (hnot : forall outcome, stage ≠ .done outcome) :
    (site.advance path state stage).2.weight looks steps < stage.weight looks steps := by
  cases h with
  | waiting =>
      simp only [advance]
      cases site.document path with
      | error error =>
          simp only [Stage.weight]
          omega
      | ok document =>
          simp only [Stage.weight, List.length_nil]
          omega
  | @reading document moments hdocument hmoments hnone =>
      have hlooks := (hbounds document hdocument).2 moments hmoments hnone
      rcases hread : site.draftOver document (moments ++ [state.files]) with
        _ | ⟨outcome, rest⟩
      · rw [advance_reading_none hread] at hnext ⊢
        cases hnext with
        | reading _ hmore hnoneMore =>
            have hmoreLooks := (hbounds document hdocument).2 _ hmore hnoneMore
            simp only [Stage.weight, List.length_append, List.length_singleton] at hmoreLooks ⊢
            omega
      · rw [advance_reading_some hread]
        cases outcome with
        | error error =>
            simp only [Stage.ofDraft, Stage.weight]
            omega
        | ok draft =>
            simp only [Stage.ofDraft, Stage.weight]
            omega
  | @redirecting document draft asked hdocument hdraft hrules =>
      cases asked with
      | called =>
          simp only [advance, RedirectCache.advance] at hnext ⊢
          cases hlookup : state.cache.lookup document.redirectsDir with
          | some shared =>
              rw [hlookup] at hnext
              have hless : steps + 2 < steps + 6 := by omega
              exact Nat.lt_of_le_of_lt (weight_ofText_le hbounds hnext) hless
          | none =>
              simp only [Stage.weight]
              omega
      | missed =>
          simp only [advance, RedirectCache.advance]
          cases RedirectRule.load state.files document.redirectsDir with
          | error error =>
              simp only [Stage.weight]
              omega
          | ok rules =>
              simp only [Stage.weight]
              omega
      | loaded rules =>
          simp only [advance, RedirectCache.advance] at hnext ⊢
          have hless : steps + 2 < steps + 4 := by omega
          exact Nat.lt_of_le_of_lt (weight_ofText_le hbounds hnext) hless
  | @making document text location passed parts hdocument htext hparts hlocation hmade =>
      cases parts with
      | nil =>
          simp only [advance, Stage.weight, List.length_nil]
          omega
      | cons part rest =>
          simp only [advance]
          rcases state.files.makeStep location part rest with ⟨later, fault | next⟩
          · simp only [Stage.weight]
            omega
          · simp only [Stage.weight, List.length_cons]
            omega
  | @writing document text hdocument htext hmade hparents =>
      simp only [advance]
      cases state.files.writeText document.outputPath text with
      | error fault =>
          simp only [Stage.weight]
          omega
      | ok later =>
          simp only [Stage.weight]
          omega
  | failed halone =>
      exact absurd rfl (hnot _)
  | written hdocument =>
      exact absurd rfl (hnot _)

/-!
# Orders that end
-/

/-- What all documents together have left to do. -/
def left (looks steps : Path → Nat) (paths : List Path) (run : BuildRun) : Nat :=
  (paths.map fun path => (run.stage path).weight (looks path) (steps path)).sum

section Fairness

variable (hproper : files.Proper) (hpaths : site.documents files = .ok paths)
  (hapart : site.Apart files paths)

include hproper hpaths hapart

theorem left_advance_lt {looks steps : Path -> Nat}
    (hbounds : forall path, path ∈ paths ->
      Bounds site files paths path (looks path) (steps path))
    (h : Invariant site files paths run) (hpath : path ∈ paths)
    (hnot : forall outcome, run.stage path ≠ .done outcome) :
    left looks steps paths (run.advance site path) < left looks steps paths run := by
  have hnext := (h.advance hproper hpaths hapart hpath).stages path hpath
  unfold BuildRun.advance at hnext ⊢
  dsimp only at hnext ⊢
  rw [Function.update_self] at hnext
  have hless := weight_advance_lt (hbounds path hpath) (h.stages path hpath) hnext hnot
  apply List.sum_lt_sum
  · intro other hother
    dsimp only
    by_cases hsame : other = path
    · rw [hsame, Function.update_self]
      exact Nat.le_of_lt hless
    · rw [Function.update_of_ne hsame]
  · refine ⟨path, hpath, ?_⟩
    dsimp only
    rw [Function.update_self]
    exact hless

omit hproper hpaths hapart in
/-- As long as not all documents are done, one of them may take a step. -/
theorem exists_mayStep (hworkers : 0 < workers) (h : ¬ run.Finished paths) :
    exists path, run.MayStep workers paths path ∧
      forall outcome, run.stage path ≠ .done outcome := by
  unfold BuildRun.Finished at h
  push Not at h
  rcases h with ⟨path, hpath, hnot⟩
  by_cases hbusy : run.busy paths = 0
  · refine ⟨path, ⟨hpath, Or.inr ?_⟩, hnot⟩
    rw [hbusy]
    exact hworkers
  · have hsome : exists other, other ∈ paths ∧ (run.stage other).isBusy = true := by
      rw [BuildRun.busy, List.length_eq_zero_iff, List.filter_eq_nil_iff] at hbusy
      push Not at hbusy
      exact hbusy
    rcases hsome with ⟨other, hother, hbusyOther⟩
    refine ⟨other, ⟨hother, Or.inl hbusyOther⟩, ?_⟩
    intro outcome hdone
    rw [hdone] at hbusyOther
    cases hbusyOther

/-- A turn leaves less to do, or nothing happens. -/
theorem left_step_lt {looks steps : Path -> Nat}
    (hbounds : forall path, path ∈ paths ->
      Bounds site files paths path (looks path) (steps path))
    (h : Invariant site files paths run) (workers : Nat) (path : Path) :
    run.step site workers paths path = run ∨
      left looks steps paths (run.step site workers paths path) < left looks steps paths run := by
  rw [BuildRun.step]
  split
  · rename_i hmay
    by_cases hdone : exists outcome, run.stage path = .done outcome
    · rcases hdone with ⟨outcome, hdone⟩
      exact Or.inl (advance_of_done hdone)
    · right
      apply left_advance_lt hproper hpaths hapart hbounds h hmay.1
      intro outcome hstage
      exact hdone ⟨outcome, hstage⟩
  · exact Or.inl rfl

/-- Every order in which each document gets its turns again and again comes to an end. -/
theorem exists_finished (hworkers : 0 < workers) (order : Nat -> Path)
    (hfair : forall path, path ∈ paths -> forall number, exists later,
      number ≤ later ∧ order later = path) :
    exists count, BuildRun.Finished paths
      ((BuildRun.start files).steps site workers paths ((List.range count).map order)) := by
  have hchosen : forall path, exists looks steps, path ∈ paths ->
      Bounds site files paths path looks steps := by
    intro path
    by_cases hpath : path ∈ paths
    · rcases exists_bounds hproper hpaths hapart hpath with ⟨looks, steps, hbounds⟩
      exact ⟨looks, steps, fun _ => hbounds⟩
    · exact ⟨0, 0, fun h => absurd h hpath⟩
  choose looks steps hbounds using hchosen
  let after (number : Nat) : BuildRun :=
    (BuildRun.start files).steps site workers paths ((List.range number).map order)
  have hafter : forall number, after (number + 1) =
      (after number).step site workers paths (order number) := by
    intro number
    simp only [after, List.range_succ, List.map_append, steps_append]
    rfl
  have hinvariant : forall number, Invariant site files paths (after number) :=
    fun number => invariant_start.steps hproper hpaths hapart workers _
  -- Until there is less to do, nothing happens.
  have hwait : forall number more, after (number + more) = after number ∨
      exists later, left looks steps paths (after later) < left looks steps paths (after number) := by
    intro number more
    induction more with
    | zero =>
        exact Or.inl rfl
    | succ more ih =>
        rcases ih with hsame | hless
        · rcases left_step_lt hproper hpaths hapart hbounds (hinvariant (number + more)) workers
            (order (number + more)) with hstill | hless
          · left
            rw [← Nat.add_assoc, hafter, hstill, hsame]
          · right
            refine ⟨number + more + 1, ?_⟩
            rw [hafter]
            rw [hsame] at hless ⊢
            exact hless
        · exact Or.inr hless
  have hless : forall number, ¬ (after number).Finished paths -> exists later,
      left looks steps paths (after later) < left looks steps paths (after number) := by
    intro number hunfinished
    rcases exists_mayStep hworkers hunfinished with ⟨path, hmay, hnot⟩
    rcases hfair path hmay.1 number with ⟨later, hlater, rfl⟩
    rcases hwait number (later - number) with hsame | hless
    · rw [Nat.add_sub_cancel' hlater] at hsame
      refine ⟨later + 1, ?_⟩
      rw [hafter, hsame, BuildRun.step, if_pos hmay]
      exact left_advance_lt hproper hpaths hapart hbounds (hinvariant number) hmay.1 hnot
    · exact hless
  have hend : forall bound number, left looks steps paths (after number) = bound ->
      exists count, (after count).Finished paths := by
    intro bound
    induction bound using Nat.strong_induction_on with
    | _ bound ih =>
        intro number hbound
        by_cases hfinished : (after number).Finished paths
        · exact ⟨number, hfinished⟩
        · rcases hless number hfinished with ⟨later, hlater⟩
          rw [hbound] at hlater
          exact ih _ hlater later rfl
  exact hend _ 0 rfl

end Fairness

/-!
# Outcomes
-/

theorem written_ofOutcomes (outcome : Path -> Except Error Path) (paths : List Path) :
    (BuildReport.ofOutcomes (paths.map fun path => (path, outcome path))).written =
      paths.filterMap fun path => (outcome path).toOption := by
  induction paths with
  | nil =>
      rfl
  | cons path rest ih =>
      simp only [List.map_cons, BuildReport.ofOutcomes]
      cases houtcome : outcome path with
      | error error =>
          rw [List.filterMap_cons_none (by rw [houtcome]; rfl)]
          exact ih
      | ok output =>
          rw [List.filterMap_cons_some (by rw [houtcome]; rfl)]
          exact congrArg (output :: ·) ih

theorem failures_ofOutcomes (outcome : Path -> Except Error Path) (paths : List Path) :
    (BuildReport.ofOutcomes (paths.map fun path => (path, outcome path))).failures =
      paths.filterMap fun path =>
        match outcome path with
        | .ok _ => none
        | .error error => some ⟨path, error⟩ := by
  induction paths with
  | nil =>
      rfl
  | cons path rest ih =>
      simp only [List.map_cons, BuildReport.ofOutcomes]
      cases houtcome : outcome path with
      | error error =>
          rw [List.filterMap_cons_some (by rw [houtcome])]
          exact congrArg (BuildFailure.mk path error :: ·) ih
      | ok output =>
          rw [List.filterMap_cons_none (by rw [houtcome])]
          exact ih

/-- When all documents are done, each has ended as it does alone. -/
theorem Invariant.stage_of_finished (h : Invariant site files paths run)
    (hfinished : run.Finished paths) (hpath : path ∈ paths) :
    run.stage path = .done (site.alone files path) := by
  rcases hfinished path hpath with ⟨outcome, houtcome⟩
  have hholds := h.holds hpath houtcome
  rw [houtcome]
  cases hholds with
  | failed halone =>
      rw [halone]
  | written hdocument htext halone =>
      rw [halone]

theorem Invariant.report_of_finished (h : Invariant site files paths run)
    (hfinished : run.Finished paths) :
    run.report? paths = some
      (BuildReport.ofOutcomes (paths.map fun path => (path, site.alone files path))) := by
  have hdone : forall outcome, outcome ∈ paths.map (fun path => (path, site.alone files path)) ->
      run.stage outcome.1 = .done outcome.2 := by
    intro outcome houtcome
    rcases List.mem_map.mp houtcome with ⟨path, hpath, rfl⟩
    exact h.stage_of_finished hfinished hpath
  have hreport := report_of_done hdone
  rw [List.map_map] at hreport
  have hpaths : paths.map (Prod.fst ∘ fun path => (path, site.alone files path)) = paths := by
    simp [Function.comp_def]
  rw [hpaths] at hreport
  exact hreport

/-- A document that is written holds its text. -/
theorem Invariant.readText_of_written (h : Invariant site files paths run) (hpath : path ∈ paths)
    {output : Path} (hstage : run.stage path = .done (.ok output)) :
    exists document text, site.document path = .ok document ∧ output = document.outputPath ∧
      site.textAlone files document = .ok text ∧
        run.state.files.readText output = .ok text := by
  have hholds := h.holds hpath hstage
  cases hholds with
  | @written document text hdocument htext halone hlocate hentry =>
      refine ⟨document, text, hdocument, rfl, htext, ?_⟩
      rw [FileSystem.readText, FileSystem.find_of_locate hlocate hentry]
      rfl

/-- Whatever the number of workers and the order of their steps, a build whose writing is apart
from its reading reports the same: each document, in their order, is written or has failed as it
does when it is built alone, what is written is its text, and a document that fails leaves what
is in its place as it is.  Every order that gives each document its turns comes to an end, and
building one document after another is one of them. -/
theorem orders_agree (hproper : files.Proper) (hpaths : site.documents files = .ok paths)
    (hapart : site.Apart files paths) (hworkers : 0 < workers) :
    let alone := fun path => (site.buildDocument ⟨files, .empty⟩ path).2
    let report : BuildReport :=
      ⟨paths.filterMap fun path => (alone path).toOption,
        paths.filterMap fun path =>
          match alone path with
          | .ok _ => none
          | .error error => some ⟨path, error⟩⟩
    paths.Nodup ∧ (paths.Pairwise fun a b => a.le b = true) ∧
    (forall order,
      let run := (BuildRun.start files).steps site workers paths order
      run.Finished paths ->
        run.report? paths = some report ∧
        (forall path output, path ∈ paths -> alone path = .ok output ->
          exists document text, site.document path = .ok document ∧
            output = document.outputPath ∧
            (site.transform files .empty document).2 = .ok text ∧
            run.state.files.readText output = .ok text) ∧
        (forall path document error, path ∈ paths -> site.document path = .ok document ->
          alone path = .error error ->
            run.state.files.entry? (files.target document.outputPath) =
              files.entry? (files.target document.outputPath))) ∧
    (forall order : Nat -> Path,
      (forall path, path ∈ paths -> forall number, exists later,
        number ≤ later ∧ order later = path) ->
      exists count, BuildRun.Finished paths
        ((BuildRun.start files).steps site workers paths ((List.range count).map order))) ∧
    (exists order,
      let run := (BuildRun.start files).steps site workers paths order
      run.Finished paths ∧ site.build files = (run.state.files, .ok report)) := by
  have hnodup := documents_nodup hproper hpaths
  have hreport : BuildReport.ofOutcomes (paths.map fun path => (path, site.alone files path)) =
      ⟨paths.filterMap fun path => (site.alone files path).toOption,
        paths.filterMap fun path =>
          match site.alone files path with
          | .ok _ => none
          | .error error => some ⟨path, error⟩⟩ := by
    rw [← written_ofOutcomes, ← failures_ofOutcomes]
  intro alone report
  refine ⟨hnodup, documents_sorted hpaths, ?_, ?_, ?_⟩
  · intro order run hfinished
    have hrun : Invariant site files paths run :=
      invariant_start.steps hproper hpaths hapart workers order
    refine ⟨?_, ?_, ?_⟩
    · rw [hrun.report_of_finished hfinished, hreport]
      rfl
    · intro path output hpath halone
      apply hrun.readText_of_written hpath
      rw [hrun.stage_of_finished hfinished hpath]
      exact congrArg Stage.done halone
    · intro path document error hpath hdocument halone
      apply hrun.entry_target hproper hpaths hapart hpath hdocument
      rw [hrun.stage_of_finished hfinished hpath]
      intro hdone
      injection hdone with hdone
      exact absurd (hdone.symm.trans halone) (by simp)
  · exact exists_finished hproper hpaths hapart hworkers
  · rcases exists_order_of_build hworkers hpaths hnodup with
      ⟨order, found, hfinished, hbuild, hfound⟩
    refine ⟨order, hfinished, ?_⟩
    have hrun : Invariant site files paths _ :=
      invariant_start.steps hproper hpaths hapart workers order
    rw [hrun.report_of_finished hfinished, hreport] at hfound
    rw [hbuild, ← Option.some.inj hfound]
    rfl

/-- A site of one product without versions. -/
def oneProduct : Site where
  config := { products := ⟨[("vault", { versionedDocs := false })], by simp⟩ }
  contentRoot := ⟨"docs"⟩
  outputRoot := ⟨"out"⟩
  table := ⟨[("vault", [.unversioned])], by simp⟩
  shared := []

/-- A document of the product and one of a product that is not there. -/
def strayed : FileSystem where
  entries :=
    [(["docs"], .directory), (["docs", "other"], .directory),
      (["docs", "other", "c.mdx"], .file (.text "C\n")),
      (["docs", "vault"], .directory),
      (["docs", "vault", "a.mdx"], .file (.text "A\n"))]
  current := []

def strayedPaths : List Path := [⟨"docs/other/c.mdx"⟩, ⟨"docs/vault/a.mdx"⟩]

theorem document_strayed (hpath : path ∈ strayedPaths)
    (hdocument : oneProduct.document path = .ok document) :
    oneProduct.document ⟨"docs/vault/a.mdx"⟩ = .ok document := by
  rcases List.mem_cons.mp hpath with rfl | hlast
  · have herror : oneProduct.document ⟨"docs/other/c.mdx"⟩ =
        .error (.unknownProduct "other") := by
      decide
    rw [herror] at hdocument
    cases hdocument
  · rw [List.mem_singleton.mp hlast] at hdocument
    exact hdocument

theorem apart_strayed : oneProduct.Apart strayed strayedPaths := by
  have hfind : strayed.find oneProduct.contentRoot = .ok (["docs"], .directory) := by
    decide
  have hwritten : forall document,
      oneProduct.document ⟨"docs/vault/a.mdx"⟩ = .ok document ->
        document.outputPath = ⟨"out/vault/a.mdx"⟩ ∧
          document.file = ⟨"docs/vault/a.mdx"⟩ := by
    have hplaces : (oneProduct.document ⟨"docs/vault/a.mdx"⟩).map
        (fun document => (document.outputPath, document.file)) =
          .ok (⟨"out/vault/a.mdx"⟩, ⟨"docs/vault/a.mdx"⟩) := by
      decide
    intro document hdocument
    rw [hdocument] at hplaces
    injection hplaces with hplaces
    injection hplaces with houtput hfile
    exact ⟨houtput, hfile⟩
  refine ⟨⟨?_, ?_⟩, ?_⟩
  · intro base entry place hbase htouches
    rw [hfind] at hbase
    cases hbase
    rcases htouches.2 with ⟨path, document, hpath, hdocument, hplace⟩
    rw [(hwritten document (document_strayed hpath hdocument)).1] at hplace
    have hoff : forall place, place ∈ strayed.places ⟨"out/vault/a.mdx"⟩ ->
        ¬ ["docs"] <+: place := by
      decide
    exact hoff place hplace
  · intro path document wanted place hpath hdocument hincludes
    have htext : strayed.readText document.file = .ok "A\n" := by
      rw [(hwritten document (document_strayed hpath hdocument)).2]
      decide
    have hbody : (Frontmatter.split "A\n").map Prod.snd = .ok "A\n" := by
      decide
    exact absurd hincludes (not_includes_of_nil htext hbody (by decide +kernel))
  · intro path document hpath hdocument
    rw [(hwritten document (document_strayed hpath hdocument)).1]
    decide

/-- Whatever the order of the steps of two workers, the document of a product that is not there
fails, and the other one is written. -/
theorem orders_agree_strayed :
    strayed.Proper ∧ oneProduct.documents strayed = .ok strayedPaths ∧
    oneProduct.Apart strayed strayedPaths ∧
    forall order,
      let run := (BuildRun.start strayed).steps oneProduct 2 strayedPaths order
      run.Finished strayedPaths ->
        run.report? strayedPaths = some
          ⟨[⟨"out/vault/a.mdx"⟩],
            [⟨⟨"docs/other/c.mdx"⟩, .unknownProduct "other"⟩]⟩ := by
  have hproper : strayed.Proper := by
    constructor
    · decide
    · decide
    · intro above habove
      rw [List.prefix_nil.mp habove]
      rfl
  have hdocuments : oneProduct.documents strayed = .ok strayedPaths := by
    have hfind : strayed.find oneProduct.contentRoot = .ok (["docs"], .directory) := by
      decide
    apply documents_of_filter hfind
    · decide
    · decide
  have hagree := orders_agree hproper hdocuments apart_strayed (by decide : 0 < 2)
  have hreport : (⟨strayedPaths.filterMap fun path =>
        (oneProduct.buildDocument ⟨strayed, .empty⟩ path).2.toOption,
      strayedPaths.filterMap fun path =>
        match (oneProduct.buildDocument ⟨strayed, .empty⟩ path).2 with
        | .ok _ => none
        | .error error => some ⟨path, error⟩⟩ : BuildReport) =
      ⟨[⟨"out/vault/a.mdx"⟩],
        [⟨⟨"docs/other/c.mdx"⟩, .unknownProduct "other"⟩]⟩ := by
    decide +kernel
  refine ⟨hproper, hdocuments, apart_strayed, ?_⟩
  intro order run hfinished
  rw [← hreport]
  exact (hagree.2.2.1 order hfinished).1

/-!
# Includes of what is written
-/

/-- A document that includes what is written for another one. -/
def includer : FileSystem where
  entries :=
    [(["docs"], .directory), (["docs", "vault"], .directory),
      (["docs", "vault", "a.mdx"], .file (.text "A\n")),
      (["docs", "vault", "b.mdx"],
        .file (.text "@include '../../../out/vault/a.mdx'\n")),
      (["docs", "vault", "partials"], .directory)]
  current := []

def includerPaths : List Path := [⟨"docs/vault/a.mdx"⟩, ⟨"docs/vault/b.mdx"⟩]

theorem touches_includer {place : Location} (h : oneProduct.Touches includer includerPaths place) :
    ¬ ["docs"] <+: place := by
  have hoff : forall path, path ∈ includerPaths ->
      (oneProduct.document path).map (fun document : Document =>
        decide (forall place, place ∈ includer.places document.outputPath ->
          ¬ ["docs"] <+: place)) = .ok true := by
    decide
  rcases h.2 with ⟨path, document, hpath, hdocument, hplace⟩
  have hdecided := hoff path hpath
  rw [hdocument] at hdecided
  injection hdecided with hdecided
  exact of_decide_eq_true hdecided place hplace

/-- If includes may be looked up where the build writes, a document can be written that fails
alone. -/
theorem include_of_output :
    ¬ forall (site : Site) (files : FileSystem) (paths : List Path), files.Proper ->
      site.documents files = .ok paths ->
      (forall base entry place, files.find site.contentRoot = .ok (base, entry) ->
        site.Touches files paths place -> ¬ base <+: place) ->
      forall report path document, (site.build files).2 = .ok report -> path ∈ paths ->
        site.document path = .ok document -> document.outputPath ∈ report.written ->
          exists text, (site.transform files .empty document).2 = .ok text := by
  intro h
  have hproper : includer.Proper := by
    constructor
    · decide
    · decide
    · intro above habove
      rw [List.prefix_nil.mp habove]
      rfl
  have hfind : includer.find oneProduct.contentRoot = .ok (["docs"], .directory) := by
    decide
  have hdocuments : oneProduct.documents includer = .ok includerPaths := by
    apply documents_of_filter hfind
    · decide
    · decide
  have hcontent : forall base entry place,
      includer.find oneProduct.contentRoot = .ok (base, entry) ->
        oneProduct.Touches includer includerPaths place -> ¬ base <+: place := by
    intro base entry place hbase htouches
    rw [hfind] at hbase
    cases hbase
    exact touches_includer htouches
  have hbuild : (oneProduct.build includer).2 =
      .ok (BuildReport.ofOutcomes
        (oneProduct.buildDocuments ⟨includer, .empty⟩ includerPaths).2) := by
    rw [build, hdocuments]
  have hreport : BuildReport.ofOutcomes
      (oneProduct.buildDocuments ⟨includer, .empty⟩ includerPaths).2 =
        ⟨[⟨"out/vault/a.mdx"⟩, ⟨"out/vault/b.mdx"⟩], []⟩ := by
    decide +kernel
  have hpath : (oneProduct.document ⟨"docs/vault/b.mdx"⟩).map Document.outputPath =
      .ok ⟨"out/vault/b.mdx"⟩ := by
    decide
  have hfail : (oneProduct.document ⟨"docs/vault/b.mdx"⟩ >>= fun document =>
      (oneProduct.transform includer .empty document).2).isOk = false := by
    decide +kernel
  rw [hreport] at hbuild
  cases hdocument : oneProduct.document ⟨"docs/vault/b.mdx"⟩ with
  | error error =>
      rw [hdocument] at hpath
      cases hpath
  | ok document =>
      rw [hdocument] at hpath hfail
      injection hpath with houtput
      rcases h oneProduct includer includerPaths hproper hdocuments hcontent _
        ⟨"docs/vault/b.mdx"⟩ document hbuild (by simp [includerPaths]) hdocument
        (by simp [houtput]) with ⟨text, htext⟩
      dsimp only [bind, Except.bind] at hfail
      rw [htext] at hfail
      cases hfail

end Site
end Docloom
