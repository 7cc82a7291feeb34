import Docloom.Proofs.Site.Apart
import Docloom.Proofs.Site.Workers

/-!
# Documents do not depend on each other

When what a build reads is apart from what it writes, every order in which workers take their
steps has the same outcome: each document ends as it does when it is built alone, and a document
that fails leaves no trace where it would have been written.
-/

namespace Docloom
namespace Site

/-!
# Documents that are built alone
-/

/-- What becomes of a document that is built alone. -/
def alone (site : Site) (files : FileSystem) (path : Path) : Except Error Path :=
  (site.buildDocument ⟨files, .empty⟩ path).2

section Alone

variable {site : Site} {files : FileSystem} {path : Path} {document : Document} {text : String}

theorem alone_of_document_error {error : Error} (h : site.document path = .error error) :
    site.alone files path = .error error := by
  rw [alone, buildDocument, h]

variable (hdocument : site.document path = .ok document)

include hdocument

theorem alone_of_text_error {error : Error} (h : site.textAlone files document = .error error) :
    site.alone files path = .error error := by
  unfold textAlone at h
  rw [alone, buildDocument, hdocument]
  dsimp only
  rcases htransform : site.transform files .empty document with ⟨cache, outcome⟩
  rw [htransform] at h
  cases h
  rfl

theorem alone_of_text (h : site.textAlone files document = .ok text) :
    site.alone files path =
      ((files.writeBelow document.outputPath text).2.mapError .file).map
        fun _ => document.outputPath := by
  unfold textAlone at h
  rw [alone, buildDocument, hdocument]
  dsimp only
  rcases htransform : site.transform files .empty document with ⟨cache, outcome⟩
  rw [htransform] at h
  cases h
  rfl

theorem alone_of_making_error {fault : FileFault} (h : site.textAlone files document = .ok text)
    (hmake : (files.makeParents document.outputPath).2 = .error fault) :
    site.alone files path = .error (.file fault) := by
  rw [alone_of_text hdocument h, FileSystem.writeBelow_eq]
  rcases hparents : files.makeParents document.outputPath with ⟨made, outcome⟩
  rw [hparents] at hmake
  cases hmake
  rfl

theorem alone_of_writing (h : site.textAlone files document = .ok text)
    (hmake : (files.makeParents document.outputPath).2 = .ok ()) :
    site.alone files path =
      ((((files.makeParents document.outputPath).1.writeText document.outputPath text).map
        fun _ => ()).mapError .file).map fun _ => document.outputPath := by
  rw [alone_of_text hdocument h, FileSystem.writeBelow_eq]
  rcases hparents : files.makeParents document.outputPath with ⟨made, outcome⟩
  rw [hparents] at hmake
  cases hmake
  dsimp only
  cases made.writeText document.outputPath text with
  | error fault =>
      rfl
  | ok written =>
      rfl

end Alone

/-!
# What holds of each document
-/

/-- What holds at each stage of a document that ends as it does alone, where `now` are the files
as they are and `files` those at the start. -/
inductive Holds (site : Site) (files : FileSystem) (paths : List Path) (path : Path)
    (now : FileSystem) : Stage -> Prop where
  | waiting :
      Holds site files paths path now .waiting
  | reading {document : Document} {moments : List FileSystem}
      (hdocument : site.document path = .ok document)
      (hmoments : forall moment, moment ∈ moments -> site.Keeps files paths moment)
      (hnone : site.draftOver document moments = none) :
      Holds site files paths path now (.reading document moments)
  | redirecting {document : Document} {draft : Draft} {stage : RedirectCache.Stage}
      (hdocument : site.document path = .ok document)
      (hdraft : site.draft files document = .ok draft)
      (hrules : forall rules, stage = .loaded rules ->
        RedirectRule.load files document.redirectsDir = .ok rules) :
      Holds site files paths path now (.redirecting document draft stage)
  | making {document : Document} {text : String} {location : Location}
      {passed parts : List (List Char)}
      (hdocument : site.document path = .ok document)
      (htext : site.textAlone files document = .ok text)
      (hparts : passed ++ parts = document.outputPath.steps.dropLast)
      (hlocation : location = FileSystem.endFrom (files.origin document.outputPath) passed)
      (hmade : forall place, place ∈ files.origin document.outputPath ::
          FileSystem.placesFrom (files.origin document.outputPath) passed ->
        now.entry? place = some .directory)
      (hstanding : now.Standing location)
      (hrest : (files.makeFrom location parts).2 =
        (files.makeParents document.outputPath).2) :
      Holds site files paths path now (.making document text location parts)
  | writing {document : Document} {text : String}
      (hdocument : site.document path = .ok document)
      (htext : site.textAlone files document = .ok text)
      (hmade : forall place, place ∈ files.origin document.outputPath :: ways files document ->
        now.entry? place = some .directory)
      (hparents : (files.makeParents document.outputPath).2 = .ok ()) :
      Holds site files paths path now (.writing document text)
  | failed {error : Error} (halone : site.alone files path = .error error) :
      Holds site files paths path now (.done (.error error))
  | written {document : Document} {text : String}
      (hdocument : site.document path = .ok document)
      (htext : site.textAlone files document = .ok text)
      (halone : site.alone files path = .ok document.outputPath)
      (hlocate : now.locate document.outputPath = .ok (files.target document.outputPath))
      (hentry : now.entry? (files.target document.outputPath) = some (.file (.text text))) :
      Holds site files paths path now (.done (.ok document.outputPath))

variable {site : Site} {files now later : FileSystem} {paths : List Path} {path : Path}
  {document : Document} {text : String} {run : BuildRun}

/-- What holds of a document goes on to hold while directories are made and other documents are
written. -/
theorem Holds.mono {stage : Stage} (h : Holds site files paths path now stage)
    (hcurrent : later.current = now.current)
    (hstay : forall place, now.entry? place = some .directory ->
      later.entry? place = some .directory)
    (hfile : forall document contents, site.document path = .ok document ->
      now.entry? (files.target document.outputPath) = some (.file contents) ->
        later.entry? (files.target document.outputPath) = some (.file contents)) :
    Holds site files paths path later stage := by
  cases h with
  | waiting =>
      exact .waiting
  | reading hdocument hmoments hnone =>
      exact .reading hdocument hmoments hnone
  | redirecting hdocument hdraft hrules =>
      exact .redirecting hdocument hdraft hrules
  | making hdocument htext hparts hlocation hmade hstanding hrest =>
      refine .making hdocument htext hparts hlocation ?_ ?_ hrest
      · intro place hplace
        exact hstay place (hmade place hplace)
      · intro above habove
        exact hstay above (hstanding above habove)
  | writing hdocument htext hmade hparents =>
      refine .writing hdocument htext ?_ hparents
      intro place hplace
      exact hstay place (hmade place hplace)
  | failed halone =>
      exact .failed halone
  | written hdocument htext halone hlocate hentry =>
      exact .written hdocument htext halone
        (FileSystem.locate_of_directories hcurrent hstay hlocate) (hfile _ _ hdocument hentry)

/-!
# What holds of runs
-/

/-- Whether a document was written at a place. -/
def Written (site : Site) (files : FileSystem) (paths : List Path) (run : BuildRun)
    (place : Location) : Prop :=
  exists path document contents, path ∈ paths ∧ site.document path = .ok document ∧
    place = files.target document.outputPath ∧
    run.stage path = .done (.ok document.outputPath) ∧
    files.entry? place ≠ some .directory ∧
    run.state.files.entry? place = some (.file contents)

/-- Whether a directory was made at a place. -/
def Made (site : Site) (files : FileSystem) (paths : List Path) (now : FileSystem)
    (place : Location) : Prop :=
  exists path document, path ∈ paths ∧ site.document path = .ok document ∧
    place ∈ ways files document ∧ files.entry? place = none ∧
    now.entry? place = some .directory

/-- The files are as they were but for documents that were written and directories that were
made, the rules in the cache are those that were there at the start, and each document is on the
way to what becomes of it alone. -/
structure Invariant (site : Site) (files : FileSystem) (paths : List Path) (run : BuildRun) :
    Prop where
  current : run.state.files.current = files.current
  entry : forall place, run.state.files.entry? place = files.entry? place ∨
    site.Written files paths run place ∨ site.Made files paths run.state.files place
  rules : site.Loaded files paths run.state.cache
  stages : forall path, path ∈ paths ->
    Holds site files paths path run.state.files (run.stage path)

/-- Whether a document is still on its way. -/
def Stage.isUnderway : Stage -> Bool
  | .done _ => false
  | _ => true

theorem not_written_of_isUnderway {stage : Stage} (hstage : run.stage path = stage)
    (h : stage.isUnderway = true) (output : Path) : run.stage path ≠ .done (.ok output) := by
  intro hdone
  rw [← hstage, hdone] at h
  cases h

theorem Invariant.holds (h : Invariant site files paths run) (hpath : path ∈ paths)
    {stage : Stage} (hstage : run.stage path = stage) :
    Holds site files paths path run.state.files stage := by
  rw [← hstage]
  exact h.stages path hpath

theorem invariant_start : Invariant site files paths (.start files) := by
  refine ⟨rfl, fun _ => Or.inl rfl, ?_, fun _ _ => .waiting⟩
  intro path document shared _ _ hlookup
  cases hlookup

section Facts

variable (hproper : files.Proper) (hpaths : site.documents files = .ok paths)
  (h : Invariant site files paths run)

include hproper hpaths h

/-- What is not written to is as it was. -/
theorem Invariant.keeps : site.Keeps files paths run.state.files := by
  refine ⟨h.current, ?_⟩
  intro place hplace
  rcases h.entry place with hsame | hwritten | hmade
  · exact hsame
  · rcases hwritten with ⟨path, document, contents, hpath, hdocument, htarget, _, hfile, _⟩
    rcases exists_named hproper hpaths with ⟨base, entry, _, hnamed⟩
    rcases hnamed path document hpath hdocument with ⟨names, _, _, hnames⟩
    apply absurd _ hplace
    rw [htarget] at hfile ⊢
    exact ⟨hfile, path, document, hpath, hdocument, hnames.target_mem_places files⟩
  · rcases hmade with ⟨path, document, hpath, hdocument, hway, hnone, _⟩
    apply absurd _ hplace
    refine ⟨?_, path, document, hpath, hdocument, ways_subset_places hway⟩
    rw [hnone]
    simp

variable (hapart : site.Apart files paths)

include hapart

/-- Nothing was changed where a document is to be written. -/
theorem Invariant.entry_target (hpath : path ∈ paths) (hdocument : site.document path = .ok document)
    (hstage : run.stage path ≠ .done (.ok document.outputPath)) :
    run.state.files.entry? (files.target document.outputPath) =
      files.entry? (files.target document.outputPath) := by
  rcases h.entry (files.target document.outputPath) with hsame | hwritten | hmade
  · exact hsame
  · rcases hwritten with ⟨path', document', _, hpath', hdocument', htarget, hdone, _, _⟩
    have heq := target_injective hproper hpaths hpath hdocument hpath' hdocument' htarget
    rw [← heq, hdocument] at hdocument'
    cases hdocument'
    rw [heq] at hstage
    exact absurd hdone hstage
  · rcases hmade with ⟨path', document', hpath', hdocument', hway, _, _⟩
    exact absurd hway
      (target_not_mem_ways hproper hpaths hapart hpath hdocument hpath' hdocument')

/-- On the way to a document there are the files that were there at the start. -/
theorem Invariant.holdsFile_iff (hpath : path ∈ paths)
    (hdocument : site.document path = .ok document) {place : Location}
    (hplace : place ∈ ways files document) :
    run.state.files.HoldsFile place ↔ files.HoldsFile place := by
  unfold FileSystem.HoldsFile
  rcases h.entry place with hsame | hwritten | hmade
  · rw [hsame]
  · rcases hwritten with ⟨path', document', _, hpath', hdocument', htarget, _, _, _⟩
    rw [htarget] at hplace
    exact absurd hplace
      (target_not_mem_ways hproper hpaths hapart hpath' hdocument' hpath hdocument)
  · rcases hmade with ⟨_, _, _, _, _, hnone, hdirectory⟩
    rw [hnone, hdirectory]
    simp

end Facts

/-!
# Steps
-/

section Updates

variable {cache : RedirectCache} {stage : Stage}

/-- A step that makes no more than a directory on the way to its document keeps what holds. -/
theorem Invariant.update (h : Invariant site files paths run)
    (hbefore : forall output, run.stage path ≠ .done (.ok output))
    {places : List Location} (hgrows : FileSystem.Grows places run.state.files later)
    (hplaces : forall place, place ∈ places -> exists document,
      path ∈ paths ∧ site.document path = .ok document ∧ place ∈ ways files document)
    (hrules : forall path document shared, path ∈ paths -> site.document path = .ok document ->
      cache.lookup document.redirectsDir = some shared ->
        RedirectRule.load files document.redirectsDir = .ok shared.rules)
    (hstage : Holds site files paths path later stage) :
    Invariant site files paths ⟨⟨later, cache⟩, Function.update run.stage path stage⟩ := by
  have hfile : forall place contents, run.state.files.entry? place = some (.file contents) ->
      later.entry? place = some (.file contents) := by
    intro place contents hentry
    rcases hgrows.entry place with hsame | ⟨_, hnone, _⟩
    · rw [hsame, hentry]
    · rw [hentry] at hnone
      cases hnone
  refine ⟨hgrows.current.trans h.current, ?_, hrules, ?_⟩
  · intro place
    rcases h.entry place with hold | hwritten | hmade
    · rcases hgrows.entry place with hsame | ⟨hplace, hnone, hmade⟩
      · exact Or.inl (hsame.trans hold)
      · rcases hplaces place hplace with ⟨document, hpath, hdocument, hway⟩
        exact Or.inr (Or.inr ⟨path, document, hpath, hdocument, hway, hold.symm.trans hnone, hmade⟩)
    · rcases hwritten with
        ⟨path', document', contents, hpath', hdocument', htarget, hdone, hentry, hcontents⟩
      have hne : path' ≠ path := by
        rintro rfl
        exact hbefore _ hdone
      refine Or.inr (Or.inl ⟨path', document', contents, hpath', hdocument', htarget, ?_, hentry,
        hfile place contents hcontents⟩)
      exact (Function.update_of_ne hne _ _).trans hdone
    · rcases hmade with ⟨path', document', hpath', hdocument', hway, hnone, hdirectory⟩
      exact Or.inr (Or.inr ⟨path', document', hpath', hdocument', hway, hnone,
        hgrows.directory hdirectory⟩)
  · intro path' hpath'
    by_cases hsame : path' = path
    · rw [hsame]
      simpa using hstage
    · dsimp only
      rw [Function.update_of_ne hsame]
      apply (h.stages path' hpath').mono hgrows.current
      · intro place hdirectory
        exact hgrows.directory hdirectory
      · intro document contents _ hentry
        exact hfile _ contents hentry

end Updates

section Steps

variable (hproper : files.Proper) (hpaths : site.documents files = .ok paths)
  (hapart : site.Apart files paths) (h : Invariant site files paths run) (hpath : path ∈ paths)

include h in
/-- A step that changes no files keeps what holds. -/
theorem Invariant.settle {stage : Stage}
    (hbefore : forall output, run.stage path ≠ .done (.ok output))
    (hstage : Holds site files paths path run.state.files stage) :
    Invariant site files paths ⟨run.state, Function.update run.stage path stage⟩ :=
  h.update hbefore (FileSystem.Grows.refl [] _) (by simp) h.rules hstage

include h in
theorem Invariant.advance_waiting (hstage : run.stage path = .waiting) :
    Invariant site files paths (run.advance site path) := by
  have hbefore := not_written_of_isUnderway hstage rfl
  rw [BuildRun.advance, hstage]
  simp only [Site.advance]
  cases hdocument : site.document path with
  | error error =>
      exact h.settle hbefore (.failed (alone_of_document_error hdocument))
  | ok document =>
      exact h.settle hbefore (.reading hdocument (by simp) rfl)

include hproper hpaths h hpath

/-- A document whose text is there goes on with its directory. -/
theorem Invariant.holds_ofText (hdocument : site.document path = .ok document) :
    Holds site files paths path run.state.files
      (.ofText run.state.files document (site.textAlone files document)) := by
  cases htext : site.textAlone files document with
  | error error =>
      exact .failed (alone_of_text_error hdocument htext)
  | ok text =>
      have hkeeps := h.keeps hproper hpaths
      rcases exists_named hproper hpaths with ⟨base, entry, _, hnamed⟩
      rcases hnamed path document hpath hdocument with ⟨names, _, _, hnames⟩
      rcases hnames.exists_makeParents files with
        ⟨directory, hparent, horigin, hsteps, hparents⟩
      rw [Stage.ofText, hparent]
      dsimp only
      by_cases hsize : FileSystem.maxPathSize < directory.text.utf8ByteSize
      · rw [if_pos hsize] at hparents ⊢
        apply Holds.failed
        apply alone_of_making_error hdocument htext
        rw [hparents]
      · rw [if_neg hsize] at hparents ⊢
        have hstanding : run.state.files.Standing (files.origin document.outputPath) := by
          intro above habove
          have hdirectory := origin_standing hproper document.outputPath above habove
          rw [hkeeps.entry above]
          · exact hdirectory
          · intro htouches
            exact htouches.1 hdirectory
        have hnow : run.state.files.origin directory = files.origin document.outputPath := by
          rw [← horigin, FileSystem.origin, FileSystem.origin, h.current]
        rw [hnow]
        refine .making hdocument htext (?_ : [] ++ directory.steps = _) rfl ?_ hstanding ?_
        · exact hsteps
        · intro place hplace
          rw [List.mem_singleton.mp hplace]
          exact hstanding _ (List.prefix_refl _)
        · rw [hparents, hsteps]

include hapart

theorem Invariant.advance_reading {moments : List FileSystem}
    (hstage : run.stage path = .reading document moments) :
    Invariant site files paths (run.advance site path) := by
  have hbefore := not_written_of_isUnderway hstage rfl
  have hholds := h.holds hpath hstage
  cases hholds with
  | reading hdocument hmoments hnone =>
      have hagree : forall moment, moment ∈ moments ++ [run.state.files] ->
          site.Keeps files paths moment := by
        intro moment hmoment
        rcases List.mem_append.mp hmoment with hold | hnew
        · exact hmoments moment hold
        · rw [List.mem_singleton.mp hnew]
          exact h.keeps hproper hpaths
      rcases exists_takes_draftOver site
        (fun _ => readAlike_of_consults hproper hpaths hapart.toClear hpath hdocument) with
        ⟨count, hcount⟩
      have htakes := hcount _ _ (Nat.le_refl _) hagree
      rw [BuildRun.advance, hstage]
      by_cases hshort : (moments ++ [run.state.files]).length < count + 1
      · rw [if_pos hshort] at htakes
        rw [advance_reading_none htakes]
        exact h.settle hbefore (.reading hdocument hagree htakes)
      · rw [if_neg hshort] at htakes
        rw [advance_reading_some htakes]
        apply h.settle hbefore
        cases hdraft : site.draft files document with
        | error error =>
            apply Holds.failed
            apply alone_of_text_error hdocument
            rw [textAlone_eq, hdraft]
            rfl
        | ok draft =>
            refine .redirecting hdocument hdraft ?_
            intro rules hrules
            cases hrules

theorem Invariant.advance_redirecting {draft : Draft} {asked : RedirectCache.Stage}
    (hstage : run.stage path = .redirecting document draft asked) :
    Invariant site files paths (run.advance site path) := by
  have hbefore := not_written_of_isUnderway hstage rfl
  have hholds := h.holds hpath hstage
  cases hholds with
  | redirecting hdocument hdraft hloaded =>
      -- Rules that are given are those that were there at the start.
      have hgiven : forall shared : SharedRules,
          RedirectRule.load files document.redirectsDir = .ok shared.rules ->
            Holds site files paths path run.state.files
              (.ofText run.state.files document (site.finish document draft shared.rules)) := by
        intro shared hload
        have htext : site.textAlone files document = site.finish document draft shared.rules := by
          rw [textAlone_eq, hdraft, hload]
          rfl
        rw [← htext]
        exact h.holds_ofText hproper hpaths hpath hdocument
      rw [BuildRun.advance, hstage]
      cases asked with
      | called =>
          simp only [Site.advance, RedirectCache.advance]
          cases hlookup : run.state.cache.lookup document.redirectsDir with
          | some shared =>
              exact h.settle hbefore
                (hgiven shared (h.rules path document shared hpath hdocument hlookup))
          | none =>
              refine h.settle hbefore (.redirecting hdocument hdraft ?_)
              intro rules hrules
              cases hrules
      | missed =>
          simp only [Site.advance, RedirectCache.advance]
          rw [((h.keeps hproper hpaths).unchanged hproper hpaths hapart.toClear).load_eq hproper hpaths
            hpath hdocument]
          cases hload : RedirectRule.load files document.redirectsDir with
          | error error =>
              apply h.settle hbefore
              apply Holds.failed
              apply alone_of_text_error hdocument
              rw [textAlone_eq, hdraft, hload]
              rfl
          | ok rules =>
              refine h.settle hbefore (.redirecting hdocument hdraft ?_)
              intro loaded hrules
              cases hrules
              exact hload
      | loaded rules =>
          have hload := hloaded rules rfl
          simp only [Site.advance, RedirectCache.advance]
          have hrules : site.Loaded files paths
              (run.state.cache.insert document.redirectsDir rules).1 :=
            h.rules.insert hproper hpaths hpath hdocument hload
          refine h.update hbefore (FileSystem.Grows.refl [] _) (by simp) hrules ?_
          apply hgiven
          exact hrules path document _ hpath hdocument RedirectCache.lookup_insert_self

theorem Invariant.advance_making {location : Location} {parts : List (List Char)}
    (hstage : run.stage path = .making document text location parts) :
    Invariant site files paths (run.advance site path) := by
  have hbefore := not_written_of_isUnderway hstage rfl
  have hholds := h.holds hpath hstage
  cases hholds with
  | @making _ _ _ passed _ hdocument htext hparts hlocation hmade hstanding hrest =>
      rw [BuildRun.advance, hstage]
      cases parts with
      | nil =>
          apply h.settle hbefore
          refine .writing hdocument htext ?_ hrest.symm
          rw [List.append_nil] at hparts
          rw [hparts] at hmade
          exact hmade
      | cons part rest =>
          have hway : FileSystem.turn location part ∈ ways files document := by
            rw [ways, ← hparts, FileSystem.placesFrom_append, ← hlocation,
              FileSystem.placesFrom]
            exact List.mem_append_right _ List.mem_cons_self
          have houtcome : (run.state.files.makeStep location part rest).2 =
              (files.makeStep location part rest).2 :=
            FileSystem.makeStep_congr
              (h.holdsFile_iff hproper hpaths hapart hpath hdocument hway)
          have hgrows : FileSystem.Grows [FileSystem.turn location part] run.state.files
              (run.state.files.makeStep location part rest).1 := FileSystem.makeStep_grows
          have hplaces : forall place, place ∈ [FileSystem.turn location part] ->
              exists document, path ∈ paths ∧ site.document path = .ok document ∧
                place ∈ ways files document := by
            intro place hplace
            rw [List.mem_singleton.mp hplace]
            exact ⟨document, hpath, hdocument, hway⟩
          rw [FileSystem.makeFrom_cons] at hrest
          simp only [Site.advance]
          rcases hstep : run.state.files.makeStep location part rest with ⟨later, outcome⟩
          rcases hstepStart : files.makeStep location part rest with ⟨middle, outcomeStart⟩
          rw [hstep, hstepStart] at houtcome
          rw [hstep] at hgrows
          rw [hstepStart] at hrest
          dsimp only at houtcome hgrows
          rw [← houtcome] at hrest hstepStart
          cases outcome with
          | error fault =>
              refine h.update hbefore hgrows hplaces h.rules ?_
              exact .failed (alone_of_making_error hdocument htext hrest.symm)
          | ok next =>
              have hnext := FileSystem.makeStep_ok hstep
              have hstandingNext := FileSystem.makeStep_standing hstanding hstep
              refine h.update hbefore hgrows hplaces h.rules ?_
              refine .making hdocument htext (?_ : (passed ++ [part]) ++ rest = _) ?_ ?_
                hstandingNext ?_
              · rw [← hparts, List.append_assoc]
                rfl
              · rw [FileSystem.endFrom_append, ← hlocation, hnext]
                rfl
              · intro place hplace
                rw [FileSystem.placesFrom_append, ← hlocation, ← List.cons_append] at hplace
                rcases List.mem_append.mp hplace with hold | hnew
                · exact hgrows.directory (hmade place hold)
                · rw [List.mem_singleton.mp hnew, ← hnext]
                  exact hstandingNext _ (List.prefix_refl _)
              · rw [← hrest]
                have hgrowsStart : FileSystem.Grows [FileSystem.turn location part] files
                    (files.makeStep location part rest).1 := FileSystem.makeStep_grows
                rw [hstepStart] at hgrowsStart
                apply FileSystem.makeFrom_congr
                intro place _
                exact (hgrowsStart.holdsFile_iff place).symm

/-- A step that writes its document keeps what holds. -/
theorem Invariant.write (hdocument : site.document path = .ok document)
    (htext : site.textAlone files document = .ok text)
    (hbefore : forall output, run.stage path ≠ .done (.ok output))
    (halone : site.alone files path = .ok document.outputPath)
    (hending : Text.endsWith "/" document.outputPath.text = false)
    (hwrite : run.state.files.writeText document.outputPath text = .ok later) :
    Invariant site files paths
      ⟨{ run.state with files := later },
        Function.update run.stage path (.done (.ok document.outputPath))⟩ := by
  rcases FileSystem.writeText_ok hending hwrite with ⟨hlater, hdirectory, hlocate⟩
  have htarget := FileSystem.target_congr h.current document.outputPath
  have hold := h.entry_target hproper hpaths hapart hpath hdocument (hbefore _)
  rw [htarget] at hlater hdirectory hlocate
  have hput : later.entry? (files.target document.outputPath) = some (.file (.text text)) := by
    rw [hlater]
    apply FileSystem.entry_put_self
    intro hnil
    rw [hnil] at hdirectory
    exact hdirectory rfl
  have hkept : forall place, place ≠ files.target document.outputPath ->
      later.entry? place = run.state.files.entry? place := by
    intro place hne
    rw [hlater]
    exact FileSystem.entry_put_of_ne hne
  have hcurrent : later.current = run.state.files.current := by
    rw [hlater]
    rfl
  have hstay : forall place, run.state.files.entry? place = some .directory ->
      later.entry? place = some .directory := by
    intro place hplace
    rw [hkept place]
    · exact hplace
    · rintro rfl
      exact hdirectory hplace
  refine ⟨hcurrent.trans h.current, ?_, h.rules, ?_⟩
  · intro place
    by_cases hplace : place = files.target document.outputPath
    · refine Or.inr (Or.inl ⟨path, document, .text text, hpath, hdocument, hplace, ?_, ?_, ?_⟩)
      · exact Function.update_self _ _ _
      · rw [hplace, ← hold]
        exact hdirectory
      · rw [hplace]
        exact hput
    · rcases h.entry place with hsame | hwritten | hmade
      · exact Or.inl ((hkept place hplace).trans hsame)
      · rcases hwritten with
          ⟨path', document', contents, hpath', hdocument', hplace', hdone, hentry, hcontents⟩
        have hne : path' ≠ path := by
          rintro rfl
          exact hbefore _ hdone
        exact Or.inr (Or.inl ⟨path', document', contents, hpath', hdocument', hplace',
          (Function.update_of_ne hne _ _).trans hdone, hentry, (hkept place hplace).trans hcontents⟩)
      · rcases hmade with ⟨path', document', hpath', hdocument', hway, hnone, hmade⟩
        exact Or.inr (Or.inr ⟨path', document', hpath', hdocument', hway, hnone,
          hstay place hmade⟩)
  · intro path' hpath'
    by_cases hsame : path' = path
    · rw [hsame]
      dsimp only
      rw [Function.update_self]
      exact .written hdocument htext halone
        (FileSystem.locate_of_directories hcurrent hstay hlocate) hput
    · dsimp only
      rw [Function.update_of_ne hsame]
      apply (h.stages path' hpath').mono hcurrent hstay
      intro document' contents hdocument' hentry
      rw [hkept]
      · exact hentry
      · intro heq
        exact hsame (target_injective hproper hpaths hpath' hdocument' hpath hdocument heq)

theorem Invariant.advance_writing (hstage : run.stage path = .writing document text) :
    Invariant site files paths (run.advance site path) := by
  have hbefore := not_written_of_isUnderway hstage rfl
  have hholds := h.holds hpath hstage
  cases hholds with
  | writing hdocument htext hmade hparents =>
      rcases exists_named hproper hpaths with ⟨base, entry, _, hnamed⟩
      rcases hnamed path document hpath hdocument with ⟨names, _, _, hnames⟩
      rcases hnames.exists_output_pieces with ⟨parts, last, hpieces, hsteps, hending⟩
      have halone := alone_of_writing hdocument htext hparents
      have hentry := h.entry_target hproper hpaths hapart hpath hdocument (hbefore _)
      have hoff := target_not_mem_ways hproper hpaths hapart hpath hdocument hpath hdocument
      rcases hmadeAlone : files.makeParents document.outputPath with ⟨made, outcome⟩
      rw [hmadeAlone] at halone hparents
      dsimp only at halone hparents
      rw [hparents] at hmadeAlone
      have hgrows : FileSystem.Grows (ways files document) files
          (files.makeParents document.outputPath).1 := hnames.makeParents_grows
      rw [hmadeAlone] at hgrows
      have horigin := FileSystem.origin_congr hgrows.current document.outputPath
      have htarget := FileSystem.target_congr hgrows.current document.outputPath
      have hlocate : run.state.files.locate document.outputPath =
          made.locate document.outputPath := by
        apply FileSystem.locate_congr_of_directories (h.current.trans hgrows.current.symm) hpieces
        · rw [horigin, hsteps]
          exact hnames.makeParents_made (origin_standing hproper _) hmadeAlone
        · rw [horigin, hsteps]
          exact hmade
      have hentryAlone : made.entry? (files.target document.outputPath) =
          files.entry? (files.target document.outputPath) := by
        rcases hgrows.entry (files.target document.outputPath) with hsame | ⟨hway, _, _⟩
        · exact hsame
        · exact absurd hway hoff
      have hsame : (run.state.files.writeText document.outputPath text).map (fun _ => ()) =
          (made.writeText document.outputPath text).map (fun _ => ()) := by
        apply FileSystem.writeText_congr hending hlocate
        rw [htarget, hentry, hentryAlone]
      rw [← hsame] at halone
      rw [BuildRun.advance, hstage]
      simp only [Site.advance]
      cases hwrite : run.state.files.writeText document.outputPath text with
      | error fault =>
          rw [hwrite] at halone
          exact h.settle hbefore (.failed halone)
      | ok later =>
          rw [hwrite] at halone
          exact h.write hproper hpaths hapart hpath hdocument htext hbefore halone hending hwrite

end Steps

section Runs

variable (hproper : files.Proper) (hpaths : site.documents files = .ok paths)
  (hapart : site.Apart files paths)

include hproper hpaths hapart

theorem Invariant.advance (h : Invariant site files paths run) (hpath : path ∈ paths) :
    Invariant site files paths (run.advance site path) := by
  cases hstage : run.stage path with
  | waiting =>
      exact h.advance_waiting hstage
  | reading document moments =>
      exact h.advance_reading hproper hpaths hapart hpath hstage
  | redirecting document draft asked =>
      exact h.advance_redirecting hproper hpaths hapart hpath hstage
  | making document text location parts =>
      exact h.advance_making hproper hpaths hapart hpath hstage
  | writing document text =>
      exact h.advance_writing hproper hpaths hapart hpath hstage
  | done outcome =>
      rw [advance_of_done hstage]
      exact h

theorem Invariant.step (h : Invariant site files paths run) (workers : Nat) (path : Path) :
    Invariant site files paths (run.step site workers paths path) := by
  rw [BuildRun.step]
  split
  · rename_i hmay
    exact h.advance hproper hpaths hapart hmay.1
  · exact h

theorem Invariant.steps (h : Invariant site files paths run) (workers : Nat) (order : List Path) :
    Invariant site files paths (run.steps site workers paths order) := by
  induction order generalizing run with
  | nil =>
      exact h
  | cons path order ih =>
      exact ih (h.step hproper hpaths hapart workers path)

end Runs

end Site
end Docloom
