import Docloom.Site.Transform

/-!
# Building sites

A build transforms every document of a site. A document that fails does not end the
build, and nothing is written for it.
-/

namespace Docloom

structure BuildFailure where
  file : Path
  error : Error
  deriving DecidableEq, Repr

/-- What became of the documents, each list in the order of the documents. -/
structure BuildReport where
  written : List Path
  failures : List BuildFailure
  deriving DecidableEq, Repr

namespace BuildReport

def isOk (report : BuildReport) : Bool := report.failures.isEmpty

def total (report : BuildReport) : Nat := report.written.length + report.failures.length

/-- The report of documents with what became of each. -/
def ofOutcomes : List (Path × Except Error Path) → BuildReport
  | [] => ⟨[], []⟩
  | (file, outcome) :: outcomes =>
      let report := ofOutcomes outcomes
      match outcome with
      | .ok path => { report with written := path :: report.written }
      | .error error => { report with failures := ⟨file, error⟩ :: report.failures }

theorem total_ofOutcomes (outcomes : List (Path × Except Error Path)) :
    (ofOutcomes outcomes).total = outcomes.length := by
  induction outcomes with
  | nil => rfl
  | cons first rest ih =>
      obtain ⟨file, outcome⟩ := first
      cases outcome with
      | ok path => simp [ofOutcomes, total] at ih ⊢; omega
      | error error => simp [ofOutcomes, total] at ih ⊢; omega

end BuildReport

namespace Site

/-- The files of the documents, in order. -/
def documents (site : Site) (files : FileSystem) : Except Error (List Path) := do
  let paths ← (files.filesBelow site.contentRoot).mapError .file
  pure ((paths.filter site.config.isDocument).mergeSort Path.le)

/-- What a build changes. -/
structure BuildState where
  files : FileSystem
  cache : RedirectCache

/-- Transforms the document in a file and writes what comes of it. Returns where it
was written. -/
def buildDocument (site : Site) (state : BuildState) (file : Path) :
    BuildState × Except Error Path :=
  match site.document file with
  | .error error => (state, .error error)
  | .ok document =>
      match site.transform state.files state.cache document with
      | (cache, .error error) => ({ state with cache }, .error error)
      | (cache, .ok text) =>
          let (files, written) := writeDocument state.files document text
          ({ files, cache }, written.map fun _ => document.outputPath)

/-- Builds documents one after another. -/
def buildDocuments (site : Site) (state : BuildState) :
    List Path → BuildState × List (Path × Except Error Path)
  | [] => (state, [])
  | file :: rest =>
      let (state, outcome) := site.buildDocument state file
      let (state, outcomes) := buildDocuments site state rest
      (state, (file, outcome) :: outcomes)

/-- Builds every document. -/
def build (site : Site) (files : FileSystem) : FileSystem × Except Error BuildReport :=
  match site.documents files with
  | .error error => (files, .error error)
  | .ok paths =>
      let (state, outcomes) := site.buildDocuments ⟨files, .empty⟩ paths
      (state.files, .ok (BuildReport.ofOutcomes outcomes))

end Site
end Docloom
