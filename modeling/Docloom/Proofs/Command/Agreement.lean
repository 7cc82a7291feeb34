import Docloom.Command.Run
import Docloom.Proofs.Site.Sequence
import Docloom.Proofs.Site.Spelling
import Docloom.Proofs.Version.RoundTrip

/-!
# Single documents and builds

A build writes the table of versions and then its documents.  A document that is transformed
afterwards, with the table from its file, gets the text that the build wrote for it, or fails as
it did in the build.
-/

namespace Docloom

namespace Site

variable {site : Site} {files later : FileSystem} {paths : List Path} {path : Path}
  {document : Document} {names : List String}

/-!
# Settings of builds
-/

/-- Neither a document nor its text depends on how many documents are built at a time. -/
theorem document_jobs (site : Site) (jobs : Option Nat) (path : Path) :
    ({ site with config := { site.config with jobs } } : Site).document path =
      site.document path := rfl

/-!
# Documents on their own
-/

/-- The document in a file and its text. -/
def single (site : Site) (files : FileSystem) (file : Path) : Except Error (Document × String) := do
  let document ← site.document file
  let text ← site.textAlone files document
  pure (document, text)

section Spellings

variable (hproper : files.Proper) (hpaths : site.documents files = .ok paths)

include hproper hpaths

/-- Under the plain spelling of its path, a document gets the text that it has alone, or the error
but for that path. -/
theorem single_respells (current : Path) (hroot : site.contentRoot.isAbsolute = true)
    (hlater : site.Unchanged files paths later) (hpath : path ∈ paths)
    (hjoins : path = site.contentRoot.joins names) (hnames : ProperLocation names)
    (hne : names ≠ [])
    (hsize : FileSystem.maxPathSize < path.text.utf8ByteSize ->
      FileSystem.maxPathSize < (current.absolute path).text.utf8ByteSize) :
    Respells path (current.absolute path)
      (do
        let document ← site.document path
        let text ← site.textAlone files document
        pure ({ document with file := current.absolute path }, text))
      (site.single later (current.absolute path)) := by
  have hlocate : later.locate (current.absolute path) = later.locate path := by
    rcases List.eq_nil_or_concat' names with hnil | ⟨before, last, hconcat⟩
    · exact absurd hnil hne
    · have hlast : ProperName last := hnames last (by simp [hconcat])
      have hpieces : path.pieces =
          (site.contentRoot.lead ++ before.map String.toList) ++ [last.toList] := by
        rw [hjoins, Path.pieces_joins hnames hne, hconcat, List.map_append, List.append_assoc]
        rfl
      apply FileSystem.locate_absolute current _ hpieces hlast.notIdle hsize
      rw [hjoins, Path.isAbsolute_joins hnames, hroot]
  have hfind : later.find (current.absolute path) = later.find path := by
    rw [FileSystem.find, FileSystem.find, hlocate]
  have hdocuments := document_respells current hroot hnames hne
  rw [← hjoins] at hdocuments
  unfold single
  cases hdocument : site.document path with
  | error error =>
      rw [hdocument] at hdocuments
      rcases hdocuments.exists_error with ⟨other, hother, hrespelled⟩
      rw [hother]
      exact .error hrespelled
  | ok document =>
      rw [hdocument] at hdocuments
      rw [hdocuments.eq_ok]
      have hfile : document.file = path := by
        rcases exists_named hproper hpaths with ⟨base, entry, _, hnamed⟩
        rcases hnamed path document hpath hdocument with ⟨others, hothers, _, hnamed⟩
        rw [hnamed.file, hothers]
      have htexts : Respells path (current.absolute path) (site.textAlone later document)
          (site.textAlone later { document with file := current.absolute path }) := by
        rw [← hfile]
        apply textAlone_respells
        · rw [hfile, FileSystem.readText, FileSystem.readText, hfind]
        · intro text htext
          rcases FileSystem.find_of_readText htext with ⟨location, hfound⟩
          rw [hfile] at hfound
          rw [hfile, FileSystem.canonical, FileSystem.canonical, hfind, hfound]
      rw [hlater.text_eq hproper hpaths hpath hdocument] at htexts
      apply htexts.bind
      intro text _
      exact .refl _ _ _

end Spellings

/-!
# Gathered sites
-/

theorem exists_of_gather {root : Path} {config : SiteConfig}
    (h : Site.gather files root config = .ok site) :
    exists location table shared,
      files.find (root.join config.contentDir) = .ok (location, .directory) ∧
      config.globs = .ok shared ∧
      site = ⟨config, root.join config.contentDir, root.join config.outputDir, table, shared⟩ := by
  unfold gather at h
  rcases Results.exists_of_bind h with ⟨table, htable, h⟩
  unfold make at h
  rcases Results.exists_of_bind h with ⟨shared, hshared, h⟩
  cases h
  unfold VersionTable.gather at htable
  rcases Results.exists_of_bind htable with ⟨names, hnames, _⟩
  cases hfind : files.find (root.join config.contentDir) with
  | error fault =>
      rw [FileSystem.directoryNames, hfind] at hnames
      cases hnames
  | ok found =>
      rcases found with ⟨location, entry⟩
      cases entry with
      | file contents =>
          rw [FileSystem.directoryNames, hfind] at hnames
          cases hnames
      | directory =>
          exact ⟨location, table, shared, rfl, hshared, rfl⟩

end Site

/-!
# Comparing settings
-/

instance {α : Type} [DecidableEq α] : DecidableEq (Catalog α) := fun first second =>
  decidable_of_iff (first.entries = second.entries)
    ⟨Catalog.ext_entries, fun h => congrArg Catalog.entries h⟩

deriving instance DecidableEq for SiteConfig, FileSystem

namespace Command

/-!
# Requests
-/

/-- The setting that a request works in. -/
def Request.setting (request : Request) (plain : Bool) (files : FileSystem) : Setting :=
  let current := FileSystem.locationPath files.current
  { root := current.absolute ⟨request.path.getD current.text⟩
    verbose := request.verbose
    plain := plain || request.plain }

/-- The request to build in the setting of another one. -/
def Request.build (request : Request) (jobs : Option Nat) : Request :=
  { request with action := some (.build jobs false) }

/-- The request to transform a document in the setting of another one. -/
def Request.transform (request : Request) (file : String) (printed : Bool) : Request :=
  { request with action := some (.transform file printed) }

theorem Request.run_build (request : Request) (jobs : Option Nat) (plain : Bool)
    (files : FileSystem) :
    (request.build jobs).run plain files =
      (request.setting plain files).build files jobs false := rfl

theorem Request.run_transform (request : Request) (file : String) (printed : Bool) (plain : Bool)
    (files : FileSystem) :
    (request.transform file printed).run plain files =
      (request.setting plain files).transform files
        ((FileSystem.locationPath files.current).absolute ⟨file⟩) printed := rfl

namespace Setting

variable {setting : Setting} {files noted built later : FileSystem} {jobs : Option Nat}
  {config : SiteConfig} {site : Site} {report : BuildReport} {paths : List Path}

/-!
# Builds that complete
-/

/-- Whether a build completes: the site is gathered, its table is written, and its documents are
built, which leaves the files as they are then. -/
structure Completes (setting : Setting) (files : FileSystem) (jobs : Option Nat)
    (config : SiteConfig) (site : Site) (noted built : FileSystem) (report : BuildReport) :
    Prop where
  settings : SiteConfig.load files setting.root = .ok config
  gathers :
    Site.gather files setting.root { config with jobs := jobs <|> config.jobs } = .ok site
  notes : VersionTable.write site.table files (setting.root.join config.versionFile) =
    (noted, .ok ())
  builds : site.build noted = (built, .ok report)

/-- The response of a build that completes. -/
theorem Completes.response (h : setting.Completes files jobs config site noted built report) :
    exists output, setting.build files jobs false =
      { status := if report.isOk then 0 else 1
        output
        complaints := Text.join "" (report.failures.map setting.failureText)
        files := built } := by
  rcases Site.exists_of_gather h.gathers with ⟨_, table, shared, _, _, hsite⟩
  have hfile : site.config.versionFile = config.versionFile := by
    rw [hsite]
  unfold build
  rw [h.settings]
  simp only [bind, Except.bind, h.gathers, hfile, h.notes, Bool.false_eq_true, if_false]
  unfold buildSite
  rw [h.builds]
  exact ⟨_, rfl⟩

/-- A build completes unless it ends with an error. -/
theorem exists_completes (h : (setting.build files jobs false).status ≠ 2) :
    exists config site noted built report,
      setting.Completes files jobs config site noted built report := by
  unfold build at h
  cases hsettings : SiteConfig.load files setting.root with
  | error error =>
      rw [hsettings] at h
      exact absurd rfl h
  | ok config =>
      rw [hsettings] at h
      simp only [bind, Except.bind] at h
      cases hgathers : Site.gather files setting.root
          { config with jobs := jobs <|> config.jobs } with
      | error error =>
          rw [hgathers] at h
          exact absurd rfl h
      | ok site =>
          rcases Site.exists_of_gather hgathers with ⟨_, table, shared, _, _, hsite⟩
          have hfile : site.config.versionFile = config.versionFile := by
            rw [hsite]
          rw [hgathers] at h
          dsimp only at h
          rw [hfile] at h
          rcases hnotes : VersionTable.write site.table files
            (setting.root.join config.versionFile) with ⟨noted, error | done⟩
          · rw [hnotes] at h
            exact absurd rfl h
          · rw [hnotes] at h
            simp only [Bool.false_eq_true, if_false, buildSite] at h
            rcases hbuilds : site.build noted with ⟨built, error | report⟩
            · rw [hbuilds] at h
              exact absurd rfl h
            · exact ⟨config, site, noted, built, report, hsettings, hgathers, hnotes, hbuilds⟩

/-- The files with the table are those of a machine. -/
theorem Completes.proper (h : setting.Completes files jobs config site noted built report)
    (hproper : files.Proper) : noted.Proper := by
  have hwrite := VersionTable.write_eq h.notes
  have hnoted := @FileSystem.Proper.writeBelow files _ (VersionTable.fileText site.table) hproper
    (FileSystem.endsWith_of_writeBelow hwrite)
  rw [hwrite] at hnoted
  exact hnoted

/-- Nothing is removed when the table is written. -/
theorem Completes.lasts (h : setting.Completes files jobs config site noted built report) :
    files.Lasts noted := by
  have hwrite := VersionTable.write_eq h.notes
  have hlasts := @FileSystem.writeBelow_lasts files _ (VersionTable.fileText site.table)
    (FileSystem.endsWith_of_writeBelow hwrite)
  rw [hwrite] at hlasts
  exact hlasts

theorem Completes.contentRoot (h : setting.Completes files jobs config site noted built report) :
    site.contentRoot = setting.root.join config.contentDir := by
  rcases Site.exists_of_gather h.gathers with ⟨_, table, shared, _, _, hsite⟩
  rw [hsite]

/-- What is found of the content of a site that was gathered is a directory. -/
theorem Completes.find_content (h : setting.Completes files jobs config site noted built report) :
    exists location, noted.find site.contentRoot = .ok (location, .directory) := by
  rcases Site.exists_of_gather h.gathers with ⟨location, table, shared, hfind, _, hsite⟩
  have hroot : noted.locate site.contentRoot = .ok location := by
    rw [hsite]
    exact FileSystem.locate_of_directories h.lasts.current h.lasts.directory
      (FileSystem.locate_of_find hfind)
  have hentry : files.entry? location = some .directory := by
    apply FileSystem.entry_of_find hfind
  exact ⟨location, FileSystem.find_of_locate hroot (h.lasts.directory location hentry)⟩

/-- Names of some length lead from the content directory to each document. -/
theorem Completes.exists_names (h : setting.Completes files jobs config site noted built report)
    (hproper : files.Proper) (hpaths : site.documents noted = .ok paths) {path : Path}
    (hpath : path ∈ paths) :
    exists names, path = site.contentRoot.joins names ∧ ProperLocation names ∧ names ≠ [] := by
  rcases Site.leads_of_mem_documents (h.proper hproper) hpaths with ⟨base, entry, hfind, hleads⟩
  rcases hleads path hpath with ⟨names, hjoins, hnames⟩
  refine ⟨names, hjoins, hnames.proper, ?_⟩
  rintro rfl
  rcases h.find_content with ⟨location, hcontent⟩
  rw [hfind] at hcontent
  cases hcontent
  rcases hnames.file with ⟨contents, hfile⟩
  have hdirectory := FileSystem.entry_of_find hfind
  rw [List.append_nil, hdirectory] at hfile
  cases hfile

/-!
# Documents that are transformed later
-/

/-- Whether a command finds later what a build found: the settings, the file of the table as the
build wrote it, and what documents are made of. -/
structure Finds (setting : Setting) (config : SiteConfig) (site : Site) (noted : FileSystem)
    (paths : List Path) (later : FileSystem) : Prop where
  settings : SiteConfig.load later setting.root = .ok config
  table : later.readText (setting.root.join config.versionFile) =
    .ok (VersionTable.fileText site.table)
  unchanged : site.Unchanged noted paths later

/-- A document that is transformed later is that of the site that was built. -/
theorem Completes.transformed (h : setting.Completes files jobs config site noted built report)
    (hsettings : SiteConfig.load later setting.root = .ok config)
    (htable : later.readText (setting.root.join config.versionFile) =
      .ok (VersionTable.fileText site.table)) (file : Path) :
    setting.transformed later file = site.single later file := by
  rcases Site.exists_of_gather h.gathers with ⟨_, table, shared, _, hglobs, hsite⟩
  have hshared : config.globs = .ok shared := hglobs
  have hmake : Site.make setting.root config site.table =
      .ok { site with config := { site.config with jobs := config.jobs } } := by
    rw [Site.make, hshared, hsite]
    rfl
  unfold Setting.transformed
  rw [hsettings]
  simp only [bind, Except.bind]
  rw [VersionTable.load_of_readText htable]
  dsimp only
  rw [hmake]
  dsimp only
  rw [Site.document_jobs]
  rfl

section Later

variable {path : Path} {document : Document} {text : String} {error : Error}
  (h : setting.Completes files jobs config site noted built report) (hproper : files.Proper)
  (hpaths : site.documents noted = .ok paths) (hroot : setting.root.isAbsolute = true)
  (hlater : setting.Finds config site noted paths later) (hpath : path ∈ paths) (current : Path)
  (hsize : FileSystem.maxPathSize < path.text.utf8ByteSize ->
    FileSystem.maxPathSize < (current.absolute path).text.utf8ByteSize)

include h hproper hpaths hroot hlater hpath hsize

/-- A document that is transformed later under the plain spelling of its path has the text that it
has alone, or the error but for that path. -/
theorem Completes.transformed_respells :
    Respells path (current.absolute path)
      (do
        let document ← site.document path
        let text ← site.textAlone noted document
        pure ({ document with file := current.absolute path }, text))
      (setting.transformed later (current.absolute path)) := by
  rcases h.exists_names hproper hpaths hpath with ⟨names, hjoins, hnames, hne⟩
  have hcontent : site.contentRoot.isAbsolute = true := by
    rw [h.contentRoot]
    exact Path.isAbsolute_join_of_isAbsolute hroot _
  rw [h.transformed hlater.settings hlater.table]
  exact Site.single_respells (h.proper hproper) hpaths current hcontent hlater.unchanged hpath
    hjoins hnames hne hsize

theorem Completes.transformed_of_text (hdocument : site.document path = .ok document)
    (htext : site.textAlone noted document = .ok text) :
    setting.transformed later (current.absolute path) =
      .ok ({ document with file := current.absolute path }, text) := by
  have hrespells := h.transformed_respells hproper hpaths hroot hlater hpath current hsize
  rw [hdocument] at hrespells
  simp only [bind, Except.bind] at hrespells
  rw [htext] at hrespells
  exact hrespells.eq_ok

theorem Completes.transformed_of_error
    (herror : (site.document path >>= site.textAlone noted) = .error error) :
    exists other, setting.transformed later (current.absolute path) = .error other ∧
      Error.Respelled path (current.absolute path) error other := by
  have hrespells := h.transformed_respells hproper hpaths hroot hlater hpath current hsize
  cases hdocument : site.document path with
  | error first =>
      rw [hdocument] at herror hrespells
      cases herror
      exact hrespells.exists_error
  | ok document =>
      rw [hdocument] at herror hrespells
      simp only [bind, Except.bind] at herror hrespells
      rw [herror] at hrespells
      exact hrespells.exists_error

end Later

section Responses

variable {file : Path} {document : Document} {text : String} {error : Error}

/-- A text is printed or written, and an error is told. -/
theorem transform_eq (setting : Setting) (files : FileSystem) (file : Path) (printed : Bool) :
    setting.transform files file printed =
      match setting.transformed files file with
      | .error error => failed files "" error
      | .ok (document, text) =>
          if printed then
            done files text
          else
            match Site.writeDocument files document text with
            | (files, .error error) => failed files "" error
            | (files, .ok ()) =>
                done files ("Wrote " ++ shown setting.root document.outputPath ++ "\n") := by
  -- the two sides are the same text then; unfolded as terms they are compared by evaluation
  delta transform
  rfl

theorem transform_of_error (h : setting.transformed later file = .error error) (printed : Bool) :
    setting.transform later file printed = failed later "" error := by
  rw [transform_eq, h]

theorem transform_printed (h : setting.transformed later file = .ok (document, text)) :
    setting.transform later file true = done later text := by
  rw [transform_eq, h]
  rfl

theorem transform_failed (h : setting.transformed later file = .ok (document, text))
    {fault : FileFault} (hwrite : (later.writeBelow document.outputPath text).2 = .error fault) :
    exists after, setting.transform later file false = failed after "" (.file fault) := by
  rcases hwriting : later.writeBelow document.outputPath text with ⟨after, outcome⟩
  rw [hwriting] at hwrite
  dsimp only at hwrite
  refine ⟨after, ?_⟩
  rw [transform_eq, h]
  dsimp only
  rw [if_neg Bool.false_ne_true, Site.writeDocument, hwriting, hwrite]
  rfl

theorem transform_written (h : setting.transformed later file = .ok (document, text))
    (hwrite : (later.writeBelow document.outputPath text).2 = .ok ()) :
    exists after, after.readText document.outputPath = .ok text ∧
      setting.transform later file false =
        done after ("Wrote " ++ shown setting.root document.outputPath ++ "\n") := by
  rcases hwriting : later.writeBelow document.outputPath text with ⟨after, outcome⟩
  rw [hwriting] at hwrite
  dsimp only at hwrite
  rw [hwrite] at hwriting
  refine ⟨after, FileSystem.readText_of_writeBelow hwriting, ?_⟩
  rw [transform_eq, h]
  dsimp only
  rw [if_neg Bool.false_ne_true, Site.writeDocument, hwriting]
  rfl

end Responses

end Setting

/-!
# Builds and single documents
-/

section Agreement

variable {request : Request} {plain : Bool} {files noted built later : FileSystem}
  {jobs : Option Nat} {config : SiteConfig} {site : Site} {report : BuildReport}
  {paths : List Path}

theorem Request.isAbsolute_root (request : Request) (plain : Bool) (files : FileSystem) :
    (request.setting plain files).root.isAbsolute = true :=
  Path.isAbsolute_absolute (Path.isAbsolute_locationPath files.current) _

theorem Request.setting_congr (request : Request) (plain : Bool)
    (h : later.current = files.current) :
    request.setting plain later = request.setting plain files := by
  unfold Request.setting
  rw [h]

/-- When what documents are made of is clear of what a build writes, the build and the command for
a single document agree, as long as that command finds the settings, the table and what documents
are made of as the build left them.  For each document that is in the report, the text is that of
its file, or the error is that of the report but for the spelling of the path.  The one error that
is not that of a text, the one of its writing, comes again when the text is to be written. -/
theorem transform_agrees (hproper : files.Proper)
    (hcompletes : (request.setting plain files).Completes files jobs config site noted built
      report)
    (hpaths : site.documents noted = .ok paths) (hclear : site.Clear noted paths) :
    let setting := request.setting plain files
    let response := (request.build jobs).run plain files
    (response.status = (if report.isOk then 0 else 1) ∧
      response.complaints = Text.join "" (report.failures.map setting.failureText) ∧
        response.files = built) ∧
    (SiteConfig.load built setting.root = .ok config ->
      built.readText (setting.root.join config.versionFile) =
        .ok (VersionTable.fileText site.table) ->
          setting.Finds config site noted paths built) ∧
    forall path, path ∈ paths ->
      let file := (FileSystem.locationPath files.current).absolute path
      (FileSystem.maxPathSize < path.text.utf8ByteSize ->
        FileSystem.maxPathSize < file.text.utf8ByteSize) ->
      ((forall error, ⟨path, error⟩ ∉ report.failures) ->
        exists document text, site.document path = .ok document ∧
          document.outputPath ∈ report.written ∧
          built.readText document.outputPath = .ok text ∧
          forall later, setting.Finds config site noted paths later ->
            (request.transform path.text true).run plain later = done later text ∧
            (built.Lasts later -> exists after,
              after.readText document.outputPath = .ok text ∧
              (request.transform path.text false).run plain later =
                done after ("Wrote " ++ shown setting.root document.outputPath ++ "\n"))) ∧
      forall error, ⟨path, error⟩ ∈ report.failures ->
        (forall later, setting.Finds config site noted paths later ->
          exists other, Error.Respelled path file error other ∧
            forall printed,
              (request.transform path.text printed).run plain later = failed later "" other) ∨
        exists document text fault, error = .file fault ∧ site.document path = .ok document ∧
          site.textAlone noted document = .ok text ∧
          forall later, setting.Finds config site noted paths later ->
            (request.transform path.text true).run plain later = done later text ∧
            (built.Lasts later -> exists after,
              (request.transform path.text false).run plain later =
                failed after "" error) := by
  intro setting response
  have hnoted := hcompletes.proper hproper
  have hroot := request.isAbsolute_root plain files
  rcases Site.exists_progress_of_build hnoted hpaths hclear hcompletes.builds with
    ⟨outcomes, state, houtcomes, rfl, rfl, hprogress⟩
  refine ⟨?_, ?_, ?_⟩
  · rcases hcompletes.response with ⟨output, hresponse⟩
    have hrun : response = setting.build files jobs false := request.run_build jobs plain files
    rw [hrun, hresponse]
    exact ⟨rfl, rfl, rfl⟩
  · intro hsettings htable
    exact ⟨hsettings, htable, hprogress.keeps.unchanged hnoted hpaths hclear⟩
  intro path hpath file hsize
  -- What is found later starts at the same directory, so it is in the same setting.
  have hrun : forall later printed, setting.Finds config site noted paths later ->
      (request.transform path.text printed).run plain later =
        setting.transform later file printed := by
    intro later printed hlater
    have hcurrent : later.current = files.current :=
      (hlater.unchanged.content [] (by intro name hname; cases hname)).1.trans
        hcompletes.lasts.current
    rw [request.run_transform, request.setting_congr plain hcurrent, hcurrent]
  constructor
  · intro hfailures
    have hmem : path ∈ outcomes.map Prod.fst := by
      rw [houtcomes]
      exact hpath
    rcases List.mem_map.mp hmem with ⟨⟨_, outcome⟩, houtcome, rfl⟩
    cases outcome with
    | error error =>
        exact absurd (BuildReport.mem_failures_ofOutcomes.mpr houtcome) (hfailures error)
    | ok output =>
        cases (hprogress.ended _ _ houtcome).2 with
        | @written document text hdocument htext hlocate hentry hagain =>
            refine ⟨document, text, hdocument, ?_, ?_, ?_⟩
            · exact BuildReport.mem_written_ofOutcomes.mpr ⟨_, houtcome⟩
            · rw [FileSystem.readText, FileSystem.find_of_locate hlocate hentry]
              rfl
            · intro later hlater
              have hok := hcompletes.transformed_of_text hproper hpaths hroot hlater hpath _ hsize
                hdocument htext
              constructor
              · rw [hrun later true hlater, Setting.transform_printed hok]
              · intro hlasts
                have hwritten := Setting.transform_written hok (hagain later text hlasts)
                rw [hrun later false hlater]
                exact hwritten
  · intro error hfailure
    have houtcome := BuildReport.mem_failures_ofOutcomes.mp hfailure
    have hfailed : (site.document path >>= site.textAlone noted) = .error error ->
        forall later, setting.Finds config site noted paths later ->
          exists other, Error.Respelled path file error other ∧
            forall printed,
              (request.transform path.text printed).run plain later = failed later "" other := by
      intro herror later hlater
      rcases hcompletes.transformed_of_error hproper hpaths hroot hlater hpath _ hsize herror with
        ⟨other, hother, hrespelled⟩
      refine ⟨other, hrespelled, ?_⟩
      intro printed
      rw [hrun later printed hlater, Setting.transform_of_error hother]
    cases (hprogress.ended _ _ houtcome).2 with
    | stray hdocument =>
        left
        apply hfailed
        rw [hdocument]
        rfl
    | failed hdocument htext =>
        left
        apply hfailed
        rw [hdocument]
        exact htext
    | @unwritten document text fault hdocument htext hagain =>
        right
        refine ⟨document, text, fault, rfl, hdocument, htext, ?_⟩
        intro later hlater
        have hok := hcompletes.transformed_of_text hproper hpaths hroot hlater hpath _ hsize
          hdocument htext
        constructor
        · rw [hrun later true hlater, Setting.transform_printed hok]
        · intro hlasts
          have hunwritten := Setting.transform_failed hok (hagain later text hlasts)
          rw [hrun later false hlater]
          exact hunwritten

end Agreement

/-!
# A small site
-/

/-- The files of a site with some documents. -/
def shelf (documents : List (Location × FileEntry)) : FileSystem where
  entries :=
    [(["vdocs.toml"], .file (.text ("content_dir = './content'\nglobal_partials = []\n" ++
        "[products.vault]\nversioned_docs = false\n[products.other]\n"))),
      (["content"], .directory), (["content", "other"], .directory),
      (["content", "vault"], .directory)] ++ documents
  current := []

def shelfConfig : SiteConfig where
  contentDir := "./content"
  globalPartials := []
  products := ⟨[("other", {}), ("vault", { versionedDocs := false })], by decide⟩

def shelfSite : Site where
  config := shelfConfig
  contentRoot := ⟨"/./content"⟩
  outputRoot := ⟨"/public/content"⟩
  table := ⟨[("other", []), ("vault", [.unversioned])], by decide⟩
  shared := []

/-- The files with the table. -/
def notedShelf (documents : List (Location × FileEntry)) : FileSystem :=
  (VersionTable.write shelfSite.table (shelf documents) ⟨"/app/api/versionMetadata.json"⟩).1

/-- The files after a build. -/
def builtShelf (documents : List (Location × FileEntry)) (paths : List Path) : FileSystem :=
  (shelfSite.buildDocuments ⟨notedShelf documents, .empty⟩ paths).1.files

/-- A request in the root directory. -/
def atRoot : Request := ⟨none, false, true, none⟩

theorem atRoot_root {documents : List (Location × FileEntry)} :
    (atRoot.setting true (shelf documents)).root = ⟨"/"⟩ := by
  have hroot : (FileSystem.locationPath []).absolute ⟨(FileSystem.locationPath []).text⟩ =
      ⟨"/"⟩ := by
    decide
  simp only [Request.setting, atRoot, shelf, Option.getD_none]
  exact hroot

/-- The text of the settings. -/
def shelfText : String :=
  "content_dir = './content'\nglobal_partials = []\n" ++
    "[products.vault]\nversioned_docs = false\n[products.other]\n"

theorem load_of_shelfText {files : FileSystem}
    (hfile : SiteConfig.filePath? files ⟨"/"⟩ = some ⟨"/vdocs.toml"⟩)
    (htext : files.readText ⟨"/vdocs.toml"⟩ = .ok shelfText) :
    SiteConfig.load files ⟨"/"⟩ = .ok shelfConfig := by
  have hsettings : SiteConfig.ofText? shelfText = some shelfConfig := by
    decide +kernel
  rw [SiteConfig.load, SiteConfig.load?, hfile]
  simp only [htext, hsettings]
  rfl

/-- The entries that the table adds. -/
def tableEntries : List (Location × FileEntry) :=
  [(["app", "api", "versionMetadata.json"],
      .file (.text (VersionTable.fileText shelfSite.table))),
    (["app", "api"], .directory), (["app"], .directory)]

/-- The entries that a build adds which writes one document. -/
def outputEntries (name text : String) : List (Location × FileEntry) :=
  [(["public", "content", "vault", name], .file (.text text)),
    (["public", "content", "vault"], .directory), (["public", "content"], .directory),
    (["public"], .directory)]

theorem shelf_completes {documents : List (Location × FileEntry)} {paths : List Path}
    {report : BuildReport}
    (hsettings : SiteConfig.load (shelf documents) ⟨"/"⟩ = .ok shelfConfig)
    (hnames : (shelf documents).directoryNames ⟨"/./content"⟩ = .ok ["other", "vault"])
    (htable : VersionTable.gatherInto (shelf documents) ⟨"/./content"⟩ shelfConfig.products
      Catalog.empty ["other", "vault"] = .ok shelfSite.table)
    (hnotes : (VersionTable.write shelfSite.table (shelf documents)
      ⟨"/app/api/versionMetadata.json"⟩).2 = .ok ())
    (hpaths : shelfSite.documents (notedShelf documents) = .ok paths)
    (hreport : BuildReport.ofOutcomes
      (shelfSite.buildDocuments ⟨notedShelf documents, .empty⟩ paths).2 = report) :
    (atRoot.setting true (shelf documents)).Completes (shelf documents) none shelfConfig shelfSite
      (notedShelf documents) (builtShelf documents paths) report := by
  have hcontent : Path.join ⟨"/"⟩ shelfConfig.contentDir = ⟨"/./content"⟩ := by
    decide
  have hfile : Path.join ⟨"/"⟩ shelfConfig.versionFile = ⟨"/app/api/versionMetadata.json"⟩ := by
    decide
  constructor
  · rw [atRoot_root]
    exact hsettings
  · rw [atRoot_root]
    show Site.gather (shelf documents) ⟨"/"⟩ shelfConfig = .ok shelfSite
    rw [Site.gather, VersionTable.gather, hcontent, hnames]
    simp only [Except.mapError, bind, Except.bind]
    rw [htable]
    rfl
  · rw [atRoot_root, hfile, ← hnotes]
    rfl
  · rw [Site.build, hpaths, ← hreport]
    rfl

/-- A document, and one whose product wants a version that the document does not have. -/
def unversioned : List (Location × FileEntry) :=
  [(["content", "other", "c.mdx"], .file (.text "C\n")),
    (["content", "vault", "a.mdx"], .file (.text "A\n"))]

def unversionedPaths : List Path := [⟨"/./content/other/c.mdx"⟩, ⟨"/./content/vault/a.mdx"⟩]

def unversionedReport : BuildReport :=
  ⟨[⟨"/public/content/vault/a.mdx"⟩],
    [⟨⟨"/./content/other/c.mdx"⟩, .invalidDocumentPath "/./content/other/c.mdx"⟩]⟩

theorem unversioned_documents :
    shelfSite.documents (notedShelf unversioned) = .ok unversionedPaths := by
  have hfind : (notedShelf unversioned).find shelfSite.contentRoot =
      .ok (["content"], .directory) := by
    decide
  apply Site.documents_of_filter hfind
  · decide
  · decide

theorem unversioned_built :
    builtShelf unversioned unversionedPaths =
        ⟨outputEntries "a.mdx" "A\n" ++ tableEntries ++ (shelf unversioned).entries, []⟩ ∧
      BuildReport.ofOutcomes
        (shelfSite.buildDocuments ⟨notedShelf unversioned, .empty⟩ unversionedPaths).2 =
          unversionedReport := by
  decide +kernel

theorem unversioned_completes :
    (atRoot.setting true (shelf unversioned)).Completes (shelf unversioned) none shelfConfig
      shelfSite (notedShelf unversioned) (builtShelf unversioned unversionedPaths)
      unversionedReport := by
  have hnames : (shelf unversioned).directoryNames ⟨"/./content"⟩ = .ok ["other", "vault"] := by
    have hfind : (shelf unversioned).find ⟨"/./content"⟩ = .ok (["content"], .directory) := by
      decide
    apply FileSystem.directoryNames_of_filter hfind
    · decide
    · decide
  have hsettings : SiteConfig.load (shelf unversioned) ⟨"/"⟩ = .ok shelfConfig :=
    load_of_shelfText (by decide) (by decide)
  exact shelf_completes hsettings hnames (by decide +kernel) (by decide)
    unversioned_documents unversioned_built.2

theorem unversioned_document {path : Path} {document : Document} (hpath : path ∈ unversionedPaths)
    (hdocument : shelfSite.document path = .ok document) :
    document.outputPath = ⟨"/public/content/vault/a.mdx"⟩ ∧
      document.file = ⟨"/./content/vault/a.mdx"⟩ := by
  have hplaces : forall path, path ∈ unversionedPaths ->
      ((shelfSite.document path).toOption.all fun document =>
        document.outputPath == ⟨"/public/content/vault/a.mdx"⟩ &&
          document.file == ⟨"/./content/vault/a.mdx"⟩) = true := by
    decide
  have hplace := hplaces path hpath
  rw [hdocument] at hplace
  simpa [Except.toOption] using hplace

theorem unversioned_clear : shelfSite.Clear (notedShelf unversioned) unversionedPaths := by
  have hfind : (notedShelf unversioned).find shelfSite.contentRoot =
      .ok (["content"], .directory) := by
    decide
  constructor
  · intro base entry place hbase htouches
    rw [hfind] at hbase
    cases hbase
    rcases htouches.2 with ⟨path, document, hpath, hdocument, hplace⟩
    rw [(unversioned_document hpath hdocument).1] at hplace
    have hoff : forall place,
        place ∈ (notedShelf unversioned).places ⟨"/public/content/vault/a.mdx"⟩ ->
          ¬ ["content"] <+: place := by
      decide
    exact hoff place hplace
  · intro path document wanted place hpath hdocument hincludes
    have htext : (notedShelf unversioned).readText document.file = .ok "A\n" := by
      rw [(unversioned_document hpath hdocument).2]
      decide
    have hbody : (Frontmatter.split "A\n").map Prod.snd = .ok "A\n" := by
      decide
    exact absurd hincludes (Site.not_includes_of_nil htext hbody (by decide +kernel))

/-- The document is transformed as it was built, and the other one fails as it did, under the plain
spelling of its path. -/
theorem transform_agrees_unversioned :
    (shelf unversioned).Proper ∧
    (atRoot.setting true (shelf unversioned)).Completes (shelf unversioned) none shelfConfig
      shelfSite (notedShelf unversioned) (builtShelf unversioned unversionedPaths)
      unversionedReport ∧
    shelfSite.documents (notedShelf unversioned) = .ok unversionedPaths ∧
    shelfSite.Clear (notedShelf unversioned) unversionedPaths ∧
    let built := builtShelf unversioned unversionedPaths
    (exists text, built.readText ⟨"/public/content/vault/a.mdx"⟩ = .ok text ∧
      (atRoot.transform "/./content/vault/a.mdx" true).run true built = done built text) ∧
    exists other,
      Error.Respelled ⟨"/./content/other/c.mdx"⟩ ⟨"/content/other/c.mdx"⟩
        (.invalidDocumentPath "/./content/other/c.mdx") other ∧
      forall printed,
        (atRoot.transform "/./content/other/c.mdx" printed).run true built =
          failed built "" other := by
  have hproper : (shelf unversioned).Proper := by
    constructor
    · decide
    · decide
    · intro above habove
      rw [List.prefix_nil.mp habove]
      rfl
  have hagree := transform_agrees hproper unversioned_completes unversioned_documents
    unversioned_clear
  have hfinds := hagree.2.1
  rw [atRoot_root] at hfinds
  have hsettings : SiteConfig.load (builtShelf unversioned unversionedPaths) ⟨"/"⟩ =
      .ok shelfConfig := by
    rw [unversioned_built.1]
    exact load_of_shelfText (by decide) (by decide)
  have htable : (builtShelf unversioned unversionedPaths).readText
      (Path.join ⟨"/"⟩ shelfConfig.versionFile) = .ok (VersionTable.fileText shelfSite.table) := by
    rw [unversioned_built.1]
    decide
  have hbuilt := hfinds hsettings htable
  refine ⟨hproper, unversioned_completes, unversioned_documents, unversioned_clear, ?_, ?_⟩
  · have hpath : (⟨"/./content/vault/a.mdx"⟩ : Path) ∈ unversionedPaths := by
      simp [unversionedPaths]
    rcases (hagree.2.2 _ hpath (by decide)).1 (by simp [unversionedReport]) with
      ⟨document, text, hdocument, _, hread, hlater⟩
    rw [(unversioned_document hpath hdocument).1] at hread
    exact ⟨text, hread, (hlater _ hbuilt).1⟩
  · have hpath : (⟨"/./content/other/c.mdx"⟩ : Path) ∈ unversionedPaths := by
      simp [unversionedPaths]
    have hplain : (FileSystem.locationPath (shelf unversioned).current).absolute
        ⟨"/./content/other/c.mdx"⟩ = ⟨"/content/other/c.mdx"⟩ := by
      decide
    have hfailed := (hagree.2.2 _ hpath (by decide)).2
      (.invalidDocumentPath "/./content/other/c.mdx") (by simp [unversionedReport])
    rw [hplain] at hfailed
    rcases hfailed with hfailed | ⟨_, _, fault, hfault, _⟩
    · exact hfailed _ hbuilt
    · cases hfault

/-!
# Documents that include what is written
-/

/-- A document that includes what is written for the next one. -/
def echoing : List (Location × FileEntry) :=
  [(["content", "vault", "a.mdx"],
      .file (.text "@include '../../../public/content/vault/b.mdx'\n")),
    (["content", "vault", "b.mdx"], .file (.text "B\n")),
    (["content", "vault", "partials"], .directory)]

def echoingPaths : List Path := [⟨"/./content/vault/a.mdx"⟩, ⟨"/./content/vault/b.mdx"⟩]

theorem echoing_built :
    builtShelf echoing echoingPaths =
        ⟨outputEntries "b.mdx" "B\n" ++ tableEntries ++ (shelf echoing).entries, []⟩ ∧
      (BuildReport.ofOutcomes
        (shelfSite.buildDocuments ⟨notedShelf echoing, .empty⟩ echoingPaths).2).failures =
          [⟨⟨"/./content/vault/a.mdx"⟩, .missingPartial "/./content/vault/a.mdx"
            "/./content/vault/partials/../../../public/content/vault/b.mdx" 1 1⟩] := by
  decide +kernel

theorem echoing_off {place : Location}
    (h : shelfSite.Touches (notedShelf echoing) echoingPaths place) :
    ¬ ["content"] <+: place := by
  have hoff : forall path, path ∈ echoingPaths ->
      (shelfSite.document path).map (fun document : Document =>
        decide (forall place, place ∈ (notedShelf echoing).places document.outputPath ->
          ¬ ["content"] <+: place)) = .ok true := by
    decide
  rcases h.2 with ⟨path, document, hpath, hdocument, hplace⟩
  have hdecided := hoff path hpath
  rw [hdocument] at hdecided
  injection hdecided with hdecided
  exact of_decide_eq_true hdecided place hplace

/-- If a document may include what is written for another one, it can fail in the build and be
transformed later, although the content is as it was, and so are the settings and the table. -/
theorem failure_of_included_output :
    ¬ forall (request : Request) (plain : Bool) (files noted built : FileSystem)
      (jobs : Option Nat) (config : SiteConfig) (site : Site) (report : BuildReport)
      (paths : List Path), files.Proper ->
      (request.setting plain files).Completes files jobs config site noted built report ->
      site.documents noted = .ok paths ->
      (forall base entry, noted.find site.contentRoot = .ok (base, entry) ->
        (forall place, site.Touches noted paths place -> ¬ base <+: place) ∧
        built.entries.filter (fun entry => base.isPrefixOf entry.1) =
          noted.entries.filter fun entry => base.isPrefixOf entry.1) ->
      SiteConfig.load built (request.setting plain files).root = .ok config ->
      built.readText ((request.setting plain files).root.join config.versionFile) =
        .ok (VersionTable.fileText site.table) ->
      forall path error, path ∈ paths -> ⟨path, error⟩ ∈ report.failures ->
        ((request.transform path.text true).run plain built).status ≠ 0 := by
  intro h
  have hproper : (shelf echoing).Proper := by
    constructor
    · decide
    · decide
    · intro above habove
      rw [List.prefix_nil.mp habove]
      rfl
  have hfind : (notedShelf echoing).find shelfSite.contentRoot = .ok (["content"], .directory) := by
    decide
  have hdocuments : shelfSite.documents (notedShelf echoing) = .ok echoingPaths := by
    apply Site.documents_of_filter hfind
    · decide
    · decide
  have hnames : (shelf echoing).directoryNames ⟨"/./content"⟩ = .ok ["other", "vault"] := by
    have hcontent : (shelf echoing).find ⟨"/./content"⟩ = .ok (["content"], .directory) := by
      decide
    apply FileSystem.directoryNames_of_filter hcontent
    · decide
    · decide
  have hsettings : SiteConfig.load (shelf echoing) ⟨"/"⟩ = .ok shelfConfig :=
    load_of_shelfText (by decide) (by decide)
  have hcompletes := shelf_completes hsettings hnames (by decide +kernel) (by decide)
    hdocuments rfl
  have hlater : SiteConfig.load (builtShelf echoing echoingPaths)
      (atRoot.setting true (shelf echoing)).root = .ok shelfConfig := by
    rw [atRoot_root, echoing_built.1]
    exact load_of_shelfText (by decide) (by decide)
  have htable : (builtShelf echoing echoingPaths).readText
      ((atRoot.setting true (shelf echoing)).root.join shelfConfig.versionFile) =
        .ok (VersionTable.fileText shelfSite.table) := by
    rw [atRoot_root, echoing_built.1]
    decide
  have hsingle : (shelfSite.single (builtShelf echoing echoingPaths)
      ⟨"/content/vault/a.mdx"⟩).isOk = true := by
    rw [echoing_built.1]
    decide +kernel
  have hstatus : ((atRoot.transform "/./content/vault/a.mdx" true).run true
      (builtShelf echoing echoingPaths)).status = 0 := by
    have hcurrent : (builtShelf echoing echoingPaths).current = (shelf echoing).current := by
      rw [echoing_built.1]
      rfl
    have hplain : (FileSystem.locationPath (shelf echoing).current).absolute
        ⟨"/./content/vault/a.mdx"⟩ = ⟨"/content/vault/a.mdx"⟩ := by
      decide
    have hsetting : atRoot.setting true (builtShelf echoing echoingPaths) =
        atRoot.setting true (shelf echoing) := by
      rw [Request.setting, Request.setting, hcurrent]
    rw [Request.run_transform, hsetting, hcurrent, hplain]
    cases hsame : shelfSite.single (builtShelf echoing echoingPaths) ⟨"/content/vault/a.mdx"⟩ with
    | error error =>
        rw [hsame] at hsingle
        cases hsingle
    | ok found =>
        rcases found with ⟨document, text⟩
        rw [← hcompletes.transformed hlater htable] at hsame
        rw [Setting.transform_printed hsame]
        rfl
  refine h atRoot true (shelf echoing) (notedShelf echoing) (builtShelf echoing echoingPaths) none
    shelfConfig shelfSite _ echoingPaths hproper hcompletes hdocuments ?_ ?_ ?_
    ⟨"/./content/vault/a.mdx"⟩ _ (by simp [echoingPaths])
    (by rw [echoing_built.2]; exact List.mem_singleton.mpr rfl) hstatus
  · intro base entry hbase
    rw [hfind] at hbase
    cases hbase
    refine ⟨fun place => echoing_off, ?_⟩
    rw [echoing_built.1]
    decide
  · exact hlater
  · exact htable

end Command
end Docloom
