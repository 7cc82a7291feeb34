import Docloom.Proofs.File.Writing
import Docloom.Proofs.Site.Apart

/-!
# Documents that are built one after another

A build takes one document after another.  When documents are made of what is clear of the
writing, each text is that of its document alone; what is written stays, and writing it once more
would end the same.
-/

namespace Docloom

/-!
# Reports
-/

namespace BuildReport

theorem mem_failures_ofOutcomes {outcomes : List (Path × Except Error Path)} {path : Path}
    {error : Error} :
    ⟨path, error⟩ ∈ (ofOutcomes outcomes).failures ↔ (path, .error error) ∈ outcomes := by
  induction outcomes with
  | nil =>
      simp [ofOutcomes]
  | cons first rest ih =>
      rcases first with ⟨other, found | output⟩
      · simp [ofOutcomes, ih]
      · simp [ofOutcomes, ih]

theorem mem_written_ofOutcomes {outcomes : List (Path × Except Error Path)} {output : Path} :
    output ∈ (ofOutcomes outcomes).written ↔ exists path, (path, .ok output) ∈ outcomes := by
  induction outcomes with
  | nil =>
      simp [ofOutcomes]
  | cons first rest ih =>
      rcases first with ⟨other, found | output⟩
      · simp [ofOutcomes, ih]
      · simp [ofOutcomes, ih, exists_or]

end BuildReport

namespace Site

/-!
# What became of a document
-/

/-- What became of a document, where `now` are the files as they are and `files` those at the
start. -/
inductive Ended (site : Site) (files : FileSystem) (path : Path) (now : FileSystem) :
    Except Error Path -> Prop where
  | stray {error : Error} (hdocument : site.document path = .error error) :
      Ended site files path now (.error error)
  | failed {document : Document} {error : Error}
      (hdocument : site.document path = .ok document)
      (htext : site.textAlone files document = .error error) :
      Ended site files path now (.error error)
  | unwritten {document : Document} {text : String} {fault : FileFault}
      (hdocument : site.document path = .ok document)
      (htext : site.textAlone files document = .ok text)
      (hagain : forall later other, now.Lasts later ->
        (later.writeBelow document.outputPath other).2 = .error fault) :
      Ended site files path now (.error (.file fault))
  | written {document : Document} {text : String}
      (hdocument : site.document path = .ok document)
      (htext : site.textAlone files document = .ok text)
      (hlocate : now.locate document.outputPath = .ok (files.target document.outputPath))
      (hentry : now.entry? (files.target document.outputPath) = some (.file (.text text)))
      (hagain : forall later other, now.Lasts later ->
        (later.writeBelow document.outputPath other).2 = .ok ()) :
      Ended site files path now (.ok document.outputPath)

variable {site : Site} {files now later : FileSystem} {paths left : List Path} {path : Path}
  {document : Document} {text : String} {state : BuildState}
  {ended : List (Path × Except Error Path)}

/-- What became of a document goes on to hold while nothing is removed and no other document is
written in its place. -/
theorem Ended.mono {outcome : Except Error Path} (h : Ended site files path now outcome)
    (hlasts : now.Lasts later)
    (hfile : forall document contents, site.document path = .ok document ->
      now.entry? (files.target document.outputPath) = some (.file contents) ->
        later.entry? (files.target document.outputPath) = some (.file contents)) :
    Ended site files path later outcome := by
  cases h with
  | stray hdocument =>
      exact .stray hdocument
  | failed hdocument htext =>
      exact .failed hdocument htext
  | unwritten hdocument htext hagain =>
      refine .unwritten hdocument htext ?_
      intro last other hlast
      exact hagain last other (hlasts.trans hlast)
  | written hdocument htext hlocate hentry hagain =>
      refine .written hdocument htext
        (FileSystem.locate_of_directories hlasts.current hlasts.directory hlocate)
        (hfile _ _ hdocument hentry) ?_
      intro last other hlast
      exact hagain last other (hlasts.trans hlast)

/-!
# What holds between documents
-/

/-- What holds after some documents: nothing was removed, nothing was changed but where documents
are written, the rules in the cache are those that are in the files, and each of the documents has
ended. -/
structure Progress (site : Site) (files : FileSystem) (paths : List Path)
    (ended : List (Path × Except Error Path)) (state : BuildState) : Prop where
  lasts : files.Lasts state.files
  keeps : site.Keeps files paths state.files
  loaded : site.Loaded files paths state.cache
  ended : forall path outcome, (path, outcome) ∈ ended ->
    path ∈ paths ∧ Ended site files path state.files outcome

theorem progress_start : Progress site files paths [] ⟨files, .empty⟩ := by
  refine ⟨.refl files, ⟨rfl, fun _ _ => rfl⟩, ?_, by simp⟩
  intro path document shared _ _ hlookup
  cases hlookup

section Texts

variable (hproper : files.Proper) (hpaths : site.documents files = .ok paths)
  (hclear : site.Clear files paths)

include hproper hpaths hclear

omit hclear in
/-- The text of a document depends on what documents are made of. -/
theorem Unchanged.text_eq (h : site.Unchanged files paths later) (hpath : path ∈ paths)
    (hdocument : site.document path = .ok document) :
    site.textAlone later document = site.textAlone files document := by
  have hdraft : site.draft later document = site.draft files document := by
    apply draft_congr
    intro wanted hwanted
    have halike := h.alike_of_consults hproper hpaths hpath hdocument hwanted
    exact ⟨halike.readText, halike.canonical⟩
  rw [textAlone_eq, textAlone_eq, hdraft, h.load_eq hproper hpaths hpath hdocument]

/-- Between documents, each document has the text that it has alone. -/
theorem Progress.transform (h : Progress site files paths ended state) (hpath : path ∈ paths)
    (hdocument : site.document path = .ok document) :
    exists cache, site.transform state.files state.cache document =
        (cache, site.textAlone files document) ∧
      site.Loaded files paths cache := by
  have hunchanged := h.keeps.unchanged hproper hpaths hclear
  have hdraft : site.draft state.files document = site.draft files document := by
    apply draft_congr
    intro wanted hwanted
    have halike := hunchanged.alike_of_consults hproper hpaths hpath hdocument hwanted
    exact ⟨halike.readText, halike.canonical⟩
  rw [transform_eq, textAlone_eq, hdraft]
  cases site.draft files document with
  | error error =>
      exact ⟨state.cache, rfl, h.loaded⟩
  | ok draft =>
      dsimp only [RedirectCache.get]
      cases hlookup : state.cache.lookup document.redirectsDir with
      | some shared =>
          have hload := h.loaded path document shared hpath hdocument hlookup
          exact ⟨state.cache, by rw [hload]; rfl, h.loaded⟩
      | none =>
          rw [hunchanged.load_eq hproper hpaths hpath hdocument]
          cases hload : RedirectRule.load files document.redirectsDir with
          | error error =>
              exact ⟨state.cache, rfl, h.loaded⟩
          | ok rules =>
              have hinsert := h.loaded.insert hproper hpaths hpath hdocument hload
              dsimp only
              rw [RedirectCache.insert_of_none hlookup] at hinsert ⊢
              exact ⟨_, rfl, hinsert⟩

/-!
# Writing
-/

omit hclear in
/-- Writing a document changes nothing but where documents are written. -/
theorem Progress.keeps_writeBelow (h : Progress site files paths ended state) (hpath : path ∈ paths)
    (hdocument : site.document path = .ok document) :
    site.Keeps files paths (state.files.writeBelow document.outputPath text).1 := by
  rcases exists_named hproper hpaths with ⟨base, entry, _, hnamed⟩
  rcases hnamed path document hpath hdocument with ⟨names, _, _, hnames⟩
  rcases hnames.exists_output_pieces with ⟨parts, last, hpieces, hsteps, hending⟩
  have horigin := FileSystem.origin_congr h.lasts.current document.outputPath
  have htarget := FileSystem.target_congr h.lasts.current document.outputPath
  have hgrows : FileSystem.Grows (ways files document) state.files
      (state.files.makeParents document.outputPath).1 := by
    have hparents : FileSystem.Grows (ways state.files document) state.files
        (state.files.makeParents document.outputPath).1 := hnames.makeParents_grows
    rw [ways, horigin] at hparents
    exact hparents
  have hmade : forall place, ¬ site.Touches files paths place ->
      FileSystem.entry? (state.files.makeParents document.outputPath).1 place =
        files.entry? place := by
    intro place hplace
    rcases hgrows.entry place with hsame | ⟨hway, hnone, _⟩
    · exact hsame.trans (h.keeps.entry place hplace)
    · apply absurd _ hplace
      refine ⟨?_, path, document, hpath, hdocument, ways_subset_places hway⟩
      intro hdirectory
      rw [h.lasts.directory place hdirectory] at hnone
      cases hnone
  refine ⟨(FileSystem.writeBelow_lasts hending).current.trans h.lasts.current, ?_⟩
  intro place hplace
  rcases @FileSystem.writeBelow_cases state.files document.outputPath text hending with
    ⟨fault, hwrite⟩ | ⟨made, hparents, hdirectory, _, hwrite⟩
  · rw [hwrite]
    exact hmade place hplace
  · rw [hparents] at hmade hgrows
    rw [htarget] at hdirectory hwrite
    rw [hwrite, FileSystem.entry_put_of_ne]
    · exact hmade place hplace
    · rintro rfl
      apply hplace
      refine ⟨?_, path, document, hpath, hdocument, hnames.target_mem_places files⟩
      intro hfirst
      exact hdirectory (hgrows.directory (h.lasts.directory _ hfirst))

omit hclear in
/-- Writing a document again ends the same. -/
theorem Progress.writeBelow_again (h : Progress site files paths ended state) (hpath : path ∈ paths)
    (hdocument : site.document path = .ok document) (other : String)
    (hlater : FileSystem.Lasts (state.files.writeBelow document.outputPath text).1 later) :
    (later.writeBelow document.outputPath other).2 =
      (state.files.writeBelow document.outputPath text).2 := by
  rcases exists_named hproper hpaths with ⟨base, entry, _, hnamed⟩
  rcases hnamed path document hpath hdocument with ⟨names, _, _, hnames⟩
  rcases hnames.exists_output_pieces with ⟨parts, last, hpieces, hsteps, hending⟩
  have horigin := FileSystem.origin_congr h.lasts.current document.outputPath
  have hstanding : state.files.Standing (state.files.origin document.outputPath) := by
    intro above habove
    rw [horigin] at habove
    exact h.lasts.directory above (origin_standing hproper document.outputPath above habove)
  apply FileSystem.writeBelow_again hending hpieces _ hlater
  intro made hmade place hplace
  rw [hsteps] at hplace
  exact hnames.makeParents_made hstanding hmade place hplace

end Texts

/-!
# Steps
-/

theorem Progress.add {next : BuildState} {outcome : Except Error Path}
    (h : Progress site files paths ended state) (hlasts : state.files.Lasts next.files)
    (hkeeps : site.Keeps files paths next.files) (hloaded : site.Loaded files paths next.cache)
    (hfile : forall other document contents, other ∈ ended.map Prod.fst -> other ∈ paths ->
      site.document other = .ok document ->
        state.files.entry? (files.target document.outputPath) = some (.file contents) ->
          next.files.entry? (files.target document.outputPath) = some (.file contents))
    (hpath : path ∈ paths) (hended : Ended site files path next.files outcome) :
    Progress site files paths (ended ++ [(path, outcome)]) next := by
  refine ⟨h.lasts.trans hlasts, hkeeps, hloaded, ?_⟩
  intro other found hmem
  rcases List.mem_append.mp hmem with hbefore | hlast
  · rcases h.ended other found hbefore with ⟨hother, hfound⟩
    refine ⟨hother, hfound.mono hlasts ?_⟩
    intro document contents hdocument hentry
    exact hfile other document contents (List.mem_map_of_mem hbefore) hother hdocument hentry
  · cases List.mem_singleton.mp hlast
    exact ⟨hpath, hended⟩

section Steps

variable (hproper : files.Proper) (hpaths : site.documents files = .ok paths)
  (hclear : site.Clear files paths)

include hproper hpaths hclear

/-- What holds between documents holds after one more. -/
theorem Progress.buildDocument (h : Progress site files paths ended state) (hpath : path ∈ paths)
    (hnew : path ∉ ended.map Prod.fst) :
    Progress site files paths (ended ++ [(path, (site.buildDocument state path).2)])
      (site.buildDocument state path).1 := by
  cases hdocument : site.document path with
  | error error =>
      rw [Site.buildDocument, hdocument]
      exact h.add (.refl _) h.keeps h.loaded (fun _ _ _ _ _ _ hentry => hentry) hpath
        (.stray hdocument)
  | ok document =>
      rcases h.transform hproper hpaths hclear hpath hdocument with ⟨cache, htransform, hloaded⟩
      rw [Site.buildDocument, hdocument]
      dsimp only
      rw [htransform]
      cases htext : site.textAlone files document with
      | error error =>
          exact h.add (.refl _) h.keeps hloaded (fun _ _ _ _ _ _ hentry => hentry) hpath
            (.failed hdocument htext)
      | ok text =>
          rcases exists_named hproper hpaths with ⟨base, entry, _, hnamed⟩
          rcases hnamed path document hpath hdocument with ⟨names, _, _, hnames⟩
          rcases hnames.exists_output_pieces with ⟨parts, last, _, _, hending⟩
          have htarget := FileSystem.target_congr h.lasts.current document.outputPath
          have hkeeps := @Progress.keeps_writeBelow _ _ _ _ _ text _ _ hproper hpaths h hpath
            hdocument
          have hfile : forall other document' contents, other ∈ ended.map Prod.fst ->
              other ∈ paths -> site.document other = .ok document' ->
              state.files.entry? (files.target document'.outputPath) = some (.file contents) ->
                FileSystem.entry? (state.files.writeBelow document.outputPath text).1
                  (files.target document'.outputPath) = some (.file contents) := by
            intro other document' contents hended hother hdocument' hentry
            apply FileSystem.entry_writeBelow_of_file hending hentry
            rw [htarget]
            intro hsame
            have heq := target_injective hproper hpaths hother hdocument' hpath hdocument hsame
            rw [heq] at hended
            exact hnew hended
          dsimp only [writeDocument]
          rcases hwrite : state.files.writeBelow document.outputPath text with ⟨after, outcome⟩
          rw [hwrite] at hkeeps hfile
          have hlasts : state.files.Lasts after := by
            have hwriting := @FileSystem.writeBelow_lasts state.files document.outputPath text
              hending
            rw [hwrite] at hwriting
            exact hwriting
          have hsame : forall later other, after.Lasts later ->
              (later.writeBelow document.outputPath other).2 = outcome := by
            intro later other hlater
            have hwriting := @Progress.writeBelow_again _ _ later _ _ _ text _ _ hproper hpaths h
              hpath hdocument other
            rw [hwrite] at hwriting
            exact hwriting hlater
          cases outcome with
          | error fault =>
              exact h.add hlasts hkeeps hloaded hfile hpath (.unwritten hdocument htext hsame)
          | ok done =>
              rcases FileSystem.entry_writeBelow hending hwrite with ⟨hlocate, hentry⟩
              rw [htarget] at hlocate hentry
              exact h.add hlasts hkeeps hloaded hfile hpath
                (.written hdocument htext hlocate hentry hsame)

/-- What holds before some documents holds after them. -/
theorem Progress.buildDocuments (h : Progress site files paths ended state)
    (hleft : left ⊆ paths) (hnodup : (ended.map Prod.fst ++ left).Nodup) :
    Progress site files paths (ended ++ (site.buildDocuments state left).2)
      (site.buildDocuments state left).1 := by
  induction left generalizing ended state with
  | nil =>
      rw [Site.buildDocuments, List.append_nil]
      exact h
  | cons path rest ih =>
      have hnew : path ∉ ended.map Prod.fst := by
        intro hmem
        exact (List.nodup_append.mp hnodup).2.2 path hmem path List.mem_cons_self rfl
      have hstep := h.buildDocument hproper hpaths hclear (hleft List.mem_cons_self) hnew
      have hrest := ih hstep (fun other hother => hleft (List.mem_cons_of_mem _ hother))
        (by simpa using hnodup)
      rw [List.append_assoc] at hrest
      exact hrest

/-- A build ends with each of its documents in the report as it has ended. -/
theorem exists_progress_of_build {built : FileSystem} {report : BuildReport}
    (h : site.build files = (built, .ok report)) :
    exists outcomes state, outcomes.map Prod.fst = paths ∧ built = state.files ∧
      report = BuildReport.ofOutcomes outcomes ∧ Progress site files paths outcomes state := by
  have hnodup := documents_nodup hproper hpaths
  have hprogress := progress_start.buildDocuments hproper hpaths hclear (List.Subset.refl paths)
    hnodup
  rw [List.nil_append] at hprogress
  unfold build at h
  rw [hpaths] at h
  cases h
  exact ⟨_, _, map_fst_buildDocuments site _ paths, rfl, rfl, hprogress⟩

end Steps

end Site
end Docloom
