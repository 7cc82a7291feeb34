import Docloom.Proofs.File.Discovery
import Docloom.Proofs.Results
import Docloom.Site.Build

/-!
# Places of documents

A document is named by what stands below the content directory.  What is written for it goes to
the same names below the output directory, so documents are written to different places, and
none of them is on the way to another one.
-/

namespace Docloom

/-!
# What a path says about a document
-/

namespace Document

variable {contentRoot outputRoot file : Path} {config : SiteConfig}
  {productConfig : ProductConfig} {document : Document} {version : Option String}
  {below rest : List String}

theorem names_of_splitVersion (h : splitVersion? productConfig below = some (version, rest)) :
    below = version.toList ++ rest := by
  unfold splitVersion? at h
  split at h
  · split at h
    · cases h
      rfl
    · cases h
      rfl
  · split at h
    · cases h
    · cases h
      rfl

theorem redirectsDirOf_eq (contentRoot : Path) (product : String) (version : Option String) :
    redirectsDirOf contentRoot product version =
      contentRoot.joins (product :: version.toList) := by
  cases version with
  | none =>
      rfl
  | some version =>
      rfl

/-- What follows the content directory names the product and the version of a document, and where
its directories and its output are. -/
theorem exists_of_ofPath (h : ofPath contentRoot outputRoot config file = .ok document) :
    exists relative product below productConfig version rest,
      file.below? contentRoot = some relative ∧ relative.names = product :: below ∧
      config.product product = .ok productConfig ∧
      splitVersion? productConfig below = some (version, rest) ∧
      document = { file, relative, product, version,
                   redirectsDir := redirectsDirOf contentRoot product version
                   partialsDir := partialsDirOf (redirectsDirOf contentRoot product version) rest
                   outputPath := outputRoot.join relative.text } := by
  unfold ofPath at h
  split at h
  · cases h
  · rename_i relative hbelow
    split at h
    · cases h
    · rename_i product below hnames
      rcases Results.exists_of_bind h with ⟨productConfig, hproduct, h⟩
      split at h
      · cases h
      · rename_i version rest hsplit
        cases h
        exact ⟨relative, product, below, productConfig, version, rest, hbelow, hnames, hproduct,
          hsplit, rfl⟩

end Document

namespace Site

variable {site : Site} {files : FileSystem} {paths : List Path} {path : Path}
  {document other : Document} {names others : List String} {base : Location}

/-!
# Documents that are found
-/

theorem exists_documents (h : site.documents files = .ok paths) :
    exists base entry, files.find site.contentRoot = .ok (base, entry) ∧
      paths = ((files.filesFrom (files.depth + 1) base site.contentRoot).filter
        site.config.isDocument).mergeSort Path.le := by
  unfold documents FileSystem.filesBelow at h
  rcases Results.exists_of_bind h with ⟨found, hfound, h⟩
  have hfiles := Results.of_mapError hfound
  split at hfiles
  · rename_i base entry hfind
    cases hfiles
    cases h
    exact ⟨base, entry, hfind, rfl⟩
  · cases hfiles

theorem documents_of_filter {entry : FileEntry}
    (hfind : files.find site.contentRoot = .ok (base, entry))
    (hfilter : (files.filesFrom (files.depth + 1) base site.contentRoot).filter
      site.config.isDocument = paths)
    (hsorted : paths.Pairwise fun a b => a.le b = true) : site.documents files = .ok paths := by
  unfold documents FileSystem.filesBelow
  rw [hfind]
  simp only [Except.mapError, bind, Except.bind]
  rw [hfilter, List.mergeSort_of_pairwise hsorted]
  rfl

theorem documents_sorted (h : site.documents files = .ok paths) :
    paths.Pairwise fun a b => a.le b = true := by
  rcases exists_documents h with ⟨base, entry, _, rfl⟩
  exact List.pairwise_mergeSort Path.le_trans Path.le_total _

theorem documents_nodup (hproper : files.Proper) (h : site.documents files = .ok paths) :
    paths.Nodup := by
  rcases exists_documents h with ⟨base, entry, _, rfl⟩
  rw [(List.mergeSort_perm _ _).nodup_iff]
  exact (FileSystem.filesFrom_nodup hproper _ _ _).filter _

/-- Names lead from the content directory to each document. -/
theorem leads_of_mem_documents (hproper : files.Proper) (h : site.documents files = .ok paths) :
    exists base entry, files.find site.contentRoot = .ok (base, entry) ∧
      forall path, path ∈ paths ->
        exists names, path = site.contentRoot.joins names ∧ files.Leads base names := by
  rcases exists_documents h with ⟨base, entry, hfind, rfl⟩
  refine ⟨base, entry, hfind, ?_⟩
  intro path hpath
  rw [List.mem_mergeSort, List.mem_filter] at hpath
  exact FileSystem.leads_of_mem_filesFrom hproper hpath.1

theorem map_fst_buildDocuments (site : Site) (state : BuildState) (left : List Path) :
    (site.buildDocuments state left).2.map Prod.fst = left := by
  induction left generalizing state with
  | nil =>
      rfl
  | cons file rest ih =>
      exact congrArg (file :: ·) (ih _)

/-!
# Where the parts of a document are
-/

/-- What the names below the content directory say about a document. -/
structure Named (site : Site) (names : List String) (document : Document) : Prop where
  proper : ProperLocation names
  ne : names ≠ []
  file : document.file = site.contentRoot.joins names
  output : document.outputPath = site.outputRoot.join (Text.join "/" names)
  redirects : exists above, above <+: names ∧
    document.redirectsDir = site.contentRoot.joins above

theorem below_of_splitVersion {config : ProductConfig} {version : String}
    (h : Document.splitVersion? config names = some (some version, others)) :
    names = version :: others ∧ others ≠ [] := by
  unfold Document.splitVersion? at h
  split at h
  · split at h
    · cases h
      exact ⟨rfl, by simp⟩
    · cases h
  · split at h
    · cases h
    · cases h

/-- The first of the names is the product, and the next ones tell the version. -/
theorem exists_of_document (h : ProperLocation names)
    (hdocument : site.document (site.contentRoot.joins names) = .ok document) :
    exists product below config version rest, names = product :: below ∧
      site.config.product product = .ok config ∧
      Document.splitVersion? config below = some (version, rest) ∧
      document.file = site.contentRoot.joins names ∧
      document.product = product ∧ document.version = version ∧
      document.redirectsDir = Document.redirectsDirOf site.contentRoot product version ∧
      document.outputPath = site.outputRoot.join (Text.join "/" names) := by
  rcases Document.exists_of_ofPath hdocument with
    ⟨relative, product, below, config, version, rest, hbelow, hnames, hproduct, hsplit, rfl⟩
  rw [Path.below_joins h] at hbelow
  cases hbelow
  rw [Path.names_text h] at hnames
  exact ⟨product, below, config, version, rest, hnames, hproduct, hsplit, rfl, rfl, rfl, rfl, rfl⟩

theorem named_of_document (h : ProperLocation names)
    (hdocument : site.document (site.contentRoot.joins names) = .ok document) :
    Named site names document := by
  rcases exists_of_document h hdocument with
    ⟨product, below, config, version, rest, hnames, _, hsplit, hfile, _, _, hredirects, houtput⟩
  refine ⟨h, by simp [hnames], hfile, houtput, product :: version.toList, ?_, ?_⟩
  · rw [hnames, Document.names_of_splitVersion hsplit]
    exact ⟨rest, rfl⟩
  · rw [hredirects, Document.redirectsDirOf_eq]

/-- The names that lead from the content directory to a document. -/
theorem exists_named (hproper : files.Proper) (h : site.documents files = .ok paths) :
    exists base entry, files.find site.contentRoot = .ok (base, entry) ∧
      forall path document, path ∈ paths -> site.document path = .ok document ->
        exists names, path = site.contentRoot.joins names ∧ files.Leads base names ∧
          Named site names document := by
  rcases leads_of_mem_documents hproper h with ⟨base, entry, hfind, hpaths⟩
  refine ⟨base, entry, hfind, ?_⟩
  intro path document hpath hdocument
  rcases hpaths path hpath with ⟨names, rfl, hleads⟩
  exact ⟨names, rfl, hleads, named_of_document hleads.proper hdocument⟩

/-!
# Where documents are written
-/

namespace Named

variable (h : Named site names document)

include h

theorem output_pieces :
    document.outputPath.pieces = site.outputRoot.lead ++ names.map String.toList := by
  rw [h.output, Path.pieces_join_text h.proper h.ne]

theorem output_steps :
    document.outputPath.steps = site.outputRoot.steps ++ names.map String.toList := by
  rw [h.output, Path.steps_join_text h.proper h.ne]

theorem output_isAbsolute :
    document.outputPath.isAbsolute = site.outputRoot.isAbsolute := by
  rw [h.output, Path.isAbsolute_join (Path.text_not_startsWith h.proper)]

theorem output_origin (files : FileSystem) :
    files.origin document.outputPath = files.origin site.outputRoot := by
  rw [FileSystem.origin, FileSystem.origin, h.output_isAbsolute]

/-- A document is written to its names below the output directory. -/
theorem output_target (files : FileSystem) :
    files.target document.outputPath = files.target site.outputRoot ++ names := by
  rw [FileSystem.target_eq_steps, FileSystem.target_eq_steps, h.output_origin, h.output_steps,
    FileSystem.endFrom_append, FileSystem.endFrom_names h.proper]

theorem target_mem_places (files : FileSystem) :
    files.target document.outputPath ∈ files.places document.outputPath := by
  rw [FileSystem.target_eq_steps, FileSystem.places]
  apply FileSystem.endFrom_mem_placesFrom
  rw [h.output_steps]
  simp [h.ne]

/-- The pieces of where a document is written end with a name. -/
theorem exists_output_last :
    exists parts last, ProperName last ∧
      document.outputPath.pieces = parts ++ [last.toList] ∧
      parts.filter (!Path.isIdle ·) = document.outputPath.steps.dropLast := by
  rcases List.eq_nil_or_concat' names with hnil | ⟨before, last, hconcat⟩
  · exact absurd hnil h.ne
  · have hlast : ProperName last := h.proper last (by simp [hconcat])
    have hbefore : ProperLocation before := by
      intro name hname
      exact h.proper name (by simp [hconcat, hname])
    refine ⟨site.outputRoot.lead ++ before.map String.toList, last, hlast, ?_, ?_⟩
    · rw [h.output_pieces, hconcat, List.map_append, List.append_assoc]
      rfl
    · rw [h.output_steps, hconcat, List.filter_append, Path.lead_filter,
        Path.steps_of_proper hbefore, List.map_append, ← List.append_assoc]
      exact List.dropLast_concat.symm

/-- The directory that is made for a document. -/
theorem exists_parent (files : FileSystem) :
    exists directory, document.outputPath.parent? = some directory ∧
      files.origin directory = files.origin document.outputPath ∧
      directory.steps = document.outputPath.steps.dropLast := by
  rcases h.exists_output_last with ⟨parts, last, hlast, hpieces, hsteps⟩
  rcases Path.parent_of_pieces hlast hpieces with ⟨directory, hparent, habsolute, hparts⟩
  refine ⟨directory, hparent, ?_, hparts.trans hsteps⟩
  rw [FileSystem.origin, FileSystem.origin, habsolute]

theorem exists_output_pieces :
    exists parts last, document.outputPath.pieces = parts ++ [last] ∧
      parts.filter (!Path.isIdle ·) = document.outputPath.steps.dropLast ∧
      Text.endsWith "/" document.outputPath.text = false := by
  rcases h.exists_output_last with ⟨parts, last, hlast, hpieces, hsteps⟩
  exact ⟨parts, last.toList, hpieces, hsteps, Path.endsWith_of_pieces hpieces hlast.notIdle⟩

end Named

/-- The directories that are made for a document. -/
def ways (files : FileSystem) (document : Document) : List Location :=
  FileSystem.placesFrom (files.origin document.outputPath) document.outputPath.steps.dropLast

theorem ways_subset_places : ways files document ⊆ files.places document.outputPath :=
  FileSystem.placesFrom_dropLast_subset _ _

theorem Named.mem_ways (h : Named site names document) {place : Location} :
    place ∈ ways files document ↔
      place ∈ files.places site.outputRoot ∨ exists before, before <+: names.dropLast ∧
        before ≠ [] ∧ place = files.target site.outputRoot ++ before := by
  have hsteps : document.outputPath.steps.dropLast =
      site.outputRoot.steps ++ names.dropLast.map String.toList := by
    rw [h.output_steps, List.dropLast_append_of_ne_nil (by simpa using h.ne), List.map_dropLast]
  have hproper : ProperLocation names.dropLast := by
    intro name hname
    exact h.proper name (List.dropLast_subset _ hname)
  rw [ways, hsteps, h.output_origin, FileSystem.placesFrom_append, List.mem_append,
    FileSystem.mem_placesFrom_names hproper, FileSystem.places, FileSystem.target_eq_steps]

end Site
end Docloom
