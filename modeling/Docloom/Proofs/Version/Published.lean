import Docloom.Proofs.Link.Place
import Docloom.Proofs.Site.Documents
import Docloom.Proofs.Version.Ranking

/-!
# Versions that are published

The version that is put into the links of a document is the directory of the document without its
stage.  It is one of the published table when the table takes the directory for a version; but a
document can also be in a directory that the table passes over, such as one of partials.
-/

namespace Docloom

/-!
# Directories
-/

namespace FileSystem

variable {files : FileSystem} {location base : Location} {path : Path} {names below : List String}

theorem mem_namesAt_of_entry {name : String} {entry : FileEntry}
    (h : files.entry? (location ++ [name]) = some entry) : name ∈ files.namesAt location := by
  unfold entry? at h
  rw [if_neg (by simp)] at h
  rcases List.lookup_eq_some_iff.mp h with ⟨before, after, hentries, _⟩
  refine List.mem_filterMap.mpr ⟨(location ++ [name], entry), ?_, ?_⟩
  · rw [hentries]
    simp
  · simp

/-- The directories in a directory, by what is at their locations. -/
theorem exists_of_directoryNames (h : files.directoryNames path = .ok names) :
    exists location, files.find path = .ok (location, .directory) ∧
      forall name, name ∈ names ↔ files.entry? (location ++ [name]) = some .directory := by
  unfold directoryNames at h
  cases hfind : files.find path with
  | error fault =>
      rw [hfind] at h
      cases h
  | ok found =>
      rw [hfind] at h
      rcases found with ⟨location, entry⟩
      cases entry with
      | file contents =>
          cases h
      | directory =>
          cases h
          refine ⟨location, rfl, ?_⟩
          intro name
          rw [List.mem_mergeSort, List.mem_filter, beq_iff_eq, and_iff_right_iff_imp]
          exact mem_namesAt_of_entry

/-- Names lead from where a path leads to where the joined path leads. -/
theorem location_of_joins {entry other : FileEntry} (h : ProperLocation below)
    (hfind : files.find path = .ok (base, entry))
    (hjoined : files.find (path.joins below) = .ok (location, other)) :
    location = base ++ below := by
  rw [target_of_locate (locate_of_find hjoined), target_of_locate (locate_of_find hfind),
    target_eq_steps, target_eq_steps, origin_joins h, Path.steps_joins h, endFrom_append,
    endFrom_names h]

end FileSystem

/-!
# Entries
-/

namespace VersionEntry

/-- The versions of the entries are those of the names. -/
theorem version_mem_iff_of_ofNames {product version : String} {names : List String}
    {entries : List VersionEntry} (h : ofNames product names = .ok entries) :
    (exists entry, entry ∈ entries ∧ entry.version = version) ↔
      exists name stage, name ∈ names ∧ VersionName.parse product name = .ok (version, stage) := by
  rcases exists_of_ofNames h with ⟨read, hread, rfl⟩
  have hversions : (markLatest read).map VersionEntry.version = read.map VersionEntry.version := by
    have hlabels := congrArg (List.map Prod.fst) (map_label_markLatest read)
    rw [List.map_map, List.map_map] at hlabels
    exact hlabels
  rw [← List.mem_map, hversions, List.mem_map]
  constructor
  · rintro ⟨entry, hentry, rfl⟩
    rcases (Lists.mem_iff_of_mapM hread).mp hentry with ⟨name, hname, hofName⟩
    exact ⟨name, entry.stage, (VersionName.sort_perm names).mem_iff.mp hname,
      VersionName.parse_eq_ok_iff.mpr (ofName_eq_ok_iff.mp hofName).1⟩
  · rintro ⟨name, stage, hname, hparse⟩
    refine ⟨⟨version, stage, false⟩, (Lists.mem_iff_of_mapM hread).mpr ⟨name, ?_, ?_⟩, rfl⟩
    · exact (VersionName.sort_perm names).mem_iff.mpr hname
    · exact ofName_eq_ok_iff.mpr ⟨VersionName.parse_eq_ok_iff.mp hparse, rfl⟩

theorem exists_parse_of_ofNames {product name : String} {names : List String}
    {entries : List VersionEntry} (h : ofNames product names = .ok entries)
    (hname : name ∈ names) :
    exists version stage, VersionName.parse product name = .ok (version, stage) := by
  rcases exists_reads_of_ofNames h hname with ⟨version, stage, hreads⟩
  exact ⟨version, stage, VersionName.parse_eq_ok_iff.mpr hreads⟩

end VersionEntry

/-!
# Tables
-/

namespace VersionTable

variable {files : FileSystem} {root : Path} {products : Products} {table result : VersionTable}
  {names : List String} {product : String} {config : ProductConfig} {entries : List VersionEntry}

/-- The entries of a product are those that were there, or those of its directory. -/
theorem get?_of_gatherInto (h : gatherInto files root products table names = .ok result)
    (hentries : result.get? product = some entries) :
    table.get? product = some entries ∨ exists config, products.get? product = some config ∧
      gatherProduct files (root.join product) product config = .ok entries := by
  induction names generalizing table with
  | nil =>
      cases h
      exact Or.inl hentries
  | cons name names ih =>
      rw [gatherInto] at h
      cases hconfig : products.get? name with
      | none =>
          rw [hconfig] at h
          exact ih h
      | some config =>
          rw [hconfig] at h
          rcases Results.exists_of_bind h with ⟨found, hgather, h⟩
          rcases ih h with hthere | hgathered
          · rw [Catalog.get?_insert] at hthere
            split at hthere
            · rename_i hname
              cases hname
              cases hthere
              exact Or.inr ⟨config, hconfig, hgather⟩
            · exact Or.inl hthere
          · exact Or.inr hgathered

theorem gatherProduct_of_gather (h : gather files root products = .ok table)
    (hconfig : products.get? product = some config)
    (hentries : table.get? product = some entries) :
    gatherProduct files (root.join product) product config = .ok entries := by
  unfold gather at h
  rcases Results.exists_of_bind h with ⟨names, _, h⟩
  rcases get?_of_gatherInto h hentries with hempty | ⟨found, hfound, hgather⟩
  · rw [Catalog.get?_empty] at hempty
    cases hempty
  · rw [hconfig] at hfound
    cases hfound
    exact hgather

theorem exists_of_gatherProduct {directory : Path} (hversioned : config.versionedDocs = true)
    (h : gatherProduct files directory product config = .ok entries) :
    exists names, files.directoryNames directory = .ok names ∧
      VersionEntry.ofNames product (versionNames config names) = .ok entries := by
  rw [gatherProduct, if_pos hversioned] at h
  rcases Results.exists_of_bind h with ⟨names, hnames, h⟩
  exact ⟨names, Results.of_mapError hnames, h⟩

end VersionTable

/-!
# Documents
-/

namespace Site

variable {site : Site} {files : FileSystem} {paths : List Path} {file : Path}
  {document : Document} {product : ProductConfig} {versioner : LinkVersioner} {directory : String}
  {names : List String}

/-- The version directory of a document that is found is one of the directories of the product. -/
theorem directory_mem_of_documents (hproper : files.Proper)
    (hdocuments : site.documents files = .ok paths) (hfile : file ∈ paths)
    (hdocument : site.document file = .ok document) (hversion : document.version = some directory)
    (hnames : files.directoryNames (site.contentRoot.join document.product) = .ok names) :
    directory ∈ names := by
  rcases leads_of_mem_documents hproper hdocuments with ⟨base, entry, hbase, hpaths⟩
  rcases hpaths file hfile with ⟨below, rfl, hleads⟩
  rcases exists_of_document hleads.proper hdocument with
    ⟨product, rest, config, version, last, rfl, _, hsplit, _, hproduct, hsame, _⟩
  rw [hversion] at hsame
  cases hsame
  rcases below_of_splitVersion hsplit with ⟨rfl, hne⟩
  rw [hproduct] at hnames
  rcases FileSystem.exists_of_directoryNames hnames with ⟨location, hfind, hmem⟩
  have hsingle : ProperLocation [product] := by
    intro name hname
    exact hleads.proper name (by simp [List.mem_singleton.mp hname])
  have hjoined : files.find (site.contentRoot.joins [product]) = .ok (location, .directory) := hfind
  have hlocation := FileSystem.location_of_joins hsingle hbase hjoined
  have hdirectory := hleads.through [product, directory] (by simp) (by simpa using hne.symm)
  rw [hmem, hlocation, List.append_assoc]
  exact hdirectory

/-- The version that is put into the links of a document is the directory of the document without
its stage, and it is published exactly when the table takes a directory with that version for a
version of the product.  It is published for each document that is found in a directory whose name
holds a version, if the product asks for that, and has no white space around it. -/
theorem published_exact
    (gathered : VersionTable.gather files site.contentRoot site.config.products = .ok site.table)
    (located : site.document file = .ok document)
    (known : site.config.product document.product = .ok product)
    (made : LinkVersioner.make document.product document.version product site.table =
      .ok (some versioner)) :
    exists directory names entries, document.version = some directory ∧
      versioner.version = VersionName.clean directory ∧
      files.directoryNames (site.contentRoot.join document.product) = .ok names ∧
      site.table.get? document.product = some entries ∧
      ((exists entry, entry ∈ entries ∧ entry.version = versioner.version) ↔
        exists name stage, name ∈ VersionTable.versionNames product names ∧
          VersionName.parse document.product name = .ok (versioner.version, stage)) ∧
      forall paths, files.Proper -> site.documents files = .ok paths -> file ∈ paths ->
        (product.semverCoerce = true -> (Version.coerce? directory).isSome = true) ->
        Text.trim directory = directory ->
          exists entry, entry ∈ entries ∧ entry.version = versioner.version := by
  rcases LinkVersioner.exists_of_make made with
    ⟨directory, hversion, hversioned, hcontains, _, hclean, _⟩
  rcases Option.isSome_iff_exists.mp hcontains with ⟨entries, hentries⟩
  have hconfig : site.config.products.get? document.product = some product := by
    unfold SiteConfig.product at known
    split at known
    · rename_i hconfig
      cases known
      exact hconfig
    · cases known
  rcases VersionTable.exists_of_gatherProduct hversioned
    (VersionTable.gatherProduct_of_gather gathered hconfig hentries) with ⟨names, hnames, hread⟩
  have hpublished : (exists entry, entry ∈ entries ∧ entry.version = versioner.version) ↔
      exists name stage, name ∈ VersionTable.versionNames product names ∧
        VersionName.parse document.product name = .ok (versioner.version, stage) :=
    VersionEntry.version_mem_iff_of_ofNames hread
  refine ⟨directory, names, entries, hversion, hclean, hnames, hentries, hpublished, ?_⟩
  intro paths hproper hdocuments hfile hcoerced htrim
  have hmem := directory_mem_of_documents hproper hdocuments hfile located hversion hnames
  have hname : directory ∈ VersionTable.versionNames product names := by
    refine List.mem_filter.mpr ⟨hmem, ?_⟩
    cases hcoerce : product.semverCoerce with
    | false =>
        rfl
    | true =>
        exact hcoerced hcoerce
  rcases VersionEntry.exists_parse_of_ofNames hread hname with ⟨version, stage, hparse⟩
  have hsame : version = versioner.version := by
    rw [hclean, VersionName.clean_of_parse hparse htrim]
  rw [hsame] at hparse
  exact hpublished.mpr ⟨directory, stage, hname, hparse⟩

/-- A site whose product has two versions and notes that all of its versions share. -/
def notedSite : Site where
  config := { products := ⟨[("vault", { basePaths := ["docs"] })], by simp⟩ }
  contentRoot := ⟨"content"⟩
  outputRoot := ⟨"public"⟩
  table :=
    ⟨[("vault", [⟨"v1.21.x", .stable, true⟩, ⟨"v1.20.x", .stable, false⟩])], by simp⟩
  shared := []

def notedFiles : FileSystem where
  entries :=
    [(["content"], .directory), (["content", "vault"], .directory),
      (["content", "vault", "partials"], .directory),
      (["content", "vault", "partials", "note.mdx"], .file (.text "[A](/vault/docs/a)\n")),
      (["content", "vault", "v1.20.x"], .directory),
      (["content", "vault", "v1.20.x", "a.mdx"], .file (.text "A\n")),
      (["content", "vault", "v1.21.x"], .directory)]
  current := []

def notedPaths : List Path :=
  [⟨"content/vault/partials/note.mdx"⟩, ⟨"content/vault/v1.20.x/a.mdx"⟩]

/-- The document of a file that is in a directory of the product itself. -/
def notedDocument (directory name : String) : Document where
  file := ⟨"content/vault/" ++ directory ++ "/" ++ name⟩
  relative := ⟨"vault/" ++ directory ++ "/" ++ name⟩
  product := "vault"
  version := some directory
  partialsDir := ⟨"content/vault/" ++ directory ++ "/partials"⟩
  redirectsDir := ⟨"content/vault/" ++ directory⟩
  outputPath := ⟨"public/vault/" ++ directory ++ "/" ++ name⟩

theorem noted_directoryNames :
    notedFiles.directoryNames ⟨"content/vault"⟩ = .ok ["partials", "v1.20.x", "v1.21.x"] := by
  have hfind : notedFiles.find ⟨"content/vault"⟩ = .ok (["content", "vault"], .directory) := by
    decide
  exact FileSystem.directoryNames_of_filter hfind (by decide) (by decide)

theorem noted_versionNames :
    VersionTable.versionNames { basePaths := ["docs"] } ["partials", "v1.20.x", "v1.21.x"] =
      ["v1.20.x", "v1.21.x"] := by
  decide +kernel

theorem noted_gathered :
    VersionTable.gather notedFiles notedSite.contentRoot notedSite.config.products =
      .ok notedSite.table := by
  have hfind : notedFiles.find ⟨"content"⟩ = .ok (["content"], .directory) := by
    decide
  have hroot : notedFiles.directoryNames notedSite.contentRoot = .ok ["vault"] :=
    FileSystem.directoryNames_of_filter hfind (by decide) (by simp)
  have horder : (VersionName.key "v1.20.x").mayPrecede (VersionName.key "v1.21.x") = false := by
    decide +kernel
  have hsort : VersionName.sort ["v1.20.x", "v1.21.x"] = ["v1.21.x", "v1.20.x"] := by
    simp [VersionName.sort, List.mergeSort, List.MergeSort.Internal.splitInTwo, horder]
  have hentries : VersionEntry.ofNames "vault" ["v1.20.x", "v1.21.x"] =
      .ok [⟨"v1.21.x", .stable, true⟩, ⟨"v1.20.x", .stable, false⟩] := by
    rw [VersionEntry.ofNames, hsort]
    rfl
  have hproduct : VersionTable.gatherProduct notedFiles ⟨"content/vault"⟩ "vault"
      { basePaths := ["docs"] } =
        .ok [⟨"v1.21.x", .stable, true⟩, ⟨"v1.20.x", .stable, false⟩] := by
    rw [VersionTable.gatherProduct, noted_directoryNames, if_pos rfl]
    simp only [Except.mapError, bind, Except.bind, noted_versionNames, hentries]
  have hjoin : notedSite.contentRoot.join "vault" = ⟨"content/vault"⟩ := by
    decide
  have hconfig : notedSite.config.products.get? "vault" = some { basePaths := ["docs"] } := by
    decide
  have htable : VersionTable.gatherInto notedFiles notedSite.contentRoot
      notedSite.config.products Catalog.empty ["vault"] = .ok notedSite.table := by
    rw [VersionTable.gatherInto, hconfig]
    simp only [bind, Except.bind, hjoin, hproduct]
    rfl
  rw [VersionTable.gather, hroot]
  exact htable

theorem noted_proper : notedFiles.Proper := by
  constructor
  · decide
  · decide
  · intro above habove
    rw [List.prefix_nil.mp habove]
    rfl

theorem noted_documents : notedSite.documents notedFiles = .ok notedPaths := by
  have hfind : notedFiles.find notedSite.contentRoot = .ok (["content"], .directory) := by
    decide
  exact documents_of_filter hfind (by decide) (by decide)

/-- The shared notes are linked to a version that is none of the product, and the documents of the
older version to that version. -/
theorem published_exact_partials :
    exists entries, notedSite.table.get? "vault" = some entries ∧
      (notedSite.document ⟨"content/vault/partials/note.mdx"⟩ =
          .ok (notedDocument "partials" "note.mdx") ∧
        LinkVersioner.make "vault" (some "partials") { basePaths := ["docs"] } notedSite.table =
          .ok (some ⟨"partials", ["docs"], "/vault/"⟩) ∧
        ¬ exists entry, entry ∈ entries ∧ entry.version = "partials") ∧
      notedSite.document ⟨"content/vault/v1.20.x/a.mdx"⟩ = .ok (notedDocument "v1.20.x" "a.mdx") ∧
      LinkVersioner.make "vault" (some "v1.20.x") { basePaths := ["docs"] } notedSite.table =
        .ok (some ⟨"v1.20.x", ["docs"], "/vault/"⟩) ∧
      exists entry, entry ∈ entries ∧ entry.version = "v1.20.x" := by
  have hnote : notedSite.document ⟨"content/vault/partials/note.mdx"⟩ =
      .ok (notedDocument "partials" "note.mdx") := by
    decide
  have hnoteMade : LinkVersioner.make "vault" (some "partials") { basePaths := ["docs"] }
      notedSite.table = .ok (some ⟨"partials", ["docs"], "/vault/"⟩) := by
    decide
  have hold : notedSite.document ⟨"content/vault/v1.20.x/a.mdx"⟩ =
      .ok (notedDocument "v1.20.x" "a.mdx") := by
    decide
  have holdMade : LinkVersioner.make "vault" (some "v1.20.x") { basePaths := ["docs"] }
      notedSite.table = .ok (some ⟨"v1.20.x", ["docs"], "/vault/"⟩) := by
    decide
  have hknown : notedSite.config.product "vault" = .ok { basePaths := ["docs"] } := by
    decide
  rcases published_exact noted_gathered hnote hknown hnoteMade with
    ⟨_, names, entries, _, _, hnames, hentries, hpublished, _⟩
  rcases published_exact noted_gathered hold hknown holdMade with
    ⟨directory, _, others, hdirectory, _, _, hothers, _, hfound⟩
  obtain rfl : names = ["partials", "v1.20.x", "v1.21.x"] :=
    Except.ok.inj (hnames.symm.trans noted_directoryNames)
  obtain rfl : entries = others := Option.some.inj (hentries.symm.trans hothers)
  obtain rfl : "v1.20.x" = directory := Option.some.inj hdirectory
  refine ⟨entries, hentries, ⟨hnote, hnoteMade, ?_⟩, hold, holdMade, ?_⟩
  · rw [hpublished]
    rintro ⟨name, stage, hname, hparse⟩
    rw [noted_versionNames] at hname
    have hother : forall name, name ∈ ["v1.20.x", "v1.21.x"] ->
        (VersionName.parse "vault" name).map Prod.fst ≠ .ok "partials" := by
      decide
    exact hother name hname (congrArg (Except.map Prod.fst) hparse)
  · exact hfound notedPaths noted_proper noted_documents (by decide)
      (fun _ => by decide +kernel) (by decide)

end Site

end Docloom
