import Docloom.Proofs.File.Making
import Docloom.Proofs.Redirect.Sharing
import Docloom.Proofs.Site.Documents
import Docloom.Proofs.Site.Drafts

/-!
# What is read apart from what is written

A build reads documents, the partials that they include, and redirects; it writes documents and
makes the directories that they are in.  When the one is apart from the other, everything is read
as it was at first while documents are built, and no document is written where another one has
to be.
-/

namespace Docloom
namespace Site

variable {site : Site} {files other : FileSystem} {paths : List Path} {path path' : Path}
  {document document' : Document}

/-- The places at which a build may write a file or make a directory. -/
def Touches (site : Site) (files : FileSystem) (paths : List Path) (place : Location) : Prop :=
  files.entry? place ≠ some .directory ∧ exists path document,
    path ∈ paths ∧ site.document path = .ok document ∧ place ∈ files.places document.outputPath

/-- Whether what documents are made of is clear of what a build writes: it writes nothing into the
content directory, and no include is looked up where it writes. -/
structure Clear (site : Site) (files : FileSystem) (paths : List Path) : Prop where
  content : forall base entry place, files.find site.contentRoot = .ok (base, entry) ->
    site.Touches files paths place -> ¬ base <+: place
  includes : forall path document wanted place, path ∈ paths -> site.document path = .ok document ->
    Includes files document wanted -> place ∈ files.consulted wanted ->
      ¬ site.Touches files paths place

/-- Whether what a build reads is apart from what it writes: documents are made of what is clear of
its writing, and the way to the output directory does not lead through what is written for a
document. -/
structure Apart (site : Site) (files : FileSystem) (paths : List Path) : Prop
    extends Clear site files paths where
  output : forall path document, path ∈ paths -> site.document path = .ok document ->
    files.target document.outputPath ∉ files.places site.outputRoot

/-- Whether files are the same wherever a build does not write. -/
structure Keeps (site : Site) (files : FileSystem) (paths : List Path) (other : FileSystem) :
    Prop where
  current : other.current = files.current
  entry : forall place, ¬ site.Touches files paths place ->
    other.entry? place = files.entry? place

/-- Whether what documents are made of is looked up alike: what is below the content directory,
and what documents include. -/
structure Unchanged (site : Site) (files : FileSystem) (paths : List Path)
    (other : FileSystem) : Prop where
  content : forall names, ProperLocation names ->
    FileSystem.Alike other files (site.contentRoot.joins names)
  includes : forall path document wanted, path ∈ paths -> site.document path = .ok document ->
    Includes files document wanted -> FileSystem.Alike other files wanted

/-- Whether the rules in a cache are those that are in the files. -/
def Loaded (site : Site) (files : FileSystem) (paths : List Path) (cache : RedirectCache) : Prop :=
  forall path document shared, path ∈ paths -> site.document path = .ok document ->
    cache.lookup document.redirectsDir = some shared ->
      RedirectRule.load files document.redirectsDir = .ok shared.rules

/-!
# Reading
-/

section Reading

variable (hproper : files.Proper) (hpaths : site.documents files = .ok paths)

include hproper hpaths

/-- What documents are made of does not change while they are built. -/
theorem Keeps.unchanged (hclear : site.Clear files paths) (h : site.Keeps files paths other) :
    site.Unchanged files paths other := by
  rcases leads_of_mem_documents hproper hpaths with ⟨base, entry, hfind, _⟩
  constructor
  · intro names hnames
    refine ⟨h.current, ?_⟩
    intro place hplace
    apply h.entry
    intro htouches
    rcases FileSystem.consulted_joins hfind hnames hplace with hdirectory | hbelow
    · exact htouches.1 hdirectory
    · exact hclear.content base entry place hfind htouches hbelow
  · intro path document wanted hpath hdocument hwanted
    refine ⟨h.current, ?_⟩
    intro place hplace
    apply h.entry
    exact hclear.includes path document wanted place hpath hdocument hwanted hplace

theorem Unchanged.alike_of_consults (h : site.Unchanged files paths other) (hpath : path ∈ paths)
    (hdocument : site.document path = .ok document) {wanted : Path}
    (hwanted : Consults files document wanted) : FileSystem.Alike other files wanted := by
  rcases hwanted with rfl | hinclude
  · rcases exists_named hproper hpaths with ⟨base, entry, hfind, hnamed⟩
    rcases hnamed path document hpath hdocument with ⟨names, _, hleads, hnames⟩
    rw [hnames.file]
    exact h.content names hleads.proper
  · exact h.includes path document wanted hpath hdocument hinclude

/-- Redirects are loaded alike. -/
theorem Unchanged.load_eq (h : site.Unchanged files paths other) (hpath : path ∈ paths)
    (hdocument : site.document path = .ok document) :
    RedirectRule.load other document.redirectsDir =
      RedirectRule.load files document.redirectsDir := by
  rcases exists_named hproper hpaths with ⟨base, entry, hfind, hnamed⟩
  rcases hnamed path document hpath hdocument with ⟨names, _, hleads, hnames⟩
  rcases hnames.redirects with ⟨above, habove, hredirects⟩
  have hfile : document.redirectsDir.join RedirectRule.fileName =
      site.contentRoot.joins (above ++ [RedirectRule.fileName]) := by
    rw [hredirects, Path.joins_concat]
  have hproperFile : ProperLocation (above ++ [RedirectRule.fileName]) := by
    intro name hname
    rcases List.mem_append.mp hname with hbefore | hlast
    · exact hleads.proper name (habove.subset hbefore)
    · rw [List.mem_singleton.mp hlast]
      constructor <;> decide
  have halike := h.content _ hproperFile
  rw [RedirectRule.load, RedirectRule.load, hfile, halike.readText]

theorem readAlike_of_consults (hclear : site.Clear files paths) (hpath : path ∈ paths)
    (hdocument : site.document path = .ok document) {wanted : Path}
    (hwanted : Consults files document wanted) :
    Partials.ReadAlike (site.Keeps files paths) files wanted := by
  intro other hother
  have halike := (hother.unchanged hproper hpaths hclear).alike_of_consults hproper hpaths hpath
    hdocument hwanted
  exact ⟨halike.readText, halike.canonical⟩

end Reading

/-!
# Writing
-/

section Places

variable (hproper : files.Proper) (hpaths : site.documents files = .ok paths)

include hproper hpaths

/-- Directories of redirects are the same only if their paths are. -/
theorem redirectsDir_eq (hpath : path ∈ paths) (hdocument : site.document path = .ok document)
    (hpath' : path' ∈ paths) (hdocument' : site.document path' = .ok document')
    (h : document.redirectsDir.components = document'.redirectsDir.components) :
    document.redirectsDir = document'.redirectsDir := by
  rcases exists_named hproper hpaths with ⟨base, entry, hfind, hnamed⟩
  rcases hnamed path document hpath hdocument with ⟨names, _, hleads, hnames⟩
  rcases hnamed path' document' hpath' hdocument' with ⟨names', _, hleads', hnames'⟩
  rcases hnames.redirects with ⟨above, habove, hredirects⟩
  rcases hnames'.redirects with ⟨above', habove', hredirects'⟩
  have hproperAbove : ProperLocation above := fun name hname =>
    hleads.proper name (habove.subset hname)
  have hproperAbove' : ProperLocation above' := fun name hname =>
    hleads'.proper name (habove'.subset hname)
  rw [hredirects, hredirects', Path.components_joins hproperAbove,
    Path.components_joins hproperAbove'] at h
  have hsame : above = above' := by
    apply List.map_injective_iff.mpr _ (List.append_cancel_left h)
    intro a b hab
    cases hab
    rfl
  rw [hredirects, hredirects', hsame]

theorem Loaded.insert {cache : RedirectCache} {rules : List RedirectRule}
    (h : site.Loaded files paths cache) (hpath : path ∈ paths)
    (hdocument : site.document path = .ok document)
    (hload : RedirectRule.load files document.redirectsDir = .ok rules) :
    site.Loaded files paths (cache.insert document.redirectsDir rules).1 := by
  intro path' document' shared hpath' hdocument' hlookup
  rcases RedirectCache.lookup_of_lookup_insert hlookup with hold | ⟨_, hsame, hput⟩
  · exact h path' document' shared hpath' hdocument' hold
  · rw [redirectsDir_eq hproper hpaths hpath' hdocument' hpath hdocument hsame, hput]
    exact hload

/-- Different documents are written to different places. -/
theorem target_injective (hpath : path ∈ paths) (hdocument : site.document path = .ok document)
    (hpath' : path' ∈ paths) (hdocument' : site.document path' = .ok document')
    (h : files.target document.outputPath = files.target document'.outputPath) :
    path = path' := by
  rcases exists_named hproper hpaths with ⟨base, entry, hfind, hnamed⟩
  rcases hnamed path document hpath hdocument with ⟨names, rfl, hleads, hnames⟩
  rcases hnamed path' document' hpath' hdocument' with ⟨names', rfl, hleads', hnames'⟩
  rw [hnames.output_target, hnames'.output_target] at h
  rw [List.append_cancel_left h]

/-- No document is written on the way to another one. -/
theorem target_not_mem_ways (hapart : site.Apart files paths)
    (hpath : path ∈ paths) (hdocument : site.document path = .ok document)
    (hpath' : path' ∈ paths) (hdocument' : site.document path' = .ok document') :
    files.target document.outputPath ∉ ways files document' := by
  intro hmem
  rcases exists_named hproper hpaths with ⟨base, entry, hfind, hnamed⟩
  rcases hnamed path document hpath hdocument with ⟨names, _, hleads, hnames⟩
  rcases hnamed path' document' hpath' hdocument' with ⟨names', _, hleads', hnames'⟩
  rcases hnames'.mem_ways.mp hmem with houtput | ⟨before, hbefore, _, htarget⟩
  · exact hapart.output path document hpath hdocument houtput
  · rw [hnames.output_target] at htarget
    have hsame : names = before := List.append_cancel_left htarget
    have hprefix : names <+: names' := by
      rw [hsame]
      exact hbefore.trans (List.dropLast_prefix _)
    have hne : names ≠ names' := by
      intro heq
      have hlength := hbefore.length_le
      rw [← hsame, heq, List.length_dropLast] at hlength
      have hpositive := List.length_pos_iff.mpr hnames'.ne
      omega
    rcases hleads.file with ⟨contents, hfile⟩
    rw [hleads'.through names hprefix hne] at hfile
    cases hfile

end Places

theorem origin_standing (hproper : files.Proper) (path : Path) :
    files.Standing (files.origin path) := by
  unfold FileSystem.origin
  split
  · intro above habove
    rw [List.prefix_nil.mp habove]
    rfl
  · exact hproper.current

/-- What is done to make the directory of a document. -/
theorem Named.exists_makeParents {names : List String} (h : Named site names document)
    (files : FileSystem) :
    exists directory, document.outputPath.parent? = some directory ∧
      files.origin directory = files.origin document.outputPath ∧
      directory.steps = document.outputPath.steps.dropLast ∧
      files.makeParents document.outputPath =
        if FileSystem.maxPathSize < directory.text.utf8ByteSize then
          (files, .error .invalidFilename)
        else
          files.makeFrom (files.origin document.outputPath)
            document.outputPath.steps.dropLast := by
  rcases h.exists_parent files with ⟨directory, hparent, horigin, hsteps⟩
  refine ⟨directory, hparent, horigin, hsteps, ?_⟩
  rw [FileSystem.makeParents, hparent, ← horigin, ← hsteps, ← FileSystem.makeDirectories_eq]

theorem Named.makeParents_grows {names : List String} (h : Named site names document) :
    FileSystem.Grows (ways files document) files
      (files.makeParents document.outputPath).1 := by
  rcases h.exists_makeParents files with ⟨directory, _, _, _, hparents⟩
  rw [hparents]
  split
  · exact FileSystem.Grows.refl _ _
  · exact FileSystem.makeFrom_grows

theorem Named.makeParents_made {names : List String} (h : Named site names document)
    (hstanding : files.Standing (files.origin document.outputPath))
    (hmade : files.makeParents document.outputPath = (other, .ok ())) :
    forall place, place ∈ files.origin document.outputPath :: ways files document ->
      other.entry? place = some .directory := by
  rcases h.exists_makeParents files with ⟨directory, _, _, _, hparents⟩
  rw [hmade] at hparents
  split at hparents
  · cases hparents
  · exact FileSystem.makeFrom_standing hstanding hparents.symm

end Site
end Docloom
