import Docloom.Proofs.Partials.Moments
import Docloom.Site.Build

/-!
# Reading documents

The text of a document is made in two parts: first the document and its partials are read, then
its urls are rewritten.  The first part looks at one file after another, and files may change in
between; when those that it looks at do not, it is told what comes out.
-/

namespace Docloom
namespace Site

variable {site : Site} {files : FileSystem} {cache : RedirectCache} {document : Document}

/-!
# Drafts
-/

/-- What is known of a document before its urls are rewritten. -/
structure Draft where
  config : ProductConfig
  front : Option Frontmatter
  root : Node

/-- Reads a document and the partials in it. -/
def draft (site : Site) (files : FileSystem) (document : Document) : Except Error Draft := do
  let source ← (files.readText document.file).mapError .file
  let (config, front, root) ← site.readSource files document source
  pure ⟨config, front, root⟩

/-- The text of a document that was read. -/
def finish (site : Site) (document : Document) (draft : Draft) (rules : List RedirectRule) :
    Except Error String := do
  let root ← site.linked document draft.config rules draft.root
  pure (textOf draft.front root)

/-- What a document says: its settings, its frontmatter and its body. -/
def opened (site : Site) (files : FileSystem) (document : Document) :
    Except Error (ProductConfig × Option Frontmatter × String) := do
  let source ← (files.readText document.file).mapError .file
  let config ← site.config.product document.product
  let (front, body) ← Frontmatter.split source
  pure (config, front, body)

/-- A document with its partials, without what is not for it and with its alerts. -/
def drafted (site : Site) (document : Document) (config : ProductConfig)
    (front : Option Frontmatter) (expanded : Node × Nat) : Except Error Draft := do
  let root ← site.excluded document config expanded.1
  pure ⟨config, front, (Alert.wrap expanded.2 root).1⟩

/-!
# Drafts over moments
-/

/-- Reads a document and the partials in it over moments. -/
def draftOver (site : Site) (document : Document) : Reading Draft :=
  .look fun files =>
    (Reading.done (site.opened files document)).andThen fun (config, front, body) =>
      (Partials.expandOver document.file document.partialsDir (Node.ofMarkdown 0 body).2
        (Node.ofMarkdown 0 body).1).andThen fun expanded =>
          .done (site.drafted document config front expanded)

theorem draft_eq :
    site.draft files document =
      site.opened files document >>= fun (config, front, body) =>
        Partials.expand files document.file document.partialsDir (Node.ofMarkdown 0 body).2
          (Node.ofMarkdown 0 body).1 >>= site.drafted document config front := by
  unfold draft opened readSource content drafted
  cases files.readText document.file with
  | error fault =>
      rfl
  | ok source =>
      simp only [Except.mapError, bind, Except.bind]
      cases site.config.product document.product with
      | error error =>
          rfl
      | ok config =>
          dsimp only
          cases Frontmatter.split source with
          | error error =>
              rfl
          | ok split =>
              dsimp only [pure, Except.pure]
              cases Partials.expand files document.file document.partialsDir
                  (Node.ofMarkdown 0 split.2).2 (Node.ofMarkdown 0 split.2).1 with
              | error error =>
                  rfl
              | ok expanded =>
                  dsimp only
                  cases site.excluded document config expanded.1 with
                  | error error =>
                      rfl
                  | ok root =>
                      rfl

/-- The text of a document is that of its draft with the redirects that the cache gives. -/
theorem transform_eq :
    site.transform files cache document =
      match site.draft files document with
      | .error error => (cache, .error error)
      | .ok draft =>
          match cache.get files document.redirectsDir with
          | (cache, .error error) => (cache, .error error)
          | (cache, .ok shared) => (cache, site.finish document draft shared.rules) := by
  unfold transform draft
  cases files.readText document.file with
  | error fault =>
      rfl
  | ok source =>
      simp only [transformText, Except.mapError, bind, Except.bind]
      cases site.readSource files document source with
      | error error =>
          rfl
      | ok read =>
          rcases read with ⟨config, front, root⟩
          dsimp only [pure, Except.pure]
          rcases cache.get files document.redirectsDir with ⟨cache, error | shared⟩
          · rfl
          · rfl

/-- The text of a document that is built alone. -/
def textAlone (site : Site) (files : FileSystem) (document : Document) : Except Error String :=
  (site.transform files .empty document).2

theorem textAlone_eq :
    site.textAlone files document =
      site.draft files document >>= fun draft =>
        RedirectRule.load files document.redirectsDir >>= site.finish document draft := by
  rw [textAlone, transform_eq]
  cases site.draft files document with
  | error error =>
      rfl
  | ok draft =>
      simp only [RedirectCache.get, RedirectCache.lookup_empty]
      cases RedirectRule.load files document.redirectsDir with
      | error error =>
          rfl
      | ok rules =>
          rfl

/-- The files that are reached from a document by following includes. -/
def Includes (files : FileSystem) (document : Document) (path : Path) : Prop :=
  exists source front body,
    files.readText document.file = .ok source ∧ Frontmatter.split source = .ok (front, body) ∧
      Partials.Reaches files document.partialsDir (Partials.start files document.file)
        (Node.includesOfText body) path

/-- Nothing is reached from a document without includes. -/
theorem not_includes_of_nil {source body : String} {path : Path}
    (hread : files.readText document.file = .ok source)
    (hbody : (Frontmatter.split source).map Prod.snd = .ok body)
    (hnone : Node.includesOfText body = []) : ¬ Includes files document path := by
  rintro ⟨found, front, rest, hfound, hsplit, hreach⟩
  rw [hread] at hfound
  cases hfound
  rw [hsplit] at hbody
  cases hbody
  rw [hnone] at hreach
  rcases hreach with ⟨trail, last, lastIncludes, other, hwalk, hother, _⟩
  cases hwalk with
  | stay =>
      cases hother
  | follow hindex =>
      cases hindex

/-- The files that are read for a document before its redirects. -/
def Consults (files : FileSystem) (document : Document) (path : Path) : Prop :=
  path = document.file ∨ Includes files document path

theorem exists_of_opened {config : ProductConfig} {front : Option Frontmatter} {body : String}
    (h : site.opened files document = .ok (config, front, body)) :
    exists source, files.readText document.file = .ok source ∧
      Frontmatter.split source = .ok (front, body) := by
  unfold opened at h
  rcases Results.exists_of_bind h with ⟨source, hsource, h⟩
  rcases Results.exists_of_bind h with ⟨config, hconfig, h⟩
  rcases Results.exists_of_bind h with ⟨split, hsplit, h⟩
  cases h
  refine ⟨source, ?_, hsplit⟩
  cases hread : files.readText document.file with
  | error fault =>
      rw [hread] at hsource
      cases hsource
  | ok text =>
      rw [hread] at hsource
      cases hsource
      rfl

/-- If all files that a document needs are read alike at all moments, the document takes a number
of moments, and what comes out is what comes out of it at once. -/
theorem exists_takes_draftOver (site : Site) {agrees : FileSystem -> Prop}
    (h : forall path, Consults files document path -> Partials.ReadAlike agrees files path) :
    exists count, forall bound, Reading.Takes agrees bound (site.draftOver document) (count + 1)
      (site.draft files document) := by
  have hdocument : Partials.ReadAlike agrees files document.file := h _ (Or.inl rfl)
  have hopened : forall other, agrees other ->
      site.opened other document = site.opened files document := by
    intro other hother
    rw [opened, opened, (hdocument other hother).1]
  have hsettles : Reading.Settles agrees
      (fun _ => (Reading.done (site.opened files document)).andThen fun (config, front, body) =>
        (Partials.expandOver document.file document.partialsDir (Node.ofMarkdown 0 body).2
          (Node.ofMarkdown 0 body).1).andThen fun expanded =>
            .done (site.drafted document config front expanded))
      (site.draft files document) := by
    rw [draft_eq]
    apply Reading.settles_andThen Reading.settles_done
    rintro ⟨config, front, body⟩ hok
    rcases exists_of_opened hok with ⟨source, hsource, hsplit⟩
    apply Reading.settles_andThen
    · apply Partials.exists_takes_expandOver hdocument
      intro path hpath
      rw [Node.includesOf_ofMarkdown] at hpath
      exact h path (Or.inr ⟨source, front, body, hsource, hsplit, hpath⟩)
    · intro expanded _
      exact Reading.settles_done
  rcases hsettles with ⟨count, hcount⟩
  refine ⟨count, ?_⟩
  intro bound
  apply Reading.takes_look
  intro other hother
  rw [hopened other hother]
  exact hcount _

/-!
# Files that do not change
-/

/-- A document takes a number of moments at which the files are the same, and what comes out is
what comes out of it at once. -/
theorem exists_draftOver_replicate (site : Site) (files : FileSystem) (document : Document) :
    exists count, forall number,
      site.draftOver document (List.replicate number files) =
        if number < count + 1 then none
        else some (site.draft files document, List.replicate (number - (count + 1)) files) := by
  have halike : forall path, Consults files document path ->
      Partials.ReadAlike (fun other => other = files) files path := by
    rintro path _ other rfl
    exact ⟨rfl, rfl⟩
  rcases exists_takes_draftOver site halike with ⟨count, hcount⟩
  refine ⟨count, ?_⟩
  intro number
  have hnumber := hcount number (List.replicate number files) (by simp)
    (fun other hother => List.eq_of_mem_replicate hother)
  rw [List.length_replicate, List.drop_replicate] at hnumber
  exact hnumber

/-- What is known of a document depends on the files that are read for it. -/
theorem draft_congr {other : FileSystem}
    (h : forall path, Consults files document path ->
      other.readText path = files.readText path ∧ other.canonical path = files.canonical path) :
    site.draft other document = site.draft files document := by
  have halike : forall path, Consults files document path ->
      Partials.ReadAlike (fun now => now = other) files path := by
    rintro path hpath now rfl
    exact h path hpath
  rcases exists_takes_draftOver site halike with ⟨count, hcount⟩
  rcases exists_draftOver_replicate site other document with ⟨enough, henough⟩
  have hfiles := hcount (count + enough + 2) (List.replicate (count + enough + 2) other) (by simp)
    (fun now hnow => List.eq_of_mem_replicate hnow)
  rw [henough, List.length_replicate, if_neg (by omega), if_neg (by omega)] at hfiles
  exact (Prod.mk.inj (Option.some.inj hfiles)).1

end Site
end Docloom
