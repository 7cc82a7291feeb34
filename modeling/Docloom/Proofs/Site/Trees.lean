import Docloom.Proofs.File.Lexical
import Docloom.Proofs.Site.Documents

/-!
# Documents and their trees

A document is accepted when its path begins with the content directory, whatever follows.  Its
directories lie below the content directory all the same, for they are made of names only; the
document and what is written for it lie in their trees, both at one place, as long as no `..` leads
out of what follows.
-/

namespace Docloom

namespace Document

open Docloom.Path

variable {contentRoot outputRoot file relative : Path} {config : SiteConfig}
  {productConfig : ProductConfig} {document : Document} {error : Error} {product : String}
  {version : Option String} {names below rest : List String}

/-!
# Directories of a document
-/

theorem exists_partialsDirOf (path : Path) (names : List String) :
    exists above, above <+: names ∧
      partialsDirOf path names = path.joins (above ++ [partialsName]) := by
  unfold partialsDirOf
  split
  · rename_i first second more
    exact ⟨[first], ⟨second :: more, rfl⟩, rfl⟩
  · exact ⟨[], List.nil_prefix, rfl⟩

/-!
# Accepted documents
-/

/-- A path is refused for what it is, or for the product that it names. -/
theorem error_of_ofPath (h : ofPath contentRoot outputRoot config file = .error error) :
    error = .invalidDocumentPath file.text ∨ exists name, error = .unknownProduct name := by
  unfold ofPath at h
  split at h
  · cases h
    exact Or.inl rfl
  · split at h
    · cases h
      exact Or.inl rfl
    · rename_i product below hnames
      unfold SiteConfig.product at h
      cases hproduct : config.products.get? product with
      | none =>
          rw [hproduct] at h
          cases h
          exact Or.inr ⟨product, rfl⟩
      | some productConfig =>
          rw [hproduct] at h
          simp only [bind, Except.bind] at h
          split at h
          · cases h
            exact Or.inl rfl
          · cases h

/-!
# Places of a document
-/

/-- Where the directories of a document lie, and on what it depends that the document and what is
written for it lie at one place of their trees. -/
structure InTrees (contentRoot outputRoot file : Path) (document : Document) : Prop where
  redirects : LiesAt contentRoot (document.product :: document.version.toList)
    document.redirectsDir
  partials : exists above,
    document.product :: (document.version.toList ++ above) <+: document.relative.names ∧
      LiesAt contentRoot
        (document.product :: (document.version.toList ++ (above ++ [partialsName])))
        document.partialsDir
  down : forall names, document.relative.GoesDown names ->
    LiesAt contentRoot names file ∧ LiesAt outputRoot names document.outputPath
  everywhere : (exists names, document.relative.GoesDown names) ↔
    forall root : Path, exists names, LiesAt root names (root.join document.relative.text)
  plain : document.relative.isAbsolute = false -> .parent ∉ document.relative.components ->
    document.relative.GoesDown document.relative.names

theorem goesDown_iff_everywhere :
    (exists names, relative.GoesDown names) ↔
      forall root : Path, exists names, LiesAt root names (root.join relative.text) := by
  constructor
  · intro h root
    rcases h with ⟨names, hdown⟩
    exact ⟨names, hdown.liesAt_join root⟩
  · intro h
    -- below the empty path a path is itself
    rcases h ⟨""⟩ with ⟨names, hlies⟩
    have hself : (Path.mk "").join relative.text = relative := by
      unfold join
      split
      · rfl
      · simp
    rw [hself] at hlies
    exact ⟨names, hlies⟩

theorem inTrees_of_ofPath (h : ofPath contentRoot outputRoot config file = .ok document) :
    InTrees contentRoot outputRoot file document := by
  rcases exists_of_ofPath h with
    ⟨relative, product, below, productConfig, version, rest, hbelow, hnames, _, hsplit, rfl⟩
  rw [names_of_splitVersion hsplit] at hnames
  have hproper := properLocation_names relative
  rw [hnames] at hproper
  have hdirectory : ProperLocation (product :: version.toList) := by
    intro name hname
    apply hproper name
    rw [← List.cons_append]
    exact List.mem_append_left _ hname
  constructor
  · rw [LiesAt, redirectsDirOf_eq, resolved_joins hdirectory]
  · rcases exists_partialsDirOf (redirectsDirOf contentRoot product version) rest with
      ⟨above, ⟨below, hrest⟩, heq⟩
    refine ⟨above, ⟨below, ?_⟩, ?_⟩
    · rw [hnames, ← hrest, List.cons_append, List.append_assoc]
    · have hpartials : ProperLocation (above ++ [partialsName]) := by
        intro name hname
        rcases List.mem_append.mp hname with habove | hlast
        · apply hproper name
          rw [← hrest]
          simp [habove]
        · rw [List.mem_singleton.mp hlast]
          decide
      rw [LiesAt, heq, resolved_joins hpartials, redirectsDirOf_eq, resolved_joins hdirectory,
        List.append_assoc, ← List.map_append, List.cons_append]
  · exact fun names hdown => ⟨liesAt_of_below hbelow hdown, hdown.liesAt_join outputRoot⟩
  · exact goesDown_iff_everywhere
  · exact goesDown_names

/-- A path is refused only as invalid or for an unknown product.  The directories of an accepted
document lie in the content tree; the document and what is written for it lie at one place of their
trees if what follows the content directory goes down, which it does when it has no `..`, and only
then whatever the trees are.  Documents that go down are written to different places if they are
different, and a path outside the content tree is refused, unless it begins with the content
directory and does not go down from there. -/
theorem ofPath_exact (contentRoot outputRoot : Path) (config : SiteConfig) :
    (forall file error, ofPath contentRoot outputRoot config file = .error error ->
      error = .invalidDocumentPath file.text ∨ exists name, error = .unknownProduct name) ∧
    (forall file document, ofPath contentRoot outputRoot config file = .ok document ->
      InTrees contentRoot outputRoot file document) ∧
    (forall file other document written,
      ofPath contentRoot outputRoot config file = .ok document ->
      ofPath contentRoot outputRoot config other = .ok written ->
      (exists names, document.relative.GoesDown names) ->
      (exists names, written.relative.GoesDown names) ->
        (document.outputPath.resolved = written.outputPath.resolved ↔
          file.resolved = other.resolved)) ∧
    (forall file, (forall names, ¬ LiesAt contentRoot names file) ->
      (exists error, ofPath contentRoot outputRoot config file = .error error) ∨
        exists document, ofPath contentRoot outputRoot config file = .ok document ∧
          file.components = contentRoot.components ++ document.relative.components ∧
          forall names, ¬ document.relative.GoesDown names) := by
  refine ⟨fun _ _ => error_of_ofPath, fun _ _ => inTrees_of_ofPath, ?_, ?_⟩
  · intro file other document written hdocument hwritten hdown hdownWritten
    rcases hdown with ⟨names, hdown⟩
    rcases hdownWritten with ⟨others, hdownWritten⟩
    rcases (inTrees_of_ofPath hdocument).down names hdown with ⟨hfile, houtput⟩
    rcases (inTrees_of_ofPath hwritten).down others hdownWritten with ⟨hother, houtputWritten⟩
    rw [LiesAt] at hfile houtput hother houtputWritten
    rw [hfile, houtput, hother, houtputWritten, List.append_cancel_left_eq,
      List.append_cancel_left_eq]
  · intro file houtside
    cases hresult : ofPath contentRoot outputRoot config file with
    | error error =>
        exact Or.inl ⟨error, rfl⟩
    | ok document =>
        refine Or.inr ⟨document, rfl, ?_, ?_⟩
        · rcases exists_of_ofPath hresult with ⟨relative, _, _, _, _, _, hbelow, _, _, _, rfl⟩
          exact components_of_below hbelow
        · intro names hdown
          exact houtside names ((inTrees_of_ofPath hresult).down names hdown).1

/-- Settings with one product, which has no versions. -/
def vaultOnly : SiteConfig :=
  { products := Catalog.ofList [("vault", { versionedDocs := false })] }

/-- A file beside the content directory is accepted when its path leads through that directory and
out of it again.  It is itself the place where its text is written then. -/
theorem ofPath_exact_outside :
    (forall names, ¬ LiesAt ⟨"/site/content"⟩ names ⟨"/site/content/../vault/docs/a.mdx"⟩) ∧
    exists document, ofPath ⟨"/site/content"⟩ ⟨"/site/out"⟩ vaultOnly
        ⟨"/site/content/../vault/docs/a.mdx"⟩ = .ok document ∧
      document.outputPath.resolved =
        (Path.mk "/site/content/../vault/docs/a.mdx").resolved ∧
      (forall names, ¬ document.relative.GoesDown names) ∧
      LiesAt ⟨"/site/content"⟩ ["vault"] document.redirectsDir := by
  have houtside : forall names,
      ¬ LiesAt ⟨"/site/content"⟩ names ⟨"/site/content/../vault/docs/a.mdx"⟩ := by
    have hfile : (Path.mk "/site/content/../vault/docs/a.mdx").resolved =
        [.root, .normal "site", .normal "vault", .normal "docs", .normal "a.mdx"] := by
      decide +kernel
    have hcontent : (Path.mk "/site/content").resolved =
        [.root, .normal "site", .normal "content"] := by
      decide +kernel
    intro names h
    rw [LiesAt, hfile, hcontent] at h
    simp at h
  have hresult : ((ofPath ⟨"/site/content"⟩ ⟨"/site/out"⟩ vaultOnly
      ⟨"/site/content/../vault/docs/a.mdx"⟩).toOption.any fun document =>
        decide (document.product = "vault" ∧ document.version = none ∧
          document.outputPath.resolved =
            (Path.mk "/site/content/../vault/docs/a.mdx").resolved)) = true := by
    decide +kernel
  rcases ofPath_exact ⟨"/site/content"⟩ ⟨"/site/out"⟩ vaultOnly with ⟨_, htrees, _, hrefused⟩
  rcases hrefused _ houtside with ⟨error, herror⟩ | ⟨document, hdocument, _, hleaves⟩
  · rw [herror] at hresult
    cases hresult
  · rw [hdocument] at hresult
    simp only [Except.toOption, Option.any_some, decide_eq_true_eq] at hresult
    rcases hresult with ⟨hproduct, hversion, houtput⟩
    have hredirects := (htrees _ _ hdocument).redirects
    rw [hproduct, hversion] at hredirects
    exact ⟨houtside, document, hdocument, houtput, hleaves, hredirects⟩

end Document
end Docloom
