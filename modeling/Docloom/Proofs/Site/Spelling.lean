import Docloom.Proofs.File.Absolute
import Docloom.Proofs.Site.Drafts

/-!
# Documents under other spellings

A document can be named by different paths to its file.  The path is not part of the text that is
made of the document; it only stands in the errors that name the document.
-/

namespace Docloom

/-!
# Errors
-/

/-- Whether two errors are the same but for the path of a document, which may be `old` in the
first and `new` in the second. -/
inductive Error.Respelled (old new : Path) : Error -> Error -> Prop where
  | same (error : Error) : Respelled old new error error
  | contentExclusion (cause : Error) :
      Respelled old new (.contentExclusion old.text cause) (.contentExclusion new.text cause)
  | missingPartial (wanted : String) (line column : Nat) :
      Respelled old new (.missingPartial old.text wanted line column)
        (.missingPartial new.text wanted line column)
  | partialCycle (chain : String) :
      Respelled old new (.partialCycle old.text chain) (.partialCycle new.text chain)
  | invalidDocumentPath :
      Respelled old new (.invalidDocumentPath old.text) (.invalidDocumentPath new.text)

/-- Whether two outcomes are the same but for the path of a document in their errors. -/
inductive Respells (old new : Path) {α : Type} : Except Error α -> Except Error α -> Prop where
  | ok (a : α) : Respells old new (.ok a) (.ok a)
  | error {first second : Error} (h : Error.Respelled old new first second) :
      Respells old new (.error first) (.error second)

namespace Respells

variable {old new : Path} {α β : Type} {first second : Except Error α}

theorem refl (old new : Path) (outcome : Except Error α) : Respells old new outcome outcome := by
  cases outcome with
  | error error =>
      exact .error (.same error)
  | ok a =>
      exact .ok a

theorem eq_ok {a : α} (h : Respells old new (.ok a) second) : second = .ok a := by
  cases h
  rfl

theorem exists_error {error : Error} (h : Respells old new (.error error) second) :
    exists other, second = .error other ∧ Error.Respelled old new error other := by
  cases h with
  | error herror =>
      exact ⟨_, rfl, herror⟩

theorem bind (h : Respells old new first second) {f g : α -> Except Error β}
    (hnext : forall a, first = .ok a -> Respells old new (f a) (g a)) :
    Respells old new (first >>= f) (second >>= g) := by
  cases h with
  | ok a =>
      exact hnext a rfl
  | error herror =>
      exact .error herror

end Respells

/-!
# Partials
-/

namespace Partials

variable {files : FileSystem} {directory old new : Path}

theorem expandNodes_respells {first second : Insertion}
    (h : forall marker target next,
      Respells old new (first marker target next) (second marker target next))
    (next : Nat) (nodes : List Node) :
    Respells old new (expandNodes first next nodes) (expandNodes second next nodes) := by
  induction nodes using Node.forest_induction generalizing next with
  | nil =>
      simp only [expandNodes]
      exact .refl old new _
  | cons node rest ihChildren ihRest =>
      have hnode : Respells old new (expandNode first next node) (expandNode second next node) := by
        cases htarget : node.includeTarget? with
        | some target =>
            rw [expandNode_include htarget, expandNode_include htarget]
            exact h node target next
        | none =>
            rw [expandNode_keep htarget, expandNode_keep htarget]
            apply (ihChildren next).bind
            rintro ⟨children, free⟩ _
            exact .refl old new _
      rw [expandNodes_cons, expandNodes_cons]
      apply hnode.bind
      rintro ⟨expanded, middle⟩ _
      apply (ihRest middle).bind
      rintro ⟨after, free⟩ _
      exact .refl old new _

/-- What takes the place of a paragraph does not tell by which path its file was found. -/
theorem insertion_respells (stack : List Path) (marker : Node) (target : String) (next : Nat) :
    Respells old new (insertion files directory ⟨old, stack⟩ marker target next)
      (insertion files directory ⟨new, stack⟩ marker target next) := by
  rw [insertion_eq, insertion_eq]
  cases files.readText (directory.join target) with
  | error fault =>
      cases fault with
      | notFound =>
          exact .error (.missingPartial _ _ _)
      | _ =>
          exact .refl old new _
  | ok text =>
      dsimp only
      split
      · split
        · exact .error (.partialCycle _)
        · exact .refl old new _
      · exact .refl old new _

theorem expand_respells (h : files.canonical new = files.canonical old) (next : Nat)
    (root : Node) :
    Respells old new (expand files old directory next root)
      (expand files new directory next root) := by
  unfold expand
  dsimp only
  rw [h]
  apply (expandNodes_respells (insertion_respells _) next root.children).bind
  rintro ⟨children, free⟩ _
  exact .refl old new _

end Partials

/-!
# Content
-/

namespace Exclusion

theorem removeBlocks_file (audience : Audience) (file : String) (blocks : List DirectiveBlock)
    (root : Node) :
    removeBlocks { audience with file } blocks root = removeBlocks audience blocks root := by
  induction blocks generalizing root with
  | nil =>
      rfl
  | cons block rest ih =>
      rw [removeBlocks, removeBlocks]
      simp only [ih]

/-- The path of a document only stands in the error that names it. -/
theorem apply_file (audience : Audience) (file : String) (config : ProductConfig) (root : Node) :
    exists (kept : Node) (error : Option Error),
      apply audience config root = (kept, error.map (.contentExclusion audience.file)) ∧
      apply { audience with file } config root = (kept, error.map (.contentExclusion file)) := by
  unfold apply
  split
  · cases root.directiveBlocks with
    | error error =>
        exact ⟨root, some error, rfl, rfl⟩
    | ok blocks =>
        refine ⟨_, _, rfl, ?_⟩
        dsimp only
        rw [removeBlocks_file]
  · exact ⟨root, none, rfl, rfl⟩

end Exclusion

namespace Site

variable {site : Site} {files other : FileSystem} {paths : List Path} {path file : Path}
  {document : Document} {names : List String}

/-!
# Texts
-/

theorem excluded_respells (config : ProductConfig) (root : Node) :
    Respells document.file file (site.excluded document config root)
      (site.excluded { document with file } config root) := by
  unfold excluded
  have hshared : site.isShared { document with file } = site.isShared document := rfl
  rw [hshared]
  split
  · exact .refl _ _ _
  · rcases Exclusion.apply_file ⟨document.file.text, document.product, document.version⟩
      file.text config root with ⟨kept, error, hfirst, hsecond⟩
    dsimp only at hfirst hsecond ⊢
    rw [hfirst, hsecond]
    cases error with
    | none =>
        exact .refl _ _ _
    | some error =>
        exact .error (.contentExclusion error)

variable (hread : files.readText file = files.readText document.file)
  (hcanonical : forall text, files.readText document.file = .ok text ->
    files.canonical file = files.canonical document.file)

include hread hcanonical

/-- What is known of a document does not tell by which path its file was found. -/
theorem draft_respells :
    Respells document.file file (site.draft files document)
      (site.draft files { document with file }) := by
  have hopened : site.opened files { document with file } = site.opened files document := by
    unfold opened
    dsimp only
    rw [hread]
  rw [draft_eq, draft_eq, hopened]
  apply (Respells.refl _ _ _).bind
  rintro ⟨config, front, body⟩ hopen
  rcases exists_of_opened hopen with ⟨source, hsource, _⟩
  apply (Partials.expand_respells (hcanonical source hsource) _ _).bind
  intro expanded _
  apply (excluded_respells config expanded.1).bind
  intro root _
  exact .refl _ _ _

/-- The text of a document does not tell by which path its file was found. -/
theorem textAlone_respells :
    Respells document.file file (site.textAlone files document)
      (site.textAlone files { document with file }) := by
  rw [textAlone_eq, textAlone_eq]
  apply (draft_respells hread hcanonical).bind
  intro draft _
  exact .refl _ _ _

omit hread hcanonical

/-!
# Plain spellings
-/

/-- A document is the same under the plain spelling of its path, but for that path. -/
theorem document_respells (current : Path) (hroot : site.contentRoot.isAbsolute = true)
    (h : ProperLocation names) (hne : names ≠ []) :
    Respells (site.contentRoot.joins names) (current.absolute (site.contentRoot.joins names))
      ((site.document (site.contentRoot.joins names)).map fun document =>
        { document with file := current.absolute (site.contentRoot.joins names) })
      (site.document (current.absolute (site.contentRoot.joins names))) := by
  unfold Site.document Document.ofPath
  rw [Path.below_joins h, Path.below_absolute current hroot h hne]
  dsimp only
  cases (Path.mk (Text.join "/" names)).names with
  | nil =>
      exact .error .invalidDocumentPath
  | cons product below =>
      dsimp only
      cases site.config.product product with
      | error error =>
          exact .error (.same error)
      | ok config =>
          simp only [bind, Except.bind]
          cases Document.splitVersion? config below with
          | none =>
              exact .error .invalidDocumentPath
          | some split =>
              rcases split with ⟨version, rest⟩
              exact .ok _

end Site
end Docloom
