import Docloom.Partials
import Docloom.Proofs.File.Pieces

/-!
# Files that are no markdown

Whether a file is markdown can be seen from the location that it is at.  The text of a file that
is no markdown has no influence on where paths lead, and so a path that leads to a markdown file
reads the same text, whatever is in the other files.
-/

namespace Docloom
namespace FileSystem

/-- Whether the last name of a location is that of a markdown file. -/
def isMarkdownAt (location : Location) : Bool :=
  let extension? := location.getLast?.bind fun name => Path.extensionOf name.toList
  extension? == some "md" || extension? == some "mdx"

/-- Whether two file systems are the same but for the texts of files that are no markdown. -/
structure DiffersInLiterals (files other : FileSystem) : Prop where
  current : other.current = files.current
  entry : forall location, other.entry? location = files.entry? location ∨
    isMarkdownAt location = false ∧ exists text changed,
      files.entry? location = some (.file (.text text)) ∧
        other.entry? location = some (.file (.text changed))

/-!
# Names of files
-/

variable {files other : FileSystem}

theorem headComponents_ne_normal (pieces : List (List Char)) (name : String) :
    (Path.headComponents pieces).getLast? ≠ some (.normal name) := by
  cases pieces with
  | nil =>
      simp [Path.headComponents]
  | cons first rest =>
      rw [Path.headComponents]
      split
      · split <;> simp
      · split <;> simp

/-- A path with a name at its end leads to nothing that has another name. -/
theorem getLast?_of_locate {path : Path} {location : Location} {name : String}
    (hname : path.fileName? = some name) (h : files.locate path = .ok location) :
    location.getLast? = some name := by
  have hlast : path.components.getLast? = some (.normal name) := by
    unfold Path.fileName? at hname
    split at hname
    · rename_i found hfound
      rw [← Option.some.inj hname]
      exact hfound
    · cases hname
  rw [Path.components_eq] at hlast
  rw [target_of_locate h, target_eq_steps]
  rcases List.eq_nil_or_concat' path.steps with hsteps | ⟨front, part, hsteps⟩
  · rw [hsteps, List.map_nil, List.append_nil] at hlast
    exact absurd hlast (headComponents_ne_normal _ _)
  · have hidle : Path.isIdle part = false := by
      have hmem : part ∈ path.steps := by simp [hsteps]
      simpa [Path.steps] using (List.mem_filter.mp hmem).2
    rw [hsteps, List.map_append, ← List.append_assoc, List.map_singleton,
      List.getLast?_concat] at hlast
    have hpart := Option.some.inj hlast
    unfold Path.Component.ofPart at hpart
    split at hpart
    · cases hpart
    · rename_i hparent
      cases hpart
      rw [hsteps, endFrom_append, endFrom_cons, turn, if_neg (by simp [hidle]), if_neg hparent]
      exact List.getLast?_concat

theorem isMarkdownAt_of_locate {path : Path} {location : Location}
    (hmarkdown : path.isMarkdown = true) (h : files.locate path = .ok location) :
    isMarkdownAt location = true := by
  cases hname : path.fileName? with
  | none =>
      simp [Path.isMarkdown, Path.extension?, hname] at hmarkdown
  | some name =>
      rw [isMarkdownAt, getLast?_of_locate hname h]
      rw [Path.isMarkdown, Path.extension?, hname] at hmarkdown
      exact hmarkdown

namespace DiffersInLiterals

/-!
# Lookups
-/

theorem walk_eq (h : DiffersInLiterals files other) (location : Location)
    (parts : List (List Char)) : other.walk location parts = files.walk location parts := by
  induction parts generalizing location with
  | nil =>
      rfl
  | cons part parts ih =>
      rw [walk, walk]
      rcases h.entry location with heq | ⟨_, text, changed, hfirst, hsecond⟩
      · rw [heq]
        simp only [ih]
      · rw [hfirst, hsecond]

theorem locate_eq (h : DiffersInLiterals files other) (path : Path) :
    other.locate path = files.locate path := by
  simp only [locate, h.current, h.walk_eq]

/-- A path finds the same, or a file that is no markdown at the same location. -/
theorem find_cases (h : DiffersInLiterals files other) (path : Path) :
    other.find path = files.find path ∨
      path.isMarkdown = false ∧ exists location text changed,
        files.find path = .ok (location, .file (.text text)) ∧
          other.find path = .ok (location, .file (.text changed)) := by
  cases hlocate : files.locate path with
  | error fault =>
      left
      rw [find, find, h.locate_eq, hlocate]
      rfl
  | ok location =>
      rcases h.entry location with heq | ⟨hplain, text, changed, hfirst, hsecond⟩
      · left
        simp only [find, h.locate_eq, hlocate, bind, Except.bind, heq]
      · right
        have hother : other.locate path = .ok location := (h.locate_eq path).trans hlocate
        refine ⟨?_, location, text, changed, find_of_locate hlocate hfirst,
          find_of_locate hother hsecond⟩
        by_contra hmarkdown
        rw [Bool.not_eq_false] at hmarkdown
        rw [isMarkdownAt_of_locate hmarkdown hlocate] at hplain
        cases hplain

theorem canonical_eq (h : DiffersInLiterals files other) (path : Path) :
    other.canonical path = files.canonical path := by
  rw [canonical, canonical]
  rcases h.find_cases path with heq | ⟨_, location, text, changed, hfirst, hsecond⟩
  · rw [heq]
  · rw [hfirst, hsecond]

/-- A path reads the same, or some other text of a file that is no markdown. -/
theorem readText_cases (h : DiffersInLiterals files other) (path : Path) :
    other.readText path = files.readText path ∨
      path.isMarkdown = false ∧ exists text changed,
        files.readText path = .ok text ∧ other.readText path = .ok changed := by
  rw [readText, readText]
  rcases h.find_cases path with heq | ⟨hplain, location, text, changed, hfirst, hsecond⟩
  · left
    rw [heq]
  · right
    rw [hfirst, hsecond]
    exact ⟨hplain, text, changed, rfl, rfl⟩

end DiffersInLiterals
end FileSystem
end Docloom
