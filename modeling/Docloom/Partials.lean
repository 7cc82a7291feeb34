import Docloom.File.System
import Docloom.Node.Reading

/-!
# Partials

A paragraph `@include 'path'` stands for the contents of a file. Markdown files are
read and may include other files, but none that is being included already. Any other
file becomes one literal block.
-/

namespace Docloom

/-!
# Paragraphs that include
-/

def isQuote (c : Char) : Bool := c == '\'' || c == '"'

/-- The path in `@include 'path'`. -/
def includedPath? (text : String) : Option String := do
  match (← Text.afterStart? "@include" text).toList with
  | space :: opening :: rest =>
      let closing ← rest.getLast?
      let path := rest.dropLast
      if Text.isBlank space && isQuote opening && isQuote closing && !path.isEmpty &&
          !path.contains '\n' then
        pure (String.ofList path)
      else
        none
  | _ => none

/-- The path that a paragraph includes. -/
def Node.includeTarget? (node : Node) : Option String :=
  match node.kind, node.children with
  | .paragraph, first :: _ =>
      match first.kind with
      | .text _ => first.value.bind includedPath?
      | _ => none
  | _, _ => none

def Path.isMarkdown (path : Path) : Bool :=
  path.extension? == some "md" || path.extension? == some "mdx"

namespace Partials

/-- Nodes that take the place of a node, and the first id that is still free. -/
abbrev Expansion := Except Error (List Node × Nat)

/-- What takes the place of a paragraph that includes a path. The number is the first
free id. -/
abbrev Insertion := Node → String → Nat → Expansion

mutual
def expandNode (insertion : Insertion) (next : Nat) (node : Node) : Expansion :=
  match node with
  | ⟨id, kind, value, children, position⟩ =>
      match Node.includeTarget? ⟨id, kind, value, children, position⟩ with
      | some target => insertion ⟨id, kind, value, children, position⟩ target next
      | none => do
          let (children, next) ← expandNodes insertion next children
          pure ([⟨id, kind, value, children, position⟩], next)

def expandNodes (insertion : Insertion) (next : Nat) : List Node → Expansion
  | [] => .ok ([], next)
  | node :: nodes => do
      let (first, next) ← expandNode insertion next node
      let (rest, next) ← expandNodes insertion next nodes
      pure (first ++ rest, next)
end

/-- A file that is being expanded: its path and the files that lead to it, the
outermost first and the file itself last. -/
structure Place where
  file : Path
  stack : List Path

def missing (place : Place) (marker : Node) (path : Path) : Error :=
  .missingPartial place.file.text path.text
    ((marker.position.map Position.startLine).getD 0)
    ((marker.position.map Position.startColumn).getD 0)

def chainText (stack : List Path) : String := Text.join " -> " (stack.map Path.text)

/-- The literal block of a file that is not markdown. -/
def literal (id : Nat) (path : Path) (text : String) : Node :=
  .fresh id (.code path.extension? none true) (Text.trim text)

/-!
# Files that are left

A file that is being expanded cannot be expanded again inside itself, so the files that
are left get fewer from one file to the next.
-/

/-- The number of entries that are on no path of the stack. -/
def unopened (files : FileSystem) (stack : List Path) : Nat :=
  (files.entries.filter fun entry =>
    !stack.any (FileSystem.locationPath entry.1).same).length

/-- A file that can be read and is not on the stack was one of those that are left. -/
theorem unopened_lt {files : FileSystem} {path : Path} {text : String} {stack : List Path}
    (hread : files.readText path = .ok text)
    (hnew : ¬ stack.any (files.canonical path).same = true) :
    unopened files (stack ++ [files.canonical path]) < unopened files stack := by
  rcases FileSystem.find_of_readText hread with ⟨location, hfind⟩
  have hcanonical : files.canonical path = FileSystem.locationPath location := by
    simp [FileSystem.canonical, hfind]
  have hmem := FileSystem.mem_entries_of_file (FileSystem.entry_of_find hfind)
  rw [hcanonical] at hnew ⊢
  let left := files.entries.filter fun entry =>
    !stack.any (FileSystem.locationPath entry.1).same
  let isOther (entry : Location × FileEntry) : Bool :=
    !(FileSystem.locationPath entry.1).same (FileSystem.locationPath location)
  have hleft : unopened files (stack ++ [FileSystem.locationPath location]) =
      (left.filter isOther).length := by
    simp only [unopened, left, isOther, List.filter_filter]
    congr 2
    funext entry
    simp [Bool.and_comm]
  rw [hleft]
  apply List.length_filter_lt_length_iff_exists.mpr
  refine ⟨_, List.mem_filter.mpr ⟨hmem, ?_⟩, ?_⟩
  · simpa using hnew
  · simp [isOther, Path.same_self]

/-- What takes the place of a paragraph in a file. -/
def insertion (files : FileSystem) (directory : Path) (place : Place) : Insertion :=
  fun marker target next =>
    let path := directory.join target
    match hread : files.readText path with
    | .error .notFound => .error (missing place marker path)
    | .error fault => .error (.file fault)
    | .ok text =>
        if path.isMarkdown then
          let canonical := files.canonical path
          if _hnew : place.stack.any canonical.same = true then
            .error (.partialCycle place.file.text (chainText (place.stack ++ [canonical])))
          else
            let (root, next) := Node.ofMarkdown next text
            let inner : Place := ⟨path, place.stack ++ [canonical]⟩
            expandNodes (insertion files directory inner) next root.children
        else
          .ok ([literal next path text], next + 1)
termination_by unopened files place.stack
decreasing_by exact unopened_lt hread _hnew

/-- Expands the tree of a file. Partials are looked for in `directory`. -/
def expand (files : FileSystem) (file directory : Path) (next : Nat) (root : Node) :
    Except Error (Node × Nat) := do
  let place : Place := ⟨file, [files.canonical file]⟩
  let (children, next) ← expandNodes (insertion files directory place) next root.children
  pure ({ root with children }, next)

end Partials
end Docloom
