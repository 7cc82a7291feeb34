import Docloom.Error
import Docloom.File.Path

/-!
# File systems

A file system holds files and directories at locations. A location is the list of
names from the root. Operations that change a file system return the new one.
-/

namespace Docloom

abbrev Location := List String

inductive Contents where
  | text (text : String)
  /-- Bytes that are no text. -/
  | binary
  deriving DecidableEq, Repr

inductive FileEntry where
  | directory
  | file (contents : Contents)
  deriving DecidableEq, Repr

structure FileSystem where
  entries : List (Location × FileEntry)
  /-- The directory of paths that do not start at the root. -/
  current : Location
  deriving Repr

namespace FileSystem

/-!
# Locations
-/

/-- What is at a location. The root is always a directory. -/
def entry? (files : FileSystem) (location : Location) : Option FileEntry :=
  if location.isEmpty then some .directory else files.entries.lookup location

/-- Puts an entry at a location in place of another one. -/
def put (files : FileSystem) (location : Location) (entry : FileEntry) : FileSystem :=
  { files with
    entries := (location, entry) :: files.entries.filter fun other => other.1 != location }

/-- The names of the entries that are in the directory at a location. -/
def namesAt (files : FileSystem) (location : Location) : List String :=
  files.entries.filterMap fun entry =>
    if entry.1.dropLast == location then entry.1.getLast? else none

/-!
# Paths
-/

def maxNameSize : Nat := 255

def maxPathSize : Nat := 4095

/-- Walks along the parts of a path. All but the last must lead to directories; an
empty part stands for the directory itself. -/
def walk (files : FileSystem) (location : Location) :
    List (List Char) → Except FileFault Location
  | [] => .ok location
  | part :: parts =>
      match files.entry? location with
      | none => .error .notFound
      | some (.file _) => .error .notADirectory
      | some .directory =>
          if Path.isIdle part then
            walk files location parts
          else if part == ['.', '.'] then
            walk files location.dropLast parts
          else
            let name := String.ofList part
            if maxNameSize < name.utf8ByteSize then
              .error .invalidFilename
            else
              walk files (location ++ [name]) parts

/-- The location that a path leads to. Nothing needs to be there. -/
def locate (files : FileSystem) (path : Path) : Except FileFault Location :=
  if path.text.isEmpty then
    .error .notFound
  else if maxPathSize < path.text.utf8ByteSize then
    .error .invalidFilename
  else
    let start := if path.isAbsolute then [] else files.current
    files.walk start (Text.splitChars (· == '/') path.text.toList)

/-- The location of something that is there. -/
def find (files : FileSystem) (path : Path) : Except FileFault (Location × FileEntry) := do
  let location ← files.locate path
  match files.entry? location with
  | some entry => pure (location, entry)
  | none => throw .notFound

def isFile (files : FileSystem) (path : Path) : Bool :=
  match files.find path with
  | .ok (_, .file _) => true
  | _ => false

def isDirectory (files : FileSystem) (path : Path) : Bool :=
  match files.find path with
  | .ok (_, .directory) => true
  | _ => false

def locationPath (location : Location) : Path := ⟨"/" ++ Text.join "/" location⟩

/-- The one path from the root to something that is there. Other paths stay as they
are. -/
def canonical (files : FileSystem) (path : Path) : Path :=
  match files.find path with
  | .ok (location, _) => locationPath location
  | .error _ => path

/-!
# Reading
-/

/-- The text of a file. -/
def readText (files : FileSystem) (path : Path) : Except FileFault String := do
  match ← files.find path with
  | (_, .file (.text text)) => pure text
  | (_, .file .binary) => throw .invalidData
  | (_, .directory) => throw .isADirectory

theorem find_of_readText {files : FileSystem} {path : Path} {text : String}
    (h : files.readText path = .ok text) :
    ∃ location, files.find path = .ok (location, .file (.text text)) := by
  unfold readText at h
  cases hfind : files.find path with
  | error fault =>
      rw [hfind] at h
      cases h
  | ok found =>
      rw [hfind] at h
      rcases found with ⟨location, entry⟩
      cases entry with
      | directory =>
          cases h
      | file contents =>
          cases contents with
          | binary =>
              cases h
          | text found =>
              cases h
              exact ⟨location, rfl⟩

theorem entry_of_find {files : FileSystem} {path : Path} {location : Location}
    {entry : FileEntry} (h : files.find path = .ok (location, entry)) :
    files.entry? location = some entry := by
  unfold find at h
  cases hlocate : files.locate path with
  | error fault =>
      rw [hlocate] at h
      cases h
  | ok reached =>
      rw [hlocate] at h
      simp only [bind, Except.bind] at h
      cases hentry : files.entry? reached with
      | none =>
          rw [hentry] at h
          cases h
      | some found =>
          rw [hentry] at h
          cases h
          exact hentry

theorem mem_entries_of_file {files : FileSystem} {location : Location} {contents : Contents}
    (h : files.entry? location = some (.file contents)) :
    (location, .file contents) ∈ files.entries := by
  unfold entry? at h
  split at h
  · cases h
  · rcases List.lookup_eq_some_iff.mp h with ⟨before, after, hentries, _⟩
    rw [hentries]
    simp

/-- The names of the directories in a directory, in order. -/
def directoryNames (files : FileSystem) (path : Path) : Except FileFault (List String) := do
  match ← files.find path with
  | (_, .file _) => throw .notADirectory
  | (location, .directory) =>
      let names := (files.namesAt location).filter fun name =>
        files.entry? (location ++ [name]) == some .directory
      pure (names.mergeSort (· ≤ ·))

/-- The paths of the files below a location, where `path` is the path of the
location. -/
def filesFrom (files : FileSystem) : Nat → Location → Path → List Path
  | 0, _, _ => []
  | depth + 1, location, path =>
      match files.entry? location with
      | none => []
      | some (.file _) => [path]
      | some .directory =>
          (files.namesAt location).flatMap fun name =>
            filesFrom files depth (location ++ [name]) (path.join name)

/-- The length of the longest location. -/
def depth (files : FileSystem) : Nat :=
  files.entries.foldl (fun depth entry => max depth entry.1.length) 0

/-- The paths of the files in a directory and the directories below it. -/
def filesBelow (files : FileSystem) (path : Path) : Except FileFault (List Path) :=
  match files.find path with
  | .ok (location, _) => .ok (files.filesFrom (files.depth + 1) location path)
  | .error _ => .error .other

/-!
# Writing
-/

/-- Replaces the text of a file, or makes a new one. A path with a slash at the end
can only lead to a directory. -/
def writeText (files : FileSystem) (path : Path) (text : String) :
    Except FileFault FileSystem := do
  let location ← files.locate ⟨Text.trimEndWhile (· == '/') path.text⟩
  if Text.endsWith "/" path.text ∨ files.entry? location = some .directory then
    throw .isADirectory
  else
    pure (files.put location (.file (.text text)))

/-- Walks along the parts of a path and makes the directories that are not there. -/
def makeFrom (files : FileSystem) (location : Location) :
    List (List Char) → FileSystem × Except FileFault Unit
  | [] => (files, .ok ())
  | part :: parts =>
      if Path.isIdle part then
        makeFrom files location parts
      else if part == ['.', '.'] then
        makeFrom files location.dropLast parts
      else
        let name := String.ofList part
        let next := location ++ [name]
        if maxNameSize < name.utf8ByteSize then
          (files, .error .invalidFilename)
        else
          match files.entry? next with
          | some .directory => makeFrom files next parts
          | some (.file _) =>
              let last := parts.all Path.isIdle
              (files, .error (if last then .alreadyExists else .notADirectory))
          | none => makeFrom (files.put next .directory) next parts

/-- Makes a directory and the directories that it is in. What was made stays, also
after a fault. -/
def makeDirectories (files : FileSystem) (path : Path) :
    FileSystem × Except FileFault Unit :=
  if maxPathSize < path.text.utf8ByteSize then
    (files, .error .invalidFilename)
  else
    let start := if path.isAbsolute then [] else files.current
    files.makeFrom start (Text.splitChars (· == '/') path.text.toList)

/-- Writes a file after making its directory. -/
def writeBelow (files : FileSystem) (path : Path) (text : String) :
    FileSystem × Except FileFault Unit :=
  let (files, made) :=
    match path.parent? with
    | some directory => files.makeDirectories directory
    | none => (files, .ok ())
  match made with
  | .error fault => (files, .error fault)
  | .ok () =>
      match files.writeText path text with
      | .ok files => (files, .ok ())
      | .error fault => (files, .error fault)

end FileSystem
end Docloom
