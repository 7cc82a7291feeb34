import Docloom.Command.Run

/-!
# The command line

The files of a site are read before a command runs, and what it changes is written
after it.
-/

namespace Docloom

namespace Main

def contentsOf (bytes : ByteArray) : Contents :=
  match String.fromUTF8? bytes with
  | some text => .text text
  | none => .binary

/-- Reads what is at a place, with all that is below it. -/
partial def readBelow (place : IO.FS.DirEntry) (location : Location) (files : FileSystem) :
    IO FileSystem := do
  match ← place.path.metadata.toBaseIO with
  | .error _ => pure files
  | .ok found =>
      match found.type with
      | .dir =>
          let mut files := files.put location .directory
          for inside in ← place.path.readDir do
            files ← readBelow inside (location ++ [inside.fileName]) files
          pure files
      | .file =>
          let bytes ← IO.FS.readBinFile place.path
          pure (files.put location (.file (contentsOf bytes)))
      | _ => pure files

/-- The place of a path, as its directory and its name. -/
def placeOf (path : Path) : IO.FS.DirEntry :=
  match path.parent?, path.fileName? with
  | some parent, some name => { root := parent.text, fileName := name }
  | _, _ => { root := path.text, fileName := "." }

/-- Reads what is at a path, with all that is below it. -/
def readPath (files : FileSystem) (path : Path) : IO FileSystem := do
  let files := (files.makeDirectories (path.parent?.getD path)).1
  match files.locate path with
  | .ok location => readBelow (placeOf path) location files
  | .error _ => pure files

/-- Reads what is at a path, unless it is there already. -/
def readMissing (files : FileSystem) (path : Path) : IO FileSystem :=
  match files.find path with
  | .ok _ => pure files
  | .error _ => readPath files path

/-- Reads the directory of a site, and what its settings lead to. -/
def readSite (files : FileSystem) (root : Path) : IO FileSystem := do
  let files ← readPath files root
  match SiteConfig.load files root with
  | .error _ => pure files
  | .ok config =>
      [config.contentDir, config.outputDir, config.versionFile].foldlM
        (fun files path => readMissing files (root.join path)) files

/-- Writes the files that a command has changed. -/
def writeChanges (before after : FileSystem) : IO Unit := do
  for (location, entry) in after.entries.reverse do
    if before.entry? location != some entry then
      let path := (FileSystem.locationPath location).text
      match entry with
      | .directory => IO.FS.createDirAll path
      | .file (.text text) => IO.FS.writeFile path text
      | .file .binary => pure ()

end Main
end Docloom

def main (arguments : List String) : IO UInt32 := do
  let current : Docloom.Path := ⟨(← IO.currentDir).toString⟩
  let plain := (← IO.getEnv "NO_COLOR").isSome
  let place : Docloom.FileSystem := { entries := [], current := current.names }
  let start := (place.makeDirectories current).1
  let files ←
    match Docloom.Command.Request.read arguments with
    | .ok request =>
        Docloom.Main.readSite start (current.absolute ⟨request.path.getD current.text⟩)
    | .error _ => pure start
  let response := Docloom.Command.run plain files arguments
  IO.print response.output
  IO.eprint response.complaints
  Docloom.Main.writeChanges files response.files
  pure response.status.toUInt32
