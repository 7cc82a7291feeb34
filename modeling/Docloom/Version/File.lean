import Docloom.File.System
import Docloom.Json.Reader
import Docloom.Json.Basic
import Docloom.Json.Writer
import Docloom.Version.Table

/-!
# Version table files

The version table of a build is kept in a file. It is an object with a list of
entries under the name of each product.
-/

namespace Docloom

namespace ReleaseStage

def all : List ReleaseStage := [.stable, .alpha, .beta, .candidate]

def ofText? (text : String) : Option ReleaseStage := all.find? fun stage => stage.text == text

/-- A stage is written as a text, or as an object with nothing under the text. -/
def ofJson? : Json → Option ReleaseStage
  | .string text => ofText? text
  | .object [(text, .null)] => ofText? text
  | _ => none

theorem ofText?_text (stage : ReleaseStage) : ofText? stage.text = some stage := by
  cases stage <;> rfl

end ReleaseStage

namespace VersionEntry

def toJson (entry : VersionEntry) : Json :=
  .object
    [("version", .string entry.version), ("releaseStage", .string entry.stage.text),
     ("isLatest", .bool entry.isLatest)]

def ofJson? (json : Json) : Option VersionEntry := do
  match ← json.fields? ["version", "releaseStage", "isLatest"] with
  | [version, stage, latest] =>
      let version ← (← version).text?
      let stage ← ReleaseStage.ofJson? (← stage)
      let isLatest ← (← latest).bool?
      pure { version, stage, isLatest }
  | _ => none

theorem ofJson?_toJson (entry : VersionEntry) : ofJson? entry.toJson = some entry := by
  have latest : ("isLatest" == "version") = false := by decide
  have stage : ("releaseStage" == "version") = false := by decide
  have other : ("isLatest" == "releaseStage") = false := by decide
  simp [ofJson?, toJson, Json.fields?, Json.text?, Json.bool?, ReleaseStage.ofJson?,
    ReleaseStage.ofText?_text, List.lookup_cons, latest, stage, other]

end VersionEntry

namespace VersionTable

def toJson (table : VersionTable) : Json :=
  .object (table.entries.map fun entry =>
    (entry.1, .array (entry.2.map VersionEntry.toJson)))

def entriesOfJson? (json : Json) : Option (List VersionEntry) := do
  (← json.items?).mapM VersionEntry.ofJson?

/-- A product that comes twice has the entries of the last time. -/
def ofJson? (json : Json) : Option VersionTable := do
  let members ← json.members?
  let entries ← members.mapM fun member => do
    pure (member.1, ← entriesOfJson? member.2)
  pure (Catalog.ofList entries)

/-- The text of the file of a table. -/
def fileText (table : VersionTable) : String := (toJson table).pretty 0 ++ "\n"

def ofText? (text : String) : Option VersionTable := (Json.parse text).bind ofJson?

def load (files : FileSystem) (path : Path) : Except Error VersionTable :=
  match files.readText path with
  | .error fault => .error (.file fault)
  | .ok text =>
      match ofText? text with
      | some table => .ok table
      | none => .error (.versionMetadataFile path.text)

/-- Writes the file of a table, and makes the directories that it is in. -/
def write (table : VersionTable) (files : FileSystem) (path : Path) :
    FileSystem × Except Error Unit :=
  let (files, written) := files.writeBelow path (fileText table)
  (files, written.mapError .file)

end VersionTable
end Docloom
