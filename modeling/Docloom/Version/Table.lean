import Docloom.Catalog
import Docloom.Version.Name

/-!
# Version tables

The table of a build lists the versions of every product, the newest first. One
of them is the latest: the newest stable one, or the newest of all when none is
stable.
-/

namespace Docloom

structure VersionEntry where
  version : String
  stage : ReleaseStage
  isLatest : Bool
  deriving DecidableEq, Repr

namespace VersionEntry

/-- The entry of a product without versions. -/
def unversioned : VersionEntry :=
  { version := "v0.0.x", stage := .stable, isLatest := true }

def ofName (product name : String) : Except Error VersionEntry :=
  match VersionName.parse product name with
  | .ok (version, stage) => .ok { version, stage, isLatest := false }
  | .error error => .error error

/-- The index of the latest of the entries. -/
def latestIndex (entries : List VersionEntry) : Nat :=
  let index := (entries.takeWhile fun entry => !entry.stage.isStable).length
  if index = entries.length then 0 else index

/-- Marks the latest of the entries. -/
def markLatest (entries : List VersionEntry) : List VersionEntry :=
  entries.modify (latestIndex entries) fun entry => { entry with isLatest := true }

/-- The entries for the version directories of a product. -/
def ofNames (product : String) (names : List String) : Except Error (List VersionEntry) :=
  match (VersionName.sort names).mapM (ofName product) with
  | .ok entries => .ok (markLatest entries)
  | .error error => .error error

end VersionEntry

abbrev VersionTable := Catalog (List VersionEntry)

namespace VersionTable

/-- The latest entry of a product. -/
def latest? (table : VersionTable) (product : String) : Option VersionEntry :=
  (table.get? product).bind fun entries => entries.find? VersionEntry.isLatest

def isLatest (table : VersionTable) (product version : String) : Bool :=
  (latest? table product).any fun entry => entry.version == version

end VersionTable
end Docloom
