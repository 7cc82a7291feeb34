import Docloom.Config.Site
import Docloom.Version.Name

/-!
# Documents of sites

The path of a document in the content of a site names its product and, for products
with versions, its version. The places of its partials, of its redirects and of what
is written for it follow from that.
-/

namespace Docloom

/-- The components of a path that are names. -/
def Path.names (path : Path) : List String :=
  path.components.filterMap fun component =>
    match component with
    | .normal name => some name
    | _ => none

structure Document where
  file : Path
  /-- The path below the content directory. -/
  relative : Path
  product : String
  /-- The name of the version directory; none for products without versions. -/
  version : Option String
  partialsDir : Path
  redirectsDir : Path
  outputPath : Path
  deriving DecidableEq, Repr

namespace Document

/-- The name of the directory of partials. -/
def partialsName : String := "partials"

/-- Cuts the names after the product into the version and the names below it. A
document that has a version also has a name below it. -/
def splitVersion? (config : ProductConfig) : List String → Option (Option String × List String)
  | version :: name :: names =>
      if config.versionedDocs then
        some (some version, name :: names)
      else
        some (none, version :: name :: names)
  | names => if config.versionedDocs then none else some (none, names)

/-- The directory of the redirects of a version. -/
def redirectsDirOf (contentRoot : Path) (product : String) : Option String → Path
  | some version => (contentRoot.join product).join version
  | none => contentRoot.join product

/-- The directory of the partials, where `below` are the names below a version. -/
def partialsDirOf (redirectsDir : Path) : List String → Path
  | first :: _ :: _ => (redirectsDir.join first).join partialsName
  | _ => redirectsDir.join partialsName

/-- The document in a file, which must be below the content directory. -/
def ofPath (contentRoot outputRoot : Path) (config : SiteConfig) (file : Path) :
    Except Error Document :=
  match file.below? contentRoot with
  | none => .error (.invalidDocumentPath file.text)
  | some relative =>
      match relative.names with
      | [] => .error (.invalidDocumentPath file.text)
      | product :: names => do
          let productConfig ← config.product product
          match splitVersion? productConfig names with
          | none => throw (.invalidDocumentPath file.text)
          | some (version, below) =>
              let redirectsDir := redirectsDirOf contentRoot product version
              pure
                { file, relative, product, version, redirectsDir
                  partialsDir := partialsDirOf redirectsDir below
                  outputPath := outputRoot.join relative.text }

/-- The version without its stage. -/
def cleanVersion (document : Document) : Option String :=
  document.version.map VersionName.clean

end Document
end Docloom
