import Docloom.Config.Site
import Docloom.File.System
import Docloom.Version.Table

/-!
# Gathering versions

The content of a site has one directory for each product and, inside it, one for
each version of the product.
-/

namespace Docloom

namespace VersionTable

/-- The names that are versions of a product. -/
def versionNames (config : ProductConfig) (names : List String) : List String :=
  names.filter fun name => !config.semverCoerce || (Version.coerce? name).isSome

/-- The entries of a product whose directory is `directory`. -/
def gatherProduct (files : FileSystem) (directory : Path) (product : String)
    (config : ProductConfig) : Except Error (List VersionEntry) :=
  if config.versionedDocs then do
    let names ← (files.directoryNames directory).mapError .file
    VersionEntry.ofNames product (versionNames config names)
  else
    .ok [VersionEntry.unversioned]

/-- Puts the entries of products into a table. Directories that belong to no product
are passed over. -/
def gatherInto (files : FileSystem) (root : Path) (products : Products)
    (table : VersionTable) : List String → Except Error VersionTable
  | [] => .ok table
  | name :: names =>
      match products.get? name with
      | none => gatherInto files root products table names
      | some config => do
          let entries ← gatherProduct files (root.join name) name config
          gatherInto files root products (table.insert name entries) names

/-- The table of the products in a content directory. -/
def gather (files : FileSystem) (root : Path) (products : Products) :
    Except Error VersionTable := do
  let names ← (files.directoryNames root).mapError .file
  gatherInto files root products Catalog.empty names

end VersionTable
end Docloom
