import Docloom.Config.Site
import Docloom.File.System
import Docloom.Toml.Reader

/-!
# Settings files

The settings of a site stand in a TOML file. Settings that are missing have their
default, and tables of unknown names do not matter.
-/

namespace Docloom

namespace Toml

def text? : Toml → Option String
  | text value => some value
  | _ => none

def bool? : Toml → Option Bool
  | bool value => some value
  | _ => none

def texts? : Toml → Option (List String)
  | array items => items.mapM text?
  | _ => none

def nat? : Toml → Option Nat
  | integer value => if 0 ≤ value then some value.toNat else none
  | _ => none

/-- The value of a field that may be missing. -/
def field? (value : Option Toml) (read : Toml → Option α) (missing : α) : Option α :=
  match value with
  | some value => read value
  | none => some missing

/-- The values of fields, which are given by name or, in an array, by place. -/
def fields? (names : List String) : Toml → Option (List (Option Toml))
  | table entries => some (names.map fun name => entries.lookup name)
  | array items => some ((List.range names.length).map fun index => items[index]?)
  | _ => none

end Toml

namespace ProductConfig

def fieldNames : List String :=
  ["versioned_docs", "supports_exclusion_directives", "base_paths", "content_dir", "data_dir",
   "asset_dir", "website_dir", "product_slug", "semver_coerce"]

def ofToml? (toml : Toml) : Option ProductConfig := do
  match ← toml.fields? fieldNames with
  | [versioned, directives, basePaths, content, data, asset, website, slug, coerce] =>
      let standard : ProductConfig := {}
      pure
        { versionedDocs := ← Toml.field? versioned Toml.bool? standard.versionedDocs
          supportsDirectives := ← Toml.field? directives Toml.bool? standard.supportsDirectives
          basePaths := ← Toml.field? basePaths Toml.texts? standard.basePaths
          contentDir := ← Toml.field? content Toml.text? standard.contentDir
          dataDir := ← Toml.field? data Toml.text? standard.dataDir
          assetDir := ← Toml.field? asset Toml.text? standard.assetDir
          websiteDir := ← Toml.field? website Toml.text? standard.websiteDir
          productSlug := ← Toml.field? slug (fun toml => toml.text?.map some) none
          semverCoerce := ← Toml.field? coerce Toml.bool? standard.semverCoerce }
  | _ => none

end ProductConfig

namespace SiteConfig

def productsOfToml? : Toml → Option Products
  | .table entries => do
      let products ← entries.mapM fun entry => do
        pure (entry.1, ← ProductConfig.ofToml? entry.2)
      pure (Catalog.ofList products)
  | _ => none

def ofToml? (toml : Toml) : Option SiteConfig := do
  let standard : SiteConfig := {}
  pure
    { contentDir := ← Toml.field? (toml.get? "content_dir") Toml.text? standard.contentDir
      outputDir := ← Toml.field? (toml.get? "output_dir") Toml.text? standard.outputDir
      versionFile :=
        ← Toml.field? (toml.get? "version_metadata_file") Toml.text? standard.versionFile
      jobs := ← Toml.field? (toml.get? "jobs") (fun toml => toml.nat?.map some) none
      extensions := ← Toml.field? (toml.get? "extensions") Toml.texts? standard.extensions
      globalPartials :=
        ← Toml.field? (toml.get? "global_partials") Toml.texts? standard.globalPartials
      products := ← Toml.field? (toml.get? "products") productsOfToml? standard.products }

def ofText? (text : String) : Option SiteConfig := (Toml.parse? text).bind ofToml?

/-- The places of a settings file; the first that is there counts. -/
def fileNames : List String := ["vdocs.toml", ".vdocs.toml", ".config/vdocs.toml"]

/-- The settings file of a site. -/
def filePath? (files : FileSystem) (root : Path) : Option Path :=
  (fileNames.map root.join).find? files.isFile

/-- The settings of a site; none if there is no file. -/
def load? (files : FileSystem) (root : Path) : Except Error (Option SiteConfig) :=
  match filePath? files root with
  | none => .ok none
  | some path =>
      match files.readText path with
      | .error fault => .error (.file fault)
      | .ok text =>
          match ofText? text with
          | some config => .ok (some config)
          | none => .error (.config .malformed)

/-- The settings of a site, which must have a file for them. -/
def load (files : FileSystem) (root : Path) : Except Error SiteConfig := do
  match ← load? files root with
  | some config => pure config
  | none => throw (.missingConfig root.text)

end SiteConfig
end Docloom
