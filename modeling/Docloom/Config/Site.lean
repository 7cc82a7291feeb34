import Docloom.Catalog
import Docloom.Error
import Docloom.File.Path
import Docloom.Glob

/-!
# Settings of products

What a build has to know about a product and its repository.
-/

namespace Docloom

structure ProductConfig where
  /-- Whether there is a directory for each version. -/
  versionedDocs : Bool := true
  /-- Whether directive blocks are evaluated. -/
  supportsDirectives : Bool := false
  /-- The first segments of urls that stand below a version. -/
  basePaths : List String := []
  contentDir : String := "docs"
  dataDir : String := "data"
  assetDir : String := "img"
  websiteDir : String := "website"
  /-- The segment of urls that names the product, when it is not the name of its
  directory. -/
  productSlug : Option String := none
  /-- Whether only directories that hold a version number are versions. -/
  semverCoerce : Bool := true
  deriving DecidableEq, Repr

/-- The segment of urls that names the product. -/
def ProductConfig.urlSlug (config : ProductConfig) (product : String) : String :=
  config.productSlug.getD product

/-!
# Settings of sites

A site has the documents of several products below one directory.
-/

abbrev Products := Catalog ProductConfig

structure SiteConfig where
  /-- The directory with one directory for each product. -/
  contentDir : String := "content"
  /-- Where transformed documents are written. -/
  outputDir : String := "public/content"
  /-- The file of the version table. -/
  versionFile : String := "app/api/versionMetadata.json"
  /-- The number of documents that are transformed at a time. -/
  jobs : Option Nat := none
  /-- The extensions of documents. -/
  extensions : List String := ["mdx"]
  /-- Globs of partials that several products share. Their directives count only
  where they are included. -/
  globalPartials : List String := ["**/global/partials/**"]
  products : Products := Catalog.empty

namespace SiteConfig

def product (config : SiteConfig) (name : String) : Except Error ProductConfig :=
  match config.products.get? name with
  | some product => .ok product
  | none => .error (.unknownProduct name)

/-- The number of workers; none if it is left to the machine. -/
def workerCount (config : SiteConfig) : Option Nat := config.jobs.filter (0 < ·)

def isDocument (config : SiteConfig) (path : Path) : Bool :=
  path.extension?.any config.extensions.contains

/-- The globs of shared partials. -/
def globs (config : SiteConfig) : Except Error (List Glob) :=
  config.globalPartials.mapM fun pattern =>
    match Glob.parse? pattern with
    | some glob => .ok glob
    | none => .error (.config (.globalPartial pattern))

end SiteConfig

end Docloom
