import Docloom.Redirect.Cache
import Docloom.Site.Document
import Docloom.Version.Gather

/-!
# Sites

A site has settings, a table of versions, and directories for its content and for
what is written.
-/

namespace Docloom

structure Site where
  config : SiteConfig
  contentRoot : Path
  outputRoot : Path
  table : VersionTable
  /-- The globs of shared partials. -/
  shared : List Glob

namespace Site

/-- The site in a directory, with a table of its versions. -/
def make (root : Path) (config : SiteConfig) (table : VersionTable) : Except Error Site := do
  let shared ← config.globs
  pure
    { config, table, shared
      contentRoot := root.join config.contentDir
      outputRoot := root.join config.outputDir }

/-- The site in a directory, with the versions that its content has. -/
def gather (files : FileSystem) (root : Path) (config : SiteConfig) : Except Error Site := do
  let table ← VersionTable.gather files (root.join config.contentDir) config.products
  make root config table

def document (site : Site) (file : Path) : Except Error Document :=
  Document.ofPath site.contentRoot site.outputRoot site.config file

/-- Whether a document is a partial that several products share. -/
def isShared (site : Site) (document : Document) : Bool :=
  site.shared.any fun glob => glob.covers document.relative.text

end Site
end Docloom
