import Docloom.Alert
import Docloom.Directive.Exclusion
import Docloom.Frontmatter
import Docloom.Link.Versioner
import Docloom.Node.Reading
import Docloom.Node.Writer
import Docloom.Partials
import Docloom.Site.Basic

/-!
# Transforming documents

A document gets its partials, loses what other builds are to see, and gets its
alerts; then its urls are redirected and get their version. Partials that several
products share keep their directives and their links, which only count where the
partials are included.
-/

namespace Docloom

namespace Site

/-!
# Content
-/

/-- The tree without what the document is not built for. -/
def excluded (site : Site) (document : Document) (config : ProductConfig) (root : Node) :
    Except Error Node :=
  if site.isShared document then
    .ok root
  else
    let audience : Audience := ⟨document.file.text, document.product, document.version⟩
    match Exclusion.apply audience config root with
    | (root, none) => .ok root
    | (_, some error) => .error error

/-- The tree of a body, with its partials and its alerts. -/
def content (site : Site) (files : FileSystem) (document : Document) (config : ProductConfig)
    (body : String) : Except Error Node := do
  let (root, next) := Node.ofMarkdown 0 body
  let (root, next) ← Partials.expand files document.file document.partialsDir next root
  let root ← site.excluded document config root
  pure (Alert.wrap next root).1

/-!
# Urls
-/

/-- What puts the version of a document into its links. -/
def versioner (site : Site) (document : Document) (config : ProductConfig) :
    Except Error (Option LinkVersioner) :=
  if site.isShared document then
    .ok none
  else
    LinkVersioner.make document.product document.version config site.table

/-- The tree with its urls rewritten. Redirects come before versions. -/
def linked (site : Site) (document : Document) (config : ProductConfig)
    (rules : List RedirectRule) (root : Node) : Except Error Node := do
  let (root, redirected) := root.rewriteUrls (RedirectRule.urlRule rules)
  let _ ← redirected
  match ← site.versioner document config with
  | none => pure root
  | some versioner => pure (root.rewriteUrls versioner.rule).1

/-!
# Texts
-/

/-- The text that is written for a tree. -/
def textOf (front : Option Frontmatter) (root : Node) : String :=
  match front with
  | some front => front.stringify root.toMarkdown
  | none => root.toMarkdown

/-- What stands in a source: its settings, its frontmatter, and its tree. -/
def readSource (site : Site) (files : FileSystem) (document : Document) (source : String) :
    Except Error (ProductConfig × Option Frontmatter × Node) := do
  let config ← site.config.product document.product
  let (front, body) ← Frontmatter.split source
  let root ← site.content files document config body
  pure (config, front, root)

/-- The text that is written for a source. The cache keeps the redirects that were
loaded. -/
def transformText (site : Site) (files : FileSystem) (cache : RedirectCache)
    (document : Document) (source : String) : RedirectCache × Except Error String :=
  match site.readSource files document source with
  | .error error => (cache, .error error)
  | .ok (config, front, root) =>
      let (cache, rules) := cache.get files document.redirectsDir
      (cache, do
        let root ← site.linked document config (← rules).rules root
        pure (textOf front root))

/-- The text that is written for a document. -/
def transform (site : Site) (files : FileSystem) (cache : RedirectCache)
    (document : Document) : RedirectCache × Except Error String :=
  match files.readText document.file with
  | .error fault => (cache, .error (.file fault))
  | .ok source => site.transformText files cache document source

/-- Writes the text of a document. -/
def writeDocument (files : FileSystem) (document : Document) (text : String) :
    FileSystem × Except Error Unit :=
  let (files, written) := files.writeBelow document.outputPath text
  (files, written.mapError .file)

end Site
end Docloom
