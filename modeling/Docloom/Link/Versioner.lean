import Docloom.Config.Site
import Docloom.Node.Urls
import Docloom.Text.Folding
import Docloom.Text.Word
import Docloom.Version.Table

/-!
# Versions in links

A document of a version that is not the latest links to other documents of its
version. The version is put into urls that lead to the same product and do not
name a version yet.
-/

namespace Docloom

/-!
# Segments that name a version
-/

/-- What follows digits at the start, of which there must be one. -/
def afterDigits? (cs : List Char) : Option (List Char) :=
  match cs with
  | c :: rest => if Text.isDecimal c then some (rest.dropWhile Text.isDecimal) else none
  | [] => none

/-- Whether two numbers and the start of a word, with dots between them, stand at
the start. -/
def startsDottedVersion (cs : List Char) : Bool :=
  match afterDigits? cs with
  | some ('.' :: rest) =>
      match afterDigits? rest with
      | some ('.' :: c :: _) => Text.isWord c
      | _ => false
  | _ => false

/-- Whether a segment of a path names a version, such as `v1.2.3`, `v1.2.x`, `1.2.3`
or `v202410-1`. -/
def isVersionSegment (cs : List Char) : Bool :=
  VersionName.startsDated cs || startsDottedVersion cs ||
    (match cs with
     | c :: rest => (c == 'v' || c == 'V') && startsDottedVersion rest
     | [] => false)

/-- Whether a url has a segment that names a version. -/
def hasVersionSegment (url : String) : Bool :=
  (Text.splitChars (· == '/') url.toList).any isVersionSegment

/-- Whether the characters at the start are those of `text`, in any case. -/
def startsFolded (text cs : List Char) : Bool :=
  match text, cs with
  | [], _ => true
  | _, [] => false
  | t :: text, c :: cs => Text.foldChar c == Text.foldChar t && startsFolded text cs

/-- Whether a url leads to another site. -/
def isExternalUrl (url : String) : Bool :=
  startsFolded "http://".toList url.toList || startsFolded "https://".toList url.toList

/-!
# Putting versions into urls
-/

/-- Puts the version of a document into its links. -/
structure LinkVersioner where
  version : String
  /-- Paths below the product that stand below a version; none is empty. -/
  basePaths : List String
  /-- The start of urls that lead to the product. -/
  productStart : String
  deriving DecidableEq, Repr

namespace LinkVersioner

/-- Whether a base path may end before these characters. -/
def endsSegment : List Char → Bool
  | [] => true
  | c :: _ => c == '/' || c == '?' || c == '#'

/-- What follows the first of the base paths that stands, after a slash, at the
start. -/
def afterBasePath? (basePaths : List String) (cs : List Char) : Option (List Char) :=
  match cs with
  | '/' :: rest =>
      basePaths.findSome? fun base =>
        let after := rest.drop base.toList.length
        if base.toList.isPrefixOf rest && endsSegment after then some after else none
  | _ => none

/-- Cuts a url after the first base path in it. -/
def splitAtBasePath? (basePaths : List String) : List Char → Option (List Char × List Char)
  | [] => none
  | c :: rest =>
      match afterBasePath? basePaths (c :: rest) with
      | some after => some ((c :: rest).take ((c :: rest).length - after.length), after)
      | none =>
          (splitAtBasePath? basePaths rest).map fun (before, after) => (c :: before, after)

/-- The url with the version in it; none when the url is left alone. -/
def rewrite (versioner : LinkVersioner) (url : String) : Option String :=
  if isExternalUrl url || !(Text.startsWith "." url || Text.startsWith "/" url) ||
      hasVersionSegment url then
    none
  else
    match splitAtBasePath? versioner.basePaths url.toList with
    | some (before, after) =>
        some (String.ofList (before ++ '/' :: versioner.version.toList ++ after))
    | none =>
        (Text.afterStart? versioner.productStart url).map fun rest =>
          versioner.productStart ++ versioner.version ++ "/" ++ rest

/-- The versioner for a document of `product` in the directory `version`. There is
none when links stay as they are: for products without versions, for the latest
version, and for products without base paths. -/
def make (product : String) (version : Option String) (config : ProductConfig)
    (table : VersionTable) : Except Error (Option LinkVersioner) :=
  if !config.versionedDocs then
    .ok none
  else if !table.contains product then
    .error (.missingVersionMetadata product)
  else
    match version with
    | none => .ok none
    | some directory =>
        let version := VersionName.clean directory
        let trimmed (path : String) : String :=
          String.ofList (Text.trimWhile (· == '/') path.toList)
        let basePaths := (config.basePaths.map trimmed).filter fun path => !path.isEmpty
        if VersionTable.isLatest table product version || basePaths.isEmpty then
          .ok none
        else
          .ok
            (some
              { version, basePaths
                productStart := "/" ++ config.urlSlug product ++ "/" })

/-- The rule by which the urls of a document are rewritten. -/
def rule (versioner : LinkVersioner) : Node.UrlRule :=
  fun url => .ok (versioner.rewrite url)

end LinkVersioner
end Docloom
