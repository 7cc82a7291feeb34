/-!
# Errors

Everything that can go wrong in a build. An error holds its causes; the wording
is in `message`, and the advice that goes with it in `help`.
-/

namespace Docloom

/-- Which side of a directive block a marker stands on. -/
inductive MarkerKind where
  | begins
  | ends
  deriving DecidableEq, Repr

def MarkerKind.text : MarkerKind → String
  | .begins => "BEGIN"
  | .ends => "END"

/-- What an error is about. -/
inductive ErrorKind where
  /-- Malformed names of versions, directives or redirect patterns. -/
  | format
  /-- Directive blocks that do not pair up. -/
  | structural
  /-- A file or product that cannot be found. -/
  | reference
  /-- A partial that includes itself. -/
  | cycle
  | configuration
  | io
  deriving DecidableEq, Repr

/-- Why a file could not be read or written. -/
inductive FileFault where
  | notFound
  /-- The file does not hold text. -/
  | invalidData
  | isADirectory
  | notADirectory
  | alreadyExists
  | invalidFilename
  | other
  deriving DecidableEq, Repr

inductive FrontmatterFault where
  | malformed
  | notAMapping
  deriving DecidableEq, Repr

inductive ConfigFault where
  | malformed
  | globalPartial (pattern : String)
  deriving DecidableEq, Repr

inductive RedirectFault where
  | missingName
  | unbalanced
  | capturing
  /-- The regular expression or the url cannot be read. -/
  | malformed
  | noValue (name : String)
  | notInSource (name source : String)
  deriving DecidableEq, Repr

inductive Error where
  | file (fault : FileFault)
  | frontmatter (fault : FrontmatterFault)
  | invalidVersionFormat (product version : String)
  | invalidReleaseStage (product version stage : String)
  | nestedBlock (line openLine : Nat)
  | emptyDirective (marker : MarkerKind) (line : Nat)
  | unmatchedEnd (content : String) (line : Nat)
  | mismatchedBlock (begins : String) (beginLine : Nat) (ends : String) (endLine : Nat)
  | unclosedBlock (content : String) (line : Nat)
  | detachedBlock (content : String) (startLine endLine : Nat)
  | unknownDirectiveProduct (product content : String) (startLine endLine : Nat)
  | invalidDirective (product directive expected : String) (startLine endLine : Nat)
  | missingDocumentVersion (content : String) (startLine endLine : Nat)
  | invalidVersion (text : String)
  | contentExclusion (document : String) (cause : Error)
  | missingPartial (document wanted : String) (line column : Nat)
  | partialCycle (document chain : String)
  | unknownProduct (product : String)
  | missingVersionMetadata (product : String)
  | invalidDocumentPath (path : String)
  | missingConfig (root : String)
  | config (fault : ConfigFault)
  | versionMetadataFile (path : String)
  | redirectsFile (path : String)
  | invalidRedirect (pattern : String) (fault : RedirectFault)
  deriving DecidableEq, Repr

namespace Error

def kind : Error → ErrorKind
  | .file _ => .io
  | .frontmatter _ => .format
  | .invalidVersionFormat .. => .format
  | .invalidReleaseStage .. => .format
  | .emptyDirective .. => .format
  | .invalidDirective .. => .format
  | .invalidVersion _ => .format
  | .invalidRedirect .. => .format
  | .redirectsFile _ => .format
  | .versionMetadataFile _ => .format
  | .nestedBlock .. => .structural
  | .unmatchedEnd .. => .structural
  | .mismatchedBlock .. => .structural
  | .unclosedBlock .. => .structural
  | .detachedBlock .. => .structural
  | .missingPartial .. => .reference
  | .missingDocumentVersion .. => .reference
  | .missingVersionMetadata _ => .reference
  | .invalidDocumentPath _ => .reference
  | .partialCycle .. => .cycle
  | .unknownDirectiveProduct .. => .configuration
  | .unknownProduct _ => .configuration
  | .missingConfig _ => .configuration
  | .config _ => .configuration
  | .contentExclusion _ cause => cause.kind

/-- The name of the error in reports. -/
def code : Error → String
  | .file _ => "vdocs::io_error"
  | .frontmatter _ => "vdocs::frontmatter"
  | .invalidVersionFormat .. => "vdocs::invalid_version_format"
  | .invalidReleaseStage .. => "vdocs::invalid_release_stage"
  | .nestedBlock .. => "vdocs::nested_block"
  | .emptyDirective .. => "vdocs::empty_directive"
  | .unmatchedEnd .. => "vdocs::unmatched_end"
  | .mismatchedBlock .. => "vdocs::mismatched_block"
  | .unclosedBlock .. => "vdocs::unclosed_block"
  | .detachedBlock .. => "vdocs::detached_block"
  | .unknownDirectiveProduct .. => "vdocs::unknown_directive_product"
  | .invalidDirective .. => "vdocs::invalid_directive"
  | .missingDocumentVersion .. => "vdocs::missing_document_version"
  | .invalidVersion _ => "vdocs::invalid_version"
  | .contentExclusion .. => "vdocs::content_exclusion"
  | .missingPartial .. => "vdocs::missing_partial"
  | .partialCycle .. => "vdocs::partial_cycle"
  | .unknownProduct _ => "vdocs::unknown_product"
  | .missingVersionMetadata _ => "vdocs::missing_version_metadata"
  | .invalidDocumentPath _ => "vdocs::invalid_document_path"
  | .missingConfig _ => "vdocs::missing_config"
  | .config _ => "vdocs::config_parse"
  | .versionMetadataFile _ => "vdocs::version_metadata_file"
  | .redirectsFile _ => "vdocs::redirects_file"
  | .invalidRedirect .. => "vdocs::invalid_redirect"

/-- What to do about the error, if there is a general answer. -/
def help : Error → Option String
  | .frontmatter _ => some "frontmatter must be a YAML mapping between two `---` lines"
  | .invalidVersionFormat .. =>
      some
        "a release stage must follow the version after exactly one space, e.g. `v1.0.x (beta)`"
  | .invalidReleaseStage .. => some "accepted release stages are: alpha, beta, rc"
  | .nestedBlock .. => some "close the previous block with a matching END comment first"
  | .emptyDirective .. =>
      some "write the directive after the marker, e.g. `<!-- BEGIN: Vault:>=v1.21.x -->`"
  | .mismatchedBlock .. => some "the END comment must repeat the BEGIN directive exactly"
  | .unclosedBlock content _ =>
      some ("add `<!-- END: " ++ content ++ " -->` to close this block")
  | .unknownDirectiveProduct .. => some "expected one of: Vault, TFC, TFEnterprise"
  | .invalidDirective _ _ expected _ _ => some ("expected format: " ++ expected)
  | .partialCycle .. =>
      some "a partial cannot include itself, directly or through other partials"
  | .unknownProduct product =>
      some ("add a `[products." ++ product ++ "]` table to vdocs.toml")
  | .missingConfig _ =>
      some "create a vdocs.toml with a [products.<slug>] table per product"
  | .config _ => some "check that vdocs.toml is valid TOML with a [products] table"
  | .versionMetadataFile _ =>
      some "run `vdocs build --only-version-metadata` to regenerate it"
  | _ => none

/-- A range of lines, as it is written in messages. -/
def lineRange (first last : Nat) : String :=
  toString first ++ "-" ++ toString last

def RedirectFault.message (detail : String) : RedirectFault → String
  | .missingName => "missing parameter name"
  | .unbalanced => "unbalanced pattern"
  | .capturing => "capturing groups are not allowed in parameter patterns"
  | .malformed => detail
  | .noValue name => "no value for parameter `" ++ name ++ "`"
  | .notInSource name source =>
      "parameter `" ++ name ++ "` does not appear in source `" ++ source ++ "`"

/-- The wording of the error. `detail` stands for what the reader of a format has to
say about a malformed text. -/
def message (detail : String) : Error → String
  | .file _ => detail
  | .frontmatter .malformed => "invalid frontmatter: " ++ detail
  | .frontmatter .notAMapping =>
      "invalid frontmatter: expected a mapping of keys to values"
  | .invalidVersionFormat product version =>
      "invalid version format `" ++ version ++ "` for product `" ++ product ++ "`"
  | .invalidReleaseStage product version stage =>
      "invalid release stage `" ++ stage ++ "` in version `" ++ version ++ "` for product `" ++
        product ++ "`"
  | .nestedBlock line openLine =>
      "nested BEGIN blocks not allowed: BEGIN at line " ++ toString line ++
        ", previous BEGIN at line " ++ toString openLine
  | .emptyDirective marker line =>
      "empty " ++ marker.text ++ " block at line " ++ toString line
  | .unmatchedEnd content line =>
      "unexpected END block `" ++ content ++ "` at line " ++ toString line ++
        ": no matching BEGIN block found"
  | .mismatchedBlock begins beginLine ends endLine =>
      "mismatched block names: BEGIN=\"" ++ begins ++ "\" at line " ++ toString beginLine ++
        ", END=\"" ++ ends ++ "\" at line " ++ toString endLine
  | .unclosedBlock content line =>
      "unclosed BEGIN block `" ++ content ++ "` opened at line " ++ toString line
  | .detachedBlock content startLine endLine =>
      "directive block `" ++ content ++ "` (lines " ++ lineRange startLine endLine ++
        ") is no longer in the tree"
  | .unknownDirectiveProduct product content startLine endLine =>
      "unknown directive product `" ++ product ++ "` in block `" ++ content ++ "` at lines " ++
        lineRange startLine endLine
  | .invalidDirective product directive _ startLine endLine =>
      "invalid " ++ product ++ " directive `" ++ directive ++ "` at lines " ++
        lineRange startLine endLine
  | .missingDocumentVersion content startLine endLine =>
      "version directive `" ++ content ++ "` at lines " ++ lineRange startLine endLine ++
        " requires a document version"
  | .invalidVersion text => "cannot compare against version `" ++ text ++ "`"
  | .contentExclusion document cause =>
      "content exclusion failed in " ++ document ++ ": " ++ cause.message detail
  | .missingPartial document wanted line column =>
      "@include file not found. In \"" ++ document ++ "\", on line " ++ toString line ++
        ", column " ++ toString column ++ ", please ensure the referenced file \"" ++ wanted ++
        "\" exists"
  | .partialCycle document chain =>
      "partial inclusion cycle detected in \"" ++ document ++ "\": " ++ chain
  | .unknownProduct product => "unknown product `" ++ product ++ "`"
  | .missingVersionMetadata product =>
      "no version metadata found for product `" ++ product ++ "`"
  | .invalidDocumentPath path =>
      "document path `" ++ path ++ "` is not inside a product version directory"
  | .missingConfig root => "no vdocs.toml found in `" ++ root ++ "`"
  | .config .malformed => "failed to parse config file: " ++ detail
  | .config (.globalPartial pattern) =>
      "failed to parse config file: invalid global partial pattern `" ++ pattern ++ "`: " ++ detail
  | .versionMetadataFile path =>
      "failed to read version metadata `" ++ path ++ "`: " ++ detail
  | .redirectsFile path => "failed to load redirects from `" ++ path ++ "`: " ++ detail
  | .invalidRedirect pattern fault =>
      "invalid redirect `" ++ pattern ++ "`: " ++ RedirectFault.message detail fault

end Error
end Docloom
