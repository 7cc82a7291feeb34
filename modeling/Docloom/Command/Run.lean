import Docloom.Command.Arguments
import Docloom.Config.File
import Docloom.Site.Build
import Docloom.Version.File

/-!
# Running commands

A command works on a file system and answers with an exit status, what it prints,
and the file system after it.
-/

namespace Docloom

namespace Command

structure Response where
  status : Nat
  output : String
  /-- What is printed about failures. -/
  complaints : String
  files : FileSystem

/-!
# Texts
-/

def programName : String := "vdocs"

/-- What is printed for the version of the program. -/
def versionText : String := "vdocs_cli 0.1.0\n"

def helpText : String :=
  "Usage: " ++ programName ++ " [OPTIONS] [COMMAND]\n\n" ++
  "Commands:\n" ++
  "  build [-j N] [--only-version-metadata]  Transform every document\n" ++
  "  version-metadata [--format text|json]   Print the versions of every product\n" ++
  "  transform FILE [--stdout]               Transform a single document\n\n" ++
  "Options:\n" ++
  "  -p, --path PATH  The directory of the site\n" ++
  "  -v, --verbose    Print what is written\n" ++
  "      --no-color   Print without colors\n" ++
  "  -h, --help       Print help\n" ++
  "  -V, --version    Print version\n"

def misuseText : String := "error: unexpected arguments\n\n" ++ helpText

def noCommandText : String :=
  "No subcommand specified. Run \x60" ++ programName ++ " --help\x60 for usage.\n"

/-- Stands for the text of the library that found a fault. -/
def unreadable : String := "cannot be read"

def errorText (error : Error) : String :=
  let help := (error.help.map fun help => "help: " ++ help ++ "\n").getD ""
  error.code ++ "\n" ++ error.message unreadable ++ "\n" ++ help

/-- A text between the codes that switch a style on and off. -/
def styled (plain : Bool) (on off text : String) : String :=
  if plain then text else "\x1b[" ++ on ++ "m" ++ text ++ "\x1b[" ++ off ++ "m"

def green (plain : Bool) (text : String) : String := styled plain "32" "39" text

def red (plain : Bool) (text : String) : String := styled plain "31" "39" text

def bold (plain : Bool) (text : String) : String := styled plain "1" "0" text

/-- A path as it is seen from the site. -/
def shown (root path : Path) : String := (path.below? root).getD path |>.text

/-- A text that is filled up to a width. -/
def padded (width : Nat) (text : String) : String :=
  text ++ Text.repeated (width - text.length) ' '

/-!
# Versions
-/

def entryLine (entry : VersionEntry) : String :=
  "  " ++ padded 16 entry.version ++ " " ++ entry.stage.text ++
    (if entry.isLatest then " (latest)" else "") ++ "\n"

def productText (plain : Bool) (product : String × List VersionEntry) : String :=
  bold plain product.1 ++ "\n" ++ Text.join "" (product.2.map entryLine)

/-- A table as text, with an empty line between products. -/
def tableText (plain : Bool) (table : VersionTable) : String :=
  if table.entries.isEmpty then
    "No products found.\n"
  else
    Text.join "\n" (table.entries.map (productText plain))

def tableOutput (plain : Bool) (table : VersionTable) : TableFormat → String
  | .text => tableText plain table
  | .json => VersionTable.fileText table

/-!
# Commands
-/

def done (files : FileSystem) (output : String) : Response := ⟨0, output, "", files⟩

/-- The response to an error that ends the command. -/
def failed (files : FileSystem) (output : String) (error : Error) : Response :=
  ⟨2, output, errorText error, files⟩

structure Setting where
  root : Path
  verbose : Bool
  plain : Bool

namespace Setting

def reportText (setting : Setting) (report : BuildReport) : String :=
  let lines :=
    if setting.verbose then
      ((report.written.map (shown setting.root)).mergeSort (· ≤ ·)).map fun path =>
        "  " ++ path ++ "\n"
    else
      []
  let count := toString report.written.length
  let last :=
    if report.isOk then
      green setting.plain "Transformed" ++ " " ++ count ++ " document(s).\n"
    else
      "Transformed " ++ count ++ " document(s), " ++ toString report.failures.length ++ " failed.\n"
  Text.join "" lines ++ last

def failureText (setting : Setting) (failure : BuildFailure) : String :=
  red setting.plain "failed:" ++ " " ++ shown setting.root failure.file ++ "\n" ++
    errorText failure.error

/-- Builds the documents of a site, after `output` was printed. -/
def buildSite (setting : Setting) (files : FileSystem) (site : Site) (output : String) : Response :=
  match site.build files with
  | (files, .error error) => failed files output error
  | (files, .ok report) =>
      { status := if report.isOk then 0 else 1
        output := output ++ setting.reportText report
        complaints := Text.join "" (report.failures.map setting.failureText)
        files }

/-- Writes the table of versions, and builds the documents unless only versions are
wanted. -/
def build (setting : Setting) (files : FileSystem) (jobs : Option Nat) (onlyVersions : Bool) :
    Response :=
  let site := do
    let config ← SiteConfig.load files setting.root
    Site.gather files setting.root { config with jobs := jobs <|> config.jobs }
  match site with
  | .error error => failed files "" error
  | .ok site =>
      let path := setting.root.join site.config.versionFile
      match VersionTable.write site.table files path with
      | (files, .error error) => failed files "" error
      | (files, .ok ()) =>
          let output :=
            "Wrote version metadata for " ++ toString site.table.size ++ " product(s) to " ++
              shown setting.root path ++ "\n"
          if onlyVersions then done files output else setting.buildSite files site output

def versions (setting : Setting) (files : FileSystem) (format : TableFormat) : Response :=
  let table := do
    let config ← SiteConfig.load files setting.root
    VersionTable.gather files (setting.root.join config.contentDir) config.products
  match table with
  | .error error => failed files "" error
  | .ok table => done files (tableOutput setting.plain table format)

/-- The document in a file and its text, with the table of versions that was written
last. -/
def transformed (setting : Setting) (files : FileSystem) (file : Path) :
    Except Error (Document × String) := do
  let config ← SiteConfig.load files setting.root
  let table ← VersionTable.load files (setting.root.join config.versionFile)
  let site ← Site.make setting.root config table
  let document ← site.document file
  let text ← (site.transform files .empty document).2
  pure (document, text)

def transform (setting : Setting) (files : FileSystem) (file : Path) (printed : Bool) : Response :=
  match setting.transformed files file with
  | .error error => failed files "" error
  | .ok (document, text) =>
      if printed then
        done files text
      else
        match Site.writeDocument files document text with
        | (files, .error error) => failed files "" error
        | (files, .ok ()) =>
            done files ("Wrote " ++ shown setting.root document.outputPath ++ "\n")

end Setting

/-- What a request asks of the files. Paths start at the current directory. -/
def Request.run (request : Request) (plain : Bool) (files : FileSystem) : Response :=
  let current := FileSystem.locationPath files.current
  let setting : Setting :=
    { root := current.absolute ⟨request.path.getD current.text⟩
      verbose := request.verbose
      plain := plain || request.plain }
  match request.action with
  | none => ⟨1, "", noCommandText, files⟩
  | some (.build jobs onlyVersions) => setting.build files jobs onlyVersions
  | some (.versions format) => setting.versions files format
  | some (.transform file printed) => setting.transform files (current.absolute ⟨file⟩) printed

/-- Runs a command line. `plain` switches colors off whatever it says. -/
def run (plain : Bool) (files : FileSystem) (arguments : List String) : Response :=
  match Request.read arguments with
  | .ok request => request.run plain files
  | .error .help => done files helpText
  | .error .version => done files versionText
  | .error .misuse => ⟨2, "", misuseText, files⟩

end Command
end Docloom
