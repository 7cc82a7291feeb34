import Docloom.Text.Cut

/-!
# Command lines

A command line has options, a command, and what the command needs. It is read from
the front, and the first thing that cannot stay, or that asks for help, ends the
reading.
-/

namespace Docloom

namespace Command

inductive TableFormat where
  | text
  | json
  deriving DecidableEq, Repr

inductive Action where
  | build (jobs : Option Nat) (onlyVersions : Bool)
  | versions (format : TableFormat)
  | transform (file : String) (printed : Bool)
  deriving DecidableEq, Repr

/-- What a command line asks for. -/
structure Request where
  path : Option String
  verbose : Bool
  /-- Whether colors are switched off. -/
  plain : Bool
  action : Option Action
  deriving DecidableEq, Repr

/-- Why a command line asks for nothing. -/
inductive Stop where
  | help
  | version
  | misuse
  deriving DecidableEq, Repr

/-!
# Names
-/

inductive CommandName where
  | build
  | versions
  | transform
  | help
  deriving DecidableEq, Repr

namespace CommandName

def text : CommandName → String
  | build => "build"
  | versions => "version-metadata"
  | transform => "transform"
  | help => "help"

def all : List CommandName := [build, versions, transform, help]

def ofText? (text : String) : Option CommandName :=
  all.find? fun name => name.text == text

end CommandName

inductive OptionName where
  | path
  | verbose
  | plain
  | help
  | version
  | jobs
  | onlyVersions
  | format
  | printed
  deriving DecidableEq, Repr

namespace OptionName

def text : OptionName → String
  | path => "path"
  | verbose => "verbose"
  | plain => "no-color"
  | help => "help"
  | version => "version"
  | jobs => "jobs"
  | onlyVersions => "only-version-metadata"
  | format => "format"
  | printed => "stdout"

def letter? : OptionName → Option Char
  | path => some 'p'
  | verbose => some 'v'
  | help => some 'h'
  | version => some 'V'
  | jobs => some 'j'
  | _ => none

def takesValue : OptionName → Bool
  | path => true
  | jobs => true
  | format => true
  | _ => false

/-- The options that may follow a command; none stands for those before it. -/
def allowed (command : Option CommandName) : List OptionName :=
  let own :=
    match command with
    | none => [version]
    | some .build => [jobs, onlyVersions]
    | some .versions => [format]
    | some .transform => [printed]
    | some .help => []
  [path, verbose, plain, help] ++ own

end OptionName

/-!
# Options
-/

structure Options where
  path : Option String := none
  verbose : Bool := false
  plain : Bool := false
  jobs : Option Nat := none
  onlyVersions : Bool := false
  format : Option TableFormat := none
  printed : Bool := false
  file : Option String := none
  deriving DecidableEq, Repr

namespace Options

def maxJobs : Nat := Nat.pow 2 64 - 1

/-- The number of an option, of decimal digits that a plus may precede. -/
def number? (text : String) : Option Nat :=
  let digits :=
    match text.toList with
    | '+' :: rest => rest
    | cs => cs
  if digits.isEmpty || !digits.all Char.isDigit then
    none
  else
    let value := digits.foldl (fun value c => 10 * value + (c.toNat - '0'.toNat)) 0
    if value ≤ maxJobs then some value else none

def format? (text : String) : Option TableFormat :=
  match text with
  | "text" => some .text
  | "json" => some .json
  | _ => none

/-- Switches something on that is not on yet. -/
def turnOn (done : Bool) (options : Options) : Except Stop Options :=
  if done then .error .misuse else .ok options

/-- Takes a value for something that has none yet. -/
def take (old : Option α) (value : Option α) (set : α → Options) : Except Stop Options :=
  match old, value with
  | none, some value => .ok (set value)
  | _, _ => .error .misuse

def text? (text : String) : Option String :=
  if text.isEmpty then none else some text

/-- Puts an option in. Options count once. -/
def put (options : Options) (value : String) : OptionName → Except Stop Options
  | .help => .error .help
  | .version => .error .version
  | .path => take options.path (text? value) fun path => { options with path }
  | .jobs => take options.jobs (number? value) fun jobs => { options with jobs }
  | .format => take options.format (format? value) fun format => { options with format }
  | .verbose => turnOn options.verbose { options with verbose := true }
  | .plain => turnOn options.plain { options with plain := true }
  | .onlyVersions => turnOn options.onlyVersions { options with onlyVersions := true }
  | .printed => turnOn options.printed { options with printed := true }

/-- Puts a word in that is no option. Only one command has a place for one. -/
def putWord (options : Options) (word : String) : Option CommandName → Except Stop Options
  | some .transform => take options.file (text? word) fun file => { options with file }
  | _ => .error .misuse

end Options

/-!
# Reading
-/

/-- The options after an argument, and the one among them whose value is the next
argument. -/
abbrev Step := Options × Option OptionName

/-- Reads an option that is written out, with a value after `=`. -/
def readLong (command : Option CommandName) (options : Options) (text : String) :
    Except Stop Step :=
  let (name, value) :=
    match Text.splitOnce '=' text with
    | some (name, value) => (name, some value)
    | none => (text, none)
  match (OptionName.allowed command).find? fun option => option.text == name with
  | none => .error .misuse
  | some option =>
      match option.takesValue, value with
      | true, some value => (options.put value option).map fun options => (options, none)
      | true, none => .ok (options, some option)
      | false, some _ => .error .misuse
      | false, none => (options.put "" option).map fun options => (options, none)

/-- Reads the letters of options. What follows the letter of an option with a value
is the value. -/
def readLetters (command : Option CommandName) (options : Options) :
    List Char → Except Stop Step
  | [] => .ok (options, none)
  | letter :: rest =>
      match (OptionName.allowed command).find? fun option => option.letter? == some letter with
      | none => .error .misuse
      | some option =>
          if option.takesValue then
            match rest with
            | [] => .ok (options, some option)
            | '=' :: value =>
                (options.put (String.ofList value) option).map fun options => (options, none)
            | value =>
                (options.put (String.ofList value) option).map fun options => (options, none)
          else
            match options.put "" option with
            | .ok options => readLetters command options rest
            | .error stop => .error stop

/-- Whether an argument is written like an option. -/
def isOption (argument : String) : Bool :=
  Text.startsWith "-" argument && argument != "-"

def readArgument (command : Option CommandName) (options : Options) (argument : String) :
    Except Stop Step :=
  match Text.afterStart? "--" argument with
  | some long => readLong command options long
  | none =>
      if isOption argument then
        readLetters command options (argument.toList.drop 1)
      else
        (options.putWord argument command).map fun options => (options, none)

def readWords (command : Option CommandName) (options : Options) :
    List String → Except Stop Options
  | [] => .ok options
  | word :: words =>
      match options.putWord word command with
      | .ok options => readWords command options words
      | .error stop => .error stop

/-- Reads the arguments after a command, or those before it with the command and what
follows. After `--` there are words only. -/
def readArguments (command : Option CommandName) (options : Options) :
    List String → Except Stop (Options × Option (CommandName × List String))
  | [] => .ok (options, none)
  | argument :: rest =>
      match if command.isNone then CommandName.ofText? argument else none with
      | some name => .ok (options, some (name, rest))
      | none =>
          if argument == "--" then
            (readWords command options rest).map fun options => (options, none)
          else
            match readArgument command options argument with
            | .error stop => .error stop
            | .ok (options, none) => readArguments command options rest
            | .ok (options, some option) =>
                match rest with
                | [] => .error .misuse
                | value :: rest =>
                    if isOption value then
                      .error .misuse
                    else
                      match options.put value option with
                      | .ok options => readArguments command options rest
                      | .error stop => .error stop

/-- What a command with its options asks for. -/
def Options.action (options : Options) : CommandName → Except Stop Action
  | .build => .ok (.build options.jobs options.onlyVersions)
  | .versions => .ok (.versions (options.format.getD .text))
  | .transform =>
      match options.file with
      | some file => .ok (.transform file options.printed)
      | none => .error .misuse
  | .help => .error .help

/-- Reads what follows the command for help, which is the name of a command. -/
def readHelp : List String → Stop
  | [] => .help
  | [name] => if (CommandName.ofText? name).isSome then .help else .misuse
  | _ => .misuse

/-- Reads a command line. Options that stand before and after the command count as
they stand after it. -/
def Request.read (arguments : List String) : Except Stop Request := do
  let (before, command) ← readArguments none {} arguments
  match command with
  | none => pure ⟨before.path, before.verbose, before.plain, none⟩
  | some (.help, rest) => throw (readHelp rest)
  | some (name, rest) =>
      let (after, _) ← readArguments (some name) {} rest
      let action ← after.action name
      pure
        { path := after.path <|> before.path
          verbose := after.verbose || before.verbose
          plain := after.plain || before.plain
          action }

end Command
end Docloom
