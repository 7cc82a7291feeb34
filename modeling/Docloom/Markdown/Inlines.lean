import Docloom.Markdown.Emphasis
import Docloom.Markdown.Html
import Docloom.Markdown.Target

/-!
# Reading inline tokens

The characters of a run are read from left to right. Square brackets are kept on
a stack; a closing bracket ends the innermost open one, as a link when a target or
a definition is there, and as plain text otherwise.
-/

namespace Docloom
namespace Markdown

/-- The labels that a text may refer to, in the form in which they are compared. -/
structure Labels where
  definitions : List String
  notes : List String

inductive BracketKind where
  | image
  | link
  | note
  deriving DecidableEq, Repr

/-- An open bracket, with the tokens before it from the last to the first. A
bracket is not active when it would put a link into a link. -/
structure Bracket where
  kind : BracketKind
  start : Nat
  textStart : Nat
  active : Bool
  before : List Inline

structure Scan where
  tokens : List Inline
  brackets : List Bracket

namespace Scan

def push (scan : Scan) (token : Inline) : Scan :=
  { scan with tokens := token :: scan.tokens }

/-- The innermost bracket opens nothing. -/
def dropBracket (scan : Scan) : Scan :=
  match scan.brackets with
  | [] => scan
  | bracket :: brackets =>
      { tokens := scan.tokens ++ .data bracket.start bracket.textStart :: bracket.before
        brackets }

/-- The tokens, from the first to the last, when all open brackets open nothing. -/
def finish (scan : Scan) : Nat → List Inline
  | 0 => scan.tokens.reverse
  | fuel + 1 =>
      match scan.brackets with
      | [] => scan.tokens.reverse
      | _ :: _ => scan.dropBracket.finish fuel

def deactivate (bracket : Bracket) : Bracket :=
  match bracket.kind with
  | .image => bracket
  | _ => { bracket with active := false }

/-- The innermost bracket ends at `stop`. Brackets around a link can no longer open
one. -/
def closeBracket (source : Source) (run : Run) (scan : Scan) (stop : Nat) (wrapper : Wrapper) :
    Scan :=
  match scan.brackets with
  | [] => scan
  | bracket :: brackets =>
      let inside :=
        match bracket.kind with
        | .note => scan.tokens ++ [Inline.data (bracket.start + 1) bracket.textStart]
        | _ => scan.tokens
      { tokens :=
          .span bracket.start stop wrapper (matchEmphasis source run inside.reverse) ::
            bracket.before
        brackets := if wrapper = .image then brackets else brackets.map deactivate }

end Scan

/-!
# Closing brackets
-/

/-- What a bracket opens that closes at `i`, and the index after it: a resource or a
reference follows, or the text is a label itself. -/
def bracketTarget? (source : Source) (labels : Labels) (run : Run) (bracket : Bracket)
    (i : Nat) : Option (Wrapper × Nat) :=
  let raw (a b : Nat) : String := source.between (run.place a) (run.place b)
  let caret := match bracket.kind with
    | .note => "^"
    | _ => ""
  let matching := caret ++ matchingLabel (raw bracket.textStart i)
  let first := match bracket.kind with
    | .note => bracket.start + 1
    | _ => bracket.textStart
  let reference (label : Option String) (style : ReferenceStyle) (identifier : String)
      (stop : Nat) : Wrapper × Nat :=
    (match bracket.kind with
      | .image => .image
      | _ => .reference identifier label style, stop)
  let defined := labels.definitions.contains matching
  let identifier := labelIdentifier (raw first i)
  let shortcut : Option (Wrapper × Nat) :=
    if defined then some (reference none .shortcut identifier (i + 1)) else none
  if run.isAt (i + 1) '(' then
    match run.resource? (i + 1) with
    | some target =>
        let decoded (extent : Extent) : String := run.decoded source extent.start extent.stop
        let url := (target.destination.map decoded).getD ""
        let title := target.title.bind fun title =>
          if title.start < title.stop then some (decoded title) else none
        let wrapper : Wrapper := match bracket.kind with
          | .image => .image
          | _ => .link url title
        some (wrapper, target.next)
    | none => shortcut
  else if run.isAt (i + 1) '[' then
    let collapsed : Option (Wrapper × Nat) :=
      if defined && run.isAt (i + 2) ']' then
        some (reference none .collapsed identifier (i + 3))
      else
        none
    match run.label? (i + 1) with
    | some label =>
        let text := raw label.start label.stop
        if labels.definitions.contains (matchingLabel text) then
          some
            (reference (some (run.decoded source label.start label.stop)) .full
              (labelIdentifier text) label.next)
        else
          collapsed
    | none => collapsed
  else
    shortcut

/-- Reads a closing bracket at `i`. Returns the index after what it ends. -/
def closeAt (source : Source) (labels : Labels) (run : Run) (scan : Scan) (i : Nat) :
    Scan × Nat :=
  let plain (scan : Scan) : Scan × Nat := (scan.push (.data i (i + 1)), i + 1)
  match scan.brackets with
  | [] => plain scan
  | bracket :: brackets =>
      if !bracket.active then
        plain scan.dropBracket
      else
        let text := source.between (run.place bracket.textStart) (run.place i)
        if bracket.kind = .note && labels.notes.contains (matchingLabel text) then
          ({ tokens := .atom bracket.start (i + 1) .note :: bracket.before
             brackets := brackets.map Scan.deactivate }, i + 1)
        else
          match bracketTarget? source labels run bracket i with
          | some (wrapper, stop) => (scan.closeBracket source run stop wrapper, stop)
          | none => plain scan.dropBracket

/-!
# Code and urls in brackets
-/

namespace Run

/-- The next run of exactly `size` back quotes, from `i` on. -/
def codeStop? (run : Run) (size : Nat) : Nat → Nat → Option Nat
  | 0, _ => none
  | fuel + 1, i =>
      let j := run.skip (· != '\x60') i
      let k := run.skip (· == '\x60') j
      if j = k then
        none
      else if k - j = size then
        some j
      else
        run.codeStop? size fuel k

/-- The code at `i`, and the index after it. -/
def codeAt? (run : Run) (i : Nat) : Option (Atom × Nat) :=
  let first := run.skip (· == '\x60') i
  let size := first - i
  (run.codeStop? size (run.size + 1) first).map fun j => (.code first j, j + size)

def isScheme (c : Char) : Bool :=
  c.isAlphanum || c == '+' || c == '-' || c == '.'

def isMailName (c : Char) : Bool :=
  c.isAlphanum || "!#$%&'*+-./=?^_\x60\x7b|\x7d~".toList.contains c

/-- The end of the domain of an address in angle brackets: labels of at most 63
characters, none of which ends in a dash. -/
def mailDomain? (run : Run) : Nat → Nat → Option Nat
  | 0, _ => none
  | fuel + 1, i =>
      let j := run.skipUpTo (fun c => c.isAlphanum || c == '-') 63 i
      if !run.sat Char.isAlphanum i || run.isAt (j - 1) '-' then
        none
      else if run.isAt j '.' then
        run.mailDomain? fuel (j + 1)
      else if run.isAt j '>' then
        some (j + 1)
      else
        none

/-- The url or address in angle brackets at `i`, and the index after it. -/
def autolink? (run : Run) (i : Nat) : Option (Atom × Nat) :=
  if !run.isAt i '<' then
    none
  else
    let first := i + 1
    let scheme := run.skipUpTo isScheme 32 first
    if run.sat Char.isAlpha first && first + 1 < scheme && run.isAt scheme ':' then
      let stop := run.skip
        (fun c => 32 < c.toNat && c.toNat != 127 && c != '<' && c != '>') scheme
      if run.isAt stop '>' then some (.autolink false, stop + 1) else none
    else
      let name := run.skip isMailName first
      if first < name && run.isAt name '@' then
        (run.mailDomain? (run.size + 1) (name + 1)).map fun stop => (.autolink true, stop)
      else
        none

/-- The bare url at `i`, and the index after it. -/
def bareUrl? (run : Run) (i : Nat) : Option (Atom × Nat) :=
  if run.sat (fun c => c == 'h' || c == 'H') i then
    (run.protocolUrl? i).map fun stop => (.url "", stop)
  else
    (run.wwwUrl? i).map fun stop => (.url "http://", stop)

end Run

/-!
# Reading a run
-/

/-- Whether a token can start at the character. -/
def startsToken (c : Char) : Bool :=
  "\n!&*<HW[\\]_\x60hw~".toList.contains c

/-- Reads the token at `i`. -/
def readToken (source : Source) (labels : Labels) (run : Run) (scan : Scan) (i : Nat) :
    Scan × Nat :=
  let plain : Scan × Nat :=
    let j := run.skip (fun c => !startsToken c) (i + 1)
    (scan.push (.data i j), j)
  let atom (found : Option (Atom × Nat)) : Scan × Nat :=
    match found with
    | some (atom, j) => (scan.push (.atom i j atom), j)
    | none => plain
  let open_ (kind : BracketKind) (j : Nat) : Scan × Nat :=
    ({ tokens := [], brackets := ⟨kind, i, j, true, scan.tokens⟩ :: scan.brackets }, j)
  match run.char? i with
  | none => plain
  | some c =>
      if c == '\n' then
        (scan.push (.line i), i + 1)
      else if c == '!' then
        if run.isAt (i + 1) '[' && !run.isAt (i + 2) '^' then open_ .image (i + 2) else plain
      else if c == '[' then
        if run.isAt (i + 1) '^' then open_ .note (i + 2) else open_ .link (i + 1)
      else if c == ']' then
        closeAt source labels run scan i
      else if c == '&' then
        match run.reference? i with
        | some (j, text) => (scan.push (.reference i j text), j)
        | none => plain
      else if c == '*' || c == '_' || c == '~' then
        let j := run.skip (· == c) i
        (scan.push (.marks i (j - i) c), j)
      else if c == '<' then
        match run.autolink? i with
        | some found => atom (some found)
        | none => atom ((run.htmlStop? i).map fun j => (.html, j))
      else if c == '\\' then
        if run.escapes i then
          (scan.push (.escape i), i + 2)
        else if run.isAt (i + 1) '\n' then
          (scan.push (.hardBreak i), i + 1)
        else
          plain
      else if c == '\x60' then
        let escaped :=
          match scan.tokens with
          | .escape _ :: _ => true
          | _ => false
        if run.charBefore? i == some '\x60' && !escaped then plain else atom (run.codeAt? i)
      else
        atom (run.bareUrl? i)

/-- Reads tokens from `i` on. -/
def readTokens (source : Source) (labels : Labels) (run : Run) (scan : Scan) (i : Nat) : Scan :=
  if i < run.size then
    let (scan, j) := readToken source labels run scan i
    readTokens source labels run scan (max (i + 1) j)
  else
    scan
termination_by run.size - i

/-- The tokens of a run from `i` on. -/
def Run.inlines (run : Run) (source : Source) (labels : Labels) (i : Nat) : List Inline :=
  let scan := readTokens source labels run ⟨[], []⟩ i
  matchEmphasis source run (scan.finish scan.brackets.length)

end Markdown
end Docloom
