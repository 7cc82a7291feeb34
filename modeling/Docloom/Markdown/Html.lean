import Docloom.Markdown.Run
import Docloom.Text.Case

/-!
# Embedded markup

Comments, instructions, declarations, character data and tags. As a block, such
markup goes on for whole lines; inside a line it ends where its last character
stands.
-/

namespace Docloom
namespace Markdown

/-- What a block of markup starts with, which decides where it ends. -/
inductive HtmlBlock where
  /-- An element whose content is not read; ends in a line with an end tag. -/
  | literal
  | comment
  | instruction
  | declaration
  | characterData
  /-- A tag of a block element; ends before a blank line. -/
  | named
  /-- Any tag alone on its line; ends before a blank line. -/
  | tag
  deriving DecidableEq, Repr

/-- Whether the block ends before a blank line. -/
def HtmlBlock.endsAtBlank : HtmlBlock → Bool
  | .named => true
  | .tag => true
  | _ => false

def literalTags : List String := ["pre", "script", "style", "textarea"]

def blockTags : List String :=
  ["address", "article", "aside", "base", "basefont", "blockquote", "body", "caption", "center",
    "col", "colgroup", "dd", "details", "dialog", "dir", "div", "dl", "dt", "fieldset",
    "figcaption", "figure", "footer", "form", "frame", "frameset", "h1", "h2", "h3", "h4", "h5",
    "h6", "head", "header", "hr", "html", "iframe", "legend", "li", "link", "main", "menu",
    "menuitem", "nav", "noframes", "ol", "optgroup", "option", "p", "param", "search", "section",
    "summary", "table", "tbody", "td", "tfoot", "th", "thead", "title", "tr", "track", "ul"]

def isTagNameChar (c : Char) : Bool :=
  c.isAlphanum || c == '-'

def isAttributeStart (c : Char) : Bool :=
  c.isAlpha || c == ':' || c == '_'

def isAttributeChar (c : Char) : Bool :=
  c.isAlphanum || c == ':' || c == '_' || c == '-' || c == '.'

def startsDeclaration : List Char := "[CDATA[".toList

namespace Run

/-!
# Tags in one line
-/

/-- The end of the attribute value that starts at `i`, and whether it stands
without quotes. `space` passes over the blanks that may stand inside a tag. -/
def attributeValue? (run : Run) (space : Nat → Nat) (oneLine : Bool) (i : Nat) :
    Option (Nat × Bool) :=
  let start := space i
  let ends (c : Char) : Bool := Text.isSpace c || c == '\n' || c == '/' || c == '>'
  let refused (c : Char) : Bool :=
    c == '"' || c == '\'' || c == '<' || c == '=' || c == '\x60'
  match run.char? start with
  | none => none
  | some c =>
      if c == '"' || c == '\'' then
        let stop := run.skip (fun d => d != c && !(oneLine && d == '\n')) (start + 1)
        if run.isAt stop c && run.sat ends (stop + 1) then some (stop + 1, false) else none
      else if refused c || c == '>' then
        none
      else if oneLine then
        some (run.skip (fun d => !refused d && !ends d) start, true)
      else
        let stop := run.skip (fun d => !refused d && !ends d) (start + 1)
        if run.sat ends stop then some (stop, true) else none

/-- The index at which the attributes of a tag end, after the slash that may
close it. In one line a value without quotes may be followed by another. -/
def attributes? (run : Run) (space : Nat → Nat) (oneLine : Bool) :
    Nat → Bool → Nat → Option Nat
  | 0, _, _ => none
  | fuel + 1, named, i =>
      let j := space i
      if named && run.isAt j '=' then
        match run.attributeValue? space oneLine (j + 1) with
        | some (stop, bare) => run.attributes? space oneLine fuel (oneLine && bare) stop
        | none => none
      else if run.isAt j '/' then
        some (j + 1)
      else if run.sat isAttributeStart j then
        run.attributes? space oneLine fuel true (run.skip isAttributeChar (j + 1))
      else
        some j

/-!
# Blocks
-/

/-- The block of markup whose bracket stands at `i`, and the index from which its
end is looked for. `complete` tells whether any tag alone on its line will do. -/
def htmlBlock? (run : Run) (complete : Bool) (i : Nat) : Option (HtmlBlock × Nat) :=
  if !run.isAt i '<' then
    none
  else if run.isAt (i + 1) '!' then
    if run.looksAt ['-', '-'] (i + 2) then
      some (.comment, i + 2)
    else if run.looksAt startsDeclaration (i + 2) then
      some (.characterData, i + 2 + startsDeclaration.length)
    else if run.sat Char.isAlpha (i + 2) then
      some (.declaration, i + 3)
    else
      none
  else if run.isAt (i + 1) '?' then
    some (.instruction, i + 1)
  else
    let closing := run.isAt (i + 1) '/'
    let first := if closing then i + 2 else i + 1
    let last := run.skip isTagNameChar first
    if !run.sat Char.isAlpha first then
      none
    else if !(run.atLineEnd last ||
        run.sat (fun c => c == ' ' || c == '\t' || c == '/' || c == '>') last) then
      none
    else
      let name := Text.toLower (String.ofList (run.chars first last))
      let slash := run.isAt last '/'
      if !slash && !closing && literalTags.contains name then
        some (.literal, last)
      else if blockTags.contains name then
        if slash && !run.isAt (last + 1) '>' then none else some (.named, last)
      else if !complete then
        none
      else
        let stop :=
          if closing then
            some (run.skipSpace last)
          else
            run.attributes? run.skipSpace true (run.size + 1) false last
        match stop with
        | some j =>
            if run.isAt j '>' && run.atLineEnd (run.skipSpace (j + 1)) then
              some (.tag, last)
            else
              none
        | none => none

/-- Whether an end tag of a literal element stands at `i`. -/
def isLiteralEnd (run : Run) (i : Nat) : Bool :=
  let last := run.skipUpTo Char.isAlpha 8 (i + 2)
  run.looksAt ['<', '/'] i && run.isAt last '>' &&
    literalTags.contains (Text.toLower (String.ofList (run.chars (i + 2) last)))

/-- Whether an end tag of a literal element stands at `i` or after it. -/
def hasLiteralEnd (run : Run) (i : Nat) : Bool :=
  if run.isLiteralEnd i then
    true
  else if i < run.cells.size then
    run.hasLiteralEnd (i + 1)
  else
    false
termination_by run.cells.size - i

/-- Whether character data ends at `i` or after it. Closing brackets are taken in
pairs. -/
def hasDataEnd (run : Run) (i : Nat) : Bool :=
  if i < run.cells.size then
    if run.looksAt [']', ']'] i then
      if run.isAt (i + 2) '>' then true else run.hasDataEnd (i + 2)
    else
      run.hasDataEnd (i + 1)
  else
    false
termination_by run.cells.size - i

/-- Whether the line, read from `i` on, holds the end of a block of markup. -/
def endsHtmlBlock (run : Run) (block : HtmlBlock) (i : Nat) : Bool :=
  match block with
  | .literal => run.hasLiteralEnd i
  | .comment => (run.find? ['-', '-', '>'] i).isSome
  | .instruction => (run.find? ['?', '>'] i).isSome
  | .declaration => (run.find? ['>'] i).isSome
  | .characterData => run.hasDataEnd i
  | .named => false
  | .tag => false

/-!
# Markup inside a line
-/

/-- Blanks, tabs and line endings. -/
def skipSpaceAndLines (run : Run) (i : Nat) : Nat :=
  run.skip (fun c => Text.isSpace c || c == '\n') i

/-- The index after a tag whose name starts at `i`. -/
def tagStop? (run : Run) (closing : Bool) (i : Nat) : Option Nat :=
  if !run.sat Char.isAlpha i then
    none
  else
    let last := run.skip isTagNameChar i
    let stop :=
      if closing then
        some (run.skipSpaceAndLines last)
      else if run.sat (fun c => c == '/' || c == '>' || Text.isSpace c || c == '\n') last then
        run.attributes? run.skipSpaceAndLines false (run.size + 1) false last
      else
        none
    match stop with
    | some j => if run.isAt j '>' then some (j + 1) else none
    | none => none

/-- The index after the markup that starts at `i`. -/
def htmlStop? (run : Run) (i : Nat) : Option Nat :=
  if !run.isAt i '<' then
    none
  else if run.isAt (i + 1) '!' then
    if run.looksAt ['-', '-'] (i + 2) then
      (run.find? ['-', '-', '>'] (i + 2)).map (· + 3)
    else if run.looksAt startsDeclaration (i + 2) then
      (run.find? [']', ']', '>'] (i + 2 + startsDeclaration.length)).map (· + 3)
    else if run.sat Char.isAlpha (i + 2) then
      (run.find? ['>'] (i + 2)).map (· + 1)
    else
      none
  else if run.isAt (i + 1) '?' then
    (run.find? ['?', '>'] (i + 2)).map (· + 2)
  else if run.isAt (i + 1) '/' then
    run.tagStop? true (i + 2)
  else
    run.tagStop? false (i + 1)

end Run
end Markdown
end Docloom
