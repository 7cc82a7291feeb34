import Docloom.Text.Digit
import Docloom.Yaml.Cursor

/-!
# Texts of scalars

A scalar is written plainly, in quotes or as a block of lines. Inside it a single
line break stands for a blank, unless it is a literal block.
-/

namespace Docloom
namespace Yaml

/-- White space between two pieces of a scalar. -/
structure Gap where
  /-- Blanks of the line. -/
  spaces : List Char := []
  /-- The first line break, none if there is none. -/
  first : Option (List Char) := none
  /-- The line breaks after the first. -/
  more : List Char := []

namespace Gap

/-- What the gap stands for. -/
def text (gap : Gap) : List Char :=
  match gap.first with
  | none => gap.spaces
  | some ['\n'] => if gap.more.isEmpty then [' '] else gap.more
  | some first => first ++ gap.more

/-- Reads blanks and line breaks. Blanks at the start of a line do not count. Before
the column `indent` there may be no tab. -/
def read (indent : Nat) : Nat → Gap → Cursor → Option (Gap × Cursor)
  | 0, gap, cursor => some (gap, cursor)
  | fuel + 1, gap, cursor =>
      match cursor.peek with
      | none => some (gap, cursor)
      | some c =>
          if isSpace c then
            match gap.first with
            | some _ =>
                if c == '\t' && cursor.column < indent then
                  none
                else
                  read indent fuel gap (cursor.skip 1)
            | none => read indent fuel { gap with spaces := gap.spaces ++ [c] } (cursor.skip 1)
          else if isBreak c then
            let (text, next) := cursor.skipBreak
            match gap.first with
            | none => read indent fuel { gap with spaces := [], first := some text } next
            | some _ => read indent fuel { gap with more := gap.more ++ text } next
          else
            some (gap, cursor)

end Gap

/-!
# Quoted scalars
-/

/-- The character of an escape that is one letter. -/
def escape? : Char → Option Char
  | '0' => some '\x00'
  | 'a' => some '\x07'
  | 'b' => some '\x08'
  | 't' => some '\t'
  | '\t' => some '\t'
  | 'n' => some '\n'
  | 'v' => some '\x0b'
  | 'f' => some '\x0c'
  | 'r' => some '\r'
  | 'e' => some '\x1b'
  | ' ' => some ' '
  | '"' => some '"'
  | '/' => some '/'
  | '\\' => some '\\'
  | 'N' => some '\x85'
  | '_' => some '\xa0'
  | 'L' => some '\u2028'
  | 'P' => some '\u2029'
  | _ => none

/-- The number of digits after the letter of an escape. -/
def escapeDigits? : Char → Option Nat
  | 'x' => some 2
  | 'u' => some 4
  | 'U' => some 8
  | _ => none

/-- Reads an escape after its backslash. -/
def readEscape (cursor : Cursor) : Option (Char × Cursor) := do
  let letter ← cursor.peek
  match escapeDigits? letter with
  | some count =>
      let (c, _) ← Text.readHexChar count (cursor.rest.drop 1)
      pure (c, cursor.skip (count + 1))
  | none => pure (← escape? letter, cursor.skip 1)

/-- The characters of a quoted scalar up to white space or the closing quote. After a
backslash a line break does not count; then the last part of the result is true. -/
def readQuotedWord (quote : Char) :
    Nat → Cursor → Option (List Char × Cursor × Bool)
  | 0, _ => none
  | fuel + 1, cursor =>
      match cursor.rest with
      | [] => some ([], cursor, false)
      | c :: rest =>
          if isSpace c || isBreak c then
            some ([], cursor, false)
          else if c == quote then
            if quote == '\'' && rest.head? == some quote then do
              let (read, next) ← readQuotedWord quote fuel (cursor.skip 2)
              pure (quote :: read, next)
            else
              some ([], cursor, false)
          else if quote == '"' && c == '\\' then
            let next := cursor.skip 1
            if next.atBreak then
              some ([], next.skipBreak.2, true)
            else do
              let (c, next) ← readEscape next
              let (read, next) ← readQuotedWord quote fuel next
              pure (c :: read, next)
          else do
            let (read, next) ← readQuotedWord quote fuel (cursor.skip 1)
            pure (c :: read, next)

/-- Reads a quoted scalar after its opening quote, and the closing quote. -/
def readQuoted (quote : Char) : Nat → Cursor → Option (List Char × Cursor)
  | 0, _ => none
  | fuel + 1, cursor => do
      if cursor.atDocumentMark then
        none
      let (word, cursor, joined) ← readQuotedWord quote (cursor.rest.length + 1) cursor
      match cursor.peek with
      | none => none
      | some c =>
          if c == quote && !joined then
            pure (word, cursor.skip 1)
          else
            let start : Gap := if joined then { first := some [] } else {}
            let (gap, cursor) ← Gap.read 0 (cursor.rest.length + 1) start cursor
            let (rest, cursor) ← readQuoted quote fuel cursor
            pure (word ++ gap.text ++ rest, cursor)

/-!
# Plain scalars
-/

def isFlowMark (c : Char) : Bool :=
  c == ',' || c == '[' || c == ']' || c == '\x7b' || c == '\x7d'

/-- The characters of a plain scalar up to white space or a mark that ends it. -/
def readPlainWord (inFlow : Bool) : List Char → Option (List Char)
  | [] => some []
  | c :: rest =>
      if isSpace c || isBreak c then
        some []
      else if c == ':' && inFlow && rest.head?.any (fun next => isFlowMark next || next == '?') then
        none
      else if (c == ':' && isGap rest.head?) || (inFlow && isFlowMark c) then
        some []
      else
        (readPlainWord inFlow rest).map (c :: ·)

/-- Reads a plain scalar. Outside of flow collections it goes on in lines that are
indented by `indent`. Also returns whether a line break follows it. -/
def readPlain (inFlow : Bool) (indent : Nat) :
    Nat → Cursor → Option (List Char × Cursor × Bool)
  | 0, _ => none
  | fuel + 1, cursor =>
      if cursor.atDocumentMark || cursor.peek == some '#' then
        some ([], cursor, false)
      else do
        let word ← readPlainWord inFlow cursor.rest
        let cursor := cursor.skip word.length
        if !(cursor.atSpace || cursor.atBreak) then
          pure (word, cursor, false)
        else
          let (gap, next) ← Gap.read indent (cursor.rest.length + 1) {} cursor
          let broken := gap.first.isSome
          if !inFlow && next.column < indent then
            pure (word, next, broken)
          else
            let (rest, last, after) ← readPlain inFlow indent fuel next
            if rest.isEmpty then
              pure (word, last, broken || after)
            else
              pure (word ++ gap.text ++ rest, last, after)

/-!
# Blocks of lines
-/

inductive Chomping where
  | strip
  | clip
  | keep
  deriving DecidableEq

/-- Reads one sign of a block: how its end is cut, or how far it is indented. -/
def readSign (cursor : Cursor) : Option (Option Chomping × Option Nat × Cursor) :=
  match cursor.peek with
  | some '+' => some (some .keep, none, cursor.skip 1)
  | some '-' => some (some .strip, none, cursor.skip 1)
  | some c =>
      if c == '0' then
        none
      else if c.isDigit then
        some (none, some (c.toNat - '0'.toNat), cursor.skip 1)
      else
        some (none, none, cursor)
  | none => some (none, none, cursor)

/-- Reads the signs after the mark of a block, up to the end of the line. -/
def readHeader (cursor : Cursor) : Option (Chomping × Option Nat × Cursor) := do
  let (chomping, width, cursor) ← readSign cursor
  let (chomping, width, cursor) ←
    match chomping, width with
    | some chomping, _ => do
        if cursor.peek.any Char.isDigit then
          let (_, width, cursor) ← readSign cursor
          pure (chomping, width, cursor)
        else
          pure (chomping, width, cursor)
    | none, some width =>
        if cursor.peek == some '+' || cursor.peek == some '-' then do
          let (chomping, _, cursor) ← readSign cursor
          pure (chomping.getD .clip, some width, cursor)
        else
          pure (.clip, some width, cursor)
    | none, none => pure (.clip, none, cursor)
  let cursor := (cursor.skipWhile isSpace).skipComment
  if isGap cursor.peek then
    pure (chomping, width, cursor.skipBreak.2)
  else
    none

/-- Reads empty lines and the indentation of the next line, of `indent` columns if
that is known. Returns the line breaks and the largest column. -/
def readIndent (indent : Option Nat) :
    Nat → Nat → List Char → Cursor → Option (List Char × Nat × Cursor)
  | 0, _, _, _ => none
  | fuel + 1, largest, breaks, cursor =>
      let blanks := (cursor.rest.takeWhile (· == ' ')).length
      let count :=
        match indent with
        | some indent => min blanks (indent - cursor.column)
        | none => blanks
      let cursor := cursor.skip count
      let largest := max largest cursor.column
      if cursor.peek == some '\t' && indent.all (cursor.column < ·) then
        none
      else if cursor.atBreak then
        let (text, next) := cursor.skipBreak
        readIndent indent fuel largest (breaks ++ text) next
      else
        some (breaks, largest, cursor)

/-- A block while its lines are read. -/
structure BlockText where
  text : List Char
  /-- The break of the last line. -/
  leading : List Char
  /-- The breaks of empty lines after it. -/
  trailing : List Char
  /-- Whether the last line began with white space. -/
  spaced : Bool

/-- Adds a line to a block. -/
def BlockText.add (block : BlockText) (isLiteral spaced : Bool) (line : List Char) : List Char :=
  let between :=
    if !isLiteral && block.leading.head? == some '\n' && !block.spaced && !spaced then
      if block.trailing.isEmpty then [' '] else block.trailing
    else
      block.leading ++ block.trailing
  block.text ++ between ++ line

/-- Reads the lines of a block that are indented by `indent` columns. -/
def readLines (isLiteral : Bool) (indent : Nat) :
    Nat → BlockText → Cursor → Option (BlockText × Cursor)
  | 0, _, _ => none
  | fuel + 1, block, cursor =>
      if cursor.column == indent && !cursor.rest.isEmpty then do
        let spaced := cursor.atSpace
        let (line, next) := cursor.takeWhile (!isBreak ·)
        let (leading, next) := next.skipBreak
        let (trailing, _, next) ← readIndent (some indent) (next.rest.length + 1) 0 [] next
        readLines isLiteral indent fuel
          ⟨block.add isLiteral spaced line, leading, trailing, spaced⟩ next
      else
        some (block, cursor)

/-- Reads a block after its mark. `outer` is the indentation of the collection that it
stands in. -/
def readBlock (isLiteral : Bool) (outer : Int) (cursor : Cursor) :
    Option (List Char × Cursor) := do
  let (chomping, width, cursor) ← readHeader cursor
  let given := width.map fun width => (max outer 0).toNat + width
  let (breaks, largest, cursor) ← readIndent given (cursor.rest.length + 1) 0 [] cursor
  let indent := given.getD (max largest (max (outer + 1).toNat 1))
  let (block, cursor) ←
    readLines isLiteral indent (cursor.rest.length + 1) ⟨[], [], breaks, false⟩ cursor
  let ending :=
    match chomping with
    | .strip => []
    | .clip => block.leading
    | .keep => block.leading ++ block.trailing
  pure (block.text ++ ending, cursor)

end Yaml
end Docloom
