import Docloom.Yaml.Quoted

/-!
# Tokens

A YAML text is cut into tokens. The indentation of lines opens and closes
collections, and a key without a mark is found only when the colon after it is
reached; its token is then put in front of what was read since.
-/

namespace Docloom
namespace Yaml

inductive Token where
  /-- The version of the language that a text is written in. -/
  | version (major minor : Nat)
  /-- What a handle of tags stands for. -/
  | handle (handle start : String)
  | documentStart
  | documentEnd
  | blockSequence
  | blockMapping
  | blockEnd
  | flowSequence
  | flowSequenceEnd
  | flowMapping
  | flowMappingEnd
  | blockEntry
  | flowEntry
  | key
  | value
  | alias (name : String)
  | anchor (name : String)
  | tag (handle rest : String)
  | scalar (text : String) (plain : Bool)
  deriving DecidableEq, Repr

/-- A place where a key may have begun. -/
structure KeyPlace where
  /-- The number of tokens before it. -/
  token : Nat
  /-- Whether it must turn out to be a key. -/
  required : Bool
  index : Nat
  line : Nat
  column : Nat
  deriving Repr

structure Scanner where
  cursor : Cursor
  tokens : Array Token
  /-- The column of the innermost block collection, -1 if there is none. -/
  indent : Int
  /-- The columns of the collections around it. -/
  outer : List Int
  /-- Whether a key may begin here. -/
  keyAllowed : Bool
  /-- The place of the last possible key, for this and every outer flow
  collection. -/
  keys : List (Option KeyPlace)

namespace Scanner

def start (cs : List Char) : Scanner :=
  { cursor := .ofText cs, tokens := #[], indent := -1, outer := [], keyAllowed := true,
    keys := [none] }

def inFlow (scanner : Scanner) : Bool := 1 < scanner.keys.length

def push (scanner : Scanner) (token : Token) : Scanner :=
  { scanner with tokens := scanner.tokens.push token }

def skip (scanner : Scanner) (n : Nat) : Scanner :=
  { scanner with cursor := scanner.cursor.skip n }

/-!
# Indentation
-/

/-- Closes the block collections that are indented more than `column`. -/
def closeBlocks (column : Int) (scanner : Scanner) : Scanner :=
  if scanner.inFlow then
    scanner
  else
    let all := scanner.indent :: scanner.outer
    let closed := (all.takeWhile (column < ·)).length
    let left := all.drop closed
    { scanner with
      indent := left.headD (-1)
      outer := left.tail
      tokens := scanner.tokens ++ Array.replicate closed .blockEnd }

/-- Opens a block collection if `column` is further in than the innermost one. Its
token is put at a place among the tokens. -/
def openBlock (column place : Nat) (token : Token) (scanner : Scanner) : Scanner :=
  if scanner.inFlow || (column : Int) ≤ scanner.indent then
    scanner
  else
    { scanner with
      indent := column
      outer := scanner.indent :: scanner.outer
      tokens := scanner.tokens.insertIdxIfInBounds place token }

/-!
# Keys
-/

/-- Forgets the last place of a key. -/
def dropKey (scanner : Scanner) : Option Scanner :=
  match scanner.keys with
  | some key :: keys =>
      if key.required then none else some { scanner with keys := none :: keys }
  | _ => some scanner

/-- Keeps this place as one where a key may begin. -/
def saveKey (scanner : Scanner) : Option Scanner :=
  if scanner.keyAllowed then do
    let scanner ← scanner.dropKey
    let cursor := scanner.cursor
    let required := !scanner.inFlow && scanner.indent == (cursor.column : Int)
    let key : KeyPlace :=
      ⟨scanner.tokens.size, required, cursor.index, cursor.line, cursor.column⟩
    pure { scanner with keys := some key :: scanner.keys.tail }
  else
    some scanner

/-- A key has at most this many characters. -/
def maxKeyLength : Nat := 1024

/-- Forgets places that are too far away, or on another line. -/
def dropOldKeys (scanner : Scanner) : Option Scanner := do
  let cursor := scanner.cursor
  let keys ← scanner.keys.mapM fun key =>
    match key with
    | some place =>
        if place.line < cursor.line || place.index + maxKeyLength < cursor.index then
          if place.required then none else some none
        else
          some key
    | none => some none
  pure { scanner with keys }

/-!
# White space
-/

/-- Moves to the next token. -/
def skipGap : Nat → Scanner → Scanner
  | 0, scanner => scanner
  | fuel + 1, scanner =>
      let cursor := scanner.cursor
      let cursor :=
        if cursor.index == 0 && cursor.peek == some '\ufeff' then cursor.skip 1 else cursor
      let tabs := scanner.inFlow || !scanner.keyAllowed
      let cursor := (cursor.skipWhile fun c => c == ' ' || (tabs && c == '\t')).skipComment
      if cursor.atBreak then
        let keyAllowed := scanner.keyAllowed || !scanner.inFlow
        skipGap fuel { scanner with cursor := cursor.skipBreak.2, keyAllowed }
      else
        { scanner with cursor }

/-!
# Directives
-/

/-- A number of at most nine digits. -/
def readNumber (cursor : Cursor) : Option (Nat × Cursor) :=
  let (digits, next) := cursor.takeWhile Char.isDigit
  if digits.isEmpty || 9 < digits.length then
    none
  else
    some (digits.foldl (fun n c => n * 10 + (c.toNat - '0'.toNat)) 0, next)

/-- Reads a handle of tags. -/
def readHandle (inDirective : Bool) (cursor : Cursor) : Option (List Char × Cursor) :=
  if cursor.peek == some '!' then
    let (name, next) := (cursor.skip 1).takeWhile isNameChar
    if next.peek == some '!' then
      some ('!' :: name ++ ['!'], next.skip 1)
    else if inDirective && !name.isEmpty then
      none
    else
      some ('!' :: name, next)
  else
    none

def isTagChar (verbatim : Bool) (c : Char) : Bool :=
  isNameChar c || ";/?:@&=+$.!~*'()".toList.contains c ||
    (verbatim && (c == ',' || c == '[' || c == ']'))

/-- Reads the bytes of characters that are written with percent signs. -/
def readBytes : List Char → List UInt8 × List Char
  | '%' :: a :: b :: rest =>
      match Text.hexValue? a, Text.hexValue? b with
      | some a, some b =>
          let (bytes, rest) := readBytes rest
          (UInt8.ofNat (a * 16 + b) :: bytes, rest)
      | _, _ => ([], '%' :: a :: b :: rest)
  | rest => ([], rest)

/-- Reads the characters of a tag. -/
def readTagText (verbatim : Bool) : Nat → Cursor → Option (List Char × Cursor)
  | 0, _ => none
  | fuel + 1, cursor =>
      match cursor.rest with
      | '%' :: _ => do
          let (bytes, rest) := readBytes cursor.rest
          let text ← String.fromUTF8? bytes.toByteArray
          if bytes.isEmpty then
            none
          else
            let (read, next) ← readTagText verbatim fuel (cursor.skip (cursor.rest.length - rest.length))
            pure (text.toList ++ read, next)
      | c :: _ =>
          if isTagChar verbatim c then do
            let (read, next) ← readTagText verbatim fuel (cursor.skip 1)
            pure (c :: read, next)
          else
            some ([], cursor)
      | [] => some ([], cursor)

/-- Reads what a directive says after its name. -/
def readDirectiveBody (name : String) (cursor : Cursor) : Option (Token × Cursor) := do
  let cursor := cursor.skipWhile isSpace
  if name = "YAML" then
    let (major, cursor) ← readNumber cursor
    if cursor.peek == some '.' then
      let (minor, cursor) ← readNumber (cursor.skip 1)
      pure (.version major minor, cursor)
    else
      none
  else if name = "TAG" then
    let (handle, cursor) ← readHandle true cursor
    if cursor.atSpace then
      let (text, cursor) ← readTagText true (cursor.rest.length + 1) (cursor.skipWhile isSpace)
      if !text.isEmpty && isGap cursor.peek then
        pure (.handle (String.ofList handle) (String.ofList text), cursor)
      else
        none
    else
      none
  else
    none

/-- Reads a line with a directive. -/
def fetchDirective (scanner : Scanner) : Option Scanner := do
  let scanner ← (scanner.closeBlocks (-1)).dropKey
  let (name, cursor) := (scanner.cursor.skip 1).takeWhile isNameChar
  if name.isEmpty || !isGap cursor.peek then
    none
  else
    let (token, cursor) ← readDirectiveBody (String.ofList name) cursor
    let cursor := (cursor.skipWhile isSpace).skipComment
    if isGap cursor.peek then
      pure { scanner with
        cursor := cursor.skipBreak.2
        tokens := scanner.tokens.push token
        keyAllowed := false }
    else
      none

/-!
# Marks
-/

def fetchDocumentMark (token : Token) (scanner : Scanner) : Option Scanner := do
  let scanner ← (scanner.closeBlocks (-1)).dropKey
  pure { (scanner.push token).skip 3 with keyAllowed := false }

def fetchFlowStart (token : Token) (scanner : Scanner) : Option Scanner := do
  let scanner ← scanner.saveKey
  pure { (scanner.push token).skip 1 with keys := none :: scanner.keys, keyAllowed := true }

def fetchFlowEnd (token : Token) (scanner : Scanner) : Option Scanner := do
  let scanner ← scanner.dropKey
  let keys := if scanner.inFlow then scanner.keys.tail else scanner.keys
  pure { (scanner.push token).skip 1 with keys, keyAllowed := false }

def fetchFlowEntry (scanner : Scanner) : Option Scanner := do
  let scanner ← scanner.dropKey
  pure { (scanner.push .flowEntry).skip 1 with keyAllowed := true }

/-- Opens a block collection at this column, before the token that comes next. -/
def openHere (token : Token) (scanner : Scanner) : Option Scanner :=
  if scanner.inFlow then
    some scanner
  else if scanner.keyAllowed then
    some (scanner.openBlock scanner.cursor.column scanner.tokens.size token)
  else
    none

def fetchBlockEntry (scanner : Scanner) : Option Scanner := do
  let scanner ← scanner.openHere .blockSequence
  let scanner ← scanner.dropKey
  pure { (scanner.push .blockEntry).skip 1 with keyAllowed := true }

def fetchKey (scanner : Scanner) : Option Scanner := do
  let scanner ← scanner.openHere .blockMapping
  let scanner ← scanner.dropKey
  pure { (scanner.push .key).skip 1 with keyAllowed := !scanner.inFlow }

def fetchValue (scanner : Scanner) : Option Scanner := do
  match scanner.keys with
  | some key :: keys =>
      let scanner :=
        { scanner with tokens := scanner.tokens.insertIdxIfInBounds key.token .key }
      let scanner := scanner.openBlock key.column key.token .blockMapping
      pure { (scanner.push .value).skip 1 with keys := none :: keys, keyAllowed := false }
  | _ =>
      let scanner ← scanner.openHere .blockMapping
      pure { (scanner.push .value).skip 1 with keyAllowed := !scanner.inFlow }

/-!
# Names, tags and scalars
-/

/-- Reads the name of an anchor or alias. -/
def fetchName (token : String → Token) (scanner : Scanner) : Option Scanner := do
  let scanner ← scanner.saveKey
  let (name, cursor) := (scanner.cursor.skip 1).takeWhile isNameChar
  let ended :=
    isGap cursor.peek || cursor.peek.any fun c => "?:,]\x7d%@\x60".toList.contains c
  if name.isEmpty || !ended then
    none
  else
    pure { scanner with
      cursor, tokens := scanner.tokens.push (token (String.ofList name)), keyAllowed := false }

/-- Reads a tag after its exclamation mark: the handle, the rest, and what follows. -/
def readTag (cursor : Cursor) : Option (List Char × List Char × Cursor) := do
  if cursor.peekAt 1 == some '<' then
    let (text, cursor) ← readTagText true (cursor.rest.length + 1) (cursor.skip 2)
    if text.isEmpty || cursor.peek != some '>' then
      none
    else
      pure ([], text, cursor.skip 1)
  else
    let (handle, cursor) ← readHandle false cursor
    let (text, cursor) ← readTagText false (cursor.rest.length + 1) cursor
    if 1 < handle.length && handle.getLast? == some '!' then
      if text.isEmpty then none else pure (handle, text, cursor)
    else
      let rest := handle.drop 1 ++ text
      if rest.isEmpty then pure ([], ['!'], cursor) else pure (['!'], rest, cursor)

def fetchTag (scanner : Scanner) : Option Scanner := do
  let scanner ← scanner.saveKey
  let (handle, rest, cursor) ← readTag scanner.cursor
  if isGap cursor.peek || (scanner.inFlow && cursor.peek == some ',') then
    pure { scanner with
      cursor
      tokens := scanner.tokens.push (.tag (String.ofList handle) (String.ofList rest))
      keyAllowed := false }
  else
    none

def fetchBlock (isLiteral : Bool) (scanner : Scanner) : Option Scanner := do
  let scanner ← scanner.dropKey
  let (text, cursor) ← readBlock isLiteral scanner.indent (scanner.cursor.skip 1)
  pure { scanner with
    cursor
    tokens := scanner.tokens.push (.scalar (String.ofList text) false)
    keyAllowed := true }

def fetchQuoted (quote : Char) (scanner : Scanner) : Option Scanner := do
  let scanner ← scanner.saveKey
  let cursor := scanner.cursor.skip 1
  let (text, cursor) ← readQuoted quote (cursor.rest.length + 1) cursor
  pure { scanner with
    cursor
    tokens := scanner.tokens.push (.scalar (String.ofList text) false)
    keyAllowed := false }

def fetchPlain (scanner : Scanner) : Option Scanner := do
  let scanner ← scanner.saveKey
  let cursor := scanner.cursor
  let indent := (scanner.indent + 1).toNat
  let (text, cursor, broken) ←
    readPlain scanner.inFlow indent (cursor.rest.length + 1) cursor
  pure { scanner with
    cursor
    tokens := scanner.tokens.push (.scalar (String.ofList text) true)
    keyAllowed := broken }

/-!
# All tokens
-/

/-- Characters that no plain scalar begins with, except before other characters. -/
def isIndicator (c : Char) : Bool :=
  "-?:,[]\x7b\x7d#&*!|>'\"%@\x60".toList.contains c

def startsPlain (scanner : Scanner) (c : Char) : Bool :=
  let next := scanner.cursor.peekAt 1
  (!isIndicator c && !isGap (some c)) || (c == '-' && !next.any isSpace) ||
    (!scanner.inFlow && (c == '?' || c == ':') && !isGap next)

/-- Reads the token that begins with a character. -/
def fetch (scanner : Scanner) (c : Char) : Option Scanner :=
  let cursor := scanner.cursor
  let gapNext := isGap (cursor.peekAt 1)
  if cursor.column == 0 && c == '%' then
    scanner.fetchDirective
  else if cursor.atMarks '-' then
    scanner.fetchDocumentMark .documentStart
  else if cursor.atMarks '.' then
    scanner.fetchDocumentMark .documentEnd
  else if c == '[' then
    scanner.fetchFlowStart .flowSequence
  else if c == '\x7b' then
    scanner.fetchFlowStart .flowMapping
  else if c == ']' then
    scanner.fetchFlowEnd .flowSequenceEnd
  else if c == '\x7d' then
    scanner.fetchFlowEnd .flowMappingEnd
  else if c == ',' then
    scanner.fetchFlowEntry
  else if c == '-' && gapNext then
    scanner.fetchBlockEntry
  else if c == '?' && (scanner.inFlow || gapNext) then
    scanner.fetchKey
  else if c == ':' && (scanner.inFlow || gapNext) then
    scanner.fetchValue
  else if c == '*' then
    scanner.fetchName .alias
  else if c == '&' then
    scanner.fetchName .anchor
  else if c == '!' then
    scanner.fetchTag
  else if c == '|' && !scanner.inFlow then
    scanner.fetchBlock true
  else if c == '>' && !scanner.inFlow then
    scanner.fetchBlock false
  else if c == '\'' || c == '"' then
    scanner.fetchQuoted c
  else if scanner.startsPlain c then
    scanner.fetchPlain
  else
    none

/-- Reads the tokens up to the end. Each takes at least one character. -/
def run : Nat → Scanner → Option Scanner
  | 0, _ => none
  | fuel + 1, scanner => do
      let scanner ← (scanner.skipGap (scanner.cursor.rest.length + 1)).dropOldKeys
      let scanner := scanner.closeBlocks scanner.cursor.column
      match scanner.cursor.peek with
      | none => (scanner.closeBlocks (-1)).dropKey
      | some c =>
          let scanner ← scanner.fetch c
          run fuel scanner

end Scanner

/-- The tokens of a text. -/
def tokens? (text : String) : Option (List Token) :=
  let cs := text.toList
  if cs.all isAllowed then
    ((Scanner.start cs).run (cs.length + 2)).map fun scanner => scanner.tokens.toList
  else
    none

end Yaml
end Docloom
