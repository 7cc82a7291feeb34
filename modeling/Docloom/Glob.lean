import Docloom.Regex.Basic

/-!
# Globs

A glob is a pattern of paths. `*` stands for any text and `?` for any byte; two
stars between slashes stand for any number of directories. Brackets hold a choice of
characters and braces a choice of patterns.
-/

namespace Docloom

namespace Glob

inductive Token where
  | literal (c : Char)
  | any
  | anyText
  /-- Directories before the rest of the path. -/
  | directoriesBefore
  /-- Something below the directory so far. -/
  | allBelow
  /-- Directories between two parts of the path. -/
  | directoriesBetween
  | oneOf (negated : Bool) (ranges : List (Char × Char))
  | choice (branches : List (List Token))
  deriving Repr

/-!
# Reading
-/

/-- The last range, which is given first, goes on to a character. -/
def extend? (ranges : List (Char × Char)) (c : Char) : Option (List (Char × Char)) :=
  match ranges with
  | (first, _) :: rest => if c < first then none else some ((first, c) :: rest)
  | [] => none

/-- Reads ranges up to a closing bracket. A bracket at the start and a `-` at the start
or the end stand for themselves. The last range is given first. -/
def readRanges (first inRange : Bool) (ranges : List (Char × Char)) :
    List Char → Option (List (Char × Char) × List Char)
  | [] => none
  | c :: rest =>
      if c == ']' && !first then
        some (if inRange then ('-', '-') :: ranges else ranges, rest)
      else if c == '-' && !first && !inRange then
        readRanges false true ranges rest
      else if inRange then
        match extend? ranges c with
        | some ranges => readRanges false false ranges rest
        | none => none
      else
        readRanges false false ((c, c) :: ranges) rest

/-- Reads a class after its opening bracket. -/
def readClass (cs : List Char) : Option (Token × List Char) :=
  let (negated, cs) :=
    match cs with
    | '!' :: rest => (true, rest)
    | '^' :: rest => (true, rest)
    | cs => (false, cs)
  (readRanges true false [] cs).map fun read => (.oneOf negated read.1.reverse, read.2)

/-- Puts two stars between slashes after the tokens so far, the last of which comes
first and is the slash before the stars. -/
def putDirectories (atEnd : Bool) : List Token → List Token
  | .directoriesBefore :: read => .directoriesBefore :: read
  | .allBelow :: read => .allBelow :: read
  | _ :: read => (if atEnd then .allBelow else .directoriesBetween) :: read
  | [] => []

/-- Reads what follows two stars. `previous` is the character before them. Returns the
tokens, the character before what is left, and that. -/
def readStars (inChoice : Bool) (previous : Option Char) (read : List Token) (cs : List Char) :
    List Token × Char × List Char :=
  let plain := Token.anyText :: .anyText :: read
  if read.isEmpty then
    match cs with
    | [] => ([.directoriesBefore], '*', [])
    | '/' :: rest => ([.directoriesBefore], '/', rest)
    | cs => (plain, '*', cs)
  else
    let starts :=
      previous == some '/' || (inChoice && (previous == some ',' || previous == some '\x7b'))
    if !starts then
      (plain, '*', cs)
    else
      match cs with
      | [] => (putDirectories true read, '*', [])
      | '/' :: rest => (putDirectories false read, '/', rest)
      | c :: rest =>
          if inChoice && (c == ',' || c == '\x7d') then
            (putDirectories true read, '*', c :: rest)
          else
            (plain, '*', c :: rest)

mutual
/-- Reads tokens up to the end, or up to a comma or closing brace inside of a choice.
`read` holds the tokens so far, the last one first, and `previous` the character
before `cs`. -/
def readTokens (inChoice : Bool) :
    Nat → Option Char → List Token → List Char → Option (List Token × List Char)
  | 0, _, _, _ => none
  | fuel + 1, previous, read, cs =>
      match cs with
      | [] => some (read.reverse, [])
      | '?' :: rest => readTokens inChoice fuel (some '?') (.any :: read) rest
      | '*' :: '*' :: rest =>
          let (read, last, rest) := readStars inChoice previous read rest
          readTokens inChoice fuel (some last) read rest
      | '*' :: rest => readTokens inChoice fuel (some '*') (.anyText :: read) rest
      | '[' :: rest => do
          let (token, rest) ← readClass rest
          readTokens inChoice fuel (some ']') (token :: read) rest
      | '\x7b' :: rest => do
          let (branches, rest) ← readBranches fuel (some '\x7b') rest
          readTokens inChoice fuel (some '\x7d') (.choice branches :: read) rest
      | ['\\'] => none
      | '\\' :: c :: rest => readTokens inChoice fuel (some c) (.literal c :: read) rest
      | c :: rest =>
          if c == '\x7d' && !inChoice then
            none
          else if inChoice && (c == ',' || c == '\x7d') then
            some (read.reverse, c :: rest)
          else
            readTokens inChoice fuel (some c) (.literal c :: read) rest

/-- Reads the branches of a choice and its closing brace. -/
def readBranches : Nat → Option Char → List Char → Option (List (List Token) × List Char)
  | 0, _, _ => none
  | fuel + 1, previous, cs => do
      let (branch, rest) ← readTokens true fuel previous [] cs
      match rest with
      | ',' :: rest =>
          let (branches, rest) ← readBranches fuel (some ',') rest
          pure (branch :: branches, rest)
      | '\x7d' :: rest => pure ([branch], rest)
      | _ => none
end

/-!
# Matching

A path is matched as bytes, each of which counts as one character.
-/

/-- The bytes of a text, each as the character with its number. -/
def byteChars (text : List Char) : List Char :=
  text.flatMap fun c => (String.utf8EncodeChar c).map fun byte => Char.ofNat byte.toNat

def anyByte : Regex := .char (.not .none)

def anyBytes : Regex := .times anyByte 0 none true

def bytesRegex (bytes : List Char) : Regex :=
  bytes.foldr (fun byte regex => .seq (.char (.single byte)) regex) .empty

def slash : Regex := .char (.single '/')

/-- The bytes of a range. Characters of several bytes count as several characters. -/
def rangeSet (range : Char × Char) : Regex.CharSet :=
  let first := byteChars [range.1]
  let last := byteChars [range.2]
  if range.1 = range.2 then
    .ofList (first.map .single)
  else
    .union (.ofList ((first.dropLast ++ last.drop 1).map .single))
      (.range (first.getLastD ' ') (last.headD ' '))

mutual
def tokenRegex (token : Token) : Regex :=
  match token with
  | .literal c => bytesRegex (byteChars [c])
  | .any => anyByte
  | .anyText => anyBytes
  | .directoriesBefore => .alt (.times slash 0 (some 1) true) (.seq anyBytes slash)
  | .allBelow => .seq slash anyBytes
  | .directoriesBetween => .alt slash (.seq slash (.seq anyBytes slash))
  | .oneOf negated ranges =>
      let set := Regex.CharSet.ofList (ranges.map rangeSet)
      .char (if negated then .not set else set)
  | .choice branches => (branchesRegex branches).getD .empty

def tokensRegex : List Token → Regex
  | [] => .empty
  | token :: tokens => .seq (tokenRegex token) (tokensRegex tokens)

/-- The choice between branches that are not empty. -/
def branchesRegex : List (List Token) → Option Regex
  | [] => none
  | branch :: branches =>
      let rest := branchesRegex branches
      if branch.isEmpty then
        rest
      else
        match rest with
        | some rest => some (.alt (tokensRegex branch) rest)
        | none => some (tokensRegex branch)
end

end Glob

structure Glob where
  regex : Regex
  deriving Repr

namespace Glob

def parse? (text : String) : Option Glob := do
  let cs := text.toList
  match ← readTokens false (2 * cs.length + 2) none [] cs with
  | ([.directoriesBefore], _) => pure ⟨anyBytes⟩
  | (tokens, _) => pure ⟨tokensRegex tokens⟩

/-- Whether the whole of a path is matched. -/
def covers (glob : Glob) (path : String) : Bool :=
  (glob.regex.run (.ofText (byteChars path.toList))).any fun spot => spot.rest.isEmpty

end Glob
end Docloom
