import Docloom.Toml.Basic
import Docloom.Toml.Scalar

/-!
# Reading TOML

A document is read line by line. Headers say which table the keys of the lines after
them belong to.
-/

namespace Docloom
namespace Toml

/-!
# White space
-/

def skipSpace (cs : List Char) : List Char := cs.dropWhile isSpace

/-- Moves over a comment. Comments have no control characters. -/
def skipComment (cs : List Char) : Option (List Char) :=
  match cs with
  | '#' :: rest =>
      let rest := rest.dropWhile isPrintable
      if rest.isEmpty || (afterBreak? rest).isSome then some rest else none
  | cs => some cs

/-- Moves over white space, comments and line breaks. -/
def skipLines : Nat → List Char → Option (List Char)
  | 0, cs => some cs
  | fuel + 1, cs => do
      let rest ← skipComment (skipSpace cs)
      match afterBreak? rest with
      | some rest => skipLines fuel rest
      | none => pure rest

/-- Moves to the next line. Nothing but a comment may follow in this one. -/
def endLine (cs : List Char) : Option (List Char) := do
  let rest ← skipComment (skipSpace cs)
  if rest.isEmpty then pure [] else afterBreak? rest

/-!
# Keys
-/

def isBareChar (c : Char) : Bool := c.isAlphanum || c == '_' || c == '-'

/-- Reads one part of a key. -/
def readPart (cs : List Char) : Option (String × List Char) :=
  match cs with
  | '"' :: rest => (readBasic cs.length rest).map fun read => (String.ofList read.1, read.2)
  | '\'' :: rest => (readLiteral rest).map fun read => (String.ofList read.1, read.2)
  | cs =>
      let part := cs.takeWhile isBareChar
      if part.isEmpty then none else some (String.ofList part, cs.dropWhile isBareChar)

/-- Reads the parts of a key, with dots between them. -/
def readKey : Nat → List Char → Option (List String × List Char)
  | 0, _ => none
  | fuel + 1, cs => do
      let (part, rest) ← readPart (skipSpace cs)
      match skipSpace rest with
      | '.' :: rest =>
          let (parts, rest) ← readKey fuel rest
          pure (part :: parts, rest)
      | rest => pure ([part], rest)

/-!
# Values
-/

/-- Integers have up to 64 binary digits. -/
def isInteger (n : Int) : Bool := -(Int.pow 2 63) ≤ n && n < Int.pow 2 64

def isWordChar (c : Char) : Bool :=
  c.isAlphanum || c == '+' || c == '-' || c == '_' || c == '.' || c == ':'

/-- Reads what is written without quotes and brackets. A blank may stand between a
date and a time. -/
def readWord (cs : List Char) : Option (Toml × List Char) :=
  let word := cs.takeWhile isWordChar
  let rest := cs.dropWhile isWordChar
  let (word, rest) :=
    match rest with
    | ' ' :: c :: more =>
        if isDate word && c.isDigit then
          let time := (c :: more).takeWhile isWordChar
          (word ++ ' ' :: time, (c :: more).dropWhile isWordChar)
        else
          (word, rest)
    | rest => (word, rest)
  if word == "true".toList then
    some (.bool true, rest)
  else if word == "false".toList then
    some (.bool false, rest)
  else
    match (integer? word).filter isInteger with
    | some n => some (.integer n, rest)
    | none =>
        if isFloat word || isDateTime word || isTime word then some (.other, rest) else none

mutual
def readValue : Nat → List Char → Option (Toml × List Char)
  | 0, _ => none
  | fuel + 1, cs =>
      match cs with
      | '"' :: _ => (readText cs).map fun read => (.text read.1, read.2)
      | '\'' :: _ => (readText cs).map fun read => (.text read.1, read.2)
      | '[' :: rest =>
          (readItems fuel rest).map fun read => (.array read.1, read.2)
      | '\x7b' :: rest =>
          (readEntries fuel [] rest).map fun read =>
            (.table (Draft.entriesToToml read.1), read.2)
      | cs => readWord cs

/-- Reads the items of an array and its closing bracket. -/
def readItems : Nat → List Char → Option (List Toml × List Char)
  | 0, _ => none
  | fuel + 1, cs => do
      match ← skipLines cs.length cs with
      | ']' :: rest => pure ([], rest)
      | rest =>
          let (item, rest) ← readValue fuel rest
          match ← skipLines rest.length rest with
          | ',' :: rest =>
              let (items, rest) ← readItems fuel rest
              pure (item :: items, rest)
          | ']' :: rest => pure ([item], rest)
          | _ => none

/-- Reads the entries of a table in braces and its closing brace. -/
def readEntries : Nat → Draft.Entries → List Char → Option (Draft.Entries × List Char)
  | 0, _, _ => none
  | fuel + 1, entries, cs => do
      match ← skipLines cs.length cs with
      | '\x7d' :: rest => pure (entries, rest)
      | rest =>
          let (path, rest) ← readKey rest.length rest
          match skipSpace rest with
          | '=' :: rest =>
              let (value, rest) ← readValue fuel (skipSpace rest)
              let (_, entries) ← Draft.addAt path value .header entries
              match ← skipLines rest.length rest with
              | ',' :: rest => readEntries fuel entries rest
              | '\x7d' :: rest => pure (entries, rest)
              | _ => none
          | _ => none
end

/-!
# Lines
-/

/-- Reads a header after its brackets: the key, up to the closing brackets. -/
def readHeader (cs : List Char) : Option (List String × List Char) := do
  let (path, rest) ← readKey cs.length cs
  match skipSpace rest with
  | ']' :: rest => pure (path, rest)
  | _ => none

/-- Reads the lines of a document. `path` leads to the table that keys belong to. -/
def readLinesOf : Nat → List String → Draft.Entries → List Char → Option Draft.Entries
  | 0, _, _, _ => none
  | fuel + 1, path, entries, cs => do
      match ← skipLines cs.length cs with
      | [] => pure entries
      | '[' :: '[' :: rest =>
          let (header, rest) ← readHeader rest
          match rest with
          | ']' :: rest =>
              let rest ← endLine rest
              let (_, entries) ←
                Draft.changeAt false (Draft.addTable (header.getLastD "")) header.dropLast
                  .header entries
              readLinesOf fuel header entries rest
          | _ => none
      | '[' :: rest =>
          let (header, rest) ← readHeader rest
          let rest ← endLine rest
          let (_, entries) ←
            Draft.changeAt false (Draft.openTable (header.getLastD "")) header.dropLast
              .header entries
          readLinesOf fuel header entries rest
      | rest =>
          let (key, rest) ← readKey rest.length rest
          match skipSpace rest with
          | '=' :: rest =>
              let (value, rest) ← readValue (rest.length + 1) (skipSpace rest)
              let rest ← endLine rest
              let (_, entries) ←
                Draft.changeAt false (Draft.addAt key value) path .header entries
              readLinesOf fuel path entries rest
          | _ => none

/-- Reads a document. -/
def parse? (text : String) : Option Toml := do
  let cs :=
    match text.toList with
    | '\ufeff' :: rest => rest
    | cs => cs
  let entries ← readLinesOf (cs.length + 1) [] [] cs
  pure (.table (Draft.entriesToToml entries))

end Toml
end Docloom
