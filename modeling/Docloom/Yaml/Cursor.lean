/-!
# Cursors

A place in a YAML text: what follows, and the line and column of it. A cursor moves
over single characters, or over line breaks as a whole.
-/

namespace Docloom
namespace Yaml

structure Cursor where
  rest : List Char
  index : Nat
  line : Nat
  column : Nat
  deriving Repr

/-!
# Classes of characters
-/

def isBreak (c : Char) : Bool :=
  c == '\n' || c == '\r' || c == '\x85' || c == '\u2028' || c == '\u2029'

def isSpace (c : Char) : Bool := c == ' ' || c == '\t'

/-- Whether a place is at white space or at the end. -/
def isGap (c : Option Char) : Bool := c.all fun c => isSpace c || isBreak c

/-- Characters that a YAML text may have. -/
def isAllowed (c : Char) : Bool :=
  let n := c.toNat
  n == 9 || n == 10 || n == 13 || (0x20 ≤ n && n ≤ 0x7E) || n == 0x85 ||
    (0xA0 ≤ n && n ≤ 0xFFFD) || 0x10000 ≤ n

/-- Characters of names. -/
def isNameChar (c : Char) : Bool := c.isAlphanum || c == '_' || c == '-'

namespace Cursor

def ofText (cs : List Char) : Cursor := ⟨cs, 0, 0, 0⟩

def peek (cursor : Cursor) : Option Char := cursor.rest.head?

def peekAt (cursor : Cursor) (n : Nat) : Option Char := cursor.rest[n]?

/-- Moves over a number of characters of one line. -/
def skip (cursor : Cursor) (n : Nat) : Cursor :=
  { cursor with
    rest := cursor.rest.drop n
    index := cursor.index + n
    column := cursor.column + n }

/-- Moves over the characters of a class. -/
def skipWhile (cursor : Cursor) (p : Char → Bool) : Cursor :=
  cursor.skip (cursor.rest.takeWhile p).length

/-- Reads the characters of a class. -/
def takeWhile (cursor : Cursor) (p : Char → Bool) : List Char × Cursor :=
  let read := cursor.rest.takeWhile p
  (read, cursor.skip read.length)

/-- Moves over a line break. Returns what it stands for in a text. -/
def skipBreak (cursor : Cursor) : List Char × Cursor :=
  let moved (n : Nat) (rest : List Char) : Cursor :=
    ⟨rest, cursor.index + n, cursor.line + 1, 0⟩
  match cursor.rest with
  | '\r' :: '\n' :: rest => (['\n'], moved 2 rest)
  | c :: rest =>
      if c == '\u2028' || c == '\u2029' then
        ([c], moved 1 rest)
      else if isBreak c then
        (['\n'], moved 1 rest)
      else
        ([], cursor)
  | [] => ([], cursor)

def atBreak (cursor : Cursor) : Bool := cursor.peek.any isBreak

def atSpace (cursor : Cursor) : Bool := cursor.peek.any isSpace

/-- Whether a line of three marks, for the start or the end of a document, begins
here. -/
def atMarks (cursor : Cursor) (mark : Char) : Bool :=
  cursor.column == 0 && cursor.rest.take 3 == [mark, mark, mark] && isGap (cursor.peekAt 3)

def atDocumentMark (cursor : Cursor) : Bool := cursor.atMarks '-' || cursor.atMarks '.'

/-- Moves over a comment, up to the end of the line. -/
def skipComment (cursor : Cursor) : Cursor :=
  if cursor.peek == some '#' then cursor.skipWhile (!isBreak ·) else cursor

end Cursor
end Yaml
end Docloom
