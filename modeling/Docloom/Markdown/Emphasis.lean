import Docloom.Markdown.Inline
import Docloom.Markdown.Literal

/-!
# Emphasis

Runs of `*`, `_` and `~` are matched: a run that can close looks back for the
nearest run of the same character that can open. Runs between the two can no
longer open anything, and what is left of a run may be matched again.
-/

namespace Docloom
namespace Markdown

/-- A run of marks, and what it can do where it stands. -/
structure Marks where
  index : Nat
  size : Nat
  char : Char
  opens : Bool
  closes : Bool
  deriving Repr

inductive Piece where
  | token (token : Inline)
  | marks (marks : Marks)

namespace Marks

/-- Marks open before a character and close after one; between a letter and a
letter an underscore does neither. -/
def ofNeighbours (index size : Nat) (char : Char) (before after : CharClass) : Marks :=
  let opens := after == .other || (after == .punctuation && before != .other)
  let closes := before == .other || (before == .punctuation && after != .other)
  if char == '_' then
    { index, size, char
      opens := opens && (before != .other || !closes)
      closes := closes && (after != .other || !opens) }
  else
    { index, size, char, opens, closes }

/-- Whether `opener` and `closer` match. When one of them could do both, their sizes
may not add up to a multiple of three, unless that of the closer is one. -/
def fits (opener closer : Marks) : Bool :=
  opener.opens && opener.char == closer.char &&
    !((opener.closes || closer.opens) && closer.size % 3 != 0 &&
        (opener.size + closer.size) % 3 == 0) &&
    (closer.char != '~' || (closer.size == opener.size && closer.size ≤ 2))

/-- The number of marks that a match uses up on each side. -/
def taken (opener closer : Marks) : Nat :=
  if 1 < opener.size && 1 < closer.size then 2 else 1

def data (marks : Marks) : Inline :=
  .data marks.index (marks.index + marks.size)

end Marks

/-- The tokens of pieces that are given from the last to the first, put before
`rest`. Marks stand for themselves. -/
def Piece.tokens : List Piece → List Inline → List Inline
  | [], rest => rest
  | .token inline :: pieces, rest => Piece.tokens pieces (Inline.cons inline rest)
  | .marks left :: pieces, rest => Piece.tokens pieces (Inline.cons left.data rest)

/-- Looks for the nearest opener in pieces given from the last to the first.
Returns what stands after it, the opener, and what stands before it. -/
def findOpener (closer : Marks) : List Piece → Option (List Piece × Marks × List Piece)
  | [] => none
  | .marks marks :: pieces =>
      if marks.fits closer then
        some ([], marks, pieces)
      else
        (findOpener closer pieces).map fun found =>
          (.marks marks :: found.1, found.2.1, found.2.2)
  | .token token :: pieces =>
      (findOpener closer pieces).map fun found =>
        (.token token :: found.1, found.2.1, found.2.2)

def Piece.ofMarks (marks : Marks) : List Piece :=
  if marks.size = 0 then [] else [.marks marks]

/-- Matches a run of marks against the pieces before it, as often as it can. -/
def matchMarks (closer : Marks) : Nat → List Piece → List Piece
  | 0, pieces => .marks closer :: pieces
  | fuel + 1, pieces =>
      if closer.size = 0 then
        pieces
      else if !closer.closes then
        .marks closer :: pieces
      else
        match findOpener closer pieces with
        | none => .marks closer :: pieces
        | some (inside, opener, before) =>
            let count := opener.taken closer
            let wrapper : Wrapper :=
              if closer.char == '~' then .delete else if count = 1 then .emphasis else .strong
            let start := opener.index + opener.size - count
            let span :=
              Inline.span start (closer.index + count) wrapper (Piece.tokens inside [])
            let opener := { opener with size := opener.size - count }
            let closer :=
              { closer with index := closer.index + count, size := closer.size - count }
            matchMarks closer fuel (.token span :: (Piece.ofMarks opener ++ before))

/-- The class of the character before a place, and of the one after it, in the
whole text. -/
def classBefore (source : Source) (place : Place) : CharClass :=
  if place.index = 0 then .blank else charClass source.chars[place.index - 1]?

def classAfter (source : Source) (place : Place) : CharClass :=
  charClass source.chars[place.index]?

/-- The tokens with their marks matched. -/
def matchEmphasis (source : Source) (run : Run) (tokens : List Inline) : List Inline :=
  let pieces := tokens.foldl
    (fun pieces token =>
      match token with
      | .marks index size char =>
          let before := classBefore source (run.place index)
          let after := classAfter source (run.placeAfter (index + size))
          matchMarks (.ofNeighbours index size char before after) (size + 1) pieces
      | token => .token token :: pieces)
    []
  Piece.tokens pieces []

end Markdown
end Docloom
