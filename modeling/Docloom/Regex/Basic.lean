import Docloom.Regex.CharSet

/-!
# Regular expressions

An expression runs on a spot of a text and leads to spots after it. They are given
in the order of preference: the first one is the match. Of two ways to one place
only the first counts, for whatever follows goes the same way from both.
-/

namespace Docloom

/-- A condition on the characters beside a spot. -/
inductive Regex.Anchor where
  | textStart
  | textEnd
  | lineStart (crlf : Bool)
  | lineEnd (crlf : Bool)
  | wordEdge (ascii : Bool)
  | noWordEdge (ascii : Bool)
  | wordStart (ascii : Bool)
  | wordEnd (ascii : Bool)
  | wordStartHalf (ascii : Bool)
  | wordEndHalf (ascii : Bool)
  deriving DecidableEq, Repr

inductive Regex where
  | empty
  | char (set : Regex.CharSet)
  | anchor (anchor : Regex.Anchor)
  /-- A group whose text is kept under a number. -/
  | group (index : Nat) (inside : Regex)
  | seq (first second : Regex)
  | alt (first second : Regex)
  /-- At least `least` and at most `most` times; as often as possible, if `greedy`. -/
  | times (inside : Regex) (least : Nat) (most : Option Nat) (greedy : Bool)
  deriving Repr

namespace Regex

/-!
# Spots
-/

/-- A place in a text: the number of characters before it, the last of them, what
follows, and the texts of the groups. -/
structure Spot where
  index : Nat
  before : Option Char
  rest : List Char
  groups : List (Nat × List Char)
  deriving Repr

def Spot.ofText (cs : List Char) : Spot := ⟨0, none, cs, []⟩

/-- The spots at places that are neither in `seen` nor that of an earlier spot. -/
def distinctFrom (seen : List Nat) : List Spot → List Spot
  | [] => []
  | spot :: spots =>
      if seen.contains spot.index then
        distinctFrom seen spots
      else
        spot :: distinctFrom (spot.index :: seen) spots

def distinct (spots : List Spot) : List Spot := distinctFrom [] spots

/-- A way from a spot to spots. -/
abbrev Way := Spot → List Spot

/-!
# Anchors
-/

def isWordChar (ascii : Bool) (c : Option Char) : Bool :=
  c.any fun c => if ascii then CharSet.asciiWord.has c else Text.isWord c

def Anchor.holds (anchor : Anchor) (spot : Spot) : Bool :=
  let before := spot.before
  let after := spot.rest.head?
  match anchor with
  | .textStart => before.isNone
  | .textEnd => after.isNone
  | .lineStart crlf =>
      before.isNone || before == some '\n' ||
        (crlf && before == some '\r' && after != some '\n')
  | .lineEnd crlf =>
      after.isNone || (after == some '\n' && !(crlf && before == some '\r')) ||
        (crlf && after == some '\r')
  | .wordEdge ascii => isWordChar ascii before != isWordChar ascii after
  | .noWordEdge ascii => isWordChar ascii before == isWordChar ascii after
  | .wordStart ascii => !isWordChar ascii before && isWordChar ascii after
  | .wordEnd ascii => isWordChar ascii before && !isWordChar ascii after
  | .wordStartHalf ascii => !isWordChar ascii before
  | .wordEndHalf ascii => !isWordChar ascii after

/-!
# Repetitions
-/

/-- The least number of characters that an expression takes. -/
def minLength : Regex → Nat
  | .empty => 0
  | .char _ => 1
  | .anchor .. => 0
  | .group _ inside => inside.minLength
  | .seq first second => first.minLength + second.minLength
  | .alt first second => min first.minLength second.minLength
  | .times inside least _ _ => least * inside.minLength

/-- One way after another. -/
def andThen (first second : Way) : Way :=
  fun spot => distinct ((first spot).flatMap second)

def orElse (first second : Way) : Way :=
  fun spot => distinct (first spot ++ second spot)

def exactly (way : Way) : Nat → Way
  | 0 => fun spot => [spot]
  | n + 1 => andThen (exactly way n) way

/-- A way that may be left out. -/
def optionally (greedy : Bool) (way : Way) : Way :=
  fun spot => distinct (if greedy then way spot ++ [spot] else spot :: way spot)

def atMost (greedy : Bool) (way : Way) : Nat → Way
  | 0 => fun spot => [spot]
  | n + 1 => optionally greedy (andThen way (atMost greedy way n))

/-- Adds to `found` the spots that the way leads to from `spot` in any number of
steps that get further. What was found stays in front, and is not left again. -/
def reach (greedy : Bool) (way : Way) : Nat → List Spot → Spot → List Spot
  | 0, found, spot => found ++ [spot]
  | fuel + 1, found, spot =>
      if found.any fun other => other.index == spot.index then
        found
      else
        let further := (way spot).filter fun next => spot.index < next.index
        if greedy then
          further.foldl (reach greedy way fuel) found ++ [spot]
        else
          further.foldl (reach greedy way fuel) (found ++ [spot])

/-- The way again and again, as long as it gets further. -/
def again (greedy : Bool) (way : Way) : Way :=
  fun spot => reach greedy way (spot.rest.length + 1) [] spot

/-- The way once and then again; after nothing was taken it is not tried again. -/
def onceOrMore (greedy : Bool) (way : Way) : Way :=
  fun spot =>
    distinct ((way spot).flatMap fun next =>
      if next.index = spot.index then [next] else again greedy way next)

def anyNumber (greedy nullable : Bool) (way : Way) : Way :=
  if nullable then
    optionally greedy (onceOrMore greedy way)
  else
    again greedy way

/-!
# Running expressions
-/

def takeChar (set : CharSet) : Way :=
  fun spot =>
    match spot.rest with
    | [] => []
    | c :: rest =>
        if set.has c then
          [{ spot with index := spot.index + 1, before := some c, rest }]
        else
          []

/-- Keeps the text that a way takes as that of a group. -/
def keep (index : Nat) (way : Way) : Way :=
  fun spot =>
    (way spot).map fun next =>
      let text := spot.rest.take (next.index - spot.index)
      { next with groups := (index, text) :: next.groups.filter fun group => group.1 != index }

def run : Regex → Way
  | .empty => fun spot => [spot]
  | .char set => takeChar set
  | Regex.anchor condition => fun spot => if condition.holds spot then [spot] else []
  | .group index inside => keep index inside.run
  | .seq first second => andThen first.run second.run
  | .alt first second => orElse first.run second.run
  | .times inside least most greedy =>
      let way := inside.run
      match most with
      | some most => andThen (exactly way least) (atMost greedy way (most - least))
      | none =>
          match least with
          | 0 => anyNumber greedy (inside.minLength = 0) way
          | n + 1 => andThen (exactly way n) (onceOrMore greedy way)

/-!
# Searching
-/

/-- The first spot that the expression leads to from `spot`, or from one of the
spots after it. -/
def searchFrom (regex : Regex) (index : Nat) (before : Option Char) : List Char → Option Spot
  | [] => (regex.run ⟨index, before, [], []⟩).head?
  | c :: rest =>
      match regex.run ⟨index, before, c :: rest, []⟩ with
      | spot :: _ => some spot
      | [] => searchFrom regex (index + 1) (some c) rest

/-- The texts of the groups in the first match. -/
def search? (regex : Regex) (text : String) : Option (List (Nat × String)) :=
  (searchFrom regex 0 none text.toList).map fun spot =>
    spot.groups.map fun group => (group.1, String.ofList group.2)

end Regex
end Docloom
