import Docloom.Regex.Escape

/-!
# Classes in brackets

A class is the union of what stands between brackets: characters, ranges, escapes
and other classes. Unions are intersected, taken from each other or compared by
`&&`, `--` and `~~`, from left to right.
-/

namespace Docloom
namespace Regex
namespace Bracket

inductive Operator where
  | inter
  | diff
  | symmDiff
  deriving DecidableEq, Repr

def Operator.join (setting : Setting) (operator : Operator) (a b : CharSet) : CharSet :=
  let a := setting.fold a
  let b := setting.fold b
  match operator with
  | .inter => .inter a b
  | .diff => .diff a b
  | .symmDiff => .symmDiff a b

/-- What was read before an operator and the operator itself. -/
abbrev Left := Option (CharSet × Operator)

def Left.join (setting : Setting) (left : Left) (set : CharSet) : CharSet :=
  match left with
  | none => set
  | some (first, operator) => operator.join setting first set

/-- The character that an item stands for, as one end of a range. -/
def end? (setting : Setting) : Atom → Option Char
  | .char c _ => if setting.everyScript || c.toNat < 0x80 then some c else none
  | _ => none

def itemSet? (setting : Setting) : Atom → Option CharSet
  | .oneOf set => some set
  | .anchor _ => none
  | .char c isByte => (end? setting (.char c isByte)).map .single

/-- Reads an item or a range of two items. -/
def readRange (setting : Setting) (cs : List Char) : Option (CharSet × List Char) := do
  let (first, rest) ← Atom.read setting cs
  match setting.skip rest with
  | [] => none
  | '-' :: more =>
      let after := setting.skip more
      if after.head? = some ']' ∨ after.head? = some '-' then
        pure (← itemSet? setting first, rest)
      else
        let (last, rest) ← Atom.read setting after
        let first ← end? setting first
        let last ← end? setting last
        if first ≤ last then pure (.range first last, rest) else none
  | rest => pure (← itemSet? setting first, rest)

/-- Reads a class such as `[:alpha:]` after its first bracket. -/
def readLatin (setting : Setting) : List Char → Option (CharSet × List Char)
  | ':' :: cs =>
      let (negated, cs) :=
        match cs with
        | '^' :: rest => (true, rest)
        | rest => (false, rest)
      match cs.span (· != ':') with
      | (name, ':' :: ']' :: rest) =>
          (latinClass? (String.ofList name)).map fun set =>
            let set := setting.fold set
            (if negated then .not set else set, rest)
      | _ => none
  | _ => none

/-- Reads `-` signs after the bracket; they stand for themselves. -/
def readDashes (setting : Setting) : Nat → List Char → List Char
  | n + 1, '-' :: rest => readDashes setting n (setting.skip rest)
  | _, cs => cs

/-- Reads what stands between the bracket and the first item: `^` for what is not in
the class, `-` signs and a closing bracket that stands for itself. -/
def readOpening (setting : Setting) (cs : List Char) : Bool × CharSet × List Char :=
  let cs := setting.skip cs
  let (negated, cs) :=
    match cs with
    | '^' :: rest => (true, setting.skip rest)
    | rest => (false, rest)
  let rest := readDashes setting cs.length cs
  if rest.length < cs.length then
    (negated, .single '-', rest)
  else
    match rest with
    | ']' :: more => (negated, .single ']', setting.skip more)
    | rest => (negated, .none, rest)

/-- Reads items up to the closing bracket. -/
def readItems (setting : Setting) :
    Nat → Left → CharSet → List Char → Option (CharSet × List Char)
  | 0, _, _, _ => none
  | fuel + 1, left, set, cs =>
      match setting.skip cs with
      | [] => none
      | ']' :: rest => some (left.join setting set, rest)
      | '&' :: '&' :: rest =>
          readItems setting fuel (some (left.join setting set, .inter)) .none rest
      | '-' :: '-' :: rest =>
          readItems setting fuel (some (left.join setting set, .diff)) .none rest
      | '~' :: '~' :: rest =>
          readItems setting fuel (some (left.join setting set, .symmDiff)) .none rest
      | '[' :: rest =>
          match readLatin setting rest with
          | some (inner, rest) => readItems setting fuel left (.union set inner) rest
          | none =>
              let (negated, first, rest) := readOpening setting rest
              match readItems setting fuel none first rest with
              | some (inner, rest) =>
                  let inner := setting.fold inner
                  let inner := if negated then .not inner else inner
                  readItems setting fuel left (.union set inner) rest
              | none => none
      | cs =>
          match readRange setting cs with
          | some (item, rest) => readItems setting fuel left (.union set item) rest
          | none => none

/-- Reads a class after its opening bracket. -/
def read (setting : Setting) (cs : List Char) : Option (CharSet × List Char) := do
  let (negated, first, rest) := readOpening setting cs
  let (set, rest) ← readItems setting (cs.length + 1) none first rest
  let set := setting.fold set
  let set : CharSet := if negated then .not set else set
  if setting.allows set then pure (set, rest) else none

end Bracket
end Regex
end Docloom
