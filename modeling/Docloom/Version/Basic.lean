import Docloom.Text.Cut
import Docloom.Text.Digit

/-!
# Versions

A version is three numbers, compared from left to right. It is read out of any
text that holds a number, such as the name of a directory.
-/

namespace Docloom

structure Version where
  major : Nat
  minor : Nat
  patch : Nat
  deriving DecidableEq, Repr

namespace Version

def text (version : Version) : String :=
  toString version.major ++ "." ++ toString version.minor ++ "." ++ toString version.patch

def less (a b : Version) : Bool :=
  a.major < b.major ||
    (a.major == b.major && (a.minor < b.minor || (a.minor == b.minor && a.patch < b.patch)))

/-!
# Reading versions
-/

/-- The digits that a part of a version may have. -/
def digitLimit : Nat := 16

/-- The number that digits write, if all of them are decimal digits of the Latin
script. -/
def number? (digits : List Char) : Option Nat :=
  if digits.all Char.isDigit then
    some (digits.foldl (fun n c => n * 10 + (c.toNat - '0'.toNat)) 0)
  else
    none

/-- The digits after a dot at the start, if there are some and not too many, with
what follows them. -/
def dotted? (cs : List Char) : Option (List Char × List Char) :=
  match cs with
  | '.' :: rest =>
      let digits := rest.takeWhile Text.isDecimal
      if 0 < digits.length ∧ digits.length ≤ digitLimit then
        some (digits, rest.dropWhile Text.isDecimal)
      else
        none
  | _ => none

/-- The version with a given major part, when `rest` follows it. -/
def withRest (major rest : List Char) : Option Version := do
  let major ← number? major
  match dotted? rest with
  | none => pure ⟨major, 0, 0⟩
  | some (minor, rest) =>
      let minor ← number? minor
      match dotted? rest with
      | none => pure ⟨major, minor, 0⟩
      | some (patch, _) =>
          let patch ← number? patch
          pure ⟨major, minor, patch⟩

/-- Reads the version that starts with the first run of digits that is not too
long. -/
def ofChars? (cs : List Char) : Option Version :=
  match h : cs.dropWhile (fun c => !Text.isDecimal c) with
  | [] => none
  | c :: rest =>
      let digits := c :: rest.takeWhile Text.isDecimal
      if digits.length ≤ digitLimit then
        withRest digits (rest.dropWhile Text.isDecimal)
      else
        have : (rest.dropWhile Text.isDecimal).length < cs.length := by
          have h₁ := (List.dropWhile_sublist (p := Text.isDecimal) (l := rest)).length_le
          have h₂ := (List.dropWhile_sublist (p := fun c => !Text.isDecimal c) (l := cs)).length_le
          simp only [h, List.length_cons] at h₂
          omega
        ofChars? (rest.dropWhile Text.isDecimal)
termination_by cs.length

/-- The version in a text: `v1.21.x` holds 1.21.0, and `terraform 2` holds 2.0.0. -/
def coerce? (text : String) : Option Version :=
  ofChars? text.toList

/-- A trailing `.x` stands for a patch part of zero. -/
def fillPatch (text : String) : String :=
  match Text.beforeEnd? ".x" text with
  | some start => start ++ ".0"
  | none => text

/-- Reads a version as it is written in directories and directives: up to the first
blank, without a leading `v`. -/
def normalize? (text : String) : Option Version :=
  let head := (Text.split ' ' text).headD ""
  coerce? (fillPatch ((Text.afterStart? "v" head).getD head))

end Version
end Docloom
