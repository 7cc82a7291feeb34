import Docloom.Regex.Basic
import Docloom.Regex.Named
import Docloom.Regex.Setting
import Docloom.Text.Digit

/-!
# Escapes

What a backslash and the characters after it stand for.
-/

namespace Docloom
namespace Regex

namespace Setting

/-- What comes next, without white space and comments where they may stand. -/
def skip (setting : Setting) (cs : List Char) : List Char :=
  if setting.spaced then dropBlanks false cs else cs

/-- A class in any case, if case does not count. -/
def fold (setting : Setting) (set : CharSet) : CharSet :=
  if setting.ignoreCase then
    if setting.everyScript then .folded set else .asciiFolded set
  else
    set

/-- A class that is not that of every script must stay inside the basic Latin
block. -/
def allows (setting : Setting) (set : CharSet) : Bool :=
  setting.everyScript || !set.has '\x80'

end Setting

/-- One item of an expression or a class. -/
inductive Atom where
  /-- A character; `isByte` if it is given by two hexadecimal digits. -/
  | char (c : Char) (isByte : Bool)
  | oneOf (set : CharSet)
  | anchor (condition : Anchor)
  deriving Repr

namespace Atom

/-- Characters that stand for something else unless a backslash stands before
them. -/
def isMeta (c : Char) : Bool :=
  "\\.+*?()|[]\x7b\x7d^$#&-~".toList.contains c

/-- A character that may have a backslash before it and stays what it is. -/
def isEscapable (c : Char) : Bool :=
  isMeta c || (c.toNat < 0x80 && !c.isAlphanum && c != '<' && c != '>')

/-- Reads hexadecimal digits. -/
def readDigits (setting : Setting) : Nat → List Char → Option (List Char × List Char)
  | 0, cs => some ([], cs)
  | n + 1, cs =>
      match setting.skip cs with
      | [] => none
      | c :: rest => (readDigits setting n rest).map fun read => (c :: read.1, read.2)

/-- Reads up to a closing brace. -/
def readBraces (setting : Setting) (cs : List Char) : Option (List Char × List Char) :=
  match cs.span (· != '\x7d') with
  | (inside, _ :: rest) =>
      some (if setting.spaced then inside.filter (!Text.isBlank ·) else inside, rest)
  | (_, []) => none

/-- Reads the character whose code point stands after `\x`, `\u` or `\U`. -/
def readCode (setting : Setting) (count : Nat) (cs : List Char) : Option (Atom × List Char) := do
  match setting.skip cs with
  | '\x7b' :: rest =>
      let (digits, rest) ← readBraces setting rest
      let c ← Text.charOfCode? (← Text.hexNumber? digits)
      pure (.char c false, rest)
  | rest =>
      let (digits, rest) ← readDigits setting count rest
      let c ← Text.charOfCode? (← Text.hexNumber? digits)
      pure (.char c (count == 2), rest)

/-- Reads the class after `\p` or `\P`. -/
def readNamed (setting : Setting) (negated : Bool) (cs : List Char) :
    Option (Atom × List Char) := do
  let (set, rest) ←
    match setting.skip cs with
    | '\x7b' :: rest => do
        let (name, rest) ← readBraces setting rest
        pure (← classInBraces? name, rest)
    | '\\' :: _ => none
    | c :: rest => do pure (← classNamed? (plainName [c]), rest)
    | [] => none
  if setting.everyScript then
    let set := setting.fold set
    pure (.oneOf (if negated then .not set else set), rest)
  else
    none

/-- Reads what follows `\b`. Letters in braces say which edge of a word is meant;
other braces are left for a repetition. -/
def readEdge (setting : Setting) (cs : List Char) : Option (Atom × List Char) :=
  let ascii := !setting.everyScript
  let plain : Atom := .anchor (.wordEdge ascii)
  match cs with
  | '\x7b' :: rest =>
      match setting.skip rest with
      | [] => none
      | c :: _ =>
          if c.isAlpha || c == '-' then do
            let (name, rest) ← readBraces setting rest
            match String.ofList name with
            | "start" => some (.anchor (.wordStart ascii), rest)
            | "end" => some (.anchor (.wordEnd ascii), rest)
            | "start-half" => some (.anchor (.wordStartHalf ascii), rest)
            | "end-half" => some (.anchor (.wordEndHalf ascii), rest)
            | _ => none
          else
            some (plain, cs)
  | _ => some (plain, cs)

/-- The class of a letter after a backslash. -/
def letterClass? (setting : Setting) : Char → Option CharSet
  | 'd' => some (if setting.everyScript then .digit else .asciiDigit)
  | 'w' => some (if setting.everyScript then .word else .asciiWord)
  | 's' => some (if setting.everyScript then .space else .asciiSpace)
  | 'D' => some (.not (if setting.everyScript then .digit else .asciiDigit))
  | 'W' => some (.not (if setting.everyScript then .word else .asciiWord))
  | 'S' => some (.not (if setting.everyScript then .space else .asciiSpace))
  | _ => none

/-- The character or condition of a letter after a backslash. -/
def letter? (setting : Setting) : Char → Option Atom
  | 'a' => some (.char '\x07' false)
  | 'f' => some (.char '\x0c' false)
  | 't' => some (.char '\t' false)
  | 'n' => some (.char '\n' false)
  | 'r' => some (.char '\r' false)
  | 'v' => some (.char '\x0b' false)
  | 'A' => some (.anchor .textStart)
  | 'z' => some (.anchor .textEnd)
  | 'B' => some (.anchor (.noWordEdge (!setting.everyScript)))
  | '<' => some (.anchor (.wordStart (!setting.everyScript)))
  | '>' => some (.anchor (.wordEnd (!setting.everyScript)))
  | _ => none

/-- Reads what follows a backslash. -/
def readEscape (setting : Setting) : List Char → Option (Atom × List Char)
  | [] => none
  | c :: rest =>
      match c with
      | 'x' => readCode setting 2 rest
      | 'u' => readCode setting 4 rest
      | 'U' => readCode setting 8 rest
      | 'p' => readNamed setting false rest
      | 'P' => readNamed setting true rest
      | 'b' => readEdge setting rest
      | _ =>
          if isEscapable c then
            some (.char c false, rest)
          else
            match letterClass? setting c with
            | some set => some (.oneOf set, rest)
            | none => (letter? setting c).map fun atom => (atom, rest)

/-- Reads a character or an escape. -/
def read (setting : Setting) : List Char → Option (Atom × List Char)
  | [] => none
  | '\\' :: rest => readEscape setting rest
  | c :: rest => some (.char c false, rest)

end Atom
end Regex
end Docloom
