import Docloom.Regex.Bracket

/-!
# Reading regular expressions

An expression is read from left to right. The groups that are open are kept on a
stack, the innermost first.
-/

namespace Docloom
namespace Regex

/-- A group that is open, or the whole expression. -/
structure Level where
  /-- The number of the group, if its text is kept. -/
  number : Option Nat
  /-- The setting to go back to after the group. -/
  outside : Setting
  /-- The alternatives that are complete, the last one first. -/
  branches : List Regex
  /-- The items of the alternative that is being read, the last one first. A setting
  in parentheses counts as an item that is no expression. -/
  items : List (Option Regex)

structure Reader where
  setting : Setting
  /-- The number of the next group whose text is kept. -/
  next : Nat
  /-- The names of groups. -/
  names : List String
  level : Level
  outer : List Level

namespace Level

def start (number : Option Nat) (outside : Setting) : Level := ⟨number, outside, [], []⟩

/-- The items as one expression. The last item stands first in the list. -/
def sequenceOnto (after : Regex) : List (Option Regex) → Regex
  | [] => after
  | none :: items => sequenceOnto after items
  | some item :: items => sequenceOnto (.seq item after) items

def sequence : List (Option Regex) → Regex
  | [] => .empty
  | none :: items => sequence items
  | some item :: items => sequenceOnto item items

def alternatives (last : Regex) : List Regex → Regex
  | [] => last
  | branch :: branches => alternatives (.alt branch last) branches

/-- What was read between the parentheses. -/
def inside (level : Level) : Regex := alternatives (sequence level.items) level.branches

/-- The whole group. -/
def group (level : Level) : Regex :=
  match level.number with
  | some number => .group number level.inside
  | none => level.inside

end Level

namespace Reader

def start (setting : Setting) : Reader := ⟨setting, 1, [], .start none setting, []⟩

def push (reader : Reader) (item : Option Regex) : Reader :=
  { reader with level := { reader.level with items := item :: reader.level.items } }

/-- Opens a group inside which another setting holds. -/
def openGroup (reader : Reader) (number : Option Nat) (setting : Setting) : Reader :=
  { reader with
    setting
    level := .start number reader.setting
    outer := reader.level :: reader.outer }

/-- Opens a group whose text is kept. -/
def openNumbered (reader : Reader) : Reader :=
  { reader.openGroup (some reader.next) reader.setting with next := reader.next + 1 }

def closeGroup (reader : Reader) : Option Reader :=
  match reader.outer with
  | [] => none
  | level :: outer =>
      some <|
        push { reader with setting := reader.level.outside, level, outer }
          (some reader.level.group)

def branch (reader : Reader) : Reader :=
  let level := reader.level
  { reader with
    level :=
      { level with branches := Level.sequence level.items :: level.branches, items := [] } }

/-- Repeats the last item. -/
def repeatLast (reader : Reader) (least : Nat) (most : Option Nat) (greedy : Bool) :
    Option Reader :=
  match reader.level.items with
  | some item :: items =>
      let times := Regex.times item least most (greedy != reader.setting.swapped)
      some { reader with level := { reader.level with items := some times :: items } }
  | _ => none

/-!
# Repetitions
-/

/-- Reads the `?` after a repetition. Returns whether the repetition is greedy. -/
def readGreed : List Char → Bool × List Char
  | '?' :: rest => (false, rest)
  | rest => (true, rest)

/-- The largest count of a repetition. -/
def maxCount : Nat := Nat.pow 2 32 - 1

/-- Reads a count and the white space around it. -/
def readCount (setting : Setting) (cs : List Char) : Option (Nat × List Char) :=
  let cs := cs.dropWhile Text.isBlank
  let digits := cs.takeWhile Char.isDigit
  let n := digits.foldl (fun n c => n * 10 + (c.toNat - '0'.toNat)) 0
  if digits.isEmpty ∨ maxCount < n then
    none
  else
    some (n, setting.skip ((cs.dropWhile Char.isDigit).dropWhile Text.isBlank))

/-- Reads the counts of a repetition after its opening brace. -/
def readCounts (setting : Setting) (cs : List Char) :
    Option (Nat × Option Nat × List Char) := do
  let (least, rest) ← readCount setting (setting.skip cs)
  match rest with
  | '\x7d' :: rest => pure (least, some least, rest)
  | ',' :: rest =>
      match setting.skip rest with
      | '\x7d' :: rest => pure (least, none, rest)
      | rest =>
          let (most, rest) ← readCount setting rest
          match rest with
          | '\x7d' :: rest => if least ≤ most then pure (least, some most, rest) else none
          | _ => none
  | _ => none

/-!
# Groups
-/

/-- The characters of the name of a group. -/
def isNameChar (first : Bool) (c : Char) : Bool :=
  c == '_' || ((classNamed? "alphabetic").any fun set => set.has c) ||
    (!first && (c == '.' || c == '[' || c == ']' ||
      ((categoryNamed? "n").any fun set => set.has c)))

/-- Opens a group with a name. Its text is kept under its number. -/
def openNamed (reader : Reader) (cs : List Char) : Option (Reader × List Char) :=
  match cs.span (· != '>') with
  | (name, _ :: rest) =>
      let first := name.take 1
      let text := String.ofList name
      if name.isEmpty ∨ !first.all (isNameChar true) ∨ !name.all (isNameChar false) ∨
          reader.names.contains text then
        none
      else
        some ({ reader with names := text :: reader.names }.openNumbered, rest)
  | (_, []) => none

/-- Reads what follows an opening parenthesis. -/
def readOpening (reader : Reader) (cs : List Char) : Option (Reader × List Char) :=
  match reader.setting.skip cs with
  | '?' :: '=' :: _ => none
  | '?' :: '!' :: _ => none
  | '?' :: '<' :: '=' :: _ => none
  | '?' :: '<' :: '!' :: _ => none
  | '?' :: 'P' :: '<' :: rest => reader.openNamed rest
  | '?' :: '<' :: rest => reader.openNamed rest
  | '?' :: rest =>
      match reader.setting.read rest with
      | some (setting, _, ':' :: rest) => some (reader.openGroup none setting, rest)
      | some (setting, seen, _ :: rest) =>
          if seen.isEmpty then
            none
          else
            some ({ reader.push none with setting }, rest)
      | _ => none
  | rest => some (reader.openNumbered, rest)

/-!
# Items
-/

def dotSet (setting : Setting) : CharSet :=
  if setting.dotMatchesLineEnd then
    .not .none
  else if setting.crlf then
    .not (.ofRanges [('\r', '\r'), ('\n', '\n')])
  else
    .not (.single '\n')

def startAnchor (setting : Setting) : Anchor :=
  if setting.multiLine then .lineStart setting.crlf else .textStart

def endAnchor (setting : Setting) : Anchor :=
  if setting.multiLine then .lineEnd setting.crlf else .textEnd

/-- The expression of a character or an escape. -/
def atomRegex? (setting : Setting) : Atom → Option Regex
  | .anchor condition => some (.anchor condition)
  | .oneOf set => if setting.allows set then some (.char set) else none
  | .char c isByte =>
      if !setting.everyScript && isByte && 0x80 ≤ c.toNat then
        none
      else
        some (.char (setting.fold (.single c)))

/-- Reads one piece of an expression. -/
def step (reader : Reader) (c : Char) (rest : List Char) : Option (Reader × List Char) :=
  let setting := reader.setting
  match c with
  | '(' => reader.readOpening rest
  | ')' => reader.closeGroup.map fun reader => (reader, rest)
  | '|' => some (reader.branch, rest)
  | '[' => (Bracket.read setting rest).map fun read => (reader.push (some (.char read.1)), read.2)
  | '?' =>
      let (greedy, rest) := readGreed rest
      (reader.repeatLast 0 (some 1) greedy).map fun reader => (reader, rest)
  | '*' =>
      let (greedy, rest) := readGreed rest
      (reader.repeatLast 0 none greedy).map fun reader => (reader, rest)
  | '+' =>
      let (greedy, rest) := readGreed rest
      (reader.repeatLast 1 none greedy).map fun reader => (reader, rest)
  | '\x7b' => do
      let (least, most, rest) ← readCounts setting rest
      let (greedy, rest) := readGreed (setting.skip rest)
      let reader ← reader.repeatLast least most greedy
      pure (reader, rest)
  | '^' => some (reader.push (some (.anchor (startAnchor setting))), rest)
  | '$' => some (reader.push (some (.anchor (endAnchor setting))), rest)
  | '.' =>
      let set := dotSet setting
      if setting.allows set then some (reader.push (some (.char set)), rest) else none
  | _ => do
      let (atom, rest) ← Atom.read setting (c :: rest)
      let item ← atomRegex? setting atom
      pure (reader.push (some item), rest)

/-- Reads up to the end of the text. Each piece takes at least one character. -/
def readPieces : Nat → Reader → List Char → Option Reader
  | 0, _, _ => none
  | fuel + 1, reader, cs =>
      match reader.setting.skip cs with
      | [] => some reader
      | c :: rest =>
          match reader.step c rest with
          | some (reader, rest) => readPieces fuel reader rest
          | none => none

end Reader

/-!
# The size of an expression
-/

/-- The room that a class needs, in bytes. -/
def CharSet.weight : CharSet → Nat
  | .none => 64
  | .range _ _ => 64
  | .table ranges => 40 * ranges.length
  | .digit => 2500
  | .word => 25000
  | .space => 500
  | .not set => set.weight + 200
  | .union a b | .inter a b | .diff a b | .symmDiff a b => a.weight + b.weight
  | .folded set | .asciiFolded set => set.weight + 16

/-- The room that an expression needs, in bytes. -/
def weight : Regex → Nat
  | .empty => 32
  | .char set => set.weight
  | .anchor .. => 32
  | .group _ inside => inside.weight + 64
  | .seq first second => first.weight + second.weight
  | .alt first second => first.weight + second.weight + 40
  | .times inside least most _ => (inside.weight + 40) * max 1 (most.getD (least + 1))

/-- Expressions that need more room are refused. -/
def maxWeight : Nat := 10 * Nat.pow 2 20

/-- Reads an expression for matching without regard to case. -/
def read? (text : String) : Option Regex :=
  let cs := text.toList
  match Reader.readPieces (cs.length + 1) (.start { ignoreCase := true }) cs with
  | some reader =>
      let regex := reader.level.inside
      if reader.outer.isEmpty ∧ regex.weight ≤ maxWeight then some regex else none
  | none => none

end Regex
end Docloom
