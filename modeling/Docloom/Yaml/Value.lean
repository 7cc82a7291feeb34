import Docloom.Text.Digit
import Docloom.Yaml.Float
import Docloom.Yaml.Node

/-!
# Values

What a YAML text says. Plain scalars are numbers, truth values or null if they look
like it, and texts otherwise. An alias has the value of the node it stands for.
-/

namespace Docloom
namespace Yaml

inductive Value where
  | null
  | bool (value : Bool)
  | integer (value : Int)
  /-- A floating point number, by its shortest text. -/
  | float (text : String)
  | text (text : String)
  | sequence (items : List Value)
  | mapping (entries : List (Value × Value))
  | tagged (tag : String) (value : Value)
  deriving Repr, BEq

/-!
# Scalars
-/

def isNullText (text : String) : Bool := ["null", "Null", "NULL", "~"].contains text

def boolOf? (text : String) : Option Bool :=
  if ["true", "True", "TRUE"].contains text then
    some true
  else if ["false", "False", "FALSE"].contains text then
    some false
  else
    none

/-- Digits with a zero in front, which are no number. -/
def isZeroPadded (text : String) : Bool :=
  let digits :=
    match text.toList with
    | '-' :: rest => rest
    | '+' :: rest => rest
    | cs => cs
  1 < digits.length && digits.head? == some '0' && digits.all Char.isDigit

/-- The number of digits to some base. -/
def digitsNumber? (base : Nat) (cs : List Char) : Option Nat :=
  if cs.isEmpty then
    none
  else
    cs.foldlM (fun n c => do
      let digit ← Text.hexValue? c
      if digit < base then pure (n * base + digit) else none) 0

/-- The number of an integer without a sign. -/
def unsignedInteger? : List Char → Option Nat
  | '0' :: 'x' :: digits => digitsNumber? 16 digits
  | '0' :: 'o' :: digits => digitsNumber? 8 digits
  | '0' :: 'b' :: digits => digitsNumber? 2 digits
  | digits => digitsNumber? 10 digits

def integer? (text : String) : Option Int :=
  if isZeroPadded text then
    none
  else
    match text.toList with
    | '-' :: rest => (unsignedInteger? rest).map fun n => -(n : Int)
    | '+' :: rest => (unsignedInteger? rest).map Int.ofNat
    | cs => (unsignedInteger? cs).map Int.ofNat

/-- Integers that have a value. Larger ones up to 128 binary digits have none, and
those beyond are no integers. -/
def isInteger (n : Int) : Bool := -(Int.pow 2 63) ≤ n && n < Int.pow 2 64

def isLargeInteger (n : Int) : Bool := -(Int.pow 2 127) ≤ n && n < Int.pow 2 128

/-- The value of a plain scalar. -/
def plainValue? (text : String) : Option Value :=
  if text.isEmpty || isNullText text then
    some .null
  else
    match boolOf? text with
    | some value => some (.bool value)
    | none =>
        match (integer? text).filter isLargeInteger with
        | some n => if isInteger n then some (.integer n) else none
        | none =>
            match (if isZeroPadded text then none else floatText? text) with
            | some float => some (.float float)
            | none => some (.text text)

/-- The value of a scalar with a tag of the language. -/
def coreValue? (tag text : String) : Option Value :=
  if tag = "tag:yaml.org,2002:bool" then
    (boolOf? text).map .bool
  else if tag = "tag:yaml.org,2002:int" then
    ((integer? text).filter isInteger).map .integer
  else if tag = "tag:yaml.org,2002:float" then
    (floatText? text).map .float
  else if tag = "tag:yaml.org,2002:null" then
    if isNullText text then some .null else none
  else
    some (.text text)

def scalarValue? (tag : Option String) (text : String) (plain : Bool) : Option Value :=
  match tag with
  | some tag => coreValue? tag text
  | none => if plain then plainValue? text else some (.text text)

/-!
# Nodes
-/

/-- A value with its height and with the number of aliases on the way to it. -/
structure Built where
  value : Value
  height : Nat
  aliases : Nat

/-- The values of anchors, the last one first. The value of a node that is not
complete is missing. -/
abbrev Anchors := List (String × Option Built)

/-- The name of a tag that is not part of the language. -/
def localTag? (tag : Option String) : Option String :=
  tag.bind fun tag => if tag.startsWith "!" then some tag else none

def open? (anchors : Anchors) (properties : Properties) : Anchors :=
  match properties.anchor with
  | some name => (name, none) :: anchors
  | none => anchors

/-- Gives a node its tag, and its value to its anchor. -/
def close (anchors : Anchors) (properties : Properties) (built : Built) : Built × Anchors :=
  let built :=
    match localTag? properties.tag with
    | some tag => { built with value := .tagged tag built.value }
    | none => built
  match properties.anchor with
  | some name => (built, (name, some built) :: anchors)
  | none => (built, anchors)

mutual
def build (anchors : Anchors) (node : Node) : Option (Built × Anchors) :=
  match node with
  | .alias name =>
      match anchors.lookup name with
      | some (some built) => some ({ built with aliases := built.aliases + 1 }, anchors)
      | _ => none
  | .scalar properties text plain => do
      let core := if (localTag? properties.tag).isSome then none else properties.tag
      let value ← scalarValue? core text plain
      pure (close anchors properties ⟨value, 0, 0⟩)
  | .sequence properties items => do
      let (items, anchors) ← buildItems (open? anchors properties) items
      let height := (items.map Built.height).foldl max 0 + 1
      let aliases := (items.map Built.aliases).sum
      pure (close anchors properties ⟨.sequence (items.map Built.value), height, aliases⟩)
  | .mapping properties entries => do
      let (entries, anchors) ← buildEntries (open? anchors properties) [] entries
      let all := entries.flatMap fun entry => [entry.1, entry.2]
      let height := (all.map Built.height).foldl max 0 + 1
      let aliases := (all.map Built.aliases).sum
      let values := entries.map fun entry => (entry.1.value, entry.2.value)
      pure (close anchors properties ⟨.mapping values, height, aliases⟩)

def buildItems (anchors : Anchors) : List Node → Option (List Built × Anchors)
  | [] => some ([], anchors)
  | node :: nodes => do
      let (first, anchors) ← build anchors node
      let (rest, anchors) ← buildItems anchors nodes
      pure (first :: rest, anchors)

/-- No key may come twice. -/
def buildEntries (anchors : Anchors) (keys : List Value) :
    List (Node × Node) → Option (List (Built × Built) × Anchors)
  | [] => some ([], anchors)
  | (key, node) :: entries => do
      let (key, anchors) ← build anchors key
      if keys.contains key.value then
        none
      let (first, anchors) ← build anchors node
      let (rest, anchors) ← buildEntries anchors (key.value :: keys) entries
      pure ((key, first) :: rest, anchors)
end

mutual
/-- The number of steps that it takes to write a node. -/
def eventCount (node : Node) : Nat :=
  match node with
  | .alias _ => 1
  | .scalar .. => 1
  | .sequence _ items => eventCountItems items + 2
  | .mapping _ entries => eventCountEntries entries + 2

def eventCountItems : List Node → Nat
  | [] => 0
  | node :: nodes => eventCount node + eventCountItems nodes

def eventCountEntries : List (Node × Node) → Nat
  | [] => 0
  | (key, node) :: entries => eventCount key + eventCount node + eventCountEntries entries
end

/-- Collections may stand in each other up to this depth. -/
def maxHeight : Nat := 128

/-- The value of a text. A text in which aliases repeat too much has none. -/
def Value.parse? (text : String) : Option Value := do
  match ← Node.parse? text with
  | none => pure .null
  | some node =>
      let (built, _) ← build [] node
      if maxHeight < built.height || eventCount node * 100 < built.aliases then
        none
      else
        pure built.value

end Yaml
end Docloom
