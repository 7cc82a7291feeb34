import Docloom.Text.Case
import Docloom.Text.Cut
import Docloom.Text.Digit
import Docloom.Url.Path
import Docloom.Url.Punycode

/-!
# Hosts

The host of a url is a domain name, a number of four bytes, or a number of eight
pairs of bytes in brackets. Each has one spelling in a url that was read.
-/

namespace Docloom
namespace Url

/-!
# Numbers of four bytes
-/

def octalNumber? (cs : List Char) : Option Nat :=
  if cs.all fun c => '0' ≤ c && c ≤ '7' then
    some (cs.foldl (fun n c => n * 8 + (c.toNat - '0'.toNat)) 0)
  else
    none

def decimalNumber? (cs : List Char) : Option Nat :=
  if !cs.isEmpty && cs.all Char.isDigit then
    some (cs.foldl (fun n c => n * 10 + (c.toNat - '0'.toNat)) 0)
  else
    none

/-- A number in decimal, octal or hexadecimal digits. -/
def addressNumber? : List Char → Option Nat
  | '0' :: 'x' :: digits => if digits.isEmpty then some 0 else Text.hexNumber? digits
  | '0' :: 'X' :: digits => if digits.isEmpty then some 0 else Text.hexNumber? digits
  | '0' :: digits => octalNumber? digits
  | digits => decimalNumber? digits

/-- The labels of a name, without the empty one after a dot at the end. -/
def labels (name : List Char) : List (List Char) :=
  let parts := Text.splitChars (· == '.') name
  if parts.getLast? == some [] && 1 < parts.length then parts.dropLast else parts

def endsInNumber (name : List Char) : Bool :=
  match (labels name).getLast? with
  | some part =>
      !part.isEmpty && (part.all Char.isDigit ||
        (match part with
         | '0' :: x :: _ => (x == 'x' || x == 'X') && (addressNumber? part).isSome
         | _ => false))
  | none => false

/-- The number whose first bytes are given one by one and whose other bytes are
given as one number. -/
def addressOf? : List Nat → Option Nat
  | [] => none
  | parts =>
      let last := parts.getLastD 0
      let first := parts.dropLast
      if first.length < 4 ∧ first.all (· < 256) ∧ last < Nat.pow 256 (4 - first.length) then
        some (first.foldl (fun n part => n * 256 + part) 0 * Nat.pow 256 (4 - first.length) + last)
      else
        none

def addressText (n : Nat) : String :=
  Text.join "." ([n / Nat.pow 256 3, n / Nat.pow 256 2 % 256, n / 256 % 256, n % 256].map toString)

def readAddress (name : List Char) : Option String := do
  let parts ← (labels name).mapM addressNumber?
  pure (addressText (← addressOf? parts))

/-!
# Numbers of eight pairs of bytes
-/

/-- The number of up to four hexadecimal digits. -/
def pieceNumber? (cs : List Char) : Option Nat :=
  if cs.length ≤ 4 then Text.hexNumber? cs else none

/-- The pieces between colons. The last one may be a number of four bytes. -/
def pieces? (last : Bool) : List (List Char) → Option (List Nat)
  | [] => some []
  | part :: parts =>
      if last && parts.isEmpty && part.contains '.' then do
        let bytes ← (Text.splitChars (· == '.') part).mapM decimalNumber?
        match bytes with
        | [a, b, c, d] =>
            if bytes.all (· < 256) then pure [a * 256 + b, c * 256 + d] else none
        | _ => none
      else do
        let piece ← pieceNumber? part
        let rest ← pieces? last parts
        pure (piece :: rest)

/-- The parts between colons, none if the text is empty. -/
def colonParts (cs : List Char) : List (List Char) :=
  if cs.isEmpty then [] else Text.splitChars (· == ':') cs

/-- Cuts a text at the first two colons. -/
def splitDoubleColon : List Char → Option (List Char × List Char)
  | [] => none
  | ':' :: ':' :: rest => some ([], rest)
  | c :: rest => (splitDoubleColon rest).map fun parts => (c :: parts.1, parts.2)

def readPieces (cs : List Char) : Option (List Nat) :=
  match splitDoubleColon cs with
  | none => do
      let pieces ← pieces? true (colonParts cs)
      if pieces.length = 8 then pure pieces else none
  | some (before, after) => do
      let first ← pieces? false (colonParts before)
      let last ← pieces? true (colonParts after)
      let count := first.length + last.length
      if count < 8 then pure (first ++ List.replicate (8 - count) 0 ++ last) else none

/-- The length of the run of zeros at the start. -/
def zeros (pieces : List Nat) : Nat := (pieces.takeWhile (· == 0)).length

/-- The longest run of zeros: where it starts and how long it is. -/
def longestZeros (index : Nat) : List Nat → Nat × Nat
  | [] => (index, 0)
  | piece :: pieces =>
      let here := zeros (piece :: pieces)
      let later := longestZeros (index + 1) pieces
      if here < later.2 then later else (index, here)

def hexText (n : Nat) : String := String.ofList (Nat.toDigits 16 n)

/-- The pieces with colons between them. The longest run of zeros, if it has more
than one, is left out. -/
def piecesText (pieces : List Nat) : String :=
  let (start, count) := longestZeros 0 pieces
  if count < 2 then
    Text.join ":" (pieces.map hexText)
  else
    Text.join ":" ((pieces.take start).map hexText) ++ "::" ++
      Text.join ":" ((pieces.drop (start + count)).map hexText)

/-!
# Domain names
-/

/-- The bytes of a text in which bytes may be written with percent signs. -/
def decodeBytes : List Char → List UInt8
  | [] => []
  | '%' :: a :: b :: rest =>
      match Text.hexValue? a, Text.hexValue? b with
      | some a, some b => UInt8.ofNat (a * 16 + b) :: decodeBytes rest
      | _, _ => UInt8.ofNat '%'.toNat :: decodeBytes (a :: b :: rest)
  | c :: rest => String.utf8EncodeChar c ++ decodeBytes rest

def decodeHost (cs : List Char) : Option (List Char) :=
  (String.fromUTF8? (decodeBytes cs).toByteArray).map String.toList

/-- Characters that no host may have. -/
def isForbiddenInHost (c : Char) : Bool :=
  "\x00\t\n\r #/:<>?@[\\]^|".toList.contains c

def isForbiddenInDomain (c : Char) : Bool :=
  isForbiddenInHost c || isControlChar c || c == '%'

/-- A label in small letters of the basic Latin block. -/
def asciiLabel (label : List Char) : List Char :=
  if label.all fun c => c.toNat < 0x80 then label else "xn--".toList ++ Punycode.encode label

def readDomain (cs : List Char) : Option String := do
  let name := (Text.toLower (String.ofList (← decodeHost cs))).toList
  let ascii :=
    Text.join "." ((Text.splitChars (· == '.') name).map fun label =>
      String.ofList (asciiLabel label))
  if ascii.isEmpty ∨ ascii.toList.any isForbiddenInDomain then
    none
  else if endsInNumber ascii.toList then
    readAddress ascii.toList
  else
    pure ascii

/-- Reads a host. Only the well-known schemes have domain names; other hosts are kept
as they are. -/
def readHost (special : Bool) (cs : List Char) : Option String :=
  match cs with
  | '[' :: rest =>
      if rest.getLast? = some ']' then
        (readPieces rest.dropLast).map fun pieces => "[" ++ piecesText pieces ++ "]"
      else
        none
  | _ =>
      if special then
        readDomain cs
      else if cs.any isForbiddenInHost then
        none
      else
        some (String.ofList (encode isControlChar cs))

end Url
end Docloom
