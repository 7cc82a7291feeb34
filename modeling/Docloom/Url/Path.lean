import Docloom.Text.Cut

/-!
# Percent signs

A character that may not stand in a part of a url is written as the bytes of its
encoding, each after a percent sign.
-/

namespace Docloom
namespace Url

def hexDigit (n : Nat) : Char :=
  if n < 10 then Char.ofNat ('0'.toNat + n) else Char.ofNat ('A'.toNat + (n - 10))

def percentByte (byte : UInt8) : List Char :=
  ['%', hexDigit (byte.toNat / 16), hexDigit (byte.toNat % 16)]

/-- Writes the characters of a class, and all that are not in the basic Latin block,
with percent signs. -/
def encode (escaped : Char → Bool) (cs : List Char) : List Char :=
  cs.flatMap fun c =>
    if 0x80 ≤ c.toNat || escaped c then
      (String.utf8EncodeChar c).flatMap percentByte
    else
      [c]

theorem encode_nil (escaped : Char → Bool) : encode escaped [] = [] := rfl

theorem encode_append (escaped : Char → Bool) (a b : List Char) :
    encode escaped (a ++ b) = encode escaped a ++ encode escaped b := by
  simp [encode]

/-!
# What is escaped in the parts of a url
-/

def isControlChar (c : Char) : Bool := c.toNat < 32 || c.toNat == 127

def isFragmentEscaped (c : Char) : Bool :=
  isControlChar c || " \"<>\x60".toList.contains c

def isQueryEscaped (special : Bool) (c : Char) : Bool :=
  isControlChar c || " \"#<>".toList.contains c || (special && c == '\'')

def isPathEscaped (c : Char) : Bool :=
  isFragmentEscaped c || "#?\x7b\x7d".toList.contains c

def isUserEscaped (c : Char) : Bool :=
  isPathEscaped c || "/:;=@[\\]^|".toList.contains c

/-!
# Paths of urls

A path is a list of segments. A dot stands for the segment itself and two dots for
the one before it, also where a dot is written with a percent sign.
-/

/-- Characters that reading a url passes over. -/
def isIgnored (c : Char) : Bool := c == '\t' || c == '\n' || c == '\r'

/-- A segment with dots in place of their percent signs. -/
def plainDots : List Char → List Char
  | '%' :: '2' :: 'e' :: rest => '.' :: plainDots rest
  | '%' :: '2' :: 'E' :: rest => '.' :: plainDots rest
  | c :: rest => c :: plainDots rest
  | [] => []

def isDot (segment : List Char) : Bool := plainDots segment == ['.']

def isDoubleDot (segment : List Char) : Bool := plainDots segment == ['.', '.']

/-- Walks along segments. `walked` holds the segments so far, the last one first. The
path ends in a slash where the last segment leads to a directory. -/
def walk (walked : List (List Char)) : List (List Char) → List (List Char)
  | [] => walked
  | segment :: rest =>
      if isDoubleDot segment then
        walk (if rest.isEmpty then [] :: walked.tail else walked.tail) rest
      else if isDot segment then
        walk (if rest.isEmpty then [] :: walked else walked) rest
      else
        walk (encode isPathEscaped segment :: walked) rest

def isSlash (special : Bool) (c : Char) : Bool := c == '/' || (special && c == '\\')

/-- The path that a text stands for, without its first slash. -/
def pathOf (special : Bool) (cs : List Char) : String :=
  let segments := Text.splitChars (isSlash special) (cs.filter (!isIgnored ·))
  "/" ++ Text.join "/" ((walk [] segments).reverse.map String.ofList)

/-- Drops the slash at the start. -/
def dropSlash (special : Bool) : List Char → List Char
  | [] => []
  | c :: rest => if isSlash special c then rest else c :: rest

end Url
end Docloom
