import Docloom.Text.Digit

/-!
# Scalars

The texts, numbers and times of a TOML document.
-/

namespace Docloom
namespace Toml

/-!
# Characters
-/

/-- White space inside a line. -/
def isSpace (c : Char) : Bool := c == ' ' || c == '\t'

/-- Characters that may stand in comments and texts of one line. -/
def isPrintable (c : Char) : Bool := c == '\t' || (32 ≤ c.toNat && c.toNat != 127)

/-- What follows a line break. -/
def afterBreak? : List Char → Option (List Char)
  | '\n' :: rest => some rest
  | '\r' :: '\n' :: rest => some rest
  | _ => none

/-!
# Texts
-/

/-- Reads an escape after its backslash. -/
def readEscape : List Char → Option (Char × List Char)
  | [] => none
  | c :: rest =>
      match c with
      | 'b' => some ('\x08', rest)
      | 't' => some ('\t', rest)
      | 'n' => some ('\n', rest)
      | 'f' => some ('\x0c', rest)
      | 'r' => some ('\r', rest)
      | 'e' => some ('\x1b', rest)
      | '"' => some ('"', rest)
      | '\\' => some ('\\', rest)
      | 'x' => Text.readHexChar 2 rest
      | 'u' => Text.readHexChar 4 rest
      | 'U' => Text.readHexChar 8 rest
      | _ => none

/-- Reads a text in double quotes, up to the closing one. -/
def readBasic : Nat → List Char → Option (List Char × List Char)
  | 0, _ => none
  | fuel + 1, cs =>
      match cs with
      | [] => none
      | '"' :: rest => some ([], rest)
      | '\\' :: rest => do
          let (c, rest) ← readEscape rest
          let (read, rest) ← readBasic fuel rest
          pure (c :: read, rest)
      | c :: rest =>
          if isPrintable c then
            (readBasic fuel rest).map fun read => (c :: read.1, read.2)
          else
            none

/-- Reads a text in single quotes, in which there are no escapes. -/
def readLiteral : List Char → Option (List Char × List Char)
  | [] => none
  | c :: rest =>
      if c == '\'' then
        some ([], rest)
      else if isPrintable c then
        (readLiteral rest).map fun read => (c :: read.1, read.2)
      else
        none

/-- The white space and line breaks after a backslash at the end of a line; none if
no line break is among them. -/
def skipJoined? (cs : List Char) : Option (List Char) :=
  let isAny (c : Char) : Bool := isSpace c || c == '\n' || c == '\r'
  (afterBreak? (cs.dropWhile isSpace)).map fun rest => rest.dropWhile isAny

/-- Reads a text of several lines, up to three quotes. Up to two more quotes may stand
before those. -/
def readLines (quote : Char) : Nat → List Char → Option (List Char × List Char)
  | 0, _ => none
  | fuel + 1, cs =>
      let quotes := (cs.takeWhile (· == quote)).length
      if 3 ≤ quotes then
        if quotes ≤ 5 then
          some (List.replicate (quotes - 3) quote, cs.drop quotes)
        else
          none
      else
        match cs with
        | [] => none
        | '\\' :: rest =>
            if quote == '\'' then
              (readLines quote fuel rest).map fun read => ('\\' :: read.1, read.2)
            else
              match skipJoined? rest with
              | some rest => readLines quote fuel rest
              | none => do
                  let (c, rest) ← readEscape rest
                  let (read, rest) ← readLines quote fuel rest
                  pure (c :: read, rest)
        | c :: rest =>
            match afterBreak? cs with
            | some rest => (readLines quote fuel rest).map fun read => ('\n' :: read.1, read.2)
            | none =>
                if isPrintable c then
                  (readLines quote fuel rest).map fun read => (c :: read.1, read.2)
                else
                  none

/-- Reads a text. The line break after three opening quotes does not count. -/
def readText (cs : List Char) : Option (String × List Char) := do
  let (read, rest) ←
    match cs with
    | '"' :: '"' :: '"' :: rest => readLines '"' cs.length ((afterBreak? rest).getD rest)
    | '\'' :: '\'' :: '\'' :: rest => readLines '\'' cs.length ((afterBreak? rest).getD rest)
    | '"' :: rest => readBasic cs.length rest
    | '\'' :: rest => readLiteral rest
    | _ => none
  pure (String.ofList read, rest)

/-!
# Numbers
-/

/-- The number of digits to some base. Underscores may stand between digits. -/
def digitsFrom? (base : Nat) (afterDigit : Bool) (n : Nat) : List Char → Option Nat
  | [] => if afterDigit then some n else none
  | c :: rest =>
      if c == '_' then
        if afterDigit then digitsFrom? base false n rest else none
      else
        match Text.hexValue? c with
        | some digit =>
            if digit < base then digitsFrom? base true (n * base + digit) rest else none
        | none => none

def digits? (base : Nat) (cs : List Char) : Option Nat := digitsFrom? base false 0 cs

/-- A decimal number without zeros in front. -/
def decimal? (cs : List Char) : Option Nat :=
  if 1 < cs.length && cs.head? == some '0' then none else digits? 10 cs

def integer? : List Char → Option Int
  | '+' :: cs => (decimal? cs).map Int.ofNat
  | '-' :: cs => (decimal? cs).map fun n => -(n : Int)
  | '0' :: 'x' :: cs => (digits? 16 cs).map Int.ofNat
  | '0' :: 'o' :: cs => (digits? 8 cs).map Int.ofNat
  | '0' :: 'b' :: cs => (digits? 2 cs).map Int.ofNat
  | cs => (decimal? cs).map Int.ofNat

def dropSign : List Char → List Char
  | '+' :: cs => cs
  | '-' :: cs => cs
  | cs => cs

/-- Whether a text is a number with a fraction or a power of ten. -/
def isFloat (cs : List Char) : Bool :=
  let cs := dropSign cs
  let isMantissa (c : Char) : Bool := c.isDigit || c == '_'
  let whole := cs.takeWhile isMantissa
  let rest := cs.dropWhile isMantissa
  let isPower (cs : List Char) : Bool := (digits? 10 (dropSign cs)).isSome
  cs == "inf".toList || cs == "nan".toList ||
    ((decimal? whole).isSome &&
      (match rest with
       | '.' :: rest =>
           (digits? 10 (rest.takeWhile isMantissa)).isSome &&
             (match rest.dropWhile isMantissa with
              | [] => true
              | c :: rest => (c == 'e' || c == 'E') && isPower rest)
       | c :: rest => (c == 'e' || c == 'E') && isPower rest
       | [] => false))

/-!
# Times
-/

/-- The number of a given count of decimal digits. -/
def fixed? (count : Nat) (cs : List Char) : Option Nat :=
  if cs.length == count && cs.all Char.isDigit then digits? 10 cs else none

def isLeap (year : Nat) : Bool :=
  (year % 4 == 0 && year % 100 != 0) || year % 400 == 0

def monthDays (year month : Nat) : Nat :=
  if month == 2 then
    if isLeap year then 29 else 28
  else if [4, 6, 9, 11].contains month then
    30
  else
    31

/-- Whether a text is a date such as `1979-05-27`. -/
def isDate (cs : List Char) : Bool :=
  match fixed? 4 (cs.take 4), fixed? 2 ((cs.drop 5).take 2), fixed? 2 (cs.drop 8) with
  | some year, some month, some day =>
      cs[4]? == some '-' && cs[7]? == some '-' && 1 ≤ month && month ≤ 12 && 1 ≤ day &&
        day ≤ monthDays year month
  | _, _, _ => false

/-- Whether a text is hours and minutes. -/
def isHourMinute (cs : List Char) : Bool :=
  match fixed? 2 (cs.take 2), fixed? 2 (cs.drop 3) with
  | some hour, some minute => cs[2]? == some ':' && hour ≤ 23 && minute ≤ 59
  | _, _ => false

/-- Whether a text is seconds, if it has any, and a fraction of them. -/
def isSeconds (cs : List Char) : Bool :=
  match cs with
  | [] => true
  | ':' :: rest =>
      (match fixed? 2 (rest.take 2) with
       | some second => second ≤ 60
       | none => false) &&
        (match rest.drop 2 with
         | [] => true
         | '.' :: digits => !digits.isEmpty && digits.all Char.isDigit
         | _ => false)
  | _ => false

/-- Whether a text is a time of day. Seconds may be left out. -/
def isTime (cs : List Char) : Bool := isHourMinute (cs.take 5) && isSeconds (cs.drop 5)

/-- Whether a text is a time of day and how far it is from universal time. -/
def isOffsetTime (cs : List Char) : Bool :=
  match cs.getLast? with
  | some 'Z' => isTime cs.dropLast
  | some 'z' => isTime cs.dropLast
  | _ =>
      let time := cs.take (cs.length - 6)
      match cs.drop (cs.length - 6) with
      | '+' :: offset => isTime time && isHourMinute offset
      | '-' :: offset => isTime time && isHourMinute offset
      | _ => false

def isDateTime (cs : List Char) : Bool :=
  match cs.drop 10 with
  | [] => isDate cs
  | c :: time =>
      isDate (cs.take 10) && (c == 'T' || c == 't' || c == ' ') &&
        (isTime time || isOffsetTime time)

end Toml
end Docloom
