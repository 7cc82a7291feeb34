/-!
# Floating point numbers

A decimal number stands for the nearest number with 53 binary digits, and that is
written with the fewest decimal digits that lead back to it.
-/

namespace Docloom
namespace Yaml

/-- The positive number `mantissa * 2 ^ exponent`. -/
structure Binary where
  mantissa : Nat
  exponent : Int
  deriving DecidableEq, Repr

namespace Binary

def minExponent : Int := -1074

def maxExponent : Int := 971

/-- The quotient that is nearest, and of two the even one. -/
def roundDiv (a b : Nat) : Nat :=
  let q := a / b
  let r := a % b
  if 2 * r < b then q else if b < 2 * r then q + 1 else q + q % 2

/-- A fraction in units of a power of two. -/
def scaled (num den : Nat) (exponent : Int) : Nat :=
  if 0 ≤ exponent then
    roundDiv num (den * Nat.pow 2 exponent.toNat)
  else
    roundDiv (num * Nat.pow 2 (-exponent).toNat) den

/-- The number that is nearest to a positive fraction; none if it is too large. -/
def ofFraction? (num den : Nat) : Option Binary :=
  let guess : Int := (num.log2 : Int) - den.log2 - 53
  let exponent := max guess minExponent
  let exponent := if Nat.pow 2 53 ≤ scaled num den exponent then exponent + 1 else exponent
  let exponent := if Nat.pow 2 53 ≤ scaled num den exponent then exponent + 1 else exponent
  let mantissa := scaled num den exponent
  let result : Binary :=
    if mantissa = Nat.pow 2 53 then ⟨Nat.pow 2 52, exponent + 1⟩ else ⟨mantissa, exponent⟩
  if maxExponent < result.exponent then none else some result

/-- Whether a fraction, given by four times its numerator over its denominator, is
nearest to a number. -/
def covers (binary : Binary) (num den : Nat) : Bool :=
  match ofFraction? num den with
  | some other => other == binary
  | none => false

/-- The numerator and denominator of a number. -/
def fraction (binary : Binary) : Nat × Nat :=
  if 0 ≤ binary.exponent then
    (binary.mantissa * Nat.pow 2 binary.exponent.toNat, 1)
  else
    (binary.mantissa, Nat.pow 2 (-binary.exponent).toNat)

/-- A number of units of a power of ten, as a fraction. -/
def decimalFraction (digits : Nat) (power : Int) : Nat × Nat :=
  if 0 ≤ power then (digits * Nat.pow 10 power.toNat, 1) else (digits, Nat.pow 10 (-power).toNat)

/-- The units of a power of ten that are nearest to a number, if they lead back. -/
def digitsAt? (binary : Binary) (power : Int) : Option Nat :=
  let (num, den) := binary.fraction
  let digits :=
    if 0 ≤ power then
      roundDiv num (den * Nat.pow 10 power.toNat)
    else
      roundDiv (num * Nat.pow 10 (-power).toNat) den
  let back := decimalFraction digits power
  if 0 < digits && binary.covers back.1 back.2 then some digits else none

/-- The power of ten of the first digit: `10 ^ power` is at most the number. -/
def firstPower (binary : Binary) : Int :=
  let (num, den) := binary.fraction
  let guess : Int := (((num.log2 : Int) - den.log2) * 30103) / 100000
  let low := guess - 2
  let steps := (List.range 5).filter fun step : Nat =>
    let (a, b) := decimalFraction 1 (low + (step : Int))
    a * den ≤ num * b
  low + ((steps.getLast?.getD 0 : Nat) : Int)

/-- The fewest digits that lead back, with the power of ten of the last one. -/
def shortestFrom (binary : Binary) (first : Int) : Nat → Nat → Nat × Int
  | 0, _ => (0, first)
  | fuel + 1, count =>
      let power := first - count
      match digitsAt? binary power with
      | some digits => (digits, power)
      | none => shortestFrom binary first fuel (count + 1)

def shortest (binary : Binary) : Nat × Int := shortestFrom binary binary.firstPower 18 0

end Binary

/-!
# Texts of numbers
-/

/-- A decimal point inside digits, where `point` digits stand before it. -/
def withPoint (digits : List Char) (point : Int) : String :=
  if point ≤ 0 then
    String.ofList (['0', '.'] ++ List.replicate (-point).toNat '0' ++ digits)
  else if digits.length ≤ point.toNat then
    String.ofList
      (digits ++ List.replicate (point.toNat - digits.length) '0' ++ ['.', '0'])
  else
    String.ofList (digits.take point.toNat ++ ['.'] ++ digits.drop point.toNat)

/-- One digit before the point, and a power of ten. -/
def withPower (digits : List Char) (power : Int) : String :=
  let fraction := if digits.length ≤ 1 then [] else '.' :: digits.drop 1
  String.ofList (digits.take 1 ++ fraction ++ ['e']) ++ toString power

/-- The text of a positive number. Very small and very large numbers are written with
a power of ten. -/
def Binary.text (binary : Binary) : String :=
  let (n, power) := binary.shortest
  let all := (toString n).toList
  let digits := (all.reverse.dropWhile (· == '0')).reverse
  let point : Int := power + all.length
  if point ≤ -4 || 16 < point then
    withPower digits (point - 1)
  else
    withPoint digits point

/-- The digits of a decimal number without a sign, and the power of ten of the last
one. -/
def readDecimal (cs : List Char) : Option (Nat × Int) := do
  let whole := cs.takeWhile Char.isDigit
  let rest := cs.dropWhile Char.isDigit
  let (fraction, rest) :=
    match rest with
    | '.' :: rest => (rest.takeWhile Char.isDigit, rest.dropWhile Char.isDigit)
    | rest => ([], rest)
  let digits := whole ++ fraction
  if digits.isEmpty then
    none
  let n := digits.foldl (fun n c => n * 10 + (c.toNat - '0'.toNat)) 0
  match rest with
  | [] => pure (n, -(fraction.length : Int))
  | e :: rest =>
      if e != 'e' && e != 'E' then
        none
      let (negative, power) :=
        match rest with
        | '-' :: rest => (true, rest)
        | '+' :: rest => (false, rest)
        | rest => (false, rest)
      if power.isEmpty || !power.all Char.isDigit then
        none
      let size := power.foldl (fun n c => n * 10 + (c.toNat - '0'.toNat)) 0
      pure (n, (if negative then -(size : Int) else size) - fraction.length)

/-- The text of the floating point number that a text without a sign stands for. -/
def unsignedText? (cs : List Char) : Option String := do
  let (n, power) ← readDecimal cs
  let size : Int := power + (toString n).length
  if n = 0 || size < -400 then
    pure "0.0"
  else if 400 < size then
    none
  else
    let (num, den) := Binary.decimalFraction n power
    let binary ← Binary.ofFraction? num den
    pure (if binary.mantissa = 0 then "0.0" else binary.text)

/-- The text of the floating point number that a text stands for. -/
def floatText? (text : String) : Option String :=
  match text.toList with
  | '-' :: cs =>
      if cs == ".inf".toList || cs == ".Inf".toList || cs == ".INF".toList then
        some "-inf"
      else
        (unsignedText? cs).map ("-" ++ ·)
  | cs =>
      let bare :=
        match cs with
        | '+' :: rest => rest
        | cs => cs
      if bare == ".inf".toList || bare == ".Inf".toList || bare == ".INF".toList then
        some "inf"
      else if cs == ".nan".toList || cs == ".NaN".toList || cs == ".NAN".toList then
        some "NaN"
      else
        unsignedText? bare

end Yaml
end Docloom
