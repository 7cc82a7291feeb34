/-!
# Punycode

Labels of domain names that go beyond the basic Latin block are written in it: first
the basic characters, then the places of the others as numbers to base 36.
-/

namespace Docloom
namespace Url
namespace Punycode

def digitChar (n : Nat) : Char :=
  if n < 26 then Char.ofNat ('a'.toNat + n) else Char.ofNat ('0'.toNat + (n - 26))

/-- The steps from one digit to the next, while the bias is worked out. -/
def scale : Nat → Nat → Nat → Nat
  | 0, steps, delta => steps + 36 * delta / (delta + 38)
  | fuel + 1, steps, delta =>
      if 455 < delta then
        scale fuel (steps + 36) (delta / 35)
      else
        steps + 36 * delta / (delta + 38)

/-- The bias for the numbers after `delta`, when `count` characters are written. -/
def adapt (delta count : Nat) (first : Bool) : Nat :=
  let delta := if first then delta / 700 else delta / 2
  let delta := delta + delta / count
  scale delta 0 delta

def threshold (place bias : Nat) : Nat :=
  if place ≤ bias then 1 else if bias + 26 ≤ place then 26 else place - bias

/-- The digits of a number, the least significant one first. -/
def digits (bias : Nat) : Nat → Nat → Nat → List Char
  | 0, _, n => [digitChar n]
  | fuel + 1, place, n =>
      let t := threshold place bias
      if n < t then
        [digitChar n]
      else
        digitChar (t + (n - t) % (36 - t)) :: digits bias fuel (place + 36) ((n - t) / (36 - t))

structure Encoder where
  delta : Nat
  bias : Nat
  /-- The number of characters that are written. -/
  handled : Nat
  first : Bool
  written : List Char

/-- Writes the places of one code point in the text. -/
def writePlaces (code : Nat) (encoder : Encoder) : List Nat → Encoder
  | [] => encoder
  | c :: cs =>
      if c < code then
        writePlaces code { encoder with delta := encoder.delta + 1 } cs
      else if c = code then
        writePlaces code
          { delta := 0
            bias := adapt encoder.delta (encoder.handled + 1) encoder.first
            handled := encoder.handled + 1
            first := false
            written := encoder.written ++ digits encoder.bias encoder.delta 36 encoder.delta }
          cs
      else
        writePlaces code encoder cs

/-- Writes the code points from `code` on, in their order. -/
def writeCodes (text : List Nat) : Nat → Nat → Encoder → List Char
  | 0, _, encoder => encoder.written
  | fuel + 1, code, encoder =>
      match (text.filter (code ≤ ·)).min? with
      | none => encoder.written
      | some next =>
          let delta := encoder.delta + (next - code) * (encoder.handled + 1)
          let encoder := writePlaces next { encoder with delta } text
          writeCodes text fuel (next + 1) { encoder with delta := encoder.delta + 1 }

def encode (label : List Char) : List Char :=
  let basic := label.filter fun c => c.toNat < 0x80
  let start := if basic.isEmpty then [] else basic ++ ['-']
  let text := label.map Char.toNat
  writeCodes text (text.length + 1) 0x80 ⟨0, 72, basic.length, true, start⟩

end Punycode
end Url
end Docloom
