import Docloom.Markdown.NamedCharacter
import Docloom.Markdown.Run
import Docloom.Text.Punctuation

/-!
# Escapes and character references

Inside urls, titles, labels and the info of code a backslash before punctuation
gives that character, and a character reference such as `&amp;` gives the
character it names.
-/

namespace Docloom
namespace Markdown

/-- The value of a numeral whose digits are given from left to right. -/
def numeral (base : Nat) (digits : List Char) : Nat :=
  digits.foldl (fun n c =>
    n * base +
      (if c.isDigit then c.toNat - 48 else if c.toNat < 97 then c.toNat - 55 else c.toNat - 87)) 0

def isHexDigit (c : Char) : Bool :=
  c.isDigit || ('a' ≤ c && c ≤ 'f') || ('A' ≤ c && c ≤ 'F')

/-- The character of a number. Control characters and numbers of no character
give the replacement character. -/
def numberedCharacter (n : Nat) : Char :=
  if n ≤ 8 || n == 11 || (14 ≤ n && n ≤ 31) || (127 ≤ n && n ≤ 159) || !n.isValidChar then
    '\uFFFD'
  else
    Char.ofNat n

namespace Run

/-- The end of the character reference at `i`, and the text it stands for. -/
def reference? (run : Run) (i : Nat) : Option (Nat × String) :=
  if !run.isAt i '&' then
    none
  else if run.isAt (i + 1) '#' then
    let hexadecimal := run.isAt (i + 2) 'x' || run.isAt (i + 2) 'X'
    let first := if hexadecimal then i + 3 else i + 2
    let last :=
      if hexadecimal then run.skipUpTo isHexDigit 6 first else run.skipUpTo Char.isDigit 7 first
    if first < last && run.isAt last ';' then
      let n := numeral (if hexadecimal then 16 else 10) (run.chars first last)
      some (last + 1, String.singleton (numberedCharacter n))
    else
      none
  else
    let last := run.skipUpTo Char.isAlphanum 31 (i + 1)
    if run.isAt last ';' then
      (namedCharacter? (String.ofList (run.chars (i + 1) last))).map fun text =>
        (last + 1, text)
    else
      none

/-- Whether a backslash at `i` escapes the character after it. -/
def escapes (run : Run) (i : Nat) : Bool :=
  run.isAt i '\\' && run.sat Text.isAsciiPunctuation (i + 1)

/-- The first index from `i` on that may start an escape or a reference. -/
def skipPlain (run : Run) (i : Nat) : Nat :=
  run.skip (fun c => c != '\\' && c != '&') i

/-- The text from `i` up to `j`, both in one line, with its escapes and references
resolved. -/
def resolved (run : Run) (source : Source) : Nat → Nat → Nat → String
  | 0, _, _ => ""
  | fuel + 1, i, j =>
      if j ≤ i then
        ""
      else if run.escapes i then
        run.text source (i + 1) (i + 2) ++ run.resolved source fuel (i + 2) j
      else
        match run.reference? i with
        | some (k, text) => text ++ run.resolved source fuel k j
        | none =>
            let k := min j (run.skipPlain (i + 1))
            run.text source i k ++ run.resolved source fuel k j

/-- The start of the blanks and tabs before `j`, not before `i`. -/
def spaceBefore (run : Run) (i : Nat) : Nat → Nat
  | 0 => 0
  | j + 1 => if i < j + 1 && run.sat Text.isSpace j then run.spaceBefore i j else j + 1

/-- The lines from `i` on, resolved. Blanks and tabs beside a line ending are
dropped. -/
def resolvedLines (run : Run) (source : Source) : Nat → Nat → String
  | 0, _ => ""
  | fuel + 1, i =>
      let j := run.skip (· != '\n') i
      if j < run.size then
        run.resolved source (run.size + 1) i (run.spaceBefore i j) ++ run.lineEnding source j ++
          run.resolvedLines source fuel (run.skipSpace (j + 1))
      else
        run.resolved source (run.size + 1) i j

/-- The text from `i` up to `j` with its escapes and references resolved. -/
def decoded (run : Run) (source : Source) (i j : Nat) : String :=
  let part := run.part i j
  part.resolvedLines source (part.size + 1) 0

end Run
end Markdown
end Docloom
