import Docloom.Json.Basic

/-!
# Writing JSON

Values are written in one line, or with a member or item on each line.
-/

namespace Docloom
namespace Json

def hexDigit (n : Nat) : Char :=
  if n < 10 then Char.ofNat ('0'.toNat + n) else Char.ofNat ('a'.toNat + (n - 10))

/-- How a character is written inside a text. -/
def escapeChar (c : Char) : List Char :=
  if c == '"' then
    ['\\', '"']
  else if c == '\\' then
    ['\\', '\\']
  else if c == '\n' then
    ['\\', 'n']
  else if c == '\r' then
    ['\\', 'r']
  else if c == '\t' then
    ['\\', 't']
  else if c == '\x08' then
    ['\\', 'b']
  else if c == '\x0c' then
    ['\\', 'f']
  else if c.toNat < 32 then
    ['\\', 'u', '0', '0', hexDigit (c.toNat / 16), hexDigit (c.toNat % 16)]
  else
    [c]

def quoted (text : String) : String :=
  String.ofList ('"' :: text.toList.flatMap escapeChar ++ ['"'])

/-- A line ending and the indentation at a given depth. -/
def newLine (depth : Nat) : String :=
  "\n" ++ String.ofList (List.replicate (2 * depth) ' ')

mutual
/-- The value with one item or member on a line; an empty array or object is
written in one line. -/
def pretty (depth : Nat) : Json → String
  | .null => "null"
  | .bool true => "true"
  | .bool false => "false"
  | .number text => text
  | .string text => quoted text
  | .array [] => "[]"
  | .array (item :: items) =>
      "[" ++ newLine (depth + 1) ++ pretty (depth + 1) item ++ prettyItems (depth + 1) items ++
        newLine depth ++ "]"
  | .object [] => "\x7b\x7d"
  | .object ((name, value) :: members) =>
      "\x7b" ++ newLine (depth + 1) ++ quoted name ++ ": " ++ pretty (depth + 1) value ++
        prettyMembers (depth + 1) members ++ newLine depth ++ "\x7d"

def prettyItems (depth : Nat) : List Json → String
  | [] => ""
  | item :: items => "," ++ newLine depth ++ pretty depth item ++ prettyItems depth items

def prettyMembers (depth : Nat) : List (String × Json) → String
  | [] => ""
  | (name, value) :: members =>
      "," ++ newLine depth ++ quoted name ++ ": " ++ pretty depth value ++
        prettyMembers depth members
end

end Json
end Docloom
