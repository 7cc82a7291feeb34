import Docloom.Text.Blank

/-!
# Cutting texts

Trimming the ends of a text, cutting it at separators, and finding one text
inside another. The work is done on lists of characters.
-/

namespace Docloom
namespace Text

/-!
# Trimming
-/

def dropEndWhile (p : Char → Bool) (cs : List Char) : List Char :=
  (cs.reverse.dropWhile p).reverse

def trimWhile (p : Char → Bool) (cs : List Char) : List Char :=
  dropEndWhile p (cs.dropWhile p)

theorem dropEndWhile_nil (p : Char → Bool) : dropEndWhile p [] = [] := rfl

theorem dropEndWhile_concat (p : Char → Bool) (cs : List Char) (c : Char) :
    dropEndWhile p (cs ++ [c]) = if p c then dropEndWhile p cs else cs ++ [c] := by
  by_cases h : p c <;> simp [dropEndWhile, h]

def trim (text : String) : String :=
  String.ofList (trimWhile isBlank text.toList)

def trimStartWhile (p : Char → Bool) (text : String) : String :=
  String.ofList (text.toList.dropWhile p)

def trimEndWhile (p : Char → Bool) (text : String) : String :=
  String.ofList (dropEndWhile p text.toList)

/-!
# Cutting a text into pieces
-/

/-- The pieces between the characters that satisfy `p`; one more than there are
such characters. -/
def splitChars (p : Char → Bool) : List Char → List (List Char)
  | [] => [[]]
  | c :: rest =>
      if p c then
        [] :: splitChars p rest
      else
        match splitChars p rest with
        | [] => [[c]]
        | piece :: pieces => (c :: piece) :: pieces

theorem splitChars_nil (p : Char → Bool) : splitChars p [] = [[]] := rfl

theorem splitChars_ne_nil (p : Char → Bool) (cs : List Char) : splitChars p cs ≠ [] := by
  cases cs with
  | nil =>
      simp [splitChars]
  | cons c rest =>
      simp only [splitChars]
      split
      · simp
      · split <;> simp

def split (separator : Char) (text : String) : List String :=
  (splitChars (· == separator) text.toList).map String.ofList

/-- The parts before and after the first occurrence of `separator`. -/
def splitOnce (separator : Char) (text : String) : Option (String × String) :=
  let cs := text.toList
  match cs.dropWhile (· != separator) with
  | [] => none
  | _ :: rest => some (String.ofList (cs.takeWhile (· != separator)), String.ofList rest)

/-- What follows `start` in `text`, when `text` begins with it. -/
def afterStart? (start text : String) : Option String :=
  if start.toList.isPrefixOf text.toList then
    some (String.ofList (text.toList.drop start.toList.length))
  else
    none

/-- What stands before `ending` in `text`, when `text` ends with it. -/
def beforeEnd? (ending text : String) : Option String :=
  if ending.toList.isSuffixOf text.toList then
    some (String.ofList (text.toList.take (text.toList.length - ending.toList.length)))
  else
    none

def startsWith (start text : String) : Bool :=
  start.toList.isPrefixOf text.toList

def endsWith (ending text : String) : Bool :=
  ending.toList.isSuffixOf text.toList

def join (separator : String) (texts : List String) : String :=
  separator.intercalate texts

/-- Whether `part` occurs in `text`. -/
def containsChars (part : List Char) : List Char → Bool
  | [] => part.isEmpty
  | c :: rest => part.isPrefixOf (c :: rest) || containsChars part rest

def contains (part text : String) : Bool :=
  containsChars part.toList text.toList

def replaceChar (c : Char) (replacement : String) (text : String) : String :=
  String.ofList (text.toList.flatMap fun x => if x == c then replacement.toList else [x])

/-- `count` copies of `c`. -/
def repeated (count : Nat) (c : Char) : String :=
  String.ofList (List.replicate count c)

end Text
end Docloom
