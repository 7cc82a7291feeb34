import Docloom.Text.Blank

/-!
# Settings

What letters in `(?…)` set for the rest of a group.
-/

namespace Docloom
namespace Regex

structure Setting where
  ignoreCase : Bool := false
  /-- `^` and `$` hold at every line. -/
  multiLine : Bool := false
  dotMatchesLineEnd : Bool := false
  /-- What repetitions prefer is swapped. -/
  swapped : Bool := false
  /-- Classes and case are those of every script. -/
  everyScript : Bool := true
  /-- A carriage return ends a line, too. -/
  crlf : Bool := false
  /-- White space and comments may stand between items. -/
  spaced : Bool := false
  deriving DecidableEq, Repr

namespace Setting

def put? (setting : Setting) (value : Bool) : Char → Option Setting
  | 'i' => some { setting with ignoreCase := value }
  | 'm' => some { setting with multiLine := value }
  | 's' => some { setting with dotMatchesLineEnd := value }
  | 'U' => some { setting with swapped := value }
  | 'u' => some { setting with everyScript := value }
  | 'R' => some { setting with crlf := value }
  | 'x' => some { setting with spaced := value }
  | _ => none

/-- Reads letters up to a colon or a closing parenthesis. After `-` they switch
something off. No letter and no `-` may come twice, and a `-` may not come last. -/
def readFrom (setting : Setting) (seen : List Char) :
    List Char → Option (Setting × List Char × List Char)
  | [] => none
  | c :: rest =>
      if c == ':' || c == ')' then
        if seen.head? == some '-' then none else some (setting, seen, c :: rest)
      else if seen.contains c then
        none
      else if c == '-' then
        readFrom setting (c :: seen) rest
      else
        match setting.put? (!seen.contains '-') c with
        | some setting => readFrom setting (c :: seen) rest
        | none => none

/-- Reads the letters after `(?`. Returns the new setting, the letters from the last
to the first, and what follows from the colon or parenthesis on. -/
def read (setting : Setting) (cs : List Char) : Option (Setting × List Char × List Char) :=
  readFrom setting [] cs

end Setting

/-- Drops white space and comments. A comment goes from `#` to the end of its line. -/
def dropBlanks (inComment : Bool) : List Char → List Char
  | [] => []
  | c :: cs =>
      if inComment then
        dropBlanks (c != '\n') cs
      else if Text.isBlank c then
        dropBlanks false cs
      else if c == '#' then
        dropBlanks true cs
      else
        c :: cs

end Regex
end Docloom
