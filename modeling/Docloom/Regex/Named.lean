import Docloom.Regex.CharSet
import Docloom.Text.Category
import Docloom.Text.Property
import Docloom.Text.Script

/-!
# Named classes

The classes of characters that an expression refers to by name: general categories,
scripts, properties, and the classes of the basic Latin block.
-/

namespace Docloom
namespace Regex

/-- A name without what does not count in it: case, blanks, `_`, `-`, characters
outside the basic Latin block, and `is` in front. -/
def plainName (name : List Char) : String :=
  let lower := name.map Char.toLower
  let bare :=
    match lower with
    | 'i' :: 's' :: rest => rest
    | other => other
  let kept := bare.filter fun c => c.toNat < 0x80 && c != ' ' && c != '_' && c != '-'
  if bare.length < lower.length && kept == ['c'] then "isc" else String.ofList kept

/-- The names of general categories with the categories that they stand for. -/
def categoryNames : List (List String × List String) :=
  [(["c", "other"], ["Cc", "Cf", "Cn", "Co"]),
   (["cc", "control", "cntrl"], ["Cc"]),
   (["cf", "format"], ["Cf"]),
   (["cn", "unassigned"], ["Cn"]),
   (["co", "privateuse"], ["Co"]),
   (["l", "letter"], ["Ll", "Lm", "Lo", "Lt", "Lu"]),
   (["lc", "casedletter"], ["Ll", "Lt", "Lu"]),
   (["ll", "lowercaseletter"], ["Ll"]),
   (["lm", "modifierletter"], ["Lm"]),
   (["lo", "otherletter"], ["Lo"]),
   (["lt", "titlecaseletter"], ["Lt"]),
   (["lu", "uppercaseletter"], ["Lu"]),
   (["m", "mark", "combiningmark"], ["Mc", "Me", "Mn"]),
   (["mc", "spacingmark"], ["Mc"]),
   (["me", "enclosingmark"], ["Me"]),
   (["mn", "nonspacingmark"], ["Mn"]),
   (["n", "number"], ["Nd", "Nl", "No"]),
   (["nd", "decimalnumber", "digit"], ["Nd"]),
   (["nl", "letternumber"], ["Nl"]),
   (["no", "othernumber"], ["No"]),
   (["p", "punctuation", "punct"], ["Pc", "Pd", "Pe", "Pf", "Pi", "Po", "Ps"]),
   (["pc", "connectorpunctuation"], ["Pc"]),
   (["pd", "dashpunctuation"], ["Pd"]),
   (["pe", "closepunctuation"], ["Pe"]),
   (["pf", "finalpunctuation"], ["Pf"]),
   (["pi", "initialpunctuation"], ["Pi"]),
   (["po", "otherpunctuation"], ["Po"]),
   (["ps", "openpunctuation"], ["Ps"]),
   (["s", "symbol"], ["Sc", "Sk", "Sm", "So"]),
   (["sc", "currencysymbol"], ["Sc"]),
   (["sk", "modifiersymbol"], ["Sk"]),
   (["sm", "mathsymbol"], ["Sm"]),
   (["so", "othersymbol"], ["So"]),
   (["z", "separator"], ["Zl", "Zp", "Zs"]),
   (["zl", "lineseparator"], ["Zl"]),
   (["zp", "paragraphseparator"], ["Zp"]),
   (["zs", "spaceseparator"], ["Zs"])]

def category (code : String) : CharSet :=
  .table ((Text.categories.lookup code).getD [])

def categories (codes : List String) : CharSet := .ofList (codes.map category)

/-- The value beside the first list of names that has a name. -/
def findNamed? (names : List (List String × α)) (name : String) : Option α :=
  (names.find? fun entry => entry.1.contains name).map Prod.snd

def categoryNamed? (name : String) : Option CharSet :=
  if name = "any" then
    some (.not .none)
  else if name = "assigned" then
    some (.not (category "Cn"))
  else if name = "ascii" then
    some (.range '\x00' '\x7f')
  else
    (findNamed? categoryNames name).map categories

def scriptNamed? (name : String) : Option CharSet :=
  (findNamed? Text.scripts name).map .table

def asciiHexDigit : CharSet := .ofRanges [('0', '9'), ('A', 'F'), ('a', 'f')]

def properties : List (List String × CharSet) :=
  [(["alphabetic", "alpha"],
      .union (categories ["Ll", "Lm", "Lo", "Lt", "Lu", "Nl"]) (.table Text.otherAlphabetic)),
   (["lowercase", "lower"], .union (category "Ll") (.table Text.otherLowercase)),
   (["uppercase", "upper"], .union (category "Lu") (.table Text.otherUppercase)),
   (["whitespace", "wspace", "space"], .space),
   (["asciihexdigit", "ahex"], asciiHexDigit),
   (["hexdigit", "hex"],
      .union asciiHexDigit (.ofRanges [('０', '９'), ('Ａ', 'Ｆ'), ('ａ', 'ｆ')])),
   (["math"], .union (category "Sm") (.table Text.otherMath)),
   (["dash"], .table Text.dash),
   (["ideographic", "ideo"], .table Text.ideographic),
   (["emoji"], .table Text.emoji)]

/-- The class with a name of its own. -/
def classNamed? (name : String) : Option CharSet :=
  (findNamed? properties name).or ((categoryNamed? name).or (scriptNamed? name))

/-- The class of the characters that have a value for a property. -/
def classWithValue? (property value : String) : Option CharSet :=
  if property = "gc" || property = "generalcategory" then
    categoryNamed? value
  else if ["sc", "script", "scx", "scriptextensions"].contains property then
    scriptNamed? value
  else
    none

/-- Cuts a name at the first separator between a property and its value. -/
def splitValue : List Char → Option (List Char × List Char)
  | [] => none
  | '!' :: '=' :: rest => some ([], rest)
  | c :: rest => (splitValue rest).map fun parts => (c :: parts.1, parts.2)

def splitAtChar (separator : Char) : List Char → Option (List Char × List Char)
  | [] => none
  | c :: rest =>
      if c = separator then
        some ([], rest)
      else
        (splitAtChar separator rest).map fun parts => (c :: parts.1, parts.2)

/-- The class between the braces of `\p`. -/
def classInBraces? (text : List Char) : Option CharSet :=
  match (splitValue text).or ((splitAtChar ':' text).or (splitAtChar '=' text)) with
  | some (property, value) => classWithValue? (plainName property) (plainName value)
  | none => classNamed? (plainName text)

/-- The class with a name between `[:` and `:]`. -/
def latinClass? : String → Option CharSet
  | "alnum" => some (.ofRanges [('0', '9'), ('A', 'Z'), ('a', 'z')])
  | "alpha" => some (.ofRanges [('A', 'Z'), ('a', 'z')])
  | "ascii" => some (.range '\x00' '\x7f')
  | "blank" => some (.ofRanges [('\t', '\t'), (' ', ' ')])
  | "cntrl" => some (.ofRanges [('\x00', '\x1f'), ('\x7f', '\x7f')])
  | "digit" => some .asciiDigit
  | "graph" => some (.range '!' '~')
  | "lower" => some (.range 'a' 'z')
  | "print" => some (.range ' ' '~')
  | "punct" => some (.ofRanges [('!', '/'), (':', '@'), ('[', '\x60'), ('\x7b', '~')])
  | "space" => some .asciiSpace
  | "upper" => some (.range 'A' 'Z')
  | "word" => some .asciiWord
  | "xdigit" => some asciiHexDigit
  | _ => none

end Regex
end Docloom
