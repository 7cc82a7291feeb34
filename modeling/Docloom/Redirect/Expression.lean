import Docloom.Redirect.Pattern
import Docloom.Regex.Reader

/-!
# Expressions of path patterns

The regular expression that matches the urls of a path pattern, with one group for
each parameter. Case does not count, and one `/`, `#` or `?` may follow at the end.
-/

namespace Docloom
namespace PathPattern

/-!
# As text
-/

/-- A text in which every character stands for itself. -/
def escaped (text : String) : String :=
  String.ofList (text.toList.flatMap fun c => if Regex.Atom.isMeta c then ['\\', c] else [c])

def parameterExpression (parameter : Parameter) : String :=
  let pattern := parameter.pattern
  match parameter.lead with
  | none => "(" ++ pattern ++ ")" ++ parameter.modifier.text
  | some lead =>
      let lead := escaped (String.singleton lead)
      if parameter.modifier.isRepeated then
        let optional := if parameter.modifier = .zeroOrMore then "?" else ""
        "(?:" ++ lead ++ "((?:" ++ pattern ++ ")(?:" ++ lead ++ "(?:" ++ pattern ++ "))*))" ++
          optional
      else
        "(?:" ++ lead ++ "(" ++ pattern ++ "))" ++ parameter.modifier.text

def segmentExpression : Segment → String
  | .literal text => escaped text
  | .parameter parameter => parameterExpression parameter

/-- The expression as it is written. -/
def expression (pattern : PathPattern) : String :=
  "^" ++ Text.join "" (pattern.segments.map segmentExpression) ++ "[/#?]?$"

/-!
# As a tree

Where all parameters have the default pattern, nothing has to be read.
-/

/-- One `/`, `#` or `?`. -/
def delimiter : Regex.CharSet := .ofRanges [('/', '/'), ('#', '#'), ('?', '?')]

/-- A text without `/`, `#` and `?` that is as short as possible. -/
def defaultRegex : Regex := .times (.char (.not delimiter)) 1 none false

def charRegex (c : Char) : Regex := .char (.folded (.single c))

def literalRegex (text : List Char) (after : Regex) : Regex :=
  text.foldr (fun c regex => .seq (charRegex c) regex) after

def modifierRegex (modifier : Modifier) (regex : Regex) : Regex :=
  match modifier with
  | .one => regex
  | .optional => .times regex 0 (some 1) true
  | .zeroOrMore => .times regex 0 none true
  | .oneOrMore => .times regex 1 none true

/-- The expression of the parameter with a number, whose values are those of
`own`. -/
def parameterRegex (index : Nat) (own : Regex) (parameter : Parameter) : Regex :=
  match parameter.lead with
  | none => modifierRegex parameter.modifier (.group index own)
  | some lead =>
      let lead := charRegex lead
      if parameter.modifier.isRepeated then
        let more := Regex.times (.seq lead own) 0 none true
        let all := Regex.seq lead (.group index (.seq own more))
        if parameter.modifier = .zeroOrMore then .times all 0 (some 1) true else all
      else
        modifierRegex parameter.modifier (.seq lead (.group index own))

/-- The expression of segments, where `index` is the number of the next group. -/
def segmentsRegex (index : Nat) : List Segment → Regex
  | [] => .seq (.times (.char delimiter) 0 (some 1) true) (.anchor .textEnd)
  | .literal text :: segments => literalRegex text.toList (segmentsRegex index segments)
  | .parameter parameter :: segments =>
      .seq (parameterRegex index defaultRegex parameter) (segmentsRegex (index + 1) segments)

/-- Whether all parameters have the default pattern. -/
def isPlain (pattern : PathPattern) : Bool :=
  pattern.parameters.all fun parameter => parameter.pattern == defaultPattern

def regex? (pattern : PathPattern) : Option Regex :=
  if pattern.isPlain then
    some (.seq (.anchor .textStart) (segmentsRegex 1 pattern.segments))
  else
    Regex.read? pattern.expression

end PathPattern
end Docloom
