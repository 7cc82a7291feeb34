import Docloom.Catalog
import Docloom.Error
import Docloom.Text.Cut

/-!
# Path patterns

A path with parameters, such as `/docs/:slug*`. A parameter may have a pattern of
its own in parentheses and one of `?`, `*` and `+` after it. A slash or dot before a
parameter belongs to it, so that it is left out together with the parameter.
-/

namespace Docloom

/-- How often a parameter occurs. -/
inductive Modifier where
  | one
  | optional
  | zeroOrMore
  | oneOrMore
  deriving DecidableEq, Repr

namespace Modifier

def ofChar? : Char → Option Modifier
  | '?' => some .optional
  | '*' => some .zeroOrMore
  | '+' => some .oneOrMore
  | _ => none

def text : Modifier → String
  | .one => ""
  | .optional => "?"
  | .zeroOrMore => "*"
  | .oneOrMore => "+"

def isRequired (modifier : Modifier) : Bool :=
  modifier == .one || modifier == .oneOrMore

def isRepeated (modifier : Modifier) : Bool :=
  modifier == .zeroOrMore || modifier == .oneOrMore

end Modifier

structure Parameter where
  name : String
  /-- The slash or dot that belongs to the parameter. -/
  lead : Option Char
  /-- The regular expression of the values. -/
  pattern : String
  modifier : Modifier
  deriving DecidableEq, Repr

inductive Segment where
  | literal (text : String)
  | parameter (parameter : Parameter)
  deriving DecidableEq, Repr

def Segment.parameter? : Segment → Option Parameter
  | literal _ => none
  | parameter p => some p

structure PathPattern where
  source : String
  segments : List Segment
  deriving DecidableEq, Repr

namespace PathPattern

/-- The pattern of parameters that have none of their own: a text without `/`, `#`
and `?`, as short as possible. -/
def defaultPattern : String := "[^/#?]+?"

def parameters (pattern : PathPattern) : List Parameter :=
  pattern.segments.filterMap Segment.parameter?

/-- The names of the parameters, in the order of the source. -/
def names (pattern : PathPattern) : List String :=
  pattern.parameters.map Parameter.name

/-- The names of the parameters that have a value in every match. -/
def requiredNames (pattern : PathPattern) : List String :=
  (pattern.parameters.filter fun parameter => parameter.modifier.isRequired).map Parameter.name

/-!
# Reading patterns
-/

def isNameChar (c : Char) : Bool := c.isAlphanum || c == '_'

/-- Reads a pattern up to the parenthesis that closes it. `depth` is the number of
parentheses that are open inside it. -/
def readOwn (depth : Nat) : List Char → Option (List Char × List Char)
  | [] => none
  | ['\\'] => none
  | '\\' :: c :: rest => (readOwn depth rest).map fun read => ('\\' :: c :: read.1, read.2)
  | '(' :: rest => (readOwn (depth + 1) rest).map fun read => ('(' :: read.1, read.2)
  | ')' :: rest =>
      match depth with
      | 0 => some ([], rest)
      | depth + 1 => (readOwn depth rest).map fun read => (')' :: read.1, read.2)
  | c :: rest => (readOwn depth rest).map fun read => (c :: read.1, read.2)

/-- Whether a pattern has a parenthesis that is not followed by `?`. -/
def hasGroup : List Char → Bool
  | [] => false
  | ['\\'] => false
  | '\\' :: _ :: rest => hasGroup rest
  | '(' :: '?' :: rest => hasGroup rest
  | '(' :: _ => true
  | _ :: rest => hasGroup rest

/-- Reads a parameter's own pattern after its opening parenthesis. -/
def readPattern (cs : List Char) : Except RedirectFault (String × List Char) :=
  match readOwn 0 cs with
  | none => .error .unbalanced
  | some (own, rest) =>
      if hasGroup own then .error .capturing else .ok (String.ofList own, rest)

/-- Reads the modifier after a parameter. -/
def readModifier : List Char → Modifier × List Char
  | [] => (.one, [])
  | c :: rest =>
      match Modifier.ofChar? c with
      | some modifier => (modifier, rest)
      | none => (.one, c :: rest)

/-- The segment of characters that stand for themselves, given from the last to the
first. -/
def literal (read : List Char) : List Segment :=
  if read.isEmpty then [] else [.literal (String.ofList read.reverse)]

/-- Takes a slash or dot from the end of what was read. -/
def takeLead : List Char → Option Char × List Char
  | '/' :: read => (some '/', read)
  | '.' :: read => (some '.', read)
  | read => (none, read)

/-- Reads segments. `unnamed` is the number of parameters without a name so far, and
`read` holds the characters after the last parameter, from the last to the first. -/
def readSegments :
    Nat → Nat → List Char → List Char → Except RedirectFault (List Segment)
  | 0, _, read, _ => .ok (literal read)
  | fuel + 1, unnamed, read, cs =>
      let parameter (unnamed : Nat) (name pattern : String) (rest : List Char) :=
        let (modifier, rest) := readModifier rest
        let (lead, read) := takeLead read
        (readSegments fuel unnamed [] rest).map fun segments =>
          literal read ++ .parameter ⟨name, lead, pattern, modifier⟩ :: segments
      match cs with
      | [] => .ok (literal read)
      | ['\\'] => .ok (literal read)
      | '\\' :: c :: rest => readSegments fuel unnamed (c :: read) rest
      | ':' :: rest =>
          let name := rest.takeWhile isNameChar
          if name.isEmpty then
            .error .missingName
          else
            match rest.dropWhile isNameChar with
            | '(' :: rest => do
                let (pattern, rest) ← readPattern rest
                parameter unnamed (String.ofList name) pattern rest
            | rest => parameter unnamed (String.ofList name) defaultPattern rest
      | '(' :: rest => do
          let (pattern, rest) ← readPattern rest
          parameter (unnamed + 1) (toString unnamed) pattern rest
      | c :: rest => readSegments fuel unnamed (c :: read) rest

def parse (source : String) : Except Error PathPattern :=
  let cs := source.toList
  match readSegments (cs.length + 1) 0 [] cs with
  | .ok segments => .ok ⟨source, segments⟩
  | .error fault => .error (.invalidRedirect source fault)

/-!
# Filling patterns
-/

/-- The values of parameters. -/
abbrev Values := Catalog String

/-- A value that is not empty. -/
def value? (values : Values) (name : String) : Option String :=
  (values.get? name).filter fun value => !value.isEmpty

def leadText (lead : Option Char) : String := (lead.map String.singleton).getD ""

/-- The value of a repeated parameter, with its lead before every part. -/
def repeatedText (lead : Char) (value : String) : String :=
  Text.join "" ((((Text.split lead value).filter fun part => !part.isEmpty)).map fun part =>
    String.singleton lead ++ part)

def parameterText (parameter : Parameter) (value : String) : String :=
  match parameter.lead with
  | some lead =>
      if parameter.modifier.isRepeated then
        repeatedText lead value
      else
        String.singleton lead ++ value
  | none => value

def segmentText (values : Values) : Segment → Except RedirectFault String
  | .literal text => .ok text
  | .parameter parameter =>
      match value? values parameter.name with
      | some value => .ok (parameterText parameter value)
      | none =>
          if parameter.modifier.isRequired then .error (.noValue parameter.name) else .ok ""

def segmentsText (values : Values) : List Segment → Except RedirectFault String
  | [] => .ok ""
  | segment :: segments => do
      let text ← segmentText values segment
      let rest ← segmentsText values segments
      pure (text ++ rest)

/-- Fills a pattern with values. A parameter that may be left out and has no value is
left out with its lead. -/
def render (pattern : PathPattern) (values : Values) : Except Error String :=
  (segmentsText values pattern.segments).mapError (.invalidRedirect pattern.source)

theorem segmentsText_nil (values : Values) : segmentsText values [] = .ok "" := rfl

end PathPattern
end Docloom
