import Docloom.Error
import Docloom.Version.Basic

/-!
# Names of versions

The versions of a product are named by directories. A name may end in a release
stage in parentheses, as in `v1.22.x (beta)`.
-/

namespace Docloom

inductive ReleaseStage where
  | stable
  | alpha
  | beta
  | candidate
  deriving DecidableEq, Repr

namespace ReleaseStage

/-- The stage that a label in a name stands for. -/
def ofLabel? (label : String) : Option ReleaseStage :=
  if label = "alpha" then
    some .alpha
  else if label = "beta" then
    some .beta
  else if label = "rc" then
    some .candidate
  else
    none

def isStable : ReleaseStage → Bool
  | .stable => true
  | _ => false

def text : ReleaseStage → String
  | .stable => "stable"
  | .alpha => "alpha"
  | .beta => "beta"
  | .candidate => "rc"

end ReleaseStage

namespace VersionName

/-!
# Cutting off stages
-/

/-- What follows a group in parentheses at the start, which must not be empty. -/
def afterGroup? (cs : List Char) : Option (List Char) :=
  match cs with
  | '(' :: rest =>
      match rest.takeWhile (· != ')'), rest.dropWhile (· != ')') with
      | _ :: _, _ :: after => some after
      | _, _ => none
  | _ => none

/-- Cuts out the first group in parentheses with the white space before it. -/
def dropStage : List Char → List Char
  | [] => []
  | c :: rest =>
      match afterGroup? ((c :: rest).dropWhile Text.isBlank) with
      | some after => after
      | none => c :: dropStage rest

/-- A name without its release stage: `v1.21.x (rc)` is `v1.21.x`. -/
def clean (name : String) : String :=
  Text.trim (String.ofList (dropStage name.toList))

/-!
# Stages
-/

/-- A name cut into the version and the label in parentheses after one blank. -/
def splitStage? (name : List Char) : Option (List Char × List Char) :=
  let inWord (c : Char) : Bool := !Text.isBlank c && c != '(' && c != ')'
  let inLabel (c : Char) : Bool := c != '(' && c != ')'
  let version := name.takeWhile inWord
  match name.dropWhile inWord with
  | ' ' :: '(' :: rest =>
      if rest.dropWhile inLabel = [')'] ∧ version ≠ [] then
        some (version, rest.takeWhile inLabel)
      else
        none
  | _ => none

/-- The version and the stage that a name stands for. -/
def parse (product name : String) : Except Error (String × ReleaseStage) :=
  if name.toList.any fun c => c == '(' || c == ')' then
    match splitStage? name.toList with
    | none => .error (.invalidVersionFormat product name)
    | some (version, label) =>
        match ReleaseStage.ofLabel? (String.ofList label) with
        | some stage => .ok (String.ofList version, stage)
        | none => .error (.invalidReleaseStage product name (String.ofList label))
  else
    .ok (name, .stable)

/-!
# Order
-/

/-- What a name is sorted by: its version, or the name itself when it holds none or
is the date of a release. -/
inductive Key where
  | version (version : Version)
  | opaqueName (name : String)
  deriving DecidableEq, Repr

/-- Whether a dated release, such as `v202410-1`, stands at the start. -/
def startsDated (cs : List Char) : Bool :=
  match cs with
  | c :: rest =>
      (c == 'v' || c == 'V') && (rest.take 6).length == 6 && (rest.take 6).all Char.isDigit &&
        (match rest.drop 6 with
         | '-' :: d :: _ => Text.isDecimal d
         | _ => false)
  | [] => false

/-- Whether a dated release stands anywhere in the text. -/
def holdsDated : List Char → Bool
  | [] => false
  | c :: rest => startsDated (c :: rest) || holdsDated rest

def key (name : String) : Key :=
  let filled := Version.fillPatch (String.ofList (dropStage name.toList))
  if holdsDated filled.toList then
    .opaqueName filled
  else
    match Version.coerce? filled with
    | some version => .version version
    | none => .opaqueName filled

/-- Whether a name with key `a` may stand before one with key `b`: versions stand
before other names, and greater ones before smaller ones. -/
def Key.mayPrecede : Key → Key → Bool
  | .version a, .version b => !Version.less a b
  | .version _, .opaqueName _ => true
  | .opaqueName _, .version _ => false
  | .opaqueName a, .opaqueName b => !decide (a < b)

/-- The names, the newest first. -/
def sort (names : List String) : List String :=
  names.mergeSort fun a b => (key a).mayPrecede (key b)

end VersionName
end Docloom
