import Docloom.Directive.Block
import Docloom.Version.Basic

/-!
# Rules of directives

The content of a directive block says which builds keep it: those of a product,
or those of a product at some versions.
-/

namespace Docloom

inductive Comparator where
  | less
  | atMost
  | greater
  | atLeast
  | equal
  deriving DecidableEq, Repr

namespace Comparator

def parse? (text : String) : Option Comparator :=
  if text = "<" then
    some .less
  else if text = "<=" then
    some .atMost
  else if text = ">" then
    some .greater
  else if text = ">=" then
    some .atLeast
  else if text = "=" then
    some .equal
  else
    none

/-- Whether `current` stands in the relation to `target`. -/
def holds (comparator : Comparator) (current target : Version) : Bool :=
  match comparator with
  | .less => Version.less current target
  | .atMost => !Version.less target current
  | .greater => Version.less target current
  | .atLeast => !Version.less current target
  | .equal => current == target

end Comparator

inductive Directive where
  /-- `Vault:` and a comparison with a version, which only builds of that product
  read. -/
  | vault (expression : String)
  /-- `TFC:only`, possibly with a label. -/
  | tfc (label : Option String)
  /-- `TFEnterprise:only`, possibly with a label. -/
  | tfEnterprise (label : Option String)
  deriving DecidableEq, Repr

namespace Directive

def vaultProduct : String := "vault"
def docsCommonProduct : String := "terraform-docs-common"
def enterpriseProduct : String := "terraform-enterprise"

/-- The label of a directive that ends in `only`. -/
def onlyLabel (product rest : String) (block : DirectiveBlock) :
    Except Error (Option String) :=
  let invalid : Except Error (Option String) :=
    .error (.invalidDirective product rest (product ++ ":only") block.startLine block.endLine)
  if rest = "only" then
    .ok none
  else
    match Text.afterStart? "only name:" rest with
    | none => invalid
    | some label =>
        if label.isEmpty || label.toList.any Text.isBlank then invalid else .ok (some label)

/-- Reads the content of a block. -/
def parse (block : DirectiveBlock) : Except Error Directive :=
  let (product, rest) := (Text.splitOnce ':' block.content).getD (block.content, "")
  if product = "Vault" then
    .ok (.vault rest)
  else if product = "TFC" then
    (onlyLabel product rest block).map .tfc
  else if product = "TFEnterprise" then
    (onlyLabel product rest block).map .tfEnterprise
  else
    .error (.unknownDirectiveProduct product block.content block.startLine block.endLine)

/-!
# Comparing versions
-/

/-- An operator at the start; longer ones are tried first. -/
def operator? (cs : List Char) : Option (List Char × List Char) :=
  match cs with
  | '<' :: '=' :: rest => some (['<', '='], rest)
  | '>' :: '=' :: rest => some (['>', '='], rest)
  | '<' :: rest => some (['<'], rest)
  | '>' :: rest => some (['>'], rest)
  | '=' :: rest => some (['='], rest)
  | _ => none

/-- Digits at the start, of which there must be one. -/
def digits? (cs : List Char) : Option (List Char) :=
  match cs.takeWhile Text.isDecimal with
  | [] => none
  | _ :: _ => some (cs.dropWhile Text.isDecimal)

/-- Whether the text is `1.x` or `1.2.x`, for any numbers. -/
def isVersionPattern (cs : List Char) : Bool :=
  match digits? cs with
  | some ['.', 'x'] => true
  | some ('.' :: rest) => digits? rest == some ['.', 'x']
  | _ => false

/-- An expression such as `>=v1.21.x` cut into operator and version. -/
def splitExpression? (expression : String) : Option (String × String) :=
  match operator? expression.toList with
  | some (operator, 'v' :: version) =>
      if isVersionPattern version then
        some (String.ofList operator, String.ofList version)
      else
        none
  | _ => none

/-- Whether a version fulfils an expression. -/
def evaluate (expression : String) (block : DirectiveBlock) (version : Option String) :
    Except Error Bool :=
  match splitExpression? expression with
  | none =>
      .error
        (.invalidDirective "Vault" expression "Vault:>=vX.Y.x" block.startLine block.endLine)
  | some (operator, wanted) =>
      match version with
      | none => .error (.missingDocumentVersion block.content block.startLine block.endLine)
      | some version =>
          match Comparator.parse? operator, Version.normalize? version,
              Version.normalize? wanted with
          | none, _, _ => .error (.invalidVersion operator)
          | some _, none, _ => .error (.invalidVersion version)
          | some _, some _, none => .error (.invalidVersion wanted)
          | some comparator, some current, some target => .ok (comparator.holds current target)

/-- Whether a build of `product` at `version` keeps the block. -/
def keeps (directive : Directive) (block : DirectiveBlock) (product : String)
    (version : Option String) : Except Error Bool :=
  match directive with
  | .vault expression =>
      if product = vaultProduct then evaluate expression block version else .ok true
  | .tfc _ => .ok (product == docsCommonProduct)
  | .tfEnterprise _ => .ok (product == enterpriseProduct)

end Directive
end Docloom
