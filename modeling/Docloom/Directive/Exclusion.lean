import Docloom.Config.Site
import Docloom.Directive.Block
import Docloom.Directive.Rule

/-!
# Excluding content

A build removes the directive blocks that do not belong to it.
-/

namespace Docloom

/-- What a document is built as. `file` is its path in messages. -/
structure Audience where
  file : String
  product : String
  version : Option String
  deriving DecidableEq, Repr

namespace Exclusion

/-- The tree, and the error that stopped the work on it. -/
abbrev Outcome := Node × Option Error

/-- Removes the blocks that the audience does not keep. The blocks are given from
the last to the first, so those that are still pending stay where they are. -/
def removeBlocks (audience : Audience) : List DirectiveBlock → Node → Outcome
  | [], root => (root, none)
  | block :: blocks, root =>
      let kept := (Directive.parse block).bind fun directive =>
        directive.keeps block audience.product audience.version
      match kept with
      | .error error => (root, some error)
      | .ok true => removeBlocks audience blocks root
      | .ok false =>
          match block.remove root with
          | .ok root => removeBlocks audience blocks root
          | .error error => (root, some error)

/-- Removes what the audience is not to see. Products that have not opted in keep
everything, the markers too. -/
def apply (audience : Audience) (config : ProductConfig) (root : Node) : Outcome :=
  if config.supportsDirectives then
    let (root, error) :=
      match root.directiveBlocks with
      | .ok blocks => removeBlocks audience blocks.reverse root
      | .error error => (root, some error)
    (root, error.map (.contentExclusion audience.file))
  else
    (root, none)

end Exclusion
end Docloom
