import Docloom.Markdown.Document
import Docloom.Node.Basic

/-!
# Nodes of a text

The elements that a markdown text stands for become nodes. Ids are handed out from
a given number on, parents before children.
-/

namespace Docloom
namespace Node

mutual
/-- The node of an element, and the first id that is still free. -/
def ofElement (next : Nat) (element : Markdown.Element) : Node × Nat :=
  match element with
  | ⟨kind, value, position, children⟩ =>
      let (nodes, free) := ofElements (next + 1) children
      ({ id := next, kind, value, children := nodes, position := some position }, free)

def ofElements (next : Nat) : List Markdown.Element → List Node × Nat
  | [] => ([], next)
  | element :: elements =>
      let (node, free) := ofElement next element
      let (nodes, free) := ofElements free elements
      (node :: nodes, free)
end

/-- Reads a markdown text. Every text can be read. -/
def ofMarkdown (next : Nat) (text : String) : Node × Nat :=
  ofElement next (Markdown.read text)

end Node
end Docloom
