import Docloom.Node.Kind

/-!
# Nodes

A document is a tree of nodes. Every node has an id of its own, which other parts
of the library refer to it by; the ids of a tree that was read from a text are in
the order in which its nodes are written.
-/

namespace Docloom

structure Node where
  id : Nat
  kind : NodeKind
  value : Option String
  children : List Node
  position : Option Position
  deriving Repr

namespace Node

mutual
/-- The nodes of a tree, parents before children. -/
def nodes (node : Node) : List Node :=
  match node with
  | ⟨id, kind, value, children, position⟩ =>
      ⟨id, kind, value, children, position⟩ :: nodesOf children

def nodesOf : List Node → List Node
  | [] => []
  | node :: rest => nodes node ++ nodesOf rest
end

/-- The ids of a tree, parents before children. -/
def ids (node : Node) : List Nat :=
  node.nodes.map Node.id

def contains (node : Node) (id : Nat) : Bool :=
  node.ids.contains id

theorem nodesOf_nil : nodesOf [] = [] := by
  simp [nodesOf]

theorem nodesOf_cons (node : Node) (rest : List Node) :
    nodesOf (node :: rest) = node.nodes ++ nodesOf rest := by
  simp [nodesOf]

theorem nodes_eq (node : Node) : node.nodes = node :: nodesOf node.children := by
  cases node
  simp [nodes]

theorem nodesOf_append (a b : List Node) : nodesOf (a ++ b) = nodesOf a ++ nodesOf b := by
  induction a with
  | nil =>
      simp [nodesOf]
  | cons node a ih =>
      simp [nodesOf, ih]

/-- A node that was not read from a text. -/
def fresh (id : Nat) (kind : NodeKind) (value : String) : Node :=
  { id, kind, value := some value, children := [], position := none }

end Node
end Docloom
