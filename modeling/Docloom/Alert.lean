import Docloom.Node.Basic
import Docloom.Text.Cut

/-!
# Alerts

A paragraph that begins with a sigil is an alert. It loses the sigil and is put
between two pieces of markup.
-/

namespace Docloom

inductive AlertKind where
  | success
  | info
  | warning
  | danger
  deriving DecidableEq, Repr

namespace AlertKind

def sigil : AlertKind → String
  | .success => "=>"
  | .info => "->"
  | .warning => "~>"
  | .danger => "!>"

def text : AlertKind → String
  | .success => "success"
  | .info => "info"
  | .warning => "warning"
  | .danger => "danger"

def all : List AlertKind := [.success, .info, .warning, .danger]

def openingTag (kind : AlertKind) : String :=
  "<div className=\"alert alert-" ++ kind.text ++ " g-type-body\">"

def closingTag : String := "</div>"

/-- The sigil as it begins a paragraph. -/
def marker (kind : AlertKind) : String := kind.sigil ++ " "

/-- The alert that a text begins, and the text without the sigil. -/
def ofText? (value : String) : Option (AlertKind × String) :=
  all.findSome? fun kind => (Text.afterStart? kind.marker value).map fun rest => (kind, rest)

end AlertKind

namespace Alert

/-- The alert that a paragraph with these children is, and its children without the
sigil. -/
def take? (children : List Node) : Option (AlertKind × List Node) :=
  match children with
  | ⟨id, .text source, some value, inside, position⟩ :: rest =>
      (AlertKind.ofText? value).map fun (kind, value) =>
        let source := source.bind (Text.afterStart? kind.marker)
        (kind, ⟨id, .text source, some value, inside, position⟩ :: rest)
  | _ => none

/-- Nodes after alerts were wrapped, the first id that is still free, and the number
of alerts. -/
structure Outcome where
  nodes : List Node
  next : Nat
  count : Nat

mutual
def wrapNode (next : Nat) (node : Node) : Outcome :=
  match node with
  | ⟨id, kind, value, children, position⟩ =>
      if kind = .paragraph then
        match take? children with
        | some (alert, children) =>
            { nodes :=
                [.fresh next .html alert.openingTag, ⟨id, kind, value, children, position⟩,
                  .fresh (next + 1) .html AlertKind.closingTag]
              next := next + 2
              count := 1 }
        | none => { nodes := [⟨id, kind, value, children, position⟩], next, count := 0 }
      else
        let inside := wrapNodes next children
        { inside with nodes := [⟨id, kind, value, inside.nodes, position⟩] }

def wrapNodes (next : Nat) : List Node → Outcome
  | [] => { nodes := [], next, count := 0 }
  | node :: nodes =>
      let first := wrapNode next node
      let rest := wrapNodes first.next nodes
      { nodes := first.nodes ++ rest.nodes, next := rest.next, count := first.count + rest.count }
end

/-- Wraps the alerts inside a tree. Returns the tree, the first id that is still
free, and the number of alerts. -/
def wrap (next : Nat) (root : Node) : Node × Nat × Nat :=
  let inside := wrapNodes next root.children
  ({ root with children := inside.nodes }, inside.next, inside.count)

end Alert
end Docloom
