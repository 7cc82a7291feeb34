import Docloom.Error
import Docloom.Node.Basic
import Docloom.Text.Cut

/-!
# Markers

A directive block stands between two comments: `<!-- BEGIN: content -->` and
`<!-- END: content -->`.
-/

namespace Docloom

structure Marker where
  kind : MarkerKind
  content : String
  deriving DecidableEq, Repr

namespace Marker

/-- The word after the opening of a comment, with what follows its colon. -/
def keyword? (cs : List Char) : Option (MarkerKind × List Char) :=
  if "BEGIN:".toList.isPrefixOf cs then
    some (.begins, cs.drop 6)
  else if "END:".toList.isPrefixOf cs then
    some (.ends, cs.drop 4)
  else
    none

/-- The content of a marker: what stands between its colon and the end of the
comment, with white space on both sides and no line feed inside. -/
def content? (cs : List Char) : Option (List Char) :=
  let middle := cs.take (cs.length - 3)
  let trimmed := Text.trimWhile Text.isBlank middle
  if "-->".toList.isSuffixOf cs && 2 ≤ middle.length && middle.head?.any Text.isBlank &&
      middle.getLast?.any Text.isBlank && !trimmed.contains '\n' then
    some trimmed
  else
    none

/-- The marker that a trimmed text spells. -/
def ofChars? (cs : List Char) : Option Marker :=
  if "<!--".toList.isPrefixOf cs then
    let rest := cs.drop 4
    if rest.head?.any Text.isBlank then
      match keyword? (rest.dropWhile Text.isBlank) with
      | some (kind, rest) => (content? rest).map fun content => ⟨kind, String.ofList content⟩
      | none => none
    else
      none
  else
    none

/-- The marker that a text spells, if it is one. The content may be empty. -/
def parse? (text : String) : Option Marker :=
  ofChars? (Text.trimWhile Text.isBlank text.toList)

end Marker

/-!
# Directive blocks

The markers of a document pair up to blocks. Blocks never nest, and the marker
that ends a block repeats the content of the one that begins it.
-/

/-- A region of a document between two marker nodes, which are given by their
ids. -/
structure DirectiveBlock where
  start : Nat
  stop : Nat
  content : String
  startLine : Nat
  endLine : Nat
  deriving DecidableEq, Repr

/-- A marker, the id of its node, and the line in which it ends. -/
structure MarkerNode where
  id : Nat
  marker : Marker
  line : Nat
  deriving DecidableEq, Repr

/-- Comments carry markers, and so do literal blocks that were read from a text,
which is what indented comments become. -/
def Node.marker? (node : Node) : Option MarkerNode :=
  let carries :=
    match node.kind with
    | .comment => true
    | .code .. => true
    | _ => false
  match node.position, node.value with
  | some position, some value =>
      if carries then
        (Marker.parse? value).map fun marker => ⟨node.id, marker, position.endLine⟩
      else
        none
  | _, _ => none

/-- The markers of a tree, in the order of the document. -/
def Node.markers (node : Node) : List MarkerNode :=
  node.nodes.filterMap Node.marker?

namespace DirectiveBlock

/-- Pairs markers up. `open_` is the marker whose block is not ended yet. -/
def pair : Option MarkerNode → List MarkerNode → Except Error (List DirectiveBlock)
  | none, [] => .ok []
  | some begun, [] => .error (.unclosedBlock begun.marker.content begun.line)
  | open_, current :: rest =>
      match current.marker.kind, open_ with
      | .begins, some begun => .error (.nestedBlock current.line begun.line)
      | .begins, none =>
          if current.marker.content.isEmpty then
            .error (.emptyDirective .begins current.line)
          else
            pair (some current) rest
      | .ends, none => .error (.unmatchedEnd current.marker.content current.line)
      | .ends, some begun =>
          if current.marker.content.isEmpty then
            .error (.emptyDirective .ends current.line)
          else if current.marker.content ≠ begun.marker.content then
            .error
              (.mismatchedBlock begun.marker.content begun.line current.marker.content current.line)
          else
            match pair none rest with
            | .ok blocks =>
                .ok (⟨begun.id, current.id, begun.marker.content, begun.line, current.line⟩ :: blocks)
            | .error error => .error error

end DirectiveBlock

/-- The directive blocks of a tree, in the order of the document. -/
def Node.directiveBlocks (node : Node) : Except Error (List DirectiveBlock) :=
  DirectiveBlock.pair none node.markers

/-!
# Removing blocks

A block is removed with its markers and everything between them in the order of
the document. The markers may stand at different depths: what holds the first
marker is kept, and what holds the last one is kept unless nothing is left in it.
-/

namespace DirectiveBlock

mutual
/-- What is left of a node, and whether the block goes on after it. `inside` tells
whether it has begun before. -/
def removeNode (block : DirectiveBlock) (inside : Bool) (node : Node) : Option Node × Bool :=
  match node with
  | ⟨id, kind, value, children, position⟩ =>
      if id = block.start then
        (none, true)
      else if id = block.stop then
        (none, false)
      else
        let (kept, still) := removeNodes block inside children
        let left : Node := ⟨id, kind, value, kept, position⟩
        if inside && (still || kept.isEmpty) then (none, still) else (some left, still)

def removeNodes (block : DirectiveBlock) (inside : Bool) : List Node → List Node × Bool
  | [] => ([], inside)
  | node :: nodes =>
      let (left, still) := removeNode block inside node
      let (rest, after) := removeNodes block still nodes
      (left.toList ++ rest, after)
end

/-- Whether both markers of the block are in the tree. -/
def isAttached (block : DirectiveBlock) (root : Node) : Bool :=
  root.contains block.start && root.contains block.stop

/-- Removes the block from a tree. -/
def remove (block : DirectiveBlock) (root : Node) : Except Error Node :=
  if block.isAttached root then
    .ok { root with children := (removeNodes block false root.children).1 }
  else
    .error (.detachedBlock block.content block.startLine block.endLine)

end DirectiveBlock
end Docloom
