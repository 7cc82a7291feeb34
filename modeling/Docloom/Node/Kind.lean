/-!
# Kinds of nodes

What a node of a document can be. A kind carries the fields that only nodes of
that kind have; the text, the children and the position are the node's own.
-/

namespace Docloom

/-- Where a node stands in the text it was read from. Lines and columns count
from one, and columns count bytes. -/
structure Position where
  startLine : Nat
  startColumn : Nat
  endLine : Nat
  endColumn : Nat
  deriving DecidableEq, Repr

inductive Align where
  | none
  | left
  | center
  | right
  deriving DecidableEq, Repr

/-- How a link reference names its definition: `[text][label]`, `[text][]` or
`[text]`. -/
inductive ReferenceStyle where
  | full
  | collapsed
  | shortcut
  deriving DecidableEq, Repr

/-- How a link is written: `[text](url "title")`, `<url>` or the bare url. -/
inductive LinkStyle where
  | inline
  | autolink
  | literal
  deriving DecidableEq, Repr

inductive NodeKind where
  | root
  | paragraph
  | heading (depth : Nat)
  | thematicBreak
  | blockquote
  | list (ordered : Bool) (start : Option Nat) (spread : Bool)
  | listItem (spread : Bool) (checked : Option Bool)
  /-- A literal block, whose text is the code. -/
  | code (lang : Option String) (info : Option String) (fenced : Bool)
  /-- A markup comment, whose text is the whole comment. -/
  | comment
  /-- Embedded markup that is not a comment. -/
  | html
  /-- Plain text. The text of the node is decoded; `source` is the text as it
  was written, when the node was read from a file. -/
  | text (source : Option String)
  | emphasis
  | strong
  | delete
  | inlineCode
  | lineBreak
  | link (url : String) (title : Option String) (style : LinkStyle)
  | definition (identifier : String) (label : Option String) (url : String)
      (title : Option String)
  | linkReference (identifier : String) (label : Option String) (reference : ReferenceStyle)
  | table (align : List Align)
  | tableRow
  | tableCell
  /-- A construct that nothing looks into; its text is its source. -/
  | raw
  deriving DecidableEq, Repr

def NodeKind.isList : NodeKind → Bool
  | .list .. => true
  | _ => false

end Docloom
