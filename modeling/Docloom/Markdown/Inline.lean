import Docloom.Markdown.Run
import Docloom.Node.Kind

/-!
# Inline tokens

What the text of a block is made of, before its nodes are built. Tokens name
ranges of a run; a span is a token with tokens inside.
-/

namespace Docloom
namespace Markdown

/-- A token of which nothing inside is read. -/
inductive Atom where
  /-- Code, with the range between its fences. -/
  | code (start stop : Nat)
  | html
  /-- An url in angle brackets. -/
  | autolink (mail : Bool)
  /-- A bare url, with what has to be put before it. -/
  | url (before : String)
  | note
  deriving DecidableEq, Repr

inductive Wrapper where
  | emphasis
  | strong
  | delete
  | link (url : String) (title : Option String)
  /-- A reference; a full one carries its label. -/
  | reference (identifier : String) (label : Option String) (style : ReferenceStyle)
  | image
  deriving DecidableEq, Repr

inductive Inline where
  /-- Characters that stand for themselves. -/
  | data (start stop : Nat)
  | line (index : Nat)
  /-- A backslash and the character that it escapes. -/
  | escape (index : Nat)
  | reference (start stop : Nat) (text : String)
  /-- A backslash before a line ending. -/
  | hardBreak (index : Nat)
  | atom (start stop : Nat) (atom : Atom)
  /-- A run of characters that may open or close emphasis. -/
  | marks (index size : Nat) (char : Char)
  | span (start stop : Nat) (wrapper : Wrapper) (inside : List Inline)

/-- Puts a token before others, joining characters that stand side by side. -/
def Inline.cons : Inline → List Inline → List Inline
  | .data i j, .data k l :: rest => if j = k then .data i l :: rest else .data i j :: .data k l :: rest
  | token, rest => token :: rest

end Markdown
end Docloom
