import Docloom.Node.Basic
import Docloom.Text.Cut

/-!
# Writing markdown

A tree is written as markdown text. Text is written as it was read, so escapes and
references survive; the structure of blocks is built anew from the tree.
-/

namespace Docloom
namespace Writer

/-- The marker of a list. Lists that stand side by side have different ones, for
they would be read as one list otherwise. -/
inductive Bullet where
  | primary
  | secondary
  deriving DecidableEq, Repr

/-- Where a node is written. -/
structure Setting where
  bullet : Bullet
  /-- Directly after a list, where indented code would belong to the last item. -/
  afterList : Bool
  /-- In a cell of a table, where bars are escaped. -/
  inCell : Bool
  deriving Repr

def Setting.block : Setting := ⟨.primary, false, false⟩

/-!
# Lines
-/

/-- Puts `first` before the first line and `rest` before all others. What stands
before an empty line has no blanks at its end. -/
def prefixLines (first rest : String) (text : String) : String :=
  let write (start line : String) : String :=
    if line.isEmpty then Text.trimEndWhile Text.isBlank start else start ++ line
  match Text.split '\n' text with
  | [] => ""
  | line :: lines => Text.join "\n" (write first line :: lines.map (write rest))

/-- Text as it was written, without the markers of the containers around it that
its lines begin with. -/
def writtenText (source : String) : String :=
  match Text.split '\n' source with
  | [] => ""
  | line :: lines =>
      Text.join "\n"
        (line :: lines.map (Text.trimStartWhile fun c => c == ' ' || c == '\t' || c == '>'))

/-!
# Leaves
-/

/-- The size of the longest run of `c`. -/
def longestRun (c : Char) : List Char → Nat
  | cs => (cs.foldl (fun (longest, size) d =>
      if d == c then (max longest (size + 1), size + 1) else (longest, 0)) (0, 0)).1

def fencedCode (lang info : Option String) (value : String) : String :=
  let fence := Text.repeated (max (longestRun '\x60' value.toList) 2 + 1) '\x60'
  let head := fence ++ lang.getD "" ++ (info.map (" " ++ ·)).getD ""
  if value.isEmpty then
    head ++ "\n" ++ fence
  else
    head ++ "\n" ++ value ++ "\n" ++ fence

/-- Code keeps its indentation when it was indented, unless that would change what
it is. -/
def code (afterList : Bool) (lang info : Option String) (fenced : Bool) (value : String) :
    String :=
  if !fenced && !afterList && lang.isNone && !(Text.trim value).isEmpty then
    prefixLines "    " "    " value
  else
    fencedCode lang info value

def inlineCode (value : String) : String :=
  let ticks := Text.repeated (longestRun '\x60' value.toList + 1) '\x60'
  if Text.startsWith "\x60" value || Text.endsWith "\x60" value then
    ticks ++ " " ++ value ++ " " ++ ticks
  else
    ticks ++ value ++ ticks

/-- An url as the destination of a link. -/
def destination (url : String) : String :=
  let cs := url.toList
  if cs.isEmpty || cs.any (fun c => Text.isBlank c || Text.isControl c) ||
      cs.count '(' ≠ cs.count ')' then
    "<" ++ url ++ ">"
  else
    url

def titleSuffix : Option String → String
  | none => ""
  | some title => " \"" ++ Text.replaceChar '"' "\\\"" title ++ "\""

def escapeBars (inCell : Bool) (text : String) : String :=
  if inCell then Text.replaceChar '|' "\\|" text else text

def delimiterCell : Align → String
  | .none => "---"
  | .left => ":--"
  | .center => ":-:"
  | .right => "--:"

def tableRow (cells : List String) : String :=
  "| " ++ Text.join " | " cells ++ " |"

def table (aligns : List Align) (rows : List (List String)) : String :=
  match rows with
  | [] => ""
  | head :: body =>
      let missing := List.replicate (head.length - aligns.length) Align.none
      let delimiters := (aligns ++ missing).map delimiterCell
      Text.join "\n" ((head :: delimiters :: body).map tableRow)

/-!
# Trees
-/

def isSpreadItem : NodeKind → Bool
  | .listItem spread _ => spread
  | _ => false

/-- The marker of the item with a given index. -/
def itemMarker (ordered : Bool) (start index : Nat) (bullet : Bullet) : String :=
  match ordered, bullet with
  | true, .primary => toString (start + index) ++ "."
  | true, .secondary => toString (start + index) ++ ")"
  | false, .primary => "-"
  | false, .secondary => "*"

/-- The marker of the list at a node, when `previous` is the node before it and
`bullet` the marker of the list before it. -/
def nextBullet (previous : Option NodeKind) (bullet : Bullet) : Bullet :=
  if previous.any NodeKind.isList && bullet = .primary then .secondary else .primary

def itemText (checked : Option Bool) (marker content : String) : String :=
  let box :=
    match checked with
    | some true => "[x] "
    | some false => "[ ] "
    | none => ""
  prefixLines (marker ++ " ") (Text.repeated (marker.length + 1) ' ') (box ++ content)

mutual
/-- The text of a node, without an ending of its last line. -/
def nodeText (setting : Setting) (node : Node) : String :=
  match node with
  | ⟨_, kind, value, children, _⟩ =>
      let value := value.getD ""
      let inCell := setting.inCell
      match kind with
      | .root => blockTexts false none .primary children
      | .paragraph => inlineTexts false false children
      | .heading depth =>
          let content := inlineTexts false false children
          let hashes := Text.repeated depth '#'
          if content.isEmpty then hashes else hashes ++ " " ++ content
      | .thematicBreak => "***"
      | .blockquote => prefixLines "> " "> " (blockTexts false none .primary children)
      | .list ordered start spread =>
          let spread := spread || children.any fun item => isSpreadItem item.kind
          let items := itemTexts ordered (start.getD 1) setting.bullet 0 children
          Text.join (if spread then "\n\n" else "\n") items
      | .listItem spread _ => blockTexts (!spread) none .primary children
      | .code lang info fenced => code setting.afterList lang info fenced value
      | .definition identifier label url title =>
          "[" ++ label.getD identifier ++ "]: " ++ destination url ++ titleSuffix title
      | .table aligns => table aligns (rowTexts children)
      | .tableRow => inlineTexts false false children
      | .tableCell => inlineTexts true false children
      | .text source =>
          match source with
          | some source => writtenText source
          | none => escapeBars inCell value
      | .emphasis => "*" ++ inlineTexts inCell false children ++ "*"
      | .strong => "**" ++ inlineTexts inCell false children ++ "**"
      | .delete => "~~" ++ inlineTexts inCell false children ++ "~~"
      | .inlineCode => inlineCode (escapeBars inCell value)
      | .lineBreak => "\\\n"
      | .link url title style =>
          match style with
          | .autolink => "<" ++ escapeBars inCell url ++ ">"
          | .literal => inlineTexts inCell false children
          | .inline =>
              "[" ++ inlineTexts inCell false children ++ "](" ++
                escapeBars inCell (destination url) ++ escapeBars inCell (titleSuffix title) ++ ")"
      | .linkReference identifier label reference =>
          let text := "[" ++ inlineTexts inCell false children ++ "]"
          match reference with
          | .full => text ++ "[" ++ label.getD identifier ++ "]"
          | .collapsed => text ++ "[]"
          | .shortcut => text
      | .comment => value
      | .html => value
      | .raw => value

/-- The texts of blocks that follow a node of kind `previous`. -/
def blockTexts (tight : Bool) (previous : Option NodeKind) (bullet : Bullet) :
    List Node → String
  | [] => ""
  | node :: nodes =>
      let afterList := previous.any NodeKind.isList
      let bullet := if node.kind.isList then nextBullet previous bullet else bullet
      let setting : Setting :=
        { bullet := if node.kind.isList then bullet else .primary, afterList, inCell := false }
      let separator := if previous.isNone then "" else if tight then "\n" else "\n\n"
      separator ++ nodeText setting node ++ blockTexts tight (some node.kind) bullet nodes

/-- The texts of inline nodes. Blanks after a line break would be lost. -/
def inlineTexts (inCell afterBreak : Bool) : List Node → String
  | [] => ""
  | node :: nodes =>
      let text := nodeText { Setting.block with inCell } node
      let text := if afterBreak then Text.trimStartWhile Text.isSpace text else text
      text ++ inlineTexts inCell (node.kind = .lineBreak) nodes

def itemTexts (ordered : Bool) (start : Nat) (bullet : Bullet) (index : Nat) :
    List Node → List String
  | [] => []
  | item :: items =>
      let checked :=
        match item.kind with
        | .listItem _ checked => checked
        | _ => none
      itemText checked (itemMarker ordered start index bullet) (nodeText .block item) ::
        itemTexts ordered start bullet (index + 1) items

def rowTexts : List Node → List (List String)
  | [] => []
  | ⟨_, _, _, cells, _⟩ :: rows => cellTexts cells :: rowTexts rows

def cellTexts : List Node → List String
  | [] => []
  | ⟨_, _, _, children, _⟩ :: cells => inlineTexts true false children :: cellTexts cells
end

end Writer

/-- The markdown text of a tree. It ends with one line ending, unless it is
empty. -/
def Node.toMarkdown (node : Node) : String :=
  let text := Text.trimEndWhile (· == '\n') (Writer.nodeText .block node)
  if text.isEmpty then "" else text ++ "\n"

end Docloom
