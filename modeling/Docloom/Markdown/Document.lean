import Docloom.Markdown.Blocks
import Docloom.Markdown.Element

/-!
# Reading a document

A text is read in two passes: first its blocks, which tell what labels are
defined, and then the text inside its blocks.
-/

namespace Docloom
namespace Markdown

/-!
# The labels of a document
-/

def Labels.empty : Labels := ⟨[], []⟩

def Labels.append (a b : Labels) : Labels :=
  ⟨a.definitions ++ b.definitions, a.notes ++ b.notes⟩

/-- The labels that a shape defines. -/
def Shape.labels : Shape → Labels
  | .definition matching _ _ _ => ⟨[matching], []⟩
  | .note label => ⟨[], [matchingLabel label]⟩
  | _ => .empty

mutual
def Block.labels (block : Block) : Labels :=
  match block with
  | ⟨shape, _, _, children⟩ => shape.labels.append (blockLabels children)

def blockLabels : List Block → Labels
  | [] => .empty
  | block :: blocks => block.labels.append (blockLabels blocks)
end

/-!
# Check boxes of items
-/

/-- The check box at the start of a paragraph. Something must follow it. -/
def Run.checkBox? (run : Run) : Option Bool :=
  if run.isAt 0 '[' && run.isAt 2 ']' then
    let checked : Option Bool :=
      match run.char? 1 with
      | some 'x' => some true
      | some 'X' => some true
      | some ' ' => some false
      | some '\t' => some false
      | some '\n' => some false
      | _ => none
    if run.isAt 3 '\n' then
      checked
    else if run.sat Text.isSpace 3 && run.skipSpace 3 < run.size then
      checked
    else
      none
  else
    none

/-- Takes the blank or line ending after a check box off the text that follows. -/
def dropAfterCheck (element : Element) : Element :=
  match element.kind, element.value with
  | .text _, some value =>
      match value.toList with
      | [] => element
      | c :: rest =>
          let position := element.position
          let isLine := c == '\n' || c == '\r'
          let rest := if c == '\r' then (match rest with
            | '\n' :: rest => rest
            | _ => rest) else rest
          let start : Position :=
            if isLine then
              { position with startLine := position.startLine + 1, startColumn := 1 }
            else
              { position with startColumn := position.startColumn + 1 }
          let written := match element.kind with
            | .text (some text) =>
                let count := value.toList.length - rest.length
                some (String.ofList (text.toList.drop count))
            | _ => none
          { element with kind := .text written, value := some (String.ofList rest), position := start }
  | _, _ => element

/-!
# Elements of blocks
-/

def leafElement (kind : NodeKind) (value : Option String) (block : Block)
    (children : List Element) : Element :=
  { kind, value, position := positionOf block.start block.stop, children }

/-- Whether code starts with a fence. -/
def isFenced (text : String) : Bool :=
  let trimmed := text.toList.dropWhile Text.isBlank
  ['\x60', '\x60', '\x60'].isPrefixOf trimmed || ['~', '~', '~'].isPrefixOf trimmed

def runElements (source : Source) (labels : Labels) (run : Run) (inCell : Bool) : List Element :=
  Scope.elements ⟨source, run, inCell⟩ true (run.inlines source labels 0)

def cellElement (source : Source) (labels : Labels) (cell : CellText) : Element :=
  { kind := .tableCell
    value := none
    position := positionOf cell.start cell.stop
    children := runElements source labels cell.text true }

def rowElement (source : Source) (labels : Labels) (row : RowText) : Element :=
  { kind := .tableRow
    value := none
    position := positionOf row.start row.stop
    children := row.cells.map (cellElement source labels) }

/-- The paragraph of an item whose check box has been read. -/
def checkedParagraph (source : Source) (labels : Labels) (run : Run) (block : Block) : Element :=
  let children := Scope.elements ⟨source, run, false⟩ false (run.inlines source labels 3)
  match children with
  | first :: rest =>
      let first := dropAfterCheck first
      let paragraph := leafElement .paragraph none block (first :: rest)
      { paragraph with
        position :=
          { paragraph.position with
            startLine := first.position.startLine
            startColumn := first.position.startColumn } }
  | [] => leafElement .paragraph none block []

/-- The check box of an item: that of the first paragraph, which only definitions
may stand before. -/
def itemCheck? : List Block → Option Bool
  | [] => none
  | block :: blocks =>
      match block.shape with
      | .definition .. => itemCheck? blocks
      | .paragraph run => run.checkBox?
      | _ => none

mutual
def blockElement (source : Source) (labels : Labels) (checks : Bool) (block : Block) : Element :=
  match block with
  | ⟨shape, start, stop, children⟩ =>
      let inside (checks : Bool) : List Element := blockElements source labels checks children
      let block : Block := ⟨shape, start, stop, []⟩
      match shape with
      | .paragraph run =>
          if checks && run.checkBox?.isSome then
            checkedParagraph source labels run block
          else
            leafElement .paragraph none block (runElements source labels run false)
      | .heading depth run =>
          leafElement (.heading depth) none block (runElements source labels run false)
      | .thematicBreak => leafElement .thematicBreak none block []
      | .code lang info value =>
          let fenced := isFenced (source.between start stop)
          leafElement (.code lang info fenced) (some value) block []
      | .html value => .ofHtml value start stop
      | .definition matching label url title =>
          let identifier := Text.toLower matching
          leafElement (.definition identifier (some label) url title) none block []
      | .table aligns rows =>
          leafElement (.table aligns) none block (rows.map (rowElement source labels))
      | .quote => leafElement .blockquote none block (inside false)
      | .list first spread =>
          leafElement (.list first.isSome first spread) none block (inside false)
      | .item _ _ spread =>
          leafElement (.listItem spread (itemCheck? children)) none block (inside true)
      | .note _ => .ofRaw source start stop

/-- The elements of blocks. `checks` tells whether the first paragraph among them
may start with a check box. -/
def blockElements (source : Source) (labels : Labels) (checks : Bool) :
    List Block → List Element
  | [] => []
  | block :: blocks =>
      let isDefinition :=
        match block with
        | ⟨.definition .., _, _, _⟩ => true
        | _ => false
      blockElement source labels checks block ::
        blockElements source labels (checks && isDefinition) blocks
end

/-- The tree that a markdown text stands for. -/
def read (text : String) : Element :=
  let source := Source.ofString text
  let blocks := source.blocks
  { kind := .root
    value := none
    position := positionOf Place.origin source.stop
    children := blockElements source (blockLabels blocks) false blocks }

end Markdown
end Docloom
