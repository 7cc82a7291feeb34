import Docloom.Markdown.Block

/-!
# Reading blocks

The lines of a text are read one by one. Every line first goes on inside the open
containers, or ends some of them; then it may open new containers; what is left
of it goes on with the open leaf, or ends it and starts another.
-/

namespace Docloom
namespace Markdown

/-- A block without children that is still open. Lines and rows are kept from the
last to the first. -/
inductive Leaf where
  | none
  | paragraph (lines : List Line)
  /-- Indented code. `held` is the text of the blank lines after the code, and
  `blanks` their number; they belong to the code only if more code follows. -/
  | indented (start stop : Place) (value held : String) (blanks : Nat)
  /-- Fenced code with the width of its indentation and the size of its fence. -/
  | fence (start : Place) (indent : Nat) (marker : Char) (size : Nat)
      (lang info : Option String) (value : String)
  | html (start : Place) (kind : HtmlBlock) (value : String)
  | table (start : Place) (aligns : List Align) (rows : List RowText)

/-- Whether the leaf keeps containers from opening inside it. -/
def Leaf.isSealed : Leaf → Bool
  | .fence .. => true
  | .html .. => true
  | _ => false

def Leaf.isParagraph : Leaf → Bool
  | .paragraph _ => true
  | _ => false

/-- The end of the line that was read last. -/
structure LineEnd where
  stop : Place
  next : Place
  text : String
  blank : Bool

structure Reader where
  /-- The number of lines that were read. -/
  line : Nat
  /-- Open containers, the innermost first. -/
  frames : List Frame
  parts : List Part
  leaf : Leaf
  last : LineEnd
  /-- Whether the text of a next line may go on without the markers of the open
  containers. -/
  continues : Bool

def Reader.empty : Reader :=
  { line := 0
    frames := []
    parts := []
    leaf := .none
    last := ⟨.origin, .origin, "", false⟩
    continues := false }

namespace Reader

def push (reader : Reader) (part : Part) : Reader :=
  match reader.frames with
  | frame :: frames =>
      { reader with frames := { frame with parts := part :: frame.parts } :: frames }
  | [] => { reader with parts := part :: reader.parts }

def pushBlock (reader : Reader) (shape : Shape) (start stop : Place) : Reader :=
  reader.push (.block ⟨shape, start, stop, []⟩)

/-!
# Closing leaves
-/

/-- Removes one line ending from the start. -/
def dropFirstEnding : List Char → List Char
  | '\r' :: '\n' :: rest => rest
  | '\n' :: rest => rest
  | '\r' :: rest => rest
  | cs => cs

/-- Removes one line ending from the end. -/
def dropLastEnding (cs : List Char) : List Char :=
  match cs.reverse with
  | '\n' :: '\r' :: rest => rest.reverse
  | '\n' :: rest => rest.reverse
  | '\r' :: rest => rest.reverse
  | _ => cs

def definitionShape (source : Source) (run : Run) (definition : Definition) : Shape :=
  let raw := source.between (run.place definition.label.start) (run.place definition.label.stop)
  .definition (matchingLabel raw)
    (run.decoded source definition.label.start definition.label.stop)
    (run.decoded source definition.destination.start definition.destination.stop)
    (definition.title.bind fun title =>
      if title.start < title.stop then some (run.decoded source title.start title.stop) else none)

/-- Closes a paragraph with the given lines: the definitions at its start, and
what is left of it, if anything is. -/
def closeText (source : Source) (reader : Reader) (lines : List Line) :
    Reader × Option (Run × Place) :=
  let run := Run.ofLines lines
  let (definitions, text) := run.definitions (run.size + 1) 0
  let reader := definitions.foldl
    (fun reader definition =>
      reader.pushBlock (definitionShape source run definition.2) (run.place definition.1)
        (run.place definition.2.stop))
    reader
  if text < run.size then
    (reader, some (run.part text run.size, run.place text))
  else
    (reader, none)

/-- Closes the open leaf. When `swallows` is set, code and markup without an end
take the ending of the last line. Returns the place where it stops. -/
def closeLeaf (source : Source) (swallows : Bool) (reader : Reader) : Reader × Place :=
  let last := reader.last
  let reader' := { reader with leaf := .none }
  match reader.leaf with
  | .none => (reader', last.stop)
  | .paragraph lines =>
      match closeText source reader' lines.reverse with
      | (reader, some (run, start)) => (reader.pushBlock (.paragraph run) start run.stop, last.stop)
      | (reader, none) => (reader, last.stop)
  | .indented start stop value _ blanks =>
      let code := .code none none (String.ofList (dropLastEnding value.toList))
      let reader := reader'.pushBlock code start stop
      ((List.range blanks).foldl (fun reader _ => reader.push (.blank true)) reader, last.stop)
  | .fence start _ _ _ lang info value =>
      let value := if swallows then value ++ last.text else value
      let stop := if swallows then last.next else last.stop
      let text := String.ofList (dropLastEnding (dropFirstEnding value.toList))
      (reader'.pushBlock (.code lang info text) start stop, stop)
  | .html start kind value =>
      let swallows := swallows && !kind.endsAtBlank
      let value := if swallows then value ++ last.text else value
      let stop := if swallows then last.next else last.stop
      (reader'.pushBlock (.html value) start stop, stop)
  | .table start aligns rows =>
      (reader'.pushBlock (.table aligns rows.reverse) start last.stop, last.stop)

/-!
# Closing containers
-/

/-- Whether a blank line that was read last spreads the container that it falls to
when `closed` are the containers that end with it. It does not when it is the
rest of a marker. -/
def blankSpreads (reader : Reader) (closed : List Frame) : Bool :=
  let fresh (frame : Frame) : Bool := frame.container.isItem && frame.line == reader.line
  match closed with
  | [] => !(reader.frames.head?.any fresh)
  | [frame] => !(fresh frame || frame.container == .quote)
  | [inner, outer] => !(inner.container == .quote && outer.container.isItem)
  | _ => true

/-- Closes the innermost containers, `count` in number. -/
def closeFrames (stop : Place) : Nat → Reader → Reader
  | 0, reader => reader
  | count + 1, reader =>
      match reader.frames with
      | [] => reader
      | frame :: frames =>
          closeFrames stop count ({ reader with frames }.push (.block (frame.close stop)))

/-- The blank line that was read last falls to the innermost container. -/
def placeBlank (reader : Reader) (closed : List Frame) : Reader :=
  if reader.last.blank then
    { reader with last := { reader.last with blank := false } }.push
      (.blank (reader.blankSpreads closed))
  else
    reader

/-- Ends the open leaf and all but the outermost `kept` containers. -/
def endContainers (source : Source) (swallows : Bool) (kept : Nat) (reader : Reader) : Reader :=
  let (reader, stop) := reader.closeLeaf source swallows
  let count := reader.frames.length - kept
  let closed := reader.frames.take count
  (closeFrames stop count reader).placeBlank closed

/-!
# Telling lines apart
-/

/-- What a line starts or goes on with when no code and no markup is open. -/
inductive LineKind where
  | blank
  | indented
  | fence (indent : Nat) (marker : Char) (size : Nat) (lang info : Option String)
  | html (kind : HtmlBlock) (closed : Bool)
  | heading (depth start stop : Nat)
  | underline (depth : Nat)
  | thematicBreak
  | delimiter (aligns : List Align)
  | row
  | text

/-- The words of a heading: runs of number signs that blanks stand before are not
among its first and last words. -/
def headingExtent (run : Run) : Nat → Nat → Option (Nat × Nat) → Option (Nat × Nat)
  | 0, _, extent => extent
  | fuel + 1, i, extent =>
      let j := run.skipSpace i
      if run.atLineEnd j then
        extent
      else if run.isAt j '#' then
        headingExtent run fuel (run.skip (· == '#') j) extent
      else
        let k := run.skip (fun c => !Text.isSpace c) j
        headingExtent run fuel k (some ((extent.map Prod.fst).getD j, k))

def headingLine? (run : Run) (i : Nat) : Option LineKind :=
  let j := run.skip (· == '#') i
  if i < j && j ≤ i + 6 && (run.atLineEnd j || run.sat Text.isSpace j) then
    let extent := (headingExtent run (run.size + 1) j none).getD (run.size, run.size)
    some (.heading (j - i) extent.1 extent.2)
  else
    none

def fenceLine? (source : Source) (run : Run) (i : Nat) : Option LineKind :=
  match run.char? i with
  | some c =>
      let j := run.skip (· == c) i
      if (c == '\x60' || c == '~') && i + 3 ≤ j then
        let langStart := run.skipSpace j
        let langStop := run.skip (fun d => !Text.isSpace d) langStart
        let infoStart := run.skipSpace langStop
        let decoded (a b : Nat) : Option String :=
          if a < b then some (run.decoded source a b) else none
        if c == '\x60' && (run.chars j run.size).contains c then
          none
        else
          some
            (.fence (source.content (run.place 0) (run.place i)).length c (j - i)
              (decoded langStart langStop) (decoded infoStart run.size))
      else
        none
  | none => none

def underlineDepth? (run : Run) (i : Nat) : Option Nat :=
  match run.char? i with
  | some c =>
      if (c == '=' || c == '-') && run.atLineEnd (run.skipSpace (run.skip (· == c) i)) then
        some (if c == '=' then 1 else 2)
      else
        none
  | none => none

/-- The alignments of a table whose head is the last line of a paragraph and whose
delimiter row is this line. -/
def delimiterLine? (run : Run) (lines : List Line) : Option (List Align) :=
  match lines with
  | head :: _ =>
      match run.delimiterRow? with
      | some aligns =>
          let indent := head.run.skipUpTo Text.isSpace 4 0
          if indent < 4 && aligns.length = head.run.rowCells.length then some aligns else none
      | none => none
  | [] => none

/-- What a line is, when `leaf` is open. A line is `lazy` when it lacks the markers
of the containers. -/
def lineKind (source : Source) (leaf : Leaf) (isLazy : Bool) (run : Run) : LineKind :=
  let i := run.skipUpTo Text.isSpace 3 0
  let lines : List Line :=
    match leaf with
    | .paragraph lines => if isLazy then [] else lines
    | _ => []
  if run.atLineEnd (run.skipSpace 0) then
    .blank
  else if let some aligns := delimiterLine? run lines then
    .delimiter aligns
  else if !leaf.isParagraph && run.skipUpTo Text.isSpace 4 0 = 4 then
    .indented
  else if let some kind := fenceLine? source run i then
    kind
  else if let some (kind, j) := run.htmlBlock? (!leaf.isParagraph || isLazy) i then
    .html kind (run.endsHtmlBlock kind j)
  else if let some kind := headingLine? run i then
    kind
  else if let some depth := if lines.isEmpty then none else underlineDepth? run i then
    .underline depth
  else if run.isThematicBreak i then
    .thematicBreak
  else
    match leaf with
    | .table .. => if isLazy then .text else .row
    | _ => .text

/-!
# Going on with a line
-/

def rowText (run : Run) : RowText :=
  { start := run.place 0
    stop := run.stop
    cells := run.rowCells.map fun cell =>
      { start := run.place cell.start
        stop := run.place cell.stop
        text := run.part cell.textStart cell.textStop } }

/-- Starts a block with a line of which no leaf is open, or ends the open leaf. -/
def start (source : Source) (reader : Reader) (line : Line) : Reader :=
  let run := line.run
  let kind := lineKind source reader.leaf false run
  let place := line.start
  let closed : Reader := (reader.closeLeaf source false).1.placeBlank []
  match kind with
  | .blank => closed
  | .indented =>
      let value := line.textFrom source 4
      { closed with leaf := .indented place line.stop value "" 0 }
  | .fence indent marker size lang info =>
      { closed with leaf := .fence place indent marker size lang info "" }
  | .html kind ended =>
      let value := line.textFrom source 0
      if ended then
        closed.pushBlock (.html value) place line.stop
      else
        { closed with leaf := .html place kind value }
  | .heading depth first last =>
      closed.pushBlock (.heading depth (run.part first last)) place line.stop
  | .thematicBreak => closed.pushBlock .thematicBreak place line.stop
  | .underline depth =>
      match reader.leaf with
      | .paragraph lines =>
          match closeText source { reader with leaf := .none } lines.reverse with
          | (reader, some (text, first)) =>
              reader.pushBlock (.heading depth text) first line.stop
          | (reader, none) => { reader with leaf := .paragraph [line] }
      | _ => reader
  | .delimiter aligns =>
      match reader.leaf with
      | .paragraph (head :: lines) =>
          let before := ({ reader with leaf := .paragraph lines }.closeLeaf source false).1
          { before with leaf := .table head.start aligns [rowText head.run] }
      | _ => reader
  | .row =>
      match reader.leaf with
      | .table first aligns rows =>
          { reader with leaf := .table first aligns (rowText run :: rows) }
      | _ => reader
  | .text =>
      match reader.leaf with
      | .paragraph lines => { reader with leaf := .paragraph (line :: lines) }
      | _ => { closed with leaf := .paragraph [line] }

/-- Whether the line ends a fence. -/
def endsFence (run : Run) (marker : Char) (size : Nat) : Bool :=
  let i := run.skipUpTo Text.isSpace 3 0
  let j := run.skip (· == marker) i
  i + size ≤ j && run.atLineEnd (run.skipSpace j)

/-- Goes on with the open leaf, or starts another block. -/
def goOn (source : Source) (reader : Reader) (line : Line) : Reader :=
  let run := line.run
  let last := reader.last
  match reader.leaf with
  | .fence first indent marker size lang info value =>
      if endsFence run marker size then
        let text := String.ofList (dropLastEnding (dropFirstEnding (value ++ last.text).toList))
        { reader with leaf := .none }.pushBlock (.code lang info text) first line.stop
      else
        let content := line.textFrom source (run.skipUpTo Text.isSpace indent 0)
        { reader with
          leaf := .fence first indent marker size lang info (value ++ last.text ++ content) }
  | .html first kind value =>
      if kind.endsAtBlank && line.isBlankFrom 0 then
        reader.start source line
      else
        let value := value ++ last.text ++ line.textFrom source 0
        if run.endsHtmlBlock kind 0 then
          { reader with leaf := .none }.pushBlock (.html value) first line.stop
        else
          { reader with leaf := .html first kind value }
  | .indented first stop value held blanks =>
      if run.skipUpTo Text.isSpace 4 0 = 4 then
        let value := value ++ held ++ last.text ++ line.textFrom source 4
        { reader with leaf := .indented first line.stop value "" 0 }
      else if line.isBlankFrom 0 then
        let blanks := if last.blank then blanks + 1 else blanks
        { reader with leaf := .indented first stop value (held ++ last.text) blanks }
      else
        reader.start source line
  | _ => reader.start source line

/-- Whether a line without the markers of the containers goes on with the text in
them. -/
def goesOnLazily (source : Source) (reader : Reader) (line : Line) : Bool :=
  reader.continues &&
    (match lineKind source reader.leaf true line.run with
     | .text => true
     | _ => false)

/-!
# Reading a line
-/

/-- Goes through the containers, the outermost first. Returns those that go on, the
innermost first, the number of those that do not, and the index that is reached. -/
def continued (line : Line) : List Frame → List Frame → Nat → List Frame × Nat × Nat
  | [], kept, i => (kept, 0, i)
  | frame :: frames, kept, i =>
      match frame.container.continue? line i with
      | some (container, j) => continued line frames ({ frame with container } :: kept) j
      | none => (kept, frames.length + 1, i)

/-- Opens containers from `i` on. -/
def openFrames (source : Source) (line : Line) (number : Nat) :
    Nat → List Frame → Nat → List Frame × Nat
  | 0, frames, i => (frames, i)
  | fuel + 1, frames, i =>
      match openContainer? source line number false i with
      | some (frame, j) => openFrames source line number fuel (frame :: frames) j
      | none => (frames, i)

def endLine (source : Source) (reader : Reader) (line : Line) (blank : Bool)
    (underlined : Bool) : Reader :=
  { reader with
    line := reader.line + 1
    last := ⟨line.stop, line.next, line.endingText source, blank⟩
    continues := reader.leaf.isParagraph || underlined }

/-- Reads what is left of a line inside its containers. -/
def readRest (source : Source) (reader : Reader) (line : Line) : Reader :=
  let wasSealed := reader.leaf.isSealed
  let underlined :=
    match reader.leaf with
    | .paragraph _ =>
        match lineKind source reader.leaf false line.run with
        | .underline _ => true
        | _ => false
    | _ => false
  let reader := reader.goOn source line
  let blank := line.isBlankFrom 0 && !(wasSealed && reader.leaf.isSealed)
  reader.endLine source line blank underlined

def read (source : Source) (reader : Reader) (line : Line) : Reader :=
  let (kept, missing, i) := continued line reader.frames.reverse [] 0
  let reader := { reader with frames := reader.frames.take missing ++ kept }
  let number := reader.line + 1
  let all := missing == 0
  let opened :=
    if all && reader.leaf.isSealed then
      none
    else
      openContainer? source line number (all && reader.leaf.isParagraph) i
  match opened with
  | some (frame, j) =>
      let ended := reader.endContainers source (!all) kept.length
      let (frames, k) := openFrames source line number (line.run.size + 1) (frame :: ended.frames) j
      { ended with frames }.readRest source (line.cut k)
  | none =>
      let rest := line.cut i
      if all then
        reader.readRest source rest
      else if reader.goesOnLazily source rest then
        let lines :=
          match reader.leaf with
          | .paragraph lines => rest :: lines
          | _ => [rest]
        { reader with leaf := .paragraph lines }.endLine source rest false false
      else
        (reader.endContainers source false kept.length).readRest source rest

/-- Ends everything that is still open. -/
def finish (source : Source) (reader : Reader) : List Block :=
  (gatherItems none (reader.endContainers source true 0).parts.reverse).blocks

end Reader

/-- The blocks of a text. -/
def Source.blocks (source : Source) : List Block :=
  (source.lines.foldl (Reader.read source) Reader.empty).finish source

end Markdown
end Docloom
