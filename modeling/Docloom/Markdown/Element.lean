import Docloom.Markdown.Inlines

/-!
# Elements

An element is a node of the tree that a text stands for: a kind, a text, children
and a position. The elements inside a block are made from its tokens; texts that
stand side by side are one element.
-/

namespace Docloom
namespace Markdown

structure Element where
  kind : NodeKind
  value : Option String
  position : Position
  children : List Element

/-- Whether a text is a single comment. -/
def isCommentText (text : String) : Bool :=
  let trimmed := Text.trim text
  Text.startsWith "<!--" trimmed && Text.endsWith "-->" trimmed

def positionOf (start stop : Place) : Position :=
  ⟨start.line, start.column, stop.line, stop.column⟩

namespace Element

def ofRaw (source : Source) (start stop : Place) : Element :=
  { kind := .raw
    value := some (source.between start stop)
    position := positionOf start stop
    children := [] }

def ofHtml (value : String) (start stop : Place) : Element :=
  { kind := if isCommentText value then .comment else .html
    value := some value
    position := positionOf start stop
    children := [] }

def ofText (source : Source) (value : String) (start stop : Place) : Element :=
  { kind := .text (source.between? start stop)
    value := some value
    position := positionOf start stop
    children := [] }

mutual
/-- The texts inside an element. -/
def plainText (element : Element) : String :=
  match element with
  | ⟨kind, value, _, children⟩ =>
      match kind with
      | .raw => ""
      | _ => value.getD "" ++ plainTexts children

def plainTexts : List Element → String
  | [] => ""
  | element :: elements => plainText element ++ plainTexts elements
end

/-- How a link is written, which its first character tells. -/
def linkStyle (source : Source) (start : Place) : LinkStyle :=
  match source.chars[start.index]? with
  | some '[' => .inline
  | some '<' => .autolink
  | _ => .literal

end Element

/-!
# Texts and blanks beside line endings
-/

/-- A piece of the content of a block: text, or an element. -/
inductive Segment where
  | text (start stop : Place) (value : String)
  | element (element : Element)

/-- The elements of segments; texts side by side are joined. -/
def joinSegments (source : Source) : Option (Place × Place × String) → List Segment →
    List Element
  | open_, [] => flush open_
  | open_, .text start stop value :: rest =>
      match open_ with
      | none => joinSegments source (some (start, stop, value)) rest
      | some (first, _, text) => joinSegments source (some (first, stop, text ++ value)) rest
  | open_, .element element :: rest => flush open_ ++ element :: joinSegments source none rest
where
  flush : Option (Place × Place × String) → List Element
    | none => []
    | some (start, stop, value) => [.ofText source value start stop]

/-- What is left of text when blanks are taken off its ends. -/
structure Trimmed where
  start : Place
  stop : Place
  /-- Whether nothing is left. -/
  blank : Bool
  /-- Whether at least two blanks, and nothing else, were taken off the end. -/
  breaks : Bool

/-- Takes blanks and tabs off the start, the end, or both ends of the text between
two places. -/
def trimPlaces (source : Source) (start stop : Place) (atStart atEnd : Bool) : Trimmed :=
  let first := if start.inside = 0 then start.index else start.index + 1
  let last := if stop.inside = 0 then stop.index else stop.index + 1
  let cs := (source.chars.extract first last).toList
  let trailing := cs.reverse.takeWhile Text.isSpace
  let breaks := trailing.all (· == ' ') && stop.inside ≤ 1 && 2 ≤ trailing.length
  if (atStart || atEnd) && trailing.length = cs.length then
    { start, stop := start, blank := true, breaks := atEnd && breaks }
  else
    let stop' : Place :=
      if atEnd && (0 < trailing.length || 1 < stop.inside) then
        { stop with
          index := stop.index - trailing.length
          column := stop.column - trailing.length
          inside := 0 }
      else
        stop
    let leading := (cs.takeWhile Text.isSpace).length
    let start' : Place :=
      if atStart && (0 < leading || start.inside ≠ 0) then
        { start with
          index := start.index + leading, column := start.column + leading, inside := 0 }
      else
        start
    { start := start', stop := stop', blank := false, breaks := atEnd && breaks }

/-!
# Elements of tokens
-/

/-- What the tokens of a block are read in: the text, its run, and whether it is the
run of a cell. -/
structure Scope where
  source : Source
  run : Run
  inCell : Bool

namespace Scope

/-- A link to the url that stands between two indices. -/
def urlElement (scope : Scope) (start stop i j : Nat) (before : String) : Element :=
  let place (k : Nat) : Place := scope.run.place k
  let text := scope.run.text scope.source i j
  { kind := .link (before ++ text) none (Element.linkStyle scope.source (place start))
    value := none
    position := positionOf (place start) (place stop)
    children := [.ofText scope.source text (place i) (place j)] }

/-- Bars in the code of a cell lose the backslash before them. -/
def unescapeBars : List Char → List Char
  | '\\' :: '|' :: rest => '|' :: unescapeBars rest
  | c :: rest => c :: unescapeBars rest
  | [] => []

/-- Code that starts and ends with a blank loses both, unless it is all blanks. -/
def trimCode (cs : List Char) : List Char :=
  match cs with
  | ' ' :: rest =>
      match rest.reverse with
      | ' ' :: inner => if inner.any (· != ' ') then inner.reverse else cs
      | _ => cs
  | _ => cs

def atomElement (scope : Scope) (start stop : Nat) (atom : Atom) : Element :=
  let run := scope.run
  let first := run.place start
  let last := run.placeAfter stop
  match atom with
  | .code i j =>
      let text := (run.lines scope.source 0 (run.size + 1) i j).toList
      let text := if scope.inCell then unescapeBars text else text
      { kind := .inlineCode
        value := some (String.ofList (trimCode text))
        position := positionOf first last
        children := [] }
  | .html => .ofHtml (run.lines scope.source 3 (run.size + 1) start stop) first last
  | .autolink mail =>
      scope.urlElement start stop (start + 1) (stop - 1) (if mail then "mailto:" else "")
  | .url before => scope.urlElement start stop start stop before
  | .note => .ofRaw scope.source first last

/-- The segments of text without tokens. Mail addresses in it are links, unless
`mails` is not set. -/
def dataSegments (scope : Scope) (start stop : Nat) (mails atStart atEnd : Bool) :
    List Segment × Bool :=
  let run := scope.run
  let found := if mails then run.mails stop (run.size + 1) start start else []
  let cut (i j : Nat) (atStart atEnd : Bool) : List Segment × Bool :=
    let trimmed := trimPlaces scope.source (run.place i) (run.placeAfter j) atStart atEnd
    if trimmed.blank then
      ([], trimmed.breaks)
    else
      ([.text trimmed.start trimmed.stop (scope.source.content trimmed.start trimmed.stop)],
        trimmed.breaks)
  go cut start stop atStart atEnd found
where
  go (cut : Nat → Nat → Bool → Bool → List Segment × Bool) (i stop : Nat)
      (atStart atEnd : Bool) : List MailExtent → List Segment × Bool
    | [] => if i < stop then cut i stop atStart atEnd else ([], false)
    | mail :: rest =>
        let before := if i < mail.start then (cut i mail.start atStart false).1 else []
        let url := scope.urlElement mail.start mail.stop mail.start mail.stop
          (if mail.hasProtocol then "" else "mailto:")
        let after := go cut mail.stop stop false atEnd rest
        (before ++ .element url :: after.1, after.2)

def lineSegment (scope : Scope) (i : Nat) : Segment :=
  .text (scope.run.place i) (scope.run.placeAfter (i + 1)) (scope.run.lineEnding scope.source i)

/-- A line break that starts at a place and takes the line ending at `i`. -/
def breakElement (scope : Scope) (start : Place) (i : Nat) : Element :=
  { kind := .lineBreak
    value := none
    position := positionOf start (scope.run.placeAfter (i + 1))
    children := [] }

/-- Whether mail addresses are links inside a span. -/
def Wrapper.allowsMails : Wrapper → Bool
  | .link .. => false
  | .reference .. => false
  | _ => true

def spanElement (scope : Scope) (start stop : Nat) (wrapper : Wrapper)
    (children : List Element) : Element :=
  let first := scope.run.place start
  let last := scope.run.placeAfter stop
  let element (kind : NodeKind) : Element :=
    { kind, value := none, position := positionOf first last, children }
  match wrapper with
  | .emphasis => element .emphasis
  | .strong => element .strong
  | .delete => element .delete
  | .link url title => element (.link url title (Element.linkStyle scope.source first))
  | .reference identifier label style =>
      element
        (.linkReference identifier (some (label.getD (Element.plainTexts children))) style)
  | .image => .ofRaw scope.source first last

mutual
/-- The segments of a token that is neither text nor a line ending. -/
def tokenSegment (scope : Scope) (mails : Bool) (token : Inline) : List Segment :=
  match token with
  | .escape i =>
      let first := scope.run.place (i + 1)
      let last := scope.run.placeAfter (i + 2)
      [.text first last (scope.source.content first last)]
  | .reference i j text => [.text (scope.run.place i) (scope.run.placeAfter j) text]
  | .atom i j atom => [.element (scope.atomElement i j atom)]
  | .span i j wrapper inside =>
      let mails := mails && Wrapper.allowsMails wrapper
      let segments := segmentsFrom scope mails false false inside
      [.element (scope.spanElement i j wrapper (joinSegments scope.source none segments))]
  | _ => []

/-- The segments of tokens. `top` tells whether these are the tokens of the whole
run, and `atStart` whether a line starts before them. -/
def segmentsFrom (scope : Scope) (mails top atStart : Bool) : List Inline → List Segment
  | [] => []
  | .data i j :: .line k :: rest =>
      let (segments, breaks) := scope.dataSegments i j mails atStart true
      let ending :=
        if breaks then
          let trimmed :=
            trimPlaces scope.source (scope.run.place i) (scope.run.placeAfter j) atStart true
          .element (scope.breakElement trimmed.stop k)
        else
          scope.lineSegment k
      segments ++ ending :: segmentsFrom scope mails top true rest
  | .data i j :: [] => (scope.dataSegments i j mails atStart top).1
  | .data i j :: token :: rest =>
      (scope.dataSegments i j mails atStart false).1 ++
        segmentsFrom scope mails top false (token :: rest)
  | .hardBreak i :: .line k :: rest =>
      .element (scope.breakElement (scope.run.place i) k) ::
        segmentsFrom scope mails top true rest
  | .line k :: rest => scope.lineSegment k :: segmentsFrom scope mails top true rest
  | token :: rest =>
      tokenSegment scope mails token ++ segmentsFrom scope mails top false rest
end

/-- The elements of tokens. -/
def elements (scope : Scope) (atStart : Bool) (tokens : List Inline) : List Element :=
  joinSegments scope.source none (segmentsFrom scope true true atStart tokens)

end Scope
end Markdown
end Docloom
