import Docloom.Markdown.Run
import Docloom.Text.Case
import Docloom.Text.Punctuation

/-!
# Bare urls

Urls and mail addresses that stand in a text without brackets. Punctuation at the
end of such a url is not part of it.
-/

namespace Docloom
namespace Markdown

/-- How a character counts beside markers: as blank, as punctuation, or as
neither. The start and the end of a text count as blank. -/
inductive CharClass where
  | blank
  | punctuation
  | other
  deriving DecidableEq, Repr

def charClass : Option Char → CharClass
  | none => .blank
  | some c =>
      if Text.isBlank c then
        .blank
      else if Text.isAsciiPunctuation c || Text.isPunctuation c then
        .punctuation
      else
        .other

/-- A mail address: its extent, and whether its protocol is written. -/
structure MailExtent where
  start : Nat
  stop : Nat
  hasProtocol : Bool

namespace Run

/-!
# Ends of urls
-/

/-- Whether nothing but punctuation stands from `i` up to the end of a url. -/
def isTrail (run : Run) (i : Nat) : Bool :=
  if h : i < run.cells.size then
    let c := run.cells[i].char
    if "!\"'),.:;*?_~".toList.contains c then
      run.isTrail (i + 1)
    else if c == '&' then
      let j := run.skip Char.isAlpha (i + 1)
      if j ≠ i + 1 && run.isAt j ';' then
        have : i + 1 ≤ j := run.le_skip Char.isAlpha (i + 1)
        run.isTrail (j + 1)
      else
        false
    else if c == '<' then
      true
    else if c == ']' then
      if run.atLineEnd (i + 1) ||
          run.sat (fun d => Text.isSpace d || d == '(' || d == '[') (i + 1) then
        true
      else
        run.isTrail (i + 1)
    else
      charClass (some c) == .blank
  else
    true
termination_by run.cells.size - i

/-- The end of a domain. `seen` tells whether a letter or digit was among it; the
last two segments may hold no underscore. -/
def domainStop? (run : Run) (seen last before : Bool) (i : Nat) : Option Nat :=
  let ended : Option Nat := if before || last || !seen then none else some i
  if h : i < run.cells.size then
    let c := run.cells[i].char
    if c == '.' || c == '_' then
      if run.isTrail i then
        ended
      else if c == '_' then
        run.domainStop? seen true before (i + 1)
      else
        run.domainStop? seen false last (i + 1)
    else if c == '-' then
      run.domainStop? seen last before (i + 1)
    else if charClass (some c) == .other then
      run.domainStop? true last before (i + 1)
    else
      ended
  else
    ended
termination_by run.cells.size - i

/-- The end of the path of a url. A closing parenthesis at the end is kept when one
was opened. -/
def pathStop (run : Run) (opened closed : Nat) (i : Nat) : Nat :=
  if h : i < run.cells.size then
    let c := run.cells[i].char
    if c == '(' then
      run.pathStop (opened + 1) closed (i + 1)
    else if c == ')' then
      if run.isTrail i && opened ≤ closed then i else run.pathStop opened (closed + 1) (i + 1)
    else if "!\"&'*,.:;<?]_~".toList.contains c then
      if run.isTrail i then i else run.pathStop opened closed (i + 1)
    else if charClass (some c) == .blank then
      i
    else
      run.pathStop opened closed (i + 1)
  else
    i
termination_by run.cells.size - i

/-!
# Starts of urls
-/

/-- The character before `i`. -/
def charBefore? (run : Run) (i : Nat) : Option Char :=
  match i with
  | 0 => none
  | j + 1 => run.char? j

/-- The end of a url that starts with a protocol at `i`. -/
def protocolUrl? (run : Run) (i : Nat) : Option Nat :=
  if (run.charBefore? i).any Char.isAlpha then
    none
  else
    let colon := run.skipUpTo Char.isAlpha 5 i
    let name := Text.toLower (String.ofList (run.chars i colon))
    if (name == "http" || name == "https") && run.looksAt [':', '/', '/'] colon then
      let first := colon + 3
      if charClass (run.char? first) == .other && !run.sat Text.isControl first then
        (run.domainStop? false false false first).map (run.pathStop 0 0)
      else
        none
    else
      none

/-- The end of a url that starts with `www.` at `i`. -/
def wwwUrl? (run : Run) (i : Nat) : Option Nat :=
  let isW (c : Char) : Bool := c == 'w' || c == 'W'
  let allowed (c : Char) : Bool := "\t\n (*_[]~".toList.contains c
  if (run.charBefore? i).all allowed && run.skipUpTo isW 3 i == i + 3 && run.isAt (i + 3) '.' &&
      (run.char? (i + 4)).isSome then
    (run.domainStop? false false false i).map (run.pathStop 0 0)
  else
    none

/-!
# Mail addresses
-/

def isMailChar (c : Char) : Bool :=
  c.isAlphanum || c == '+' || c == '-' || c == '.' || c == '_'

/-- The first index, not before `first`, from which all characters up to `j`
satisfy `p`. -/
def backWhile (run : Run) (p : Char → Bool) (first : Nat) : Nat → Nat
  | 0 => 0
  | j + 1 => if first < j + 1 && run.sat p j then run.backWhile p first j else j + 1

/-- The end of the domain of a mail address, before `limit`, where `seen` tells
whether a dot was among it. -/
def mailDomainStop (run : Run) (limit : Nat) (slashes : Bool) : Nat → Nat → Bool → Nat × Bool
  | 0, i, seen => (i, seen)
  | fuel + 1, i, seen =>
      if limit ≤ i then
        (i, seen)
      else if run.sat (fun c => c.isAlphanum || c == '-' || c == '_') i ||
          (slashes && run.isAt i '/') then
        run.mailDomainStop limit slashes fuel (i + 1) seen
      else if run.isAt i '.' && i + 1 < limit && run.sat Char.isAlphanum (i + 1) then
        run.mailDomainStop limit slashes fuel (i + 1) true
      else
        (i, seen)

/-- The mail address around the at sign at `i`, between `first` and `limit`. -/
def mailAt? (run : Run) (first limit i : Nat) : Option MailExtent :=
  let name := run.backWhile isMailChar first i
  if name = i || (first < name && run.isAt (name - 1) '/') then
    none
  else
    let protocol :=
      if first < name && run.isAt (name - 1) ':' then
        run.backWhile Char.isAlphanum first (name - 1)
      else
        name
    let written := Text.toLower (String.ofList (run.chars protocol name))
    let isChat := written == "xmpp:"
    let known := isChat || written == "mailto:"
    let (stop, dotted) := run.mailDomainStop limit isChat (limit + 1) (i + 1) false
    if i + 1 < stop && dotted && run.sat (fun c => c.isAlpha || c == '.') (stop - 1) then
      some ⟨if known then protocol else name, stop, known⟩
    else
      none

/-- The mail addresses between `i` and `limit`, where none may start before
`first`. -/
def mails (run : Run) (limit : Nat) : Nat → Nat → Nat → List MailExtent
  | 0, _, _ => []
  | fuel + 1, first, i =>
      if limit ≤ i then
        []
      else if run.isAt i '@' then
        match run.mailAt? first limit i with
        | some mail => mail :: run.mails limit fuel mail.stop (mail.stop + 1)
        | none => run.mails limit fuel first (i + 1)
      else
        run.mails limit fuel first (i + 1)

end Run
end Markdown
end Docloom
