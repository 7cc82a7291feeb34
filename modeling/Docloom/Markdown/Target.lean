import Docloom.Markdown.Escape
import Docloom.Text.Case
import Docloom.Text.Cut

/-!
# The parts of a link

Labels in square brackets, destinations, titles, and what stands in parentheses
after the text of a link.
-/

namespace Docloom
namespace Markdown

/-- A range of a run, with the index at which reading goes on after it. -/
structure Extent where
  start : Nat
  stop : Nat
  next : Nat
  deriving Repr, DecidableEq

/-- Where a link leads. The destination is missing in `[text]()`. -/
structure Target where
  destination : Option Extent
  title : Option Extent
  next : Nat
  deriving Repr, DecidableEq

/-!
# Matching labels
-/

def isLabelBlank (c : Char) : Bool :=
  c == ' ' || c == '\t' || c == '\n' || c == '\r'

/-- The words of a label. The gap between the first two is lost when nothing
stands before the first. -/
def labelWords (label : List Char) : List Char :=
  let words := (Text.splitChars isLabelBlank label).filter (!·.isEmpty)
  let glued :=
    match words with
    | first :: second :: rest =>
        if label.head?.any isLabelBlank then words else (first ++ second) :: rest
    | _ => words
  [' '].intercalate glued

/-- The form in which two labels are compared. -/
def matchingLabel (label : String) : String :=
  Text.toUpper (Text.toLower (String.ofList (labelWords label.toList)))

/-- The name under which a label is listed. -/
def labelIdentifier (label : String) : String :=
  Text.toLower (matchingLabel label)

/-- The bytes that a label may hold. -/
def labelLimit : Nat := 999

namespace Run

/-- The index of the bracket that closes a label whose text goes on at `j`. A
label holds something other than blanks, and no bracket that is not escaped. -/
def labelStop? (run : Run) (seen : Bool) (size j : Nat) : Option Nat :=
  if h : j < run.cells.size then
    let c := run.cells[j].char
    if labelLimit < size || c == '[' then
      none
    else if c == ']' then
      if seen then some j else none
    else if c == '\n' then
      have : j + 1 ≤ run.skipSpace (j + 1) := run.le_skip Text.isSpace (j + 1)
      run.labelStop? seen size (run.skipSpace (j + 1))
    else if c == '\\' && run.sat (fun d => d == '[' || d == ']' || d == '\\') (j + 1) then
      run.labelStop? true (size + 2) (j + 2)
    else
      run.labelStop? (seen || !Text.isSpace c) (size + c.utf8Size) (j + 1)
  else
    none
termination_by run.cells.size - j

/-- The label that opens at `i`. -/
def label? (run : Run) (i : Nat) : Option Extent :=
  if run.isAt i '[' then
    (run.labelStop? false 0 (i + 1)).map fun j => ⟨i + 1, j, j + 1⟩
  else
    none

/-!
# Destinations
-/

/-- The index of the bracket that closes a destination in angle brackets. -/
def enclosedStop? (run : Run) (j : Nat) : Option Nat :=
  if h : j < run.cells.size then
    let c := run.cells[j].char
    if c == '\n' || c == '<' then
      none
    else if c == '>' then
      some j
    else if c == '\\' && run.sat (fun d => d == '<' || d == '>' || d == '\\') (j + 1) then
      run.enclosedStop? (j + 2)
    else
      run.enclosedStop? (j + 1)
  else
    none
termination_by run.cells.size - j

/-- A control character that a destination without brackets may not hold. -/
def refusesBare (c : Char) : Bool :=
  (1 ≤ c.toNat && c.toNat ≤ 32) || c.toNat == 127

/-- The end of a destination without brackets, inside `depth` parentheses that
may not grow beyond `limit`. -/
def bareStop? (run : Run) (limit : Option Nat) (depth j : Nat) : Option Nat :=
  if h : j < run.cells.size then
    let c := run.cells[j].char
    if depth == 0 && (Text.isSpace c || c == '\n' || c == ')') then
      some j
    else if c == '(' then
      if limit.all (depth < ·) then run.bareStop? limit (depth + 1) (j + 1) else none
    else if c == ')' then
      run.bareStop? limit (depth - 1) (j + 1)
    else if refusesBare c then
      none
    else if c == '\\' && run.sat (fun d => d == '(' || d == ')' || d == '\\') (j + 1) then
      run.bareStop? limit depth (j + 2)
    else
      run.bareStop? limit depth (j + 1)
  else if depth == 0 then
    some j
  else
    none
termination_by run.cells.size - j

def destination? (run : Run) (limit : Option Nat) (i : Nat) : Option Extent :=
  if run.isAt i '<' then
    (run.enclosedStop? (i + 1)).map fun j => ⟨i + 1, j, j + 1⟩
  else if run.sat (fun c => !refusesBare c && c != ')') i then
    (run.bareStop? limit 0 i).map fun j => ⟨i, j, j⟩
  else
    none

/-!
# Titles
-/

/-- The index of the character `marker` that closes a title. -/
def titleStop? (run : Run) (marker : Char) (j : Nat) : Option Nat :=
  if h : j < run.cells.size then
    let c := run.cells[j].char
    if c == marker then
      some j
    else if c == '\\' &&
        run.sat (fun d => d == '"' || d == '\'' || d == ')' || d == '\\') (j + 1) then
      run.titleStop? marker (j + 2)
    else
      run.titleStop? marker (j + 1)
  else
    none
termination_by run.cells.size - j

def title? (run : Run) (i : Nat) : Option Extent :=
  let closing : Option Char :=
    match run.char? i with
    | some '"' => some '"'
    | some '\'' => some '\''
    | some '(' => some ')'
    | _ => none
  match closing with
  | some marker => (run.titleStop? marker (i + 1)).map fun j => ⟨i + 1, j, j + 1⟩
  | none => none

/-!
# Resources
-/

/-- The parentheses that may be open in the destination of a resource. -/
def resourceDepth : Nat := 32

/-- The resource that opens at `i`: `(destination "title")`. -/
def resource? (run : Run) (i : Nat) : Option Target :=
  if !run.isAt i '(' then
    none
  else
    let start := run.skipSpaceAndLine (i + 1)
    if run.isAt start ')' then
      some ⟨none, none, start + 1⟩
    else
      match run.destination? (some resourceDepth) start with
      | none => none
      | some destination =>
          let between := run.skipSpaceAndLine destination.next
          let title := if between = destination.next then none else run.title? between
          let stop :=
            match title with
            | some title => run.skipSpaceAndLine title.next
            | none => between
          if run.isAt stop ')' then some ⟨some destination, title, stop + 1⟩ else none

end Run
end Markdown
end Docloom
