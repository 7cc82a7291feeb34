import Docloom.Error
import Docloom.Yaml.Value

/-!
# Frontmatter

A document may begin with a YAML mapping between two lines `---`. Its text is kept,
so that it can be written back as it was.
-/

namespace Docloom

structure Frontmatter where
  raw : String
  entries : List (Yaml.Value × Yaml.Value)
  deriving Repr

namespace Frontmatter

/-!
# Lines
-/

/-- The lines of a text, each with the line feed that ends it. -/
def lines : List Char → List (List Char)
  | [] => []
  | c :: cs =>
      if c = '\n' then
        ['\n'] :: lines cs
      else
        match lines cs with
        | [] => [[c]]
        | line :: rest => (c :: line) :: rest

theorem flatten_lines (cs : List Char) : (lines cs).flatten = cs := by
  induction cs with
  | nil =>
      rfl
  | cons c cs ih =>
      by_cases h : c = '\n'
      · simp [lines, h, ih]
      · rw [lines, if_neg h]
        cases hl : lines cs with
        | nil =>
            rw [hl] at ih
            simp_all
        | cons line rest =>
            rw [hl] at ih
            simpa using ih

def isLineEnd (c : Char) : Bool := c == '\r' || c == '\n'

def delimiter : List Char := ['-', '-', '-']

/-- Whether a line is a delimiter, whatever ends it. -/
def isDelimiter (line : List Char) : Bool :=
  (line.reverse.dropWhile isLineEnd).reverse == delimiter

/-- What follows the delimiter at the start of a text. -/
def afterOpening? : List Char → Option (List Char)
  | '-' :: '-' :: '-' :: '\n' :: rest => some rest
  | '-' :: '-' :: '-' :: '\r' :: '\n' :: rest => some rest
  | _ => none

/-- The text before the first delimiter, and the text after it. -/
def atClosing? : List (List Char) → Option (List Char × List Char)
  | [] => none
  | line :: rest =>
      if isDelimiter line then
        some ([], rest.flatten)
      else
        (atClosing? rest).map fun parts => (line ++ parts.1, parts.2)

/-- The text between the delimiters of a document, and what follows them. -/
def cut? (source : List Char) : Option (List Char × List Char) :=
  (afterOpening? source).bind fun rest => atClosing? (lines rest)

/-!
# Reading and writing
-/

/-- The entries of the text between the delimiters, which may be empty. -/
def entriesOf (raw : String) : Except FrontmatterFault (List (Yaml.Value × Yaml.Value)) :=
  match Yaml.Value.parse? raw with
  | some .null => .ok []
  | some (.mapping entries) => .ok entries
  | some _ => .error .notAMapping
  | none => .error .malformed

/-- Cuts a document into its frontmatter and its body. Without a closing delimiter
there is no frontmatter. -/
def split (source : String) : Except Error (Option Frontmatter × String) :=
  match cut? source.toList with
  | none => .ok (none, source)
  | some (raw, rest) =>
      let raw := String.ofList raw
      match entriesOf raw with
      | .ok entries => .ok (some ⟨raw, entries⟩, String.ofList (rest.dropWhile isLineEnd))
      | .error fault => .error (.frontmatter fault)

/-- The value under a key. -/
def get? (frontmatter : Frontmatter) (key : String) : Option Yaml.Value :=
  (frontmatter.entries.find? fun entry =>
    match entry.1 with
    | .text text => text == key
    | _ => false).map Prod.snd

/-- The text of a document with this frontmatter. -/
def stringify (frontmatter : Frontmatter) (body : String) : String :=
  let raw := frontmatter.raw.toList
  let ending := if raw.isEmpty || raw.getLast? == some '\n' then [] else ['\n']
  let block := delimiter ++ '\n' :: raw ++ ending ++ delimiter ++ ['\n']
  String.ofList (if body.isEmpty then block else block ++ '\n' :: body.toList)

end Frontmatter
end Docloom
