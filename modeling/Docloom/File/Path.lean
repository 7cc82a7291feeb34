import Docloom.Text.Cut

/-!
# Paths

A path is a text of components with slashes between them. Paths of the same
components lead to the same place. Empty components, and `.` beyond the start of a
path, do not count.
-/

namespace Docloom

structure Path where
  text : String
  deriving DecidableEq, Repr

namespace Path

inductive Component where
  | root
  | current
  | parent
  | normal (name : String)
  deriving DecidableEq, Repr

/-- The start of a path, which stays with it, and what stands between the slashes
after that. -/
def parts (path : Path) : List Char × List (List Char) :=
  match path.text.toList with
  | [] => ([], [])
  | ['.'] => (['.'], [])
  | '.' :: '/' :: rest => (['.', '/'], Text.splitChars (· == '/') rest)
  | '/' :: rest => (['/'], Text.splitChars (· == '/') rest)
  | cs => ([], Text.splitChars (· == '/') cs)

def startComponents : List Char → List Component
  | '/' :: _ => [.root]
  | '.' :: _ => [.current]
  | _ => []

/-- Whether a part of a path is no component. -/
def isIdle (part : List Char) : Bool := part.isEmpty || part == ['.']

def Component.ofPart (part : List Char) : Component :=
  if part == ['.', '.'] then .parent else .normal (String.ofList part)

def components (path : Path) : List Component :=
  let (start, parts) := path.parts
  startComponents start ++ (parts.filter (!isIdle ·)).map Component.ofPart

/-- Whether two paths lead to the same place. -/
def same (a b : Path) : Bool := a.components == b.components

theorem same_self (path : Path) : path.same path = true := by
  simp [same]

def isAbsolute (path : Path) : Bool := Text.startsWith "/" path.text

/-- The path of a start and of parts after it. -/
def ofParts (start : List Char) (parts : List (List Char)) : Path :=
  match start, parts with
  | ['.', '/'], [] => ⟨"."⟩
  | start, parts => ⟨String.ofList start ++ Text.join "/" (parts.map String.ofList)⟩

/-- The parts without those at the end that are no components. -/
def dropIdleEnd (parts : List (List Char)) : List (List Char) :=
  (parts.reverse.dropWhile isIdle).reverse

/-!
# Parts of a path
-/

/-- The path of the directory. The root and the empty path are in none. -/
def parent? (path : Path) : Option Path :=
  let (start, parts) := path.parts
  match dropIdleEnd parts with
  | [] => if startComponents start == [.current] then some ⟨""⟩ else none
  | parts => some (ofParts start (dropIdleEnd parts.dropLast))

/-- The last component, if it is a name. -/
def fileName? (path : Path) : Option String :=
  match path.components.getLast? with
  | some (.normal name) => some name
  | _ => none

/-- What follows the last dot of a name. A dot at the start does not count. -/
def extensionOf (name : List Char) : Option String :=
  match name.reverse.span (· != '.') with
  | (extension, _ :: before) =>
      if before.isEmpty then none else some (String.ofList extension.reverse)
  | (_, []) => none

def extension? (path : Path) : Option String :=
  path.fileName?.bind fun name => extensionOf name.toList

/-- A path below this one. An absolute path stays as it is. -/
def join (path : Path) (below : String) : Path :=
  if Text.startsWith "/" below then
    ⟨below⟩
  else if path.text.isEmpty || Text.endsWith "/" path.text then
    ⟨path.text ++ below⟩
  else
    ⟨path.text ++ "/" ++ below⟩

/-- The parts after a number of components. -/
def dropComponents : Nat → List (List Char) → List (List Char)
  | _, [] => []
  | n, part :: parts =>
      if isIdle part then
        dropComponents n parts
      else
        match n with
        | 0 => part :: parts
        | n + 1 => dropComponents n parts

/-- What follows the components of `base`, if they are those at the start. -/
def below? (path base : Path) : Option Path :=
  let taken := base.components
  if taken.isPrefixOf path.components then
    let (start, parts) := path.parts
    if taken.isEmpty then
      some (ofParts start (dropIdleEnd parts))
    else
      let count := taken.length - (startComponents start).length
      some (ofParts [] (dropIdleEnd (dropComponents count parts)))
  else
    none

/-- The path from the root, where `current` is the directory of paths that do not
start at the root. A slash at the end stays. -/
def absolute (current path : Path) : Path :=
  let (start, parts) := path.parts
  let kept := parts.filter (!isIdle ·)
  let ending := if Text.endsWith "/" path.text then "/" else ""
  if path.isAbsolute then
    let lead := if Text.startsWith "//" path.text && !Text.startsWith "///" path.text then "//" else "/"
    let text := lead ++ Text.join "/" (kept.map String.ofList)
    ⟨if Text.endsWith "/" text then text else text ++ ending⟩
  else
    let below := kept.foldl (fun path part => path.join (String.ofList part)) current
    ⟨below.text ++ (if start.isEmpty && parts.isEmpty then "" else ending)⟩

/-!
# Order
-/

def Component.rank : Component → Nat
  | .root => 0
  | .current => 1
  | .parent => 2
  | .normal _ => 3

def Component.before : Component → Component → Bool
  | .normal a, .normal b => a < b
  | a, b => a.rank < b.rank

/-- Whether components come before others; the first that differ decide. -/
def componentsBefore : List Component → List Component → Bool
  | [], [] => false
  | [], _ :: _ => true
  | _ :: _, [] => false
  | a :: as, b :: bs => a.before b || (a == b && componentsBefore as bs)

/-- Whether a path does not come after another one. -/
def le (a b : Path) : Bool := !componentsBefore b.components a.components

end Path
end Docloom
