import Docloom.File.System
import Docloom.Json.Basic
import Docloom.Json.Reader
import Docloom.Redirect.Rule

/-!
# Redirect files

The redirects of a directory stand in its file `redirects.json`. A directory without
the file has no redirects.
-/

namespace Docloom

/-- Reads a redirect. It is permanent only if it says so. -/
def RedirectSource.ofJson? (json : Json) : Option RedirectSource := do
  match ← json.fields? ["source", "destination", "permanent"] with
  | [source, destination, permanent] =>
      let source ← (← source).text?
      let destination ← (← destination).text?
      let permanent ← (permanent.map Json.bool?).getD (some false)
      pure { source, destination, permanent }
  | _ => none

namespace RedirectRule

def fileName : String := "redirects.json"

def sourcesOf? (text : String) : Option (List RedirectSource) := do
  let items ← (← Json.parse text).items?
  items.mapM RedirectSource.ofJson?

/-- Reads and compiles the redirects of a directory. -/
def load (files : FileSystem) (directory : Path) : Except Error (List RedirectRule) :=
  let path := directory.join fileName
  match files.readText path with
  | .error .notFound => .ok []
  | .error fault => .error (.file fault)
  | .ok text =>
      match sourcesOf? text with
      | some sources => sources.mapM compile
      | none => .error (.redirectsFile path.text)

end RedirectRule

/-!
# Redirect caches

A cache keeps the rules of redirect directories. A worker first looks a directory
up, then loads its rules if they are not there, and then puts them in; rules that
are there by then stay, and count for this worker as well.
-/

/-- The rules of a directory, with a number that no other list in the cache has. -/
structure SharedRules where
  number : Nat
  rules : List RedirectRule
  deriving Repr

structure RedirectCache where
  entries : List (List Path.Component × SharedRules)
  /-- The number of the next list. -/
  next : Nat
  deriving Repr

namespace RedirectCache

def empty : RedirectCache := ⟨[], 0⟩

def size (cache : RedirectCache) : Nat := cache.entries.length

def lookup (cache : RedirectCache) (directory : Path) : Option SharedRules :=
  cache.entries.lookup directory.components

/-- Puts rules in, unless the directory has some. Returns the rules of the directory
after that. -/
def insert (cache : RedirectCache) (directory : Path) (rules : List RedirectRule) :
    RedirectCache × SharedRules :=
  match cache.lookup directory with
  | some shared => (cache, shared)
  | none =>
      let shared : SharedRules := ⟨cache.next, rules⟩
      (⟨cache.entries ++ [(directory.components, shared)], cache.next + 1⟩, shared)

/-- The rules of a directory, which are loaded when they are asked for the first
time. -/
def get (cache : RedirectCache) (files : FileSystem) (directory : Path) :
    RedirectCache × Except Error SharedRules :=
  match cache.lookup directory with
  | some shared => (cache, .ok shared)
  | none =>
      match RedirectRule.load files directory with
      | .error error => (cache, .error error)
      | .ok rules =>
          let (cache, shared) := cache.insert directory rules
          (cache, .ok shared)

theorem lookup_empty (directory : Path) : empty.lookup directory = none := rfl

theorem insert_of_lookup {cache : RedirectCache} {directory : Path} {shared : SharedRules}
    (rules : List RedirectRule) (h : cache.lookup directory = some shared) :
    cache.insert directory rules = (cache, shared) := by
  simp [insert, h]

end RedirectCache

end Docloom
