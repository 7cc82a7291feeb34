import Docloom.Node.Urls
import Docloom.Redirect.Expression
import Docloom.Url.Basic

/-!
# Redirects

A redirect leads urls that match its source to its destination. The destination may
use the parameters of the source.
-/

namespace Docloom

/-- A redirect as it is written. -/
structure RedirectSource where
  source : String
  destination : String
  permanent : Bool := false
  deriving DecidableEq, Repr

inductive Destination where
  /-- A url without parameters. -/
  | fixed (url : String)
  | path (pattern : PathPattern)
  /-- A url whose path has parameters. -/
  | external (base : Url) (path : PathPattern)
  deriving DecidableEq, Repr

structure RedirectRule where
  source : PathPattern
  matcher : Regex
  destination : Destination
  permanent : Bool
  deriving Repr

namespace Destination

/-- Reads a destination. Only paths and urls with `/:` in them have parameters. -/
def parse (text : String) : Except Error Destination :=
  if Text.startsWith "/" text then
    (PathPattern.parse text).map .path
  else if Text.contains "/:" text then
    match Url.parse? text with
    | some base => (PathPattern.parse base.path).map (.external base)
    | none => .error (.invalidRedirect text .malformed)
  else
    .ok (.fixed text)

/-- The parameters that must have a value. -/
def requiredNames : Destination → List String
  | .fixed _ => []
  | .path pattern => pattern.requiredNames
  | .external _ pattern => pattern.requiredNames

def render (values : PathPattern.Values) : Destination → Except Error String
  | .fixed url => .ok url
  | .path pattern => pattern.render values
  | .external base pattern => (pattern.render values).map fun path => (base.withPath path).text

end Destination

namespace RedirectRule

def compile (redirect : RedirectSource) : Except Error RedirectRule := do
  let source ← PathPattern.parse redirect.source
  let matcher ←
    match source.regex? with
    | some regex => pure regex
    | none => throw (.invalidRedirect redirect.source .malformed)
  let destination ← Destination.parse redirect.destination
  match destination.requiredNames.find? fun name => !source.names.contains name with
  | some name =>
      throw (.invalidRedirect redirect.destination (.notInSource name redirect.source))
  | none => pure ⟨source, matcher, destination, redirect.permanent⟩

/-- The values of names whose groups, numbered from `index` on, took part in a
match. -/
def valuesFrom (groups : List (Nat × String)) (index : Nat) : List String → List (String × String)
  | [] => []
  | name :: names =>
      match groups.lookup index with
      | some value => (name, value) :: valuesFrom groups (index + 1) names
      | none => valuesFrom groups (index + 1) names

/-- The values of the parameters, if the url matches. -/
def values? (rule : RedirectRule) (url : String) : Option PathPattern.Values :=
  (rule.matcher.search? url).map fun groups =>
    Catalog.ofList (valuesFrom groups 1 rule.source.names)

/-- Where the url leads; none if it does not match. -/
def resolve (rule : RedirectRule) (url : String) : Except Error (Option String) :=
  match rule.values? url with
  | some values => (rule.destination.render values).map some
  | none => .ok none

/-- Where the first rule that matches leads to. -/
def resolveFirst (rules : List RedirectRule) (url : String) : Except Error (Option String) :=
  match rules with
  | [] => .ok none
  | rule :: rules =>
      match rule.resolve url with
      | .ok none => resolveFirst rules url
      | result => result

/-- Redirects urls that start at the root. -/
def urlRule (rules : List RedirectRule) : Node.UrlRule := fun url =>
  if Text.startsWith "/" url then resolveFirst rules url else .ok none

theorem resolveFirst_nil (url : String) : resolveFirst [] url = .ok none := rfl

theorem resolveFirst_cons_none {rule : RedirectRule} {url : String} (rules : List RedirectRule)
    (h : rule.resolve url = .ok none) :
    resolveFirst (rule :: rules) url = resolveFirst rules url := by
  simp [resolveFirst, h]

end RedirectRule
end Docloom
