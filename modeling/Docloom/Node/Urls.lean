import Docloom.Error
import Docloom.Node.Basic

/-!
# Urls of a tree

Links and definitions carry urls. They are rewritten in the order of the document;
a rewriting that fails leaves everything after it as it was.
-/

namespace Docloom
namespace Node

/-- The url that a kind carries. -/
def url? : NodeKind → Option String
  | .link url _ _ => some url
  | .definition _ _ url _ => some url
  | _ => none

/-- The kind with another url, if it carries one. -/
def withUrl (url : String) : NodeKind → NodeKind
  | .link _ title style => .link url title style
  | .definition identifier label _ title => .definition identifier label url title
  | kind => kind

/-- What a url becomes; none leaves it as it is. -/
abbrev UrlRule := String → Except Error (Option String)

/-- Rewrites the url of one node. `count` is the number of urls that were rewritten
before, or the error that ended the work. -/
def rewriteKind (rule : UrlRule) (count : Except Error Nat) (kind : NodeKind) :
    NodeKind × Except Error Nat :=
  match count, url? kind with
  | .ok n, some url =>
      match rule url with
      | .ok (some url) => (withUrl url kind, .ok (n + 1))
      | .ok none => (kind, .ok n)
      | .error error => (kind, .error error)
  | count, _ => (kind, count)

mutual
def rewriteUrlsFrom (rule : UrlRule) (count : Except Error Nat) (node : Node) :
    Node × Except Error Nat :=
  match node with
  | ⟨id, kind, value, children, position⟩ =>
      let (kind, count) := rewriteKind rule count kind
      let (children, count) := rewriteUrlsOf rule count children
      (⟨id, kind, value, children, position⟩, count)

def rewriteUrlsOf (rule : UrlRule) (count : Except Error Nat) :
    List Node → List Node × Except Error Nat
  | [] => ([], count)
  | node :: nodes =>
      let (node, count) := rewriteUrlsFrom rule count node
      let (nodes, count) := rewriteUrlsOf rule count nodes
      (node :: nodes, count)
end

/-- Rewrites the urls of a tree. Returns the tree and the number of urls that were
rewritten. -/
def rewriteUrls (rule : UrlRule) (node : Node) : Node × Except Error Nat :=
  rewriteUrlsFrom rule (.ok 0) node

end Node
end Docloom
