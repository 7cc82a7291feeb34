import Docloom.Link.Versioner
import Docloom.Proofs.Node.Order
import Docloom.Redirect.Rule
import Mathlib.Data.List.Forall2

/-!
# Urls that are rewritten

A rewriting changes nothing in a tree but the urls of its links and definitions.  What becomes of
them is told by the urls in document order, whatever the shape of the tree: each url is looked at
once, as it was, and the first one that fails ends the work and stays as it was, like all urls
after it.
-/

namespace Docloom

namespace Node

/-!
# The urls of a tree
-/

def urlsOf (nodes : List Node) : List String :=
  (nodesOf nodes).filterMap fun node => url? node.kind

/-- The urls of the links and definitions of a tree, in document order. -/
def urls (node : Node) : List String := urlsOf [node]

mutual
/-- The tree with an empty url in all links and definitions. -/
def withoutUrls (node : Node) : Node :=
  match node with
  | ⟨id, kind, value, children, position⟩ =>
      ⟨id, withUrl "" kind, value, withoutUrlsAll children, position⟩

def withoutUrlsAll : List Node -> List Node
  | [] => []
  | node :: nodes => withoutUrls node :: withoutUrlsAll nodes
end

theorem urlsOf_cons (node : Node) (rest : List Node) :
    urlsOf (node :: rest) =
      (url? node.kind).toList ++ (urlsOf node.children ++ urlsOf rest) := by
  rw [urlsOf, nodesOf_cons, nodes_eq, List.cons_append, List.filterMap_cons,
    List.filterMap_append]
  cases url? node.kind <;> rfl

theorem withoutUrls_eq (node : Node) :
    node.withoutUrls =
      ⟨node.id, withUrl "" node.kind, node.value, withoutUrlsAll node.children,
        node.position⟩ := by
  cases node
  rfl

theorem url?_withUrl {kind : NodeKind} {url : String} (h : url? kind = some url)
    (other : String) : url? (withUrl other kind) = some other := by
  cases kind <;> simp_all [url?, withUrl]

theorem withUrl_withUrl (kind : NodeKind) (url other : String) :
    withUrl other (withUrl url kind) = withUrl other kind := by
  cases kind <;> rfl

/-!
# One url after the other
-/

/-- Rewrites urls in a row. -/
def rewriteEach (rule : UrlRule) (count : Except Error Nat) :
    List String -> List String × Except Error Nat
  | [] => ([], count)
  | url :: urls =>
      match count with
      | .error error => (url :: urls, .error error)
      | .ok n =>
          match rule url with
          | .error error => (url :: urls, .error error)
          | .ok answer =>
              let rest := rewriteEach rule (.ok (n + answer.toList.length)) urls
              (answer.getD url :: rest.1, rest.2)

variable {rule : UrlRule} {urls results : List String} {url : String} {n : Nat} {error : Error}

theorem rewriteEach_error (rule : UrlRule) (error : Error) (urls : List String) :
    rewriteEach rule (.error error) urls = (urls, .error error) := by
  cases urls <;> rfl

theorem rewriteEach_append (rule : UrlRule) (count : Except Error Nat) (urls more : List String) :
    rewriteEach rule count (urls ++ more) =
      let first := rewriteEach rule count urls
      let second := rewriteEach rule first.2 more
      (first.1 ++ second.1, second.2) := by
  induction urls generalizing count with
  | nil =>
      rfl
  | cons url urls ih =>
      cases count with
      | error error =>
          simp [rewriteEach_error]
      | ok n =>
          cases hrule : rule url with
          | error error =>
              simp [rewriteEach, hrule, rewriteEach_error]
          | ok answer =>
              simp [rewriteEach, hrule, ih]

/-- What becomes of a kind is told by its url. -/
theorem rewriteKind_spec (rule : UrlRule) (count : Except Error Nat) (kind : NodeKind) :
    withUrl "" (rewriteKind rule count kind).1 = withUrl "" kind ∧
      (url? (rewriteKind rule count kind).1).toList =
        (rewriteEach rule count (url? kind).toList).1 ∧
      (rewriteKind rule count kind).2 = (rewriteEach rule count (url? kind).toList).2 := by
  cases count with
  | error error =>
      rw [rewriteEach_error]
      exact ⟨rfl, rfl, rfl⟩
  | ok n =>
      cases hurl : url? kind with
      | none =>
          simp [rewriteKind, hurl, rewriteEach]
      | some url =>
          cases hrule : rule url with
          | error error =>
              simp [rewriteKind, hurl, hrule, rewriteEach]
          | ok answer =>
              cases answer with
              | none =>
                  simp [rewriteKind, hurl, hrule, rewriteEach]
              | some other =>
                  simp [rewriteKind, hurl, hrule, rewriteEach, withUrl_withUrl,
                    url?_withUrl hurl other]

theorem rewriteUrlsOf_cons (rule : UrlRule) (count : Except Error Nat) (node : Node)
    (rest : List Node) :
    rewriteUrlsOf rule count (node :: rest) =
      let written := rewriteKind rule count node.kind
      let inside := rewriteUrlsOf rule written.2 node.children
      let after := rewriteUrlsOf rule inside.2 rest
      ({ node with kind := written.1, children := inside.1 } :: after.1, after.2) := by
  cases node
  rw [rewriteUrlsOf, rewriteUrlsFrom]

theorem rewriteUrlsOf_singleton (rule : UrlRule) (count : Except Error Nat) (node : Node) :
    rewriteUrlsOf rule count [node] =
      ([(rewriteUrlsFrom rule count node).1], (rewriteUrlsFrom rule count node).2) := by
  cases node
  rfl

/-- A rewriting leaves the trees as they are but for their urls, and does to them what it does to
the urls in a row. -/
theorem rewriteUrlsOf_spec (rule : UrlRule) (count : Except Error Nat) (nodes : List Node) :
    withoutUrlsAll (rewriteUrlsOf rule count nodes).1 = withoutUrlsAll nodes ∧
      urlsOf (rewriteUrlsOf rule count nodes).1 = (rewriteEach rule count (urlsOf nodes)).1 ∧
      (rewriteUrlsOf rule count nodes).2 = (rewriteEach rule count (urlsOf nodes)).2 := by
  induction nodes using forest_induction generalizing count with
  | nil =>
      exact ⟨rfl, rfl, rfl⟩
  | cons node rest ihChildren ihRest =>
      rcases rewriteKind_spec rule count node.kind with ⟨hkind, hurl, hwritten⟩
      rcases ihChildren (rewriteKind rule count node.kind).2 with ⟨hchildren, hbelow, hinside⟩
      rcases ihRest (rewriteUrlsOf rule (rewriteKind rule count node.kind).2 node.children).2
        with ⟨hrest, hafter, hend⟩
      rw [rewriteUrlsOf_cons, urlsOf_cons node, rewriteEach_append]
      dsimp only
      rw [rewriteEach_append]
      dsimp only
      refine ⟨?_, ?_, ?_⟩
      · rw [withoutUrlsAll, withoutUrlsAll, withoutUrls_eq, withoutUrls_eq, hkind, hchildren,
          hrest]
      · rw [urlsOf_cons, hurl, hbelow, hafter, hinside, hwritten]
      · rw [hend, hinside, hwritten]

theorem withoutUrls_rewriteUrls (rule : UrlRule) (node : Node) :
    (node.rewriteUrls rule).1.withoutUrls = node.withoutUrls := by
  have h := (rewriteUrlsOf_spec rule (.ok 0) [node]).1
  rw [rewriteUrlsOf_singleton] at h
  exact (List.cons.inj h).1

theorem urls_rewriteUrls (rule : UrlRule) (node : Node) :
    (node.rewriteUrls rule).1.urls = (rewriteEach rule (.ok 0) node.urls).1 := by
  have h := (rewriteUrlsOf_spec rule (.ok 0) [node]).2.1
  rw [rewriteUrlsOf_singleton] at h
  exact h

theorem count_rewriteUrls (rule : UrlRule) (node : Node) :
    (node.rewriteUrls rule).2 = (rewriteEach rule (.ok 0) node.urls).2 := by
  have h := (rewriteUrlsOf_spec rule (.ok 0) [node]).2.2
  rw [rewriteUrlsOf_singleton] at h
  exact h

/-!
# What becomes of urls
-/

/-- Whether the rule leaves a result for a url. -/
def Becomes (rule : UrlRule) (url result : String) : Prop :=
  exists answer, rule url = .ok answer ∧ result = answer.getD url

/-- Whether the rule has another url for a url. -/
def isRewritten (rule : UrlRule) (url : String) : Bool :=
  match rule url with
  | .ok (some _) => true
  | _ => false

/-- Either no url fails, or the urls before the first that fails are rewritten. -/
theorem rewriteEach_cases (rule : UrlRule) (n : Nat) (urls : List String) :
    (List.Forall₂ (Becomes rule) urls (rewriteEach rule (.ok n) urls).1 ∧
        (rewriteEach rule (.ok n) urls).2 = .ok (n + urls.countP (isRewritten rule))) ∨
      exists before results url after error, urls = before ++ url :: after ∧
        List.Forall₂ (Becomes rule) before results ∧ rule url = .error error ∧
        rewriteEach rule (.ok n) urls = (results ++ url :: after, .error error) := by
  induction urls generalizing n with
  | nil =>
      exact Or.inl ⟨.nil, rfl⟩
  | cons url urls ih =>
      cases hrule : rule url with
      | error error =>
          exact Or.inr ⟨[], [], url, urls, error, rfl, .nil, hrule, by simp [rewriteEach, hrule]⟩
      | ok answer =>
          have hbecomes : Becomes rule url (answer.getD url) := ⟨answer, hrule, rfl⟩
          have hcount : answer.toList.length = if isRewritten rule url then 1 else 0 := by
            cases answer <;> simp [isRewritten, hrule]
          rcases ih (n + answer.toList.length) with ⟨hrest, hok⟩ |
            ⟨before, results, other, after, error, rfl, hbefore, hother, hrest⟩
          · left
            simp only [rewriteEach, hrule]
            refine ⟨.cons hbecomes hrest, ?_⟩
            rw [hok, hcount, List.countP_cons]
            congr 1
            omega
          · right
            refine ⟨url :: before, answer.getD url :: results, other, after, error, rfl,
              .cons hbecomes hbefore, hother, ?_⟩
            simp [rewriteEach, hrule, hrest]

/-- A rule that cannot fail rewrites all urls. -/
theorem rewriteEach_of_total {rewrite : String -> Option String}
    (h : forall url, rule url = .ok (rewrite url)) (n : Nat) (urls : List String) :
    rewriteEach rule (.ok n) urls =
      (urls.map fun url => (rewrite url).getD url,
        .ok (n + urls.countP fun url => (rewrite url).isSome)) := by
  induction urls generalizing n with
  | nil =>
      rfl
  | cons url urls ih =>
      rw [rewriteEach]
      dsimp only
      rw [h url]
      dsimp only
      rw [ih, List.map_cons, List.countP_cons]
      cases rewrite url with
      | none =>
          simp
      | some other =>
          simp [Nat.add_assoc, Nat.add_comm 1]

end Node

namespace RedirectRule

/-!
# Urls that are redirected
-/

variable {rules : List RedirectRule} {url result : String} {error : Error}

/-- Whether a rule is the first of the rules that a url matches. -/
def FirstMatch (rules : List RedirectRule) (url : String) (rule : RedirectRule) : Prop :=
  exists earlier later, rules = earlier ++ rule :: later ∧
    (forall other, other ∈ earlier -> other.values? url = none) ∧
    (rule.values? url).isSome = true

/-- Whether redirection leaves a result for a url: only urls that start at the root are
redirected, and only by the first rule that they match. -/
inductive Redirected (rules : List RedirectRule) : String -> String -> Prop where
  | elsewhere {url : String} (hroot : Text.startsWith "/" url = false) : Redirected rules url url
  | unmatched {url : String} (hroot : Text.startsWith "/" url = true)
      (hnone : forall rule, rule ∈ rules -> rule.values? url = none) : Redirected rules url url
  | matched {url result : String} {rule : RedirectRule} (hroot : Text.startsWith "/" url = true)
      (hfirst : FirstMatch rules url rule) (hresolve : rule.resolve url = .ok (some result)) :
      Redirected rules url result

/-- Whether the redirection of a url fails: the first rule that it matches cannot resolve it. -/
def Fails (rules : List RedirectRule) (url : String) (error : Error) : Prop :=
  Text.startsWith "/" url = true ∧
    exists rule, FirstMatch rules url rule ∧ rule.resolve url = .error error

/-- Whether a url starts at the root and matches some rule. -/
def isMatched (rules : List RedirectRule) (url : String) : Bool :=
  Text.startsWith "/" url && rules.any fun rule => (rule.values? url).isSome

/-- What redirection makes of urls in document order, and what it reports: the number of urls that
matched, or the first failure, behind which all is left as it was. -/
inductive Redirection (rules : List RedirectRule) :
    List String -> List String -> Except Error Nat -> Prop where
  | done {urls results : List String} (h : List.Forall₂ (Redirected rules) urls results) :
      Redirection rules urls results (.ok (urls.countP (isMatched rules)))
  | failed {before results after : List String} {url : String} {error : Error}
      (h : List.Forall₂ (Redirected rules) before results) (hfails : Fails rules url error) :
      Redirection rules (before ++ url :: after) (results ++ url :: after) (.error error)

theorem resolve_of_unmatched {rule : RedirectRule} (h : rule.values? url = none) :
    rule.resolve url = .ok none := by
  rw [resolve, h]

/-- A rule that matches leads somewhere or fails. -/
theorem resolve_of_matched {rule : RedirectRule} (h : (rule.values? url).isSome = true) :
    (exists result, rule.resolve url = .ok (some result)) ∨
      exists error, rule.resolve url = .error error := by
  rcases Option.isSome_iff_exists.mp h with ⟨values, hvalues⟩
  rw [resolve, hvalues]
  dsimp only
  cases rule.destination.render values with
  | error error =>
      exact Or.inr ⟨error, rfl⟩
  | ok result =>
      exact Or.inl ⟨result, rfl⟩

/-- The first rule that matches decides. -/
theorem resolveFirst_of_firstMatch {rule : RedirectRule} (h : FirstMatch rules url rule) :
    resolveFirst rules url = rule.resolve url := by
  rcases h with ⟨earlier, later, rfl, hearlier, hmatch⟩
  induction earlier with
  | nil =>
      rw [List.nil_append, resolveFirst]
      rcases resolve_of_matched hmatch with ⟨result, hresolve⟩ | ⟨error, hresolve⟩ <;>
        rw [hresolve]
  | cons first earlier ih =>
      rw [List.cons_append, resolveFirst_cons_none _
        (resolve_of_unmatched (hearlier first List.mem_cons_self))]
      exact ih fun other hother => hearlier other (List.mem_cons_of_mem _ hother)

theorem resolveFirst_of_unmatched (h : forall rule, rule ∈ rules -> rule.values? url = none) :
    resolveFirst rules url = .ok none := by
  induction rules with
  | nil =>
      rfl
  | cons rule rules ih =>
      rw [resolveFirst_cons_none _ (resolve_of_unmatched (h rule List.mem_cons_self))]
      exact ih fun other hother => h other (List.mem_cons_of_mem _ hother)

/-- Some rule is the first that matches, or none matches. -/
theorem exists_firstMatch (rules : List RedirectRule) (url : String) :
    (exists rule, FirstMatch rules url rule) ∨
      forall rule, rule ∈ rules -> rule.values? url = none := by
  induction rules with
  | nil =>
      exact Or.inr fun rule hrule => absurd hrule List.not_mem_nil
  | cons first rules ih =>
      cases hvalues : first.values? url with
      | some values =>
          exact Or.inl ⟨first, [], rules, rfl, by simp, by rw [hvalues]; rfl⟩
      | none =>
          rcases ih with ⟨rule, earlier, later, rfl, hearlier, hmatch⟩ | hnone
          · refine Or.inl ⟨rule, first :: earlier, later, rfl, ?_, hmatch⟩
            intro other hother
            rcases List.mem_cons.mp hother with rfl | hmem
            · exact hvalues
            · exact hearlier other hmem
          · right
            intro rule hrule
            rcases List.mem_cons.mp hrule with rfl | hmem
            · exact hvalues
            · exact hnone rule hmem

theorem FirstMatch.any {rule : RedirectRule} (h : FirstMatch rules url rule) :
    (rules.any fun rule => (rule.values? url).isSome) = true := by
  rcases h with ⟨earlier, later, rfl, _, hmatch⟩
  exact List.any_eq_true.mpr ⟨rule, by simp, hmatch⟩

/-- The three ways in which the rule for urls can end. -/
theorem urlRule_cases (rules : List RedirectRule) (url : String) :
    (urlRule rules url = .ok none ∧ isMatched rules url = false ∧ Redirected rules url url) ∨
      (exists result, urlRule rules url = .ok (some result) ∧ isMatched rules url = true ∧
        Redirected rules url result) ∨
      exists error, urlRule rules url = .error error ∧ Fails rules url error := by
  unfold urlRule isMatched
  cases hroot : Text.startsWith "/" url with
  | false =>
      exact Or.inl ⟨rfl, rfl, .elsewhere hroot⟩
  | true =>
      rw [if_pos rfl, Bool.true_and]
      rcases exists_firstMatch rules url with ⟨rule, hfirst⟩ | hnone
      · rw [resolveFirst_of_firstMatch hfirst, hfirst.any]
        have hmatch := hfirst
        rcases hmatch with ⟨_, _, _, _, hmatch⟩
        rcases resolve_of_matched hmatch with ⟨result, hresolve⟩ | ⟨error, hresolve⟩
        · exact Or.inr (Or.inl ⟨result, hresolve, rfl, .matched hroot hfirst hresolve⟩)
        · exact Or.inr (Or.inr ⟨error, hresolve, hroot, rule, hfirst, hresolve⟩)
      · refine Or.inl ⟨resolveFirst_of_unmatched hnone, ?_, .unmatched hroot hnone⟩
        rw [List.any_eq_false]
        intro rule hrule
        rw [hnone rule hrule]
        simp

theorem redirected_of_becomes (h : Node.Becomes (urlRule rules) url result) :
    Redirected rules url result := by
  rcases h with ⟨answer, hanswer, rfl⟩
  rcases urlRule_cases rules url with ⟨hrule, _, h⟩ | ⟨other, hrule, _, h⟩ | ⟨error, hrule, _⟩
  · cases hrule.symm.trans hanswer
    exact h
  · cases hrule.symm.trans hanswer
    exact h
  · cases hrule.symm.trans hanswer

theorem fails_of_error (h : urlRule rules url = .error error) : Fails rules url error := by
  rcases urlRule_cases rules url with ⟨hrule, _, _⟩ | ⟨other, hrule, _, _⟩ | ⟨other, hrule, hfails⟩
  · cases hrule.symm.trans h
  · cases hrule.symm.trans h
  · cases hrule.symm.trans h
    exact hfails

/-- A url that becomes something is counted if it matches some rule. -/
theorem isRewritten_eq_isMatched (h : Node.Becomes (urlRule rules) url result) :
    Node.isRewritten (urlRule rules) url = isMatched rules url := by
  rcases h with ⟨answer, hanswer, _⟩
  rcases urlRule_cases rules url with ⟨hrule, hmatched, _⟩ | ⟨other, hrule, hmatched, _⟩ |
    ⟨error, hrule, _⟩
  · rw [Node.isRewritten, hrule, hmatched]
  · rw [Node.isRewritten, hrule, hmatched]
  · cases hrule.symm.trans hanswer

theorem countP_eq_of_becomes {urls results : List String}
    (h : List.Forall₂ (Node.Becomes (urlRule rules)) urls results) :
    urls.countP (Node.isRewritten (urlRule rules)) = urls.countP (isMatched rules) := by
  induction h with
  | nil =>
      rfl
  | cons hfirst hrest ih =>
      rw [List.countP_cons, List.countP_cons, ih, isRewritten_eq_isMatched hfirst]

theorem redirection_rewriteEach (rules : List RedirectRule) (urls : List String) :
    Redirection rules urls (Node.rewriteEach (urlRule rules) (.ok 0) urls).1
      (Node.rewriteEach (urlRule rules) (.ok 0) urls).2 := by
  rcases Node.rewriteEach_cases (urlRule rules) 0 urls with ⟨hbecomes, hcount⟩ |
    ⟨before, results, url, after, error, rfl, hbecomes, herror, heach⟩
  · rw [hcount, Nat.zero_add, countP_eq_of_becomes hbecomes]
    exact .done (hbecomes.imp fun _ _ => redirected_of_becomes)
  · rw [heach]
    exact .failed (hbecomes.imp fun _ _ => redirected_of_becomes) (fails_of_error herror)

end RedirectRule

namespace Node

/-- Redirection and versioning change nothing in a tree but the urls of its links and definitions.
Each url that starts at the root becomes what the first rule that it matches resolves it to, or
stays as it was, and those that match are counted; where one fails, it and all urls after it stay
as they were.  Each url becomes what the versioner rewrites it to, if it does, and these are
counted. -/
theorem rewriteUrls_exact (node : Node) (rules : List RedirectRule) (versioner : LinkVersioner) :
    (node.rewriteUrls (RedirectRule.urlRule rules)).1.withoutUrls = node.withoutUrls ∧
      RedirectRule.Redirection rules node.urls
        (node.rewriteUrls (RedirectRule.urlRule rules)).1.urls
        (node.rewriteUrls (RedirectRule.urlRule rules)).2 ∧
      (node.rewriteUrls versioner.rule).1.withoutUrls = node.withoutUrls ∧
      (node.rewriteUrls versioner.rule).1.urls =
        node.urls.map (fun url => (versioner.rewrite url).getD url) ∧
      (node.rewriteUrls versioner.rule).2 =
        .ok (node.urls.countP fun url => (versioner.rewrite url).isSome) := by
  have hredirection := RedirectRule.redirection_rewriteEach rules node.urls
  rw [← urls_rewriteUrls, ← count_rewriteUrls] at hredirection
  have htotal : forall url, versioner.rule url = .ok (versioner.rewrite url) := fun _ => rfl
  have hversioned := rewriteEach_of_total htotal 0 node.urls
  refine ⟨withoutUrls_rewriteUrls _ node, hredirection, withoutUrls_rewriteUrls _ node, ?_, ?_⟩
  · rw [urls_rewriteUrls, hversioned]
  · rw [count_rewriteUrls, hversioned, Nat.zero_add]

end Node

end Docloom
