import Docloom.Proofs.Directive.Parallel
import Docloom.Proofs.Node.Urls
import Docloom.Proofs.Partials.Literals
import Docloom.Proofs.Site.Identity
import Docloom.Site.Transform

/-!
# Literal text behind the expansion

No stage looks at the text of a literal block that a file stands in.  Such a block has no
position, so it is no marker; it is no paragraph; and it carries no url.  What the stages find and
count is the same whatever is in these files, and they leave trees that differ in nothing else.
-/

namespace Docloom

open Node

variable {files other : FileSystem} {nodes others : List Node}

/-!
# Labels
-/

namespace Inert

variable {label last : Label}

theorem id_eq (h : Inert files other label last) : last.id = label.id := by
  cases h <;> rfl

theorem kind_eq (h : Inert files other label last) : last.kind = label.kind := by
  cases h <;> rfl

theorem marker?_eq {node tree : Node} (h : Inert files other node.label tree.label) :
    tree.marker? = node.marker? := by
  cases node
  cases tree
  cases h <;> rfl

theorem rewriteKind (h : Inert files other label last) (rule : UrlRule)
    (count : Except Error Nat) :
    Inert files other { label with kind := (Node.rewriteKind rule count label.kind).1 }
      { last with kind := (Node.rewriteKind rule count label.kind).1 } := by
  cases h with
  | same =>
      exact .same _
  | literal id hplain hread hother =>
      cases count with
      | error error =>
          exact .literal id hplain hread hother
      | ok count =>
          exact .literal id hplain hread hother

end Inert

/-!
# Directives
-/

namespace Exclusion

variable {root tree : Node}

theorem directiveBlocks_inert (h : Parallel (Inert files other) [root] [tree]) :
    tree.directiveBlocks = root.directiveBlocks := by
  have hmarkers : List.Forall₂ Eq (root.nodes.filterMap marker?)
      (tree.nodes.filterMap marker?) := by
    rw [← nodesOf_singleton root, ← nodesOf_singleton tree]
    apply List.rel_filterMap _ h.forall₂_nodesOf
    intro node last hlabel
    rw [hlabel.marker?_eq]
    cases node.marker? with
    | none =>
        exact .none
    | some marker =>
        exact .some rfl
  rw [List.forall₂_eq_eq_eq] at hmarkers
  rw [directiveBlocks, directiveBlocks, markers, markers, hmarkers]

theorem corresponds_inert (audience : Audience) (block : DirectiveBlock) :
    Corresponds audience (Inert files other) Eq block block where
  names := by
    intro label last hlabel
    rw [hlabel.id_eq]
    exact ⟨Iff.rfl, Iff.rfl⟩
  verdicts := .refl _
  detached := rfl

theorem apply_inert (audience : Audience) (config : ProductConfig)
    (h : Parallel (Inert files other) [root] [tree]) :
    Beside (Inert files other) (apply audience config root) (apply audience config tree) := by
  have hblocks : Agree Eq (List.Forall₂ (Corresponds audience (Inert files other) Eq))
      root.directiveBlocks tree.directiveBlocks := by
    rw [directiveBlocks_inert h]
    cases root.directiveBlocks with
    | error error =>
        exact .error rfl
    | ok blocks =>
        exact .ok (List.forall₂_same.mpr fun block _ => corresponds_inert audience block)
  have hexclusion : forall first second : Error, first = second ->
      Error.contentExclusion audience.file first = .contentExclusion audience.file second :=
    fun _ _ heq => congrArg _ heq
  rcases apply_parallel config h hblocks hexclusion with ⟨herror, hparallel⟩
  exact ⟨eq_of_rel herror, hparallel⟩

end Exclusion

/-!
# Alerts
-/

namespace Alert

/-- The text that begins an alert is no literal block, and neither is anything that is put around
the alert. -/
theorem take?_inert (h : Parallel (Inert files other) nodes others) :
    Option.Rel
      (fun first second =>
        second.1 = first.1 ∧ Parallel (Inert files other) first.2 second.2)
      (take? nodes) (take? others) := by
  cases h with
  | nil =>
      exact .none
  | @cons first second rest further hlabel hchildren hrest =>
      cases first with
      | mk id kind value children position =>
          cases second
          cases hlabel with
          | same =>
              cases kind with
              | text source =>
                  cases value with
                  | none =>
                      exact .none
                  | some value =>
                      rw [take?, take?]
                      cases AlertKind.ofText? value with
                      | none =>
                          exact .none
                      | some found =>
                          exact .some ⟨rfl, .cons (.same _) hchildren hrest⟩
              | _ =>
                  exact .none
          | literal =>
              exact .none

/-- Whether the results of wrapping alerts are alike. -/
structure Outcome.Beside (alike : Label -> Label -> Prop) (first second : Outcome) : Prop where
  nodes : Parallel alike first.nodes second.nodes
  next : second.next = first.next
  count : second.count = first.count

theorem wrapNode_paragraph_inert {first second : Node}
    (hlabel : Inert files other first.label second.label)
    (hchildren : Parallel (Inert files other) first.children second.children)
    (hfirst : first.kind = .paragraph) (next : Nat) :
    (wrapNode next first).Beside (Inert files other) (wrapNode next second) := by
  have hsecond : second.kind = .paragraph := hlabel.kind_eq.trans hfirst
  have htake := take?_inert hchildren
  generalize htaken : take? first.children = taken at htake
  generalize hretaken : take? second.children = retaken at htake
  cases htake with
  | none =>
      rw [wrapNode_of_plain next hfirst htaken, wrapNode_of_plain next hsecond hretaken]
      exact ⟨.cons hlabel hchildren .nil, rfl, rfl⟩
  | @some taken retaken hsame =>
      rcases taken with ⟨alert, left⟩
      rcases retaken with ⟨_, remaining⟩
      rcases hsame with ⟨rfl, hleft⟩
      rw [wrapNode_of_alert next hfirst htaken, wrapNode_of_alert next hsecond hretaken]
      exact ⟨.cons (.same _) .nil (.cons hlabel hleft (.refl .same _)), rfl, rfl⟩

theorem wrapNodes_inert (h : Parallel (Inert files other) nodes others) (next : Nat) :
    (wrapNodes next nodes).Beside (Inert files other) (wrapNodes next others) := by
  induction h generalizing next with
  | nil =>
      rw [wrapNodes]
      exact ⟨.nil, rfl, rfl⟩
  | @cons first second rest further hlabel hchildren hrest ihChildren ihRest =>
      have hnode : (wrapNode next first).Beside (Inert files other) (wrapNode next second) := by
        have hkind : second.kind = first.kind := hlabel.kind_eq
        by_cases hparagraph : first.kind = .paragraph
        · exact wrapNode_paragraph_inert hlabel hchildren hparagraph next
        · have hinside := ihChildren next
          rw [wrapNode_of_kind_ne next hparagraph,
            wrapNode_of_kind_ne next (by rw [hkind]; exact hparagraph)]
          exact ⟨.cons hlabel hinside.nodes .nil, hinside.next, hinside.count⟩
      have hafter := ihRest (wrapNode next first).next
      rw [wrapNodes_cons, wrapNodes_cons, hnode.next]
      exact ⟨hnode.nodes.append hafter.nodes, hafter.next,
        congrArg₂ (· + ·) hnode.count hafter.count⟩

theorem wrap_inert {root tree : Node} (h : Parallel (Inert files other) [root] [tree])
    (next : Nat) : Beside (Inert files other) (wrap next root) (wrap next tree) := by
  rcases Parallel.singleton_iff.mp h with ⟨hlabel, hchildren⟩
  have hinside := wrapNodes_inert hchildren next
  exact ⟨Prod.ext hinside.next hinside.count, .cons hlabel hinside.nodes .nil⟩

end Alert

/-!
# Urls
-/

namespace Node

theorem rewriteUrlsOf_inert (rule : UrlRule) (h : Parallel (Inert files other) nodes others)
    (count : Except Error Nat) :
    (rewriteUrlsOf rule count others).2 = (rewriteUrlsOf rule count nodes).2 ∧
      Parallel (Inert files other) (rewriteUrlsOf rule count nodes).1
        (rewriteUrlsOf rule count others).1 := by
  induction h generalizing count with
  | nil =>
      rw [rewriteUrlsOf]
      exact ⟨rfl, .nil⟩
  | @cons first second rest further hlabel hchildren hrest ihChildren ihRest =>
      have hkind : second.kind = first.kind := hlabel.kind_eq
      have hwritten := hlabel.rewriteKind rule count
      rcases ihChildren (rewriteKind rule count first.kind).2 with ⟨hcount, hinside⟩
      rcases ihRest (rewriteUrlsOf rule (rewriteKind rule count first.kind).2 first.children).2
        with ⟨hend, hafter⟩
      rw [rewriteUrlsOf_cons, rewriteUrlsOf_cons]
      dsimp only
      rw [hkind, hcount]
      exact ⟨hend, .cons hwritten hinside hafter⟩

theorem rewriteUrls_inert (rule : UrlRule) {root tree : Node}
    (h : Parallel (Inert files other) [root] [tree]) :
    Beside (Inert files other) (root.rewriteUrls rule) (tree.rewriteUrls rule) := by
  have hof := rewriteUrlsOf_inert rule h (.ok 0)
  rw [rewriteUrlsOf, rewriteUrlsOf] at hof
  exact hof

end Node

/-!
# Stages
-/

namespace Site

/-- What the stages behind the expansion find and leave, one after the other. -/
structure Stages where
  blocks : Except Error (List DirectiveBlock)
  excluded : Node × Option Error
  wrapped : Node × Nat × Nat
  redirected : Node × Except Error Nat
  versioned : Node × Except Error Nat

/-- The stages behind the expansion of a tree, where `next` is the first free id. -/
def stages (audience : Audience) (config : ProductConfig) (rules : List RedirectRule)
    (versioner : LinkVersioner) (next : Nat) (root : Node) : Stages :=
  let excluded := Exclusion.apply audience config root
  let wrapped := Alert.wrap next excluded.1
  let redirected := wrapped.1.rewriteUrls (RedirectRule.urlRule rules)
  { blocks := root.directiveBlocks, excluded, wrapped, redirected
    versioned := redirected.1.rewriteUrls versioner.rule }

/-- Whether each stage finds the same and leaves trees that are alike. -/
structure Stages.Beside (alike : Label -> Label -> Prop) (first second : Stages) : Prop where
  blocks : second.blocks = first.blocks
  excluded : Node.Beside alike first.excluded second.excluded
  wrapped : Node.Beside alike first.wrapped second.wrapped
  redirected : Node.Beside alike first.redirected second.redirected
  versioned : Node.Beside alike first.versioned second.versioned

theorem stages_inert {root tree : Node} (h : Parallel (Inert files other) [root] [tree])
    (audience : Audience) (config : ProductConfig) (rules : List RedirectRule)
    (versioner : LinkVersioner) (next : Nat) :
    (stages audience config rules versioner next root).Beside (Inert files other)
      (stages audience config rules versioner next tree) := by
  have hexcluded := Exclusion.apply_inert audience config h
  have hwrapped := Alert.wrap_inert hexcluded.2 next
  have hredirected := rewriteUrls_inert (RedirectRule.urlRule rules) hwrapped.2
  have hversioned := rewriteUrls_inert versioner.rule hredirected.2
  exact ⟨Exclusion.directiveBlocks_inert h, hexcluded, hwrapped, hredirected, hversioned⟩

/-!
# Documents
-/

theorem excluded_inert (site : Site) (document : Document) (config : ProductConfig)
    {root tree : Node} (h : Parallel (Inert files other) [root] [tree]) :
    Agree Eq (fun left rest => Parallel (Inert files other) [left] [rest])
      (site.excluded document config root) (site.excluded document config tree) := by
  unfold excluded
  split
  · exact .ok h
  · have hexcluded := Exclusion.apply_inert
      ⟨document.file.text, document.product, document.version⟩ config h
    dsimp only
    generalize Exclusion.apply _ config root = first at hexcluded
    generalize Exclusion.apply _ config tree = second at hexcluded
    rcases first with ⟨left, _⟩
    rcases second with ⟨rest, error⟩
    rcases hexcluded with ⟨rfl, hleft⟩
    cases error with
    | none =>
        exact .ok hleft
    | some error =>
        exact .error rfl

/-- The tree of a body, or what goes wrong with it, is the same but for the values of literal
blocks. -/
theorem content_inert (h : FileSystem.DiffersInLiterals files other) (site : Site)
    (document : Document) (config : ProductConfig) (body : String) :
    Agree Eq (fun root tree => Parallel (Inert files other) [root] [tree])
      (site.content files document config body) (site.content other document config body) := by
  unfold content
  apply (Partials.expand_inert h document.file document.partialsDir _ _).bind
  intro first second hbeside
  dsimp only
  rw [hbeside.1]
  apply (excluded_inert site document config hbeside.2).bind
  intro left rest hleft
  exact .ok (Alert.wrap_inert hleft first.2).2

/-- Which urls are rewritten, and to what, does not depend on the values of literal blocks. -/
theorem linked_inert (site : Site) (document : Document) (config : ProductConfig)
    (rules : List RedirectRule) {root tree : Node}
    (h : Parallel (Inert files other) [root] [tree]) :
    Agree Eq (fun left rest => Parallel (Inert files other) [left] [rest])
      (site.linked document config rules root) (site.linked document config rules tree) := by
  unfold linked
  have hredirected := rewriteUrls_inert (RedirectRule.urlRule rules) h
  dsimp only
  rw [hredirected.1]
  apply (Agree.refl _).bind
  intro count _ _
  apply (Agree.refl _).bind
  intro versioner _ hsame
  cases hsame
  cases versioner with
  | none =>
      exact .ok hredirected.2
  | some versioner =>
      exact .ok (rewriteUrls_inert versioner.rule hredirected.2).2

/-- The text of a file that is no markdown is only seen in the value of the literal block that
the file becomes.  Beyond that an expansion has the same outcome whatever is in such files, and so
has each stage behind it, and all of them together for a document: a block of any text is no
marker, includes nothing, begins no alert and holds no link. -/
theorem literals_inert (h : FileSystem.DiffersInLiterals files other)
    (document directory : Path) (next : Nat) (root : Node) :
    Agree Eq
      (fun first second =>
        Beside (Inert files other) first second ∧
          forall audience config rules versioner,
            (stages audience config rules versioner first.2 first.1).Beside (Inert files other)
              (stages audience config rules versioner second.2 second.1))
      (Partials.expand files document directory next root)
      (Partials.expand other document directory next root) ∧
    (forall (site : Site) document config body rules,
      Agree Eq (fun left rest => Parallel (Inert files other) [left] [rest])
        (site.content files document config body >>= site.linked document config rules)
        (site.content other document config body >>= site.linked document config rules)) ∧
    forall id path text,
      (Partials.literal id path text).marker? = none ∧
        (Partials.literal id path text).includeTarget? = none ∧
        (forall next, Alert.wrapNode next (Partials.literal id path text) =
          { nodes := [Partials.literal id path text], next, count := 0 }) ∧
        forall rule count, rewriteUrlsFrom rule count (Partials.literal id path text) =
          (Partials.literal id path text, count) := by
  refine ⟨?_, ?_, ?_⟩
  · apply (Partials.expand_inert h document directory next root).mono
    intro first second hbeside
    refine ⟨hbeside, ?_⟩
    intro audience config rules versioner
    rw [hbeside.1]
    exact stages_inert hbeside.2 audience config rules versioner first.2
  · intro site document config body rules
    apply (content_inert h site document config body).bind
    intro root tree htree
    exact linked_inert site document config rules htree
  · intro id path text
    refine ⟨rfl, rfl, ?_, ?_⟩
    · intro next
      rw [Alert.wrapNode_of_kind_ne next (by simp [Partials.literal, fresh])]
      simp only [Partials.literal, fresh, Alert.wrapNodes]
    · intro rule count
      cases count with
      | error error =>
          simp [Partials.literal, fresh, rewriteUrlsFrom, rewriteUrlsOf, rewriteKind]
      | ok count =>
          simp [Partials.literal, fresh, rewriteUrlsFrom, rewriteUrlsOf, rewriteKind, url?]

/-- A file system with one file, which is no markdown. -/
def sample (text : String) : FileSystem where
  entries := [(["x.txt"], .file (.text text))]
  current := []

theorem sample_differsInLiterals (text changed : String) :
    FileSystem.DiffersInLiterals (sample text) (sample changed) where
  current := rfl
  entry := by
    intro location
    by_cases hlocation : location = ["x.txt"]
    · rw [hlocation]
      exact Or.inr ⟨by decide, text, changed, rfl, rfl⟩
    · left
      have hne : (location == ["x.txt"]) = false := beq_false_of_ne hlocation
      simp [FileSystem.entry?, sample, List.lookup_cons, hne]

/-- A marker and an alert in a file are the same to all stages as a line that includes the file
itself. -/
theorem literals_inert_sample :
    exists first second free,
      Partials.expand (sample "<!-- BEGIN: TFC:only -->\n=> x") ⟨"/doc.mdx"⟩ ⟨"/"⟩
          (ofMarkdown 0 "@include 'x.txt'").2 (ofMarkdown 0 "@include 'x.txt'").1 =
        .ok (first, free) ∧
      Partials.expand (sample "@include 'x.txt'") ⟨"/doc.mdx"⟩ ⟨"/"⟩
          (ofMarkdown 0 "@include 'x.txt'").2 (ofMarkdown 0 "@include 'x.txt'").1 =
        .ok (second, free) ∧
      second.nodes.filterMap Node.value = ["@include 'x.txt'"] ∧
      (stages Exclusion.enterpriseReader Exclusion.optedIn [] ⟨"v1", [], "/x/"⟩ free
          first).Beside
        (Inert (sample "<!-- BEGIN: TFC:only -->\n=> x") (sample "@include 'x.txt'"))
        (stages Exclusion.enterpriseReader Exclusion.optedIn [] ⟨"v1", [], "/x/"⟩ free second) := by
  have hinert := (literals_inert
    (sample_differsInLiterals "<!-- BEGIN: TFC:only -->\n=> x" "@include 'x.txt'") ⟨"/doc.mdx"⟩
    ⟨"/"⟩ (ofMarkdown 0 "@include 'x.txt'").2 (ofMarkdown 0 "@include 'x.txt'").1).1
  have hvalues : (Partials.expand (sample "@include 'x.txt'") ⟨"/doc.mdx"⟩ ⟨"/"⟩
      (ofMarkdown 0 "@include 'x.txt'").2 (ofMarkdown 0 "@include 'x.txt'").1).toOption.map
        (fun result => result.1.nodes.filterMap Node.value) = some ["@include 'x.txt'"] := by
    decide +kernel
  have hok : (Partials.expand (sample "<!-- BEGIN: TFC:only -->\n=> x") ⟨"/doc.mdx"⟩ ⟨"/"⟩
      (ofMarkdown 0 "@include 'x.txt'").2 (ofMarkdown 0 "@include 'x.txt'").1).isOk = true := by
    decide +kernel
  rcases Partials.exists_of_isOk hok with ⟨⟨first, free⟩, hfirst⟩
  rcases hinert.exists_of_ok hfirst with ⟨⟨second, _⟩, hsecond, ⟨rfl, _⟩, hstages⟩
  rw [hsecond] at hvalues
  exact ⟨first, second, _, hfirst, hsecond, Option.some.inj hvalues, hstages _ _ _ _⟩

end Site
end Docloom
