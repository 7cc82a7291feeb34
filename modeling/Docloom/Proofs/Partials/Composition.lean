import Docloom.Proofs.Markdown.Paragraph
import Docloom.Proofs.Partials.Expansion

/-!
# What includes stand for

A file stands for trees: a markdown file for the trees of its text, in which each paragraph
that includes a file is replaced by what that file stands for, and any other file for one
literal block.  Nothing in this depends on where the file is included.  An expansion that
succeeds puts in what the files stand for, but for the numbers of the nodes.
-/

namespace Docloom
namespace Partials

/-!
# Files as trees
-/

mutual
/-- What is there when each paragraph that includes a file is replaced by what the file stands
for. -/
inductive Replaces (files : FileSystem) (directory : Path) :
    List Node -> List Node -> Prop where
  | nil : Replaces files directory [] []
  | keep (hplain : node.includeTarget? = none)
      (hchildren : Replaces files directory node.children children)
      (hrest : Replaces files directory rest after) :
      Replaces files directory (node :: rest) ({ node with children } :: after)
  | replace (htarget : node.includeTarget? = some target)
      (hstands : StandsFor files directory (directory.join target) nodes)
      (hrest : Replaces files directory rest after) :
      Replaces files directory (node :: rest) (nodes ++ after)

/-- The trees that a file stands for, without numbers. -/
inductive StandsFor (files : FileSystem) (directory : Path) :
    Path -> List Node -> Prop where
  | markdown (hread : files.readText path = .ok text) (hmarkdown : path.isMarkdown = true)
      (hreplaces : Replaces files directory
        (Node.unnumberedAll (Node.ofMarkdown 0 text).1.children) nodes) :
      StandsFor files directory path nodes
  | literal (hread : files.readText path = .ok text) (hplain : path.isMarkdown = false) :
      StandsFor files directory path [literal 0 path text]
end

variable {files : FileSystem} {directory : Path}

mutual
theorem replaces_unique : forall {nodes out : List Node},
    Replaces files directory nodes out -> forall other,
      Replaces files directory nodes other -> out = other
  | _, _, .nil, other, hother => by
      cases hother
      rfl
  | _, _, .keep hplain hchildren hrest, other, hother => by
      have hsameChildren := replaces_unique hchildren
      have hsameRest := replaces_unique hrest
      cases hother with
      | keep _ hchildrenOther hrestOther =>
          rw [hsameChildren _ hchildrenOther, hsameRest _ hrestOther]
      | replace htarget _ _ =>
          rw [hplain] at htarget
          cases htarget
  | _, _, .replace htarget hstands hrest, other, hother => by
      have hsameNodes := standsFor_unique hstands
      have hsameRest := replaces_unique hrest
      cases hother with
      | keep hplain _ _ =>
          rw [hplain] at htarget
          cases htarget
      | replace htargetOther hstandsOther hrestOther =>
          rw [htarget] at htargetOther
          cases htargetOther
          rw [hsameNodes _ hstandsOther, hsameRest _ hrestOther]

/-- A file stands for the same trees wherever it is included. -/
theorem standsFor_unique : forall {path : Path} {out : List Node},
    StandsFor files directory path out -> forall other,
      StandsFor files directory path other -> out = other
  | _, _, .markdown hread hmarkdown hreplaces, other, hother => by
      have hsame := replaces_unique hreplaces
      cases hother with
      | markdown hreadOther _ hreplacesOther =>
          rw [hread] at hreadOther
          cases hreadOther
          exact hsame _ hreplacesOther
      | literal _ hplain =>
          rw [hmarkdown] at hplain
          cases hplain
  | _, _, .literal hread hplain, other, hother => by
      cases hother with
      | markdown _ hmarkdown _ =>
          rw [hplain] at hmarkdown
          cases hmarkdown
      | literal hreadOther _ =>
          rw [hread] at hreadOther
          cases hreadOther
          rfl
end

/-!
# Runs
-/

theorem unnumberedAll_literal (id : Nat) (path : Path) (text : String) (rest : List Node) :
    Node.unnumberedAll (literal id path text :: rest) =
      [literal 0 path text] ++ Node.unnumberedAll rest := by
  rfl

namespace Expands

variable {place : Place} {nodes out : List Node} {next free : Nat}

/-- A run puts in what the files stand for. -/
theorem replaces (h : Expands files directory place next nodes out free) :
    Replaces files directory (Node.unnumberedAll nodes) (Node.unnumberedAll out) := by
  induction h with
  | nil =>
      exact .nil
  | keep hplain hchildren hrest ihChildren ihRest =>
      rename_i node
      rw [Node.unnumberedAll, Node.unnumberedAll, Node.unnumbered_eq]
      have hsame : node.unnumbered.includeTarget? = none := by
        rw [Node.includeTarget_unnumbered, hplain]
      rw [Node.unnumbered_eq] at hsame ⊢
      exact .keep hsame ihChildren ihRest
  | literal htarget hread hplain hrest ihRest =>
      rw [Node.unnumberedAll, unnumberedAll_literal]
      rw [← Node.includeTarget_unnumbered] at htarget
      exact .replace htarget (.literal hread hplain) ihRest
  | splice htarget hread hmarkdown hinner hrest ihInner ihRest =>
      rw [Node.unnumberedAll, Node.unnumberedAll_append]
      rw [← Node.includeTarget_unnumbered] at htarget
      rw [Node.unnumberedAll_ofMarkdown _ 0] at ihInner
      exact .replace htarget (.markdown hread hmarkdown ihInner) ihRest

/-- Where nothing is included, a run changes nothing. -/
theorem eq_of_plain (h : Expands files directory place next nodes out free)
    (hplain : forall node, node ∈ Node.nodesOf nodes -> node.includeTarget? = none) :
    out = nodes := by
  induction h with
  | nil =>
      rfl
  | keep htarget hchildren hrest ihChildren ihRest =>
      rename_i next children middle rest after free node
      have hsameChildren : children = node.children := by
        apply ihChildren
        intro below hbelow
        exact hplain below (Node.mem_nodesOf_cons.mpr (Or.inr (Or.inl hbelow)))
      have hsameRest : after = rest := by
        apply ihRest
        intro other hother
        exact hplain other (Node.mem_nodesOf_cons.mpr (Or.inr (Or.inr hother)))
      rw [hsameChildren, hsameRest]
      cases node
      rfl
  | literal htarget hread hliteral hrest ihRest =>
      rw [hplain _ (Node.mem_nodesOf_cons.mpr (Or.inl rfl))] at htarget
      cases htarget
  | splice htarget hread hmarkdown hinner hrest ihInner ihRest =>
      rw [hplain _ (Node.mem_nodesOf_cons.mpr (Or.inl rfl))] at htarget
      cases htarget

/-- Where no paragraph is below another one, no include is left.  A paragraph that is kept
would include something only through what was put in at its start, and nothing is put into
paragraphs. -/
theorem not_include (h : Expands files directory place next nodes out free)
    (hapart : Node.ParagraphsApart nodes) :
    forall node, node ∈ Node.nodesOf out -> node.includeTarget? = none := by
  induction h with
  | nil =>
      simp [Node.nodesOf]
  | keep hplain hchildren hrest ihChildren ihRest =>
      rename_i next children middle rest after free first
      intro node hnode
      rcases Node.mem_nodesOf_cons.mp hnode with rfl | hbelow | hafter
      · by_cases hkind : first.kind = .paragraph
        · have hsame : children = first.children := by
            apply hchildren.eq_of_plain
            intro below hbelow
            exact Node.includeTarget_of_kind_ne (hapart.of_head hkind below hbelow)
          rw [hsame]
          exact hplain
        · exact Node.includeTarget_of_kind_ne hkind
      · exact ihChildren hapart.of_children node hbelow
      · exact ihRest hapart.of_rest node hafter
  | literal htarget hread hplain hrest ihRest =>
      intro node hnode
      rcases Node.mem_nodesOf_cons.mp hnode with rfl | hbelow | hafter
      · rfl
      · cases hbelow
      · exact ihRest hapart.of_rest node hafter
  | splice htarget hread hmarkdown hinner hrest ihInner ihRest =>
      intro node hnode
      rw [Node.nodesOf_append] at hnode
      rcases List.mem_append.mp hnode with hinside | hafter
      · exact ihInner (Node.paragraphsApart_ofMarkdown _ _) node hinside
      · exact ihRest hapart.of_rest node hafter

end Expands

/-!
# Documents
-/

theorem replaces_of_expand_ok {document : Path} {next free : Nat} {root result : Node}
    (h : expand files document directory next root = .ok (result, free)) :
    exists children, Replaces files directory root.unnumbered.children children ∧
      result.unnumbered = { root.unnumbered with children } := by
  rcases expands_of_expand_ok h with ⟨children, hresult, hchildren⟩
  refine ⟨Node.unnumberedAll children, ?_, ?_⟩
  · rw [Node.unnumbered_eq]
    exact hchildren.replaces
  · rw [hresult, Node.unnumbered_eq, Node.unnumbered_eq]

theorem not_include_of_expand_ok {document : Path} {next free : Nat} {root result : Node}
    (h : expand files document directory next root = .ok (result, free))
    (hkind : root.kind ≠ .paragraph) (hapart : Node.ParagraphsApart root.children) :
    forall node, node ∈ result.nodes -> node.includeTarget? = none := by
  rcases expands_of_expand_ok h with ⟨children, hresult, hchildren⟩
  intro node hnode
  rw [hresult, Node.nodes_eq] at hnode
  rcases List.mem_cons.mp hnode with rfl | hbelow
  · exact Node.includeTarget_of_kind_ne hkind
  · exact hchildren.not_include hapart node hbelow

/-- The expansion of a document is the document with each include replaced by what its file
stands for, which is the same wherever the file is included; no include is left. -/
theorem expand_replaces {files : FileSystem} {document directory : Path} {first free : Nat}
    {text : String} {result : Node}
    (h : expand files document directory (Node.ofMarkdown first text).2
      (Node.ofMarkdown first text).1 = .ok (result, free)) :
    (exists children,
      Replaces files directory (Node.ofMarkdown first text).1.unnumbered.children children ∧
        result.unnumbered = { (Node.ofMarkdown first text).1.unnumbered with children }) ∧
    (forall path nodes other, StandsFor files directory path nodes ->
      StandsFor files directory path other -> nodes = other) ∧
    forall node, node ∈ result.nodes -> node.includeTarget? = none := by
  refine ⟨replaces_of_expand_ok h, ?_, ?_⟩
  · intro path nodes other hnodes hother
    exact standsFor_unique hnodes other hother
  · apply not_include_of_expand_ok h
    · rw [Node.kind_ofMarkdown]
      simp
    · exact Node.paragraphsApart_ofMarkdown first text

/-- A file system with a markdown file that includes another file. -/
def nested : FileSystem where
  entries := [(["a.md"], .file (.text "@include 'b'")), (["b"], .file (.text "x"))]
  current := []

theorem expand_replaces_nested :
    exists result free,
      expand nested ⟨"/doc"⟩ ⟨"/"⟩ (Node.ofMarkdown 0 "@include 'a.md'").2
          (Node.ofMarkdown 0 "@include 'a.md'").1 = .ok (result, free) ∧
        (exists children,
          Replaces nested ⟨"/"⟩ (Node.ofMarkdown 0 "@include 'a.md'").1.unnumbered.children
            children ∧
          result.unnumbered =
            { (Node.ofMarkdown 0 "@include 'a.md'").1.unnumbered with children }) ∧
        forall node, node ∈ result.nodes -> node.includeTarget? = none := by
  have hok : (expand nested ⟨"/doc"⟩ ⟨"/"⟩ (Node.ofMarkdown 0 "@include 'a.md'").2
      (Node.ofMarkdown 0 "@include 'a.md'").1).isOk = true := by
    decide +kernel
  rcases exists_of_isOk hok with ⟨⟨result, free⟩, hexpand⟩
  have hreplaces := expand_replaces hexpand
  exact ⟨result, free, hexpand, hreplaces.1, hreplaces.2.2⟩

end Partials
end Docloom
