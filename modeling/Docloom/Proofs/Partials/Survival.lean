import Docloom.Proofs.Partials.Expansion

/-!
# What is left of a document

An expansion takes away each paragraph that includes a file, with all that is in it, and
nothing else.  Nodes that it puts in have new ids, so the nodes of the document can be told
apart from them.  A paragraph that includes a file is known by its first text alone; what
else it holds is lost.
-/

namespace Docloom
namespace Node

/-!
# Nodes outside and inside of includes
-/

/-- Whether a node is a paragraph that includes a file. -/
def isInclude (node : Node) : Bool := node.includeTarget?.isSome

/-- The nodes of trees in document order, where `inside` tells which nodes count of those in
a paragraph that includes a file. -/
def labelsWhere (inside : List Node -> List Label) : List Node -> List Label
  | [] => []
  | ⟨id, kind, value, children, position⟩ :: rest =>
      (if isInclude ⟨id, kind, value, children, position⟩ then
        inside children
      else
        ⟨id, kind, value, position⟩ :: labelsWhere inside children) ++ labelsWhere inside rest

/-- The nodes that are neither a paragraph that includes a file nor in one. -/
def outsideOf (nodes : List Node) : List Label := labelsWhere (fun _ => []) nodes

/-- The nodes that are neither a paragraph that includes a file nor the text in it that names
the file, which is the first of the nodes in it. -/
def authoredOf (nodes : List Node) : List Label :=
  labelsWhere (fun children => (labelsOf children).tail) nodes

/-- A paragraph that includes a file starts with a text, which includes nothing itself. -/
theorem exists_of_isInclude {node : Node} (h : node.isInclude = true) :
    exists first others, nodesOf node.children = first :: others ∧
      ¬ first.isInclude = true := by
  unfold isInclude includeTarget? at h
  split at h
  · rename_i first rest hkind hchildren
    split at h
    · rename_i source htext
      rw [hchildren, nodesOf_cons, nodes_eq first]
      refine ⟨first, nodesOf first.children ++ nodesOf rest, rfl, ?_⟩
      simp [isInclude, includeTarget?, htext]
    · cases h
  · cases h

theorem labelsWhere_include {inside : List Node -> List Label} {node : Node}
    (h : node.isInclude = true) (rest : List Node) :
    labelsWhere inside (node :: rest) = inside node.children ++ labelsWhere inside rest := by
  cases node
  rw [labelsWhere, if_pos h]

theorem labelsWhere_keep {inside : List Node -> List Label} {node : Node}
    (h : ¬ node.isInclude = true) (rest : List Node) :
    labelsWhere inside (node :: rest) =
      node.label :: (labelsWhere inside node.children ++ labelsWhere inside rest) := by
  cases node
  rw [labelsWhere, if_neg h]
  rfl

theorem outsideOf_sublist_authoredOf (nodes : List Node) :
    (outsideOf nodes).Sublist (authoredOf nodes) := by
  unfold outsideOf authoredOf
  induction nodes using forest_induction with
  | nil =>
      simp [labelsWhere]
  | cons node rest ihChildren ihRest =>
      by_cases hinclude : node.isInclude = true
      · rw [labelsWhere_include hinclude, labelsWhere_include hinclude]
        exact List.Sublist.append (List.nil_sublist _) ihRest
      · rw [labelsWhere_keep hinclude, labelsWhere_keep hinclude]
        exact List.Sublist.cons_cons _ (List.Sublist.append ihChildren ihRest)

theorem authoredOf_subset (nodes : List Node) : authoredOf nodes ⊆ labelsOf nodes := by
  unfold authoredOf
  induction nodes using forest_induction with
  | nil =>
      simp [labelsWhere]
  | cons node rest ihChildren ihRest =>
      rw [labelsOf_cons]
      by_cases hinclude : node.isInclude = true
      · rw [labelsWhere_include hinclude]
        intro label hlabel
        rcases List.mem_append.mp hlabel with hbelow | hafter
        · have := List.mem_of_mem_tail hbelow
          simp [this]
        · simp [ihRest hafter]
      · rw [labelsWhere_keep hinclude]
        intro label hlabel
        rcases List.mem_cons.mp hlabel with rfl | hlabel
        · simp
        · rcases List.mem_append.mp hlabel with hbelow | hafter
          · simp [ihChildren hbelow]
          · simp [ihRest hafter]

/-- Lists with sublists of their own are the same when these are. -/
theorem append_eq_append_iff_of_sublist {α : Type} {a b c d : List α}
    (hleft : a.Sublist c) (hright : b.Sublist d) : a ++ b = c ++ d ↔ a = c ∧ b = d := by
  constructor
  · intro h
    have hlength := congrArg List.length h
    rw [List.length_append, List.length_append] at hlength
    have hbelow := hleft.length_le
    have hafter := hright.length_le
    exact ⟨hleft.eq_of_length (by omega), hright.eq_of_length (by omega)⟩
  · intro h
    rw [h.1, h.2]

/-- All nodes of the author are outside of includes exactly when these hold nothing but the
text that names the file. -/
theorem outsideOf_eq_authoredOf_iff (nodes : List Node) :
    outsideOf nodes = authoredOf nodes ↔
      forall node, node ∈ nodesOf nodes -> node.isInclude = true ->
        (nodesOf node.children).length = 1 := by
  induction nodes using forest_induction with
  | nil =>
      simp [outsideOf, authoredOf, labelsWhere, nodesOf]
  | cons node rest ihChildren ihRest =>
      have hchildren := outsideOf_sublist_authoredOf node.children
      have hrest := outsideOf_sublist_authoredOf rest
      unfold outsideOf authoredOf at hchildren hrest ihChildren ihRest ⊢
      simp only [mem_nodesOf_cons, or_imp, forall_and, forall_eq]
      by_cases hinclude : node.isInclude = true
      · rw [labelsWhere_include hinclude, labelsWhere_include hinclude,
          append_eq_append_iff_of_sublist (List.nil_sublist _) hrest, ihRest]
        rcases exists_of_isInclude hinclude with ⟨first, others, hnodes, hfirst⟩
        rw [labelsOf, hnodes, List.map_cons, List.tail_cons, eq_comm, List.map_eq_nil_iff]
        constructor
        · intro h
          rw [h.1]
          refine ⟨fun _ => rfl, ?_, h.2⟩
          intro below hbelow hincludeBelow
          rw [List.mem_singleton.mp hbelow] at hincludeBelow
          exact absurd hincludeBelow hfirst
        · intro h
          exact ⟨List.length_eq_zero_iff.mp (by simpa using h.1 hinclude), h.2.2⟩
      · rw [labelsWhere_keep hinclude, labelsWhere_keep hinclude, List.cons_inj_right,
          append_eq_append_iff_of_sublist hchildren hrest, ihChildren, ihRest]
        simp [hinclude]

end Node

namespace Partials

variable {files : FileSystem} {directory : Path}

theorem idsOf_literal (id : Nat) (path : Path) (text : String) (rest : List Node) :
    Node.idsOf (literal id path text :: rest) = id :: Node.idsOf rest := by
  simp [Node.idsOf_cons, literal, Node.fresh]

theorem labelsOf_literal (id : Nat) (path : Path) (text : String) (rest : List Node) :
    Node.labelsOf (literal id path text :: rest) =
      (literal id path text).label :: Node.labelsOf rest := by
  rw [Node.labelsOf_cons]
  rfl

namespace Expands

variable {place : Place} {nodes out : List Node} {next free bound : Nat}

/-- The ids of a result are old or new, and the new ones are no longer free. -/
theorem ids (h : Expands files directory place next nodes out free) :
    next ≤ free ∧ forall id, id ∈ Node.idsOf out -> id ∈ Node.idsOf nodes ∨ next ≤ id := by
  induction h with
  | nil =>
      simp
  | keep hplain hchildren hrest ihChildren ihRest =>
      rw [Node.idsOf_cons, Node.idsOf_cons]
      grind
  | literal htarget hfound hplain hrest ihRest =>
      rw [idsOf_literal, Node.idsOf_cons]
      grind
  | splice htarget hfound hmarkdown hinner hrest ihInner ihRest =>
      rw [Node.idsOf_append, Node.idsOf_cons]
      grind [Node.le_of_mem_ofMarkdown, Node.lt_ofMarkdown_free]

/-- The old nodes of a result are those of the document that are outside of includes. -/
theorem survive (h : Expands files directory place next nodes out free) (hbound : bound ≤ next)
    (hold : forall id, id ∈ Node.idsOf nodes -> id < bound) :
    (Node.labelsOf out).filter (fun label => label.id < bound) = Node.outsideOf nodes := by
  unfold Node.outsideOf
  induction h with
  | nil =>
      simp [Node.labelsOf, Node.nodesOf, Node.labelsWhere]
  | keep hplain hchildren hrest ihChildren ihRest =>
      rename_i node
      have hinclude : ¬ node.isInclude = true := by
        simp [Node.isInclude, hplain]
      rw [Node.idsOf_cons] at hold
      rw [Node.labelsOf_cons, Node.labelsWhere_keep hinclude, List.filter_cons_of_pos,
        List.filter_append, ihChildren hbound, ihRest (Nat.le_trans hbound hchildren.ids.1)]
      · rfl
      · intro id hid
        exact hold id (by simp [hid])
      · intro id hid
        exact hold id (by simp [hid])
      · simp [Node.label, hold node.id (by simp)]
  | literal htarget hread hplain hrest ihRest =>
      rename_i node
      have hinclude : node.isInclude = true := by
        simp [Node.isInclude, htarget]
      rw [Node.idsOf_cons] at hold
      rw [labelsOf_literal, Node.labelsWhere_include hinclude, List.filter_cons_of_neg,
        ihRest (Nat.le_succ_of_le hbound)]
      · rfl
      · intro id hid
        exact hold id (by simp [hid])
      · intro hlt
        exact absurd (of_decide_eq_true hlt) (Nat.not_lt.mpr hbound)
  | splice htarget hread hmarkdown hinner hrest ihInner ihRest =>
      rename_i text next children middle place rest after free node
      have hinclude : node.isInclude = true := by
        simp [Node.isInclude, htarget]
      have hfree := Node.lt_ofMarkdown_free next text
      have hmiddle := hinner.ids.1
      rw [Node.idsOf_cons] at hold
      rw [Node.labelsOf_append, Node.labelsWhere_include hinclude, List.filter_append,
        ihRest (by omega)]
      · rw [List.filter_eq_nil_iff.mpr]
        intro label hlabel
        rw [decide_eq_true_eq, Nat.not_lt]
        rcases hinner.ids.2 _ (Node.id_of_mem_labelsOf hlabel) with hread | hinserted
        · exact Nat.le_trans hbound (Node.le_of_mem_ofMarkdown hread)
        · omega
      · intro id hid
        exact hold id (by simp [hid])

end Expands

/-!
# Documents
-/

theorem includeTarget_ofMarkdown (next : Nat) (text : String) :
    (Node.ofMarkdown next text).1.includeTarget? = none := by
  apply Node.includeTarget_of_kind_ne
  rw [Node.kind_ofMarkdown]
  simp

/-- Of the nodes of a document just those outside of includes are left, in order.  So nothing
of the author is lost exactly when each paragraph that includes a file holds nothing but the
text that names the file. -/
theorem survival_exact {files : FileSystem} {document directory : Path} {first free : Nat}
    {text : String} {result : Node}
    (h : expand files document directory (Node.ofMarkdown first text).2
      (Node.ofMarkdown first text).1 = .ok (result, free)) :
    (Node.labelsOf [result]).filter
        (fun label => label.id < (Node.ofMarkdown first text).2) =
      Node.outsideOf [(Node.ofMarkdown first text).1] ∧
    ((Node.authoredOf [(Node.ofMarkdown first text).1]).Sublist (Node.labelsOf [result]) ↔
      forall node, node ∈ (Node.ofMarkdown first text).1.nodes -> node.isInclude = true ->
        (Node.nodesOf node.children).length = 1) := by
  rcases expands_of_expand_ok h with ⟨children, hresult, hchildren⟩
  have hrun : Expands files directory ⟨document, [files.canonical document]⟩
      (Node.ofMarkdown first text).2 [(Node.ofMarkdown first text).1] [result] free := by
    rw [hresult]
    exact .keep (includeTarget_ofMarkdown first text) hchildren .nil
  have hold : forall id, id ∈ Node.idsOf [(Node.ofMarkdown first text).1] ->
      id < (Node.ofMarkdown first text).2 := by
    intro id hid
    rw [Node.idsOf_singleton] at hid
    exact (Node.id_of_mem_ofMarkdown hid).2
  have hsurvive := hrun.survive (Nat.le_refl _) hold
  refine ⟨hsurvive, ?_⟩
  rw [← Node.nodesOf_singleton, ← Node.outsideOf_eq_authoredOf_iff]
  constructor
  · intro hsub
    have hfiltered := List.Sublist.filter
      (fun label => decide (label.id < (Node.ofMarkdown first text).2)) hsub
    rw [hsurvive, List.filter_eq_self.mpr] at hfiltered
    · exact (Node.outsideOf_sublist_authoredOf _).antisymm hfiltered
    · intro label hlabel
      exact decide_eq_true (hold _ (Node.id_of_mem_labelsOf (Node.authoredOf_subset _ hlabel)))
  · intro heq
    rw [← heq, ← hsurvive]
    exact List.filter_sublist

/-- A file system with one file that is no markdown. -/
def fragment : FileSystem where
  entries := [(["a"], .file (.text "x"))]
  current := []

/-- What follows a line break in a paragraph that includes a file is lost. -/
theorem survival_exact_lineBreak :
    exists result free,
      expand fragment ⟨"/doc"⟩ ⟨"/"⟩ (Node.ofMarkdown 0 "@include 'a'  \nb").2
          (Node.ofMarkdown 0 "@include 'a'  \nb").1 = .ok (result, free) ∧
        ¬ (Node.authoredOf [(Node.ofMarkdown 0 "@include 'a'  \nb").1]).Sublist
          (Node.labelsOf [result]) := by
  have hok : (expand fragment ⟨"/doc"⟩ ⟨"/"⟩ (Node.ofMarkdown 0 "@include 'a'  \nb").2
      (Node.ofMarkdown 0 "@include 'a'  \nb").1).isOk = true := by
    decide +kernel
  have hmore : ¬ forall node,
      node ∈ (Node.ofMarkdown 0 "@include 'a'  \nb").1.nodes -> node.isInclude = true ->
        (Node.nodesOf node.children).length = 1 := by
    decide +kernel
  rcases exists_of_isOk hok with ⟨⟨result, free⟩, hexpand⟩
  refine ⟨result, free, hexpand, ?_⟩
  rw [(survival_exact hexpand).2]
  exact hmore

end Partials
end Docloom
