import Docloom.Proofs.Node.Order
import Mathlib.Data.List.Forall2

/-!
# Trees side by side

Two trees of one shape can be compared node by node.  When a pass looks at nothing in which the
nodes differ, it does the same to both trees, and what it leaves of them can be compared in the
same way.
-/

namespace Docloom

/-!
# Outcomes
-/

/-- Whether two outcomes are errors that are alike, or results that are alike. -/
inductive Agree {ε α β : Type} (errors : ε -> ε -> Prop) (results : α -> β -> Prop) :
    Except ε α -> Except ε β -> Prop where
  | error {first second : ε} (h : errors first second) :
      Agree errors results (.error first) (.error second)
  | ok {a : α} {b : β} (h : results a b) : Agree errors results (.ok a) (.ok b)

namespace Agree

variable {ε α β γ δ : Type} {errors : ε -> ε -> Prop} {results : α -> β -> Prop}
  {first : Except ε α} {second : Except ε β}

theorem refl (outcome : Except ε α) : Agree Eq Eq outcome outcome := by
  cases outcome with
  | error error =>
      exact .error rfl
  | ok a =>
      exact .ok rfl

theorem mono (h : Agree errors results first second) {wider : α -> β -> Prop}
    (hwider : forall a b, results a b -> wider a b) : Agree errors wider first second := by
  cases h with
  | error herror =>
      exact .error herror
  | ok hresult =>
      exact .ok (hwider _ _ hresult)

theorem bind (h : Agree errors results first second) {others : γ -> δ -> Prop}
    {f : α -> Except ε γ} {g : β -> Except ε δ}
    (hnext : forall a b, results a b -> Agree errors others (f a) (g b)) :
    Agree errors others (first >>= f) (second >>= g) := by
  cases h with
  | error herror =>
      exact .error herror
  | ok hresult =>
      exact hnext _ _ hresult

theorem map {first second : Except ε α} (h : Agree errors Eq first second) (f : α -> β) :
    Agree errors Eq (first.map f) (second.map f) := by
  cases h with
  | error herror =>
      exact .error herror
  | ok hresult =>
      exact .ok (congrArg f hresult)

theorem exists_of_ok (h : Agree errors results first second) {a : α} (hok : first = .ok a) :
    exists b, second = .ok b ∧ results a b := by
  cases h with
  | error herror =>
      cases hok
  | ok hresult =>
      cases hok
      exact ⟨_, rfl, hresult⟩

theorem exists_of_error (h : Agree errors results first second) {error : ε}
    (herror : first = .error error) : exists other, second = .error other ∧ errors error other := by
  cases h with
  | error hother =>
      cases herror
      exact ⟨_, rfl, hother⟩
  | ok hresult =>
      cases herror

end Agree

theorem eq_of_rel {α : Type} {first second : Option α} (h : Option.Rel Eq first second) :
    second = first := by
  cases h with
  | none =>
      rfl
  | some heq =>
      rw [heq]

namespace Node

/-!
# Trees of one shape
-/

/-- Whether trees have one shape and the nodes at each place of it are alike. -/
inductive Parallel (alike : Label -> Label -> Prop) : List Node -> List Node -> Prop where
  | nil : Parallel alike [] []
  | cons {first second : Node} {rest others : List Node} (hlabel : alike first.label second.label)
      (hchildren : Parallel alike first.children second.children)
      (hrest : Parallel alike rest others) :
      Parallel alike (first :: rest) (second :: others)

/-- Whether two results hold trees that are alike and are the same beyond that. -/
def Beside {α : Type} (alike : Label -> Label -> Prop) (first second : Node × α) : Prop :=
  second.2 = first.2 ∧ Parallel alike [first.1] [second.1]

namespace Parallel

variable {alike : Label -> Label -> Prop} {nodes others more further : List Node}

theorem refl (h : forall label, alike label label) (nodes : List Node) :
    Parallel alike nodes nodes := by
  induction nodes using forest_induction with
  | nil =>
      exact .nil
  | cons node rest ihChildren ihRest =>
      exact .cons (h node.label) ihChildren ihRest

theorem append (h : Parallel alike nodes others) (hmore : Parallel alike more further) :
    Parallel alike (nodes ++ more) (others ++ further) := by
  induction h with
  | nil =>
      exact hmore
  | cons hlabel hchildren hrest ihChildren ihRest =>
      exact .cons hlabel hchildren ihRest

theorem singleton_iff {first second : Node} :
    Parallel alike [first] [second] ↔
      alike first.label second.label ∧ Parallel alike first.children second.children := by
  constructor
  · intro h
    cases h with
    | cons hlabel hchildren hrest =>
        exact ⟨hlabel, hchildren⟩
  · rintro ⟨hlabel, hchildren⟩
    exact .cons hlabel hchildren .nil

theorem eq_nil_iff (h : Parallel alike nodes others) : nodes = [] ↔ others = [] := by
  cases h <;> simp

/-- What is known of the nodes of the first trees can be put into the comparison. -/
theorem with_property (h : Parallel alike nodes others) {property : Label -> Prop}
    (hnodes : forall node, node ∈ nodesOf nodes -> property node.label) :
    Parallel (fun a b => alike a b ∧ property a) nodes others := by
  induction h with
  | nil =>
      exact .nil
  | @cons first second rest others hlabel hchildren hrest ihChildren ihRest =>
      refine .cons ⟨hlabel, hnodes first ?_⟩ (ihChildren ?_) (ihRest ?_)
      · exact mem_nodesOf_cons.mpr (Or.inl rfl)
      · intro node hnode
        exact hnodes node (mem_nodesOf_cons.mpr (Or.inr (Or.inl hnode)))
      · intro node hnode
        exact hnodes node (mem_nodesOf_cons.mpr (Or.inr (Or.inr hnode)))

theorem mono (h : Parallel alike nodes others) {wider : Label -> Label -> Prop}
    (hwider : forall a b, alike a b -> wider a b) : Parallel wider nodes others := by
  induction h with
  | nil =>
      exact .nil
  | cons hlabel hchildren hrest ihChildren ihRest =>
      exact .cons (hwider _ _ hlabel) ihChildren ihRest

/-- The nodes of the trees are alike one by one in document order. -/
theorem forall₂_nodesOf (h : Parallel alike nodes others) :
    List.Forall₂ (fun a b => alike a.label b.label) (nodesOf nodes) (nodesOf others) := by
  induction h with
  | nil =>
      rw [nodesOf_nil]
      exact .nil
  | @cons first second rest others hlabel hchildren hrest ihChildren ihRest =>
      have hfirst : List.Forall₂ (fun a b : Node => alike a.label b.label)
          (first :: nodesOf first.children) (second :: nodesOf second.children) :=
        .cons hlabel ihChildren
      rw [nodesOf_cons, nodesOf_cons, nodes_eq, nodes_eq]
      exact List.rel_append hfirst ihRest

theorem mem_idsOf_iff (h : Parallel alike nodes others) {id other : Nat}
    (hid : forall a b, alike a b -> (a.id = id ↔ b.id = other)) :
    id ∈ idsOf nodes ↔ other ∈ idsOf others := by
  induction h with
  | nil =>
      simp
  | @cons first second rest others hlabel hchildren hrest ihChildren ihRest =>
      have hfirst : first.id = id ↔ second.id = other := hid _ _ hlabel
      rw [idsOf_cons, idsOf_cons, List.mem_cons, List.mem_cons, List.mem_append,
        List.mem_append, ihChildren, ihRest, eq_comm, hfirst, eq_comm]

end Parallel
end Node
end Docloom
