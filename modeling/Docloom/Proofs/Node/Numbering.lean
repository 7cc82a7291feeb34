import Docloom.Node.Reading
import Docloom.Proofs.Node.Order

/-!
# Numbers of nodes

Reading a text hands out consecutive ids, from the first free id on, in document
order.  Which ids are handed out has no influence on anything else in the tree: two
trees that were read from one text are the same without their numbers.
-/

namespace Docloom
namespace Node

/-!
# Elements of a text
-/

/-- A statement about lists of elements holds if it is kept when an element is put in
front, given that it holds of the children of that element. -/
@[elab_as_elim]
theorem elements_induction {motive : List Markdown.Element -> Prop} (nil : motive [])
    (cons : forall element rest, motive element.children -> motive rest ->
      motive (element :: rest)) :
    forall elements, motive elements
  | [] => nil
  | ⟨kind, value, position, children⟩ :: rest =>
      cons ⟨kind, value, position, children⟩ rest
        (elements_induction nil cons children) (elements_induction nil cons rest)

theorem ofElement_eq (next : Nat) (element : Markdown.Element) :
    ofElement next element =
      (⟨next, element.kind, element.value, (ofElements (next + 1) element.children).1,
          some element.position⟩,
        (ofElements (next + 1) element.children).2) := by
  cases element
  rfl

theorem ofElements_cons (next : Nat) (element : Markdown.Element)
    (rest : List Markdown.Element) :
    ofElements next (element :: rest) =
      ((ofElement next element).1 :: (ofElements (ofElement next element).2 rest).1,
        (ofElements (ofElement next element).2 rest).2) := by
  rfl

/-- The ids of the nodes that were read are those between the first free id before and
the first free id after the reading. -/
theorem ofElements_ids (next : Nat) (elements : List Markdown.Element) :
    exists count, (ofElements next elements).2 = next + count ∧
      idsOf (ofElements next elements).1 = List.range' next count := by
  induction elements using elements_induction generalizing next with
  | nil =>
      exact ⟨0, by simp [ofElements]⟩
  | cons element rest ihChildren ihRest =>
      rcases ihChildren (next + 1) with ⟨below, hbelow, hidsBelow⟩
      rcases ihRest (next + 1 + below) with ⟨after, hafter, hidsAfter⟩
      refine ⟨below + after + 1, ?_, ?_⟩
      · rw [ofElements_cons, ofElement_eq, hbelow, hafter]
        omega
      · rw [ofElements_cons, ofElement_eq, hbelow, idsOf_cons, hidsBelow, hidsAfter,
          List.range'_succ, List.range'_append_1]

theorem ofMarkdown_ids (next : Nat) (text : String) :
    exists count, (ofMarkdown next text).2 = next + (count + 1) ∧
      (ofMarkdown next text).1.ids = List.range' next (count + 1) := by
  rcases ofElements_ids (next + 1) (Markdown.read text).children with ⟨count, hfree, hids⟩
  refine ⟨count, ?_, ?_⟩
  · rw [ofMarkdown, ofElement_eq, hfree]
    omega
  · rw [ofMarkdown, ofElement_eq, ids_eq, hids, List.range'_succ]

theorem id_of_mem_ofMarkdown {next id : Nat} {text : String}
    (h : id ∈ (ofMarkdown next text).1.ids) : next ≤ id ∧ id < (ofMarkdown next text).2 := by
  rcases ofMarkdown_ids next text with ⟨count, hfree, hids⟩
  rw [hids] at h
  have hrange := List.mem_range'_1.mp h
  omega

theorem le_of_mem_ofMarkdown {next id : Nat} {text : String}
    (h : id ∈ idsOf (ofMarkdown next text).1.children) : next ≤ id := by
  have hmem : id ∈ (ofMarkdown next text).1.ids := by
    rw [ids_eq]
    exact List.mem_cons_of_mem _ h
  exact (id_of_mem_ofMarkdown hmem).1

theorem lt_ofMarkdown_free (next : Nat) (text : String) : next < (ofMarkdown next text).2 := by
  rcases ofMarkdown_ids next text with ⟨count, hfree, _⟩
  omega

theorem kind_ofMarkdown (next : Nat) (text : String) :
    (ofMarkdown next text).1.kind = .root := by
  rw [ofMarkdown, ofElement_eq]
  rfl

/-!
# Trees without numbers
-/

mutual
/-- The tree with the number zero at all nodes. -/
def unnumbered (node : Node) : Node :=
  match node with
  | ⟨_, kind, value, children, position⟩ => ⟨0, kind, value, unnumberedAll children, position⟩

def unnumberedAll : List Node -> List Node
  | [] => []
  | node :: nodes => unnumbered node :: unnumberedAll nodes
end

theorem unnumbered_eq (node : Node) :
    node.unnumbered =
      ⟨0, node.kind, node.value, unnumberedAll node.children, node.position⟩ := by
  cases node
  rfl

theorem unnumberedAll_append (a b : List Node) :
    unnumberedAll (a ++ b) = unnumberedAll a ++ unnumberedAll b := by
  induction a with
  | nil =>
      rfl
  | cons node a ih =>
      simp [unnumberedAll, ih]

theorem unnumberedAll_ofElements (first second : Nat) (elements : List Markdown.Element) :
    unnumberedAll (ofElements first elements).1 = unnumberedAll (ofElements second elements).1 := by
  induction elements using elements_induction generalizing first second with
  | nil =>
      rfl
  | cons element rest ihChildren ihRest =>
      rw [ofElements_cons, ofElements_cons, ofElement_eq, ofElement_eq, unnumberedAll,
        unnumberedAll, unnumbered_eq, unnumbered_eq]
      dsimp only
      rw [ihChildren (first + 1) (second + 1),
        ihRest _ (ofElements (second + 1) element.children).2]

/-- Two readings of one text differ in their numbers only. -/
theorem unnumberedAll_ofMarkdown (first second : Nat) (text : String) :
    unnumberedAll (ofMarkdown first text).1.children =
      unnumberedAll (ofMarkdown second text).1.children := by
  unfold ofMarkdown
  generalize Markdown.read text = element
  rw [ofElement_eq, ofElement_eq]
  exact unnumberedAll_ofElements (first + 1) (second + 1) element.children

end Node
end Docloom
