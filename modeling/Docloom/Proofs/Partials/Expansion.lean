import Docloom.Partials
import Docloom.Proofs.Node.Numbering
import Docloom.Proofs.Results

/-!
# Runs of an expansion

An expansion walks over the trees of a file and, at a paragraph that includes another
file, over the trees of that file.  A run that succeeds is told here as a relation, so
that facts about results follow by one induction over the run.
-/

namespace Docloom

/-!
# Paragraphs that include
-/

namespace Node

theorem includeTarget_of_kind_ne {node : Node} (h : node.kind ≠ .paragraph) :
    node.includeTarget? = none := by
  unfold includeTarget?
  split
  · rename_i hkind hchildren
    exact absurd hkind h
  · rfl

/-- Numbers have no influence on what a paragraph includes. -/
theorem includeTarget_unnumbered (node : Node) :
    node.unnumbered.includeTarget? = node.includeTarget? := by
  cases node with
  | mk id kind value children position =>
      cases children with
      | nil =>
          rfl
      | cons first rest =>
          rw [unnumbered_eq, unnumberedAll, unnumbered_eq]
          cases kind <;> rfl

end Node

namespace Partials

variable {files : FileSystem} {directory : Path}

/-!
# Files inside files
-/

/-- A statement about places holds if it holds of a place whenever it holds of the files
that can be expanded inside it. -/
theorem place_induction (files : FileSystem) {motive : Place -> Prop}
    (step : forall place : Place,
      (forall path text, files.readText path = .ok text ->
        ¬ place.stack.any (files.canonical path).same = true ->
          motive ⟨path, place.stack ++ [files.canonical path]⟩) -> motive place)
    (place : Place) : motive place := by
  apply step
  intro path text hread hnew
  exact place_induction files step ⟨path, place.stack ++ [files.canonical path]⟩
termination_by unopened files place.stack
decreasing_by exact unopened_lt hread hnew

theorem insertion_eq (place : Place) (marker : Node) (target : String) (next : Nat) :
    insertion files directory place marker target next =
      match files.readText (directory.join target) with
      | .error .notFound => .error (missing place marker (directory.join target))
      | .error fault => .error (.file fault)
      | .ok text =>
          if (directory.join target).isMarkdown then
            if place.stack.any (files.canonical (directory.join target)).same = true then
              .error (.partialCycle place.file.text
                (chainText (place.stack ++ [files.canonical (directory.join target)])))
            else
              expandNodes
                (insertion files directory ⟨directory.join target,
                  place.stack ++ [files.canonical (directory.join target)]⟩)
                (Node.ofMarkdown next text).2 (Node.ofMarkdown next text).1.children
          else
            .ok ([literal next (directory.join target) text], next + 1) := by
  rw [insertion]
  dsimp only
  split
  · rename_i hread
    rw [hread]
  · rename_i fault hfault hread
    rw [hread]
    cases fault with
    | notFound =>
        exact absurd rfl hfault
    | _ =>
        rfl
  · rename_i text hread
    rw [hread]
    rfl

/-!
# Steps over a list of trees
-/

theorem expandNode_include {insertion : Insertion} {next : Nat} {node : Node}
    {target : String} (htarget : node.includeTarget? = some target) :
    expandNode insertion next node = insertion node target next := by
  cases node
  rw [expandNode, htarget]

theorem expandNode_keep {insertion : Insertion} {next : Nat} {node : Node}
    (htarget : node.includeTarget? = none) :
    expandNode insertion next node =
      (do
        let (children, next) ← expandNodes insertion next node.children
        pure ([{ node with children }], next)) := by
  cases node
  rw [expandNode, htarget]

theorem expandNodes_cons (insertion : Insertion) (next : Nat) (node : Node)
    (rest : List Node) :
    expandNodes insertion next (node :: rest) =
      (do
        let (first, next) ← expandNode insertion next node
        let (rest, next) ← expandNodes insertion next rest
        pure (first ++ rest, next)) := by
  rw [expandNodes]

theorem exists_of_isOk {outcome : Except Error α} (h : outcome.isOk = true) :
    exists a, outcome = .ok a := by
  cases outcome with
  | error error =>
      cases h
  | ok a =>
      exact ⟨a, rfl⟩

/-!
# Runs
-/

/-- The runs that succeed: the trees of a file, from a first free id on, become other
trees, after which another id is the first free one. -/
inductive Expands (files : FileSystem) (directory : Path) :
    Place -> Nat -> List Node -> List Node -> Nat -> Prop where
  | nil :
      Expands files directory place next [] [] next
  | keep (hplain : node.includeTarget? = none)
      (hchildren : Expands files directory place next node.children children middle)
      (hrest : Expands files directory place middle rest after free) :
      Expands files directory place next (node :: rest)
        ({ node with children } :: after) free
  | literal (htarget : node.includeTarget? = some target)
      (hread : files.readText (directory.join target) = .ok text)
      (hplain : (directory.join target).isMarkdown = false)
      (hrest : Expands files directory place (next + 1) rest after free) :
      Expands files directory place next (node :: rest)
        (Partials.literal next (directory.join target) text :: after) free
  | splice (htarget : node.includeTarget? = some target)
      (hread : files.readText (directory.join target) = .ok text)
      (hmarkdown : (directory.join target).isMarkdown = true)
      (hinner : Expands files directory
        ⟨directory.join target, place.stack ++ [files.canonical (directory.join target)]⟩
        (Node.ofMarkdown next text).2 (Node.ofMarkdown next text).1.children
        children middle)
      (hrest : Expands files directory place middle rest after free) :
      Expands files directory place next (node :: rest) (children ++ after) free

/-- A run over trees, when the runs inside other files are known. -/
theorem expands_of_step {place : Place}
    (hinside : forall path text, files.readText path = .ok text ->
      ¬ place.stack.any (files.canonical path).same = true ->
        forall {nodes next out free},
          expandNodes (insertion files directory
              ⟨path, place.stack ++ [files.canonical path]⟩) next nodes =
            .ok (out, free) ->
          Expands files directory ⟨path, place.stack ++ [files.canonical path]⟩
            next nodes out free)
    {nodes out : List Node} {next free : Nat}
    (h : expandNodes (insertion files directory place) next nodes = .ok (out, free)) :
    Expands files directory place next nodes out free := by
  induction nodes using Node.forest_induction generalizing next out free with
  | nil =>
      cases h
      exact .nil
  | cons node rest ihChildren ihRest =>
      rw [expandNodes_cons] at h
      rcases Results.exists_of_bind h with ⟨⟨first, middle⟩, hfirst, h⟩
      rcases Results.exists_of_bind h with ⟨⟨after, last⟩, hafter, h⟩
      cases h
      have hrest := ihRest hafter
      cases htarget : node.includeTarget? with
      | none =>
          rw [expandNode_keep htarget] at hfirst
          rcases Results.exists_of_bind hfirst with ⟨⟨children, reached⟩, hchildren, hfirst⟩
          cases hfirst
          exact .keep htarget (ihChildren hchildren) hrest
      | some target =>
          rw [expandNode_include htarget, insertion_eq] at hfirst
          split at hfirst
          · cases hfirst
          · cases hfirst
          · rename_i text hread
            split at hfirst
            · rename_i hmarkdown
              split at hfirst
              · cases hfirst
              · rename_i hnew
                exact .splice htarget hread hmarkdown (hinside _ _ hread hnew hfirst) hrest
            · rename_i hplain
              cases hfirst
              exact .literal htarget hread (by simpa using hplain) hrest

theorem expands_of_ok {place : Place} {nodes out : List Node} {next free : Nat}
    (h : expandNodes (insertion files directory place) next nodes = .ok (out, free)) :
    Expands files directory place next nodes out free := by
  induction place using place_induction files generalizing nodes next out free with
  | step place ih =>
      apply expands_of_step _ h
      intro path text hread hnew nodes next out free hinner
      exact ih path text hread hnew hinner

/-- The run of an expansion that succeeds. -/
theorem expands_of_expand_ok {document : Path} {next free : Nat} {root result : Node}
    (h : expand files document directory next root = .ok (result, free)) :
    exists children, result = { root with children } ∧
      Expands files directory ⟨document, [files.canonical document]⟩ next root.children
        children free := by
  unfold expand at h
  rcases Results.exists_of_bind h with ⟨⟨children, last⟩, hchildren, h⟩
  cases h
  exact ⟨children, rfl, expands_of_ok hchildren⟩

end Partials
end Docloom
