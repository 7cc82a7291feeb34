import Docloom.Proofs.File.Canonical
import Docloom.Proofs.Partials.Expansion

/-!
# Walks along includes

The files that a document includes, the files that these include, and so on, are reached
by walks.  A walk may come back to a file that is on it already, so there may be walks of
any length; those that never come back are no longer than there are files.
-/

namespace Docloom

/-- What a paragraph includes, and where the paragraph stands. -/
structure Include where
  target : String
  position : Option Position
  deriving DecidableEq, Repr

namespace Node

mutual
/-- The includes in a tree, in document order. -/
def includes (node : Node) : List Include :=
  match node with
  | ⟨id, kind, value, children, position⟩ =>
      match includeTarget? ⟨id, kind, value, children, position⟩ with
      | some target => [⟨target, position⟩]
      | none => includesOf children

def includesOf : List Node -> List Include
  | [] => []
  | node :: rest => includes node ++ includesOf rest
end

theorem includes_include {node : Node} {target : String}
    (htarget : node.includeTarget? = some target) :
    node.includes = [⟨target, node.position⟩] := by
  cases node
  rw [includes, htarget]

theorem includes_keep {node : Node} (htarget : node.includeTarget? = none) :
    node.includes = includesOf node.children := by
  cases node
  rw [includes, htarget]

theorem includesOf_cons (node : Node) (rest : List Node) :
    includesOf (node :: rest) = node.includes ++ includesOf rest := by
  rw [includesOf]

theorem includesOf_unnumberedAll (nodes : List Node) :
    includesOf (unnumberedAll nodes) = includesOf nodes := by
  induction nodes using forest_induction with
  | nil =>
      rfl
  | cons node rest ihChildren ihRest =>
      rw [unnumberedAll, includesOf_cons, includesOf_cons, ihRest]
      cases htarget : node.includeTarget? with
      | none =>
          rw [includes_keep htarget,
            includes_keep (by rw [includeTarget_unnumbered, htarget]), unnumbered_eq, ihChildren]
      | some target =>
          rw [includes_include htarget,
            includes_include (by rw [includeTarget_unnumbered, htarget]), unnumbered_eq]

/-- The includes in a text. -/
def includesOfText (text : String) : List Include :=
  includesOf (ofMarkdown 0 text).1.children

theorem includesOf_ofMarkdown (next : Nat) (text : String) :
    includesOf (ofMarkdown next text).1.children = includesOfText text := by
  unfold includesOfText
  rw [← includesOf_unnumberedAll, unnumberedAll_ofMarkdown next 0, includesOf_unnumberedAll]

end Node

namespace Partials

/-- The place in the document. -/
def start (files : FileSystem) (document : Path) : Place :=
  ⟨document, [files.canonical document]⟩

/-- The place in the file that an include names. -/
def inside (files : FileSystem) (directory : Path) (place : Place) (wanted : Include) :
    Place :=
  ⟨directory.join wanted.target,
    place.stack ++ [files.canonical (directory.join wanted.target)]⟩

/-- The walks from a file with certain includes to another file with its includes.  A walk
follows includes that name markdown files that can be read; it is told by the index of each
among the includes of its file. -/
inductive Walk (files : FileSystem) (directory : Path) :
    Place -> List Include -> List Nat -> Place -> List Include -> Prop where
  | stay : Walk files directory place includes [] place includes
  | follow (hwanted : includes[index]? = some wanted)
      (hread : files.readText (directory.join wanted.target) = .ok text)
      (hmarkdown : (directory.join wanted.target).isMarkdown = true)
      (hrest : Walk files directory (inside files directory place wanted)
        (Node.includesOfText text) trail last lastIncludes) :
      Walk files directory place includes (index :: trail) last lastIncludes

/-- Whether no file is twice on a stack. -/
def Apart (stack : List Path) : Prop :=
  stack.Pairwise fun earlier later => ¬ later.same earlier = true

variable {files : FileSystem} {directory : Path} {place last : Place}
  {includes lastIncludes : List Include} {trail : List Nat}

theorem apart_singleton (path : Path) : Apart [path] := by
  simp [Apart]

theorem apart_snoc_iff {stack : List Path} {path : Path} :
    Apart (stack ++ [path]) ↔ Apart stack ∧ ¬ stack.any path.same = true := by
  simp [Apart, List.pairwise_append]

namespace Walk

/-- A trail leads to one place. -/
theorem unique (h : Walk files directory place includes trail last lastIncludes)
    {other : Place} {otherIncludes : List Include}
    (hother : Walk files directory place includes trail other otherIncludes) :
    last = other ∧ lastIncludes = otherIncludes := by
  induction h with
  | stay =>
      cases hother
      exact ⟨rfl, rfl⟩
  | follow hwanted hread hmarkdown hrest ih =>
      cases hother with
      | follow hwantedOther hreadOther hmarkdownOther hrestOther =>
          rw [hwanted] at hwantedOther
          cases hwantedOther
          rw [hread] at hreadOther
          cases hreadOther
          exact ih hrestOther

theorem snoc (h : Walk files directory place includes trail last lastIncludes)
    {index : Nat} {wanted : Include} {text : String}
    (hwanted : lastIncludes[index]? = some wanted)
    (hread : files.readText (directory.join wanted.target) = .ok text)
    (hmarkdown : (directory.join wanted.target).isMarkdown = true) :
    Walk files directory place includes (trail ++ [index])
      (inside files directory last wanted) (Node.includesOfText text) := by
  induction h with
  | stay =>
      exact .follow hwanted hread hmarkdown .stay
  | follow hfirst hreadFirst hmarkdownFirst hrest ih =>
      exact .follow hfirst hreadFirst hmarkdownFirst (ih hwanted)

/-- The files that a walk starts with stay the first ones. -/
theorem stack_prefix (h : Walk files directory place includes trail last lastIncludes) :
    place.stack <+: last.stack := by
  induction h with
  | stay =>
      exact List.prefix_refl _
  | follow hwanted hread hmarkdown hrest ih =>
      exact List.IsPrefix.trans (List.prefix_append _ _) ih

/-- A walk that does not come back has opened a file that was left with each step. -/
theorem length_le_unopened (h : Walk files directory place includes trail last lastIncludes)
    (hapart : Apart last.stack) : trail.length ≤ unopened files place.stack := by
  induction h with
  | stay =>
      exact Nat.zero_le _
  | follow hwanted hread hmarkdown hrest ih =>
      have hstack : Apart (inside files directory _ _).stack :=
        List.Pairwise.sublist hrest.stack_prefix.sublist hapart
      have hless := unopened_lt hread (apart_snoc_iff.mp hstack).2
      have hlength := ih hapart
      rw [List.length_cons]
      exact Nat.lt_of_le_of_lt hlength hless

theorem length_le (h : Walk files directory place includes trail last lastIncludes)
    (hapart : Apart last.stack) : trail.length ≤ files.entries.length := by
  have hunopened := h.length_le_unopened hapart
  have hentries : unopened files place.stack ≤ files.entries.length :=
    List.length_filter_le _ _
  exact Nat.le_trans hunopened hentries

end Walk

/-!
# Files on a walk

The files on a walk are told by their canonical paths.  When the document is there, they could
be told by their locations as well.
-/

/-- Whether a stack is that of some locations. -/
def Located (stack : List Path) : Prop :=
  exists locations : List Location,
    (forall location, location ∈ locations -> ProperLocation location) ∧
      stack = locations.map FileSystem.locationPath

theorem located_snoc {stack : List Path} (h : Located stack)
    (hcurrent : ProperLocation files.current) {path : Path} {location : Location}
    {entry : FileEntry} (hfind : files.find path = .ok (location, entry)) :
    Located (stack ++ [files.canonical path]) := by
  rcases h with ⟨locations, hproper, hstack⟩
  refine ⟨locations ++ [location], ?_, ?_⟩
  · intro other hother
    rcases List.mem_append.mp hother with hold | hnew
    · exact hproper other hold
    · rw [List.mem_singleton.mp hnew]
      exact FileSystem.find_proper hcurrent hfind
  · rw [FileSystem.canonical, hfind, hstack, List.map_append]
    rfl

theorem apart_locations {locations : List Location}
    (h : forall location, location ∈ locations -> ProperLocation location) :
    Apart (locations.map FileSystem.locationPath) ↔ locations.Nodup := by
  unfold Apart
  rw [List.pairwise_map]
  apply List.Pairwise.iff_of_mem
  intro a b ha hb
  rw [FileSystem.locationPath_same_iff (h b hb) (h a ha), eq_comm]

theorem Walk.located (h : Walk files directory place includes trail last lastIncludes)
    (hcurrent : ProperLocation files.current) (hplace : Located place.stack) :
    Located last.stack := by
  induction h with
  | stay =>
      exact hplace
  | follow hwanted hread hmarkdown hrest ih =>
      rcases FileSystem.find_of_readText hread with ⟨location, hfind⟩
      exact ih (located_snoc hplace hcurrent hfind)

/-- A walk comes back exactly when it is at one location twice. -/
theorem Walk.apart_iff {document : Path} {location : Location} {entry : FileEntry}
    (h : Walk files directory (start files document) includes trail last lastIncludes)
    (hcurrent : ProperLocation files.current)
    (hdocument : files.find document = .ok (location, entry)) :
    exists locations : List Location, last.stack = locations.map FileSystem.locationPath ∧
      (Apart last.stack ↔ locations.Nodup) := by
  have hnone : Located [] := ⟨[], by simp, rfl⟩
  have hstart : Located (start files document).stack :=
    located_snoc hnone hcurrent hdocument
  rcases h.located hcurrent hstart with ⟨locations, hproper, hstack⟩
  refine ⟨locations, hstack, ?_⟩
  rw [hstack]
  exact apart_locations hproper

end Partials
end Docloom
