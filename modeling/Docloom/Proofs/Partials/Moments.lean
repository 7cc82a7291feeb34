import Docloom.Proofs.Partials.Walk

/-!
# Expansions while files change

An expansion looks at one file after another, and files may change from one look to the next.
Here each look has a moment of its own.  When the files that the expansion follows are the same
at all moments, what comes out is what comes out when nothing changes.
-/

namespace Docloom

/-- A computation that looks at the files at one moment after another, with the moments that it
does not need.  Nothing comes out as long as there are not enough of them. -/
def Reading (α : Type) := List FileSystem → Option (Except Error α × List FileSystem)

namespace Reading

variable {α β : Type}

def done (outcome : Except Error α) : Reading α := fun moments => some (outcome, moments)

/-- Looks at the files at the next moment. -/
def look (next : FileSystem → Reading α) : Reading α
  | [] => none
  | files :: moments => next files moments

/-- Goes on with what came out, unless it is an error. -/
def andThen (reading : Reading α) (next : α → Reading β) : Reading β := fun moments =>
  match reading moments with
  | none => none
  | some (.error error, moments) => some (.error error, moments)
  | some (.ok a, moments) => next a moments

/-- Whether a reading of no more than `bound` moments that agree has a certain outcome after a
number of them. -/
def Takes (agrees : FileSystem → Prop) (bound : Nat) (reading : Reading α) (count : Nat)
    (outcome : Except Error α) : Prop :=
  forall moments, moments.length ≤ bound -> (forall files, files ∈ moments -> agrees files) ->
    reading moments = if moments.length < count then none else some (outcome, moments.drop count)

section Takes

variable {agrees : FileSystem -> Prop} {bound smaller count more : Nat} {reading : Reading α}
  {outcome : Except Error α}

theorem Takes.mono (h : Takes agrees bound reading count outcome) (hsmaller : smaller ≤ bound) :
    Takes agrees smaller reading count outcome := by
  intro moments hlength hagree
  exact h moments (Nat.le_trans hlength hsmaller) hagree

theorem takes_done : Takes agrees bound (done outcome) 0 outcome := by
  intro moments hlength hagree
  simp [done]

theorem takes_none (h : reading [] = none) : Takes agrees 0 reading (count + 1) outcome := by
  intro moments hlength hagree
  rw [List.length_eq_zero_iff.mp (Nat.le_zero.mp hlength), h]
  simp

/-- A look that is not the last leaves less to look at. -/
theorem takes_look {next : FileSystem -> Reading α}
    (h : forall files, agrees files -> Takes agrees (bound - 1) (next files) count outcome) :
    Takes agrees bound (look next) (count + 1) outcome := by
  intro moments hlength hagree
  cases moments with
  | nil =>
      simp [look]
  | cons files moments =>
      rw [List.length_cons] at hlength
      have hrest := h files (hagree files List.mem_cons_self) moments (by omega)
        (fun other hother => hagree other (List.mem_cons_of_mem _ hother))
      rw [look, hrest, List.length_cons, List.drop_succ_cons]
      simp

theorem takes_andThen_ok {a : α} {next : α -> Reading β} {last : Except Error β}
    (h : Takes agrees bound reading count (.ok a)) (hnext : Takes agrees bound (next a) more last) :
    Takes agrees bound (reading.andThen next) (count + more) last := by
  intro moments hlength hagree
  rw [andThen, h moments hlength hagree]
  by_cases hshort : moments.length < count
  · rw [if_pos hshort, if_pos (by omega)]
  · have hdrop : (moments.drop count).length ≤ bound := by
      rw [List.length_drop]
      omega
    have hrest := hnext (moments.drop count) hdrop
      (fun files hfiles => hagree files (List.mem_of_mem_drop hfiles))
    rw [if_neg hshort]
    dsimp only
    rw [hrest, List.length_drop, List.drop_drop]
    by_cases hmore : moments.length < count + more
    · rw [if_pos hmore, if_pos (by omega)]
    · rw [if_neg hmore, if_neg (by omega)]

theorem takes_andThen_error {error : Error} {next : α -> Reading β}
    (h : Takes agrees bound reading count (.error error)) :
    Takes agrees bound (reading.andThen next) count (.error error) := by
  intro moments hlength hagree
  rw [andThen, h moments hlength hagree]
  by_cases hshort : moments.length < count
  · rw [if_pos hshort, if_pos hshort]
  · rw [if_neg hshort, if_neg hshort]

end Takes

/-- Whether readings, one for each bound on the moments, take the same number of moments for a
certain outcome. -/
def Settles (agrees : FileSystem → Prop) (readings : Nat → Reading α)
    (outcome : Except Error α) : Prop :=
  exists count, forall bound, Takes agrees bound (readings bound) count outcome

section Settles

variable {agrees : FileSystem -> Prop} {readings : Nat -> Reading α} {outcome : Except Error α}

theorem settles_done : Settles agrees (fun _ => done outcome) outcome :=
  ⟨0, fun _ => takes_done⟩

theorem settles_andThen {nexts : Nat -> α -> Reading β} {f : α -> Except Error β}
    (h : Settles agrees readings outcome)
    (hnext : forall a, outcome = .ok a -> Settles agrees (fun bound => nexts bound a) (f a)) :
    Settles agrees (fun bound => (readings bound).andThen (nexts bound)) (outcome >>= f) := by
  rcases h with ⟨count, hcount⟩
  cases outcome with
  | error error =>
      exact ⟨count, fun bound => takes_andThen_error (hcount bound)⟩
  | ok a =>
      rcases hnext a rfl with ⟨more, hmore⟩
      exact ⟨count + more, fun bound => takes_andThen_ok (hcount bound) (hmore bound)⟩

end Settles

end Reading

namespace Partials

/-!
# Expansions over moments
-/

/-- What takes the place of a paragraph, where files are looked at over moments. -/
abbrev InsertionOver := Node → String → Nat → Reading (List Node × Nat)

mutual
def expandNodeOver (insertion : InsertionOver) (next : Nat) (node : Node) :
    Reading (List Node × Nat) :=
  match node with
  | ⟨id, kind, value, children, position⟩ =>
      match Node.includeTarget? ⟨id, kind, value, children, position⟩ with
      | some target => insertion ⟨id, kind, value, children, position⟩ target next
      | none =>
          (expandNodesOver insertion next children).andThen fun (children, next) =>
            .done (.ok ([⟨id, kind, value, children, position⟩], next))

def expandNodesOver (insertion : InsertionOver) (next : Nat) :
    List Node → Reading (List Node × Nat)
  | [] => .done (.ok ([], next))
  | node :: nodes =>
      (expandNodeOver insertion next node).andThen fun (first, next) =>
        (expandNodesOver insertion next nodes).andThen fun (rest, next) =>
          .done (.ok (first ++ rest, next))
end

/-- What comes of the text of a file, where `expandInside` expands the trees of the file. -/
def insertText (place : Place) (marker : Node) (path : Path) (next : Nat)
    (expandInside : Place → Nat → List Node → Reading (List Node × Nat)) :
    Except FileFault String → Reading (List Node × Nat)
  | .error .notFound => .done (.error (missing place marker path))
  | .error fault => .done (.error (.file fault))
  | .ok text =>
      if path.isMarkdown then
        .look fun files =>
          let stack := place.stack ++ [files.canonical path]
          if place.stack.any (files.canonical path).same then
            .done (.error (.partialCycle place.file.text (chainText stack)))
          else
            let read := Node.ofMarkdown next text
            expandInside ⟨path, stack⟩ read.2 read.1.children
      else
        .done (.ok ([literal next path text], next + 1))

/-- What takes the place of a paragraph in a file.  Each file takes a moment to look at, so files
can be no deeper inside each other than there are moments. -/
def insertionOver (directory : Path) : Nat → Place → InsertionOver
  | 0, _ => fun _ _ _ _ => none
  | depth + 1, place => fun marker target next =>
      .look fun files =>
        insertText place marker (directory.join target) next
          (fun inner => expandNodesOver (insertionOver directory depth inner))
          (files.readText (directory.join target))

/-- Expands the tree of a file over moments. -/
def expandOver (file directory : Path) (next : Nat) (root : Node) : Reading (Node × Nat) :=
  .look fun files moments =>
    let place : Place := ⟨file, [files.canonical file]⟩
    let expanded := expandNodesOver (insertionOver directory moments.length place) next root.children
    (expanded.andThen fun (children, next) => .done (.ok ({ root with children }, next))) moments

/-!
# Files that are followed
-/

/-- Whether a path is that of a file that is looked at when includes are followed. -/
def Reaches (files : FileSystem) (directory : Path) (place : Place) (includes : List Include)
    (path : Path) : Prop :=
  exists trail last lastIncludes wanted,
    Walk files directory place includes trail last lastIncludes ∧ wanted ∈ lastIncludes ∧
      path = directory.join wanted.target

/-- Whether a file is read alike whenever files agree. -/
def ReadAlike (agrees : FileSystem → Prop) (files : FileSystem) (path : Path) : Prop :=
  forall other, agrees other ->
    other.readText path = files.readText path ∧ other.canonical path = files.canonical path

variable {agrees : FileSystem -> Prop} {files : FileSystem} {directory : Path} {place : Place}
  {includes : List Include}

theorem reaches_here {wanted : Include} (h : wanted ∈ includes) :
    Reaches files directory place includes (directory.join wanted.target) :=
  ⟨[], place, includes, wanted, .stay, h, rfl⟩

theorem reaches_inside {wanted : Include} {text : String} {path : Path} (h : wanted ∈ includes)
    (hread : files.readText (directory.join wanted.target) = .ok text)
    (hmarkdown : (directory.join wanted.target).isMarkdown = true)
    (hpath : Reaches files directory (inside files directory place wanted)
      (Node.includesOfText text) path) :
    Reaches files directory place includes path := by
  rcases hpath with ⟨trail, last, lastIncludes, other, hwalk, hother, rfl⟩
  rcases List.mem_iff_getElem?.mp h with ⟨index, hindex⟩
  exact ⟨index :: trail, last, lastIncludes, other,
    .follow hindex hread hmarkdown hwalk, hother, rfl⟩

/-!
# Outcomes
-/

/-- Trees settle if what takes the place of their paragraphs does. -/
theorem settles_expandNodes {overs : Nat -> InsertionOver} {insertion : Insertion}
    {nodes : List Node}
    (h : forall marker target next, ⟨target, marker.position⟩ ∈ Node.includesOf nodes ->
      Reading.Settles agrees (fun depth => overs depth marker target next)
        (insertion marker target next)) (next : Nat) :
    Reading.Settles agrees (fun depth => expandNodesOver (overs depth) next nodes)
      (expandNodes insertion next nodes) := by
  induction nodes using Node.forest_induction generalizing next with
  | nil =>
      simp only [expandNodesOver, expandNodes]
      exact Reading.settles_done
  | cons node rest ihChildren ihRest =>
      rw [Node.includesOf_cons] at h
      have hfirst : Reading.Settles agrees (fun depth => expandNodeOver (overs depth) next node)
          (expandNode insertion next node) := by
        cases node with
        | mk id kind value children position =>
            cases htarget : Node.includeTarget? ⟨id, kind, value, children, position⟩ with
            | some target =>
                simp only [expandNodeOver, expandNode, htarget]
                apply h
                rw [Node.includes_include htarget]
                exact List.mem_cons_self
            | none =>
                simp only [expandNodeOver, expandNode, htarget]
                apply Reading.settles_andThen
                · apply ihChildren
                  intro marker target next hmem
                  apply h
                  rw [Node.includes_keep htarget]
                  exact List.mem_append_left _ hmem
                · rintro ⟨expanded, free⟩ _
                  exact Reading.settles_done
      simp only [expandNodesOver, expandNodes]
      apply Reading.settles_andThen hfirst
      rintro ⟨first, middle⟩ _
      apply Reading.settles_andThen
      · apply ihRest
        intro marker target next hmem
        exact h marker target next (List.mem_append_right _ hmem)
      · rintro ⟨after, free⟩ _
        exact Reading.settles_done

/-- Includes in the trees of a file settle if the files that they lead to are read alike. -/
theorem settles_insertion (place : Place) {nodes : List Node}
    (hinside : forall path text, files.readText path = .ok text ->
      ¬ place.stack.any (files.canonical path).same = true ->
        forall next, (forall other, Reaches files directory
            ⟨path, place.stack ++ [files.canonical path]⟩ (Node.includesOfText text) other ->
          ReadAlike agrees files other) ->
        Reading.Settles agrees
          (fun depth => expandNodesOver
            (insertionOver directory depth ⟨path, place.stack ++ [files.canonical path]⟩)
            (Node.ofMarkdown next text).2 (Node.ofMarkdown next text).1.children)
          (expandNodes
            (insertion files directory ⟨path, place.stack ++ [files.canonical path]⟩)
            (Node.ofMarkdown next text).2 (Node.ofMarkdown next text).1.children))
    (h : forall path, Reaches files directory place (Node.includesOf nodes) path ->
      ReadAlike agrees files path)
    {marker : Node} {target : String} (next : Nat)
    (hmem : ⟨target, marker.position⟩ ∈ Node.includesOf nodes) :
    Reading.Settles agrees (fun depth => insertionOver directory depth place marker target next)
      (insertion files directory place marker target next) := by
  have halike : ReadAlike agrees files (directory.join target) :=
    h _ (reaches_here hmem)
  -- A first look is always taken, so it is enough to tell what comes after it.
  have hlook : exists count, forall depth other, agrees other ->
      Reading.Takes agrees depth
        (insertText place marker (directory.join target) next
          (fun inner => expandNodesOver (insertionOver directory depth inner))
          (other.readText (directory.join target)))
        count (insertion files directory place marker target next) := by
    rw [insertion_eq]
    cases hread : files.readText (directory.join target) with
    | error fault =>
        refine ⟨0, ?_⟩
        intro depth other hother
        rw [(halike other hother).1, hread]
        cases fault with
        | notFound =>
            exact Reading.takes_done
        | _ =>
            exact Reading.takes_done
    | ok text =>
        cases hmarkdown : (directory.join target).isMarkdown with
        | false =>
            refine ⟨0, ?_⟩
            intro depth other hother
            rw [(halike other hother).1, hread, insertText, hmarkdown]
            dsimp only
            rw [if_neg Bool.false_ne_true, if_neg Bool.false_ne_true]
            exact Reading.takes_done
        | true =>
            by_cases hstack :
                place.stack.any (files.canonical (directory.join target)).same = true
            · refine ⟨1, ?_⟩
              intro depth other hother
              rw [(halike other hother).1, hread, insertText, hmarkdown]
              dsimp only
              rw [if_pos rfl, if_pos rfl, if_pos hstack]
              apply Reading.takes_look
              intro later hlater
              rw [(halike later hlater).2, if_pos hstack]
              exact Reading.takes_done
            · have hreached : forall path, Reaches files directory
                  ⟨directory.join target,
                    place.stack ++ [files.canonical (directory.join target)]⟩
                  (Node.includesOfText text) path -> ReadAlike agrees files path := by
                intro path hpath
                exact h path (reaches_inside hmem hread hmarkdown hpath)
              rcases hinside _ _ hread hstack next hreached with ⟨count, hcount⟩
              refine ⟨count + 1, ?_⟩
              intro depth other hother
              rw [(halike other hother).1, hread, insertText, hmarkdown]
              dsimp only
              rw [if_pos rfl, if_pos rfl, if_neg hstack]
              apply Reading.takes_look
              intro later hlater
              rw [(halike later hlater).2, if_neg hstack]
              exact (hcount depth).mono (Nat.sub_le _ _)
  rcases hlook with ⟨count, hcount⟩
  refine ⟨count + 1, ?_⟩
  intro depth
  cases depth with
  | zero =>
      exact Reading.takes_none rfl
  | succ depth =>
      apply Reading.takes_look
      exact hcount depth

/-- Trees of a file settle if the files that their includes lead to are read alike. -/
theorem settles_trees (place : Place) {nodes : List Node}
    (h : forall path, Reaches files directory place (Node.includesOf nodes) path ->
      ReadAlike agrees files path) (next : Nat) :
    Reading.Settles agrees
      (fun depth => expandNodesOver (insertionOver directory depth place) next nodes)
      (expandNodes (insertion files directory place) next nodes) := by
  induction place using place_induction files generalizing nodes next with
  | step place ih =>
      apply settles_expandNodes
      intro marker target next hmem
      apply settles_insertion place _ h next hmem
      intro path text hread hnew next hreaches
      apply ih path text hread hnew
      intro other hother
      rw [Node.includesOf_ofMarkdown] at hother
      exact hreaches other hother

/-- The tree of a document settles if the document and the files that its includes lead to are
read alike. -/
theorem exists_takes_expandOver {document : Path} {root : Node}
    (hdocument : ReadAlike agrees files document)
    (h : forall path,
      Reaches files directory (start files document) (Node.includesOf root.children) path ->
        ReadAlike agrees files path) (next : Nat) :
    exists count, forall bound, Reading.Takes agrees bound
      (expandOver document directory next root) count
      (expand files document directory next root) := by
  have hsettles : Reading.Settles agrees
      (fun depth => (expandNodesOver (insertionOver directory depth (start files document)) next
        root.children).andThen fun result =>
          .done (.ok ({ root with children := result.1 }, result.2)))
      (expand files document directory next root) := by
    apply Reading.settles_andThen (settles_trees _ h next)
    intro result _
    exact Reading.settles_done
  rcases hsettles with ⟨count, hcount⟩
  refine ⟨count + 1, ?_⟩
  intro bound
  cases bound with
  | zero =>
      exact Reading.takes_none rfl
  | succ bound =>
      apply Reading.takes_look
      intro other hother moments hlength hagree
      rw [(hdocument other hother).2]
      exact hcount moments.length moments (Nat.le_refl _) hagree

end Partials
end Docloom
