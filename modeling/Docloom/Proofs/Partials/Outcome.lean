import Docloom.Proofs.Partials.Walk

/-!
# Outcomes of expansions

An include is offensive when the file it names cannot be read, or is markdown and on the
walk to the include already.  An expansion fails at the first offensive include in document
order, and succeeds when there is none.
-/

namespace Docloom
namespace Partials

section Offences

variable (files : FileSystem) (directory : Path)

/-- The includes that stop an expansion, and the errors they cause. -/
inductive Offends (place : Place) (wanted : Include) : Error -> Prop where
  | missing (hread : files.readText (directory.join wanted.target) = .error .notFound) :
      Offends place wanted
        (.missingPartial place.file.text (directory.join wanted.target).text
          ((wanted.position.map Position.startLine).getD 0)
          ((wanted.position.map Position.startColumn).getD 0))
  | unreadable (hread : files.readText (directory.join wanted.target) = .error fault)
      (hfault : fault ≠ .notFound) :
      Offends place wanted (.file fault)
  | cycle (hread : files.readText (directory.join wanted.target) = .ok text)
      (hmarkdown : (directory.join wanted.target).isMarkdown = true)
      (hopen : exists opened, opened ∈ place.stack ∧
        (files.canonical (directory.join wanted.target)).same opened = true) :
      Offends place wanted
        (.partialCycle place.file.text (chainText (inside files directory place wanted).stack))

/-- An offensive include at the end of a walk.  The trail is that of the walk, and the index
of the include after it. -/
inductive Offence (place : Place) (includes : List Include) : List Nat -> Error -> Prop where
  | mk (hwalk : Walk files directory place includes trail last lastIncludes)
      (hwanted : lastIncludes[index]? = some wanted)
      (hoffends : Offends files directory last wanted error) :
      Offence place includes (trail ++ [index]) error

/-- The first offence, in the order of the document with what it includes in place. -/
def FirstOffence (place : Place) (includes : List Include) (error : Error) : Prop :=
  exists trail, Offence files directory place includes trail error ∧
    forall earlier other, earlier < trail ->
      ¬ Offence files directory place includes earlier other

end Offences

variable {files : FileSystem} {directory : Path} {place : Place}
  {includes left right : List Include}

/-!
# Trails of offences
-/

theorem not_offence_nil {error : Error} : ¬ Offence files directory place includes [] error := by
  generalize htrail : ([] : List Nat) = trail
  intro h
  cases h with
  | mk hwalk hwanted hoffends =>
      simp at htrail

/-- An offence is at an include of the file, or inside the file that it names. -/
theorem offence_cons_iff {index : Nat} {trail : List Nat} {error : Error} :
    Offence files directory place includes (index :: trail) error ↔
      exists wanted, includes[index]? = some wanted ∧
        ((trail = [] ∧ Offends files directory place wanted error) ∨
          exists text, files.readText (directory.join wanted.target) = .ok text ∧
            (directory.join wanted.target).isMarkdown = true ∧
              Offence files directory (inside files directory place wanted)
                (Node.includesOfText text) trail error) := by
  constructor
  · generalize htrail : index :: trail = whole
    intro h
    cases h with
    | mk hwalk hwanted hoffends =>
        cases hwalk with
        | stay =>
            cases htrail
            exact ⟨_, hwanted, Or.inl ⟨rfl, hoffends⟩⟩
        | follow hfirst hread hmarkdown hrest =>
            cases htrail
            exact ⟨_, hfirst, Or.inr ⟨_, hread, hmarkdown, .mk hrest hwanted hoffends⟩⟩
  · intro h
    rcases h with ⟨wanted, hwanted, ⟨rfl, hoffends⟩ | ⟨text, hread, hmarkdown, hrest⟩⟩
    · exact .mk .stay hwanted hoffends
    · cases hrest with
      | mk hwalk hlast hoffends =>
          exact .mk (.follow hwanted hread hmarkdown hwalk) hlast hoffends

theorem offence_append_iff {index : Nat} {trail : List Nat} {error : Error} :
    Offence files directory place (left ++ right) (index :: trail) error ↔
      (index < left.length ∧ Offence files directory place left (index :: trail) error) ∨
        (left.length ≤ index ∧
          Offence files directory place right ((index - left.length) :: trail) error) := by
  rw [offence_cons_iff, offence_cons_iff, offence_cons_iff]
  rcases Nat.lt_or_ge index left.length with hlt | hge
  · rw [List.getElem?_append_left hlt]
    simp [hlt, Nat.not_le.mpr hlt]
  · rw [List.getElem?_append_right hge]
    simp [hge]

theorem offence_lt_length {index : Nat} {trail : List Nat} {error : Error}
    (h : Offence files directory place includes (index :: trail) error) :
    index < includes.length := by
  rcases offence_cons_iff.mp h with ⟨wanted, hwanted, _⟩
  exact (List.getElem?_eq_some_iff.mp hwanted).1

/-- No trail is empty, so it is enough to look at the offences that start at some include. -/
theorem not_offence_of_cons
    (h : forall index trail error,
      ¬ Offence files directory place includes (index :: trail) error) :
    forall trail error, ¬ Offence files directory place includes trail error := by
  intro trail error
  cases trail with
  | nil =>
      exact not_offence_nil
  | cons index trail =>
      exact h index trail error

theorem firstOffence_iff {error : Error} :
    FirstOffence files directory place includes error ↔
      exists index trail, Offence files directory place includes (index :: trail) error ∧
        forall start rest other, (start < index ∨ start = index ∧ rest < trail) ->
          ¬ Offence files directory place includes (start :: rest) other := by
  constructor
  · intro h
    rcases h with ⟨trail, hoffence, hearlier⟩
    cases trail with
    | nil =>
        exact absurd hoffence not_offence_nil
    | cons index trail =>
        refine ⟨index, trail, hoffence, ?_⟩
        intro start rest other hbefore
        exact hearlier _ other (List.cons_lt_cons_iff.mpr hbefore)
  · intro h
    rcases h with ⟨index, trail, hoffence, hearlier⟩
    refine ⟨index :: trail, hoffence, ?_⟩
    intro earlier other hlt
    cases earlier with
    | nil =>
        exact not_offence_nil
    | cons start rest =>
        exact hearlier start rest other (List.cons_lt_cons_iff.mp hlt)

/-!
# The first offence
-/

theorem offends_unique {wanted : Include} {error other : Error}
    (h : Offends files directory place wanted error)
    (hother : Offends files directory place wanted other) : error = other := by
  cases h with
  | missing hread =>
      cases hother with
      | missing _ =>
          rfl
      | unreadable hreadOther hfault =>
          rw [hread] at hreadOther
          cases hreadOther
          exact absurd rfl hfault
      | cycle hreadOther _ _ =>
          rw [hread] at hreadOther
          cases hreadOther
  | unreadable hread hfault =>
      cases hother with
      | missing hreadOther =>
          rw [hread] at hreadOther
          cases hreadOther
          exact absurd rfl hfault
      | unreadable hreadOther _ =>
          rw [hread] at hreadOther
          cases hreadOther
          rfl
      | cycle hreadOther _ _ =>
          rw [hread] at hreadOther
          cases hreadOther
  | cycle hread _ _ =>
      cases hother with
      | missing hreadOther =>
          rw [hread] at hreadOther
          cases hreadOther
      | unreadable hreadOther _ =>
          rw [hread] at hreadOther
          cases hreadOther
      | cycle _ _ _ =>
          rfl

theorem offence_unique {trail : List Nat} {error other : Error}
    (h : Offence files directory place includes trail error)
    (hother : Offence files directory place includes trail other) : error = other := by
  cases h with
  | mk hwalk hwanted hoffends =>
      rename_i walked last lastIncludes index wanted
      generalize htrail : walked ++ [index] = whole at hother
      cases hother with
      | mk hwalkOther hwantedOther hoffendsOther =>
          have hparts := List.append_inj' htrail rfl
          cases hparts.1
          cases hparts.2
          rcases hwalk.unique hwalkOther with ⟨rfl, rfl⟩
          rw [hwanted] at hwantedOther
          cases hwantedOther
          exact offends_unique hoffends hoffendsOther

theorem firstOffence_unique {error other : Error}
    (h : FirstOffence files directory place includes error)
    (hother : FirstOffence files directory place includes other) : error = other := by
  rcases h with ⟨trail, hoffence, hearlier⟩
  rcases hother with ⟨trailOther, hoffenceOther, hearlierOther⟩
  rcases Std.lt_trichotomy trail trailOther with hlt | heq | hgt
  · exact absurd hoffence (hearlierOther _ _ hlt)
  · rw [heq] at hoffence
    exact offence_unique hoffence hoffenceOther
  · exact absurd hoffenceOther (hearlier _ _ hgt)

/-!
# Outcomes
-/

/-- What the outcome of an expansion says about the offences. -/
inductive Settles (files : FileSystem) (directory : Path) (place : Place)
    (includes : List Include) : Except Error α -> Prop where
  | ok (hnone : forall trail error, ¬ Offence files directory place includes trail error) :
      Settles files directory place includes (.ok a)
  | error (hfirst : FirstOffence files directory place includes error) :
      Settles files directory place includes (.error error)

namespace Settles

variable {outcome : Except Error α}

theorem ok_iff (h : Settles files directory place includes outcome) :
    (exists a, outcome = .ok a) ↔
      forall trail error, ¬ Offence files directory place includes trail error := by
  cases h with
  | ok hnone =>
      exact ⟨fun _ => hnone, fun _ => ⟨_, rfl⟩⟩
  | error hfirst =>
      rcases hfirst with ⟨trail, hoffence, _⟩
      constructor
      · intro h
        rcases h with ⟨_, h⟩
        cases h
      · intro hnone
        exact absurd hoffence (hnone trail _)

theorem error_iff (h : Settles files directory place includes outcome) {error : Error} :
    outcome = .error error ↔ FirstOffence files directory place includes error := by
  cases h with
  | ok hnone =>
      constructor
      · intro h
        cases h
      · intro hfirst
        rcases hfirst with ⟨trail, hoffence, _⟩
        exact absurd hoffence (hnone trail error)
  | error hfirst =>
      constructor
      · intro h
        cases h
        exact hfirst
      · intro hother
        rw [firstOffence_unique hfirst hother]

end Settles

theorem settles_nil (a : α) : Settles files directory place [] (.ok a) := by
  apply Settles.ok
  apply not_offence_of_cons
  intro index trail error h
  simpa using offence_lt_length h

/-- Outcomes follow each other as the includes do. -/
theorem settles_append {first : Except Error α} {second : α -> Except Error β}
    (hfirst : Settles files directory place left first)
    (hsecond : forall a, first = .ok a -> Settles files directory place right (second a)) :
    Settles files directory place (left ++ right) (first >>= second) := by
  cases hfirst with
  | error hfirst =>
      rcases firstOffence_iff.mp hfirst with ⟨index, trail, hoffence, hearlier⟩
      have hindex := offence_lt_length hoffence
      apply Settles.error
      apply firstOffence_iff.mpr
      refine ⟨index, trail, offence_append_iff.mpr (Or.inl ⟨hindex, hoffence⟩), ?_⟩
      intro start rest other hbefore h
      rcases offence_append_iff.mp h with ⟨_, hleft⟩ | ⟨hstart, _⟩
      · exact hearlier start rest other hbefore hleft
      · omega
  | ok hnone =>
      rename_i a
      change Settles files directory place (left ++ right) (second a)
      have hrest := hsecond a rfl
      generalize second a = outcome at hrest
      cases hrest with
      | ok hnoneRight =>
          apply Settles.ok
          apply not_offence_of_cons
          intro index trail error h
          rcases offence_append_iff.mp h with ⟨_, hleft⟩ | ⟨_, hright⟩
          · exact hnone _ _ hleft
          · exact hnoneRight _ _ hright
      | error hfirst =>
          rcases firstOffence_iff.mp hfirst with ⟨index, trail, hoffence, hearlier⟩
          apply Settles.error
          apply firstOffence_iff.mpr
          refine ⟨left.length + index, trail, ?_, ?_⟩
          · apply offence_append_iff.mpr
            exact Or.inr ⟨by omega, by simpa using hoffence⟩
          · intro start rest other hbefore h
            rcases offence_append_iff.mp h with ⟨_, hleft⟩ | ⟨hstart, hright⟩
            · exact hnone _ _ hleft
            · refine hearlier _ rest other ?_ hright
              rcases hbefore with hbefore | ⟨heq, hafter⟩
              · exact Or.inl (by omega)
              · exact Or.inr ⟨by omega, hafter⟩

/-!
# Outcomes at one include
-/

variable {wanted : Include} {text : String}

theorem offence_single_iff {index : Nat} {trail : List Nat} {error : Error} :
    Offence files directory place [wanted] (index :: trail) error ↔
      index = 0 ∧ ((trail = [] ∧ Offends files directory place wanted error) ∨
        exists text, files.readText (directory.join wanted.target) = .ok text ∧
          (directory.join wanted.target).isMarkdown = true ∧
            Offence files directory (inside files directory place wanted)
              (Node.includesOfText text) trail error) := by
  rw [offence_cons_iff]
  cases index with
  | zero =>
      simp
  | succ index =>
      simp

theorem firstOffence_of_offends {error : Error}
    (hoffends : Offends files directory place wanted error) :
    FirstOffence files directory place [wanted] error := by
  apply firstOffence_iff.mpr
  refine ⟨0, [], offence_single_iff.mpr ⟨rfl, Or.inl ⟨rfl, hoffends⟩⟩, ?_⟩
  intro start rest other hbefore h
  rcases hbefore with hbefore | ⟨_, hbefore⟩
  · exact Nat.not_lt_zero _ hbefore
  · exact List.not_lt_nil rest hbefore

/-- A file that can be read offends only by being open already. -/
theorem not_offends_of_read {error : Error}
    (hread : files.readText (directory.join wanted.target) = .ok text)
    (hnew : (directory.join wanted.target).isMarkdown = true ->
      ¬ place.stack.any (files.canonical (directory.join wanted.target)).same = true) :
    ¬ Offends files directory place wanted error := by
  intro h
  cases h with
  | missing hmissing =>
      rw [hread] at hmissing
      cases hmissing
  | unreadable hfault _ =>
      rw [hread] at hfault
      cases hfault
  | cycle _ hmarkdown hopen =>
      exact hnew hmarkdown (List.any_eq_true.mpr hopen)

theorem settles_of_literal (wanted : Include) (a : α)
    (hread : files.readText (directory.join wanted.target) = .ok text)
    (hplain : ¬ (directory.join wanted.target).isMarkdown = true) :
    Settles files directory place [wanted] (.ok a) := by
  apply Settles.ok
  apply not_offence_of_cons
  intro index trail error h
  rcases offence_single_iff.mp h with ⟨_, ⟨_, hoffends⟩ | ⟨_, _, hmarkdown, _⟩⟩
  · exact not_offends_of_read hread (fun hmarkdown => absurd hmarkdown hplain) hoffends
  · exact hplain hmarkdown

/-- A file that is opened gives its own outcome to the include. -/
theorem settles_of_inside (wanted : Include) {outcome : Except Error α}
    (hread : files.readText (directory.join wanted.target) = .ok text)
    (hmarkdown : (directory.join wanted.target).isMarkdown = true)
    (hnew : ¬ place.stack.any (files.canonical (directory.join wanted.target)).same = true)
    (hinside : Settles files directory (inside files directory place wanted)
      (Node.includesOfText text) outcome) :
    Settles files directory place [wanted] outcome := by
  have honly : forall index trail error,
      Offence files directory place [wanted] (index :: trail) error ↔
        index = 0 ∧ Offence files directory (inside files directory place wanted)
          (Node.includesOfText text) trail error := by
    intro index trail error
    have hnot : ¬ Offends files directory place wanted error :=
      not_offends_of_read hread fun _ => hnew
    rw [offence_single_iff]
    simp [hnot, hread, hmarkdown]
  cases hinside with
  | ok hnone =>
      apply Settles.ok
      apply not_offence_of_cons
      intro index trail error h
      exact hnone _ _ ((honly _ _ _).mp h).2
  | error hfirst =>
      rcases hfirst with ⟨trail, hoffence, hearlier⟩
      apply Settles.error
      apply firstOffence_iff.mpr
      refine ⟨0, trail, (honly _ _ _).mpr ⟨rfl, hoffence⟩, ?_⟩
      intro start rest other hbefore h
      rcases hbefore with hbefore | ⟨_, hbefore⟩
      · exact Nat.not_lt_zero _ hbefore
      · exact hearlier rest other hbefore ((honly _ _ _).mp h).2

/-!
# Outcomes of expansions
-/

theorem insertion_settles_of_step
    (hinside : forall path text, files.readText path = .ok text ->
      ¬ place.stack.any (files.canonical path).same = true ->
        forall nodes next,
          Settles files directory ⟨path, place.stack ++ [files.canonical path]⟩
            (Node.includesOf nodes)
            (expandNodes (insertion files directory
              ⟨path, place.stack ++ [files.canonical path]⟩) next nodes))
    (marker : Node) (target : String) (next : Nat) :
    Settles files directory place [⟨target, marker.position⟩]
      (insertion files directory place marker target next) := by
  rw [insertion_eq]
  split
  · rename_i hread
    exact .error (firstOffence_of_offends (.missing hread))
  · rename_i fault hfault hread
    exact .error (firstOffence_of_offends (.unreadable hread hfault))
  · rename_i text hread
    split
    · rename_i hmarkdown
      split
      · rename_i hopen
        have hoffends : Offends files directory place ⟨target, marker.position⟩ _ :=
          .cycle hread hmarkdown (List.any_eq_true.mp hopen)
        exact .error (firstOffence_of_offends hoffends)
      · rename_i hnew
        apply settles_of_inside ⟨target, marker.position⟩ hread hmarkdown hnew
        rw [← Node.includesOf_ofMarkdown next text]
        exact hinside (directory.join target) text hread hnew
          (Node.ofMarkdown next text).1.children (Node.ofMarkdown next text).2
    · rename_i hplain
      exact settles_of_literal ⟨target, marker.position⟩ _ hread hplain

theorem expandNodes_settles_of_insertion
    (hinsertion : forall marker target next,
      Settles files directory place [⟨target, marker.position⟩]
        (insertion files directory place marker target next))
    (nodes : List Node) (next : Nat) :
    Settles files directory place (Node.includesOf nodes)
      (expandNodes (insertion files directory place) next nodes) := by
  induction nodes using Node.forest_induction generalizing next with
  | nil =>
      exact settles_nil _
  | cons node rest ihChildren ihRest =>
      rw [expandNodes_cons, Node.includesOf_cons]
      apply settles_append
      · cases htarget : node.includeTarget? with
        | none =>
            rw [expandNode_keep htarget, Node.includes_keep htarget,
              ← List.append_nil (Node.includesOf node.children)]
            apply settles_append (ihChildren next)
            intro expanded _
            exact settles_nil _
        | some target =>
            rw [expandNode_include htarget, Node.includes_include htarget]
            exact hinsertion node target next
      · intro expanded _
        rw [← List.append_nil (Node.includesOf rest)]
        apply settles_append (ihRest _)
        intro after _
        exact settles_nil _

theorem expandNodes_settles (place : Place) (nodes : List Node) (next : Nat) :
    Settles files directory place (Node.includesOf nodes)
      (expandNodes (insertion files directory place) next nodes) := by
  induction place using place_induction files generalizing nodes next with
  | step place ih =>
      apply expandNodes_settles_of_insertion
      apply insertion_settles_of_step
      exact ih

theorem expand_settles (document : Path) (next : Nat) (root : Node) :
    Settles files directory (start files document)
      (Node.includesOf root.children) (expand files document directory next root) := by
  rw [expand, ← List.append_nil (Node.includesOf root.children)]
  apply settles_append (expandNodes_settles _ _ next)
  intro expanded _
  exact settles_nil _

/-!
# Success and failure
-/

theorem apart_of_not_offence {last : Place} {lastIncludes : List Include} {trail : List Nat}
    (hwalk : Walk files directory place includes trail last lastIncludes)
    (hnone : forall trail error, ¬ Offence files directory place includes trail error)
    (hapart : Apart place.stack) : Apart last.stack := by
  induction hwalk with
  | stay =>
      exact hapart
  | follow hwanted hread hmarkdown hrest ih =>
      apply ih
      · intro trail error hoffence
        apply hnone
        exact offence_cons_iff.mpr
          ⟨_, hwanted, Or.inr ⟨_, hread, hmarkdown, hoffence⟩⟩
      · apply apart_snoc_iff.mpr
        refine ⟨hapart, ?_⟩
        intro hopen
        exact hnone _ _
          (.mk .stay hwanted (.cycle hread hmarkdown (List.any_eq_true.mp hopen)))

/-- Nothing offends exactly when all walks can go on and none comes back to a file that is on
it already. -/
theorem not_offence_iff (hapart : Apart place.stack) :
    (forall trail error, ¬ Offence files directory place includes trail error) ↔
      forall trail last lastIncludes,
        Walk files directory place includes trail last lastIncludes ->
          Apart last.stack ∧ forall wanted, wanted ∈ lastIncludes ->
            exists text, files.readText (directory.join wanted.target) = .ok text := by
  constructor
  · intro hnone trail last lastIncludes hwalk
    constructor
    · exact apart_of_not_offence hwalk hnone hapart
    · intro wanted hwanted
      rcases List.mem_iff_getElem?.mp hwanted with ⟨index, hindex⟩
      cases hread : files.readText (directory.join wanted.target) with
      | ok text =>
          exact ⟨text, rfl⟩
      | error fault =>
          by_cases hfault : fault = .notFound
          · rw [hfault] at hread
            exact absurd (.mk hwalk hindex (.missing hread)) (hnone _ _)
          · exact absurd (.mk hwalk hindex (.unreadable hread hfault)) (hnone _ _)
  · intro hwalks trail error hoffence
    cases hoffence with
    | mk hwalk hwanted hoffends =>
        rcases hwalks _ _ _ hwalk with ⟨_, hreadable⟩
        rcases hreadable _ (List.mem_of_getElem? hwanted) with ⟨text, hread⟩
        cases hoffends with
        | missing hmissing =>
            rw [hread] at hmissing
            cases hmissing
        | unreadable hfault _ =>
            rw [hread] at hfault
            cases hfault
        | cycle _ hmarkdown hopen =>
            rcases hwalks _ _ _ (hwalk.snoc hwanted hread hmarkdown) with ⟨hnew, _⟩
            exact (apart_snoc_iff.mp hnew).2 (List.any_eq_true.mpr hopen)

/-- An expansion always ends: no walk goes deeper than there are files without coming back.
It succeeds exactly when all files that are reached can be read and no walk comes back to a
file that is on it already, and otherwise fails with the error of the first offence. -/
theorem expand_exact (files : FileSystem) (document directory : Path) (next : Nat)
    (root : Node) :
    (forall trail last lastIncludes,
      Walk files directory (start files document) (Node.includesOf root.children)
          trail last lastIncludes ->
        Apart last.stack -> trail.length ≤ files.entries.length) ∧
    ((exists result free, expand files document directory next root = .ok (result, free)) ↔
      forall trail last lastIncludes,
        Walk files directory (start files document) (Node.includesOf root.children)
            trail last lastIncludes ->
          Apart last.stack ∧ forall wanted, wanted ∈ lastIncludes ->
            exists text, files.readText (directory.join wanted.target) = .ok text) ∧
    forall error, expand files document directory next root = .error error ↔
      FirstOffence files directory (start files document) (Node.includesOf root.children)
        error := by
  have hsettles : Settles files directory (start files document)
      (Node.includesOf root.children) (expand files document directory next root) :=
    expand_settles document next root
  have hapart : Apart (start files document).stack := apart_singleton _
  refine ⟨?_, ?_, ?_⟩
  · intro trail last lastIncludes hwalk hapartLast
    exact hwalk.length_le hapartLast
  · rw [← not_offence_iff hapart, ← hsettles.ok_iff]
    simp only [Prod.exists]
  · intro error
    exact hsettles.error_iff

/-!
# Targets that are not there

A path that goes through a file leads nowhere, but what is wrong with it is not that there
is nothing at its end.  Such a target is told as unreadable and not as missing.
-/

/-- A file system with one file, where partials are looked for. -/
def oneFile : FileSystem where
  entries := [(["partials"], .directory), (["partials", "a.md"], .file (.text "x\n"))]
  current := []

theorem unreadable_without_target :
    ¬ forall (files : FileSystem) (document directory : Path) (next : Nat) (root : Node)
        (fault : FileFault),
      expand files document directory next root = .error (.file fault) ->
        exists trail last lastIncludes wanted found,
          Walk files directory (start files document) (Node.includesOf root.children)
            trail last lastIncludes ∧
          wanted ∈ lastIncludes ∧
          files.readText (directory.join wanted.target) = .error fault ∧
          files.find (directory.join wanted.target) = .ok found := by
  let wanted : Include := ⟨"a.md/b.md", some ⟨1, 1, 1, 21⟩⟩
  have hincludes : Node.includesOfText "@include 'a.md/b.md'\n" = [wanted] := by
    decide +kernel
  have hread : oneFile.readText (Path.join ⟨"/partials"⟩ "a.md/b.md") =
      .error .notADirectory := by
    decide +kernel
  have hfind : oneFile.find (Path.join ⟨"/partials"⟩ "a.md/b.md") =
      .error .notADirectory := by
    decide +kernel
  have hexpand : expand oneFile ⟨"/doc.mdx"⟩ ⟨"/partials"⟩ 0
      (Node.ofMarkdown 0 "@include 'a.md/b.md'\n").1 = .error (.file .notADirectory) := by
    apply (expand_settles _ _ _).error_iff.mpr
    rw [Node.includesOf_ofMarkdown, hincludes]
    exact firstOffence_of_offends (.unreadable hread (by decide))
  intro h
  rcases h _ _ _ _ _ _ hexpand with
    ⟨trail, last, lastIncludes, reached, found, hwalk, hreached, _, hfound⟩
  rw [Node.includesOf_ofMarkdown, hincludes] at hwalk
  cases hwalk with
  | stay =>
      rw [List.mem_singleton.mp hreached, hfind] at hfound
      cases hfound
  | follow hfirst hreadFirst _ _ =>
      rw [List.mem_singleton.mp (List.mem_of_getElem? hfirst), hread] at hreadFirst
      cases hreadFirst

end Partials
end Docloom
