import Docloom.Proofs.Directive.Parallel
import Mathlib.Data.Set.Function

/-!
# Removal by identity

In which lines and columns the nodes of a tree stand has no influence on what is removed, and
neither have the ids themselves, as long as different nodes have different ids.  Lines are only
cited in errors.
-/

namespace Docloom

open Node

/-!
# Lines
-/

namespace Error

/-- The error without the lines and columns that it cites. -/
def unlined : Error -> Error
  | .nestedBlock _ _ => .nestedBlock 0 0
  | .emptyDirective marker _ => .emptyDirective marker 0
  | .unmatchedEnd content _ => .unmatchedEnd content 0
  | .mismatchedBlock begins _ ends _ => .mismatchedBlock begins 0 ends 0
  | .unclosedBlock content _ => .unclosedBlock content 0
  | .detachedBlock content _ _ => .detachedBlock content 0 0
  | .unknownDirectiveProduct product content _ _ => .unknownDirectiveProduct product content 0 0
  | .invalidDirective product directive expected _ _ =>
      .invalidDirective product directive expected 0 0
  | .missingDocumentVersion content _ _ => .missingDocumentVersion content 0 0
  | .contentExclusion document cause => .contentExclusion document cause.unlined
  | .missingPartial document wanted _ _ => .missingPartial document wanted 0 0
  | error => error

/-- Whether two errors differ at most in the lines and columns that they cite. -/
def SameButLines (first second : Error) : Prop := second.unlined = first.unlined

theorem map_unlined_of_rel {first second : Option Error}
    (h : Option.Rel SameButLines first second) : second.map unlined = first.map unlined := by
  cases h with
  | none =>
      rfl
  | some herror =>
      exact congrArg some herror

end Error

namespace Exclusion

section Verdicts

variable {block other : DirectiveBlock}

theorem onlyLabel_of_content (product rest : String) :
    Agree Error.SameButLines Eq (Directive.onlyLabel product rest block)
      (Directive.onlyLabel product rest other) := by
  unfold Directive.onlyLabel
  dsimp only
  split
  · exact .ok rfl
  · split
    · exact .error rfl
    · split
      · exact .error rfl
      · exact .ok rfl

theorem parse_of_content (h : other.content = block.content) :
    Agree Error.SameButLines Eq (Directive.parse block) (Directive.parse other) := by
  unfold Directive.parse
  rw [h]
  dsimp only
  split
  · exact .ok rfl
  · split
    · exact (onlyLabel_of_content _ _).map _
    · split
      · exact (onlyLabel_of_content _ _).map _
      · exact .error rfl

theorem evaluate_of_content (h : other.content = block.content) (expression : String)
    (version : Option String) :
    Agree Error.SameButLines Eq (Directive.evaluate expression block version)
      (Directive.evaluate expression other version) := by
  unfold Directive.evaluate
  rw [h]
  split
  · exact .error rfl
  · split
    · exact .error rfl
    · split
      · exact .error rfl
      · exact .error rfl
      · exact .error rfl
      · exact .ok rfl

theorem keeps_of_content (h : other.content = block.content) (directive : Directive)
    (product : String) (version : Option String) :
    Agree Error.SameButLines Eq (directive.keeps block product version)
      (directive.keeps other product version) := by
  cases directive with
  | vault expression =>
      simp only [Directive.keeps]
      split
      · exact evaluate_of_content h expression version
      · exact .ok rfl
  | tfc label =>
      exact .ok rfl
  | tfEnterprise label =>
      exact .ok rfl

/-- A verdict is about the content of a block. -/
theorem verdict_of_content (audience : Audience) (h : other.content = block.content) :
    Agree Error.SameButLines Eq (verdict audience block) (verdict audience other) := by
  apply (parse_of_content h).bind
  rintro directive _ rfl
  exact keeps_of_content h directive audience.product audience.version

end Verdicts

end Exclusion

/-!
# Renamed trees
-/

/-- Whether a node has another's label but for its id, which is the renamed one, and for the
lines and columns of its position. -/
structure Node.Label.Renames (rename : Nat -> Nat) (label other : Node.Label) : Prop where
  id : other.id = rename label.id
  kind : other.kind = label.kind
  value : other.value = label.value
  position : other.position.isSome = label.position.isSome

/-- Whether a marker is another one but for its id, which is the renamed one, and its line. -/
structure MarkerNode.Renames (rename : Nat -> Nat) (found other : MarkerNode) : Prop where
  id : other.id = rename found.id
  marker : other.marker = found.marker

/-- Whether a block is another one but for its ids, which are the renamed ones, and its
lines. -/
structure DirectiveBlock.Renames (rename : Nat -> Nat) (block other : DirectiveBlock) : Prop where
  start : other.start = rename block.start
  stop : other.stop = rename block.stop
  content : other.content = block.content

section Renaming

variable {rename : Nat -> Nat}

theorem marker?_renames {node other : Node} (h : Label.Renames rename node.label other.label) :
    Option.Rel (MarkerNode.Renames rename) node.marker? other.marker? := by
  have hkind : other.kind = node.kind := h.kind
  have hvalue : other.value = node.value := h.value
  have hposition : other.position.isSome = node.position.isSome := h.position
  have hid : other.id = rename node.id := h.id
  rw [marker?_eq, marker?_eq, hkind, hvalue]
  cases hfirst : node.position with
  | none =>
      have hplace : other.position = none := by
        simpa [hfirst] using hposition
      rw [hplace]
      exact .none
  | some position =>
      rw [hfirst] at hposition
      rcases Option.isSome_iff_exists.mp hposition with ⟨place, hplace⟩
      rw [hplace]
      cases node.value with
      | none =>
          exact .none
      | some value =>
          rw [Option.bind_some, Option.bind_some, Option.bind_some, Option.bind_some]
          split
          · cases Marker.parse? value with
            | none =>
                exact .none
            | some marker =>
                exact .some ⟨hid, rfl⟩
          · exact .none

theorem markers_renames {nodes others : List Node}
    (h : Parallel (Label.Renames rename) nodes others) :
    List.Forall₂ (MarkerNode.Renames rename) ((nodesOf nodes).filterMap marker?)
      ((nodesOf others).filterMap marker?) :=
  List.rel_filterMap (fun _ _ hlabel => marker?_renames hlabel) h.forall₂_nodesOf

theorem idsOf_renames {nodes others : List Node}
    (h : Parallel (Label.Renames rename) nodes others) :
    idsOf others = (idsOf nodes).map rename := by
  induction h with
  | nil =>
      rfl
  | cons hlabel hchildren hrest ihChildren ihRest =>
      rw [idsOf_cons, idsOf_cons, ihChildren, ihRest, List.map_cons, List.map_append]
      exact congrArg (· :: _) hlabel.id

/-- Markers that differ in nothing but ids and lines make up blocks that differ in nothing
else, or they fail in the same way. -/
theorem pair_renames {markers others : List MarkerNode}
    (h : List.Forall₂ (MarkerNode.Renames rename) markers others) {open_ begun : Option MarkerNode}
    (hopen : Option.Rel (MarkerNode.Renames rename) open_ begun) :
    Agree Error.SameButLines (List.Forall₂ (DirectiveBlock.Renames rename))
      (DirectiveBlock.pair open_ markers) (DirectiveBlock.pair begun others) := by
  induction h generalizing open_ begun with
  | nil =>
      cases hopen with
      | none =>
          exact .ok .nil
      | some hbegun =>
          rw [DirectiveBlock.pair, DirectiveBlock.pair, hbegun.marker]
          exact .error rfl
  | @cons current other rest others hcurrent hrest ih =>
      cases hopen with
      | none =>
          unfold DirectiveBlock.pair
          rw [hcurrent.marker]
          cases current.marker.kind with
          | begins =>
              dsimp only
              split
              · exact .error rfl
              · exact ih (.some hcurrent)
          | ends =>
              exact .error rfl
      | @some begun last hbegun =>
          unfold DirectiveBlock.pair
          rw [hcurrent.marker]
          cases current.marker.kind with
          | begins =>
              exact .error rfl
          | ends =>
              dsimp only
              rw [hbegun.marker]
              split
              · exact .error rfl
              · split
                · exact .error rfl
                · have hblocks := ih .none
                  cases hpair : DirectiveBlock.pair none rest with
                  | error error =>
                      rcases hblocks.exists_of_error hpair with ⟨last, hother, herror⟩
                      rw [hother]
                      exact .error herror
                  | ok blocks =>
                      rcases hblocks.exists_of_ok hpair with ⟨last, hother, hforall⟩
                      rw [hother]
                      exact .ok (.cons ⟨hbegun.id, hcurrent.id, rfl⟩ hforall)

theorem directiveBlocks_renames {root other : Node}
    (h : Parallel (Label.Renames rename) [root] [other]) :
    Agree Error.SameButLines (List.Forall₂ (DirectiveBlock.Renames rename)) root.directiveBlocks
      other.directiveBlocks := by
  have hmarkers := markers_renames h
  rw [nodesOf_singleton, nodesOf_singleton] at hmarkers
  exact pair_renames hmarkers .none

/-- Ids that are renamed to different ids name the same nodes after that. -/
theorem namesAlike_of_renames {ids : List Nat} (hinjective : Set.InjOn rename {id | id ∈ ids})
    {block other : DirectiveBlock} (hstart : block.start ∈ ids) (hstop : block.stop ∈ ids)
    (h : DirectiveBlock.Renames rename block other) :
    block.NamesAlike (fun a b => Label.Renames rename a b ∧ a.id ∈ ids) other := by
  rintro a b ⟨hlabel, hid⟩
  rw [hlabel.id, h.start, h.stop]
  exact ⟨(hinjective.eq_iff hid hstart).symm, (hinjective.eq_iff hid hstop).symm⟩

end Renaming

namespace Exclusion

section Renaming

variable {rename : Nat -> Nat} {root other : Node}

/-- The blocks of a tree and those of its renamed tree are treated alike. -/
theorem blocks_correspond (audience : Audience)
    (hinjective : Set.InjOn rename {id | id ∈ root.ids})
    (h : Parallel (Label.Renames rename) [root] [other]) :
    Agree Error.SameButLines
      (List.Forall₂ (Corresponds audience
        (fun a b => Label.Renames rename a b ∧ a.id ∈ root.ids) Error.SameButLines))
      root.directiveBlocks other.directiveBlocks := by
  have hblocks := directiveBlocks_renames h
  cases hpair : root.directiveBlocks with
  | error error =>
      rcases hblocks.exists_of_error hpair with ⟨last, hother, herror⟩
      rw [hother]
      exact .error herror
  | ok blocks =>
      rcases hblocks.exists_of_ok hpair with ⟨others, hother, hforall⟩
      rw [hother]
      have hends : forall block, block ∈ blocks ->
          block.start ∈ root.ids ∧ block.stop ∈ root.ids := by
        intro block hblock
        have hmem : forall id, id ∈ block.ends -> id ∈ root.ids := by
          intro id hid
          exact (ends_sublist hpair).subset (List.mem_flatMap.mpr ⟨block, hblock, hid⟩)
        exact ⟨hmem _ (by simp [DirectiveBlock.ends]), hmem _ (by simp [DirectiveBlock.ends])⟩
      refine .ok (((List.forall₂_and_left _ _).mpr ⟨hends, hforall⟩).imp ?_)
      rintro block last ⟨⟨hstart, hstop⟩, hrenames⟩
      refine ⟨namesAlike_of_renames hinjective hstart hstop hrenames,
        verdict_of_content audience hrenames.content, ?_⟩
      rw [hrenames.content]
      rfl

end Renaming

/-- When a tree differs from another one in nothing but its ids, which are renamed, and the lines
and columns of its positions, an audience is left with trees that differ in nothing else; and
the work on them succeeds for both or fails for both with errors that differ at most in the
lines that they cite. -/
theorem apply_renamed (audience : Audience) (config : ProductConfig) {rename : Nat -> Nat}
    {root other : Node} (hinjective : Set.InjOn rename {id | id ∈ root.ids})
    (h : Parallel (Label.Renames rename) [root] [other]) :
    (apply audience config other).2.map Error.unlined =
        (apply audience config root).2.map Error.unlined ∧
      Parallel (Label.Renames rename) [(apply audience config root).1]
        [(apply audience config other).1] := by
  have hids : Parallel (fun a b => Label.Renames rename a b ∧ a.id ∈ root.ids) [root] [other] := by
    apply h.with_property
    intro node hnode
    exact List.mem_map_of_mem (by simpa using hnode)
  rcases apply_parallel config hids (blocks_correspond audience hinjective h)
    (fun _ _ herror => congrArg (Error.contentExclusion audience.file) herror) with
    ⟨herror, hparallel⟩
  exact ⟨Error.map_unlined_of_rel herror, hparallel.mono fun _ _ hboth => hboth.1⟩

/-- A comment in the first line of a partial. -/
def firstLine (id : Nat) (text : String) : Node :=
  ⟨id, .comment, some text, [], some ⟨1, 1, 1, 20⟩⟩

/-- The document `straddling` put together from partials that hold one line each, with ids
that count down. -/
def assembled : Node :=
  ⟨30, .root, none,
    [firstLine 29 "<!-- BEGIN: TFC:only -->",
      ⟨28, .list false none false, none,
        [⟨27, .listItem false none, none,
          [⟨26, .thematicBreak, none, [], none⟩, firstLine 25 "<!-- END: TFC:only -->",
            ⟨24, .thematicBreak, none, [], none⟩], none⟩], none⟩,
      firstLine 23 "<!-- BEGIN: TFEnterprise:only -->",
      ⟨22, .thematicBreak, none, [], none⟩,
      firstLine 21 "<!-- END: TFEnterprise:only -->"], none⟩

theorem straddling_parallel_assembled :
    Parallel (Label.Renames (30 - ·)) [straddling] [assembled] := by
  unfold straddling assembled commentAt firstLine
  repeat' constructor

theorem apply_renamed_straddling :
    (apply enterpriseReader optedIn assembled).2 = none ∧
      (apply enterpriseReader optedIn assembled).1.ids = [30, 28, 27, 24, 23, 22, 21] := by
  have hinjective : Set.InjOn (30 - ·) {id | id ∈ straddling.ids} := by
    intro first hfirst second hsecond heq
    have hsmall : forall id, id ∈ straddling.ids -> id < 30 := by decide
    have hfirstSmall := hsmall first hfirst
    have hsecondSmall := hsmall second hsecond
    dsimp only at heq
    omega
  rcases apply_renamed enterpriseReader optedIn hinjective straddling_parallel_assembled with
    ⟨herror, hparallel⟩
  have hrun : (apply enterpriseReader optedIn straddling).2 = none := by decide +kernel
  have hids : (apply enterpriseReader optedIn straddling).1.ids = [0, 2, 3, 6, 7, 8, 9] := by
    decide +kernel
  rw [hrun, Option.map_none, Option.map_eq_none_iff] at herror
  have hrenamed := idsOf_renames hparallel
  rw [idsOf_singleton, idsOf_singleton, hids] at hrenamed
  exact ⟨herror, hrenamed⟩

end Exclusion
end Docloom
