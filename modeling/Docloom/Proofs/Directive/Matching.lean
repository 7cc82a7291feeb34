import Docloom.Proofs.Directive.Pairing
import Mathlib.Data.List.Induction

/-!
# Sequences of markers

The markers of a document make up blocks exactly if they come in pairs, one that begins a block
and one that ends it with the same content.  Otherwise a marker is to blame: the first one
after which no further markers could make up for it, or the marker of a block that is never
ended.
-/

namespace Docloom
namespace DirectiveBlock

/-- Whether a marker begins a block that the other one ends. -/
structure Matches (begun ended : MarkerNode) : Prop where
  begins : begun.marker.kind = .begins
  stops : ended.marker.kind = .ends
  same : ended.marker.content = begun.marker.content
  named : begun.marker.content ≠ ""

/-- Whether the markers are pairs of one that begins a block and one that ends it. -/
structure WellPaired (markers : List MarkerNode) : Prop where
  even : markers.length % 2 = 0
  matched : forall index begun ended, markers[2 * index]? = some begun ->
    markers[2 * index + 1]? = some ended -> Matches begun ended

/-- Whether the markers are pairs that make up the blocks, one pair for each block. -/
structure Paired (markers : List MarkerNode) (blocks : List DirectiveBlock) : Prop where
  length : markers.length = 2 * blocks.length
  matched : forall index begun ended, markers[2 * index]? = some begun ->
    markers[2 * index + 1]? = some ended ->
      Matches begun ended ∧ blocks[index]? = some (ofMarkers begun ended)

/-- Whether further markers could complete the pairs. -/
def Extendable (markers : List MarkerNode) : Prop :=
  exists rest, WellPaired (markers ++ rest)

/-- The marker whose block is open after markers that could be completed: the last one, when
their number is odd. -/
def openAfter (markers : List MarkerNode) : Option MarkerNode :=
  if markers.length % 2 = 1 then markers.getLast? else none

/-- What is wrong with a marker that comes while a block is open, or while none is. -/
inductive Breaks : Option MarkerNode -> MarkerNode -> Error -> Prop where
  | nested (hkind : current.marker.kind = .begins) :
      Breaks (some begun) current (.nestedBlock current.line begun.line)
  | emptyBegin (hkind : current.marker.kind = .begins) (hempty : current.marker.content = "") :
      Breaks none current (.emptyDirective .begins current.line)
  | unmatched (hkind : current.marker.kind = .ends) :
      Breaks none current (.unmatchedEnd current.marker.content current.line)
  | emptyEnd (hkind : current.marker.kind = .ends) (hempty : current.marker.content = "") :
      Breaks (some begun) current (.emptyDirective .ends current.line)
  | mismatched (hkind : current.marker.kind = .ends) (hnamed : current.marker.content ≠ "")
      (hother : current.marker.content ≠ begun.marker.content) :
      Breaks (some begun) current
        (.mismatchedBlock begun.marker.content begun.line current.marker.content current.line)

/-- What is wrong with a sequence of markers: the first of them that makes it impossible to
complete the pairs, or the end that comes while a block is open. -/
inductive Fault (markers : List MarkerNode) : Error -> Prop where
  | broken {before after : List MarkerNode} {current : MarkerNode} {error : Error}
      (hmarkers : markers = before ++ current :: after) (hbefore : Extendable before)
      (hcurrent : ¬ Extendable (before ++ [current]))
      (hbreaks : Breaks (openAfter before) current error) :
      Fault markers error
  | unclosed {begun : MarkerNode} (hmarkers : Extendable markers)
      (hopen : openAfter markers = some begun) :
      Fault markers (.unclosedBlock begun.marker.content begun.line)

section Pairs

variable {begun ended current : MarkerNode} {rest before after markers : List MarkerNode}
  {blocks : List DirectiveBlock} {error : Error}

/-!
# One pair after another
-/

theorem wellPaired_nil : WellPaired [] := by
  constructor <;> simp

theorem not_wellPaired_singleton : ¬ WellPaired [begun] := by
  intro h
  have heven := h.even
  simp at heven

theorem wellPaired_cons_iff :
    WellPaired (begun :: ended :: rest) ↔ Matches begun ended ∧ WellPaired rest := by
  constructor
  · intro h
    have heven := h.even
    simp only [List.length_cons] at heven
    refine ⟨h.matched 0 begun ended rfl rfl, by omega, ?_⟩
    intro index first second hfirst hsecond
    exact h.matched (index + 1) first second hfirst hsecond
  · rintro ⟨hmatches, hrest⟩
    constructor
    · have heven := hrest.even
      simp only [List.length_cons]
      omega
    · intro index first second hfirst hsecond
      cases index with
      | zero =>
          cases hfirst
          cases hsecond
          exact hmatches
      | succ index =>
          exact hrest.matched index first second hfirst hsecond

theorem paired_nil_iff : Paired [] blocks ↔ blocks = [] := by
  constructor
  · intro h
    have hlength := h.length
    rw [List.length_nil] at hlength
    exact List.length_eq_zero_iff.mp (by omega)
  · rintro rfl
    constructor <;> simp

theorem not_paired_singleton : ¬ Paired [begun] blocks := by
  intro h
  have hlength := h.length
  rw [List.length_singleton] at hlength
  omega

theorem paired_cons_iff :
    Paired (begun :: ended :: rest) blocks ↔
      Matches begun ended ∧ exists others, Paired rest others ∧
        blocks = ofMarkers begun ended :: others := by
  constructor
  · intro h
    have hlength := h.length
    rcases h.matched 0 begun ended rfl rfl with ⟨hmatches, hfirst⟩
    cases blocks with
    | nil =>
        cases hfirst
    | cons block others =>
        cases hfirst
        refine ⟨hmatches, others, ⟨?_, ?_⟩, rfl⟩
        · simp only [List.length_cons] at hlength
          omega
        · intro index first second hfirst hsecond
          exact h.matched (index + 1) first second hfirst hsecond
  · rintro ⟨hmatches, others, hrest, rfl⟩
    constructor
    · have hlength := hrest.length
      simp only [List.length_cons]
      omega
    · intro index first second hfirst hsecond
      cases index with
      | zero =>
          cases hfirst
          cases hsecond
          exact ⟨hmatches, rfl⟩
      | succ index =>
          exact hrest.matched index first second hfirst hsecond

/-- Two markers make up a block exactly if the second one can come next after the first. -/
theorem pair_cons_ok_iff :
    pair none (begun :: ended :: rest) = .ok blocks ↔
      Matches begun ended ∧ exists others, pair none rest = .ok others ∧
        blocks = ofMarkers begun ended :: others := by
  rw [pair_none_cons_ok_iff, pair_some_cons_ok_iff, String.isEmpty_iff, String.isEmpty_iff]
  constructor
  · rintro ⟨hbegins, hnamed, hstops, _, hsame, hrest⟩
    exact ⟨⟨hbegins, hstops, hsame, hnamed⟩, hrest⟩
  · rintro ⟨hmatches, hrest⟩
    have hended : ¬ ended.marker.content = "" := by
      rw [hmatches.same]
      exact hmatches.named
    exact ⟨hmatches.begins, hmatches.named, hmatches.stops, hended, hmatches.same, hrest⟩

theorem pair_singleton_ne_ok : pair none [begun] ≠ .ok blocks := by
  intro h
  cases (pair_none_cons_ok_iff.mp h).2.2

theorem pair_ok_iff : pair none markers = .ok blocks ↔ Paired markers blocks := by
  induction markers using List.twoStepInduction generalizing blocks with
  | nil =>
      rw [paired_nil_iff, pair, Except.ok.injEq, eq_comm]
  | singleton begun =>
      exact iff_of_false pair_singleton_ne_ok not_paired_singleton
  | cons_cons begun ended rest ih _ =>
      rw [pair_cons_ok_iff, paired_cons_iff]
      simp only [ih]

theorem exists_paired_iff : (exists blocks, Paired markers blocks) ↔ WellPaired markers := by
  induction markers using List.twoStepInduction with
  | nil =>
      simp only [paired_nil_iff, exists_eq, wellPaired_nil]
  | singleton begun =>
      simp only [not_paired_singleton, exists_false, not_wellPaired_singleton]
  | cons_cons begun ended rest ih _ =>
      rw [wellPaired_cons_iff, ← ih]
      simp only [paired_cons_iff]
      constructor
      · rintro ⟨_, hmatches, others, hrest, _⟩
        exact ⟨hmatches, others, hrest⟩
      · rintro ⟨hmatches, others, hrest⟩
        exact ⟨_, hmatches, others, hrest, rfl⟩

/-!
# Sequences that can be completed
-/

theorem extendable_nil : Extendable [] := ⟨[], wellPaired_nil⟩

theorem extendable_cons_iff :
    Extendable (begun :: ended :: rest) ↔ Matches begun ended ∧ Extendable rest := by
  unfold Extendable
  simp only [List.cons_append, wellPaired_cons_iff, exists_and_left]

/-- The marker that a marker with a content would be ended by. -/
theorem extendable_singleton_iff :
    Extendable [begun] ↔ begun.marker.kind = .begins ∧ begun.marker.content ≠ "" := by
  constructor
  · rintro ⟨rest, hrest⟩
    cases rest with
    | nil =>
        exact absurd hrest not_wellPaired_singleton
    | cons ended rest =>
        have hmatches := (wellPaired_cons_iff.mp hrest).1
        exact ⟨hmatches.begins, hmatches.named⟩
  · rintro ⟨hbegins, hnamed⟩
    refine ⟨[⟨0, ⟨.ends, begun.marker.content⟩, 0⟩], ?_⟩
    exact wellPaired_cons_iff.mpr ⟨⟨hbegins, rfl, rfl, hnamed⟩, wellPaired_nil⟩

theorem openAfter_singleton : openAfter [begun] = some begun := rfl

theorem openAfter_cons (begun ended : MarkerNode) (rest : List MarkerNode) :
    openAfter (begun :: ended :: rest) = openAfter rest := by
  have hlength : (begun :: ended :: rest).length % 2 = rest.length % 2 := by
    simp only [List.length_cons]
    omega
  unfold openAfter
  rw [hlength]
  cases rest with
  | nil =>
      simp
  | cons first rest =>
      rw [List.getLast?_cons_cons, List.getLast?_cons_cons]

/-- A marker that breaks a sequence leaves nothing to complete. -/
theorem not_extendable_of_breaks (hbreaks : Breaks (openAfter before) current error) :
    ¬ Extendable (before ++ [current]) := by
  induction before using List.twoStepInduction with
  | nil =>
      rw [List.nil_append, extendable_singleton_iff]
      rintro ⟨hbegins, hnamed⟩
      cases hbreaks with
      | emptyBegin _ hempty =>
          exact hnamed hempty
      | unmatched hkind =>
          rw [hbegins] at hkind
          cases hkind
  | singleton begun =>
      rw [List.singleton_append, extendable_cons_iff]
      rintro ⟨hmatches, _⟩
      have hstops := hmatches.stops
      cases hbreaks with
      | nested hkind =>
          rw [hstops] at hkind
          cases hkind
      | emptyEnd _ hempty =>
          exact hmatches.named (hmatches.same ▸ hempty)
      | mismatched _ _ hother =>
          exact hother hmatches.same
  | cons_cons begun ended rest ih _ =>
      rw [openAfter_cons] at hbreaks
      rw [List.cons_append, List.cons_append, extendable_cons_iff]
      exact fun h => ih hbreaks h.2

/-!
# Faults
-/

theorem fault_cons_iff (hmatches : Matches begun ended) :
    Fault (begun :: ended :: rest) error ↔ Fault rest error := by
  constructor
  · intro h
    cases h with
    | @broken before after current error hmarkers hbefore hcurrent hbreaks =>
        -- The marker to blame is neither of the two, since both can be gone on from.
        cases before with
        | nil =>
            cases hmarkers
            rw [List.nil_append, extendable_singleton_iff] at hcurrent
            exact absurd ⟨hmatches.begins, hmatches.named⟩ hcurrent
        | cons first before =>
            cases before with
            | nil =>
                cases hmarkers
                rw [List.singleton_append, extendable_cons_iff] at hcurrent
                exact absurd ⟨hmatches, extendable_nil⟩ hcurrent
            | cons second before =>
                cases hmarkers
                rw [extendable_cons_iff] at hbefore
                rw [openAfter_cons] at hbreaks
                exact .broken rfl hbefore.2 (not_extendable_of_breaks hbreaks) hbreaks
    | unclosed hmarkers hopen =>
        rw [openAfter_cons] at hopen
        exact .unclosed (extendable_cons_iff.mp hmarkers).2 hopen
  · intro h
    cases h with
    | @broken before after current error hmarkers hbefore hcurrent hbreaks =>
        rw [← openAfter_cons begun ended] at hbreaks
        have hextendable := extendable_cons_iff.mpr ⟨hmatches, hbefore⟩
        rw [hmarkers]
        exact .broken rfl hextendable (not_extendable_of_breaks hbreaks) hbreaks
    | unclosed hmarkers hopen =>
        rw [← openAfter_cons begun ended] at hopen
        exact .unclosed (extendable_cons_iff.mpr ⟨hmatches, hmarkers⟩) hopen

/-- Outside a block a marker begins one or is out of place. -/
theorem begins_or_breaks (current : MarkerNode) :
    (current.marker.kind = .begins ∧ current.marker.content ≠ "") ∨
      exists error, Breaks none current error := by
  cases hkind : current.marker.kind with
  | begins =>
      by_cases hempty : current.marker.content = ""
      · exact Or.inr ⟨_, .emptyBegin hkind hempty⟩
      · exact Or.inl ⟨rfl, hempty⟩
  | ends =>
      exact Or.inr ⟨_, .unmatched hkind⟩

/-- Inside a block a marker ends it or is out of place. -/
theorem matches_or_breaks (hbegins : begun.marker.kind = .begins)
    (hnamed : begun.marker.content ≠ "") (current : MarkerNode) :
    Matches begun current ∨ exists error, Breaks (some begun) current error := by
  cases hkind : current.marker.kind with
  | begins =>
      exact Or.inr ⟨_, .nested hkind⟩
  | ends =>
      by_cases hempty : current.marker.content = ""
      · exact Or.inr ⟨_, .emptyEnd hkind hempty⟩
      by_cases hsame : current.marker.content = begun.marker.content
      · exact Or.inl ⟨hbegins, hkind, hsame, hnamed⟩
      · exact Or.inr ⟨_, .mismatched hkind hempty hsame⟩

/-- Markers that are not well paired have a fault. -/
theorem wellPaired_or_fault (markers : List MarkerNode) :
    WellPaired markers ∨ exists error, Fault markers error := by
  have hbroken : forall {before after : List MarkerNode} {current : MarkerNode} {error : Error},
      Extendable before -> Breaks (openAfter before) current error ->
        exists error, Fault (before ++ current :: after) error := by
    intro before after current error hbefore hbreaks
    exact ⟨error, .broken rfl hbefore (not_extendable_of_breaks hbreaks) hbreaks⟩
  induction markers using List.twoStepInduction with
  | nil =>
      exact Or.inl wellPaired_nil
  | singleton begun =>
      rcases begins_or_breaks begun with hbegins | ⟨error, hbreaks⟩
      · exact Or.inr ⟨_, .unclosed (extendable_singleton_iff.mpr hbegins) openAfter_singleton⟩
      · exact Or.inr (hbroken extendable_nil hbreaks)
  | cons_cons begun ended rest ih _ =>
      rcases begins_or_breaks begun with hbegins | ⟨error, hbreaks⟩
      · rcases matches_or_breaks hbegins.1 hbegins.2 ended with hmatches | ⟨error, hbreaks⟩
        · rcases ih with hrest | ⟨error, hfault⟩
          · exact Or.inl (wellPaired_cons_iff.mpr ⟨hmatches, hrest⟩)
          · exact Or.inr ⟨error, (fault_cons_iff hmatches).mpr hfault⟩
        · exact Or.inr (hbroken (extendable_singleton_iff.mpr hbegins) hbreaks)
      · exact Or.inr (hbroken extendable_nil hbreaks)

/-!
# Errors
-/

theorem pair_of_breaks {open_ : Option MarkerNode} (hbreaks : Breaks open_ current error) :
    pair open_ (current :: rest) = .error error := by
  cases hbreaks with
  | nested hkind =>
      simp [pair, hkind]
  | emptyBegin hkind hempty =>
      simp [pair, hkind, hempty]
  | unmatched hkind =>
      simp [pair, hkind]
  | emptyEnd hkind hempty =>
      simp [pair, hkind, hempty]
  | mismatched hkind hnamed hother =>
      simp [pair, hkind, hnamed, hother]

theorem pair_begin (hbegins : begun.marker.kind = .begins) (hnamed : begun.marker.content ≠ "") :
    pair none (begun :: rest) = pair (some begun) rest := by
  simp [pair, hbegins, hnamed]

theorem pair_cons_error (hmatches : Matches begun ended) (hrest : pair none rest = .error error) :
    pair none (begun :: ended :: rest) = .error error := by
  have hnamed := hmatches.named
  rw [pair_begin hmatches.begins hnamed]
  simp [pair, hmatches.stops, hmatches.same, hnamed, hrest]

theorem pair_of_fault (h : Fault markers error) : pair none markers = .error error := by
  cases h with
  | @broken before after current error hmarkers hbefore hcurrent hbreaks =>
      rw [hmarkers]
      clear hmarkers hcurrent
      induction before using List.twoStepInduction with
      | nil =>
          exact pair_of_breaks hbreaks
      | singleton begun =>
          rcases extendable_singleton_iff.mp hbefore with ⟨hbegins, hnamed⟩
          rw [List.singleton_append, pair_begin hbegins hnamed]
          exact pair_of_breaks hbreaks
      | cons_cons begun ended before ih _ =>
          rcases extendable_cons_iff.mp hbefore with ⟨hmatches, hrest⟩
          rw [openAfter_cons] at hbreaks
          exact pair_cons_error hmatches (ih hrest hbreaks)
  | @unclosed begun hmarkers hopen =>
      induction markers using List.twoStepInduction with
      | nil =>
          cases hopen
      | singleton first =>
          rcases extendable_singleton_iff.mp hmarkers with ⟨hbegins, hnamed⟩
          obtain rfl := Option.some.inj (openAfter_singleton.symm.trans hopen)
          rw [pair_begin hbegins hnamed, pair]
      | cons_cons first second rest ih _ =>
          rcases extendable_cons_iff.mp hmarkers with ⟨hmatches, hrest⟩
          rw [openAfter_cons] at hopen
          exact pair_cons_error hmatches (ih hrest hopen)

theorem pair_error_iff : pair none markers = .error error ↔ Fault markers error := by
  constructor
  · intro h
    rcases wellPaired_or_fault markers with hpaired | ⟨other, hfault⟩
    · rcases exists_paired_iff.mpr hpaired with ⟨blocks, hblocks⟩
      rw [pair_ok_iff.mpr hblocks] at h
      cases h
    · rw [pair_of_fault hfault] at h
      cases h
      exact hfault
  · exact pair_of_fault

end Pairs

end DirectiveBlock

namespace Node

/-- The markers of a document pair up to blocks exactly if every other one begins a block that
the next one ends, and then there is one block for each pair.  Otherwise the error is that of
the first marker after which the pairs cannot be completed any more, or of the marker whose
block is open at the end. -/
theorem directiveBlocks_exact (root : Node) :
    (forall (node : Node) (found : MarkerNode), node.marker? = some found ↔
      node.kind.isLiteral = true ∧ exists position value marker, node.position = some position ∧
        node.value = some value ∧ Marker.parse? value = some marker ∧
        found = ⟨node.id, marker, position.endLine⟩) ∧
    ((exists blocks, root.directiveBlocks = .ok blocks) ↔
      DirectiveBlock.WellPaired (root.nodes.filterMap marker?)) ∧
    (forall blocks, root.directiveBlocks = .ok blocks ↔
      DirectiveBlock.Paired (root.nodes.filterMap marker?) blocks) ∧
    (forall error, root.directiveBlocks = .error error ↔
      DirectiveBlock.Fault (root.nodes.filterMap marker?) error) := by
  refine ⟨fun node found => marker?_eq_some_iff, ?_, ?_, ?_⟩
  · simp only [directiveBlocks, markers, DirectiveBlock.pair_ok_iff]
    exact DirectiveBlock.exists_paired_iff
  · intro blocks
    exact DirectiveBlock.pair_ok_iff
  · intro error
    exact DirectiveBlock.pair_error_iff

end Node
end Docloom
