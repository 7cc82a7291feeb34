import Docloom.Proofs.File.Pieces

/-!
# Paths with dots resolved

Where `.` and `..` are resolved by the text of a path alone, `..` takes back the name before it.
A path that goes down on its own, so that no `..` in it leads out, goes down in the same way from
every other path.
-/

namespace Docloom
namespace Path

variable {path base relative : Path} {below : String} {names : List String}
  {components reached : List Component} {part : List Char} {parts rest : List (List Char)} {n : Nat}

/-!
# Resolving
-/

/-- Where a component leads from what was reached.  There is nothing above the root, and above a
place that has no name only `..` leads. -/
def Component.after (reached : List Component) : Component -> List Component
  | .root => [.root]
  | .current => reached
  | .parent =>
      match reached.getLast? with
      | some (.normal _) => reached.dropLast
      | some .root => reached
      | _ => reached ++ [.parent]
  | .normal name => reached ++ [.normal name]

/-- The components of a path without `.`, and without `..` after a name. -/
def resolved (path : Path) : List Component := path.components.foldl Component.after []

/-- Whether a path, without the base, has names below the base and nothing else. -/
def LiesAt (base : Path) (names : List String) (path : Path) : Prop :=
  path.resolved = base.resolved ++ names.map .normal

/-- Whether a path is made of names below the place where it starts. -/
def GoesDown (path : Path) (names : List String) : Prop := path.resolved = names.map .normal

theorem foldl_after_names (reached : List Component) (names : List String) :
    (names.map .normal).foldl Component.after reached = reached ++ names.map .normal := by
  induction names generalizing reached with
  | nil =>
      rw [List.map_nil, List.foldl_nil, List.append_nil]
  | cons name names ih =>
      rw [List.map_cons, List.foldl_cons, ih, Component.after, List.append_assoc]
      rfl

theorem after_parent_name (reached : List Component) (name : String) :
    Component.after (reached ++ [.normal name]) .parent = reached := by
  simp [Component.after]

/-- What is left when a component brings a path to names, is names: the last of them if it is the
name, and one more if it is `..`. -/
theorem names_of_after {last : Component}
    (h : Component.after reached last = names.map .normal) :
    (last = .current ∧ reached = names.map .normal) ∨
      (exists before name, last = .normal name ∧ names = before ++ [name] ∧
        reached = before.map .normal) ∨
      (last = .parent ∧ exists name, reached = (names ++ [name]).map .normal) := by
  have hnames : forall component, component ∈ names.map Component.normal ->
      exists name, component = .normal name := by
    intro component hcomponent
    rcases List.mem_map.mp hcomponent with ⟨name, _, rfl⟩
    exact ⟨name, rfl⟩
  cases last with
  | root =>
      rcases hnames .root (by rw [← h]; exact List.mem_singleton_self _) with ⟨name, hname⟩
      cases hname
  | current =>
      exact Or.inl ⟨rfl, h⟩
  | normal name =>
      rcases List.eq_nil_or_concat' names with rfl | ⟨before, last, rfl⟩
      · exact absurd h (by simp [Component.after])
      · rw [Component.after, List.map_append] at h
        rcases List.append_inj' h rfl with ⟨hreached, hlast⟩
        cases hlast
        exact Or.inr (Or.inl ⟨before, name, rfl, rfl, hreached⟩)
  | parent =>
      have hparent : Component.parent ∉ names.map Component.normal := by
        intro hmem
        rcases hnames _ hmem with ⟨name, hname⟩
        cases hname
      rcases List.eq_nil_or_concat' reached with rfl | ⟨before, last, rfl⟩
      · rw [← h] at hparent
        exact absurd (List.mem_singleton_self _) hparent
      · rw [Component.after, List.getLast?_concat] at h
        cases last with
        | root =>
            rcases hnames .root (by rw [← h]; simp) with ⟨name, hname⟩
            cases hname
        | current | parent =>
            rw [← h] at hparent
            exact absurd (by simp) hparent
        | normal name =>
            refine Or.inr (Or.inr ⟨rfl, name, ?_⟩)
            dsimp only at h
            rw [List.dropLast_concat] at h
            rw [h, List.map_append]
            rfl

/-- Components that go down on their own go down from everywhere. -/
theorem foldl_after_of_down (h : components.foldl Component.after [] = names.map .normal)
    (reached : List Component) :
    components.foldl Component.after reached = reached ++ names.map .normal := by
  induction components using List.reverseRecOn generalizing names with
  | nil =>
      rw [List.foldl_nil, ← h, List.foldl_nil, List.append_nil]
  | append_singleton before last ih =>
      rw [List.foldl_append, List.foldl_cons, List.foldl_nil] at h ⊢
      rcases names_of_after h with
        ⟨rfl, hbefore⟩ | ⟨front, name, rfl, rfl, hbefore⟩ | ⟨rfl, name, hbefore⟩
      · exact ih hbefore
      · rw [ih hbefore, Component.after, List.map_append, ← List.append_assoc]
        rfl
      · rw [ih hbefore, List.map_append, ← List.append_assoc]
        exact after_parent_name _ name

theorem resolved_joins (h : ProperLocation names) :
    (path.joins names).resolved = path.resolved ++ names.map .normal := by
  rw [resolved, components_joins h, List.foldl_append, foldl_after_names]
  rfl

/-!
# Resolved joins
-/

theorem headComponents_cases (parts : List (List Char)) :
    headComponents parts = [] ∨ headComponents parts = [.root] ∨
      headComponents parts = [.current] := by
  cases parts with
  | nil =>
      exact Or.inl rfl
  | cons first rest =>
      rw [headComponents]
      split
      · split
        · exact Or.inl rfl
        · exact Or.inr (Or.inl rfl)
      · split
        · exact Or.inr (Or.inr rfl)
        · exact Or.inl rfl

theorem foldl_components (h : path.isAbsolute = false) (reached : List Component) :
    path.components.foldl Component.after reached =
      (path.steps.map Component.ofPart).foldl Component.after reached := by
  rw [components_eq, List.foldl_append]
  rcases headComponents_cases path.pieces with hhead | hhead | hhead
  · rw [hhead]
    rfl
  · rw [isAbsolute_iff.mpr hhead] at h
    cases h
  · rw [hhead]
    rfl

theorem resolved_eq (path : Path) :
    path.resolved = (path.steps.map Component.ofPart).foldl Component.after
      (if path.isAbsolute then [.root] else []) := by
  by_cases habsolute : path.isAbsolute = true
  · rw [resolved, components_eq, isAbsolute_iff.mp habsolute, if_pos habsolute]
    rfl
  · rw [resolved, foldl_components (Bool.eq_false_iff.mpr habsolute), if_neg habsolute]

theorem steps_join (h : Text.startsWith "/" below = false) :
    (path.join below).steps = path.steps ++ (Path.mk below).steps := by
  rw [steps, pieces_join h, List.filter_append, lead_filter]
  rfl

theorem resolved_join (h : Text.startsWith "/" below = false) :
    (path.join below).resolved =
      (Path.mk below).components.foldl Component.after path.resolved := by
  rw [resolved_eq, isAbsolute_join h, steps_join h, List.map_append, List.foldl_append,
    ← resolved_eq, foldl_components h]

/-- From the root a path would lead to the same place wherever it starts. -/
theorem GoesDown.isAbsolute_eq (h : relative.GoesDown names) : relative.isAbsolute = false := by
  rw [Bool.eq_false_iff, ne_eq, isAbsolute_iff]
  intro hroot
  have hparent := foldl_after_of_down h [.parent]
  have hsame : relative.components.foldl Component.after [.parent] = relative.resolved := by
    rw [resolved, components_eq, hroot]
    rfl
  rw [hsame, h] at hparent
  have hlength := congrArg List.length hparent
  simp at hlength

/-- A path that goes down leads to the same place below every other path. -/
theorem GoesDown.liesAt_join (h : relative.GoesDown names) (path : Path) :
    LiesAt path names (path.join relative.text) := by
  rw [LiesAt, resolved_join h.isAbsolute_eq]
  exact foldl_after_of_down h path.resolved

/-!
# What is below a path
-/

theorem filter_dropComponents (n : Nat) (parts : List (List Char)) :
    (dropComponents n parts).filter (!isIdle ·) = (parts.filter (!isIdle ·)).drop n := by
  induction parts generalizing n with
  | nil =>
      simp [dropComponents]
  | cons part parts ih =>
      by_cases hidle : isIdle part = true
      · rw [dropComponents.eq_def, List.filter_cons_of_neg (by simpa using hidle)]
        dsimp only
        rw [if_pos hidle]
        exact ih n
      · rw [dropComponents.eq_def, List.filter_cons_of_pos (by simpa using hidle)]
        dsimp only
        rw [if_neg hidle]
        cases n with
        | zero =>
            exact List.filter_cons_of_pos (by simpa using hidle)
        | succ n =>
            exact ih n

theorem not_idle_of_dropComponents (h : dropComponents n parts = part :: rest) :
    isIdle part = false := by
  induction parts generalizing n with
  | nil =>
      cases n <;> cases h
  | cons first parts ih =>
      rw [dropComponents.eq_def] at h
      dsimp only at h
      split at h
      · exact ih h
      · rename_i hidle
        split at h
        · cases h
          exact Bool.eq_false_iff.mpr hidle
        · exact ih h

theorem noSlash_of_mem_parts (h : part ∈ path.parts.2) : '/' ∉ part := by
  rcases parts_spec path with ⟨_, _, front, hpieces, _⟩
  apply @noSlash_of_mem_pieces path
  rw [hpieces]
  exact List.mem_append_right _ h

theorem mem_of_mem_dropComponents (h : part ∈ dropComponents n parts) : part ∈ parts := by
  induction parts generalizing n with
  | nil =>
      cases n <;> cases h
  | cons first parts ih =>
      rw [dropComponents.eq_def] at h
      dsimp only at h
      split at h
      · exact List.mem_cons_of_mem _ (ih h)
      · split at h
        · exact h
        · exact List.mem_cons_of_mem _ (ih h)

/-- A path that starts with a part that leads somewhere has no other components. -/
theorem components_ofParts_nil (hslash : forall part, part ∈ parts -> '/' ∉ part)
    (hhead : forall part rest, parts = part :: rest -> isIdle part = false) :
    (ofParts [] (dropIdleEnd parts)).components =
      (parts.filter (!isIdle ·)).map Component.ofPart := by
  have hkept : forall part, part ∈ dropIdleEnd parts -> '/' ∉ part :=
    fun part hpart => hslash part (mem_of_mem_dropIdleEnd hpart)
  rw [components_eq, steps, pieces_ofParts_nil hkept, ← filter_dropIdleEnd parts]
  cases parts with
  | nil =>
      rfl
  | cons part parts =>
      rcases dropIdleEnd_cons part parts with hend | ⟨rest, hend⟩
      · rw [hend]
        rfl
      · rw [hend, if_neg (by simp), headComponents_of_not_idle (hhead part parts rfl)]
        rfl

theorem components_parts (path : Path) :
    path.components = startComponents path.parts.1 ++
      (path.parts.2.filter (!isIdle ·)).map Component.ofPart := rfl

theorem parts_of_nil (h : path.parts.2 = []) :
    path.parts = ([], []) ∨ path.parts = (['.'], []) := by
  revert h
  unfold parts
  split
  · exact fun _ => Or.inl rfl
  · exact fun _ => Or.inr rfl
  · exact fun h => absurd h (Text.splitChars_ne_nil _ _)
  · exact fun h => absurd h (Text.splitChars_ne_nil _ _)
  · exact fun h => absurd h (Text.splitChars_ne_nil _ _)

/-- In a path without a component at its start the first part leads somewhere. -/
theorem not_idle_of_parts (hstart : path.parts.1 = []) (hall : path.pieces = path.parts.2)
    (h : path.parts.2 = part :: rest) : isIdle part = false := by
  rw [Bool.eq_false_iff]
  intro hidle
  have hnone := (parts_spec path).1
  rw [hstart, hall, h, headComponents] at hnone
  have hpart : part = [] ∨ part = ['.'] := by
    simpa [isIdle] using hidle
  rcases hpart with rfl | rfl
  · rw [if_pos rfl] at hnone
    split at hnone
    · rename_i hrest
      rw [h, hrest] at hall
      rw [parts, text_of_pieces hall] at h
      cases h
    · cases hnone
  · cases hnone

/-- Parts at the end that lead nowhere do not count. -/
theorem components_ofParts (path : Path) :
    (ofParts path.parts.1 (dropIdleEnd path.parts.2)).components = path.components := by
  have hkept : forall part, part ∈ dropIdleEnd path.parts.2 -> '/' ∉ part :=
    fun part hpart => noSlash_of_mem_parts (mem_of_mem_dropIdleEnd hpart)
  rcases parts_cases path with ⟨hstart, hall⟩ | ⟨hstart, hall⟩ | ⟨hstart, hall⟩ | hnone
  · rw [components_parts path, hstart, components_eq, steps, pieces_ofParts_root hkept,
      ← filter_dropIdleEnd path.parts.2]
    split
    · rename_i hnil
      rw [hnil]
      rfl
    · rename_i hne
      rw [headComponents, if_pos rfl, if_neg hne]
      rfl
  · rw [components_parts path, hstart, components_eq, steps, pieces_ofParts_current hkept,
      ← filter_dropIdleEnd path.parts.2]
    rfl
  · rw [components_parts path, hstart, components_ofParts_nil (fun _ => noSlash_of_mem_parts)
      fun _ _ => not_idle_of_parts hstart hall]
    rfl
  · rw [components_parts path]
    rcases parts_of_nil hnone with hparts | hparts
    · rw [hparts]
      rfl
    · rw [hparts]
      rfl

theorem components_of_below (h : path.below? base = some relative) :
    path.components = base.components ++ relative.components := by
  unfold below? at h
  dsimp only at h
  split at h
  · rename_i hprefix
    split at h
    · rename_i hempty
      cases h
      rw [components_ofParts, List.isEmpty_iff.mp hempty, List.nil_append]
    · rename_i hne
      cases h
      rcases List.isPrefixOf_iff_prefix.mp hprefix with ⟨more, hmore⟩
      have hall : base.components ++ more = startComponents path.parts.1 ++
          (path.parts.2.filter (!isIdle ·)).map Component.ofPart := hmore
      have hstart : (startComponents path.parts.1).length ≤ base.components.length := by
        have hone : (startComponents path.parts.1).length ≤ 1 := by
          unfold startComponents
          split <;> simp
        have hpositive : 0 < base.components.length := by
          rw [List.length_pos_iff]
          simpa using hne
        exact Nat.le_trans hone hpositive
      rw [components_ofParts_nil, filter_dropComponents, ← hmore, List.map_drop]
      · have hdrop := congrArg (List.drop base.components.length) hall
        rw [List.drop_left, List.drop_append, List.drop_eq_nil_of_le hstart, List.nil_append]
          at hdrop
        rw [hdrop]
      · exact fun part hpart => noSlash_of_mem_parts (mem_of_mem_dropComponents hpart)
      · exact fun part rest => not_idle_of_dropComponents
  · cases h

/-- Below a base a path that goes down lies where it leads. -/
theorem liesAt_of_below (h : path.below? base = some relative) (hdown : relative.GoesDown names) :
    LiesAt base names path := by
  rw [LiesAt, resolved, components_of_below h, List.foldl_append]
  exact foldl_after_of_down hdown base.resolved

/-!
# Names of a path
-/

theorem mem_names_iff {name : String} : name ∈ path.names ↔ .normal name ∈ path.components := by
  rw [names, List.mem_filterMap]
  constructor
  · intro h
    rcases h with ⟨component, hmem, hname⟩
    cases component with
    | normal other =>
        cases hname
        exact hmem
    | root | current | parent =>
        cases hname
  · exact fun h => ⟨_, h, rfl⟩

/-- The names in a path can stand between slashes for themselves. -/
theorem properLocation_names (path : Path) : ProperLocation path.names := by
  intro name hname
  have hcomponent := mem_names_iff.mp hname
  rw [components_eq, List.mem_append] at hcomponent
  rcases hcomponent with hstart | hstep
  · rcases headComponents_cases path.pieces with hhead | hhead | hhead <;>
      simp [hhead] at hstart
  · rcases List.mem_map.mp hstep with ⟨part, hpart, heq⟩
    rcases List.mem_filter.mp hpart with ⟨hpiece, hidle⟩
    unfold Component.ofPart at heq
    split at heq
    · cases heq
    · rename_i hparent
      cases heq
      constructor
      · rw [String.toList_ofList]
        exact noSlash_of_mem_pieces hpiece
      · rw [String.toList_ofList]
        simpa using hidle
      · rw [String.toList_ofList]
        simpa using hparent

theorem foldl_after_of_plain {components : List Component} (hroot : .root ∉ components)
    (hparent : .parent ∉ components) (reached : List Component) :
    components.foldl Component.after reached =
      reached ++ (components.filterMap fun component =>
        match component with
        | .normal name => some name
        | _ => none).map .normal := by
  induction components generalizing reached with
  | nil =>
      simp
  | cons component components ih =>
      rw [List.mem_cons, not_or] at hroot hparent
      rw [List.foldl_cons, ih hroot.2 hparent.2]
      cases component with
      | root =>
          exact absurd rfl hroot.1
      | parent =>
          exact absurd rfl hparent.1
      | current =>
          rfl
      | normal name =>
          simp [Component.after]

/-- A path without `..` that does not start at the root goes down along its names. -/
theorem goesDown_names (habsolute : path.isAbsolute = false)
    (hparent : .parent ∉ path.components) : path.GoesDown path.names := by
  have hroot : .root ∉ path.components := by
    intro hmem
    rw [components_eq, List.mem_append] at hmem
    rcases hmem with hstart | hstep
    · rcases headComponents_cases path.pieces with hhead | hhead | hhead
      · simp [hhead] at hstart
      · rw [isAbsolute_iff.mpr hhead] at habsolute
        cases habsolute
      · simp [hhead] at hstart
    · rcases List.mem_map.mp hstep with ⟨part, _, heq⟩
      unfold Component.ofPart at heq
      split at heq
      · cases heq
      · cases heq
  exact foldl_after_of_plain hroot hparent []

end Path
end Docloom
