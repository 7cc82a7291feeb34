import Docloom.Proofs.Regex.Pieces

/-!
# What a piece does

A piece of an expression is read with no regard to what was read before, apart from the setting.
What it does to the reader is a move, and the moves are few.
-/

namespace Docloom
namespace Regex

/-- What the piece of an expression that is read does to the reader. -/
inductive Move where
  | char (set : CharSet)
  | anchor (condition : Anchor)
  /-- Puts another setting for the rest of the group. -/
  | put (setting : Setting)
  | openPlain (setting : Setting)
  | openNumbered
  | openNamed (name : String)
  | close
  | branch
  | repeatLast (least : Nat) (most : Option Nat) (greedy : Bool)

namespace Move

/-- The reader after a move, if it can be made. -/
def apply (reader : Reader) : Move -> Option Reader
  | .char set => some (reader.push (some (.char set)))
  | .anchor condition => some (reader.push (some (.anchor condition)))
  | .put setting => some { reader.push none with setting }
  | .openPlain setting => some (reader.openGroup none setting)
  | .openNumbered => some reader.openNumbered
  | .openNamed name =>
      if reader.names.contains name then
        none
      else
        some { reader with names := name :: reader.names }.openNumbered
  | .close => reader.closeGroup
  | .branch => some reader.branch
  | .repeatLast least most greedy => reader.repeatLast least most greedy

/-- Whether a move opens a group whose text is kept. -/
def opens : Move -> Bool
  | .openNumbered => true
  | .openNamed _ => true
  | _ => false

end Move

namespace Reader

variable {reader result other : Reader} {cs rest : List Char} {c : Char}

/-- Whether a way to go on makes a move, in each reader with the same setting. -/
def Makes (setting : Setting) (go : Reader -> Option (Reader × List Char)) (move : Move)
    (rest : List Char) : Prop :=
  forall reader : Reader, reader.setting = setting ->
    go reader = (move.apply reader).map fun reader => (reader, rest)

theorem makes_openNamed (h : reader.openNamed cs = some (result, rest)) :
    exists name,
      Makes reader.setting (fun reader => reader.openNamed cs) (.openNamed name) rest := by
  unfold openNamed at h
  split at h
  · rename_i name c behind hspan
    dsimp only at h
    split at h
    · cases h
    · rename_i hname
      cases h
      refine ⟨String.ofList name, ?_⟩
      intro other _
      simp only [not_or, Bool.not_eq_true] at hname
      rcases hname with ⟨hempty, hfirst, hall, _⟩
      cases hcontains : other.names.contains (String.ofList name) <;>
        simp only [openNamed, hspan, Move.apply, hempty, hfirst, hall, hcontains] <;> rfl
  · cases h

theorem makes_openSetting (h : reader.openSetting cs = some (result, rest)) :
    exists move, move.opens = false ∧
      Makes reader.setting (fun reader => reader.openSetting cs) move rest := by
  unfold openSetting at h
  split at h
  · rename_i setting seen behind hread
    cases h
    refine ⟨.openPlain setting, rfl, ?_⟩
    intro other hother
    simp only [openSetting, hother, hread]
    rfl
  · rename_i setting seen c behind hcolon hread
    split at h
    · cases h
    · rename_i hseen
      cases h
      refine ⟨.put setting, rfl, ?_⟩
      intro other hother
      have hsign : c ≠ ':' := by
        rintro rfl
        exact hcolon rfl
      simp only [openSetting, hother, hread]
      rw [if_neg hseen]
      rfl
  · cases h

/-- What follows a parenthesis that opens a group whose text is kept. -/
def Keeps (cs : List Char) : Prop :=
  (forall rest, cs ≠ '?' :: rest) ∨ (exists rest, cs = '?' :: '<' :: rest) ∨
    exists rest, cs = '?' :: 'P' :: '<' :: rest

theorem makes_readOpening (h : reader.readOpening cs = some (result, rest)) :
    exists move : Move, (move.opens = true -> Keeps (reader.setting.skip cs)) ∧
      Makes reader.setting (fun reader => reader.readOpening cs) move rest := by
  cases hskip : reader.setting.skip cs with
  | nil =>
      simp only [readOpening, hskip] at h
      cases h
      refine ⟨.openNumbered, ?_, ?_⟩
      · intro _
        refine Or.inl ?_
        intro rest heq
        cases heq
      · intro other hother
        simp only [readOpening, hother, hskip]
        rfl
  | cons c more =>
      have hne : forall {other : Reader}, other.setting = reader.setting ->
          other.setting.skip cs ≠ [] := by
        intro other hother
        rw [hother, hskip]
        exact List.cons_ne_nil _ _
      have heq : forall {other : Reader} {found : Option (Reader × List Char)},
          other.setting = reader.setting -> OpeningAt other (c :: more) found ->
            other.readOpening cs = found := by
        intro other found hother hat
        refine OpeningAt.eq ?_
        rw [hother, hskip]
        exact hat
      have hopening := openingAt (hne rfl)
      rw [hskip, h] at hopening
      generalize hfound : some (result, rest) = found at hopening
      cases hopening with
      | plain hc =>
          cases hfound
          refine ⟨.openNumbered, fun _ => Or.inl ?_, fun other hother => heq hother (.plain hc)⟩
          rintro rest hmark
          cases hmark
          exact hc rfl
      | around hc =>
          cases hfound
      | behind hc =>
          cases hfound
      | named hc =>
          rcases makes_openNamed hfound.symm with ⟨name, hmakes⟩
          refine ⟨.openNamed name, fun _ => Or.inr (Or.inl ⟨_, rfl⟩), ?_⟩
          intro other hother
          exact (heq hother (.named hc)).trans (hmakes other hother)
      | prefixed =>
          rcases makes_openNamed hfound.symm with ⟨name, hmakes⟩
          refine ⟨.openNamed name, fun _ => Or.inr (Or.inr ⟨_, rfl⟩), ?_⟩
          intro other hother
          exact (heq hother (.prefixed _)).trans (hmakes other hother)
      | setting hc hnamed =>
          rcases makes_openSetting hfound.symm with ⟨move, hopens, hmakes⟩
          refine ⟨move, fun hopen => absurd hopen (by simp [hopens]), ?_⟩
          intro other hother
          exact (heq hother (.setting hc hnamed)).trans (hmakes other hother)
      | short =>
          cases hfound
      | shorter =>
          cases hfound

theorem atomRegex_cases {setting : Setting} {atom : Atom} {item : Regex}
    (h : atomRegex? setting atom = some item) :
    (exists set, item = .char set) ∨ exists condition, item = .anchor condition := by
  unfold atomRegex? at h
  split at h
  · cases h
    exact Or.inr ⟨_, rfl⟩
  · split at h <;> cases h
    exact Or.inl ⟨_, rfl⟩
  · split at h <;> cases h
    exact Or.inl ⟨_, rfl⟩

/-- What is read and the setting say which move a piece makes. -/
theorem exists_makes (h : reader.step c cs = some (result, rest)) :
    exists move : Move, (move.opens = true -> c = '(' ∧ Keeps (reader.setting.skip cs)) ∧
      Makes reader.setting (fun reader => reader.step c cs) move rest := by
  unfold step at h ⊢
  dsimp only at h ⊢
  split at h
  · rcases makes_readOpening h with ⟨move, hopens, hmakes⟩
    exact ⟨move, fun hopen => ⟨rfl, hopens hopen⟩, hmakes⟩
  · refine ⟨.close, nofun, ?_⟩
    intro other hother
    rcases Option.map_eq_some_iff.mp h with ⟨_, _, heq⟩
    cases heq
    rfl
  · cases h
    exact ⟨.branch, nofun, fun other hother => rfl⟩
  · rcases Option.map_eq_some_iff.mp h with ⟨⟨set, behind⟩, hbracket, heq⟩
    cases heq
    refine ⟨.char set, nofun, ?_⟩
    intro other hother
    simp only [hother, hbracket]
    rfl
  · rcases Option.map_eq_some_iff.mp h with ⟨_, _, heq⟩
    cases heq
    exact ⟨.repeatLast 0 (some 1) (readGreed cs).1, nofun, fun other hother => rfl⟩
  · rcases Option.map_eq_some_iff.mp h with ⟨_, _, heq⟩
    cases heq
    exact ⟨.repeatLast 0 none (readGreed cs).1, nofun, fun other hother => rfl⟩
  · rcases Option.map_eq_some_iff.mp h with ⟨_, _, heq⟩
    cases heq
    exact ⟨.repeatLast 1 none (readGreed cs).1, nofun, fun other hother => rfl⟩
  · rcases Option.bind_eq_some_iff.mp h with ⟨⟨least, most, behind⟩, hcounts, hgreed⟩
    rcases Option.bind_eq_some_iff.mp hgreed with ⟨_, _, heq⟩
    cases heq
    refine ⟨.repeatLast least most (readGreed (reader.setting.skip behind)).1, nofun, ?_⟩
    intro other hother
    simp only [hother, hcounts, Option.bind_eq_bind, Option.bind_some]
    exact (Option.map_eq_bind).symm
  · cases h
    refine ⟨.anchor (startAnchor reader.setting), nofun, ?_⟩
    intro other hother
    simp only [hother]
    rfl
  · cases h
    refine ⟨.anchor (endAnchor reader.setting), nofun, ?_⟩
    intro other hother
    simp only [hother]
    rfl
  · rcases Option.ite_none_right_eq_some.mp h with ⟨hallows, heq⟩
    cases heq
    refine ⟨.char (dotSet reader.setting), nofun, ?_⟩
    intro other hother
    simp only [hother, hallows, if_true]
    rfl
  · rcases Option.bind_eq_some_iff.mp h with ⟨⟨atom, behind⟩, hatom, hitem⟩
    rcases Option.bind_eq_some_iff.mp hitem with ⟨item, hregex, heq⟩
    cases heq
    have hstep : forall other : Reader, other.setting = reader.setting ->
        ((Atom.read other.setting (c :: cs)).bind fun read =>
          (atomRegex? other.setting read.1).bind fun item =>
            some (other.push (some item), read.2)) = some (other.push (some item), behind) := by
      intro other hother
      rw [hother, hatom, Option.bind_some, hregex]
      rfl
    rcases atomRegex_cases hregex with ⟨set, rfl⟩ | ⟨condition, rfl⟩
    · exact ⟨.char set, nofun, hstep⟩
    · exact ⟨.anchor condition, nofun, hstep⟩

/-- A step makes one move in each reader with the same setting, as it does in this one. -/
theorem exists_move (h : reader.step c cs = some (result, rest)) :
    exists move : Move, (move.opens = true -> c = '(' ∧ Keeps (reader.setting.skip cs)) ∧
      move.apply reader = some result ∧
        Makes reader.setting (fun reader => reader.step c cs) move rest := by
  rcases exists_makes h with ⟨move, hopens, hmakes⟩
  have hmade := hmakes reader rfl
  dsimp only at hmade
  rw [h] at hmade
  rcases Option.map_eq_some_iff.mp hmade.symm with ⟨found, hfound, heq⟩
  cases heq
  exact ⟨move, hopens, hfound, hmakes⟩

end Reader

/-!
# Expressions inside others

An expression that is read inside a group of another one is the expression that is read alone, with
its groups numbered from another number on.
-/

/-- The expression with the numbers of its groups moved up. -/
def renumbered (count : Nat) : Regex -> Regex
  | .empty => .empty
  | .char set => .char set
  | Regex.anchor condition => Regex.anchor condition
  | .group number inside => .group (number + count) (inside.renumbered count)
  | .seq first second => .seq (first.renumbered count) (second.renumbered count)
  | .alt first second => .alt (first.renumbered count) (second.renumbered count)
  | .times inside least most greedy => .times (inside.renumbered count) least most greedy

/-- An expression in parentheses, which may have a number. -/
def enclosed (number : Option Nat) (inside : Regex) : Regex :=
  match number with
  | some number => .group number inside
  | none => inside

namespace Level

/-- The level with the numbers of its groups moved up. -/
def renumbered (count : Nat) (level : Level) : Level where
  number := level.number.map (· + count)
  outside := level.outside
  branches := level.branches.map (Regex.renumbered count)
  items := level.items.map (Option.map (Regex.renumbered count))

/-- What was read at the lowest level, in a group that was opened already. -/
def within (level ground : Level) (count : Nat) : Level :=
  { level.renumbered count with number := ground.number, outside := ground.outside }

variable {ground : Level} {count : Nat}

theorem sequenceOnto_renumbered (after : Regex) (items : List (Option Regex)) :
    sequenceOnto (after.renumbered count) (items.map (Option.map (Regex.renumbered count))) =
      (sequenceOnto after items).renumbered count := by
  induction items generalizing after with
  | nil =>
      rfl
  | cons item items ih =>
      cases item with
      | none =>
          exact ih after
      | some item =>
          exact ih (.seq item after)

theorem sequence_renumbered (items : List (Option Regex)) :
    sequence (items.map (Option.map (Regex.renumbered count))) =
      (sequence items).renumbered count := by
  induction items with
  | nil =>
      rfl
  | cons item items ih =>
      cases item with
      | none =>
          exact ih
      | some item =>
          exact sequenceOnto_renumbered item items

theorem alternatives_renumbered (last : Regex) (branches : List Regex) :
    alternatives (last.renumbered count) (branches.map (Regex.renumbered count)) =
      (alternatives last branches).renumbered count := by
  induction branches generalizing last with
  | nil =>
      rfl
  | cons branch branches ih =>
      exact ih (.alt branch last)

theorem inside_renumbered (level : Level) :
    (level.renumbered count).inside = level.inside.renumbered count := by
  unfold inside renumbered
  rw [sequence_renumbered, alternatives_renumbered]

theorem group_renumbered (level : Level) :
    (level.renumbered count).group = level.group.renumbered count := by
  unfold group
  rw [inside_renumbered]
  unfold renumbered
  cases level.number <;> rfl

theorem group_within (level : Level) :
    (level.within ground count).group =
      enclosed ground.number (level.inside.renumbered count) := by
  have hinside : (level.within ground count).inside = level.inside.renumbered count :=
    inside_renumbered level
  unfold group enclosed
  rw [hinside]
  rfl

end Level

namespace Reader

variable {ground reader result : Reader} {item : Option Regex}

/-- The innermost level and the other ones above the group that is open in `ground`. -/
def levelsWithin (ground : Reader) : Level -> List Level -> Level × List Level
  | level, [] => (level.within ground.level (ground.next - 1), ground.outer)
  | level, outer :: levels =>
      let below := levelsWithin ground outer levels
      (level.renumbered (ground.next - 1), below.1 :: below.2)

/-- What a reader has read, in the group that was just opened in `ground`. -/
def within (reader ground : Reader) : Reader where
  setting := reader.setting
  next := reader.next + (ground.next - 1)
  names := reader.names ++ ground.names
  level := (levelsWithin ground reader.level reader.outer).1
  outer := (levelsWithin ground reader.level reader.outer).2

theorem within_start (ground : Reader) (hnext : 0 < ground.next)
    (hbranches : ground.level.branches = []) (hitems : ground.level.items = []) :
    (start ground.setting).within ground = ground := by
  rcases ground with ⟨setting, next, names, ⟨number, outside, branches, items⟩, outer⟩
  cases hbranches
  cases hitems
  simp only [within, start, levelsWithin, Level.within, Level.renumbered, Level.start]
  congr 1
  exact Nat.add_sub_cancel' hnext

theorem within_push (ground reader : Reader) (item : Option Regex) :
    (reader.push item).within ground =
      (reader.within ground).push (item.map (renumbered (ground.next - 1))) := by
  rcases reader with ⟨setting, next, names, level, outer⟩
  cases outer <;> rfl

theorem within_branch (ground reader : Reader) :
    reader.branch.within ground = (reader.within ground).branch := by
  rcases reader with ⟨setting, next, names, level, outer⟩
  cases outer <;>
    simp [within, branch, levelsWithin, Level.within, Level.renumbered, Level.sequence_renumbered]

theorem within_openGroup (ground reader : Reader) (number : Option Nat) (setting : Setting) :
    (reader.openGroup number setting).within ground =
      (reader.within ground).openGroup (number.map (· + (ground.next - 1))) setting := by
  rcases reader with ⟨before, next, names, level, outer⟩
  cases outer <;> rfl

theorem within_openNumbered (ground reader : Reader) :
    reader.openNumbered.within ground = (reader.within ground).openNumbered := by
  rcases reader with ⟨before, next, names, level, outer⟩
  have hnext : next + 1 + (ground.next - 1) = next + (ground.next - 1) + 1 :=
    Nat.add_right_comm ..
  cases outer <;>
    simp only [within, openNumbered, openGroup, levelsWithin, hnext] <;> rfl

theorem within_closeGroup (h : reader.closeGroup = some result) :
    (reader.within ground).closeGroup = some (result.within ground) := by
  rcases reader with ⟨before, next, names, level, outer⟩
  cases outer with
  | nil =>
      cases h
  | cons below outer =>
      have hclose : Reader.closeGroup ⟨before, next, names, level, below :: outer⟩ =
          some (push ⟨level.outside, next, names, below, outer⟩ (some level.group)) := rfl
      rw [hclose] at h
      cases h
      rw [within_push, Option.map_some, ← Level.group_renumbered]
      rfl

theorem within_repeatLast {least : Nat} {most : Option Nat} {greedy : Bool}
    (h : reader.repeatLast least most greedy = some result) :
    (reader.within ground).repeatLast least most greedy = some (result.within ground) := by
  rcases reader with ⟨before, next, names, ⟨number, outside, branches, items⟩, outer⟩
  unfold repeatLast at h
  dsimp only at h
  split at h
  · rename_i item below
    cases h
    cases outer <;> rfl
  · cases h

/-- A move that can be made alone is made inside another expression, too, unless a name is
taken there. -/
theorem apply_within {move : Move} (h : move.apply reader = some result) :
    move.apply (reader.within ground) = none ∨
      move.apply (reader.within ground) = some (result.within ground) := by
  cases move with
  | char set =>
      cases h
      exact Or.inr (congrArg some (within_push ground reader (some (.char set))).symm)
  | anchor condition =>
      cases h
      exact Or.inr (congrArg some (within_push ground reader (some (.anchor condition))).symm)
  | put setting =>
      cases h
      rcases reader with ⟨before, next, names, level, outer⟩
      cases outer <;> exact Or.inr rfl
  | openPlain setting =>
      cases h
      exact Or.inr (congrArg some (within_openGroup ground reader none setting).symm)
  | openNumbered =>
      cases h
      exact Or.inr (congrArg some (within_openNumbered ground reader).symm)
  | openNamed name =>
      rw [Move.apply] at h ⊢
      split at h
      · cases h
      · cases h
        split
        · exact Or.inl rfl
        · refine Or.inr (congrArg some ?_)
          rw [within_openNumbered]
          rfl
  | close =>
      exact Or.inr (within_closeGroup h)
  | branch =>
      cases h
      exact Or.inr (congrArg some (within_branch ground reader).symm)
  | repeatLast least most greedy =>
      exact Or.inr (within_repeatLast h)

theorem step_within {c : Char} {cs rest : List Char}
    (h : reader.step c cs = some (result, rest)) :
    (reader.within ground).step c cs = none ∨
      (reader.within ground).step c cs = some (result.within ground, rest) := by
  rcases exists_move h with ⟨move, _, hfound, hmakes⟩
  have hwithin := hmakes (reader.within ground) rfl
  dsimp only at hwithin
  rw [hwithin]
  rcases apply_within hfound with hnone | hsome
  · exact Or.inl (by rw [hnone]; rfl)
  · exact Or.inr (by rw [hsome]; rfl)

/-!
# Runs
-/

/-- Whether a reader ends as another one when it has read a text. -/
inductive Ends : Reader -> List Char -> Reader -> Prop where
  | done {reader : Reader} {cs : List Char} (hskip : reader.setting.skip cs = []) :
      Ends reader cs reader
  | step {reader next final : Reader} {c : Char} {cs rest behind : List Char}
      (hskip : reader.setting.skip cs = c :: rest)
      (hstep : reader.step c rest = some (next, behind))
      (hrest : Ends next behind final) : Ends reader cs final

variable {final whole next : Reader} {cs rest behind tail : List Char} {c : Char} {fuel : Nat}

theorem ends_of_readPieces (h : readPieces fuel reader cs = some final) : Ends reader cs final := by
  induction fuel generalizing reader cs with
  | zero =>
      cases h
  | succ fuel ih =>
      rw [readPieces] at h
      split at h
      · rename_i hskip
        cases h
        exact .done hskip
      · rename_i c rest hskip
        split at h
        · rename_i next behind hstep
          exact .step hskip hstep (ih h)
        · cases h

namespace Ends

theorem eq_of_skip (h : Ends reader cs final) (hskip : reader.setting.skip cs = []) :
    final = reader := by
  cases h with
  | done =>
      rfl
  | step hnext =>
      rw [hskip] at hnext
      cases hnext

theorem of_skip (h : Ends reader cs final) (hskip : reader.setting.skip cs = c :: rest) :
    exists next behind, reader.step c rest = some (next, behind) ∧ Ends next behind final := by
  cases h with
  | done hnext =>
      rw [hskip] at hnext
      cases hnext
  | step hnext hstep hrest =>
      rw [hskip] at hnext
      cases hnext
      exact ⟨_, _, hstep, hrest⟩

/-- A step that is made alone is the one that is made inside another expression. -/
theorem of_step_within (h : Ends (reader.within ground) cs final)
    (hskip : reader.setting.skip cs = c :: rest)
    (hstep : reader.step c rest = some (next, behind)) :
    Ends (next.within ground) behind final := by
  rcases h.of_skip hskip with ⟨other, beyond, hother, hrest⟩
  rcases step_within hstep with hnone | hsome
  · rw [hnone] at hother
    cases hother
  · rw [hsome] at hother
    cases hother
    exact hrest

end Ends

theorem outer_within_ne_nil (reader : Reader) (h : ground.outer ≠ []) :
    (reader.within ground).outer ≠ [] := by
  rcases reader with ⟨setting, next, names, level, outer⟩
  cases outer with
  | nil =>
      exact h
  | cons below outer =>
      exact List.cons_ne_nil _ _

/-- An expression that can be read between parentheses is read inside another one up to the
parenthesis that closes it. -/
theorem ends_parenthesis {around other : Reader} (halone : Ends reader cs final)
    (haround : around.outer ≠ []) (hwhole : whole.outer = [])
    (hbetween : Ends (reader.within around) (cs ++ [')']) whole)
    (h : Ends (reader.within ground) (cs ++ ')' :: tail) other) :
    exists closed, (final.within ground).closeGroup = some closed ∧ Ends closed tail other := by
  -- By induction on the run alone.  The run with only the parenthesis behind it excludes that a
  -- comment at the end of the text takes the parenthesis in.
  induction halone with
  | done hskip =>
      rename_i reader cs
      rcases skip_parenthesis hskip with hbehind | hcomment
      · rcases h.of_skip (hbehind tail) with ⟨next, beyond, hstep, hrest⟩
        rcases Option.map_eq_some_iff.mp hstep with ⟨closed, hclosed, heq⟩
        cases heq
        exact ⟨_, hclosed, hrest⟩
      · have heq := hbetween.eq_of_skip hcomment
        rw [heq] at hwhole
        exact absurd hwhole (outer_within_ne_nil reader haround)
  | step hskip hstep hrest ih =>
      rename_i reader next final c cs rest behind
      rcases (step_append hstep).2 with hmore | ⟨rfl, hcomment⟩
      · exact ih (hbetween.of_step_within (skip_append hskip _) (hmore []))
          (h.of_step_within (skip_append hskip _) (hmore tail))
      · have hends := hbetween.of_step_within (skip_append hskip _) hcomment
        have heq := hends.eq_of_skip (skip_nil _)
        rw [heq] at hwhole
        exact absurd hwhole (outer_within_ne_nil next haround)

end Reader

end Regex
end Docloom
