import Docloom.Proofs.Regex.Groups

/-!
# Continuations

What is left to read when a part of a text was read in the setting in which expressions start.  The
names of groups are of no account for that.
-/

namespace Docloom
namespace Regex

open Reader

variable {next : Nat} {level below : Level} {outer : List Level} {cs tail : List Char} {c : Char}
  {final : Reader} {number : Option Nat}

/-- The level with one more item. -/
def Level.pushed (level : Level) (item : Regex) : Level :=
  { level with items := some item :: level.items }

theorem Level.groupsInside_pushed (level : Level) (item : Regex) :
    (level.pushed item).groupsInside = level.groupsInside ++ item.groups := by
  simp [groupsInside, pushed]

/-- Whether a text is read up to its end from a reader with the next number and the levels, whatever
the names are. -/
def Continues (next : Nat) (level : Level) (outer : List Level) (cs : List Char)
    (final : Reader) : Prop :=
  exists names, Ends ⟨baseSetting, next, names, level, outer⟩ cs final

theorem skip_baseSetting (cs : List Char) : baseSetting.skip cs = cs := rfl

/-- One step that does not look at names. -/
theorem Continues.of_step {next' : Nat} {level' : Level} {outer' : List Level} {behind : List Char}
    (h : Continues next level outer (c :: cs) final)
    (hstep : forall names, Reader.step ⟨baseSetting, next, names, level, outer⟩ c cs =
      some (⟨baseSetting, next', names, level', outer'⟩, behind)) :
    Continues next' level' outer' behind final := by
  rcases h with ⟨names, h⟩
  rcases h.of_skip (skip_baseSetting _) with ⟨found, rest, hfound, hrest⟩
  rw [hstep names] at hfound
  cases hfound
  exact ⟨names, hrest⟩

/-!
# Single pieces
-/

/-- The text of a character that stands for itself. -/
def escapedChar (c : Char) : List Char := if Atom.isMeta c then ['\\', c] else [c]

theorem atomRead_escaped (h : Atom.isMeta c = true) :
    Atom.read baseSetting ('\\' :: c :: cs) = some (.char c false, cs) := by
  have hmarked : c ∉ Atom.marked := by
    have hletters : Atom.marked.all (fun d => !Atom.isMeta d) = true := by
      decide +kernel
    intro hmem
    have hletter := List.all_eq_true.mp hletters c hmem
    rw [h] at hletter
    cases hletter
  have hread : Atom.read baseSetting ('\\' :: c :: cs) =
      Atom.readEscape baseSetting (c :: cs) := rfl
  rw [hread, Atom.readEscape_of_not_marked cs hmarked, Atom.escaped?, Atom.isEscapable, h]
  rfl

theorem step_escaped {reader : Reader} (hsetting : reader.setting = baseSetting)
    (h : Atom.isMeta c = true) :
    reader.step '\\' (c :: cs) = some (reader.push (some (.char (.folded (.single c)))), cs) := by
  have hstep : reader.step '\\' (c :: cs) =
      ((Atom.read reader.setting ('\\' :: c :: cs)).bind fun read =>
        (atomRegex? reader.setting read.1).bind fun item =>
          some (reader.push (some item), read.2)) := rfl
  rw [hstep, hsetting, atomRead_escaped h]
  rfl

theorem step_plain {reader : Reader} (hsetting : reader.setting = baseSetting)
    (h : Atom.isMeta c = false) :
    reader.step c cs = some (reader.push (some (.char (.folded (.single c)))), cs) := by
  have hmeta : forall d, Atom.isMeta d = true -> c ≠ d := by
    rintro d hd rfl
    rw [hd] at h
    cases h
  have hread : Atom.read baseSetting (c :: cs) = some (.char c false, cs) := by
    unfold Atom.read
    split
    · rename_i heq
      cases heq
    · rename_i heq
      cases heq
      exact absurd rfl (hmeta '\\' rfl)
    · rename_i heq
      cases heq
      rfl
  unfold step
  rw [hsetting]
  dsimp only
  split
  -- All cases but the last one are signs.
  iterate 11 exact absurd rfl (hmeta _ rfl)
  simp only [hread]
  rfl

theorem Continues.char (h : Continues next level outer (escapedChar c ++ tail) final) :
    Continues next (level.pushed (.char (.folded (.single c)))) outer tail final := by
  unfold escapedChar at h
  split at h
  · rename_i hmeta
    rw [List.cons_append, List.cons_append, List.nil_append] at h
    exact h.of_step fun _ => step_escaped rfl hmeta
  · rename_i hmeta
    exact h.of_step fun _ => step_plain rfl (Bool.eq_false_iff.mpr hmeta)

theorem Continues.openNumbered (hc : c ≠ '?')
    (h : Continues next level outer ('(' :: c :: cs) final) :
    Continues (next + 1) (.start (some next) baseSetting) (level :: outer) (c :: cs) final := by
  refine h.of_step fun _ => OpeningAt.eq ?_
  exact .plain hc

theorem Continues.openPlain (h : Continues next level outer ('(' :: '?' :: ':' :: cs) final) :
    Continues next (.start none baseSetting) (level :: outer) cs final :=
  h.of_step fun _ => rfl

theorem Continues.close (houtside : level.outside = baseSetting)
    (h : Continues next level (below :: outer) (')' :: cs) final) :
    Continues next (below.pushed level.group) outer cs final := by
  refine h.of_step fun _ => ?_
  rcases level with ⟨number, outside, branches, items⟩
  cases houtside
  rfl

theorem Continues.anchor {condition : Anchor} (hc : c = '^' ∧ condition = .textStart ∨
    c = '$' ∧ condition = .textEnd) (h : Continues next level outer (c :: cs) final) :
    Continues next (level.pushed (.anchor condition)) outer cs final := by
  rcases hc with ⟨rfl, rfl⟩ | ⟨rfl, rfl⟩ <;> exact h.of_step fun _ => rfl

/-- The least and the greatest number of times that a sign behind an item stands for. -/
inductive RepeatSign : Char -> Nat -> Option Nat -> Prop where
  | optional : RepeatSign '?' 0 (some 1)
  | any : RepeatSign '*' 0 none
  | some : RepeatSign '+' 1 none

theorem Continues.repeated {least : Nat} {most : Option Nat} {item : Regex}
    (hsign : RepeatSign c least most) (hcs : forall rest, cs ≠ '?' :: rest)
    (h : Continues next (level.pushed item) outer (c :: cs) final) :
    Continues next (level.pushed (.times item least most true)) outer cs final := by
  have hgreed : readGreed cs = (true, cs) := by
    unfold readGreed
    split
    · exact absurd rfl (hcs _)
    · rfl
  refine h.of_step fun _ => ?_
  cases hsign <;>
  · simp only [step, hgreed]
    rfl

theorem Continues.done (h : Continues next level outer [] final) :
    exists names, final = ⟨baseSetting, next, names, level, outer⟩ := by
  rcases h with ⟨names, h⟩
  exact ⟨names, h.eq_of_skip (skip_baseSetting _)⟩

/-!
# Whole expressions
-/

variable {text : String} {inside : Regex}

/-- Nothing stands before the first question mark that it could repeat. -/
theorem not_mark_of_ends (h : Ends (start baseSetting) ('?' :: cs) final) : False := by
  rcases h.of_skip (skip_baseSetting _) with ⟨next, behind, hstep, _⟩
  cases hstep

/-- An expression by itself does not change what an opening parenthesis before it does. -/
theorem ne_mark_of_read (h : read? text = some inside) (tail : List Char) :
    exists c cs, text.toList ++ ')' :: tail = c :: cs ∧ c ≠ '?' := by
  rcases exists_ends_of_read h with ⟨final, hends, _⟩
  cases htext : text.toList with
  | nil =>
      exact ⟨')', tail, rfl, by decide⟩
  | cons c cs =>
      refine ⟨c, cs ++ ')' :: tail, rfl, ?_⟩
      rintro rfl
      rw [htext] at hends
      exact not_mark_of_ends hends

theorem read_of_own (h : own? text = some inside) :
    read? text = some inside ∧ exists whole, read? ("(" ++ text ++ ")") = some whole := by
  unfold own? at h
  split at h
  · rename_i hsome
    exact ⟨h, Option.isSome_iff_exists.mp hsome⟩
  · cases h

/-- Between parentheses an expression by itself is read in a group that stays open up to the last
one. -/
theorem ends_between {whole : Regex} (hread : read? text = some inside)
    (h : read? ("(" ++ text ++ ")") = some whole) :
    exists wrapped, wrapped.outer = [] ∧
      Ends (start baseSetting).openNumbered (text.toList ++ [')']) wrapped := by
  rcases exists_ends_of_read h with ⟨wrapped, hends, hreads⟩
  have htext : ("(" ++ text ++ ")").toList = '(' :: (text.toList ++ [')']) := by
    simp [String.toList_append]
  rcases ne_mark_of_read hread [] with ⟨c, cs, hcs, hc⟩
  rw [htext, hcs] at hends
  rcases hends.of_skip (skip_baseSetting _) with ⟨next, behind, hstep, hrest⟩
  have hopen : (start baseSetting).step '(' (c :: cs) =
      some ((start baseSetting).openNumbered, c :: cs) := OpeningAt.eq (.plain hc)
  rw [hopen] at hstep
  cases hstep
  rw [← hcs] at hrest
  exact ⟨wrapped, hreads.outer_eq, hrest⟩

/-- An expression by itself is read inside another one as it is read alone, with other numbers. -/
theorem Continues.own (hown : own? text = some inside) (hnext : 0 < next)
    (h : Continues next (.start number baseSetting) (below :: outer)
      (text.toList ++ ')' :: tail) final) :
    Continues (next + inside.groups.length)
      (below.pushed (enclosed number (inside.renumbered (next - 1)))) outer tail final := by
  rcases h with ⟨names, h⟩
  rcases read_of_own hown with ⟨hread, whole, hwhole⟩
  rcases ends_between hread hwhole with ⟨wrapped, houter, hbetween⟩
  rcases exists_ends_of_read hread with ⟨alone, halone, hreads⟩
  -- The run alone is put into two others: into the one where only a parenthesis follows, and into
  -- the one that goes on behind it.  Both start in a group that was just opened.
  let ground : Reader := ⟨baseSetting, next, names, .start number baseSetting, below :: outer⟩
  have hground : (start baseSetting).within ground = ground := within_start ground hnext rfl rfl
  have haround : (start baseSetting).within (start baseSetting).openNumbered =
      (start baseSetting).openNumbered :=
    within_start (start baseSetting).openNumbered (by decide) rfl rfl
  rw [← haround] at hbetween
  change Ends ground (text.toList ++ ')' :: tail) final at h
  rw [← hground] at h
  rcases ends_parenthesis halone (List.cons_ne_nil _ _) houter hbetween h with
    ⟨closed, hclosed, hrest⟩
  rcases alone with ⟨setting, last, more, level, outerAlone⟩
  cases hreads.outer_eq
  cases hreads.inside_eq
  have hlast : last + (next - 1) = next + level.inside.groups.length := by
    have hcount : last = level.inside.groups.length + 1 := hreads.next_eq
    omega
  have hclose : closeGroup (within ⟨setting, last, more, level, []⟩ ground) =
      some ⟨baseSetting, last + (next - 1), more ++ names,
        below.pushed (level.within ground.level (next - 1)).group, outer⟩ := rfl
  rw [hclose, Level.group_within, hlast] at hclosed
  cases hclosed
  exact ⟨more ++ names, hrest⟩

end Regex
end Docloom
