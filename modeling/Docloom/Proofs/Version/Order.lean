import Docloom.Directive.Rule
import Docloom.Version.Name
import Mathlib.Data.Prod.Lex
import Mathlib.Data.String.Basic

/-!
# The order of versions

Versions are compared by their three numbers, the first of which counts most.  The keys of names
come in a line: versions from the greatest to the smallest, and then the other names.
-/

namespace Docloom

namespace Version

/-- The numbers of a version, compared from left to right. -/
def numbers (version : Version) : Nat ×ₗ Nat ×ₗ Nat :=
  toLex (version.major, toLex (version.minor, version.patch))

variable {a b : Version}

theorem numbers_inj : a.numbers = b.numbers ↔ a = b := by
  rcases a with ⟨major, minor, patch⟩
  rcases b with ⟨major', minor', patch'⟩
  simp [numbers]

theorem less_iff : less a b = true ↔ a.numbers < b.numbers := by
  simp [less, numbers, Prod.Lex.toLex_lt_toLex]

theorem less_eq_false_iff : less a b = false ↔ b.numbers ≤ a.numbers := by
  rw [← not_lt, ← less_iff, Bool.not_eq_true]

end Version

namespace Comparator

/-- Whether numbers stand in the relation that a comparator names. -/
def Relates (comparator : Comparator) (current target : Nat ×ₗ Nat ×ₗ Nat) : Prop :=
  match comparator with
  | .less => current < target
  | .atMost => current ≤ target
  | .greater => target < current
  | .atLeast => target ≤ current
  | .equal => current = target

theorem holds_iff {comparator : Comparator} {current target : Version} :
    comparator.holds current target = true ↔
      comparator.Relates current.numbers target.numbers := by
  cases comparator with
  | less =>
      exact Version.less_iff
  | atMost =>
      rw [holds, Bool.not_eq_true', Version.less_eq_false_iff, Relates]
  | greater =>
      exact Version.less_iff
  | atLeast =>
      rw [holds, Bool.not_eq_true', Version.less_eq_false_iff, Relates]
  | equal =>
      rw [holds, beq_iff_eq, Relates, Version.numbers_inj]

end Comparator

namespace VersionName

/-- Whether a name with the first key may stand before one with the second: a version before
smaller and equal ones and before other names, and these before smaller and equal ones. -/
inductive Key.Precedes : Key -> Key -> Prop where
  | versions {a b : Version} (h : b.numbers ≤ a.numbers) : Precedes (.version a) (.version b)
  | mixed (version : Version) (name : String) : Precedes (.version version) (.opaqueName name)
  | names {a b : String} (h : b ≤ a) : Precedes (.opaqueName a) (.opaqueName b)

namespace Key

variable {a b c : Key}

theorem mayPrecede_iff : a.mayPrecede b = true ↔ a.Precedes b := by
  cases a with
  | version v =>
      cases b with
      | version w =>
          rw [mayPrecede, Bool.not_eq_true', Version.less_eq_false_iff]
          exact ⟨.versions, fun h => by cases h with | versions h => exact h⟩
      | opaqueName name =>
          exact ⟨fun _ => .mixed v name, fun _ => rfl⟩
  | opaqueName name =>
      cases b with
      | version w =>
          constructor
          · intro h
            cases h
          · intro h
            cases h
      | opaqueName other =>
          rw [mayPrecede, Bool.not_eq_true', decide_eq_false_iff_not, not_lt]
          exact ⟨.names, fun h => by cases h with | names h => exact h⟩

theorem Precedes.refl (a : Key) : a.Precedes a := by
  cases a with
  | version v =>
      exact .versions (le_refl _)
  | opaqueName name =>
      exact .names (le_refl _)

theorem Precedes.trans (hab : a.Precedes b) (hbc : b.Precedes c) : a.Precedes c := by
  cases hab with
  | versions hab =>
      cases hbc with
      | versions hbc =>
          exact .versions (hbc.trans hab)
      | mixed _ name =>
          exact .mixed _ name
  | mixed v _ =>
      cases hbc with
      | names _ =>
          exact .mixed v _
  | names hab =>
      cases hbc with
      | names hbc =>
          exact .names (hbc.trans hab)

theorem Precedes.total (a b : Key) : a.Precedes b ∨ b.Precedes a := by
  cases a with
  | version v =>
      cases b with
      | version w =>
          exact (le_total w.numbers v.numbers).imp .versions .versions
      | opaqueName name =>
          exact Or.inl (.mixed v name)
  | opaqueName name =>
      cases b with
      | version w =>
          exact Or.inr (.mixed w name)
      | opaqueName other =>
          exact (le_total other name).imp .names .names

end Key

/-!
# Sorted names
-/

theorem sort_perm (names : List String) : (sort names).Perm names :=
  List.mergeSort_perm names _

theorem mayPrecede_trans (a b c : String) (hab : (key a).mayPrecede (key b) = true)
    (hbc : (key b).mayPrecede (key c) = true) : (key a).mayPrecede (key c) = true :=
  Key.mayPrecede_iff.mpr ((Key.mayPrecede_iff.mp hab).trans (Key.mayPrecede_iff.mp hbc))

theorem mayPrecede_total (a b : String) :
    ((key a).mayPrecede (key b) || (key b).mayPrecede (key a)) = true := by
  rw [Bool.or_eq_true, Key.mayPrecede_iff, Key.mayPrecede_iff]
  exact Key.Precedes.total (key a) (key b)

theorem pairwise_sort (names : List String) :
    (sort names).Pairwise fun a b => (key a).Precedes (key b) :=
  (List.pairwise_mergeSort mayPrecede_trans mayPrecede_total names).imp Key.mayPrecede_iff.mp

/-- Names with one key are left in their order. -/
theorem filter_sort (names : List String) (k : Key) :
    (sort names).filter (fun name => key name = k) = names.filter fun name => key name = k := by
  have hpairwise : (names.filter fun name => key name = k).Pairwise
      fun a b => (key a).mayPrecede (key b) = true := by
    apply List.pairwise_of_forall_mem_list
    intro a ha b hb
    rw [Key.mayPrecede_iff, of_decide_eq_true (List.mem_filter.mp ha).2,
      of_decide_eq_true (List.mem_filter.mp hb).2]
    exact Key.Precedes.refl k
  have hsublist : (names.filter fun name => key name = k).Sublist (sort names) :=
    List.sublist_mergeSort mayPrecede_trans mayPrecede_total hpairwise List.filter_sublist
  have hkept := hsublist.filter fun name => decide (key name = k)
  rw [List.filter_filter] at hkept
  simp only [Bool.and_self] at hkept
  exact (hkept.eq_of_length ((sort_perm names).filter _).length_eq.symm).symm

end VersionName

end Docloom
