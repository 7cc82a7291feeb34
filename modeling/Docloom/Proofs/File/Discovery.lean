import Docloom.Proofs.File.Pieces
import Mathlib.Data.List.Nodup

/-!
# Files below a directory

Each file below a directory is found once, at the names that lead to it.  What is on the way to
one file is a directory, so no file is on the way to another one.  Paths are put in an order that
compares any two of them.
-/

namespace Docloom

/-!
# The order of paths
-/

namespace Path

theorem Component.before_normal (x y : String) :
    (Component.normal x).before (.normal y) = true ↔ x < y := by
  rw [Component.before, decide_eq_true_iff]

theorem Component.before_asymm {a b : Component} (h : a.before b = true) :
    b.before a = false := by
  cases hback : b.before a with
  | false =>
      rfl
  | true =>
      exfalso
      cases a <;> cases b
      case normal.normal x y =>
        rw [Component.before_normal] at h hback
        exact String.lt_irrefl x (String.lt_trans h hback)
      all_goals
        simp [Component.before, Component.rank] at h hback

/-- What comes before a component comes before another one, or that one comes before it. -/
theorem Component.before_cotrans {a c : Component} (h : a.before c = true) (b : Component) :
    a.before b = true ∨ b.before c = true := by
  cases a <;> cases b <;> cases c
  case normal.normal.normal x y z =>
    rw [Component.before_normal] at h ⊢
    rw [Component.before_normal]
    by_cases hxy : x < y
    · exact Or.inl hxy
    · exact Or.inr (Std.lt_of_le_of_lt (String.not_lt.mp hxy) h)
  all_goals
    simp [Component.before, Component.rank] at h ⊢

theorem Component.eq_of_not_before {a b : Component} (hab : a.before b = false)
    (hba : b.before a = false) : a = b := by
  cases a <;> cases b
  case normal.normal x y =>
    rw [← Bool.not_eq_true, Component.before_normal] at hab hba
    rw [String.le_antisymm (String.not_lt.mp hba) (String.not_lt.mp hab)]
  all_goals
    first | rfl | simp [Component.before, Component.rank] at hab hba

theorem componentsBefore_asymm {as bs : List Component} (h : componentsBefore as bs = true) :
    componentsBefore bs as = false := by
  induction as generalizing bs with
  | nil =>
      cases bs with
      | nil =>
          rfl
      | cons b bs =>
          rfl
  | cons a as ih =>
      cases bs with
      | nil =>
          cases h
      | cons b bs =>
          simp only [componentsBefore, Bool.or_eq_true, Bool.and_eq_true, beq_iff_eq] at h
          rcases h with hbefore | ⟨rfl, hrest⟩
          · have hne : b ≠ a := by
              rintro rfl
              have hnot := Component.before_asymm hbefore
              rw [hbefore] at hnot
              cases hnot
            simp [componentsBefore, Component.before_asymm hbefore, hne]
          · have hself : a.before a = false := by
              by_contra hbefore
              rw [Bool.not_eq_false] at hbefore
              have hnot := Component.before_asymm hbefore
              rw [hbefore] at hnot
              cases hnot
            simp [componentsBefore, hself, ih hrest]

theorem componentsBefore_cotrans {as cs : List Component}
    (h : componentsBefore as cs = true) (bs : List Component) :
    componentsBefore as bs = true ∨ componentsBefore bs cs = true := by
  induction as generalizing bs cs with
  | nil =>
      cases bs with
      | nil =>
          exact Or.inr h
      | cons b bs =>
          exact Or.inl rfl
  | cons a as ih =>
      cases cs with
      | nil =>
          cases h
      | cons c cs =>
          cases bs with
          | nil =>
              exact Or.inr rfl
          | cons b bs =>
              simp only [componentsBefore, Bool.or_eq_true, Bool.and_eq_true, beq_iff_eq] at h ⊢
              rcases h with hbefore | ⟨rfl, hrest⟩
              · rcases Component.before_cotrans hbefore b with hab | hbc
                · exact Or.inl (Or.inl hab)
                · exact Or.inr (Or.inl hbc)
              · by_cases hab : a.before b = true
                · exact Or.inl (Or.inl hab)
                · by_cases hba : b.before a = true
                  · exact Or.inr (Or.inl hba)
                  · have heq : a = b :=
                      Component.eq_of_not_before (by simpa using hab) (by simpa using hba)
                    rcases ih hrest bs with hleft | hright
                    · exact Or.inl (Or.inr ⟨heq, hleft⟩)
                    · exact Or.inr (Or.inr ⟨heq.symm, hright⟩)

theorem le_total (a b : Path) : (a.le b || b.le a) = true := by
  unfold le
  cases h : componentsBefore b.components a.components with
  | false =>
      rfl
  | true =>
      rw [componentsBefore_asymm h]
      rfl

theorem le_trans (a b c : Path) (hab : a.le b = true) (hbc : b.le c = true) :
    a.le c = true := by
  unfold le at hab hbc ⊢
  rw [Bool.not_eq_true'] at hab hbc ⊢
  by_contra h
  rw [Bool.not_eq_false] at h
  rcases componentsBefore_cotrans h b.components with hleft | hright
  · rw [hbc] at hleft
    cases hleft
  · rw [hab] at hright
    cases hright

end Path

namespace FileSystem

/-- Whether a file system could be one of a machine: nothing is at two places, names are names,
and the current directory is there. -/
structure Proper (files : FileSystem) : Prop where
  distinct : (files.entries.map Prod.fst).Nodup
  names : forall entry, entry ∈ files.entries -> ProperLocation entry.1
  current : forall above, above <+: files.current -> files.entry? above = some .directory

variable {files : FileSystem} {location base : Location} {path : Path} {names : List String}

/-!
# What is in a directory
-/

theorem mem_namesAt {name : String} (h : name ∈ files.namesAt location) :
    exists entry, entry ∈ files.entries ∧ entry.1 = location ++ [name] := by
  rcases List.mem_filterMap.mp h with ⟨entry, hentry, hname⟩
  split at hname
  · rename_i hlocation
    refine ⟨entry, hentry, ?_⟩
    rcases List.getLast?_eq_some_iff.mp hname with ⟨before, hbefore⟩
    rw [hbefore, List.dropLast_concat, beq_iff_eq] at hlocation
    rw [hbefore, hlocation]
  · cases hname

theorem namesAt_nodup (h : files.Proper) (location : Location) :
    (files.namesAt location).Nodup := by
  have hdistinct := h.distinct
  unfold List.Nodup at hdistinct ⊢
  rw [List.pairwise_map] at hdistinct
  unfold namesAt
  rw [List.pairwise_filterMap]
  apply hdistinct.imp
  intro a b hne x hx y hy hxy
  apply hne
  split at hx
  · rename_i ha
    split at hy
    · rename_i hb
      rcases List.getLast?_eq_some_iff.mp hx with ⟨before, hbefore⟩
      rcases List.getLast?_eq_some_iff.mp hy with ⟨other, hother⟩
      rw [hbefore, List.dropLast_concat, beq_iff_eq] at ha
      rw [hother, List.dropLast_concat, beq_iff_eq] at hb
      rw [hbefore, hother, ha, hb, hxy]
    · cases hy
  · cases hx

theorem directoryNames_of_filter (hfind : files.find path = .ok (location, .directory))
    (hfilter : ((files.namesAt location).filter fun name =>
      files.entry? (location ++ [name]) == some .directory) = names)
    (hsorted : names.Pairwise fun a b => a ≤ b) : files.directoryNames path = .ok names := by
  have hpairwise : names.Pairwise fun a b => decide (a ≤ b) = true :=
    hsorted.imp fun hle => decide_eq_true hle
  unfold directoryNames
  rw [hfind]
  simp only [bind, Except.bind]
  rw [hfilter, List.mergeSort_of_pairwise hpairwise]
  rfl

theorem properName_of_mem_namesAt (h : files.Proper) {name : String}
    (hname : name ∈ files.namesAt location) : ProperName name := by
  rcases mem_namesAt hname with ⟨entry, hentry, hlocation⟩
  apply h.names entry hentry
  rw [hlocation]
  simp

/-!
# What is below a directory
-/

/-- Names that lead from a location through directories to a file. -/
structure Leads (files : FileSystem) (location : Location) (names : List String) : Prop where
  proper : ProperLocation names
  file : exists contents, files.entry? (location ++ names) = some (.file contents)
  through : forall before, before <+: names -> before ≠ names ->
    files.entry? (location ++ before) = some .directory

theorem leads_cons (hlocation : files.entry? location = some .directory) {name : String}
    (hname : ProperName name) (h : files.Leads (location ++ [name]) names) :
    files.Leads location (name :: names) := by
  constructor
  · intro other hother
    rcases List.mem_cons.mp hother with rfl | hrest
    · exact hname
    · exact h.proper other hrest
  · rcases h.file with ⟨contents, hfile⟩
    rw [List.append_assoc] at hfile
    exact ⟨contents, hfile⟩
  · intro before hbefore hne
    cases before with
    | nil =>
        rw [List.append_nil]
        exact hlocation
    | cons first before =>
        rcases List.cons_prefix_cons.mp hbefore with ⟨rfl, hrest⟩
        have hentry := h.through before hrest (by simpa using hne)
        rw [List.append_assoc] at hentry
        exact hentry

theorem leads_of_mem_filesFrom (h : files.Proper) {depth : Nat} {found : Path}
    (hfound : found ∈ files.filesFrom depth location path) :
    exists names, found = path.joins names ∧ files.Leads location names := by
  induction depth generalizing location path with
  | zero =>
      cases hfound
  | succ depth ih =>
      rw [filesFrom] at hfound
      split at hfound
      · cases hfound
      · rename_i contents hfile
        refine ⟨[], List.mem_singleton.mp hfound, ?_, ⟨contents, by simpa using hfile⟩, ?_⟩
        · intro name hname
          cases hname
        · intro before hbefore hne
          exact absurd (List.prefix_nil.mp hbefore) hne
      · rename_i hdirectory
        rcases List.mem_flatMap.mp hfound with ⟨name, hname, hbelow⟩
        rcases ih hbelow with ⟨names, hnames, hleads⟩
        exact ⟨name :: names, hnames,
          leads_cons hdirectory (properName_of_mem_namesAt h hname) hleads⟩

theorem filesFrom_nodup (h : files.Proper) (depth : Nat) (location : Location) (path : Path) :
    (files.filesFrom depth location path).Nodup := by
  induction depth generalizing location path with
  | zero =>
      exact List.nodup_nil
  | succ depth ih =>
      rw [filesFrom]
      split
      · exact List.nodup_nil
      · exact List.nodup_singleton _
      · rw [List.nodup_flatMap]
        refine ⟨fun name _ => ih _ _, ?_⟩
        apply List.Pairwise.imp_of_mem _ (namesAt_nodup h location)
        intro a b ha hb hne found hfoundA hfoundB
        rcases leads_of_mem_filesFrom h hfoundA with ⟨names, hnames, hleads⟩
        rcases leads_of_mem_filesFrom h hfoundB with ⟨others, hothers, hleadsOther⟩
        rw [← Path.joins_cons] at hnames hothers
        have hsame := Path.joins_injective ?_ ?_ (hnames.symm.trans hothers)
        · exact hne (List.cons_eq_cons.mp hsame).1
        · intro name hname
          rcases List.mem_cons.mp hname with rfl | hrest
          · exact properName_of_mem_namesAt h ha
          · exact hleads.proper name hrest
        · intro name hname
          rcases List.mem_cons.mp hname with rfl | hrest
          · exact properName_of_mem_namesAt h hb
          · exact hleadsOther.proper name hrest

/-!
# Looking up what is below a directory
-/

theorem exists_walk_of_append {reached : Location} {parts more : List (List Char)}
    (h : files.walk location (parts ++ more) = .ok reached) :
    exists middle, files.walk location parts = .ok middle ∧
      files.walk middle more = .ok reached := by
  induction parts generalizing location with
  | nil =>
      exact ⟨location, rfl, h⟩
  | cons part parts ih =>
      rw [List.cons_append] at h
      by_cases hentry : files.entry? location = some .directory
      · by_cases hpart : IsOverlong part
        · rw [walk_overlong hentry hpart] at h
          cases h
        · rw [walk_step hentry hpart] at h ⊢
          exact ih h
      · rcases walk_stop hentry part (parts ++ more) with ⟨fault, hfault⟩
        rw [hfault] at h
        cases h

/-- The paths below a path are walked along from where that path leads. -/
theorem walk_lead {entry : FileEntry} (h : files.find path = .ok (base, entry)) :
    files.walk (files.origin path) path.lead = .ok base := by
  have hwalk := walk_of_locate (locate_of_find h)
  rcases path.pieces_eq_lead with hpieces | hpieces
  · rw [hpieces] at hwalk
    exact hwalk
  · rw [hpieces] at hwalk
    rcases exists_walk_of_append hwalk with ⟨middle, hmiddle, hlast⟩
    by_cases hentry : files.entry? middle = some .directory
    · rw [walk_step hentry (by simp [IsOverlong, Path.isIdle]), turn_idle (by rfl)] at hlast
      cases hlast
      exact hmiddle
    · rcases walk_stop hentry [] [] with ⟨fault, hfault⟩
      rw [hfault] at hlast
      cases hlast

theorem turn_name {name : String} (h : ProperName name) (location : Location) :
    turn location name.toList = location ++ [name] := by
  simp [turn, h.notIdle, h.notParent]

theorem endFrom_names (h : ProperLocation names) (location : Location) :
    endFrom location (names.map String.toList) = location ++ names := by
  induction names generalizing location with
  | nil =>
      exact (List.append_nil _).symm
  | cons name names ih =>
      have hrest : ProperLocation names := by
        intro other hother
        exact h other (List.mem_cons_of_mem _ hother)
      rw [List.map_cons, endFrom_cons, turn_name (h name List.mem_cons_self), ih hrest,
        List.append_assoc]
      rfl

theorem mem_placesFrom_names (h : ProperLocation names) {place : Location} :
    place ∈ placesFrom location (names.map String.toList) ↔
      exists before, before <+: names ∧ before ≠ [] ∧ place = location ++ before := by
  induction names generalizing location with
  | nil =>
      constructor
      · intro hplace
        cases hplace
      · rintro ⟨before, hbefore, hne, _⟩
        exact absurd (List.prefix_nil.mp hbefore) hne
  | cons name names ih =>
      have hrest : ProperLocation names := by
        intro other hother
        exact h other (List.mem_cons_of_mem _ hother)
      rw [List.map_cons, placesFrom, turn_name (h name List.mem_cons_self), List.mem_cons,
        ih hrest]
      constructor
      · rintro (rfl | ⟨before, hbefore, hne, rfl⟩)
        · exact ⟨[name], by simp, by simp, rfl⟩
        · refine ⟨name :: before, ?_, by simp, by simp⟩
          exact List.cons_prefix_cons.mpr ⟨rfl, hbefore⟩
      · rintro ⟨before, hbefore, hne, rfl⟩
        cases before with
        | nil =>
            exact absurd rfl hne
        | cons first before =>
            rcases List.cons_prefix_cons.mp hbefore with ⟨rfl, hprefix⟩
            by_cases hnil : before = []
            · exact Or.inl (by rw [hnil])
            · exact Or.inr ⟨before, hprefix, hnil, by simp⟩

theorem mem_consultedFrom_names (h : ProperLocation names) {place : Location}
    (hplace : place ∈ files.consultedFrom location (names.map String.toList)) :
    location <+: place := by
  induction names generalizing location with
  | nil =>
      exact List.mem_singleton.mp hplace ▸ List.prefix_refl _
  | cons name names ih =>
      have hrest : ProperLocation names := by
        intro other hother
        exact h other (List.mem_cons_of_mem _ hother)
      rw [List.map_cons, consultedFrom] at hplace
      split at hplace
      · rcases List.mem_cons.mp hplace with rfl | hbelow
        · exact List.prefix_refl _
        · rw [turn_name (h name List.mem_cons_self)] at hbelow
          exact (List.prefix_append _ _).trans (ih hrest hbelow)
      · exact List.mem_singleton.mp hplace ▸ List.prefix_refl _

theorem origin_joins (h : ProperLocation names) :
    files.origin (path.joins names) = files.origin path := by
  rw [origin, origin, Path.isAbsolute_joins h]

/-- Below a path, a lookup leaves what is below its location only for directories. -/
theorem consulted_joins {entry : FileEntry} (hfind : files.find path = .ok (base, entry))
    (h : ProperLocation names) {place : Location}
    (hplace : place ∈ files.consulted (path.joins names)) :
    files.entry? place = some .directory ∨ base <+: place := by
  by_cases hnames : names = []
  · rw [hnames] at hplace
    rcases consulted_of_find hfind hplace with rfl | hdirectory
    · exact Or.inr (List.prefix_refl _)
    · exact Or.inl hdirectory
  · rw [consulted, origin_joins h, Path.pieces_joins h hnames] at hplace
    rcases mem_consultedFrom_append (walk_lead hfind) hplace with hdirectory | hbelow
    · exact Or.inl hdirectory
    · exact Or.inr (mem_consultedFrom_names h hbelow)

end FileSystem
end Docloom
