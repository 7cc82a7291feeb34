import Docloom.Proofs.File.Canonical
import Docloom.Proofs.File.Lookup
import Docloom.Site.Document
import Mathlib.Data.List.Induction

/-!
# Pieces of joined paths

A path below another one has the pieces of that one, without an empty piece at its end, and then
those of what is below.  From that follow the components of a joined path, what is below the
first path, and the directory of the joined path.
-/

namespace Docloom

namespace Text

theorem endsWith_slash_iff {text : String} :
    endsWith "/" text = true ↔ exists cs, text.toList = cs ++ ['/'] := by
  rw [endsWith, List.isSuffixOf_iff_suffix]
  constructor
  · rintro ⟨cs, hcs⟩
    exact ⟨cs, hcs.symm⟩
  · rintro ⟨cs, hcs⟩
    exact ⟨cs, hcs.symm⟩

theorem startsWith_slash_iff {text : String} :
    startsWith "/" text = true ↔ exists cs, text.toList = '/' :: cs := by
  rw [startsWith, List.isPrefixOf_iff_prefix]
  constructor
  · rintro ⟨cs, hcs⟩
    exact ⟨cs, hcs.symm⟩
  · rintro ⟨cs, hcs⟩
    exact ⟨cs, hcs.symm⟩

end Text

namespace ProperName

variable {name : String}

theorem ne_nil (h : ProperName name) : name.toList ≠ [] := by
  intro hnil
  have hidle := h.notIdle
  rw [hnil] at hidle
  cases hidle

theorem not_startsWith (h : ProperName name) : Text.startsWith "/" name = false := by
  rw [Bool.eq_false_iff, ne_eq, Text.startsWith_slash_iff]
  rintro ⟨cs, hcs⟩
  apply h.noSlash
  rw [hcs]
  exact List.mem_cons_self

theorem pieces (h : ProperName name) : (Path.mk name).pieces = [name.toList] := by
  apply Text.splitChars_of_not_mem
  intro c hc
  apply beq_false_of_ne
  rintro rfl
  exact h.noSlash hc

end ProperName

namespace Path

variable {path : Path} {below name : String} {names : List String}

/-!
# Pieces
-/

/-- The pieces that a path gives to the paths below it. -/
def lead (path : Path) : List (List Char) :=
  if path.text = "" then
    []
  else if Text.endsWith "/" path.text then
    path.pieces.dropLast
  else
    path.pieces

/-- The path that names lead to from another one. -/
def joins (path : Path) (names : List String) : Path := names.foldl join path

theorem pieces_of_ending {cs : List Char} (h : path.text.toList = cs ++ ['/']) :
    path.pieces = Text.splitChars (· == '/') cs ++ [[]] := by
  rw [pieces, h, Text.splitChars_append_separator (by rfl)]
  rfl

/-- A path that ends with a piece that leads somewhere has no slash at its end. -/
theorem endsWith_of_pieces {first : List (List Char)} {last : List Char}
    (h : path.pieces = first ++ [last]) (hlast : isIdle last = false) :
    Text.endsWith "/" path.text = false := by
  rw [Bool.eq_false_iff, ne_eq, Text.endsWith_slash_iff]
  rintro ⟨cs, hcs⟩
  rw [pieces_of_ending hcs] at h
  rw [← (List.cons.inj (List.append_inj' h rfl).2).1] at hlast
  cases hlast

theorem pieces_eq_lead : path.pieces = path.lead ∨ path.pieces = path.lead ++ [[]] := by
  unfold lead
  split
  · rename_i hempty
    right
    rw [pieces, hempty]
    rfl
  · split
    · rename_i hending
      right
      rcases Text.endsWith_slash_iff.mp hending with ⟨cs, hcs⟩
      rw [pieces_of_ending hcs, List.dropLast_concat]
    · exact Or.inl rfl

theorem pieces_join (h : Text.startsWith "/" below = false) :
    (path.join below).pieces = path.lead ++ (Path.mk below).pieces := by
  have hnot : ¬ Text.startsWith "/" below = true := by simp [h]
  unfold join lead
  rw [if_neg hnot]
  by_cases hempty : path.text = ""
  · simp [hempty]
  · by_cases hending : Text.endsWith "/" path.text = true
    · rcases Text.endsWith_slash_iff.mp hending with ⟨cs, hcs⟩
      rw [if_pos (by simp [hending]), if_neg hempty, if_pos hending, pieces_of_ending hcs,
        List.dropLast_concat, pieces, pieces]
      dsimp only
      rw [String.toList_append, hcs, List.append_assoc, List.singleton_append,
        Text.splitChars_append_separator (by rfl)]
    · rw [if_neg (by simp [hempty, hending]), if_neg hempty, if_neg hending, pieces, pieces,
        pieces]
      dsimp only
      have htext : (path.text ++ "/" ++ below).toList =
          path.text.toList ++ '/' :: below.toList := by simp
      rw [htext, Text.splitChars_append_separator (by rfl)]

theorem lead_filter : path.lead.filter (!isIdle ·) = path.steps := by
  unfold steps
  rcases path.pieces_eq_lead with h | h
  · rw [h]
  · rw [h, List.filter_append]
    simp [isIdle]

theorem lead_eq_pieces (hne : path.text ≠ "") (hending : Text.endsWith "/" path.text = false) :
    path.lead = path.pieces := by
  rw [lead, if_neg hne, if_neg (by simp [hending])]

theorem text_join_ne (hname : ProperName name) : (path.join name).text ≠ "" := by
  intro hempty
  have hpieces := @pieces_join path _ hname.not_startsWith
  rw [pieces, hempty, hname.pieces] at hpieces
  have hlast := congrArg List.getLast? hpieces
  rw [List.getLast?_concat] at hlast
  have hnil : [] = name.toList := Option.some.inj hlast
  exact hname.ne_nil hnil.symm

theorem endsWith_join (hname : ProperName name) :
    Text.endsWith "/" (path.join name).text = false := by
  apply endsWith_of_pieces _ hname.notIdle
  · exact path.lead
  · rw [pieces_join hname.not_startsWith, hname.pieces]

theorem lead_join (hname : ProperName name) :
    (path.join name).lead = path.lead ++ [name.toList] := by
  rw [lead_eq_pieces (text_join_ne hname) (endsWith_join hname),
    pieces_join hname.not_startsWith, hname.pieces]

theorem joins_cons (path : Path) (name : String) (names : List String) :
    path.joins (name :: names) = (path.join name).joins names := rfl

theorem joins_concat (path : Path) (names : List String) (name : String) :
    path.joins (names ++ [name]) = (path.joins names).join name := by
  rw [joins, List.foldl_append]
  rfl

theorem lead_joins (h : ProperLocation names) :
    (path.joins names).lead = path.lead ++ names.map String.toList := by
  induction names generalizing path with
  | nil =>
      rw [List.map_nil, List.append_nil]
      rfl
  | cons name names ih =>
      have hname := h name List.mem_cons_self
      have hrest : ProperLocation names := by
        intro other hother
        exact h other (List.mem_cons_of_mem _ hother)
      rw [joins_cons, ih hrest, lead_join hname, List.append_assoc]
      rfl

theorem pieces_joins (h : ProperLocation names) (hne : names ≠ []) :
    (path.joins names).pieces = path.lead ++ names.map String.toList := by
  rcases List.eq_nil_or_concat' names with rfl | ⟨before, last, rfl⟩
  · exact absurd rfl hne
  · have hlast : ProperName last := h last (by simp)
    have hbefore : ProperLocation before := by
      intro other hother
      exact h other (List.mem_append_left _ hother)
    rw [joins_concat, pieces_join hlast.not_startsWith, hlast.pieces, lead_joins hbefore,
      List.map_append, List.append_assoc]
    rfl

theorem steps_of_proper (h : ProperLocation names) :
    (names.map String.toList).filter (!isIdle ·) = names.map String.toList := by
  rw [List.filter_eq_self]
  intro part hpart
  rcases List.mem_map.mp hpart with ⟨name, hname, rfl⟩
  simp [(h name hname).notIdle]

theorem steps_joins (h : ProperLocation names) :
    (path.joins names).steps = path.steps ++ names.map String.toList := by
  rw [← lead_filter, lead_joins h, List.filter_append, lead_filter, steps_of_proper h]

/-- The names that lead to a path are told by it. -/
theorem joins_injective {others : List String} (hnames : ProperLocation names)
    (hothers : ProperLocation others) (h : path.joins names = path.joins others) :
    names = others := by
  have hlead := congrArg lead h
  rw [lead_joins hnames, lead_joins hothers] at hlead
  have hmap := List.append_cancel_left hlead
  exact List.map_injective_iff.mpr (fun a b hab => String.toList_injective hab) hmap

/-!
# Names with slashes between them
-/

theorem pieces_text (h : ProperLocation names) (hne : names ≠ []) :
    (Path.mk (Text.join "/" names)).pieces = names.map String.toList :=
  FileSystem.splitChars_join h hne

theorem text_not_startsWith (h : ProperLocation names) :
    Text.startsWith "/" (Text.join "/" names) = false := by
  cases names with
  | nil =>
      rfl
  | cons name names =>
      rw [Bool.eq_false_iff, ne_eq, Text.startsWith_slash_iff]
      rintro ⟨cs, hcs⟩
      have hpieces := pieces_text h (by simp)
      rw [pieces, hcs] at hpieces
      have hnil : [] = name.toList := by
        have hhead := congrArg List.head? hpieces
        rw [Text.splitChars, if_pos (by rfl)] at hhead
        exact Option.some.inj hhead
      exact (h name List.mem_cons_self).ne_nil hnil.symm

theorem pieces_join_text (h : ProperLocation names) (hne : names ≠ []) :
    (path.join (Text.join "/" names)).pieces = path.lead ++ names.map String.toList := by
  rw [pieces_join (text_not_startsWith h), pieces_text h hne]

theorem steps_join_text (h : ProperLocation names) (hne : names ≠ []) :
    (path.join (Text.join "/" names)).steps = path.steps ++ names.map String.toList := by
  rw [steps, pieces_join_text h hne, List.filter_append, lead_filter, steps_of_proper h]

theorem isAbsolute_join (h : Text.startsWith "/" below = false) :
    (path.join below).isAbsolute = path.isAbsolute := by
  unfold isAbsolute join
  rw [if_neg (by simp [h])]
  by_cases hempty : path.text = ""
  · simp [hempty, h]
    rfl
  · have hhead : exists c cs, path.text.toList = c :: cs := by
      cases htext : path.text.toList with
      | nil =>
          exact absurd (String.toList_eq_nil_iff.mp htext) hempty
      | cons c cs =>
          exact ⟨c, cs, rfl⟩
    rcases hhead with ⟨c, cs, htext⟩
    split
    · simp [Text.startsWith, htext, List.isPrefixOf]
    · simp [Text.startsWith, htext, List.isPrefixOf]

theorem isAbsolute_joins (h : ProperLocation names) :
    (path.joins names).isAbsolute = path.isAbsolute := by
  induction names generalizing path with
  | nil =>
      rfl
  | cons name names ih =>
      have hrest : ProperLocation names := by
        intro other hother
        exact h other (List.mem_cons_of_mem _ hother)
      rw [joins_cons, ih hrest, isAbsolute_join (h name List.mem_cons_self).not_startsWith]

/-!
# Components
-/

/-- The component that the first piece of a path makes up. -/
def headComponents : List (List Char) → List Component
  | [] => []
  | first :: rest =>
      if first = [] then
        if rest = [] then [] else [.root]
      else if first = ['.'] then
        [.current]
      else
        []

/-- A text whose first piece is empty starts with what separates the pieces, if there is
anything in it. -/
theorem head_of_pieces_nil {cs : List Char} {pieces : List (List Char)}
    (h : Text.splitChars (· == '/') cs = [] :: pieces) : cs = [] ∨ exists rest, cs = '/' :: rest := by
  cases cs with
  | nil =>
      exact Or.inl rfl
  | cons c cs =>
      right
      rw [Text.splitChars] at h
      split at h
      · rename_i hc
        exact ⟨cs, by rw [eq_of_beq hc]⟩
      · split at h
        · cases h
        · cases h

theorem text_of_pieces (h : path.pieces = [[]]) : path.text = "" := by
  rcases head_of_pieces_nil h with htext | ⟨rest, htext⟩
  · exact String.toList_eq_nil_iff.mp htext
  · rw [pieces, htext, Text.splitChars, if_pos (by rfl)] at h
    injection h with hfirst hrest
    exact absurd hrest (Text.splitChars_ne_nil _ _)

/-- The parts of a path are its pieces but for one at the start that leads nowhere. -/
theorem parts_spec (path : Path) :
    startComponents path.parts.1 = headComponents path.pieces ∧
      (startComponents path.parts.1 = [] -> path.parts.1 = []) ∧
      exists front, path.pieces = front ++ path.parts.2 ∧
        forall part, part ∈ front -> isIdle part = true := by
  unfold parts pieces
  split
  · rename_i htext
    rw [htext]
    exact ⟨rfl, fun _ => rfl, [[]], rfl, by simp [isIdle]⟩
  · rename_i htext
    rw [htext]
    exact ⟨rfl, by simp [startComponents], [['.']], rfl, by simp [isIdle]⟩
  · rename_i rest htext
    rw [htext]
    exact ⟨rfl, by simp [startComponents], [['.']], rfl, by simp [isIdle]⟩
  · rename_i rest htext
    rw [htext]
    refine ⟨?_, by simp [startComponents], [[]], rfl, by simp [isIdle]⟩
    rw [Text.splitChars, if_pos (by rfl)]
    rw [headComponents, if_pos rfl, if_neg (Text.splitChars_ne_nil _ _)]
    rfl
  · rename_i hempty hdot hdotSlash hslash
    refine ⟨?_, fun _ => rfl, [], rfl, by simp⟩
    -- No other start makes up a component.
    cases htext : path.text.toList with
    | nil =>
        exact absurd htext hempty
    | cons c cs =>
        have hc : (c == '/') = false := by
          apply beq_false_of_ne
          rintro rfl
          exact hslash cs htext
        cases hsplit : Text.splitChars (· == '/') cs with
        | nil =>
            exact absurd hsplit (Text.splitChars_ne_nil _ _)
        | cons piece pieces =>
            have hpieces : Text.splitChars (· == '/') (c :: cs) = (c :: piece) :: pieces := by
              rw [Text.splitChars, hsplit]
              simp [hc]
            rw [hpieces]
            by_cases hfirst : c = '.' ∧ piece = []
            · rcases hfirst with ⟨rfl, rfl⟩
              rcases head_of_pieces_nil hsplit with rfl | ⟨rest, rfl⟩
              · exact absurd htext hdot
              · exact absurd htext (hdotSlash rest)
            · have hcurrent : c :: piece ≠ ['.'] := by
                intro heq
                injection heq with hdotted hnil
                exact hfirst ⟨hdotted, hnil⟩
              rw [headComponents, if_neg (by simp), if_neg hcurrent]
              rfl

theorem components_eq (path : Path) :
    path.components = headComponents path.pieces ++ path.steps.map Component.ofPart := by
  rcases parts_spec path with ⟨hstart, _, front, hpieces, hfront⟩
  have hsteps : path.steps = path.parts.2.filter (!isIdle ·) := by
    have hnone : front.filter (!isIdle ·) = [] := by
      rw [List.filter_eq_nil_iff]
      intro part hpart
      simp [hfront part hpart]
    rw [steps, hpieces, List.filter_append, hnone, List.nil_append]
  rw [components, hsteps, ← hstart]

theorem headComponents_append {first : List Char} {pieces more others : List (List Char)}
    (hmore : more ≠ []) (hothers : others ≠ []) :
    headComponents (first :: pieces ++ more) = headComponents (first :: pieces ++ others) := by
  simp [headComponents, hmore, hothers]

theorem headComponents_append_of_ne {first : List Char} {pieces more : List (List Char)}
    (h : first = [] -> pieces ≠ []) :
    headComponents (first :: pieces ++ more) = headComponents (first :: pieces) := by
  rw [List.cons_append, headComponents, headComponents]
  split
  · rename_i hfirst
    rw [if_neg (h hfirst), if_neg]
    intro happend
    exact h hfirst (List.append_eq_nil_iff.mp happend).1
  · rfl

theorem headComponents_of_not_idle {first : List Char} (h : isIdle first = false)
    (rest : List (List Char)) : headComponents (first :: rest) = [] := by
  rw [headComponents, if_neg, if_neg]
  · rintro rfl
    cases h
  · rintro rfl
    cases h

theorem headComponents_joins (h : ProperLocation names) :
    headComponents (path.joins names).pieces = headComponents path.pieces := by
  cases names with
  | nil =>
      rfl
  | cons name names =>
      rw [pieces_joins h (by simp)]
      by_cases hempty : path.text = ""
      · have hpieces : path.pieces = [[]] := by
          rw [pieces, hempty]
          rfl
        rw [hpieces, lead, if_pos hempty, List.nil_append, List.map_cons,
          headComponents_of_not_idle (h name List.mem_cons_self).notIdle]
        rfl
      · cases hlead : path.lead with
        | nil =>
            rcases path.pieces_eq_lead with hpieces | hpieces
            · rw [hlead] at hpieces
              exact absurd hpieces (Text.splitChars_ne_nil _ _)
            · rw [hlead] at hpieces
              exact absurd (text_of_pieces hpieces) hempty
        | cons first rest =>
            rcases path.pieces_eq_lead with hpieces | hpieces
            · rw [hpieces, hlead]
              apply headComponents_append_of_ne
              rintro rfl rfl
              exact hempty (text_of_pieces (hpieces.trans hlead))
            · rw [hpieces, hlead]
              exact headComponents_append (by simp) (by simp)

theorem ofPart_of_proper (h : ProperLocation names) :
    (names.map String.toList).map Component.ofPart = names.map Component.normal := by
  rw [List.map_map]
  apply List.map_congr_left
  intro name hname
  simp [Component.ofPart, (h name hname).notParent]

theorem components_joins (h : ProperLocation names) :
    (path.joins names).components = path.components ++ names.map .normal := by
  rw [components_eq, components_eq, headComponents_joins h, steps_joins h, List.map_append,
    ofPart_of_proper h, List.append_assoc]

theorem names_text (h : ProperLocation names) :
    (Path.mk (Text.join "/" names)).names = names := by
  have hcomponents : (Path.mk (Text.join "/" names)).components = names.map .normal := by
    cases names with
    | nil =>
        rfl
    | cons name names =>
        rw [components_eq, steps, pieces_text h (by simp), steps_of_proper h,
          ofPart_of_proper h, List.map_cons,
          headComponents_of_not_idle (h name List.mem_cons_self).notIdle]
        rfl
  rw [Path.names, hcomponents, List.filterMap_map]
  exact List.filterMap_some

/-!
# What is below a path
-/

theorem dropIdleEnd_concat {last : List Char} (h : isIdle last = false)
    (parts : List (List Char)) : dropIdleEnd (parts ++ [last]) = parts ++ [last] := by
  rw [dropIdleEnd, List.reverse_append]
  simp [h]

theorem dropComponents_append {parts more : List (List Char)}
    (hmore : forall part, part ∈ more -> isIdle part = false) :
    dropComponents (parts.filter (!isIdle ·)).length (parts ++ more) = more := by
  induction parts with
  | nil =>
      cases more with
      | nil =>
          rfl
      | cons part more =>
          simp [dropComponents, hmore part List.mem_cons_self]
  | cons part parts ih =>
      by_cases hidle : isIdle part = true
      · rw [List.filter_cons_of_neg (by simpa using hidle)]
        simp only [List.cons_append, dropComponents, if_pos hidle]
        exact ih
      · rw [List.filter_cons_of_pos (by simpa using hidle)]
        simp only [List.cons_append, List.length_cons, dropComponents, if_neg hidle]
        exact ih

/-- The parts of a path that end as its pieces do. -/
theorem parts_of_pieces {first more : List (List Char)} (h : path.pieces = first ++ more)
    (hmore : forall part, part ∈ more -> isIdle part = false) :
    exists front before, first = front ++ before ∧ path.parts.2 = before ++ more ∧
      forall part, part ∈ front -> isIdle part = true := by
  rcases parts_spec path with ⟨_, _, front, hpieces, hfront⟩
  rw [h] at hpieces
  rcases List.append_eq_append_iff.mp hpieces with ⟨middle, hmiddle, hparts⟩ | ⟨before, hbefore, hparts⟩
  · have hnil : middle = [] := by
      cases middle with
      | nil =>
          rfl
      | cons part rest =>
          have hidle := hfront part (by simp [hmiddle])
          rw [hmore part (by simp [hparts])] at hidle
          cases hidle
    rw [hnil] at hmiddle hparts
    refine ⟨front, [], ?_, ?_, hfront⟩
    · simpa using hmiddle.symm
    · simpa using hparts.symm
  · exact ⟨front, before, hbefore, hparts, hfront⟩

theorem not_idle_of_proper (h : ProperLocation names) {part : List Char}
    (hpart : part ∈ names.map String.toList) : isIdle part = false := by
  rcases List.mem_map.mp hpart with ⟨name, hname, rfl⟩
  exact (h name hname).notIdle

theorem filter_of_idle {front : List (List Char)}
    (h : forall part, part ∈ front -> isIdle part = true) (parts : List (List Char)) :
    (front ++ parts).filter (!isIdle ·) = parts.filter (!isIdle ·) := by
  have hnone : front.filter (!isIdle ·) = [] := by
    rw [List.filter_eq_nil_iff]
    intro part hpart
    simp [h part hpart]
  rw [List.filter_append, hnone, List.nil_append]

theorem map_ofList_toList (names : List String) :
    (names.map String.toList).map String.ofList = names := by
  simp

theorem components_ne_nil (h : path.text ≠ "") : path.components ≠ [] := by
  intro hnil
  rw [components_eq, List.append_eq_nil_iff, List.map_eq_nil_iff] at hnil
  rcases hnil with ⟨hhead, hsteps⟩
  cases hpieces : path.pieces with
  | nil =>
      exact Text.splitChars_ne_nil _ _ hpieces
  | cons first rest =>
      rw [hpieces, headComponents] at hhead
      have hidle : isIdle first = true := by
        rw [steps, hpieces] at hsteps
        simpa using (List.filter_eq_nil_iff.mp hsteps) first List.mem_cons_self
      have hfirst : first = [] ∨ first = ['.'] := by
        simpa [isIdle] using hidle
      rcases hfirst with rfl | rfl
      · rw [if_pos rfl] at hhead
        by_cases hrest : rest = []
        · rw [hrest] at hpieces
          exact h (text_of_pieces hpieces)
        · rw [if_neg hrest] at hhead
          cases hhead
      · cases hhead

theorem dropIdleEnd_names (h : ProperLocation names) :
    dropIdleEnd (names.map String.toList) = names.map String.toList := by
  rcases List.eq_nil_or_concat' names with rfl | ⟨before, last, rfl⟩
  · rfl
  · rw [List.map_append]
    exact dropIdleEnd_concat (h last (by simp)).notIdle _

/-- Names after the steps of a path are below it. -/
theorem below_of_pieces {other : Path} {first : List (List Char)} (h : ProperLocation names)
    (hne : path.text ≠ "") (hpieces : other.pieces = first ++ names.map String.toList)
    (hfirst : first.filter (!isIdle ·) = path.steps)
    (hhead : headComponents other.pieces = headComponents path.pieces) :
    other.below? path = some ⟨Text.join "/" names⟩ := by
  have hsteps : other.steps = path.steps ++ names.map String.toList := by
    rw [steps, hpieces, List.filter_append, hfirst, steps_of_proper h]
  have hprefix : path.components.isPrefixOf other.components = true := by
    rw [List.isPrefixOf_iff_prefix, components_eq, components_eq, hhead, hsteps, List.map_append,
      ← List.append_assoc]
    exact List.prefix_append _ _
  have hcount : path.components.length - (startComponents other.parts.1).length =
      path.steps.length := by
    rw [(parts_spec other).1, hhead, components_eq, List.length_append, List.length_map,
      Nat.add_sub_cancel_left]
  rcases parts_of_pieces hpieces (fun _ => not_idle_of_proper h) with
    ⟨front, before, hbefore, hparts, hfront⟩
  rw [hbefore, filter_of_idle hfront] at hfirst
  unfold below?
  dsimp only
  rw [if_pos hprefix, if_neg (by simpa using components_ne_nil hne), hcount, hparts, ← hfirst,
    dropComponents_append (fun _ => not_idle_of_proper h), dropIdleEnd_names h, ofParts,
    map_ofList_toList]
  · simp
  · simp

theorem below_joins (h : ProperLocation names) :
    (path.joins names).below? path = some ⟨Text.join "/" names⟩ := by
  by_cases hempty : path.text = ""
  · have hpieces : path.pieces = [[]] := by
      rw [pieces, hempty]
      rfl
    have hcomponents : path.components = [] := by
      rw [components_eq, steps, hpieces]
      rfl
    have hfirst : (path.joins names).parts.1 = [] := by
      apply (parts_spec (path.joins names)).2.1
      rw [(parts_spec (path.joins names)).1, headComponents_joins h, hpieces]
      rfl
    have hparts : (path.joins names).parts.2 = names.map String.toList := by
      cases names with
      | nil =>
          rw [joins, List.foldl_nil, parts, hempty]
          rfl
      | cons name names =>
          have hjoined := @pieces_joins path _ h (by simp)
          rcases parts_of_pieces hjoined (fun _ => not_idle_of_proper h) with
            ⟨front, before, hlead, hparts, _⟩
          rw [lead, if_pos hempty] at hlead
          rw [hparts, (List.append_eq_nil_iff.mp hlead.symm).2, List.nil_append]
    unfold below?
    dsimp only
    rw [if_pos (by simp [hcomponents]), if_pos (by simp [hcomponents]), hfirst, hparts,
      dropIdleEnd_names h, ofParts, map_ofList_toList]
    · simp
    · simp
  · by_cases hnames : names = []
    · apply below_of_pieces h hempty
      · rw [hnames, List.map_nil, List.append_nil]
      · rfl
      · exact headComponents_joins h
    · apply below_of_pieces h hempty (pieces_joins h hnames)
      · exact lead_filter
      · exact headComponents_joins h

/-!
# Directories
-/

theorem isAbsolute_iff : path.isAbsolute = true ↔ headComponents path.pieces = [.root] := by
  rw [isAbsolute, Text.startsWith_slash_iff]
  constructor
  · rintro ⟨cs, hcs⟩
    rw [pieces, hcs, Text.splitChars, if_pos (by rfl), headComponents, if_pos rfl,
      if_neg (Text.splitChars_ne_nil _ _)]
  · intro h
    cases hpieces : path.pieces with
    | nil =>
        exact absurd hpieces (Text.splitChars_ne_nil _ _)
    | cons first rest =>
        rw [hpieces, headComponents] at h
        by_cases hfirst : first = []
        · rw [hfirst] at hpieces
          rcases head_of_pieces_nil hpieces with htext | htext
          · rw [pieces, htext, Text.splitChars_nil] at hpieces
            injection hpieces with _ hrest
            rw [if_pos hfirst, if_pos hrest.symm] at h
            cases h
          · exact htext
        · rw [if_neg hfirst] at h
          split at h
          · cases h
          · cases h

theorem parts_cases (path : Path) :
    (path.parts.1 = ['/'] ∧ path.pieces = [] :: path.parts.2) ∨
      (path.parts.1 = ['.', '/'] ∧ path.pieces = ['.'] :: path.parts.2) ∨
      (path.parts.1 = [] ∧ path.pieces = path.parts.2) ∨ path.parts.2 = [] := by
  unfold parts pieces
  split
  · simp
  · simp
  · rename_i htext
    rw [htext]
    exact Or.inr (Or.inl ⟨rfl, rfl⟩)
  · rename_i htext
    rw [htext]
    exact Or.inl ⟨rfl, rfl⟩
  · exact Or.inr (Or.inr (Or.inl ⟨rfl, rfl⟩))

theorem dropIdleEnd_cons (part : List Char) (parts : List (List Char)) :
    dropIdleEnd (part :: parts) = [] ∨
      exists rest, dropIdleEnd (part :: parts) = part :: rest := by
  have hprefix : dropIdleEnd (part :: parts) <+: part :: parts := by
    rw [← List.reverse_suffix]
    simpa [dropIdleEnd] using List.dropWhile_suffix isIdle
  cases hend : dropIdleEnd (part :: parts) with
  | nil =>
      exact Or.inl rfl
  | cons first rest =>
      rw [hend] at hprefix
      rw [(List.cons_prefix_cons.mp hprefix).1]
      exact Or.inr ⟨rest, rfl⟩

theorem mem_of_mem_dropIdleEnd {part : List Char} {parts : List (List Char)}
    (h : part ∈ dropIdleEnd parts) : part ∈ parts := by
  rw [dropIdleEnd, List.mem_reverse] at h
  simpa using (List.dropWhile_suffix isIdle).subset h

theorem filter_dropIdleEnd (parts : List (List Char)) :
    (dropIdleEnd parts).filter (!isIdle ·) = parts.filter (!isIdle ·) := by
  induction parts using List.reverseRecOn with
  | nil =>
      rfl
  | append_singleton parts last ih =>
      by_cases hidle : isIdle last = true
      · have hdrop : dropIdleEnd (parts ++ [last]) = dropIdleEnd parts := by
          simp [dropIdleEnd, hidle]
        rw [hdrop, ih, List.filter_append]
        simp [hidle]
      · rw [dropIdleEnd_concat (by simpa using hidle)]

theorem pieces_join_parts {parts : List (List Char)}
    (h : forall part, part ∈ parts -> '/' ∉ part) (hne : parts ≠ []) :
    Text.splitChars (· == '/') (Text.join "/" (parts.map String.ofList)).toList = parts := by
  rw [Text.splitChars_join_of_noSlash, List.map_map]
  · simp
  · intro text htext
    rcases List.mem_map.mp htext with ⟨part, hpart, rfl⟩
    simpa using h part hpart
  · simpa using hne

theorem noSlash_of_mem_pieces {part : List Char} (h : part ∈ path.pieces) : '/' ∉ part := by
  intro hslash
  have hnot := Text.not_separator_of_mem_splitChars h _ hslash
  cases hnot

theorem pieces_ofParts_root {parts : List (List Char)}
    (h : forall part, part ∈ parts -> '/' ∉ part) :
    (ofParts ['/'] parts).pieces = [] :: (if parts = [] then [[]] else parts) := by
  have htext : (ofParts ['/'] parts).text.toList =
      '/' :: (Text.join "/" (parts.map String.ofList)).toList := by
    simp [ofParts]
  rw [pieces, htext, Text.splitChars, if_pos (by rfl)]
  split
  · rename_i hnil
    rw [hnil]
    rfl
  · rename_i hne
    rw [pieces_join_parts h hne]

theorem pieces_ofParts_current {parts : List (List Char)}
    (h : forall part, part ∈ parts -> '/' ∉ part) :
    (ofParts ['.', '/'] parts).pieces = ['.'] :: parts := by
  by_cases hnil : parts = []
  · rw [hnil]
    rfl
  · have htext : (ofParts ['.', '/'] parts).text.toList =
        ['.'] ++ '/' :: (Text.join "/" (parts.map String.ofList)).toList := by
      unfold ofParts
      split
      · exact absurd rfl hnil
      · simp
    rw [pieces, htext, Text.splitChars_append_separator (by rfl), pieces_join_parts h hnil]
    rfl

theorem pieces_ofParts_nil {parts : List (List Char)}
    (h : forall part, part ∈ parts -> '/' ∉ part) :
    (ofParts [] parts).pieces = if parts = [] then [[]] else parts := by
  have htext : (ofParts [] parts).text.toList =
      (Text.join "/" (parts.map String.ofList)).toList := by
    simp [ofParts]
  rw [pieces, htext]
  split
  · rename_i hnil
    rw [hnil]
    rfl
  · rename_i hne
    rw [pieces_join_parts h hne]

/-- The directory of a path that ends with a name is where the steps before that name lead. -/
theorem parent_of_pieces {first : List (List Char)} (hname : ProperName name)
    (h : path.pieces = first ++ [name.toList]) :
    exists directory, path.parent? = some directory ∧
      directory.isAbsolute = path.isAbsolute ∧
      directory.steps = first.filter (!isIdle ·) := by
  have hmore : forall part, part ∈ [name.toList] -> isIdle part = false := by
    intro part hpart
    rw [List.mem_singleton.mp hpart]
    exact hname.notIdle
  rcases parts_of_pieces h hmore with ⟨front, before, hfirst, hparts, hfront⟩
  have hparent : path.parent? = some (ofParts path.parts.1 (dropIdleEnd before)) := by
    unfold parent?
    dsimp only
    rw [hparts, dropIdleEnd_concat hname.notIdle]
    split
    · rename_i hnil
      simp at hnil
    · rw [List.dropLast_concat]
  have hkept : (dropIdleEnd before).filter (!isIdle ·) = first.filter (!isIdle ·) := by
    rw [filter_dropIdleEnd, hfirst, filter_of_idle hfront]
  have hslash : forall part, part ∈ dropIdleEnd before -> '/' ∉ part := by
    intro part hpart
    apply @noSlash_of_mem_pieces path
    rw [h, hfirst]
    simp [mem_of_mem_dropIdleEnd hpart]
  have hpieces : (ofParts path.parts.1 (dropIdleEnd before)).steps =
        (dropIdleEnd before).filter (!isIdle ·) ∧
      (headComponents (ofParts path.parts.1 (dropIdleEnd before)).pieces = [.root] ↔
        headComponents path.pieces = [.root]) := by
    rcases parts_cases path with ⟨hstart, hall⟩ | ⟨hstart, hall⟩ | ⟨hstart, hall⟩ | hnone
    · rw [hstart, steps, pieces_ofParts_root hslash, hall, hparts]
      constructor
      · split
        · rename_i hnil
          rw [hnil]
          rfl
        · rfl
      · split <;> simp [headComponents]
        assumption
    · rw [hstart, steps, pieces_ofParts_current hslash, hall]
      exact ⟨rfl, by simp [headComponents]⟩
    · have hhead := (parts_spec path).1
      rw [hstart] at hhead
      rw [← hhead, hstart, steps, pieces_ofParts_nil hslash]
      cases before with
      | nil =>
          exact ⟨rfl, by simp [dropIdleEnd, headComponents, startComponents]⟩
      | cons part parts =>
          rcases dropIdleEnd_cons part parts with hend | ⟨rest, hend⟩
          · rw [hend]
            exact ⟨rfl, by simp [headComponents, startComponents]⟩
          · rw [hend]
            refine ⟨by simp, ?_⟩
            have hpart : part ≠ [] := by
              rintro rfl
              rw [hall, hparts, List.cons_append, headComponents, if_pos rfl,
                if_neg (by simp)] at hhead
              cases hhead
            rw [if_neg (by simp), headComponents, if_neg hpart]
            split <;> simp [startComponents]
    · rw [hnone] at hparts
      simp at hparts
  refine ⟨_, hparent, ?_, hpieces.1.trans hkept⟩
  rw [Bool.eq_iff_iff, isAbsolute_iff, isAbsolute_iff]
  exact hpieces.2

end Path
end Docloom
