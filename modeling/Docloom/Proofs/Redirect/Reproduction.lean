import Docloom.Proofs.Redirect.Capture
import Docloom.Proofs.Redirect.Resolution
import Docloom.Proofs.Text.Split

/-!
# Urls given back

A pattern filled with the values of a match gives the parts of the url back, up to the case of
literals and up to the ending.  A repeated parameter is the exception: without a lead it has only
its last character as value, and when it is filled again after a lead, repetitions that are empty
are left out.
-/

namespace Docloom

namespace Text

variable {cs : List Char}

theorem exists_of_sameLetters_append {a b : List Char} (h : SameLetters (a ++ b) cs) :
    exists first rest, cs = first ++ rest ∧ SameLetters a first ∧ SameLetters b rest := by
  induction a generalizing cs with
  | nil =>
      exact ⟨[], cs, rfl, .nil, h⟩
  | cons c a ih =>
      cases h with
      | cons hletter hletters =>
          rename_i d ds
          rcases ih hletters with ⟨first, rest, rfl, hfirst, hrest⟩
          exact ⟨d :: first, rest, rfl, .cons hletter hfirst, hrest⟩

/-- Two characters that end two texts of the same letters, one of which starts earlier. -/
theorem eq_of_sameLetters_shifted {a b b' : List Char} {c d : Char} (hcase : Caseless d)
    (hfirst : SameLetters a b) (hsecond : SameLetters a b') (heq : b' ++ [d] = c :: b) :
    c = d := by
  induction hfirst generalizing c b' with
  | nil =>
      cases hsecond
      exact (List.head_eq_of_cons_eq heq).symm
  | cons hletter hrest ih =>
      cases hsecond with
      | cons hother hrestOther =>
          rename_i x y a b z b'
          rw [List.cons_append] at heq
          have hz : z = c := List.head_eq_of_cons_eq heq
          have hy : y = d := ih hrestOther (List.tail_eq_of_cons_eq heq)
          rw [hy] at hletter
          rw [hcase.sameLetter_left_iff.mp hletter] at hother
          rw [← hz]
          exact hcase.sameLetter_iff.mp hother

end Text

namespace PathPattern

variable {values : Values} {segments : List Segment} {pattern : PathPattern}
  {segment : Segment} {parameter : Parameter} {piece : List Char}
  {parts : List (Segment × List Char)} {ending : List Char} {url text : String}

/-!
# Parts of urls
-/

/-- Whether a segment takes a part of a url, where its parameter has one of the values. -/
def Spells (values : Values) : Segment -> List Char -> Prop
  | .literal text, piece => Text.SameLetters text.toList piece
  | .parameter parameter, piece => Captures parameter (values.get? parameter.name) piece

/-- Whether the value of a segment's parameter is enough to have the part back: a repeated
parameter without a lead takes no more than one character, and one with a lead has no empty
repetition. -/
def Keeps : Segment -> List Char -> Prop
  | .literal _, _ => True
  | .parameter parameter, piece =>
      parameter.modifier.isRepeated = true ->
        match parameter.lead with
        | none => piece.length ≤ 1
        | some lead => piece = [] ∨ [] ∉ Text.splitChars (· == lead) piece.tail

/-- The part with the letters that the segment has. -/
def restored : Segment × List Char -> List Char
  | (.literal text, _) => text.toList
  | (.parameter _, piece) => piece

/-- The parts of a url that the segments of a pattern take, and the ending. -/
structure Cuts (pattern : PathPattern) (values : Values) (url : String)
    (parts : List (Segment × List Char)) (ending : List Char) : Prop where
  segments_eq : parts.map Prod.fst = pattern.segments
  url_eq : url.toList = parts.flatMap Prod.snd ++ ending
  ending_mem : ending ∈ endings
  spells : forall part, part ∈ parts -> Spells values part.1 part.2

/-- Whether a text is a url up to letter case and an ending. -/
def GivesBack (text url : String) : Prop :=
  exists body ending, url.toList = body ++ ending ∧ ending ∈ endings ∧
    Text.SameLetters text.toList body

theorem of_mem_endings (h : ending ∈ endings) :
    ending = [] ∨ exists d, ending = [d] ∧ Text.Caseless d ∧ delimiter.has d = true := by
  have hslash : Text.Caseless '/' := by
    decide +kernel
  have hhash : Text.Caseless '#' := by
    decide +kernel
  have hquestion : Text.Caseless '?' := by
    decide +kernel
  simp only [endings, List.mem_cons, List.not_mem_nil, or_false] at h
  rcases h with rfl | rfl | rfl | rfl
  · exact Or.inl rfl
  · exact Or.inr ⟨_, rfl, hslash, delimiter_has_iff.mpr (by simp)⟩
  · exact Or.inr ⟨_, rfl, hhash, delimiter_has_iff.mpr (by simp)⟩
  · exact Or.inr ⟨_, rfl, hquestion, delimiter_has_iff.mpr (by simp)⟩

/-!
# What is filled in for a part
-/

/-- What a segment may be filled with that takes a part of a url: the part, or less of it. -/
inductive FilledWith (segment : Segment) (piece : List Char) : List Char -> Prop where
  | whole (hkeeps : Keeps segment piece) : FilledWith segment piece (restored (segment, piece))
  | less {text before : List Char} {c : Char} (hkeeps : ¬ Keeps segment piece)
      (hlength : text.length < piece.length) (hpiece : piece = before ++ [c])
      (hc : delimiter.has c = false) : FilledWith segment piece text

theorem toList_repeatedText (lead : Char) (value : String) :
    (repeatedText lead value).toList =
      ((Text.splitChars (· == lead) value.toList).filter fun part => !part.isEmpty).flatMap
        (lead :: ·) := by
  have hempty : ((fun part : String => !part.isEmpty) ∘ String.ofList) =
      fun part => !part.isEmpty := by
    funext part
    cases part with
    | nil =>
        rfl
    | cons c rest =>
        simp
  rw [repeatedText, Text.toList_join_empty, Text.split, List.filter_map, hempty, List.map_map,
    List.flatMap_map]
  apply List.flatMap_congr
  intro part _
  simp

theorem repeatedText_of_not_mem {lead : Char} {cs : List Char}
    (h : [] ∉ Text.splitChars (· == lead) cs) :
    (repeatedText lead (String.ofList cs)).toList = lead :: cs := by
  have hall : (Text.splitChars (· == lead) cs).filter (fun part => !part.isEmpty) =
      Text.splitChars (· == lead) cs := by
    apply List.filter_eq_self.mpr
    intro part hpart
    cases part with
    | nil =>
        exact absurd hpart h
    | cons c rest =>
        rfl
  rw [toList_repeatedText, String.toList_ofList, hall, Text.flatMap_splitChars]

/-- Empty repetitions are lost. -/
theorem length_flatMap_filter_lt {lead : Char} {values : List (List Char)} (h : [] ∈ values) :
    ((values.filter fun value => !value.isEmpty).flatMap (lead :: ·)).length <
      (values.flatMap (lead :: ·)).length := by
  induction values with
  | nil =>
      cases h
  | cons value values ih =>
      have hsub : (values.filter fun value => !value.isEmpty).Sublist values :=
        List.filter_sublist
      have hle : ((values.filter fun value => !value.isEmpty).flatMap (lead :: ·)).length ≤
          (values.flatMap (lead :: ·)).length :=
        (hsub.flatMap (lead :: ·)).length_le
      cases value with
      | nil =>
          rw [List.filter_cons_of_neg (by simp), List.flatMap_cons, List.length_append]
          exact Nat.lt_of_le_of_lt hle (Nat.lt_add_of_pos_left (Nat.succ_pos _))
      | cons c rest =>
          have hbelow := ih ((List.mem_cons.mp h).resolve_left (List.cons_ne_nil _ _).symm)
          rw [List.filter_cons_of_pos (by simp), List.flatMap_cons, List.flatMap_cons,
            List.length_append, List.length_append]
          exact Nat.add_lt_add_left hbelow _

theorem length_repeatedText_lt {lead : Char} {cs : List Char}
    (h : [] ∈ Text.splitChars (· == lead) cs) :
    (repeatedText lead (String.ofList cs)).toList.length < (lead :: cs).length := by
  rw [toList_repeatedText, String.toList_ofList, ← Text.flatMap_splitChars lead cs]
  exact length_flatMap_filter_lt h

/-- A part of which a value was captured does not end with a delimiter. -/
theorem exists_last_of_flatMap (lead : Char) {values : List (List Char)} (hne : values ≠ [])
    (hvalues : forall value, value ∈ values -> IsValue value) :
    exists before c, values.flatMap (lead :: ·) = before ++ [c] ∧ delimiter.has c = false := by
  rcases List.eq_nil_or_concat values with rfl | ⟨init, last, rfl⟩
  · exact absurd rfl hne
  · have hlast := hvalues last (by simp)
    rcases List.eq_nil_or_concat last with rfl | ⟨before, c, rfl⟩
    · exact absurd rfl hlast.ne_nil
    · refine ⟨init.flatMap (lead :: ·) ++ lead :: before, c, ?_, hlast.has_eq c (by simp)⟩
      simp

theorem value?_of_get? {name : String} {value : List Char}
    (h : values.get? name = some (String.ofList value)) (hne : value ≠ []) :
    value? values name = some (String.ofList value) := by
  rw [value?, h]
  simp [hne]

theorem segmentText_of_value {value : List Char}
    (h : values.get? parameter.name = some (String.ofList value)) (hne : value ≠ []) :
    segmentText values (.parameter parameter) =
      .ok (parameterText parameter (String.ofList value)) := by
  rw [segmentText, value?_of_get? h hne]

theorem toList_parameterText_of_single (hsingle : parameter.modifier.isRepeated = false)
    (value : List Char) :
    (parameterText parameter (String.ofList value)).toList = parameter.lead.toList ++ value := by
  unfold parameterText
  cases parameter.lead with
  | none =>
      simp
  | some lead =>
      simp [hsingle]

/-- A segment that takes a part of a url can be filled. -/
theorem exists_segmentText (h : Spells values segment piece) :
    exists text, segmentText values segment = .ok text ∧
      FilledWith segment piece text.toList := by
  cases segment with
  | literal text =>
      exact ⟨text, rfl, .whole trivial⟩
  | parameter parameter =>
      have hcaptures : Captures parameter (values.get? parameter.name) piece := h
      generalize hvalue : values.get? parameter.name = value at hcaptures
      cases hcaptures with
      | absent hoptional =>
          refine ⟨"", ?_, .whole ?_⟩
          · simp [segmentText, value?, hvalue, hoptional]
          · intro _
            split
            · exact Nat.zero_le _
            · exact Or.inl rfl
      | once hsingle hisValue =>
          rename_i value
          refine ⟨_, segmentText_of_value hvalue hisValue.ne_nil, ?_⟩
          rw [toList_parameterText_of_single hsingle]
          apply FilledWith.whole
          intro hrepeated
          rw [hsingle] at hrepeated
          cases hrepeated
      | last hrepeated hlead hisValue =>
          rename_i before c
          have htext : parameterText parameter (String.ofList [c]) = String.ofList [c] := by
            rw [parameterText, hlead]
          refine ⟨_, segmentText_of_value hvalue (by simp), ?_⟩
          rw [htext, String.toList_ofList]
          have hkeeps : Keeps (.parameter parameter) (before ++ [c]) ↔ before = [] := by
            simp [Keeps, hrepeated, hlead]
          by_cases hbefore : before = []
          · rw [hbefore]
            rw [hbefore] at hkeeps
            exact .whole (hkeeps.mpr rfl)
          · refine .less (fun h => hbefore (hkeeps.mp h)) ?_ rfl (hisValue.has_eq c (by simp))
            simpa [List.length_pos_iff] using hbefore
      | all hrepeated hlead hne hvalues =>
          rename_i lead parts
          rcases exists_last_of_flatMap lead hne hvalues with ⟨before, c, hpiece, hc⟩
          rcases List.exists_cons_of_ne_nil hne with ⟨first, others, rfl⟩
          generalize hall : ((first :: others).flatMap (lead :: ·)).tail = all at hvalue ⊢
          have hcons : (first :: others).flatMap (lead :: ·) = lead :: all := by
            rw [← hall, List.flatMap_cons, List.cons_append, List.tail_cons]
          have hallNe : all ≠ [] := by
            rw [← hall, List.flatMap_cons, List.cons_append, List.tail_cons]
            have hfirst := (hvalues first List.mem_cons_self).ne_nil
            simp [hfirst]
          have htext : parameterText parameter (String.ofList all) =
              repeatedText lead (String.ofList all) := by
            simp [parameterText, hlead, hrepeated]
          refine ⟨_, segmentText_of_value hvalue hallNe, ?_⟩
          rw [htext]
          rw [hcons] at hpiece ⊢
          have hkeeps : Keeps (.parameter parameter) (lead :: all) ↔
              [] ∉ Text.splitChars (· == lead) all := by
            simp [Keeps, hrepeated, hlead]
          by_cases hempty : [] ∈ Text.splitChars (· == lead) all
          · exact .less (fun h => hkeeps.mp h hempty) (length_repeatedText_lt hempty) hpiece hc
          · rw [repeatedText_of_not_mem hempty]
            exact .whole (hkeeps.mpr hempty)

/-!
# What a pattern is filled with
-/

/-- What the segments of parts of a url may be filled with. -/
inductive AllFilledWith : List (Segment × List Char) -> List Char -> Prop where
  | nil : AllFilledWith [] []
  | cons {part : Segment × List Char} {parts : List (Segment × List Char)}
      {text rest : List Char} (hpart : FilledWith part.1 part.2 text)
      (hrest : AllFilledWith parts rest) : AllFilledWith (part :: parts) (text ++ rest)

theorem exists_segmentsText (h : forall part, part ∈ parts -> Spells values part.1 part.2) :
    exists text, segmentsText values (parts.map Prod.fst) = .ok text ∧
      AllFilledWith parts text.toList := by
  induction parts with
  | nil =>
      exact ⟨"", rfl, .nil⟩
  | cons part parts ih =>
      rcases exists_segmentText (h part List.mem_cons_self) with ⟨text, htext, hpart⟩
      rcases ih fun other hother => h other (List.mem_cons_of_mem _ hother) with
        ⟨rest, hrestText, hrest⟩
      refine ⟨text ++ rest, ?_, ?_⟩
      · rw [List.map_cons, segmentsText, htext, hrestText]
        rfl
      · rw [String.toList_append]
        exact .cons hpart hrest

theorem sameLetters_restored (h : Spells values segment piece) :
    Text.SameLetters (restored (segment, piece)) piece := by
  cases segment with
  | literal text =>
      exact h
  | parameter parameter =>
      exact Text.sameLetters_refl piece

theorem sameLetters_flatMap_restored
    (h : forall part, part ∈ parts -> Spells values part.1 part.2) :
    Text.SameLetters (parts.flatMap restored) (parts.flatMap Prod.snd) := by
  induction parts with
  | nil =>
      exact .nil
  | cons part parts ih =>
      exact Text.sameLetters_append (sameLetters_restored (h part List.mem_cons_self))
        (ih fun other hother => h other (List.mem_cons_of_mem _ hother))

namespace AllFilledWith

variable {filled : List Char}

theorem eq_flatMap_restored (h : AllFilledWith parts filled)
    (hkeeps : forall part, part ∈ parts -> Keeps part.1 part.2) :
    filled = parts.flatMap restored := by
  induction h with
  | nil =>
      rfl
  | cons hpart hrest ih =>
      rename_i part parts text rest
      cases hpart with
      | whole _ =>
          have hbelow := ih fun other hother => hkeeps other (List.mem_cons_of_mem _ hother)
          rw [List.flatMap_cons, ← hbelow]
      | less hnot _ _ _ =>
          exact absurd (hkeeps part List.mem_cons_self) hnot

/-- No more is filled in than was taken, and as much only if all is kept. -/
theorem length_le (h : AllFilledWith parts filled)
    (hspells : forall part, part ∈ parts -> Spells values part.1 part.2) :
    filled.length ≤ (parts.flatMap Prod.snd).length ∧
      (filled.length = (parts.flatMap Prod.snd).length ->
        forall part, part ∈ parts -> Keeps part.1 part.2) := by
  induction h with
  | nil =>
      exact ⟨Nat.le_refl _, fun _ part hpart => absurd hpart List.not_mem_nil⟩
  | cons hpart hrest ih =>
      rename_i part parts text rest
      rcases ih fun other hother => hspells other (List.mem_cons_of_mem _ hother) with
        ⟨hle, hkeeps⟩
      rw [List.flatMap_cons, List.length_append, List.length_append]
      cases hpart with
      | whole hwhole =>
          have hlength := (sameLetters_restored (hspells part List.mem_cons_self)).length_eq
          refine ⟨by omega, ?_⟩
          intro heq other hother
          rcases List.mem_cons.mp hother with rfl | hmem
          · exact hwhole
          · exact hkeeps (by omega) other hmem
      | less _ hlength _ _ =>
          exact ⟨by omega, fun heq => absurd heq (by omega)⟩

/-- What lost something does not have the letters of the url up to any ending. -/
theorem keeps_of_sameLetters (h : AllFilledWith parts filled)
    (hspells : forall part, part ∈ parts -> Spells values part.1 part.2)
    {body other : List Char} (hurl : parts.flatMap Prod.snd ++ ending = body ++ other)
    (hother : other ∈ endings) (hletters : Text.SameLetters filled body) :
    forall part, part ∈ parts -> Keeps part.1 part.2 := by
  induction h generalizing body with
  | nil =>
      exact fun part hpart => absurd hpart List.not_mem_nil
  | cons hpart hrest ih =>
      rename_i part parts text rest
      have hbelow : forall other, other ∈ parts -> Spells values other.1 other.2 :=
        fun other hother => hspells other (List.mem_cons_of_mem _ hother)
      rcases Text.exists_of_sameLetters_append hletters with
        ⟨first, tail, rfl, hfirst, htail⟩
      rw [List.flatMap_cons, List.append_assoc, List.append_assoc] at hurl
      cases hpart with
      | whole hwhole =>
          have hlength : part.2.length = first.length := by
            rw [← hfirst.length_eq]
            exact (sameLetters_restored (hspells part List.mem_cons_self)).length_eq.symm
          intro kept hkept
          rcases List.mem_cons.mp hkept with rfl | hmem
          · exact hwhole
          · exact ih hbelow (List.append_inj hurl hlength).2 htail kept hmem
      | less hnot hlength hpiece hc =>
          -- one character is lost here, and what follows it would have to be shifted by one
          rename_i before c
          exfalso
          have hsum := congrArg List.length hurl
          have hfirstLength := hfirst.length_eq
          have htailLength := htail.length_eq
          rcases hrest.length_le hbelow with ⟨hle, hkeeps⟩
          rw [hpiece, List.length_append, List.length_singleton] at hlength
          simp only [hpiece, List.length_append, List.length_singleton] at hsum
          rcases of_mem_endings hother with rfl | ⟨d, rfl, hcase, hd⟩
          · rw [List.length_nil] at hsum
            omega
          · rw [List.length_singleton] at hsum
            obtain rfl : ending = [] := List.eq_nil_of_length_eq_zero (by omega)
            have hsame : Text.SameLetters rest (parts.flatMap Prod.snd) := by
              rw [hrest.eq_flatMap_restored (hkeeps (by omega))]
              exact sameLetters_flatMap_restored hbelow
            rw [hpiece, List.append_assoc, List.append_nil] at hurl
            have hshift : c :: parts.flatMap Prod.snd = tail ++ [d] :=
              (List.append_inj hurl (by omega)).2
            rw [Text.eq_of_sameLetters_shifted hcase hsame htail hshift.symm, hd] at hc
            cases hc

end AllFilledWith

/-- Where repeated parameters have a slash before them, nothing is lost. -/
theorem keeps_of_slash (h : Spells values segment piece)
    (hslash : forall parameter, segment = .parameter parameter ->
      parameter.modifier.isRepeated = true -> parameter.lead = some '/') :
    Keeps segment piece := by
  cases segment with
  | literal text =>
      exact trivial
  | parameter parameter =>
      intro hrepeated
      have hlead := hslash parameter rfl hrepeated
      rw [hlead]
      have hcaptures : Captures parameter (values.get? parameter.name) piece := h
      generalize values.get? parameter.name = value at hcaptures
      cases hcaptures with
      | absent _ =>
          exact Or.inl rfl
      | once hsingle _ =>
          rw [hsingle] at hrepeated
          cases hrepeated
      | last _ hnone _ =>
          rw [hnone] at hlead
          cases hlead
      | @all lead parts _ hsome hne hvalues =>
          obtain rfl : lead = '/' := Option.some_inj.mp (hsome.symm.trans hlead)
          rcases List.exists_cons_of_ne_nil hne with ⟨first, others, rfl⟩
          right
          rw [List.flatMap_cons, List.cons_append, List.tail_cons, Text.splitChars_append_flatMap]
          · exact fun hmem => (hvalues [] hmem).ne_nil rfl
          · intro part hpart c hc
            apply beq_false_of_ne
            rintro rfl
            have hslash := (hvalues part hpart).has_eq '/' hc
            rw [delimiter_has_iff.mpr (Or.inl rfl)] at hslash
            cases hslash

/-!
# Values of groups
-/

theorem spells_of_taken {texts : Nat -> Option String} {index : Nat} (h : Taken texts index parts)
    (htexts : forall k parameter, (parametersOf (parts.map Prod.fst))[k]? = some parameter ->
      texts (index + k) = values.get? parameter.name) :
    forall part, part ∈ parts -> Spells values part.1 part.2 := by
  induction h with
  | nil =>
      exact fun part hpart => absurd hpart List.not_mem_nil
  | literal hletters hrest ih =>
      rw [List.map_cons, parametersOf_literal] at htexts
      intro part hpart
      rcases List.mem_cons.mp hpart with rfl | hmem
      · exact hletters
      · exact ih htexts part hmem
  | parameter hcaptures hrest ih =>
      rw [List.map_cons, parametersOf_parameter] at htexts
      intro part hpart
      rcases List.mem_cons.mp hpart with rfl | hmem
      · have hvalue := htexts 0 _ rfl
        rw [Nat.add_zero] at hvalue
        rw [hvalue] at hcaptures
        exact hcaptures
      · refine ih ?_ part hmem
        intro k other hother
        rw [← htexts (k + 1) other hother, Nat.add_assoc, Nat.add_comm 1]

end PathPattern

namespace RedirectRule

variable {redirect : RedirectSource} {rule : RedirectRule} {values : PathPattern.Values}
  {url name : String}

/-- Of distinct names each has the text of its own group. -/
theorem get?_of_nodup {groups : List (Nat × String)} {names : List String} {k : Nat}
    (hnodup : names.Nodup) (hname : names[k]? = some name) :
    (Catalog.ofList (valuesFrom groups 1 names)).get? name = groups.lookup (1 + k) := by
  have hsame : forall other, names[other]? = some name -> other = k := by
    intro other hother
    rcases List.getElem?_eq_some_iff.mp hother with ⟨hlt, _⟩
    exact (List.getElem?_inj hlt hnodup).mp (hother.trans hname.symm)
  cases hget : (Catalog.ofList (valuesFrom groups 1 names)).get? name with
  | some value =>
      rcases get?_ofList_valuesFrom.2 value hget with ⟨other, hother, hlookup⟩
      rw [← hsame other hother, hlookup]
  | none =>
      cases hlookup : groups.lookup (1 + k) with
      | none =>
          rfl
      | some value =>
          have hsome := get?_ofList_valuesFrom.1.mpr ⟨k, hname, by rw [hlookup]; rfl⟩
          rw [hget] at hsome
          cases hsome

theorem caseless_of_compile (h : compile redirect = .ok rule) {parameter : Parameter}
    (hparameter : parameter ∈ rule.source.parameters) {lead : Char}
    (hlead : parameter.lead = some lead) : Text.Caseless lead := by
  have hparse := (exists_of_compile h).1
  unfold PathPattern.parse at hparse
  dsimp only at hparse
  split at hparse
  · rename_i segments hread
    rw [← Except.ok.inj hparse] at hparameter
    exact PathPattern.caseless_of_readSegments hread hparameter hlead
  · cases hparse

/-- A match cuts the url into parts that the segments of the source take. -/
theorem exists_cuts (hcompile : compile redirect = .ok rule)
    (hplain : rule.source.isPlain = true) (hnodup : rule.source.names.Nodup)
    (h : rule.values? url = some values) :
    exists parts ending, rule.source.Cuts values url parts ending := by
  rcases Option.map_eq_some_iff.mp h with ⟨groups, hsearch, rfl⟩
  rw [matcher_of_plain hcompile hplain] at hsearch
  rcases Regex.exists_of_search_anchored hsearch with ⟨next, hnext, htexts⟩
  have hfresh : forall number, 1 ≤ number ->
      (Regex.Spot.ofText url.toList).group? number = none := fun _ _ => rfl
  rcases PathPattern.taken_of_mem_segments
    (fun parameter hparameter lead hlead => caseless_of_compile hcompile hparameter hlead)
    hfresh hnext with ⟨parts, ending, hsegments, hurl, hending, htaken, _⟩
  refine ⟨parts, ending, hsegments, hurl, hending, PathPattern.spells_of_taken htaken ?_⟩
  intro k parameter hparameter
  rw [hsegments] at hparameter
  have hname : rule.source.names[k]? = some parameter.name :=
    PathPattern.names_getElem?_eq_some_iff.mpr ⟨parameter, hparameter, rfl⟩
  rw [get?_of_nodup hnodup hname, htexts]

/-- The source of a redirect, filled with the values of a match, gives the url back exactly when
each repeated parameter keeps its part: without a lead the part is no longer than a character, and
with one it has no empty repetition.  The parts are then the same but for the case of literals.
Where all repeated parameters have a slash before them, this is so for every url. -/
theorem reproduction_exact (hcompile : compile redirect = .ok rule)
    (hplain : rule.source.isPlain = true) (hnodup : rule.source.names.Nodup)
    (hvalues : rule.values? url = some values) :
    exists text parts ending, rule.source.render values = .ok text ∧
      rule.source.Cuts values url parts ending ∧
      (PathPattern.GivesBack text url ↔
        forall part, part ∈ parts -> PathPattern.Keeps part.1 part.2) ∧
      ((forall part, part ∈ parts -> PathPattern.Keeps part.1 part.2) ->
        text.toList = parts.flatMap PathPattern.restored) ∧
      ((forall parameter, parameter ∈ rule.source.parameters ->
          parameter.modifier.isRepeated = true -> parameter.lead = some '/') ->
        PathPattern.GivesBack text url) := by
  rcases exists_cuts hcompile hplain hnodup hvalues with ⟨parts, ending, hcuts⟩
  rcases PathPattern.exists_segmentsText hcuts.spells with ⟨text, htext, hfilled⟩
  rw [hcuts.segments_eq] at htext
  have hback : PathPattern.GivesBack text url ↔
      forall part, part ∈ parts -> PathPattern.Keeps part.1 part.2 := by
    constructor
    · rintro ⟨body, other, hurl, hother, hletters⟩
      rw [hcuts.url_eq] at hurl
      exact hfilled.keeps_of_sameLetters hcuts.spells hurl hother hletters
    · intro hkeeps
      refine ⟨_, _, hcuts.url_eq, hcuts.ending_mem, ?_⟩
      rw [hfilled.eq_flatMap_restored hkeeps]
      exact PathPattern.sameLetters_flatMap_restored hcuts.spells
  refine ⟨text, parts, ending, ?_, hcuts, hback, hfilled.eq_flatMap_restored, ?_⟩
  · rw [PathPattern.render, htext]
    rfl
  · intro hslash
    apply hback.mpr
    intro part hpart
    apply PathPattern.keeps_of_slash (hcuts.spells part hpart)
    intro parameter hparameter
    apply hslash parameter
    have hmem : part.1 ∈ rule.source.segments := by
      rw [← hcuts.segments_eq]
      exact List.mem_map_of_mem hpart
    exact List.mem_filterMap.mpr ⟨_, hmem, by rw [hparameter]; rfl⟩

/-- A redirect whose source has a repeated parameter without a lead. -/
def restOfPage : RedirectSource := { source := "/page:rest+", destination := "/new/:rest" }

/-- Of the three characters that the parameter takes only the last one is its value. -/
theorem reproduction_exact_lastCharacter :
    exists rule values text, compile restOfPage = .ok rule ∧ rule.source.isPlain = true ∧
      rule.source.names.Nodup ∧ rule.values? "/pagexyz" = some values ∧
      rule.source.render values = .ok text ∧ text = "/pagez" ∧
      ¬ PathPattern.GivesBack text "/pagexyz" ∧
      exists parts ending, rule.source.Cuts values "/pagexyz" parts ending ∧
        ¬ forall part, part ∈ parts -> PathPattern.Keeps part.1 part.2 := by
  have hresult : ((compile restOfPage).toOption.any fun rule =>
      rule.source.isPlain && decide rule.source.names.Nodup &&
        (rule.values? "/pagexyz").any fun values =>
          rule.source.render values == .ok "/pagez") = true := by
    decide +kernel
  cases hcompile : compile restOfPage with
  | error error =>
      rw [hcompile] at hresult
      cases hresult
  | ok rule =>
      rw [hcompile] at hresult
      simp only [Except.toOption, Option.any_some, Bool.and_eq_true, decide_eq_true_eq] at hresult
      rcases hresult with ⟨⟨hplain, hnodup⟩, hvalues⟩
      cases hmatch : rule.values? "/pagexyz" with
      | none =>
          rw [hmatch] at hvalues
          cases hvalues
      | some values =>
          rw [hmatch, Option.any_some] at hvalues
          have hrender : rule.source.render values = .ok "/pagez" := eq_of_beq hvalues
          rcases reproduction_exact hcompile hplain hnodup hmatch with
            ⟨text, parts, ending, htext, hcuts, hback, _, _⟩
          obtain rfl : text = "/pagez" := Except.ok.inj (htext.symm.trans hrender)
          have hlost : ¬ PathPattern.GivesBack "/pagez" "/pagexyz" := by
            rintro ⟨body, other, hurl, hother, hletters⟩
            have hsum := congrArg List.length hurl
            have hlength := hletters.length_eq
            have hle : other.length ≤ 1 := by
              rcases PathPattern.of_mem_endings hother with rfl | ⟨d, rfl, _⟩
              · exact Nat.zero_le 1
              · exact Nat.le_refl 1
            rw [List.length_append, ← hlength] at hsum
            have hcount : "/pagexyz".toList.length = 8 ∧ "/pagez".toList.length = 6 := by
              decide
            omega
          exact ⟨rule, values, _, rfl, hplain, hnodup, hmatch, htext, rfl, hlost, parts, ending,
            hcuts, fun hkeeps => hlost (hback.mpr hkeeps)⟩

end RedirectRule
end Docloom
