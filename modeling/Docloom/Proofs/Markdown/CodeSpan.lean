import Docloom.Node.Reading
import Docloom.Proofs.Markdown.LineKind

/-!
# Code between back quotes

Code inside a line is written between two runs of back quotes, and is read again as what stands
between them: the whole text is one code span, and its value is the code that was written unless
the code starts and ends with a blank, of which one is lost at each end.
-/

namespace Docloom
namespace Markdown

open Writer

variable {content cs written : List Char} {size : Nat}

/-!
# Code spans
-/

def ticks (size : Nat) : List Char := List.replicate size '\x60'

theorem length_ticks (size : Nat) : (ticks size).length = size := List.length_replicate

/-- Whether a run of exactly `size` back quotes stands in a text. -/
def HasTicks (size : Nat) (cs : List Char) : Prop :=
  exists before after, cs = before ++ (ticks size ++ after) ∧
    before.getLast? ≠ some '\x60' ∧ after.head? ≠ some '\x60'

/-- Whether a text is one code span: a run of back quotes, the content, and the first run of the
same size after it. -/
structure CodeSpan (size : Nat) (written content : List Char) : Prop where
  written_eq : written = ticks size ++ (content ++ ticks size)
  opens : 0 < size
  ne_nil : content ≠ []
  head : content.head? ≠ some '\x60'
  last : content.getLast? ≠ some '\x60'
  first : ¬ HasTicks size content

/-- Whether a text is the value of some code span. -/
def IsCode (cs : List Char) : Prop :=
  exists size written content, CodeSpan size written content ∧ Scope.trimCode content = cs

theorem takeWhile_ticks (h : cs.head? ≠ some '\x60') (size : Nat) :
    (ticks size ++ cs).takeWhile (· == '\x60') = ticks size := by
  rw [List.takeWhile_append_of_pos]
  · cases cs with
    | nil =>
        simp
    | cons c cs =>
        have hc : c ≠ '\x60' := fun heq => h (by rw [heq]; rfl)
        rw [List.takeWhile_cons_of_neg (by simpa using hc), List.append_nil]
  · intro c hc
    rw [List.eq_of_mem_replicate hc]
    rfl

/-- A text is a code span in one way only. -/
theorem CodeSpan.unique {other : List Char} {otherSize : Nat} (h : CodeSpan size written content)
    (hother : CodeSpan otherSize written other) : otherSize = size ∧ other = content := by
  have hhead : forall {cs : List Char} {n : Nat}, cs ≠ [] -> cs.head? ≠ some '\x60' ->
      (cs ++ ticks n).head? ≠ some '\x60' := by
    intro cs n hne hcs
    rwa [List.head?_append_of_ne_nil _ hne]
  have hruns := takeWhile_ticks (hhead (n := size) h.ne_nil h.head) size
  have hrunsOther := takeWhile_ticks (hhead (n := otherSize) hother.ne_nil hother.head) otherSize
  rw [← h.written_eq] at hruns
  rw [← hother.written_eq, hruns] at hrunsOther
  have hsize : otherSize = size := by
    rw [← length_ticks otherSize, ← hrunsOther, length_ticks]
  subst hsize
  have hboth := h.written_eq.symm.trans hother.written_eq
  exact ⟨rfl, (List.append_cancel_right (List.append_cancel_left hboth)).symm⟩

/-!
# Blanks at the ends of code
-/

/-- Whether code starts and ends with a blank and is not all blanks. -/
def IsPadded (cs : List Char) : Prop :=
  exists inner, cs = ' ' :: (inner ++ [' ']) ∧ inner.any (· != ' ') = true

theorem trimCode_padded {inner : List Char} (h : inner.any (· != ' ') = true) :
    Scope.trimCode (' ' :: (inner ++ [' '])) = inner := by
  simp [Scope.trimCode, h]

theorem trimCode_of_not_padded (h : ¬ IsPadded cs) : Scope.trimCode cs = cs := by
  unfold Scope.trimCode
  split
  · rename_i rest
    split
    · rename_i inner hinner
      split
      · rename_i hany
        exfalso
        apply h
        refine ⟨inner.reverse, ?_, by simpa using hany⟩
        rw [← List.reverse_cons, ← hinner, List.reverse_reverse]
      · rfl
    · rfl
  · rfl

/-- Code is read as it was written just if it has no blanks to lose. -/
theorem trimCode_eq_self_iff : Scope.trimCode cs = cs ↔ ¬ IsPadded cs := by
  refine ⟨?_, trimCode_of_not_padded⟩
  rintro heq ⟨inner, rfl, hany⟩
  rw [trimCode_padded hany] at heq
  have hlength := congrArg List.length heq
  rw [List.length_cons, List.length_append, List.length_singleton] at hlength
  omega

theorem isPadded_ends (h : IsPadded cs) : cs.head? = some ' ' ∧ cs.getLast? = some ' ' := by
  rcases h with ⟨inner, rfl, _⟩
  refine ⟨rfl, ?_⟩
  rw [← List.cons_append, List.getLast?_concat]

/-!
# Code as it is written
-/

theorem longestRun_padded (cs : List Char) :
    longestRun '\x60' (' ' :: (cs ++ [' '])) = longestRun '\x60' cs := by
  rw [longestRun_eq, longestRun_eq, List.foldl_cons, List.foldl_append]
  rfl

theorem le_longestRun_of_hasTicks (h : HasTicks size cs) : size ≤ longestRun '\x60' cs := by
  rcases h with ⟨before, after, rfl, _⟩
  refine Nat.le_trans ?_ (longestRun_le_append '\x60' before (ticks size) after)
  have hrun := length_takeWhile_le '\x60' (ticks size)
  have hall := takeWhile_ticks (by simp : ([] : List Char).head? ≠ some '\x60') size
  rw [List.append_nil] at hall
  rwa [hall, length_ticks] at hrun

/-- Longer runs of back quotes than those in a text enclose it. -/
theorem codeSpan_ticks (hne : cs ≠ []) (hhead : cs.head? ≠ some '\x60')
    (hlast : cs.getLast? ≠ some '\x60') :
    CodeSpan (longestRun '\x60' cs + 1) (ticks (longestRun '\x60' cs + 1) ++
      (cs ++ ticks (longestRun '\x60' cs + 1))) cs := by
  refine ⟨rfl, Nat.succ_pos _, hne, hhead, hlast, ?_⟩
  intro hticks
  exact absurd (le_longestRun_of_hasTicks hticks) (Nat.not_succ_le_self _)

/-- Every text but the empty one is the value of some code span. -/
theorem isCode_iff : IsCode cs ↔ cs ≠ [] := by
  constructor
  · rintro ⟨size, written, content, hspan, rfl⟩
    by_cases hpadded : IsPadded content
    · rcases hpadded with ⟨inner, rfl, hany⟩
      rw [trimCode_padded hany]
      rintro rfl
      cases hany
    · rw [trimCode_of_not_padded hpadded]
      exact hspan.ne_nil
  · intro hne
    by_cases hany : cs.any (· != ' ') = true
    · refine ⟨_, _, ' ' :: (cs ++ [' ']), codeSpan_ticks ?_ ?_ ?_, trimCode_padded hany⟩
      · simp
      · simp
      · rw [← List.cons_append, List.getLast?_concat]
        simp
    · have hblank : forall c, c ∈ cs -> c = ' ' := by simpa using hany
      have hends : forall c, c ∈ cs -> c ≠ '\x60' := by
        intro c hc
        rw [hblank c hc]
        decide
      refine ⟨_, _, cs, codeSpan_ticks hne ?_ ?_, trimCode_of_not_padded ?_⟩
      · exact fun hhead => hends _ (List.mem_of_head? hhead) rfl
      · exact fun hlast => hends _ (List.mem_of_getLast? hlast) rfl
      · rintro ⟨inner, rfl, hinner⟩
        apply hany
        rw [List.any_cons, List.any_append, hinner]
        rfl

/-- What stands between the runs of back quotes: the code, with a blank at each end if a back
quote stands at one of its ends. -/
def spanContent (value : List Char) : List Char :=
  if value.head? = some '\x60' ∨ value.getLast? = some '\x60' then
    ' ' :: (value ++ [' '])
  else
    value

theorem startsWith_tick_iff (value : String) :
    Text.startsWith "\x60" value = true ↔ value.toList.head? = some '\x60' := by
  have htick : "\x60".toList = ['\x60'] := rfl
  rw [Text.startsWith, htick, List.isPrefixOf_iff_prefix]
  constructor
  · rintro ⟨rest, hrest⟩
    rw [← hrest]
    rfl
  · intro hhead
    rcases List.head?_eq_some_iff.mp hhead with ⟨rest, hrest⟩
    exact ⟨rest, hrest.symm⟩

theorem endsWith_tick_iff (value : String) :
    Text.endsWith "\x60" value = true ↔ value.toList.getLast? = some '\x60' := by
  have htick : "\x60".toList = ['\x60'] := rfl
  rw [Text.endsWith, htick, List.isSuffixOf_iff_suffix, List.getLast?_eq_some_iff]
  constructor
  · rintro ⟨before, hbefore⟩
    exact ⟨before, hbefore.symm⟩
  · rintro ⟨before, hbefore⟩
    exact ⟨before, hbefore.symm⟩

theorem toList_inlineCode (value : String) :
    (inlineCode value).toList = ticks (longestRun '\x60' value.toList + 1) ++
      (spanContent value.toList ++ ticks (longestRun '\x60' value.toList + 1)) := by
  have htouches : (Text.startsWith "\x60" value || Text.endsWith "\x60" value) = true ↔
      value.toList.head? = some '\x60' ∨ value.toList.getLast? = some '\x60' := by
    rw [Bool.or_eq_true, startsWith_tick_iff, endsWith_tick_iff]
  unfold inlineCode spanContent
  dsimp only
  by_cases h : value.toList.head? = some '\x60' ∨ value.toList.getLast? = some '\x60'
  · rw [if_pos (htouches.mpr h), if_pos h]
    simp [Text.repeated, ticks]
  · rw [if_neg (mt htouches.mp h), if_neg h]
    simp [Text.repeated, ticks]

theorem longestRun_spanContent (value : List Char) :
    longestRun '\x60' (spanContent value) = longestRun '\x60' value := by
  unfold spanContent
  split
  · exact longestRun_padded value
  · rfl

/-- Code is written as one code span. -/
theorem codeSpan_inlineCode {value : String} (h : value.toList ≠ []) :
    CodeSpan (longestRun '\x60' value.toList + 1) (inlineCode value).toList
      (spanContent value.toList) := by
  have hends : spanContent value.toList ≠ [] ∧
      (spanContent value.toList).head? ≠ some '\x60' ∧
      (spanContent value.toList).getLast? ≠ some '\x60' := by
    unfold spanContent
    split
    · rw [← List.cons_append, List.getLast?_concat]
      simp
    · rename_i htouches
      rw [not_or] at htouches
      exact ⟨h, htouches.1, htouches.2⟩
  rw [toList_inlineCode, ← longestRun_spanContent]
  exact codeSpan_ticks hends.1 hends.2.1 hends.2.2

/-- The blanks that keep back quotes apart are not read. -/
theorem trimCode_spanContent (value : List Char) :
    Scope.trimCode (spanContent value) = Scope.trimCode value := by
  unfold spanContent
  split
  · rename_i htouches
    have hnot : ¬ IsPadded value := by
      intro hpadded
      rcases isPadded_ends hpadded with ⟨hhead, hlast⟩
      rw [hhead, hlast] at htouches
      simp at htouches
    have hany : value.any (· != ' ') = true := by
      rw [List.any_eq_true]
      refine ⟨'\x60', ?_, rfl⟩
      rcases htouches with hhead | hlast
      · exact List.mem_of_head? hhead
      · exact List.mem_of_getLast? hlast
    rw [trimCode_padded hany, trimCode_of_not_padded hnot]
  · rfl

/-!
# Code as it is read
-/

section Reading

variable {run : Run} {rest more : List Char} {i fuel : Nat}

theorem takeWhile_until_ticks (hne : forall c, c ∈ cs -> c ≠ '\x60') (hsize : 0 < size)
    (rest : List Char) : (cs ++ (ticks size ++ rest)).takeWhile (· != '\x60') = cs := by
  rw [List.takeWhile_append_of_pos (by simpa using hne), ticks, replicate_of_pos hsize,
    List.cons_append, List.takeWhile_cons_of_neg (by simp), List.append_nil]

/-- A text that holds back quotes begins with what stands before their first run. -/
theorem exists_first_ticks (h : '\x60' ∈ cs) :
    exists plain size more, cs = plain ++ (ticks size ++ more) ∧ 0 < size ∧
      (forall c, c ∈ plain -> c ≠ '\x60') ∧ more.head? ≠ some '\x60' := by
  induction cs with
  | nil =>
      cases h
  | cons c cs ih =>
      by_cases hc : c = '\x60'
      · subst hc
        refine ⟨[], (cs.takeWhile (· == '\x60')).length + 1, cs.dropWhile (· == '\x60'), ?_,
          Nat.succ_pos _, by simp, ?_⟩
        · have hticks : cs.takeWhile (· == '\x60') =
              ticks (cs.takeWhile (· == '\x60')).length := by
            apply List.eq_replicate_of_mem
            intro d hd
            have htick : (d == '\x60') = true := List.mem_takeWhile_imp (p := (· == '\x60')) hd
            exact eq_of_beq htick
          rw [List.nil_append, ticks, List.replicate_succ, List.cons_append, ← ticks, ← hticks,
            List.takeWhile_append_dropWhile]
        · have hhead := List.head?_dropWhile_not (· == '\x60') cs
          intro htick
          rw [htick] at hhead
          cases hhead
      · rcases ih ((List.mem_cons.mp h).resolve_left (Ne.symm hc)) with
          ⟨plain, size, more, rfl, hsize, hplain, hmore⟩
        refine ⟨c :: plain, size, more, rfl, hsize, ?_, hmore⟩
        intro d hd
        rcases List.mem_cons.mp hd with rfl | hrest
        · exact hc
        · exact hplain d hrest

/-- The runs behind the first one have another size too, if no run in the text has that size. -/
theorem behind_first_ticks {plain more : List Char} {other : Nat} (hother : 0 < other)
    (hplain : forall c, c ∈ plain -> c ≠ '\x60') (hmore : more.head? ≠ some '\x60')
    (hopens : 0 < size) (hlast : (plain ++ (ticks other ++ more)).getLast? ≠ some '\x60')
    (hfirst : ¬ HasTicks size (plain ++ (ticks other ++ more))) :
    other ≠ size ∧ more ≠ [] ∧ more.getLast? ≠ some '\x60' ∧ ¬ HasTicks size more := by
  have hplainLast : plain.getLast? ≠ some '\x60' := by
    intro hend
    exact hplain _ (List.mem_of_getLast? hend) rfl
  have hmoreNe : more ≠ [] := by
    rintro rfl
    apply hlast
    rw [List.append_nil, ticks, replicate_of_pos hother, List.getLast?_append_cons,
      ← replicate_of_pos hother, List.getLast?_replicate, if_neg (by omega)]
  refine ⟨?_, hmoreNe, ?_, ?_⟩
  · rintro rfl
    exact hfirst ⟨plain, more, rfl, hplainLast, hmore⟩
  · rwa [List.getLast?_append_of_ne_nil _ (by simp [hmoreNe]),
      List.getLast?_append_of_ne_nil _ hmoreNe] at hlast
  · rintro ⟨before, after, hsplit, hbefore, hafter⟩
    have hbeforeNe : before ≠ [] := by
      rintro rfl
      apply hmore
      rw [hsplit, ticks, replicate_of_pos hopens]
      rfl
    refine hfirst ⟨plain ++ (ticks other ++ before), after, by simp [hsplit], ?_, hafter⟩
    rwa [List.getLast?_append_of_ne_nil _ (by simp [hbeforeNe]),
      List.getLast?_append_of_ne_nil _ hbeforeNe]

/-- The closing run is the first one of its size. -/
theorem codeStop?_of_first (hdrop : run.letters.drop i = content ++ (ticks size ++ rest))
    (hopens : 0 < size) (hlast : content.getLast? ≠ some '\x60')
    (hfirst : ¬ HasTicks size content) (hrest : rest.head? ≠ some '\x60')
    (hfuel : content.length < fuel) : run.codeStop? size fuel i = some (i + content.length) := by
  induction fuel generalizing content i with
  | zero =>
      cases hfuel
  | succ fuel ih =>
      rw [Run.codeStop?, Run.skip_eq, hdrop]
      by_cases hticks : '\x60' ∈ content
      · -- The first run of back quotes in the content has another size, so the search goes on.
        rcases exists_first_ticks hticks with ⟨plain, other, more, rfl, hother, hplain, hmore⟩
        rcases behind_first_ticks hother hplain hmore hopens hlast hfirst with
          ⟨hne, hmoreNe, hmoreLast, hmoreFirst⟩
        have hnext : (more ++ (ticks size ++ rest)).head? ≠ some '\x60' := by
          rwa [List.head?_append_of_ne_nil _ hmoreNe]
        rw [List.append_assoc, List.append_assoc] at hdrop ⊢
        have hdropRun : run.letters.drop (i + plain.length) =
            ticks other ++ (more ++ (ticks size ++ rest)) := by
          rw [← List.drop_drop, hdrop, List.drop_left]
        have hdropMore : run.letters.drop (i + plain.length + other) =
            more ++ (ticks size ++ rest) := by
          rw [← List.drop_drop, hdropRun, List.drop_left' (length_ticks other)]
        rw [List.length_append, List.length_append, length_ticks] at hfuel
        rw [takeWhile_until_ticks hplain hother, Run.skip_eq, hdropRun, takeWhile_ticks hnext,
          length_ticks, if_neg (by omega), if_neg (by omega),
          ih hdropMore hmoreLast hmoreFirst (by omega), List.length_append, List.length_append,
          length_ticks, Nat.add_assoc, Nat.add_assoc]
      · have hplain : forall c, c ∈ content -> c ≠ '\x60' := by
          rintro c hc rfl
          exact hticks hc
        rw [takeWhile_until_ticks hplain hopens, Run.skip_eq, ← List.drop_drop, hdrop,
          List.drop_left, takeWhile_ticks hrest, length_ticks, if_neg (by omega),
          if_pos (by omega)]

/-- The reader of a line finds the code span that it comes to. -/
theorem codeAt?_of_codeSpan (h : CodeSpan size written content)
    (hdrop : run.letters.drop i = written ++ rest) (hrest : rest.head? ≠ some '\x60') :
    run.codeAt? i =
      some (.code (i + size) (i + size + content.length), i + written.length) := by
  have hhead : (content ++ (ticks size ++ rest)).head? ≠ some '\x60' := by
    rw [List.head?_append_of_ne_nil _ h.ne_nil]
    exact h.head
  rw [h.written_eq, List.append_assoc, List.append_assoc] at hdrop
  have hdropContent : run.letters.drop (i + size) = content ++ (ticks size ++ rest) := by
    rw [← List.drop_drop, hdrop, List.drop_left' (length_ticks size)]
  have hfuel : content.length < run.size + 1 := by
    have hall := congrArg List.length hdropContent
    rw [List.length_drop, List.length_append, ← Run.size_eq] at hall
    omega
  have hopening : run.skip (· == '\x60') i = i + size := by
    rw [Run.skip_eq, hdrop, takeWhile_ticks hhead, length_ticks]
  have hwritten : i + written.length = i + size + content.length + size := by
    rw [h.written_eq, List.length_append, List.length_append, length_ticks]
    omega
  rw [Run.codeAt?, hopening, Nat.add_sub_cancel_left,
    codeStop?_of_first hdropContent h.opens h.last h.first hrest hfuel, Option.map_some, hwritten]

end Reading

/-!
# Code in a document
-/

/-- The text of code in a line is one code span, in one way only, and it is the span that a reader
of the line finds.  What is read is the code, unless it loses a blank at each end. -/
theorem inlineCode_exact {node : Node} {value : String} {setting : Setting}
    (hkind : node.kind = .inlineCode) (hvalue : node.value = some value)
    (hcell : setting.inCell = false) (hcode : IsCode value.toList) :
    exists size content, CodeSpan size (nodeText setting node).toList content ∧
      (forall otherSize other, CodeSpan otherSize (nodeText setting node).toList other ->
        otherSize = size ∧ other = content) ∧
      (forall (run : Run) i rest, run.letters.drop i = (nodeText setting node).toList ++ rest ->
        rest.head? ≠ some '\x60' -> run.codeAt? i =
          some (.code (i + size) (i + size + content.length),
            i + (nodeText setting node).toList.length)) ∧
      Scope.trimCode content = Scope.trimCode value.toList ∧
      (Scope.trimCode content = value.toList ↔ ¬ IsPadded value.toList) := by
  have htext : nodeText setting node = inlineCode value := by
    rcases node with ⟨id, kind, stored, children, position⟩
    obtain rfl : kind = .inlineCode := hkind
    obtain rfl : stored = some value := hvalue
    rw [nodeText, hcell]
    rfl
  rw [htext]
  have hspan := codeSpan_inlineCode (isCode_iff.mp hcode)
  refine ⟨_, _, hspan, ?_, ?_, trimCode_spanContent _, ?_⟩
  · intro otherSize other hother
    exact hspan.unique hother
  · intro run i rest hdrop hrest
    exact codeAt?_of_codeSpan hspan hdrop hrest
  · rw [trimCode_spanContent]
    exact trimCode_eq_self_iff

/-- Code with a blank at each end is read from a text with two, and is written with one. -/
theorem inlineCode_exact_padded :
    exists node size content, node ∈ (Node.ofMarkdown 0 "\x60  a  \x60\n").1.nodes ∧
      node.kind = .inlineCode ∧ node.value = some " a " ∧
      CodeSpan size (nodeText .block node).toList content ∧ Scope.trimCode content = ['a'] ∧
      Scope.trimCode content ≠ " a ".toList := by
  have hread : ((Node.ofMarkdown 0 "\x60  a  \x60\n").1.nodes.any fun node =>
      node.kind == .inlineCode && node.value == some " a ") = true := by
    decide +kernel
  rcases List.any_eq_true.mp hread with ⟨node, hnode, hcode⟩
  rw [Bool.and_eq_true, beq_iff_eq, beq_iff_eq] at hcode
  have hne : " a ".toList ≠ [] := by decide
  have hpadded : IsPadded " a ".toList := ⟨['a'], by decide, by decide⟩
  rcases inlineCode_exact hcode.1 hcode.2 (rfl : Setting.block.inCell = false)
      (isCode_iff.mpr hne) with
    ⟨size, content, hspan, _, _, htrim, hself⟩
  refine ⟨node, size, content, hnode, hcode.1, hcode.2, hspan, ?_, ?_⟩
  · rw [htrim]
    decide
  · exact fun hsame => hself.mp hsame hpadded

end Markdown
end Docloom
