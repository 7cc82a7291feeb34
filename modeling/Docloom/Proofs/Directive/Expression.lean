import Docloom.Proofs.Directive.Grammar
import Docloom.Proofs.Regex.Language
import Docloom.Proofs.Regex.Reach
import Docloom.Regex.Reader

/-!
# The expression of markers

The grammar of markers is that of a regular expression.  The expression can match a text in many
ways, for its parts compete for the white space; but all the ways have one keyword, and contents
that are the same once they are trimmed, so it does not matter which of them is preferred.
-/

namespace Docloom
namespace Marker

variable {before blanks left content right after cs text : List Char} {kind : MarkerKind}
  {marker : Marker} {least : Nat} {rest : Regex} {spot next : Regex.Spot}

/-!
# Where the expression cuts a text
-/

/-- How a text is cut into the opening of a comment, a keyword, a content in one line and the end
of the comment, with white space between them. -/
inductive Layout (kind : MarkerKind) (content : List Char) : List Char -> Prop where
  | cut {before blanks left right after : List Char} (hbefore : AllBlank before)
      (hneBlanks : blanks ≠ []) (hblanks : AllBlank blanks) (hneLeft : left ≠ [])
      (hleft : AllBlank left) (hline : '\n' ∉ content) (hneRight : right ≠ [])
      (hright : AllBlank right) (hafter : AllBlank after) :
      Layout kind content (before ++ ("<!--".toList ++ (blanks ++ (kind.text.toList ++ ([':'] ++
        (left ++ (content ++ (right ++ ("-->".toList ++ after)))))))))

theorem isMiddle_of_parts (hneLeft : left ≠ []) (hleft : AllBlank left) (hline : '\n' ∉ content)
    (hneRight : right ≠ []) (hright : AllBlank right) :
    IsMiddle (left ++ (content ++ right)) := by
  rcases List.exists_cons_of_ne_nil hneLeft with ⟨c, others, rfl⟩
  rcases List.eq_nil_or_concat' right with rfl | ⟨others', d, rfl⟩
  · exact absurd rfl hneRight
  · constructor
    · simp only [List.length_append, List.length_cons]
      omega
    · exact hleft c List.mem_cons_self
    · rw [← List.append_assoc, ← List.append_assoc, List.getLast?_concat]
      exact hright d (List.mem_append_right _ List.mem_cons_self)
    · rw [Text.trimWhile_append hleft hright]
      rcases Text.exists_trimWhile Text.isBlank content with ⟨first, last, hcontent, _, _⟩
      intro hmem
      apply hline
      rw [hcontent]
      exact List.mem_append_right _ (List.mem_append_left _ hmem)

/-- White space on both sides of a middle part, beside a content in one line. -/
theorem IsMiddle.exists_parts (h : IsMiddle cs) :
    exists left content right, cs = left ++ (content ++ right) ∧ left ≠ [] ∧ AllBlank left ∧
      '\n' ∉ content ∧ right ≠ [] ∧ AllBlank right ∧
      Text.trimWhile Text.isBlank cs = Text.trimWhile Text.isBlank content := by
  rcases Text.exists_trimWhile Text.isBlank cs with ⟨left, right, hcs, hleft, hright⟩
  have htrimmed := Text.trimmed_trimWhile Text.isBlank cs
  have hline := h.oneLine
  have hhead := h.head
  have hlast := h.last
  have hlength := h.length_le
  generalize hcore : Text.trimWhile Text.isBlank cs = core at hcs htrimmed hline
  subst hcs
  cases core with
  | nil =>
      -- All of it is white space; its first character goes to the left.
      have hall : AllBlank (left ++ right) := List.forall_mem_append.mpr ⟨hleft, hright⟩
      rw [List.nil_append] at hlength ⊢
      generalize left ++ right = all at hall hlength ⊢
      match all, hlength with
      | c :: d :: others, _ =>
          refine ⟨[c], [], d :: others, rfl, List.cons_ne_nil _ _, ?_, List.not_mem_nil,
            List.cons_ne_nil _ _, fun e he => hall e (List.mem_cons_of_mem _ he), rfl⟩
          intro e he
          rw [List.mem_singleton.mp he]
          exact hall c List.mem_cons_self
  | cons c others =>
      refine ⟨left, c :: others, right, rfl, ?_, hleft, hline, ?_, hright,
        (Text.trimWhile_of_trimmed htrimmed).symm⟩
      · rintro rfl
        have hfalse := htrimmed.head c rfl
        rw [show Text.isBlank c = true from hhead] at hfalse
        cases hfalse
      · rintro rfl
        rw [List.append_nil, List.getLast?_append] at hlast
        cases hend : (c :: others).getLast? with
        | none =>
            cases List.getLast?_eq_none_iff.mp hend
        | some d =>
            rw [hend] at hlast
            have hfalse := htrimmed.last d hend
            rw [show Text.isBlank d = true from hlast] at hfalse
            cases hfalse

theorem trimmed_comment (text : List Char) :
    Text.Trimmed Text.isBlank ("<!--".toList ++ (text ++ "-->".toList)) := by
  constructor
  · intro c hc
    cases hc
    rfl
  · intro c hc
    rw [← List.append_assoc, List.getLast?_append] at hc
    cases hc
    rfl

theorem Layout.spells (h : Layout kind content cs) :
    Spells (Text.trimWhile Text.isBlank cs)
      ⟨kind, String.ofList (Text.trimWhile Text.isBlank content)⟩ := by
  cases h with
  | cut hbefore hneBlanks hblanks hneLeft hleft hline hneRight hright hafter =>
      rename_i before blanks left right after
      have hcore : "<!--".toList ++ (blanks ++ (kind.text.toList ++ ([':'] ++
          (left ++ (content ++ (right ++ ("-->".toList ++ after))))))) =
            "<!--".toList ++ (blanks ++ (kind.text.toList ++ ':' ::
              (left ++ (content ++ right))) ++ "-->".toList) ++ after := by
        simp
      rw [hcore, Text.trimWhile_append hbefore hafter,
        Text.trimWhile_of_trimmed (trimmed_comment _), ← Text.trimWhile_append hleft hright]
      have hspells := Spells.comment kind hneBlanks hblanks
        (isMiddle_of_parts hneLeft hleft hline hneRight hright)
      simpa using hspells

theorem Spells.exists_layout (h : Spells (Text.trimWhile Text.isBlank cs) marker) :
    exists content, Layout marker.kind content cs ∧
      marker.content = String.ofList (Text.trimWhile Text.isBlank content) := by
  rcases Text.exists_trimWhile Text.isBlank cs with ⟨before, after, hcs, hbefore, hafter⟩
  generalize Text.trimWhile Text.isBlank cs = core at h hcs
  cases h with
  | comment kind hne hblanks hmiddle =>
      rename_i blanks middle
      rcases hmiddle.exists_parts with
        ⟨left, content, right, rfl, hneLeft, hleft, hline, hneRight, hright, htrim⟩
      refine ⟨content, ?_, by rw [htrim]⟩
      have hlayout := @Layout.cut kind content before blanks left right after hbefore hne hblanks
        hneLeft hleft hline hneRight hright hafter
      rw [hcs]
      simpa using hlayout

/-!
# The expression
-/

/-- White space, and what follows it. -/
def blanksThen (least : Nat) (rest : Regex) : Regex :=
  .seq (.times (.char .space) least none true) rest

def keywordRegex : Regex :=
  .group 1 (.alt (Regex.word 'B' "EGIN".toList) (Regex.word 'E' "ND".toList))

def contentRegex : Regex := .group 2 (.times (.char (.not (.single '\n'))) 0 none false)

/-- The expression of markers but for the anchor before it. -/
def bodyRegex : Regex :=
  blanksThen 0 <| Regex.spelled "<!--".toList <| blanksThen 1 <| .seq keywordRegex <|
    Regex.spelled [':'] <| blanksThen 1 <| .seq contentRegex <| blanksThen 1 <|
      Regex.spelled "-->".toList <| blanksThen 0 <| .anchor .textEnd

/-- The expression of markers as it is written.  The letter case of the keyword matters. -/
def expression : String := "(?-i)^\\s*<!--\\s+(BEGIN|END):\\s+(.*?)\\s+-->\\s*$"

set_option maxRecDepth 10000 in
theorem read?_expression : Regex.read? expression = some (.seq (.anchor .textStart) bodyRegex) :=
  rfl

theorem takesEnd_blanksThen (hblanks : AllBlank blanks) (hleast : least ≤ blanks.length)
    (h : rest.TakesEnd text) : (blanksThen least rest).TakesEnd (blanks ++ text) := by
  have hspace : forall c, c ∈ blanks -> Regex.CharSet.space.has c = true := hblanks
  exact (Regex.takesText_repeat hspace hleast (by simp)).seq_end h

theorem takesText_keyword (kind : MarkerKind) : keywordRegex.TakesText kind.text.toList := by
  apply Regex.TakesText.group
  intro spot rest hspot
  cases kind with
  | begins =>
      rcases Regex.takesText_word 'B' "EGIN".toList spot rest hspot with ⟨next, hnext, hrest⟩
      exact ⟨next, .left hnext, hrest⟩
  | ends =>
      rcases Regex.takesText_word 'E' "ND".toList spot rest hspot with ⟨next, hnext, hrest⟩
      exact ⟨next, .right hnext, hrest⟩

theorem has_dot_iff {c : Char} :
    (Regex.CharSet.not (.single '\n')).has c = true ↔ c ≠ '\n' := by
  rw [Regex.CharSet.has, Bool.not_eq_true', Bool.eq_false_iff, ne_eq, Regex.has_single_iff]

theorem takesText_content (h : '\n' ∉ content) : contentRegex.TakesText content := by
  apply Regex.TakesText.group
  refine Regex.takesText_repeat ?_ (Nat.zero_le _) (by simp)
  intro c hc
  rw [has_dot_iff]
  rintro rfl
  exact h hc

theorem Layout.takesEnd (h : Layout kind content cs) : bodyRegex.TakesEnd cs := by
  cases h with
  | cut hbefore hneBlanks hblanks hneLeft hleft hline hneRight hright hafter =>
      have hend := takesEnd_blanksThen hafter (Nat.zero_le _) Regex.takesEnd_textEnd
      rw [List.append_nil] at hend
      have hclosed := takesEnd_blanksThen hright (List.length_pos_iff.mpr hneRight)
        (Regex.takesEnd_spelled hend "-->".toList)
      have hcontent := takesEnd_blanksThen hleft (List.length_pos_iff.mpr hneLeft)
        ((takesText_content hline).seq_end hclosed)
      have hkeyword := takesEnd_blanksThen hblanks (List.length_pos_iff.mpr hneBlanks)
        ((takesText_keyword kind).seq_end (Regex.takesEnd_spelled hcontent [':']))
      exact takesEnd_blanksThen hbefore (Nat.zero_le _)
        (Regex.takesEnd_spelled hkeyword "<!--".toList)

/-!
# What the groups keep
-/

theorem exists_of_takes_blanksThen (h : Regex.Takes (blanksThen least rest) spot next) :
    exists blanks middle, spot.rest = blanks ++ middle.rest ∧ AllBlank blanks ∧
      least ≤ blanks.length ∧ middle.groups = spot.groups ∧ Regex.Takes rest middle next := by
  cases h with
  | seq hblanks hrest =>
      rcases Regex.exists_of_takes_repeat hblanks with ⟨blanks, htook, hleast, _, hgroups⟩
      exact ⟨blanks, _, htook.rest_eq, htook.has, hleast, hgroups, hrest⟩

theorem exists_of_takes_keyword (h : Regex.Takes keywordRegex spot next) :
    exists kind : MarkerKind, spot.rest = kind.text.toList ++ next.rest ∧
      next.group? 1 = some kind.text.toList := by
  have hkind : exists kind : MarkerKind, spot.rest = kind.text.toList ++ next.rest := by
    cases h with
    | group hinside =>
        cases hinside with
        | left hword =>
            exact ⟨.begins, (Regex.rest_of_takes_word hword).1⟩
        | right hword =>
            exact ⟨.ends, (Regex.rest_of_takes_word hword).1⟩
  rcases hkind with ⟨kind, hrest⟩
  rcases Regex.exists_of_takes_group h hrest with ⟨last, _, _, rfl⟩
  exact ⟨kind, hrest, Regex.Spot.group?_keeping_self _ _ _⟩

theorem exists_of_takes_content (h : Regex.Takes contentRegex spot next) :
    exists content, spot.rest = content ++ next.rest ∧ '\n' ∉ content ∧
      next.group? 1 = spot.group? 1 ∧ next.group? 2 = some content := by
  rcases h.exists_taken with ⟨content, hrest, _⟩
  rcases Regex.exists_of_takes_group h hrest with ⟨last, hinside, hlast, rfl⟩
  rcases Regex.exists_of_takes_repeat hinside with ⟨taken, htook, _, _, hgroups⟩
  have hsame : taken = content :=
    List.append_cancel_right (htook.rest_eq.symm.trans (hlast ▸ hrest))
  refine ⟨content, hrest, ?_, ?_, Regex.Spot.group?_keeping_self _ _ _⟩
  · intro hmem
    rw [← hsame] at hmem
    exact has_dot_iff.mp (htook.has _ hmem) rfl
  · rw [Regex.Spot.group?_keeping_of_ne (by decide), Regex.Spot.group?, hgroups]
    rfl

theorem exists_layout_of_takes (h : Regex.Takes bodyRegex spot next) :
    exists kind content, Layout kind content spot.rest ∧ next.group? 1 = some kind.text.toList ∧
      next.group? 2 = some content := by
  rcases exists_of_takes_blanksThen h with ⟨before, opening, hspot, hbefore, _, _, h⟩
  rcases Regex.exists_of_takes_spelled h with ⟨opened, hopening, _, h⟩
  rcases exists_of_takes_blanksThen h with ⟨blanks, keyword, hopened, hblanks, hneBlanks, _, h⟩
  cases h with
  | seq hkeyword h =>
      rename_i colon
      rcases exists_of_takes_keyword hkeyword with ⟨kind, hkeyword, hkind⟩
      rcases Regex.exists_of_takes_spelled h with ⟨middle, hcolon, hgroupsColon, h⟩
      rcases exists_of_takes_blanksThen h with
        ⟨left, inside, hmiddle, hleft, hneLeft, hgroupsInside, h⟩
      cases h with
      | seq hcontent h =>
          rename_i closing
          rcases exists_of_takes_content hcontent with
            ⟨content, hinside, hline, hfirst, hsecond⟩
          rcases exists_of_takes_blanksThen h with
            ⟨right, closed, hclosing, hright, hneRight, hgroupsClosed, h⟩
          rcases Regex.exists_of_takes_spelled h with ⟨last, hclosed, hgroupsLast, h⟩
          rcases exists_of_takes_blanksThen h with ⟨after, stop, hlast, hafter, _, hgroupsStop, h⟩
          cases h with
          | anchor hholds =>
              have hstop : next.rest = [] := by
                simpa [Regex.Anchor.holds] using hholds
              have hgroups : next.groups = closing.groups :=
                hgroupsStop.trans (hgroupsLast.trans hgroupsClosed)
              refine ⟨kind, content, ?_, ?_, ?_⟩
              · rw [hspot, hopening, hopened, hkeyword, hcolon, hmiddle, hinside, hclosing,
                  hclosed, hlast, hstop, List.append_nil]
                exact .cut hbefore (List.length_pos_iff.mp hneBlanks) hblanks
                  (List.length_pos_iff.mp hneLeft) hleft hline (List.length_pos_iff.mp hneRight)
                  hright hafter
              · rw [Regex.Spot.group?, hgroups, ← Regex.Spot.group?, hfirst, Regex.Spot.group?,
                  hgroupsInside, hgroupsColon]
                exact hkind
              · rw [Regex.Spot.group?, hgroups]
                exact hsecond

/-!
# Reading markers by the expression
-/

/-- The marker that the groups of a match tell. -/
def ofGroups? (groups : List (Nat × String)) : Option Marker :=
  (groups.lookup 1).map fun word =>
    let content := ((groups.lookup 2).map String.toList).getD []
    ⟨if word = "BEGIN" then .begins else .ends,
      String.ofList (Text.trimWhile Text.isBlank content)⟩

theorem ofGroups?_eq {groups : List (Nat × String)} (hkind : groups.lookup 1 = some kind.text)
    (hcontent : groups.lookup 2 = some (String.ofList content)) :
    ofGroups? groups =
      some ⟨kind, String.ofList (Text.trimWhile Text.isBlank content)⟩ := by
  rw [ofGroups?, hkind, hcontent]
  cases kind <;> simp [MarkerKind.text]

/-- A text is the marker that the groups tell, whichever match the expression prefers. -/
theorem parse?_eq_search (text : String) :
    parse? text = ((Regex.seq (.anchor .textStart) bodyRegex).search? text).bind ofGroups? := by
  cases hsearch : (Regex.seq (.anchor .textStart) bodyRegex).search? text with
  | none =>
      rw [Option.bind_none, Option.eq_none_iff_forall_ne_some]
      intro marker hmarker
      rcases (parse?_eq_some_iff.mp hmarker).exists_layout with ⟨content, hlayout, _⟩
      rcases hlayout.takesEnd (.ofText text.toList) rfl with ⟨next, hnext⟩
      have hfound := Regex.isSome_search_of_takes hnext
      rw [hsearch] at hfound
      cases hfound
  | some groups =>
      rcases Regex.exists_of_search_anchored hsearch with ⟨next, hnext, hgroups⟩
      rcases exists_layout_of_takes (Regex.takes_of_mem_run hnext) with
        ⟨kind, content, hlayout, hkind, hcontent⟩
      have hfirst : groups.lookup 1 = some kind.text := by
        rw [hgroups, hkind, Option.map_some, String.ofList_toList]
      have hsecond : groups.lookup 2 = some (String.ofList content) := by
        rw [hgroups, hcontent, Option.map_some]
      rw [Option.bind_some, ofGroups?_eq hfirst hsecond]
      exact parse?_eq_some_iff.mpr hlayout.spells

end Marker
end Docloom
