import Docloom.Json.Reader
import Docloom.Json.Writer
import Mathlib.Tactic.SplitIfs

/-!
# Reading what was written

A value without numbers that is written with an item or a member on each line is read back as it
was.  The reader goes along the text of the value and stops where the text stops, so the text of
a value can stand inside the text of another one.
-/

namespace Docloom
namespace Json

/-!
# Space
-/

theorem skipSpace_cons {c : Char} (h : isSpace c = false) (cs : List Char) :
    skipSpace (c :: cs) = c :: cs := by
  rw [skipSpace, List.dropWhile_cons_of_neg (by simp [h])]

/-- A line ending and the indentation after it are space. -/
theorem skipSpace_newLine (depth : Nat) (cs : List Char) :
    skipSpace ((newLine depth).toList ++ cs) = skipSpace cs := by
  have hspace : forall c, c ∈ (newLine depth).toList -> isSpace c = true := by
    intro c hc
    simp only [newLine, String.toList_append, String.toList_ofList, List.mem_append] at hc
    rcases hc with hbreak | hindent
    · rw [List.mem_singleton.mp hbreak]
      rfl
    · rw [(List.mem_replicate.mp hindent).2]
      rfl
  rw [skipSpace, List.dropWhile_append_of_pos hspace]
  rfl

/-!
# Texts
-/

theorem readHex_escape {n : Nat} (h : n < 32) (rest : List Char) :
    readHex ('0' :: '0' :: hexDigit (n / 16) :: hexDigit (n % 16) :: rest) = some (n, rest) := by
  have hdigits : forall n, n < 32 ->
      Text.hexNumber? ['0', '0', hexDigit (n / 16), hexDigit (n % 16)] = some n := by
    decide
  rw [readHex, if_neg (by simp)]
  simp [hdigits n h]

/-- An escape stands for the character that it was made of. -/
theorem readEscape_unicode {c : Char} (h : c.toNat < 32) (rest : List Char) :
    readEscape ('u' :: '0' :: '0' :: hexDigit (c.toNat / 16) :: hexDigit (c.toNat % 16) :: rest) =
      some (c, rest) := by
  have hlow : ¬ (0xD800 ≤ c.toNat ∧ c.toNat < 0xDC00) := by
    omega
  have hhigh : ¬ (0xDC00 ≤ c.toNat ∧ c.toNat < 0xE000) := by
    omega
  rw [readEscape, readUnicode, readHex_escape h]
  simp [hlow, hhigh]

theorem readText_escape {c : Char} {escape rest : List Char} {fuel : Nat} {read : List Char}
    (h : readEscape escape = some (c, rest)) :
    readText (fuel + 1) read ('\\' :: escape) = readText fuel (c :: read) rest := by
  rw [readText]
  simp [h]

theorem readText_plain {c : Char} (hquote : c ≠ '"') (hslash : c ≠ '\\') (h : ¬ c.toNat < 32)
    (fuel : Nat) (read rest : List Char) :
    readText (fuel + 1) read (c :: rest) = readText fuel (c :: read) rest := by
  rw [readText]
  · rw [if_neg h]
  · exact hquote
  · exact hslash

/-- A character is read in one step, whether it is escaped or not. -/
theorem readText_escapeChar (c : Char) (fuel : Nat) (read rest : List Char) :
    readText (fuel + 1) read (escapeChar c ++ rest) = readText fuel (c :: read) rest := by
  unfold escapeChar
  split_ifs with hquote hslash hbreak hreturn htab hback hfeed hlow
  · rw [eq_of_beq hquote]
    exact readText_escape rfl
  · rw [eq_of_beq hslash]
    exact readText_escape rfl
  · rw [eq_of_beq hbreak]
    exact readText_escape rfl
  · rw [eq_of_beq hreturn]
    exact readText_escape rfl
  · rw [eq_of_beq htab]
    exact readText_escape rfl
  · rw [eq_of_beq hback]
    exact readText_escape rfl
  · rw [eq_of_beq hfeed]
    exact readText_escape rfl
  · exact readText_escape (readEscape_unicode hlow rest)
  · exact readText_plain (by simpa using hquote) (by simpa using hslash) hlow fuel read rest

theorem readText_escaped (cs : List Char) {fuel : Nat} (read rest : List Char)
    (hfuel : cs.length < fuel) :
    readText fuel read (cs.flatMap escapeChar ++ '"' :: rest) =
      some (String.ofList (read.reverse ++ cs), rest) := by
  induction cs generalizing fuel read with
  | nil =>
      rcases Nat.exists_eq_add_of_lt hfuel with ⟨more, rfl⟩
      simp [readText]
  | cons c cs ih =>
      cases fuel with
      | zero =>
          simp at hfuel
      | succ fuel =>
          rw [List.flatMap_cons, List.append_assoc, readText_escapeChar,
            ih (c :: read) (Nat.lt_of_succ_lt_succ hfuel)]
          simp

theorem escapeChar_ne_nil (c : Char) : escapeChar c ≠ [] := by
  unfold escapeChar
  split_ifs
  all_goals
    simp

theorem length_le_flatMap_escapeChar (cs : List Char) :
    cs.length ≤ (cs.flatMap escapeChar).length := by
  induction cs with
  | nil =>
      exact Nat.le_refl _
  | cons c cs ih =>
      have hone : 0 < (escapeChar c).length := List.length_pos_iff.mpr (escapeChar_ne_nil c)
      rw [List.flatMap_cons, List.length_append, List.length_cons]
      omega

/-- The text of a text: a quote, and what is read up to the next quote. -/
theorem readText_quoted (text : String) (rest : List Char) :
    exists after, (quoted text).toList ++ rest = '"' :: after ∧
      readText (after.length + 1) [] after = some (text, rest) := by
  refine ⟨text.toList.flatMap escapeChar ++ '"' :: rest, ?_, ?_⟩
  · rw [quoted, String.toList_ofList]
    simp
  · rw [readText_escaped text.toList [] rest]
    · simp
    · have hlength := length_le_flatMap_escapeChar text.toList
      rw [List.length_append, List.length_cons]
      omega

/-!
# Values
-/

/-- Values without numbers. -/
inductive Plain : Json -> Prop where
  | null : Plain .null
  | bool (value : Bool) : Plain (.bool value)
  | string (value : String) : Plain (.string value)
  | array {items : List Json} (h : forall item, item ∈ items -> Plain item) :
      Plain (.array items)
  | object {members : List (String × Json)}
      (h : forall member, member ∈ members -> Plain member.2) : Plain (.object members)

theorem pretty_start {json : Json} (h : Plain json) (depth : Nat) :
    exists c cs, (json.pretty depth).toList = c :: cs ∧ isSpace c = false ∧ c ≠ ']' := by
  cases h with
  | null =>
      rw [pretty]
      exact ⟨'n', _, rfl, rfl, by decide⟩
  | bool value =>
      cases value with
      | false =>
          rw [pretty]
          exact ⟨'f', _, rfl, rfl, by decide⟩
      | true =>
          rw [pretty]
          exact ⟨'t', _, rfl, rfl, by decide⟩
  | string value =>
      rw [pretty, quoted, String.toList_ofList]
      exact ⟨'"', _, rfl, rfl, by decide⟩
  | @array items h =>
      cases items with
      | nil =>
          rw [pretty]
          exact ⟨'[', _, rfl, rfl, by decide⟩
      | cons item items =>
          simp only [pretty, String.toList_append, List.append_assoc]
          exact ⟨'[', _, rfl, rfl, by decide⟩
  | @object members h =>
      cases members with
      | nil =>
          rw [pretty]
          exact ⟨'\x7b', _, rfl, rfl, by decide⟩
      | cons member members =>
          simp only [pretty, String.toList_append, List.append_assoc]
          exact ⟨'\x7b', _, rfl, rfl, by decide⟩

/-- Space before the text of a value is all that is skipped. -/
theorem skipSpace_pretty {json : Json} (h : Plain json) (depth : Nat) (rest : List Char) :
    skipSpace ((json.pretty depth).toList ++ rest) = (json.pretty depth).toList ++ rest := by
  rcases pretty_start h depth with ⟨c, cs, hstart, hspace, _⟩
  rw [hstart, List.cons_append, skipSpace_cons hspace]

/-- Whether the text of a value is read as the value, with enough fuel for the text. -/
def Reads (json : Json) : Prop :=
  forall depth fuel cs rest, skipSpace cs = (json.pretty depth).toList ++ rest ->
    2 * (json.pretty depth).toList.length ≤ fuel -> readValue fuel cs = some (json, rest)

/-- The items of an array are read one after another, if each is read as itself. -/
theorem readItems_pretty {item : Json} {items : List Json}
    (hplain : forall other, other ∈ item :: items -> Plain other)
    (hreads : forall other, other ∈ item :: items -> Reads other) (inner outer : Nat)
    {fuel : Nat} {cs rest : List Char}
    (hcs : skipSpace cs = (item.pretty inner).toList ++ ((prettyItems inner items).toList ++
      ((newLine outer).toList ++ ']' :: rest)))
    (hfuel : 2 * ((item.pretty inner).toList.length + (prettyItems inner items).toList.length) <
      fuel) :
    readItems fuel cs = some (item :: items, rest) := by
  induction items generalizing item fuel cs with
  | nil =>
      cases fuel with
      | zero =>
          omega
      | succ fuel =>
          have hitem := hreads item List.mem_cons_self inner fuel cs _ hcs (by omega)
          rw [readItems, hitem]
          dsimp only
          rw [prettyItems, String.toList_empty, List.nil_append, skipSpace_newLine,
            skipSpace_cons (by rfl)]
          rfl
  | cons second items ih =>
      cases fuel with
      | zero =>
          omega
      | succ fuel =>
          have hitem := hreads item List.mem_cons_self inner fuel cs _ hcs (by omega)
          have hplain' : forall other, other ∈ second :: items -> Plain other :=
            fun other hother => hplain other (List.mem_cons_of_mem _ hother)
          have hreads' : forall other, other ∈ second :: items -> Reads other :=
            fun other hother => hreads other (List.mem_cons_of_mem _ hother)
          have hcomma : (prettyItems inner (second :: items)).toList =
              ',' :: ((newLine inner).toList ++ ((second.pretty inner).toList ++
                (prettyItems inner items).toList)) := by
            simp only [prettyItems, String.toList_append, List.append_assoc]
            rfl
          rw [hcomma, List.length_cons, List.length_append, List.length_append] at hfuel
          rw [readItems, hitem, hcomma]
          dsimp only
          rw [List.cons_append, skipSpace_cons (by rfl)]
          show (readItems fuel _).map _ = _
          rw [ih hplain' hreads' _ (by omega)]
          · rfl
          · rw [List.append_assoc, skipSpace_newLine, List.append_assoc,
              skipSpace_pretty (hplain' second List.mem_cons_self)]

/-- A member is its name, a colon, and its value. -/
theorem readMembers_member {name : String} {value : Json} (hplain : Plain value)
    (hreads : Reads value) (depth : Nat) {fuel : Nat} {cs rest : List Char}
    (hcs : skipSpace cs = (quoted name).toList ++ (": ".toList ++
      ((value.pretty depth).toList ++ rest)))
    (hfuel : 2 * (value.pretty depth).toList.length ≤ fuel) :
    readMembers (fuel + 1) cs =
      match skipSpace rest with
      | '\x7d' :: rest => some ([(name, value)], rest)
      | ',' :: rest =>
          (readMembers fuel rest).map fun (members, rest) => ((name, value) :: members, rest)
      | _ => none := by
  have hcolon : (": ".toList : List Char) = [':', ' '] := rfl
  rcases readText_quoted name (": ".toList ++ ((value.pretty depth).toList ++ rest)) with
    ⟨after, hquoted, hname⟩
  have hvalue : readValue fuel (' ' :: ((value.pretty depth).toList ++ rest)) =
      some (value, rest) :=
    hreads depth fuel _ rest (skipSpace_pretty hplain depth rest) hfuel
  rw [readMembers, hcs, hquoted]
  simp only [hname, hcolon, List.cons_append, List.nil_append]
  rw [skipSpace_cons (by rfl)]
  simp only [hvalue]
  -- The two sides may already be the same match.
  all_goals rfl

/-- The members of an object are read one after another, if each value is read as itself. -/
theorem readMembers_pretty {name : String} {value : Json} {members : List (String × Json)}
    (hplain : forall other, other ∈ (name, value) :: members -> Plain other.2)
    (hreads : forall other, other ∈ (name, value) :: members -> Reads other.2) (inner outer : Nat)
    {fuel : Nat} {cs rest : List Char}
    (hcs : skipSpace cs = (quoted name).toList ++ (": ".toList ++ ((value.pretty inner).toList ++
      ((prettyMembers inner members).toList ++ ((newLine outer).toList ++ '\x7d' :: rest)))))
    (hfuel : 2 * ((value.pretty inner).toList.length +
      (prettyMembers inner members).toList.length) < fuel) :
    readMembers fuel cs = some ((name, value) :: members, rest) := by
  induction members generalizing name value fuel cs with
  | nil =>
      have hvalue : Plain value := hplain (name, value) List.mem_cons_self
      have hread : Reads value := hreads (name, value) List.mem_cons_self
      cases fuel with
      | zero =>
          omega
      | succ fuel =>
          rw [readMembers_member hvalue hread inner hcs (by omega), prettyMembers,
            String.toList_empty, List.nil_append, skipSpace_newLine, skipSpace_cons (by rfl)]
          rfl
  | cons second members ih =>
      cases fuel with
      | zero =>
          omega
      | succ fuel =>
          rcases second with ⟨other, json⟩
          have hvalue : Plain value := hplain (name, value) List.mem_cons_self
          have hread : Reads value := hreads (name, value) List.mem_cons_self
          have hplain' : forall member, member ∈ (other, json) :: members -> Plain member.2 :=
            fun member hmember => hplain member (List.mem_cons_of_mem _ hmember)
          have hreads' : forall member, member ∈ (other, json) :: members -> Reads member.2 :=
            fun member hmember => hreads member (List.mem_cons_of_mem _ hmember)
          have hcomma : (prettyMembers inner ((other, json) :: members)).toList =
              ',' :: ((newLine inner).toList ++ ((quoted other).toList ++ (": ".toList ++
                ((json.pretty inner).toList ++ (prettyMembers inner members).toList)))) := by
            simp only [prettyMembers, String.toList_append, List.append_assoc]
            rfl
          rw [hcomma, List.length_cons] at hfuel
          simp only [List.length_append] at hfuel
          rw [readMembers_member hvalue hread inner hcs (by omega), hcomma, List.cons_append,
            skipSpace_cons (by rfl)]
          show (readMembers fuel _).map _ = _
          rw [ih hplain' hreads' _ (by omega)]
          · rfl
          · rcases readText_quoted other [] with ⟨after, hquoted, _⟩
            rw [List.append_nil] at hquoted
            simp only [List.append_assoc]
            rw [skipSpace_newLine, hquoted, List.cons_append, skipSpace_cons (by rfl)]

/-- The text of a value is not empty, so some fuel is left for it. -/
theorem pretty_length_pos {json : Json} (h : Plain json) (depth : Nat) :
    0 < (json.pretty depth).toList.length := by
  rcases pretty_start h depth with ⟨c, cs, hstart, _, _⟩
  rw [hstart, List.length_cons]
  exact Nat.succ_pos _

theorem reads_of_succ {json : Json} (h : Plain json)
    (hword : forall fuel depth cs rest, skipSpace cs = (json.pretty depth).toList ++ rest ->
      2 * (json.pretty depth).toList.length ≤ fuel + 1 ->
        readValue (fuel + 1) cs = some (json, rest)) : Reads json := by
  intro depth fuel cs rest hcs hfuel
  have hpos := pretty_length_pos h depth
  cases fuel with
  | zero =>
      omega
  | succ fuel =>
      exact hword fuel depth cs rest hcs hfuel

theorem readWord_append (word : String) (json : Json) (rest : List Char) :
    readWord word json (word.toList ++ rest) = some (json, rest) := by
  rw [readWord, if_pos (List.isPrefixOf_iff_prefix.mpr (List.prefix_append _ _)),
    List.drop_left]

theorem readValue_array {fuel : Nat} {c : Char} {cs rest more : List Char}
    (hcs : skipSpace cs = '[' :: rest) (hrest : skipSpace rest = c :: more) (hc : c ≠ ']') :
    readValue (fuel + 1) cs =
      (readItems fuel (c :: more)).map fun (items, rest) => (.array items, rest) := by
  rw [readValue, hcs]
  simp only [hrest]
  split
  · rename_i heq
    exact absurd (List.cons.inj heq).1 hc
  · rfl

theorem readValue_object {fuel : Nat} {c : Char} {cs rest more : List Char}
    (hcs : skipSpace cs = '\x7b' :: rest) (hrest : skipSpace rest = c :: more) (hc : c ≠ '\x7d') :
    readValue (fuel + 1) cs =
      (readMembers fuel (c :: more)).map fun (members, rest) => (.object members, rest) := by
  rw [readValue, hcs]
  simp only [hrest]
  split
  · rename_i heq
    exact absurd (List.cons.inj heq).1 hc
  · rfl

/-- The text of a value is read as the value. -/
theorem reads_of_plain {json : Json} (h : Plain json) : Reads json := by
  induction h with
  | null =>
      apply reads_of_succ .null
      intro fuel depth cs rest hcs _
      rw [pretty] at hcs
      rw [readValue, hcs]
      exact readWord_append "ull" .null rest
  | bool value =>
      apply reads_of_succ (.bool value)
      intro fuel depth cs rest hcs _
      cases value with
      | false =>
          rw [pretty] at hcs
          rw [readValue, hcs]
          exact readWord_append "alse" (.bool false) rest
      | true =>
          rw [pretty] at hcs
          rw [readValue, hcs]
          exact readWord_append "rue" (.bool true) rest
  | string value =>
      apply reads_of_succ (.string value)
      intro fuel depth cs rest hcs _
      rw [pretty] at hcs
      rcases readText_quoted value rest with ⟨after, hquoted, htext⟩
      rw [hquoted] at hcs
      rw [readValue, hcs]
      simp only [htext]
      rfl
  | @array items hplain ih =>
      apply reads_of_succ (.array hplain)
      intro fuel depth cs rest hcs hfuel
      cases items with
      | nil =>
          rw [pretty] at hcs
          rw [readValue, hcs]
          rfl
      | cons item items =>
          have htext : (pretty depth (.array (item :: items))).toList =
              '[' :: ((newLine (depth + 1)).toList ++ ((item.pretty (depth + 1)).toList ++
                ((prettyItems (depth + 1) items).toList ++ ((newLine depth).toList ++ [']'])))) := by
            simp only [pretty, String.toList_append, List.append_assoc]
            rfl
          rw [htext, List.length_cons] at hfuel
          rw [htext] at hcs
          simp only [List.length_append] at hfuel
          simp only [List.cons_append, List.append_assoc, List.nil_append] at hcs
          have hitem := hplain item List.mem_cons_self
          rcases pretty_start hitem (depth + 1) with ⟨c, more, hpretty, hspace, hc⟩
          have hitems : readItems fuel ((item.pretty (depth + 1)).toList ++
              ((prettyItems (depth + 1) items).toList ++
                ((newLine depth).toList ++ ']' :: rest))) = some (item :: items, rest) :=
            readItems_pretty hplain ih (depth + 1) depth
              (skipSpace_pretty hitem (depth + 1) _) (by omega)
          rw [hpretty, List.cons_append] at hcs hitems
          rw [readValue_array hcs (by rw [skipSpace_newLine, skipSpace_cons hspace]) hc, hitems]
          rfl
  | @object members hplain ih =>
      apply reads_of_succ (.object hplain)
      intro fuel depth cs rest hcs hfuel
      cases members with
      | nil =>
          rw [pretty] at hcs
          rw [readValue, hcs]
          rfl
      | cons member members =>
          rcases member with ⟨name, value⟩
          have htext : (pretty depth (.object ((name, value) :: members))).toList =
              '\x7b' :: ((newLine (depth + 1)).toList ++ ((quoted name).toList ++ (": ".toList ++
                ((value.pretty (depth + 1)).toList ++ ((prettyMembers (depth + 1) members).toList ++
                  ((newLine depth).toList ++ ['\x7d'])))))) := by
            simp only [pretty, String.toList_append, List.append_assoc]
            rfl
          rw [htext, List.length_cons] at hfuel
          rw [htext] at hcs
          simp only [List.length_append] at hfuel
          simp only [List.cons_append, List.append_assoc, List.nil_append] at hcs
          rcases readText_quoted name (": ".toList ++ ((value.pretty (depth + 1)).toList ++
            ((prettyMembers (depth + 1) members).toList ++
              ((newLine depth).toList ++ '\x7d' :: rest)))) with ⟨after, hquoted, _⟩
          have hmembers : readMembers fuel ('"' :: after) =
              some ((name, value) :: members, rest) := by
            apply readMembers_pretty hplain ih (depth + 1) depth
            · rw [skipSpace_cons (by rfl), hquoted]
            · omega
          rw [hquoted] at hcs
          rw [readValue_object hcs (by rw [skipSpace_newLine, skipSpace_cons (by rfl)])
            (by decide), hmembers]
          rfl

/-- A value that is written is read back, whatever space comes after it. -/
theorem parse_pretty {json : Json} (h : Plain json) (depth : Nat) {space : String}
    (hspace : skipSpace space.toList = []) : parse (json.pretty depth ++ space) = some json := by
  have hread := reads_of_plain h depth (2 * (json.pretty depth ++ space).toList.length + 2)
    (json.pretty depth ++ space).toList space.toList
  rw [String.toList_append] at hread
  rw [parse, String.toList_append, hread (skipSpace_pretty h depth _)]
  · simp [hspace]
  · rw [List.length_append]
    omega

end Json
end Docloom
