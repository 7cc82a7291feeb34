import Docloom.Proofs.File.Pieces
import Docloom.Proofs.Link.Place
import Docloom.Proofs.Lists
import Docloom.Proofs.Version.Names

/-!
# Links that are rewritten again

A url with a version is left alone only when the name of the version is one of those that are
recognised in urls.  The directories of a product may have other names, and then a second version
is put before the first.
-/

namespace Docloom

namespace Text

variable {p : Char -> Bool} {cs ds first last : List Char} {before after : List (List Char)}

/-- The last piece of one text and the first piece of the next one are one piece. -/
theorem splitChars_append (hcs : splitChars p cs = before ++ [last])
    (hds : splitChars p ds = first :: after) :
    splitChars p (cs ++ ds) = before ++ (last ++ first) :: after := by
  induction cs generalizing before last with
  | nil =>
      rw [splitChars_nil] at hcs
      rcases List.append_eq_singleton_iff.mp hcs.symm with ⟨rfl, hlast⟩ | ⟨_, hlast⟩
      · cases hlast
        exact hds
      · cases hlast
  | cons c rest ih =>
      rw [splitChars] at hcs
      rw [List.cons_append, splitChars]
      by_cases hc : p c = true
      · rw [if_pos hc] at hcs
        rw [if_pos hc]
        cases before with
        | nil =>
            exact absurd (List.tail_eq_of_cons_eq hcs) (splitChars_ne_nil p rest)
        | cons piece before =>
            cases List.head_eq_of_cons_eq hcs
            rw [ih (List.tail_eq_of_cons_eq hcs), List.cons_append]
      · rw [if_neg hc] at hcs
        rw [if_neg hc]
        cases hrest : splitChars p rest with
        | nil =>
            exact absurd hrest (splitChars_ne_nil p rest)
        | cons piece pieces =>
            rw [hrest] at hcs
            cases before with
            | nil =>
                cases hcs
                have hpiece : splitChars p rest = [] ++ [piece] := hrest
                rw [ih hpiece]
                rfl
            | cons other before =>
                cases hcs
                have hpieces : splitChars p rest = (piece :: before) ++ [last] := hrest
                rw [ih hpieces]
                rfl

end Text

namespace LinkVersioner

variable {cs rest : List Char} {c : Char}

/-!
# Names that are recognised

Such a name starts with two numbers and the start of a word, or with the date of a release.
-/

/-- Whether a segment is recognised as a version: `v1.21.x`, `1.21.0` and `v202410-1` are, and
`v2.x` and `v1.21` are not. -/
inductive NamesVersion : List Char -> Prop where
  | dotted (sign major minor : List Char) (first : Char) (rest : List Char)
      (sign_eq : sign = [] ∨ sign = ['v'] ∨ sign = ['V'])
      (major_ne : major ≠ []) (major_decimal : forall c, c ∈ major -> Text.isDecimal c = true)
      (minor_ne : minor ≠ []) (minor_decimal : forall c, c ∈ minor -> Text.isDecimal c = true)
      (first_word : Text.isWord first = true) :
      NamesVersion (sign ++ (major ++ '.' :: (minor ++ '.' :: first :: rest)))
  | dated (sign : Char) (date : List Char) (first : Char) (rest : List Char)
      (sign_eq : sign = 'v' ∨ sign = 'V') (date_length : date.length = 6)
      (date_digits : forall c, c ∈ date -> c.isDigit = true)
      (first_decimal : Text.isDecimal first = true) :
      NamesVersion (sign :: (date ++ '-' :: first :: rest))

theorem afterDigits?_eq_some_dot_iff :
    afterDigits? cs = some ('.' :: rest) ↔
      exists digits, cs = digits ++ '.' :: rest ∧ digits ≠ [] ∧
        forall c, c ∈ digits -> Text.isDecimal c = true := by
  constructor
  · intro h
    cases cs with
    | nil =>
        cases h
    | cons c tail =>
        rw [afterDigits?] at h
        split at h
        · rename_i hc
          have hdrop := Option.some.inj h
          refine ⟨c :: tail.takeWhile Text.isDecimal, ?_, by simp, ?_⟩
          · rw [List.cons_append, ← hdrop, List.takeWhile_append_dropWhile]
          · intro d hd
            rcases List.mem_cons.mp hd with rfl | hd
            · exact hc
            · exact List.all_eq_true.mp List.all_takeWhile d hd
        · cases h
  · rintro ⟨digits, rfl, hne, hdecimal⟩
    cases digits with
    | nil =>
        exact absurd rfl hne
    | cons c digits =>
        rw [List.cons_append, afterDigits?, if_pos (hdecimal c List.mem_cons_self),
          List.dropWhile_append_of_pos fun d hd => hdecimal d (List.mem_cons_of_mem _ hd),
          List.dropWhile_cons_of_neg]
        rw [Text.isDecimal_dot]
        exact Bool.false_ne_true

theorem startsDottedVersion_iff :
    startsDottedVersion cs = true ↔
      exists major minor first rest, cs = major ++ '.' :: (minor ++ '.' :: first :: rest) ∧
        (major ≠ [] ∧ forall c, c ∈ major -> Text.isDecimal c = true) ∧
        (minor ≠ [] ∧ forall c, c ∈ minor -> Text.isDecimal c = true) ∧
        Text.isWord first = true := by
  constructor
  · intro h
    unfold startsDottedVersion at h
    split at h
    · rename_i tail hmajor
      split at h
      · rename_i first rest hminor
        rcases afterDigits?_eq_some_dot_iff.mp hmajor with ⟨major, rfl, hne, hdecimal⟩
        rcases afterDigits?_eq_some_dot_iff.mp hminor with ⟨minor, rfl, hne', hdecimal'⟩
        exact ⟨major, minor, first, rest, rfl, ⟨hne, hdecimal⟩, ⟨hne', hdecimal'⟩, h⟩
      · cases h
    · cases h
  · rintro ⟨major, minor, first, rest, rfl, hmajor, hminor, hfirst⟩
    have hfirstDot := afterDigits?_eq_some_dot_iff.mpr
      ⟨major, (rfl : _ = major ++ '.' :: (minor ++ '.' :: first :: rest)), hmajor⟩
    have hsecondDot := afterDigits?_eq_some_dot_iff.mpr
      ⟨minor, (rfl : _ = minor ++ '.' :: first :: rest), hminor⟩
    simp only [startsDottedVersion, hfirstDot, hsecondDot, hfirst]

theorem isVersionSegment_iff : isVersionSegment cs = true ↔ NamesVersion cs := by
  rw [isVersionSegment.eq_def, Bool.or_eq_true, Bool.or_eq_true]
  constructor
  · rintro ((hdated | hdotted) | hsigned)
    · rcases VersionName.startsDated_iff.mp hdated with
        ⟨sign, date, first, rest, rfl, hsign, hlength, hdigits, hfirst⟩
      exact .dated sign date first rest hsign hlength hdigits hfirst
    · rcases startsDottedVersion_iff.mp hdotted with
        ⟨major, minor, first, rest, rfl, hmajor, hminor, hfirst⟩
      exact .dotted [] major minor first rest (Or.inl rfl) hmajor.1 hmajor.2 hminor.1 hminor.2
        hfirst
    · cases cs with
      | nil =>
          cases hsigned
      | cons sign tail =>
          simp only [Bool.and_eq_true, Bool.or_eq_true, beq_iff_eq] at hsigned
          rcases hsigned with ⟨hsign, hdotted⟩
          rcases startsDottedVersion_iff.mp hdotted with
            ⟨major, minor, first, rest, rfl, hmajor, hminor, hfirst⟩
          refine .dotted [sign] major minor first rest (Or.inr ?_) hmajor.1 hmajor.2 hminor.1
            hminor.2 hfirst
          simpa using hsign
  · intro h
    cases h with
    | dotted sign major minor first rest hsign hmajor hmajor' hminor hminor' hfirst =>
        have hdotted := startsDottedVersion_iff.mpr
          ⟨major, minor, first, rest, rfl, ⟨hmajor, hmajor'⟩, ⟨hminor, hminor'⟩, hfirst⟩
        rcases hsign with rfl | rfl | rfl
        · exact Or.inl (Or.inr hdotted)
        · exact Or.inr hdotted
        · exact Or.inr hdotted
    | dated sign date first rest hsign hlength hdigits hfirst =>
        exact Or.inl (Or.inl (VersionName.startsDated_iff.mpr
          ⟨sign, date, first, rest, rfl, hsign, hlength, hdigits, hfirst⟩))

/-!
# Segments before a query
-/

namespace NamesVersion

theorem append (h : NamesVersion cs) (rest : List Char) : NamesVersion (cs ++ rest) := by
  cases h with
  | dotted sign major minor first tail hsign hmajor hmajor' hminor hminor' hfirst =>
      have hnames := NamesVersion.dotted sign major minor first (tail ++ rest) hsign hmajor hmajor'
        hminor hminor' hfirst
      simpa using hnames
  | dated sign date first tail hsign hlength hdigits hfirst =>
      have hnames := NamesVersion.dated sign date first (tail ++ rest) hsign hlength hdigits hfirst
      simpa using hnames

theorem of_append (h : NamesVersion (cs ++ c :: rest)) (hc : c = '?' ∨ c = '#') :
    NamesVersion cs := by
  have hdecimal : Text.isDecimal c = false := by
    rcases hc with rfl | rfl <;> decide
  have hword : Text.isWord c = false := by
    rcases hc with rfl | rfl <;> decide
  have hother : c ≠ '.' ∧ c ≠ '-' ∧ c ≠ 'v' ∧ c ≠ 'V' := by
    rcases hc with rfl | rfl <;> decide
  rcases hother with ⟨hdot, hhyphen, hsmall, hlarge⟩
  have hnot : forall {p : Char -> Bool} {ds : List Char}, p c = false ->
      (forall d, d ∈ ds -> p d = true) -> c ∉ ds := by
    intro p ds hp hds hmem
    rw [hds c hmem] at hp
    cases hp
  generalize htext : cs ++ c :: rest = text at h
  cases h with
  | dotted sign major minor first tail hsign hmajor hmajor' hminor hminor' hfirst =>
      have hneeded : cs ++ c :: rest =
          (sign ++ (major ++ '.' :: (minor ++ ['.', first]))) ++ tail := by
        simpa using htext
      have hmem : c ∉ sign ++ (major ++ '.' :: (minor ++ ['.', first])) := by
        have hsign' : c ∉ sign := by
          rcases hsign with rfl | rfl | rfl <;> simp [hsmall, hlarge]
        have hfirst' : c ≠ first := by
          rintro rfl
          rw [hfirst] at hword
          cases hword
        simp [hsign', hnot hdecimal hmajor', hnot hdecimal hminor', hdot, hfirst']
      rcases Lists.exists_append_of_not_mem hneeded hmem with ⟨tail', rfl⟩
      have hnames := NamesVersion.dotted sign major minor first tail' hsign hmajor hmajor'
        hminor hminor' hfirst
      simpa using hnames
  | dated sign date first tail hsign hlength hdigits hfirst =>
      have hneeded : cs ++ c :: rest = (sign :: (date ++ ['-', first])) ++ tail := by
        simpa using htext
      have hmem : c ∉ sign :: (date ++ ['-', first]) := by
        have hsign' : c ≠ sign := by
          rcases hsign with rfl | rfl
          · exact hsmall
          · exact hlarge
        have hfirst' : c ≠ first := by
          rintro rfl
          rw [hfirst] at hdecimal
          cases hdecimal
        have hdate := hnot hdecimal fun d hd => Text.isDecimal_of_isDigit (hdigits d hd)
        simp [hsign', hdate, hhyphen, hfirst']
      rcases Lists.exists_append_of_not_mem hneeded hmem with ⟨tail', rfl⟩
      have hnames := NamesVersion.dated sign date first tail' hsign hlength hdigits hfirst
      simpa using hnames

end NamesVersion

theorem isVersionSegment_append (hc : c = '?' ∨ c = '#') :
    isVersionSegment (cs ++ c :: rest) = isVersionSegment cs := by
  rw [Bool.eq_iff_iff, isVersionSegment_iff, isVersionSegment_iff]
  exact ⟨fun h => h.of_append hc, fun h => h.append _⟩

/-!
# Segments of urls
-/

variable {before after : List Char}

/-- Whether a text has a segment that names a version. -/
def holdsVersion (cs : List Char) : Bool :=
  (Text.splitChars (· == '/') cs).any isVersionSegment

theorem holdsVersion_slash :
    holdsVersion (before ++ '/' :: after) = (holdsVersion before || holdsVersion after) := by
  rw [holdsVersion, Text.splitChars_append_separator (by rfl), List.any_append]
  rfl

/-- What follows a segment tells on its own whether it adds one that names a version. -/
theorem exists_holdsVersion_append (hends : endsSegment after = true) :
    exists later, forall cs, holdsVersion (cs ++ after) = (holdsVersion cs || later) := by
  have hpieces : exists first pieces, Text.splitChars (· == '/') after = first :: pieces ∧
      forall segment, isVersionSegment (segment ++ first) = isVersionSegment segment := by
    cases after with
    | nil =>
        exact ⟨[], [], rfl, fun segment => by rw [List.append_nil]⟩
    | cons c after =>
        by_cases hslash : c = '/'
        · cases hslash
          refine ⟨[], Text.splitChars (· == '/') after, ?_, fun segment => by rw [List.append_nil]⟩
          rw [Text.splitChars, if_pos (by rfl)]
        · have hc : c = '?' ∨ c = '#' := by
            simpa [endsSegment, hslash] using hends
          cases hafter : Text.splitChars (· == '/') after with
          | nil =>
              exact absurd hafter (Text.splitChars_ne_nil _ _)
          | cons first pieces =>
              refine ⟨c :: first, pieces, ?_, fun segment => isVersionSegment_append hc⟩
              rw [Text.splitChars, if_neg (by simpa using hslash), hafter]
  rcases hpieces with ⟨first, pieces, hafter, hfirst⟩
  refine ⟨pieces.any isVersionSegment, ?_⟩
  intro cs
  rcases List.eq_nil_or_concat (Text.splitChars (· == '/') cs) with hnil | ⟨init, last, hcs⟩
  · exact absurd hnil (Text.splitChars_ne_nil _ _)
  · rw [List.concat_eq_append] at hcs
    rw [holdsVersion, holdsVersion, Text.splitChars_append hcs hafter, hcs]
    simp only [List.any_append, List.any_cons, List.any_nil, hfirst, Bool.or_false, Bool.or_assoc]

variable {versioner : LinkVersioner} {url result : String} {basePaths : List String}
  {slug : String}

/-- The version is the only segment that a rewritten url has besides those of the url. -/
theorem hasVersionSegment_spliced (hurl : url.toList = before ++ after)
    (hends : endsSegment after = true) :
    hasVersionSegment (versioner.spliced before after) =
      (hasVersionSegment url || hasVersionSegment versioner.version) := by
  rcases exists_holdsVersion_append hends with ⟨later, hlater⟩
  have hspliced : hasVersionSegment (versioner.spliced before after) =
      holdsVersion (before ++ '/' :: (versioner.version.toList ++ after)) := by
    rw [hasVersionSegment, spliced, String.toList_ofList, List.append_assoc]
    rfl
  have hplain : hasVersionSegment url = (holdsVersion before || later) := by
    rw [← hlater, ← hurl]
    rfl
  rw [hspliced, holdsVersion_slash, hlater, hplain, Bool.or_assoc, Bool.or_comm later]
  rfl

/-!
# Rewriting again
-/

theorem isLocal_spliced (hlocal : IsLocal url)
    (hplace : Place basePaths slug url.toList before after) :
    IsLocal (versioner.spliced before after) := by
  have hcs := hplace.eq
  cases before with
  | nil =>
      exact absurd rfl hplace.before_ne_nil
  | cons c before =>
      rw [isLocal_iff] at hlocal ⊢
      rcases hlocal with ⟨rest, hstart⟩
      refine ⟨before ++ '/' :: versioner.version.toList ++ after, ?_⟩
      rw [hcs] at hstart
      rw [spliced, String.toList_ofList]
      rcases hstart with hstart | hstart
      · cases hstart
        exact Or.inl rfl
      · cases hstart
        exact Or.inr rfl

/-- Whatever is put into a url, its place stays one where something can be put. -/
theorem exists_place_spliced (hplace : Place basePaths slug cs before after)
    (inserted : List Char) :
    exists before' after',
      Place basePaths slug (before ++ '/' :: inserted ++ after) before' after' := by
  rw [exists_place_iff]
  cases hplace with
  | base front base after first =>
      exact Or.inl ⟨base, front, '/' :: inserted ++ after, first.mem, by simp, rfl⟩
  | product rest clear heq =>
      exact Or.inr ⟨inserted ++ '/' :: rest, by simp⟩

/-- A url that was rewritten is left alone exactly when the version in it is recognised. -/
theorem rewrite_result_eq_none_iff (hstart : versioner.productStart = "/" ++ slug ++ "/")
    (h : versioner.rewrite url = some result) :
    versioner.rewrite result = none ↔ hasVersionSegment versioner.version = true := by
  rcases (rewrite_eq_some_iff hstart).mp h with ⟨hlocal, hplain, before, after, hplace, rfl⟩
  have hsegment : hasVersionSegment (versioner.spliced before after) =
      hasVersionSegment versioner.version := by
    rw [hasVersionSegment_spliced hplace.eq hplace.ends, hplain, Bool.false_or]
  have hplaces : exists before' after', Place versioner.basePaths slug
      (versioner.spliced before after).toList before' after' := by
    rw [spliced, String.toList_ofList]
    exact exists_place_spliced hplace versioner.version.toList
  rw [rewrite_eq_none_iff hstart, hsegment]
  simp only [isLocal_spliced hlocal hplace, hplaces, not_true, false_or, or_false]

variable {versioner : LinkVersioner} {product : String} {version : Option String}
  {config : ProductConfig} {table : VersionTable}

/-- A url is left alone when it leads away from the site, when one of its segments is recognised
as a version, or when it has no place for a version, and at no other time.  So a url that was
rewritten is rewritten again, unless the name of the version is one that is recognised. -/
theorem rewrite_again_exact (made : make product version config table = .ok (some versioner)) :
    (forall url, versioner.rewrite url = none ↔
      ¬ IsLocal url ∨
      (exists segment, segment ∈ Text.splitChars (· == '/') url.toList ∧ NamesVersion segment) ∨
      ¬ exists before after,
        Place (trimmedBasePaths config) (config.urlSlug product) url.toList before after) ∧
    forall url result, versioner.rewrite url = some result ->
      (versioner.rewrite result = none ↔ hasVersionSegment versioner.version = true) ∧
      forall directory, version = some directory -> '/' ∉ directory.toList ->
        (versioner.rewrite result = none ↔
          NamesVersion (VersionName.clean directory).toList) := by
  rcases exists_of_make made with ⟨directory, hversion, _, _, _, hclean, hbases, hstart⟩
  constructor
  · intro url
    have hsegments : (exists segment, segment ∈ Text.splitChars (· == '/') url.toList ∧
        NamesVersion segment) ↔ hasVersionSegment url = true := by
      simp only [hasVersionSegment, List.any_eq_true, isVersionSegment_iff]
    rw [hsegments, ← hbases]
    exact rewrite_eq_none_iff hstart
  · intro url result hresult
    have hagain := rewrite_result_eq_none_iff hstart hresult
    refine ⟨hagain, ?_⟩
    intro other hother hslash
    obtain rfl : directory = other := Option.some.inj (hversion.symm.trans hother)
    rw [hagain, hasVersionSegment, hclean, Text.splitChars_of_not_mem, List.any_cons,
      List.any_nil, Bool.or_false, isVersionSegment_iff]
    intro c hc
    apply beq_false_of_ne
    rintro rfl
    exact hslash ((VersionName.clean_sublist directory).subset hc)

def wildTable : VersionTable :=
  Catalog.ofList [("terraform", [⟨"v2.x", .stable, true⟩, ⟨"v1.x", .stable, false⟩])]

def wildVersioner : LinkVersioner :=
  { version := "v1.x", basePaths := ["language"], productStart := "/terraform/" }

/-- A version that is not recognised comes into a link twice. -/
theorem rewrite_again_exact_wild :
    make "terraform" (some "v1.x") languageProduct wildTable = .ok (some wildVersioner) ∧
    wildVersioner.rewrite "/terraform/language/x" = some "/terraform/language/v1.x/x" ∧
    wildVersioner.rewrite "/terraform/language/v1.x/x" = some "/terraform/language/v1.x/v1.x/x" ∧
    ¬ NamesVersion "v1.x".toList ∧
    wildVersioner.rewrite "/terraform/language/v1.2.x/x" = none := by
  have hmade : make "terraform" (some "v1.x") languageProduct wildTable =
      .ok (some wildVersioner) := by
    decide
  have honce : wildVersioner.rewrite "/terraform/language/x" =
      some "/terraform/language/v1.x/x" := by
    decide
  have htwice : wildVersioner.rewrite "/terraform/language/v1.x/x" =
      some "/terraform/language/v1.x/v1.x/x" := by
    decide
  have hrecognised : NamesVersion "v1.2.x".toList := by
    rw [← isVersionSegment_iff]
    decide
  rcases rewrite_again_exact hmade with ⟨hleft, hresult⟩
  rcases hresult _ _ honce with ⟨_, hnames⟩
  have hclean : VersionName.clean "v1.x" = "v1.x" := by
    decide
  refine ⟨hmade, honce, htwice, ?_, ?_⟩
  · intro hnot
    rw [← hclean, ← hnames "v1.x" rfl (by decide), htwice] at hnot
    cases hnot
  · exact (hleft _).mpr (Or.inr (Or.inl ⟨_, by decide, hrecognised⟩))

end LinkVersioner
end Docloom
