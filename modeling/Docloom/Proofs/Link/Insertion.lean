import Docloom.Proofs.Link.Repetition

/-!
# What is put into a link

A rewritten url is the url with one slash and the version in one place: behind the base path that
stands first in it, or behind the product where no base path stands.  Nothing else of it changes,
so without the version it is the url again.
-/

namespace Docloom
namespace LinkVersioner

variable {versioner : LinkVersioner} {url result slug base : String} {basePaths : List String}
  {cs front before after rest : List Char}

/-!
# Places are told by the url
-/

theorem endsSegment_iff :
    endsSegment after = true ↔
      after = [] ∨ exists c rest, after = c :: rest ∧ (c = '/' ∨ c = '?' ∨ c = '#') := by
  cases after with
  | nil =>
      exact iff_of_true rfl (Or.inl rfl)
  | cons c rest =>
      simp [endsSegment, or_assoc]

namespace Place

/-- Where a base path stands, the first one ends the text before the place. -/
theorem eq_of_firstBaseAt (h : Place basePaths slug cs before after)
    (hfirst : FirstBaseAt basePaths cs front base rest) :
    before = front ++ '/' :: base.toList ∧ after = rest := by
  cases h with
  | base front' base' after' first =>
      rcases first.unique hfirst with ⟨rfl, rfl, rfl⟩
      exact ⟨rfl, rfl⟩
  | product rest clear heq =>
      exact absurd hfirst.stands (clear base front _ hfirst.mem)

theorem eq_of_clear (h : Place basePaths slug cs before after)
    (hclear : forall base front rest, base ∈ basePaths -> ¬ BaseAt base cs front rest) :
    before = '/' :: slug.toList := by
  cases h with
  | base front' base' after' first =>
      exact absurd first.stands (hclear base' front' _ first.mem)
  | product rest clear heq =>
      rfl

end Place

/-!
# Insertions
-/

/-- A url is cut at a place, and the result has a segment with the version there. -/
structure Insertion (version url result : List Char) (before after : List Char) : Prop where
  url_eq : url = before ++ after
  ends : after = [] ∨ exists c rest, after = c :: rest ∧ (c = '/' ∨ c = '?' ∨ c = '#')
  result_eq : result = before ++ '/' :: version ++ after

/-- What was put in can be taken out again. -/
theorem Insertion.deleted {version url result : List Char}
    (h : Insertion version url result before after) :
    result.take before.length ++ result.drop (before.length + (version.length + 1)) = url := by
  have hlength : before.length + (version.length + 1) = (before ++ '/' :: version).length := by
    rw [List.length_append, List.length_cons]
  rw [h.result_eq, hlength, List.drop_left, List.append_assoc, List.take_left, h.url_eq]

theorem insertion_spliced (h : Place basePaths slug url.toList before after) :
    Insertion versioner.version.toList url.toList (versioner.spliced before after).toList
      before after :=
  ⟨h.eq, endsSegment_iff.mp h.ends, String.toList_ofList⟩

theorem rewrite_isSome_iff (hstart : versioner.productStart = "/" ++ slug ++ "/") :
    (versioner.rewrite url).isSome = true ↔
      (exists rest, url.toList = '.' :: rest ∨ url.toList = '/' :: rest) ∧
      (forall segment, segment ∈ Text.splitChars (· == '/') url.toList ->
        ¬ NamesVersion segment) ∧
      ((exists base front after, base ∈ versioner.basePaths ∧
          BaseAt base url.toList front after) ∨
        exists rest, url.toList = '/' :: (slug.toList ++ '/' :: rest)) := by
  have hsegments : hasVersionSegment url = false ↔
      forall segment, segment ∈ Text.splitChars (· == '/') url.toList ->
        ¬ NamesVersion segment := by
    simp only [hasVersionSegment, List.any_eq_false, isVersionSegment_iff]
  rw [Option.isSome_iff_exists, ← isLocal_iff, ← hsegments, ← exists_place_iff]
  constructor
  · intro h
    rcases h with ⟨result, hresult⟩
    rcases (rewrite_eq_some_iff hstart).mp hresult with
      ⟨hlocal, hplain, before, after, hplace, _⟩
    exact ⟨hlocal, hplain, before, after, hplace⟩
  · intro h
    rcases h with ⟨hlocal, hplain, before, after, hplace⟩
    exact ⟨_, (rewrite_eq_some_iff hstart).mpr ⟨hlocal, hplain, before, after, hplace, rfl⟩⟩

variable {product : String} {version : Option String} {config : ProductConfig}
  {table : VersionTable}

/-- A url is rewritten exactly when it begins with a dot or a slash, has no segment that names a
version, and has a base path in it or begins with the product.  The version then comes in as one
segment, behind the first base path, or behind the product where there is none; taken out again it
leaves the url. -/
theorem rewrite_inserts (made : make product version config table = .ok (some versioner)) :
    forall url,
      ((versioner.rewrite url).isSome = true ↔
        (exists rest, url.toList = '.' :: rest ∨ url.toList = '/' :: rest) ∧
        (forall segment, segment ∈ Text.splitChars (· == '/') url.toList ->
          ¬ NamesVersion segment) ∧
        ((exists base front after, base ∈ trimmedBasePaths config ∧
            BaseAt base url.toList front after) ∨
          exists rest, url.toList = '/' :: ((config.urlSlug product).toList ++ '/' :: rest))) ∧
      forall result, versioner.rewrite url = some result ->
        exists before after,
          Insertion versioner.version.toList url.toList result.toList before after ∧
          (forall front base rest,
            FirstBaseAt (trimmedBasePaths config) url.toList front base rest ->
              before = front ++ '/' :: base.toList ∧ after = rest) ∧
          ((forall base front rest, base ∈ trimmedBasePaths config ->
              ¬ BaseAt base url.toList front rest) ->
            before = '/' :: (config.urlSlug product).toList) ∧
          result.toList.take before.length ++
            result.toList.drop (before.length + (versioner.version.toList.length + 1)) =
              url.toList := by
  rcases exists_of_make made with ⟨_, _, _, _, _, _, hbases, hstart⟩
  intro url
  rw [← hbases]
  refine ⟨rewrite_isSome_iff hstart, ?_⟩
  intro result hresult
  rcases (rewrite_eq_some_iff hstart).mp hresult with ⟨_, _, before, after, hplace, rfl⟩
  have hinsertion := @insertion_spliced versioner _ _ _ _ _ hplace
  exact ⟨before, after, hinsertion, fun _ _ _ => hplace.eq_of_firstBaseAt, hplace.eq_of_clear,
    hinsertion.deleted⟩

/-- Of two base paths in a relative url the first one counts, and the query stays as it is; a url
that begins with a name is left alone. -/
theorem rewrite_inserts_relative :
    make "terraform" (some "v1.8.x") languageProduct languageTable = .ok (some oldVersioner) ∧
    oldVersioner.rewrite "../language?a=/language/b" =
      some "../language/v1.8.x?a=/language/b" ∧
    (exists before after,
      Insertion "v1.8.x".toList "../language?a=/language/b".toList
        "../language/v1.8.x?a=/language/b".toList before after ∧
      before = "../language".toList) ∧
    (oldVersioner.rewrite "x/language/b").isSome = false := by
  have hmade : make "terraform" (some "v1.8.x") languageProduct languageTable =
      .ok (some oldVersioner) := by
    decide
  have hresult : oldVersioner.rewrite "../language?a=/language/b" =
      some "../language/v1.8.x?a=/language/b" := by
    decide
  have hsplit : splitAtBasePath? (trimmedBasePaths languageProduct)
      "../language?a=/language/b".toList =
        some ("../language".toList, "?a=/language/b".toList) := by
    decide
  rcases splitAtBasePath?_eq_some_iff.mp hsplit with ⟨front, base, hfront, hfirst⟩
  rcases (rewrite_inserts hmade "../language?a=/language/b").2 _ hresult with
    ⟨before, after, hinsertion, hplace, _, _⟩
  refine ⟨hmade, hresult, ⟨before, after, hinsertion, ?_⟩, ?_⟩
  · rw [(hplace front base _ hfirst).1, hfront]
  · rw [Bool.eq_false_iff, ne_eq, (rewrite_inserts hmade "x/language/b").1]
    intro h
    rcases h.1 with ⟨rest, hdot | hslash⟩
    · exact absurd (List.head_eq_of_cons_eq hdot) (by decide)
    · exact absurd (List.head_eq_of_cons_eq hslash) (by decide)

end LinkVersioner
end Docloom
