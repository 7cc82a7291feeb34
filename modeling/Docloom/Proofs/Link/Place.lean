import Docloom.Link.Versioner
import Mathlib.Data.List.Basic

/-!
# Where versions are put into links

A version is put into a url after the base path that stands first in it, wherever that is, and
after the product otherwise.  The place belongs to the product only when the first base path
follows the product; the query and the fragment stay as they are then.
-/

namespace Docloom
namespace LinkVersioner

variable {basePaths : List String} {base slug : String} {cs front before after : List Char}

/-!
# Base paths in urls
-/

/-- A base path stands, as whole segments, after `front`. -/
structure BaseAt (base : String) (cs front after : List Char) : Prop where
  eq : cs = front ++ '/' :: (base.toList ++ after)
  ends : endsSegment after = true

namespace BaseAt

theorem length_le (h : BaseAt base cs front after) : front.length < cs.length := by
  rw [h.eq]
  simp

theorem cons_iff {c : Char} {rest : List Char} :
    BaseAt base (c :: rest) front after ↔
      (front = [] ∧ BaseAt base (c :: rest) [] after) ∨
        exists front', front = c :: front' ∧ BaseAt base rest front' after := by
  constructor
  · rintro ⟨heq, hends⟩
    cases front with
    | nil =>
        exact Or.inl ⟨rfl, heq, hends⟩
    | cons first front' =>
        cases heq
        exact Or.inr ⟨front', rfl, rfl, hends⟩
  · rintro (⟨rfl, h⟩ | ⟨front', rfl, heq, hends⟩)
    · exact h
    · exact ⟨by rw [heq, List.cons_append], hends⟩

/-- The text before a base path, and the base path, tell what follows it. -/
theorem after_eq {after' : List Char} (h : BaseAt base cs front after)
    (h' : BaseAt base cs front after') : after = after' := by
  have heq := h.eq.symm.trans h'.eq
  simpa using heq

end BaseAt

/-- The base path that is found in a url: no base path stands before it, and of those that stand
in its place it is the first in the list. -/
structure FirstBaseAt (basePaths : List String) (cs front : List Char) (base : String)
    (after : List Char) : Prop where
  stands : BaseAt base cs front after
  leftmost : forall other front' after', other ∈ basePaths -> BaseAt other cs front' after' ->
    front.length ≤ front'.length
  listed : exists earlier later, basePaths = earlier ++ base :: later ∧
    forall other after', other ∈ earlier -> ¬ BaseAt other cs front after'

namespace FirstBaseAt

theorem mem (h : FirstBaseAt basePaths cs front base after) : base ∈ basePaths := by
  rcases h.listed with ⟨earlier, later, heq, _⟩
  rw [heq]
  simp

theorem unique {front' after' : List Char} {base' : String}
    (h : FirstBaseAt basePaths cs front base after)
    (h' : FirstBaseAt basePaths cs front' base' after') :
    front = front' ∧ base = base' ∧ after = after' := by
  have hlength : front.length = front'.length :=
    Nat.le_antisymm (h.leftmost base' front' after' h'.mem h'.stands)
      (h'.leftmost base front after h.mem h.stands)
  obtain rfl : front = front' :=
    (List.append_inj (h.stands.eq.symm.trans h'.stands.eq) hlength).1
  rcases h.listed with ⟨earlier, later, heq, hearlier⟩
  rcases h'.listed with ⟨earlier', later', heq', hearlier'⟩
  obtain rfl : base = base' := by
    rcases List.append_eq_append_iff.mp (heq.symm.trans heq') with
      ⟨between, rfl, hbetween⟩ | ⟨between, rfl, hbetween⟩
    · cases between with
      | nil =>
          cases hbetween
          rfl
      | cons other between =>
          cases hbetween
          exact absurd h.stands (hearlier' base after (by simp))
    · cases between with
      | nil =>
          cases hbetween
          rfl
      | cons other between =>
          cases hbetween
          exact absurd h'.stands (hearlier base' after' (by simp))
  exact ⟨rfl, rfl, h.stands.after_eq h'.stands⟩

end FirstBaseAt

/-!
# Finding base paths
-/

/-- What the search for a base path does with one of them. -/
theorem afterBase_eq_some_iff {rest : List Char} :
    (if base.toList.isPrefixOf rest && endsSegment (rest.drop base.toList.length) then
        some (rest.drop base.toList.length)
      else
        none) = some after ↔ BaseAt base ('/' :: rest) [] after := by
  rw [ite_eq_iff]
  simp only [Bool.and_eq_true, List.isPrefixOf_iff_prefix]
  constructor
  · rintro (⟨⟨⟨tail, rfl⟩, hends⟩, heq⟩ | ⟨_, heq⟩)
    · rw [List.drop_left] at heq hends
      cases heq
      exact ⟨rfl, hends⟩
    · cases heq
  · rintro ⟨heq, hends⟩
    cases heq
    exact Or.inl ⟨⟨List.prefix_append _ _, by rw [List.drop_left]; exact hends⟩,
      by rw [List.drop_left]⟩

theorem afterBase_eq_none_iff {rest : List Char} :
    (if base.toList.isPrefixOf rest && endsSegment (rest.drop base.toList.length) then
        some (rest.drop base.toList.length)
      else
        none) = none ↔ forall after, ¬ BaseAt base ('/' :: rest) [] after := by
  rw [Option.eq_none_iff_forall_ne_some]
  simp only [ne_eq, afterBase_eq_some_iff]

theorem afterBasePath?_eq_none_iff :
    afterBasePath? basePaths cs = none ↔
      forall base after, base ∈ basePaths -> ¬ BaseAt base cs [] after := by
  unfold afterBasePath?
  split
  · simp only [List.findSome?_eq_none_iff, afterBase_eq_none_iff]
    exact ⟨fun hnone base after hmem => hnone base hmem after,
      fun hnone base hmem after => hnone base after hmem⟩
  · rename_i hslash
    refine ⟨?_, fun _ => rfl⟩
    rintro _ base after _ ⟨heq, _⟩
    exact hslash _ heq

theorem afterBasePath?_eq_some_iff :
    afterBasePath? basePaths cs = some after ↔
      exists base, BaseAt base cs [] after ∧
        exists earlier later, basePaths = earlier ++ base :: later ∧
          forall other after', other ∈ earlier -> ¬ BaseAt other cs [] after' := by
  unfold afterBasePath?
  split
  · simp only [List.findSome?_eq_some_iff, afterBase_eq_some_iff, afterBase_eq_none_iff]
    constructor
    · rintro ⟨earlier, base, later, heq, hstands, hearlier⟩
      exact ⟨base, hstands, earlier, later, heq,
        fun other after' hmem => hearlier other hmem after'⟩
    · rintro ⟨base, hstands, earlier, later, heq, hearlier⟩
      exact ⟨earlier, base, later, heq, hstands,
        fun other hmem after' => hearlier other after' hmem⟩
  · rename_i hslash
    constructor
    · intro h
      cases h
    · rintro ⟨base, ⟨heq, _⟩, _⟩
      exact absurd heq (hslash _)

theorem splitAtBasePath?_eq_none_iff :
    splitAtBasePath? basePaths cs = none ↔
      forall base front after, base ∈ basePaths -> ¬ BaseAt base cs front after := by
  induction cs with
  | nil =>
      refine ⟨?_, fun _ => rfl⟩
      intro _ base front after _ hstands
      exact absurd hstands.length_le (by simp)
  | cons c rest ih =>
      rw [splitAtBasePath?]
      cases hstart : afterBasePath? basePaths (c :: rest) with
      | some after =>
          constructor
          · intro h
            cases h
          · intro hnone
            rcases afterBasePath?_eq_some_iff.mp hstart with
              ⟨base, hstands, earlier, later, heq, _⟩
            exact absurd hstands (hnone base [] after (by rw [heq]; simp))
      | none =>
          dsimp only
          rw [Option.map_eq_none_iff, ih]
          constructor
          · intro hrest base front after hmem hstands
            rcases BaseAt.cons_iff.mp hstands with ⟨_, hstands⟩ | ⟨front', _, hstands⟩
            · exact afterBasePath?_eq_none_iff.mp hstart base after hmem hstands
            · exact hrest base front' after hmem hstands
          · intro hnone base front after hmem hstands
            exact hnone base (c :: front) after hmem
              (BaseAt.cons_iff.mpr (Or.inr ⟨front, rfl, hstands⟩))

theorem exists_firstBaseAt (h : splitAtBasePath? basePaths cs = some (before, after)) :
    exists front base, before = front ++ '/' :: base.toList ∧
      FirstBaseAt basePaths cs front base after := by
  induction cs generalizing before with
  | nil =>
      cases h
  | cons c rest ih =>
      rw [splitAtBasePath?] at h
      cases hstart : afterBasePath? basePaths (c :: rest) with
      | some found =>
          rw [hstart] at h
          cases h
          rcases afterBasePath?_eq_some_iff.mp hstart with ⟨base, hstands, hlisted⟩
          refine ⟨[], base, ?_, hstands, fun _ _ _ _ _ => Nat.zero_le _, hlisted⟩
          have heq : c :: rest = '/' :: base.toList ++ after := hstands.eq
          rw [heq, List.length_append, Nat.add_sub_cancel, List.take_left]
          rfl
      | none =>
          rw [hstart] at h
          rcases Option.map_eq_some_iff.mp h with ⟨⟨before', after'⟩, hsplit, hcons⟩
          cases hcons
          rcases ih hsplit with ⟨front, base, rfl, hfirst⟩
          have hclear := afterBasePath?_eq_none_iff.mp hstart
          refine ⟨c :: front, base, rfl, BaseAt.cons_iff.mpr (Or.inr ⟨front, rfl, hfirst.stands⟩),
            ?_, ?_⟩
          · intro other front' after' hmem hstands
            rcases BaseAt.cons_iff.mp hstands with ⟨_, hstart⟩ | ⟨front', rfl, hrest⟩
            · exact absurd hstart (hclear other after' hmem)
            · exact Nat.succ_le_succ (hfirst.leftmost other front' after' hmem hrest)
          · rcases hfirst.listed with ⟨earlier, later, heq, hearlier⟩
            refine ⟨earlier, later, heq, ?_⟩
            intro other after' hmem hstands
            rcases BaseAt.cons_iff.mp hstands with ⟨hnil, _⟩ | ⟨front', hfront, hrest⟩
            · cases hnil
            · cases hfront
              exact hearlier other after' hmem hrest

theorem splitAtBasePath?_eq_some_iff :
    splitAtBasePath? basePaths cs = some (before, after) ↔
      exists front base, before = front ++ '/' :: base.toList ∧
        FirstBaseAt basePaths cs front base after := by
  refine ⟨exists_firstBaseAt, ?_⟩
  rintro ⟨front, base, rfl, hfirst⟩
  cases hsplit : splitAtBasePath? basePaths cs with
  | none =>
      exact absurd hfirst.stands
        (splitAtBasePath?_eq_none_iff.mp hsplit base front after hfirst.mem)
  | some found =>
      rcases found with ⟨before', after'⟩
      rcases exists_firstBaseAt hsplit with ⟨front', base', rfl, hfirst'⟩
      rcases hfirst.unique hfirst' with ⟨rfl, rfl, rfl⟩
      rfl

/-!
# The place of a version
-/

/-- Where the version stands in a url that is rewritten: after the first base path in it, or
after the product when there is none. -/
inductive Place (basePaths : List String) (slug : String) (cs : List Char) :
    List Char -> List Char -> Prop where
  | base (front : List Char) (base : String) (after : List Char)
      (first : FirstBaseAt basePaths cs front base after) :
      Place basePaths slug cs (front ++ '/' :: base.toList) after
  | product (rest : List Char)
      (clear : forall base front after, base ∈ basePaths -> ¬ BaseAt base cs front after)
      (eq : cs = '/' :: (slug.toList ++ '/' :: rest)) :
      Place basePaths slug cs ('/' :: slug.toList) ('/' :: rest)

namespace Place

theorem eq (h : Place basePaths slug cs before after) : cs = before ++ after := by
  cases h with
  | base front base after first =>
      rw [first.stands.eq, List.append_assoc, List.cons_append]
  | product rest clear heq =>
      rw [heq, List.cons_append]

theorem ends (h : Place basePaths slug cs before after) : endsSegment after = true := by
  cases h with
  | base front base after first =>
      exact first.stands.ends
  | product rest clear heq =>
      rfl

theorem before_ne_nil (h : Place basePaths slug cs before after) : before ≠ [] := by
  cases h with
  | base front base after first =>
      simp
  | product rest clear heq =>
      simp

end Place

theorem exists_place_iff :
    (exists before after, Place basePaths slug cs before after) ↔
      (exists base front after, base ∈ basePaths ∧ BaseAt base cs front after) ∨
        exists rest, cs = '/' :: (slug.toList ++ '/' :: rest) := by
  constructor
  · rintro ⟨before, after, hplace⟩
    cases hplace with
    | base front base after first =>
        exact Or.inl ⟨base, front, after, first.mem, first.stands⟩
    | product rest clear heq =>
        exact Or.inr ⟨rest, heq⟩
  · intro h
    cases hsplit : splitAtBasePath? basePaths cs with
    | some found =>
        rcases exists_firstBaseAt hsplit with ⟨front, base, _, hfirst⟩
        exact ⟨_, _, .base front base found.2 hfirst⟩
    | none =>
        have hclear := splitAtBasePath?_eq_none_iff.mp hsplit
        rcases h with ⟨base, front, after, hmem, hstands⟩ | ⟨rest, heq⟩
        · exact absurd hstands (hclear base front after hmem)
        · exact ⟨_, _, .product rest hclear heq⟩

/-- The text with the version at its place. -/
def spliced (versioner : LinkVersioner) (before after : List Char) : String :=
  String.ofList (before ++ '/' :: versioner.version.toList ++ after)

/-- Whether a url leads to the same site and is no name of its own. -/
def IsLocal (url : String) : Prop :=
  isExternalUrl url = false ∧
    (Text.startsWith "." url = true ∨ Text.startsWith "/" url = true)

theorem isExternalUrl_of_start {url : String} {c : Char} {rest : List Char}
    (h : url.toList = c :: rest) (hc : (Text.foldChar c == Text.foldChar 'h') = false) :
    isExternalUrl url = false := by
  have hstart : forall text : List Char, startsFolded ('h' :: text) url.toList = false := by
    intro text
    rw [h, startsFolded, hc, Bool.false_and]
  rw [isExternalUrl, Bool.or_eq_false_iff]
  exact ⟨hstart "ttp://".toList, hstart "ttps://".toList⟩

/-- A url that begins with a dot or a slash leads to no other site. -/
theorem isLocal_iff {url : String} :
    IsLocal url ↔ exists rest, url.toList = '.' :: rest ∨ url.toList = '/' :: rest := by
  have hdot : (Text.foldChar '.' == Text.foldChar 'h') = false := by
    decide
  have hslash : (Text.foldChar '/' == Text.foldChar 'h') = false := by
    decide
  simp only [IsLocal, Text.startsWith, List.isPrefixOf_iff_prefix]
  constructor
  · rintro ⟨_, ⟨rest, heq⟩ | ⟨rest, heq⟩⟩
    · exact ⟨rest, Or.inl heq.symm⟩
    · exact ⟨rest, Or.inr heq.symm⟩
  · rintro ⟨rest, heq | heq⟩
    · exact ⟨isExternalUrl_of_start heq hdot, Or.inl ⟨rest, heq.symm⟩⟩
    · exact ⟨isExternalUrl_of_start heq hslash, Or.inr ⟨rest, heq.symm⟩⟩

theorem isLocal_of_slash {url : String} (h : Text.startsWith "/" url = true) : IsLocal url := by
  rcases List.isPrefixOf_iff_prefix.mp h with ⟨rest, heq⟩
  exact isLocal_iff.mpr ⟨rest, Or.inr heq.symm⟩

variable {versioner : LinkVersioner} {url result : String}

theorem exists_afterStart?_iff {start rest : String} :
    Text.afterStart? start url = some rest ↔ url.toList = start.toList ++ rest.toList := by
  rw [Text.afterStart?, ite_eq_iff, List.isPrefixOf_iff_prefix]
  constructor
  · rintro (⟨⟨tail, heq⟩, hrest⟩ | ⟨_, hnone⟩)
    · cases hrest
      rw [String.toList_ofList, ← heq, List.drop_left]
    · cases hnone
  · intro heq
    exact Or.inl ⟨⟨rest.toList, heq.symm⟩, by rw [heq, List.drop_left, String.ofList_toList]⟩

theorem rewrite_eq_some_iff (hstart : versioner.productStart = "/" ++ slug ++ "/") :
    versioner.rewrite url = some result ↔
      IsLocal url ∧ hasVersionSegment url = false ∧ exists before after,
        Place versioner.basePaths slug url.toList before after ∧
          result = versioner.spliced before after := by
  unfold rewrite
  split
  · rename_i hskip
    constructor
    · intro h
      cases h
    · rintro ⟨⟨hexternal, hstarts⟩, hsegment, _⟩
      rcases hstarts with hdot | hslash <;> simp_all
  · rename_i hlocal
    have hparts : IsLocal url ∧ hasVersionSegment url = false := by
      simpa [IsLocal, and_assoc, or_iff_not_imp_left] using hlocal
    rw [← and_assoc, and_iff_right hparts]
    cases hsplit : splitAtBasePath? versioner.basePaths url.toList with
    | some found =>
        rcases found with ⟨before, after⟩
        rcases exists_firstBaseAt hsplit with ⟨front, base, rfl, hfirst⟩
        have hplace : Place versioner.basePaths slug url.toList (front ++ '/' :: base.toList)
            after :=
          .base front base after hfirst
        constructor
        · intro h
          cases h
          exact ⟨_, _, hplace, rfl⟩
        · rintro ⟨before, after', hother, rfl⟩
          cases hother with
          | base front' base' after' hfirst' =>
              rcases hfirst.unique hfirst' with ⟨rfl, rfl, rfl⟩
              rfl
          | product rest clear heq =>
              exact absurd hfirst.stands (clear base front after hfirst.mem)
    | none =>
        have hclear := splitAtBasePath?_eq_none_iff.mp hsplit
        have hjoin : forall rest : String,
            versioner.productStart ++ versioner.version ++ "/" ++ rest =
              versioner.spliced ('/' :: slug.toList) ('/' :: rest.toList) := by
          intro rest
          rw [hstart, spliced]
          apply String.toList_injective
          simp
        simp only [Option.map_eq_some_iff, exists_afterStart?_iff]
        constructor
        · rintro ⟨rest, heq, rfl⟩
          refine ⟨_, _, .product rest.toList hclear ?_, hjoin rest⟩
          rw [heq, hstart]
          simp
        · rintro ⟨before, after, hplace, rfl⟩
          cases hplace with
          | base front base after hfirst =>
              exact absurd hfirst.stands (hclear base front after hfirst.mem)
          | product rest clear heq =>
              refine ⟨String.ofList rest, ?_, ?_⟩
              · rw [heq, hstart]
                simp
              · rw [hjoin, String.toList_ofList]

/-- A url is left alone when it leads away from the site, when a version is in it already, or when
it has no place for one. -/
theorem rewrite_eq_none_iff (hstart : versioner.productStart = "/" ++ slug ++ "/") :
    versioner.rewrite url = none ↔
      ¬ IsLocal url ∨ hasVersionSegment url = true ∨
        ¬ exists before after, Place versioner.basePaths slug url.toList before after := by
  rw [← not_iff_not, ← ne_eq, Option.ne_none_iff_exists']
  simp only [rewrite_eq_some_iff hstart, not_or, not_not, Bool.not_eq_true]
  constructor
  · rintro ⟨result, hlocal, hsegment, before, after, hplace, _⟩
    exact ⟨hlocal, hsegment, before, after, hplace⟩
  · rintro ⟨hlocal, hsegment, before, after, hplace⟩
    exact ⟨_, hlocal, hsegment, before, after, hplace, rfl⟩

/-!
# Places of the product
-/

/-- A place that belongs to the product: after the base path that follows it, or after the
product itself when no base path follows it. -/
inductive OwnPlace (basePaths : List String) (slug : String) (cs : List Char) :
    List Char -> List Char -> Prop where
  | base (base : String) (after : List Char) (mem : base ∈ basePaths)
      (stands : BaseAt base cs ('/' :: slug.toList) after) :
      OwnPlace basePaths slug cs ('/' :: slug.toList ++ '/' :: base.toList) after
  | product (rest : List Char)
      (clear : forall base after, base ∈ basePaths -> ¬ BaseAt base cs ('/' :: slug.toList) after)
      (eq : cs = '/' :: (slug.toList ++ '/' :: rest)) :
      OwnPlace basePaths slug cs ('/' :: slug.toList) ('/' :: rest)

/-- Whether the base path that is found in a url, if there is one, follows the product. -/
def FollowsProduct (basePaths : List String) (slug : String) (cs : List Char) : Prop :=
  forall front base after, FirstBaseAt basePaths cs front base after -> front = '/' :: slug.toList

theorem Place.own (h : Place basePaths slug cs before after)
    (hfollows : FollowsProduct basePaths slug cs) : OwnPlace basePaths slug cs before after := by
  cases h with
  | base front base after first =>
      cases hfollows front base after first
      exact .base base after first.mem first.stands
  | product rest clear heq =>
      exact .product rest (fun base after => clear base _ after) heq

/-- The path of a url. -/
def pathOf (cs : List Char) : List Char :=
  cs.takeWhile fun c => c != '?' && c != '#'

/-- The query and the fragment of a url. -/
def queryOf (cs : List Char) : List Char :=
  cs.dropWhile fun c => c != '?' && c != '#'

/-- Whether a text ends no path. -/
def IsPath (cs : List Char) : Prop :=
  forall c, c ∈ cs -> (c != '?' && c != '#') = true

namespace OwnPlace

theorem startsWith_product (h : OwnPlace basePaths slug cs before after) :
    exists rest, cs = '/' :: (slug.toList ++ '/' :: rest) := by
  cases h with
  | base base after mem stands =>
      exact ⟨base.toList ++ after, stands.eq⟩
  | product rest clear heq =>
      exact ⟨rest, heq⟩

theorem eq (h : OwnPlace basePaths slug cs before after) : cs = before ++ after := by
  cases h with
  | base base after mem stands =>
      rw [stands.eq]
      simp
  | product rest clear heq =>
      rw [heq, List.cons_append]

theorem isPath (h : OwnPlace basePaths slug cs before after) (hslug : IsPath slug.toList)
    (hbases : forall base, base ∈ basePaths -> IsPath base.toList) : IsPath before := by
  have hstart : IsPath ('/' :: slug.toList) := by
    intro c hc
    rcases List.mem_cons.mp hc with rfl | hc
    · rfl
    · exact hslug c hc
  cases h with
  | base base after mem stands =>
      intro c hc
      rcases List.mem_append.mp hc with hc | hc
      · exact hstart c hc
      · rcases List.mem_cons.mp hc with rfl | hc
        · rfl
        · exact hbases base mem c hc
  | product rest clear heq =>
      exact hstart

/-- The place stands in the path of the url. -/
theorem path_and_query (h : OwnPlace basePaths slug cs before after) (hslug : IsPath slug.toList)
    (hbases : forall base, base ∈ basePaths -> IsPath base.toList) :
    pathOf cs = before ++ pathOf after ∧ after = pathOf after ++ queryOf cs := by
  have hbefore := h.isPath hslug hbases
  rw [h.eq, pathOf, queryOf, List.takeWhile_append_of_pos hbefore,
    List.dropWhile_append_of_pos hbefore]
  exact ⟨rfl, List.takeWhile_append_dropWhile.symm⟩

end OwnPlace

/-!
# Versioners of documents
-/

variable {product : String} {version : Option String} {config : ProductConfig}
  {table : VersionTable}

/-- The base paths of a product without the slashes around them. -/
def trimmedBasePaths (config : ProductConfig) : List String :=
  (config.basePaths.map fun path => String.ofList (Text.trimWhile (· == '/') path.toList)).filter
    fun path => !path.isEmpty

theorem exists_of_make (made : make product version config table = .ok (some versioner)) :
    exists directory, version = some directory ∧ config.versionedDocs = true ∧
      table.contains product = true ∧
      table.isLatest product (VersionName.clean directory) = false ∧
      versioner.version = VersionName.clean directory ∧
      versioner.basePaths = trimmedBasePaths config ∧
      versioner.productStart = "/" ++ config.urlSlug product ++ "/" := by
  unfold make at made
  split at made
  · cases made
  · rename_i hversioned
    split at made
    · cases made
    · rename_i hcontains
      cases version with
      | none =>
          cases made
      | some directory =>
          dsimp only at made
          split at made
          · cases made
          · rename_i hnew
            rw [Bool.or_eq_true, not_or] at hnew
            obtain rfl := Option.some.inj (Except.ok.inj made)
            exact ⟨directory, rfl, by simpa using hversioned, by simpa using hcontains,
              eq_false_of_ne_true hnew.1, rfl, rfl, rfl⟩

/-- The version is put into a url after the first base path in it, also where that belongs to
another product, to another site, to the query or to the fragment; and after the product when
there is no base path.  When the base path that is found follows the product, the url leads to
the product, the place is one of the product, and the query and the fragment stay as they are. -/
theorem rewrite_exact (made : make product version config table = .ok (some versioner)) :
    forall url result, Text.startsWith "/" url = true ->
      (versioner.rewrite url = some result ↔
        hasVersionSegment url = false ∧ exists before after,
          Place (trimmedBasePaths config) (config.urlSlug product) url.toList before after ∧
            result = versioner.spliced before after) ∧
      (FollowsProduct (trimmedBasePaths config) (config.urlSlug product) url.toList ->
        versioner.rewrite url = some result ->
          Text.startsWith versioner.productStart url = true ∧
          exists before after,
            OwnPlace (trimmedBasePaths config) (config.urlSlug product) url.toList before after ∧
            result = versioner.spliced before after ∧
            (IsPath (config.urlSlug product).toList ->
              (forall base, base ∈ trimmedBasePaths config -> IsPath base.toList) ->
                pathOf url.toList = before ++ pathOf after ∧
                  after = pathOf after ++ queryOf url.toList)) := by
  intro url result hslash
  rcases exists_of_make made with ⟨_, _, _, _, _, _, hbases, hstart⟩
  have hrewrite : versioner.rewrite url = some result ↔
      hasVersionSegment url = false ∧ exists before after,
        Place (trimmedBasePaths config) (config.urlSlug product) url.toList before after ∧
          result = versioner.spliced before after := by
    rw [rewrite_eq_some_iff hstart, and_iff_right (isLocal_of_slash hslash), hbases]
  refine ⟨hrewrite, ?_⟩
  intro hfollows hresult
  rcases (hrewrite.mp hresult).2 with ⟨before, after, hplace, heq⟩
  have hown := hplace.own hfollows
  refine ⟨?_, before, after, hown, heq, hown.path_and_query⟩
  rcases hown.startsWith_product with ⟨rest, hurl⟩
  rw [Text.startsWith, List.isPrefixOf_iff_prefix, hurl, hstart]
  exact ⟨rest, by simp⟩

def languageProduct : ProductConfig := { basePaths := ["language"] }

def languageTable : VersionTable :=
  Catalog.ofList [("terraform", [⟨"v1.9.x", .stable, true⟩, ⟨"v1.8.x", .stable, false⟩])]

def oldVersioner : LinkVersioner :=
  { version := "v1.8.x", basePaths := ["language"], productStart := "/terraform/" }

/-- A url of another product is rewritten, at a place that is none of `terraform`; a url of the
product is rewritten at a place of its own. -/
theorem rewrite_exact_vault :
    make "terraform" (some "v1.8.x") languageProduct languageTable = .ok (some oldVersioner) ∧
    oldVersioner.rewrite "/vault/language/x" = some "/vault/language/v1.8.x/x" ∧
    (exists before after,
      Place ["language"] "terraform" "/vault/language/x".toList before after ∧
        "/vault/language/v1.8.x/x" = oldVersioner.spliced before after) ∧
    oldVersioner.rewrite "/terraform/language/x" = some "/terraform/language/v1.8.x/x" ∧
    exists before after,
      OwnPlace ["language"] "terraform" "/terraform/language/x".toList before after ∧
        "/terraform/language/v1.8.x/x" = oldVersioner.spliced before after := by
  have hmade : make "terraform" (some "v1.8.x") languageProduct languageTable =
      .ok (some oldVersioner) := by
    decide
  have hother : oldVersioner.rewrite "/vault/language/x" = some "/vault/language/v1.8.x/x" := by
    decide
  have hown : oldVersioner.rewrite "/terraform/language/x" =
      some "/terraform/language/v1.8.x/x" := by
    decide
  have hfollows : FollowsProduct ["language"] "terraform" "/terraform/language/x".toList := by
    intro front base after hfirst
    have hfound := splitAtBasePath?_eq_some_iff.mpr ⟨front, base, rfl, hfirst⟩
    have hsplit : splitAtBasePath? ["language"] "/terraform/language/x".toList =
        some ("/terraform".toList ++ "/language".toList, "/x".toList) := by
      decide
    obtain rfl : base = "language" := List.mem_singleton.mp hfirst.mem
    have hpair := Option.some.inj (hfound.symm.trans hsplit)
    exact List.append_cancel_right (congrArg Prod.fst hpair)
  rcases rewrite_exact hmade "/vault/language/x" "/vault/language/v1.8.x/x" (by decide) with
    ⟨hplace, _⟩
  rcases rewrite_exact hmade "/terraform/language/x" "/terraform/language/v1.8.x/x" (by decide)
    with ⟨_, hownPlace⟩
  rcases hownPlace hfollows hown with ⟨_, before, after, hbefore, hspliced, _⟩
  exact ⟨hmade, hother, (hplace.mp hother).2, hown, before, after, hbefore, hspliced⟩

end LinkVersioner
end Docloom
