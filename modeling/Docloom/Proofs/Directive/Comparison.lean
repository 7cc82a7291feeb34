import Docloom.Proofs.Directive.Exclusion
import Docloom.Proofs.Lists
import Docloom.Proofs.Version.Numeral
import Docloom.Proofs.Version.Order

/-!
# Blocks for some versions of a product

The content of such a block names a product and compares its version with another one.  Only the
builds of this product read the comparison; all others keep the block.
-/

namespace Docloom

namespace Comparator

def text : Comparator -> String
  | .less => "<"
  | .atMost => "<="
  | .greater => ">"
  | .atLeast => ">="
  | .equal => "="

theorem parse?_text (comparator : Comparator) : parse? comparator.text = some comparator := by
  cases comparator <;> decide

/-- Of two versions one is smaller than the other, or they are equal. -/
theorem exists_relates (current target : Nat ×ₗ Nat ×ₗ Nat) :
    exists comparator, comparator ∈ [less, equal, greater] ∧ comparator.Relates current target ∧
      forall other, other ∈ [less, equal, greater] -> other ≠ comparator ->
        ¬ other.Relates current target := by
  rcases lt_trichotomy current target with hlt | rfl | hlt
  · refine ⟨less, by simp, hlt, ?_⟩
    simp [Relates, hlt.ne, hlt.le]
  · refine ⟨equal, by simp, rfl, ?_⟩
    simp [Relates]
  · refine ⟨greater, by simp, hlt, ?_⟩
    simp [Relates, hlt.ne', hlt.le]

end Comparator

namespace Directive

variable {cs rest : List Char} {block : DirectiveBlock}

/-!
# The grammar of comparisons
-/

/-- Digits of any script. -/
def IsNumber (cs : List Char) : Prop := cs ≠ [] ∧ forall c, c ∈ cs -> Text.isDecimal c = true

/-- Whether the text is `a.x` or `a.b.x`. -/
inductive IsPattern : List Char -> Prop where
  | major (major : List Char) (h : IsNumber major) : IsPattern (major ++ ['.', 'x'])
  | minor (major minor : List Char) (h : IsNumber major) (h' : IsNumber minor) :
      IsPattern (major ++ '.' :: (minor ++ ['.', 'x']))

/-- Whether the text is a comparator and a version, as in `>=v1.21.x`. -/
def IsComparison (expression : String) : Prop :=
  exists (comparator : Comparator) (wanted : String), IsPattern wanted.toList ∧
    expression = comparator.text ++ "v" ++ wanted

theorem digits?_eq_some_dot_iff :
    digits? cs = some ('.' :: rest) ↔
      exists number, IsNumber number ∧ cs = number ++ '.' :: rest := by
  constructor
  · intro h
    unfold digits? at h
    split at h
    · cases h
    · rename_i first number htake
      rcases (Lists.takeWhile_dropWhile_iff Text.isDecimal_dot).mp ⟨htake, Option.some.inj h⟩ with
        ⟨hcs, hdecimal⟩
      exact ⟨first :: number, ⟨by simp, hdecimal⟩, hcs⟩
  · rintro ⟨number, ⟨hne, hdecimal⟩, hcs⟩
    rcases (Lists.takeWhile_dropWhile_iff Text.isDecimal_dot).mpr ⟨hcs, hdecimal⟩ with
      ⟨htake, hdrop⟩
    cases number with
    | nil =>
        exact absurd rfl hne
    | cons first number =>
        rw [digits?, htake, hdrop]

theorem isVersionPattern_iff : isVersionPattern cs = true ↔ IsPattern cs := by
  constructor
  · intro h
    unfold isVersionPattern at h
    split at h
    · rename_i hdigits
      rcases digits?_eq_some_dot_iff.mp hdigits with ⟨major, hmajor, rfl⟩
      exact .major major hmajor
    · rename_i hdigits
      rcases digits?_eq_some_dot_iff.mp hdigits with ⟨major, hmajor, rfl⟩
      rcases digits?_eq_some_dot_iff.mp (beq_iff_eq.mp h) with ⟨minor, hminor, rfl⟩
      exact .minor major minor hmajor hminor
    · cases h
  · intro h
    cases h with
    | major major hmajor =>
        rw [isVersionPattern.eq_def, digits?_eq_some_dot_iff.mpr ⟨major, hmajor, rfl⟩]
        rfl
    | minor major minor hmajor hminor =>
        have hrest := digits?_eq_some_dot_iff.mpr ⟨minor, hminor, (rfl : minor ++ ['.', 'x'] = _)⟩
        rw [isVersionPattern.eq_def, digits?_eq_some_dot_iff.mpr ⟨major, hmajor, rfl⟩]
        split
        · rfl
        · rename_i heq
          cases heq
          exact beq_iff_eq.mpr hrest
        · rename_i hother
          exact absurd rfl (hother _)

theorem operator?_eq_some_iff {operator : List Char} :
    operator? cs = some (operator, 'v' :: rest) ↔
      exists comparator : Comparator, operator = comparator.text.toList ∧
        cs = operator ++ 'v' :: rest := by
  constructor
  · intro h
    unfold operator? at h
    split at h
    · cases h
      exact ⟨.atMost, rfl, rfl⟩
    · cases h
      exact ⟨.atLeast, rfl, rfl⟩
    · cases h
      exact ⟨.less, rfl, rfl⟩
    · cases h
      exact ⟨.greater, rfl, rfl⟩
    · cases h
      exact ⟨.equal, rfl, rfl⟩
    · cases h
  · rintro ⟨comparator, rfl, rfl⟩
    cases comparator <;> rfl

theorem splitExpression?_eq_some_iff {expression operator wanted : String} :
    splitExpression? expression = some (operator, wanted) ↔
      exists comparator : Comparator, operator = comparator.text ∧ IsPattern wanted.toList ∧
        expression = comparator.text ++ "v" ++ wanted := by
  constructor
  · intro h
    unfold splitExpression? at h
    split at h
    · rename_i operator' version hoperator
      split at h
      · rename_i hpattern
        rcases operator?_eq_some_iff.mp hoperator with ⟨comparator, rfl, hexpression⟩
        cases h
        refine ⟨comparator, String.ofList_toList, ?_, ?_⟩
        · rw [String.toList_ofList]
          exact isVersionPattern_iff.mp hpattern
        · apply String.toList_inj.mp
          rw [hexpression]
          simp
      · cases h
    · cases h
  · rintro ⟨comparator, rfl, hwanted, rfl⟩
    have hoperator : operator? (comparator.text ++ "v" ++ wanted).toList =
        some (comparator.text.toList, 'v' :: wanted.toList) :=
      operator?_eq_some_iff.mpr ⟨comparator, rfl, by simp⟩
    rw [splitExpression?, hoperator]
    simp [isVersionPattern_iff.mpr hwanted]

theorem splitExpression?_eq_none_iff {expression : String} :
    splitExpression? expression = none ↔ ¬ IsComparison expression := by
  rw [Option.eq_none_iff_forall_ne_some]
  constructor
  · rintro h ⟨comparator, wanted, hwanted, hexpression⟩
    exact h (comparator.text, wanted)
      (splitExpression?_eq_some_iff.mpr ⟨comparator, rfl, hwanted, hexpression⟩)
  · rintro h ⟨operator, wanted⟩ hsome
    rcases splitExpression?_eq_some_iff.mp hsome with ⟨comparator, _, hwanted, hexpression⟩
    exact h ⟨comparator, wanted, hwanted, hexpression⟩

/-!
# Evaluation
-/

variable {expression : String} {version : Option String}

theorem evaluate_eq_invalid_iff :
    evaluate expression block version =
        .error
          (.invalidDirective "Vault" expression "Vault:>=vX.Y.x" block.startLine block.endLine) ↔
      ¬ IsComparison expression := by
  rw [← splitExpression?_eq_none_iff]
  constructor
  · intro h
    cases hsplit : splitExpression? expression with
    | none =>
        rfl
    | some parts =>
        rw [evaluate, hsplit] at h
        cases version with
        | none =>
            cases h
        | some version =>
            dsimp only at h
            split at h <;> cases h
  · intro hsplit
    rw [evaluate, hsplit]

theorem evaluate_without_version (h : IsComparison expression) :
    evaluate expression block none =
      .error (.missingDocumentVersion block.content block.startLine block.endLine) := by
  rcases h with ⟨comparator, wanted, hwanted, hexpression⟩
  rw [evaluate, splitExpression?_eq_some_iff.mpr ⟨comparator, rfl, hwanted, hexpression⟩]

theorem isNumber_digits (numeral : Version.Numeral) : IsNumber numeral.digits :=
  ⟨numeral.ne_nil, fun _ => numeral.decimal⟩

theorem isPattern_text (bound : Version.Bound) : IsPattern bound.text.toList := by
  rw [Version.Bound.text, String.toList_ofList]
  rcases bound with ⟨major, _ | minor⟩
  · exact .major major.digits (isNumber_digits major)
  · rw [Version.Bound.numbers, List.append_assoc]
    exact .minor major.digits minor.digits (isNumber_digits major) (isNumber_digits minor)

theorem evaluate_directory (comparator : Comparator) (bound : Version.Bound)
    (directory : Version.Directory) :
    evaluate (comparator.text ++ "v" ++ bound.text) block (some directory.name) =
      .ok (comparator.holds directory.version bound.version) := by
  have hsplit := splitExpression?_eq_some_iff.mpr ⟨comparator, rfl, isPattern_text bound, rfl⟩
  simp only [evaluate, hsplit, Comparator.parse?_text, directory.normalize?_name,
    bound.normalize?_text]

end Directive

namespace Exclusion

open Comparator Version

variable {block : DirectiveBlock} {remainder : String}

/-- Whether a block is for builds of the first product, with what follows the name of it. -/
def HasRemainder (block : DirectiveBlock) (remainder : String) : Prop :=
  block.content = "Vault:" ++ remainder ∨ (block.content = "Vault" ∧ remainder = "")

theorem parse_of_hasRemainder (h : HasRemainder block remainder) :
    Directive.parse block = .ok (.vault remainder) := by
  rcases h with hcontent | ⟨hcontent, rfl⟩
  · have hsplit : Text.splitOnce ':' block.content = some ("Vault", remainder) := by
      rw [hcontent, Text.splitOnce]
      simp
    simp [Directive.parse, hsplit]
  · have hsplit : Text.splitOnce ':' block.content = none := by
      rw [hcontent]
      decide
    rw [Directive.parse, hsplit, hcontent]
    rfl

theorem verdict_of_hasRemainder (audience : Audience) (h : HasRemainder block remainder) :
    verdict audience block =
      if audience.product = "vault" then
        Directive.evaluate remainder block audience.version
      else
        .ok true := by
  rw [verdict, parse_of_hasRemainder h]
  rfl

/-- The content of a block for the versions that stand in a relation to a bound. -/
def comparing (comparator : Comparator) (bound : Version.Bound) : String :=
  "Vault:" ++ (comparator.text ++ "v" ++ bound.text)

variable {comparator : Comparator} {bound : Version.Bound}

theorem verdict_directory (h : block.content = comparing comparator bound) (file : String)
    (directory : Version.Directory) :
    verdict ⟨file, "vault", some directory.name⟩ block =
      .ok (comparator.holds directory.version bound.version) := by
  rw [verdict_of_hasRemainder _ (Or.inl h), if_pos rfl]
  exact Directive.evaluate_directory comparator bound directory

theorem verdict_directory_eq_true_iff (h : block.content = comparing comparator bound)
    (file : String) (directory : Version.Directory) :
    verdict ⟨file, "vault", some directory.name⟩ block = .ok true ↔
      comparator.Relates directory.version.numbers bound.version.numbers := by
  rw [verdict_directory h, Except.ok.injEq]
  exact Comparator.holds_iff

theorem verdict_directory_eq_false_iff (h : block.content = comparing comparator bound)
    (file : String) (directory : Version.Directory) :
    verdict ⟨file, "vault", some directory.name⟩ block = .ok false ↔
      ¬ comparator.Relates directory.version.numbers bound.version.numbers := by
  rw [verdict_directory h, Except.ok.injEq, ← Bool.not_eq_true]
  exact not_congr Comparator.holds_iff

/-- Which builds keep a block that compares versions.

A build of the product at a version keeps it if the numbers of the version stand in the relation
to those of the bound, and drops it otherwise.  So one of the blocks for the smaller versions, the
equal one and the greater ones is kept, and the block for the others of the smaller ones is kept
when that for the smaller ones is not.  What follows the name of the product has to be a
comparison, and the build has to have a version; other products do not read it. -/
theorem comparison_exact :
    (forall file (directory : Version.Directory) comparator bound block,
      block.content = comparing comparator bound ->
        (verdict ⟨file, "vault", some directory.name⟩ block = .ok true ↔
          comparator.Relates directory.version.numbers bound.version.numbers) ∧
        (verdict ⟨file, "vault", some directory.name⟩ block = .ok false ↔
          ¬ comparator.Relates directory.version.numbers bound.version.numbers)) ∧
    (forall file (directory : Version.Directory) bound (blocks : Comparator -> DirectiveBlock),
      (forall comparator, (blocks comparator).content = comparing comparator bound) ->
        (exists comparator, comparator ∈ [.less, .equal, .greater] ∧
          verdict ⟨file, "vault", some directory.name⟩ (blocks comparator) = .ok true ∧
          forall other, other ∈ [.less, .equal, .greater] -> other ≠ comparator ->
            verdict ⟨file, "vault", some directory.name⟩ (blocks other) = .ok false) ∧
        (verdict ⟨file, "vault", some directory.name⟩ (blocks .less) = .ok true ↔
          verdict ⟨file, "vault", some directory.name⟩ (blocks .atLeast) = .ok false)) ∧
    forall block remainder, HasRemainder block remainder ->
      (forall file version,
        verdict ⟨file, "vault", version⟩ block =
            .error (.invalidDirective "Vault" remainder "Vault:>=vX.Y.x" block.startLine
              block.endLine) ↔
          ¬ Directive.IsComparison remainder) ∧
      (Directive.IsComparison remainder -> forall file,
        verdict ⟨file, "vault", none⟩ block =
          .error (.missingDocumentVersion block.content block.startLine block.endLine)) ∧
      forall audience : Audience, audience.product ≠ "vault" ->
        verdict audience block = .ok true := by
  refine ⟨?_, ?_, ?_⟩
  · intro file directory comparator bound block hcontent
    exact ⟨verdict_directory_eq_true_iff hcontent file directory,
      verdict_directory_eq_false_iff hcontent file directory⟩
  · intro file directory bound blocks hcontent
    constructor
    · rcases Comparator.exists_relates directory.version.numbers bound.version.numbers with
        ⟨comparator, hmem, hrelates, hothers⟩
      refine ⟨comparator, hmem, ?_, ?_⟩
      · exact (verdict_directory_eq_true_iff (hcontent comparator) file directory).mpr hrelates
      · intro other hother hne
        exact (verdict_directory_eq_false_iff (hcontent other) file directory).mpr
          (hothers other hother hne)
    · rw [verdict_directory_eq_true_iff (hcontent .less),
        verdict_directory_eq_false_iff (hcontent .atLeast)]
      exact not_le.symm
  · intro block remainder hremainder
    refine ⟨?_, ?_, ?_⟩
    · intro file version
      rw [verdict_of_hasRemainder _ hremainder, if_pos rfl]
      exact Directive.evaluate_eq_invalid_iff
    · intro hcomparison file
      rw [verdict_of_hasRemainder _ hremainder, if_pos rfl]
      exact Directive.evaluate_without_version hcomparison
    · intro audience hproduct
      rw [verdict_of_hasRemainder _ hremainder, if_neg hproduct]

/-- Zeros in front of the numbers and a stage behind them, a build without a version, and a
comparator that there is not. -/
theorem comparison_exact_padded :
    verdict ⟨"a.mdx", "vault", some "v1.010.x (rc)"⟩
        ⟨1, 2, "Vault:>=v0001.0000000000000009.x", 1, 3⟩ = .ok true ∧
      verdict ⟨"a.mdx", "vault", some "v1.010.x (rc)"⟩
        ⟨1, 2, "Vault:<v0001.0000000000000009.x", 1, 3⟩ = .ok false ∧
      verdict ⟨"a.mdx", "vault", none⟩ ⟨1, 2, "Vault:<v0001.0000000000000009.x", 1, 3⟩ =
        .error (.missingDocumentVersion "Vault:<v0001.0000000000000009.x" 1 3) ∧
      verdict ⟨"a.mdx", "vault", none⟩ ⟨1, 2, "Vault:~v1.2.x", 1, 3⟩ =
        .error (.invalidDirective "Vault" "~v1.2.x" "Vault:>=vX.Y.x" 1 3) ∧
      verdict ⟨"a.mdx", "terraform", some "v1.8.x"⟩ ⟨1, 2, "Vault:~v1.2.x", 1, 3⟩ = .ok true := by
  let one : Version.Numeral := ⟨['1'], by decide, by decide, by decide⟩
  let padded : Version.Numeral := ⟨['0', '0', '0', '1'], by decide, by decide, by decide⟩
  let ten : Version.Numeral := ⟨['0', '1', '0'], by decide, by decide, by decide⟩
  let nine : Version.Numeral :=
    ⟨List.replicate 15 '0' ++ ['9'], by decide, by decide, by decide⟩
  let bound : Version.Bound := ⟨padded, some nine⟩
  let directory : Version.Directory := ⟨one, ten, none, some "rc"⟩
  have hname : "v1.010.x (rc)" = directory.name := by
    decide
  have hkeeps : Comparator.atLeast.holds directory.version bound.version = true := by
    decide +kernel
  have hdrops : ¬ Comparator.less.holds directory.version bound.version = true := by
    decide +kernel
  have hcomparison : Directive.IsComparison "<v0001.0000000000000009.x" :=
    ⟨.less, bound.text, Directive.isPattern_text bound, by decide⟩
  have hinvalid : ¬ Directive.IsComparison "~v1.2.x" :=
    Directive.splitExpression?_eq_none_iff.mp (by decide)
  rcases comparison_exact with ⟨hkept, _, hothers⟩
  rw [hname]
  refine ⟨?_, ?_, ?_, ?_, ?_⟩
  · exact (hkept _ directory .atLeast bound _ (by decide)).1.mpr (Comparator.holds_iff.mp hkeeps)
  · exact (hkept _ directory .less bound _ (by decide)).2.mpr (mt Comparator.holds_iff.mpr hdrops)
  · exact (hothers _ _ (Or.inl rfl)).2.1 hcomparison _
  · exact ((hothers _ _ (Or.inl rfl)).1 _ _).mpr hinvalid
  · exact (hothers _ "~v1.2.x" (Or.inl rfl)).2.2 _ (by decide)

end Exclusion
end Docloom
