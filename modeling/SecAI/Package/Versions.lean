/-
Module: SecAI.Package.Versions
Purpose: The order in which the full validator compares versions, and the two
  versions of which each is said to be the later one.
Trusted boundary: none
Main exports:
  SemanticVersion.Tied, version_order
-/
import SecAI.Package.FullValidator
import Mathlib.Data.List.Lex
import Mathlib.Data.String.Basic
import Mathlib.Data.Prod.Lex

namespace SecAI.Package

/-! ## Parts of a prerelease -/

/-- What counts of a part: numerals come first, by their value. -/
def precedence (part : List Char) : Bool ×ₗ ℕ ×ₗ String :=
  if isDigitPart part then toLex (false, toLex (digitsValue part, ""))
  else toLex (true, toLex (0, String.ofList part))

theorem comparePart_eq (left right : List Char) :
    comparePart left right =
      if precedence left < precedence right then -1 else 1 := by
  unfold comparePart precedence
  by_cases one : isDigitPart left = true <;>
    by_cases two : isDigitPart right = true <;>
      simp [one, two, Prod.Lex.toLex_lt_toLex, -String.lt_iff_ltb]

theorem precedence_eq_iff {left right : List Char} (different : left ≠ right) :
    precedence left = precedence right ↔
      isDigitPart left = true ∧ isDigitPart right = true ∧
        digitsValue left = digitsValue right := by
  unfold precedence
  by_cases one : isDigitPart left = true <;>
    by_cases two : isDigitPart right = true <;>
      simp [one, two, different, String.ofList_inj]

/-- The first parts that differ are numerals of one value. -/
def Tied : List (List Char) → List (List Char) → Prop
  | left :: lefts, right :: rights =>
      if left = right then Tied lefts rights
      else isDigitPart left = true ∧ isDigitPart right = true ∧
        digitsValue left = digitsValue right
  | _, _ => False

theorem compareParts_swap (lefts rights : List (List Char)) :
    compareParts rights lefts = -compareParts lefts rights ↔
      ¬ Tied lefts rights := by
  induction lefts, rights using compareParts.induct with
  | case1 => simp [compareParts, Tied]
  | case2 => simp [compareParts, Tied]
  | case3 => simp [compareParts, Tied]
  | case4 lefts right rights ih => simpa [compareParts, Tied] using ih
  | case5 left lefts right rights different =>
      have other : right ≠ left := fun same => different same.symm
      simp only [compareParts, Tied, if_neg different, if_neg other,
        comparePart_eq]
      rw [← precedence_eq_iff different]
      rcases lt_trichotomy (precedence left) (precedence right) with
        less | same | more
      · simp [less, less.ne, less.not_gt]
      · simp [same]
      · simp [more, more.ne', more.not_gt]

theorem compareParts_trans {lefts middles rights : List (List Char)}
    (one : compareParts lefts middles ≤ 0)
    (two : compareParts middles rights ≤ 0) :
    compareParts lefts rights ≤ 0 := by
  induction lefts, middles using compareParts.induct generalizing rights with
  | case1 => exact two
  | case2 => cases rights <;> simp_all [compareParts]
  | case3 => simp [compareParts] at one
  | case4 lefts left middles ih =>
      cases rights with
      | nil => simp [compareParts] at two
      | cons right rights =>
          simp only [compareParts, if_true] at one two ⊢
          split
          · next same => exact ih one (by simpa only [if_pos same] using two)
          · next apart => simpa only [if_neg apart] using two
  | case5 left lefts middle middles different =>
      cases rights with
      | nil => simp [compareParts] at two
      | cons right rights =>
          simp only [compareParts, if_neg different, comparePart_eq]
            at one two ⊢
          -- The first difference on the left decides, or the one after it.
          have less : precedence left < precedence middle := by
            by_contra notLess
            simp [notLess] at one
          have least : precedence left < precedence right := by
            by_cases same : middle = right
            · exact same ▸ less
            · by_contra notLess
              have later : ¬ precedence middle < precedence right :=
                fun next => notLess (less.trans next)
              simp [same, later] at two
          have apart : left ≠ right := fun same => least.ne (same ▸ rfl)
          simp [apart, least]

/-! ## Versions -/

namespace SemanticVersion

def core (version : SemanticVersion) : List ℕ :=
  [version.major, version.minor, version.patch]

/-- Equal numbers, and prereleases that are tied. -/
def Tied (left right : SemanticVersion) : Prop :=
  left.core = right.core ∧
    ∃ lefts rights, left.prerelease = some lefts ∧
      right.prerelease = some rights ∧ Package.Tied lefts rights

def compare (left right : SemanticVersion) : Int :=
  if left.core ≠ right.core then if left.core < right.core then -1 else 1
  else comparePrerelease left.prerelease right.prerelease

variable {left middle right : SemanticVersion}

theorem compare_swap :
    right.compare left = -left.compare right ↔ ¬ left.Tied right := by
  unfold compare Tied
  rcases lt_trichotomy left.core right.core with less | same | more
  · simp [less, less.ne, less.ne', less.not_gt]
  · simp only [same, ne_eq, not_true, if_false, true_and]
    cases left.prerelease <;> cases right.prerelease
    · simp [comparePrerelease]
    · simp [comparePrerelease]
    · simp [comparePrerelease]
    · simpa [comparePrerelease] using compareParts_swap _ _
  · simp [more, more.ne, more.ne', more.not_gt]

theorem compare_le_zero : left.compare right ≤ 0 ↔
    left.core < right.core ∨ left.core = right.core ∧
      comparePrerelease left.prerelease right.prerelease ≤ 0 := by
  unfold compare
  rcases lt_trichotomy left.core right.core with less | same | more
  · simp [less, less.ne]
  · simp [same]
  · simp [more.ne', more.not_gt]

theorem compare_trans (one : left.compare middle ≤ 0)
    (two : middle.compare right ≤ 0) : left.compare right ≤ 0 := by
  rw [compare_le_zero] at *
  rcases one with less | ⟨same, one⟩
  · rcases two with next | ⟨other, -⟩
    · exact .inl (less.trans next)
    · exact .inl (other ▸ less)
  rcases two with next | ⟨other, two⟩
  · exact .inl (same ▸ next)
  refine .inr ⟨same.trans other, ?_⟩
  cases one' : left.prerelease <;> cases two' : middle.prerelease <;>
    cases three : right.prerelease <;>
      simp_all only [comparePrerelease] <;> try omega
  exact compareParts_trans one two

end SemanticVersion

theorem compareSemver_eq (left right : String) :
    compareSemver left right = (do
      let one ← semverParts left
      let two ← semverParts right
      pure (one.compare two)) := by
  simp only [compareSemver, SemanticVersion.compare, SemanticVersion.core,
    ← apply_ite pure]
  rfl

/-- The first version is not later than the second one. -/
def AtMost (left right : String) : Prop :=
  ∃ sign ≤ 0, compareSemver left right = .ok sign

theorem atMost_iff {left right : String} :
    AtMost left right ↔ ∃ one two, matchSemver left = some one ∧
      matchSemver right = some two ∧ one.compare two ≤ 0 := by
  rw [AtMost, compareSemver_eq]
  unfold semverParts
  cases matchSemver left <;> cases matchSemver right <;>
    simp [reject, bind, Except.bind, pure, Except.pure]

end SecAI.Package
