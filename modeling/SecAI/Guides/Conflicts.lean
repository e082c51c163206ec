/-
Module: SecAI.Guides.Conflicts
Purpose: The choice between approved guides that say different things.
Trusted boundary: none
Main exports:
  resolveGuideConflict, resolution_of_permutation
-/
import Mathlib.Data.List.Dedup
import Mathlib.Data.List.MinMax
import Mathlib.Data.List.Perm.Subperm
import Mathlib.Data.Prod.Lex
import Mathlib.Data.String.Basic

namespace SecAI.Guides

/-- `GuideSourceEvidence`; a date is a number of days. -/
structure GuideSourceEvidence where
  guideId : String
  version : String
  status : String
  effectiveFrom : Nat
  sourceSha256 : String
  statementSha256 : String
  supersedesVersion : Option String
deriving DecidableEq

inductive ConflictStatus where
  | noEvidence
  | found
  | conflict

inductive ConflictReason where
  | noApprovedGuide
  | consistentGuides
  | supersedingGuideSelected
  | approvedGuidesConflict

structure GuideConflictResolution where
  status : ConflictStatus
  reasonCode : ConflictReason
  selected : Option GuideSourceEvidence

def GuideSourceEvidence.order (item : GuideSourceEvidence) :
    Nat ×ₗ (String ×ₗ String) :=
  toLex (item.effectiveFrom, toLex (item.guideId, item.version))

def approved (evidence : List GuideSourceEvidence) :
    List GuideSourceEvidence :=
  evidence.filter fun item => decide (item.status = "APPROVED")

def olderThan (newest : GuideSourceEvidence)
    (items : List GuideSourceEvidence) : List GuideSourceEvidence :=
  items.filter fun item => decide (item ≠ newest)

/-- The newest guide names the one version of the others, which are older. -/
def Supersedes (newest : GuideSourceEvidence)
    (items : List GuideSourceEvidence) : Prop :=
  let versions := ((olderThan newest items).map (·.version)).dedup
  (∀ item ∈ items, item.guideId = newest.guideId) ∧
    versions.length = 1 ∧
    (∃ version ∈ versions, newest.supersedesVersion = some version) ∧
    ∀ item ∈ olderThan newest items, item.effectiveFrom < newest.effectiveFrom

instance (newest : GuideSourceEvidence) (items : List GuideSourceEvidence) :
    Decidable (Supersedes newest items) := by
  unfold Supersedes
  infer_instance

/-- `resolve_guide_conflict`; `max` returns the first of the largest items. -/
def resolveGuideConflict (evidence : List GuideSourceEvidence) :
    GuideConflictResolution :=
  match (approved evidence).argmax GuideSourceEvidence.order with
  | none => ⟨.noEvidence, .noApprovedGuide, none⟩
  | some newest =>
      if ((approved evidence).map (·.statementSha256)).dedup.length = 1 then
        ⟨.found, .consistentGuides, some newest⟩
      else if Supersedes newest (approved evidence) then
        ⟨.found, .supersedingGuideSelected, some newest⟩
      else ⟨.conflict, .approvedGuidesConflict, none⟩

theorem length_dedup_eq_one_iff {α : Type} [DecidableEq α] {items : List α}
    {first : α} (member : first ∈ items) :
    items.dedup.length = 1 ↔ ∀ item ∈ items, item = first := by
  constructor
  · intro one item other
    obtain ⟨only, isOnly⟩ := List.length_eq_one_iff.mp one
    rw [← List.mem_dedup, isOnly, List.mem_singleton] at member other
    exact other.trans member.symm
  · intro all
    have same : items.dedup ⊆ [first] := fun item isIn =>
      List.mem_singleton.mpr (all item (List.mem_dedup.mp isIn))
    have few := ((List.nodup_dedup items).subperm same).length_le
    have some := List.length_pos_of_mem (List.mem_dedup.mpr member)
    exact Nat.le_antisymm few some

section Choice

variable {evidence other : List GuideSourceEvidence}
  {newest : GuideSourceEvidence}

variable {items others : List GuideSourceEvidence}

/-- What is the newest of some items is so in every order, up to its order. -/
theorem exists_newest_of_perm (same : others.Perm items)
    (isNewest : items.argmax GuideSourceEvidence.order = some newest) :
    ∃ another, others.argmax GuideSourceEvidence.order = some another ∧
      another ∈ items ∧ another.order = newest.order := by
  have member := List.argmax_mem isNewest
  cases found : others.argmax GuideSourceEvidence.order with
  | none =>
      rw [List.argmax_eq_none] at found
      subst found
      exact absurd (same.mem_iff.mpr member) List.not_mem_nil
  | some another =>
      have inItems := same.mem_iff.mp (List.argmax_mem found)
      exact ⟨another, rfl, inItems, le_antisymm
        (List.le_of_mem_argmax inItems isNewest)
        (List.le_of_mem_argmax (same.mem_iff.mpr member) found)⟩

theorem Supersedes.perm (same : others.Perm items) :
    Supersedes newest others ↔ Supersedes newest items := by
  have older := same.filter fun item => decide (item ≠ newest)
  have versions := (older.map (·.version)).dedup
  unfold Supersedes olderThan
  simp only [same.mem_iff, older.mem_iff, versions.length_eq, versions.mem_iff]

/-- Another item of the same date is not superseded. -/
theorem Supersedes.unique {another : GuideSourceEvidence}
    (supersedes : Supersedes newest items) (member : another ∈ items)
    (same : another.order = newest.order) : another = newest := by
  by_contra differ
  have later := supersedes.2.2.2 another
    (List.mem_filter.mpr ⟨member, decide_eq_true differ⟩)
  have dates : another.effectiveFrom = newest.effectiveFrom :=
    congrArg (fun order => (ofLex order).1) same
  omega

theorem approved_perm (same : other.Perm evidence) :
    (approved other).Perm (approved evidence) := same.filter _

theorem resolution_perm (same : (approved other).Perm (approved evidence)) :
    (resolveGuideConflict other).status =
      (resolveGuideConflict evidence).status ∧
    (resolveGuideConflict other).reasonCode =
      (resolveGuideConflict evidence).reasonCode ∧
    (resolveGuideConflict other).selected.map (·.order) =
      (resolveGuideConflict evidence).selected.map (·.order) ∧
    ((∀ first ∈ approved evidence, ∀ second ∈ approved evidence,
      first.order = second.order → first = second) →
      resolveGuideConflict other = resolveGuideConflict evidence) := by
  unfold resolveGuideConflict
  cases isNewest : (approved evidence).argmax GuideSourceEvidence.order with
  | none =>
      rw [List.argmax_eq_none] at isNewest
      rw [isNewest] at same
      rw [same.eq_nil]
      exact ⟨rfl, rfl, rfl, fun _ => rfl⟩
  | some newest =>
      obtain ⟨another, found, member, tied⟩ :=
        exists_newest_of_perm same isNewest
      have statements := (same.map (·.statementSha256)).dedup.length_eq
      have unique : Supersedes newest (approved evidence) ∨
          Supersedes another (approved other) → another = newest := by
        rintro (supersedes | supersedes)
        · exact supersedes.unique member tied
        · exact (supersedes.unique (same.mem_iff.mpr
            (List.argmax_mem isNewest)) tied.symm).symm
      have both : Supersedes another (approved other) ↔
          Supersedes newest (approved evidence) := by
        constructor
        · intro supersedes
          rw [← unique (.inr supersedes), ← Supersedes.perm same]
          exact supersedes
        · intro supersedes
          rw [unique (.inl supersedes), Supersedes.perm same]
          exact supersedes
      rw [found]
      simp only [statements, both]
      split_ifs with agree supersedes
      · refine ⟨rfl, rfl, congrArg some tied, fun settled => ?_⟩
        rw [settled another member newest (List.argmax_mem isNewest) tied]
      · rw [unique (.inl supersedes)]
        exact ⟨rfl, rfl, rfl, fun _ => rfl⟩
      · exact ⟨rfl, rfl, rfl, fun _ => rfl⟩

/-- A permutation of the evidence is resolved with the same status and reason
and selects a guide of the same date, id and version, the same one if there is
no other such guide. What is selected is an approved guide of the last date.
Where a guide is found, the approved statements agree, or all approved guides
have one id and the others have one version, which the selected guide names,
and earlier dates. -/
theorem resolution_of_permutation (evidence : List GuideSourceEvidence) :
    (∀ other : List GuideSourceEvidence, other.Perm evidence →
      (resolveGuideConflict other).status =
        (resolveGuideConflict evidence).status ∧
      (resolveGuideConflict other).reasonCode =
        (resolveGuideConflict evidence).reasonCode ∧
      (resolveGuideConflict other).selected.map (·.order) =
        (resolveGuideConflict evidence).selected.map (·.order) ∧
      ((∀ first ∈ approved evidence, ∀ second ∈ approved evidence,
        first.order = second.order → first = second) →
        resolveGuideConflict other = resolveGuideConflict evidence)) ∧
    ((resolveGuideConflict evidence).status = .found ↔
      (resolveGuideConflict evidence).selected.isSome = true) ∧
    ∀ selected, (resolveGuideConflict evidence).selected = some selected →
      selected ∈ evidence ∧ selected.status = "APPROVED" ∧
      (∀ item ∈ approved evidence,
        item.effectiveFrom ≤ selected.effectiveFrom) ∧
      ((∀ item ∈ approved evidence,
        item.statementSha256 = selected.statementSha256) ∨
        Supersedes selected (approved evidence)) := by
  refine ⟨fun other same => resolution_perm (approved_perm same), ?_, ?_⟩
  · unfold resolveGuideConflict
    split
    · exact iff_of_false nofun nofun
    split_ifs
    · exact iff_of_true rfl rfl
    · exact iff_of_true rfl rfl
    · exact iff_of_false nofun nofun
  · intro selected isSelected
    unfold resolveGuideConflict at isSelected
    split at isSelected
    · cases isSelected
    rename_i newest isNewest
    have member := List.argmax_mem isNewest
    have dates : ∀ item ∈ approved evidence,
        item.effectiveFrom ≤ newest.effectiveFrom := fun item isItem =>
      Prod.Lex.monotone_fst _ _ (List.le_of_mem_argmax isItem isNewest)
    have isApproved := List.mem_filter.mp member
    split_ifs at isSelected with agree supersedes
    · cases isSelected
      exact ⟨isApproved.1, of_decide_eq_true isApproved.2, dates,
        .inl (List.forall_mem_map.mp ((length_dedup_eq_one_iff
          (List.mem_map_of_mem member)).mp agree))⟩
    · cases isSelected
      exact ⟨isApproved.1, of_decide_eq_true isApproved.2, dates,
        .inr supersedes⟩

end Choice

/-- A guide of 2026 with a source. -/
def guideOf (sourceSha256 : String) : GuideSourceEvidence where
  guideId := "kisa-pc"
  version := "2026"
  status := "APPROVED"
  effectiveFrom := 9496
  sourceSha256 := sourceSha256
  statementSha256 := "a"
  supersedesVersion := none

/-- Of two guides of one date, id and version the first one is selected. -/
theorem first_of_tied_guides_is_selected :
    [guideOf "2", guideOf "1"].Perm [guideOf "1", guideOf "2"] ∧
    (resolveGuideConflict [guideOf "1", guideOf "2"]).selected =
      some (guideOf "1") ∧
    (resolveGuideConflict [guideOf "2", guideOf "1"]).selected =
      some (guideOf "2") := by
  exact ⟨.swap _ _ _, by decide +kernel, by decide +kernel⟩

end SecAI.Guides
