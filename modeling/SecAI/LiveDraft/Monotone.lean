/-
Module: SecAI.LiveDraft.Monotone
Purpose: Criteria that are tightened never turn a failure into a success.
Trusted boundary: as in the contracts of the live draft
Main exports:
  IsAsStrict, KeepsFailure, selectedCriteriaDecision_keepsFailure
-/
import SecAI.LiveDraft.Evaluation
import SecAI.LiveDraft.Outcomes

namespace SecAI.LiveDraft

open SecAI.Collector (ProbeObservation)
open SecAI.Criteria (CriteriaContext CriteriaValue CriteriaValues)
open SecAI.Text

/-! ## Strictness -/

def maximumKeys : List String :=
  ["password_maximum_age_days", "security_update_maximum_age_days",
    "antivirus_signature_maximum_age_hours",
    "screensaver_timeout_maximum_minutes"]

def flagKeys : List String :=
  ["password_complexity_required", "password_required",
    "wininet_current_user_scope_accepted",
    "screensaver_current_user_scope_accepted", "autoplay_disabled_required",
    "remote_assistance_disabled_required"]

def approvedKeys : List String :=
  ["approved_share_ids", "approved_messenger_products"]

/-- The second values are at least as strict as the first. -/
structure IsAsStrict (first second : CriteriaValues) : Prop where
  longer : ∀ before after,
    first.lookup "password_minimum_length" = some (.int before) →
    second.lookup "password_minimum_length" = some (.int after) →
    before ≤ after
  sooner : ∀ key ∈ maximumKeys, ∀ before after,
    first.lookup key = some (.int before) →
    second.lookup key = some (.int after) → after ≤ before
  kept : ∀ key ∈ flagKeys, first.lookup key = some (.bool true) →
    second.lookup key = some (.bool true)
  approved : ∀ key ∈ approvedKeys, ∀ before after,
    first.lookup key = some (.names before) →
    second.lookup key = some (.names after) → after ⊆ before
  unwanted : ∀ before after,
    first.lookup "unnecessary_service_ids" = some (.names before) →
    second.lookup "unnecessary_service_ids" = some (.names after) →
    before ⊆ after

/-! ## Comparisons -/

/-- What fails in the first comparison does not pass in the second. -/
def KeepsFailure (first second : Except LiveFault LiveDecision) : Prop :=
  ∀ before after, first = .ok before → second = .ok after →
    before.status = "FAIL" → after.status ≠ "PASS"

theorem verdictText_kept {weaker stricter : Bool}
    (implied : stricter = true → weaker = true)
    (failed : verdictText weaker = "FAIL") : verdictText stricter ≠ "PASS" := by
  rw [verdictText_eq_fail] at failed
  rw [Ne, verdictText_eq_pass]
  intro passed
  rw [implied passed] at failed
  cases failed

/-- A comparison that the criteria can only leave open: where it is made it
comes to the same. -/
theorem openOrFixed_kept (passed : Bool) {before after : String}
    (one : before ∈ ["REVIEW", "N/A"] ∨ before = verdictText passed)
    (two : after ∈ ["REVIEW", "N/A"] ∨ after = verdictText passed)
    (failed : before = "FAIL") : after ≠ "PASS" := by
  rcases one with isOpen | made
  · rw [failed] at isOpen
    exact absurd isOpen (by decide)
  rcases two with isOpen | again
  · rintro rfl
    exact absurd isOpen (by decide)
  rw [again]
  exact verdictText_kept id (made.symm.trans failed)

section Comparisons

variable {env : LiveEnvironment} {first second : CriteriaValues}
  {observation : ProbeObservation}

theorem PasswordReading.meets_of_stricter {reading : PasswordReading}
    {weaker stricter : PasswordCriteria}
    (longer : weaker.minimum ≤ stricter.minimum)
    (complex : weaker.requireComplexity = true →
      stricter.requireComplexity = true)
    (required : weaker.requirePassword = true →
      stricter.requirePassword = true)
    (meets : reading.meets stricter = true) : reading.meets weaker = true := by
  simp only [PasswordReading.meets, Bool.and_eq_true, Bool.or_eq_true,
    decide_eq_true_eq, Bool.not_eq_true'] at meets ⊢
  obtain ⟨⟨long, complexity⟩, password⟩ := meets
  refine ⟨⟨longer.trans long, ?_⟩, ?_⟩
  · cases needed : weaker.requireComplexity with
    | false => exact .inl rfl
    | true =>
        rw [complex needed] at complexity
        exact .inr (complexity.resolve_left nofun)
  · cases needed : weaker.requirePassword with
    | false => exact .inl rfl
    | true =>
        rw [required needed] at password
        exact .inr (password.resolve_left nofun)

theorem IsAsStrict.flag (strict : IsAsStrict first second) {key : String}
    (listed : key ∈ flagKeys) {before after : Bool}
    (one : first.lookup key = some (.bool before))
    (two : second.lookup key = some (.bool after)) (set : before = true) :
    after = true := by
  subst set
  have kept := strict.kept key listed one
  rw [two] at kept
  cases kept
  rfl

theorem passwordDecision_keepsFailure (strict : IsAsStrict first second) :
    KeepsFailure (passwordDecision first observation)
      (passwordDecision second observation) := by
  intro before after one two failed
  obtain ⟨reading, weaker, read, given, status⟩ := passwordDecision_status one
  obtain ⟨same, stricter, readAgain, givenAgain, statusAgain⟩ :=
    passwordDecision_status two
  cases read.symm.trans readAgain
  obtain ⟨minimum, complexity, required⟩ := passwordCriteria_eq_ok given
  obtain ⟨minimumAgain, complexityAgain, requiredAgain⟩ :=
    passwordCriteria_eq_ok givenAgain
  rw [status] at failed
  rw [statusAgain]
  refine verdictText_kept (PasswordReading.meets_of_stricter ?_ ?_ ?_) failed
  · exact strict.longer _ _ minimum minimumAgain
  · exact strict.flag (by decide) complexity complexityAgain
  · exact strict.flag (by decide) required requiredAgain

theorem unapprovedCount_eq_zero {observed approved : List (List Char)} :
    unapprovedCount observed approved = 0 ↔
      ∀ hash ∈ observed, hash ∈ approved := by
  rw [unapprovedCount, List.length_eq_zero_iff, List.filter_eq_nil_iff]
  simp only [List.mem_dedup, decide_eq_true_eq, not_not]

theorem ShareReading.meets_of_fewer {reading : ShareReading}
    {approved fewer : List (List Char)} (subset : fewer ⊆ approved)
    (meets : reading.meets fewer = true) : reading.meets approved = true := by
  simp only [ShareReading.meets, Bool.and_eq_true, decide_eq_true_eq,
    unapprovedCount_eq_zero] at meets ⊢
  obtain ⟨⟨counts, known⟩, disabled⟩ := meets
  exact ⟨⟨counts, fun hash member => subset (known hash member)⟩, disabled⟩

theorem shareDecision_keepsFailure (strict : IsAsStrict first second) :
    KeepsFailure (shareDecision env first observation)
      (shareDecision env second observation) := by
  intro before after one two failed
  obtain ⟨reading, approved, hashes, read, given, hashed, status⟩ :=
    shareDecision_status one
  obtain ⟨same, fewer, fewerHashes, readAgain, givenAgain, hashedAgain,
    statusAgain⟩ := shareDecision_status two
  cases read.symm.trans readAgain
  have subset := strict.approved "approved_share_ids" (by decide) _ _
    (sequence_eq_ok given) (sequence_eq_ok givenAgain)
  rw [status] at failed
  rw [statusAgain]
  refine verdictText_kept (ShareReading.meets_of_fewer ?_) failed
  intro hash member
  obtain ⟨name, inFewer, isHash⟩ := Outcome.mapM_mem hashedAgain hash member
  obtain ⟨other, inHashes, sameHash⟩ :=
    Outcome.related_of_mem (Outcome.mapM_eq_ok.mp hashed) (subset inFewer)
  rw [isHash] at sameHash
  cases sameHash
  exact inHashes

theorem countP_matchedServices {byKey : List Service} {isActive : Service → Bool}
    {targets more : List (List CodePoint)} (subset : targets ⊆ more)
    (none : (matchedServices env byKey more).countP isActive = 0) :
    (matchedServices env byKey targets).countP isActive = 0 := by
  rw [List.countP_eq_zero] at none ⊢
  intro service member
  obtain ⟨target, inTargets, found⟩ := List.mem_filterMap.mp member
  exact none service (List.mem_filterMap.mpr ⟨target, subset inTargets, found⟩)

theorem serviceDecision_keepsFailure (strict : IsAsStrict first second) :
    KeepsFailure (serviceDecision env first observation)
      (serviceDecision env second observation) := by
  intro before after one two failed
  obtain ⟨targets, byKey, given, read, status⟩ := serviceDecision_status one
  obtain ⟨more, same, givenAgain, readAgain, statusAgain⟩ :=
    serviceDecision_status two
  cases read.symm.trans readAgain
  have subset := strict.unwanted _ _ (serviceTargets_eq_ok given).1
    (serviceTargets_eq_ok givenAgain).1
  rw [status] at failed
  rw [statusAgain]
  refine verdictText_kept (fun none => ?_) failed
  simp only [Bool.and_eq_true, decide_eq_true_eq] at none ⊢
  exact ⟨countP_matchedServices subset none.1,
    countP_matchedServices subset none.2⟩

theorem approvedProducts_subset (strict : IsAsStrict first second)
    {approved fewer : List (List CodePoint)}
    (given : approvedProducts env first = .ok approved)
    (givenAgain : approvedProducts env second = .ok fewer) :
    fewer ⊆ approved := by
  simp only [approvedProducts, Outcome.bind_eq_ok] at given givenAgain
  obtain ⟨value, found, names, listed, made⟩ := given
  obtain ⟨_, foundAgain, fewerNames, listedAgain, madeAgain⟩ := givenAgain
  cases made
  cases madeAgain
  have subset := strict.approved "approved_messenger_products" (by decide) _ _
    (sequence_eq_ok (Outcome.bind_eq_ok.mpr ⟨_, found, listed⟩))
    (sequence_eq_ok (Outcome.bind_eq_ok.mpr ⟨_, foundAgain, listedAgain⟩))
  intro folded member
  rw [List.mem_dedup] at member ⊢
  exact List.map_subset _ subset member

theorem Messenger.isUnapproved_of_fewer
    {approved fewer : List (List CodePoint)} (subset : fewer ⊆ approved)
    {messenger : Messenger}
    (unapproved : messenger.isUnapproved env approved = true) :
    messenger.isUnapproved env fewer = true := by
  simp only [Messenger.isUnapproved, Bool.and_eq_true,
    decide_eq_true_eq] at unapproved ⊢
  exact ⟨fun member => unapproved.1 (subset member),
    fun member => unapproved.2 (subset member)⟩

theorem messengerDecision_keepsFailure (strict : IsAsStrict first second) :
    KeepsFailure (messengerDecision env first observation)
      (messengerDecision env second observation) := by
  intro before after one two failed
  obtain ⟨reading, approved, read, given, status⟩ :=
    messengerDecision_status one
  obtain ⟨same, fewer, readAgain, givenAgain, statusAgain⟩ :=
    messengerDecision_status two
  cases read.symm.trans readAgain
  have subset := approvedProducts_subset strict given givenAgain
  rcases status with ⟨-, status⟩ | status
  · rw [status] at failed
    exact absurd failed (by decide)
  rcases statusAgain with ⟨-, statusAgain⟩ | statusAgain
  · rw [statusAgain]
    decide
  rw [status] at failed
  rw [statusAgain]
  refine verdictText_kept (fun none => ?_) failed
  rw [List.isEmpty_iff, List.filter_eq_nil_iff] at none ⊢
  exact fun messenger member unapproved => none messenger member
    (Messenger.isUnapproved_of_fewer subset unapproved)

theorem updateDecision_keepsFailure (strict : IsAsStrict first second) :
    KeepsFailure (updateDecision env first observation)
      (updateDecision env second observation) := by
  intro before after one two failed
  obtain ⟨reading, maximum, read, given, status⟩ := updateDecision_status one
  obtain ⟨same, smaller, readAgain, givenAgain, statusAgain⟩ :=
    updateDecision_status two
  cases read.symm.trans readAgain
  have sooner := strict.sooner "security_update_maximum_age_days" (by decide) _
    _ (numberAt_eq_ok.mp given) (numberAt_eq_ok.mp givenAgain)
  rcases statusAgain with ⟨-, statusAgain⟩ |
    ⟨once, latest, age, isLatest, isAge, statusAgain⟩
  · rw [statusAgain]
    decide
  rcases status with ⟨never, -⟩ | ⟨-, other, sameAge, isOther, isSame, status⟩
  · exact absurd never once
  cases isLatest.symm.trans isOther
  cases isAge.symm.trans isSame
  rw [status] at failed
  rw [statusAgain]
  refine verdictText_kept (fun meets => ?_) failed
  simp only [UpdateReading.meets, Bool.and_eq_true,
    decide_eq_true_eq] at meets ⊢
  exact ⟨⟨meets.1.1.trans sooner, meets.1.2⟩, meets.2⟩

theorem antivirusDecision_keepsFailure (strict : IsAsStrict first second) :
    KeepsFailure (antivirusDecision env first observation)
      (antivirusDecision env second observation) := by
  intro before after one two failed
  obtain ⟨reading, maximum, read, given, status⟩ :=
    antivirusDecision_status one
  obtain ⟨same, smaller, readAgain, givenAgain, statusAgain⟩ :=
    antivirusDecision_status two
  cases read.symm.trans readAgain
  have sooner := strict.sooner "antivirus_signature_maximum_age_hours"
    (by decide) _ _ (numberAt_eq_ok.mp given) (numberAt_eq_ok.mp givenAgain)
  rcases statusAgain with ⟨-, statusAgain⟩ |
    ⟨present, age, isAge, -, statusAgain⟩
  · rw [statusAgain]
    decide
  rcases status with ⟨absent, -⟩ | ⟨-, sameAge, isSame, -, status⟩
  · rw [present] at absent
    cases absent
  cases isAge.symm.trans isSame
  rw [status] at failed
  rw [statusAgain]
  refine verdictText_kept (fun meets => ?_) failed
  simp only [AntivirusReading.meets, Bool.and_eq_true,
    decide_eq_true_eq] at meets ⊢
  exact ⟨meets.1, meets.2.trans sooner⟩

theorem wininetDecision_keepsFailure :
    KeepsFailure (wininetDecision first observation)
      (wininetDecision second observation) := by
  intro before after one two failed
  obtain ⟨reading, accepted, read, -, status⟩ := wininetDecision_status one
  obtain ⟨same, other, readAgain, -, statusAgain⟩ := wininetDecision_status two
  cases read.symm.trans readAgain
  refine openOrFixed_kept reading.meets ?_ ?_ failed
  · rcases status with ⟨-, status⟩ | ⟨-, ⟨-, status⟩ | ⟨-, status⟩⟩
    · exact .inl (by simp [status])
    · exact .inl (by simp [status])
    · exact .inr status
  · rcases statusAgain with ⟨-, status⟩ | ⟨-, ⟨-, status⟩ | ⟨-, status⟩⟩
    · exact .inl (by simp [status])
    · exact .inl (by simp [status])
    · exact .inr status

theorem screenSaverDecision_keepsFailure (strict : IsAsStrict first second) :
    KeepsFailure (screenSaverDecision first observation)
      (screenSaverDecision second observation) := by
  intro before after one two failed
  obtain ⟨reading, criteria, read, given, status⟩ :=
    screenSaverDecision_status one
  obtain ⟨same, stricter, readAgain, givenAgain, statusAgain⟩ :=
    screenSaverDecision_status two
  cases read.symm.trans readAgain
  have sooner := strict.sooner "screensaver_timeout_maximum_minutes"
    (by decide) _ _ (screenSaverCriteria_eq_ok given).2
    (screenSaverCriteria_eq_ok givenAgain).2
  rcases status with ⟨-, status⟩ | ⟨-, -, status⟩
  · rw [status] at failed
    exact absurd failed (by decide)
  rcases statusAgain with ⟨-, statusAgain⟩ | ⟨-, -, statusAgain⟩
  · rw [statusAgain]
    decide
  rw [status] at failed
  rw [statusAgain]
  refine verdictText_kept (fun meets => ?_) failed
  simp only [ScreenSaverReading.meets, Bool.and_eq_true, Option.any_eq_true,
    decide_eq_true_eq] at meets ⊢
  obtain ⟨locked, seconds, isTimeout, positive, within⟩ := meets
  exact ⟨locked, seconds, isTimeout, positive, by omega⟩

theorem autoplayDecision_keepsFailure :
    KeepsFailure (autoplayDecision first observation)
      (autoplayDecision second observation) := by
  intro before after one two failed
  obtain ⟨reading, required, read, -, status⟩ := autoplayDecision_status one
  obtain ⟨same, other, readAgain, -, statusAgain⟩ :=
    autoplayDecision_status two
  cases read.symm.trans readAgain
  exact openOrFixed_kept reading.meets
    (status.imp (fun review => by simp [review.2]) And.right)
    (statusAgain.imp (fun review => by simp [review.2]) And.right) failed

theorem assistanceDecision_keepsFailure :
    KeepsFailure (assistanceDecision first observation)
      (assistanceDecision second observation) := by
  intro before after one two failed
  obtain ⟨reading, required, read, -, status⟩ := assistanceDecision_status one
  obtain ⟨same, other, readAgain, -, statusAgain⟩ :=
    assistanceDecision_status two
  cases read.symm.trans readAgain
  exact openOrFixed_kept reading.meets
    (status.imp (fun review => by simp [review.2]) And.right)
    (statusAgain.imp (fun review => by simp [review.2]) And.right) failed

/-- What fails under criteria does not pass under stricter ones. -/
theorem selectedCriteriaDecision_keepsFailure
    (strict : IsAsStrict first second) {controlId : String}
    {before after : LiveDecision}
    (one : selectedCriteriaDecision env controlId first observation =
      .ok (some before))
    (two : selectedCriteriaDecision env controlId second observation =
      .ok (some after))
    (failed : before.status = "FAIL") : after.status ≠ "PASS" := by
  have kept {weaker stricter : Except LiveFault LiveDecision}
      (keeps : KeepsFailure weaker stricter)
      (made : some <$> weaker = .ok (some before))
      (again : some <$> stricter = .ok (some after)) :
      after.status ≠ "PASS" := by
    cases weaker with
    | error => cases made
    | ok =>
        cases stricter with
        | error => cases again
        | ok =>
            cases made
            cases again
            exact keeps _ _ rfl rfl failed
  unfold selectedCriteriaDecision at one two
  split at one
  · exact kept (passwordDecision_keepsFailure strict) one two
  · exact kept (shareDecision_keepsFailure strict) one two
  · exact kept (serviceDecision_keepsFailure strict) one two
  · exact kept (messengerDecision_keepsFailure strict) one two
  · exact kept (updateDecision_keepsFailure strict) one two
  · exact kept (antivirusDecision_keepsFailure strict) one two
  · exact kept wininetDecision_keepsFailure one two
  · exact kept (screenSaverDecision_keepsFailure strict) one two
  · exact kept autoplayDecision_keepsFailure one two
  · exact kept assistanceDecision_keepsFailure one two
  · cases one

theorem selectedCriteriaDecision_none {controlId : String}
    (none : selectedCriteriaDecision env controlId first observation =
      .ok none) :
    selectedCriteriaDecision env controlId second observation =
      .ok Option.none := by
  have never {made : Except LiveFault LiveDecision} :
      some <$> made ≠ .ok Option.none := by
    cases made <;> nofun
  unfold selectedCriteriaDecision at none ⊢
  split at none
  all_goals first | exact absurd none never | rfl

end Comparisons

/-! ## Decisions of a control -/

/-- Two decisions are made alike, and what fails in the first does not pass in
the second. -/
structure IsKept (first second : Option LiveDecision) : Prop where
  alike : first = none ↔ second = none
  kept : ∀ before ∈ first, ∀ after ∈ second, before.status = "FAIL" →
    after.status ≠ "PASS"

theorem IsKept.refl (decision : Option LiveDecision) :
    IsKept decision decision where
  alike := Iff.rfl
  kept := by
    intro before one after two failed
    cases Option.mem_unique one two
    rw [failed]
    decide

section Decisions

variable {env : LiveEnvironment} {pack : AuditPack} {controlId : String}
  {observation : ProbeObservation} {first second : CriteriaContext}

/-- A comparison whose faults become an error. -/
theorem orElse_isKept (strict : IsAsStrict first.values second.values)
    {instead : LiveDecision} (isError : instead.status = "ERROR") :
    IsKept
      (orElse (selectedCriteriaDecision env controlId first.values observation)
        instead)
      (orElse (selectedCriteriaDecision env controlId second.values observation)
        instead) := by
  have keeps := @selectedCriteriaDecision_keepsFailure env first.values
    second.values observation strict controlId
  have onward := @selectedCriteriaDecision_none env first.values second.values
    observation controlId
  have backward := @selectedCriteriaDecision_none env second.values first.values
    observation controlId
  generalize selectedCriteriaDecision env controlId first.values observation =
    one at *
  generalize selectedCriteriaDecision env controlId second.values observation =
    two at *
  constructor
  case alike =>
    constructor
    · intro isNone
      cases one with
      | error => cases isNone
      | ok made =>
          cases isNone
          rw [onward rfl]
          rfl
    · intro isNone
      cases two with
      | error => cases isNone
      | ok made =>
          cases isNone
          rw [backward rfl]
          rfl
  case kept =>
    intro before isBefore after isAfter failed
    cases one with
    | error =>
        cases isBefore
        rw [isError] at failed
        exact absurd failed (by decide)
    | ok made =>
        cases isBefore
        cases two with
        | error =>
            cases isAfter
            rw [isError]
            decide
        | ok again =>
            cases isAfter
            exact keeps rfl rfl failed

theorem liveAdministratorDecision_isKept
    (strict : IsAsStrict first.values second.values) :
    IsKept (liveAdministratorDecision env controlId observation (some first))
      (liveAdministratorDecision env controlId observation (some second)) := by
  unfold liveAdministratorDecision
  split
  · exact .refl _
  split
  · exact .refl _
  unfold collectedDecision
  split
  · exact .refl _
  · exact orElse_isKept strict rfl

theorem scopedDecision_isKept
    (strict : IsAsStrict first.values second.values) :
    IsKept (scopedDecision env controlId observation (some first))
      (scopedDecision env controlId observation (some second)) := by
  unfold scopedDecision
  dsimp only
  split
  · exact orElse_isKept strict rfl
  · exact .refl _

theorem controlDecision_kept (strict : IsAsStrict first.values second.values)
    {suppliedProbes : List String} {evidence : List Json}
    (failed : (controlDecision env pack suppliedProbes (some first) controlId
      evidence observation).1.status = "FAIL") :
    (controlDecision env pack suppliedProbes (some second) controlId evidence
      observation).1.status ≠ "PASS" := by
  obtain ⟨alike, kept⟩ := @liveAdministratorDecision_isKept env controlId
    observation first second strict
  obtain ⟨scopedAlike, scopedKept⟩ := @scopedDecision_isKept env controlId
    observation first second strict
  unfold controlDecision at failed ⊢
  cases one : liveAdministratorDecision env controlId observation
      (some first) with
  | some before =>
      cases two : liveAdministratorDecision env controlId observation
          (some second) with
      | some after =>
          rw [one] at failed
          exact kept before one after two failed
      | none => exact absurd (alike.mpr two) (by simp [one])
  | none =>
      rw [one] at failed
      rw [alike.mp one]
      dsimp only at failed ⊢
      cases scopedOne : scopedDecision env controlId observation
          (some first) with
      | some before =>
          cases scopedTwo : scopedDecision env controlId observation
              (some second) with
          | some after =>
              rw [scopedOne] at failed
              exact scopedKept before scopedOne after scopedTwo failed
          | none => exact absurd (scopedAlike.mpr scopedTwo) (by simp [scopedOne])
      | none =>
          rw [scopedOne] at failed
          rw [scopedAlike.mp scopedOne]
          dsimp only at failed ⊢
          rw [failed]
          decide

/-! ## Additional criteria -/

variable {context : CriteriaContext} {result : AdditionalResult}

theorem additionalResult_status
    {key status actual expected explanation : String}
    (made : additionalResult context key status actual expected explanation =
      .ok result) : result.status = status := by
  unfold additionalResult at made
  split at made
  · cases made
    rfl
  · cases made

theorem additionalResult_some
    {key status actual expected explanation : String}
    (made : some <$> additionalResult context key status actual expected
      explanation = .ok (some result)) : result.status = status := by
  cases found : additionalResult context key status actual expected
      explanation with
  | error => rw [found] at made; cases made
  | ok other =>
      rw [found] at made
      cases made
      exact additionalResult_status found

theorem additionalPasswordAge_status
    (made : additionalPasswordAge context observation = .ok (some result)) :
    ∃ value observed maximum, firstRecord observation = .ok value ∧
      valueAt value "maximum_password_age_days" = .int observed ∧
      context.values.lookup "password_maximum_age_days" =
        some (.int maximum) ∧
      result.status = verdictText
        (decide (0 < observed ∧ observed ≤ maximum)) := by
  simp only [additionalPasswordAge, Outcome.bind_eq_ok,
    numberAt_eq_ok] at made
  obtain ⟨value, read, maximum, given, made⟩ := made
  split at made
  case h_2 => cases made
  case h_1 observed isObserved =>
    split at made
    case isTrue => cases made
    case isFalse =>
      simp only [Outcome.bind_eq_ok] at made
      obtain ⟨_, -, _, -, made⟩ := made
      exact ⟨value, observed, maximum, read, isObserved, given,
        additionalResult_some made⟩

theorem additionalScreenSaver_status
    (made : additionalScreenSaver context observation = .ok (some result)) :
    result.status = "REVIEW" ∨
      ∃ value seconds maximum, firstRecord observation = .ok value ∧
        nonNegativeInteger (valueAt value "screen_save_timeout_seconds") "" =
          .ok seconds ∧
        context.values.lookup "screensaver_timeout_maximum_minutes" =
          some (.int maximum) ∧
        result.status = verdictText (decide (seconds ≤ maximum * 60)) := by
  simp only [additionalScreenSaver, Outcome.bind_eq_ok,
    numberAt_eq_ok] at made
  obtain ⟨value, read, maximum, given, _, -, made⟩ := made
  split at made
  case h_1 seconds isTimeout =>
    obtain ⟨_, -, made⟩ := Outcome.bind_eq_ok.mp made
    exact .inr ⟨value, seconds, maximum, read, isTimeout, given,
      additionalResult_some made⟩
  case h_2 => exact .inl (additionalResult_some made)

theorem orNone_eq_some {result : Except LiveFault (Option AdditionalResult)}
    {additional : AdditionalResult}
    (made : (.ok (orNone result) :
      Except LiveFault (Option AdditionalResult)) = .ok (some additional)) :
    result = .ok (some additional) := by
  cases result with
  | error => cases made
  | ok found =>
      cases made
      rfl

theorem additionalPasswordAge_kept
    (strict : IsAsStrict first.values second.values)
    {before after : AdditionalResult}
    (one : additionalPasswordAge first observation = .ok (some before))
    (two : additionalPasswordAge second observation = .ok (some after))
    (failed : before.status = "FAIL") : after.status ≠ "PASS" := by
  obtain ⟨value, observed, maximum, read, isObserved, given, status⟩ :=
    additionalPasswordAge_status one
  obtain ⟨same, again, smaller, readAgain, isAgain, givenAgain, statusAgain⟩ :=
    additionalPasswordAge_status two
  cases read.symm.trans readAgain
  cases isObserved.symm.trans isAgain
  have sooner := strict.sooner "password_maximum_age_days" (by decide) _ _ given
    givenAgain
  rw [status] at failed
  rw [statusAgain]
  refine verdictText_kept (fun meets => ?_) failed
  rw [decide_eq_true_eq] at meets ⊢
  exact ⟨meets.1, meets.2.trans sooner⟩

theorem additionalScreenSaver_kept
    (strict : IsAsStrict first.values second.values)
    {before after : AdditionalResult}
    (one : additionalScreenSaver first observation = .ok (some before))
    (two : additionalScreenSaver second observation = .ok (some after))
    (failed : before.status = "FAIL") : after.status ≠ "PASS" := by
  rcases additionalScreenSaver_status one with status |
    ⟨value, seconds, maximum, read, isTimeout, given, status⟩
  · rw [status] at failed
    exact absurd failed (by decide)
  rcases additionalScreenSaver_status two with statusAgain |
    ⟨same, again, smaller, readAgain, isAgain, givenAgain, statusAgain⟩
  · rw [statusAgain]
    decide
  cases read.symm.trans readAgain
  cases isTimeout.symm.trans isAgain
  have sooner := strict.sooner "screensaver_timeout_maximum_minutes" (by decide)
    _ _ given givenAgain
  rw [status] at failed
  rw [statusAgain]
  refine verdictText_kept (fun meets => ?_) failed
  rw [decide_eq_true_eq] at meets ⊢
  omega

/-- The additional criteria beside the decision of a control. -/
theorem additionalCriteriaDecision_kept
    (strict : IsAsStrict first.values second.values)
    {before after : AdditionalResult}
    (one : additionalCriteriaDecision env controlId observation first =
      .ok (some before))
    (two : additionalCriteriaDecision env controlId observation second =
      .ok (some after))
    (failed : before.status = "FAIL") : after.status ≠ "PASS" := by
  unfold additionalCriteriaDecision at one two
  split at one
  case isTrue => cases one
  case isFalse collected =>
    rw [if_neg collected] at two
    split at one
    case h_1 key isKey =>
      rw [isKey] at two
      dsimp only at two
      split at one
      case h_2 => cases one
      case h_1 selected isSelected =>
        split at two
        case h_2 => cases two
        case h_1 again isAgain =>
          rw [additionalResult_some one] at failed
          rw [additionalResult_some two]
          exact selectedCriteriaDecision_keepsFailure strict isSelected isAgain
            failed
    case h_2 isKey =>
      rw [isKey] at two
      dsimp only at two
      split at one
      case isTrue isAge =>
        rw [if_pos isAge] at two
        exact additionalPasswordAge_kept strict (orNone_eq_some one)
          (orNone_eq_some two) failed
      case isFalse notAge =>
        rw [if_neg notAge] at two
        split at one
        case isTrue isTimeout =>
          rw [if_pos isTimeout] at two
          exact additionalScreenSaver_kept strict (orNone_eq_some one)
            (orNone_eq_some two) failed
        case isFalse => cases one

end Decisions

/-! ## Evaluations -/

/-- What a control fails under criteria it does not pass under stricter ones,
nor does it pass the additional criteria that it failed. -/
theorem evaluateControl_kept {env : LiveEnvironment} {pack : AuditPack}
    {observations : List ProbeObservation} {first second : CriteriaContext}
    (strict : IsAsStrict first.values second.values) {prepared : List Json}
    {controlId : String} {before after : LiveResult}
    (one : evaluateControl env pack observations (some first) prepared
      controlId = .ok before)
    (two : evaluateControl env pack observations (some second) prepared
      controlId = .ok after) :
    (before.decision.status = "FAIL" → after.decision.status ≠ "PASS") ∧
      ∀ earlier ∈ before.additional, ∀ later ∈ after.additional,
        earlier.status = "FAIL" → later.status ≠ "PASS" := by
  unfold evaluateControl at one two
  dsimp only at one two
  split at one
  case isTrue isEmpty =>
    rw [if_pos isEmpty] at two
    cases one
    cases two
    have isError : (notCollected controlId).status = "ERROR" := rfl
    exact ⟨fun failed => by simp [isError] at failed, nofun⟩
  case isFalse filled =>
    rw [if_neg filled] at two
    cases found : controlObservation observations controlId with
    | none =>
        rw [found] at one
        cases one
    | some observation =>
        rw [found] at one two
        simp only [Outcome.bind_eq_ok] at one two
        obtain ⟨additional, compared, made⟩ := one
        obtain ⟨again, comparedAgain, madeAgain⟩ := two
        cases made
        cases madeAgain
        constructor
        case left => exact controlDecision_kept strict
        case right =>
          intro earlier isEarlier later isLater failed
          cases isEarlier
          cases isLater
          unfold additionalOf at compared comparedAgain
          split at compared
          case h_2 => cases compared
          case h_1 context _ isContext =>
            split at comparedAgain
            case h_2 => cases comparedAgain
            case h_1 other _ isOther =>
              cases isContext
              cases isOther
              exact additionalCriteriaDecision_kept strict compared
                comparedAgain failed

/-- Tightening the criteria turns no failure into a success: neither in the
decision of a control nor in its additional criteria. -/
theorem tightened_criteria_keep_failures (env : LiveEnvironment)
    (pack : AuditPack) (observations : List ProbeObservation)
    (firstDocument secondDocument : Decoded) (first second : CriteriaContext)
    (firstValid : Criteria.Collector.validateCriteriaExecutionContext
      env.criteria firstDocument = .ok first)
    (secondValid : Criteria.Collector.validateCriteriaExecutionContext
      env.criteria secondDocument = .ok second)
    (strict : IsAsStrict first.values second.values)
    (firstResults secondResults : List (String × LiveResult))
    (firstDone : evaluateLiveDraftObservations env pack observations
      (some firstDocument) = .ok firstResults)
    (secondDone : evaluateLiveDraftObservations env pack observations
      (some secondDocument) = .ok secondResults)
    (controlId : String) (before after : LiveResult)
    (isBefore : (controlId, before) ∈ firstResults)
    (isAfter : (controlId, after) ∈ secondResults) :
    ¬(before.decision.status = "FAIL" ∧ after.decision.status = "PASS") ∧
      ∀ earlier ∈ before.additional, ∀ later ∈ after.additional,
        ¬(earlier.status = "FAIL" ∧ later.status = "PASS") := by
  obtain ⟨criteria, prepared, valid, isPrepared, -, made⟩ :=
    evaluated_control firstDone isBefore
  obtain ⟨again, sameRows, validAgain, preparedAgain, -, madeAgain⟩ :=
    evaluated_control secondDone isAfter
  rw [validatedCriteria, firstValid] at valid
  rw [validatedCriteria, secondValid] at validAgain
  cases valid
  cases validAgain
  cases isPrepared.symm.trans preparedAgain
  obtain ⟨decision, additional⟩ := evaluateControl_kept strict made madeAgain
  exact ⟨fun both => decision both.1 both.2,
    fun earlier isEarlier later isLater both =>
      additional earlier isEarlier later isLater both.1 both.2⟩

/-- A timeout of five minutes is stricter than one of ten. -/
theorem sampleContext_isAsStrict :
    IsAsStrict (sampleContext 10).values (sampleContext 5).values := by
  have same : ∀ key ∈ "password_minimum_length" :: "unnecessary_service_ids" ::
      (maximumKeys ++ flagKeys ++ approvedKeys),
      key ≠ "screensaver_timeout_maximum_minutes" →
      (sampleContext 5).values.lookup key =
        (sampleContext 10).values.lookup key := by decide
  constructor
  case longer =>
    intro before after one two
    rw [same _ (by decide) (by decide), one] at two
    cases two
    exact le_refl before
  case sooner =>
    intro key listed before after one two
    by_cases isTimeout : key = "screensaver_timeout_maximum_minutes"
    case pos =>
      have ten : (sampleContext 10).values.lookup
          "screensaver_timeout_maximum_minutes" = some (.int 10) := by
        decide
      have five : (sampleContext 5).values.lookup
          "screensaver_timeout_maximum_minutes" = some (.int 5) := by
        decide
      rw [isTimeout, ten] at one
      rw [isTimeout, five] at two
      cases one
      cases two
      decide
    case neg =>
      rw [same key (by simp [listed]) isTimeout, one] at two
      cases two
      exact le_refl before
  case kept =>
    intro key listed set
    have other : key ≠ "screensaver_timeout_maximum_minutes" := by
      rintro rfl
      exact absurd listed (by decide)
    rw [same key (by simp [listed]) other, set]
  case approved =>
    intro key listed before after one two
    have other : key ≠ "screensaver_timeout_maximum_minutes" := by
      rintro rfl
      exact absurd listed (by decide)
    rw [same key (by simp [listed]) other, one] at two
    cases two
    exact List.Subset.refl before
  case unwanted =>
    intro before after one two
    rw [same _ (by decide) (by decide), one] at two
    cases two
    exact List.Subset.refl before

def lateScreenSaver : ProbeObservation :=
  sampleObservation "win.user.screensaver-policy" "COLLECTED" "NONE"
    [.obj [("screen_save_active", .str "1"),
      ("screen_saver_is_secure", .str "1"),
      ("screen_save_timeout_seconds", .int 1200)]]

def lateResults (minutes : Int) : List (String × LiveResult) :=
  (evaluateControls sampleLiveEnvironment emptyPack [lateScreenSaver]
    (some (sampleContext minutes))).toOption.getD []

def lateResult (minutes : Int) : LiveResult :=
  ((lateResults minutes).lookup "PC-16").getD default

theorem lateScreenSaver_keeps_failure :
    ¬((lateResult 10).decision.status = "FAIL" ∧
        (lateResult 5).decision.status = "PASS") ∧
      ∀ earlier ∈ (lateResult 10).additional,
        ∀ later ∈ (lateResult 5).additional,
          ¬(earlier.status = "FAIL" ∧ later.status = "PASS") := by
  have evaluated {minutes : Int} (few : 1 ≤ minutes ∧ minutes ≤ 60)
      (returns : (evaluateControls sampleLiveEnvironment emptyPack
        [lateScreenSaver] (some (sampleContext minutes))).isOk = true) :
      evaluateLiveDraftObservations sampleLiveEnvironment emptyPack
        [lateScreenSaver] (some (sampleContext minutes).document) =
          .ok (lateResults minutes) := by
    obtain ⟨results, done⟩ := Outcome.eq_ok_of_isOk returns
    rw [evaluate_sampleContext (List.cons_ne_nil _ _) few, lateResults, done]
    rfl
  have listed {minutes : Int}
      (found : ((lateResults minutes).lookup "PC-16").isSome = true) :
      ("PC-16", lateResult minutes) ∈ lateResults minutes := by
    obtain ⟨result, isResult⟩ := Option.isSome_iff_exists.mp found
    obtain ⟨before, after, same, -⟩ := List.lookup_eq_some_iff.mp isResult
    rw [lateResult, isResult]
    rw [same]
    exact List.mem_append_right _ List.mem_cons_self
  exact tightened_criteria_keep_failures sampleLiveEnvironment emptyPack
    [lateScreenSaver] _ _ _ _ (sampleContext_isValid (by decide))
    (sampleContext_isValid (by decide)) sampleContext_isAsStrict _ _
    (evaluated (by decide) (by decide +kernel))
    (evaluated (by decide) (by decide +kernel)) "PC-16" _ _
    (listed (by decide +kernel)) (listed (by decide +kernel))

end SecAI.LiveDraft
