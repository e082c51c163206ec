/-
Module: SecAI.LiveDraft.Outcomes
Purpose: What a decision that was made says of the records and the criteria it
  was made of, control by control.
Trusted boundary: none
Main exports:
  verdictText, verdict_status, numberAt_eq_ok, flagAt_eq_ok
-/
import SecAI.LiveDraft.Administrator

namespace SecAI.LiveDraft

open SecAI.Collector (ProbeObservation)
open SecAI.Criteria (CriteriaValue CriteriaValues)
open SecAI.Rules.Registry (Piece)
open SecAI.Text

def verdictText (passed : Bool) : String := if passed then "PASS" else "FAIL"

variable {passed : Bool}

theorem verdictText_eq_pass :
    verdictText passed = "PASS" ↔ passed = true := by
  cases passed <;> decide

theorem verdictText_eq_fail :
    verdictText passed = "FAIL" ↔ passed = false := by
  cases passed <;> decide

variable {pieces : List Piece}

theorem printed_eq_ok {text : String} (made : printed pieces = .ok text) :
    pieces.all Piece.isPrintable = true := by
  unfold printed at made
  split at made
  case isTrue printable => exact printable
  case isFalse => cases made

theorem printed_of_printable
    (printable : pieces.all Piece.isPrintable = true) :
    ∃ text, printed pieces = .ok text :=
  ⟨_, if_pos printable⟩

variable {actual expected : List Piece} {explanation : String}

theorem verdict_of_printable {passCode failCode : String}
    (first : actual.all Piece.isPrintable = true)
    (second : expected.all Piece.isPrintable = true) :
    ∃ decision, verdict passed actual expected explanation passCode failCode =
      .ok decision ∧ decision.status = verdictText passed := by
  obtain ⟨actualText, isActual⟩ := printed_of_printable first
  obtain ⟨expectedText, isExpected⟩ := printed_of_printable second
  unfold verdict
  rw [isActual, isExpected]
  exact ⟨_, rfl, rfl⟩

theorem verdict_status {passCode failCode : String} {decision : LiveDecision}
    (made : verdict passed actual expected explanation passCode failCode =
      .ok decision) :
    decision.status = verdictText passed ∧
      actual.all Piece.isPrintable = true := by
  simp only [verdict, Outcome.bind_eq_ok] at made
  obtain ⟨text, isText, _, -, same⟩ := made
  cases same
  exact ⟨rfl, printed_eq_ok isText⟩

theorem of_demand {condition : Prop} [Decidable condition] {message : String}
    {answer : Unit} (passed : demand condition message = .ok answer) :
    condition := by
  unfold demand at passed
  split at passed
  case isTrue holds => exact holds
  case isFalse => cases passed

section Readers

variable {values : CriteriaValues} {key message : String}

theorem criterionAt_eq_ok {value : CriteriaValue} :
    criterionAt values key = .ok value ↔ values.lookup key = some value := by
  unfold criterionAt
  cases values.lookup key with
  | none => exact iff_of_false nofun nofun
  | some found => rw [Except.ok.injEq, Option.some.injEq]

theorem numberAt_eq_ok {number : Int} :
    numberAt values key message = .ok number ↔
      values.lookup key = some (.int number) := by
  unfold numberAt
  rw [Outcome.bind_eq_ok]
  simp only [criterionAt_eq_ok]
  constructor
  case mp =>
    rintro ⟨value, found, read⟩
    cases value with
    | int given =>
        cases read
        exact found
    | _ => cases read
  case mpr => exact fun found => ⟨_, found, rfl⟩

theorem flagAt_eq_ok {flag : Bool} :
    flagAt values key message = .ok flag ↔
      values.lookup key = some (.bool flag) := by
  unfold flagAt
  rw [Outcome.bind_eq_ok]
  simp only [criterionAt_eq_ok]
  constructor
  case mp =>
    rintro ⟨value, found, read⟩
    cases value with
    | bool given =>
        cases read
        exact found
    | _ => cases read
  case mpr => exact fun found => ⟨_, found, rfl⟩

theorem sequence_eq_ok {names : List (List CodePoint)}
    (read : (criterionAt values key >>= criteriaSequence) = .ok names) :
    values.lookup key = some (.names names) := by
  obtain ⟨value, found, listed⟩ := Outcome.bind_eq_ok.mp read
  cases value with
  | names items =>
      obtain ⟨-, same⟩ := Outcome.refused_or (Outcome.Refused.error _) listed
      cases same
      exact criterionAt_eq_ok.mp found
  | _ => cases listed

theorem passwordCriteria_eq_ok {criteria : PasswordCriteria}
    (read : passwordCriteria values = .ok criteria) :
    values.lookup "password_minimum_length" = some (.int criteria.minimum) ∧
      values.lookup "password_complexity_required" =
        some (.bool criteria.requireComplexity) ∧
      values.lookup "password_required" =
        some (.bool criteria.requirePassword) := by
  simp only [passwordCriteria, Outcome.bind_eq_ok, criterionAt_eq_ok] at read
  obtain ⟨minimum, first, complexity, second, required, third, made⟩ := read
  split at made
  case h_1 =>
    cases made
    exact ⟨first, second, third⟩
  case h_2 => cases made

theorem screenSaverCriteria_eq_ok {criteria : ScreenSaverCriteria}
    (read : screenSaverCriteria values = .ok criteria) :
    values.lookup "screensaver_current_user_scope_accepted" =
        some (.bool criteria.accepted) ∧
      values.lookup "screensaver_timeout_maximum_minutes" =
        some (.int criteria.maximum) := by
  simp only [screenSaverCriteria, Outcome.bind_eq_ok, flagAt_eq_ok,
    numberAt_eq_ok] at read
  obtain ⟨accepted, first, maximum, second, made⟩ := read
  cases made
  exact ⟨first, second⟩

theorem serviceTargets_eq_ok {targets : List (List CodePoint)}
    (read : serviceTargets values = .ok targets) :
    values.lookup "unnecessary_service_ids" = some (.names targets) ∧
      targets ≠ [] := by
  simp only [serviceTargets, Outcome.bind_eq_ok] at read
  obtain ⟨value, found, names, listed, _, filled, made⟩ := read
  cases made
  exact ⟨sequence_eq_ok (Outcome.bind_eq_ok.mpr ⟨value, found, listed⟩),
    of_demand filled⟩

end Readers

section Controls

variable {env : LiveEnvironment} {values : CriteriaValues}
  {observation : ProbeObservation} {decision : LiveDecision}

theorem passwordDecision_status
    (made : passwordDecision values observation = .ok decision) :
    ∃ reading criteria, readPasswords observation = .ok reading ∧
      passwordCriteria values = .ok criteria ∧
      decision.status = verdictText (reading.meets criteria) := by
  simp only [passwordDecision, Outcome.bind_eq_ok] at made
  obtain ⟨reading, read, criteria, given, made⟩ := made
  exact ⟨reading, criteria, read, given, (verdict_status made).1⟩

theorem serviceDecision_status
    (made : serviceDecision env values observation = .ok decision) :
    ∃ targets byKey, serviceTargets values = .ok targets ∧
      readServices env observation = .ok byKey ∧
      decision.status = verdictText (
        decide ((matchedServices env byKey targets).countP
          Service.isRunning = 0) &&
        decide ((matchedServices env byKey targets).countP
          Service.isAutomatic = 0)) := by
  simp only [serviceDecision, Outcome.bind_eq_ok] at made
  obtain ⟨targets, given, byKey, read, made⟩ := made
  exact ⟨targets, byKey, given, read, (verdict_status made).1⟩

theorem shareDecision_status
    (made : shareDecision env values observation = .ok decision) :
    ∃ reading approved hashes, readShares observation = .ok reading ∧
      approvedShares values = .ok approved ∧
      approved.mapM (approvedHash env) = .ok hashes ∧
      decision.status = verdictText (reading.meets hashes) := by
  simp only [shareDecision, Outcome.bind_eq_ok] at made
  obtain ⟨reading, read, approved, given, hashes, hashed, made⟩ := made
  exact ⟨reading, approved, hashes, read, given, hashed, (verdict_status made).1⟩

theorem messengerDecision_status
    (made : messengerDecision env values observation = .ok decision) :
    ∃ reading approved, readMessengers observation = .ok reading ∧
      approvedProducts env values = .ok approved ∧
      (reading.lowConfidence ≠ 0 ∧ decision.status = "ERROR" ∨
        decision.status = verdictText
          (reading.found.filter (Messenger.isUnapproved env approved)).isEmpty)
    := by
  simp only [messengerDecision, Outcome.bind_eq_ok] at made
  obtain ⟨reading, read, approved, given, made⟩ := made
  refine ⟨reading, approved, read, given, ?_⟩
  split at made
  case isTrue unsure =>
    obtain ⟨text, -, same⟩ := Outcome.bind_eq_ok.mp made
    cases same
    exact .inl ⟨unsure, rfl⟩
  case isFalse =>
    simp only [Outcome.bind_eq_ok] at made
    obtain ⟨_, -, _, -, _, -, made⟩ := made
    exact .inr (verdict_status made).1

theorem updateDecision_status
    (made : updateDecision env values observation = .ok decision) :
    ∃ reading maximum, readUpdates observation = .ok reading ∧
      numberAt values "security_update_maximum_age_days"
        "Update compliance evidence is incomplete." = .ok maximum ∧
      (reading.successfulCount = 0 ∧ decision.status = "FAIL" ∨
        reading.successfulCount ≠ 0 ∧ ∃ latest age,
          reading.latest = .str latest ∧
          ageInDays env.toRegistryEnvironment latest observation.collectedAt =
            .ok age ∧
          decision.status = verdictText (reading.meets age maximum)) := by
  simp only [updateDecision, Outcome.bind_eq_ok] at made
  obtain ⟨reading, read, maximum, given, made⟩ := made
  refine ⟨reading, maximum, read, given, ?_⟩
  split at made
  case isTrue never =>
    split at made
    case isTrue => exact .inl ⟨never, (verdict_status made).1⟩
    case isFalse => cases made
  case isFalse once =>
    split at made
    case h_1 latest isLatest =>
      obtain ⟨age, isAge, made⟩ := Outcome.bind_eq_ok.mp made
      exact .inr ⟨once, latest, age, isLatest, isAge, (verdict_status made).1⟩
    case h_2 => cases made

theorem antivirusDecision_status
    (made : antivirusDecision env values observation = .ok decision) :
    ∃ reading maximum, readAntivirus observation = .ok reading ∧
      numberAt values "antivirus_signature_maximum_age_hours"
        "Antivirus update evidence is incomplete." = .ok maximum ∧
      (reading.present = false ∧ decision.status = "FAIL" ∨
        reading.present = true ∧ ∃ age,
          ageInHours env.toRegistryEnvironment reading.updated
            observation.collectedAt = .ok age ∧
          (Piece.number age).isPrintable = true ∧
          decision.status = verdictText (reading.meets age maximum)) := by
  simp only [antivirusDecision, Outcome.bind_eq_ok] at made
  obtain ⟨reading, read, maximum, given, made⟩ := made
  refine ⟨reading, maximum, read, given, ?_⟩
  split at made
  case isTrue absent => exact .inl ⟨absent, (verdict_status made).1⟩
  case isFalse present =>
    obtain ⟨age, isAge, made⟩ := Outcome.bind_eq_ok.mp made
    obtain ⟨status, printable⟩ := verdict_status made
    simp only [List.all_cons, Bool.and_eq_true] at printable
    exact .inr ⟨Bool.eq_true_of_not_eq_false present, age, isAge,
      printable.2.1, status⟩

theorem wininetDecision_status
    (made : wininetDecision values observation = .ok decision) :
    ∃ reading accepted, readWininet observation = .ok reading ∧
      flagAt values "wininet_current_user_scope_accepted"
        "WinINet policy evidence is incomplete." = .ok accepted ∧
      (accepted = false ∧ decision.status = "REVIEW" ∨
        accepted = true ∧ (reading.applicability = "NOT_APPLICABLE" ∧
            decision.status = "N/A" ∨
          isNullOrFlag reading.emptyCacheOnExit = true ∧
            decision.status = verdictText reading.meets)) := by
  simp only [wininetDecision, Outcome.bind_eq_ok] at made
  obtain ⟨reading, read, accepted, given, made⟩ := made
  refine ⟨reading, accepted, read, given, ?_⟩
  split at made
  case isTrue refused =>
    cases made
    exact .inl ⟨refused, rfl⟩
  case isFalse taken =>
    refine .inr ⟨Bool.eq_true_of_not_eq_false taken, ?_⟩
    split at made
    case isTrue inapplicable =>
      cases made
      exact .inl ⟨inapplicable, rfl⟩
    case isFalse =>
      obtain ⟨_, allowed, made⟩ := Outcome.bind_eq_ok.mp made
      exact .inr ⟨of_demand allowed, (verdict_status made).1⟩

theorem screenSaverDecision_status
    (made : screenSaverDecision values observation = .ok decision) :
    ∃ reading criteria, readScreenSaver observation = .ok reading ∧
      screenSaverCriteria values = .ok criteria ∧
      (criteria.accepted = false ∧ decision.status = "REVIEW" ∨
        criteria.accepted = true ∧
          (timeoutPieces reading.seconds).all Piece.isPrintable = true ∧
          decision.status = verdictText (reading.meets criteria.maximum)) := by
  simp only [screenSaverDecision, Outcome.bind_eq_ok] at made
  obtain ⟨reading, read, criteria, given, made⟩ := made
  refine ⟨reading, criteria, read, given, ?_⟩
  split at made
  case isTrue refused =>
    cases made
    exact .inl ⟨refused, rfl⟩
  case isFalse taken =>
    obtain ⟨status, printable⟩ := verdict_status made
    rw [List.all_append, Bool.and_eq_true] at printable
    exact .inr ⟨Bool.eq_true_of_not_eq_false taken, printable.2, status⟩

theorem autoplayDecision_status
    (made : autoplayDecision values observation = .ok decision) :
    ∃ reading required, readAutoplay observation = .ok reading ∧
      flagAt values "autoplay_disabled_required"
        "AutoPlay policy evidence is incomplete." = .ok required ∧
      (required = false ∧ decision.status = "REVIEW" ∨
        required = true ∧ decision.status = verdictText reading.meets) := by
  simp only [autoplayDecision, Outcome.bind_eq_ok] at made
  obtain ⟨reading, read, required, given, made⟩ := made
  refine ⟨reading, required, read, given, ?_⟩
  split at made
  case isTrue refused =>
    cases made
    exact .inl ⟨refused, rfl⟩
  case isFalse taken =>
    exact .inr ⟨Bool.eq_true_of_not_eq_false taken, (verdict_status made).1⟩

theorem assistanceDecision_status
    (made : assistanceDecision values observation = .ok decision) :
    ∃ reading required, readAssistance observation = .ok reading ∧
      flagAt values "remote_assistance_disabled_required"
        "Remote assistance policy evidence is incomplete." = .ok required ∧
      (required = false ∧ decision.status = "REVIEW" ∨
        required = true ∧ decision.status = verdictText reading.meets) := by
  simp only [assistanceDecision, Outcome.bind_eq_ok] at made
  obtain ⟨reading, read, required, given, made⟩ := made
  refine ⟨reading, required, read, given, ?_⟩
  split at made
  case isTrue refused =>
    cases made
    exact .inl ⟨refused, rfl⟩
  case isFalse taken =>
    exact .inr ⟨Bool.eq_true_of_not_eq_false taken, (verdict_status made).1⟩

end Controls

end SecAI.LiveDraft
