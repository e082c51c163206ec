/-
Module: SecAI.Platforms.NetworkMonotone
Purpose: Fewer facts leave a network verdict as it is or make it a review, and
  only the organization's own judgement changes what the facts give.
Trusted boundary: the hash function and the Unicode database are parameters
Main exports:
  Statable, Cautious, evaluateDevice_retreats, verdicts_follow_the_evidence
-/
import SecAI.Common.Outcome
import SecAI.Platforms.NetworkRules

namespace SecAI.Platforms

open SecAI.Text Evidence

/-! ## What evidence can state -/

/-- An observation that a trace can be made of. -/
def Statable (observed : Observed) : Prop :=
  ∃ text, observed.written = .ok text ∧ IsSafeText text 2000

/-- A judgement to be reviewed, with an observation that can be stated. -/
def Cautious (judgement : Judgement) : Prop :=
  judgement.1 = .review ∧ Statable judgement.2

/-- A text in which nothing stands in the way of a trace. -/
def isPlain (text : List Char) : Bool :=
  text.any (!isSpace ·) && decide (text.length ≤ 2000) &&
    decide ('\x00' ∉ text)

theorem statable_of_plain {observed : Observed} {text : List Char}
    (evaluated : observed.written = .ok text)
    (plain : isPlain text = true) : Statable observed := by
  simp only [isPlain, Bool.and_eq_true, decide_eq_true_eq] at plain
  exact ⟨text, evaluated, isSafeText_of_plain plain.1.1 plain.1.2 plain.2⟩

theorem cautious_toReview {text : String}
    (plain : isPlain text.toList = true) : Cautious (toReview text) := by
  refine ⟨rfl, statable_of_plain ?_ plain⟩
  change Except.ok (text.toList ++ []) = _
  rw [List.append_nil]

theorem written_words (first second : String) :
    Observed.written [.words first, .words second] =
      .ok (first.toList ++ second.toList) := by
  change Except.ok (first.toList ++ (second.toList ++ [])) = _
  rw [List.append_nil]

theorem cautious_undetermined {definition : NetworkControlDefinition}
    (listed : definition ∈ kisaNetworkControls) :
    Cautious (undetermined definition) := by
  have clean : kisaNetworkControls.all (fun control =>
      let text := control.reviewRequirement.toList
      decide (text.length ≤ 1000) && decide ('\x00' ∉ text)) = true := by
    decide
  have known := List.all_eq_true.mp clean definition listed
  simp only [Bool.and_eq_true, decide_eq_true_eq] at known
  have ending : isPlain ": 현재 REST projection으로 확정 불가".toList = true ∧
      ": 현재 REST projection으로 확정 불가".toList.length ≤ 1000 := by
    decide
  refine ⟨rfl, _, written_words _ _, ?_⟩
  simp only [isPlain, Bool.and_eq_true, decide_eq_true_eq] at ending
  apply isSafeText_append
  case filled => rw [ending.1.1.1, Bool.or_true]
  case short => omega
  case cleanFirst => exact known.2
  case cleanSecond => exact ending.1.2

/-! ## Each rule -/

theorem fades_bool (key : String) : Fades (factBool key) :=
  Fades.lookup key FactValue.boolean?

theorem fades_int (key : String) : Fades (factInt key) :=
  Fades.lookup key FactValue.integer?

theorem fades_text (key : String) : Fades (factText key) :=
  Fades.lookup key FactValue.text?

theorem simpleBoolean_retreats {key enabled disabled : String}
    (plain : isPlain (enabled ++ " 여부: REST 증적 없음").toList = true) :
    Retreats Cautious (simpleBoolean key enabled disabled) := by
  apply Fades.retreats
  case fades =>
      exact (fades_bool key).bind fun _ => Fades.const _
  case careful => exact cautious_toReview plain

theorem ruleLockThreshold_retreats (threshold : Int) :
    Retreats Cautious (ruleLockThreshold threshold) := by
  apply Fades.retreats
  case fades =>
      exact (fades_int _).bind fun _ => Fades.const _
  case careful => exact cautious_toReview (by decide)

theorem rulePrivileges_fades : Fades rulePrivileges := by
  refine (fades_int _).bind fun _ => (fades_int _).bind fun _ => ?_
  refine (fades_int _).bind fun _ => (fades_int _).bind fun _ => ?_
  refine (fades_int _).bind fun _ => (fades_int _).bind fun _ => ?_
  exact Fades.const _

theorem ruleAllowlist_retreats : Retreats Cautious ruleAllowlist := by
  apply Fades.retreats
  case fades =>
      refine (fades_bool _).bind fun _ => (fades_int _).bind fun _ => ?_
      exact Fades.const _
  case careful => exact cautious_toReview (by decide)

theorem ruleTimeouts_retreats : Retreats Cautious ruleTimeouts := by
  apply Fades.retreats
  case fades =>
      refine (fades_int _).bind fun _ => (fades_int _).bind fun _ => ?_
      exact Fades.const _
  case careful => exact cautious_toReview (by decide)

theorem ruleProtocols_retreats : Retreats Cautious ruleProtocols := by
  apply Fades.retreats
  case fades =>
      refine (fades_bool _).bind fun _ => (fades_int _).bind fun _ => ?_
      exact Fades.const _
  case careful => exact cautious_toReview (by decide)

theorem ruleAuxiliaryPorts_retreats :
    Retreats Cautious ruleAuxiliaryPorts := by
  apply Fades.retreats
  case fades =>
      refine (fades_bool _).bind fun _ => (fades_bool _).bind fun _ => ?_
      exact Fades.const _
  case careful => exact cautious_toReview (by decide)

theorem ruleBanner_retreats : Retreats Cautious ruleBanner := by
  apply Fades.retreats
  case fades =>
      refine (fades_bool _).bind fun _ => (fades_bool _).bind fun _ => ?_
      exact Fades.const _
  case careful => exact cautious_toReview (by decide)

theorem ruleRemoteLog_retreats : Retreats Cautious ruleRemoteLog := by
  apply Fades.retreats
  case fades =>
      exact (fades_int _).bind fun _ => Fades.const _
  case careful => exact cautious_toReview (by decide)

theorem rulePatches_fades : Fades rulePatches := by
  refine (fades_text _).bind fun _ => (fades_int _).bind fun _ => ?_
  exact Fades.const _

theorem ruleLogBuffer_fades : Fades ruleLogBuffer := by
  refine (fades_bool _).bind fun _ => (fades_bool _).bind fun _ => ?_
  exact Fades.const _

theorem ruleEventLogging_retreats : Retreats Cautious ruleEventLogging := by
  apply Fades.retreats
  case fades =>
      refine (fades_int _).bind fun _ => (fades_int _).bind fun _ => ?_
      exact Fades.const _
  case careful => exact cautious_toReview (by decide)

theorem ruleTimeSource_retreats : Retreats Cautious ruleTimeSource := by
  apply Fades.retreats
  case fades =>
      refine (fades_bool _).bind fun _ => (fades_int _).bind fun _ => ?_
      exact Fades.const _
  case careful => exact cautious_toReview (by decide)

theorem ruleTimestamps_retreats : Retreats Cautious ruleTimestamps := by
  apply Fades.retreats
  case fades =>
      exact (fades_bool _).bind fun _ => Fades.const _
  case careful => exact cautious_toReview (by decide)

theorem ruleSnmpUse_fades : Fades ruleSnmpUse :=
  (fades_int _).bind fun _ => Fades.const _

theorem ruleCommunityStrings_fades : Fades ruleCommunityStrings := by
  intro facts deleted
  simp only [ruleCommunityStrings]
  rcases fades_int "snmp.community_count" facts deleted with same | lost
  · rw [same]
    rcases fades_bool "snmp.v3_only" facts deleted with sameMode | lostMode
    · rw [sameMode]
      exact .inl rfl
    · -- Without the mode only a positive count is still judged.
      rw [lostMode, if_neg (fun both => by cases both.1)]
      cases factInt "snmp.community_count" facts with
      | none => exact .inr rfl
      | some count =>
          by_cases positive : 0 < count
          case pos =>
              left
              rw [if_neg (fun both => by
                have zero : count = 0 := Option.some.inj both.2
                omega)]
          case neg =>
              right
              simp only [if_neg positive]
  · right
    rw [lost, if_neg (fun both => by cases both.2)]

theorem ruleSnmpAccess_fades : Fades ruleSnmpAccess := by
  refine (fades_int _).bind fun enabled => ?_
  refine Fades.cond (Fades.const _) ?_
  refine (fades_int _).bind fun _ => (fades_bool _).bind fun _ => ?_
  refine (fades_int _).bind fun _ => (fades_int _).bind fun _ => ?_
  exact Fades.const _

/-- Without the mode the control is a review with the count, which is zero. -/
theorem ruleCommunityRights_retreats {missing : Judgement}
    (careful : Cautious missing) :
    Retreats Cautious fun facts =>
      (ruleCommunityRights facts).getD missing := by
  intro facts deleted
  simp only [ruleCommunityRights]
  rcases fades_int "snmp.community_count" facts deleted with same | lost
  · rw [same]
    rcases fades_bool "snmp.v3_only" facts deleted with sameMode | lostMode
    · rw [sameMode]
      exact .inl rfl
    · rw [lostMode, if_neg (fun both => by cases both.1)]
      cases factInt "snmp.community_count" facts with
      | none =>
          right
          exact careful
      | some count =>
          by_cases zero : count = 0
          case pos =>
              right
              subst zero
              refine ⟨rfl, statable_of_plain rfl ?_⟩
              decide
          case neg =>
              left
              rw [if_neg (fun both => zero (Option.some.inj both.2))]
  · right
    rw [lost, if_neg (fun both => by cases both.2)]
    exact careful

theorem ruleSpoofing_retreats : Retreats Cautious ruleSpoofing := by
  apply Fades.retreats
  case fades =>
      refine (fades_int _).bind fun _ => (fades_int _).bind fun _ => ?_
      exact Fades.const _
  case careful => exact cautious_toReview (by decide)

theorem ruleDenialOfService_fades : Fades ruleDenialOfService :=
  (fades_bool _).bind fun _ => Fades.const _

theorem ruleInterfaces_retreats : Retreats Cautious ruleInterfaces := by
  apply Fades.retreats
  case fades =>
      refine (fades_int _).bind fun _ => (fades_int _).bind fun _ => ?_
      exact (fades_int _).bind fun _ => Fades.const _
  case careful => exact cautious_toReview (by decide)

theorem ruleWebManagement_retreats : Retreats Cautious ruleWebManagement := by
  apply Fades.retreats
  case fades =>
      refine (fades_int _).bind fun _ => (fades_int _).bind fun _ => ?_
      exact Fades.const _
  case careful => exact cautious_toReview (by decide)

theorem ruleDiscovery_fades (library : Library) :
    Fades (ruleDiscovery library) :=
  (fades_text _).bind fun _ => Fades.const _

theorem ruleNone_fades (key before : String) : Fades (ruleNone key before) :=
  (fades_int _).bind fun _ => Fades.const _

theorem ruleIcmp_fades : Fades ruleIcmp := by
  refine (fades_bool _).bind fun _ => (fades_bool _).bind fun _ => ?_
  exact Fades.const _

/-! ## All rules -/

section Rules

variable {library : Library} {definition : NetworkControlDefinition}
  {profile : Option KisaNetworkAssessmentProfile}

theorem orElse_retreats (listed : definition ∈ kisaNetworkControls)
    {reading : Facts → Option Judgement} (fades : Fades reading) :
    Retreats Cautious fun facts =>
      (reading facts).getD (undetermined definition) :=
  fades.retreats (cautious_undetermined listed)

theorem judge_retreats (listed : definition ∈ kisaNetworkControls) :
    Retreats Cautious (judge library definition profile) := by
  unfold judge
  have orElse : ∀ {reading : Facts → Option Judgement}, Fades reading →
      Retreats Cautious fun facts =>
        (reading facts).getD (undetermined definition) :=
    orElse_retreats listed
  split
  · exact simpleBoolean_retreats (by decide)
  · exact simpleBoolean_retreats (by decide)
  · exact simpleBoolean_retreats (by decide)
  · exact ruleLockThreshold_retreats _
  · exact orElse rulePrivileges_fades
  · exact ruleAllowlist_retreats
  · exact ruleTimeouts_retreats
  · exact ruleProtocols_retreats
  · exact ruleAuxiliaryPorts_retreats
  · exact ruleBanner_retreats
  · exact ruleRemoteLog_retreats
  · exact orElse rulePatches_fades
  · exact orElse ruleLogBuffer_fades
  · exact ruleEventLogging_retreats
  · exact ruleTimeSource_retreats
  · exact ruleTimestamps_retreats
  · exact orElse ruleSnmpUse_fades
  · exact orElse ruleCommunityStrings_fades
  · exact orElse ruleSnmpAccess_fades
  · exact ruleCommunityRights_retreats (cautious_undetermined listed)
  · exact ruleSpoofing_retreats
  · exact orElse ruleDenialOfService_fades
  · exact ruleInterfaces_retreats
  · exact ruleWebManagement_retreats
  · exact orElse (ruleDiscovery_fades library)
  · exact orElse (ruleNone_fades _ _)
  · exact orElse (ruleNone_fades _ _)
  · exact orElse ruleIcmp_fades
  · exact orElse (ruleNone_fades _ _)
  · exact Retreats.const _ _

/-- What AOS-CX does not have is a review on a device of another kind. -/
theorem cautious_judge_notApplicable
    (listed : definition ∈ kisaNetworkControls) {service : String}
    (named : aosCxNotApplicable definition.number = some service)
    (facts : Facts) : Cautious (judge library definition profile facts) := by
  have last : Cautious (undetermined definition) :=
    cautious_undetermined listed
  unfold judge
  generalize definition.number = number at named ⊢
  unfold aosCxNotApplicable at named
  split at named
  case h_1 =>
      simp only [ruleLogBuffer]
      cases factBool "logging.persistent_storage_configured" facts with
      | none => exact last
      | some persistent =>
          cases factBool "logging.notification_threshold_configured" facts with
          | none => exact last
          | some threshold =>
              refine ⟨rfl, statable_of_plain rfl ?_⟩
              cases persistent <;> cases threshold <;> decide
  case h_11 => cases named
  all_goals exact last

theorem evaluateDevice_retreats (listed : definition ∈ kisaNetworkControls) :
    Retreats Cautious (evaluateDevice library definition profile) := by
  intro facts deleted
  simp only [evaluateDevice]
  cases named : aosCxNotApplicable definition.number with
  | none => exact judge_retreats listed facts deleted
  | some service =>
      simp only
      by_cases kept : isAosCx (without facts deleted) = true
      case pos =>
          left
          have before : isAosCx facts = true := by
            have family := of_decide_eq_true kept
            simp only [without] at family
            split at family
            · cases family
            · exact decide_eq_true family
          rw [if_pos kept, if_pos before]
      case neg =>
          right
          rw [if_neg kept]
          exact cautious_judge_notApplicable listed named _

end Rules

/-! ## Results -/

/-- A character that `str.casefold` is known for. -/
def foldsPlainly (character : Char) : Bool :=
  decide (character.toNat < 128) ||
    (decide (0xAC00 ≤ character.toNat) && decide (character.toNat ≤ 0xD7A3))

def foldedPlainly (character : Char) : Char :=
  if character.toNat < 128 then character.toLower else character

theorem casefold_plainly (library : Library) :
    ∀ {text : List Char}, text.all foldsPlainly = true →
      casefold library.toCharacterDatabase text = text.map foldedPlainly
  | [], _ => rfl
  | character :: text, plain => by
      rw [List.all_cons, Bool.and_eq_true] at plain
      have later := casefold_plainly library plain.2
      have here : library.casefold character = [foldedPlainly character] := by
        unfold foldedPlainly
        by_cases ascii : character.toNat < 128
        case pos =>
            rw [if_pos ascii, library.casefold_ascii character ascii]
        case neg =>
            have hangul := plain.1
            simp only [foldsPlainly, decide_eq_false ascii, Bool.false_or,
              Bool.and_eq_true, decide_eq_true_eq] at hangul
            rw [if_neg ascii,
              library.casefold_hangul character hangul.1 hangul.2]
      unfold casefold at later ⊢
      rw [List.flatMap_cons, here, later]
      rfl

/-- The trace of a control has nothing that is refused but its summary. -/
theorem networkEvidence_fixed (library : Library)
    {definition : NetworkControlDefinition}
    (listed : definition ∈ kisaNetworkControls) (observed : List Char)
    (canonicalBytes : List UInt8) (capturedAt : DateTime) :
    (networkEvidence definition observed canonicalBytes
      capturedAt).FixedPartsAreSafe library := by
  have numbers : kisaNetworkControls.all (fun control =>
      decide (control.controlId.length ≤ 8) &&
        decide ('\x00' ∉ control.controlId)) = true := by
    decide
  have known := List.all_eq_true.mp numbers definition listed
  simp only [Bool.and_eq_true, decide_eq_true_eq] at known
  have label : "AOS-CX 구조화 보안 설정".toList.all foldsPlainly = true ∧
      prohibitedLabels.any (occursIn ·
        ("AOS-CX 구조화 보안 설정".toList.map foldedPlainly)) = false := by
    decide
  have texts : isSafeCode "NETWORK_REST_FIXED_GET".toList = true ∧
      IsSafeText "aruba.rest-kisa-network-projection".toList 128 ∧
      IsSafeText "3.0.0-DRAFT".toList 32 ∧
      IsSafeText ("인증서 고정 AOS-CX REST에서 승인된 GET만 실행하고 " ++
        "비식별 사실로 축소합니다.").toList 400 ∧
      IsSafeText "AOS-CX 구조화 보안 설정".toList 200 := by
    decide
  obtain ⟨code, probe, version, method, source⟩ := texts
  constructor
  case code => exact code
  case label =>
      have folded := casefold_plainly library label.1
      change prohibitedLabels.any (occursIn · (casefold
        library.toCharacterDatabase "AOS-CX 구조화 보안 설정".toList)) = false
      rw [folded]
      exact label.2
  case probe => exact probe
  case version => exact version
  case method => exact method
  case source => exact source
  case locator =>
      have start : "AOS-CX v10.13 REST projection · ".toList.any
            (!isSpace ·) = true ∧
          "AOS-CX v10.13 REST projection · ".toList.length ≤ 200 ∧
          '\x00' ∉ "AOS-CX v10.13 REST projection · ".toList := by
        decide
      apply isSafeText_append
      case filled => rw [start.1, Bool.true_or]
      case short => omega
      case cleanFirst => exact start.2.2
      case cleanSecond => exact known.2
  case noList => rfl

section Results

variable {library : Library} {facts : Facts} {canonicalBytes : List UInt8}
  {capturedAt : DateTime} {definition : NetworkControlDefinition}

theorem evaluate_without_profile :
    evaluate library definition facts none =
      ((evaluateDevice library definition none facts).1,
        (evaluateDevice library definition none facts).2, .deviceRule) := by
  simp only [evaluate, Option.bind_none]
  split
  · rfl
  · rfl

theorem evaluate_with_profile (profile : KisaNetworkAssessmentProfile) :
    let device := evaluateDevice library definition (some profile) facts
    let status := (evaluate library definition facts (some profile)).1
    status = device.1 ∨ device.1 = .review ∧
      profile.supplementalStatus definition.number = some status := by
  simp only [evaluate, Option.bind_some]
  by_cases review : (evaluateDevice library definition (some profile)
      facts).1 = .review
  case pos =>
      rw [if_pos review]
      cases profile.supplementalStatus definition.number with
      | none => exact .inl rfl
      | some supplemental => exact .inr ⟨review, rfl⟩
  case neg =>
      rw [if_neg review]
      exact .inl rfl

theorem expectedSummary_written (definition : NetworkControlDefinition) :
    ∃ text, (expectedSummary definition none).written = .ok text := by
  simp only [expectedSummary, Option.bind_none]
  exact ⟨_, rfl⟩

theorem controlResult_eq_ok {profile : Option KisaNetworkAssessmentProfile}
    {result : DeviceControlResult}
    (returns : controlResult library facts canonicalBytes capturedAt profile
      definition = .ok result) :
    result.controlId = definition.controlId ∧
      result.status = (evaluate library definition facts profile).1 := by
  simp only [controlResult, Outcome.bind_eq_ok] at returns
  obtain ⟨observed, _, trace, _, expected, _, made⟩ := returns
  cases made
  exact ⟨rfl, rfl⟩

theorem controlResult_iff (listed : definition ∈ kisaNetworkControls) :
    (∃ result, controlResult library facts canonicalBytes capturedAt none
      definition = .ok result) ↔
      canonicalBytes.length ≤ maximumOutput ∧
        Statable (evaluateDevice library definition none facts).2 := by
  simp only [controlResult, evaluate_without_profile, Outcome.bind_eq_ok]
  constructor
  · rintro ⟨result, observed, written, trace, built, _⟩
    have accepted := (EvidenceTrace.build_iff (networkEvidence_fixed library
      listed observed canonicalBytes capturedAt)).mp ⟨trace, built⟩
    exact ⟨accepted.2, observed, written, accepted.1⟩
  · rintro ⟨small, observed, written, safe⟩
    obtain ⟨trace, built⟩ := (EvidenceTrace.build_iff (networkEvidence_fixed
      library listed observed canonicalBytes capturedAt)).mpr ⟨safe, small⟩
    obtain ⟨expected, summary⟩ := expectedSummary_written definition
    exact ⟨_, observed, written, trace, built, expected, summary, rfl⟩

end Results

/-! ## Supplied judgements -/

def supplementalKey (number : Nat) : String :=
  if number = 12 then n12Key else n17Key

/-- A judgement of the organization: supplied by it, or the default where it
supplied nothing at all. -/
def SuppliedOrDefault (values : Option SuppliedValues) (number : Nat)
    (status : AssessmentStatus) : Prop :=
  match values with
  | none => status = .pass
  | some supplied => ∃ text,
      supplied.lookup (supplementalKey number) = some (.text text) ∧
        suppliedStatus text = some status

theorem readSupplemental_eq_ok {values : SuppliedValues} {key : String}
    {status : AssessmentStatus}
    (accepted : readSupplemental values key = .ok status) :
    ∃ text, values.lookup key = some (.text text) ∧
      suppliedStatus text = some status := by
  unfold readSupplemental at accepted
  split at accepted
  · next text found =>
      split at accepted
      · next named =>
          cases accepted
          exact ⟨text, found, named⟩
      · cases accepted
  · cases accepted
  · cases accepted

theorem fromValues_supplemental {values : Option SuppliedValues}
    {profile : KisaNetworkAssessmentProfile}
    (accepted : KisaNetworkAssessmentProfile.fromValues values = .ok profile)
    {number : Nat} {status : AssessmentStatus}
    (judged : profile.supplementalStatus number = some status) :
    (number = 12 ∨ number = 17) ∧ SuppliedOrDefault values number status := by
  cases values with
  | none =>
      cases accepted
      unfold KisaNetworkAssessmentProfile.supplementalStatus at judged
      split at judged
      · cases judged
        exact ⟨.inl rfl, rfl⟩
      · cases judged
        exact ⟨.inr rfl, rfl⟩
      · cases judged
  | some supplied =>
      change KisaNetworkAssessmentProfile.readValues supplied = .ok profile
        at accepted
      unfold KisaNetworkAssessmentProfile.readValues at accepted
      split at accepted
      · cases accepted
      simp only [Outcome.bind_eq_ok] at accepted
      obtain ⟨_, _, patch, first, snmp, second, made⟩ := accepted
      cases made
      unfold KisaNetworkAssessmentProfile.supplementalStatus at judged
      split at judged
      · cases judged
        exact ⟨.inl rfl, readSupplemental_eq_ok first⟩
      · cases judged
        exact ⟨.inr rfl, readSupplemental_eq_ok second⟩
      · cases judged

/-! ## The verdicts -/

/-- Results that are those of the controls, in their order. -/
def Covers (results : List DeviceControlResult) : Prop :=
  results.map (·.controlId) = kisaNetworkControls.map (·.controlId)

/-- Every status is the same or a review. -/
def NoBolder (fewer results : List DeviceControlResult) : Prop :=
  List.Forall₂ (fun less more => less.status = more.status ∨
    less.status = .review) fewer results

section Verdicts

variable {library : Library} {facts : Facts} {canonicalBytes : List UInt8}
  {capturedAt : DateTime} {profile : Option KisaNetworkAssessmentProfile}
  {results : List DeviceControlResult}

theorem results_by_control
    (returns : evaluateKisaNetworkControls library facts canonicalBytes
      capturedAt profile = .ok results) :
    List.Forall₂ (fun definition result =>
      result.controlId = definition.controlId ∧
        result.status = (evaluate library definition facts profile).1)
      kisaNetworkControls results :=
  (Outcome.mapM_eq_ok.mp returns).imp fun _ _ made => controlResult_eq_ok made

theorem covers_of_returns
    (returns : evaluateKisaNetworkControls library facts canonicalBytes
      capturedAt profile = .ok results) : Covers results := by
  have related := (results_by_control returns).imp
    fun definition result known => known.1.symm
  exact (List.forall₂_eq_eq_eq ▸
    (List.forall₂_map_right_iff.mpr (List.forall₂_map_left_iff.mpr related)) :
      kisaNetworkControls.map (·.controlId) = results.map (·.controlId)).symm

theorem returns_iff :
    (∃ results, evaluateKisaNetworkControls library facts canonicalBytes
      capturedAt none = .ok results) ↔
      canonicalBytes.length ≤ maximumOutput ∧
        ∀ definition ∈ kisaNetworkControls,
          Statable (evaluateDevice library definition none facts).2 := by
  constructor
  · rintro ⟨results, returns⟩
    have each : ∀ definition ∈ kisaNetworkControls,
        canonicalBytes.length ≤ maximumOutput ∧
          Statable (evaluateDevice library definition none facts).2 := by
      intro definition listed
      obtain ⟨result, _, made⟩ :=
        Outcome.related_of_mem (Outcome.mapM_eq_ok.mp returns) listed
      exact (controlResult_iff listed).mp ⟨result, made⟩
    have first : kisaNetworkControls.head (by decide) ∈ kisaNetworkControls :=
      List.head_mem _
    exact ⟨(each _ first).1, fun definition listed =>
      (each definition listed).2⟩
  · rintro ⟨small, statable⟩
    have each : ∀ definition ∈ kisaNetworkControls, ∃ result,
        controlResult library facts canonicalBytes capturedAt none definition =
          .ok result :=
      fun definition listed =>
        (controlResult_iff listed).mpr ⟨small, statable definition listed⟩
    choose! result made using each
    exact ⟨_, Outcome.mapM_of_forall made⟩

/-- Results of judgements that are the same or cautious. -/
theorem noBolder_of_retreat {fewerFacts : Facts} :
    ∀ {controls : List NetworkControlDefinition}
      {fewer results : List DeviceControlResult},
      List.Forall₂ (fun definition result =>
        result.controlId = definition.controlId ∧ result.status =
          (evaluate library definition fewerFacts none).1) controls fewer →
      List.Forall₂ (fun definition result =>
        result.controlId = definition.controlId ∧ result.status =
          (evaluate library definition facts none).1) controls results →
      (∀ definition ∈ controls,
        evaluateDevice library definition none fewerFacts =
            evaluateDevice library definition none facts ∨
          Cautious (evaluateDevice library definition none fewerFacts)) →
      NoBolder fewer results
  | [], _, _, .nil, .nil, _ => .nil
  | definition :: rest, _, _, .cons less lessRest, .cons more moreRest,
      retreat => by
      refine .cons ?_ (noBolder_of_retreat lessRest moreRest
        fun other listed => retreat other (List.mem_cons_of_mem _ listed))
      rw [less.2, more.2, evaluate_without_profile, evaluate_without_profile]
      rcases retreat definition List.mem_cons_self with same | careful
      · left
        rw [same]
      · right
        exact careful.1

/-- A deletion of facts keeps the check returning and no verdict bolder. -/
theorem deletion_noBolder (deleted : String → Bool)
    (returns : evaluateKisaNetworkControls library facts canonicalBytes
      capturedAt none = .ok results) :
    ∃ fewer, evaluateKisaNetworkControls library (without facts deleted)
        canonicalBytes capturedAt none = .ok fewer ∧
      Covers fewer ∧ NoBolder fewer results := by
  have before := returns_iff.mp ⟨results, returns⟩
  have retreat : ∀ definition ∈ kisaNetworkControls, _ :=
    fun definition listed => @evaluateDevice_retreats library definition
      none listed facts deleted
  have after : ∃ fewer, evaluateKisaNetworkControls library
      (without facts deleted) canonicalBytes capturedAt none = .ok fewer := by
    refine returns_iff.mpr ⟨before.1, ?_⟩
    intro definition listed
    rcases retreat definition listed with same | careful
    · rw [same]
      exact before.2 definition listed
    · exact careful.2
  obtain ⟨fewer, less⟩ := after
  refine ⟨fewer, less, covers_of_returns less, ?_⟩
  exact noBolder_of_retreat (results_by_control less)
    (results_by_control returns) retreat

end Verdicts

/-- With no profile the check returns when every observation can be stated,
gives the controls in order, and gives no bolder verdict when facts are
deleted.  With a profile a verdict that the facts do not give stands where
they give a review, and is the organization's judgement, or its default. -/
theorem verdicts_follow_the_evidence (library : Library) (facts : Facts)
    (canonicalBytes : List UInt8) (capturedAt : DateTime) :
    ((∃ results, evaluateKisaNetworkControls library facts canonicalBytes
        capturedAt none = .ok results) ↔
      canonicalBytes.length ≤ maximumOutput ∧
        ∀ definition ∈ kisaNetworkControls,
          Statable (evaluateDevice library definition none facts).2) ∧
    (∀ results, evaluateKisaNetworkControls library facts canonicalBytes
        capturedAt none = .ok results →
      Covers results ∧ ∀ deleted, ∃ fewer,
        evaluateKisaNetworkControls library (without facts deleted)
            canonicalBytes capturedAt none = .ok fewer ∧
          Covers fewer ∧ NoBolder fewer results) ∧
    (∀ profile results, evaluateKisaNetworkControls library facts
        canonicalBytes capturedAt (some profile) = .ok results →
      Covers results ∧ List.Forall₂ (fun definition result =>
        let given := (evaluateDevice library definition (some profile) facts).1
        result.status = given ∨ given = .review ∧
          profile.supplementalStatus definition.number = some result.status)
        kisaNetworkControls results) ∧
    ∀ values profile, KisaNetworkAssessmentProfile.fromValues values =
        .ok profile →
      ∀ number status, profile.supplementalStatus number = some status →
        (number = 12 ∨ number = 17) ∧
          SuppliedOrDefault values number status := by
  refine ⟨returns_iff, ?_, ?_, ?_⟩
  case refine_1 =>
      intro results returns
      exact ⟨covers_of_returns returns, fun deleted =>
        deletion_noBolder deleted returns⟩
  case refine_2 =>
      intro profile results returns
      refine ⟨covers_of_returns returns, ?_⟩
      refine (results_by_control returns).imp ?_
      intro definition result known
      rw [known.2]
      exact evaluate_with_profile profile
  case refine_3 =>
      intro values profile accepted number status judged
      exact fromValues_supplemental accepted judged

/-! ## A run -/

/-- A library of ASCII, with a fixed digest. -/
def asciiLibrary : Library where
  toCharacterDatabase := asciiDatabase
  sha256 := fun _ => List.replicate 64 '0'
  casefold_hangul := by
    intro character low high
    have notUpper :
        ¬(character.val ≥ 'A'.val ∧ character.val ≤ 'Z'.val) := by
      rintro ⟨_, small⟩
      have bound : character.toNat ≤ 90 := small
      omega
    change [character.toLower] = [character]
    delta Char.toLower
    rw [dif_neg notUpper]

def snmpInOneVrf : Facts :=
  fun key => if key = "snmp.enabled_vrf_count" then some (.integer 1) else none

def nulVersion : Facts := fun key =>
  if key = "platform.software_version" then some (.text ['\x00'])
  else if key = "platform.hot_patch_count" then some (.integer 0) else none

/-- The control N-17. -/
def snmpControl : NetworkControlDefinition := kisaNetworkControls[16]

/-- The control N-12. -/
def patchControl : NetworkControlDefinition := kisaNetworkControls[11]

/-- What N-12 shows of that device. -/
def nulObservation : Observed :=
  [.words "실행 소프트웨어: ", .text ['\x00'], .words ", 설치 hot patch: ",
    .number 0, .words "개, 벤더 권고 검토 이력은 조직 증적 필요"]

/-- The default profile, with nothing supplied, passes a control that the
facts leave to a review; and some facts give no results at all. -/
theorem default_profile_passes_unsupported_control :
    snmpControl.controlId = "N-17".toList ∧
      KisaNetworkAssessmentProfile.fromValues none = .ok {} ∧
      (evaluateDevice asciiLibrary snmpControl (some {}) snmpInOneVrf).1 =
        .review ∧
      (evaluate asciiLibrary snmpControl snmpInOneVrf (some {})).1 = .pass ∧
      ¬∃ results, evaluateKisaNetworkControls asciiLibrary nulVersion [] 0
        none = .ok results := by
  refine ⟨by decide, rfl, by decide, by decide, ?_⟩
  intro returns
  have listed : patchControl ∈ kisaNetworkControls := List.getElem_mem _
  have judged : (evaluateDevice asciiLibrary patchControl none nulVersion).2 =
      nulObservation := by
    decide
  obtain ⟨text, evaluated, safe⟩ := (returns_iff.mp returns).2 _ listed
  rw [judged] at evaluated
  have dirty : '\x00' ∈ text := by
    cases evaluated
    decide
  exact safe.2.2 ((mem_collapse_iff (by decide)).mpr dirty)

end SecAI.Platforms
