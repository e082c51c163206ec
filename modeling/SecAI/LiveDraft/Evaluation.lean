/-
Module: SecAI.LiveDraft.Evaluation
Purpose: The evaluation of a list of observations: the criteria are validated,
  the evidence of all probes is prepared, and every control is decided.
Trusted boundary: as in the contracts of the live draft; the documents of the
  audit pack are given as they are read
Main exports:
  LiveRaised, registryDecision, volumeDecision, packDecision
-/
import SecAI.Criteria.Requests
import SecAI.LiveDraft.Administrator

namespace SecAI.LiveDraft

open SecAI.Collector (ProbeObservation)
open SecAI.Criteria (CriteriaContext CriteriaFault)
open SecAI.Rules.Registry (RuleRegistry RuleRequest)
open SecAI.Text

/-- What leaves the evaluation. -/
inductive LiveRaised where
  | criteria (fault : CriteriaFault)
  | fault (fault : LiveFault)

def plainDecision (status actual expected resultCode : String) : LiveDecision :=
  { status := status
    actual := actual
    expected := expected
    explanation := none
    resultCode := resultCode }

def registryOf (controlId : String) : RuleRegistry :=
  if controlId ∈ ["PC-01", "PC-02", "PC-03"] then .accountPolicy
  else if controlId ∈ ["PC-04", "PC-05", "PC-06", "PC-08", "PC-09"] then
    .serviceManagement
  else if controlId ∈ ["PC-10", "PC-11"] then .patchLifecycle
  else if controlId ∈ ["PC-12", "PC-13", "PC-14", "PC-15"] then
    .endpointProtection
  else .userMediaRemote

/-- What `_decision` asks the registry of a control. -/
def ruleRequest (pack : AuditPack) (controlId : String) (rules : ControlRules)
    (evidence : Json) : RuleRequest :=
  { controlId := controlId
    applicabilityRule := rules.applicabilityRule
    evaluationRule := rules.evaluationRule
    evidence := evidence
    organizationPolicy := none
    referenceSnapshot := some pack.referenceSnapshot
    adapterCatalog :=
      if controlId = "PC-12" then none else some pack.adapterCatalog }

/-- `_decision` of a control with one row; none if it raises. -/
def registryDecision (env : LiveEnvironment) (pack : AuditPack)
    (controlId : String) (rules : ControlRules) (evidence : Json) :
    Option LiveDecision :=
  match (registryOf controlId).evaluate env.toRegistryEnvironment
      (ruleRequest pack controlId rules evidence) with
  | .ok decision => some (plainDecision decision.status decision.actual
      decision.expected decision.resultCode)
  | .error _ => none

/-- `_decision` of the volumes; none if it raises. -/
def volumeDecision (env : LiveEnvironment) (rules : ControlRules)
    (evidence : List Json) : Option LiveDecision :=
  match Rules.evaluate env.unicode "PC-07" rules.applicabilityRule
      rules.evaluationRule evidence with
  | .ok decision =>
      let status := decision.status.text
      some (plainDecision status
        (if status = "PASS" then "점검 대상 저장 장치가 모두 NTFS입니다"
          else if status = "ERROR" then
            "저장 장치 파일 형식을 완전하게 판정하지 못했습니다"
          else "NTFS가 아닌 점검 대상 저장 장치가 있습니다")
        "운영체제와 고정 저장 장치의 파일 시스템은 NTFS" decision.resultCode)
  | .error _ => none

/-- The decision of the audit pack; whatever is raised becomes an error. -/
def packDecision (env : LiveEnvironment) (pack : AuditPack)
    (controlId : String) (evidence : List Json) : LiveDecision :=
  let decision := do
    let rules ← pack.controls.lookup controlId
    if controlId = "PC-07" then volumeDecision env rules evidence
    else registryDecision env pack controlId rules (← evidence.head?)
  decision.getD (plainDecision "ERROR"
    "수집 자료를 시험 기준으로 판정하지 못했습니다"
    "해당 KISA 점검 기준 충족" "LIVE_DRAFT_EVALUATION_FAILED")

def notCollected (controlId : String) : LiveDecision :=
  plainDecision "ERROR"
    (if controlId ∈ administratorControlIds then
      "관리자 권한이 필요한 자료를 아직 확인하지 못했습니다"
    else "점검에 필요한 자료를 아직 확인하지 못했습니다")
    "해당 KISA 점검 기준 충족" "LIVE_DRAFT_EVIDENCE_NOT_COLLECTED"

def storageNotCollected : LiveDecision :=
  plainDecision "ERROR"
    "저장 장치 판정에 필요한 자료를 모두 확인하지 못했습니다"
    "운영체제와 고정 저장 장치의 파일 시스템은 NTFS"
    "LIVE_DRAFT_EVIDENCE_NOT_COLLECTED"

def evidenceOf (prepared : List Json) (controlId : String) : List Json :=
  prepared.filter fun item =>
    decide (item.member "control_id" = some (.str controlId))

/-- `observations_by_control.get(control_id)`: the last observation of a
control replaces the others. -/
def controlObservation (observations : List ProbeObservation)
    (controlId : String) : Option ProbeObservation :=
  observations.reverse.find? fun observation =>
    decide (probeToControl.lookup observation.probeId = some controlId)

/-- The decision of `_selected_criteria_decision` for the controls that need no
administrator. -/
def scopedDecision (env : LiveEnvironment) (controlId : String)
    (observation : ProbeObservation) (criteria : Option CriteriaContext) :
    Option LiveDecision :=
  match criteria with
  | some context =>
      if controlId ∈ selectedControlIds then
        orElse (selectedCriteriaDecision env controlId context.values
            observation)
          (liveEvidenceError controlId "판정에 필요한 서비스 자료가 불완전합니다")
      else none
  | none => none

/-- The decision of a control that has evidence, and whether the additional
criteria are compared beside it. -/
def controlDecision (env : LiveEnvironment) (pack : AuditPack)
    (suppliedProbes : List String) (criteria : Option CriteriaContext)
    (controlId : String) (evidence : List Json)
    (observation : ProbeObservation) : LiveDecision × Bool :=
  match liveAdministratorDecision env controlId observation criteria with
  | some decision => (decision, true)
  | none =>
      match scopedDecision env controlId observation criteria with
      | some decision => (decision, true)
      | none =>
          if controlId = "PC-07" ∧
              ¬∀ probe ∈ Collector.storageProbes, probe ∈ suppliedProbes then
            (storageNotCollected, false)
          else (packDecision env pack controlId evidence, true)

/-- The additional criteria, if there are criteria and they are compared. -/
def additionalOf (env : LiveEnvironment) (isCompared : Bool)
    (criteria : Option CriteriaContext) (controlId : String)
    (observation : ProbeObservation) :
    Except LiveFault (Option AdditionalResult) :=
  match isCompared, criteria with
  | true, some context =>
      additionalCriteriaDecision env controlId observation context
  | _, _ => .ok none

def evaluateControl (env : LiveEnvironment) (pack : AuditPack)
    (observations : List ProbeObservation) (criteria : Option CriteriaContext)
    (prepared : List Json) (controlId : String) :
    Except LiveFault LiveResult :=
  let evidence := evidenceOf prepared controlId
  if evidence = [] then .ok ⟨notCollected controlId, none⟩
  else
    match controlObservation observations controlId with
    | none => .error .key
    | some observation => do
        let (decision, isCompared) := controlDecision env pack
          (observations.map ProbeObservation.probeId) criteria controlId
          evidence observation
        let additional ←
          additionalOf env isCompared criteria controlId observation
        return ⟨decision, additional⟩

def validatedCriteria (env : LiveEnvironment) (criteriaContext : Option Decoded) :
    Except CriteriaFault (Option CriteriaContext) :=
  match criteriaContext with
  | some document =>
      some <$> Criteria.Collector.validateCriteriaExecutionContext env.criteria
        document
  | none => .ok none

/-- The loop over the controls, behind the preparation of the evidence. -/
def evaluateControls (env : LiveEnvironment) (pack : AuditPack)
    (observations : List ProbeObservation)
    (criteria : Option CriteriaContext) :
    Except LiveFault (List (String × LiveResult)) := do
  let prepared ← prepareEvidence env observations
  controlIds.mapM fun controlId => do
    let result ←
      evaluateControl env pack observations criteria prepared controlId
    return (controlId, result)

def evaluateLiveDraftObservations (env : LiveEnvironment) (pack : AuditPack)
    (observations : List ProbeObservation) (criteriaContext : Option Decoded) :
    Except LiveRaised (List (String × LiveResult)) :=
  if observations = [] then .ok []
  else do
    let criteria ←
      (validatedCriteria env criteriaContext).mapError LiveRaised.criteria
    (evaluateControls env pack observations criteria).mapError LiveRaised.fault

theorem mapError_eq_ok {ε δ α : Type} {outcome : Except ε α} {f : ε → δ}
    {value : α} : outcome.mapError f = .ok value ↔ outcome = .ok value := by
  cases outcome with
  | ok found => rw [Except.mapError, Except.ok.injEq, Except.ok.injEq]
  | error fault => exact iff_of_false nofun nofun

variable {observations : List ProbeObservation}

/-- A result is that of its control, on the evidence that was prepared. -/
theorem evaluated_control {env : LiveEnvironment} {pack : AuditPack}
    {criteriaContext : Option Decoded} {results : List (String × LiveResult)}
    (done : evaluateLiveDraftObservations env pack observations criteriaContext =
      .ok results) {controlId : String} {result : LiveResult}
    (member : (controlId, result) ∈ results) :
    ∃ criteria prepared,
      validatedCriteria env criteriaContext = .ok criteria ∧
      prepareEvidence env observations = .ok prepared ∧
      controlId ∈ controlIds ∧
      evaluateControl env pack observations criteria prepared controlId =
        .ok result := by
  unfold evaluateLiveDraftObservations at done
  split at done
  case isTrue =>
    cases done
    exact absurd member List.not_mem_nil
  case isFalse =>
    simp only [evaluateControls, Outcome.bind_eq_ok, mapError_eq_ok] at done
    obtain ⟨criteria, valid, prepared, isPrepared, evaluated⟩ := done
    obtain ⟨control, listed, made⟩ := Outcome.mapM_mem evaluated _ member
    obtain ⟨found, isResult, same⟩ := Outcome.bind_eq_ok.mp made
    cases same
    exact ⟨criteria, prepared, valid, isPrepared, listed, isResult⟩

section Samples

open SecAI.Criteria (CriteriaEnvironment CriteriaValues IsValidated
  sampleEnvironment sha256OfValues)
open SecAI.Criteria.Server (CriterionDefinition catalog)

def sampleValues (minutes : Int) : CriteriaValues :=
  catalog.map fun definition => (definition.key,
    if definition.key = "screensaver_timeout_maximum_minutes" then .int minutes
    else definition.officialValue)

def sampleCriteria : CriteriaEnvironment :=
  { sampleEnvironment with
    sha256 := fun text =>
      if text = render sampleEnvironment.floats .compact
          (Criteria.jsonValues (sampleValues 10)).sortKeys then
        ("44a5b9ed1150c386665bb915f2142042" ++
          "8cfec0a3538cd1157188f656e770b96c").toList
      else
        ("9927809e6061bfa46c31ccfbdf0f8dc3" ++
          "c945cf3551de1574c1a93f70bb43e5d1").toList
    length_sha256 := fun text => by split <;> decide
    sha256_hex := fun text => by
      split <;> exact @of_decide_eq_true _ (List.decidableBAll _ _)
        (by decide) }

def sampleContext (minutes : Int) : CriteriaContext where
  values := sampleValues minutes
  sources := catalog.map fun definition =>
    (points definition.key.toList, .str (points "KISA_DEFAULT".toList))
  criteriaSha256 :=
    (sha256OfValues sampleCriteria (sampleValues minutes)).toOption.getD []
  organizationProfile := none
  personalProfile := none

theorem criterionValue_sample {minutes : Int}
    (few : 1 ≤ minutes ∧ minutes ≤ 60) (definition : CriterionDefinition)
    (member : definition ∈ catalog)
    (isTimeout : definition.key = "screensaver_timeout_maximum_minutes") :
    Criteria.Server.criterionValue sampleCriteria definition (.int minutes) =
      .ok (.int minutes) := by
  have shape : ∀ definition ∈ catalog,
      definition.key = "screensaver_timeout_maximum_minutes" →
      definition.valueType = .integer ∧ definition.minimum = some 1 ∧
        definition.maximum = some 60 := by decide
  obtain ⟨isInteger, minimum, maximum⟩ := shape definition member isTimeout
  unfold Criteria.Server.criterionValue
  rw [isInteger, minimum, maximum]
  dsimp only [Option.any_some]
  rw [if_neg (by simp; omega), if_neg (by simp; omega)]

variable {minutes : Int}

theorem sampleValues_isValidated (few : 1 ≤ minutes ∧ minutes ≤ 60) :
    IsValidated sampleCriteria (sampleValues minutes) := by
  constructor
  case settled =>
    refine List.forall_mem_map.mpr fun definition member => ?_
    refine ⟨definition, Criteria.findDefinition_catalog definition member,
      rfl, ?_⟩
    dsimp only
    split
    case isTrue isTimeout =>
      exact criterionValue_sample few definition member isTimeout
    case isFalse => exact Criteria.criterionValue_official definition member
  case complete =>
    intro key known
    obtain ⟨definition, member, rfl⟩ := List.mem_map.mp known
    rw [sampleValues, List.map_map]
    exact List.mem_map.mpr ⟨definition, member, rfl⟩

theorem sampleValues_areScalar (minutes : Int) :
    Criteria.textsAreScalar (Criteria.jsonValues (sampleValues minutes)) =
      true := by
  have official : ∀ definition ∈ catalog,
      Criteria.textsAreScalar definition.officialValue.json = true := by
    decide
  rw [Criteria.jsonValues, Criteria.textsAreScalar_dict, sampleValues]
  refine List.forall_mem_map.mpr (List.forall_mem_map.mpr ?_)
  intro definition member
  dsimp only
  split
  case isTrue => rfl
  case isFalse => exact official definition member

theorem sampleContext_isValid (few : 1 ≤ minutes ∧ minutes ≤ 60) :
    Criteria.Collector.validateCriteriaExecutionContext sampleCriteria
      (sampleContext minutes).document = .ok (sampleContext minutes) := by
  have validated := sampleValues_isValidated few
  refine Criteria.validate_of_isWellFormed ?_
  constructor
  case values => exact validated
  case digest =>
    rcases @Criteria.sha256OfValues_cases sampleCriteria (sampleValues minutes)
      with ⟨-, text, isDigest⟩ | ⟨notScalar, -⟩
    · rw [sampleContext, isDigest]
      rfl
    · rw [sampleValues_areScalar] at notScalar
      cases notScalar
  case sourceKeys =>
    rw [← Criteria.hasExactKeys_congr validated.mem_keys_iff]
    refine Criteria.hasExactKeys_of_keys ?_
    rw [sampleContext, sampleValues, List.map_map, List.map_map, List.map_map]
    rfl
  case sources =>
    have isAllowed : (Decoded.str (points "KISA_DEFAULT".toList)).isAmong
        Criteria.allowedSources = some true := by decide
    exact List.forall_mem_map.mpr fun _ _ => isAllowed
  case organization => exact nofun
  case personal => exact nofun

def sampleLiveEnvironment : LiveEnvironment :=
  { Rules.Registry.sampleRegistryEnvironment ⟨[], []⟩ with
    criteria := sampleCriteria
    unicode := Rules.asciiText
    lower := fun text => points (text.map fun point => point.shown.toLower) }

def emptyPack : AuditPack := ⟨[], .null, .null⟩

def sampleObservation (probeId status errorCode : String)
    (records : List Json) : ProbeObservation where
  probeId := probeId
  collectionStatus := status
  errorCode := errorCode
  adapterId := "windows-builtin"
  adapterVersion := "0.1.0"
  privilege := "STANDARD_USER"
  collectedAt := "2026-07-23T08:27:00Z"
  records := records
  userSid := some "S-1-5-21-1-2-3-1001"

theorem evaluate_sampleContext {pack : AuditPack} (filled : observations ≠ [])
    (few : 1 ≤ minutes ∧ minutes ≤ 60) :
    evaluateLiveDraftObservations sampleLiveEnvironment pack observations
        (some (sampleContext minutes).document) =
      (evaluateControls sampleLiveEnvironment pack observations
        (some (sampleContext minutes))).mapError LiveRaised.fault := by
  have valid : validatedCriteria sampleLiveEnvironment
      (some (sampleContext minutes).document) =
        .ok (some (sampleContext minutes)) := by
    unfold validatedCriteria
    dsimp only
    have isValid := sampleContext_isValid few
    rw [show sampleLiveEnvironment.criteria = sampleCriteria from rfl, isValid]
    rfl
  rw [evaluateLiveDraftObservations, if_neg filled, valid]
  rfl

end Samples

end SecAI.LiveDraft
