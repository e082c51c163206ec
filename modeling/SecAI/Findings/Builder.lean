/-
Module: SecAI.Findings.Builder
Purpose: The construction of a finding from a pack, evidence and a decision,
  and how a repeated finding is resolved against a stored one.
Trusted boundary: see SecAI.Findings.Contracts
Main exports:
  canonicalFindingOutputSha256, deterministicFindingId, packControl
-/
import SecAI.Findings.Contracts
import SecAI.Rules.Applicability
import Mathlib.Data.String.Basic

namespace SecAI.Findings

open SecAI.Rules (DecisionCandidate ApplicabilityStatus ensure)

def findingNamespace : Uuid := ⟨0x9df956a5ec7c4b02957033be0f59348b⟩

def outputExcludedFields : List String :=
  ["id", "created_at", "correlation_id", "evaluated_at"]

/-- `_reject`. -/
def rejected (code : FindingBuildCode) (message : String) : FindingFault :=
  .build code message

def object (value : Option Json) (code : FindingBuildCode) :
    Except FindingFault Json :=
  match value with
  | some (.obj members) => .ok (.obj members)
  | _ => .error (rejected code "Expected a JSON object.")

def string (document : Json) (key : String) (code : FindingBuildCode) :
    Except FindingFault String :=
  match document.member key with
  | some (.str value) =>
      if value = "" then
        .error (rejected code ("Expected non-empty string field: " ++ key ++ "."))
      else .ok value
  | _ =>
      .error (rejected code ("Expected non-empty string field: " ++ key ++ "."))

def withMember (document : Json) (key : String) (value : Json) : Json :=
  match document with
  | .obj members =>
      .obj (members.map fun entry =>
        if entry.1 = key then (key, value) else entry)
  | other => other

variable (env : FindingEnvironment)

def canonicalFindingOutputSha256 (finding : Json) :
    Except FindingFault String :=
  let payload := finding.without outputExcludedFields
  match payload.member "rule_result" with
  | some (.obj members) =>
      canonicalSha256 env (withMember payload "rule_result"
        ((Json.obj members).without ["output_sha256"]))
  | _ =>
      .error (rejected .findingSchemaInvalid "Finding rule_result is invalid.")

def deterministicFindingId (inputSha256 outputSha256 : String) : String :=
  (env.uuid5 findingNamespace (inputSha256 ++ ":" ++ outputSha256)).text

/-- `_validate_schema`, for a schema of the catalog. -/
def validateSchema (schema : JsonSchema.Schema) (document : Json)
    (code : FindingBuildCode) : Except FindingFault Unit :=
  ensure (schema document = true)
    (rejected code "Document failed its approved JSON Schema.")

def matchingControls (controls : List Json) (controlId : String) : List Json :=
  controls.filter fun item =>
    item.isObject && decide (item.member "control_id" = some (.str controlId))

def packControl (pack : Json) (controlId : String) (allowDraft : Bool) :
    Except FindingFault Json := do
  validateSchema (auditPackSchema env.digits) pack .packSchemaInvalid
  let approval ← object (pack.member "approval") .packSchemaInvalid
  let approvalStatus ← string approval "status" .packSchemaInvalid
  ensure (approvalStatus = "APPROVED" ∨
      (approvalStatus = "DRAFT" ∧ allowDraft = true))
    (rejected .packNotApproved
      "Only an approved Pack may create an official Finding.")
  let declaredHash ← string pack "content_sha256" .packSchemaInvalid
  let actualHash ←
    canonicalSha256 env (pack.without ["content_sha256", "approval"])
  ensure (declaredHash = actualHash)
    (rejected .packHashMismatch "Audit Pack content hash does not match.")
  match pack.member "controls" with
  | some (.arr controls) =>
      match matchingControls controls controlId with
      | [control] => .ok control
      | _ => .error (rejected .packSchemaInvalid
          "Control is not unique in the Pack.")
  | _ => .error (rejected .packSchemaInvalid "Pack controls are invalid.")

/-! ## The evidence -/

/-- The evidence of one finding, with what all of it has in common. -/
structure ValidatedEvidence where
  documents : List Json
  jobId : String
  assetId : String
  correlationId : String

def documentId (document : Json) : String :=
  (document.stringAt "id").getD ""

def validatedEvidence (evidence : List Json) (controlId : String) :
    Except FindingFault ValidatedEvidence := do
  evidence.forM fun item =>
    validateSchema (normalizedEvidenceSchema env.digits) item
      .evidenceSchemaInvalid
  ensure (evidence ≠ [])
    (rejected .evaluationScopeMismatch "Evidence set is empty.")
  let jobIds ← evidence.mapM (string · "job_id" .evidenceSchemaInvalid)
  let assetIds ← evidence.mapM (string · "asset_id" .evidenceSchemaInvalid)
  let controlIds ← evidence.mapM (string · "control_id" .evidenceSchemaInvalid)
  let correlationIds ←
    evidence.mapM (string · "correlation_id" .evidenceSchemaInvalid)
  let evidenceIds ← evidence.mapM (string · "id" .evidenceSchemaInvalid)
  ensure (jobIds.dedup.length = 1 ∧ assetIds.dedup.length = 1 ∧
      controlIds.dedup = [controlId] ∧ correlationIds.dedup.length = 1 ∧
      evidenceIds.Nodup)
    (rejected .evaluationScopeMismatch
      "Evidence does not belong to one job, asset, correlation and Control.")
  return {
    documents := Ordered.sortedBy documentId evidence
    jobId := jobIds.headD ""
    assetId := assetIds.headD ""
    correlationId := correlationIds.headD "" }

/-! ## The finding -/

/-- The values that a finding is made of. -/
structure FindingDraft where
  id : String
  createdAt : String
  producerVersion : String
  correlationId : String
  jobId : String
  assetId : String
  controlId : String
  guideVersion : String
  severity : String
  subject : Json
  status : String
  applicabilityStatus : String
  applicabilityReasonCode : String
  applicabilityRuleId : String
  packId : String
  packVersion : String
  packSha256 : String
  ruleId : String
  ruleVersion : String
  resultCode : String
  actual : Json
  expected : Json
  rationaleCode : String
  citations : List Json
  inputSha256 : String
  outputSha256 : String
  evidenceRefs : List Json
  evidenceSetSha256 : String
  errorCodes : List String
  evaluatedAt : String

def FindingDraft.ruleResult (draft : FindingDraft) : Json :=
  .obj [("actual", draft.actual),
    ("citations", .arr draft.citations),
    ("expected", draft.expected),
    ("input_sha256", .str draft.inputSha256),
    ("output_sha256", .str draft.outputSha256),
    ("rationale_code", .str draft.rationaleCode),
    ("result_code", .str draft.resultCode),
    ("rule_id", .str draft.ruleId),
    ("rule_version", .str draft.ruleVersion)]

def FindingDraft.document (draft : FindingDraft) : Json :=
  .obj [
    ("applicability", .obj [
      ("reason_code", .str draft.applicabilityReasonCode),
      ("rule_id", .str draft.applicabilityRuleId),
      ("status", .str draft.applicabilityStatus)]),
    ("asset_id", .str draft.assetId),
    ("audit_pack", .obj [("id", .str draft.packId),
      ("sha256", .str draft.packSha256),
      ("version", .str draft.packVersion)]),
    ("control_id", .str draft.controlId),
    ("correlation_id", .str draft.correlationId),
    ("created_at", .str draft.createdAt),
    ("error_codes", .arr (draft.errorCodes.map .str)),
    ("evaluated_at", .str draft.evaluatedAt),
    ("evidence_refs", .arr draft.evidenceRefs),
    ("evidence_set_sha256", .str draft.evidenceSetSha256),
    ("guide_version", .str draft.guideVersion),
    ("id", .str draft.id),
    ("job_id", .str draft.jobId),
    ("policy_refs", .arr []),
    ("producer_name", .str "sec-ai-rule-engine"),
    ("producer_version", .str draft.producerVersion),
    ("rule_result", draft.ruleResult),
    ("schema_version", .str "1.0.0"),
    ("severity", .str draft.severity),
    ("source", .str "rule-engine"),
    ("status", .str draft.status),
    ("subject", draft.subject)]

/-- One entry of `evidence_refs`. -/
def evidenceReference (item : Json) : Except FindingFault Json := do
  let id ← string item "id" .evidenceSchemaInvalid
  let sha256 ← string item "evidence_sha256" .evidenceSchemaInvalid
  return .obj [("id", .str id), ("sha256", .str sha256)]

/-- The arguments of `_assemble` that the two builders make. -/
structure Outline where
  subject : Json
  status : String
  applicabilityStatus : String
  applicabilityReasonCode : String
  actual : Json
  expected : Json
  resultCode : String
  rationaleCode : String
  errorCodes : List String

def canonicalInput (controlId : String) (evidence : ValidatedEvidence)
    (context : FindingBuildContext env) (subject packApproval
    applicabilityRule evaluationRule : Json) (packId packVersion
    packSha256 : String) (evidenceRefs : List Json)
    (evidenceSetSha256 : String) : Json :=
  .obj [("asset_id", .str evidence.assetId),
    ("audit_pack", .obj [("approval", packApproval), ("id", .str packId),
      ("sha256", .str packSha256), ("version", .str packVersion)]),
    ("control_id", .str controlId),
    ("engine", .obj [
      ("artifact_sha256", .str context.engineArtifactSha256),
      ("name", .str "sec-ai-rule-engine"),
      ("version", .str context.engineVersion)]),
    ("evaluation_as_of", .str context.evaluationAsOf.val),
    ("evidence", .arr evidence.documents),
    ("evidence_refs", .arr evidenceRefs),
    ("evidence_set_sha256", .str evidenceSetSha256),
    ("job_id", .str evidence.jobId),
    ("organization_id", .str context.organizationId),
    ("policy_refs", .arr []),
    ("reference_refs", .arr []),
    ("rules", .obj [("applicability", applicabilityRule),
      ("evaluation", evaluationRule)]),
    ("schema", .obj [
      ("id", .str "https://schemas.sec-ai.local/v1/finding.schema.json"),
      ("version", .str "1.0.0")]),
    ("subject", subject)]

def controlCitations (control : Json) : Except FindingFault (List Json) :=
  match control.member "citations" with
  | some (.arr citations) => .ok citations
  | _ => .error (rejected .packSchemaInvalid "Control citations are invalid.")

/-- The part of `_assemble` before the hash of the output: the draft has no
identifier and no output hash yet. -/
def draft (pack : Json) (controlId : String) (control : Json)
    (evidence : ValidatedEvidence) (context : FindingBuildContext env)
    (outline : Outline) : Except FindingFault FindingDraft := do
  let applicabilityRule ←
    object (control.member "applicability_rule") .packSchemaInvalid
  let evaluationRule ←
    object (control.member "evaluation_rule") .packSchemaInvalid
  let evidenceRefs ← evidence.documents.mapM evidenceReference
  let evidenceSetSha256 ← canonicalSha256 env (.arr evidenceRefs)
  let packApproval := (pack.member "approval").getD .null
  let packId ← string pack "id" .packSchemaInvalid
  let packVersion ← string pack "version" .packSchemaInvalid
  let packSha256 ← string pack "content_sha256" .packSchemaInvalid
  let inputSha256 ← canonicalSha256 env
    (canonicalInput env controlId evidence context outline.subject packApproval
      applicabilityRule evaluationRule packId packVersion packSha256
      evidenceRefs evidenceSetSha256)
  let guide ← object (pack.member "guide") .packSchemaInvalid
  let citations ← controlCitations control
  let guideVersion ← string guide "version" .packSchemaInvalid
  let severity ← string control "severity" .packSchemaInvalid
  let applicabilityRuleId ←
    string applicabilityRule "rule_id" .packSchemaInvalid
  let ruleId ← string evaluationRule "rule_id" .packSchemaInvalid
  let ruleVersion ← string evaluationRule "rule_version" .packSchemaInvalid
  return {
    id := "00000000-0000-4000-8000-000000000000"
    createdAt := context.evaluatedAt.val
    producerVersion := context.engineVersion
    correlationId := evidence.correlationId
    jobId := evidence.jobId
    assetId := evidence.assetId
    controlId := controlId
    guideVersion := guideVersion
    severity := severity
    subject := outline.subject
    status := outline.status
    applicabilityStatus := outline.applicabilityStatus
    applicabilityReasonCode := outline.applicabilityReasonCode
    applicabilityRuleId := applicabilityRuleId
    packId := packId
    packVersion := packVersion
    packSha256 := packSha256
    ruleId := ruleId
    ruleVersion := ruleVersion
    resultCode := outline.resultCode
    actual := outline.actual
    expected := outline.expected
    rationaleCode := outline.rationaleCode
    citations := citations
    inputSha256 := inputSha256
    outputSha256 := String.ofList (List.replicate 64 '0')
    evidenceRefs := evidenceRefs
    evidenceSetSha256 := evidenceSetSha256
    errorCodes := Ordered.sortedBy id outline.errorCodes
    evaluatedAt := context.evaluatedAt.val }

def assemble (pack : Json) (controlId : String) (control : Json)
    (evidence : ValidatedEvidence) (context : FindingBuildContext env)
    (outline : Outline) : Except FindingFault Json := do
  let draft ← draft env pack controlId control evidence context outline
  let outputSha256 ← canonicalFindingOutputSha256 env draft.document
  let finding := { draft with
    id := deterministicFindingId env draft.inputSha256 outputSha256
    outputSha256 := outputSha256 }
  validateSchema (findingSchema env.digits) finding.document
    .findingSchemaInvalid
  return finding.document

/-! ## The two builders -/

/-- `str(applicability.status)`. -/
def applicabilityText : ApplicabilityStatus → String
  | .applicable => "APPLICABLE"
  | .notApplicable => "NOT_APPLICABLE"
  | .undetermined => "UNDETERMINED"

/-- One round of the loop that fills `volume_filesystems`; a later volume
takes the place of an earlier one. -/
def addFilesystem (filesystems : List (String × String)) (item : Json) :
    Except FindingFault (List (String × String)) :=
  if item.member "probe_id" ≠ some (.str "win.storage.volumes") then
    .ok filesystems
  else do
    let subject ← object (item.member "subject") .evidenceSchemaInvalid
    let subjectKey ← string subject "subject_key" .evidenceSchemaInvalid
    match (item.member "normalized_value").bind (·.member "filesystem") with
    | some (.str filesystem) => .ok ((subjectKey, filesystem) :: filesystems)
    | _ => .ok filesystems

/-- One entry of `actual`. -/
def actualFilesystem (filesystems : List (String × String))
    (subjectKey : String) : Except FindingFault (String × Json) :=
  match filesystems.lookup subjectKey with
  | some filesystem => .ok (subjectKey, .str filesystem)
  | none =>
      .error (rejected .evaluationScopeMismatch
        "An evaluated volume has no normalized filesystem value.")

/-- What `build` hands to `_assemble`. -/
def outlineOfVolumes (control : Json) (documents : List Json)
    (decision : DecisionCandidate) : Except FindingFault Outline := do
  let evaluationRule ←
    object (control.member "evaluation_rule") .packSchemaInvalid
  let parameters ←
    object (evaluationRule.member "parameters") .packSchemaInvalid
  let requiredFilesystem ←
    string parameters "required_filesystem" .packSchemaInvalid
  let filesystems ← documents.foldlM addFilesystem []
  let actual ← (Ordered.sortedSet decision.evaluatedVolumeIds).mapM
    (actualFilesystem filesystems)
  return {
    subject := .obj [("scope", .str decision.subjectScope),
      ("subject_key", .str decision.subjectKey)]
    status := decision.status.text
    applicabilityStatus := applicabilityText decision.applicability.status
    applicabilityReasonCode := decision.applicability.reasonCode
    actual := .obj actual
    expected := .str requiredFilesystem
    resultCode := decision.resultCode
    rationaleCode := decision.rationaleCode
    errorCodes := decision.errorCodes }

/-- `FindingBuilder.build`. -/
def build (pack : Json) (controlId : String) (evidence : List Json)
    (decision : DecisionCandidate) (context : FindingBuildContext env)
    (allowDraft : Bool) : Except FindingFault Json := do
  let control ← packControl env pack controlId allowDraft
  let validated ← validatedEvidence env evidence controlId
  let outline ← outlineOfVolumes control validated.documents decision
  assemble env pack controlId control validated context outline

/-- `decision.get(key)` with a text in place of `None`. -/
def valueOr (decision : Json) (key text : String) : Json :=
  match decision.member key with
  | some .null | none => .str text
  | some value => value

def decisionErrorCodes (decision : Json) : Except FindingFault (List String) :=
  let codeOf (item : Json) : Option String :=
    match item with
    | .str code => if code = "" then none else some code
    | _ => none
  match decision.member "error_codes" with
  | some (.arr values) =>
      let codes := values.filterMap codeOf
      if codes.length ≠ values.length then
        .error (rejected .evaluationScopeMismatch
          "Decision error codes are invalid.")
      else .ok codes
  | _ => .error (rejected .evaluationScopeMismatch
      "Decision error codes are invalid.")

def collectionFailed (documents : List Json) : Bool :=
  documents.any fun item =>
    decide (item.member "collection_status" ≠ some (.str "COLLECTED"))

/-- `applicability_status` of a common finding, and its reason code. -/
def commonApplicability (status : String) (documents : List Json) :
    String × String :=
  if status = "N/A" then ("NOT_APPLICABLE", "CONTROL_NOT_APPLICABLE")
  else if status = "ERROR" ∧ collectionFailed documents = true then
    ("UNDETERMINED", "COLLECTION_UNDETERMINED")
  else ("APPLICABLE", "CONTROL_APPLICABLE")

/-- What `build_common` hands to `_assemble`. -/
def outlineOfCommon (documents : List Json) (decision : Json) :
    Except FindingFault Outline := do
  let subjects ← documents.mapM fun item =>
    object (item.member "subject") .evidenceSchemaInvalid
  let subject := subjects.headD .null
  ensure (∀ other ∈ subjects, other = subject)
    (rejected .evaluationScopeMismatch
      "Common Finding evidence has more than one subject.")
  let status ← string decision "status" .evaluationScopeMismatch
  ensure (status ∈ ["PASS", "FAIL", "ERROR", "REVIEW", "N/A"])
    (rejected .evaluationScopeMismatch "Decision status is not supported.")
  let errorCodes ← decisionErrorCodes decision
  let applicability := commonApplicability status documents
  let resultCode ← string decision "result_code" .evaluationScopeMismatch
  let rationaleCode ← string decision "rationale_code" .evaluationScopeMismatch
  return {
    subject := subject
    status := status
    applicabilityStatus := applicability.1
    applicabilityReasonCode := applicability.2
    actual := valueOr decision "actual" "확인하지 못함"
    expected := valueOr decision "expected" "승인된 점검 기준"
    resultCode := resultCode
    rationaleCode := rationaleCode
    errorCodes := errorCodes }

/-- `FindingBuilder.build_common`. -/
def buildCommon (pack : Json) (controlId : String) (evidence : List Json)
    (decision : Json) (context : FindingBuildContext env)
    (allowDraft : Bool) : Except FindingFault Json := do
  let control ← packControl env pack controlId allowDraft
  let validated ← validatedEvidence env evidence controlId
  let outline ← outlineOfCommon validated.documents decision
  assemble env pack controlId control validated context outline

end SecAI.Findings

namespace SecAI.Findings

open SecAI.Credential (uuidAccepts)
open SecAI.Rules (ensure)

inductive FindingReplayAction where
  | create
  | returnExisting

inductive FindingReplayCode where
  | findingInvalid
  | outputHashMismatch
  | findingIdMismatch
  | idempotencyScopeMismatch
  | idempotencyConflict

/-- Exceptions that leave the resolution: its own, or one of the hash of the
output. -/
inductive ReplayFault where
  | replay (code : FindingReplayCode) (message : String)
  | finding (fault : FindingFault)

structure FindingFingerprint where
  idempotencyKey : String
  findingId : String
  outputSha256 : String
deriving DecidableEq

structure FindingReplayResolution where
  action : FindingReplayAction
  fingerprint : FindingFingerprint

def replayString (document : Json) (key : String) :
    Except ReplayFault String :=
  match document.member key with
  | some (.str value) =>
      if value = "" then
        .error (.replay .findingInvalid ("Finding field is invalid: " ++ key ++ "."))
      else .ok value
  | _ =>
      .error (.replay .findingInvalid ("Finding field is invalid: " ++ key ++ "."))

def replaySha256 (document : Json) (key : String) :
    Except ReplayFault String := do
  let value ← replayString document key
  ensure (isSha256 value.toList = true)
    (.replay .findingInvalid ("Finding hash is invalid: " ++ key ++ "."))
  return value

/-- `finding["rule_result"]`, which has to be an object. -/
def replayRuleResult (finding : Json) : Except ReplayFault Json :=
  match finding.member "rule_result" with
  | some (.obj members) => .ok (.obj members)
  | _ => .error (.replay .findingInvalid "Finding rule_result is invalid.")

variable (env : FindingEnvironment)

def findingFingerprint (finding : Json) :
    Except ReplayFault FindingFingerprint := do
  let findingId ← replayString finding "id"
  ensure (uuidAccepts env.digits findingId = true)
    (.replay .findingInvalid "Finding ID is not a UUID.")
  let ruleResult ← replayRuleResult finding
  let inputSha256 ← replaySha256 ruleResult "input_sha256"
  let outputSha256 ← replaySha256 ruleResult "output_sha256"
  let actualSha256 ←
    (canonicalFindingOutputSha256 env finding).mapError .finding
  ensure (actualSha256 = outputSha256)
    (.replay .outputHashMismatch
      "Finding output hash does not match its canonical decision payload.")
  ensure (deterministicFindingId env inputSha256 outputSha256 = findingId)
    (.replay .findingIdMismatch
      "Finding ID is not bound to its canonical input and output hashes.")
  return ⟨inputSha256, findingId, outputSha256⟩

def resolveFindingReplay (existing : Option Json) (candidate : Json) :
    Except ReplayFault FindingReplayResolution := do
  let candidateFingerprint ← findingFingerprint env candidate
  match existing with
  | none => return ⟨.create, candidateFingerprint⟩
  | some existing =>
      let existingFingerprint ← findingFingerprint env existing
      ensure (existingFingerprint.idempotencyKey =
          candidateFingerprint.idempotencyKey)
        (.replay .idempotencyScopeMismatch
          "Existing Finding was loaded for a different idempotency key.")
      ensure (existingFingerprint = candidateFingerprint)
        (.replay .idempotencyConflict
          "The same canonical input produced a different Finding identity or output.")
      return ⟨.returnExisting, existingFingerprint⟩

end SecAI.Findings
