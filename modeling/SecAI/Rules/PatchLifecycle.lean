/-
Module: SecAI.Rules.PatchLifecycle
Purpose: The registry of PC-10 and PC-11, patches and the support lifecycle.
Trusted boundary: see SecAI.Rules.Registry
Main exports:
  rules, validatedReference, procedure, evaluatePc10
-/
import SecAI.Rules.Registry

namespace SecAI.Rules.PatchLifecycle

open SecAI.Findings (canonicalSha256)
open SecAI.Rules (strings ensure)
open SecAI.Rules.Registry

def snapshotId : String := "microsoft-windows-11-2026-07-23"

def snapshotVersion : String := "1.0.0"

def snapshotSha256 : String :=
  "9bb9fcc8fb8461e053ba22d33d5fbf15d4a9113651f32a834faaffc199911054"

def commonReferenceParameters : List (String × Json) :=
  [("reference_snapshot_required", .bool true),
    ("reference_snapshot_id", .str snapshotId),
    ("reference_snapshot_version", .str snapshotVersion),
    ("reference_snapshot_sha256", .str snapshotSha256),
    ("allowed_snapshot_approval_statuses", strings ["DRAFT"]),
    ("missing_reference_status", .str "REVIEW"),
    ("expired_reference_status", .str "REVIEW")]

/-- `applicability_parameters` of both rules. -/
def applicabilityParameters : List (String × Json) :=
  [("subject_scope", .str "ASSET"), ("target_product", .str "WINDOWS_11"),
    ("supported_architectures", strings ["x86_64"]),
    ("unknown_product_status", .str "ERROR")]

def acceptedInventorySources : List String :=
  ["WINDOWS_UPDATE_AGENT", "WINDOWS_UPDATE_HISTORY_AND_BUILD",
    "WSUS_OR_INTUNE_COMPLIANCE"]

def rules : List (String × RuleDefinition) :=
  [("PC-10",
      { probeId := "win.update.compliance"
        subjectScope := "ASSET"
        applicability := ("pc10.patch-applicability", "0.1.0")
        evaluation := ("pc10.patch-baseline", "0.1.0")
        applicabilityParameters := applicabilityParameters
        evaluationParameters := commonReferenceParameters ++
          [("organization_procedure_required", .bool true),
            ("missing_procedure_status", .str "REVIEW"),
            ("accepted_inventory_sources", strings acceptedInventorySources),
            ("forbidden_solo_source", .str "GET_HOTFIX"),
            ("automatic_updates_required", .bool true),
            ("missing_required_update_status", .str "FAIL"),
            ("below_minimum_build_status", .str "FAIL"),
            ("restart_pending_status", .str "REVIEW"),
            ("stale_scan_status", .str "ERROR"),
            ("collection_failure_status", .str "ERROR")] }),
    ("PC-11",
      { probeId := "win.os.lifecycle"
        subjectScope := "ASSET"
        applicability := ("pc11.lifecycle-applicability", "0.1.0")
        evaluation := ("pc11.support-lifecycle", "0.1.0")
        applicabilityParameters := applicabilityParameters
        evaluationParameters := commonReferenceParameters ++
          [("organization_procedure_required", .bool true),
            ("missing_procedure_status", .str "REVIEW"),
            ("support_state_rule",
              .str "COLLECTED_AT_ON_OR_BEFORE_SUPPORT_END"),
            ("eol_status", .str "FAIL"),
            ("unknown_edition_or_version_status", .str "REVIEW"),
            ("collection_failure_status", .str "ERROR")] })]

def texts : RegistryTexts :=
  { controlNotAllowlisted := "Control rule is not allowlisted by IMP-023."
    applicabilityParameters :=
      "Rule parameters differ from the allowlisted version."
    evaluationParameters :=
      "Rule parameters differ from the allowlisted version."
    subjectScope := "Patch and lifecycle evidence requires ASSET scope." }

/-- A field of the reference snapshot that a decision repeats. -/
def referenceField (reference : Option Json) (key message : String) :
    Except RegistryFault String :=
  match reference with
  | some reference => Registry.string (reference.member key) message
  | none => .ok "NOT_PROVIDED"

def decision (controlId status resultCode actual expected scopeLabel : String)
    (reference : Option Json) (errorCodes : List String) :
    Except RegistryFault RuleDecision := do
  let id ← referenceField reference "snapshot_id" "Snapshot ID is invalid."
  let asOf ← referenceField reference "as_of" "Snapshot date is invalid."
  let validUntil ←
    referenceField reference "valid_until" "Snapshot expiry is invalid."
  return {
    controlId := controlId
    status := status
    resultCode := resultCode
    actual := actual
    expected := expected
    rationaleCode := resultCode
    errorCodes := errorCodes
    details :=
      [("scope_label", scopeLabel), ("reference_snapshot_id", id),
        ("reference_as_of", asOf), ("reference_valid_until", validUntil)] }

def collectionError (controlId errorCode : String) :
    Except RegistryFault RuleDecision :=
  decision controlId "ERROR"
    (collectionResultCode controlId "_COLLECTION_FAILED")
    "점검 정보를 가져오지 못함" "필수 정보를 오류 없이 수집" "수집 오류" none
    [errorCode]

variable (env : RegistryEnvironment)

/-- `_validated_reference`; the parameters are the approved ones. -/
def validatedReference (snapshot : Json) : Except RegistryFault Json := do
  ensure (snapshot.member "snapshot_id" = some (.str snapshotId))
    (.rejected "Reference snapshot ID differs from the allowlisted rule.")
  ensure (snapshot.member "version" = some (.str snapshotVersion))
    (.rejected "Reference snapshot version differs from the allowlisted rule.")
  ensure (snapshot.member "content_sha256" = some (.str snapshotSha256))
    (.rejected "Reference snapshot hash differs from the allowlisted rule.")
  let actualHash ← (canonicalSha256 env.toFindingEnvironment
    (snapshot.without ["content_sha256", "approval"])).mapError
      fun _ => .canonicalization
  ensure (actualHash = snapshotSha256)
    (.rejected "Reference snapshot payload integrity failed.")
  let approval ←
    Registry.mapping (snapshot.member "approval") "Reference approval is invalid."
  ensure (approval.member "status" = some (.str "DRAFT"))
    (.rejected "Reference snapshot approval status is not allowlisted.")
  let _ ← timestamp env (snapshot.member "as_of")
    "Reference as-of timestamp is invalid."
  let _ ← timestamp env (snapshot.member "valid_until")
    "Reference expiry timestamp is invalid."
  return snapshot

def records (snapshot : Json) (field : String) :
    Except RegistryFault (List Json) :=
  sequence (snapshot.member field)
    ("Reference snapshot field " ++ field ++ " is invalid.")

/-- The first record with these members; every record before it has to be an
object. -/
def firstRecord (message : String) (wanted : List (String × String)) :
    List Json → Except RegistryFault (Option Json)
  | [] => .ok none
  | item :: items => do
      let record ← Registry.mapping (some item) message
      if ∀ entry ∈ wanted, record.member entry.1 = some (.str entry.2) then
        return some record
      else firstRecord message wanted items

def patchBaseline (snapshot : Json) (displayVersion : String) :
    Except RegistryFault (Option Json) := do
  let items ← records snapshot "patch_baselines"
  firstRecord "Patch baseline record is invalid."
    [("display_version", displayVersion)] items

def lifecycleRecord (snapshot : Json) (editionGroup displayVersion : String) :
    Except RegistryFault (Option Json) := do
  let items ← records snapshot "lifecycle_records"
  firstRecord "Lifecycle record is invalid."
    [("edition_group", editionGroup), ("display_version", displayVersion)]
    items

/-- A procedure that the organization has attested. -/
structure Procedure where
  attestationId : String
  approvedSnapshotId : String
  maximumScanAgeHours : Int

/-- `_procedure` of a policy. -/
def procedureOf (policy : Json) : Except RegistryFault Procedure := do
  let _ ← Registry.string (policy.member "standard_id")
    "Organization standard ID is invalid."
  let _ ← Registry.string (policy.member "version")
    "Organization standard version is invalid."
  let attestationId ← Registry.string (policy.member "procedure_attestation_id")
    "Procedure attestation ID is invalid."
  let approvedSnapshotId ← Registry.string (policy.member "approved_snapshot_id")
    "Approved snapshot ID is invalid."
  let maximumScanAgeHours ← integer (policy.member "maximum_scan_age_hours")
    "Maximum scan age is invalid."
  ensure (1 ≤ maximumScanAgeHours)
    (.rejected "Maximum scan age must be positive.")
  return ⟨attestationId, approvedSnapshotId, maximumScanAgeHours⟩

def procedure (organizationPolicy : Option Json) :
    Except RegistryFault (Option Procedure) :=
  match organizationPolicy with
  | none => .ok none
  | some policy => (procedureOf policy).map some

/-- What PC-10 reads of the collected value. -/
structure PatchState where
  displayVersion : String
  osBuild : Int
  ubr : Int
  installedKb : String
  missing : Int
  automatic : Bool
  inventorySource : String
  restartPending : Bool

/-- The readings of PC-10. -/
def patchState (value : Json) : Except RegistryFault PatchState := do
  let displayVersion ← Registry.string (value.member "display_version")
    "Display version is invalid."
  let osBuild ← integer (value.member "os_build") "OS build is invalid."
  let ubr ← integer (value.member "ubr") "OS UBR is invalid."
  let installedKb ← Registry.string (value.member "installed_cumulative_kb")
    "Installed cumulative KB is invalid."
  let missing ← integer (value.member "missing_required_update_count")
    "Missing update count is invalid."
  let automatic ← boolean (value.member "automatic_updates_enabled")
    "Automatic update state is invalid."
  let inventorySource ← Registry.string (value.member "update_inventory_source")
    "Update inventory source is invalid."
  let restartPending ← boolean (value.member "restart_pending")
    "Restart pending state is invalid."
  return ⟨displayVersion, osBuild, ubr, installedKb, missing, automatic,
    inventorySource, restartPending⟩

/-- The baseline that a build is compared with. -/
structure PatchBaseline where
  build : Int
  ubr : Int
  kb : String

def baselineOf (record : Json) : Except RegistryFault PatchBaseline := do
  let build ← integer (record.member "base_build") "Baseline build is invalid."
  let ubr ← integer (record.member "minimum_ubr") "Baseline UBR is invalid."
  let kb ← Registry.string (record.member "baseline_kb") "Baseline KB is invalid."
  return ⟨build, ubr, kb⟩

/-- PC-10 once the patches are in order: the procedure of the organization. -/
def managedPatches (value evidence snapshot : Json) (actual expected : String)
    (organizationPolicy : Option Json) :
    Except RegistryFault RuleDecision := do
  match ← procedure organizationPolicy with
  | none =>
      decision "PC-10" "REVIEW" "PATCH_MANAGEMENT_PROCEDURE_REQUIRED" actual
        "승인 패치 기준과 내부 관리 절차 증적" "조직 절차 없음" (some snapshot)
        []
  | some procedure =>
      if snapshot.member "snapshot_id" ≠
          some (.str procedure.approvedSnapshotId) then
        decision "PC-10" "REVIEW"
          "PATCH_REFERENCE_NOT_APPROVED_BY_ORGANIZATION" actual
          "조직이 승인한 동일 참조 스냅샷" "참조 승인 불일치" (some snapshot)
          []
      else do
        let collectedAt ← timestamp env (evidence.member "collected_at")
          "Collected timestamp is invalid."
        let scannedAt ←
          timestamp env (value.member "last_successful_scan_at")
            "Last successful scan timestamp is invalid."
        ensure (scannedAt ≤ collectedAt)
          (.rejected
            "Update scan timestamp cannot be later than collection time.")
        if (procedure.maximumScanAgeHours : Rat) <
            totalHours scannedAt collectedAt then do
          let window ← formatted [.literal "최근 ",
            .number procedure.maximumScanAgeHours,
            .literal "시간 이내 업데이트 검색"]
          decision "PC-10" "ERROR" "UPDATE_SCAN_TOO_OLD" actual window
            "검색 결과 오래됨" (some snapshot) ["EVIDENCE_INCOMPLETE"]
        else
          decision "PC-10" "PASS" "PATCH_BASELINE_AND_PROCEDURE_COMPLIANT"
            actual (expected ++ ", 자동 업데이트와 내부 관리 절차")
            ("절차 증적 " ++ procedure.attestationId) (some snapshot) []

/-- PC-10 against a baseline. -/
def comparePatches (state : PatchState) (record : Json)
    (value evidence snapshot : Json) (actual : String)
    (organizationPolicy : Option Json) :
    Except RegistryFault RuleDecision := do
  let baseline ← baselineOf record
  let expected ← formatted
    [.literal "최소 Build ", .number baseline.build, .literal ".",
      .number baseline.ubr, .literal (" (" ++ baseline.kb ++ ") 이상")]
  if state.osBuild ≠ baseline.build then
    decision "PC-10" "ERROR" "PATCH_BUILD_VERSION_INCONSISTENT" actual expected
      "OS 정보 불일치" (some snapshot) ["EVIDENCE_INCOMPLETE"]
  else if state.ubr < baseline.ubr ∨ 0 < state.missing then
    decision "PC-10" "FAIL" "REQUIRED_SECURITY_UPDATE_MISSING" actual expected
      "Microsoft 패치 기준" (some snapshot) []
  else if state.automatic = false then
    decision "PC-10" "FAIL" "AUTOMATIC_UPDATE_DISABLED" actual
      (expected ++ ", 자동 업데이트 사용") "업데이트 정책" (some snapshot) []
  else if state.restartPending = true then
    decision "PC-10" "REVIEW" "PATCH_RESTART_PENDING" actual
      "재부팅 후 패치 적용 완료 확인" "재부팅 확인 필요" (some snapshot) []
  else
    managedPatches env value evidence snapshot actual expected
      organizationPolicy

def evaluatePc10 (value evidence snapshot : Json)
    (organizationPolicy : Option Json) :
    Except RegistryFault RuleDecision := do
  let state ← patchState value
  let baseline ← patchBaseline snapshot state.displayVersion
  let actual ← formatted
    [.literal ("Windows " ++ state.displayVersion ++ " Build "),
      .number state.osBuild, .literal ".", .number state.ubr,
      .literal (", " ++ state.installedKb ++ ", 필수 업데이트 누락 "),
      .number state.missing, .literal "개"]
  match baseline with
  | none =>
      decision "PC-10" "REVIEW" "PATCH_BASELINE_NOT_FOUND" actual
        "해당 Windows Version의 승인 패치 기준" "참조 기준 확인 필요"
        (some snapshot) []
  | some record =>
      if state.inventorySource ∉ acceptedInventorySources then
        decision "PC-10" "ERROR" "PATCH_INVENTORY_SOURCE_INSUFFICIENT" actual
          "Windows Update Agent·이력·Build 또는 WSUS/Intune 자료"
          "수집 방법 오류" (some snapshot) ["EVIDENCE_INCOMPLETE"]
      else
        comparePatches env state record value evidence snapshot actual
          organizationPolicy

/-- PC-11 of a supported version: the procedure of the organization. -/
def managedLifecycle (snapshot : Json) (actual expected : String)
    (organizationPolicy : Option Json) :
    Except RegistryFault RuleDecision := do
  match ← procedure organizationPolicy with
  | none =>
      decision "PC-11" "REVIEW" "OS_LIFECYCLE_PROCEDURE_REQUIRED" actual
        (expected ++ ", 내부 관리 절차 증적") "조직 절차 없음" (some snapshot)
        []
  | some procedure =>
      if snapshot.member "snapshot_id" ≠
          some (.str procedure.approvedSnapshotId) then
        decision "PC-11" "REVIEW"
          "LIFECYCLE_REFERENCE_NOT_APPROVED_BY_ORGANIZATION" actual
          "조직이 승인한 동일 수명주기 스냅샷" "참조 승인 불일치"
          (some snapshot) []
      else
        decision "PC-11" "PASS" "WINDOWS_VERSION_SUPPORTED_AND_MANAGED" actual
          (expected ++ ", 내부 관리 절차")
          ("절차 증적 " ++ procedure.attestationId) (some snapshot) []

/-- PC-11 against a lifecycle record. -/
def compareLifecycle (record evidence snapshot : Json) (actual : String)
    (organizationPolicy : Option Json) :
    Except RegistryFault RuleDecision := do
  let supportEnd ← date env (record.member "support_end")
    "Support end date is invalid."
  let collectedAt ← timestamp env (evidence.member "collected_at")
    "Collected timestamp is invalid."
  let expected := "Microsoft 지원 종료일 " ++ supportEnd.isoformat ++ " 이내"
  if supportEnd.before (env.dateOf collectedAt) = true then
    decision "PC-11" "FAIL" "WINDOWS_VERSION_END_OF_SUPPORT" actual expected
      "Microsoft 제품 수명주기" (some snapshot) []
  else managedLifecycle snapshot actual expected organizationPolicy

def evaluatePc11 (value evidence snapshot : Json)
    (organizationPolicy : Option Json) :
    Except RegistryFault RuleDecision := do
  let productName ← Registry.string (value.member "product_name")
    "Product name is invalid."
  let editionGroup ← Registry.string (value.member "edition_group")
    "Edition group is invalid."
  let displayVersion ← Registry.string (value.member "display_version")
    "Display version is invalid."
  let osBuild ← integer (value.member "os_build") "OS build is invalid."
  let ubr ← integer (value.member "ubr") "OS UBR is invalid."
  let architecture ← Registry.string (value.member "architecture")
    "Architecture is invalid."
  let actual ← formatted
    [.literal (productName ++ " " ++ displayVersion ++ " " ++ editionGroup ++
        ", Build "),
      .number osBuild, .literal ".", .number ubr,
      .literal (" (" ++ architecture ++ ")")]
  if productName ≠ "Windows 11" ∨ architecture ≠ "x86_64" then
    decision "PC-11" "ERROR" "OS_PRODUCT_SCOPE_MISMATCH" actual
      "Windows 11 x86_64" "제품 범위 오류" (some snapshot) ["UNSUPPORTED_OS"]
  else do
    match ← lifecycleRecord snapshot editionGroup displayVersion with
    | none =>
        decision "PC-11" "REVIEW" "LIFECYCLE_RECORD_NOT_FOUND" actual
          "Edition과 Version이 일치하는 Microsoft 수명주기 기준"
          "수명주기 기준 확인 필요" (some snapshot) []
    | some record =>
        compareLifecycle env record evidence snapshot actual
          organizationPolicy

def evaluateReference (controlId : String) (value evidence snapshot : Json)
    (organizationPolicy : Option Json) :
    Except RegistryFault RuleDecision := do
  let collectedAt ← timestamp env (evidence.member "collected_at")
    "Collected timestamp is invalid."
  let asOf ← timestamp env (snapshot.member "as_of")
    "Reference as-of timestamp is invalid."
  let validUntil ← timestamp env (snapshot.member "valid_until")
    "Reference expiry timestamp is invalid."
  ensure (asOf ≤ collectedAt)
    (.rejected "Evidence predates the reference snapshot.")
  if validUntil < collectedAt then
    decision controlId "REVIEW" "REFERENCE_SNAPSHOT_EXPIRED"
      ("수집 시각 " ++ (env.dateOf collectedAt).isoformat)
      ("참조 유효기한 " ++ (env.dateOf validUntil).isoformat ++ " 이내")
      "참조 갱신 필요" (some snapshot) []
  else if controlId = "PC-10" then
    evaluatePc10 env value evidence snapshot organizationPolicy
  else evaluatePc11 env value evidence snapshot organizationPolicy

def evaluateValue (controlId : String) (value evidence : Json)
    (referenceSnapshot organizationPolicy : Option Json) :
    Except RegistryFault RuleDecision :=
  match referenceSnapshot with
  | none =>
      decision controlId "REVIEW" "REFERENCE_SNAPSHOT_REQUIRED"
        "참조 기준을 불러오지 못함" "유효한 Microsoft 참조 스냅샷"
        "참조 기준 없음" none []
  | some snapshot => do
      let snapshot ← validatedReference env snapshot
      evaluateReference env controlId value evidence snapshot
        organizationPolicy

/-- `PatchLifecycleRuleRegistry.evaluate`. -/
def evaluate (controlId : String) (applicabilityRule evaluationRule : Json)
    (evidence : Json) (referenceSnapshot organizationPolicy : Option Json) :
    Except RegistryFault RuleDecision := do
  let definition ←
    checkRulePackage texts rules controlId applicabilityRule evaluationRule
  checkScope texts definition controlId evidence
  match ← collection evidence "Normalized value is missing." with
  | .failed errorCode => collectionError controlId errorCode
  | .collected value =>
      evaluateValue env controlId value evidence referenceSnapshot
        organizationPolicy

end SecAI.Rules.PatchLifecycle
