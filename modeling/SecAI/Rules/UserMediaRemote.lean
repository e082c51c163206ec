/-
Module: SecAI.Rules.UserMediaRemote
Purpose: The registry of PC-16 to PC-18, screen savers, removable media and
  remote assistance.
Trusted boundary: none
Main exports:
  rules, procedureStatus, evaluatePc16, evaluatePc17
-/
import SecAI.Rules.Registry

namespace SecAI.Rules.UserMediaRemote

open SecAI.Rules (strings ensure)
open SecAI.Rules.Registry

def rules : List (String × RuleDefinition) :=
  [("PC-16",
      { probeId := "win.user.screensaver-policy"
        subjectScope := "USER"
        applicability := ("pc16.user-screensaver-applicability", "0.1.0")
        evaluation := ("pc16.screensaver-lock", "0.1.0")
        applicabilityParameters :=
          [("subject_scope", .str "USER"),
            ("current_user_evaluation", .bool true),
            ("asset_coverage_field", .str "user_coverage_complete"),
            ("incomplete_coverage_status", .str "REVIEW"),
            ("collection_failure_status", .str "ERROR")]
        evaluationParameters :=
          [("required_active_value", .str "1"),
            ("minimum_timeout_seconds", .int 1),
            ("maximum_timeout_seconds", .int 600),
            ("required_secure_value", .str "1"),
            ("screen_saver_executable_decisive", .bool false),
            ("violation_status", .str "FAIL"),
            ("collection_failure_status", .str "ERROR")] }),
    ("PC-17",
      { probeId := "win.media.autoplay-policy"
        subjectScope := "POLICY"
        applicability := ("pc17.removable-media-applicability", "0.1.0")
        evaluation := ("pc17.removable-media-controls", "0.1.0")
        applicabilityParameters :=
          [("subject_scope", .str "POLICY"),
            ("supported_policy_sources",
              strings ["LOCAL", "DOMAIN", "MDM", "WINDOWS_EFFECTIVE"]),
            ("collection_failure_status", .str "ERROR")]
        evaluationParameters :=
          [("organization_policy_required", .bool true),
            ("turn_off_autoplay_required", .bool true),
            ("required_autoplay_scope", .str "ALL_DRIVES"),
            ("required_autorun_default_behavior", .str "DO_NOT_EXECUTE"),
            ("disallow_non_volume_autoplay_required", .bool true),
            ("approved_procedure_status", .str "APPROVED"),
            ("missing_organization_policy_status", .str "REVIEW"),
            ("missing_procedure_attestation_status", .str "REVIEW"),
            ("technical_violation_status", .str "FAIL"),
            ("collection_failure_status", .str "ERROR")] }),
    ("PC-18",
      { probeId := "win.remote-assistance.policy"
        subjectScope := "POLICY"
        applicability := ("pc18.remote-assistance-applicability", "0.1.0")
        evaluation := ("pc18.remote-assistance-disabled", "0.1.0")
        applicabilityParameters :=
          [("subject_scope", .str "POLICY"),
            ("required_policy_values",
              strings ["fAllowToGetHelp", "fAllowUnsolicited"]),
            ("collection_failure_status", .str "ERROR")]
        evaluationParameters :=
          [("solicited_disabled_values", strings ["0"]),
            ("offer_disabled_values", strings ["0"]),
            ("not_configured_value", .str "MISSING"),
            ("not_configured_status", .str "REVIEW"),
            ("enabled_status", .str "FAIL"),
            ("quick_assist_in_scope", .bool false),
            ("remote_desktop_in_scope", .bool false),
            ("collection_failure_status", .str "ERROR")] })]

def texts : RegistryTexts :=
  { controlNotAllowlisted := "Control rule is not allowlisted by IMP-025."
    applicabilityParameters :=
      "Rule parameters differ from the allowlisted version."
    evaluationParameters :=
      "Rule parameters differ from the allowlisted version."
    subjectScope := "Evidence subject scope differs from the rule." }

def decision (controlId status resultCode actual expected scopeLabel
    policySource coverage : String) (errorCodes : List String) : RuleDecision :=
  { controlId := controlId
    status := status
    resultCode := resultCode
    actual := actual
    expected := expected
    rationaleCode := resultCode
    errorCodes := errorCodes
    details :=
      [("scope_label", scopeLabel), ("policy_source", policySource),
        ("coverage", coverage)] }

def collectionError (controlId errorCode : String) : RuleDecision :=
  decision controlId "ERROR"
    (collectionResultCode controlId "_COLLECTION_FAILED")
    "점검 정보를 가져오지 못함" "필수 정책값을 오류 없이 수집" "수집 오류"
    "UNKNOWN" "COLLECTION_FAILED" [errorCode]

/-- `expected` of PC-16. -/
def lockExpected : String :=
  "평가 사용자별 화면보호기 사용, 대기 1~600초, 재개 시 암호 보호"

/-- PC-16 with a waiting time. -/
def compareScreenSaver (active secure source : String)
    (executablePresent coverageComplete : Bool) (timeout : Int) :
    Except RegistryFault RuleDecision := do
  let actual ← formatted
    [.literal "화면보호기 ", either (active = "1") "사용" "사용 안 함",
      .literal ", 대기 ", .number timeout, .literal "초, 암호 보호 ",
      either (secure = "1") "사용" "사용 안 함"]
  if active ≠ "1" ∨ ¬(1 ≤ timeout ∧ timeout ≤ 600) ∨ secure ≠ "1" then
    return decision "PC-16" "FAIL" "SCREEN_SAVER_LOCK_POLICY_VIOLATION" actual
      lockExpected "현재 평가 사용자" source "CURRENT_USER_EVALUATED" []
  else if coverageComplete = false then
    return decision "PC-16" "REVIEW" "SCREEN_SAVER_USER_COVERAGE_INCOMPLETE"
      actual lockExpected "현재 사용자는 양호, 자산 사용자 범위 확인 필요"
      source "ASSET_USER_COVERAGE_INCOMPLETE" []
  else
    return decision "PC-16" "PASS" "SCREEN_SAVER_LOCK_POLICY_COMPLIANT"
      (actual ++ ", 화면보호기 " ++
        (if executablePresent then "선택 확인"
        else "선택 정보 없음(보조 증적)"))
      lockExpected "승인된 평가 사용자 범위" source
      "ASSET_USER_COVERAGE_COMPLETE" []

/-- `screen_save_timeout_seconds`, if it is a waiting time. -/
def waitingTime : Option Json → Option Int
  | some (.int seconds) => if seconds < 0 then none else some seconds
  | _ => none

def evaluatePc16 (value : Json) : Except RegistryFault RuleDecision := do
  let active ← Registry.string (value.member "screen_save_active")
    "ScreenSaveActive is invalid."
  let secure ← Registry.string (value.member "screen_saver_is_secure")
    "ScreenSaverIsSecure is invalid."
  let executablePresent ←
    boolean (value.member "screen_saver_executable_present")
      "Screen saver executable state is invalid."
  let source ← Registry.string (value.member "effective_policy_source")
    "Policy source is invalid."
  let coverageComplete ← boolean (value.member "user_coverage_complete")
    "User coverage is invalid."
  match waitingTime (value.member "screen_save_timeout_seconds") with
  | none =>
      return decision "PC-16" "ERROR" "SCREEN_SAVER_POLICY_INCOMPLETE"
        "화면보호기 대기 시간을 확인하지 못함" lockExpected
        "현재 사용자 설정 수집 불완전" source
        (if coverageComplete then "ASSET_USER_COVERAGE_COMPLETE"
        else "ASSET_USER_COVERAGE_INCOMPLETE")
        ["EVIDENCE_INCOMPLETE"]
  | some timeout =>
      compareScreenSaver active secure source executablePresent
        coverageComplete timeout

/-- `_procedure_status` of a policy: the status and the attestation. -/
def statusOf (policy : Json) : Except RegistryFault (String × String) := do
  let _ ← Registry.string (policy.member "standard_id")
    "Organization standard ID is invalid."
  let _ ← Registry.string (policy.member "version")
    "Organization standard version is invalid."
  let attestationId ← Registry.string (policy.member "procedure_attestation_id")
    "Procedure attestation ID is invalid."
  let status ← Registry.string (policy.member "procedure_status")
    "Procedure status is invalid."
  let scope ← Registry.string (policy.member "media_scope")
    "Procedure media scope is invalid."
  if scope ≠ "CD_DVD_USB_AND_REMOVABLE" then
    return ("SCOPE_INCOMPLETE", attestationId)
  else return (status, attestationId)

def procedureStatus (organizationPolicy : Option Json) :
    Except RegistryFault (String × String) :=
  match organizationPolicy with
  | none => .ok ("MISSING", "NONE")
  | some policy => statusOf policy

/-- PC-17 once the settings are in order: the procedure of the
organization. -/
def managedMedia (organizationPolicy : Option Json)
    (actual expected source : String) : Except RegistryFault RuleDecision := do
  let procedure ← procedureStatus organizationPolicy
  let coverage := "PROCEDURE_" ++ procedure.2
  if procedure.1 ≠ "APPROVED" then
    return decision "PC-17" "REVIEW"
      "REMOVABLE_MEDIA_PROCEDURE_ATTESTATION_REQUIRED"
      (actual ++ ", 내부 절차 " ++ procedure.1) expected
      "기술 설정 양호, 조직 절차 확인 필요" source coverage []
  else
    return decision "PC-17" "PASS" "REMOVABLE_MEDIA_CONTROLS_COMPLIANT"
      (actual ++ ", 내부 절차 승인") expected "Windows 정책과 조직 절차" source
      coverage []

def evaluatePc17 (value : Json) (organizationPolicy : Option Json) :
    Except RegistryFault RuleDecision := do
  let autoplayOff ← boolean (value.member "turn_off_autoplay_enabled")
    "Turn off AutoPlay state is invalid."
  let scope ← Registry.string (value.member "autoplay_scope")
    "AutoPlay scope is invalid."
  let autorunBehavior ← Registry.string (value.member "autorun_default_behavior")
    "AutoRun behavior is invalid."
  let nonVolumeBlocked ←
    boolean (value.member "non_volume_autoplay_disallowed")
      "Non-volume AutoPlay state is invalid."
  let source ← Registry.string (value.member "effective_policy_source")
    "Policy source is invalid."
  let actual ← formatted
    [.literal "자동실행 차단 ", either autoplayOff "사용" "사용 안 함",
      .literal (", 범위 " ++ scope ++ ", 기본 동작 " ++ autorunBehavior ++
        ", 비볼륨 장치 "),
      either nonVolumeBlocked "차단" "허용"]
  let expected :=
    "모든 드라이브 자동실행 차단과 승인된 이동식 미디어 관리 절차"
  if autoplayOff = true ∧ scope = "ALL_DRIVES" ∧
      autorunBehavior = "DO_NOT_EXECUTE" ∧ nonVolumeBlocked = true then
    managedMedia organizationPolicy actual expected source
  else
    return decision "PC-17" "FAIL" "REMOVABLE_MEDIA_AUTORUN_CONTROL_VIOLATION"
      actual expected "Windows 유효 자동실행 정책" source
      "TECHNICAL_CONTROL_INCOMPLETE" []

def evaluatePc18 (value : Json) : Except RegistryFault RuleDecision := do
  let solicited ← Registry.string (value.member "f_allow_to_get_help")
    "fAllowToGetHelp value is invalid."
  let offer ← Registry.string (value.member "f_allow_unsolicited")
    "fAllowUnsolicited value is invalid."
  let source ← Registry.string (value.member "effective_policy_source")
    "Policy source is invalid."
  let actual := "요청형 원격지원 " ++ solicited ++ ", 제공형 원격지원 " ++ offer
  let expected :=
    "요청형·제공형 Windows Remote Assistance 모두 명시적 사용 안 함(0)"
  if solicited ∉ ["0", "1", "MISSING"] ∨ offer ∉ ["0", "1", "MISSING"] then
    return decision "PC-18" "ERROR" "REMOTE_ASSISTANCE_VALUE_UNRECOGNIZED"
      actual expected "Windows Remote Assistance 정책" source
      "VALUE_UNRECOGNIZED" ["PARSE_ERROR"]
  else if "1" ∈ [solicited, offer] then
    return decision "PC-18" "FAIL" "REMOTE_ASSISTANCE_ENABLED" actual expected
      "Windows Remote Assistance 정책" source "SOLICITED_AND_OFFER" []
  else if "MISSING" ∈ [solicited, offer] then
    return decision "PC-18" "REVIEW" "REMOTE_ASSISTANCE_POLICY_NOT_EXPLICIT"
      actual expected "Quick Assist·원격 데스크톱 제외" source
      "POLICY_NOT_CONFIGURED" []
  else
    return decision "PC-18" "PASS" "REMOTE_ASSISTANCE_EXPLICITLY_DISABLED"
      actual expected "Quick Assist·원격 데스크톱 제외" source
      "SOLICITED_AND_OFFER" []

def evaluateValue (controlId : String) (value : Json)
    (organizationPolicy : Option Json) : Except RegistryFault RuleDecision :=
  if controlId = "PC-16" then evaluatePc16 value
  else if controlId = "PC-17" then evaluatePc17 value organizationPolicy
  else evaluatePc18 value

/-- `UserMediaRemoteRuleRegistry.evaluate`. -/
def evaluate (controlId : String) (applicabilityRule evaluationRule : Json)
    (evidence : Json) (organizationPolicy : Option Json) :
    Except RegistryFault RuleDecision := do
  let definition ←
    checkRulePackage texts rules controlId applicabilityRule evaluationRule
  checkScope texts definition controlId evidence
  match ← collection evidence "Normalized value is missing." with
  | .failed errorCode => return collectionError controlId errorCode
  | .collected value => evaluateValue controlId value organizationPolicy

end SecAI.Rules.UserMediaRemote
