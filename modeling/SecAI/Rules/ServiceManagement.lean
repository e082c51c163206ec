/-
Module: SecAI.Rules.ServiceManagement
Purpose: The registry of PC-04, PC-05, PC-06, PC-08 and PC-09, the services.
Trusted boundary: none
Main exports:
  rules, policyIds, evaluatePc04, evaluatePc05
-/
import SecAI.Rules.Registry

namespace SecAI.Rules.ServiceManagement

open SecAI.Rules (strings ensure)
open SecAI.Rules.Registry

/-- `applicability_parameters` of the rules about the asset. -/
def assetParameters : List (String × Json) :=
  [("subject_scope", .str "ASSET"),
    ("supported_windows_versions", strings ["11"]),
    ("unresolved_scope_status", .str "ERROR")]

def rules : List (String × RuleDefinition) :=
  [("PC-04",
      { probeId := "win.network.smb-shares"
        subjectScope := "ASSET"
        applicability := ("pc04.share-applicability", "0.1.0")
        evaluation := ("pc04.share-access", "0.1.0")
        applicabilityParameters := assetParameters
        evaluationParameters :=
          [("organization_policy_required", .bool true),
            ("default_admin_share_count_maximum", .int 0),
            ("unrestricted_everyone_share_count_maximum", .int 0),
            ("least_privilege_violation_count_maximum", .int 0),
            ("authentication_gap_count_maximum", .int 0),
            ("auto_share_wks_disabled_required", .bool true),
            ("missing_organization_policy_status", .str "REVIEW"),
            ("collection_failure_status", .str "ERROR")] }),
    ("PC-05",
      { probeId := "win.services.inventory"
        subjectScope := "ASSET"
        applicability := ("pc05.service-applicability", "0.1.0")
        evaluation := ("pc05.unnecessary-services", "0.1.0")
        applicabilityParameters := assetParameters
        evaluationParameters :=
          [("organization_policy_required", .bool true),
            ("running_unnecessary_service_count_maximum", .int 0),
            ("automatic_unnecessary_service_count_maximum", .int 0),
            ("missing_organization_policy_status", .str "REVIEW"),
            ("collection_failure_status", .str "ERROR")] }),
    ("PC-06",
      { probeId := "win.software.messengers"
        subjectScope := "ASSET"
        applicability := ("pc06.messenger-applicability", "0.1.0")
        evaluation := ("pc06.unapproved-messengers", "0.1.0")
        applicabilityParameters := assetParameters
        evaluationParameters :=
          [("organization_policy_required", .bool true),
            ("installed_denied_product_count_maximum", .int 0),
            ("running_denied_product_count_maximum", .int 0),
            ("low_confidence_match_status", .str "REVIEW"),
            ("missing_organization_policy_status", .str "REVIEW"),
            ("collection_failure_status", .str "ERROR")] }),
    ("PC-08",
      { probeId := "win.boot.entries"
        subjectScope := "ASSET"
        applicability := ("pc08.multiboot-applicability", "0.1.0")
        evaluation := ("pc08.bootable-os-count", "0.1.0")
        applicabilityParameters :=
          [("subject_scope", .str "ASSET"),
            ("excluded_entry_types",
              strings ["RECOVERY", "DIAGNOSTIC", "VIRTUALIZATION"]),
            ("wsl_is_multiboot", .bool false),
            ("hyper_v_guest_is_multiboot", .bool false)]
        evaluationParameters :=
          [("maximum_bootable_os_count", .int 1),
            ("zero_bootable_os_status", .str "ERROR"),
            ("multiple_bootable_os_status", .str "FAIL"),
            ("collection_failure_status", .str "ERROR")] }),
    ("PC-09",
      { probeId := "win.browser.wininet-cache-policy"
        subjectScope := "POLICY"
        applicability := ("pc09.wininet-applicability", "0.1.0")
        evaluation := ("pc09.empty-cache-on-exit", "0.1.0")
        applicabilityParameters :=
          [("applicable_uses", strings ["IE_DESKTOP", "IE_MODE", "WININET"]),
            ("not_applicable_requires_scope_confirmation", .bool true),
            ("unknown_applicability_status", .str "REVIEW")]
        evaluationParameters :=
          [("required_value", .bool true),
            ("enabled_status", .str "PASS"),
            ("disabled_status", .str "FAIL"),
            ("not_applicable_status", .str "N/A"),
            ("collection_failure_status", .str "ERROR")] })]

def texts : RegistryTexts :=
  { controlNotAllowlisted := "Control rule is not allowlisted by IMP-022."
    applicabilityParameters :=
      "Rule parameters differ from the allowlisted version."
    evaluationParameters :=
      "Rule parameters differ from the allowlisted version."
    subjectScope := "Evidence subject scope differs from the rule." }

/-- `_policy_ids` of a policy. -/
def identifiersOf (policy : Json) (field : String) :
    Except RegistryFault (List String) := do
  let _ ← Registry.string (policy.member "standard_id")
    "Organization standard ID is invalid."
  let _ ← Registry.string (policy.member "version")
    "Organization standard version is invalid."
  let items ← sequence (policy.member field)
    ("Organization policy field " ++ field ++ " is invalid.")
  let identifiers ← items.mapM fun item =>
    Registry.string (some item)
      ("Organization policy field " ++ field ++ " contains an invalid ID.")
  ensure identifiers.Nodup
    (.rejected
      ("Organization policy field " ++ field ++ " contains duplicate IDs."))
  return identifiers

def policyIds (organizationPolicy : Option Json) (field : String) :
    Except RegistryFault (Option (List String)) :=
  match organizationPolicy with
  | none => .ok none
  | some policy => (identifiersOf policy field).map some

def decision (controlId status resultCode actual expected scopeLabel : String)
    (errorCodes : List String) : RuleDecision :=
  { controlId := controlId
    status := status
    resultCode := resultCode
    actual := actual
    expected := expected
    rationaleCode := resultCode
    errorCodes := errorCodes
    details := [("scope_label", scopeLabel)] }

def collectionError (controlId errorCode : String) : RuleDecision :=
  decision controlId "ERROR"
    (collectionResultCode controlId "_COLLECTION_FAILED")
    "점검 정보를 가져오지 못함" "필수 정보를 오류 없이 수집" "수집 오류"
    [errorCode]

/-- `f"조직 … 기준 {len(policy_ids)}개"`. -/
def standardLabel (name : String) (identifiers : List String) :
    Except RegistryFault String :=
  formatted [.literal ("조직 " ++ name ++ " 기준 "),
    .number identifiers.length, .literal "개"]

def evaluatePc04 (value : Json) (organizationPolicy : Option Json) :
    Except RegistryFault RuleDecision := do
  let unnecessary ← integer (value.member "default_admin_share_count")
    "Share count is invalid."
  let everyone ← integer (value.member "unrestricted_everyone_share_count")
    "Everyone share count is invalid."
  let leastPrivilege ← integer (value.member "least_privilege_violation_count")
    "Least privilege count is invalid."
  let authentication ← integer (value.member "authentication_gap_count")
    "Authentication gap count is invalid."
  let autoShareDisabled ← boolean (value.member "auto_share_wks_disabled")
    "AutoShareWks state is invalid."
  let identifiers ← policyIds organizationPolicy "approved_share_ids"
  let actual ← formatted
    [.literal "기본 공유 ", .number unnecessary,
      .literal "개, Everyone 무제한 ", .number everyone,
      .literal "개, 최소 권한 위반 ", .number leastPrivilege,
      .literal "개, 인증 누락 ", .number authentication, .literal "개"]
  match identifiers with
  | none =>
      return decision "PC-04" "REVIEW" "ORGANIZATION_SHARE_STANDARD_REQUIRED"
        actual "승인된 업무 공유와 권한 기준 등록" "조직 기준 없음" []
  | some identifiers =>
      let expected := "불필요한 기본 공유 없음, 승인된 공유만 최소 권한·인증 적용"
      let label ← standardLabel "공유" identifiers
      if unnecessary = 0 ∧ everyone = 0 ∧ leastPrivilege = 0 ∧
          authentication = 0 ∧ autoShareDisabled = true then
        return decision "PC-04" "PASS" "SHARES_APPROVED_AND_LEAST_PRIVILEGE"
          actual expected label []
      else
        return decision "PC-04" "FAIL"
          "UNNECESSARY_OR_UNRESTRICTED_SHARE_FOUND" actual expected label []

def coverageIncomplete (controlId resultCode actual : String)
    (identifiers : List String) : Except RegistryFault RuleDecision := do
  let expected ← formatted [.literal "조직 목록 ",
    .number identifiers.length, .literal "개를 모두 확인"]
  return decision controlId "ERROR" resultCode actual expected
    "기준 대조 불완전" ["EVIDENCE_INCOMPLETE"]

def evaluatePc05 (value : Json) (organizationPolicy : Option Json) :
    Except RegistryFault RuleDecision := do
  let evaluated ← integer (value.member "evaluated_unnecessary_service_count")
    "Evaluated service count is invalid."
  let running ← integer (value.member "running_unnecessary_service_count")
    "Running service count is invalid."
  let automatic ← integer (value.member "automatic_unnecessary_service_count")
    "Automatic service count is invalid."
  let identifiers ← policyIds organizationPolicy "unnecessary_service_ids"
  let actual ← formatted
    [.literal "불필요 지정 ", .number evaluated, .literal "개 중 실행 ",
      .number running, .literal "개, 자동 시작 ", .number automatic,
      .literal "개"]
  match identifiers with
  | none =>
      return decision "PC-05" "REVIEW" "ORGANIZATION_SERVICE_STANDARD_REQUIRED"
        actual "조직에서 불필요 서비스 목록 등록" "조직 기준 없음" []
  | some identifiers =>
      if evaluated ≠ identifiers.length then
        coverageIncomplete "PC-05" "SERVICE_POLICY_COVERAGE_INCOMPLETE" actual
          identifiers
      else do
        let expected :=
          "조직이 불필요하다고 지정한 서비스는 중지하고 자동 시작 해제"
        let label ← standardLabel "서비스" identifiers
        if running = 0 ∧ automatic = 0 then
          return decision "PC-05" "PASS" "UNNECESSARY_SERVICES_STOPPED" actual
            expected label []
        else
          return decision "PC-05" "FAIL"
            "UNNECESSARY_SERVICE_RUNNING_OR_AUTOMATIC" actual expected label []

def evaluatePc06 (value : Json) (organizationPolicy : Option Json) :
    Except RegistryFault RuleDecision := do
  let evaluated ← integer (value.member "evaluated_denied_product_count")
    "Evaluated product count is invalid."
  let installed ← integer (value.member "installed_denied_product_count")
    "Installed product count is invalid."
  let running ← integer (value.member "running_denied_product_count")
    "Running product count is invalid."
  let lowConfidence ← integer (value.member "low_confidence_match_count")
    "Low-confidence count is invalid."
  let identifiers ← policyIds organizationPolicy "denied_product_ids"
  let actual ← formatted
    [.literal "금지 목록 ", .number evaluated, .literal "개 대조, 설치 ",
      .number installed, .literal "개, 실행 ", .number running,
      .literal "개, 식별 불확실 ", .number lowConfidence, .literal "개"]
  match identifiers with
  | none =>
      return decision "PC-06" "REVIEW"
        "ORGANIZATION_MESSENGER_STANDARD_REQUIRED" actual
        "조직에서 허용·금지 메신저 기준 등록" "조직 기준 없음" []
  | some identifiers =>
      if evaluated ≠ identifiers.length then
        coverageIncomplete "PC-06" "MESSENGER_POLICY_COVERAGE_INCOMPLETE"
          actual identifiers
      else if lowConfidence ≠ 0 then
        return decision "PC-06" "REVIEW"
          "MESSENGER_IDENTIFICATION_REVIEW_REQUIRED" actual
          "제품을 확실하게 식별한 뒤 금지 목록과 대조" "제품 식별 확인 필요" []
      else do
        let expected := "조직이 금지한 메신저가 설치·실행되지 않음"
        let label ← standardLabel "메신저" identifiers
        if installed = 0 ∧ running = 0 then
          return decision "PC-06" "PASS" "DENIED_MESSENGERS_NOT_PRESENT" actual
            expected label []
        else
          return decision "PC-06" "FAIL"
            "DENIED_MESSENGER_INSTALLED_OR_RUNNING" actual expected label []

def evaluatePc08 (value : Json) : Except RegistryFault RuleDecision := do
  let count ← integer (value.member "bootable_os_count")
    "Bootable OS count is invalid."
  let recovery ← integer (value.member "excluded_recovery_entry_count")
    "Recovery entry count is invalid."
  let diagnostic ← integer (value.member "excluded_diagnostic_entry_count")
    "Diagnostic entry count is invalid."
  let virtualization ←
    integer (value.member "excluded_virtualization_entry_count")
      "Virtualization count is invalid."
  let actual ← formatted
    [.literal "부팅 가능한 OS ", .number count, .literal "개 (제외: 복구 ",
      .number recovery, .literal ", 진단 ", .number diagnostic,
      .literal ", 가상화 ", .number virtualization, .literal ")"]
  let expected := "복구·진단·가상화 항목을 제외한 부팅 가능한 OS 1개"
  if count = 0 then
    return decision "PC-08" "ERROR" "BOOTABLE_OS_NOT_IDENTIFIED" actual
      "실제 부팅 가능한 OS 1개" "부팅 구성" ["EVIDENCE_INCOMPLETE"]
  else if count = 1 then
    return decision "PC-08" "PASS" "SINGLE_BOOTABLE_OS" actual expected
      "부팅 구성" []
  else
    return decision "PC-08" "FAIL" "MULTIPLE_BOOTABLE_OS_FOUND" actual expected
      "부팅 구성" []

/-- What PC-09 reads before it looks at the setting. -/
structure WininetUse where
  applicability : String
  ieDesktop : Bool
  ieMode : Bool
  wininet : Bool
  confirmed : Bool
  users : Int

/-- The readings of PC-09. -/
def wininetUse (value : Json) : Except RegistryFault WininetUse := do
  let applicability ← Registry.string (value.member "applicability")
    "Applicability is invalid."
  ensure (applicability ∈ ["APPLICABLE", "NOT_APPLICABLE", "UNKNOWN"])
    (.rejected "Applicability is not allowlisted.")
  let ieDesktop ← boolean (value.member "ie_desktop_used")
    "IE desktop use state is invalid."
  let ieMode ← boolean (value.member "ie_mode_used")
    "IE mode use state is invalid."
  let wininet ← boolean (value.member "wininet_used")
    "WinINet use state is invalid."
  let confirmed ← boolean (value.member "organization_scope_confirmed")
    "Scope confirmation state is invalid."
  let users ← integer (value.member "evaluated_user_count")
    "Evaluated user count is invalid."
  return ⟨applicability, ieDesktop, ieMode, wininet, confirmed, users⟩

/-- The decision of PC-09 that some technology may be used or is not. -/
def wininetNotApplicable (use : WininetUse) : RuleDecision :=
  if use.confirmed && !(use.ieDesktop || use.ieMode || use.wininet) then
    decision "PC-09" "N/A" "WININET_NOT_USED_CONFIRMED"
      "조직 범위에서 IE·IE 모드·WinINet을 사용하지 않음"
      "해당 기술을 사용할 때만 평가" "적용 대상 아님" []
  else
    decision "PC-09" "REVIEW" "WININET_NOT_APPLICABLE_CLAIM_UNCONFIRMED"
      "미사용 주장을 충분히 확인하지 못함"
      "조직 사용 범위와 사용자 범위 확인" "적용성 확인 필요" []

/-- The decision of PC-09 on the setting of the users. -/
def wininetSetting (use : WininetUse) (enabled : Bool) :
    Except RegistryFault RuleDecision := do
  let expected := "IE·IE 모드·WinINet 종료 시 임시 인터넷 파일 삭제 사용"
  if use.confirmed = false then
    return decision "PC-09" "REVIEW" "WININET_USER_COVERAGE_REVIEW_REQUIRED"
      ("현재 사용자 설정은 확인했으나 조직의 전체 사용자 범위를 " ++
        "확인하지 못함")
      "IE·IE 모드·WinINet을 사용하는 전체 사용자 설정 확인"
      "사용자 범위 확인 필요" []
  else do
    let actual ← formatted
      [.literal "종료 시 임시 인터넷 파일 삭제 ",
        either enabled "사용" "사용 안 함", .literal " (",
        .number use.users, .literal "명 확인)"]
    if enabled = true then
      return decision "PC-09" "PASS" "WININET_CACHE_CLEARED_ON_EXIT" actual
        expected "사용자별 브라우저 정책" []
    else
      return decision "PC-09" "FAIL" "WININET_CACHE_NOT_CLEARED_ON_EXIT" actual
        expected "사용자별 브라우저 정책" []

def evaluatePc09 (value : Json) : Except RegistryFault RuleDecision := do
  let use ← wininetUse value
  if use.applicability = "UNKNOWN" then
    return decision "PC-09" "REVIEW" "WININET_APPLICABILITY_REVIEW_REQUIRED"
      "IE·IE 모드·WinINet 사용 여부를 확정하지 못함"
      "조직 사용 범위를 먼저 확인" "적용성 확인 필요" []
  else if use.applicability = "NOT_APPLICABLE" then
    return wininetNotApplicable use
  else if use.users = 0 then
    return decision "PC-09" "ERROR" "WININET_USER_SCOPE_EMPTY"
      "평가한 사용자가 없음" "적용 사용자 전체의 설정 확인"
      "사용자 범위 오류" ["EVIDENCE_INCOMPLETE"]
  else do
    let enabled ← boolean (value.member "empty_cache_on_exit")
      "Cache-on-exit state is invalid."
    wininetSetting use enabled

def evaluateValue (controlId : String) (value : Json)
    (organizationPolicy : Option Json) : Except RegistryFault RuleDecision :=
  if controlId = "PC-04" then evaluatePc04 value organizationPolicy
  else if controlId = "PC-05" then evaluatePc05 value organizationPolicy
  else if controlId = "PC-06" then evaluatePc06 value organizationPolicy
  else if controlId = "PC-08" then evaluatePc08 value
  else evaluatePc09 value

/-- `ServiceManagementRuleRegistry.evaluate`. -/
def evaluate (controlId : String) (applicabilityRule evaluationRule : Json)
    (evidence : Json) (organizationPolicy : Option Json) :
    Except RegistryFault RuleDecision := do
  let definition ←
    checkRulePackage texts rules controlId applicabilityRule evaluationRule
  checkScope texts definition controlId evidence
  match ← collection evidence "Normalized value is missing." with
  | .failed errorCode => return collectionError controlId errorCode
  | .collected value => evaluateValue controlId value organizationPolicy

end SecAI.Rules.ServiceManagement
