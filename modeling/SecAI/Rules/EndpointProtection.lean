/-
Module: SecAI.Rules.EndpointProtection
Purpose: The registry of PC-12 to PC-15, automatic logon, antivirus and
  firewall.
Trusted boundary: see SecAI.Rules.Registry
Main exports:
  rules, validatedCatalog, catalogAdapter, freshnessPolicy
-/
import SecAI.Rules.Registry

namespace SecAI.Rules.EndpointProtection

open SecAI.Findings (canonicalSha256)
open SecAI.Rules (strings ensure)
open SecAI.Rules.Registry

def catalogId : String := "secai-endpoint-protection-adapters-0.1.0"

def catalogVersion : String := "0.1.0"

def catalogSha256 : String :=
  "934b1ac7b769321756c1550ef78fdb0dd0df5741e4db663dcf884146187e7758"

def catalogParameters : List (String × Json) :=
  [("adapter_catalog_required", .bool true),
    ("adapter_catalog_id", .str catalogId),
    ("adapter_catalog_version", .str catalogVersion),
    ("adapter_catalog_sha256", .str catalogSha256),
    ("allowed_catalog_approval_statuses", strings ["DRAFT"]),
    ("unsupported_adapter_status", .str "REVIEW")]

/-- `applicability_parameters` of the rules about antivirus products. -/
def antivirusParameters : List (String × Json) :=
  [("subject_scope", .str "ASSET"), ("target_product_kind", .str "ANTIVIRUS"),
    ("not_installed_status", .str "FAIL"),
    ("collection_failure_status", .str "ERROR")]

def rules : List (String × RuleDefinition) :=
  [("PC-12",
      { probeId := "win.autologon.config"
        subjectScope := "ASSET"
        applicability := ("pc12.autologon-applicability", "0.1.0")
        evaluation := ("pc12.autologon-disabled", "0.1.0")
        applicabilityParameters :=
          [("subject_scope", .str "ASSET"),
            ("registry_source", .str "HKLM_WINLOGON"),
            ("collection_failure_status", .str "ERROR")]
        evaluationParameters :=
          [("enabled_value", .str "1"),
            ("disabled_values", strings ["0", "MISSING"]),
            ("enabled_status", .str "FAIL"),
            ("disabled_status", .str "PASS"),
            ("unknown_value_status", .str "ERROR"),
            ("password_content_collection_forbidden", .bool true)] }),
    ("PC-13",
      { probeId := "win.antivirus.update-status"
        subjectScope := "ASSET"
        applicability := ("pc13.antivirus-applicability", "0.1.0")
        evaluation := ("pc13.antivirus-freshness", "0.1.0")
        applicabilityParameters := antivirusParameters
        evaluationParameters := catalogParameters ++
          [("organization_freshness_policy_required", .bool true),
            ("missing_policy_status", .str "REVIEW"),
            ("active_product_required", .bool true),
            ("automatic_updates_required", .bool true),
            ("healthy_state", .str "HEALTHY"),
            ("stale_signature_status", .str "FAIL"),
            ("inactive_product_status", .str "FAIL")] }),
    ("PC-14",
      { probeId := "win.antivirus.realtime-status"
        subjectScope := "ASSET"
        applicability := ("pc14.antivirus-applicability", "0.1.0")
        evaluation := ("pc14.realtime-protection", "0.1.0")
        applicabilityParameters := antivirusParameters
        evaluationParameters := catalogParameters ++
          [("active_product_required", .bool true),
            ("service_enabled_required", .bool true),
            ("real_time_protection_required", .bool true),
            ("passive_or_unknown_mode_status", .str "REVIEW"),
            ("disabled_realtime_status", .str "FAIL")] }),
    ("PC-15",
      { probeId := "win.firewall.effective-profiles"
        subjectScope := "ASSET"
        applicability := ("pc15.firewall-applicability", "0.1.0")
        evaluation := ("pc15.firewall-effective-state", "0.1.0")
        applicabilityParameters :=
          [("subject_scope", .str "ASSET"),
            ("required_profile_names", strings ["DOMAIN", "PRIVATE", "PUBLIC"]),
            ("collection_failure_status", .str "ERROR")]
        evaluationParameters := catalogParameters ++
          [("required_policy_store", .str "ACTIVE_STORE"),
            ("all_applicable_profiles_enabled", .bool true),
            ("approved_third_party_equivalent_allowed", .bool true),
            ("unknown_third_party_status", .str "REVIEW"),
            ("no_effective_firewall_status", .str "FAIL")] })]

def texts : RegistryTexts :=
  { controlNotAllowlisted := "Control rule is not allowlisted by IMP-024."
    applicabilityParameters :=
      "Rule parameters differ from the allowlisted version."
    evaluationParameters :=
      "Rule parameters differ from the allowlisted version."
    subjectScope := "IMP-024 evidence requires ASSET scope." }

/-- The adapter that a decision names. -/
structure AdapterNote where
  id : String
  version : String
  coverage : String

def decision (controlId status resultCode actual expected scopeLabel : String)
    (adapter : AdapterNote) (errorCodes : List String) : RuleDecision :=
  { controlId := controlId
    status := status
    resultCode := resultCode
    actual := actual
    expected := expected
    rationaleCode := resultCode
    errorCodes := errorCodes
    details :=
      [("scope_label", scopeLabel), ("adapter_id", adapter.id),
        ("adapter_version", adapter.version),
        ("adapter_coverage", adapter.coverage)] }

def collectionError (controlId errorCode : String) : RuleDecision :=
  decision controlId "ERROR"
    (collectionResultCode controlId "_COLLECTION_FAILED")
    "점검 정보를 가져오지 못함" "필수 정보를 오류 없이 수집" "수집 오류"
    ⟨"NOT_EVALUATED", "NOT_EVALUATED", "COLLECTION_FAILED"⟩ [errorCode]

variable (env : RegistryEnvironment)

/-! ## The adapter catalog -/

def validatedCatalog (catalog : Json) : Except RegistryFault Json := do
  ensure (catalog.member "catalog_id" = some (.str catalogId))
    (.rejected "Adapter catalog ID differs from the allowlisted rule.")
  ensure (catalog.member "version" = some (.str catalogVersion))
    (.rejected "Adapter catalog version differs from the allowlisted rule.")
  ensure (catalog.member "content_sha256" = some (.str catalogSha256))
    (.rejected "Adapter catalog hash differs from the allowlisted rule.")
  let actualHash ← (canonicalSha256 env.toFindingEnvironment
    (catalog.without ["content_sha256", "approval"])).mapError
      fun _ => .canonicalization
  ensure (actualHash = catalogSha256)
    (.rejected "Adapter catalog payload integrity failed.")
  let approval ←
    Registry.mapping (catalog.member "approval") "Adapter catalog approval is invalid."
  ensure (approval.member "status" = some (.str "DRAFT") ∧
      approval.member "usage" = some (.str "SYNTHETIC_TEST_ONLY"))
    (.rejected "Adapter catalog approval status is not allowlisted.")
  return catalog

/-- The first adapter that covers a control; every record before it has to be
an object with controls. -/
def firstAdapter (adapterId adapterVersion controlId : String) :
    List Json → Except RegistryFault (Option Json)
  | [] => .ok none
  | item :: items => do
      let adapter ←
        Registry.mapping (some item) "Adapter catalog record is invalid."
      let controls ← sequence (adapter.member "controls")
        "Adapter Control coverage is invalid."
      if adapter.member "adapter_id" = some (.str adapterId) ∧
          adapter.member "adapter_version" = some (.str adapterVersion) ∧
          .str controlId ∈ controls then
        return some adapter
      else firstAdapter adapterId adapterVersion controlId items

def catalogAdapter (catalog : Json)
    (adapterId adapterVersion controlId : String) :
    Except RegistryFault (Option Json) := do
  let adapters ← sequence (catalog.member "adapters")
    "Adapter catalog records are invalid."
  firstAdapter adapterId adapterVersion controlId adapters

def productAdapter (product catalog : Json) (controlId : String) :
    Except RegistryFault (Option Json) := do
  let adapterId ← Registry.string (product.member "adapter_id") "Adapter ID is invalid."
  let adapterVersion ←
    Registry.string (product.member "adapter_version") "Adapter version is invalid."
  catalogAdapter catalog adapterId adapterVersion controlId

/-! ## PC-12 -/

/-- `forbidden` of PC-12. -/
def forbiddenNames : List String :=
  ["defaultpassword", "default_password", "default_password_value",
    "password", "password_value", "lsa_secret"]

def keysOf : Json → List String
  | .obj members => members.map Prod.fst
  | _ => []

def evaluatePc12 (value : Json) : Except RegistryFault RuleDecision := do
  ensure (∀ key ∈ keysOf value, env.casefold key ∉ forbiddenNames)
    (.rejected "Automatic logon evidence contains forbidden secret content.")
  let state ← Registry.string (value.member "auto_admin_logon_value")
    "AutoAdminLogon value is invalid."
  let present ←
    boolean (value.member "related_autologon_configuration_present")
      "Related autologon configuration state is invalid."
  let passwordPresent ← boolean (value.member "default_password_present")
    "Password presence flag is invalid."
  let actual ← formatted
    [.literal ("AutoAdminLogon=" ++ state ++ ", 관련 구성 "),
      either present "있음" "없음", .literal ", 암호 값 존재 여부 ",
      either passwordPresent "있음" "없음"]
  if state ∈ ["0", "MISSING"] then
    return decision "PC-12" "PASS" "WINDOWS_AUTOMATIC_LOGON_DISABLED" actual
      "AutoAdminLogon 값이 없거나 0" "HKLM Winlogon 최소노출 확인"
      ⟨"secai.winlogon-native", "0.1.0", "AUTO_ADMIN_LOGON_STATE_ONLY"⟩ []
  else if state = "1" then
    return decision "PC-12" "FAIL" "WINDOWS_AUTOMATIC_LOGON_ENABLED" actual
      "AutoAdminLogon 값이 없거나 0" "자동 로그인 활성"
      ⟨"secai.winlogon-native", "0.1.0", "AUTO_ADMIN_LOGON_STATE_ONLY"⟩ []
  else
    return decision "PC-12" "ERROR" "AUTO_ADMIN_LOGON_VALUE_UNRECOGNIZED"
      actual "AutoAdminLogon 값 0·1 또는 값 없음" "레지스트리 값 해석 실패"
      ⟨"secai.winlogon-native", "0.1.0", "VALUE_UNRECOGNIZED"⟩ ["PARSE_ERROR"]

/-! ## PC-13 -/

/-- How fresh the organization wants its signatures. -/
structure Freshness where
  standardId : String
  maximumAge : Int

/-- `_freshness_policy` of a policy: one for another catalog is none. -/
def freshnessOf (policy : Json) : Except RegistryFault (Option Freshness) := do
  let standardId ← Registry.string (policy.member "standard_id")
    "Freshness standard ID is invalid."
  let _ ← Registry.string (policy.member "version")
    "Freshness standard version is invalid."
  if policy.member "approved_adapter_catalog_id" ≠ some (.str catalogId) then
    return none
  else do
    let maximumAge ← integer (policy.member "maximum_signature_age_hours")
      "Signature age threshold is invalid."
    ensure (1 ≤ maximumAge)
      (.rejected "Signature age threshold must be positive.")
    return some ⟨standardId, maximumAge⟩

def freshnessPolicy (organizationPolicy : Option Json) :
    Except RegistryFault (Option Freshness) :=
  match organizationPolicy with
  | none => .ok none
  | some policy => freshnessOf policy

/-- PC-13 of an active product, against the freshness the organization
wants. -/
def compareFreshness (value evidence : Json) (freshness : Freshness)
    (adapterId adapterVersion productName signatureVersion : String) :
    Except RegistryFault RuleDecision := do
  let collectedAt ← timestamp env (evidence.member "collected_at")
    "Collected timestamp is invalid."
  let updatedAt ← timestamp env (value.member "signature_updated_at")
    "Signature update timestamp is invalid."
  ensure (updatedAt ≤ collectedAt)
    (.rejected
      "Signature update timestamp cannot be later than collection time.")
  let signatureAge := wholeHours updatedAt collectedAt
  let actual ← formatted
    [.literal (productName ++ ", 서명 " ++ signatureVersion ++ ", 업데이트 "),
      .number signatureAge, .literal "시간 전"]
  let expected ← formatted
    [.literal "서명 업데이트 ", .number freshness.maximumAge,
      .literal "시간 이내, 자동 업데이트와 정상 상태"]
  let label := "기관 기준 " ++ freshness.standardId
  let adapter : AdapterNote := ⟨adapterId, adapterVersion, "SUPPORTED"⟩
  if freshness.maximumAge < signatureAge then
    return decision "PC-13" "FAIL" "ANTIVIRUS_SIGNATURE_STALE" actual expected
      label adapter []
  else if value.member "automatic_updates_enabled" ≠ some (.bool true) then
    return decision "PC-13" "FAIL" "ANTIVIRUS_AUTOMATIC_UPDATE_DISABLED" actual
      expected label adapter []
  else if value.member "health_state" ≠ some (.str "HEALTHY") then
    return decision "PC-13" "FAIL" "ANTIVIRUS_HEALTH_NOT_OK" actual expected
      label adapter []
  else
    return decision "PC-13" "PASS" "ANTIVIRUS_CURRENT_AND_MANAGED" actual
      expected label adapter []

/-- PC-13 of an active product. -/
def activeAntivirus (value evidence : Json)
    (organizationPolicy : Option Json) :
    Except RegistryFault RuleDecision := do
  let freshness ← freshnessPolicy organizationPolicy
  let adapterId ← Registry.string (value.member "adapter_id") "Adapter ID is invalid."
  let adapterVersion ←
    Registry.string (value.member "adapter_version") "Adapter version is invalid."
  let productName ←
    Registry.string (value.member "product_name") "Product name is invalid."
  let signatureVersion ←
    Registry.string (value.member "signature_version") "Signature version is invalid."
  match freshness with
  | none =>
      return decision "PC-13" "REVIEW" "ANTIVIRUS_FRESHNESS_POLICY_REQUIRED"
        (productName ++ ", 서명 " ++ signatureVersion)
        "기관의 서명 최신성 시간 기준" "최신성 기준 없음"
        ⟨adapterId, adapterVersion, "SUPPORTED_NO_POLICY"⟩ []
  | some freshness =>
      compareFreshness env value evidence freshness adapterId adapterVersion
        productName signatureVersion

/-- PC-13 of a product that is not active.  Its state is looked up in a set,
which takes hashable values only. -/
def inactiveAntivirus (value : Json) : Except RegistryFault RuleDecision :=
  match value.member "product_state" with
  | some (.arr _) | some (.obj _) => .error .typeError
  | state =>
      if state = some (.str "PASSIVE") ∨ state = some (.str "UNKNOWN") then
        .ok (decision "PC-13" "REVIEW"
          "ACTIVE_ANTIVIRUS_ADAPTER_COVERAGE_REQUIRED"
          "승인 Adapter에서 활성 백신을 확정하지 못함"
          "현재 보호를 담당하는 백신의 승인 Adapter" "활성 제품 확인 필요"
          ⟨"PARTIAL", "UNKNOWN", "ACTIVE_PRODUCT_UNRESOLVED"⟩ [])
      else
        .ok (decision "PC-13" "FAIL" "ANTIVIRUS_NOT_ACTIVE"
          "설치된 백신이 비활성" "활성 백신" "백신 비활성"
          ⟨"KNOWN", "0.1.0", "KNOWN_INACTIVE"⟩ [])

def evaluatePc13 (value evidence catalog : Json)
    (organizationPolicy : Option Json) :
    Except RegistryFault RuleDecision := do
  let present ← boolean (value.member "product_present")
    "Product presence is invalid."
  if present = false then
    return decision "PC-13" "FAIL" "ANTIVIRUS_NOT_INSTALLED" "확인된 백신 없음"
      "승인 Adapter로 확인된 활성 백신과 최신 보안 인텔리전스" "백신 미설치"
      ⟨"NONE", "NONE", "NO_PRODUCT"⟩ []
  else do
    match ← productAdapter value catalog "PC-13" with
    | none =>
        return decision "PC-13" "REVIEW" "ANTIVIRUS_ADAPTER_NOT_SUPPORTED"
          "설치 제품의 승인 Adapter를 찾지 못함"
          "승인된 제품 Adapter와 기관 최신성 기준" "제품 Adapter 확인 필요"
          ⟨"UNSUPPORTED", "UNKNOWN", "UNSUPPORTED_PRODUCT"⟩ []
    | some _ =>
        if value.member "product_state" ≠ some (.str "ACTIVE") ∨
            value.member "service_enabled" ≠ some (.bool true) then
          inactiveAntivirus value
        else activeAntivirus env value evidence organizationPolicy

/-! ## PC-14 -/

/-- PC-14 of an active product. -/
def realtimeProtection (value : Json) : Except RegistryFault RuleDecision := do
  let adapterId ← Registry.string (value.member "adapter_id") "Adapter ID is invalid."
  let adapterVersion ←
    Registry.string (value.member "adapter_version") "Adapter version is invalid."
  let productName ←
    Registry.string (value.member "product_name") "Product name is invalid."
  let realtime ← boolean (value.member "real_time_protection_enabled")
    "Real-time state is invalid."
  let service ← boolean (value.member "service_enabled")
    "Service state is invalid."
  let actual ← formatted
    [.literal (productName ++ ", 실시간 감시 "),
      either realtime "사용" "사용 안 함", .literal ", 서비스 ",
      either service "실행" "중지"]
  let expected := "활성 백신의 실시간 감시와 서비스 사용"
  let adapter : AdapterNote := ⟨adapterId, adapterVersion, "SUPPORTED"⟩
  if realtime = false ∨ service = false then
    return decision "PC-14" "FAIL" "ANTIVIRUS_REALTIME_PROTECTION_DISABLED"
      actual expected "실시간 감시 비활성" adapter []
  else
    return decision "PC-14" "PASS" "ANTIVIRUS_REALTIME_PROTECTION_ENABLED"
      actual expected "실시간 감시 활성" adapter []

def evaluatePc14 (value catalog : Json) :
    Except RegistryFault RuleDecision := do
  let present ← boolean (value.member "product_present")
    "Product presence is invalid."
  if present = false then
    return decision "PC-14" "FAIL" "ANTIVIRUS_NOT_INSTALLED" "확인된 백신 없음"
      "설치 백신의 실시간 감시 활성" "백신 미설치"
      ⟨"NONE", "NONE", "NO_PRODUCT"⟩ []
  else do
    match ← productAdapter value catalog "PC-14" with
    | none =>
        return decision "PC-14" "REVIEW" "ANTIVIRUS_ADAPTER_NOT_SUPPORTED"
          "설치 제품의 승인 Adapter를 찾지 못함" "승인된 실시간 감시 Adapter"
          "제품 Adapter 확인 필요"
          ⟨"UNSUPPORTED", "UNKNOWN", "UNSUPPORTED_PRODUCT"⟩ []
    | some _ =>
        if value.member "product_state" ≠ some (.str "ACTIVE") then
          return decision "PC-14" "REVIEW"
            "ACTIVE_ANTIVIRUS_ADAPTER_COVERAGE_REQUIRED"
            "Defender가 수동 모드이거나 활성 제품을 확정하지 못함"
            "현재 보호를 담당하는 백신의 승인 Adapter" "동작 모드 확인 필요"
            ⟨"PARTIAL", "0.1.0", "PASSIVE_OR_UNKNOWN"⟩ []
        else realtimeProtection value

/-! ## PC-15 -/

/-- `str(value)` of what `get` returns. -/
def printed : Option Json → Except RegistryFault String
  | none | some .null => .ok "None"
  | some (.bool truth) => .ok (if truth then "True" else "False")
  | some (.int number) => formatted [.number number]
  | some (.str text) => .ok text
  | some value => .ok (env.repr value)

/-- `sorted(required_fields)`. -/
def requiredFields : List String :=
  ["domain_applicable", "domain_enabled", "private_applicable",
    "private_enabled", "public_applicable", "public_enabled",
    "third_party_present"]

/-- A firewall profile: its name, its label and its two settings. -/
structure FirewallProfile where
  name : String
  label : String
  applicable : Bool
  enabled : Bool

def profileStates (value : Json) :
    Except RegistryFault (List FirewallProfile) := do
  let domainApplicable ← boolean (value.member "domain_applicable")
    "Domain applicability is invalid."
  let domainEnabled ← boolean (value.member "domain_enabled")
    "Domain firewall state is invalid."
  let privateApplicable ← boolean (value.member "private_applicable")
    "Private applicability is invalid."
  let privateEnabled ← boolean (value.member "private_enabled")
    "Private firewall state is invalid."
  let publicApplicable ← boolean (value.member "public_applicable")
    "Public applicability is invalid."
  let publicEnabled ← boolean (value.member "public_enabled")
    "Public firewall state is invalid."
  return [⟨"DOMAIN", "도메인", domainApplicable, domainEnabled⟩,
    ⟨"PRIVATE", "개인", privateApplicable, privateEnabled⟩,
    ⟨"PUBLIC", "공용", publicApplicable, publicEnabled⟩]

/-- `", ".join(labels)`. -/
def labelsOf (profiles : List FirewallProfile) : String :=
  ", ".intercalate (profiles.map (·.label))

/-- `actual` of PC-15. -/
def profileSummary (applicable disabled : List FirewallProfile) : String :=
  "적용 프로필 " ++ toString applicable.length ++ "개(" ++
    labelsOf applicable ++ "), Windows 방화벽 비활성 " ++
    (if disabled = [] then "없음"
    else toString disabled.length ++ "개(" ++ labelsOf disabled ++ ")")

/-- `covered`: the names between the commas that are not blank. -/
def coveredNames (text : String) : List String :=
  ((text.toList.splitOn ',').map fun name =>
    env.strip (String.ofList name)).filter (· ≠ "")

/-- PC-15 behind a third-party firewall whose adapter is approved. -/
def alternativeFirewall (value productAdapter : Json)
    (disabled : List FirewallProfile)
    (actual productId productVersion : String) :
    Except RegistryFault RuleDecision := do
  let syntheticOnly ← boolean (productAdapter.member "synthetic_test_only")
    "Synthetic Adapter flag is invalid."
  if syntheticOnly = true ∧
      value.member "synthetic_test_case" ≠ some (.bool true) then
    return decision "PC-15" "REVIEW"
      "THIRD_PARTY_FIREWALL_ADAPTER_COVERAGE_REQUIRED"
      (actual ++ ", 합성시험 전용 Adapter를 실증적으로 사용할 수 없음")
      "운영 승인된 타사 Adapter의 유효 보호" "운영 Adapter 확인 필요"
      ⟨productId, productVersion, "SYNTHETIC_TEST_ONLY"⟩ []
  else do
    let profiles ← Registry.string (value.member "third_party_covered_profiles")
      "Covered firewall profiles are invalid."
    let covered := coveredNames env profiles
    if value.member "third_party_product_state" = some (.str "ACTIVE") ∧
        value.member "third_party_service_enabled" = some (.bool true) ∧
        value.member "third_party_health_state" = some (.str "HEALTHY") ∧
        ∀ profile ∈ disabled, profile.name ∈ covered then
      return decision "PC-15" "PASS" "APPROVED_ALTERNATIVE_FIREWALL_EFFECTIVE"
        (actual ++ ", 합성 대체 방화벽이 " ++
          ",".intercalate (Ordered.sortedSet covered) ++ " 보호")
        "모든 적용 프로필의 유효 방화벽 활성" "대체 방화벽 분기 합성시험"
        ⟨productId, productVersion, "SYNTHETIC_TEST_ONLY"⟩ []
    else
      return decision "PC-15" "FAIL" "ALTERNATIVE_FIREWALL_NOT_EFFECTIVE"
        (actual ++ ", 승인 Adapter의 보호 상태 불충분")
        "승인된 타사 Adapter의 유효 보호"
        "대체 방화벽 비활성 또는 범위 부족"
        ⟨productId, productVersion, "KNOWN_INEFFECTIVE"⟩ []

/-- PC-15 with applicable profiles that are disabled. -/
def disabledProfiles (value catalog : Json) (disabled : List FirewallProfile)
    (actual : String) (adapterId adapterVersion : String) :
    Except RegistryFault RuleDecision := do
  let thirdPartyPresent ← boolean (value.member "third_party_present")
    "Third-party firewall presence is invalid."
  if thirdPartyPresent = false then
    return decision "PC-15" "FAIL"
      "NO_EFFECTIVE_FIREWALL_FOR_APPLICABLE_PROFILES" actual
      "Windows 방화벽 또는 승인된 대체 방화벽" "유효 방화벽 없음"
      ⟨adapterId, adapterVersion, "WINDOWS_ONLY"⟩ []
  else do
    let productId ← Registry.string (value.member "third_party_adapter_id")
      "Third-party Adapter ID is invalid."
    let productVersion ← Registry.string (value.member "third_party_adapter_version")
      "Third-party Adapter version is invalid."
    match ← catalogAdapter catalog productId productVersion "PC-15" with
    | none =>
        return decision "PC-15" "REVIEW"
          "THIRD_PARTY_FIREWALL_ADAPTER_COVERAGE_REQUIRED"
          (actual ++ ", 승인되지 않은 타사 방화벽")
          "승인된 타사 Adapter의 유효 보호"
          "타사 방화벽 Adapter 확인 필요"
          ⟨productId, productVersion, "THIRD_PARTY_UNRESOLVED"⟩ []
    | some productAdapter =>
        alternativeFirewall env value productAdapter disabled actual productId
          productVersion

/-- PC-15 of a store that is in effect and whose fields are there. -/
def effectiveProfiles (value catalog : Json)
    (adapterId adapterVersion : String) :
    Except RegistryFault RuleDecision := do
  let profiles ← profileStates value
  let applicable := profiles.filter (·.applicable)
  ensure (applicable ≠ [])
    (.rejected "At least one firewall profile must be applicable.")
  let disabled := applicable.filter fun profile => !profile.enabled
  let actual := profileSummary applicable disabled
  if disabled = [] then
    return decision "PC-15" "PASS"
      "WINDOWS_FIREWALL_ALL_APPLICABLE_PROFILES_ENABLED" actual
      "모든 적용 프로필의 유효 방화벽 활성" "Windows ActiveStore"
      ⟨adapterId, adapterVersion, "DOMAIN_PRIVATE_PUBLIC"⟩ []
  else
    disabledProfiles env value catalog disabled actual adapterId adapterVersion

def evaluatePc15 (value catalog : Json) :
    Except RegistryFault RuleDecision := do
  let adapterId ← Registry.string (value.member "adapter_id")
    "Firewall Adapter ID is invalid."
  let adapterVersion ← Registry.string (value.member "adapter_version")
    "Firewall Adapter version is invalid."
  match ← catalogAdapter catalog adapterId adapterVersion "PC-15" with
  | none =>
      return decision "PC-15" "REVIEW"
        "WINDOWS_FIREWALL_ADAPTER_NOT_SUPPORTED"
        "Windows 방화벽 Adapter를 해석할 수 없음"
        "승인된 ActiveStore Adapter" "Adapter 확인 필요"
        ⟨adapterId, adapterVersion, "UNSUPPORTED"⟩ []
  | some _ =>
      if value.member "policy_store" ≠ some (.str "ACTIVE_STORE") then do
        let store ← printed env (value.member "policy_store")
        return decision "PC-15" "ERROR" "FIREWALL_POLICY_STORE_NOT_EFFECTIVE"
          ("정책 저장소 " ++ store) "ActiveStore 유효 정책"
          "유효 정책 수집 오류"
          ⟨adapterId, adapterVersion, "WRONG_POLICY_STORE"⟩
          ["EVIDENCE_INCOMPLETE"]
      else
        let missing := requiredFields.filter fun field =>
          decide (value.member field = none)
        if missing ≠ [] then
          return decision "PC-15" "ERROR"
            "FIREWALL_PROFILE_COVERAGE_INCOMPLETE"
            ("누락 필드 " ++ ",".intercalate missing)
            "Domain·Private·Public ActiveStore 프로필" "프로필 수집 누락"
            ⟨adapterId, adapterVersion, "INCOMPLETE_PROFILES"⟩
            ["EVIDENCE_INCOMPLETE"]
        else effectiveProfiles env value catalog adapterId adapterVersion

/-! ## The registry -/

def evaluateCatalog (controlId : String) (value evidence catalog : Json)
    (organizationPolicy : Option Json) : Except RegistryFault RuleDecision :=
  if controlId = "PC-13" then
    evaluatePc13 env value evidence catalog organizationPolicy
  else if controlId = "PC-14" then evaluatePc14 value catalog
  else evaluatePc15 env value catalog

def evaluateValue (controlId : String) (value evidence : Json)
    (adapterCatalog organizationPolicy : Option Json) :
    Except RegistryFault RuleDecision :=
  if controlId = "PC-12" then evaluatePc12 env value
  else
    match adapterCatalog with
    | none =>
        .ok (decision controlId "REVIEW" "ADAPTER_CATALOG_REQUIRED"
          "Adapter 기준을 불러오지 못함" "유효한 제품 Adapter Catalog"
          "Adapter 기준 없음"
          ⟨"NOT_PROVIDED", "NOT_PROVIDED", "MISSING_CATALOG"⟩ [])
    | some catalog => do
        let catalog ← validatedCatalog env catalog
        evaluateCatalog env controlId value evidence catalog
          organizationPolicy

/-- `EndpointProtectionRuleRegistry.evaluate`. -/
def evaluate (controlId : String) (applicabilityRule evaluationRule : Json)
    (evidence : Json) (adapterCatalog organizationPolicy : Option Json) :
    Except RegistryFault RuleDecision := do
  let definition ←
    checkRulePackage texts rules controlId applicabilityRule evaluationRule
  checkScope texts definition controlId evidence
  match ← collection evidence "Normalized value is missing." with
  | .failed errorCode => return collectionError controlId errorCode
  | .collected value =>
      evaluateValue env controlId value evidence adapterCatalog
        organizationPolicy

end SecAI.Rules.EndpointProtection
