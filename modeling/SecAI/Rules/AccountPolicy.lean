/-
Module: SecAI.Rules.AccountPolicy
Purpose: The registry of PC-01 to PC-03, the account policies.
Trusted boundary: none
Main exports:
  rules, evaluatePc01, evaluatePc02, evaluatePc03
-/
import SecAI.Rules.Registry

namespace SecAI.Rules.AccountPolicy

open SecAI.Rules (strings ensure)
open SecAI.Rules.Registry

def sourceLabels : List (String × String) :=
  [("LOCAL", "이 PC에서 설정"),
    ("DOMAIN", "조직에서 일괄 설정"),
    ("MDM", "기기 관리 시스템에서 설정"),
    ("WINDOWS_DEFAULT", "Windows 기본값"),
    ("UNKNOWN", "설정 출처를 확인하지 못함")]

/-- `applicability_parameters`, which the three rules share. -/
def applicabilityParameters : List (String × Json) :=
  [("subject_scope", .str "POLICY"),
    ("supported_policy_sources",
      strings ["LOCAL", "DOMAIN", "MDM", "WINDOWS_DEFAULT"]),
    ("unresolved_source_status", .str "ERROR")]

def rules : List (String × RuleDefinition) :=
  [("PC-01",
      { probeId := "win.security.password-age"
        subjectScope := "POLICY"
        applicability := ("pc01.account-policy-applicability", "0.1.0")
        evaluation := ("pc01.password-age", "0.1.0")
        applicabilityParameters := applicabilityParameters
        evaluationParameters :=
          [("minimum_password_age_days", .int 1),
            ("maximum_password_age_days", .int 90),
            ("unlimited_value", .int 0),
            ("within_range_status", .str "PASS"),
            ("outside_range_status", .str "FAIL"),
            ("collection_failure_status", .str "ERROR")] }),
    ("PC-02",
      { probeId := "win.security.password-policy"
        subjectScope := "POLICY"
        applicability := ("pc02.account-policy-applicability", "0.1.0")
        evaluation := ("pc02.password-policy", "0.1.0")
        applicabilityParameters := applicabilityParameters
        evaluationParameters :=
          [("organization_policy_required", .bool true),
            ("missing_organization_policy_status", .str "REVIEW"),
            ("required_policy_fields",
              strings ["minimum_password_length", "complexity_required",
                "password_required"]),
            ("comparison_profile",
              .str "EFFECTIVE_POLICY_MEETS_ORGANIZATION_STANDARD"),
            ("collection_failure_status", .str "ERROR")] }),
    ("PC-03",
      { probeId := "win.security.recovery-console"
        subjectScope := "POLICY"
        applicability := ("pc03.account-policy-applicability", "0.1.0")
        evaluation := ("pc03.recovery-console-logon", "0.1.0")
        applicabilityParameters := applicabilityParameters
        evaluationParameters :=
          [("compliant_states", strings ["DISABLED", "NOT_DEFINED"]),
            ("noncompliant_state", .str "ENABLED"),
            ("unknown_state_status", .str "ERROR"),
            ("collection_failure_status", .str "ERROR")] })]

def texts : RegistryTexts :=
  { controlNotAllowlisted := "Control rule is not allowlisted."
    applicabilityParameters :=
      "Applicability parameters differ from the allowlisted version."
    evaluationParameters :=
      "Evaluation parameters differ from the allowlisted version."
    subjectScope := "Account policy evidence requires POLICY scope." }

def source (value : Option Json) : Except RegistryFault String := do
  let source ← Registry.string value "Effective policy source is missing."
  ensure ((sourceLabels.lookup source).isSome = true)
    (.rejected "Effective policy source is not allowlisted.")
  return source

def decision (controlId status resultCode actual expected source : String)
    (errorCodes : List String) : RuleDecision :=
  { controlId := controlId
    status := status
    resultCode := resultCode
    actual := actual
    expected := expected
    rationaleCode := resultCode
    errorCodes := errorCodes
    details :=
      [("policy_source", source),
        ("policy_source_label", (sourceLabels.lookup source).getD "")] }

def collectionError (controlId expected errorCode : String) : RuleDecision :=
  decision controlId "ERROR"
    (collectionResultCode controlId "_POLICY_COLLECTION_FAILED")
    "설정 정보를 가져오지 못함" expected "UNKNOWN" [errorCode]

/-- `actual` of PC-01. -/
def changePeriod (days : Int) : Except RegistryFault String :=
  if days = 0 then .ok "변경 기한 없음"
  else formatted [.number days, .literal "일마다 변경"]

def evaluatePc01 (value : Json) (source : String) :
    Except RegistryFault RuleDecision := do
  let days ← integer (value.member "maximum_password_age_days")
    "Maximum password age is invalid."
  let actual ← changePeriod days
  if 1 ≤ days ∧ days ≤ 90 then
    return decision "PC-01" "PASS" "PASSWORD_CHANGE_PERIOD_WITHIN_90_DAYS"
      actual "1~90일 이내에 변경" source []
  else
    return decision "PC-01" "FAIL" "PASSWORD_CHANGE_PERIOD_NOT_COMPLIANT"
      actual "1~90일 이내에 변경" source []

/-- The effective policy that PC-02 reads, or the standard it is compared
with. -/
structure PasswordPolicy where
  minimumLength : Int
  complexity : Bool
  passwordRequired : Bool

/-- The effective password policy; one message for its three checks. -/
def effectivePolicy (value : Json) : Except RegistryFault PasswordPolicy := do
  let message := "Effective password policy value is invalid."
  let length ← integer (value.member "minimum_password_length") message
  let complexity ← boolean (value.member "complexity_enabled") message
  let passwordRequired ← boolean (value.member "password_required") message
  return ⟨length, complexity, passwordRequired⟩

/-- `isinstance(value, str)`. -/
def isText : Option Json → Bool
  | some (.str _) => true
  | _ => false

/-- The password standard of the organization; one message for its checks. -/
def passwordStandard (policy : Json) :
    Except RegistryFault PasswordPolicy := do
  let message := "Organization password standard is invalid."
  let minimum ← integer (policy.member "minimum_password_length") message
  ensure (1 ≤ minimum) (.rejected message)
  let complexity ← boolean (policy.member "complexity_required") message
  let passwordRequired ← boolean (policy.member "password_required") message
  ensure (isText (policy.member "standard_id") = true) (.rejected message)
  ensure (isText (policy.member "version") = true) (.rejected message)
  return ⟨minimum, complexity, passwordRequired⟩

/-- `compliant` of PC-02. -/
def PasswordPolicy.meets (effective standard : PasswordPolicy) : Bool :=
  decide (standard.minimumLength ≤ effective.minimumLength) &&
    (!standard.complexity || effective.complexity) &&
    (!standard.passwordRequired || effective.passwordRequired)

def evaluatePc02 (value : Json) (source : String)
    (organizationPolicy : Option Json) :
    Except RegistryFault RuleDecision := do
  let effective ← effectivePolicy value
  let actual ← formatted
    [.literal "최소 ", .number effective.minimumLength,
      .literal "자, 복잡성 ",
      either effective.complexity "사용" "사용 안 함",
      .literal ", 비밀번호 ",
      either effective.passwordRequired "사용" "사용 안 함"]
  match organizationPolicy with
  | none =>
      return decision "PC-02" "REVIEW" "ORGANIZATION_PASSWORD_STANDARD_REQUIRED"
        actual "조직의 비밀번호 기준을 먼저 등록해야 함" source []
  | some policy =>
      let standard ← passwordStandard policy
      let expected ← formatted
        [.literal "조직 기준: 최소 ", .number standard.minimumLength,
          .literal "자, 복잡성 ", either standard.complexity "사용" "선택",
          .literal ", 비밀번호 ",
          either standard.passwordRequired "사용" "선택"]
      if effective.meets standard then
        return decision "PC-02" "PASS"
          "PASSWORD_POLICY_MEETS_ORGANIZATION_STANDARD" actual expected source
          []
      else
        return decision "PC-02" "FAIL"
          "PASSWORD_POLICY_BELOW_ORGANIZATION_STANDARD" actual expected source
          []

/-- `labels` of PC-03. -/
def stateLabels : List (String × String) :=
  [("DISABLED", "자동 관리자 로그인 사용 안 함"),
    ("NOT_DEFINED", "자동 관리자 로그인 별도 설정 없음"),
    ("ENABLED", "자동 관리자 로그인 사용")]

/-- The label of a state that PC-03 knows. -/
def stateLabel : Option Json → Option (String × String)
  | some (.str state) => (stateLabels.lookup state).map fun label => (state, label)
  | _ => none

def evaluatePc03 (value : Json) (source : String) : RuleDecision :=
  match stateLabel (value.member "automatic_admin_logon") with
  | none =>
      decision "PC-03" "ERROR" "RECOVERY_CONSOLE_POLICY_STATE_UNKNOWN"
        "설정 상태를 확인하지 못함" "사용 안 함 또는 별도 설정 없음" source
        ["EVIDENCE_INCOMPLETE"]
  | some (state, label) =>
      if state ∈ ["DISABLED", "NOT_DEFINED"] then
        decision "PC-03" "PASS" "RECOVERY_CONSOLE_AUTO_LOGON_BLOCKED" label
          "사용 안 함 또는 별도 설정 없음" source []
      else
        decision "PC-03" "FAIL" "RECOVERY_CONSOLE_AUTO_LOGON_ENABLED" label
          "사용 안 함 또는 별도 설정 없음" source []

/-- `expected` of a control whose evidence was not collected. -/
def expectedOf (controlId : String) : String :=
  (([("PC-01", "1~90일 이내에 변경"),
    ("PC-02", "조직의 비밀번호 기준 충족"),
    ("PC-03", "사용 안 함 또는 별도 설정 없음")] :
      List (String × String)).lookup controlId).getD ""

def evaluateValue (controlId : String) (value : Json) (source : String)
    (organizationPolicy : Option Json) : Except RegistryFault RuleDecision :=
  if controlId = "PC-01" then evaluatePc01 value source
  else if controlId = "PC-02" then
    evaluatePc02 value source organizationPolicy
  else .ok (evaluatePc03 value source)

/-- `AccountPolicyRuleRegistry.evaluate`. -/
def evaluate (controlId : String) (applicabilityRule evaluationRule : Json)
    (evidence : Json) (organizationPolicy : Option Json) :
    Except RegistryFault RuleDecision := do
  let definition ←
    checkRulePackage texts rules controlId applicabilityRule evaluationRule
  checkScope texts definition controlId evidence
  match ← collection evidence "Normalized policy value is missing." with
  | .failed errorCode =>
      return collectionError controlId (expectedOf controlId) errorCode
  | .collected value =>
      let source ← source (value.member "policy_source")
      ensure (evidence.member "policy_source" = some (.str source))
        (.rejected "Effective policy source fields differ.")
      evaluateValue controlId value source organizationPolicy

end SecAI.Rules.AccountPolicy
