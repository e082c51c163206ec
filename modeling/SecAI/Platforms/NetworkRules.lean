/-
Module: SecAI.Platforms.NetworkRules
Purpose: The network controls N-01 to N-38, the criteria profile of an
  organization, the verdicts on the controls, and the results they become.
Trusted boundary: the hash function and the Unicode database are parameters
Main exports:
  NetworkControlDefinition, FactValue, Observed, evaluateDevice, evaluate
-/
import SecAI.Platforms.Contracts
import SecAI.Text.Numerals
import Mathlib.Logic.Basic

namespace SecAI.Platforms

open SecAI.Text

/-- `NetworkControlDefinition`, with the number its identifier is made of. -/
structure NetworkControlDefinition where
  number : Nat
  title : String
  sourcePages : String
  safeCriterion : String
  reviewRequirement : String

/-- `N-{number:02d}` with the given sign between the parts. -/
def numberedId (sign : Char) (number : Nat) : List Char :=
  let digits := decimalText number
  'N' :: sign :: (List.replicate (2 - digits.length) '0' ++ digits)

def NetworkControlDefinition.controlId
    (definition : NetworkControlDefinition) : List Char :=
  numberedId '-' definition.number

def control (number : Nat)
    (title pages safeCriterion reviewRequirement : String) :
    NetworkControlDefinition :=
  { number := number
    title := title
    sourcePages := pages
    safeCriterion := safeCriterion
    reviewRequirement := reviewRequirement }

def kisaNetworkControls : List NetworkControlDefinition :=
  [control 1 "비밀번호 설정" "391~394" "기본 비밀번호를 변경하고 비밀번호를 설정" "초기 비밀번호 변경 여부",
   control 2 "비밀번호 복잡성 설정" "395~396" "기관 정책에 맞는 비밀번호 복잡성 적용"
     "기관 비밀번호 정책과 장비 복잡성 설정",
   control 3 "암호화된 비밀번호 사용" "397~398" "비밀번호 암호화 저장" "저장 비밀번호의 비가역·암호화 여부",
   control 4 "계정 잠금 임계값 설정" "399~400" "로그인 실패 임계값 5회 이하" "계정 잠금 임계값과 잠금 동작",
   control 5 "사용자·명령어별 권한 설정" "401~405" "업무별 최소 권한 분리" "계정·역할 목록과 업무별 권한 정책",
   control 6 "VTY 접근(ACL) 설정" "406~409" "관리 접속 허용 주소 제한"
     "VTY 또는 관리 서비스 접근 ACL",
   control 7 "Session Timeout 설정" "410~411" "관리 세션 유휴 제한 10분 이하"
     "CLI·웹 관리 세션 제한값",
   control 8 "VTY 접속 시 안전한 프로토콜 사용" "412~414" "SSH 사용 및 Telnet 차단"
     "모든 관리 VRF의 SSH·Telnet 상태",
   control 9 "불필요한 보조 입출력 포트 사용 금지" "415~416" "불필요한 보조 포트 비활성화"
     "보조·콘솔 포트 사용 필요성",
   control 10 "로그인 시 경고 메시지 설정" "417~418" "시스템 정보가 없는 경고 배너"
     "로그인 배너 내용과 승인 문구",
   control 11 "원격로그 서버 사용" "419~421" "별도 원격 로그 서버 사용" "활성 원격 syslog 목적지",
   control 12 "주기적 보안 패치 및 벤더 권고사항 적용" "422~423" "보안 패치·벤더 권고의 주기적 검토와 적용"
     "현재 버전의 권고사항 검토 기록",
   control 13 "로깅 버퍼 크기 설정" "424~425" "발생 로그보다 충분한 버퍼 확보" "로그 발생량과 버퍼 크기 비교",
   control 14 "정책에 따른 로깅 설정" "426~427" "승인된 정책에 따른 보안 이벤트 로깅"
     "조직 로깅 정책과 장비 필터",
   control 15 "NTP 및 시각 동기화 설정" "428~429" "신뢰 NTP 서버와 실시간 동기화"
     "NTP client·서버 구성",
   control 16 "Timestamp 로그 설정" "430" "로그 timestamp 기록" "로그 timestamp 형식 설정",
   control 17 "SNMP 서비스 확인" "431~432" "불필요한 SNMP 비활성화" "SNMP 사용 승인 여부",
   control 18 "SNMP Community String 복잡성 설정" "433~434"
     "SNMP 미사용 또는 복잡한 community" "community 사용 여부와 복잡성",
   control 19 "SNMP ACL 설정" "435~437" "SNMP 미사용 또는 접근 ACL 적용" "SNMP 접근 ACL",
   control 20 "SNMP Community 권한 설정" "438~439" "community 읽기 전용 권한"
     "community별 접근 권한",
   control 21 "TFTP 서비스 차단" "440" "불필요한 TFTP 차단" "TFTP 서비스 상태",
   control 22 "Spoofing 방지 필터링 적용" "441~443" "경계 인터페이스 spoofing 방지 필터"
     "경계 인터페이스와 필터 정책",
   control 23 "DDoS 공격 방어 설정 또는 DDoS 장비 사용" "444~445"
     "DDoS 방어 설정 또는 전용 장비 사용" "DDoS 정책·외부 방어 장비 증적",
   control 24 "사용하지 않는 인터페이스 비활성화" "446~447" "미사용 인터페이스 shutdown"
     "인터페이스 용도대장과 관리 상태",
   control 25 "TCP Keepalive 서비스 설정" "448" "TCP keepalive 활성화"
     "TCP keepalive 설정",
   control 26 "Finger 서비스 차단" "449~450" "Finger 서비스 차단" "Finger 서비스 상태",
   control 27 "웹 서비스 차단" "451~452" "불필요한 웹 관리 차단 또는 접근 제한" "웹 관리 필요성·허용 주소",
   control 28 "TCP/UDP small 서비스 차단" "453" "TCP/UDP small 서비스 차단"
     "small service 상태",
   control 29 "Bootp 서비스 차단" "454~455" "BOOTP 서비스 차단" "BOOTP 서비스 상태",
   control 30 "CDP 서비스 차단" "456" "불필요한 CDP 차단" "CDP 동작 모드",
   control 31 "Directed-broadcast 차단" "457~458" "IP directed broadcast 차단"
     "인터페이스별 directed broadcast 상태",
   control 32 "Source Routing 차단" "459" "IP source routing 차단"
     "source routing 상태",
   control 33 "Proxy ARP 차단" "460" "불필요한 proxy ARP 차단" "인터페이스별 proxy ARP 상태",
   control 34 "ICMP unreachable, redirect 차단" "461~462"
     "ICMP unreachable·redirect 차단" "ICMP unreachable·redirect 상태",
   control 35 "identd 서비스 차단" "463" "identd 서비스 차단" "identd 서비스 상태",
   control 36 "Domain Lookup 차단" "464" "불필요한 domain lookup 차단"
     "domain lookup 필요성·상태",
   control 37 "pad 차단" "465" "PAD 서비스 차단" "PAD 서비스 상태",
   control 38 "mask-reply 차단" "466" "IP mask reply 차단" "mask reply 상태"]

/-- The criteria of `KisaNetworkAssessmentProfile` that are required or not. -/
inductive RequiredCriterion where
  | privilegeSeparationEnabled
  | auxiliaryPortsDisabled
  | loginWarningBannerEnabled
  | securityAdvisoriesReviewed
  | loggingBufferSufficient
  | securityEventLoggingEnabled
  | logTimestampsEnabled
  | snmpBusinessUseApproved
  | snmpAccessRestricted
  | tftpDisabled
  | spoofingProtectionEnabled
  | ddosProtectionEnabled
  | unusedInterfacesDisabled
  | tcpKeepaliveEnabled
  | fingerDisabled
  | webManagementRestricted
  | smallServicesDisabled
  | bootpDisabled
  | directedBroadcastDisabled
  | sourceRoutingDisabled
  | proxyArpDisabled
  | identdDisabled
  | domainLookupDisabled
  | padDisabled
  | maskReplyDisabled
deriving DecidableEq

/-- `KisaNetworkAssessmentProfile` with its defaults. -/
structure KisaNetworkAssessmentProfile where
  loginFailureLockThreshold : Int := 5
  required : RequiredCriterion → Bool := fun _ => true
  n12PatchAdvisoryAssessment : AssessmentStatus := .pass
  n17SnmpApprovalAssessment : AssessmentStatus := .pass

/-- The value of a criteria field: its bounds, or which criterion it sets. -/
inductive CriteriaInput where
  | integer (minimum maximum : Int)
  | boolean (criterion : RequiredCriterion)
deriving DecidableEq

structure NetworkCriteriaField where
  controlNumber : Nat
  key : String
  input : CriteriaInput

def networkCriteriaFields : List NetworkCriteriaField :=
  [⟨4, "login_failure_lock_threshold", .integer 1 20⟩,
   ⟨5, "privilege_separation_enabled", .boolean .privilegeSeparationEnabled⟩,
   ⟨9, "auxiliary_ports_disabled", .boolean .auxiliaryPortsDisabled⟩,
   ⟨10, "login_warning_banner_enabled", .boolean .loginWarningBannerEnabled⟩,
   ⟨12, "security_advisories_reviewed", .boolean .securityAdvisoriesReviewed⟩,
   ⟨13, "logging_buffer_sufficient", .boolean .loggingBufferSufficient⟩,
   ⟨14, "security_event_logging_enabled", .boolean .securityEventLoggingEnabled⟩,
   ⟨16, "log_timestamps_enabled", .boolean .logTimestampsEnabled⟩,
   ⟨17, "snmp_business_use_approved", .boolean .snmpBusinessUseApproved⟩,
   ⟨19, "snmp_access_restricted", .boolean .snmpAccessRestricted⟩,
   ⟨21, "tftp_disabled", .boolean .tftpDisabled⟩,
   ⟨22, "spoofing_protection_enabled", .boolean .spoofingProtectionEnabled⟩,
   ⟨23, "ddos_protection_enabled", .boolean .ddosProtectionEnabled⟩,
   ⟨24, "unused_interfaces_disabled", .boolean .unusedInterfacesDisabled⟩,
   ⟨25, "tcp_keepalive_enabled", .boolean .tcpKeepaliveEnabled⟩,
   ⟨26, "finger_disabled", .boolean .fingerDisabled⟩,
   ⟨27, "web_management_restricted", .boolean .webManagementRestricted⟩,
   ⟨28, "small_services_disabled", .boolean .smallServicesDisabled⟩,
   ⟨29, "bootp_disabled", .boolean .bootpDisabled⟩,
   ⟨31, "directed_broadcast_disabled", .boolean .directedBroadcastDisabled⟩,
   ⟨32, "source_routing_disabled", .boolean .sourceRoutingDisabled⟩,
   ⟨33, "proxy_arp_disabled", .boolean .proxyArpDisabled⟩,
   ⟨35, "identd_disabled", .boolean .identdDisabled⟩,
   ⟨36, "domain_lookup_disabled", .boolean .domainLookupDisabled⟩,
   ⟨37, "pad_disabled", .boolean .padDisabled⟩,
   ⟨38, "mask_reply_disabled", .boolean .maskReplyDisabled⟩]

/-- `_CRITERIA_FIELD_BY_CONTROL.get`. -/
def criteriaFieldByControl (number : Nat) : Option NetworkCriteriaField :=
  networkCriteriaFields.find? (·.controlNumber = number)

def n12Key : String := "n12_patch_advisory_assessment"

def n17Key : String := "n17_snmp_approval_assessment"

def KisaNetworkAssessmentProfile.supplementalStatus
    (profile : KisaNetworkAssessmentProfile) (number : Nat) :
    Option AssessmentStatus :=
  match number with
  | 12 => some profile.n12PatchAdvisoryAssessment
  | 17 => some profile.n17SnmpApprovalAssessment
  | _ => none

/-- A value of the mapping given to `from_values`.  A value that has no hash
is a list or a dict. -/
inductive SuppliedValue where
  | boolean (value : Bool)
  | integer (value : Int)
  | text (value : String)
  | hashable
  | unhashable
deriving DecidableEq

/-- What `from_values` raises. -/
inductive CriteriaFault where
  /-- `ValueError` with its code. -/
  | invalid (code : String)
  /-- `TypeError`, where a value without a hash is looked for in a set. -/
  | unhashable

/-- The values by key. -/
abbrev SuppliedValues := List (String × SuppliedValue)

/-- The keys that `from_values` asks for. -/
def allowedKeys : List String :=
  networkCriteriaFields.map (·.key) ++ [n12Key, n17Key]

/-- One criteria field of `from_values`. -/
def checkCriterion (values : SuppliedValues) (field : NetworkCriteriaField) :
    Except CriteriaFault Unit :=
  match field.input, values.lookup field.key with
  | .boolean _, some (.boolean _) => .ok ()
  | .integer minimum maximum, some (.integer value) =>
      if minimum ≤ value ∧ value ≤ maximum then .ok ()
      else .error (.invalid "SWITCH_CRITERIA_VALUE_INVALID")
  | _, _ => .error (.invalid "SWITCH_CRITERIA_VALUE_INVALID")

def suppliedStatus : String → Option AssessmentStatus
  | "PASS" => some .pass
  | "FAIL" => some .fail
  | "REVIEW" => some .review
  | "N/A" => some .notApplicable
  | _ => none

/-- One supplemental field of `from_values`. -/
def readSupplemental (values : SuppliedValues) (key : String) :
    Except CriteriaFault AssessmentStatus :=
  match values.lookup key with
  | some (.text value) =>
      match suppliedStatus value with
      | some status => .ok status
      | none => .error (.invalid "SWITCH_SUPPLEMENTAL_VALUE_INVALID")
  | some .unhashable => .error .unhashable
  | _ => .error (.invalid "SWITCH_SUPPLEMENTAL_VALUE_INVALID")

def suppliedCriterion (values : SuppliedValues)
    (criterion : RequiredCriterion) : Bool :=
  networkCriteriaFields.any fun field =>
    decide (field.input = .boolean criterion ∧
      values.lookup field.key = some (.boolean true))

def suppliedThreshold (values : SuppliedValues) : Int :=
  match values.lookup "login_failure_lock_threshold" with
  | some (.integer value) => value
  | _ => 5

/-- The values of `from_values`, where there are any. -/
def KisaNetworkAssessmentProfile.readValues (values : SuppliedValues) :
    Except CriteriaFault KisaNetworkAssessmentProfile := do
  if ¬((∀ entry ∈ values, entry.1 ∈ allowedKeys) ∧
      ∀ key ∈ allowedKeys, (values.lookup key).isSome = true) then
    throw (.invalid "SWITCH_CRITERIA_KEYS_INVALID")
  networkCriteriaFields.forM (checkCriterion values)
  let patchAdvisory ← readSupplemental values n12Key
  let snmpApproval ← readSupplemental values n17Key
  return {
    loginFailureLockThreshold := suppliedThreshold values
    required := suppliedCriterion values
    n12PatchAdvisoryAssessment := patchAdvisory
    n17SnmpApprovalAssessment := snmpApproval }

def KisaNetworkAssessmentProfile.fromValues :
    Option SuppliedValues → Except CriteriaFault KisaNetworkAssessmentProfile
  | none => .ok {}
  | some values => KisaNetworkAssessmentProfile.readValues values

end SecAI.Platforms

namespace Evidence

variable {κ ν α β : Type}

/-- What is known, by key. -/
abbrev Facts (κ ν : Type) := κ → Option ν

def without (facts : Facts κ ν) (deleted : κ → Bool) : Facts κ ν :=
  fun key => if deleted key then none else facts key

/-! ## Readings -/

/-- A reading that a deletion leaves as it is or takes away. -/
def Fades (reading : Facts κ ν → Option α) : Prop :=
  ∀ facts deleted, reading (without facts deleted) = reading facts ∨
    reading (without facts deleted) = none

theorem Fades.lookup (key : κ) (read : ν → Option α) :
    Fades fun facts => (facts key).bind read := by
  intro facts deleted
  simp only [without]
  by_cases gone : deleted key = true
  case pos =>
      right
      rw [if_pos gone]
      rfl
  case neg =>
      left
      rw [if_neg gone]

theorem Fades.const (result : Option α) :
    Fades fun _ : Facts κ ν => result :=
  fun _ _ => .inl rfl

theorem Fades.bind {reading : Facts κ ν → Option α}
    {next : α → Facts κ ν → Option β} (fades : Fades reading)
    (later : ∀ value, Fades (next value)) :
    Fades fun facts => (reading facts).bind fun value => next value facts := by
  intro facts deleted
  rcases fades facts deleted with same | lost
  · simp only [same]
    cases reading facts with
    | none => exact .inl rfl
    | some value => exact later value facts deleted
  · right
    simp only [lost]
    rfl

theorem Fades.cond {condition : Prop} [Decidable condition]
    {first second : Facts κ ν → Option α} (fadesFirst : Fades first)
    (fadesSecond : Fades second) :
    Fades fun facts => if condition then first facts else second facts := by
  by_cases holds : condition
  case pos =>
      simp only [if_pos holds]
      exact fadesFirst
  case neg =>
      simp only [if_neg holds]
      exact fadesSecond

/-- A judgement that a deletion leaves as it is or makes cautious. -/
def Retreats (cautious : β → Prop) (judge : Facts κ ν → β) : Prop :=
  ∀ facts deleted, judge (without facts deleted) = judge facts ∨
    cautious (judge (without facts deleted))

theorem Fades.retreats {reading : Facts κ ν → Option β}
    {cautious : β → Prop} {missing : β} (fades : Fades reading)
    (careful : cautious missing) :
    Retreats cautious fun facts => (reading facts).getD missing := by
  intro facts deleted
  rcases fades facts deleted with same | lost
  · left
    simp only [same]
  · right
    simp only [lost]
    exact careful

theorem Retreats.const (result : β) (cautious : β → Prop) :
    Retreats cautious fun _ : Facts κ ν => result :=
  fun _ _ => .inl rfl

end Evidence

namespace SecAI.Platforms

open SecAI.Text

/-! ## Facts -/

/-- A value of the fact map. -/
inductive FactValue where
  | null
  | boolean (value : Bool)
  | integer (value : Int)
  | text (value : List Char)
  /-- A text with a surrogate that has no partner. -/
  | brokenText
  /-- A float, a list or a dict. -/
  | other
deriving DecidableEq

abbrev Facts := Evidence.Facts String FactValue

/-- What `_bool` reads of a value. -/
def FactValue.boolean? : FactValue → Option Bool
  | .boolean value => some value
  | _ => none

/-- What `_int` reads of a value. -/
def FactValue.integer? : FactValue → Option Int
  | .integer value => some value
  | _ => none

def factBool (key : String) (facts : Facts) : Option Bool :=
  (facts key).bind FactValue.boolean?

def factInt (key : String) (facts : Facts) : Option Int :=
  (facts key).bind FactValue.integer?

/-- A value with `isinstance(value, str)`; `none` inside is a broken text. -/
def FactValue.text? : FactValue → Option (Option (List Char))
  | .text value => some (some value)
  | .brokenText => some none
  | _ => none

def factText (key : String) (facts : Facts) : Option (Option (List Char)) :=
  (facts key).bind FactValue.text?

/-! ## Observed texts -/

/-- A part of an f-string. -/
inductive Piece where
  | words (text : String)
  | number (value : Int)
  | text (value : List Char)
  | broken
deriving DecidableEq

/-- An f-string that is not evaluated yet. -/
abbrev Observed := List Piece

/-- `str` of one part.  A broken text stops the result where its bytes are
taken, if not before for its length. -/
def Piece.written : Piece → Except EvidenceFault (List Char)
  | .words content => .ok content.toList
  | .number value =>
      if maximumDigits < (decimalText value.natAbs).length then
        .error .longNumber
      else .ok (integerText value)
  | .text value => .ok value
  | .broken => .error .unencodable

def Observed.written (observed : Observed) :
    Except EvidenceFault (List Char) := do
  let parts ← observed.mapM Piece.written
  return parts.flatten

def textPiece : Option (List Char) → Piece
  | some value => .text value
  | none => .broken

def either (value : Bool) (yes no : String) : Piece :=
  .words (if value then yes else no)

/-- A status with what was observed. -/
abbrev Judgement := AssessmentStatus × Observed

def passIf (condition : Bool) : AssessmentStatus :=
  if condition then .pass else .fail

/-- A judgement that is to be reviewed, with a fixed text. -/
def toReview (text : String) : Judgement := (.review, [.words text])

/-! ## The rules -/

def simpleBoolean (key enabled disabled : String) (facts : Facts) :
    Judgement :=
  ((factBool key facts).bind fun value =>
    some (if value then (.pass, [.words enabled])
      else (.fail, [.words disabled]))).getD
    (toReview (enabled ++ " 여부: REST 증적 없음"))

def aosCxNotApplicable : Nat → Option String
  | 13 => some "사용자 조정형 로그 버퍼 크기"
  | 21 => some "상시 TFTP 서버 서비스"
  | 25 => some "전역 TCP keepalive 서비스 설정"
  | 26 => some "Finger service"
  | 28 => some "TCP/UDP small service"
  | 29 => some "BOOTP server"
  | 32 => some "IP source routing"
  | 35 => some "identd service"
  | 37 => some "PAD service"
  | 38 => some "IP mask reply"
  | _ => none

def undetermined (definition : NetworkControlDefinition) : Judgement :=
  (.review, [.words definition.reviewRequirement,
    .words ": 현재 REST projection으로 확정 불가"])

/-- N-04. -/
def ruleLockThreshold (threshold : Int) (facts : Facts) : Judgement :=
  ((factInt "identity.ssh_maximum_authentication_attempts" facts).bind
    fun attempts =>
      some (passIf (attempts ≤ threshold), [.words "SSH 연결당 최대 인증 시도: ",
        .number attempts, .words "회, 허용 상한: ", .number threshold,
        .words "회"])).getD
    (toReview "SSH 최대 인증 시도: REST 증적 없음")

/-- N-05. -/
def rulePrivileges (facts : Facts) : Option Judgement :=
  (factInt "identity.builtin_role_count" facts).bind fun roles =>
  (factInt "identity.rbac_rule_count" facts).bind fun rules =>
  (factInt "identity.user_count" facts).bind fun users =>
  (factInt "identity.administrator_user_count" facts).bind
    fun administrators =>
  (factInt "identity.non_administrator_user_count" facts).bind
    fun nonAdministrators =>
  (factInt "identity.unknown_role_user_count" facts).bind fun unknownRoles =>
  some (passIf (2 ≤ roles ∧ 0 < users ∧ 0 < nonAdministrators ∧
      unknownRoles = 0),
    [.words "로컬 사용자: ", .number users, .words "개, 관리자: ",
      .number administrators, .words "개, 비관리자: ",
      .number nonAdministrators, .words "개, 기본 역할: ", .number roles,
      .words "개, 역할 미확인: ", .number unknownRoles,
      .words "개, 사용자 정의 RBAC 규칙: ", .number rules, .words "개"])

/-- N-06. -/
def ruleAllowlist (facts : Facts) : Judgement :=
  ((factBool "management.ssh_allowlist_enabled" facts).bind fun enabled =>
    (factInt "management.ssh_allowlist_count" facts).bind fun count =>
    some (if enabled ∧ 0 < count then
        (.pass, [.words "관리 접속 허용 목록: 활성화, 등록 대역: ",
          .number count, .words "개"])
      else (.fail, [.words "관리 접속 허용 목록: 비활성화 또는 비어 있음"]))).getD
    (toReview "관리 접속 허용 목록: REST 증적 없음")

/-- N-07. -/
def ruleTimeouts (facts : Facts) : Judgement :=
  ((factInt "management.cli_timeout_minutes" facts).bind fun cli =>
    (factInt "management.web_timeout_minutes" facts).bind fun web =>
    some (passIf (1 ≤ cli ∧ cli ≤ 10 ∧ 1 ≤ web ∧ web ≤ 10),
      [.words "CLI 유휴 제한: ", .number cli,
        .words "분, 웹 관리 유휴 제한: ", .number web, .words "분"])).getD
    (toReview "CLI·웹 관리 세션 제한: 한 개 이상 확인되지 않음")

/-- N-08. -/
def ruleProtocols (facts : Facts) : Judgement :=
  ((factBool "management.mgmt_ssh_enabled" facts).bind fun ssh =>
    (factInt "management.telnet_enabled_vrf_count" facts).bind fun telnet =>
    some (passIf (ssh ∧ telnet = 0),
      [.words "관리 VRF SSH: ", either ssh "활성화" "비활성화",
        .words ", Telnet 활성 VRF: ", .number telnet, .words "개"])).getD
    (toReview "관리 SSH·Telnet 상태: 일부 REST 증적 없음")

/-- N-09.  The state of Bluetooth is shown and does not count. -/
def ruleAuxiliaryPorts (facts : Facts) : Judgement :=
  ((factBool "management.usb_auxiliary_disabled" facts).bind fun usb =>
    (factBool "management.bluetooth_disabled" facts).bind fun bluetooth =>
    some (passIf usb,
      [.words "USB 보조 포트 차단: ", either usb "예" "아니요",
        .words ", Bluetooth 관리 차단: ", either bluetooth "예" "아니요"])).getD
    (toReview "USB 보조 포트·Bluetooth 관리 상태: REST 증적 없음")

/-- N-10. -/
def ruleBanner (facts : Facts) : Judgement :=
  ((factBool "management.login_banner_configured" facts).bind
    fun configured =>
    (factBool "management.login_banner_discloses_system_information"
      facts).bind fun discloses =>
    some (passIf (configured ∧ discloses = false),
      [.words "로그인 경고 배너: ", either configured "설정" "미설정",
        .words ", 시스템 식별정보 노출: ", either discloses "있음" "없음"])).getD
    (toReview "로그인 경고 배너: REST 증적 없음")

/-- N-11. -/
def ruleRemoteLog (facts : Facts) : Judgement :=
  ((factInt "logging.remote_server_count" facts).bind fun count =>
    some (passIf (0 < count),
      [.words "활성 원격 syslog 서버: ", .number count, .words "개"])).getD
    (toReview "활성 원격 syslog 서버: REST 증적 없음")

/-- N-12. -/
def rulePatches (facts : Facts) : Option Judgement :=
  (factText "platform.software_version" facts).bind fun version =>
  (factInt "platform.hot_patch_count" facts).bind fun patches =>
  some (.review,
    [.words "실행 소프트웨어: ", textPiece version,
      .words ", 설치 hot patch: ", .number patches,
      .words "개, 벤더 권고 검토 이력은 조직 증적 필요"])

/-- N-13. -/
def ruleLogBuffer (facts : Facts) : Option Judgement :=
  (factBool "logging.persistent_storage_configured" facts).bind
    fun persistent =>
  (factBool "logging.notification_threshold_configured" facts).bind
    fun threshold =>
  some (.review,
    [.words "로그 영구 저장 구성: ", either persistent "있음" "없음",
      .words ", 버퍼 임계 알림: ", either threshold "있음" "없음",
      .words ", 발생량 비교 필요"])

/-- N-14. -/
def ruleEventLogging (facts : Facts) : Judgement :=
  ((factInt "logging.remote_server_count" facts).bind fun remotes =>
    (factInt "logging.auditable_remote_server_count" facts).bind
      fun auditable =>
    some (passIf (0 < remotes ∧ auditable = remotes),
      [.words "활성 원격 syslog: ", .number remotes,
        .words "개, 감사·인증 이벤트 포함: ", .number auditable,
        .words "개"])).getD
    (toReview "원격 보안 이벤트 로깅: REST 증적 없음")

/-- N-15. -/
def ruleTimeSource (facts : Facts) : Judgement :=
  ((factBool "time.ntp_client_enabled" facts).bind fun enabled =>
    (factInt "time.ntp_server_count" facts).bind fun count =>
    some (passIf (enabled ∧ 0 < count),
      [.words "NTP client: ", either enabled "활성화" "비활성화",
        .words ", 구성 서버: ", .number count, .words "개"])).getD
    (toReview "NTP client·서버: 일부 REST 증적 없음")

/-- N-16. -/
def ruleTimestamps (facts : Facts) : Judgement :=
  ((factBool "logging.event_timestamp_present" facts).bind fun present =>
    some (passIf present,
      [.words "최근 이벤트 로그 timestamp: ",
        either present "확인" "확인되지 않음"])).getD
    (toReview "최근 이벤트 로그 timestamp: REST 증적 없음")

/-- N-17. -/
def ruleSnmpUse (facts : Facts) : Option Judgement :=
  (factInt "snmp.enabled_vrf_count" facts).bind fun count =>
  some (if count = 0 then (.pass, [.words "SNMP 활성 VRF: 0개"])
    else (.review, [.words "SNMP 활성 VRF: ", .number count,
      .words "개, 업무상 필요성 정책: 확인 필요"]))

/-- N-18. -/
def ruleCommunityStrings (facts : Facts) : Option Judgement :=
  let v3Only := factBool "snmp.v3_only" facts
  let communities := factInt "snmp.community_count" facts
  if v3Only = some true ∧ communities = some 0 then
    some (.pass, [.words "SNMPv3 전용: 활성화, v1/v2 community: 0개"])
  else match communities with
    | some count =>
        if 0 < count then
          some (.review, [.words "SNMP v1/v2 community: ", .number count,
            .words "개, 문자열 원문은 비수집"])
        else none
    | none => none

/-- N-19. -/
def ruleSnmpAccess (facts : Facts) : Option Judgement :=
  (factInt "snmp.enabled_vrf_count" facts).bind fun enabled =>
  if enabled = 0 then some (.pass, [.words "SNMP 활성 VRF: 0개"])
  else
    (factInt "snmp.non_management_vrf_count" facts).bind fun outside =>
    (factBool "snmp.v3_only" facts).bind fun v3Only =>
    (factInt "snmp.user_count" facts).bind fun users =>
    (factInt "snmp.secure_read_only_user_count" facts).bind fun secure =>
    some (passIf (v3Only ∧ 0 < users ∧ secure = users ∧ outside = 0),
      [.words "SNMP 활성 VRF: ", .number enabled, .words "개, 관리망 외: ",
        .number outside, .words "개, v3 전용: ", either v3Only "예" "아니요",
        .words ", 인증·암호화 읽기 전용 사용자: ", .number secure, .words "/",
        .number users, .words "개"])

/-- N-20. -/
def ruleCommunityRights (facts : Facts) : Option Judgement :=
  let v3Only := factBool "snmp.v3_only" facts
  let communities := factInt "snmp.community_count" facts
  if v3Only = some true ∧ communities = some 0 then
    some (.notApplicable,
      [.words "SNMPv3 전용 구성으로 v1/v2 community를 사용하지 않음"])
  else match communities with
    | some count =>
        some (.review, [.words "SNMP v1/v2 community: ", .number count,
          .words "개, 권한 원문은 비수집"])
    | none => none

/-- N-22. -/
def ruleSpoofing (facts : Facts) : Judgement :=
  ((factInt "network.routed_interface_count" facts).bind fun routed =>
    (factInt "network.source_lockdown_interface_count" facts).bind
      fun guarded =>
    if routed = 0 then none
    else some (passIf (guarded = routed),
      [.words "라우팅 인터페이스: ", .number routed,
        .words "개, source lockdown 적용: ", .number guarded,
        .words "개"])).getD
    (toReview "라우팅·경계 인터페이스의 source lockdown 적용 범위 확인 필요")

/-- N-23. -/
def ruleDenialOfService (facts : Facts) : Option Judgement :=
  (factBool "network.copp_effective_policy" facts).bind fun copp =>
  some (passIf copp,
    [.words "AOS-CX 유효 CoPP 정책: ", either copp "확인" "확인되지 않음"])

/-- N-24. -/
def ruleInterfaces (facts : Facts) : Judgement :=
  ((factInt "network.physical_interface_count" facts).bind fun physical =>
    (factInt "network.active_physical_interface_count" facts).bind
      fun active =>
    (factInt "network.active_undocumented_interface_count" facts).bind
      fun undocumented =>
    let observed := [.words "물리 인터페이스: ", .number physical,
      .words "개, 활성: ", .number active, .words "개, 활성·용도 미표시: ",
      .number undocumented, .words "개"]
    some (if physical = 0 then
        (.notApplicable, [.words "AOS-CX Virtual에 물리 데이터 포트가 없음"])
      else if 0 < undocumented then (.fail, observed)
      else if active = 0 then (.pass, observed)
      else (.review,
        observed ++ [.words ", 활성 포트의 실제 업무 용도대장 대조 필요"]))).getD
    (toReview "물리 인터페이스 관리 상태·설명: REST 증적 없음")

/-- N-27. -/
def ruleWebManagement (facts : Facts) : Judgement :=
  ((factInt "management.https_enabled_vrf_count" facts).bind fun enabled =>
    (factInt "management.https_non_management_vrf_count" facts).bind
      fun outside =>
    some (passIf (outside = 0),
      [.words "HTTPS 관리 활성 VRF: ", .number enabled,
        .words "개, 관리망 외 활성 VRF: ", .number outside, .words "개"])).getD
    (toReview "HTTPS 관리 활성 VRF: REST 증적 없음")

/-- The modes of N-30 that are safe. -/
def disabledModes : List (List Char) :=
  ["disable".toList, "disabled".toList, "off".toList]

/-- N-30. -/
def ruleDiscovery (library : Library) (facts : Facts) : Option Judgement :=
  (factText "discovery.cdp_mode" facts).bind fun mode =>
  let normalized := mode.map (casefold library.toCharacterDatabase)
  some (passIf (normalized.any (· ∈ disabledModes)),
    [.words "CDP 동작 모드: ", textPiece normalized])

/-- N-31, N-33 and N-36: a number that has to be zero. -/
def ruleNone (key before : String) (facts : Facts) : Option Judgement :=
  (factInt key facts).bind fun count =>
  some (passIf (count = 0), [.words before, .number count, .words "개"])

/-- N-34. -/
def ruleIcmp (facts : Facts) : Option Judgement :=
  (factBool "network.icmp_unreachable_disabled" facts).bind
    fun unreachable =>
  (factBool "network.icmp_redirect_disabled" facts).bind fun redirect =>
  some (passIf (unreachable ∧ redirect),
    [.words "ICMP unreachable 차단: ", either unreachable "예" "아니요",
      .words ", redirect 차단: ", either redirect "예" "아니요"])

/-- The branches of `_evaluate_device` behind the one for AOS-CX. -/
def judge (library : Library) (definition : NetworkControlDefinition)
    (profile : Option KisaNetworkAssessmentProfile) (facts : Facts) :
    Judgement :=
  let orElse (reading : Option Judgement) :=
    reading.getD (undetermined definition)
  match definition.number with
  | 1 => simpleBoolean "auth.admin_password_set" "관리자 비밀번호 인증: 성공"
      "관리자 비밀번호 인증: 실패" facts
  | 2 => simpleBoolean "identity.password_complexity_enabled"
      "비밀번호 복잡성 기능: 활성화" "비밀번호 복잡성 기능: 비활성화" facts
  | 3 => simpleBoolean "identity.password_storage_encrypted"
      "AOS-CX 비밀번호 평문 미노출·보호 저장 방식: 확인" "비밀번호 암호화 저장: 확인 실패" facts
  | 4 => ruleLockThreshold
      ((profile.map (·.loginFailureLockThreshold)).getD 5) facts
  | 5 => orElse (rulePrivileges facts)
  | 6 => ruleAllowlist facts
  | 7 => ruleTimeouts facts
  | 8 => ruleProtocols facts
  | 9 => ruleAuxiliaryPorts facts
  | 10 => ruleBanner facts
  | 11 => ruleRemoteLog facts
  | 12 => orElse (rulePatches facts)
  | 13 => orElse (ruleLogBuffer facts)
  | 14 => ruleEventLogging facts
  | 15 => ruleTimeSource facts
  | 16 => ruleTimestamps facts
  | 17 => orElse (ruleSnmpUse facts)
  | 18 => orElse (ruleCommunityStrings facts)
  | 19 => orElse (ruleSnmpAccess facts)
  | 20 => orElse (ruleCommunityRights facts)
  | 22 => ruleSpoofing facts
  | 23 => orElse (ruleDenialOfService facts)
  | 24 => ruleInterfaces facts
  | 27 => ruleWebManagement facts
  | 30 => orElse (ruleDiscovery library facts)
  | 31 => orElse (ruleNone "network.directed_broadcast_enabled_count"
      "Directed broadcast 활성 인터페이스: " facts)
  | 33 => orElse (ruleNone "network.proxy_arp_enabled_count"
      "Proxy ARP 활성 인터페이스: " facts)
  | 34 => orElse (ruleIcmp facts)
  | 36 => orElse (ruleNone "network.dns_server_count"
      "구성된 DNS name server: " facts)
  | _ => undetermined definition

/-- `facts.get("platform.family") == "AOS-CX"`. -/
def isAosCx (facts : Facts) : Bool :=
  decide (facts "platform.family" = some (.text "AOS-CX".toList))

def evaluateDevice (library : Library)
    (definition : NetworkControlDefinition)
    (profile : Option KisaNetworkAssessmentProfile) (facts : Facts) :
    Judgement :=
  match aosCxNotApplicable definition.number with
  | some service =>
      if isAosCx facts then
        (.notApplicable, [.words "AOS-CX v10.13 비지원·비적용 기능: ",
          .words service])
      else judge library definition profile facts
  | none => judge library definition profile facts

/-! ## Results -/

/-- Where a judgement comes from. -/
inductive JudgementSource where
  | deviceRule
  | organizationInput

def evaluate (library : Library) (definition : NetworkControlDefinition)
    (facts : Facts) (profile : Option KisaNetworkAssessmentProfile) :
    AssessmentStatus × Observed × JudgementSource :=
  let (deviceStatus, observed) :=
    evaluateDevice library definition profile facts
  if deviceStatus = .review then
    match profile.bind (·.supplementalStatus definition.number) with
    | some supplemental => (supplemental, observed, .organizationInput)
    | none => (deviceStatus, observed, .deviceRule)
  else (deviceStatus, observed, .deviceRule)

def chosenCriterion (profile : KisaNetworkAssessmentProfile) :
    CriteriaInput → Observed
  | .integer _ _ => [.words " · 선택한 조직 기준: ",
      .number profile.loginFailureLockThreshold, .words "회 이하"]
  | .boolean criterion => [.words " · 선택한 조직 기준: ",
      either (profile.required criterion) "필수 적용" "조직 예외 검토"]

def statusLabel : AssessmentStatus → String
  | .pass => "충족"
  | .fail => "미충족"
  | .review => "확인 필요"
  | .notApplicable => "해당 없음"
  | .error => "수집 오류"

def expectedSummary (definition : NetworkControlDefinition)
    (profile : Option KisaNetworkAssessmentProfile) : Observed :=
  [.words "KISA 2026 p.", .words definition.sourcePages, .words " · ",
    .words definition.safeCriterion] ++
  (match profile, criteriaFieldByControl definition.number with
    | some profile, some field => chosenCriterion profile field.input
    | _, _ => []) ++
  match profile.bind (·.supplementalStatus definition.number) with
  | some supplemental =>
      [.words " · 조직 보완 판정: ", .words (statusLabel supplemental),
        .words " (장비 수집값 아님)"]
  | none => []

def resultSuffix : AssessmentStatus → String
  | .pass => "COMPLIANT"
  | .fail => "NON_COMPLIANT"
  | .review => "EVIDENCE_REVIEW"
  | .notApplicable => "NOT_APPLICABLE"
  | .error => "COLLECTION_ERROR"

def resultCode (definition : NetworkControlDefinition)
    (status : AssessmentStatus) (source : JudgementSource) : List Char :=
  numberedId '_' definition.number ++ '_' :: (resultSuffix status).toList ++
    match source with
    | .organizationInput => "_ORGANIZATION_INPUT".toList
    | .deviceRule => []

def actionGuidance (status : AssessmentStatus) : JudgementSource → String
  | .organizationInput =>
      "이 판정은 장비 수집값이 아닌 조직 보완 판정 입력을 사용했습니다. " ++
      "실제 조직 증적에 맞게 입력값을 검토하고 장비 확인값과 함께 관리하세요."
  | .deviceRule =>
      if status = .review then
        "장비 설정을 변경하기 전에 현재 관리 접속을 보존하고, KISA 기준과 " ++
        "제조사 절차에 따라 추가 증적을 확인하세요."
      else
        "현재 관리 접속을 보존한 상태에서 KISA 기준과 " ++
        "제조사 절차에 따라 설정을 검토하세요."

def networkEvidence (definition : NetworkControlDefinition)
    (observed : List Char) (canonicalBytes : List UInt8)
    (capturedAt : DateTime) : EvidenceArguments :=
  { probeId := "aruba.rest-kisa-network-projection".toList
    probeVersion := "3.0.0-DRAFT".toList
    methodCode := "NETWORK_REST_FIXED_GET".toList
    methodSummary := ("인증서 고정 AOS-CX REST에서 승인된 GET만 실행하고 " ++
      "비식별 사실로 축소합니다.").toList
    sourceLabel := "AOS-CX 구조화 보안 설정".toList
    technicalLocator := "AOS-CX v10.13 REST projection · ".toList ++
      definition.controlId
    observedSummary := observed
    collectedAt := capturedAt
    collectionStatus := .collected
    rawOutput := canonicalBytes
    redactionApplied := true
    normalizedValue := none }

/-- One pass of the loop of `evaluate_kisa_network_controls`. -/
def controlResult (library : Library) (facts : Facts)
    (canonicalBytes : List UInt8) (capturedAt : DateTime)
    (profile : Option KisaNetworkAssessmentProfile)
    (definition : NetworkControlDefinition) :
    Except EvidenceFault DeviceControlResult := do
  let (status, pieces, source) := evaluate library definition facts profile
  let observed ← pieces.written
  let trace ← EvidenceTrace.build library
    (networkEvidence definition observed canonicalBytes capturedAt)
  let expected ← (expectedSummary definition profile).written
  return {
    controlId := definition.controlId
    title := definition.title.toList
    status := status
    resultCode := resultCode definition status source
    expectedSummary := expected
    observedSummary := observed
    actionGuidance := (actionGuidance status source).toList
    evidence := [trace] }

def evaluateKisaNetworkControls (library : Library) (facts : Facts)
    (canonicalBytes : List UInt8) (capturedAt : DateTime)
    (profile : Option KisaNetworkAssessmentProfile) :
    Except EvidenceFault (List DeviceControlResult) :=
  kisaNetworkControls.mapM
    (controlResult library facts canonicalBytes capturedAt profile)

end SecAI.Platforms
