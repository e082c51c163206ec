/-
Module: SecAI.LiveDraft.Administrator
Purpose: The decisions on an observation, by the selected criteria, on what an
  administrator collected, and on additional criteria.  What a control reads
  of its records is one function, what it concludes another.
Trusted boundary: as in the contracts of the live draft; where a record and a
  criterion are both at fault, the fault of the record is raised (the callers
  treat every fault alike); only comparisons that can be reached are here
Main exports:
  verdict, openDecision, bootDecision, liveAdministratorDecision
-/
import SecAI.LiveDraft.Contracts

namespace SecAI.LiveDraft

open SecAI.Collector (ProbeObservation)
open SecAI.Criteria (CriteriaValue CriteriaValues)
open SecAI.Rules.Registry (Piece either)
open SecAI.Text

/-- A verdict of a comparison; the texts are printed first. -/
def verdict (passed : Bool) (actual expected : List Piece)
    (explanation passCode failCode : String) : Except LiveFault LiveDecision := do
  let actual ← printed actual
  let expected ← printed expected
  return {
    status := if passed then "PASS" else "FAIL"
    actual := actual
    expected := expected
    explanation := some explanation
    resultCode := if passed then passCode else failCode }

/-- A comparison that the selected scope leaves open. -/
def openDecision (actual expected explanation resultCode : String) :
    LiveDecision :=
  { status := "REVIEW"
    actual := actual
    expected := expected
    explanation := some explanation
    resultCode := resultCode }

/-- What PC-02 reads of its record. -/
structure PasswordReading where
  length : Int
  complexity : Bool
  passwordRequired : Bool

/-- The record of PC-02. -/
def readPasswords (observation : ProbeObservation) :
    Except LiveFault PasswordReading := do
  let value ← firstRecord observation
  let length ← nonNegativeInteger (valueAt value "minimum_password_length")
    "Minimum password length"
  match valueAt value "complexity_enabled", valueAt value "password_required" with
  | .bool complexity, .bool passwordRequired =>
      return ⟨length, complexity, passwordRequired⟩
  | _, _ => .error (.regression "Password policy values are incomplete.")

/-- The criteria of PC-02. -/
structure PasswordCriteria where
  minimum : Int
  requireComplexity : Bool
  requirePassword : Bool

/-- The values of PC-02. -/
def passwordCriteria (values : CriteriaValues) :
    Except LiveFault PasswordCriteria := do
  let minimum ← criterionAt values "password_minimum_length"
  let requireComplexity ← criterionAt values "password_complexity_required"
  let requirePassword ← criterionAt values "password_required"
  match minimum, requireComplexity, requirePassword with
  | .int minimum, .bool requireComplexity, .bool requirePassword =>
      return ⟨minimum, requireComplexity, requirePassword⟩
  | _, _, _ => .error (.regression "Password policy values are incomplete.")

def PasswordReading.meets (reading : PasswordReading)
    (criteria : PasswordCriteria) : Bool :=
  decide (criteria.minimum ≤ reading.length) &&
    (!criteria.requireComplexity || reading.complexity) &&
    (!criteria.requirePassword || reading.passwordRequired)

/-- PC-02. -/
def passwordDecision (values : CriteriaValues)
    (observation : ProbeObservation) : Except LiveFault LiveDecision := do
  let reading ← readPasswords observation
  let criteria ← passwordCriteria values
  let passed := reading.meets criteria
  verdict passed
    [.literal "최소 ", .number reading.length, .literal "자, 복잡성 ",
      either reading.complexity "사용" "사용 안 함", .literal ", 비밀번호 ",
      either reading.passwordRequired "사용" "사용 안 함"]
    [.literal "최소 ", selectedNumber criteria.minimum, .literal "자, 복잡성 ",
      either criteria.requireComplexity "필수" "선택", .literal ", 비밀번호 ",
      either criteria.requirePassword "필수" "선택"]
    (if passed then "선택된 비밀번호 기준을 모두 충족합니다."
      else "선택된 비밀번호 기준 중 충족하지 못한 설정이 있습니다.")
    "PASSWORD_POLICY_MEETS_SELECTED_CRITERIA"
    "PASSWORD_POLICY_BELOW_SELECTED_CRITERIA"

/-- What PC-04 reads of its records. -/
structure ShareReading where
  shareCount : Int
  adminCount : Int
  everyoneCount : Int
  broadWriteCount : Int
  autoShareDisabled : Bool
  shareHashes : List (List Char)

def readShare (item : Json) : Except LiveFault (List Char) :=
  match valueAt item "share_name_sha256", valueAt item "everyone_full_access",
      valueAt item "broad_write_access" with
  | .str shareHash, .bool _, .bool _ =>
      if shareHash.toList.length = 64 ∧
          shareHash.toList.all fun character =>
            decide (character ∈ "0123456789abcdef".toList) then
        .ok shareHash.toList
      else .error (.regression "Share detail is invalid.")
  | _, _, _ => .error (.regression "Share detail is invalid.")

/-- The records of PC-04. -/
def readShares (observation : ProbeObservation) :
    Except LiveFault ShareReading := do
  let summary ← summaryRecord observation
  let shareCount ← nonNegativeInteger (valueAt summary "share_count")
    "Share count"
  let regularCount ← nonNegativeInteger
    (valueAt summary "regular_share_count") "Regular share count"
  let adminCount ← nonNegativeInteger
    (valueAt summary "default_admin_share_count") "Administrator share count"
  let everyoneCount ← nonNegativeInteger
    (valueAt summary "unrestricted_everyone_share_count")
    "Everyone share count"
  let broadWriteCount ← nonNegativeInteger
    (valueAt summary "broad_write_share_count") "Broad write share count"
  let autoShareDisabled ← match valueAt summary "auto_share_wks_disabled" with
    | .bool disabled => pure disabled
    | _ => .error (.regression "Automatic share policy is incomplete.")
  let details := recordsOfType "REGULAR_SHARE" observation
  demand (regularCount = details.length ∧
    regularCount + adminCount ≤ shareCount)
    "Share inventory coverage is incomplete."
  let shareHashes ← details.mapM readShare
  return ⟨shareCount, adminCount, everyoneCount, broadWriteCount,
    autoShareDisabled, shareHashes⟩

/-- `sha256(item.lower().encode("utf-8")).hexdigest()`. -/
def approvedHash (env : LiveEnvironment) (name : List CodePoint) :
    Except LiveFault (List Char) :=
  if Decoded.isScalarText (env.lower name) then
    .ok (env.criteria.sha256 (env.lower name))
  else .error .value

def approvedShares (values : CriteriaValues) :
    Except LiveFault (List (List CodePoint)) := do
  criteriaSequence (← criterionAt values "approved_share_ids")

/-- `len(observed_hashes - approved_hashes)`. -/
def unapprovedCount (observed approved : List (List Char)) : Nat :=
  (observed.dedup.filter fun hash => decide (hash ∉ approved)).length

def ShareReading.meets (reading : ShareReading)
    (approved : List (List Char)) : Bool :=
  decide (reading.adminCount = 0) && decide (reading.everyoneCount = 0) &&
    decide (reading.broadWriteCount = 0) &&
    decide (unapprovedCount reading.shareHashes approved = 0) &&
    reading.autoShareDisabled

/-- PC-04. -/
def shareDecision (env : LiveEnvironment) (values : CriteriaValues)
    (observation : ProbeObservation) : Except LiveFault LiveDecision := do
  let reading ← readShares observation
  let approved ← approvedShares values
  let hashes ← approved.mapM (approvedHash env)
  verdict (reading.meets hashes)
    [.literal "공유 ", .number reading.shareCount,
      .literal "개, 승인되지 않은 업무 공유 ",
      counted (unapprovedCount reading.shareHashes hashes),
      .literal "개, 기본 관리자 공유 ", .number reading.adminCount,
      .literal "개, 광범위 쓰기 공유 ", .number reading.broadWriteCount,
      .literal "개"]
    [.literal "승인 공유 ", counted approved.length,
      .literal ("개 범위 안에서 기본 관리자 공유·" ++
        "Everyone 무제한·광범위 쓰기 권한이 없고 자동 관리 공유가 비활성")]
    "공유별 비식별 확인값과 접근 권한을 선택 기준에 대조했습니다."
    "SHARES_MEET_SELECTED_CRITERIA"
    "UNAPPROVED_OR_UNRESTRICTED_SHARE_FOUND"

/-- A service of the inventory. -/
structure Service where
  key : List CodePoint
  state : String
  startMode : String

def serviceStates : List String :=
  ["RUNNING", "STOPPED", "STARTPENDING", "STOPPENDING", "CONTINUEPENDING",
    "PAUSEPENDING", "PAUSED", "UNKNOWN"]

def startModes : List String :=
  ["BOOT", "SYSTEM", "AUTO", "MANUAL", "DISABLED", "UNKNOWN"]

/-- A record of PC-05, under its folded key. -/
def readService (env : LiveEnvironment) (item : Json) :
    Except LiveFault Service :=
  match valueAt item "service_key", valueAt item "state",
      valueAt item "start_mode" with
  | .str serviceKey, .str state, .str startMode =>
      if serviceKey = "" ∨ state ∉ serviceStates ∨ startMode ∉ startModes then
        .error (.regression "Service inventory record is invalid.")
      else .ok ⟨foldedText env.criteria serviceKey, state, startMode⟩
  | _, _, _ => .error (.regression "Service inventory record is invalid.")

def addService (env : LiveEnvironment) (byKey : List Service) (item : Json) :
    Except LiveFault (List Service) := do
  let service ← readService env item
  demand (service.key ∉ byKey.map Service.key)
    "Service inventory is duplicated."
  return byKey ++ [service]

/-- `by_key`. -/
def readServices (env : LiveEnvironment) (observation : ProbeObservation) :
    Except LiveFault (List Service) :=
  observation.records.foldlM (addService env) []

/-- `values["unnecessary_service_ids"]`, which must not be empty. -/
def serviceTargets (values : CriteriaValues) :
    Except LiveFault (List (List CodePoint)) := do
  let targets ← criteriaSequence
    (← criterionAt values "unnecessary_service_ids")
  demand (targets ≠ []) "Unnecessary service scope is empty."
  return targets

/-- `by_key.get(target.casefold())`, for each target that is there. -/
def matchedServices (env : LiveEnvironment) (byKey : List Service)
    (targets : List (List CodePoint)) : List Service :=
  targets.filterMap fun target => byKey.find? fun service =>
    decide (service.key = Criteria.casefoldPoints env.criteria target)

def Service.isRunning (service : Service) : Bool :=
  decide (service.state = "RUNNING")

def Service.isAutomatic (service : Service) : Bool :=
  decide (service.startMode ∈ ["AUTO", "BOOT", "SYSTEM"])

/-- PC-05. -/
def serviceDecision (env : LiveEnvironment) (values : CriteriaValues)
    (observation : ProbeObservation) : Except LiveFault LiveDecision := do
  let targets ← serviceTargets values
  let byKey ← readServices env observation
  let found := matchedServices env byKey targets
  let running := found.countP Service.isRunning
  let automatic := found.countP Service.isAutomatic
  verdict (decide (running = 0) && decide (automatic = 0))
    [.literal "불필요 서비스 기본 범위 ", counted targets.length,
      .literal "개 대조, 실행 ", counted running, .literal "개, 자동 시작 ",
      counted automatic, .literal "개"]
    [.literal "선택 기준의 불필요 서비스가 실행 중이 아니고 자동 시작이 아님"]
    ("현재 Windows 서비스 목록을 기본·조직·개인 기준의 실제 서비스 " ++
      "식별자와 대조했습니다.")
    "UNNECESSARY_SERVICES_STOPPED" "UNNECESSARY_SERVICE_RUNNING_OR_AUTOMATIC"

/-- A messenger that was found. -/
structure Messenger where
  catalogId : String
  displayName : String
  installed : Bool
  running : Bool

/-- A match of PC-06. -/
def readMessenger (item : Json) : Except LiveFault Messenger := do
  let confident ← isIn ["HIGH", "LOW"] (valueAt item "match_confidence")
  match valueAt item "catalog_id", valueAt item "display_name",
      valueAt item "installed", valueAt item "running" with
  | .str catalogId, .str displayName, .bool installed, .bool running =>
      demand (catalogId ≠ "" ∧ displayName ≠ "" ∧ confident = true ∧
        (installed || running) = true) "Messenger match is invalid."
      return ⟨catalogId, displayName, installed, running⟩
  | _, _, _, _ => .error (.regression "Messenger match is invalid.")

/-- What PC-06 reads of its records. -/
structure MessengerReading where
  installedCount : Int
  lowConfidence : Int
  found : List Messenger

/-- `approved_products`; the set drops what it holds already. -/
def approvedProducts (env : LiveEnvironment) (values : CriteriaValues) :
    Except LiveFault (List (List CodePoint)) := do
  let names ← criteriaSequence
    (← criterionAt values "approved_messenger_products")
  return (names.map (Criteria.casefoldPoints env.criteria)).dedup

/-- The records of PC-06. -/
def readMessengers (observation : ProbeObservation) :
    Except LiveFault MessengerReading := do
  let summary ← summaryRecord observation
  let installedCount ← nonNegativeInteger
    (valueAt summary "installed_product_count") "Installed product count"
  let catalogCount ← nonNegativeInteger
    (valueAt summary "messenger_catalog_count") "Messenger catalog count"
  let detectedCount ← nonNegativeInteger
    (valueAt summary "detected_messenger_product_count")
    "Detected messenger count"
  let runningCount ← nonNegativeInteger
    (valueAt summary "running_messenger_product_count")
    "Running messenger count"
  let lowConfidence ← nonNegativeInteger
    (valueAt summary "low_confidence_match_count") "Low confidence count"
  let matched := recordsOfType "MESSENGER_MATCH" observation
  demand (detectedCount = matched.length ∧ catalogCount ≠ 0)
    "Messenger catalog coverage is incomplete."
  let found ← matched.mapM readMessenger
  demand (runningCount = found.countP Messenger.running)
    "Messenger running count is inconsistent."
  return ⟨installedCount, lowConfidence, found⟩

def Messenger.isUnapproved (env : LiveEnvironment)
    (approved : List (List CodePoint)) (messenger : Messenger) : Bool :=
  decide (foldedText env.criteria messenger.catalogId ∉ approved) &&
    decide (foldedText env.criteria messenger.displayName ∉ approved)

/-- PC-06. -/
def messengerDecision (env : LiveEnvironment) (values : CriteriaValues)
    (observation : ProbeObservation) : Except LiveFault LiveDecision := do
  let reading ← readMessengers observation
  let approved ← approvedProducts env values
  if reading.lowConfidence ≠ 0 then do
    let actual ← printed [.literal "메신저 후보 ",
      .number reading.lowConfidence,
      .literal "개의 식별 신뢰도가 부족합니다"]
    return liveEvidenceError "PC-06" actual
  else do
    let unapproved := reading.found.filter (Messenger.isUnapproved env approved)
    let detectedText ← countWithNames env.toRegistryEnvironment "메신저"
      (reading.found.map Messenger.displayName)
    let runningText ← countWithNames env.toRegistryEnvironment "실행"
      ((reading.found.filter Messenger.running).map Messenger.displayName)
    let unapprovedText ← countWithNames env.toRegistryEnvironment "미승인"
      (unapproved.map Messenger.displayName)
    verdict unapproved.isEmpty
      [.literal "설치 제품 ", .number reading.installedCount,
        .literal ("개 중 " ++ detectedText ++ ", " ++ runningText ++ ", " ++
          unapprovedText)]
      [.literal "승인 메신저 ", counted approved.length,
        .literal "개 외 설치·실행 제품 없음"]
      "고정 메신저 제품 목록의 비실행형 식별 결과를 선택 기준과 대조했습니다."
      "MESSENGERS_MEET_SELECTED_CRITERIA" "UNAPPROVED_MESSENGER_FOUND"

open SecAI.Rules.Registry (Piece RegistryEnvironment either wholeHours)

/-- `values[key]`, which must be an integer. -/
def numberAt (values : CriteriaValues) (key message : String) :
    Except LiveFault Int := do
  match ← criterionAt values key with
  | .int number => return number
  | _ => .error (.regression message)

/-- `values[key]`, which must be a truth value. -/
def flagAt (values : CriteriaValues) (key message : String) :
    Except LiveFault Bool := do
  match ← criterionAt values key with
  | .bool flag => return flag
  | _ => .error (.regression message)

/-- What PC-10 reads of its record. -/
structure UpdateReading where
  historyCount : Int
  successfulCount : Int
  latest : Json
  automaticUpdates : Bool
  restartPending : Bool

/-- `value.get("successful_install_history_count", …)`. -/
def successfulCountOf (value : Json) : Json :=
  (value.member "successful_install_history_count").getD <|
    match valueAt value "latest_history_at" with
    | .str _ => .int 1
    | _ => .int 0

/-- The record of PC-10. -/
def readUpdates (observation : ProbeObservation) :
    Except LiveFault UpdateReading := do
  let value ← firstRecord observation
  let historyCount ← nonNegativeInteger (valueAt value "history_record_count")
    "Update history count"
  let successfulCount ← nonNegativeInteger (successfulCountOf value)
    "Successful update history count"
  match valueAt value "automatic_updates_enabled",
      valueAt value "restart_pending" with
  | .bool automaticUpdates, .bool restartPending =>
      demand (successfulCount ≤ historyCount)
        "Update compliance evidence is incomplete."
      return ⟨historyCount, successfulCount, valueAt value "latest_history_at",
        automaticUpdates, restartPending⟩
  | _, _ => .error (.regression "Update compliance evidence is incomplete.")

/-- `max(0, (observed_at - latest_at).days)`. -/
def ageInDays (env : RegistryEnvironment) (latest collectedAt : String) :
    Except LiveFault Int := do
  let latestAt ← readInstant env latest
  let observedAt ← readInstant env collectedAt
  return max 0 ((observedAt - latestAt) / 86400000000)

def UpdateReading.meets (reading : UpdateReading) (age maximum : Int) : Bool :=
  decide (age ≤ maximum) && reading.automaticUpdates && !reading.restartPending

/-- PC-10. -/
def updateDecision (env : LiveEnvironment) (values : CriteriaValues)
    (observation : ProbeObservation) : Except LiveFault LiveDecision := do
  let reading ← readUpdates observation
  let maximum ← numberAt values "security_update_maximum_age_days"
    "Update compliance evidence is incomplete."
  if reading.successfulCount = 0 then
    if reading.latest = .null then
      verdict false
        [.literal "Windows 업데이트 이력 ", .number reading.historyCount,
          .literal "개 중 성공한 설치 이력이 없습니다"]
        [.literal "최근 성공 업데이트 ", selectedNumber maximum,
          .literal "일 이내, 자동 업데이트 사용, 재시작 대기 없음"]
        ("업데이트 자료는 정상 수집됐지만 성공한 설치 이력이 없어 " ++
          "보수적으로 취약으로 판정했습니다.")
        "UPDATE_COMPLIANCE_MEETS_SELECTED_CRITERIA"
        "NO_SUCCESSFUL_UPDATE_HISTORY"
    else .error (.regression "Update compliance evidence is inconsistent.")
  else
    match reading.latest with
    | .str latest => do
        let age ← ageInDays env.toRegistryEnvironment latest
          observation.collectedAt
        verdict (reading.meets age maximum)
          [.literal "최근 성공 업데이트 이후 ", .number age,
            .literal "일, 자동 업데이트 ",
            either reading.automaticUpdates "사용" "사용 안 함",
            .literal ", 재시작 대기 ",
            either reading.restartPending "있음" "없음"]
          [.literal "최근 성공 업데이트 ", selectedNumber maximum,
            .literal "일 이내, 자동 업데이트 사용, 재시작 대기 없음"]
          ("성공한 Windows 업데이트 이력과 자동 업데이트·재시작 대기 상태를 " ++
            "선택 기준에 대조했습니다.")
          "UPDATE_COMPLIANCE_MEETS_SELECTED_CRITERIA"
          "UPDATE_COMPLIANCE_BELOW_SELECTED_CRITERIA"
    | _ => .error (.regression "Update compliance evidence is incomplete.")

/-- What PC-13 reads of its record. -/
structure AntivirusReading where
  present : Bool
  active : Bool
  serviceEnabled : Bool
  healthy : Bool
  productName : String
  signatureVersion : String
  updated : Json

/-- The record of PC-13. -/
def readAntivirus (observation : ProbeObservation) :
    Except LiveFault AntivirusReading := do
  let value ← firstRecord observation
  match valueAt value "product_present", valueAt value "service_enabled",
      valueAt value "product_name", valueAt value "signature_version" with
  | .bool present, .bool serviceEnabled, .str productName,
      .str signatureVersion =>
      demand (productName ≠ "" ∧ signatureVersion ≠ "")
        "Antivirus update evidence is incomplete."
      return {
        present := present
        active := decide (valueAt value "product_state" = .str "ACTIVE")
        serviceEnabled := serviceEnabled
        healthy := decide (valueAt value "health_state" = .str "HEALTHY")
        productName := productName
        signatureVersion := signatureVersion
        updated := valueAt value "signature_updated_at" }
  | _, _, _, _ =>
      .error (.regression "Antivirus update evidence is incomplete.")

/-- `max(0, int((observed_at - updated_at).total_seconds() // 3600))`. -/
def ageInHours (env : RegistryEnvironment) (updated : Json)
    (collectedAt : String) : Except LiveFault Int :=
  match updated with
  | .str updated => do
      let updatedAt ← readInstant env updated
      let observedAt ← readInstant env collectedAt
      demand (updatedAt ≤ observedAt)
        "Antivirus signature timestamp is invalid."
      return max 0 (wholeHours updatedAt observedAt)
  | _ => .error (.regression "Antivirus signature timestamp is missing.")

def AntivirusReading.meets (reading : AntivirusReading) (age maximum : Int) :
    Bool :=
  reading.active && reading.serviceEnabled && reading.healthy &&
    decide (age ≤ maximum)

/-- PC-13. -/
def antivirusDecision (env : LiveEnvironment) (values : CriteriaValues)
    (observation : ProbeObservation) : Except LiveFault LiveDecision := do
  let reading ← readAntivirus observation
  let maximum ← numberAt values "antivirus_signature_maximum_age_hours"
    "Antivirus update evidence is incomplete."
  if reading.present = false then
    verdict false [.literal "확인된 백신이 없습니다"]
      [.literal "활성 백신과 ", selectedNumber maximum,
        .literal "시간 이내 갱신된 서명"]
      "백신 설치 상태를 제품 기본 범위와 비교했습니다."
      "ANTIVIRUS_SIGNATURE_MEETS_DEFAULT_SCOPE"
      "ANTIVIRUS_NOT_INSTALLED_FOR_DEFAULT_SCOPE"
  else do
    let age ← ageInHours env.toRegistryEnvironment reading.updated
      observation.collectedAt
    verdict (reading.meets age maximum)
      [.literal (reading.productName ++ ", 서명 " ++ reading.signatureVersion ++
          ", 마지막 갱신 "), .number age, .literal "시간 전, 백신 ",
        either (reading.active && reading.serviceEnabled) "활성" "비활성"]
      [.literal "활성·정상 백신과 ", selectedNumber maximum,
        .literal "시간 이내 갱신된 서명"]
      ("실제 Defender 활성·정상 상태와 서명 갱신 시각을 SecAI 제품 기본값에 " ++
        "비교했습니다. 자동 갱신 설정을 추정하지 않습니다.")
      "ANTIVIRUS_SIGNATURE_MEETS_DEFAULT_SCOPE"
      "ANTIVIRUS_SIGNATURE_BELOW_DEFAULT_SCOPE"

/-- What PC-09 reads of its record. -/
structure WininetReading where
  applicability : String
  emptyCacheOnExit : Json

/-- The record of PC-09. -/
def readWininet (observation : ProbeObservation) :
    Except LiveFault WininetReading := do
  let value ← firstRecord observation
  let known ← isIn ["APPLICABLE", "NOT_APPLICABLE", "UNKNOWN"]
    (valueAt value "applicability")
  match known, valueAt value "applicability" with
  | true, .str applicability =>
      return ⟨applicability, valueAt value "empty_cache_on_exit"⟩
  | _, _ => .error (.regression "WinINet policy evidence is incomplete.")

/-- `None` or a truth value. -/
def isNullOrFlag : Json → Bool
  | .null | .bool _ => true
  | _ => false

def WininetReading.meets (reading : WininetReading) : Bool :=
  decide (reading.applicability = "APPLICABLE") &&
    decide (reading.emptyCacheOnExit = .bool true)

/-- PC-09. -/
def wininetDecision (values : CriteriaValues)
    (observation : ProbeObservation) : Except LiveFault LiveDecision := do
  let reading ← readWininet observation
  let accepted ← flagAt values "wininet_current_user_scope_accepted"
    "WinINet policy evidence is incomplete."
  if accepted = false then
    return openDecision "현재 로그인 사용자의 WinINet 설정을 확인했습니다"
      "이번 점검에서 판정할 사용자 범위 선택"
      "현재 사용자 범위를 적용하지 않도록 선택해 판정을 보류했습니다."
      "WININET_SELECTED_SCOPE_REQUIRED"
  else if reading.applicability = "NOT_APPLICABLE" then
    return {
      status := "N/A"
      actual := "현재 로그인 사용자는 WinINet 캐시 정책을 사용하지 않습니다"
      expected := "WinINet 사용 시 종료할 때 임시 파일 삭제"
      explanation := some "현재 사용자 기본 범위에서 적용 대상이 아닙니다."
      resultCode := "WININET_NOT_APPLICABLE_TO_SELECTED_SCOPE" }
  else do
    demand (isNullOrFlag reading.emptyCacheOnExit = true)
      "WinINet cache policy value is invalid."
    verdict reading.meets
      [either reading.meets "현재 로그인 사용자의 종료 시 캐시 삭제 설정 사용"
        "현재 로그인 사용자의 종료 시 캐시 삭제 설정이 명확히 적용되지 않음"]
      [.literal "현재 로그인 사용자에서 WinINet 종료 시 임시 파일 삭제 사용"]
      "현재 로그인 사용자라는 제품 기본 범위의 실제 설정을 판정했습니다."
      "WININET_CACHE_DELETE_MEETS_SELECTED_SCOPE"
      "WININET_CACHE_DELETE_NOT_CONFIGURED"

/-- What PC-16 reads of its record; no timeout is configured for `none`. -/
structure ScreenSaverReading where
  active : Bool
  secure : Bool
  seconds : Option Int

def switchTexts : List String := ["0", "1", "MISSING"]

/-- The record of PC-16. -/
def readScreenSaver (observation : ProbeObservation) :
    Except LiveFault ScreenSaverReading := do
  let value ← firstRecord observation
  let knownActive ← isIn switchTexts (valueAt value "screen_save_active")
  demand (knownActive = true) "Screen saver policy evidence is incomplete."
  let knownSecure ← isIn switchTexts (valueAt value "screen_saver_is_secure")
  demand (knownSecure = true) "Screen saver policy evidence is incomplete."
  let seconds ← match valueAt value "screen_save_timeout_seconds" with
    | .null => pure none
    | .int seconds =>
        if seconds < 0 then
          .error (.regression "Screen saver policy evidence is incomplete.")
        else pure (some seconds)
    | _ => .error (.regression "Screen saver policy evidence is incomplete.")
  return ⟨decide (valueAt value "screen_save_active" = .str "1"),
    decide (valueAt value "screen_saver_is_secure" = .str "1"), seconds⟩

/-- The criteria of PC-16. -/
structure ScreenSaverCriteria where
  accepted : Bool
  maximum : Int

/-- The values of PC-16. -/
def screenSaverCriteria (values : CriteriaValues) :
    Except LiveFault ScreenSaverCriteria := do
  let accepted ← flagAt values "screensaver_current_user_scope_accepted"
    "Screen saver policy evidence is incomplete."
  let maximum ← numberAt values "screensaver_timeout_maximum_minutes"
    "Screen saver policy evidence is incomplete."
  return ⟨accepted, maximum⟩

def ScreenSaverReading.meets (reading : ScreenSaverReading) (maximum : Int) :
    Bool :=
  reading.active && reading.secure &&
    reading.seconds.any fun seconds =>
      decide (0 < seconds ∧ seconds ≤ maximum * 60)

/-- `f"{seconds // 60}분"`. -/
def timeoutPieces : Option Int → List Piece
  | some seconds => [.number (seconds / 60), .literal "분"]
  | none => [.literal "설정 없음"]

/-- PC-16. -/
def screenSaverDecision (values : CriteriaValues)
    (observation : ProbeObservation) : Except LiveFault LiveDecision := do
  let reading ← readScreenSaver observation
  let criteria ← screenSaverCriteria values
  if criteria.accepted = false then
    return openDecision "현재 로그인 사용자의 화면 잠금 설정을 확인했습니다"
      "이번 점검에서 판정할 사용자 범위 선택"
      "현재 사용자 범위를 적용하지 않도록 선택해 판정을 보류했습니다."
      "SCREEN_SAVER_SELECTED_SCOPE_REQUIRED"
  else
    verdict (reading.meets criteria.maximum)
      ([.literal "현재 로그인 사용자 화면보호기 ",
          either reading.active "사용" "사용 안 함", .literal ", 잠금 ",
          either reading.secure "사용" "사용 안 함", .literal ", 대기 "] ++
        timeoutPieces reading.seconds)
      [.literal "현재 로그인 사용자 화면보호기·잠금 사용, ",
        selectedNumber criteria.maximum, .literal "분 이내"]
      "현재 로그인 사용자라는 제품 기본 범위의 실제 설정을 판정했습니다."
      "SCREEN_SAVER_MEETS_SELECTED_SCOPE" "SCREEN_SAVER_BELOW_SELECTED_SCOPE"

/-- What PC-17 reads of its record. -/
structure AutoplayReading where
  enabled : Bool
  nonVolume : Bool
  range : String
  autorun : String

/-- The record of PC-17. -/
def readAutoplay (observation : ProbeObservation) :
    Except LiveFault AutoplayReading := do
  let value ← firstRecord observation
  match valueAt value "turn_off_autoplay_enabled",
      valueAt value "non_volume_autoplay_disallowed",
      valueAt value "autoplay_scope",
      valueAt value "autorun_default_behavior" with
  | .bool enabled, .bool nonVolume, .str range, .str autorun =>
      return ⟨enabled, nonVolume, range, autorun⟩
  | _, _, _, _ =>
      .error (.regression "AutoPlay policy evidence is incomplete.")

def AutoplayReading.meets (reading : AutoplayReading) : Bool :=
  reading.enabled && decide (reading.range = "ALL_DRIVES") &&
    decide (reading.autorun = "DO_NOT_EXECUTE") && reading.nonVolume

/-- PC-17. -/
def autoplayDecision (values : CriteriaValues)
    (observation : ProbeObservation) : Except LiveFault LiveDecision := do
  let reading ← readAutoplay observation
  let required ← flagAt values "autoplay_disabled_required"
    "AutoPlay policy evidence is incomplete."
  if required = false then
    return openDecision "Windows 자동 실행 차단 설정을 확인했습니다"
      "적용할 자동 실행 차단 범위 선택"
      "제품 기본 차단 범위를 적용하지 않도록 선택해 판정을 보류했습니다."
      "AUTOPLAY_SELECTED_SCOPE_REQUIRED"
  else
    verdict reading.meets
      [.literal "자동 실행 차단 ", either reading.enabled "사용" "사용 안 함",
        .literal (", 범위 " ++ reading.range ++ ", 비볼륨 차단 "),
        either reading.nonVolume "사용" "사용 안 함"]
      [.literal "모든 드라이브·비볼륨 장치의 자동 실행과 AutoRun 차단"]
      "Windows 실제 정책을 제품 기본 차단 범위와 비교했습니다."
      "AUTOPLAY_DISABLED_FOR_DEFAULT_SCOPE"
      "AUTOPLAY_NOT_DISABLED_FOR_DEFAULT_SCOPE"

/-- What PC-18 reads of its record. -/
structure AssistanceReading where
  solicited : String
  offered : String

/-- The record of PC-18. -/
def readAssistance (observation : ProbeObservation) :
    Except LiveFault AssistanceReading := do
  let value ← firstRecord observation
  let knownSolicited ← isIn switchTexts (valueAt value "f_allow_to_get_help")
  demand (knownSolicited = true)
    "Remote assistance policy evidence is incomplete."
  let knownOffered ← isIn switchTexts (valueAt value "f_allow_unsolicited")
  demand (knownOffered = true)
    "Remote assistance policy evidence is incomplete."
  match valueAt value "f_allow_to_get_help",
      valueAt value "f_allow_unsolicited" with
  | .str solicited, .str offered => return ⟨solicited, offered⟩
  | _, _ => .error .type

def AssistanceReading.meets (reading : AssistanceReading) : Bool :=
  decide (reading.solicited = "0") && decide (reading.offered = "0")

/-- PC-18. -/
def assistanceDecision (values : CriteriaValues)
    (observation : ProbeObservation) : Except LiveFault LiveDecision := do
  let reading ← readAssistance observation
  let required ← flagAt values "remote_assistance_disabled_required"
    "Remote assistance policy evidence is incomplete."
  if required = false then
    return openDecision "Windows 원격 지원 정책을 확인했습니다"
      "적용할 원격 지원 허용 범위 선택"
      "제품 기본 차단 범위를 적용하지 않도록 선택해 판정을 보류했습니다."
      "REMOTE_ASSISTANCE_SELECTED_SCOPE_REQUIRED"
  else
    verdict reading.meets
      [.literal ("요청 원격 지원 " ++ reading.solicited ++ ", 제공 원격 지원 " ++
        reading.offered)]
      [.literal "요청·제공 원격 지원을 정책에서 모두 명시적으로 차단"]
      ("정책이 없거나 허용된 상태는 제품 기본값에서 차단 충족으로 간주하지 " ++
        "않습니다.")
      "REMOTE_ASSISTANCE_EXPLICITLY_DISABLED"
      "REMOTE_ASSISTANCE_NOT_EXPLICITLY_DISABLED"

/-- `_selected_criteria_decision`; the other controls have no comparison. -/
def selectedCriteriaDecision (env : LiveEnvironment) (controlId : String)
    (values : CriteriaValues) (observation : ProbeObservation) :
    Except LiveFault (Option LiveDecision) :=
  match controlId with
  | "PC-02" => some <$> passwordDecision values observation
  | "PC-04" => some <$> shareDecision env values observation
  | "PC-05" => some <$> serviceDecision env values observation
  | "PC-06" => some <$> messengerDecision env values observation
  | "PC-10" => some <$> updateDecision env values observation
  | "PC-13" => some <$> antivirusDecision env values observation
  | "PC-09" => some <$> wininetDecision values observation
  | "PC-16" => some <$> screenSaverDecision values observation
  | "PC-17" => some <$> autoplayDecision values observation
  | "PC-18" => some <$> assistanceDecision values observation
  | _ => .ok none

open SecAI.Criteria (CriteriaContext CriteriaValues)
open SecAI.Rules.Registry (Piece RegistryEnvironment)

def bootEntryName (env : RegistryEnvironment) (entry : Json) :
    Except LiveFault String :=
  match valueAt entry "display_name", valueAt entry "entry_identifier" with
  | .str displayName, .str identifier =>
      if env.strip displayName = "" ∨ env.strip identifier = "" then
        .error (.regression "Boot entry identity is invalid.")
      else .ok (env.strip displayName ++ "(" ++ env.strip identifier ++ ")")
  | _, _ => .error (.regression "Boot entry identity is invalid.")

/-- What PC-08 reads of its records. -/
structure BootReading where
  count : Int
  entryNames : List String

/-- The records of PC-08. -/
def readBoot (env : RegistryEnvironment) (observation : ProbeObservation) :
    Except LiveFault BootReading := do
  let value ← summaryRecord observation
  let count ← nonNegativeInteger (valueAt value "bootable_os_count")
    "Bootable OS count"
  let entryNames ← (recordsOfType "BOOT_ENTRY" observation).mapM
    (bootEntryName env)
  demand (entryNames = [] ∨ count = entryNames.length)
    "Boot entry count is inconsistent."
  demand (valueAt value "parser_profile" =
      .str "BCDEDIT_OSLOADER_WINLOAD_BLOCK_COUNT_WITH_NAMES" →
    count = entryNames.length) "Boot entry names are incomplete."
  return ⟨count, entryNames⟩

/-- PC-08. -/
def bootDecision (env : LiveEnvironment) (observation : ProbeObservation) :
    Except LiveFault LiveDecision := do
  let reading ← readBoot env.toRegistryEnvironment observation
  let label := "부팅 가능한 운영체제 항목"
  let shown ←
    if reading.entryNames ≠ [] then
      countWithNames env.toRegistryEnvironment label reading.entryNames
    else printed [.literal (label ++ " "), .number reading.count, .literal "개"]
  return {
    status := if reading.count = 1 then "PASS" else
      if reading.count = 0 then "ERROR" else "FAIL"
    actual :=
      if 0 < reading.count ∧ reading.entryNames = [] then
        shown ++ "(이전 점검 자료에는 항목명 없음—재점검 필요)"
      else shown
    expected := "불필요한 다중 운영체제 없이 부팅 가능한 운영체제 1개"
    explanation := some
      "Windows 부팅 로더 블록의 운영체제 항목 개수를 기준과 비교했습니다."
    resultCode := if reading.count = 1 then "SINGLE_BOOTABLE_OS" else
      if reading.count = 0 then "BOOTABLE_OS_NOT_IDENTIFIED"
      else "MULTIPLE_BOOTABLE_OS_FOUND" }

def failureText (errorCode : String) : String :=
  (([("PERMISSION_DENIED",
      "Windows가 해당 정보를 읽을 권한을 허용하지 않았습니다"),
     ("SOURCE_UNAVAILABLE",
      "이 PC에서 점검에 필요한 Windows 기능을 찾지 못했습니다"),
     ("ADAPTER_UNSUPPORTED",
      "현재 점검 도구가 이 Windows 환경의 자료 형식을 지원하지 않습니다"),
     ("QUERY_FAILED", "Windows에서 점검 정보를 읽는 과정이 실패했습니다"),
     ("EVIDENCE_INCOMPLETE",
      "판정에 필요한 점검 자료를 모두 읽지 못했습니다")].lookup
    errorCode)).getD "관리자 점검 자료를 가져오지 못했습니다"

def collectionFailure (controlId errorCode : String) : LiveDecision :=
  { liveEvidenceError controlId (failureText errorCode) with
    resultCode := withoutDashes controlId ++ "_COLLECTION_FAILED" }

def criteriaRequired (controlId : String) : LiveDecision :=
  openDecision "관리자 권한으로 판정 자료를 수집했습니다"
    "적용할 기본·조직·개인 기준 선택"
    "판정 기준 스냅샷이 없어 수집 자료만 확인했습니다."
    (withoutDashes controlId ++ "_CRITERIA_REQUIRED")

/-- The part of `_live_administrator_decision` whose faults are caught. -/
def collectedDecision (env : LiveEnvironment) (controlId : String)
    (observation : ProbeObservation) (criteria : Option CriteriaContext) :
    Except LiveFault (Option LiveDecision) :=
  if controlId = "PC-08" then some <$> bootDecision env observation
  else
    match criteria with
    | some context =>
        selectedCriteriaDecision env controlId context.values observation
    | none => do
        let _ ← summaryRecord observation
        return some (criteriaRequired controlId)

/-- What a comparison returns, or the decision that stands for its fault. -/
def orElse (result : Except LiveFault (Option LiveDecision))
    (instead : LiveDecision) : Option LiveDecision :=
  match result with
  | .ok decision => decision
  | .error _ => some instead

def liveAdministratorDecision (env : LiveEnvironment) (controlId : String)
    (observation : ProbeObservation) (criteria : Option CriteriaContext) :
    Option LiveDecision :=
  if controlId ∉ administratorControlIds ∨
      observation.privilege ≠ "ADMINISTRATOR" then none
  else if observation.collectionStatus ≠ "COLLECTED" then
    some (collectionFailure controlId observation.errorCode)
  else
    orElse (collectedDecision env controlId observation criteria)
      (liveEvidenceError controlId "판정에 필요한 관리자 자료가 불완전합니다")

def criteriaKeys : List (String × String) :=
  [("PC-02", "password_minimum_length"), ("PC-04", "approved_share_ids"),
   ("PC-05", "unnecessary_service_ids"),
   ("PC-06", "approved_messenger_products"),
   ("PC-10", "security_update_maximum_age_days")]

/-- `result` of `_additional_criteria_decision`. -/
def additionalResult (context : CriteriaContext) (key status actual expected
    explanation : String) : Except LiveFault AdditionalResult :=
  match context.sources.find? fun entry =>
      decide (entry.1 = points key.toList) with
  | some (_, source) => .ok {
      status := status
      criteriaKey := key
      source := source
      actual := actual
      expected := expected
      explanation := explanation
      criteriaSha256 := context.criteriaSha256 }
  | none => .error .key

/-- The additional criterion of a password age.  The maximum of a context that
was validated is a number. -/
def additionalPasswordAge (context : CriteriaContext)
    (observation : ProbeObservation) :
    Except LiveFault (Option AdditionalResult) := do
  let value ← firstRecord observation
  let maximum ← numberAt context.values "password_maximum_age_days" ""
  match valueAt value "maximum_password_age_days" with
  | .int observed =>
      if observed < 0 then return none
      else do
        let passed := decide (0 < observed ∧ observed ≤ maximum)
        let actual ← printed [.literal "비밀번호 최대 사용 기간 ",
          .number observed, .literal "일"]
        let expected ← printed [.literal "선택 기준 ", selectedNumber maximum,
          .literal "일 이내"]
        some <$> additionalResult context "password_maximum_age_days"
          (if passed then "PASS" else "FAIL") actual expected
          (if passed then "선택한 추가 기준을 충족합니다."
            else "선택한 추가 기준보다 비밀번호 사용 기간이 깁니다.")
  | _ => return none

/-- The additional criterion of a screen saver.  The maximum of a context that
was validated is a number. -/
def additionalScreenSaver (context : CriteriaContext)
    (observation : ProbeObservation) :
    Except LiveFault (Option AdditionalResult) := do
  let value ← firstRecord observation
  let maximum ← numberAt context.values
    "screensaver_timeout_maximum_minutes" ""
  let expected ← printed [.literal "선택 기준 ", selectedNumber maximum,
    .literal "분 이내"]
  match nonNegativeInteger (valueAt value "screen_save_timeout_seconds") "" with
  | .ok seconds => do
      let passed := decide (seconds ≤ maximum * 60)
      let actual ← printed [.literal "화면보호기 대기 시간 ",
        .number (seconds / 60), .literal "분"]
      some <$> additionalResult context "screensaver_timeout_maximum_minutes"
        (if passed then "PASS" else "FAIL") actual expected
        (if passed then "선택한 화면보호기 추가 기준을 충족합니다."
          else "화면보호기 대기 시간이 선택 기준보다 깁니다.")
  | .error _ =>
      some <$> additionalResult context "screensaver_timeout_maximum_minutes"
        "REVIEW" "화면보호기 대기 시간을 확인하지 못함" expected
        "대기 시간 실측값이 없어 추가 기준을 판정하지 않았습니다."

def orNone (result : Except LiveFault (Option AdditionalResult)) :
    Option AdditionalResult :=
  match result with
  | .ok additional => additional
  | .error _ => none

/-- `_additional_criteria_decision`.  The comparisons of PC-02, PC-04, PC-06 and
PC-10 that stand behind the first branch are never reached. -/
def additionalCriteriaDecision (env : LiveEnvironment) (controlId : String)
    (observation : ProbeObservation) (context : CriteriaContext) :
    Except LiveFault (Option AdditionalResult) :=
  if observation.collectionStatus ≠ "COLLECTED" then .ok none
  else
    match criteriaKeys.lookup controlId with
    | some key =>
        match selectedCriteriaDecision env controlId context.values
            observation with
        | .ok (some selected) =>
            some <$> additionalResult context key selected.status
              selected.actual selected.expected (selected.explanation.getD "")
        | _ => .ok none
    | none =>
        if controlId = "PC-01" then
          .ok (orNone (additionalPasswordAge context observation))
        else if controlId = "PC-16" then
          .ok (orNone (additionalScreenSaver context observation))
        else .ok none

end SecAI.LiveDraft
