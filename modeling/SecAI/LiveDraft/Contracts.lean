/-
Module: SecAI.LiveDraft.Contracts
Purpose: The data of the live draft evaluation, the readers of records, and the
  evidence that is prepared before any control is evaluated.
Trusted boundary: the records of an observation are mappings, their texts
  sequences of Unicode characters; `str.lower`, the Unicode database, UUID
  version 5 and SHA-256 are parameters
Main exports:
  LiveFault, LiveEnvironment, LiveDecision, evidenceStatus, evidenceRow
-/
import SecAI.Criteria.Contract
import SecAI.Rules.Grounds

namespace SecAI.Collector

def storageProbes : List String :=
  ["win.storage.disks", "win.storage.partitions", "win.storage.volumes"]

structure ProbeObservation where
  probeId : String
  collectionStatus : String
  errorCode : String
  adapterId : String
  adapterVersion : String
  privilege : String
  collectedAt : String
  records : List Json
  userSid : Option String

end SecAI.Collector

namespace SecAI.LiveDraft

open SecAI.Collector (ProbeObservation)
open SecAI.Criteria (CriteriaEnvironment CriteriaValue CriteriaValues)
open SecAI.Rules.Registry (Piece RegistryEnvironment)
open SecAI.Text

/-- What the evaluation raises behind the checks of its criteria. -/
inductive LiveFault where
  /-- `CurrentHostRegressionError`. -/
  | regression (message : String)
  /-- `KeyError`. -/
  | key
  /-- `TypeError`. -/
  | type
  /-- `ValueError`. -/
  | value
  /-- `OverflowError`. -/
  | overflow

/-- What the evaluation uses beside the code of the repository. -/
structure LiveEnvironment extends RegistryEnvironment where
  criteria : CriteriaEnvironment
  /-- What the registry of PC-07 reads a filesystem with. -/
  unicode : Auth.UnicodeText
  /-- `str.lower`. -/
  lower : List CodePoint → List CodePoint

/-- The rules of a control in the audit pack. -/
structure ControlRules where
  applicabilityRule : Json
  evaluationRule : Json

/-- The documents of the audit pack. -/
structure AuditPack where
  controls : List (String × ControlRules)
  referenceSnapshot : Json
  adapterCatalog : Json

def probeToControl : List (String × String) :=
  [("win.security.password-age", "PC-01"),
   ("win.security.password-policy", "PC-02"),
   ("win.security.recovery-console", "PC-03"),
   ("win.network.smb-shares", "PC-04"),
   ("win.services.inventory", "PC-05"),
   ("win.software.messengers", "PC-06"),
   ("win.storage.disks", "PC-07"),
   ("win.storage.partitions", "PC-07"),
   ("win.storage.volumes", "PC-07"),
   ("win.boot.entries", "PC-08"),
   ("win.browser.wininet-cache-policy", "PC-09"),
   ("win.update.compliance", "PC-10"),
   ("win.os.lifecycle", "PC-11"),
   ("win.autologon.config", "PC-12"),
   ("win.antivirus.update-status", "PC-13"),
   ("win.antivirus.realtime-status", "PC-14"),
   ("win.firewall.effective-profiles", "PC-15"),
   ("win.user.screensaver-policy", "PC-16"),
   ("win.media.autoplay-policy", "PC-17"),
   ("win.remote-assistance.policy", "PC-18")]

def controlIds : List String :=
  ["PC-01", "PC-02", "PC-03", "PC-04", "PC-05", "PC-06", "PC-07", "PC-08",
    "PC-09", "PC-10", "PC-11", "PC-12", "PC-13", "PC-14", "PC-15", "PC-16",
    "PC-17", "PC-18"]

def administratorControlIds : List String :=
  ["PC-02", "PC-04", "PC-06", "PC-08", "PC-10"]

/-- The controls that are compared with the criteria without a registry. -/
def selectedControlIds : List String :=
  ["PC-05", "PC-09", "PC-13", "PC-16", "PC-17", "PC-18"]

/-- A decision about a control. -/
structure LiveDecision where
  status : String
  actual : String
  expected : String
  explanation : Option String
  resultCode : String
deriving Inhabited

/-- `additional_criteria` of a result, without the title that is constant. -/
structure AdditionalResult where
  status : String
  criteriaKey : String
  source : Decoded
  actual : String
  expected : String
  explanation : String
  criteriaSha256 : List CodePoint

/-- The result of a control, without the fields that are constant. -/
structure LiveResult where
  decision : LiveDecision
  additional : Option AdditionalResult
deriving Inhabited

/-- `control_id.replace("-", "")`. -/
def withoutDashes (controlId : String) : String :=
  String.ofList (controlId.toList.filter fun character =>
    decide (character ≠ '-'))

def liveEvidenceError (controlId actual : String) : LiveDecision :=
  { status := "ERROR"
    actual := actual
    expected := "판정에 필요한 점검 자료를 오류 없이 수집"
    explanation := some
      (actual ++ ". PC 설정은 변경하지 않았으며 다시 점검할 수 있습니다.")
    resultCode := withoutDashes controlId ++ "_EVIDENCE_INCOMPLETE" }

/-- `record.get(key)`. -/
def valueAt (record : Json) (key : String) : Json :=
  (record.member key).getD .null

/-- `record[key]`. -/
def itemAt (record : Json) (key : String) : Except LiveFault Json :=
  match record.member key with
  | some value => .ok value
  | none => .error .key

/-- `value in texts`; a list and a mapping have no hash. -/
def isIn (texts : List String) : Json → Except LiveFault Bool
  | .str text => .ok (decide (text ∈ texts))
  | .arr _ | .obj _ => .error .type
  | _ => .ok false

/-- A check that raises a `CurrentHostRegressionError`. -/
def demand (condition : Prop) [Decidable condition] (message : String) :
    Except LiveFault Unit :=
  if condition then .ok () else .error (.regression message)

def firstRecord (observation : ProbeObservation) : Except LiveFault Json :=
  match observation.records with
  | [record] => .ok record
  | _ => .error (.regression
      (observation.probeId ++ " must have exactly one source record."))

def recordsOfType (recordType : String) (observation : ProbeObservation) :
    List Json :=
  observation.records.filter fun record =>
    decide (record.member "record_type" = some (.str recordType))

def summaryRecord (observation : ProbeObservation) : Except LiveFault Json :=
  match recordsOfType "SUMMARY" observation with
  | [summary] => .ok summary
  | _ =>
      match observation.records with
      | [record] => .ok record
      | _ => .error (.regression
          (observation.probeId ++ " must have exactly one summary record."))

def nonNegativeInteger (value : Json) (label : String) :
    Except LiveFault Int :=
  match value with
  | .int number =>
      if number < 0 then .error (.regression (label ++ " is invalid."))
      else .ok number
  | _ => .error (.regression (label ++ " is invalid."))

/-- `f"…"`; an integer with too many digits is a `ValueError`. -/
def printed (pieces : List Piece) : Except LiveFault String :=
  if pieces.all Piece.isPrintable then
    .ok (String.join (pieces.map Piece.text))
  else .error .value

/-- The number of items of a list, which is small enough to be printed. -/
def counted (number : Nat) : Piece := .literal (toString number)

/-- A number of the criteria, which is small enough to be printed. -/
def selectedNumber (number : Int) : Piece := .literal (toString number)

def displayItemLimit : Nat := 5

def countWithNames (env : RegistryEnvironment) (label : String)
    (names : List String) : Except LiveFault String := do
  demand (∀ name ∈ names, env.strip name ≠ "") "Display item name is invalid."
  let normalized := names.map env.strip
  let count := normalized.length
  let visible := ", ".intercalate (normalized.take displayItemLimit)
  let suffix :=
    if displayItemLimit < count then
      " 외 " ++ toString (count - displayItemLimit) ++ "개"
    else ""
  return if count = 0 then label ++ " 0개"
    else label ++ " " ++ toString count ++ "개(" ++ visible ++ suffix ++ ")"

/-- `values[key]`. -/
def criterionAt (values : CriteriaValues) (key : String) :
    Except LiveFault CriteriaValue :=
  match values.lookup key with
  | some value => .ok value
  | none => .error .key

def criteriaSequence : CriteriaValue → Except LiveFault (List (List CodePoint))
  | .names items =>
      if [] ∈ items then
        .error (.regression "Criteria list value is invalid.")
      else .ok items
  | _ => .error (.regression "Criteria list is invalid.")

/-- `datetime.fromisoformat(text.replace("Z", "+00:00"))`; a text without an
offset is refused like one that cannot be read. -/
def readInstant (env : RegistryEnvironment) (text : String) :
    Except LiveFault DateTime :=
  match env.fromIsoformat (Rules.Registry.withOffset text) with
  | some instant => .ok instant
  | none => .error .value

/-- `text.casefold()`, of a text of a record. -/
def foldedText (env : CriteriaEnvironment) (text : String) : List CodePoint :=
  Criteria.casefoldPoints env (points text.toList)

open SecAI.Rules.Registry (RegistryEnvironment)
open SecAI.JsonSchema (doubleValue)
open SecAI.Text (integerOf)

/-- `source[key] = value`. -/
def withMember (key : String) (value : Json) : Json → Json
  | .obj members =>
      if key ∈ members.map Prod.fst then
        .obj (members.map fun entry =>
          if entry.1 = key then (key, value) else entry)
      else .obj (members ++ [(key, value)])
  | other => other

/-- `bool(value)`. -/
def isTruthy : Json → Bool
  | .null => false
  | .bool truth => truth
  | .int number => decide (number ≠ 0)
  | .float bits => decide (bits.toNat % 9223372036854775808 ≠ 0)
  | .str text => decide (text ≠ "")
  | .arr items => !items.isEmpty
  | .obj members => !members.isEmpty

/-- `text in value`. -/
def isWithin (text : String) : Json → Except LiveFault Bool
  | .str content => .ok (decide (text.toList <:+: content.toList))
  | .arr items => .ok (decide (.str text ∈ items))
  | .obj members => .ok (decide (text ∈ members.map Prod.fst))
  | _ => .error .type

/-- `int(value)`, of a float that is finite. -/
def truncated (value : Rat) : Int :=
  if 0 ≤ value then ⌊value⌋ else ⌈value⌉

/-- `int(value)`; an infinite float is an `OverflowError`. -/
def integerFrom (env : LiveEnvironment) : Json → Except LiveFault Int
  | .int number => .ok number
  | .bool truth => .ok (if truth then 1 else 0)
  | .float bits =>
      match doubleValue bits with
      | some value => .ok (truncated value)
      | none =>
          if bits.toNat % 4503599627370496 = 0 then .error .overflow
          else .error .value
  | .str text =>
      match integerOf env.criteria.database 10 text.toList with
      | some number => .ok number
      | none => .error .value
  | .null | .arr _ | .obj _ => .error .type

mutual

/-- No number in the value has too many digits to be printed. -/
def hasPrintableNumbers : Json → Bool
  | .int number => decide (number.natAbs < 10 ^ 4300)
  | .arr items => havePrintableNumbers items
  | .obj members => memberNumbersPrintable members
  | _ => true

def havePrintableNumbers : List Json → Bool
  | [] => true
  | item :: rest => hasPrintableNumbers item && havePrintableNumbers rest

def memberNumbersPrintable : List (String × Json) → Bool
  | [] => true
  | (_, value) :: rest =>
      hasPrintableNumbers value && memberNumbersPrintable rest

end

/-- `str(value)`. -/
def textOf (env : RegistryEnvironment) (value : Json) :
    Except LiveFault String :=
  if hasPrintableNumbers value then
    .ok (match value with
      | .null => "None"
      | .bool truth => if truth then "True" else "False"
      | .int number => toString number
      | .str text => text
      | other => env.repr other)
  else .error .value

/-- The value of PC-05: the record is counted under its two fields. -/
def standardizedServices (observation : ProbeObservation) :
    Except LiveFault Json := do
  let running := observation.records.countP fun item =>
    decide (valueAt item "state" = .str "RUNNING")
  let automatic ← observation.records.mapM fun item =>
    isIn ["AUTO", "BOOT", "SYSTEM"] (valueAt item "start_mode")
  return .obj [
    ("evaluated_unnecessary_service_count", .int observation.records.length),
    ("running_unnecessary_service_count", .int running),
    ("automatic_unnecessary_service_count", .int (automatic.count true))]

/-- The value of PC-08. -/
def standardizedBoot (observation : ProbeObservation) :
    Except LiveFault Json := do
  let source ← summaryRecord observation
  let count ← itemAt source "bootable_os_count"
  return .obj [
    ("bootable_os_count", count),
    ("excluded_recovery_entry_count", .int 0),
    ("excluded_diagnostic_entry_count", .int 0),
    ("excluded_virtualization_entry_count", .int 0)]

/-- The value of PC-09. -/
def standardizedWininet (observation : ProbeObservation) :
    Except LiveFault Json := do
  let source ← firstRecord observation
  let applicability ← itemAt source "applicability"
  let emptyCache ← itemAt source "empty_cache_on_exit"
  let userCount ← itemAt source "evaluated_user_count"
  return .obj [
    ("applicability", applicability),
    ("empty_cache_on_exit", emptyCache),
    ("ie_desktop_used", .bool false),
    ("ie_mode_used", .bool false),
    ("wininet_used", .bool (decide (applicability = .str "APPLICABLE"))),
    ("organization_scope_confirmed", .bool false),
    ("evaluated_user_count", userCount)]

/-- The value of PC-11. -/
def standardizedLifecycle (env : LiveEnvironment)
    (observation : ProbeObservation) : Except LiveFault Json := do
  let source ← firstRecord observation
  let observedProduct ← itemAt source "product_name"
  let isEleven ← isWithin "Windows 11" observedProduct
  let isTen ← isWithin "Windows 10" observedProduct
  let editionGroup ← itemAt source "edition_group"
  let displayVersion ← itemAt source "display_version"
  let osBuild ← integerFrom env (← itemAt source "os_build")
  let ubr ← itemAt source "ubr"
  let architecture ← itemAt source "architecture"
  return .obj [
    ("product_name",
      if isEleven then .str "Windows 11" else
        if isTen then .str "Windows 10" else observedProduct),
    ("edition_group", editionGroup),
    ("display_version", displayVersion),
    ("os_build", .int osBuild),
    ("ubr", ubr),
    ("architecture", architecture)]

/-- `item["profile"]`, which becomes a key of a dict. -/
def profileKey (item : Json) : Except LiveFault Json := do
  match ← itemAt item "profile" with
  | .arr _ | .obj _ => .error .type
  | key => return key

/-- `profiles.get(name)`: the last record of a name replaces the others. -/
def profileOf (records : List Json) (name : String) : Option Json :=
  records.reverse.find? fun item =>
    decide (item.member "profile" = some (.str name))

/-- `bool(profiles.get(name, {}).get("enabled", False))`. -/
def profileEnabled (records : List Json) (name : String) : Bool :=
  match profileOf records name with
  | some profile => isTruthy ((profile.member "enabled").getD (.bool false))
  | none => false

/-- The value of PC-15. -/
def standardizedProfiles (observation : ProbeObservation) :
    Except LiveFault Json := do
  let _ ← observation.records.mapM profileKey
  let records := observation.records
  return .obj [
    ("adapter_id", .str observation.adapterId),
    ("adapter_version", .str observation.adapterVersion),
    ("policy_store", .str "ACTIVE_STORE"),
    ("domain_applicable", .bool (profileOf records "DOMAIN").isSome),
    ("domain_enabled", .bool (profileEnabled records "DOMAIN")),
    ("private_applicable", .bool (profileOf records "PRIVATE").isSome),
    ("private_enabled", .bool (profileEnabled records "PRIVATE")),
    ("public_applicable", .bool (profileOf records "PUBLIC").isSome),
    ("public_enabled", .bool (profileEnabled records "PUBLIC")),
    ("third_party_present", .bool false)]

def standardizedValue (env : LiveEnvironment)
    (observation : ProbeObservation) : Except LiveFault Json :=
  let probeId := observation.probeId
  if probeId = "win.services.inventory" then standardizedServices observation
  else if probeId ∈ ["win.network.smb-shares", "win.software.messengers"] then
    summaryRecord observation
  else if probeId = "win.boot.entries" then standardizedBoot observation
  else if probeId = "win.browser.wininet-cache-policy" then
    standardizedWininet observation
  else if probeId = "win.os.lifecycle" then
    standardizedLifecycle env observation
  else if probeId ∈ ["win.security.password-age",
      "win.security.password-policy", "win.security.recovery-console"] then
    withMember "policy_source" (.str "UNKNOWN") <$> firstRecord observation
  else if probeId ∈ ["win.antivirus.update-status",
      "win.antivirus.realtime-status"] then do
    let source ← firstRecord observation
    return withMember "adapter_version" (.str observation.adapterVersion)
      (withMember "adapter_id" (.str observation.adapterId) source)
  else if probeId = "win.firewall.effective-profiles" then
    standardizedProfiles observation
  else firstRecord observation

/-- `_SCOPES`. -/
def scopeOf (controlId : String) : String :=
  if controlId ∈ ["PC-01", "PC-02", "PC-03", "PC-09", "PC-17", "PC-18"] then
    "POLICY"
  else if controlId = "PC-07" then "VOLUME"
  else if controlId = "PC-16" then "USER"
  else "ASSET"

def volumeSubject (subjectKey : Json) : Json :=
  .obj [("scope", .str "VOLUME"), ("subject_key", subjectKey)]

def subjectOf (controlId : String) (observation : ProbeObservation) :
    Except LiveFault Json :=
  if scopeOf controlId = "VOLUME" then
    .ok (volumeSubject (.str "pc07:collection"))
  else if scopeOf controlId = "USER" then
    match observation.userSid with
    | some userSid =>
        .ok (.obj [("scope", .str "USER"), ("user_sid", .str userSid)])
    | none => .error (.regression "Current-user SID is required in memory.")
  else .ok (.obj [("scope", .str (scopeOf controlId))])

def evidenceStatus (observation : ProbeObservation) : String × String :=
  let status :=
    if observation.collectionStatus = "UNSUPPORTED" then "ERROR"
    else observation.collectionStatus
  let (status, errorCode) :=
    if status = "COLLECTED" ∧ observation.records = [] then
      ("ERROR", "EVIDENCE_INCOMPLETE")
    else (status, observation.errorCode)
  (status,
    if errorCode ∈ ["QUERY_FAILED", "SOURCE_UNAVAILABLE",
      "ADAPTER_UNSUPPORTED"] then "EVIDENCE_INCOMPLETE"
    else errorCode)

def packageId : String := "38000000-0000-4000-8000-000000000001"

def executionIdentity (controlId : String) (observation : ProbeObservation) :
    Json :=
  let isAdministrator := decide (observation.privilege = "ADMINISTRATOR")
  .obj ([
    ("privilege", .str (if isAdministrator then "ELEVATED_ADMIN"
      else observation.privilege)),
    ("elevated", .bool isAdministrator)] ++
    if controlId = "PC-16" then
      [("user_sid", (observation.userSid.map .str).getD .null)]
    else [])

/-- A row; the value is there if the evidence was collected. -/
def evidenceRow (controlId : String) (observation : ProbeObservation)
    (subject : Json) (sourceId : String) (normalized : Option Json) : Json :=
  let (status, errorCode) := evidenceStatus observation
  .obj ([
    ("schema_version", .str "1.0.0"),
    ("id", .str sourceId),
    ("created_at", .str observation.collectedAt),
    ("source", .str "normalizer"),
    ("producer_name", .str "sec-ai-normalizer"),
    ("producer_version", .str "0.1.0"),
    ("correlation_id", .str "38000000-0000-4000-8000-000000000004"),
    ("job_id", .str "38000000-0000-4000-8000-000000000002"),
    ("asset_id", .str "38000000-0000-4000-8000-000000000003"),
    ("package_id", .str packageId),
    ("source_evidence_id", .str sourceId),
    ("control_id", .str controlId),
    ("guide_version", .str "2026"),
    ("collector_version", .str "0.1.0"),
    ("probe_id", .str observation.probeId),
    ("probe_version", .str "0.1.0"),
    ("subject", subject),
    ("collected_at", .str observation.collectedAt),
    ("normalized_at", .str observation.collectedAt),
    ("source_locator", .obj [("type", .str "POWERSHELL"),
      ("provider", .str observation.adapterId)]),
    ("collection_status", .str status),
    ("error_code", .str (if status = "COLLECTED" then "NONE" else errorCode)),
    ("redaction", .obj [("applied", .bool false), ("method", .str "NONE")]),
    ("evidence_sha256", .str (String.ofList (List.replicate 64 '0'))),
    ("execution_identity", executionIdentity controlId observation)] ++
    match normalized with
    | some value => ("normalized_value", value) ::
        if controlId ∈ ["PC-01", "PC-02", "PC-03"] then
          [("policy_source", .str "UNKNOWN")]
        else []
    | none => [])

/-- `str(uuid5(UUID(_PACKAGE_ID), f"{probe_id}:{index}:{key}"))`. -/
def sourceIdOf (env : LiveEnvironment) (probeId : String) (index : Nat)
    (key : String) : String :=
  (env.uuid5 (env.uuidOf packageId)
    (probeId ++ ":" ++ toString index ++ ":" ++ key)).text

/-- `subject.get("subject_key", "aggregate")`, of a row without a volume. -/
def aggregateKey (controlId : String) : String :=
  if scopeOf controlId = "VOLUME" then "pc07:collection" else "aggregate"

def prepareVolume (env : LiveEnvironment) (observation : ProbeObservation)
    (source : Json × Nat) : Except LiveFault Json := do
  let volumeId ← itemAt source.1 "volume_id"
  let key ← textOf env.toRegistryEnvironment volumeId
  return evidenceRow "PC-07" observation (volumeSubject volumeId)
    (sourceIdOf env observation.probeId source.2 key) (some source.1)

def prepareProbe (env : LiveEnvironment) (controlId : String)
    (observation : ProbeObservation) : Except LiveFault (List Json) :=
  let isCollected := (evidenceStatus observation).1 = "COLLECTED"
  if isCollected ∧ controlId = "PC-07" then
    observation.records.zipIdx.mapM (prepareVolume env observation)
  else do
    let subject ← subjectOf controlId observation
    let normalized ←
      if isCollected then some <$> standardizedValue env observation
      else .ok none
    return [evidenceRow controlId observation subject
      (sourceIdOf env observation.probeId 0 (aggregateKey controlId))
      normalized]

/-- `by_probe.get(probe_id)`. -/
def observationOf (observations : List ProbeObservation) (probeId : String) :
    Option ProbeObservation :=
  observations.find? fun observation => decide (observation.probeId = probeId)

/-- `_prepare_package_evidence` of a selected subset of the probes. -/
def prepareEvidence (env : LiveEnvironment)
    (observations : List ProbeObservation) : Except LiveFault (List Json) := do
  demand ((observations.map ProbeObservation.probeId).Nodup ∧
      ∀ observation ∈ observations,
        observation.probeId ∈ probeToControl.map Prod.fst)
    "PC-01~18 Probe coverage is incomplete."
  let rows ← probeToControl.mapM fun entry =>
    match observationOf observations entry.1 with
    | some observation => prepareProbe env entry.2 observation
    | none => .ok []
  return rows.flatten

end SecAI.LiveDraft
