/-
Module: SecAI.Normalization.Normalizer
Purpose: The normalizer of raw probe evidence.
Trusted boundary: see SecAI.Findings.Contracts; the Unicode operations of
  `str` are parameters
Main exports:
  NormalizerEnvironment, mapperOf, probeScope, normalizeRecord
-/
import SecAI.Findings.Builder
import SecAI.Package.Contracts
import Mathlib.Data.Prod.Lex

namespace SecAI.Normalization

open SecAI.Findings (FindingEnvironment canonicalSha256 normalizedEvidenceSchema
  isIdentifierCharacter)
open SecAI.JsonSchema (charactersOf isDigit numberValue)
open SecAI.Package (ValidatedPackage LoadedJson)
open SecAI.Rules (ensure hasExactKeys)

inductive NormalizationCode where
  | unvalidatedPackage
  | descriptorBindingMismatch
  | normalizerNotAllowed
  | normalizationInputInvalid
  | normalizedEvidenceSchemaInvalid
deriving DecidableEq

/-- Exceptions that leave the normalizer. -/
inductive NormalizationFault where
  | normalization (code : NormalizationCode) (message : String)
  /-- `SecAICanonicalizationError` of `canonicalize_json`. -/
  | canonicalization
  /-- The `ValueError` of `UUID`. -/
  | badUuid
deriving DecidableEq

/-- The parts of normalization that are not code of the repository. -/
structure NormalizerEnvironment extends FindingEnvironment where
  strip : String → String
  upper : String → String
  casefold : String → String
  /-- `value.astimezone(UTC).isoformat().replace("+00:00", "Z")`. -/
  utcText : DateTime → String

/-! ## Readers -/

/-- `_reject`, for malformed input. -/
def invalid (message : String) : NormalizationFault :=
  .normalization .normalizationInputInvalid message

def mapping : Option Json → Except NormalizationFault Json
  | some (.obj members) => .ok (.obj members)
  | _ => .error (invalid "Expected an object value.")

def sequence : Option Json → Except NormalizationFault (List Json)
  | some (.arr items) => .ok items
  | _ => .error (invalid "Expected an array value.")

def string (document : Json) (key : String) :
    Except NormalizationFault String :=
  match document.member key with
  | some (.str value) => .ok value
  | _ => .error (invalid "Expected a string field.")

def boolean (document : Json) (key : String) :
    Except NormalizationFault Bool :=
  match document.member key with
  | some (.bool value) => .ok value
  | _ => .error (invalid "Expected a boolean field.")

def exactKeys (raw : Json) (required : List String) :
    Except NormalizationFault Unit :=
  ensure (hasExactKeys raw required = true)
    (invalid "Raw evidence fields differ from the allowlisted Probe contract.")

variable (env : NormalizerEnvironment)

def identifier (document : Json) (key : String) :
    Except NormalizationFault String := do
  let value ← string document key
  let stripped := env.strip value
  ensure (charactersOf isIdentifierCharacter 1 128 stripped.toList = true)
    (invalid "Identifier is invalid.")
  return stripped

/-- `_enum`. -/
def enumeration (document : Json) (key : String) (allowed : List String) :
    Except NormalizationFault Json := do
  let value ← string document key
  let normalized := env.upper (env.strip value)
  ensure (normalized ∈ allowed) (invalid "Enum value is not allowed.")
  return .str normalized

/-! ## Storage probes -/

def volumeClasses : List String :=
  ["WINDOWS_OS_VOLUME", "LOCAL_FIXED_DATA_VOLUME", "MOUNTED_FOLDER_VOLUME",
    "ATTACHED_VHD_VOLUME", "STORAGE_SPACES_LOGICAL_VOLUME",
    "BITLOCKER_VOLUME", "EFI_SYSTEM_PARTITION",
    "MICROSOFT_RESERVED_PARTITION", "WINDOWS_RECOVERY_PARTITION",
    "APPROVED_OEM_UTILITY_PARTITION", "OPTICAL_VOLUME", "REMOVABLE_VOLUME",
    "NETWORK_VOLUME", "DETACHED_DISK_IMAGE", "VOLATILE_RAM_DISK"]

def normalizeDisk (raw : Json) : Except NormalizationFault Json := do
  exactKeys raw ["volume_id", "disk_id", "volume_class", "bus_type",
    "is_virtual", "is_removable", "is_online", "storage_kind",
    "disk_image_state"]
  let volumeId ← identifier env raw "volume_id"
  let diskId ← identifier env raw "disk_id"
  let volumeClass ← enumeration env raw "volume_class" volumeClasses
  let busType ← enumeration env raw "bus_type" ["NVME", "SATA", "SAS", "USB",
    "FILE_BACKED_VIRTUAL", "STORAGE_SPACES", "UNKNOWN"]
  let isVirtual ← boolean raw "is_virtual"
  let isRemovable ← boolean raw "is_removable"
  let isOnline ← boolean raw "is_online"
  let storageKind ← enumeration env raw "storage_kind" ["BASIC_DISK", "VHD",
    "VHDX", "STORAGE_SPACES_LOGICAL", "UNKNOWN"]
  let diskImageState ← enumeration env raw "disk_image_state" ["ATTACHED",
    "DETACHED", "NOT_APPLICABLE", "UNKNOWN"]
  return .obj [("bus_type", busType), ("disk_id", .str diskId),
    ("disk_image_state", diskImageState), ("is_online", .bool isOnline),
    ("is_removable", .bool isRemovable), ("is_virtual", .bool isVirtual),
    ("storage_kind", storageKind), ("volume_class", volumeClass),
    ("volume_id", .str volumeId)]

/-- `[0-9A-F]`. -/
def isUpperHex (character : Char) : Bool :=
  isDigit character || decide ('A' ≤ character ∧ character ≤ 'F')

/-- `_GUID_PATTERN`. -/
def isGuid (text : List Char) : Bool :=
  decide (text.length = 36) &&
    (List.range 36).all fun place =>
      match text[place]? with
      | some character =>
          if place ∈ [8, 13, 18, 23] then decide (character = '-')
          else isUpperHex character
      | none => false

def normalizePartition (raw : Json) : Except NormalizationFault Json := do
  exactKeys raw ["volume_id", "partition_role", "gpt_type",
    "trusted_role_identity", "is_system", "is_boot", "is_hidden"]
  let rawType ← string raw "gpt_type"
  let gptType := env.upper (env.strip rawType)
  ensure (isGuid gptType.toList = true) (invalid "GPT type is invalid.")
  let volumeId ← identifier env raw "volume_id"
  let partitionRole ← enumeration env raw "partition_role" ["DATA",
    "EFI_SYSTEM", "MICROSOFT_RESERVED", "WINDOWS_RECOVERY", "OEM_UTILITY",
    "UNKNOWN"]
  let trustedRoleIdentity ← boolean raw "trusted_role_identity"
  let isSystem ← boolean raw "is_system"
  let isBoot ← boolean raw "is_boot"
  let isHidden ← boolean raw "is_hidden"
  return .obj [("gpt_type", .str gptType), ("is_boot", .bool isBoot),
    ("is_hidden", .bool isHidden), ("is_system", .bool isSystem),
    ("partition_role", partitionRole),
    ("trusted_role_identity", .bool trustedRoleIdentity),
    ("volume_id", .str volumeId)]

/-- `known` of `_filesystem`. -/
def knownFilesystems : List (String × String) :=
  [("ntfs", "NTFS"), ("fat32", "FAT32"), ("exfat", "exFAT"),
    ("refs", "ReFS"), ("raw", "RAW")]

def filesystem : Option Json → Except NormalizationFault Json
  | none | some .null => .ok .null
  | some (.str value) =>
      if env.strip value = "" ∨ value.length > 32 then
        .error (invalid "Filesystem value is invalid.")
      else
        match knownFilesystems.lookup (env.casefold (env.strip value)) with
        | some known => .ok (.str known)
        | none => .ok .null
  | some _ => .error (invalid "Filesystem value is invalid.")

/-- `text.removesuffix(":")`. -/
def withoutColon (text : String) : String :=
  if text.toList.getLast? = some ':' then String.ofList text.toList.dropLast
  else text

def driveLetter : Option Json → Except NormalizationFault Json
  | none | some .null => .ok .null
  | some (.str value) =>
      let normalized := env.upper (withoutColon (env.strip value))
      if normalized.length ≠ 1 ∨ ¬("A" ≤ normalized ∧ normalized ≤ "Z") then
        .error (invalid "Drive letter is invalid.")
      else .ok (.str normalized)
  | some _ => .error (invalid "Drive letter is invalid.")

def normalizeVolume (raw : Json) : Except NormalizationFault Json := do
  exactKeys raw ["volume_id", "filesystem", "volume_class", "drive_type",
    "drive_letter", "mount_kind", "health_status", "operational_status",
    "bitlocker_state"]
  let volumeId ← identifier env raw "volume_id"
  let filesystem ← filesystem env (raw.member "filesystem")
  let volumeClass ← enumeration env raw "volume_class" volumeClasses
  let driveType ← enumeration env raw "drive_type" ["FIXED", "REMOVABLE",
    "NETWORK", "CDROM", "RAMDISK", "UNKNOWN"]
  let driveLetter ← driveLetter env (raw.member "drive_letter")
  let mountKind ← enumeration env raw "mount_kind" ["DRIVE_LETTER",
    "FOLDER_MOUNT", "NO_MOUNT", "UNKNOWN"]
  let healthStatus ← enumeration env raw "health_status" ["HEALTHY",
    "WARNING", "UNHEALTHY", "UNKNOWN"]
  let operationalStatus ← enumeration env raw "operational_status" ["OK",
    "DEGRADED", "ERROR", "OFFLINE", "UNKNOWN"]
  let bitlockerState ← enumeration env raw "bitlocker_state" ["NONE",
    "UNLOCKED_PROTECTED", "UNLOCKED_UNPROTECTED", "LOCKED", "UNKNOWN"]
  return .obj [("bitlocker_state", bitlockerState),
    ("drive_letter", driveLetter), ("drive_type", driveType),
    ("filesystem", filesystem), ("health_status", healthStatus),
    ("mount_kind", mountKind), ("operational_status", operationalStatus),
    ("volume_class", volumeClass), ("volume_id", .str volumeId)]

/-! ## Other probes -/

/-- A probe that is not about volumes: its scope and its fields. -/
structure ProbeContract where
  scope : String
  fields : List String

/-- `_PROBE_SCOPES` and `_PROBE_FIELDS`, which have the same keys. -/
def probeContracts : List (String × ProbeContract) :=
  [("win.security.password-age", ⟨"POLICY",
      ["maximum_password_age_days", "policy_defined", "policy_source"]⟩),
    ("win.security.password-policy", ⟨"POLICY",
      ["minimum_password_length", "maximum_password_age_days",
        "complexity_enabled", "password_required", "policy_source"]⟩),
    ("win.security.recovery-console", ⟨"POLICY",
      ["automatic_admin_logon", "policy_defined", "policy_source",
        "os_edition", "os_build"]⟩),
    ("win.network.smb-shares", ⟨"ASSET",
      ["default_admin_share_count", "unrestricted_everyone_share_count",
        "least_privilege_violation_count", "authentication_gap_count",
        "auto_share_wks_disabled"]⟩),
    ("win.services.inventory", ⟨"ASSET",
      ["evaluated_unnecessary_service_count",
        "running_unnecessary_service_count",
        "automatic_unnecessary_service_count"]⟩),
    ("win.software.messengers", ⟨"ASSET",
      ["evaluated_denied_product_count", "installed_denied_product_count",
        "running_denied_product_count", "low_confidence_match_count"]⟩),
    ("win.boot.entries", ⟨"ASSET",
      ["bootable_os_count", "excluded_recovery_entry_count",
        "excluded_diagnostic_entry_count",
        "excluded_virtualization_entry_count"]⟩),
    ("win.browser.wininet-cache-policy", ⟨"POLICY",
      ["applicability", "empty_cache_on_exit", "ie_desktop_used",
        "ie_mode_used", "wininet_used", "organization_scope_confirmed",
        "evaluated_user_count"]⟩),
    ("win.update.compliance", ⟨"ASSET",
      ["display_version", "os_build", "ubr", "installed_cumulative_kb",
        "missing_required_update_count", "automatic_updates_enabled",
        "update_inventory_source", "restart_pending",
        "last_successful_scan_at"]⟩),
    ("win.os.lifecycle", ⟨"ASSET",
      ["product_name", "edition_group", "display_version", "os_build", "ubr",
        "architecture"]⟩),
    ("win.autologon.config", ⟨"ASSET",
      ["auto_admin_logon_value", "default_password_present",
        "related_autologon_configuration_present"]⟩),
    ("win.antivirus.update-status", ⟨"ASSET",
      ["product_id", "product_name", "product_present", "product_state",
        "service_enabled", "operating_mode", "engine_version",
        "signature_version", "signature_updated_at",
        "automatic_updates_enabled", "real_time_protection_enabled",
        "health_state", "adapter_id", "adapter_version"]⟩),
    ("win.antivirus.realtime-status", ⟨"ASSET",
      ["product_id", "product_name", "product_present", "product_state",
        "service_enabled", "operating_mode", "real_time_protection_enabled",
        "behavior_monitor_enabled", "ioav_protection_enabled", "adapter_id",
        "adapter_version"]⟩),
    ("win.firewall.effective-profiles", ⟨"ASSET",
      ["adapter_id", "adapter_version", "policy_store", "domain_applicable",
        "domain_enabled", "private_applicable", "private_enabled",
        "public_applicable", "public_enabled", "third_party_present"]⟩),
    ("win.user.screensaver-policy", ⟨"USER",
      ["subject_id", "screen_save_active", "screen_save_timeout_seconds",
        "screen_saver_is_secure", "screen_saver_executable_present",
        "effective_policy_source", "user_coverage_complete"]⟩),
    ("win.media.autoplay-policy", ⟨"POLICY",
      ["turn_off_autoplay_enabled", "autoplay_scope",
        "autorun_default_behavior", "non_volume_autoplay_disallowed",
        "effective_policy_source"]⟩),
    ("win.remote-assistance.policy", ⟨"POLICY",
      ["f_allow_to_get_help", "f_allow_unsolicited",
        "effective_policy_source"]⟩)]

def isScalar : Json → Bool
  | .arr _ | .obj _ => false
  | _ => true

def memberValues : Json → List Json
  | .obj members => members.map Prod.snd
  | _ => []

def normalizeProbeObject (fields : List String) (raw : Json) :
    Except NormalizationFault Json := do
  exactKeys raw fields
  ensure (∀ value ∈ memberValues raw, isScalar value = true)
    (invalid "Probe evidence contains a non-scalar value.")
  return raw

/-- `_REGISTRY.get((probe_id, probe_version))`. -/
def mapperOf (probeId probeVersion : String) :
    Option (Json → Except NormalizationFault Json) :=
  if probeVersion ≠ "0.1.0" then none
  else if probeId = "win.storage.disks" then some (normalizeDisk env)
  else if probeId = "win.storage.partitions" then some (normalizePartition env)
  else if probeId = "win.storage.volumes" then some (normalizeVolume env)
  else (probeContracts.lookup probeId).map fun contract =>
    normalizeProbeObject contract.fields

/-- `_PROBE_SCOPES.get(probe_id, "VOLUME")`. -/
def probeScope (probeId : String) : String :=
  match probeContracts.lookup probeId with
  | some contract => contract.scope
  | none => "VOLUME"

/-! ## Records -/

def parseUtcTimestamp (value : String) : Except NormalizationFault DateTime :=
  if value.toList.getLast? ≠ some 'Z' then
    .error (invalid "Timestamp must use UTC Z form.")
  else
    match env.fromIsoformat
        (String.ofList value.toList.dropLast ++ "+00:00") with
    | some instant => .ok instant
    | none => .error (invalid "Timestamp is invalid.")

/-- `mapping.get(key)`, where `null` is no value. -/
def optional (document : Json) (key : String) : Option Json :=
  match document.member key with
  | some .null | none => none
  | some value => some value

def subjectMembers (record : Json) (probeId : String)
    (value : Option Json) : Except NormalizationFault (List (String × Json)) :=
  let scope := probeScope probeId
  match value with
  | some value =>
      if scope = "VOLUME" then
        .ok [("subject_key", (value.member "volume_id").getD .null)]
      else if scope = "USER" then do
        let executionIdentity ← mapping (record.member "execution_identity")
        let userSid ← string executionIdentity "user_sid"
        return [("user_sid", .str userSid)]
      else .ok []
  | none => do
      let candidate ← mapping (record.member "normalized_candidate")
      if scope = "VOLUME" then do
        let volumeId ← identifier env candidate "volume_id"
        return [("subject_key", .str volumeId)]
      else if scope = "USER" then do
        let userSid ← string candidate "user_sid"
        return [("user_sid", .str userSid)]
      else return []

/-- The values of a normalized record. -/
structure NormalizedRecord where
  id : String
  timestamp : String
  correlationId : String
  jobId : String
  assetId : String
  packageId : String
  sourceEvidenceId : String
  controlId : String
  guideVersion : String
  collectorVersion : String
  probeId : String
  probeVersion : String
  subject : Json
  collectedAt : String
  sourceLocator : Json
  collectionStatus : String
  errorCode : String
  redacted : Bool
  evidenceSha256 : String
  rawValue : Option Json
  normalizedValue : Option Json
  unit : Option Json
  policyScope : Option Json
  policySource : Option Json

def optionalMember (key : String) (value : Option Json) : List (String × Json) :=
  (value.map fun value => (key, value)).toList

def NormalizedRecord.document (record : NormalizedRecord) : Json :=
  .obj (
    [("asset_id", .str record.assetId),
      ("collected_at", .str record.collectedAt),
      ("collection_status", .str record.collectionStatus),
      ("collector_version", .str record.collectorVersion),
      ("control_id", .str record.controlId),
      ("correlation_id", .str record.correlationId),
      ("created_at", .str record.timestamp),
      ("error_code", .str record.errorCode),
      ("evidence_sha256", .str record.evidenceSha256),
      ("guide_version", .str record.guideVersion),
      ("id", .str record.id),
      ("job_id", .str record.jobId),
      ("normalized_at", .str record.timestamp)] ++
    optionalMember "normalized_value" record.normalizedValue ++
    [("package_id", .str record.packageId)] ++
    optionalMember "policy_scope" record.policyScope ++
    optionalMember "policy_source" record.policySource ++
    [("probe_id", .str record.probeId),
      ("probe_version", .str record.probeVersion),
      ("producer_name", .str "sec-ai-normalizer"),
      ("producer_version", .str "0.1.0")] ++
    optionalMember "raw_value" record.rawValue ++
    [("redaction", .obj [("applied", .bool record.redacted),
        ("method", .str (if record.redacted then "OMITTED" else "NONE"))]),
      ("schema_version", .str "1.0.0"),
      ("source", .str "normalizer"),
      ("source_evidence_id", .str record.sourceEvidenceId),
      ("source_locator", record.sourceLocator),
      ("subject", record.subject)] ++
    optionalMember "unit" record.unit)

/-- `normalized_value`: the raw value of a probe that has collected. -/
def normalizedValue (mapper : Json → Except NormalizationFault Json)
    (status : String) (rawValue : Option Json) :
    Except NormalizationFault (Option Json) :=
  if status = "COLLECTED" then do
    let raw ← mapping rawValue
    let value ← mapper raw
    return some value
  else .ok none

/-- `redacted` of a record. -/
def redactionFlag (record : Json) : Except NormalizationFault Bool :=
  match record.member "redacted" with
  | some (.bool redacted) => .ok redacted
  | _ => .error (invalid "Redaction flag is invalid.")

def normalizeRecord (validated : ValidatedPackage) (descriptor record : Json)
    (timestamp : String) (normalizedInstant : DateTime) :
    Except NormalizationFault NormalizedRecord := do
  let record ← mapping (some record)
  let probeId ← string record "probe_id"
  let probeVersion ← string record "probe_version"
  let mapper ←
    (mapperOf env probeId probeVersion).elim
      (.error (.normalization .normalizerNotAllowed
        "Probe normalizer ID and version are not allowlisted.")) .ok
  let sourceId ← string record "evidence_id"
  let status ← string record "collection_status"
  let errorCode ← string record "error_code"
  ensure (status ∈ ["COLLECTED", "ERROR", "SKIPPED"])
    (invalid "Collection status is invalid.")
  ensure (status = "COLLECTED" ↔ errorCode = "NONE")
    (invalid "Collection status and error code are inconsistent.")
  let rawValue := optional record "raw_value"
  let value ← normalizedValue mapper status rawValue
  let members ← subjectMembers env record probeId value
  let collectedAt ← string record "collected_at"
  let collectedInstant ← parseUtcTimestamp env collectedAt
  ensure (collectedInstant ≤ normalizedInstant)
    (invalid "Normalization time is earlier than collection time.")
  let redacted ← redactionFlag record
  ensure (SecAI.Credential.uuidAccepts env.digits validated.packageId = true)
    .badUuid
  let correlationId ← string descriptor "correlation_id"
  let controlId ← string record "control_id"
  let guideVersion ← string record "guide_version"
  let collector ← mapping (descriptor.member "collector")
  let collectorVersion ← string collector "version"
  let sourceLocator ← mapping (record.member "source_locator")
  let evidenceSha256 ← string record "evidence_sha256"
  let output : NormalizedRecord := {
    id := (env.uuid5 (env.uuidOf validated.packageId)
      ("sec-ai-normalizer:0.1.0:" ++ sourceId)).text
    timestamp := timestamp
    correlationId := correlationId
    jobId := validated.jobId
    assetId := validated.assetId
    packageId := validated.packageId
    sourceEvidenceId := sourceId
    controlId := controlId
    guideVersion := guideVersion
    collectorVersion := collectorVersion
    probeId := probeId
    probeVersion := probeVersion
    subject := .obj (("scope", .str (probeScope probeId)) :: members)
    collectedAt := collectedAt
    sourceLocator := sourceLocator
    collectionStatus := status
    errorCode := errorCode
    redacted := redacted
    evidenceSha256 := evidenceSha256
    rawValue := if redacted then none else rawValue
    normalizedValue := value
    unit := optional record "unit"
    policyScope := optional record "policy_scope"
    policySource := optional record "policy_source" }
  ensure (normalizedEvidenceSchema env.digits output.document = true)
    (.normalization .normalizedEvidenceSchemaInvalid
      "Normalizer output failed the normalized evidence Schema.")
  return output

/-! ## The package -/

/-- `value == count`, for a document and a count: `True` equals one, and a
float equals the integer of its value. -/
def equalsCount (value : Option Json) (count : Nat) : Bool :=
  match value with
  | some (.bool truth) => decide ((if truth then 1 else 0) = count)
  | some number => decide (numberValue number = some (count : Rat))
  | none => false

/-- The descriptor repeats a value of the validated package. -/
def sameText (document : Json) (key expected message : String) :
    Except NormalizationFault Unit := do
  let value ← string document key
  ensure (value = expected)
    (.normalization .descriptorBindingMismatch message)

def validatePackageBinding (validated : ValidatedPackage) (descriptor : Json) :
    Except NormalizationFault Unit := do
  let scope := "Descriptor scope differs from the validated package."
  sameText descriptor "id" validated.packageId scope
  sameText descriptor "job_id" validated.jobId scope
  sameText descriptor "asset_id" validated.assetId scope
  sameText descriptor "manifest_id" validated.manifestId scope
  let archive ← mapping (descriptor.member "archive")
  let facts := "Descriptor archive facts differ from the validated package."
  sameText archive "archive_sha256" validated.inspection.archiveSha256 facts
  sameText archive "content_set_sha256" validated.inspection.contentSetSha256
    facts
  ensure (equalsCount (archive.member "file_count")
      validated.inspection.fileCount = true)
    (.normalization .descriptorBindingMismatch facts)

def sortKey (record : NormalizedRecord) : String ×ₗ String ×ₗ String :=
  toLex ((record.subject.stringAt "subject_key").getD "",
    toLex (record.probeId, record.id))

/-- `normalize`: a validated package is always eligible for promotion. -/
def normalize (validated : ValidatedPackage) (descriptor : LoadedJson)
    (normalizedAt : DateTime) :
    Except NormalizationFault (List Json) := do
  let descriptor ← descriptor.mapError fun _ =>
    .normalization .descriptorBindingMismatch
      "Descriptor is not the validated strict JSON document."
  let digest ← (canonicalSha256 env.toFindingEnvironment descriptor).mapError
    fun _ => .canonicalization
  ensure (digest = validated.descriptorSha256)
    (.normalization .descriptorBindingMismatch
      "Descriptor digest differs from the validated package.")
  validatePackageBinding validated descriptor
  let timestamp := env.utcText normalizedAt
  let normalizedInstant ← parseUtcTimestamp env timestamp
  let records ← sequence (descriptor.member "evidence_records")
  let normalized ← records.mapM fun record =>
    normalizeRecord env validated descriptor record timestamp normalizedInstant
  return (Ordered.sortedBy sortKey normalized).map (·.document)

end SecAI.Normalization
