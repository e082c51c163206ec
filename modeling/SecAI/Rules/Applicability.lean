/-
Module: SecAI.Rules.Applicability
Purpose: The data contracts of the rule engine, and the PC-07 applicability
  rule: which volumes are evaluated, which are excluded, and when the evidence
  does not decide.
Trusted boundary: none
Main exports:
  NormalizedEvidenceRecord, DecisionCandidate, includedClasses, valueOf
-/
import SecAI.Package.Json
import SecAI.Common.Ordered
import Mathlib.Data.String.Basic

namespace SecAI.Rules

inductive ApplicabilityStatus where
  | applicable
  | notApplicable
  | undetermined
deriving DecidableEq

structure ExcludedSubject where
  subjectId : String
  reasonCode : String
deriving DecidableEq

structure NormalizedEvidenceRecord where
  evidenceId : String
  jobId : String
  assetId : String
  packageId : String
  controlId : String
  subjectKey : String
  probeId : String
  probeVersion : String
  collectionStatus : String
  errorCode : String
  normalizedValue : Option Json

structure ApplicabilityDecision where
  status : ApplicabilityStatus
  reasonCode : String
  candidateVolumeIds : List String
  excludedVolumes : List ExcludedSubject
  errorCodes : List String
deriving DecidableEq

inductive DecisionStatus where
  | compliant
  | noncompliant
  | error
deriving DecidableEq

/-- `str(status)`. -/
def DecisionStatus.text : DecisionStatus → String
  | .compliant => "PASS"
  | .noncompliant => "FAIL"
  | .error => "ERROR"

structure DecisionCandidate where
  status : DecisionStatus
  applicability : ApplicabilityDecision
  subjectScope : String
  subjectKey : String
  resultCode : String
  evaluatedVolumeIds : List String
  violatingVolumeIds : List String
  errorCodes : List String
  rationaleCode : String
deriving DecidableEq

inductive RuleEngineCode where
  | ruleNotAllowed
  | ruleParametersInvalid
  | evaluationInputInvalid
deriving DecidableEq

/-- How an evaluation ends without a decision: a `RuleEngineError`, or the
`TypeError` of looking an unhashable value up in a set. -/
inductive EvaluationFault where
  | ruleEngine (code : RuleEngineCode) (message : String)
  | typeError
deriving DecidableEq

/-- `set(mapping) == set(keys)`. -/
def hasExactKeys (mapping : Json) (keys : List String) : Bool :=
  match mapping with
  | .obj members =>
      decide (∀ entry ∈ members, entry.1 ∈ keys) &&
        decide (∀ key ∈ keys, key ∈ members.map Prod.fst)
  | _ => false

def ensure {ε : Type} (condition : Prop) [Decidable condition] (fault : ε) :
    Except ε Unit :=
  if condition then .ok () else .error fault

@[simp] theorem ensure_eq_ok {ε : Type} {condition : Prop}
    [Decidable condition] {fault : ε} {result : Unit} :
    ensure condition fault = .ok result ↔ condition := by
  unfold ensure
  split
  case isTrue holds => simp [holds]
  case isFalse fails => simp [fails]

def includedClasses : List String :=
  ["WINDOWS_OS_VOLUME", "LOCAL_FIXED_DATA_VOLUME", "MOUNTED_FOLDER_VOLUME",
    "ATTACHED_VHD_VOLUME", "STORAGE_SPACES_LOGICAL_VOLUME",
    "BITLOCKER_VOLUME"]

def excludedClasses : List String :=
  ["EFI_SYSTEM_PARTITION", "MICROSOFT_RESERVED_PARTITION",
    "WINDOWS_RECOVERY_PARTITION", "APPROVED_OEM_UTILITY_PARTITION",
    "OPTICAL_VOLUME", "REMOVABLE_VOLUME", "NETWORK_VOLUME",
    "DETACHED_DISK_IMAGE", "VOLATILE_RAM_DISK"]

def strings (items : List String) : Json := .arr (items.map .str)

/-- `_APPROVED_PARAMETERS` of the applicability rule. -/
def approvedApplicabilityParameters : List (String × Json) :=
  [("include_volume_classes", strings includedClasses),
    ("exclude_volume_classes", strings excludedClasses),
    ("require_trusted_exclusion_identity", .bool true),
    ("drive_letter_absence_is_exclusion", .bool false),
    ("usb_bus_alone_is_exclusion", .bool false),
    ("empty_evaluated_set_status", .str "ERROR"),
    ("classification_unknown_status", .str "ERROR")]

/-- Every parameter has its approved value.  The approved values are strings,
truth values, integers and arrays of strings: of these `==` and one type make
two values the same. -/
def parametersAreApproved (approved : List (String × Json))
    (parameters : Json) : Bool :=
  hasExactKeys parameters (approved.map Prod.fst) &&
    decide (∀ entry ∈ approved, parameters.member entry.1 = some entry.2)

def pc07ApplicabilityParametersAreApproved (parameters : Json) : Bool :=
  parametersAreApproved approvedApplicabilityParameters parameters

/-- `_PARTITION_EXCLUSIONS`: class, role and reason. -/
def partitionExclusions : List (String × String × String) :=
  [("EFI_SYSTEM_PARTITION", "EFI_SYSTEM", "EXCLUDED_EFI_SYSTEM_PARTITION"),
    ("MICROSOFT_RESERVED_PARTITION", "MICROSOFT_RESERVED",
      "EXCLUDED_MICROSOFT_RESERVED"),
    ("WINDOWS_RECOVERY_PARTITION", "WINDOWS_RECOVERY",
      "EXCLUDED_WINDOWS_RECOVERY"),
    ("APPROVED_OEM_UTILITY_PARTITION", "OEM_UTILITY",
      "EXCLUDED_OEM_UTILITY")]

/-- The record under `_records_by_subject(records)[subject][probe]`: a later
record takes the place of an earlier one. -/
def recordOf (records : List NormalizedEvidenceRecord)
    (subject probe : String) : Option NormalizedEvidenceRecord :=
  (records.filter fun record =>
    decide (record.subjectKey = subject ∧ record.probeId = probe)).getLast?

def valueOf : Option NormalizedEvidenceRecord → Option Json
  | some record =>
      if record.collectionStatus = "COLLECTED" then record.normalizedValue
      else none
  | none => none

def collected (records : List NormalizedEvidenceRecord)
    (subject probe : String) : Option Json :=
  valueOf (recordOf records subject probe)

def has (value : Option Json) (key : String) (expected : Json) : Bool :=
  match value with
  | some value => decide (value.member key = some expected)
  | none => false

def trustedExclusionReason (volumeClass : String)
    (records : List NormalizedEvidenceRecord) (subject : String) :
    Option String :=
  let disk := collected records subject "win.storage.disks"
  let partition := collected records subject "win.storage.partitions"
  let volume := collected records subject "win.storage.volumes"
  match partitionExclusions.lookup volumeClass with
  | some (expectedRole, reason) =>
      if has partition "partition_role" (.str expectedRole) &&
          has partition "trusted_role_identity" (.bool true) then
        some reason
      else none
  | none =>
      if volumeClass = "DETACHED_DISK_IMAGE" then
        if has disk "disk_image_state" (.str "DETACHED") &&
            has disk "is_online" (.bool false) then
          some "EXCLUDED_DETACHED_DISK_IMAGE"
        else none
      else if volumeClass = "OPTICAL_VOLUME" then
        if has volume "drive_type" (.str "CDROM") then
          some "EXCLUDED_OPTICAL"
        else none
      else if volumeClass = "REMOVABLE_VOLUME" then
        if has volume "drive_type" (.str "REMOVABLE") ||
            has disk "is_removable" (.bool true) then
          some "EXCLUDED_REMOVABLE"
        else none
      else if volumeClass = "NETWORK_VOLUME" then
        if has volume "drive_type" (.str "NETWORK") then
          some "EXCLUDED_NETWORK"
        else none
      else if volumeClass = "VOLATILE_RAM_DISK" then
        if has volume "drive_type" (.str "RAMDISK") then
          some "EXCLUDED_VOLATILE_RAM_DISK"
        else none
      else none

/-- What the loop over the subjects decides about one of them. -/
inductive Classification where
  | candidate
  | excluded (reason : String)
  | incomplete
deriving DecidableEq

def classify (records : List NormalizedEvidenceRecord) (subject : String) :
    Classification :=
  match (collected records subject "win.storage.disks").bind
      (·.member "volume_class") with
  | some (.str volumeClass) =>
      if volumeClass ∈ includedClasses then
        if has (collected records subject "win.storage.disks") "is_online"
            (.bool true) then
          .candidate
        else .incomplete
      else if volumeClass ∈ excludedClasses then
        match trustedExclusionReason volumeClass records subject with
        | some reason => .excluded reason
        | none => .incomplete
      else .incomplete
  | _ => .incomplete

/-- `sorted(grouped)`. -/
def subjectsOf (records : List NormalizedEvidenceRecord) : List String :=
  Ordered.sortedSet (records.map (·.subjectKey))

def candidatesOf (records : List NormalizedEvidenceRecord) : List String :=
  (subjectsOf records).filter fun subject =>
    decide (classify records subject = .candidate)

def excludedOf (records : List NormalizedEvidenceRecord) :
    List ExcludedSubject :=
  (subjectsOf records).filterMap fun subject =>
    match classify records subject with
    | .excluded reason => some ⟨subject, reason⟩
    | _ => none

def classificationIncomplete (records : List NormalizedEvidenceRecord) :
    Bool :=
  (subjectsOf records).any fun subject =>
    decide (classify records subject = .incomplete)

/-- The error codes of the records that were not collected, of the subjects
that count. -/
def failureCodes (records : List NormalizedEvidenceRecord)
    (counts : String → Bool) : List String :=
  (records.filter fun record =>
    counts record.subjectKey && decide (record.collectionStatus ≠ "COLLECTED" ∧
      record.errorCode ≠ "NONE")).map (·.errorCode)

def requiredProbes : List String :=
  ["win.storage.disks", "win.storage.partitions", "win.storage.volumes"]

/-- `set(grouped[subject_id]) == required_probes`. -/
def hasRequiredProbes (records : List NormalizedEvidenceRecord)
    (subject : String) : Bool :=
  let probes := (records.filter fun record =>
    decide (record.subjectKey = subject)).map (·.probeId)
  decide (∀ probe ∈ probes, probe ∈ requiredProbes) &&
    decide (∀ probe ∈ requiredProbes, probe ∈ probes)

def candidateErrors (records : List NormalizedEvidenceRecord) : List String :=
  let candidates := candidatesOf records
  let failed := failureCodes records fun subject => decide (subject ∈ candidates)
  if candidates.any fun subject => !hasRequiredProbes records subject then
    failed ++ ["EVIDENCE_INCOMPLETE"]
  else failed

def evaluatePc07Applicability (records : List NormalizedEvidenceRecord) :
    ApplicabilityDecision :=
  let candidates := candidatesOf records
  let excluded := excludedOf records
  if classificationIncomplete records then
    let classificationErrors :=
      Ordered.sortedSet (failureCodes records fun _ => true)
    { status := .undetermined
      reasonCode := "VOLUME_CLASSIFICATION_INCOMPLETE"
      candidateVolumeIds := candidates
      excludedVolumes := excluded
      errorCodes :=
        if classificationErrors = [] then ["EVIDENCE_INCOMPLETE"]
        else classificationErrors }
  else if candidateErrors records ≠ [] then
    { status := .undetermined
      reasonCode := "VOLUME_EVIDENCE_INCOMPLETE"
      candidateVolumeIds := candidates
      excludedVolumes := excluded
      errorCodes := Ordered.sortedSet (candidateErrors records) }
  else if candidates = [] then
    { status := .undetermined
      reasonCode := "NO_EVALUATED_VOLUME"
      candidateVolumeIds := []
      excludedVolumes := excluded
      errorCodes := ["EVIDENCE_INCOMPLETE"] }
  else
    { status := .applicable
      reasonCode := "WINDOWS_FIXED_VOLUME_SET"
      candidateVolumeIds := candidates
      excludedVolumes := excluded
      errorCodes := [] }

end SecAI.Rules
