/-
Module: SecAI.Rules.VolumeClasses
Purpose: The PC-07 NTFS operator and the registry that runs it, what its reader
  of evidence has established, and the verdict that is due on the volumes.
Trusted boundary: the Unicode database is a parameter
Main exports:
  evaluatePc07Ntfs, parseEvidence, WellRead, Candidate, Compliant
-/
import SecAI.Auth.Passwords
import SecAI.Rules.Applicability
import Mathlib.Data.Prod.Lex
import SecAI.Common.Outcome
import Mathlib.Data.Multiset.Basic

namespace SecAI.Rules

open SecAI.Auth (UnicodeText)

/-- `_APPROVED_PARAMETERS` of the operator. -/
def approvedEvaluationParameters : List (String × Json) :=
  [("required_filesystem", .str "NTFS"),
    ("comparison_profile", .str "TRIM_CASE_INSENSITIVE_EXACT"),
    ("non_ntfs_status", .str "FAIL"),
    ("refs_status", .str "FAIL"),
    ("raw_status", .str "FAIL"),
    ("filesystem_unknown_status", .str "ERROR"),
    ("bitlocker_unknown_status", .str "ERROR"),
    ("aggregate_subject_scope", .str "VOLUME"),
    ("aggregate_subject_key", .str "pc07:evaluated-volume-set"),
    ("all_match_result_code", .str "ALL_EVALUATED_VOLUMES_NTFS"),
    ("non_match_result_code", .str "NON_NTFS_VOLUME_FOUND")]

def pc07EvaluationParametersAreApproved (parameters : Json) : Bool :=
  parametersAreApproved approvedEvaluationParameters parameters

def errorDecision (applicability : ApplicabilityDecision) (resultCode : String)
    (errorCodes : List String) : DecisionCandidate :=
  { status := .error
    applicability := applicability
    subjectScope := "VOLUME"
    subjectKey := "pc07:evaluated-volume-set"
    resultCode := resultCode
    evaluatedVolumeIds := []
    violatingVolumeIds := []
    errorCodes := errorCodes
    rationaleCode := resultCode }

/-- What the loop over the candidates reads of one volume. -/
inductive Filesystem where
  | named (filesystem : String)
  | unavailable
  | unhashable

/-- One round of the loop over the candidates.  The state is looked up in a
set, which takes hashable values only; a filesystem that is no string spares
the lookup. -/
def filesystemOf (volume : Option Json) : Filesystem :=
  match volume with
  | none => .unavailable
  | some volume =>
      match volume.member "filesystem" with
      | some (.str filesystem) =>
          match volume.member "bitlocker_state" with
          | some (.arr _) | some (.obj _) => .unhashable
          | some (.str state) =>
              if state ∈ ["LOCKED", "UNKNOWN"] then .unavailable
              else .named filesystem
          | _ => .named filesystem
      | _ => .unavailable

/-- `filesystems`, if the loop over the candidates comes to its end. -/
def collectFilesystems (records : List NormalizedEvidenceRecord) :
    List String → Except EvaluationFault (Option (List (String × String)))
  | [] => .ok (some [])
  | subject :: rest =>
      match filesystemOf (collected records subject "win.storage.volumes") with
      | .unavailable => .ok none
      | .unhashable => .error .typeError
      | .named filesystem =>
          match collectFilesystems records rest with
          | .ok (some filesystems) =>
              .ok (some ((subject, filesystem) :: filesystems))
          | outcome => outcome

/-- `filesystem.strip().casefold()`. -/
def folded (unicode : UnicodeText) (filesystem : String) : String :=
  unicode.casefold (unicode.strip filesystem)

/-- `result_code` and `rationale_code` of a violation. -/
def violationCodes (violatingFilesystems : List String) : String × String :=
  if violatingFilesystems.dedup = ["refs"] then
    ("NON_NTFS_REFS_FOUND", "REFS_KISA_NTFS_CONDITION_MISMATCH")
  else if violatingFilesystems.dedup = ["raw"] then
    ("NON_NTFS_RAW_VOLUME_FOUND", "NON_NTFS_RAW_VOLUME_FOUND")
  else ("NON_NTFS_VOLUME_FOUND", "NON_NTFS_VOLUME_FOUND")

/-- The decision once every candidate has a filesystem. -/
def decideFilesystems (unicode : UnicodeText)
    (applicability : ApplicabilityDecision)
    (filesystems : List (String × String)) : DecisionCandidate :=
  let ordered := Ordered.sortedBy Prod.fst filesystems
  let violating := ordered.filter fun entry =>
    decide (folded unicode entry.2 ≠ "ntfs")
  if violating = [] then
    { status := .compliant
      applicability := applicability
      subjectScope := "VOLUME"
      subjectKey := "pc07:evaluated-volume-set"
      resultCode := "ALL_EVALUATED_VOLUMES_NTFS"
      evaluatedVolumeIds := ordered.map Prod.fst
      violatingVolumeIds := []
      errorCodes := []
      rationaleCode := "ALL_EVALUATED_VOLUMES_NTFS" }
  else
    let codes := violationCodes (violating.map fun entry =>
      folded unicode entry.2)
    { status := .noncompliant
      applicability := applicability
      subjectScope := "VOLUME"
      subjectKey := "pc07:evaluated-volume-set"
      resultCode := codes.1
      evaluatedVolumeIds := ordered.map Prod.fst
      violatingVolumeIds := violating.map Prod.fst
      errorCodes := []
      rationaleCode := codes.2 }

def evaluatePc07Ntfs (unicode : UnicodeText)
    (applicability : ApplicabilityDecision)
    (records : List NormalizedEvidenceRecord) :
    Except EvaluationFault DecisionCandidate :=
  if applicability.status = .undetermined then
    let resultCode :=
      if applicability.reasonCode = "VOLUME_EVIDENCE_INCOMPLETE" then
        "VOLUME_COLLECTION_FAILED"
      else applicability.reasonCode
    .ok (errorDecision applicability resultCode applicability.errorCodes)
  else
    match collectFilesystems records applicability.candidateVolumeIds with
    | .error fault => .error fault
    | .ok none =>
        .ok (errorDecision applicability "VOLUME_FILESYSTEM_UNAVAILABLE"
          ["EVIDENCE_INCOMPLETE"])
    | .ok (some filesystems) =>
        .ok (decideFilesystems unicode applicability filesystems)

/-- `_reject`. -/
def refusal (code : RuleEngineCode) (message : String) : EvaluationFault :=
  .ruleEngine code message

def mapping : Option Json → Except EvaluationFault Json
  | some (.obj members) => .ok (.obj members)
  | _ => .error (refusal .evaluationInputInvalid "Expected an object value.")

def string (document : Json) (key : String) :
    Except EvaluationFault String :=
  match document.member key with
  | some (.str value) =>
      if value = "" then
        .error (refusal .evaluationInputInvalid
          "Expected a non-empty string field.")
      else .ok value
  | _ =>
      .error (refusal .evaluationInputInvalid
        "Expected a non-empty string field.")

/-- A rule reference that has been read. -/
structure RuleReference where
  ruleId : String
  ruleVersion : String
  parameters : Json

def ruleReference (rule : Json) : Except EvaluationFault RuleReference := do
  ensure (hasExactKeys rule ["rule_id", "rule_version", "parameters"] = true)
    (refusal .ruleParametersInvalid "Rule reference fields are invalid.")
  let ruleId ← string rule "rule_id"
  let ruleVersion ← string rule "rule_version"
  let parameters ← mapping (rule.member "parameters")
  return ⟨ruleId, ruleVersion, parameters⟩

def pc07Probes : List String :=
  ["win.storage.disks", "win.storage.partitions", "win.storage.volumes"]

/-- Job, asset and package of a record. -/
def NormalizedEvidenceRecord.context (record : NormalizedEvidenceRecord) :
    String × String × String :=
  (record.jobId, record.assetId, record.packageId)

def NormalizedEvidenceRecord.uniqueKey (record : NormalizedEvidenceRecord) :
    String × String :=
  (record.subjectKey, record.probeId)

/-- `normalized_value` of an evidence document. -/
def normalizedValue (item : Json) (collectionStatus subjectKey : String) :
    Except EvaluationFault (Option Json) :=
  if collectionStatus = "COLLECTED" then do
    let value ← mapping (item.member "normalized_value")
    ensure (value.member "volume_id" = some (.str subjectKey))
      (refusal .evaluationInputInvalid
        "Normalized volume ID differs from the subject.")
    return some value
  else do
    ensure (item.member "normalized_value" = none)
      (refusal .evaluationInputInvalid
        "Failed evidence cannot contain a normalized value.")
    return none

/-- One round of the loop over the evidence, behind the records that have been
read. -/
def parseItem (controlId : String) (parsed : List NormalizedEvidenceRecord)
    (item : Json) : Except EvaluationFault NormalizedEvidenceRecord := do
  let itemControlId ← string item "control_id"
  ensure (itemControlId = controlId)
    (refusal .evaluationInputInvalid "Evidence Control scope differs.")
  let jobId ← string item "job_id"
  let assetId ← string item "asset_id"
  let packageId ← string item "package_id"
  ensure (∀ first ∈ parsed.head?, first.context = (jobId, assetId, packageId))
    (refusal .evaluationInputInvalid "Evidence package scope differs.")
  let subject ← mapping (item.member "subject")
  let scope ← string subject "scope"
  ensure (scope = "VOLUME")
    (refusal .evaluationInputInvalid "PC-07 requires VOLUME evidence.")
  let subjectKey ← string subject "subject_key"
  let probeId ← string item "probe_id"
  let probeVersion ← string item "probe_version"
  ensure (probeId ∈ pc07Probes ∧ probeVersion = "0.1.0")
    (refusal .evaluationInputInvalid "Evidence Probe is not allowed.")
  ensure ((subjectKey, probeId) ∉ parsed.map (·.uniqueKey))
    (refusal .evaluationInputInvalid "Duplicate subject Probe evidence.")
  let collectionStatus ← string item "collection_status"
  let errorCode ← string item "error_code"
  ensure (collectionStatus ∈ ["COLLECTED", "ERROR", "SKIPPED"])
    (refusal .evaluationInputInvalid "Collection status is invalid.")
  ensure (collectionStatus = "COLLECTED" ↔ errorCode = "NONE")
    (refusal .evaluationInputInvalid "Collection error state is invalid.")
  let value ← normalizedValue item collectionStatus subjectKey
  let evidenceId ← string item "id"
  return {
    evidenceId := evidenceId
    jobId := jobId
    assetId := assetId
    packageId := packageId
    controlId := itemControlId
    subjectKey := subjectKey
    probeId := probeId
    probeVersion := probeVersion
    collectionStatus := collectionStatus
    errorCode := errorCode
    normalizedValue := value }

def parseItems (controlId : String) (evidence : List Json) :
    Except EvaluationFault (List NormalizedEvidenceRecord) :=
  evidence.foldlM (fun parsed item => do
    let record ← parseItem controlId parsed item
    return parsed ++ [record]) []

def recordOrder (record : NormalizedEvidenceRecord) :
    String ×ₗ String ×ₗ String :=
  toLex (record.subjectKey, toLex (record.probeId, record.evidenceId))

def parseEvidence (controlId : String) (evidence : List Json) :
    Except EvaluationFault (List NormalizedEvidenceRecord) := do
  let parsed ← parseItems controlId evidence
  ensure (parsed ≠ [])
    (refusal .evaluationInputInvalid "Evidence set is empty.")
  return Ordered.sortedBy recordOrder parsed

def checkRules (controlId : String) (applicabilityRule evaluationRule : Json) :
    Except EvaluationFault Unit := do
  let applicability ← ruleReference applicabilityRule
  let evaluation ← ruleReference evaluationRule
  ensure (controlId = "PC-07" ∧
      (applicability.ruleId, applicability.ruleVersion) =
        ("pc07.applicability", "0.1.0") ∧
      (evaluation.ruleId, evaluation.ruleVersion) = ("pc07.ntfs", "0.1.0"))
    (refusal .ruleNotAllowed "Rule ID or version is not allowlisted.")
  ensure (pc07ApplicabilityParametersAreApproved applicability.parameters = true)
    (refusal .ruleParametersInvalid
      "Applicability parameters differ from the approved rule version.")
  ensure (pc07EvaluationParametersAreApproved evaluation.parameters = true)
    (refusal .ruleParametersInvalid
      "Evaluation parameters differ from the approved rule version.")

/-- `RuleRegistry.evaluate`. -/
def evaluate (unicode : UnicodeText) (controlId : String)
    (applicabilityRule evaluationRule : Json) (evidence : List Json) :
    Except EvaluationFault DecisionCandidate := do
  checkRules controlId applicabilityRule evaluationRule
  let records ← parseEvidence controlId evidence
  evaluatePc07Ntfs unicode (evaluatePc07Applicability records) records

/-- The document is about this subject. -/
def About (item : Json) (subject : String) : Prop :=
  ∃ document, item.member "subject" = some document ∧
    document.member "subject_key" = some (.str subject)

/-- The evidence has a document about this subject. -/
def IsSubject (evidence : Multiset Json) (subject : String) : Prop :=
  ∃ item ∈ evidence, About item subject

/-- A probe has collected this value of the subject. -/
def Reports (evidence : Multiset Json) (subject probe : String)
    (value : Json) : Prop :=
  ∃ item ∈ evidence, About item subject ∧
    item.member "probe_id" = some (.str probe) ∧
    item.member "collection_status" = some (.str "COLLECTED") ∧
    item.member "normalized_value" = some value

theorem string_eq_ok {document : Json} {key value : String} :
    string document key = .ok value ↔
      document.member key = some (.str value) ∧ value ≠ "" := by
  unfold string
  split
  next found same =>
    split
    next empty =>
      simp only [reduceCtorEq, same, Option.some.injEq, Json.str.injEq,
        false_iff, not_and, not_not]
      rintro rfl
      exact empty
    next present =>
      simp only [Except.ok.injEq, same, Option.some.injEq, Json.str.injEq]
      constructor
      · rintro rfl
        exact ⟨rfl, present⟩
      · exact And.left
  next other =>
    simp only [reduceCtorEq, false_iff, not_and]
    intro same
    exact (other value same).elim

theorem mapping_eq_ok {document : Option Json} {value : Json} :
    mapping document = .ok value ↔
      document = some value ∧ value.isObject = true := by
  unfold mapping
  split
  next members =>
    simp only [Except.ok.injEq, Option.some.injEq]
    constructor
    · rintro rfl
      exact ⟨rfl, rfl⟩
    · exact And.left
  next other =>
    simp only [reduceCtorEq, false_iff, not_and]
    rintro rfl object
    cases value with
    | obj members => exact other members rfl
    | _ => cases object

variable {item : Json} {subject : String}

theorem normalizedValue_eq_ok {status : String} {value : Option Json} :
    normalizedValue item status subject = .ok value ↔
      if status = "COLLECTED" then
        ∃ collected, value = some collected ∧ collected.isObject = true ∧
          item.member "normalized_value" = some collected ∧
          collected.member "volume_id" = some (.str subject)
      else item.member "normalized_value" = none ∧ value = none := by
  unfold normalizedValue
  split
  case isTrue taken =>
    simp only [Outcome.bind_eq_ok, mapping_eq_ok, ensure_eq_ok]
    constructor
    · rintro ⟨collected, ⟨found, object⟩, _, same, done⟩
      cases done
      exact ⟨collected, rfl, object, found, same⟩
    · rintro ⟨collected, rfl, object, found, same⟩
      exact ⟨collected, ⟨found, object⟩, (), same, rfl⟩
  case isFalse failed =>
    simp only [Outcome.bind_eq_ok, ensure_eq_ok]
    constructor
    · rintro ⟨_, absent, done⟩
      cases done
      exact ⟨absent, rfl⟩
    · rintro ⟨absent, rfl⟩
      exact ⟨(), absent, rfl⟩

/-- What the reader has established of a document and its record. -/
structure ItemRecord (item : Json) (record : NormalizedEvidenceRecord) :
    Prop where
  subject : About item record.subjectKey
  probe : item.member "probe_id" = some (.str record.probeId)
  probeAllowed : record.probeId ∈ pc07Probes
  status : item.member "collection_status" = some (.str record.collectionStatus)
  succeeded : record.collectionStatus = "COLLECTED" ↔ record.errorCode = "NONE"
  value : record.collectionStatus = "COLLECTED" →
    ∃ collected, record.normalizedValue = some collected ∧
      item.member "normalized_value" = some collected

theorem About.unique {other : String} (first : About item subject)
    (second : About item other) : subject = other := by
  obtain ⟨document, found, same⟩ := first
  obtain ⟨again, foundAgain, sameAgain⟩ := second
  rw [found, Option.some.injEq] at foundAgain
  subst foundAgain
  rw [same, Option.some.injEq, Json.str.injEq] at sameAgain
  exact sameAgain

theorem ItemRecord.probe_unique {item : Json}
    {record : NormalizedEvidenceRecord} {probe : String}
    (made : ItemRecord item record)
    (isProbe : item.member "probe_id" = some (.str probe)) :
    record.probeId = probe := by
  have same := made.probe
  rw [isProbe, Option.some.injEq, Json.str.injEq] at same
  exact same.symm

variable {controlId : String}

theorem parseItem_eq_ok {parsed : List NormalizedEvidenceRecord}
    {record : NormalizedEvidenceRecord}
    (done : parseItem controlId parsed item = .ok record) :
    ItemRecord item record ∧ record.uniqueKey ∉ parsed.map (·.uniqueKey) := by
  simp only [parseItem, Outcome.bind_eq_ok, string_eq_ok, mapping_eq_ok,
    ensure_eq_ok, normalizedValue_eq_ok] at done
  obtain ⟨itemControlId, -, _, -, jobId, -, assetId, -, packageId, -, _, -,
    subject, ⟨subjectFound, -⟩, scope, -, _, -, subjectKey, ⟨keyFound, -⟩,
    probeId, ⟨probeFound, -⟩, probeVersion, -, _, ⟨allowed, -⟩, _, unseen,
    collectionStatus, ⟨statusFound, -⟩, errorCode, -, _, -, _, succeeded,
    value, valueRead, evidenceId, -, built⟩ := done
  cases built
  constructor
  case left =>
    exact {
      subject := ⟨subject, subjectFound, keyFound⟩
      probe := probeFound
      probeAllowed := allowed
      status := statusFound
      succeeded := succeeded
      value := by
        intro taken
        rw [if_pos taken] at valueRead
        obtain ⟨collected, same, -, found, -⟩ := valueRead
        exact ⟨collected, same, found⟩ }
  case right => exact unseen

/-- What the reader has established of the documents and the records. -/
structure WellRead (evidence : Multiset Json)
    (records : List NormalizedEvidenceRecord) : Prop where
  distinct : (records.map (·.uniqueKey)).Nodup
  recorded : ∀ item ∈ evidence, ∃ record ∈ records, ItemRecord item record
  documented : ∀ record ∈ records, ∃ item ∈ evidence, ItemRecord item record

theorem parseItems_eq_ok {evidence : List Json}
    {records : List NormalizedEvidenceRecord}
    (done : parseItems controlId evidence = .ok records) :
    WellRead evidence records := by
  rw [← List.nil_append evidence]
  refine Outcome.foldlM_invariant
    (fun (items : List Json) (parsed : List NormalizedEvidenceRecord) =>
      WellRead items parsed) ?_ ?_ done
  case refine_1 =>
    intro earlier parsed item next before step
    obtain ⟨record, read, rest⟩ := Outcome.bind_eq_ok.mp step
    cases rest
    obtain ⟨made, unseen⟩ := parseItem_eq_ok read
    constructor
    case distinct =>
      rw [List.map_append, List.nodup_append]
      refine ⟨before.distinct, List.nodup_singleton _, ?_⟩
      intro key seen other last same
      rw [List.map_singleton, List.mem_singleton] at last
      exact unseen (last ▸ same ▸ seen)
    case recorded =>
      intro document member
      rcases List.mem_append.mp (Multiset.mem_coe.mp member) with old | new
      · obtain ⟨found, inParsed, made⟩ := before.recorded document old
        exact ⟨found, List.mem_append_left _ inParsed, made⟩
      · cases List.mem_singleton.mp new
        exact ⟨record, List.mem_append_right _ List.mem_cons_self, made⟩
    case documented =>
      intro found member
      rcases List.mem_append.mp member with old | new
      · obtain ⟨document, inEarlier, made⟩ := before.documented found old
        exact ⟨document, List.mem_append_left _ inEarlier, made⟩
      · cases List.mem_singleton.mp new
        exact ⟨item, List.mem_append_right _ List.mem_cons_self, made⟩
  case refine_2 =>
    constructor
    case distinct => exact List.nodup_nil
    case recorded => simp
    case documented => simp

theorem parseEvidence_wellRead {evidence : List Json}
    {records : List NormalizedEvidenceRecord}
    (done : parseEvidence controlId evidence = .ok records) :
    WellRead evidence records := by
  simp only [parseEvidence, Outcome.bind_eq_ok, ensure_eq_ok] at done
  obtain ⟨parsed, read, _, -, sorted⟩ := done
  cases sorted
  have unsorted := parseItems_eq_ok read
  have same := Ordered.sortedBy_perm recordOrder parsed
  constructor
  case distinct => exact (same.map _).nodup_iff.mpr unsorted.distinct
  case recorded =>
    intro item member
    obtain ⟨record, inParsed, made⟩ := unsorted.recorded item member
    exact ⟨record, same.mem_iff.mpr inParsed, made⟩
  case documented =>
    intro record member
    exact unsorted.documented record (same.mem_iff.mp member)

namespace WellRead

variable {evidence : Multiset Json} {records : List NormalizedEvidenceRecord}

/-- The record of a subject and a probe is the only one. -/
theorem recordOf_eq_some (read : WellRead evidence records) {probe : String}
    {record : NormalizedEvidenceRecord} :
    recordOf records subject probe = some record ↔
      record ∈ records ∧ record.subjectKey = subject ∧
        record.probeId = probe := by
  constructor
  case mp =>
    intro last
    have member := List.mem_of_getLast? last
    rw [List.mem_filter, decide_eq_true_eq] at member
    exact member
  case mpr =>
    rintro ⟨member, rfl, rfl⟩
    have inFilter : record ∈ records.filter fun other =>
        decide (other.subjectKey = record.subjectKey ∧
          other.probeId = record.probeId) :=
      List.mem_filter.mpr ⟨member, by simp⟩
    have some_last : ∃ last, recordOf records record.subjectKey
        record.probeId = some last := by
      unfold recordOf
      cases given : List.getLast? _ with
      | some last => exact ⟨last, rfl⟩
      | none =>
          rw [List.getLast?_eq_none_iff] at given
          rw [given] at inFilter
          cases inFilter
    obtain ⟨last, found⟩ := some_last
    have lastMember := List.mem_of_getLast? found
    rw [List.mem_filter, decide_eq_true_eq] at lastMember
    obtain ⟨inRecords, sameSubject, sameProbe⟩ := lastMember
    rw [found, Option.some.injEq]
    refine List.inj_on_of_nodup_map read.distinct inRecords member ?_
    exact Prod.ext sameSubject sameProbe

/-- What was collected is what the documents report. -/
theorem collected_iff (read : WellRead evidence records) {probe : String}
    {value : Json} :
    collected records subject probe = some value ↔
      Reports evidence subject probe value := by
  constructor
  case mp =>
    intro found
    unfold collected valueOf at found
    split at found
    next record isRecord =>
      obtain ⟨member, rfl, rfl⟩ := read.recordOf_eq_some.mp isRecord
      obtain ⟨item, inEvidence, made⟩ := read.documented record member
      split at found
      next taken =>
        obtain ⟨given, same, inItem⟩ := made.value taken
        rw [same, Option.some.injEq] at found
        subst found
        exact ⟨item, inEvidence, made.subject, made.probe,
          taken ▸ made.status, inItem⟩
      next failed => cases found
    next => cases found
  case mpr =>
    rintro ⟨item, inEvidence, isAbout, isProbe, isStatus, isValue⟩
    obtain ⟨record, member, made⟩ := read.recorded item inEvidence
    have taken := made.status
    rw [isStatus, Option.some.injEq, Json.str.injEq] at taken
    obtain ⟨given, same, inItem⟩ := made.value taken.symm
    rw [isValue, Option.some.injEq] at inItem
    subst inItem
    have isRecord := read.recordOf_eq_some.mpr
      ⟨member, made.subject.unique isAbout, made.probe_unique isProbe⟩
    rw [collected, isRecord]
    simp [valueOf, taken.symm, same]

theorem mem_subjectsOf (read : WellRead evidence records) :
    subject ∈ subjectsOf records ↔ IsSubject evidence subject := by
  rw [subjectsOf, Ordered.mem_sortedSet, List.mem_map]
  constructor
  case mp =>
    rintro ⟨record, member, rfl⟩
    obtain ⟨item, inEvidence, made⟩ := read.documented record member
    exact ⟨item, inEvidence, made.subject⟩
  case mpr =>
    rintro ⟨item, inEvidence, isAbout⟩
    obtain ⟨record, member, made⟩ := read.recorded item inEvidence
    exact ⟨record, member, made.subject.unique isAbout⟩

/-- No record of the subject has failed and none is missing exactly when each
probe has collected a value. -/
theorem complete_iff (read : WellRead evidence records) :
    hasRequiredProbes records subject = true ∧
        (∀ record ∈ records, record.subjectKey = subject →
          record.collectionStatus = "COLLECTED") ↔
      ∀ probe ∈ pc07Probes, ∃ value, Reports evidence subject probe value := by
  constructor
  case mp =>
    rintro ⟨required, succeeded⟩ probe inProbes
    simp only [hasRequiredProbes, Bool.and_eq_true, decide_eq_true_eq,
      List.mem_map, List.mem_filter] at required
    obtain ⟨record, ⟨member, sameSubject⟩, sameProbe⟩ :=
      required.2 probe inProbes
    have taken := succeeded record member sameSubject
    obtain ⟨item, -, made⟩ := read.documented record member
    obtain ⟨value, isValue, -⟩ := made.value taken
    refine ⟨value, read.collected_iff.mp ?_⟩
    rw [collected, read.recordOf_eq_some.mpr ⟨member, sameSubject, sameProbe⟩]
    simp [valueOf, taken, isValue]
  case mpr =>
    intro reported
    have eachTaken : ∀ record ∈ records, record.subjectKey = subject →
        record.collectionStatus = "COLLECTED" := by
      intro record member sameSubject
      obtain ⟨item, -, made⟩ := read.documented record member
      obtain ⟨value, reports⟩ := reported record.probeId made.probeAllowed
      have found := read.collected_iff.mpr reports
      rw [collected, read.recordOf_eq_some.mpr ⟨member, sameSubject, rfl⟩]
        at found
      simp only [valueOf] at found
      split at found
      next taken => exact taken
      next failed => cases found
    refine ⟨?_, eachTaken⟩
    simp only [hasRequiredProbes, Bool.and_eq_true, decide_eq_true_eq,
      List.mem_map, List.mem_filter]
    constructor
    · rintro probe ⟨record, ⟨member, -⟩, rfl⟩
      obtain ⟨item, -, made⟩ := read.documented record member
      exact made.probeAllowed
    · intro probe inProbes
      obtain ⟨value, reports⟩ := reported probe inProbes
      obtain ⟨item, inEvidence, isAbout, isProbe, -⟩ := reports
      obtain ⟨record, member, made⟩ := read.recorded item inEvidence
      exact ⟨record, ⟨member, made.subject.unique isAbout⟩,
        made.probe_unique isProbe⟩

end WellRead

section Specification

variable (evidence : Multiset Json)

/-- A probe has collected a value of the subject with this member. -/
def ReportsMember (subject probe key : String) (expected : Json) : Prop :=
  ∃ value, Reports evidence subject probe value ∧
    value.member key = some expected

/-- What makes the exclusion of a volume of a class trusted. -/
inductive TrustedReason (subject volumeClass : String) : Prop where
  | partition {role reason : String}
      (listed : (volumeClass, role, reason) ∈ partitionExclusions)
      (identified : ∃ partition,
        Reports evidence subject "win.storage.partitions" partition ∧
          partition.member "partition_role" = some (.str role) ∧
          partition.member "trusted_role_identity" = some (.bool true))
  | detachedImage (named : volumeClass = "DETACHED_DISK_IMAGE")
      (detached : ∃ disk, Reports evidence subject "win.storage.disks" disk ∧
        disk.member "disk_image_state" = some (.str "DETACHED") ∧
        disk.member "is_online" = some (.bool false))
  | optical (named : volumeClass = "OPTICAL_VOLUME")
      (drive : ReportsMember evidence subject "win.storage.volumes"
        "drive_type" (.str "CDROM"))
  | removableDrive (named : volumeClass = "REMOVABLE_VOLUME")
      (drive : ReportsMember evidence subject "win.storage.volumes"
        "drive_type" (.str "REMOVABLE"))
  | removableDisk (named : volumeClass = "REMOVABLE_VOLUME")
      (disk : ReportsMember evidence subject "win.storage.disks"
        "is_removable" (.bool true))
  | network (named : volumeClass = "NETWORK_VOLUME")
      (drive : ReportsMember evidence subject "win.storage.volumes"
        "drive_type" (.str "NETWORK"))
  | ramDisk (named : volumeClass = "VOLATILE_RAM_DISK")
      (drive : ReportsMember evidence subject "win.storage.volumes"
        "drive_type" (.str "RAMDISK"))

/-- The subject is a disk of an excluded class, for a trusted reason. -/
def TrustedExclusion (subject : String) : Prop :=
  ∃ volumeClass, ReportsMember evidence subject "win.storage.disks"
      "volume_class" (.str volumeClass) ∧
    TrustedReason evidence subject volumeClass

/-- The subject is an online disk of an included class. -/
def Candidate (subject : String) : Prop :=
  ∃ disk, Reports evidence subject "win.storage.disks" disk ∧
    (∃ volumeClass ∈ includedClasses,
      disk.member "volume_class" = some (.str volumeClass)) ∧
    disk.member "is_online" = some (.bool true)

/-- Every probe has collected a value of the subject. -/
def Complete (subject : String) : Prop :=
  ∀ probe ∈ pc07Probes, ∃ value, Reports evidence subject probe value

/-- The volume has a filesystem string and a BitLocker state that is neither
locked nor unknown. -/
def Readable (volume : Json) (filesystem : String) : Prop :=
  volume.member "filesystem" = some (.str filesystem) ∧
    volume.member "bitlocker_state" ≠ some (.str "LOCKED") ∧
    volume.member "bitlocker_state" ≠ some (.str "UNKNOWN")

/-- The filesystem of a readable volume. -/
def HasFilesystem (subject filesystem : String) : Prop :=
  ∃ volume, Reports evidence subject "win.storage.volumes" volume ∧
    Readable volume filesystem

/-- The evidence decides: there is a candidate, every subject is a candidate
or excluded, and every candidate is complete and readable. -/
structure Decided : Prop where
  candidate : ∃ subject, Candidate evidence subject
  classified : ∀ subject, IsSubject evidence subject →
    TrustedExclusion evidence subject ∨ Candidate evidence subject
  complete : ∀ subject, Candidate evidence subject → Complete evidence subject
  readable : ∀ subject, Candidate evidence subject →
    ∃ filesystem, HasFilesystem evidence subject filesystem

/-- PASS is due: every candidate has NTFS. -/
def Compliant (unicode : UnicodeText) : Prop :=
  Decided evidence ∧ ∀ subject, Candidate evidence subject →
    ∃ filesystem, HasFilesystem evidence subject filesystem ∧
      folded unicode filesystem = "ntfs"

/-- FAIL is due: some candidate has another filesystem. -/
def Noncompliant (unicode : UnicodeText) : Prop :=
  Decided evidence ∧ ∃ subject, Candidate evidence subject ∧
    ∃ filesystem, HasFilesystem evidence subject filesystem ∧
      folded unicode filesystem ≠ "ntfs"

/-- No subject is dropped: each is evaluated, or excluded with a reason, or
the decision says that the classification is incomplete. -/
structure NothingDropped (decision : DecisionCandidate) : Prop where
  accounted : ∀ subject, IsSubject evidence subject →
    subject ∈ decision.applicability.candidateVolumeIds ∨
    subject ∈ decision.applicability.excludedVolumes.map (·.subjectId) ∨
    decision.status = .error ∧
      decision.resultCode = "VOLUME_CLASSIFICATION_INCOMPLETE"
  evaluated : decision.status ≠ .error →
    decision.evaluatedVolumeIds = decision.applicability.candidateVolumeIds

/-- There is a decision, it is the one that is due, and it drops no
subject. -/
def Characterised (unicode : UnicodeText)
    (outcome : Except EvaluationFault DecisionCandidate) : Prop :=
  ∃ decision, outcome = .ok decision ∧
    (decision.status = .compliant ↔ Compliant evidence unicode) ∧
    (decision.status = .noncompliant ↔ Noncompliant evidence unicode) ∧
    (decision.status = .error ↔
      ¬Compliant evidence unicode ∧ ¬Noncompliant evidence unicode) ∧
    NothingDropped evidence decision

/-- The volume has a filesystem string, and its BitLocker state is an array or
an object, which no set can be asked for. -/
def UnhashableState (subject : String) : Prop :=
  ∃ volume, Reports evidence subject "win.storage.volumes" volume ∧
    (∃ filesystem, volume.member "filesystem" = some (.str filesystem)) ∧
    ((∃ items, volume.member "bitlocker_state" = some (.arr items)) ∨
      ∃ members, volume.member "bitlocker_state" = some (.obj members))

/-- The volume has no filesystem string, or a BitLocker state that is locked
or unknown. -/
def Unavailable (subject : String) : Prop :=
  ∃ volume, Reports evidence subject "win.storage.volumes" volume ∧
    ∀ filesystem, ¬Readable volume filesystem

/-- No unhashable state is looked up: a candidate that has one stands behind
something that ends the evaluation earlier, a subject without a class, a
candidate without a value, or an unavailable candidate that precedes it. -/
def StatesAreHashable : Prop :=
  ∀ subject, Candidate evidence subject → UnhashableState evidence subject →
    (∃ other, IsSubject evidence other ∧
      ¬TrustedExclusion evidence other ∧ ¬Candidate evidence other) ∨
    (∃ other, Candidate evidence other ∧ ¬Complete evidence other) ∨
    ∃ other < subject, Candidate evidence other ∧ Unavailable evidence other

end Specification

section Classes

variable {evidence : Multiset Json} {records : List NormalizedEvidenceRecord}

variable {subject probe : String}

theorem has_iff (read : WellRead evidence records) {key : String}
    {expected : Json} :
    has (collected records subject probe) key expected = true ↔
      ReportsMember evidence subject probe key expected := by
  unfold has ReportsMember
  split
  next value found =>
    rw [decide_eq_true_eq]
    constructor
    · intro same
      exact ⟨value, read.collected_iff.mp found, same⟩
    · rintro ⟨other, reports, same⟩
      rw [read.collected_iff.mpr reports, Option.some.injEq] at found
      subst found
      exact same
  next absent =>
    simp only [Bool.false_eq_true, false_iff, not_exists, not_and]
    intro other reports
    rw [read.collected_iff.mpr reports] at absent
    cases absent

theorem Reports.unique (read : WellRead evidence records) {value other : Json}
    (first : Reports evidence subject probe value)
    (second : Reports evidence subject probe other) : value = other := by
  have found := read.collected_iff.mpr first
  rw [read.collected_iff.mpr second, Option.some.injEq] at found
  exact found.symm

theorem has_both_iff (read : WellRead evidence records)
    {firstKey secondKey : String} {first second : Json} :
    (has (collected records subject probe) firstKey first &&
        has (collected records subject probe) secondKey second) = true ↔
      ∃ value, Reports evidence subject probe value ∧
        value.member firstKey = some first ∧
        value.member secondKey = some second := by
  rw [Bool.and_eq_true, has_iff read, has_iff read]
  constructor
  · rintro ⟨⟨value, reports, same⟩, other, reportsOther, sameOther⟩
    cases reports.unique read reportsOther
    exact ⟨value, reports, same, sameOther⟩
  · rintro ⟨value, reports, same, sameOther⟩
    exact ⟨⟨value, reports, same⟩, value, reports, sameOther⟩

variable {volumeClass : String}

theorem TrustedReason.class_excluded
    (reason : TrustedReason evidence subject volumeClass) :
    volumeClass ∈ excludedClasses := by
  cases reason with
  | partition listed identified =>
      simp only [partitionExclusions, List.mem_cons, Prod.mk.injEq,
        List.not_mem_nil, or_false] at listed
      rcases listed with named | named | named | named <;>
        simp [named.1, excludedClasses]
  | detachedImage named _ | optical named _ | removableDrive named _
  | removableDisk named _ | network named _ | ramDisk named _ =>
      simp [named, excludedClasses]

theorem not_included_of_excluded (excluded : volumeClass ∈ excludedClasses) :
    volumeClass ∉ includedClasses := by
  simp only [excludedClasses, List.mem_cons, List.not_mem_nil, or_false]
    at excluded
  rcases excluded with named | named | named | named | named | named |
    named | named | named <;> simp [named, includedClasses]

theorem lookup_partitionExclusions {entry : String × String} :
    partitionExclusions.lookup volumeClass = some entry ↔
      (volumeClass, entry) ∈ partitionExclusions := by
  constructor
  case mp =>
    intro found
    obtain ⟨before, after, same, -⟩ := List.lookup_eq_some_iff.mp found
    rw [same]
    simp
  case mpr =>
    intro listed
    simp only [partitionExclusions, List.mem_cons, Prod.mk.injEq,
      List.not_mem_nil, or_false] at listed
    rcases listed with named | named | named | named <;>
      simp [named.1, named.2, partitionExclusions, List.lookup_cons]

theorem exists_reason_iff {passed : Bool} {reason : String} :
    (∃ found, (if passed then some reason else none) = some found) ↔
      passed = true := by
  cases passed with
  | true => simp
  | false => simp

theorem trustedReason_iff (read : WellRead evidence records) :
    (∃ reason, trustedExclusionReason volumeClass records subject =
        some reason) ↔ TrustedReason evidence subject volumeClass := by
  unfold trustedExclusionReason
  cases found : partitionExclusions.lookup volumeClass with
  | some entry =>
      obtain ⟨role, code⟩ := entry
      dsimp only
      rw [exists_reason_iff, has_both_iff read]
      constructor
      case mp =>
        exact .partition (lookup_partitionExclusions.mp found)
      case mpr =>
        intro reason
        cases reason with
        | partition listed identified =>
            rw [lookup_partitionExclusions.mpr listed, Option.some.injEq,
              Prod.mk.injEq] at found
            exact found.1 ▸ identified
        | detachedImage named _ | optical named _ | removableDrive named _
        | removableDisk named _ | network named _ | ramDisk named _ =>
            rw [named] at found
            simp [partitionExclusions, List.lookup_cons] at found
  | none =>
      dsimp only
      constructor
      case mp =>
        intro checked
        split at checked
        case isTrue named =>
          exact .detachedImage named
            ((has_both_iff read).mp (exists_reason_iff.mp checked))
        case isFalse =>
        split at checked
        case isTrue named =>
          exact .optical named ((has_iff read).mp (exists_reason_iff.mp checked))
        case isFalse =>
        split at checked
        case isTrue named =>
          rw [exists_reason_iff, Bool.or_eq_true, has_iff read, has_iff read]
            at checked
          rcases checked with drive | disk
          · exact .removableDrive named drive
          · exact .removableDisk named disk
        case isFalse =>
        split at checked
        case isTrue named =>
          exact .network named ((has_iff read).mp (exists_reason_iff.mp checked))
        case isFalse =>
        split at checked
        case isTrue named =>
          exact .ramDisk named ((has_iff read).mp (exists_reason_iff.mp checked))
        case isFalse =>
          simp at checked
      case mpr =>
        intro reason
        cases reason with
        | partition listed identified =>
            rw [lookup_partitionExclusions.mpr listed] at found
            cases found
        | detachedImage named detached =>
            rw [if_pos named]
            exact exists_reason_iff.mpr ((has_both_iff read).mpr detached)
        | optical named drive =>
            simp [named, (has_iff read).mpr drive]
        | removableDrive named drive =>
            simp [named, (has_iff read).mpr drive]
        | removableDisk named disk =>
            simp [named, (has_iff read).mpr disk]
        | network named drive =>
            simp [named, (has_iff read).mpr drive]
        | ramDisk named drive =>
            simp [named, (has_iff read).mpr drive]

theorem volumeClass_iff (read : WellRead evidence records) :
    (collected records subject "win.storage.disks").bind
        (·.member "volume_class") = some (.str volumeClass) ↔
      ReportsMember evidence subject "win.storage.disks" "volume_class"
        (.str volumeClass) := by
  rw [Option.bind_eq_some_iff]
  exact exists_congr fun _ => and_congr_left fun _ => read.collected_iff

theorem classify_candidate (read : WellRead evidence records) :
    classify records subject = .candidate ↔ Candidate evidence subject := by
  unfold classify
  constructor
  case mp =>
    intro decided
    split at decided
    next volumeClass found =>
      obtain ⟨disk, reports, named⟩ := (volumeClass_iff read).mp found
      split at decided
      case isTrue included =>
        split at decided
        case isTrue online =>
          obtain ⟨other, again, isOnline⟩ := (has_iff read).mp online
          cases reports.unique read again
          exact ⟨disk, reports, ⟨volumeClass, included, named⟩, isOnline⟩
        case isFalse => cases decided
      case isFalse =>
        split at decided
        case isTrue => split at decided <;> cases decided
        case isFalse => cases decided
    next => cases decided
  case mpr =>
    rintro ⟨disk, reports, ⟨volumeClass, included, named⟩, isOnline⟩
    rw [(volumeClass_iff read).mpr ⟨disk, reports, named⟩]
    simp [included, (has_iff read).mpr ⟨disk, reports, isOnline⟩]

theorem classify_excluded (read : WellRead evidence records) :
    (∃ reason, classify records subject = .excluded reason) ↔
      TrustedExclusion evidence subject := by
  unfold classify
  constructor
  case mp =>
    rintro ⟨reason, decided⟩
    split at decided
    next volumeClass found =>
      split at decided
      case isTrue => split at decided <;> cases decided
      case isFalse =>
        split at decided
        case isTrue =>
          split at decided
          next trusted isTrusted =>
            exact ⟨volumeClass, (volumeClass_iff read).mp found,
              (trustedReason_iff read).mp ⟨trusted, isTrusted⟩⟩
          next => cases decided
        case isFalse => cases decided
    next => cases decided
  case mpr =>
    rintro ⟨volumeClass, named, reason⟩
    have excluded := reason.class_excluded
    obtain ⟨code, isTrusted⟩ := (trustedReason_iff read).mpr reason
    rw [(volumeClass_iff read).mpr named]
    simp [not_included_of_excluded excluded, excluded, isTrusted]

theorem classify_incomplete (read : WellRead evidence records) :
    classify records subject = .incomplete ↔
      ¬TrustedExclusion evidence subject ∧ ¬Candidate evidence subject := by
  rw [← classify_candidate read, ← classify_excluded read]
  cases classify records subject with
  | candidate => simp
  | excluded reason => simp
  | incomplete => simp

theorem Reports.isSubject {value : Json}
    (reports : Reports evidence subject probe value) :
    IsSubject evidence subject := by
  obtain ⟨item, member, isAbout, -⟩ := reports
  exact ⟨item, member, isAbout⟩

theorem mem_candidatesOf (read : WellRead evidence records) :
    subject ∈ candidatesOf records ↔ Candidate evidence subject := by
  rw [candidatesOf, List.mem_filter, decide_eq_true_eq,
    classify_candidate read, read.mem_subjectsOf]
  constructor
  · exact And.right
  · intro candidate
    refine ⟨?_, candidate⟩
    obtain ⟨disk, reports, -⟩ := candidate
    exact reports.isSubject

theorem mem_excludedOf (read : WellRead evidence records) :
    subject ∈ (excludedOf records).map (·.subjectId) ↔
      TrustedExclusion evidence subject := by
  rw [← classify_excluded read, List.mem_map]
  constructor
  case mp =>
    rintro ⟨entry, listed, rfl⟩
    obtain ⟨other, -, made⟩ := List.mem_filterMap.mp listed
    split at made
    next reason decided =>
      cases made
      exact ⟨reason, decided⟩
    next => cases made
  case mpr =>
    rintro ⟨reason, decided⟩
    obtain ⟨volumeClass, ⟨disk, reports, -⟩, -⟩ :=
      (classify_excluded read).mp ⟨reason, decided⟩
    refine ⟨⟨subject, reason⟩, List.mem_filterMap.mpr ⟨subject, ?_, ?_⟩, rfl⟩
    · exact read.mem_subjectsOf.mpr reports.isSubject
    · rw [decided]

theorem classificationIncomplete_iff (read : WellRead evidence records) :
    classificationIncomplete records = true ↔
      ∃ subject, IsSubject evidence subject ∧
        ¬TrustedExclusion evidence subject ∧
        ¬Candidate evidence subject := by
  simp only [classificationIncomplete, List.any_eq_true, decide_eq_true_eq,
    classify_incomplete read, read.mem_subjectsOf]

/-- No error is found among the candidates exactly when each is complete. -/
theorem candidateErrors_eq_nil (read : WellRead evidence records) :
    candidateErrors records = [] ↔
      ∀ subject, Candidate evidence subject → Complete evidence subject := by
  have noFailure : (failureCodes records fun subject =>
      decide (subject ∈ candidatesOf records)) = [] ↔
        ∀ subject, Candidate evidence subject → ∀ record ∈ records,
          record.subjectKey = subject →
            record.collectionStatus = "COLLECTED" := by
    simp only [failureCodes, List.map_eq_nil_iff, List.filter_eq_nil_iff,
      Bool.and_eq_true, decide_eq_true_eq, mem_candidatesOf read, not_and]
    constructor
    case mp =>
      rintro none_failed subject candidate record member rfl
      by_contra failed
      refine none_failed record member candidate failed ?_
      obtain ⟨item, -, made⟩ := read.documented record member
      exact fun fine => failed (made.succeeded.mpr fine)
    case mpr =>
      intro all_taken record member candidate failed
      exact (failed (all_taken _ candidate record member rfl)).elim
  unfold candidateErrors
  dsimp only
  constructor
  case mp =>
    intro empty subject candidate
    split at empty
    case isTrue => simp at empty
    case isFalse no_missing =>
      refine read.complete_iff.mp ⟨?_, noFailure.mp empty subject candidate⟩
      simp only [List.any_eq_true, mem_candidatesOf read, not_exists, not_and,
        Bool.not_eq_true', Bool.not_eq_false] at no_missing
      exact no_missing subject candidate
  case mpr =>
    intro complete
    rw [if_neg]
    · rw [noFailure]
      intro subject candidate
      exact (read.complete_iff.mpr (complete subject candidate)).2
    · simp only [List.any_eq_true, mem_candidatesOf read, not_exists, not_and,
        Bool.not_eq_true', Bool.not_eq_false]
      intro subject candidate
      exact (read.complete_iff.mpr (complete subject candidate)).1

end Classes

end SecAI.Rules
