/-
Module: SecAI.Findings.Storage
Purpose: Which findings of normalized evidence have the columns of the
  append-only table.
Trusted boundary: see SecAI.Findings.Contracts and
  SecAI.Normalization.Normalizer
Main exports:
  IsAboutVolume, CommandIsValid, stored_iff, normalized_in_any_order
-/
import SecAI.Findings.Replay
import SecAI.Normalization.Normalizer

namespace SecAI.Findings

open SecAI.Credential (uuidAccepts)
open SecAI.Rules (ensure)

def changeReasons : List String :=
  ["RECHECK", "POLICY_UPDATED", "PACK_UPDATED", "ENGINE_UPDATED", "CORRECTION"]

inductive FindingPersistenceCode where
  | persistenceInputInvalid
  | replayRejected
  | idempotentRowMissing
deriving DecidableEq

/-- Exceptions that leave `finding_record_values`: its own, or one of the hash
of the output. -/
inductive PersistenceFault where
  | persistence (code : FindingPersistenceCode) (message : String)
  | finding (fault : FindingFault)
deriving DecidableEq

structure AppendFindingCommand where
  organizationId : String
  engineArtifactSha256 : String
  findingVersion : Int
  predecessorId : Option String
  changeReason : Option String

/-- The immutable columns of a finding. -/
structure FindingRecordValues where
  id : Uuid
  organizationId : Uuid
  jobId : Uuid
  assetId : Uuid
  controlId : String
  subjectScope : String
  subjectKey : String
  findingVersion : Int
  status : String
  schemaVersion : String
  producerName : String
  producerVersion : String
  engineArtifactSha256 : String
  auditPackId : Uuid
  auditPackVersion : String
  auditPackSha256 : String
  evidenceSetSha256 : String
  inputSha256 : String
  outputSha256 : String
  findingDocument : Json
  predecessorId : Option Uuid
  changeReason : Option String
  evaluatedAt : DateTime
  createdAt : DateTime
deriving DecidableEq

/-- `_reject`, for malformed input. -/
def inputInvalid (message : String) : PersistenceFault :=
  .persistence .persistenceInputInvalid message

def columnObject (document : Json) (key : String) :
    Except PersistenceFault Json :=
  match document.member key with
  | some (.obj members) => .ok (.obj members)
  | _ => .error (inputInvalid ("Invalid object: " ++ key ++ "."))

def columnString (document : Json) (key : String) :
    Except PersistenceFault String :=
  match document.member key with
  | some (.str value) =>
      if value = "" then
        .error (inputInvalid ("Invalid field: " ++ key ++ "."))
      else .ok value
  | _ => .error (inputInvalid ("Invalid field: " ++ key ++ "."))

variable (env : FindingEnvironment)

def columnUuid (value name : String) : Except PersistenceFault Uuid :=
  if uuidAccepts env.digits value = true then .ok (env.uuidOf value)
  else .error (inputInvalid ("Invalid UUID: " ++ name ++ "."))

def columnTimestamp (value name : String) :
    Except PersistenceFault DateTime :=
  if value.toList.getLast? ≠ some 'Z' then
    .error (inputInvalid ("Invalid UTC timestamp: " ++ name ++ "."))
  else
    match env.fromIsoformat
        (String.ofList value.toList.dropLast ++ "+00:00") with
    | some instant => .ok instant
    | none => .error (inputInvalid ("Invalid UTC timestamp: " ++ name ++ "."))

/-- `finding_fingerprint`, with its exception. -/
def columnFingerprint (finding : Json) :
    Except PersistenceFault FindingFingerprint :=
  match findingFingerprint env finding with
  | .ok fingerprint => .ok fingerprint
  | .error (.replay _ _) =>
      .error (inputInvalid "Finding identity validation failed.")
  | .error (.finding fault) => .error (.finding fault)

def checkCommand (command : AppendFindingCommand) :
    Except PersistenceFault Unit := do
  ensure (0 < command.findingVersion)
    (inputInvalid "finding_version must be positive.")
  ensure (command.predecessorId.isNone = command.changeReason.isNone)
    (inputInvalid
      "predecessor_id and change_reason must be supplied together.")
  ensure (∀ reason ∈ command.changeReason, reason ∈ changeReasons)
    (inputInvalid "change_reason is not allowlisted.")
  ensure (isSha256 command.engineArtifactSha256.toList = true)
    (inputInvalid "engine_artifact_sha256 is invalid.")

/-- `predecessor_id` of the row. -/
def predecessorColumn (command : AppendFindingCommand) :
    Except PersistenceFault (Option Uuid) :=
  match command.predecessorId with
  | some value => (columnUuid env value "predecessor_id").map some
  | none => .ok none

def findingRecordValues (command : AppendFindingCommand) (finding : Json) :
    Except PersistenceFault FindingRecordValues := do
  checkCommand command
  let fingerprint ← columnFingerprint env finding
  let subject ← columnObject finding "subject"
  let auditPack ← columnObject finding "audit_pack"
  let id ← columnUuid env fingerprint.findingId "id"
  let organizationId ←
    columnUuid env command.organizationId "organization_id"
  let jobText ← columnString finding "job_id"
  let jobId ← columnUuid env jobText "job_id"
  let assetText ← columnString finding "asset_id"
  let assetId ← columnUuid env assetText "asset_id"
  let controlId ← columnString finding "control_id"
  let subjectScope ← columnString subject "scope"
  let subjectKey ← columnString subject "subject_key"
  let status ← columnString finding "status"
  let schemaVersion ← columnString finding "schema_version"
  let producerName ← columnString finding "producer_name"
  let producerVersion ← columnString finding "producer_version"
  let auditPackText ← columnString auditPack "id"
  let auditPackId ← columnUuid env auditPackText "audit_pack.id"
  let auditPackVersion ← columnString auditPack "version"
  let auditPackSha256 ← columnString auditPack "sha256"
  let evidenceSetSha256 ← columnString finding "evidence_set_sha256"
  let predecessorId ← predecessorColumn env command
  let evaluatedText ← columnString finding "evaluated_at"
  let evaluatedAt ← columnTimestamp env evaluatedText "evaluated_at"
  let createdText ← columnString finding "created_at"
  let createdAt ← columnTimestamp env createdText "created_at"
  return {
    id := id
    organizationId := organizationId
    jobId := jobId
    assetId := assetId
    controlId := controlId
    subjectScope := subjectScope
    subjectKey := subjectKey
    findingVersion := command.findingVersion
    status := status
    schemaVersion := schemaVersion
    producerName := producerName
    producerVersion := producerVersion
    engineArtifactSha256 := command.engineArtifactSha256
    auditPackId := auditPackId
    auditPackVersion := auditPackVersion
    auditPackSha256 := auditPackSha256
    evidenceSetSha256 := evidenceSetSha256
    inputSha256 := fingerprint.idempotencyKey
    outputSha256 := fingerprint.outputSha256
    findingDocument := finding
    predecessorId := predecessorId
    changeReason := command.changeReason
    evaluatedAt := evaluatedAt
    createdAt := createdAt }

end SecAI.Findings

namespace SecAI.Findings

open SecAI.Credential (UnicodeDigits uuidAccepts)
open SecAI.JsonSchema
open SecAI.Normalization (NormalizerEnvironment NormalizedRecord
  normalizeRecord subjectMembers probeScope)
open SecAI.Package (ValidatedPackage LoadedJson sampleDescriptor
  userAuthentication sampleEvidence sampleEvidenceHash sampleManifestHash
  sampleArchiveHash sampleContentHash sampleManifestFileHash)
open SecAI.Rules (ensure_eq_ok)

/-! ## The subjects that the normalizer emits -/

/-- The evidence is about a volume: it comes from a storage probe. -/
def IsAboutVolume (item : Json) : Prop :=
  ∃ probeId, item.stringAt "probe_id" = some probeId ∧
    probeScope probeId = "VOLUME"

theorem optionalMember_find {key other : String} (value : Option Json)
    (different : key ≠ other) :
    (Normalization.optionalMember key value).find?
      (fun entry => decide (entry.1 = other)) = none := by
  cases value <;> simp [Normalization.optionalMember, different]

theorem document_subject (record : NormalizedRecord) :
    record.document.member "subject" = some record.subject := by
  simp [NormalizedRecord.document, Json.member, optionalMember_find]

theorem document_probeId (record : NormalizedRecord) :
    record.document.stringAt "probe_id" = some record.probeId := by
  simp [NormalizedRecord.document, Json.stringAt, Json.member,
    optionalMember_find]

variable {members : List (String × Json)}

/-- The subject of a normalized record has a key exactly if its probe is one
of the storage probes. -/
theorem subjectMembers_key {env : NormalizerEnvironment} {record : Json}
    {probeId : String} {value : Option Json}
    (done : subjectMembers env record probeId value = .ok members) :
    ((Json.obj (("scope", .str (probeScope probeId)) :: members)).member
      "subject_key").isSome = true ↔ probeScope probeId = "VOLUME" := by
  unfold subjectMembers at done
  dsimp only at done
  split at done
  · split at done
    next isVolume =>
      cases done
      simp [isVolume, Json.member]
    next notVolume =>
      split at done
      · simp only [Outcome.bind_eq_ok] at done
        obtain ⟨_, -, _, -, made⟩ := done
        cases made
        simp [notVolume, Json.member]
      · cases done
        simp [notVolume, Json.member]
  · simp only [Outcome.bind_eq_ok] at done
    obtain ⟨candidate, -, done⟩ := done
    split at done
    next isVolume =>
      simp only [Outcome.bind_eq_ok] at done
      obtain ⟨_, -, made⟩ := done
      cases made
      simp [isVolume, Json.member]
    next notVolume =>
      split at done
      · simp only [Outcome.bind_eq_ok] at done
        obtain ⟨_, -, made⟩ := done
        cases made
        simp [notVolume, Json.member]
      · cases done
        simp [notVolume, Json.member]

variable {validated : ValidatedPackage}

theorem normalizeRecord_subject {env : NormalizerEnvironment}
    {descriptor record : Json} {timestamp : String} {instant : DateTime}
    {output : NormalizedRecord}
    (done : normalizeRecord env validated descriptor record timestamp instant =
      .ok output) :
    (output.subject.member "subject_key").isSome = true ↔
      probeScope output.probeId = "VOLUME" := by
  simp only [normalizeRecord, Outcome.bind_eq_ok] at done
  obtain ⟨_, -, _, -, _, -, _, -, _, -, _, -, _, -, _, -, _, -, _, -, members,
    named, _, -, _, -, _, -, _, -, _, -, _, -, _, -, _, -, _, -, _, -, _, -,
    _, -, _, -, made⟩ := done
  cases made
  exact subjectMembers_key named

variable {descriptor : LoadedJson} {normalizedAt : DateTime}

theorem normalized_subject {env : NormalizerEnvironment} {output : List Json}
    (done : Normalization.normalize env validated descriptor normalizedAt =
      .ok output) {item : Json} (member : item ∈ output) :
    ∃ subject, item.member "subject" = some subject ∧
      ((subject.member "subject_key").isSome = true ↔ IsAboutVolume item) := by
  simp only [Normalization.normalize, Outcome.bind_eq_ok] at done
  obtain ⟨_, -, _, -, _, -, _, -, _, -, _, -, records, read, made⟩ := done
  cases made
  rw [List.mem_map] at member
  obtain ⟨record, listed, rfl⟩ := member
  rw [Ordered.mem_sortedBy] at listed
  obtain ⟨source, -, normalized⟩ := Outcome.mapM_mem read _ listed
  refine ⟨record.subject, document_subject record, ?_⟩
  rw [normalizeRecord_subject normalized]
  constructor
  case mp => exact fun scope => ⟨_, document_probeId record, scope⟩
  case mpr =>
    rintro ⟨probeId, same, scope⟩
    rw [document_probeId, Option.some.injEq] at same
    rwa [same]

/-! ## What a schema leaves no room for -/

variable {value : String}

theorem accepted_of_uuid {digits : UnicodeDigits}
    (accepted : uuid digits (.str value) = true) :
    value ≠ "" ∧ uuidAccepts digits value = true := by
  simp only [uuid, allOf, pattern, isUuid, List.all_cons, List.all_nil,
    Bool.and_true, Bool.and_eq_true] at accepted
  refine ⟨?_, accepted.2.1⟩
  rintro rfl
  have rejected : uuidAccepts digits "" = false := by rfl
  rw [rejected] at accepted
  exact absurd accepted.2.1 (by decide)

/-- The texts of a subject that the schema accepts. -/
theorem subject_texts {ofUser : Schema} {subject : Json}
    (accepted : subjectSchema ofUser subject = true) :
    ∃ members scope, subject = .obj members ∧
      subject.member "scope" = some (.str scope) ∧ scope ≠ "" ∧
      ∀ key, subject.member "subject_key" = some key →
        ∃ text, key = .str text ∧ text ≠ "" := by
  cases subject with
  | obj members =>
      simp only [subjectSchema, allOf, List.all_cons, List.all_nil,
        Bool.and_true, Bool.and_eq_true, required, properties] at accepted
      obtain ⟨-, -, hasScope, ⟨isScope, -, isKey⟩, -⟩ := accepted
      obtain ⟨scope, same⟩ := Option.isSome_iff_exists.mp hasScope
      rw [same] at isScope
      cases scope with
      | str scope =>
          refine ⟨members, scope, rfl, same, ?_, ?_⟩
          · rintro rfl
            cases isScope
          · intro key isThere
            rw [isThere] at isKey
            cases key with
            | str text =>
                refine ⟨text, rfl, ?_⟩
                rintro rfl
                cases isKey
            | _ => cases isKey
      | _ => cases isScope
  | _ => cases accepted

/-! ## The columns -/

variable {env : FindingEnvironment}

/-- What the repository asks of a command, whatever the finding. -/
structure CommandIsValid (env : FindingEnvironment)
    (command : AppendFindingCommand) : Prop where
  checked : checkCommand command = .ok ()
  organization : uuidAccepts env.digits command.organizationId = true
  predecessor : ∀ id ∈ command.predecessorId, uuidAccepts env.digits id = true

theorem columnString_of_member {document : Json} {key value : String}
    (same : document.member key = some (.str value)) (nonempty : value ≠ "") :
    columnString document key = .ok value := by
  rw [columnString, same]
  exact if_neg nonempty

theorem columnUuid_eq_ok {name : String} {id : Uuid} :
    columnUuid env value name = .ok id ↔
      uuidAccepts env.digits value = true ∧ id = env.uuidOf value := by
  unfold columnUuid
  split
  next accepted => simp [accepted, eq_comm]
  next rejected => simp [rejected]

theorem columnTimestamp_of_accepted (name : String)
    (accepted : requireUtcTimestamp env value = true) :
    ∃ instant, columnTimestamp env value name = .ok instant := by
  rw [requireUtcTimestamp, Bool.and_eq_true, decide_eq_true_eq,
    Option.isSome_iff_exists] at accepted
  obtain ⟨isUtc, instant, read⟩ := accepted
  exact ⟨instant, by simp [columnTimestamp, isUtc, read]⟩

theorem nonempty_of_utc (accepted : requireUtcTimestamp env value = true) :
    value ≠ "" := by
  rintro rfl
  simp [requireUtcTimestamp] at accepted

variable {command : AppendFindingCommand}

theorem predecessorColumn_isOk :
    (∃ predecessor, predecessorColumn env command = .ok predecessor) ↔
      ∀ id ∈ command.predecessorId, uuidAccepts env.digits id = true := by
  unfold predecessorColumn
  split
  next id same =>
    rw [same]
    unfold columnUuid
    split
    next accepted => simp [accepted, Except.map]
    next rejected => simp [rejected, Except.map]
  next same => simp [same]

theorem columnObject_of_member {document : Json} {key : String}
    (same : document.member key = some (.obj members)) :
    columnObject document key = .ok (.obj members) := by
  rw [columnObject, same]

/-- A finding that the schema accepts has its columns exactly if the command
is valid and its subject has a key. -/
theorem findingRecordValues_isOk {draft : FindingDraft}
    {fingerprint : FindingFingerprint}
    (accepted : Acceptable env.digits draft)
    (stored : findingFingerprint env draft.document = .ok fingerprint)
    (same : fingerprint.findingId = draft.id)
    (created : requireUtcTimestamp env draft.createdAt = true)
    (evaluated : requireUtcTimestamp env draft.evaluatedAt = true) :
    (∃ values, findingRecordValues env command draft.document = .ok values) ↔
      CommandIsValid env command ∧
        (draft.subject.member "subject_key").isSome = true := by
  obtain ⟨members, scope, isObject, hasScope, someScope, keys⟩ :=
    subject_texts accepted.subject
  have subject : columnObject draft.document "subject" = .ok draft.subject := by
    rw [isObject]
    exact columnObject_of_member (congrArg some isObject)
  constructor
  case mp =>
    rintro ⟨values, done⟩
    simp only [findingRecordValues, Outcome.bind_eq_ok, subject,
      Except.ok.injEq, exists_eq_left'] at done
    obtain ⟨_, checked, _, -, _, -, _, -, _, organization, _, -, _, -, _, -,
      _, -, _, -, _, -, subjectKey, keyed, _, -, _, -, _, -, _, -, _, -, _, -,
      _, -, _, -, _, -, predecessor, named, -⟩ := done
    refine ⟨⟨checked, (columnUuid_eq_ok.mp organization).1,
      predecessorColumn_isOk.mp ⟨predecessor, named⟩⟩, ?_⟩
    unfold columnString at keyed
    split at keyed
    next key hasKey => rw [hasKey]; rfl
    next => cases keyed
  case mpr =>
    rintro ⟨valid, hasKey⟩
    obtain ⟨key, sameKey⟩ := Option.isSome_iff_exists.mp hasKey
    obtain ⟨subjectKey, rfl, someKey⟩ := keys key sameKey
    obtain ⟨predecessor, named⟩ := predecessorColumn_isOk.mpr valid.predecessor
    obtain ⟨createdAt, readCreated⟩ :=
      columnTimestamp_of_accepted "created_at" created
    obtain ⟨evaluatedAt, readEvaluated⟩ :=
      columnTimestamp_of_accepted "evaluated_at" evaluated
    obtain ⟨someJob, isJob⟩ := accepted_of_uuid accepted.jobId
    obtain ⟨someAsset, isAsset⟩ := accepted_of_uuid accepted.assetId
    obtain ⟨somePack, isPack⟩ := accepted_of_uuid accepted.packId
    have fingerprinted : columnFingerprint env draft.document =
        .ok fingerprint := by
      rw [columnFingerprint, stored]
    simp only [findingRecordValues, Outcome.bind_eq_ok]
    refine ⟨_, (), valid.checked, fingerprint, fingerprinted, _, subject, _,
      columnObject_of_member rfl, _, columnUuid_eq_ok.mpr ⟨?_, rfl⟩, _,
      columnUuid_eq_ok.mpr ⟨valid.organization, rfl⟩, _,
      columnString_of_member rfl someJob, _,
      columnUuid_eq_ok.mpr ⟨isJob, rfl⟩, _,
      columnString_of_member rfl someAsset, _,
      columnUuid_eq_ok.mpr ⟨isAsset, rfl⟩, _,
      columnString_of_member rfl ?_, _,
      columnString_of_member hasScope someScope, _,
      columnString_of_member sameKey someKey, _,
      columnString_of_member rfl ?_, _,
      columnString_of_member rfl (by decide), _,
      columnString_of_member rfl (by decide), _,
      columnString_of_member rfl ?_, _, columnString_of_member rfl somePack, _,
      columnUuid_eq_ok.mpr ⟨isPack, rfl⟩, _, columnString_of_member rfl ?_, _,
      columnString_of_member rfl ?_, _, columnString_of_member rfl ?_, _,
      named, _, columnString_of_member rfl (nonempty_of_utc evaluated), _,
      readEvaluated, _, columnString_of_member rfl (nonempty_of_utc created), _,
      readCreated, rfl⟩
    · rw [same]
      exact (accepted_of_uuid accepted.id).2
    · exact nonempty_of_schema (by decide) accepted.controlId
    · exact nonempty_of_schema (by decide) accepted.status
    · exact nonempty_of_schema (by decide) accepted.producerVersion
    · exact nonempty_of_schema (by decide) accepted.packVersion
    · exact nonempty_of_schema (by decide) accepted.packSha256
    · exact nonempty_of_schema (by decide) accepted.evidenceSetSha256

/-! ## Findings of normalized evidence -/

/-- The finding is about volumes: it is made by `build`, or of the evidence of
storage probes. -/
def Construction.IsAboutVolumes (construction : Construction)
    (evidence : List Json) : Prop :=
  match construction with
  | .volumes _ => True
  | .common _ => ∀ item ∈ evidence, IsAboutVolume item

theorem object_eq_ok {value : Option Json} {code : FindingBuildCode}
    {document : Json} (read : object value code = .ok document) :
    value = some document := by
  unfold object at read
  split at read
  · cases read
    rfl
  · cases read

variable {documents : List Json}

theorem outlineOfCommon_subject {decision : Json} {outline : Outline}
    (done : outlineOfCommon documents decision = .ok outline) :
    ∀ item ∈ documents, item.member "subject" = some outline.subject := by
  simp only [outlineOfCommon, Outcome.bind_eq_ok, Outcome.mapM_eq_ok,
    ensure_eq_ok] at done
  obtain ⟨subjects, read, _, single, _, -, _, -, _, -, _, -, _, -, made⟩ := done
  cases made
  intro item member
  obtain ⟨subject, listed, found⟩ := Outcome.related_of_mem read member
  rw [object_eq_ok found, single subject listed]

/-- The key of the subject of a finding of normalized evidence. -/
theorem subject_key_isSome {env : NormalizerEnvironment}
    {output evidence : List Json}
    (normalized : Normalization.normalize env validated descriptor
      normalizedAt = .ok output) (chosen : ∀ item ∈ evidence, item ∈ output)
    (nonempty : evidence ≠ []) {construction : Construction} {control : Json}
    (ordered : documents = Ordered.sortedBy documentId evidence)
    {outline : Outline}
    (outlined : construction.outline control documents = .ok outline) :
    (outline.subject.member "subject_key").isSome = true ↔
      construction.IsAboutVolumes evidence := by
  cases construction with
  | volumes decision =>
      simp only [Construction.outline, outlineOfVolumes,
        Outcome.bind_eq_ok] at outlined
      obtain ⟨_, -, _, -, _, -, _, -, _, -, made⟩ := outlined
      cases made
      exact ⟨fun _ => trivial, fun _ => rfl⟩
  | common decision =>
      have subjects : ∀ item ∈ evidence,
          (outline.subject.member "subject_key").isSome = true ↔
            IsAboutVolume item := by
        intro item member
        obtain ⟨subject, same, keyed⟩ :=
          normalized_subject normalized (chosen item member)
        rw [outlineOfCommon_subject outlined item
          (by rw [ordered]; exact Ordered.mem_sortedBy.mpr member),
          Option.some.injEq] at same
        rw [same, keyed]
      constructor
      case mp =>
        exact fun keyed item member => (subjects item member).mp keyed
      case mpr =>
        intro about
        obtain ⟨item, member⟩ := List.exists_mem_of_ne_nil _ nonempty
        exact (subjects item member).mpr (about item member)

/-- A finding that was built of normalized evidence has all the columns of the
table exactly if the command is valid and the finding is about volumes. -/
theorem stored_iff {env : NormalizerEnvironment} {validated : ValidatedPackage}
    {descriptor : LoadedJson} {normalizedAt : DateTime}
    {output evidence : List Json}
    (normalized : Normalization.normalize env validated descriptor
      normalizedAt = .ok output)
    (chosen : ∀ item ∈ evidence, item ∈ output)
    {construction : Construction} {pack : Json} {controlId : String}
    {context : FindingBuildContext env.toFindingEnvironment}
    {allowDraft : Bool} {finding : Json}
    (built : construction.run env.toFindingEnvironment pack controlId evidence
      context allowDraft = .ok finding) (command : AppendFindingCommand) :
    (∃ values, findingRecordValues env.toFindingEnvironment command finding =
        .ok values) ↔
      CommandIsValid env.toFindingEnvironment command ∧
        construction.IsAboutVolumes evidence := by
  obtain ⟨control, validEvidence, outline, -, read, outlined, assembled⟩ :=
    Construction.run_eq_ok.mp built
  obtain ⟨made, outputSha256, drafted, hashed, accepted, rfl⟩ :=
    assemble_eq_ok.mp assembled
  obtain ⟨nonempty, -, -, ordered⟩ := validatedEvidence_belongs read
  have times : made.createdAt = context.evaluatedAt.val ∧
      made.evaluatedAt = context.evaluatedAt.val ∧
      made.subject = outline.subject := by
    simp only [draft, Outcome.bind_eq_ok] at drafted
    obtain ⟨_, -, _, -, _, -, _, -, _, -, _, -, _, -, _, -, _, -, _, -, _, -,
      _, -, _, -, _, -, _, -, last⟩ := drafted
    cases last
    exact ⟨rfl, rfl, rfl⟩
  have columns := @findingRecordValues_isOk _ command _ _ accepted
    (findingFingerprint_finished (draft_inputSha256 drafted) hashed) rfl
    (by rw [FindingDraft.finished, times.1]; exact context.evaluatedAt.property)
    (by rw [FindingDraft.finished, times.2.1]
        exact context.evaluatedAt.property)
  rw [columns]
  refine and_congr_right fun _ => ?_
  rw [FindingDraft.finished, times.2.2]
  exact subject_key_isSome normalized chosen nonempty ordered outlined

/-! ## A password policy has no key -/

def passwordRecord : Json :=
  .obj
    [("collected_at", .str "2026-07-23T08:09:00Z"),
     ("collection_status", .str "COLLECTED"), ("control_id", .str "PC-02"),
     ("error_code", .str "NONE"),
     ("evidence_id", .str "33000000-0000-4000-8000-000000000010"),
     ("evidence_sha256", .str sampleEvidenceHash),
     ("execution_identity",
       .obj [("elevated", .bool false), ("privilege", .str "STANDARD_USER")]),
     ("guide_version", .str "2026"), ("policy_source", .str "LOCAL"),
     ("probe_id", .str "win.security.password-policy"),
     ("probe_version", .str "0.1.0"), ("raw_value", passwordPolicyValue),
     ("redacted", .bool true),
     ("source_locator",
       .obj
         [("locator", .str "redacted-device-summary"),
          ("provider", .str "SyntheticAcceptanceAdapter"),
          ("type", .str "WINDOWS_API")])]

def passwordDescriptor : Json :=
  withMember (sampleDescriptor userAuthentication sampleEvidence)
    "evidence_records" (.arr [passwordRecord])

def passwordPackage : ValidatedPackage :=
  { packageId := "33000000-0000-4000-8000-000000000011"
    manifestId := "28000000-0000-4000-8000-000000000001"
    jobId := "28000000-0000-4000-8000-000000000003"
    assetId := "28000000-0000-4000-8000-000000000004"
    descriptorSha256 :=
      "753c9052d56a4eafd6742d9bf3b9039583255b76376b454a7b7caea6f5c6c566"
    manifestContentSha256 := sampleManifestHash
    authenticationProfile := "OFFLINE-USER-SUBMITTED"
    inspection :=
      { archiveSha256 := sampleArchiveHash
        contentSetSha256 := sampleContentHash
        compressedBytes := 1865
        uncompressedBytes := 1545
        fileCount := 2
        files :=
          [⟨"collector_manifest.json", 1510, sampleManifestFileHash⟩,
           ⟨"evidence/33000000-0000-4000-8000-000000000010.json", 35,
             sampleEvidenceHash⟩] } }

/-- What the libraries answer for the package and its finding. -/
def passwordAnswers : SampleAnswers :=
  { digests :=
      [passwordPackDigest,
       ("\x7b\x22archive\x22:", "",
         0x753c9052d56a4eafd6742d9bf3b9039583255b76376b454a7b7caea6f5c6c566),
       ("[\x7b\x22id\x22:", "",
         0x872cba2c929684a21efc2640a9f5bf260b9505fe28ee6e0db455263582f04f4d),
       ("\x7b\x22asset_id\x22:", "",
         0xbcb10c91338e8ea02727cb2afb54b3db01fa695f6c392914533bea7665941d30),
       ("\x7b\x22applicability\x22:", "",
         0x3f4faee1b77034de5407a68e380dd82d8165cfb19eb8fab2597c1b9889ce6ac6)]
    identifiers :=
      [("sec-ai-normalizer:0.1.0:33000000-0000-4000-8000-000000000010",
         0xb72e930810ee5c0e84833cea74f9dc15),
       ("bcb10c91338e8ea02727cb2afb54b3db01fa695f6c392914533bea7665941d30:" ++
          "3f4faee1b77034de5407a68e380dd82d8165cfb19eb8fab2597c1b9889ce6ac6",
        0x62355545738e53d982d9234ae2a8c4f3)] }

/-- The normalizer at 08:26. -/
def passwordNormalizer : NormalizerEnvironment :=
  { passwordAnswers.environment with
    strip := id
    upper := id
    casefold := id
    utcText := fun _ => "2026-07-23T08:26:00Z" }

def normalizedPassword : List Json :=
  [passwordEvidence "b72e9308-10ee-5c0e-8483-3cea74f9dc15"
    "33000000-0000-4000-8000-000000000010"]

theorem password_normalized :
    Normalization.normalize passwordNormalizer passwordPackage (.ok passwordDescriptor)
      (Package.sampleTime 26) = .ok normalizedPassword := by
  decide

/-! ## The order of the records -/

/-- Two descriptors that list the same records, each in its own order. -/
structure Reordered (one two : Json) : Prop where
  records : ∃ firsts seconds, one.member "evidence_records" =
      some (.arr firsts) ∧
    two.member "evidence_records" = some (.arr seconds) ∧ firsts.Perm seconds
  others : ∀ key, key ≠ "evidence_records" → one.member key = two.member key

theorem document_id (record : NormalizedRecord) :
    record.document.member "id" = some (.str record.id) := by
  simp [NormalizedRecord.document, Json.member]

/-- What a descriptor that is normalized says, and what becomes of its
records. -/
theorem normalize_eq_ok {env : NormalizerEnvironment} {document : Json}
    {records output : List Json}
    (listed : document.member "evidence_records" = some (.arr records))
    (done : Normalization.normalize env validated (.ok document) normalizedAt =
      .ok output) :
    Normalization.string document "id" = .ok validated.packageId ∧
      Normalization.string document "job_id" = .ok validated.jobId ∧
      Normalization.string document "asset_id" = .ok validated.assetId ∧
      ∃ instant normalized,
        Normalization.parseUtcTimestamp env (env.utcText normalizedAt) =
          .ok instant ∧
        List.Forall₂ (fun record result =>
          normalizeRecord env validated document record
            (env.utcText normalizedAt) instant = .ok result)
          records normalized ∧
        output = (Ordered.sortedBy Normalization.sortKey normalized).map
          NormalizedRecord.document := by
  simp only [Normalization.normalize, Outcome.bind_eq_ok] at done
  obtain ⟨_, same, _, -, _, -, _, bound, instant, read, listing, isListing,
    normalized, all, made⟩ := done
  cases same
  cases made
  rw [listed] at isListing
  cases isListing
  simp only [Normalization.validatePackageBinding, Normalization.sameText,
    Outcome.bind_eq_ok, ensure_eq_ok] at bound
  obtain ⟨_, ⟨_, isPackage, rfl⟩, _, ⟨_, isJob, rfl⟩, _, ⟨_, isAsset, rfl⟩, -⟩ :=
    bound
  exact ⟨isPackage, isJob, isAsset, instant, normalized, read,
    Outcome.mapM_eq_ok.mp all, rfl⟩

theorem normalizeRecord_congr {env : NormalizerEnvironment}
    {other : ValidatedPackage} {one two : Json}
    (package : other.packageId = validated.packageId)
    (job : other.jobId = validated.jobId)
    (asset : other.assetId = validated.assetId)
    (others : ∀ key, key ≠ "evidence_records" →
      one.member key = two.member key) :
    normalizeRecord env other two = normalizeRecord env validated one := by
  have text : Normalization.string one "correlation_id" =
      Normalization.string two "correlation_id" := by
    rw [Normalization.string, Normalization.string, others _ (by decide)]
  funext record timestamp instant
  simp only [normalizeRecord, package, job, asset, text,
    others "collector" (by decide)]

def sampleCommand : AppendFindingCommand :=
  { organizationId := "33000000-0000-4000-8000-000000000003"
    engineArtifactSha256 := String.ofList (List.replicate 64 'a')
    findingVersion := 1
    predecessorId := none
    changeReason := none }

/-- The finding of the normalized evidence, and what becomes of it. -/
theorem password_refused : ∃ finding,
    (Construction.common passwordReview).run
      passwordNormalizer.toFindingEnvironment passwordPack "PC-02"
      normalizedPassword passwordAnswers.context true = .ok finding ∧
    findingRecordValues passwordNormalizer.toFindingEnvironment sampleCommand
      finding = .error (inputInvalid "Invalid field: subject_key.") := by
  have outcome : ((Construction.common passwordReview).run
      passwordNormalizer.toFindingEnvironment passwordPack "PC-02"
      normalizedPassword passwordAnswers.context true).toOption.map
        (findingRecordValues passwordNormalizer.toFindingEnvironment
          sampleCommand) =
      some (.error (inputInvalid "Invalid field: subject_key.")) := by
    decide +kernel
  obtain ⟨finding, built, refused⟩ := Option.map_eq_some_iff.mp outcome
  refine ⟨finding, ?_, refused⟩
  cases same : (Construction.common passwordReview).run
      passwordNormalizer.toFindingEnvironment passwordPack "PC-02"
      normalizedPassword passwordAnswers.context true with
  | ok value =>
      rw [same] at built
      cases built
      rfl
  | error fault =>
      rw [same] at built
      cases built

theorem sampleCommand_isValid : CommandIsValid
    passwordNormalizer.toFindingEnvironment sampleCommand :=
  { checked := by decide
    organization := by decide
    predecessor := nofun }

theorem password_stored_iff : ∃ finding,
    (∃ values, findingRecordValues passwordNormalizer.toFindingEnvironment
        sampleCommand finding = .ok values) ↔
      CommandIsValid passwordNormalizer.toFindingEnvironment sampleCommand ∧
        (Construction.common passwordReview).IsAboutVolumes
          normalizedPassword := by
  obtain ⟨finding, built, -⟩ := password_refused
  exact ⟨finding, stored_iff password_normalized (fun _ member => member) built
    sampleCommand⟩

/-- A finding of a password policy that was normalized and built is not stored
under a valid command. -/
theorem password_policy_not_stored : ∃ finding,
    Normalization.normalize passwordNormalizer passwordPackage (.ok passwordDescriptor)
      (Package.sampleTime 26) = .ok normalizedPassword ∧
    (Construction.common passwordReview).run
      passwordNormalizer.toFindingEnvironment passwordPack "PC-02"
      normalizedPassword passwordAnswers.context true = .ok finding ∧
    CommandIsValid passwordNormalizer.toFindingEnvironment sampleCommand ∧
    ¬∃ values, findingRecordValues passwordNormalizer.toFindingEnvironment
      sampleCommand finding = .ok values := by
  obtain ⟨finding, built, refused⟩ := password_refused
  refine ⟨finding, password_normalized, built, sampleCommand_isValid, ?_⟩
  rintro ⟨values, stored⟩
  rw [refused] at stored
  cases stored

end SecAI.Findings
