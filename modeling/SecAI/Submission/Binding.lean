/-
Module: SecAI.Submission.Binding
Purpose: What a signed envelope and its archive determine of the evidence
  records in the descriptor.
Trusted boundary: two Manifests with one digest differ at most in how their
  numbers are spelt
Main exports:
  AcceptsSigned, SameEvidence, evidence_bound_iff
-/
import SecAI.Submission.Replay

namespace SecAI.Submission

open Interleaving Package Outcome

/-! ## Evidence of two descriptors -/

/-- Two evidence records agree, these keys apart. -/
def RecordsAgree (except : List String) (first second : Json) : Prop :=
  ∀ key, key ∉ except → first.member key = second.member key

/-- Two descriptors list the same evidence records, these keys apart. -/
def EvidenceAgrees (except : List String) (first second : Json) : Prop :=
  ∃ records others,
    first.member "evidence_records" = some (.arr records) ∧
    second.member "evidence_records" = some (.arr others) ∧
    List.Forall₂ (RecordsAgree except) records others

/-- Two descriptors list the same evidence records. -/
def SameEvidence (first second : Json) : Prop := EvidenceAgrees [] first second

/-- The keys of an evidence record that the signed archive determines. -/
def boundFields (config : ValidatorConfig) : List String :=
  ["evidence_sha256", "probe_version"] ++
    if config.evidenceControlField = "control_id" then ["control_id"] else []

/-- The service accepts a signed submission. -/
def AcceptsSigned (env : SubmissionEnvironment) (store : SubmissionStore)
    (archive : ArchiveFile) (descriptor trustedManifest : Json)
    (envelopeBytes : EnvelopeBytes) (receivedAt : DateTime)
    (revocation : CertificateRevocationVerification)
    (verifications : ExternalVerifications) : Prop :=
  ∃ accepted, (Program.run (SubmissionStore.execute env)
    (SubmissionRequest.body env (.signed archive (.ok descriptor)
      trustedManifest envelopeBytes receivedAt revocation verifications))
    store).1 = .ok (.offline accepted)

/-- The digests of two documents tell them apart: SHA-256 does not collide on
their canonical forms, which determine them up to the spelling of numbers. -/
structure DigestDetermines (env : PackageEnvironment) (first second : Json) :
    Prop where
  collisionFree : ∀ firstBytes secondBytes,
    env.canonicalize first = some firstBytes →
    env.canonicalize second = some secondBytes →
    env.sha256 firstBytes = env.sha256 secondBytes → firstBytes = secondBytes
  canonical : ∀ bytes, env.canonicalize first = some bytes →
    env.canonicalize second = some bytes → Json.Alike first second

variable {first second : Json}

theorem DigestDetermines.alike {env : PackageEnvironment} {digest : String}
    (determines : DigestDetermines env first second)
    (firstDigest : env.digest first = .ok digest)
    (secondDigest : env.digest second = .ok digest) :
    Json.Alike first second := by
  unfold PackageEnvironment.digest PackageEnvironment.canonicalBytes at *
  cases firstForm : env.canonicalize first with
  | none =>
      rw [firstForm] at firstDigest
      cases firstDigest
  | some firstBytes =>
      cases secondForm : env.canonicalize second with
      | none =>
          rw [secondForm] at secondDigest
          cases secondDigest
      | some secondBytes =>
          rw [firstForm] at firstDigest
          rw [secondForm] at secondDigest
          have same := determines.collisionFree firstBytes secondBytes
            firstForm secondForm
            (Except.ok.inj (firstDigest.trans secondDigest.symm))
          rw [← same] at secondForm
          exact determines.canonical firstBytes firstForm secondForm

/-! ## What an accepted submission has passed -/

variable {env : SubmissionEnvironment}

/-- The evidence of an accepted package, against the members of its archive
and the probes of its Manifest. -/
structure EvidenceChecked (env : PackageEnvironment)
    (config : ValidatorConfig) (archive : ArchiveFile)
    (descriptor manifest : Json) (infos : List ZipMember)
    (probes records : List Json) (authorized : List AuthorizedProbe) :
    Prop where
  members : archive.members = some infos
  distinct : (infos.map ZipMember.filename).Nodup
  probesAre : manifest.member "probes" = some (.arr probes)
  authorizes : List.Forall₂ Authorizes probes authorized
  recordsAre : descriptor.member "evidence_records" = some (.arr records)
  placed : ∀ record ∈ records, Placed infos record
  accepted : ∀ record ∈ records, ∃ inventoryHashes evidenceId,
    IsAccepted config authorized inventoryHashes record evidenceId
  /-- The archived Manifest has the digest of the trusted one. -/
  manifestDigest : ∃ info embedded digest,
    infos.find? (fun info => decide (info.filename = manifestPath)) =
      some info ∧
    info.document = .ok embedded ∧ env.digest embedded = .ok digest ∧
    env.digest manifest = .ok digest

variable {archive : ArchiveFile}

theorem loadEmbeddedManifest_eq_ok {inspection : PackageInspection}
    {limits : PackageLimits} {embedded : Json}
    (loaded : loadEmbeddedManifest archive inspection
      limits = .ok embedded) :
    ∃ info, (archive.members.getD []).find? (fun info =>
        decide (info.filename = manifestPath)) = some info ∧
      info.document = .ok embedded := by
  unfold loadEmbeddedManifest at loaded
  split at loaded
  · cases loaded
  split at loaded
  · cases loaded
  rename_i info found
  obtain ⟨-, loaded⟩ := refused_or (.error _) loaded
  obtain ⟨-, loaded⟩ := refused_or (.error _) loaded
  obtain ⟨-, loaded⟩ := refused_or (.error _) loaded
  exact ⟨info, found, loaded⟩

/-- What the full validator has checked of the evidence. -/
theorem evidenceChecked_of_validate {packageEnv : PackageEnvironment}
    {config : ValidatorConfig} {descriptor manifest : Json}
    {context : PackageValidationContext} {gates : PackageGateVerifications}
    {validated : ValidatedPackage}
    (accepted : validate packageEnv config archive (.ok descriptor) manifest
      context gates = .ok validated) :
    ∃ infos probes records authorized, EvidenceChecked packageEnv config
      archive descriptor manifest infos probes records authorized := by
  obtain ⟨_, manifestHash, limits, loaded, -, -, archived, meant⟩ :=
    validate_passes accepted
  cases loaded
  obtain ⟨contract, embedded, digest, embeds, embeddedDigest, manifestDigest⟩ :=
    validateArchive_manifest archived
  obtain ⟨infos, inventory, declared, agreed⟩ :=
    validatePackageContract_eq_ok contract
  obtain ⟨probes, authorized, _, inventoryHashes, records, evidenceIds,
    probesAre, authorizes, inventoryIs, hashes, recordsAre, each⟩ :=
    validateCollectorAndEvidence_records
      (validateDescriptorSemantics_evidence meant)
  cases agreed.inventoryIs.symm.trans inventoryIs
  have opened := agreed.inspected.opened
  obtain ⟨scan, scanned⟩ := opened.scanned
  obtain ⟨info, found, document⟩ := loadEmbeddedManifest_eq_ok embeds
  rw [opened.members] at found
  refine ⟨infos, probes, records, authorized, ?_⟩
  constructor
  case members => exact opened.members
  case distinct => exact scanned.distinct
  case probesAre => exact probesAre
  case authorizes => exact authorizes
  case recordsAre => exact recordsAre
  case placed =>
    intro record inRecords
    obtain ⟨evidenceId, -, probeId, status, sha256, controls, probe,
      isAccepted⟩ := related_of_mem each.each inRecords
    exact isAccepted.placed hashes agreed
  case accepted =>
    intro record inRecords
    obtain ⟨evidenceId, -, isAccepted⟩ := related_of_mem each.each inRecords
    exact ⟨inventoryHashes, evidenceId, isAccepted⟩
  case manifestDigest =>
    exact ⟨info, embedded, digest, found, document, embeddedDigest,
      manifestDigest⟩

/-- A signed submission that is accepted has passed the full validator. -/
theorem AcceptsSigned.checked {store : SubmissionStore}
    {descriptor trustedManifest : Json} {envelopeBytes : EnvelopeBytes}
    {receivedAt : DateTime} {revocation : CertificateRevocationVerification}
    {verifications : ExternalVerifications}
    (accepts : AcceptsSigned env store archive descriptor trustedManifest
      envelopeBytes receivedAt revocation verifications) :
    ∃ infos probes records authorized, EvidenceChecked
      env.signature.toPackageEnvironment env.offline.config archive descriptor
      trustedManifest infos probes records authorized := by
  obtain ⟨accepted, finished⟩ := accepts
  rw [SubmissionRequest.body, commitOffline] at finished
  cases outcome : checkSigned env.signature env.offline archive
      (.ok descriptor) trustedManifest envelopeBytes receivedAt revocation
      verifications with
  | error error =>
      rw [outcome] at finished
      cases finished
  | ok checked =>
      unfold checkSigned at outcome
      obtain ⟨⟨payload, signer⟩, -, outcome⟩ := bind_eq_ok.mp outcome
      obtain ⟨_, -, outcome⟩ := bind_eq_ok.mp outcome
      obtain ⟨_, -, outcome⟩ := bind_eq_ok.mp outcome
      obtain ⟨jobId, -, outcome⟩ := bind_eq_ok.mp outcome
      obtain ⟨submission, -, outcome⟩ := bind_eq_ok.mp outcome
      obtain ⟨endpointId, -, outcome⟩ := bind_eq_ok.mp outcome
      obtain ⟨nonce, -, outcome⟩ := bind_eq_ok.mp outcome
      unfold validateForCommit at outcome
      obtain ⟨validated, passed, -⟩ := bind_eq_ok.mp outcome
      exact evidenceChecked_of_validate (liftPackage_eq_ok.mp passed)

/-! ## What the archive determines -/

/-- Two entries authorize the same: only numbers among the controls may be
spelt differently. -/
structure SameProbe (first second : AuthorizedProbe) : Prop where
  probeId : first.probeId = second.probeId
  probeVersion : first.probeVersion = second.probeVersion
  controlIds : Json.AlikeItems first.controlIds second.controlIds

theorem authorizes_alike {probe other : AuthorizedProbe}
    (alike : Json.Alike first second) (authorizes : Authorizes first probe)
    (authorizesOther : Authorizes second other) : SameProbe probe other := by
  obtain ⟨probeId, probeVersion, controlIds⟩ := authorizes
  obtain ⟨otherId, otherVersion, otherControls⟩ := authorizesOther
  constructor
  case probeId =>
    exact Option.some.inj ((alike.stringAt probeId).symm.trans otherId)
  case probeVersion =>
    exact Option.some.inj
      ((alike.stringAt probeVersion).symm.trans otherVersion)
  case controlIds =>
    obtain ⟨value, found, alikeValue⟩ := alike.member controlIds
    obtain ⟨others, same, alikeItems⟩ := alikeValue.eq_arr
    rw [otherControls, same] at found
    cases found
    exact alikeItems

theorem authorized_alike :
    ∀ {probes others : List Json} {authorized same : List AuthorizedProbe},
      Json.AlikeItems probes others →
      List.Forall₂ Authorizes probes authorized →
      List.Forall₂ Authorizes others same →
      List.Forall₂ SameProbe authorized same
  | [], _, _, _, .nil, .nil, .nil => .nil
  | _ :: _, _, _, _, .cons head tail, .cons first rest, .cons other others =>
      .cons (authorizes_alike head first other)
        (authorized_alike tail rest others)

theorem find_sameProbe {probeId : String} {probe other : AuthorizedProbe} :
    ∀ {authorized same : List AuthorizedProbe},
      List.Forall₂ SameProbe authorized same →
      authorized.find? (fun probe => decide (probe.probeId = probeId)) =
        some probe →
      same.find? (fun probe => decide (probe.probeId = probeId)) =
        some other →
      SameProbe probe other
  | [], _, .nil, found, _ => by cases found
  | first :: rest, _, .cons (b := second) head tail, found, foundOther => by
      rw [List.find?_cons] at found foundOther
      rw [← head.probeId] at foundOther
      by_cases named : first.probeId = probeId
      · rw [decide_eq_true named] at found foundOther
        cases found
        cases foundOther
        exact head
      · rw [decide_eq_false named] at found foundOther
        exact find_sameProbe tail found foundOther

theorem mem_alike {value : String} :
    ∀ {items others : List Json}, Json.AlikeItems items others →
      Json.str value ∈ items → Json.str value ∈ others
  | _, _, .nil, member => absurd member List.not_mem_nil
  | _, _, .cons head tail, member => by
      rcases List.mem_cons.mp member with rfl | later
      · rw [head.eq_str]
        exact List.mem_cons_self
      · exact List.mem_cons_of_mem _ (mem_alike tail later)

theorem member_of_stringAt {document : Json} {key value : String}
    (found : document.stringAt key = some value) :
    document.member key = some (.str value) := by
  unfold Json.stringAt at found
  split at found
  · next same =>
      cases found
      exact same
  · cases found

theorem stringAt_congr {key : String}
    (same : first.member key = second.member key) :
    first.stringAt key = second.stringAt key := by
  rw [Json.stringAt, Json.stringAt, same]

section Records

variable {config : ValidatorConfig} {infos : List ZipMember}
  {authorized same : List AuthorizedProbe} {record other : Json}

/-- Records of one archive with one identifier and status have one hash. -/
theorem evidence_sha256_bound
    (distinct : (infos.map ZipMember.filename).Nodup)
    (placed : Placed infos record) (otherPlaced : Placed infos other)
    (agree : RecordsAgree (boundFields config) record other) :
    record.member "evidence_sha256" = other.member "evidence_sha256" := by
  have free (key : String) (notBound : key ∉ boundFields config) :
      record.stringAt key = other.stringAt key :=
    stringAt_congr (agree key notBound)
  have samePath : recordPath record = recordPath other := by
    rw [recordPath, recordPath, free "collection_status" ?_,
      free "evidence_id" ?_]
    all_goals
      unfold boundFields
      split <;> decide
  obtain ⟨info, inInfos, named, hash⟩ := placed.inArchive
  obtain ⟨second, secondInfos, secondNamed, secondHash⟩ :=
    otherPlaced.inArchive
  have sameInfo : info = second := by
    refine List.inj_on_of_nodup_map distinct inInfos secondInfos ?_
    rw [named, secondNamed, samePath]
  rw [member_of_stringAt hash, member_of_stringAt secondHash, sameInfo]

variable {inventoryHashes otherHashes : List (String × String)}
  {evidenceId otherId : String}

/-- Records of one probe have the version and the control that the Manifest
authorizes. -/
theorem probe_fields_bound (sameProbes : List.Forall₂ SameProbe authorized
      same)
    (accepted : IsAccepted config authorized inventoryHashes record
      evidenceId)
    (otherAccepted : IsAccepted config same otherHashes other otherId)
    (agree : RecordsAgree (boundFields config) record other) :
    record.member "probe_version" = other.member "probe_version" ∧
      (config.evidenceControlField = "control_id" →
        record.member "control_id" = other.member "control_id") := by
  obtain ⟨probeId, _, _, controls, probe, passed⟩ := accepted
  obtain ⟨otherProbeId, _, _, otherControls, otherProbe, otherPassed⟩ :=
    otherAccepted
  have sameId : probeId = otherProbeId := by
    have sameText : record.stringAt "probe_id" = other.stringAt "probe_id" :=
      stringAt_congr (agree "probe_id" (by
        unfold boundFields
        split <;> decide))
    rw [passed.probeIdIs, otherPassed.probeIdIs] at sameText
    exact Option.some.inj sameText
  subst sameId
  have sameProbe := find_sameProbe sameProbes passed.isAuthorized
    otherPassed.isAuthorized
  constructor
  · rw [member_of_stringAt passed.versionIs,
      member_of_stringAt otherPassed.versionIs, sameProbe.probeVersion]
  · intro single
    have controlsAre := passed.controlsAre
    have otherControlsAre := otherPassed.controlsAre
    unfold evidenceControls at controlsAre otherControlsAre
    rw [if_pos single] at controlsAre otherControlsAre
    obtain ⟨control, read, controlsAre⟩ := bind_eq_ok.mp controlsAre
    obtain ⟨otherControl, otherRead, otherControlsAre⟩ :=
      bind_eq_ok.mp otherControlsAre
    cases controlsAre
    cases otherControlsAre
    have contained : Json.str control ∈ probe.controlIds := by
      have sets := passed.sameControls
      simp only [sameSet, List.all_cons, List.all_nil, Bool.and_true,
        Bool.and_eq_true, decide_eq_true_eq] at sets
      exact sets.1
    have sets := otherPassed.sameControls
    simp only [sameSet, Bool.and_eq_true, List.all_eq_true,
      decide_eq_true_eq] at sets
    have listed := sets.2 _ (mem_alike sameProbe.controlIds contained)
    rw [List.mem_singleton] at listed
    rw [member_of_stringAt (string_eq_ok.mp read),
      member_of_stringAt (string_eq_ok.mp otherRead), listed]

end Records

/-! ## Two descriptors for one envelope -/

def leafDer : List UInt8 :=
  [48, 130, 1, 219, 48, 130, 1, 141, 160, 3, 2, 1, 2, 2, 3, 68, 85, 102, 48, 5,
   6, 3, 43, 101, 112, 48, 85, 49, 36, 48, 34, 6, 3, 85, 4, 3, 12, 27, 83, 101,
   99, 65, 73, 32, 73, 77, 80, 48, 51, 51, 32, 83, 121, 110, 116, 104, 101,
   116, 105, 99, 32, 82, 111, 111, 116, 49, 45, 48, 43, 6, 3, 85, 4, 10, 12,
   36, 51, 51, 48, 48, 48, 48, 48, 48, 45, 48, 48, 48, 48, 45, 52, 48, 48, 48,
   45, 56, 48, 48, 48, 45, 48, 48, 48, 48, 48, 48, 48, 48, 48, 48, 48, 51, 48,
   30, 23, 13, 50, 54, 48, 55, 50, 51, 48, 55, 50, 48, 48, 48, 90, 23, 13, 50,
   54, 48, 55, 51, 48, 48, 56, 50, 48, 48, 48, 90, 48, 90, 49, 41, 48, 39, 6,
   3, 85, 4, 3, 12, 32, 83, 101, 99, 65, 73, 32, 73, 77, 80, 48, 51, 51, 32,
   83, 121, 110, 116, 104, 101, 116, 105, 99, 32, 67, 111, 108, 108, 101, 99,
   116, 111, 114, 49, 45, 48, 43, 6, 3, 85, 4, 10, 12, 36, 51, 51, 48, 48, 48,
   48, 48, 48, 45, 48, 48, 48, 48, 45, 52, 48, 48, 48, 45, 56, 48, 48, 48, 45,
   48, 48, 48, 48, 48, 48, 48, 48, 48, 48, 48, 51, 48, 42, 48, 5, 6, 3, 43,
   101, 112, 3, 33, 0, 185, 164, 7, 41, 58, 254, 85, 9, 164, 189, 245, 164,
   103, 118, 110, 25, 251, 211, 39, 188, 176, 106, 234, 163, 76, 188, 171, 109,
   40, 200, 239, 222, 163, 123, 48, 121, 48, 12, 6, 3, 85, 29, 19, 1, 1, 255,
   4, 2, 48, 0, 48, 14, 6, 3, 85, 29, 15, 1, 1, 255, 4, 4, 3, 2, 7, 128, 48,
   24, 6, 3, 85, 29, 37, 1, 1, 255, 4, 14, 48, 12, 6, 10, 43, 6, 1, 4, 1, 131,
   178, 3, 1, 1, 48, 63, 6, 3, 85, 29, 17, 4, 56, 48, 54, 134, 52, 117, 114,
   110, 58, 115, 101, 99, 97, 105, 58, 97, 115, 115, 101, 116, 58, 50, 56, 48,
   48, 48, 48, 48, 48, 45, 48, 48, 48, 48, 45, 52, 48, 48, 48, 45, 56, 48, 48,
   48, 45, 48, 48, 48, 48, 48, 48, 48, 48, 48, 48, 48, 52, 48, 5, 6, 3, 43,
   101, 112, 3, 65, 0, 99, 214, 243, 211, 117, 150, 146, 7, 205, 109, 229, 50,
   119, 149, 242, 197, 24, 234, 204, 126, 129, 248, 68, 255, 124, 18, 66, 59,
   104, 172, 209, 229, 7, 93, 186, 57, 212, 40, 193, 113, 159, 115, 149, 114,
   12, 200, 165, 205, 195, 74, 95, 172, 33, 98, 229, 128, 139, 154, 185, 123,
   110, 105, 16, 8]

def rootDer : List UInt8 :=
  [48, 130, 1, 129, 48, 130, 1, 51, 160, 3, 2, 1, 2, 2, 3, 17, 34, 51, 48, 5,
   6, 3, 43, 101, 112, 48, 85, 49, 36, 48, 34, 6, 3, 85, 4, 3, 12, 27, 83, 101,
   99, 65, 73, 32, 73, 77, 80, 48, 51, 51, 32, 83, 121, 110, 116, 104, 101,
   116, 105, 99, 32, 82, 111, 111, 116, 49, 45, 48, 43, 6, 3, 85, 4, 10, 12,
   36, 51, 51, 48, 48, 48, 48, 48, 48, 45, 48, 48, 48, 48, 45, 52, 48, 48, 48,
   45, 56, 48, 48, 48, 45, 48, 48, 48, 48, 48, 48, 48, 48, 48, 48, 48, 51, 48,
   30, 23, 13, 50, 54, 48, 55, 50, 50, 48, 56, 50, 48, 48, 48, 90, 23, 13, 50,
   54, 48, 56, 50, 50, 48, 56, 50, 48, 48, 48, 90, 48, 85, 49, 36, 48, 34, 6,
   3, 85, 4, 3, 12, 27, 83, 101, 99, 65, 73, 32, 73, 77, 80, 48, 51, 51, 32,
   83, 121, 110, 116, 104, 101, 116, 105, 99, 32, 82, 111, 111, 116, 49, 45,
   48, 43, 6, 3, 85, 4, 10, 12, 36, 51, 51, 48, 48, 48, 48, 48, 48, 45, 48, 48,
   48, 48, 45, 52, 48, 48, 48, 45, 56, 48, 48, 48, 45, 48, 48, 48, 48, 48, 48,
   48, 48, 48, 48, 48, 51, 48, 42, 48, 5, 6, 3, 43, 101, 112, 3, 33, 0, 26, 9,
   50, 185, 238, 46, 176, 185, 171, 9, 132, 135, 125, 90, 28, 127, 49, 160,
   118, 61, 165, 116, 0, 131, 255, 223, 82, 246, 129, 78, 8, 215, 163, 38, 48,
   36, 48, 18, 6, 3, 85, 29, 19, 1, 1, 255, 4, 8, 48, 6, 1, 1, 255, 2, 1, 0,
   48, 14, 6, 3, 85, 29, 15, 1, 1, 255, 4, 4, 3, 2, 1, 134, 48, 5, 6, 3, 43,
   101, 112, 3, 65, 0, 233, 27, 129, 138, 136, 0, 148, 177, 135, 90, 48, 138,
   1, 39, 228, 87, 91, 174, 228, 229, 21, 89, 201, 221, 44, 92, 186, 12, 207,
   134, 179, 18, 121, 147, 148, 250, 196, 106, 5, 69, 143, 165, 62, 106, 221,
   144, 156, 114, 174, 239, 100, 129, 200, 224, 193, 117, 129, 49, 66, 173, 0,
   54, 102, 12]

def payloadSignature : List UInt8 :=
  [169, 224, 122, 253, 56, 46, 93, 127, 151, 61, 198, 169, 35, 11, 156, 135,
   26, 220, 142, 116, 168, 84, 225, 89, 219, 121, 97, 245, 176, 126, 150, 121,
   199, 244, 65, 5, 1, 220, 106, 15, 217, 205, 219, 73, 249, 129, 234, 186, 74,
   39, 126, 178, 94, 34, 173, 184, 150, 97, 50, 119, 180, 105, 133, 9]

/-- The SHA-256 digest of the collector's certificate. -/
def leafHash : String :=
  "dca2d2109447eb14ec4d9c98e311ff6216eb42674b49bf11054b0a683b11e114"

/-- The SHA-256 digest of the root certificate. -/
def rootHash : String :=
  "8b6ce7f37336c278c93a6022b42bd07f6c6c0e2cc4d7e9b29a6b97521bd29fdc"

/-- The SHA-256 digest of the payload. -/
def payloadHash : String :=
  "da37da518564f0371cdda1b07cb7c124f090ce0fa858e99441d9bd30fc5f3b8a"

def signedPayload : Json :=
  .obj
    [("archive_sha256", .str sampleArchiveHash),
     ("asset_id", .str "28000000-0000-4000-8000-000000000004"),
     ("content_set_sha256", .str sampleContentHash),
     ("execution_attempt_id", .str "33000000-0000-4000-8000-000000000013"),
     ("expires_at", .str "2026-07-23T08:40:00Z"),
     ("issued_at", .str "2026-07-23T08:10:00Z"),
     ("job_id", .str "28000000-0000-4000-8000-000000000003"),
     ("manifest_id", .str "28000000-0000-4000-8000-000000000001"),
     ("manifest_sha256", .str sampleManifestHash),
     ("nonce", .str "SU1QLTAyOC1ub25jZS0wMDAx"),
     ("organization_id", .str "33000000-0000-4000-8000-000000000003"),
     ("package_id", .str "33000000-0000-4000-8000-000000000011")]

/-- Its signature, which the descriptor repeats. -/
def envelopeSignature : Json :=
  .obj
    [("algorithm", .str "Ed25519"), ("canonicalization", .str "RFC8785-JCS"),
     ("certificate_sha256", .str leafHash),
     ("key_id", .str "imp033-synthetic-leaf"),
     ("signed_sha256", .str payloadHash),
     ("value", .str (encodeBase64url payloadSignature))]

def envelopeSigner : Json :=
  .obj
    [("certificate_sha256", .str leafHash),
     ("chain_der_base64url", .arr [.str (encodeBase64url rootDer)]),
     ("leaf_certificate_der_base64url", .str (encodeBase64url leafDer)),
     ("required_eku_oid", .str "1.3.6.1.4.1.55555.1.1")]

def signedEnvelope : Json :=
  .obj
    [("correlation_id", .str "33000000-0000-4000-8000-000000000015"),
     ("created_at", .str "2026-07-23T08:15:00Z"),
     ("id", .str "33000000-0000-4000-8000-000000000014"),
     ("payload", signedPayload),
     ("producer_name", .str "sec-ai-one-shot-collector"),
     ("producer_version", .str "0.1.0"), ("profile", .str "OFFLINE-SIGNED"),
     ("schema_version", .str "1.0.0"), ("signature", envelopeSignature),
     ("signer", envelopeSigner), ("source", .str "collector")]

def signedAuthentication : Json :=
  .obj
    [("assurance_level", .str "MEDIUM"), ("profile", .str "OFFLINE-SIGNED"),
     ("signature", envelopeSignature)]

def rootName : String :=
  "CN=SecAI IMP033 Synthetic Root,O=33000000-0000-4000-8000-000000000003"

/-- The parsed certificate of the root: 30 days are left of it. -/
def rootCertificate : Certificate :=
  { der := rootDer
    issuer := rootName
    subject := rootName
    organizationNames := ["33000000-0000-4000-8000-000000000003"]
    ed25519Key := some ((rootDer.drop 243).take 32)
    signature := rootDer.drop 325
    tbsCertificateBytes := (rootDer.drop 4).take 311
    notValidBefore := sampleTime 20 - hours 24
    notValidAfter := sampleTime 20 + hours 720
    basicConstraintsCa := some true
    keyUsageCertSign := some true
    keyUsageDigitalSignature := some true
    extendedKeyUsage := none
    subjectAlternativeUris := none }

def leafCertificate : Certificate :=
  { der := leafDer
    issuer := rootName
    subject := "CN=SecAI IMP033 Synthetic Collector," ++
      "O=33000000-0000-4000-8000-000000000003"
    organizationNames := ["33000000-0000-4000-8000-000000000003"]
    ed25519Key := some ((leafDer.drop 248).take 32)
    signature := leafDer.drop 415
    tbsCertificateBytes := (leafDer.drop 4).take 401
    notValidBefore := sampleTime (-40)
    notValidAfter := sampleTime 20 + hours 168
    basicConstraintsCa := some false
    keyUsageCertSign := some false
    keyUsageDigitalSignature := some true
    extendedKeyUsage := some [offlinePackageEkuOid]
    subjectAlternativeUris :=
      some ["urn:secai:asset:28000000-0000-4000-8000-000000000004"] }

def countedDevice : Json := sampleEvidence

def countedNoDevice : Json :=
  .obj [("device_count", .int 0), ("synthetic", .bool true)]

def signedDescriptor (rawValue : Json) : Json :=
  sampleDescriptor signedAuthentication rawValue

def signedDescriptors : List (Json × String) :=
  [(signedDescriptor countedDevice,
     "f797ae5ab659919e6ecfe19867bb24b06783c362a7b9ba545bf904d9e57ceff2"),
   (signedDescriptor countedNoDevice,
     "811506482ad7e5192a436da04456058e573b0d378f8679822a6eac1c2594ed57")]

/-- The digests of the certificates, the payload, and the other documents. -/
def signedDigest (bytes : List UInt8) : String :=
  if bytes = leafDer then leafHash
  else if bytes = rootDer then rootHash
  else if bytes = canonicalBytes signedPayload then payloadHash
  else digestOf signedDescriptors sampleDigests bytes

/-- The signatures that verify: a key, a signature and a message each. -/
def verifiedSignatures : List (Option (List UInt8) × List UInt8 × List UInt8) :=
  [(rootCertificate.ed25519Key, rootCertificate.signature,
     rootCertificate.tbsCertificateBytes),
   (rootCertificate.ed25519Key, leafCertificate.signature,
     leafCertificate.tbsCertificateBytes),
   (leafCertificate.ed25519Key, payloadSignature,
     canonicalBytes signedPayload)]

def loadCertificate (der : List UInt8) : Option Certificate :=
  if der = leafDer then some leafCertificate
  else if der = rootDer then some rootCertificate
  else none

/-- The services, with the root pinned. -/
def signedEnvironment : SubmissionEnvironment :=
  { credential := sampleEnvironment.credential
    signature :=
      { toPackageEnvironment := samplePackageEnvironment signedDigest
        loadDerCertificate := loadCertificate
        ed25519Verify := fun key signature message =>
          decide ((some key, signature, message) ∈ verifiedSignatures) }
    offline := { config := defaultConfig, trustStore := [rootCertificate] }
    onlineConfig := defaultConfig }

/-- The certificate of the collector was good when it was checked. -/
def goodCertificate : CertificateRevocationVerification :=
  { status := .good
    certificateSha256 := leafHash
    checkedAt := sampleTime 15
    sourceVersion := "imp033-synthetic-crl-1" }

def sampleSigner : VerifiedOfflineSigner :=
  { organizationId := "33000000-0000-4000-8000-000000000003"
    assetId := "28000000-0000-4000-8000-000000000004"
    certificateSha256 := leafHash
    trustAnchorSha256 := rootHash
    keyId := "imp033-synthetic-leaf"
    payloadSha256 := payloadHash
    assuranceLevel := "MEDIUM" }

def signedEnvelopeBytes : EnvelopeBytes := ⟨2711, .ok signedEnvelope⟩

theorem rootDer_ne : rootDer ≠ leafDer := by
  decide

theorem signedEnvironment_load (der : List UInt8) :
    signedEnvironment.signature.loadDerCertificate der =
      loadCertificate der := rfl

theorem load_leaf : signedEnvironment.signature.loadDerCertificate leafDer =
    some leafCertificate := by
  rw [signedEnvironment_load, loadCertificate, if_pos rfl]

theorem load_root : signedEnvironment.signature.loadDerCertificate rootDer =
    some rootCertificate := by
  rw [signedEnvironment_load, loadCertificate, if_neg rootDer_ne, if_pos rfl]

theorem verify_envelope : verify signedEnvironment.signature
    signedEnvironment.offline.trustStore signedEnvelopeBytes (sampleTime 20)
    goodCertificate = .ok (signedPayload, sampleSigner) := by
  have timely : verifyEnvelopeTime signedEnvironment.signature signedPayload
      (sampleTime 20) = .ok () := by
    decide
  have leaf : certificate signedEnvironment.signature
      (encodeBase64url leafDer) = .ok leafCertificate :=
    certificate_encode load_leaf
  have root : pinnedRoot signedEnvironment.signature
      signedEnvironment.offline.trustStore envelopeSigner =
        .ok rootCertificate := by
    refine pinnedRoot_encode rfl load_root ?_
    decide +kernel
  have chain : verifyChain signedEnvironment.signature leafCertificate
      rootCertificate (sampleTime 20) = .ok () := by
    decide +kernel
  have revocation : verifyRevocation leafHash (sampleTime 20)
      goodCertificate = .ok () := by
    decide
  have claims : ([leafHash, leafHash].forM fun claim => do
      let agrees ← liftPackage (compareDigest claim leafHash)
      if agrees = false then
        rejectSignature .certificateInvalid
          "Offline certificate digest is mismatched."
      else pure ()) = Except.ok () := by
    decide
  have subject : verifySubject leafCertificate
      "33000000-0000-4000-8000-000000000003"
      "28000000-0000-4000-8000-000000000004" = .ok () := by
    decide
  have leafSha256 : signedEnvironment.signature.sha256 leafCertificate.der =
      leafHash := by
    decide +kernel
  have rootSha256 : signedEnvironment.signature.sha256 rootCertificate.der =
      rootHash := by
    decide +kernel
  have signed : verifyPayloadSignature signedEnvironment.signature
      leafCertificate signedPayload envelopeSignature = .ok payloadHash := by
    have ascii : compareDigest payloadHash payloadHash = .ok true := by
      decide
    have digest : signedEnvironment.signature.sha256
        (canonicalBytes signedPayload) = payloadHash := by
      decide +kernel
    have verified : verifiedBy signedEnvironment.signature leafCertificate
        payloadSignature (canonicalBytes signedPayload) = true := by
      decide +kernel
    exact verifyPayloadSignature_encode rfl digest ascii rfl rfl verified
  unfold verify
  rw [if_neg (by decide)]
  refine bind_eq_ok.mpr ⟨signedEnvelope, rfl, ?_⟩
  change (envelopeMapping (signedEnvelope.member "signer") >>= _) = _
  refine bind_eq_ok.mpr ⟨envelopeSigner, rfl, ?_⟩
  refine bind_eq_ok.mpr ⟨envelopeSignature, rfl, ?_⟩
  refine bind_eq_ok.mpr ⟨(), timely, ?_⟩
  refine bind_eq_ok.mpr ⟨encodeBase64url leafDer, rfl, ?_⟩
  refine bind_eq_ok.mpr ⟨leafCertificate, leaf, ?_⟩
  refine bind_eq_ok.mpr ⟨rootCertificate, root, ?_⟩
  rw [leafSha256, rootSha256]
  refine bind_eq_ok.mpr ⟨(), chain, ?_⟩
  refine bind_eq_ok.mpr ⟨leafHash, rfl, ?_⟩
  refine bind_eq_ok.mpr ⟨leafHash, rfl, ?_⟩
  refine bind_eq_ok.mpr ⟨(), claims, ?_⟩
  refine bind_eq_ok.mpr ⟨(), revocation, ?_⟩
  refine bind_eq_ok.mpr ⟨_, rfl, ?_⟩
  refine bind_eq_ok.mpr ⟨_, rfl, ?_⟩
  refine bind_eq_ok.mpr ⟨(), subject, ?_⟩
  refine bind_eq_ok.mpr ⟨payloadHash, signed, ?_⟩
  exact bind_eq_ok.mpr ⟨"imp033-synthetic-leaf", rfl, rfl⟩

def freshStore : SubmissionStore :=
  { credentials := { records := [], usedNonces := [], drawn := 0 }
    offlineUsed := [] }

def isOffline : Except SubmissionError SubmissionReply → Bool
  | .ok (.offline _) => true
  | _ => false

theorem exists_of_isOffline {outcome : Except SubmissionError SubmissionReply}
    (accepted : isOffline outcome = true) :
    ∃ submission, outcome = .ok (.offline submission) := by
  unfold isOffline at accepted
  split at accepted
  · exact ⟨_, rfl⟩
  · cases accepted

/-- The collector submits a descriptor with its envelope to a fresh store. -/
abbrev SignedAccepted (rawValue : Json) : Prop :=
  AcceptsSigned signedEnvironment freshStore sampleArchive
    (signedDescriptor rawValue) sampleManifest signedEnvelopeBytes
    (sampleTime 20) goodCertificate sampleVerifications

theorem countedDevice_accepted : SignedAccepted countedDevice := by
  apply exists_of_isOffline
  rw [SubmissionRequest.body, checkSigned, verify_envelope]
  decide

theorem countedNoDevice_accepted : SignedAccepted countedNoDevice := by
  apply exists_of_isOffline
  rw [SubmissionRequest.body, checkSigned, verify_envelope]
  decide

theorem sampleManifest_determined : DigestDetermines
    signedEnvironment.signature.toPackageEnvironment sampleManifest
    sampleManifest := by
  constructor
  case collisionFree =>
    intro first second isFirst isSecond _
    exact Option.some.inj (isFirst.symm.trans isSecond)
  case canonical =>
    intro bytes _ _
    exact Json.Alike.refl sampleManifest

/-! ## What binds the evidence -/

end SecAI.Submission
