/-
Module: SecAI.Package.Inventory
Purpose: Which members an accepted package has, and how its evidence records
  name them.
Trusted boundary: none
Main exports:
  ExactInventory, extractedBytes, accepted_inventory_is_exact
-/
import Mathlib.Data.List.Perm.Subperm
import SecAI.Package.Accepted

namespace SecAI.Package

open Outcome

variable {env : PackageEnvironment} {limits : PackageLimits}

/-! ## What is read of an archive -/

/-- The chunks that the loop of `_read_member` takes from a stream, with the
one on which it stops. -/
def chunksTaken (limits : PackageLimits) (totalBefore measured : Nat) :
    List Nat → List Nat
  | [] => []
  | chunk :: chunks =>
      if measured + chunk > limits.maxMemberBytes ∨
          totalBefore + (measured + chunk) > limits.maxUncompressedBytes then
        [chunk]
      else chunk :: chunksTaken limits totalBefore (measured + chunk) chunks

/-- The bytes that are taken from the stream of each member that is opened:
after a member that is rejected, none is. -/
def bytesTaken (limits : PackageLimits) (totalBefore : Nat) :
    List ZipMember → List Nat
  | [] => []
  | info :: infos =>
      (chunksTaken limits totalBefore 0 info.chunkSizes).sum ::
        match measureMember limits totalBefore info with
        | .ok record =>
            bytesTaken limits (totalBefore + record.sizeBytes) infos
        | .error _ => []

/-- What `inspect_package_archive` extracts of any archive, member by
member. -/
def extractedBytes (env : PackageEnvironment) (archive : ArchiveFile)
    (limits : PackageLimits) : List Nat :=
  match openArchive env archive limits with
  | .ok infos => bytesTaken limits 0 infos
  | .error _ => []

/-- What is extracted stays within the limits. -/
structure WithinLimits (limits : PackageLimits) (extracted : List Nat) :
    Prop where
  count : extracted.length ≤ limits.maxFiles
  each : ∀ bytes ∈ extracted, bytes ≤ limits.maxMemberBytes
  total : extracted.sum ≤ limits.maxUncompressedBytes

theorem chunksTaken_sum_le (totalBefore : Nat) :
    ∀ (chunks : List Nat) (measured : Nat),
      (chunksTaken limits totalBefore measured chunks).sum ≤ chunks.sum
  | [], _ => le_refl _
  | chunk :: chunks, measured => by
      rw [chunksTaken]
      split
      · simp
      · rw [List.sum_cons, List.sum_cons]
        exact Nat.add_le_add_left (chunksTaken_sum_le totalBefore chunks _) _

theorem taken_le_fileSize (totalBefore : Nat) (info : ZipMember) :
    (chunksTaken limits totalBefore 0 info.chunkSizes).sum ≤ info.fileSize :=
  (chunksTaken_sum_le totalBefore info.chunkSizes 0).trans info.withinSize

/-- What is taken is bounded by the entries, one by one and together. -/
theorem bytesTaken_le :
    ∀ (infos : List ZipMember) (totalBefore : Nat),
      (bytesTaken limits totalBefore infos).length ≤ infos.length ∧
        (∀ bytes ∈ bytesTaken limits totalBefore infos,
          ∃ info ∈ infos, bytes ≤ info.fileSize) ∧
        (bytesTaken limits totalBefore infos).sum ≤
          (infos.map ZipMember.fileSize).sum
  | [], _ =>
      ⟨le_refl _, fun _ member => absurd member List.not_mem_nil, le_refl _⟩
  | info :: infos, totalBefore => by
      have first := @taken_le_fileSize limits totalBefore info
      rw [bytesTaken]
      cases measureMember limits totalBefore info with
      | ok record =>
          obtain ⟨count, each, total⟩ :=
            bytesTaken_le infos (totalBefore + record.sizeBytes)
          refine ⟨by simpa using count, ?_, ?_⟩
          · intro bytes member
            rcases List.mem_cons.mp member with rfl | later
            · exact ⟨info, List.mem_cons_self, first⟩
            · obtain ⟨other, inRest, bound⟩ := each bytes later
              exact ⟨other, List.mem_cons_of_mem _ inRest, bound⟩
          · rw [List.sum_cons, List.map_cons, List.sum_cons]
            exact Nat.add_le_add first total
      | error error =>
          refine ⟨by simp, ?_, ?_⟩
          · intro bytes member
            rw [List.mem_singleton.mp member]
            exact ⟨info, List.mem_cons_self, first⟩
          · rw [List.sum_singleton, List.map_cons, List.sum_cons]
            exact first.trans (Nat.le_add_right _ _)

theorem extractedBytes_within (archive : ArchiveFile) :
    WithinLimits limits (extractedBytes env archive limits) := by
  unfold extractedBytes
  split
  · next infos accepted =>
      have opened := openArchive_eq_ok accepted
      obtain ⟨scan, scanned⟩ := opened.scanned
      obtain ⟨count, each, total⟩ := @bytesTaken_le limits infos 0
      constructor
      case count => exact count.trans opened.notTooMany
      case each =>
        intro bytes member
        obtain ⟨info, inArchive, bound⟩ := each bytes member
        exact bound.trans (scanned.small info inArchive)
      case total => exact total.trans scanned.withinTotal
  · exact ⟨Nat.zero_le _, fun _ member => absurd member List.not_mem_nil,
      Nat.zero_le _⟩

/-! ## The exact inventory -/

/-- The members of an archive and the inventory of a descriptor are the same
files, in the allowed layout and within the limits. -/
structure ExactInventory (env : PackageEnvironment) (limits : PackageLimits)
    (archive : ArchiveFile) (descriptor : Json) (infos : List ZipMember)
    (inventory : List Json) (declared : List PackageFileRecord) :
    Prop where
  members : archive.members = some infos
  inventoryIs : descriptor.member "file_inventory" = some (.arr inventory)
  declares : List.Forall₂ Declares inventory declared
  samePaths : ∀ path, path ∈ infos.map ZipMember.filename ↔
    path ∈ declared.map PackageFileRecord.path
  membersDistinct : (infos.map ZipMember.filename).Nodup
  membersDistinctFolded :
    (infos.map fun info => env.casefold info.filename).Nodup
  declaredDistinct : (declared.map PackageFileRecord.path).Nodup
  declaredDistinctFolded :
    (declared.map fun record => env.casefold record.path).Nodup
  inLayout : ∀ info ∈ infos, isSafeMember info.filename.toList = true
  hasManifest : manifestPath ∈ infos.map ZipMember.filename
  sameBytes : ∀ record ∈ declared, ∃ info ∈ infos,
    info.filename = record.path ∧
      info.chunkSizes.sum = record.sizeBytes ∧ info.sha256 = record.sha256
  /-- The declared totals are those of the members that have been read. -/
  totals : ∃ facts, descriptor.member "archive" = some facts ∧
    facts.stringAt "archive_sha256" = some archive.sha256 ∧
    facts.integerAt "compressed_bytes" = some (archive.sizeBytes : Int) ∧
    facts.integerAt "file_count" = some (infos.length : Int) ∧
    facts.integerAt "uncompressed_bytes" =
      some (((infos.map fun info => info.chunkSizes.sum).sum : Nat) : Int)
  countInRange : minFiles ≤ infos.length ∧ infos.length ≤ limits.maxFiles
  each : ∀ info ∈ infos, info.chunkSizes.sum ≤ limits.maxMemberBytes
  total : (infos.map fun info => info.chunkSizes.sum).sum ≤
    limits.maxUncompressedBytes

theorem Agreed.exactInventory {archive : ArchiveFile} {descriptor : Json}
    {inspection : PackageInspection} {infos : List ZipMember}
    {inventory : List Json} {declared : List PackageFileRecord}
    (agreed : Agreed env limits archive descriptor inspection infos inventory
      declared) :
    ExactInventory env limits archive descriptor infos inventory
      declared := by
  have inspected := agreed.inspected
  have opened := inspected.opened
  obtain ⟨scan, scanned⟩ := opened.scanned
  have sizes : infos.map (fun info => info.chunkSizes.sum) =
      infos.map ZipMember.fileSize :=
    List.map_congr_left inspected.sizes
  have records : inspection.files.Perm (infos.map memberRecord) := by
    rw [inspected.files]
    exact List.perm_insertionSort _ _
  have uncompressed : inspection.uncompressedBytes =
      (infos.map fun info => info.chunkSizes.sum).sum := by
    rw [inspected.uncompressedBytes, sizes,
      (records.map PackageFileRecord.sizeBytes).sum_nat, List.map_map]
    rfl
  have count : inspection.fileCount = infos.length := by
    rw [inspected.fileCount, records.length_eq, List.length_map]
  obtain ⟨facts, factsRead, declaresFacts⟩ := agreed.facts
  constructor
  case members => exact opened.members
  case inventoryIs => exact agreed.inventoryIs
  case declares => exact agreed.inventoried.declares
  case samePaths =>
    intro path
    constructor
    · intro inMembers
      obtain ⟨info, member, rfl⟩ := List.mem_map.mp inMembers
      exact agreed.inInventory info member
    · intro inDeclared
      obtain ⟨record, isDeclared, rfl⟩ := List.mem_map.mp inDeclared
      obtain ⟨info, member, rfl⟩ := agreed.inArchive record isDeclared
      exact List.mem_map_of_mem member
  case membersDistinct => exact scanned.distinct
  case membersDistinctFolded => exact scanned.distinctFolded
  case declaredDistinct => exact agreed.inventoried.distinct
  case declaredDistinctFolded => exact agreed.inventoried.distinctFolded
  case inLayout =>
    intro info member
    exact validateMemberPath_isSafe (scanned.allowed info member)
  case hasManifest => exact opened.hasManifest
  case sameBytes =>
    intro record isDeclared
    obtain ⟨info, member, rfl⟩ := agreed.inArchive record isDeclared
    exact ⟨info, member, rfl, inspected.sizes info member, rfl⟩
  case totals =>
    refine ⟨facts, factsRead, ?_, ?_, ?_, ?_⟩
    · rw [declaresFacts.archiveSha256, inspected.archiveSha256]
    · rw [declaresFacts.compressedBytes, inspected.compressedBytes]
    · rw [declaresFacts.fileCount, count]
    · rw [declaresFacts.uncompressedBytes, uncompressed]
  case countInRange => exact ⟨opened.notTooFew, opened.notTooMany⟩
  case each =>
    intro info member
    rw [inspected.sizes info member]
    exact scanned.small info member
  case total =>
    rw [sizes]
    exact scanned.withinTotal

/-- A package whose contract is accepted has an exact inventory, and whatever
the archive is, its extraction stays within the limits. -/
theorem accepted_inventory_is_exact (env : PackageEnvironment)
    (limits : PackageLimits) (archive : ArchiveFile) (descriptor : Json) :
    (∀ inspection, validatePackageContract env archive descriptor limits =
        .ok inspection →
      ∃ infos inventory declared, ExactInventory env limits archive
        descriptor infos inventory declared) ∧
    WithinLimits limits (extractedBytes env archive limits) := by
  constructor
  · intro inspection accepted
    obtain ⟨infos, inventory, declared, agreed⟩ :=
      validatePackageContract_eq_ok accepted
    exact ⟨infos, inventory, declared, agreed.exactInventory⟩
  · exact extractedBytes_within archive

/-! ## A package of one job -/

def sampleManifestHash : String :=
  "9ccd720bfb7111625911ff936cc19dfc6eccaf0485ac6b03110f8135d6a5af0f"

def sampleArchiveHash : String :=
  "c0429a6d8acaaf2c1587b060f6aca983dc928eb15cecfe5cc29a1a32986dd6f3"

def sampleContentHash : String :=
  "6bb040b0a67338581dfbd66a05d7930dd385b703f62109c9f552602f21519755"

def sampleManifestFileHash : String :=
  "0433d4777f78ecbda55fe281d9ff1ae3e5f62242e5e581afa2431a6023b9f8fa"

def sampleEvidenceHash : String :=
  "91401634eab5ea628a4894054c4130edbdf8a97194d02b94bbaca3dbcf07db59"

def sampleBuildHash : String :=
  "bbbbbbbbbbbbbbbbbbbbbbbbbbbbbbbbbbbbbbbbbbbbbbbbbbbbbbbbbbbbbbbb"

def sampleManifest : Json :=
  .obj
    [("asset_id", .str "28000000-0000-4000-8000-000000000004"),
     ("authorization",
       .obj
         [("profile", .str "MANIFEST-SIGNED-V1"),
          ("signature",
            .obj
              [("algorithm", .str "Ed25519"),
               ("canonicalization", .str "RFC8785-JCS"),
               ("key_id", .str "imp028-test-key"),
               ("signed_sha256", .str sampleManifestHash),
               ("value",
                 .str ("eq3MYZgI3vrkqTb41iv_vHKSUG60NhzNHKqE9g2q9Z8XRWgMpiFA" ++
                   "k16vFNRuOiUp_sPuMxN0bXfwh0XvlHoEBw"))])]),
     ("collector_constraint",
       .obj
         [("max_version_exclusive", .str "0.2.0"),
          ("min_version", .str "0.1.0"),
          ("name", .str "sec-ai-one-shot-collector"),
          ("release_channel", .str "DEV-UNTRUSTED")]),
     ("correlation_id", .str "28000000-0000-4000-8000-000000000002"),
     ("created_at", .str "2026-07-23T06:00:00Z"),
     ("expires_at", .str "2026-07-23T09:00:00Z"),
     ("guide_version", .str "2026"),
     ("id", .str "28000000-0000-4000-8000-000000000001"),
     ("issued_at", .str "2026-07-23T08:00:00Z"),
     ("job_id", .str "28000000-0000-4000-8000-000000000003"),
     ("manifest_content_sha256", .str sampleManifestHash),
     ("nonce", .str "SU1QLTAyOC1ub25jZS0wMDAx"),
     ("probes",
       .arr
         [.obj
            [("control_ids", .arr [.str "PC-07"]),
             ("max_output_bytes", .int 65536), ("parameters", .obj []),
             ("probe_id", .str "win.storage.disks"),
             ("probe_version", .str "0.1.0"),
             ("required_privilege", .str "STANDARD_USER"),
             ("timeout_seconds", .int 30)]]),
     ("producer_name", .str "sec-ai-api"), ("producer_version", .str "0.1.0"),
     ("schema_version", .str "1.0.0"), ("source", .str "api"),
     ("submission",
       .obj
         [("allowed_profiles",
            .arr
              [.str "ONLINE-AUTHENTICATED",
               .str "OFFLINE-SIGNED",
               .str "OFFLINE-USER-SUBMITTED"]),
          ("endpoint_id", .str "imp033-offline-upload"),
          ("max_archive_bytes", .int 10485760), ("max_files", .int 128),
          ("max_uncompressed_bytes", .int 52428800)]),
     ("target",
       .obj
         [("architecture", .str "x86_64"), ("os_family", .str "WINDOWS"),
          ("os_version", .str "11")])]

def sampleEvidence : Json :=
  .obj [("device_count", .int 1), ("synthetic", .bool true)]

def storedMember (filename : String) (headerOffset size : Nat)
    (sha256 : String) (document : Json) : ZipMember :=
  { filename := filename
    externalAttr := 0x81800000
    headerOffset := headerOffset
    flagBits := 0
    compressType := 0
    fileSize := size
    compressSize := size
    chunkSizes := [size]
    readFails := false
    sha256 := sha256
    document := .ok document
    withinSize := by simp }

def sampleArchive : ArchiveFile :=
  { isFile := true
    sizeBytes := 1865
    sha256 := sampleArchiveHash
    members := some
      [storedMember manifestPath 0 1510 sampleManifestFileHash sampleManifest,
       storedMember "evidence/33000000-0000-4000-8000-000000000010.json" 1563
         35 sampleEvidenceHash sampleEvidence] }

def inventoryEntry (path sha256 : String) (size : Int) : Json :=
  .obj
    [("media_type", .str "application/json"), ("path", .str path),
     ("sha256", .str sha256), ("size_bytes", .int size)]

def sampleInventory : List Json :=
  [inventoryEntry "collector_manifest.json" sampleManifestFileHash 1510,
   inventoryEntry "evidence/33000000-0000-4000-8000-000000000010.json"
     sampleEvidenceHash 35]

def archiveFacts (archiveSha256 contentSetSha256 : String)
    (compressedBytes fileCount uncompressedBytes : Int) : Json :=
  .obj
    [("archive_sha256", .str archiveSha256),
     ("compressed_bytes", .int compressedBytes),
     ("content_set_sha256", .str contentSetSha256),
     ("file_count", .int fileCount),
     ("format", .str "ZIP-STORED-OR-DEFLATE"),
     ("uncompressed_bytes", .int uncompressedBytes)]

/-- The descriptor of an archive with one evidence record, under an
authentication and with the raw value it gives for the evidence. -/
def packageDescriptor (facts : Json) (inventory : List Json)
    (authentication rawValue : Json) : Json :=
  .obj
    [("archive", facts),
     ("asset_id", .str "28000000-0000-4000-8000-000000000004"),
     ("authentication", authentication),
     ("collector",
       .obj
         [("build_sha256", .str sampleBuildHash),
          ("name", .str "sec-ai-one-shot-collector"),
          ("probe_bundle_version", .str "0.1.0"),
          ("release_channel", .str "DEV-UNTRUSTED"),
          ("version", .str "0.1.0")]),
     ("correlation_id", .str "33000000-0000-4000-8000-000000000012"),
     ("created_at", .str "2026-07-23T08:15:00Z"),
     ("evidence_records",
       .arr
         [.obj
            [("collected_at", .str "2026-07-23T08:09:00Z"),
             ("collection_status", .str "COLLECTED"),
             ("control_id", .str "PC-07"), ("error_code", .str "NONE"),
             ("evidence_id", .str "33000000-0000-4000-8000-000000000010"),
             ("evidence_sha256", .str sampleEvidenceHash),
             ("execution_identity",
               .obj
                 [("elevated", .bool false),
                  ("privilege", .str "STANDARD_USER")]),
             ("guide_version", .str "2026"),
             ("probe_id", .str "win.storage.disks"),
             ("probe_version", .str "0.1.0"), ("raw_value", rawValue),
             ("redacted", .bool true),
             ("source_locator",
               .obj
                 [("locator", .str "redacted-device-summary"),
                  ("provider", .str "SyntheticAcceptanceAdapter"),
                  ("type", .str "WINDOWS_API")])]]),
     ("execution_attempt_id", .str "33000000-0000-4000-8000-000000000013"),
     ("expires_at", .str "2026-07-23T08:40:00Z"),
     ("file_inventory", .arr inventory),
     ("host",
       .obj
         [("architecture", .str "x86_64"), ("build", .int 26100),
          ("clock_status", .str "SYNCHRONIZED"),
          ("display_version", .str "24H2"), ("edition", .str "Professional"),
          ("os_family", .str "WINDOWS"),
          ("product_name", .str "Windows 11 Pro"),
          ("timezone", .str "Asia/Seoul"), ("ubr", .int 1000)]),
     ("id", .str "33000000-0000-4000-8000-000000000011"),
     ("issued_at", .str "2026-07-23T08:10:00Z"),
     ("job_id", .str "28000000-0000-4000-8000-000000000003"),
     ("manifest_hash", .str sampleManifestHash),
     ("manifest_id", .str "28000000-0000-4000-8000-000000000001"),
     ("nonce", .str "SU1QLTAyOC1ub25jZS0wMDAx"),
     ("producer_name", .str "sec-ai-one-shot-collector"),
     ("producer_version", .str "0.1.0"), ("schema_version", .str "1.0.0"),
     ("source", .str "collector")]

def sampleDescriptor (authentication rawValue : Json) : Json :=
  packageDescriptor
    (archiveFacts sampleArchiveHash sampleContentHash 1865 2 1545)
    sampleInventory authentication rawValue

def onlineAuthentication : Json :=
  .obj
    [("assurance_level", .str "HIGH"),
     ("authenticated_subject_id",
       .str "20000000-0000-4000-8000-000000000004"),
     ("profile", .str "ONLINE-AUTHENTICATED"),
     ("transport_receipt_id", .str "20000000-0000-4000-8000-000000000005")]

def userAuthentication : Json :=
  .obj
    [("assurance_level", .str "LOW"),
     ("profile", .str "OFFLINE-USER-SUBMITTED")]

/-! ## What the libraries answer for it -/

def quoted (text : String) : List UInt8 :=
  34 :: text.toByteArray.data.toList ++ [34]

mutual

/-- The canonical bytes of a document without fractions, whose strings need no
escapes. -/
def canonicalBytes : Json → List UInt8
  | .null => "null".toByteArray.data.toList
  | .bool true => "true".toByteArray.data.toList
  | .bool false => "false".toByteArray.data.toList
  | .int value => (toString value).toByteArray.data.toList
  | .float _ => []
  | .str value => quoted value
  | .arr items => 91 :: List.intercalate [44] (canonicalItems items) ++ [93]
  | .obj members =>
      123 :: List.intercalate [44] (canonicalMembers members) ++ [125]

def canonicalItems : List Json → List (List UInt8)
  | [] => []
  | item :: items => canonicalBytes item :: canonicalItems items

/-- The bytes of the members of an object, which stand in order. -/
def canonicalMembers : List (String × Json) → List (List UInt8)
  | [] => []
  | (key, value) :: members =>
      (quoted key ++ 58 :: canonicalBytes value) :: canonicalMembers members

end

/-- The digests of the descriptors, and of the other documents, which are told
apart by how they begin. -/
def digestOf (descriptors : List (Json × String))
    (beginnings : List (String × String)) (bytes : List UInt8) : String :=
  match descriptors.find? fun entry =>
      decide (canonicalBytes entry.1 = bytes) with
  | some (_, digest) => digest
  | none =>
      ((beginnings.find? fun entry =>
        entry.1.toByteArray.data.toList.isPrefixOf bytes).map
          Prod.snd).getD ""

def sampleDigests : List (String × String) :=
  [("[", sampleContentHash),
   ("\x7b\x22asset_id\x22:\x2228000000-0000-4000-8000-000000000004\x22,\x22c",
     sampleManifestHash),
   ("\x7b\x22as",
     "52c854d0bc4fd90c8d90ee332fffc45ec2e8550fa601d8e665e3b2433bfa6704")]

/-- Microseconds of the hour in which the package is made and submitted. -/
def sampleTime (minute : Int) : DateTime :=
  seconds 1784793600 + minutes minute

def sampleTimestamp (text : String) : Option DateTime :=
  ([("2026-07-23T08:00:00+00:00", 0), ("2026-07-23T08:10:00+00:00", 10),
    ("2026-07-23T08:40:00+00:00", 40), ("2026-07-23T09:00:00+00:00", 60)
    ].find? fun entry => decide (entry.1 = text)).map fun entry =>
      sampleTime entry.2

def samplePackageEnvironment (sha256 : List UInt8 → String) :
    PackageEnvironment :=
  { canonicalize := fun document => some (canonicalBytes document)
    sha256 := sha256
    schemaOutcome := fun _ _ => .accepted
    fromIsoformat := sampleTimestamp
    casefold := fun text => text }

/-! ## The package of the job -/

/-- What the libraries answer for the submission of the package by a user. -/
def userEnvironment : PackageEnvironment :=
  samplePackageEnvironment (digestOf
    [(sampleDescriptor userAuthentication sampleEvidence,
      "cd140ac43888fcfc8da3c060025a738426adc28092d47a73a5bd50bedc101df2")]
    sampleDigests)

def sampleContext : PackageValidationContext :=
  { organizationId := "33000000-0000-4000-8000-000000000003"
    assetId := "28000000-0000-4000-8000-000000000004"
    jobId := "28000000-0000-4000-8000-000000000003"
    endpointId := "imp033-offline-upload"
    receivedAt := sampleTime 25 }

/-- All gates are passed by an archive with this hash and size. -/
def passedGates (archiveSha256 : String) (sizeBytes : Nat) :
    PackageGateVerifications :=
  { manifestSignature := ⟨.verified, sampleManifestHash⟩
    nonce := ⟨.freshReserved, "SU1QLTAyOC1ub25jZS0wMDAx"⟩
    packageAuthentication := ⟨.verified, .offlineSubmitter⟩
    malwareScan := ⟨.clean, archiveSha256⟩
    contentPolicy := ⟨.verified, archiveSha256⟩
    stagedObject :=
      { status := .verified
        organizationId := sampleContext.organizationId
        assetId := sampleContext.assetId
        jobId := sampleContext.jobId
        archiveSha256 := archiveSha256
        sizeBytes := sizeBytes } }

theorem samplePackage_accepted : ∃ validated,
    validate userEnvironment defaultConfig sampleArchive
      (.ok (sampleDescriptor userAuthentication sampleEvidence))
      sampleManifest sampleContext (passedGates sampleArchiveHash 1865) =
        .ok validated :=
  eq_ok_of_isOk (by decide +kernel)

/-- It has an exact inventory. -/
theorem samplePackage_inventory : ∃ limits infos inventory declared,
    ExactInventory userEnvironment limits sampleArchive
      (sampleDescriptor userAuthentication sampleEvidence) infos inventory
      declared := by
  obtain ⟨validated, accepted⟩ := samplePackage_accepted
  obtain ⟨_, _, limits, sameDescriptor, -, -, archived, -⟩ :=
    validate_passes accepted
  cases sameDescriptor
  obtain ⟨infos, inventory, declared, exact⟩ :=
    (accepted_inventory_is_exact userEnvironment limits sampleArchive _).1 _
      (validateArchive_manifest archived).1
  exact ⟨limits, infos, inventory, declared, exact⟩

/-! ## The evidence members -/

/-- The member is the one that an evidence record refers to. -/
def IsEvidenceMember (record : Json) (info : ZipMember) : Prop :=
  ∃ status evidenceId,
    record.stringAt "collection_status" = some status ∧
    record.stringAt "evidence_id" = some evidenceId ∧
    info.filename = evidenceMemberPath status evidenceId

/-- Every member but the Manifest is the evidence member of exactly one
record, and every record has exactly one evidence member. -/
def NoOrphanEvidence (infos : List ZipMember) (records : List Json) : Prop :=
  (∀ info ∈ infos, info.filename ≠ manifestPath →
    ∃! index : Fin records.length,
      IsEvidenceMember (records.get index) info) ∧
  ∀ record ∈ records, ∃! info, info ∈ infos ∧ IsEvidenceMember record info

/-- How the evidence records of an accepted package refer to its members. -/
structure EvidenceMembers (infos : List ZipMember) (records : List Json) :
    Prop where
  /-- A record has exactly one evidence member. -/
  member : ∀ record ∈ records, ∃! info,
    info ∈ infos ∧ IsEvidenceMember record info
  /-- It is not the Manifest, and it has the hash that the record gives. -/
  evidence : ∀ record ∈ records, ∀ info ∈ infos,
    IsEvidenceMember record info → info.filename ≠ manifestPath ∧
      record.stringAt "evidence_sha256" = some info.sha256
  /-- No two records share one. -/
  unshared : ∀ info, ∀ first second : Fin records.length,
    IsEvidenceMember (records.get first) info →
    IsEvidenceMember (records.get second) info → first = second
  /-- Nothing is left over when there is a record for each. -/
  complete : NoOrphanEvidence infos records ↔
    records.length + 1 = infos.length

theorem evidenceMemberPath_toList (status evidenceId : String) :
    (evidenceMemberPath status evidenceId).toList =
      (if status = "COLLECTED" then "evidence".toList
        else "errors".toList) ++ '/' :: evidenceId.toList ++
        ".json".toList := by
  unfold evidenceMemberPath
  split <;> simp

theorem evidenceMemberPath_inj {status otherStatus evidenceId
    otherId : String}
    (same : evidenceMemberPath status evidenceId =
      evidenceMemberPath otherStatus otherId) : evidenceId = otherId := by
  have sameList := congrArg String.toList same
  rw [evidenceMemberPath_toList, evidenceMemberPath_toList] at sameList
  split at sameList <;> split at sameList <;>
    simp_all [String.toList_inj]

theorem evidenceMemberPath_ne_manifest (status evidenceId : String) :
    evidenceMemberPath status evidenceId ≠ manifestPath := by
  intro same
  have sameList := congrArg String.toList same
  rw [evidenceMemberPath_toList] at sameList
  split at sameList <;> simp [manifestPath] at sameList

def recordPath (record : Json) : String :=
  evidenceMemberPath ((record.stringAt "collection_status").getD "")
    ((record.stringAt "evidence_id").getD "")

def evidencePaths (infos : List ZipMember) : List String :=
  (infos.map ZipMember.filename).erase manifestPath

def recordId (record : Json) : String :=
  (record.stringAt "evidence_id").getD ""

/-- A record that has been checked against the members of the archive. -/
structure Placed (infos : List ZipMember) (record : Json) : Prop where
  isMember : ∀ info, IsEvidenceMember record info ↔
    info.filename = recordPath record
  inArchive : ∃ info ∈ infos, info.filename = recordPath record ∧
    record.stringAt "evidence_sha256" = some info.sha256

theorem AcceptedEvidence.placed {config : ValidatorConfig}
    {authorized : List AuthorizedProbe}
    {inventoryHashes : List (String × String)} {record : Json}
    {evidenceId probeId status sha256 : String} {controls : List Json}
    {probe : AuthorizedProbe} {archive : ArchiveFile} {descriptor : Json}
    {inspection : PackageInspection} {infos : List ZipMember}
    {inventory : List Json} {declared : List PackageFileRecord}
    (accepted : AcceptedEvidence config authorized inventoryHashes record
      evidenceId probeId status sha256 controls probe)
    (hashes : ∀ entry ∈ inventoryHashes, ∃ item ∈ inventory,
      item.stringAt "path" = some entry.1 ∧
        item.stringAt "sha256" = some entry.2)
    (agreed : Agreed env limits archive descriptor inspection infos inventory
      declared) : Placed infos record := by
  have path : recordPath record = evidenceMemberPath status evidenceId := by
    rw [recordPath, accepted.statusIs, accepted.evidenceIdIs]
    rfl
  constructor
  case isMember =>
    intro info
    rw [path]
    constructor
    · rintro ⟨otherStatus, otherId, sameStatus, sameId, named⟩
      rw [accepted.statusIs, Option.some.injEq] at sameStatus
      rw [accepted.evidenceIdIs, Option.some.injEq] at sameId
      rw [named, sameStatus, sameId]
    · intro named
      exact ⟨status, evidenceId, accepted.statusIs, accepted.evidenceIdIs,
        named⟩
  case inArchive =>
    rw [path]
    obtain ⟨item, inInventory, itemPath, itemHash⟩ :=
      hashes _ (hashOf_mem accepted.inInventory)
    obtain ⟨record, isDeclared, declares⟩ :=
      related_of_mem agreed.inventoried.declares inInventory
    obtain ⟨info, inInfos, rfl⟩ := agreed.inArchive record isDeclared
    refine ⟨info, inInfos, ?_, ?_⟩
    · exact Option.some.inj (declares.1.symm.trans itemPath)
    · rw [accepted.sha256Is, ← itemHash]
      exact declares.2.2

theorem recordPaths_nodup {records : List Json}
    (distinct : (records.map recordId).Nodup) :
    (records.map recordPath).Nodup := by
  rw [List.nodup_iff_pairwise_ne, List.pairwise_map] at distinct ⊢
  refine distinct.imp fun differ same => differ ?_
  exact evidenceMemberPath_inj same

section Placed

variable {infos : List ZipMember} {records : List Json}
  (distinct : (infos.map ZipMember.filename).Nodup)
  (placed : ∀ record ∈ records, Placed infos record)

include distinct placed

theorem evidence_member_unique (record : Json) (member : record ∈ records) :
    ∃! info, info ∈ infos ∧ IsEvidenceMember record info := by
  have isPlaced := placed record member
  obtain ⟨info, inInfos, named, -⟩ := isPlaced.inArchive
  refine ⟨info, ⟨inInfos, (isPlaced.isMember info).mpr named⟩, ?_⟩
  rintro other ⟨otherInfos, isOther⟩
  refine List.inj_on_of_nodup_map distinct otherInfos inInfos ?_
  rw [named, (isPlaced.isMember other).mp isOther]

theorem evidence_hash (record : Json) (member : record ∈ records)
    (info : ZipMember) (inInfos : info ∈ infos)
    (isMember : IsEvidenceMember record info) :
    info.filename ≠ manifestPath ∧
      record.stringAt "evidence_sha256" = some info.sha256 := by
  have isPlaced := placed record member
  have named := (isPlaced.isMember info).mp isMember
  obtain ⟨other, otherInfos, otherNamed, hash⟩ := isPlaced.inArchive
  have same : info = other := List.inj_on_of_nodup_map distinct inInfos
    otherInfos (named.trans otherNamed.symm)
  rw [same]
  refine ⟨?_, hash⟩
  rw [otherNamed]
  exact evidenceMemberPath_ne_manifest _ _

omit distinct in
theorem evidence_record_unique (pathsDistinct : (records.map recordPath).Nodup)
    (info : ZipMember) (first second : Fin records.length)
    (isFirst : IsEvidenceMember (records.get first) info)
    (isSecond : IsEvidenceMember (records.get second) info) :
    first = second := by
  have named (index : Fin records.length)
      (isMember : IsEvidenceMember (records.get index) info) :
      info.filename = recordPath (records.get index) :=
    ((placed _ (List.get_mem records index)).isMember info).mp isMember
  have same := (named first isFirst).symm.trans (named second isSecond)
  have injective := List.nodup_iff_injective_getElem.mp pathsDistinct
  have sameIndex := @injective ⟨first.1, by simp⟩ ⟨second.1, by simp⟩
    (by simpa using same)
  exact Fin.ext (Fin.mk.inj sameIndex)

/-- The members are all referred to when there are as many records. -/
theorem all_referred_iff (pathsDistinct : (records.map recordPath).Nodup)
    (hasManifest : manifestPath ∈ infos.map ZipMember.filename) :
    (∀ info ∈ infos, info.filename ≠ manifestPath →
      ∃ record ∈ records, info.filename = recordPath record) ↔
    records.length + 1 = infos.length := by
  have isEvidence (path : String) : path ∈ evidencePaths infos ↔
      path ≠ manifestPath ∧ path ∈ infos.map ZipMember.filename :=
    distinct.mem_erase_iff
  have count : (evidencePaths infos).length + 1 = infos.length := by
    have positive := List.length_pos_of_mem hasManifest
    rw [evidencePaths, List.length_erase_of_mem hasManifest]
    rw [List.length_map] at positive ⊢
    omega
  have referred : records.map recordPath ⊆ evidencePaths infos := by
    intro path member
    obtain ⟨record, inRecords, rfl⟩ := List.mem_map.mp member
    obtain ⟨info, inInfos, named, -⟩ := (placed record inRecords).inArchive
    rw [isEvidence, ← named]
    refine ⟨?_, List.mem_map_of_mem inInfos⟩
    rw [named]
    exact evidenceMemberPath_ne_manifest _ _
  have fewer := List.Nodup.subperm pathsDistinct referred
  constructor
  · intro all
    have covered : evidencePaths infos ⊆ records.map recordPath := by
      intro path member
      obtain ⟨notManifest, inMembers⟩ := (isEvidence path).mp member
      obtain ⟨info, inInfos, rfl⟩ := List.mem_map.mp inMembers
      obtain ⟨record, inRecords, named⟩ := all info inInfos notManifest
      rw [named]
      exact List.mem_map_of_mem inRecords
    have more :=
      List.Nodup.subperm (distinct.erase manifestPath) covered
    have sameLength := le_antisymm fewer.length_le more.length_le
    rw [List.length_map] at sameLength
    omega
  · intro sameCount info inInfos notManifest
    have enough : (evidencePaths infos).length ≤
        (records.map recordPath).length := by
      rw [List.length_map]
      omega
    have inEvidence : info.filename ∈ evidencePaths infos :=
      (isEvidence _).mpr ⟨notManifest, List.mem_map_of_mem inInfos⟩
    have listed := (fewer.perm_of_length_le enough).mem_iff.mpr inEvidence
    obtain ⟨record, inRecords, named⟩ := List.mem_map.mp listed
    exact ⟨record, inRecords, named.symm⟩

theorem evidenceMembers_of_placed
    (idsDistinct : (records.map recordId).Nodup)
    (hasManifest : manifestPath ∈ infos.map ZipMember.filename) :
    EvidenceMembers infos records := by
  have pathsDistinct := recordPaths_nodup idsDistinct
  have member := evidence_member_unique distinct placed
  have unshared := evidence_record_unique placed pathsDistinct
  have allReferred :=
    all_referred_iff distinct placed pathsDistinct hasManifest
  constructor
  case member => exact member
  case evidence => exact evidence_hash distinct placed
  case unshared => exact unshared
  case complete =>
    rw [← allReferred]
    constructor
    · rintro ⟨all, -⟩ info inInfos notManifest
      obtain ⟨index, isMember, -⟩ := all info inInfos notManifest
      have inRecords := List.get_mem records index
      exact ⟨records.get index, inRecords,
        ((placed _ inRecords).isMember info).mp isMember⟩
    · intro all
      refine ⟨fun info inInfos notManifest => ?_, member⟩
      obtain ⟨record, inRecords, named⟩ := all info inInfos notManifest
      obtain ⟨index, rfl⟩ := List.get_of_mem inRecords
      have isMember := ((placed _ inRecords).isMember info).mpr named
      exact ⟨index, isMember, fun other isOther =>
        unshared info other index isOther isMember⟩

end Placed

/-- In a package that the full validator accepts, every evidence record refers
to exactly one member, no two to the same, and no member is left over exactly
when there are as many records as members besides the Manifest. -/
theorem evidence_members_of_accepted {config : ValidatorConfig}
    {archive : ArchiveFile} {descriptorBytes : LoadedJson} {manifest : Json}
    {context : PackageValidationContext}
    {verifications : PackageGateVerifications} {validated : ValidatedPackage}
    (accepted : validate env config archive descriptorBytes manifest context
      verifications = .ok validated) :
    ∃ descriptor infos records, descriptorBytes = .ok descriptor ∧
      archive.members = some infos ∧
      descriptor.member "evidence_records" = some (.arr records) ∧
      EvidenceMembers infos records := by
  obtain ⟨descriptor, manifestHash, limits, loaded, -, -, archived, meant⟩ :=
    validate_passes accepted
  obtain ⟨infos, inventory, declared, agreed⟩ :=
    validatePackageContract_eq_ok (validateArchive_manifest archived).1
  obtain ⟨probes, authorized, inventory', inventoryHashes, records,
    evidenceIds, -, -, inventoryIs, hashes, recordsAre, each⟩ :=
    validateCollectorAndEvidence_records
      (validateDescriptorSemantics_evidence meant)
  cases agreed.inventoryIs.symm.trans inventoryIs
  have opened := agreed.inspected.opened
  obtain ⟨scan, scanned⟩ := opened.scanned
  have ids : records.map recordId = evidenceIds := by
    have same : List.Forall₂ Eq (records.map recordId) evidenceIds := by
      rw [List.forall₂_map_left_iff]
      refine each.each.imp ?_
      rintro record evidenceId ⟨_, _, _, _, _, isAccepted⟩
      rw [recordId, isAccepted.evidenceIdIs]
      rfl
    rwa [List.forall₂_eq_eq_eq] at same
  refine ⟨descriptor, infos, records, loaded, opened.members, recordsAre,
    evidenceMembers_of_placed scanned.distinct ?_ (ids ▸ each.distinct)
      opened.hasManifest⟩
  intro record inRecords
  obtain ⟨evidenceId, -, probeId, status, sha256, controls, probe,
    isAccepted⟩ := related_of_mem each.each inRecords
  exact isAccepted.placed hashes agreed

/-- The record of the package of the job has its member. -/
theorem samplePackage_evidence : ∃ (descriptor : Json)
    (infos : List ZipMember) (records : List Json),
    sampleArchive.members = some infos ∧
    descriptor.member "evidence_records" = some (.arr records) ∧
    EvidenceMembers infos records := by
  obtain ⟨validated, accepted⟩ := samplePackage_accepted
  obtain ⟨descriptor, infos, records, -, members, recordsAre, referred⟩ :=
    evidence_members_of_accepted accepted
  exact ⟨descriptor, infos, records, members, recordsAre, referred⟩

/-! ## A member that no record refers to -/

def largerArchiveHash : String :=
  "a307902a9359f400ec47331049f0e3f26b4d41a07c1d07c9d298a6fe64fc8d9c"

def largerContentHash : String :=
  "1f5f340d2f93acc0452ff56a658a5d24d9f5348535399fc8a732c86a6aec9708"

def orphanMember : ZipMember :=
  storedMember "evidence/33000000-0000-4000-8000-000000000016.json" 1678 35
    sampleEvidenceHash sampleEvidence

def largerArchive : ArchiveFile :=
  { isFile := true
    sizeBytes := 2076
    sha256 := largerArchiveHash
    members := some
      ((sampleArchive.members.getD []) ++ [orphanMember]) }

def largerDescriptor : Json :=
  packageDescriptor
    (archiveFacts largerArchiveHash largerContentHash 2076 3 1580)
    (sampleInventory ++
      [inventoryEntry "evidence/33000000-0000-4000-8000-000000000016.json"
        sampleEvidenceHash 35])
    userAuthentication sampleEvidence

def largerDigests : List (String × String) :=
  ("[", largerContentHash) :: sampleDigests

def largerEnvironment : PackageEnvironment :=
  samplePackageEnvironment (digestOf
    [(largerDescriptor,
      "1de65a32d43ed853f916a77baced195e1c70c7189b3c973b7193ff247541b5cc")]
    largerDigests)

/-- The full validator accepts a package with a member that no evidence record
refers to. -/
theorem orphan_member_accepted : ∃ validated infos records,
    validate largerEnvironment defaultConfig largerArchive
      (.ok largerDescriptor) sampleManifest sampleContext
      (passedGates largerArchiveHash 2076) = .ok validated ∧
    largerArchive.members = some infos ∧
    largerDescriptor.member "evidence_records" = some (.arr records) ∧
    ¬NoOrphanEvidence infos records := by
  have returns : (validate largerEnvironment defaultConfig largerArchive
      (.ok largerDescriptor) sampleManifest sampleContext
      (passedGates largerArchiveHash 2076)).isOk = true := by
    decide +kernel
  obtain ⟨validated, accepted⟩ := eq_ok_of_isOk returns
  refine ⟨validated, _, _, accepted, rfl, rfl, ?_⟩
  rintro ⟨all, -⟩
  have path : orphanMember.filename = evidenceMemberPath "COLLECTED"
      "33000000-0000-4000-8000-000000000016" := by
    decide
  have notManifest : orphanMember.filename ≠ manifestPath := by
    rw [path]
    exact evidenceMemberPath_ne_manifest _ _
  obtain ⟨index, ⟨status, evidenceId, -, sameId, sameName⟩, -⟩ :=
    all orphanMember (List.mem_append_right _ List.mem_cons_self) notManifest
  -- There is one record, and it names the other member.
  have first : index = ⟨0, Nat.one_pos⟩ :=
    Fin.ext (Nat.lt_one_iff.mp index.2)
  subst first
  cases sameId
  have otherId := evidenceMemberPath_inj (path.symm.trans sameName)
  exact absurd otherId (by decide)

end SecAI.Package
