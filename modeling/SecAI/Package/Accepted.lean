/-
Module: SecAI.Package.Accepted
Purpose: What the package validator has established about a package that it
  accepts.
Trusted boundary: none
Main exports:
  validate_passes, validateManifestContext_nonce
-/
import SecAI.Common.Outcome
import SecAI.Package.FullValidator

namespace SecAI.Package

open Outcome

variable {α : Type}

theorem refused_reject (code : PackageValidationCode) (message : String) :
    Refused (reject code message : Except _ α) :=
  .error _

/-! ## Readers -/

variable {document : Json} {key : String} {code : PackageValidationCode}

theorem string_eq_ok {value : String} :
    string document key code = .ok value ↔
      document.stringAt key = some value := by
  unfold string
  cases document.stringAt key with
  | some other => simp
  | none => simp [reject]

variable {value : Option Json}

theorem mapping_eq_ok (read : mapping value code = .ok document) :
    value = some document ∧ document.isObject = true := by
  unfold mapping at read
  split at read
  · cases read
    exact ⟨rfl, rfl⟩
  · cases read

theorem sequence_eq_ok {items : List Json}
    (read : sequence value code = .ok items) : value = some (.arr items) := by
  unfold sequence at read
  split at read
  · cases read
    rfl
  · cases read

theorem requiredMapping_eq_ok (read : requiredMapping value = .ok document) :
    value = some document := by
  unfold requiredMapping at read
  split at read
  · cases read
    rfl
  · cases read

theorem requiredSequence_eq_ok {items : List Json}
    (read : requiredSequence value = .ok items) :
    value = some (.arr items) := by
  unfold requiredSequence at read
  split at read
  · cases read
    rfl
  · cases read

theorem requiredString_eq_ok {value : String}
    (read : requiredString document key = .ok value) :
    document.stringAt key = some value := by
  unfold requiredString at read
  cases found : document.stringAt key with
  | some other =>
      rw [found] at read
      cases read
      rfl
  | none =>
      rw [found] at read
      cases read

theorem requiredHash_eq_ok {value : String}
    (read : requiredHash document key = .ok value) :
    document.stringAt key = some value := by
  unfold requiredHash at read
  obtain ⟨text, found, checked⟩ := bind_eq_ok.mp read
  split at checked
  · cases checked
    exact requiredString_eq_ok found
  · cases checked

theorem requiredInteger_eq_ok {value : Nat}
    (read : requiredInteger document key = .ok value) :
    document.integerAt key = some (value : Int) := by
  unfold requiredInteger at read
  cases found : document.integerAt key with
  | some other =>
      rw [found] at read
      obtain ⟨nonnegative, read⟩ := refused_or (refused_reject _ _) read
      cases read
      rw [Int.toNat_of_nonneg (not_lt.mp nonnegative)]
  | none =>
      rw [found] at read
      cases read

/-! ## The archive -/

variable {env : PackageEnvironment} {limits : PackageLimits}

variable {path : String}

theorem validateMemberPath_isSafe
    (allowed : validateMemberPath env limits path = .ok ()) :
    isSafeMember path.toList = true := by
  unfold validateMemberPath at allowed
  obtain ⟨-, allowed⟩ := refused_or (refused_reject _ _) allowed
  obtain ⟨-, allowed⟩ := refused_or (refused_reject _ _) allowed
  obtain ⟨-, allowed⟩ := refused_or (refused_reject _ _) allowed
  obtain ⟨-, allowed⟩ := refused_or (refused_reject _ _) allowed
  obtain ⟨-, allowed⟩ := refused_or (.error _) allowed
  obtain ⟨safe, -⟩ := refused_or (.error _) allowed
  exact Bool.not_eq_false _ ▸ safe

/-- What the pass over the central directory has established of the entries
it has seen. -/
structure Scanned (env : PackageEnvironment) (limits : PackageLimits)
    (infos : List ZipMember) (scan : DirectoryScan) : Prop where
  seen : scan.seen = infos.map ZipMember.filename
  seenFolded : scan.seenFolded =
    infos.map fun info => env.casefold info.filename
  total : scan.metadataTotal = (infos.map ZipMember.fileSize).sum
  distinct : (infos.map ZipMember.filename).Nodup
  distinctFolded :
    (infos.map fun info => env.casefold info.filename).Nodup
  allowed : ∀ info ∈ infos,
    validateMemberPath env limits info.filename = .ok ()
  small : ∀ info ∈ infos, info.fileSize ≤ limits.maxMemberBytes
  withinTotal :
    (infos.map ZipMember.fileSize).sum ≤ limits.maxUncompressedBytes

theorem Scanned.nil : Scanned env limits [] ⟨[], [], [], 0, 0⟩ where
  seen := rfl
  seenFolded := rfl
  total := rfl
  distinct := List.nodup_nil
  distinctFolded := List.nodup_nil
  allowed _ member := absurd member List.not_mem_nil
  small _ member := absurd member List.not_mem_nil
  withinTotal := Nat.zero_le _

variable {info : ZipMember}

variable {scan next : DirectoryScan}

/-- An entry that passes adds itself to what has been seen. -/
theorem scanEntry_eq_ok (done : scanEntry env limits scan info = .ok next) :
    validateMemberPath env limits info.filename = .ok () ∧
      info.filename ∉ scan.seen ∧
      env.casefold info.filename ∉ scan.seenFolded ∧
      info.fileSize ≤ limits.maxMemberBytes ∧
      scan.metadataTotal + info.fileSize ≤ limits.maxUncompressedBytes ∧
      next.seen = scan.seen ++ [info.filename] ∧
      next.seenFolded = scan.seenFolded ++ [env.casefold info.filename] ∧
      next.metadataTotal = scan.metadataTotal + info.fileSize := by
  unfold scanEntry at done
  obtain ⟨_, -, done⟩ := bind_eq_ok.mp done
  obtain ⟨_, allowed, done⟩ := bind_eq_ok.mp done
  obtain ⟨-, done⟩ := refused_or (.error _) done
  obtain ⟨fresh, done⟩ := refused_or (.error _) done
  obtain ⟨freshFolded, done⟩ := refused_or (.error _) done
  obtain ⟨-, done⟩ := refused_or (.error _) done
  obtain ⟨-, done⟩ := refused_or (.error _) done
  obtain ⟨-, done⟩ := refused_or (.error _) done
  obtain ⟨small, done⟩ := refused_or (.error _) done
  obtain ⟨withinTotal, done⟩ := refused_or (refused_reject _ _) done
  obtain ⟨-, done⟩ := refused_or (.error _) done
  cases done
  exact ⟨allowed, fresh, freshFolded, not_lt.mp small,
    not_lt.mp withinTotal, rfl, rfl, rfl⟩

variable {infos : List ZipMember}

theorem Scanned.step (scanned : Scanned env limits infos scan)
    (done : scanEntry env limits scan info = .ok next) :
    Scanned env limits (infos ++ [info]) next := by
  obtain ⟨allowed, fresh, freshFolded, small, withinTotal, seen, folded,
    total⟩ := scanEntry_eq_ok done
  rw [scanned.seen] at fresh seen
  rw [scanned.seenFolded] at freshFolded folded
  rw [scanned.total] at withinTotal total
  constructor
  case seen => rw [seen, List.map_append]; rfl
  case seenFolded => rw [folded, List.map_append]; rfl
  case total => rw [total, List.map_append, List.sum_append]; simp
  case distinct =>
    rw [List.map_append]
    exact scanned.distinct.append (List.nodup_singleton _)
      (List.disjoint_singleton.mpr fresh)
  case distinctFolded =>
    rw [List.map_append]
    exact scanned.distinctFolded.append (List.nodup_singleton _)
      (List.disjoint_singleton.mpr freshFolded)
  case allowed =>
    intro other member
    rcases List.mem_append.mp member with earlier | last
    · exact scanned.allowed other earlier
    · rw [List.mem_singleton.mp last]
      exact allowed
  case small =>
    intro other member
    rcases List.mem_append.mp member with earlier | last
    · exact scanned.small other earlier
    · rw [List.mem_singleton.mp last]
      exact small
  case withinTotal =>
    rw [List.map_append, List.sum_append]
    simpa using withinTotal

/-- What has been established of the members before one is read. -/
structure Opened (env : PackageEnvironment) (limits : PackageLimits)
    (archive : ArchiveFile) (infos : List ZipMember) : Prop where
  members : archive.members = some infos
  notTooLarge : archive.sizeBytes ≤ limits.maxArchiveBytes
  notTooFew : minFiles ≤ infos.length
  notTooMany : infos.length ≤ limits.maxFiles
  scanned : ∃ scan, Scanned env limits infos scan
  hasManifest : manifestPath ∈ infos.map ZipMember.filename

variable {archive : ArchiveFile}

theorem openArchive_eq_ok
    (opened : openArchive env archive limits = .ok infos) :
    Opened env limits archive infos := by
  unfold openArchive at opened
  obtain ⟨-, opened⟩ := refused_or (refused_reject _ _) opened
  obtain ⟨-, opened⟩ := refused_or (refused_reject _ _) opened
  obtain ⟨notTooLarge, opened⟩ := refused_or (refused_reject _ _) opened
  split at opened
  · cases opened
  rename_i infos members
  obtain ⟨inRange, opened⟩ := refused_or (refused_reject _ _) opened
  obtain ⟨scan, passed, opened⟩ := bind_eq_ok.mp opened
  obtain ⟨hasManifest, opened⟩ := refused_or (refused_reject _ _) opened
  obtain ⟨-, opened⟩ := refused_or (refused_reject _ _) opened
  cases opened
  have scanned := foldlM_invariant (Scanned env limits)
    (fun _ _ _ _ => Scanned.step) .nil passed
  rw [List.nil_append] at scanned
  rw [scanned.seen, not_not] at hasManifest
  rw [not_or, not_lt, not_lt] at inRange
  exact
    { members := members
      notTooLarge := not_lt.mp notTooLarge
      notTooFew := inRange.1
      notTooMany := inRange.2
      scanned := ⟨scan, scanned⟩
      hasManifest := hasManifest }

/-- What is measured of a member that is read without an objection. -/
def memberRecord (info : ZipMember) : PackageFileRecord :=
  ⟨info.filename, info.fileSize, info.sha256⟩

theorem readChunks_eq_ok {filename : String} {totalBefore : Nat} :
    ∀ {chunks : List Nat} {measured result : Nat},
      readChunks limits filename totalBefore measured chunks = .ok result →
      result = measured + chunks.sum
  | [], _, _, done => by
      cases done
      rfl
  | chunk :: chunks, measured, result, done => by
      rw [readChunks] at done
      obtain ⟨-, done⟩ := refused_or (.error _) done
      obtain ⟨-, done⟩ := refused_or (.error _) done
      rw [readChunks_eq_ok done, List.sum_cons, Nat.add_assoc]

variable {record : PackageFileRecord}

theorem measureMember_eq_ok {totalBefore : Nat}
    (measured : measureMember limits totalBefore info = .ok record) :
    record = memberRecord info ∧ info.chunkSizes.sum = info.fileSize := by
  unfold measureMember at measured
  obtain ⟨size, read, rest⟩ := bind_eq_ok.mp measured
  obtain ⟨document, -, whole⟩ := bind_eq_ok.mp rest
  cases whole
  unfold readMember at read
  obtain ⟨total, chunks, checked⟩ := bind_eq_ok.mp read
  obtain ⟨-, checked⟩ := refused_or (.error _) checked
  obtain ⟨same, checked⟩ := refused_or (.error _) checked
  cases checked
  have sum := readChunks_eq_ok chunks
  rw [Nat.zero_add, not_not.mp same] at sum
  rw [not_not.mp same]
  exact ⟨rfl, sum.symm⟩

theorem measureMembers_eq_ok :
    ∀ {infos : List ZipMember} {totalBefore : Nat}
      {records : List PackageFileRecord},
      measureMembers limits totalBefore infos = .ok records →
      records = infos.map memberRecord ∧
        ∀ info ∈ infos, info.chunkSizes.sum = info.fileSize
  | [], _, _, measured => by
      cases measured
      exact ⟨rfl, fun _ member => absurd member List.not_mem_nil⟩
  | info :: infos, totalBefore, records, measured => by
      rw [measureMembers] at measured
      obtain ⟨record, first, rest⟩ := bind_eq_ok.mp measured
      obtain ⟨others, later, whole⟩ := bind_eq_ok.mp rest
      cases whole
      obtain ⟨sameRecord, sameSize⟩ := measureMember_eq_ok first
      obtain ⟨sameOthers, sameSizes⟩ := measureMembers_eq_ok later
      rw [sameRecord, sameOthers]
      refine ⟨rfl, ?_⟩
      intro other member
      rcases List.mem_cons.mp member with rfl | later
      · exact sameSize
      · exact sameSizes other later

/-- What has been measured of an archive that is inspected without an
objection. -/
structure Inspected (env : PackageEnvironment) (limits : PackageLimits)
    (archive : ArchiveFile) (infos : List ZipMember)
    (inspection : PackageInspection) : Prop where
  opened : Opened env limits archive infos
  sizes : ∀ info ∈ infos, info.chunkSizes.sum = info.fileSize
  files : inspection.files =
    sortedBy PackageFileRecord.path (infos.map memberRecord)
  archiveSha256 : inspection.archiveSha256 = archive.sha256
  contentSet : env.digest (contentVector inspection.files) =
    .ok inspection.contentSetSha256
  compressedBytes : inspection.compressedBytes = archive.sizeBytes
  uncompressedBytes : inspection.uncompressedBytes =
    (inspection.files.map PackageFileRecord.sizeBytes).sum
  fileCount : inspection.fileCount = inspection.files.length

variable {inspection : PackageInspection}

theorem inspectPackageArchive_eq_ok
    (inspected : inspectPackageArchive env archive limits =
      .ok inspection) :
    ∃ infos, Inspected env limits archive infos inspection := by
  unfold inspectPackageArchive at inspected
  obtain ⟨infos, opened, inspected⟩ := bind_eq_ok.mp inspected
  obtain ⟨records, measured, inspected⟩ := bind_eq_ok.mp inspected
  obtain ⟨contentSet, digest, inspected⟩ := bind_eq_ok.mp inspected
  cases inspected
  obtain ⟨sameRecords, sizes⟩ := measureMembers_eq_ok measured
  subst sameRecords
  exact
    ⟨infos,
      { opened := openArchive_eq_ok opened
        sizes := sizes
        files := rfl
        archiveSha256 := rfl
        contentSet := digest
        compressedBytes := rfl
        uncompressedBytes := rfl
        fileCount := rfl }⟩

/-! ## The inventory -/

/-- What one entry of the inventory declares. -/
def Declares (entry : Json) (record : PackageFileRecord) : Prop :=
  entry.stringAt "path" = some record.path ∧
    entry.integerAt "size_bytes" = some (record.sizeBytes : Int) ∧
    entry.stringAt "sha256" = some record.sha256

/-- What the pass over the inventory has established of the entries it has
seen. -/
structure Inventoried (env : PackageEnvironment) (limits : PackageLimits)
    (entries : List Json) (declared : List PackageFileRecord) : Prop where
  declares : List.Forall₂ Declares entries declared
  distinct : (declared.map PackageFileRecord.path).Nodup
  distinctFolded :
    (declared.map fun record => env.casefold record.path).Nodup

theorem Inventoried.step {entries : List Json} {entry : Json}
    {declared next : List PackageFileRecord}
    (inventoried : Inventoried env limits entries declared)
    (done : expectEntry env limits declared entry = .ok next) :
    Inventoried env limits (entries ++ [entry]) next := by
  unfold expectEntry at done
  obtain ⟨document, mapped, done⟩ := bind_eq_ok.mp done
  obtain ⟨path, pathRead, done⟩ := bind_eq_ok.mp done
  obtain ⟨_, -, done⟩ := bind_eq_ok.mp done
  obtain ⟨fresh, done⟩ := refused_or (refused_reject _ _) done
  obtain ⟨freshFolded, done⟩ := refused_or (refused_reject _ _) done
  obtain ⟨sizeBytes, sizeRead, done⟩ := bind_eq_ok.mp done
  obtain ⟨sha256, hashRead, done⟩ := bind_eq_ok.mp done
  cases done
  cases requiredMapping_eq_ok mapped
  constructor
  case declares =>
    refine List.rel_append inventoried.declares (.cons ?_ .nil)
    exact ⟨requiredString_eq_ok pathRead, requiredInteger_eq_ok sizeRead,
      requiredHash_eq_ok hashRead⟩
  case distinct =>
    rw [List.map_append]
    exact inventoried.distinct.append (List.nodup_singleton _)
      (List.disjoint_singleton.mpr fresh)
  case distinctFolded =>
    rw [List.map_append]
    exact inventoried.distinctFolded.append (List.nodup_singleton _)
      (List.disjoint_singleton.mpr freshFolded)

theorem mem_of_firstMissing {first second : List String}
    (complete : firstMissing first second = none) (member : path ∈ first) :
    path ∈ second := by
  by_contra missing
  have listed : path ∈ sortedBy id
      (first.filter fun path => decide (path ∉ second)) := by
    unfold sortedBy
    rw [List.mem_insertionSort, List.mem_filter]
    exact ⟨member, decide_eq_true missing⟩
  unfold firstMissing at complete
  rw [List.head?_eq_none_iff.mp complete] at listed
  exact absurd listed List.not_mem_nil

theorem mem_sortedBy {key : α → String} {item : α} {items : List α} :
    item ∈ sortedBy key items ↔ item ∈ items :=
  List.mem_insertionSort _

theorem compareFact_eq_ok [DecidableEq α] {actual expected : α}
    (agrees : compareFact actual expected code = .ok ()) :
    actual = expected := by
  unfold compareFact at agrees
  exact not_not.mp (refused_or (refused_reject _ _) agrees).1

/-- A declared file that passed its comparison is a measured one. -/
theorem compareEntry_eq_ok {files : List PackageFileRecord}
    (present : record.path ∈ files.map PackageFileRecord.path)
    (agrees : compareEntry files record = .ok ()) : record ∈ files := by
  obtain ⟨file, fileMember, samePath⟩ := List.mem_map.mp present
  have found : (files.find? fun file =>
      decide (file.path = record.path)).isSome := by
    rw [List.find?_isSome]
    exact ⟨file, fileMember, decide_eq_true samePath⟩
  obtain ⟨actual, foundActual⟩ := Option.isSome_iff_exists.mp found
  unfold compareEntry at agrees
  rw [foundActual] at agrees
  obtain ⟨sameSize, agrees⟩ := refused_or (.error _) agrees
  obtain ⟨sameHash, -⟩ := refused_or (.error _) agrees
  have samePath : actual.path = record.path := by
    simpa using List.find?_some foundActual
  have same : actual = record := by
    rw [PackageFileRecord.mk.injEq]
    exact ⟨samePath, not_not.mp sameSize, not_not.mp sameHash⟩
  rw [← same]
  exact List.mem_of_find?_eq_some foundActual

/-- The facts that a descriptor declares of its archive. -/
structure DeclaresFacts (fields : Json) (inspection : PackageInspection) :
    Prop where
  archiveSha256 : fields.stringAt "archive_sha256" =
    some inspection.archiveSha256
  contentSetSha256 : fields.stringAt "content_set_sha256" =
    some inspection.contentSetSha256
  compressedBytes : fields.integerAt "compressed_bytes" =
    some (inspection.compressedBytes : Int)
  uncompressedBytes : fields.integerAt "uncompressed_bytes" =
    some (inspection.uncompressedBytes : Int)
  fileCount : fields.integerAt "file_count" =
    some (inspection.fileCount : Int)

/-- What has been established of an archive and a descriptor that agree. -/
structure Agreed (env : PackageEnvironment) (limits : PackageLimits)
    (archive : ArchiveFile) (descriptor : Json)
    (inspection : PackageInspection) (infos : List ZipMember)
    (inventory : List Json) (declared : List PackageFileRecord) : Prop where
  inspected : Inspected env limits archive infos inspection
  inventoryIs : descriptor.member "file_inventory" = some (.arr inventory)
  inventoried : Inventoried env limits inventory declared
  inArchive : ∀ record ∈ declared, ∃ info ∈ infos,
    memberRecord info = record
  inInventory : ∀ info ∈ infos,
    info.filename ∈ declared.map PackageFileRecord.path
  facts : ∃ fields, descriptor.member "archive" = some fields ∧
    DeclaresFacts fields inspection

variable {descriptor : Json}

theorem validatePackageContract_eq_ok
    (accepted : validatePackageContract env archive descriptor limits =
      .ok inspection) :
    ∃ infos inventory declared, Agreed env limits archive descriptor
      inspection infos inventory declared := by
  unfold validatePackageContract at accepted
  obtain ⟨measured, inspected, accepted⟩ := bind_eq_ok.mp accepted
  obtain ⟨fields, fieldsRead, accepted⟩ := bind_eq_ok.mp accepted
  obtain ⟨inventory, inventoryRead, accepted⟩ := bind_eq_ok.mp accepted
  obtain ⟨declared, collected, accepted⟩ := bind_eq_ok.mp accepted
  simp only at accepted
  split at accepted
  · cases accepted
  rename_i complete
  split at accepted
  · cases accepted
  rename_i exact
  obtain ⟨_, compared, accepted⟩ := bind_eq_ok.mp accepted
  obtain ⟨_, archiveHash, accepted⟩ := bind_eq_ok.mp accepted
  obtain ⟨_, contentHash, accepted⟩ := bind_eq_ok.mp accepted
  obtain ⟨_, compressed, accepted⟩ := bind_eq_ok.mp accepted
  obtain ⟨_, uncompressed, accepted⟩ := bind_eq_ok.mp accepted
  obtain ⟨_, count, accepted⟩ := bind_eq_ok.mp accepted
  obtain ⟨_, sameArchive, accepted⟩ := bind_eq_ok.mp accepted
  obtain ⟨_, sameContent, accepted⟩ := bind_eq_ok.mp accepted
  obtain ⟨_, sameCompressed, accepted⟩ := bind_eq_ok.mp accepted
  obtain ⟨_, sameUncompressed, accepted⟩ := bind_eq_ok.mp accepted
  obtain ⟨_, sameCount, accepted⟩ := bind_eq_ok.mp accepted
  cases accepted
  cases compareFact_eq_ok sameArchive
  cases compareFact_eq_ok sameContent
  cases compareFact_eq_ok sameCompressed
  cases compareFact_eq_ok sameUncompressed
  cases compareFact_eq_ok sameCount
  obtain ⟨infos, inspected⟩ := inspectPackageArchive_eq_ok inspected
  have inventoried := foldlM_invariant (Inventoried env limits)
    (fun _ _ _ _ => Inventoried.step)
    ⟨.nil, List.nodup_nil, List.nodup_nil⟩ collected
  refine ⟨infos, inventory, declared,
    { inspected := inspected
      inventoryIs := requiredSequence_eq_ok inventoryRead
      inventoried := inventoried
      inArchive := ?_
      inInventory := ?_
      facts := ⟨fields, requiredMapping_eq_ok fieldsRead,
        { archiveSha256 := requiredHash_eq_ok archiveHash
          contentSetSha256 := requiredHash_eq_ok contentHash
          compressedBytes := requiredInteger_eq_ok compressed
          uncompressedBytes := requiredInteger_eq_ok uncompressed
          fileCount := requiredInteger_eq_ok count }⟩ }⟩
  · intro record isDeclared
    have present := mem_of_firstMissing complete
      (List.mem_map_of_mem isDeclared)
    have measured := compareEntry_eq_ok present
      (forM_eq_ok compared record isDeclared)
    rw [inspected.files, mem_sortedBy] at measured
    exact List.mem_map.mp measured
  · intro info member
    apply mem_of_firstMissing exact
    refine List.mem_map.mpr ⟨memberRecord info, ?_, rfl⟩
    rw [inspected.files, mem_sortedBy]
    exact List.mem_map_of_mem member

/-! ## The gates -/

variable {manifest : Json} {context : PackageValidationContext}

theorem validateManifestContext_nonce {nonce : NonceVerification}
    (passed : validateManifestContext env manifest context nonce = .ok ()) :
    manifest.stringAt "nonce" = some nonce.nonce := by
  unfold validateManifestContext at passed
  obtain ⟨issuedAt, -, passed⟩ := bind_eq_ok.mp passed
  obtain ⟨expiresAt, -, passed⟩ := bind_eq_ok.mp passed
  obtain ⟨-, passed⟩ := refused_or (refused_reject _ _) passed
  obtain ⟨-, passed⟩ := refused_or (refused_reject _ _) passed
  obtain ⟨-, passed⟩ := refused_or (refused_reject _ _) passed
  obtain ⟨submission, -, passed⟩ := bind_eq_ok.mp passed
  obtain ⟨jobId, -, passed⟩ := bind_eq_ok.mp passed
  obtain ⟨assetId, -, passed⟩ := bind_eq_ok.mp passed
  obtain ⟨endpointId, -, passed⟩ := bind_eq_ok.mp passed
  obtain ⟨-, passed⟩ := refused_or (refused_reject _ _) passed
  obtain ⟨manifestNonce, found, passed⟩ := bind_eq_ok.mp passed
  obtain ⟨same, -⟩ := refused_or (refused_reject _ _) passed
  rw [not_not.mp same]
  exact string_eq_ok.mp found

variable {config : ValidatorConfig}

variable {verifications : PackageGateVerifications}

/-- The Manifest in the archive has the digest of the trusted one. -/
theorem validateArchive_manifest {manifestHash : String}
    {limits : PackageLimits}
    (accepted : validateArchive env config archive descriptor manifest
      manifestHash context verifications limits = .ok inspection) :
    validatePackageContract env archive descriptor limits = .ok inspection ∧
      ∃ embedded digest, loadEmbeddedManifest archive inspection limits =
          .ok embedded ∧
        env.digest embedded = .ok digest ∧
        env.digest manifest = .ok digest := by
  unfold validateArchive at accepted
  obtain ⟨descriptorArchive, -, accepted⟩ := bind_eq_ok.mp accepted
  obtain ⟨declaredHash, -, accepted⟩ := bind_eq_ok.mp accepted
  obtain ⟨declaredSize, -, accepted⟩ := bind_eq_ok.mp accepted
  obtain ⟨⟨measuredSize, measuredHash⟩, -, accepted⟩ :=
    bind_eq_ok.mp accepted
  obtain ⟨-, accepted⟩ := refused_or (refused_reject _ _) accepted
  obtain ⟨-, accepted⟩ := refused_or (refused_reject _ _) accepted
  obtain ⟨_, -, accepted⟩ := bind_eq_ok.mp accepted
  obtain ⟨measured, contract, accepted⟩ := bind_eq_ok.mp accepted
  obtain ⟨embedded, loaded, accepted⟩ := bind_eq_ok.mp accepted
  obtain ⟨_, -, accepted⟩ := bind_eq_ok.mp accepted
  obtain ⟨embeddedHash, -, accepted⟩ := bind_eq_ok.mp accepted
  obtain ⟨-, accepted⟩ := refused_or (refused_reject _ _) accepted
  obtain ⟨embeddedDigest, embeddedIs, accepted⟩ := bind_eq_ok.mp accepted
  obtain ⟨trustedDigest, trustedIs, accepted⟩ := bind_eq_ok.mp accepted
  obtain ⟨same, accepted⟩ := refused_or (refused_reject _ _) accepted
  cases accepted
  rw [← not_not.mp same] at trustedIs
  exact ⟨contract, embedded, embeddedDigest, loaded, embeddedIs, trustedIs⟩

/-! ## The evidence records -/

/-- What an entry of the Manifest authorizes. -/
def Authorizes (item : Json) (probe : AuthorizedProbe) : Prop :=
  item.stringAt "probe_id" = some probe.probeId ∧
    item.stringAt "probe_version" = some probe.probeVersion ∧
    item.member "control_ids" = some (.arr probe.controlIds)

variable {authorized : List AuthorizedProbe}

theorem authorizeProbe_adds {next : List AuthorizedProbe} {item : Json}
    (done : authorizeProbe authorized item = .ok next) :
    ∃ probe, next = authorized ++ [probe] ∧ Authorizes item probe := by
  unfold authorizeProbe at done
  obtain ⟨document, mapped, done⟩ := bind_eq_ok.mp done
  obtain ⟨probeId, idRead, done⟩ := bind_eq_ok.mp done
  obtain ⟨-, done⟩ := refused_or (refused_reject _ _) done
  obtain ⟨probeVersion, versionRead, done⟩ := bind_eq_ok.mp done
  obtain ⟨controlIds, controlsRead, done⟩ := bind_eq_ok.mp done
  cases done
  cases (mapping_eq_ok mapped).1
  exact ⟨⟨probeId, probeVersion, controlIds⟩, rfl, string_eq_ok.mp idRead,
    string_eq_ok.mp versionRead, sequence_eq_ok controlsRead⟩

theorem inventoryHash_eq_ok {item : Json} {sha256 : String}
    (read : inventoryHash item = .ok (path, sha256)) :
    item.stringAt "path" = some path ∧
      item.stringAt "sha256" = some sha256 := by
  unfold inventoryHash at read
  obtain ⟨document, mapped, read⟩ := bind_eq_ok.mp read
  obtain ⟨foundPath, pathRead, read⟩ := bind_eq_ok.mp read
  obtain ⟨foundHash, hashRead, read⟩ := bind_eq_ok.mp read
  cases read
  cases (mapping_eq_ok mapped).1
  exact ⟨string_eq_ok.mp pathRead, string_eq_ok.mp hashRead⟩

variable {inventoryHashes : List (String × String)}

theorem hashOf_mem {sha256 : String} (found : hashOf inventoryHashes path =
      some sha256) : (path, sha256) ∈ inventoryHashes := by
  obtain ⟨entry, listed, same⟩ := Option.map_eq_some_iff.mp found
  have samePath : entry.1 = path := by
    simpa using List.find?_some listed
  have member := List.mem_of_find?_eq_some listed
  rw [List.mem_reverse] at member
  rw [← samePath, ← same]
  exact member

/-- What has been checked of an accepted evidence record. -/
structure AcceptedEvidence (config : ValidatorConfig)
    (authorized : List AuthorizedProbe)
    (inventoryHashes : List (String × String)) (record : Json)
    (evidenceId probeId status sha256 : String) (controls : List Json)
    (probe : AuthorizedProbe) : Prop where
  isObject : record.isObject = true
  evidenceIdIs : record.stringAt "evidence_id" = some evidenceId
  probeIdIs : record.stringAt "probe_id" = some probeId
  statusIs : record.stringAt "collection_status" = some status
  sha256Is : record.stringAt "evidence_sha256" = some sha256
  controlsAre : evidenceControls config record = .ok controls
  isAuthorized : authorized.find? (fun probe =>
    decide (probe.probeId = probeId)) = some probe
  versionIs : record.stringAt "probe_version" = some probe.probeVersion
  sameControls : sameSet controls probe.controlIds = true
  inInventory : hashOf inventoryHashes
    (evidenceMemberPath status evidenceId) = some sha256

/-- An evidence record that has been accepted under this identifier. -/
def IsAccepted (config : ValidatorConfig) (authorized : List AuthorizedProbe)
    (inventoryHashes : List (String × String)) (record : Json)
    (evidenceId : String) : Prop :=
  ∃ probeId status sha256 controls probe,
    AcceptedEvidence config authorized inventoryHashes record evidenceId
      probeId status sha256 controls probe

variable {before after : List String}

theorem validateEvidence_eq_ok {record : Json}
    (accepted : validateEvidence config authorized inventoryHashes before
      record = .ok after) :
    ∃ evidenceId, IsAccepted config authorized inventoryHashes record
        evidenceId ∧
      evidenceId ∉ before ∧ after = before ++ [evidenceId] := by
  unfold validateEvidence at accepted
  obtain ⟨document, mapped, accepted⟩ := bind_eq_ok.mp accepted
  obtain ⟨evidenceId, idRead, accepted⟩ := bind_eq_ok.mp accepted
  obtain ⟨fresh, accepted⟩ := refused_or (refused_reject _ _) accepted
  obtain ⟨probeId, probeRead, accepted⟩ := bind_eq_ok.mp accepted
  obtain ⟨controls, controlsRead, accepted⟩ := bind_eq_ok.mp accepted
  split at accepted
  · cases accepted
  rename_i probe isAuthorized
  obtain ⟨version, versionRead, accepted⟩ := bind_eq_ok.mp accepted
  obtain ⟨fits, accepted⟩ := refused_or (refused_reject _ _) accepted
  obtain ⟨status, statusRead, accepted⟩ := bind_eq_ok.mp accepted
  -- Whichever way the path is read, it is the expected one.
  have listed : ∃ sha256, string document "evidence_sha256"
        .descriptorSemanticInvalid = .ok sha256 ∧
      hashOf inventoryHashes (evidenceMemberPath status evidenceId) =
        some sha256 ∧
      after = before ++ [evidenceId] := by
    simp only at accepted
    split at accepted
    all_goals
      obtain ⟨path, -, accepted⟩ := bind_eq_ok.mp accepted
      obtain ⟨samePath, accepted⟩ :=
        refused_or (refused_reject _ _) accepted
      obtain ⟨sha256, hashRead, accepted⟩ := bind_eq_ok.mp accepted
      obtain ⟨inInventory, accepted⟩ :=
        refused_or (refused_reject _ _) accepted
      cases accepted
      rw [not_not.mp samePath] at inInventory
      exact ⟨sha256, hashRead, not_not.mp inInventory, rfl⟩
  obtain ⟨sha256, hashRead, inInventory, added⟩ := listed
  obtain ⟨same, isObject⟩ := mapping_eq_ok mapped
  cases same
  obtain ⟨sameVersion, sameControls⟩ := not_or.mp fits
  exact
    ⟨evidenceId,
      ⟨probeId, status, sha256, controls, probe,
        { isObject := isObject
          evidenceIdIs := string_eq_ok.mp idRead
          probeIdIs := string_eq_ok.mp probeRead
          statusIs := string_eq_ok.mp statusRead
          sha256Is := string_eq_ok.mp hashRead
          controlsAre := controlsRead
          isAuthorized := isAuthorized
          versionIs := by
            rw [← not_not.mp sameVersion]
            exact string_eq_ok.mp versionRead
          sameControls := by simpa using sameControls
          inInventory := inInventory }⟩,
      fresh, added⟩

/-- What the pass over the evidence records has established of those it has
seen. -/
structure AcceptedRecords (config : ValidatorConfig)
    (authorized : List AuthorizedProbe)
    (inventoryHashes : List (String × String)) (records : List Json)
    (evidenceIds : List String) : Prop where
  each : List.Forall₂ (IsAccepted config authorized inventoryHashes) records
    evidenceIds
  distinct : evidenceIds.Nodup

theorem AcceptedRecords.step {records : List Json} {record : Json}
    (passed : AcceptedRecords config authorized inventoryHashes records
      before)
    (accepted : validateEvidence config authorized inventoryHashes before
      record = .ok after) :
    AcceptedRecords config authorized inventoryHashes (records ++ [record])
      after := by
  obtain ⟨evidenceId, isAccepted, fresh, rfl⟩ :=
    validateEvidence_eq_ok accepted
  constructor
  case each => exact List.rel_append passed.each (.cons isAccepted .nil)
  case distinct =>
    exact passed.distinct.append (List.nodup_singleton _)
      (List.disjoint_singleton.mpr fresh)

/-- The evidence records of an accepted descriptor, against the Manifest and
the inventory. -/
theorem validateCollectorAndEvidence_records
    (accepted : validateCollectorAndEvidence config descriptor manifest =
      .ok ()) :
    ∃ probes authorized inventory inventoryHashes records evidenceIds,
      manifest.member "probes" = some (.arr probes) ∧
      List.Forall₂ Authorizes probes authorized ∧
      descriptor.member "file_inventory" = some (.arr inventory) ∧
      (∀ entry ∈ inventoryHashes, ∃ item ∈ inventory,
        item.stringAt "path" = some entry.1 ∧
          item.stringAt "sha256" = some entry.2) ∧
      descriptor.member "evidence_records" = some (.arr records) ∧
      AcceptedRecords config authorized inventoryHashes records
        evidenceIds := by
  unfold validateCollectorAndEvidence at accepted
  obtain ⟨_, -, accepted⟩ := bind_eq_ok.mp accepted
  obtain ⟨probes, probesRead, accepted⟩ := bind_eq_ok.mp accepted
  obtain ⟨authorized, collected, accepted⟩ := bind_eq_ok.mp accepted
  obtain ⟨inventory, inventoryRead, accepted⟩ := bind_eq_ok.mp accepted
  obtain ⟨inventoryHashes, hashes, accepted⟩ := bind_eq_ok.mp accepted
  obtain ⟨records, recordsRead, accepted⟩ := bind_eq_ok.mp accepted
  obtain ⟨evidenceIds, checked, -⟩ := bind_eq_ok.mp accepted
  obtain ⟨added, sameList, authorizes⟩ :=
    foldlM_collects Authorizes (fun _ _ _ => authorizeProbe_adds) collected
  rw [List.nil_append] at sameList
  subst sameList
  refine ⟨probes, authorized, inventory, inventoryHashes, records,
    evidenceIds, sequence_eq_ok probesRead, authorizes,
    sequence_eq_ok inventoryRead, ?_, sequence_eq_ok recordsRead, ?_⟩
  · intro entry member
    obtain ⟨item, inInventory, found⟩ := mapM_mem hashes entry member
    exact ⟨item, inInventory, inventoryHash_eq_ok found⟩
  · exact foldlM_invariant (AcceptedRecords config authorized
      inventoryHashes) (fun _ _ _ _ => AcceptedRecords.step)
      ⟨.nil, List.nodup_nil⟩ checked

/-- Where the semantics of a descriptor are checked, its evidence is. -/
theorem validateDescriptorSemantics_evidence
    {packageAuth : PackageAuthenticationVerification}
    (accepted : validateDescriptorSemantics env config descriptor manifest
      context packageAuth = .ok ()) :
    validateCollectorAndEvidence config descriptor manifest = .ok () := by
  unfold validateDescriptorSemantics at accepted
  obtain ⟨issuedAt, -, accepted⟩ := bind_eq_ok.mp accepted
  obtain ⟨expiresAt, -, accepted⟩ := bind_eq_ok.mp accepted
  obtain ⟨manifestIssued, -, accepted⟩ := bind_eq_ok.mp accepted
  obtain ⟨manifestExpires, -, accepted⟩ := bind_eq_ok.mp accepted
  obtain ⟨-, accepted⟩ := refused_or (refused_reject _ _) accepted
  obtain ⟨manifestId, -, accepted⟩ := bind_eq_ok.mp accepted
  obtain ⟨manifestNonce, -, accepted⟩ := bind_eq_ok.mp accepted
  obtain ⟨manifestHash, -, accepted⟩ := bind_eq_ok.mp accepted
  obtain ⟨_, -, accepted⟩ := bind_eq_ok.mp accepted
  obtain ⟨authentication, -, accepted⟩ := bind_eq_ok.mp accepted
  obtain ⟨profile, -, accepted⟩ := bind_eq_ok.mp accepted
  obtain ⟨submission, -, accepted⟩ := bind_eq_ok.mp accepted
  obtain ⟨allowedProfiles, -, accepted⟩ := bind_eq_ok.mp accepted
  obtain ⟨-, accepted⟩ := refused_or (refused_reject _ _) accepted
  split at accepted
  · cases accepted
  obtain ⟨-, accepted⟩ := refused_or (refused_reject _ _) accepted
  split at accepted
  · cases accepted
  · cases accepted
  · exact accepted

/-- An accepted package has passed every gate. -/
theorem validate_passes {descriptorBytes : LoadedJson}
    {validated : ValidatedPackage}
    (accepted : validate env config archive descriptorBytes manifest context
      verifications = .ok validated) :
    ∃ descriptor manifestHash limits,
      descriptorBytes = .ok descriptor ∧
      validateManifestHash env config manifest
        verifications.manifestSignature = .ok manifestHash ∧
      validateManifestContext env manifest context verifications.nonce =
        .ok () ∧
      validateArchive env config archive descriptor manifest manifestHash
        context verifications limits = .ok validated.inspection ∧
      validateDescriptorSemantics env config descriptor manifest context
        verifications.packageAuthentication = .ok () := by
  unfold validate at accepted
  obtain ⟨descriptor, loaded, accepted⟩ := bind_eq_ok.mp accepted
  obtain ⟨_, -, accepted⟩ := bind_eq_ok.mp accepted
  obtain ⟨manifestHash, hashed, accepted⟩ := bind_eq_ok.mp accepted
  obtain ⟨_, inScope, accepted⟩ := bind_eq_ok.mp accepted
  obtain ⟨limits, -, accepted⟩ := bind_eq_ok.mp accepted
  obtain ⟨inspection, inspected, accepted⟩ := bind_eq_ok.mp accepted
  obtain ⟨_, meant, accepted⟩ := bind_eq_ok.mp accepted
  obtain ⟨packageId, -, accepted⟩ := bind_eq_ok.mp accepted
  obtain ⟨manifestId, -, accepted⟩ := bind_eq_ok.mp accepted
  obtain ⟨descriptorSha256, -, accepted⟩ := bind_eq_ok.mp accepted
  obtain ⟨authentication, -, accepted⟩ := bind_eq_ok.mp accepted
  obtain ⟨profile, -, accepted⟩ := bind_eq_ok.mp accepted
  cases accepted
  exact ⟨descriptor, manifestHash, limits, loaded, hashed, inScope, inspected,
    meant⟩

end SecAI.Package
