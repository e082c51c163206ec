/-
Module: SecAI.Package.FullValidator
Purpose: The inspection of a ZIP archive, and the full package validator: every
  gate a package passes before its evidence may be used.
Trusted boundary: an archive is given by what the ZIP reader reports of it
Main exports:
  ZipMember, inspectPackageArchive, ValidatorConfig, compareSemver, validate
-/
import Mathlib.Data.List.Sort
import Mathlib.Algebra.Order.BigOperators.Group.List
import Mathlib.Algebra.Order.Group.Nat
import Mathlib.Algebra.Order.Ring.Nat
import SecAI.Package.Contracts

namespace SecAI.Package

/-- One entry of the central directory and what reading it yields.  The reader
hands out no more bytes than the entry says. -/
structure ZipMember where
  filename : String
  externalAttr : Nat
  headerOffset : Nat
  flagBits : Nat
  compressType : Nat
  fileSize : Nat
  compressSize : Nat
  /-- The sizes of the chunks its stream yields, and whether the stream then
  fails. -/
  chunkSizes : List Nat
  readFails : Bool
  sha256 : String
  document : LoadedJson
  withinSize : chunkSizes.sum ≤ fileSize

/-- A file that is presented as a package archive.  `members` is absent when
the file is no readable ZIP archive. -/
structure ArchiveFile where
  isFile : Bool
  sizeBytes : Nat
  sha256 : String
  members : Option (List ZipMember)

def nestedArchiveSuffixes : List String :=
  [".zip", ".7z", ".rar", ".tar", ".tgz", ".gz", ".bz2", ".xz"]

/-- A character of `[0-9a-fA-F-]`. -/
def isIdentifierCharacter (character : Char) : Bool :=
  character.isDigit || ('a' ≤ character && character ≤ 'f') ||
    ('A' ≤ character && character ≤ 'F') || character == '-'

/-- `_SAFE_MEMBER_PATTERN`. -/
def isSafeMember (path : List Char) : Bool :=
  let isRecord (directory : List Char) : Bool :=
    decide (path.take directory.length = directory) &&
      decide (path.length = directory.length + 36 + 5) &&
      ((path.drop directory.length).take 36).all isIdentifierCharacter &&
      decide (path.drop (directory.length + 36) = ".json".toList)
  decide (path = "collector_manifest.json".toList) ||
    isRecord "evidence/".toList || isRecord "errors/".toList

/-- `str.split(separator)`. -/
def splitOn (separator : Char) : List Char → List (List Char)
  | [] => [[]]
  | character :: rest =>
      if character = separator then [] :: splitOn separator rest
      else
        match splitOn separator rest with
        | [] => [[character]]
        | first :: others => (character :: first) :: others

/-- `_DRIVE_PATTERN`. -/
def startsWithDrive : List Char → Bool
  | letter :: ':' :: _ => letter.isAlpha
  | _ => false

def validateMemberPath (env : PackageEnvironment) (limits : PackageLimits)
    (path : String) : Except PackageError Unit :=
  let characters := path.toList
  if characters.length > limits.maxPathLength ∨ '\x00' ∈ characters then
    reject .pathInvalid "Archive member path is invalid."
  else if characters.head? = some '/' ∨ characters.head? = some '\\' ∨
      startsWithDrive characters then
    reject .pathTraversal "Absolute archive paths are forbidden."
  else if '\\' ∈ characters then
    reject .pathInvalid "Backslashes are forbidden in archive paths."
  else if (splitOn '/' characters).any fun segment =>
      decide (segment ∈ [[], ['.'], ['.', '.']]) then
    reject .pathTraversal "Archive path traversal is forbidden."
  else if nestedArchiveSuffixes.any fun suffix =>
      suffix.toList.isSuffixOf (env.casefold path).toList then
    rejectMember .nestedArchive "Nested archives are forbidden." path
  else if isSafeMember characters = false then
    rejectMember .pathInvalid
      "Archive member is outside the approved package layout." path
  else .ok ()

def validateMemberType (info : ZipMember) : Except PackageError Unit :=
  let fileType := (info.externalAttr >>> 16) &&& 0o170000
  if info.filename.toList.getLast? = some '/' then
    rejectMember .directoryEntry "Explicit directory entries are forbidden."
      info.filename
  else if fileType = 0o120000 then
    rejectMember .symlinkEntry "Symbolic links are forbidden." info.filename
  else if info.externalAttr &&& 0xFFFF &&& 0x400 ≠ 0 then
    rejectMember .reparsePoint
      "Windows reparse-point entries are forbidden." info.filename
  else if fileType ≠ 0 ∧ fileType ≠ 0o100000 then
    rejectMember .specialFileEntry "Special files are forbidden."
      info.filename
  else .ok ()

/-- The accumulators of the pass over the central directory. -/
structure DirectoryScan where
  seen : List String
  seenFolded : List String
  seenOffsets : List Nat
  metadataTotal : Nat
  compressedTotal : Nat

def scanEntry (env : PackageEnvironment) (limits : PackageLimits)
    (scan : DirectoryScan) (info : ZipMember) :
    Except PackageError DirectoryScan := do
  validateMemberType info
  validateMemberPath env limits info.filename
  if info.headerOffset ∈ scan.seenOffsets then
    rejectMember .overlappingEntry
      "Multiple members may not reference the same local ZIP header."
      info.filename
  else if info.filename ∈ scan.seen then
    rejectMember .duplicatePath
      "Duplicate archive member path is forbidden." info.filename
  else if env.casefold info.filename ∈ scan.seenFolded then
    rejectMember .caseCollision
      "Case-colliding archive member paths are forbidden." info.filename
  else if info.flagBits &&& 1 ≠ 0 then
    rejectMember .encryptedEntry "Encrypted ZIP members are forbidden."
      info.filename
  else if info.compressType ≠ 0 ∧ info.compressType ≠ 8 then
    rejectMember .unsupportedCompression
      "Only ZIP stored and deflate methods are allowed." info.filename
  else if info.fileSize < 2 then
    rejectMember .fileTooSmall "Package JSON member is too small."
      info.filename
  else if info.fileSize > limits.maxMemberBytes then
    rejectMember .fileTooLarge "Package member is too large." info.filename
  else if scan.metadataTotal + info.fileSize > limits.maxUncompressedBytes then
    reject .totalSizeExceeded
      "Package metadata exceeds the total extraction limit."
  else if info.fileSize >
      limits.maxCompressionRatio * max info.compressSize 1 then
    rejectMember .compressionRatioExceeded
      "Archive member compression ratio exceeds the approved limit."
      info.filename
  else
    .ok
      { seen := scan.seen ++ [info.filename]
        seenFolded := scan.seenFolded ++ [env.casefold info.filename]
        seenOffsets := scan.seenOffsets ++ [info.headerOffset]
        metadataTotal := scan.metadataTotal + info.fileSize
        compressedTotal := scan.compressedTotal + info.compressSize }

/-- The read loop of `_read_member`, over the chunks that are left. -/
def readChunks (limits : PackageLimits) (filename : String)
    (totalBefore measured : Nat) : List Nat → Except PackageError Nat
  | [] => .ok measured
  | chunk :: chunks =>
      if measured + chunk > limits.maxMemberBytes then
        rejectMember .fileTooLarge
          "Archive member exceeded its extraction limit." filename
      else if totalBefore + (measured + chunk) > limits.maxUncompressedBytes then
        rejectMember .totalSizeExceeded
          "Archive exceeded its total extraction limit." filename
      else readChunks limits filename totalBefore (measured + chunk) chunks

/-- `_read_member`: the measured size of the member. -/
def readMember (limits : PackageLimits) (totalBefore : Nat)
    (info : ZipMember) : Except PackageError Nat := do
  let measured ←
    readChunks limits info.filename totalBefore 0 info.chunkSizes
  if info.readFails then
    rejectMember .memberReadError
      "Archive member could not be read safely." info.filename
  else if measured ≠ info.fileSize then
    rejectMember .memberSizeMismatch
      "Archive member size metadata does not match extracted bytes."
      info.filename
  else .ok measured

/-- The member path is added to a rejection that names none. -/
def withMemberPath {α : Type} (path : String) :
    Except PackageError α → Except PackageError α
  | .error (.rejected code message none) =>
      .error (.rejected code message (some path))
  | outcome => outcome

def measureMember (limits : PackageLimits) (totalBefore : Nat)
    (info : ZipMember) : Except PackageError PackageFileRecord := do
  let measured ← readMember limits totalBefore info
  let _ ← withMemberPath info.filename info.document
  pure ⟨info.filename, measured, info.sha256⟩

def measureMembers (limits : PackageLimits) (totalBefore : Nat) :
    List ZipMember → Except PackageError (List PackageFileRecord)
  | [] => .ok []
  | info :: infos => do
      let record ← measureMember limits totalBefore info
      let records ←
        measureMembers limits (totalBefore + record.sizeBytes) infos
      pure (record :: records)

/-- `sorted(items, key=key)`. -/
def sortedBy {α : Type} (key : α → String) (items : List α) : List α :=
  items.insertionSort fun first second => key first ≤ key second

/-- `path.rsplit("/", 1)[-1]`. -/
def lastSegment (path : String) : String :=
  String.ofList ((splitOn '/' path.toList).getLast?.getD [])

/-- `text.removesuffix(suffix)`. -/
def removeSuffix (suffix text : String) : String :=
  if suffix.toList.isSuffixOf text.toList then
    String.ofList
      (text.toList.take (text.toList.length - suffix.toList.length))
  else text

/-- `"collector_manifest.json"`. -/
def manifestPath : String := "collector_manifest.json"

def contentVector (records : List PackageFileRecord) : Json :=
  .arr ((sortedBy (fun record => lastSegment record.path)
    (records.filter fun record => decide (record.path ≠ manifestPath))).map
      fun record =>
        .obj
          [("evidence_id",
              .str (removeSuffix ".json" (lastSegment record.path))),
            ("evidence_sha256", .str record.sha256)])

/-- What `inspect_package_archive` checks before it reads a member, and the
members it then reads. -/
def openArchive (env : PackageEnvironment) (archive : ArchiveFile)
    (limits : PackageLimits) : Except PackageError (List ZipMember) := do
  if archive.isFile = false then
    reject .archiveNotFile "Package archive is not a regular file."
  else if archive.sizeBytes = 0 then
    reject .archiveEmpty "Package archive is empty."
  else if archive.sizeBytes > limits.maxArchiveBytes then
    reject .archiveTooLarge "Package archive is too large."
  else
    match archive.members with
    | none =>
        reject .archiveInvalid "Input is not an approved ZIP archive."
    | some infos => do
        if infos.length < minFiles ∨ infos.length > limits.maxFiles then
          reject .fileCountOutOfRange
            "Package file count is outside the approved range."
        else do
          let scan ← infos.foldlM (scanEntry env limits) ⟨[], [], [], 0, 0⟩
          if manifestPath ∉ scan.seen then
            reject .requiredManifestMissing
              "collector_manifest.json is required."
          else if scan.metadataTotal >
              limits.maxCompressionRatio * max scan.compressedTotal 1 then
            reject .compressionRatioExceeded
              "Aggregate compression ratio exceeds the approved limit."
          else pure infos

def inspectPackageArchive (env : PackageEnvironment) (archive : ArchiveFile)
    (limits : PackageLimits) : Except PackageError PackageInspection := do
  let infos ← openArchive env archive limits
  let records ← measureMembers limits 0 infos
  let sortedRecords := sortedBy PackageFileRecord.path records
  let contentSetSha256 ← env.digest (contentVector sortedRecords)
  pure
    { archiveSha256 := archive.sha256
      contentSetSha256 := contentSetSha256
      compressedBytes := archive.sizeBytes
      uncompressedBytes :=
        (sortedRecords.map PackageFileRecord.sizeBytes).sum
      fileCount := sortedRecords.length
      files := sortedRecords }

def requiredMapping (value : Option Json) : Except PackageError Json :=
  match value with
  | some (.obj members) => .ok (.obj members)
  | _ => reject .inventoryInvalid "Descriptor object is missing or invalid."

def requiredSequence (value : Option Json) :
    Except PackageError (List Json) :=
  match value with
  | some (.arr items) => .ok items
  | _ => reject .inventoryInvalid "Descriptor inventory is invalid."

def requiredString (mapping : Json) (key : String) :
    Except PackageError String :=
  match mapping.stringAt key with
  | some value => .ok value
  | none =>
      reject .inventoryInvalid ("Descriptor field " ++ key ++ " is invalid.")

/-- `_HASH_PATTERN`. -/
def isSha256 (value : String) : Bool :=
  decide (value.toList.length = 64) && value.toList.all fun character =>
    character.isDigit || ('a' ≤ character && character ≤ 'f')

def requiredHash (mapping : Json) (key : String) :
    Except PackageError String := do
  let value ← requiredString mapping key
  if isSha256 value then .ok value
  else reject .inventoryInvalid ("Descriptor hash " ++ key ++ " is invalid.")

def requiredInteger (mapping : Json) (key : String) :
    Except PackageError Nat :=
  match mapping.integerAt key with
  | some value =>
      if value < 0 then
        reject .inventoryInvalid
          ("Descriptor field " ++ key ++ " is invalid.")
      else .ok value.toNat
  | none =>
      reject .inventoryInvalid ("Descriptor field " ++ key ++ " is invalid.")

/-- What the descriptor declares of its files, by path. -/
abbrev ExpectedRecords := List PackageFileRecord

def expectEntry (env : PackageEnvironment) (limits : PackageLimits)
    (expected : ExpectedRecords) (rawEntry : Json) :
    Except PackageError ExpectedRecords := do
  let entry ← requiredMapping (some rawEntry)
  let path ← requiredString entry "path"
  validateMemberPath env limits path
  if path ∈ expected.map PackageFileRecord.path then
    reject .duplicatePath "Inventory path is duplicated."
  else if env.casefold path ∈
      expected.map (fun record => env.casefold record.path) then
    reject .caseCollision "Inventory paths collide by case."
  else do
    let sizeBytes ← requiredInteger entry "size_bytes"
    let sha256 ← requiredHash entry "sha256"
    pure (expected ++ [⟨path, sizeBytes, sha256⟩])

/-- `sorted(set(first) - set(second))[0]`. -/
def firstMissing (first second : List String) : Option String :=
  (sortedBy id (first.filter fun path => decide (path ∉ second))).head?

/-- The comparison of one declared file with the measured ones. -/
def compareEntry (files : List PackageFileRecord)
    (expected : PackageFileRecord) : Except PackageError Unit :=
  match files.find? fun record => decide (record.path = expected.path) with
  | none => .ok ()
  | some actual =>
      if actual.sizeBytes ≠ expected.sizeBytes then
        rejectMember .sizeMismatch
          "Archive member size differs from the descriptor." expected.path
      else if actual.sha256 ≠ expected.sha256 then
        rejectMember .hashMismatch
          "Archive member hash differs from the descriptor." expected.path
      else .ok ()

def compareFact {α : Type} [DecidableEq α] (actual expected : α)
    (errorCode : PackageValidationCode) : Except PackageError Unit :=
  if actual ≠ expected then
    reject errorCode "Measured archive metadata differs from the descriptor."
  else .ok ()

def validatePackageContract (env : PackageEnvironment)
    (archive : ArchiveFile) (descriptor : Json) (limits : PackageLimits) :
    Except PackageError PackageInspection := do
  let inspection ← inspectPackageArchive env archive limits
  let archiveFields ← requiredMapping (descriptor.member "archive")
  let inventory ← requiredSequence (descriptor.member "file_inventory")
  let expected ← inventory.foldlM (expectEntry env limits) []
  let expectedPaths := expected.map PackageFileRecord.path
  let actualPaths := inspection.files.map PackageFileRecord.path
  match firstMissing expectedPaths actualPaths with
  | some missing =>
      rejectMember .fileMissing
        "A descriptor-declared file is missing from the archive." missing
  | none =>
      match firstMissing actualPaths expectedPaths with
      | some undeclared =>
          rejectMember .undeclaredFile
            "The archive contains a file not declared by the descriptor."
            undeclared
      | none => do
          expected.forM (compareEntry inspection.files)
          let archiveSha256 ← requiredHash archiveFields "archive_sha256"
          let contentSetSha256 ←
            requiredHash archiveFields "content_set_sha256"
          let compressedBytes ←
            requiredInteger archiveFields "compressed_bytes"
          let uncompressedBytes ←
            requiredInteger archiveFields "uncompressed_bytes"
          let fileCount ← requiredInteger archiveFields "file_count"
          compareFact inspection.archiveSha256 archiveSha256
            .archiveHashMismatch
          compareFact inspection.contentSetSha256 contentSetSha256
            .contentSetHashMismatch
          compareFact inspection.compressedBytes compressedBytes
            .archiveSizeMismatch
          compareFact inspection.uncompressedBytes uncompressedBytes
            .uncompressedSizeMismatch
          compareFact inspection.fileCount fileCount .fileCountMismatch
          pure inspection

/-- The constructor arguments of `FullPackageValidator`. -/
structure ValidatorConfig where
  descriptorSchema : String
  manifestSchema : String
  evidenceControlField : String
  evidenceMemberPathField : Option String

def defaultConfig : ValidatorConfig :=
  { descriptorSchema := "audit_package.schema.json"
    manifestSchema := "collector_manifest.schema.json"
    evidenceControlField := "control_id"
    evidenceMemberPathField := none }

/-! ## Readers -/

def mapping (value : Option Json) (code : PackageValidationCode) :
    Except PackageError Json :=
  match value with
  | some (.obj members) => .ok (.obj members)
  | _ => reject code "A required package object is invalid."

def sequence (value : Option Json) (code : PackageValidationCode) :
    Except PackageError (List Json) :=
  match value with
  | some (.arr items) => .ok items
  | _ => reject code "A required package array is invalid."

def string (document : Json) (key : String) (code : PackageValidationCode) :
    Except PackageError String :=
  match document.stringAt key with
  | some value => .ok value
  | none => reject code "A required package string is invalid."

def integer (document : Json) (key : String) (code : PackageValidationCode) :
    Except PackageError Int :=
  match document.integerAt key with
  | some value => .ok value
  | none => reject code "A required package integer is invalid."

variable (env : PackageEnvironment)

/-- `_timestamp`.  The text that is parsed ends in an offset, so the result
has a timezone whenever there is one. -/
def timestamp (document : Json) (key : String)
    (code : PackageValidationCode) : Except PackageError DateTime := do
  let value ← string document key code
  match env.fromIsoformat (removeSuffix "Z" value ++ "+00:00") with
  | some parsed => .ok parsed
  | none => reject code "A package timestamp is invalid."

def manifestContentHash (manifest : Json) : Except PackageError String :=
  env.digest (manifest.without ["manifest_content_sha256", "authorization"])

def measureFile (archive : ArchiveFile) (maximumBytes : Nat) :
    Except PackageError (Nat × String) :=
  if archive.isFile = false then
    reject .archiveNotFile "Package archive is not a file."
  else if archive.sizeBytes > maximumBytes then
    reject .archiveTooLarge "Package archive is too large."
  else if archive.sizeBytes = 0 then
    reject .archiveEmpty "Package archive is empty."
  else .ok (archive.sizeBytes, archive.sha256)

def verifiedDigest (verification : DigestVerification)
    (expectedSha256 : String)
    (failedCode unavailableCode : PackageValidationCode) :
    Except PackageError Unit :=
  match verification.status with
  | .unavailable =>
      reject unavailableCode
        "A required external verification is unavailable."
  | .failed => reject failedCode "A required external verification failed."
  | .verified =>
      if verification.sha256 ≠ expectedSha256 then
        reject .attestationBindingMismatch
          "An external verification is bound to a different digest."
      else .ok ()

/-! ## Versions -/

def digitsValue (digits : List Char) : Nat :=
  digits.foldl (fun value digit => 10 * value + (digit.toNat - 48)) 0

/-- `0|[1-9][0-9]*`. -/
def isVersionNumber (digits : List Char) : Bool :=
  decide (digits ≠ []) && digits.all Char.isDigit &&
    (decide (digits = ['0']) || decide (digits.head? ≠ some '0'))

/-- A nonempty run of `[0-9A-Za-z.-]`. -/
def isVersionTail (characters : List Char) : Bool :=
  decide (characters ≠ []) && characters.all fun character =>
    character.isAlphanum || character == '.' || character == '-'

/-- A version, with its prerelease parts. -/
structure SemanticVersion where
  major : Nat
  minor : Nat
  patch : Nat
  prerelease : Option (List (List Char))

/-- The characters before the first separator, and those behind it. -/
def cutAt (separator : Char) (characters : List Char) :
    List Char × Option (List Char) :=
  (characters.takeWhile (· ≠ separator),
    match characters.dropWhile (· ≠ separator) with
    | [] => none
    | _ :: rest => some rest)

/-- `_SEMVER_PATTERN.fullmatch`, and the parts it captures.  A prerelease has
no `+`, and the numbers have no `-`, so the first of each separates. -/
def matchSemver (version : String) : Option SemanticVersion :=
  let (versionPart, build) := cutAt '+' version.toList
  let (core, prerelease) := cutAt '-' versionPart
  match splitOn '.' core with
  | [major, minor, patch] =>
      if isVersionNumber major && isVersionNumber minor &&
          isVersionNumber patch && prerelease.all isVersionTail &&
          build.all isVersionTail then
        some ⟨digitsValue major, digitsValue minor, digitsValue patch,
          prerelease.map (splitOn '.')⟩
      else none
  | _ => none

def semverParts (version : String) : Except PackageError SemanticVersion :=
  match matchSemver version with
  | some parts => .ok parts
  | none =>
      reject .collectorConstraintMismatch "Collector version is invalid."

/-- `str.isdigit` of a prerelease part, whose characters are ASCII. -/
def isDigitPart (part : List Char) : Bool :=
  decide (part ≠ []) && part.all Char.isDigit

def comparePart (left right : List Char) : Int :=
  if isDigitPart left && isDigitPart right then
    if digitsValue left < digitsValue right then -1 else 1
  else if isDigitPart left ≠ isDigitPart right then
    if isDigitPart left then -1 else 1
  else if String.ofList left < String.ofList right then -1
  else 1

def compareParts : List (List Char) → List (List Char) → Int
  | [], [] => 0
  | [], _ :: _ => -1
  | _ :: _, [] => 1
  | left :: lefts, right :: rights =>
      if left = right then compareParts lefts rights
      else comparePart left right

def comparePrerelease : Option (List (List Char)) →
    Option (List (List Char)) → Int
  | none, none => 0
  | none, some _ => 1
  | some _, none => -1
  | some left, some right => compareParts left right

def compareSemver (left right : String) : Except PackageError Int := do
  let leftParts ← semverParts left
  let rightParts ← semverParts right
  let leftCore := [leftParts.major, leftParts.minor, leftParts.patch]
  let rightCore := [rightParts.major, rightParts.minor, rightParts.patch]
  if leftCore ≠ rightCore then
    pure (if leftCore < rightCore then -1 else 1)
  else pure (comparePrerelease leftParts.prerelease rightParts.prerelease)

/-! ## The Manifest -/

def validateManifestContext (manifest : Json)
    (context : PackageValidationContext) (nonce : NonceVerification) :
    Except PackageError Unit := do
  let issuedAt ← timestamp env manifest "issued_at" .manifestSemanticInvalid
  let expiresAt ← timestamp env manifest "expires_at" .manifestSemanticInvalid
  if expiresAt ≤ issuedAt then
    reject .manifestSemanticInvalid "Manifest time range is invalid."
  else if context.receivedAt < issuedAt then
    reject .manifestNotYetValid "Manifest is not yet valid."
  else if context.receivedAt > expiresAt then
    reject .manifestExpired "Manifest has expired."
  else do
    let submission ←
      mapping (manifest.member "submission") .manifestSemanticInvalid
    let jobId ← string manifest "job_id" .manifestSemanticInvalid
    let assetId ← string manifest "asset_id" .manifestSemanticInvalid
    let endpointId ← string submission "endpoint_id" .manifestSemanticInvalid
    if jobId ≠ context.jobId ∨ assetId ≠ context.assetId ∨
        endpointId ≠ context.endpointId then
      reject .manifestScopeMismatch "Manifest scope is invalid."
    else do
      let manifestNonce ← string manifest "nonce" .manifestSemanticInvalid
      if nonce.nonce ≠ manifestNonce then
        reject .attestationBindingMismatch "Nonce proof is mismatched."
      else
        match nonce.status with
        | .unavailable =>
            reject .nonceCheckUnavailable "Nonce check is unavailable."
        | .replayed =>
            reject .nonceReplayed "Manifest nonce has already been used."
        | .freshReserved => pure ()

/-- `_manifest_limits`.  A missing integer is rejected within the `try`, so
it is reported like limits that do not fit. -/
def manifestLimits (manifest : Json) : Except PackageError PackageLimits := do
  let submission ←
    mapping (manifest.member "submission") .manifestSemanticInvalid
  let limits := do
    let maxArchiveBytes ← submission.integerAt "max_archive_bytes"
    let maxUncompressedBytes ← submission.integerAt "max_uncompressed_bytes"
    let maxFiles ← submission.integerAt "max_files"
    PackageLimits.ofIntegers maxArchiveBytes maxUncompressedBytes maxFiles
  match limits with
  | some limits => .ok limits
  | none =>
      reject .manifestSemanticInvalid
        "Manifest package limits are incompatible with the package layout."

/-! ## The archive -/

def validateExternalArchiveGates (archiveHash : String) (archiveSize : Nat)
    (context : PackageValidationContext)
    (verifications : PackageGateVerifications) : Except PackageError Unit :=
  let staged := verifications.stagedObject
  let malware := verifications.malwareScan
  match staged.status with
  | .unavailable =>
      reject .stagingUnavailable "Staging verification is unavailable."
  | .failed =>
      reject .stagingVerificationFailed "Staging verification failed."
  | .verified =>
      if staged.organizationId ≠ context.organizationId ∨
          staged.assetId ≠ context.assetId ∨ staged.jobId ≠ context.jobId ∨
          staged.archiveSha256 ≠ archiveHash ∨
          staged.sizeBytes ≠ archiveSize then
        reject .attestationBindingMismatch
          "Staging proof is bound to a different object or scope."
      else if malware.archiveSha256 ≠ archiveHash then
        reject .attestationBindingMismatch "Scan digest is mismatched."
      else
        match malware.status with
        | .unavailable =>
            reject .malwareScanUnavailable "Malware scan is unavailable."
        | .detected =>
            reject .malwareDetected "Malware scan rejected the package."
        | .clean =>
            verifiedDigest verifications.contentPolicy archiveHash
              .contentPolicyFailed .contentPolicyUnavailable

/-- `_load_embedded_manifest`.  The archive does not change while it is being
validated, so the record is the one of the member that is read. -/
def loadEmbeddedManifest (archive : ArchiveFile)
    (inspection : PackageInspection) (limits : PackageLimits) :
    LoadedJson :=
  match inspection.files.find? fun record =>
      decide (record.path = manifestPath) with
  | none => reject .requiredManifestMissing "Manifest is missing."
  | some record =>
      match (archive.members.getD []).find? fun info =>
          decide (info.filename = manifestPath) with
      | none =>
          reject .memberReadError "Manifest could not be read safely."
      | some info =>
          if info.fileSize > limits.maxMemberBytes then
            reject .fileTooLarge "Manifest is too large."
          else if info.readFails then
            reject .memberReadError "Manifest could not be read safely."
          else if info.chunkSizes.sum ≠ record.sizeBytes ∨
              info.sha256 ≠ record.sha256 then
            reject .hashMismatch "Manifest changed during validation."
          else info.document

/-! ## The descriptor -/

/-- A probe the Manifest authorizes, with its version and its controls. -/
structure AuthorizedProbe where
  probeId : String
  probeVersion : String
  controlIds : List Json

def authorizeProbe (authorized : List AuthorizedProbe) (item : Json) :
    Except PackageError (List AuthorizedProbe) := do
  let probe ← mapping (some item) .manifestSemanticInvalid
  let probeId ← string probe "probe_id" .manifestSemanticInvalid
  if probeId ∈ authorized.map AuthorizedProbe.probeId then
    reject .manifestSemanticInvalid "Probe is duplicated."
  else do
    let probeVersion ← string probe "probe_version" .manifestSemanticInvalid
    let controlIds ←
      sequence (probe.member "control_ids") .manifestSemanticInvalid
    pure (authorized ++ [⟨probeId, probeVersion, controlIds⟩])

def inventoryHash (item : Json) : Except PackageError (String × String) := do
  let entry ← mapping (some item) .descriptorSemanticInvalid
  let path ← string entry "path" .descriptorSemanticInvalid
  let sha256 ← string entry "sha256" .descriptorSemanticInvalid
  pure (path, sha256)

/-- `inventory_hashes.get(path)`: of entries with one path the last counts. -/
def hashOf (inventoryHashes : List (String × String)) (path : String) :
    Option String :=
  (inventoryHashes.reverse.find? fun entry => decide (entry.1 = path)).map
    Prod.snd

def evidenceControls (config : ValidatorConfig) (evidence : Json) :
    Except PackageError (List Json) := do
  if config.evidenceControlField = "control_id" then do
    let control ← string evidence "control_id" .descriptorSemanticInvalid
    pure [.str control]
  else do
    let rawControls ← sequence (evidence.member config.evidenceControlField)
      .descriptorSemanticInvalid
    if rawControls.any fun item =>
        match item with
        | .str _ => false
        | _ => true then
      reject .descriptorSemanticInvalid
        "Evidence control identifiers must be strings."
    else pure rawControls

/-- `frozenset(first) == frozenset(second)`. -/
def sameSet (first second : List Json) : Bool :=
  first.all (fun item => decide (item ∈ second)) &&
    second.all (fun item => decide (item ∈ first))

/-- The path of the archive member that holds the record's evidence. -/
def evidenceMemberPath (collectionStatus evidenceId : String) : String :=
  (if collectionStatus = "COLLECTED" then "evidence" else "errors") ++ "/" ++
    evidenceId ++ ".json"

/-- One evidence record; the identifiers of the records before it are given,
and its own is added. -/
def validateEvidence (config : ValidatorConfig)
    (authorized : List AuthorizedProbe)
    (inventoryHashes : List (String × String)) (evidenceIds : List String)
    (item : Json) : Except PackageError (List String) := do
  let evidence ← mapping (some item) .descriptorSemanticInvalid
  let evidenceId ← string evidence "evidence_id" .descriptorSemanticInvalid
  if evidenceId ∈ evidenceIds then
    reject .descriptorSemanticInvalid "Evidence is duplicated."
  else do
    let probeId ← string evidence "probe_id" .descriptorSemanticInvalid
    let controls ← evidenceControls config evidence
    match authorized.find? fun probe => decide (probe.probeId = probeId) with
    | none =>
        reject .evidenceScopeMismatch
          "Evidence was not authorized by the signed Manifest."
    | some probe => do
        let probeVersion ←
          string evidence "probe_version" .descriptorSemanticInvalid
        if probeVersion ≠ probe.probeVersion ∨
            sameSet controls probe.controlIds = false then
          reject .evidenceScopeMismatch
            "Evidence was not authorized by the signed Manifest."
        else do
          let collectionStatus ←
            string evidence "collection_status" .descriptorSemanticInvalid
          let expectedPath := evidenceMemberPath collectionStatus evidenceId
          let evidencePath ←
            match config.evidenceMemberPathField with
            | none => pure expectedPath
            | some field =>
                string evidence field .descriptorSemanticInvalid
          if evidencePath ≠ expectedPath then
            reject .evidenceScopeMismatch
              "Evidence member path does not match its collection status."
          else do
            let evidenceHash ←
              string evidence "evidence_sha256" .descriptorSemanticInvalid
            if hashOf inventoryHashes evidencePath ≠ some evidenceHash then
              reject .evidenceScopeMismatch
                "Evidence record does not match the archive inventory."
            else pure (evidenceIds ++ [evidenceId])

def validateCollector (descriptor manifest : Json) :
    Except PackageError Unit := do
  let collector ←
    mapping (descriptor.member "collector") .descriptorSemanticInvalid
  let constraint ←
    mapping (manifest.member "collector_constraint") .manifestSemanticInvalid
  let version ← string collector "version" .descriptorSemanticInvalid
  let outside : Except PackageError Unit :=
    reject .collectorConstraintMismatch
      "Collector build is outside the signed Manifest constraint."
  let name ← string collector "name" .descriptorSemanticInvalid
  let requiredName ← string constraint "name" .manifestSemanticInvalid
  if name ≠ requiredName then outside
  else do
    let channel ←
      string collector "release_channel" .descriptorSemanticInvalid
    let requiredChannel ←
      string constraint "release_channel" .manifestSemanticInvalid
    if channel ≠ requiredChannel then outside
    else do
      let minVersion ←
        string constraint "min_version" .manifestSemanticInvalid
      let aboveMinimum ← compareSemver version minVersion
      if aboveMinimum < 0 then outside
      else do
        let maxVersion ←
          string constraint "max_version_exclusive" .manifestSemanticInvalid
        let belowMaximum ← compareSemver version maxVersion
        if belowMaximum ≥ 0 then outside
        else pure ()

def validateCollectorAndEvidence (config : ValidatorConfig)
    (descriptor manifest : Json) : Except PackageError Unit := do
  validateCollector descriptor manifest
  let probes ← sequence (manifest.member "probes") .manifestSemanticInvalid
  let authorized ← probes.foldlM authorizeProbe []
  let inventory ←
    sequence (descriptor.member "file_inventory") .descriptorSemanticInvalid
  let inventoryHashes ← inventory.mapM inventoryHash
  let evidenceRecords ←
    sequence (descriptor.member "evidence_records") .descriptorSemanticInvalid
  let _ ← evidenceRecords.foldlM
    (validateEvidence config authorized inventoryHashes) []
  let archive ←
    mapping (descriptor.member "archive") .descriptorSemanticInvalid
  let fileCount ← integer archive "file_count" .descriptorSemanticInvalid
  if fileCount ≠ inventory.length then
    reject .descriptorSemanticInvalid "Inventory count is invalid."
  else pure ()

def expectedKind (profile : String) : Option PackageAuthenticationKind :=
  if profile = "ONLINE-AUTHENTICATED" then some .onlineTransport
  else if profile = "OFFLINE-SIGNED" then some .offlineSignature
  else if profile = "OFFLINE-USER-SUBMITTED" then some .offlineSubmitter
  else none

def validateDescriptorSemantics (config : ValidatorConfig)
    (descriptor manifest : Json) (context : PackageValidationContext)
    (packageAuth : PackageAuthenticationVerification) :
    Except PackageError Unit := do
  let issuedAt ←
    timestamp env descriptor "issued_at" .descriptorSemanticInvalid
  let expiresAt ←
    timestamp env descriptor "expires_at" .descriptorSemanticInvalid
  let manifestIssued ←
    timestamp env manifest "issued_at" .manifestSemanticInvalid
  let manifestExpires ←
    timestamp env manifest "expires_at" .manifestSemanticInvalid
  if expiresAt ≤ issuedAt ∨ issuedAt < manifestIssued ∨
      expiresAt > manifestExpires ∨ context.receivedAt < issuedAt ∨
      context.receivedAt > expiresAt then
    reject .descriptorSemanticInvalid "Package time range is invalid."
  else do
    let manifestId ← string manifest "id" .manifestSemanticInvalid
    let manifestNonce ← string manifest "nonce" .manifestSemanticInvalid
    let manifestHash ←
      string manifest "manifest_content_sha256" .manifestSemanticInvalid
    let expectedPairs :=
      [("job_id", context.jobId), ("asset_id", context.assetId),
        ("manifest_id", manifestId), ("nonce", manifestNonce),
        ("manifest_hash", manifestHash)]
    expectedPairs.forM fun pair => do
      let value ← string descriptor pair.1 .descriptorSemanticInvalid
      if value ≠ pair.2 then
        reject .manifestScopeMismatch "Package scope is invalid."
      else pure ()
    let authentication ←
      mapping (descriptor.member "authentication") .descriptorSemanticInvalid
    let profile ←
      string authentication "profile" .descriptorSemanticInvalid
    let submission ←
      mapping (manifest.member "submission") .manifestSemanticInvalid
    let allowedProfiles ←
      sequence (submission.member "allowed_profiles") .manifestSemanticInvalid
    if .str profile ∉ allowedProfiles then
      reject .submissionProfileNotAllowed
        "Package authentication profile is not authorized."
    else
      match expectedKind profile with
      | none => .error (.builtin "KeyError")
      | some kind =>
          if packageAuth.kind ≠ kind then
            reject .packageAuthenticationInvalid
              "Package authentication proof has the wrong type."
          else
            match packageAuth.status with
            | .unavailable =>
                reject .packageAuthenticationUnavailable
                  "Package authentication is unavailable."
            | .failed =>
                reject .packageAuthenticationInvalid
                  "Package authentication failed."
            | .verified =>
                validateCollectorAndEvidence config descriptor manifest

/-! ## The validator -/

/-- The gates of the Manifest: its schema, its hash and its signature. -/
def validateManifestHash (config : ValidatorConfig) (manifest : Json)
    (signatureVerification : DigestVerification) :
    Except PackageError String := do
  env.validateSchema manifest config.manifestSchema .manifestSchemaInvalid
  let manifestHash ← manifestContentHash env manifest
  let declared ←
    string manifest "manifest_content_sha256" .manifestSemanticInvalid
  if declared ≠ manifestHash then
    reject .manifestHashMismatch "Manifest hash is invalid."
  else do
    let authorization ←
      mapping (manifest.member "authorization") .manifestSemanticInvalid
    let signature ←
      mapping (authorization.member "signature") .manifestSemanticInvalid
    let signed ← string signature "signed_sha256" .manifestSemanticInvalid
    if signed ≠ manifestHash then
      reject .manifestHashMismatch "Manifest signature hash is invalid."
    else do
      verifiedDigest signatureVerification manifestHash
        .manifestSignatureInvalid .manifestSignatureUnavailable
      pure manifestHash

/-- The gates of the archive: what is measured of it agrees with the
descriptor and with the external proofs, and it embeds the Manifest. -/
def validateArchive (config : ValidatorConfig) (archive : ArchiveFile)
    (descriptor manifest : Json) (manifestHash : String)
    (context : PackageValidationContext)
    (verifications : PackageGateVerifications) (limits : PackageLimits) :
    Except PackageError PackageInspection := do
  let descriptorArchive ←
    mapping (descriptor.member "archive") .descriptorSemanticInvalid
  let declaredHash ←
    string descriptorArchive "archive_sha256" .descriptorSemanticInvalid
  let declaredSize ←
    integer descriptorArchive "compressed_bytes" .descriptorSemanticInvalid
  let (measuredSize, measuredHash) ←
    measureFile archive limits.maxArchiveBytes
  if measuredHash ≠ declaredHash then
    reject .archiveHashMismatch "Archive digest is invalid."
  else if (measuredSize : Int) ≠ declaredSize then
    reject .archiveSizeMismatch "Archive size is invalid."
  else do
    validateExternalArchiveGates measuredHash measuredSize context
      verifications
    let inspection ← validatePackageContract env archive descriptor limits
    let embedded ← loadEmbeddedManifest archive inspection limits
    env.validateSchema embedded config.manifestSchema .manifestSchemaInvalid
    let embeddedHash ← manifestContentHash env embedded
    if embeddedHash ≠ manifestHash then
      reject .manifestHashMismatch "Embedded Manifest differs."
    else do
      let embeddedDigest ← env.digest embedded
      let trustedDigest ← env.digest manifest
      if embeddedDigest ≠ trustedDigest then
        reject .manifestHashMismatch "Embedded Manifest differs."
      else pure inspection

def validate (config : ValidatorConfig) (archive : ArchiveFile)
    (descriptorBytes : LoadedJson) (manifest : Json)
    (context : PackageValidationContext)
    (verifications : PackageGateVerifications) :
    Except PackageError ValidatedPackage := do
  let descriptor ← descriptorBytes
  env.validateSchema descriptor config.descriptorSchema
    .descriptorSchemaInvalid
  let manifestHash ← validateManifestHash env config manifest
    verifications.manifestSignature
  validateManifestContext env manifest context verifications.nonce
  let limits ← manifestLimits manifest
  let inspection ← validateArchive env config archive descriptor manifest
    manifestHash context verifications limits
  validateDescriptorSemantics env config descriptor manifest context
    verifications.packageAuthentication
  let packageId ← string descriptor "id" .descriptorSemanticInvalid
  let manifestId ←
    string descriptor "manifest_id" .descriptorSemanticInvalid
  let descriptorSha256 ← env.digest descriptor
  let authentication ←
    mapping (descriptor.member "authentication") .descriptorSemanticInvalid
  let profile ← string authentication "profile" .descriptorSemanticInvalid
  pure
    { packageId := packageId
      manifestId := manifestId
      jobId := context.jobId
      assetId := context.assetId
      descriptorSha256 := descriptorSha256
      manifestContentSha256 := manifestHash
      authenticationProfile := profile
      inspection := inspection }

end SecAI.Package
