/-
Module: SecAI.Package.Contracts
Purpose: The data contracts of package validation: rejection codes, limits,
  measured facts, external verifications.
Trusted boundary: none
Main exports:
  PackageValidationCode, PackageError, PackageLimits, PackageInspection
-/
import SecAI.Common.Values
import SecAI.Package.Json

namespace SecAI.Package

inductive PackageValidationCode where
  | archiveNotFile
  | archiveEmpty
  | archiveTooLarge
  | archiveInvalid
  | archiveHashMismatch
  | archiveSizeMismatch
  | fileCountOutOfRange
  | fileCountMismatch
  | directoryEntry
  | symlinkEntry
  | reparsePoint
  | specialFileEntry
  | overlappingEntry
  | encryptedEntry
  | unsupportedCompression
  | nestedArchive
  | pathTraversal
  | pathInvalid
  | duplicatePath
  | caseCollision
  | requiredManifestMissing
  | fileTooSmall
  | fileTooLarge
  | totalSizeExceeded
  | uncompressedSizeMismatch
  | compressionRatioExceeded
  | memberSizeMismatch
  | memberReadError
  | jsonBomNotAllowed
  | jsonEncodingInvalid
  | duplicateJsonKey
  | jsonNumberInvalid
  | invalidJson
  | jsonTopLevelInvalid
  | inventoryInvalid
  | fileMissing
  | undeclaredFile
  | sizeMismatch
  | hashMismatch
  | contentSetHashMismatch
  | descriptorSchemaInvalid
  | manifestSchemaInvalid
  | schemaCatalogInvalid
  | manifestHashMismatch
  | manifestSignatureInvalid
  | manifestSignatureUnavailable
  | manifestNotYetValid
  | manifestExpired
  | manifestScopeMismatch
  | nonceReplayed
  | nonceCheckUnavailable
  | submissionProfileNotAllowed
  | packageAuthenticationInvalid
  | packageAuthenticationUnavailable
  | collectorConstraintMismatch
  | evidenceScopeMismatch
  | stagingVerificationFailed
  | stagingUnavailable
  | malwareDetected
  | malwareScanUnavailable
  | contentPolicyFailed
  | contentPolicyUnavailable
  | attestationBindingMismatch
  | manifestSemanticInvalid
  | descriptorSemanticInvalid
deriving DecidableEq

/-- Exceptions that leave the package validators. -/
inductive PackageError where
  | rejected (code : PackageValidationCode) (message : String)
      (memberPath : Option String)
  /-- `SecAICanonicalizationError` of `canonicalize_json`. -/
  | canonicalization
  /-- A built-in exception that the code does not raise on purpose. -/
  | builtin (exception : String)
deriving DecidableEq

def reject {α : Type} (code : PackageValidationCode) (message : String) :
    Except PackageError α :=
  .error (.rejected code message none)

/-- `_reject` with a member path. -/
def rejectMember {α : Type} (code : PackageValidationCode) (message : String)
    (memberPath : String) : Except PackageError α :=
  .error (.rejected code message (some memberPath))

/-- A byte string by what `load_strict_json` makes of it: every reader loads
the bytes first and uses nothing else of them. -/
abbrev LoadedJson := Except PackageError Json

def maxArchiveBytesCap : Nat := 100 * 1024 * 1024

def maxUncompressedBytesCap : Nat := 500 * 1024 * 1024

def maxFilesCap : Nat := 1024

def maxMemberBytesCap : Nat := 1024 * 1024

def maxPathLengthCap : Nat := 240

def maxCompressionRatioCap : Nat := 100

def minFiles : Nat := 2

/-- `PackageLimits`.  The compression ratio is a whole number, as its default
is; `min_files` is fixed. -/
structure PackageLimits where
  maxArchiveBytes : Nat
  maxUncompressedBytes : Nat
  maxFiles : Nat
  maxMemberBytes : Nat
  maxPathLength : Nat
  maxCompressionRatio : Nat
  archiveCapped : maxArchiveBytes ≤ maxArchiveBytesCap
  uncompressedCapped : maxUncompressedBytes ≤ maxUncompressedBytesCap
  filesCapped : maxFiles ≤ maxFilesCap
  memberCapped : maxMemberBytes ≤ maxMemberBytesCap
  pathCapped : maxPathLength ≤ maxPathLengthCap
  ratioCapped : maxCompressionRatio ≤ maxCompressionRatioCap
  archivePositive : 0 < maxArchiveBytes
  uncompressedPositive : 0 < maxUncompressedBytes
  filesInRange : minFiles ≤ maxFiles
  memberPositive : 0 < maxMemberBytes
  pathPositive : 0 < maxPathLength
  ratioPositive : 0 < maxCompressionRatio

/-- The checks of `PackageLimits.__post_init__`, where only the limits are
given that a Manifest sets; the others keep their defaults. -/
def PackageLimits.ofIntegers (maxArchiveBytes maxUncompressedBytes
    maxFiles : Int) : Option PackageLimits :=
  if valid : 0 < maxArchiveBytes.toNat ∧ 0 < maxUncompressedBytes.toNat ∧
      minFiles ≤ maxFiles.toNat ∧
      maxArchiveBytes.toNat ≤ maxArchiveBytesCap ∧
      maxUncompressedBytes.toNat ≤ maxUncompressedBytesCap ∧
      maxFiles.toNat ≤ maxFilesCap then
    some
      { maxArchiveBytes := maxArchiveBytes.toNat
        maxUncompressedBytes := maxUncompressedBytes.toNat
        maxFiles := maxFiles.toNat
        maxMemberBytes := maxMemberBytesCap
        maxPathLength := maxPathLengthCap
        maxCompressionRatio := maxCompressionRatioCap
        archivePositive := valid.1
        uncompressedPositive := valid.2.1
        filesInRange := valid.2.2.1
        archiveCapped := valid.2.2.2.1
        uncompressedCapped := valid.2.2.2.2.1
        filesCapped := valid.2.2.2.2.2
        memberCapped := le_refl _
        pathCapped := le_refl _
        ratioCapped := le_refl _
        memberPositive := by decide
        pathPositive := by decide
        ratioPositive := by decide }
  else none

structure PackageFileRecord where
  path : String
  sizeBytes : Nat
  sha256 : String

structure PackageInspection where
  archiveSha256 : String
  contentSetSha256 : String
  compressedBytes : Nat
  uncompressedBytes : Nat
  fileCount : Nat
  files : List PackageFileRecord

inductive ExternalVerificationStatus where
  | verified
  | failed
  | unavailable

inductive NonceVerificationStatus where
  | freshReserved
  | replayed
  | unavailable

inductive MalwareScanStatus where
  | clean
  | detected
  | unavailable

inductive PackageAuthenticationKind where
  | onlineTransport
  | offlineSignature
  | offlineSubmitter
deriving DecidableEq

structure DigestVerification where
  status : ExternalVerificationStatus
  sha256 : String

structure NonceVerification where
  status : NonceVerificationStatus
  nonce : String

structure MalwareScanVerification where
  status : MalwareScanStatus
  archiveSha256 : String

structure PackageAuthenticationVerification where
  status : ExternalVerificationStatus
  kind : PackageAuthenticationKind

structure StagedObjectVerification where
  status : ExternalVerificationStatus
  organizationId : String
  assetId : String
  jobId : String
  archiveSha256 : String
  sizeBytes : Nat

structure PackageGateVerifications where
  manifestSignature : DigestVerification
  nonce : NonceVerification
  packageAuthentication : PackageAuthenticationVerification
  malwareScan : MalwareScanVerification
  contentPolicy : DigestVerification
  stagedObject : StagedObjectVerification

/-- `OnlineExternalVerifications` and `OfflineExternalVerifications`, which
have the same fields. -/
structure ExternalVerifications where
  manifestSignature : DigestVerification
  malwareScan : MalwareScanVerification
  contentPolicy : DigestVerification
  stagedObject : StagedObjectVerification

structure PackageValidationContext where
  organizationId : String
  assetId : String
  jobId : String
  endpointId : String
  receivedAt : DateTime

/-- `ValidatedPackage`, which is always eligible for promotion. -/
structure ValidatedPackage where
  packageId : String
  manifestId : String
  jobId : String
  assetId : String
  descriptorSha256 : String
  manifestContentSha256 : String
  authenticationProfile : String
  inspection : PackageInspection

/-- What the schema library answers for a catalogued schema. -/
inductive SchemaOutcome where
  | accepted
  | violated
  | unregistered
  | unresolvable

/-- The parts of package validation that are not code of the repository:
RFC 8785 serialization, SHA-256, the JSON Schema library, timestamp parsing
and the Unicode database. -/
structure PackageEnvironment where
  /-- `rfc8785.dumps`; a document without a canonical form has none. -/
  canonicalize : Json → Option (List UInt8)
  /-- The lowercase hexadecimal SHA-256 digest. -/
  sha256 : List UInt8 → String
  /-- The schema with this file name, applied to a document. -/
  schemaOutcome : String → Json → SchemaOutcome
  /-- `datetime.fromisoformat`. -/
  fromIsoformat : String → Option DateTime
  /-- `str.casefold`. -/
  casefold : String → String

/-- `canonicalize_json`, with its exception. -/
def PackageEnvironment.canonicalBytes (env : PackageEnvironment)
    (document : Json) : Except PackageError (List UInt8) :=
  match env.canonicalize document with
  | some bytes => .ok bytes
  | none => .error .canonicalization

/-- `canonical_sha256`, with its exception. -/
def PackageEnvironment.digest (env : PackageEnvironment) (document : Json) :
    Except PackageError String := do
  let bytes ← env.canonicalBytes document
  pure (env.sha256 bytes)

/-- `PackageSchemaCatalog.validate`. -/
def PackageEnvironment.validateSchema (env : PackageEnvironment)
    (instanceDocument : Json) (schemaFilename : String)
    (errorCode : PackageValidationCode) : Except PackageError Unit :=
  match env.schemaOutcome schemaFilename instanceDocument with
  | .accepted => .ok ()
  | .violated => reject errorCode "Package document failed its JSON Schema."
  | .unregistered =>
      reject .schemaCatalogInvalid
        "The required local Schema is not registered."
  | .unresolvable =>
      reject .schemaCatalogInvalid
        "A Schema reference is not present in the local catalog."

end SecAI.Package
