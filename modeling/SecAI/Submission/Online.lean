/-
Module: SecAI.Submission.Online
Purpose: The offline submissions up to the commit of their nonce, the online
  one, and all three entry points as one system over their two stores.
Trusted boundary: none
Main exports:
  OfflineService, checkSigned, checkUser, SubmissionStore, submissionSystem
-/
import SecAI.Submission.Signature
import SecAI.Credential.Service

namespace SecAI.Submission

open Package

structure OfflineUserSubmissionContext where
  authenticatedSubjectId : String
  organizationId : String
  assetId : String
  jobId : String
  receivedAt : DateTime
  sessionActive : Bool
  csrfVerified : Bool
  authorizedForAsset : Bool

/-- The arguments of the replay commit. -/
structure OfflineCommit where
  profile : String
  assuranceLevel : String
  organizationId : String
  assetId : String
  jobId : String
  nonce : String
  packageId : String
  archiveSha256 : String
  committedAt : DateTime
  authenticatedSubjectId : Option String
  certificateSha256 : Option String

/-- What the constructor of the service is given, its replay store apart. -/
structure OfflineService where
  config : ValidatorConfig
  trustStore : OfflineTrustStore

def rejectSubmission {α : Type} (code : OfflineSubmissionCode)
    (message : String) : Except OfflineError α :=
  .error (.submission code message)

def packageMapping (value : Option Json) : Except OfflineError Json :=
  match value with
  | some (.obj members) => .ok (.obj members)
  | _ =>
      liftPackage (reject .descriptorSemanticInvalid
        "Offline package object is invalid.")

def packageString (document : Json) (key : String) :
    Except OfflineError String :=
  match document.stringAt key with
  | some value => .ok value
  | none =>
      liftPackage (reject .descriptorSemanticInvalid
        "Offline package field is invalid.")

def loadDescriptor (descriptorBytes : LoadedJson) :
    Except OfflineError Json := do
  let value ← liftPackage descriptorBytes
  packageMapping (some value)

variable (env : SignatureEnvironment)

/-- The descriptor says that it is signed, with the envelope's signature. -/
def verifySignedProfile (descriptor envelope : Json) :
    Except OfflineError Unit := do
  let descriptorAuth ← packageMapping (descriptor.member "authentication")
  let envelopeSignature ← packageMapping (envelope.member "signature")
  let descriptorSignature ←
    packageMapping (descriptorAuth.member "signature")
  let profile ← packageString descriptorAuth "profile"
  let inconsistent : Except OfflineError Unit :=
    rejectSubmission .profileMismatch
      "Signed package authentication envelope is inconsistent."
  if profile ≠ "OFFLINE-SIGNED" then inconsistent
  else do
    let assuranceLevel ← packageString descriptorAuth "assurance_level"
    if assuranceLevel ∉ ["HIGH", "MEDIUM"] ∨
        descriptorSignature ≠ envelopeSignature then inconsistent
    else pure ()

/-- The fields of the payload, and where the descriptor repeats them. -/
def expectedPairs (descriptor : Json) :
    Except OfflineError (List (String × String)) := do
  let archive ← packageMapping (descriptor.member "archive")
  let assetId ← packageString descriptor "asset_id"
  let jobId ← packageString descriptor "job_id"
  let manifestId ← packageString descriptor "manifest_id"
  let manifestHash ← packageString descriptor "manifest_hash"
  let nonce ← packageString descriptor "nonce"
  let executionAttemptId ← packageString descriptor "execution_attempt_id"
  let packageId ← packageString descriptor "id"
  let archiveSha256 ← packageString archive "archive_sha256"
  let contentSetSha256 ← packageString archive "content_set_sha256"
  pure
    [("asset_id", assetId), ("job_id", jobId), ("manifest_id", manifestId),
      ("manifest_sha256", manifestHash), ("nonce", nonce),
      ("execution_attempt_id", executionAttemptId),
      ("package_id", packageId), ("archive_sha256", archiveSha256),
      ("content_set_sha256", contentSetSha256)]

def verifySignedManifest (payload : Json) (signer : VerifiedOfflineSigner)
    (manifest : Json) : Except OfflineError Unit := do
  let unbound : Except OfflineError Unit :=
    rejectSubmission .signedScopeMismatch
      "Offline signature payload is not bound to the trusted Manifest."
  let manifestId ← packageString manifest "id"
  let payloadManifestId ← packageString payload "manifest_id"
  if manifestId ≠ payloadManifestId then unbound
  else do
    let contentSha256 ← packageString manifest "manifest_content_sha256"
    let payloadSha256 ← packageString payload "manifest_sha256"
    let sameContent ← liftPackage (compareDigest contentSha256 payloadSha256)
    if sameContent = false then unbound
    else do
      let assetId ← packageString manifest "asset_id"
      if assetId ≠ signer.assetId then unbound
      else do
        let jobId ← packageString manifest "job_id"
        let payloadJobId ← packageString payload "job_id"
        if jobId ≠ payloadJobId then unbound else pure ()

def verifySignedBinding (payload : Json) (signer : VerifiedOfflineSigner)
    (descriptor manifest : Json) (envelopeBytes : EnvelopeBytes) :
    Except OfflineError Unit := do
  let loaded ← liftPackage envelopeBytes.document
  let envelope ← packageMapping (some loaded)
  verifySignedProfile descriptor envelope
  let pairs ← expectedPairs descriptor
  pairs.forM fun pair => do
    let value ← packageString payload pair.1
    if value ≠ pair.2 then
      rejectSubmission .signedScopeMismatch
        "Offline signature payload is not bound to this Package."
    else pure ()
  verifySignedManifest payload signer manifest

/-- The scope and the authentication of one offline submission. -/
structure OfflineScope where
  organizationId : String
  assetId : String
  jobId : String
  endpointId : String
  nonce : String
  receivedAt : DateTime
  profile : String
  assuranceLevel : String
  authenticationKind : PackageAuthenticationKind
  authenticatedSubjectId : Option String
  certificateSha256 : Option String

/-- `_validate_and_commit` up to the commit. -/
def validateForCommit (service : OfflineService) (archive : ArchiveFile)
    (descriptorBytes : LoadedJson) (manifest : Json) (scope : OfflineScope)
    (verifications : ExternalVerifications) :
    Except OfflineError (ValidatedPackage × OfflineCommit) := do
  let gates : PackageGateVerifications :=
    { manifestSignature := verifications.manifestSignature
      nonce := ⟨.freshReserved, scope.nonce⟩
      packageAuthentication := ⟨.verified, scope.authenticationKind⟩
      malwareScan := verifications.malwareScan
      contentPolicy := verifications.contentPolicy
      stagedObject := verifications.stagedObject }
  let context : PackageValidationContext :=
    { organizationId := scope.organizationId
      assetId := scope.assetId
      jobId := scope.jobId
      endpointId := scope.endpointId
      receivedAt := scope.receivedAt }
  let validated ← liftPackage (Package.validate env.toPackageEnvironment
    service.config archive descriptorBytes manifest context gates)
  if validated.authenticationProfile ≠ scope.profile then
    rejectSubmission .profileMismatch
      "Validated Package profile differs from the submission path."
  else
    pure (validated,
      { profile := scope.profile
        assuranceLevel := scope.assuranceLevel
        organizationId := scope.organizationId
        assetId := scope.assetId
        jobId := scope.jobId
        nonce := scope.nonce
        packageId := validated.packageId
        archiveSha256 := validated.inspection.archiveSha256
        committedAt := scope.receivedAt
        authenticatedSubjectId := scope.authenticatedSubjectId
        certificateSha256 := scope.certificateSha256 })

/-- `submit_signed` up to the commit. -/
def checkSigned (service : OfflineService) (archive : ArchiveFile)
    (descriptorBytes : LoadedJson) (trustedManifest : Json)
    (envelopeBytes : EnvelopeBytes) (receivedAt : DateTime)
    (revocation : CertificateRevocationVerification)
    (verifications : ExternalVerifications) :
    Except OfflineError (ValidatedPackage × OfflineCommit) := do
  let (payload, signer) ←
    verify env service.trustStore envelopeBytes receivedAt revocation
  let descriptor ← loadDescriptor descriptorBytes
  verifySignedBinding payload signer descriptor trustedManifest envelopeBytes
  let jobId ← packageString payload "job_id"
  let submission ← packageMapping (trustedManifest.member "submission")
  let endpointId ← packageString submission "endpoint_id"
  let nonce ← packageString payload "nonce"
  validateForCommit env service archive descriptorBytes trustedManifest
    { organizationId := signer.organizationId
      assetId := signer.assetId
      jobId := jobId
      endpointId := endpointId
      nonce := nonce
      receivedAt := receivedAt
      profile := "OFFLINE-SIGNED"
      assuranceLevel := signer.assuranceLevel
      authenticationKind := .offlineSignature
      authenticatedSubjectId := none
      certificateSha256 := some signer.certificateSha256 }
    verifications

/-- The user may submit for the scope that the descriptor and the Manifest
name. -/
def verifyUserScope (descriptor manifest : Json)
    (user : OfflineUserSubmissionContext) : Except OfflineError Unit := do
  let unauthorized : Except OfflineError Unit :=
    rejectSubmission .userScopeMismatch
      "Authenticated user is not authorized for this Asset and Job."
  if user.authorizedForAsset = false then unauthorized
  else
    [(descriptor, "asset_id", user.assetId),
      (descriptor, "job_id", user.jobId),
      (manifest, "asset_id", user.assetId),
      (manifest, "job_id", user.jobId)].forM fun entry => do
        let value ← packageString entry.1 entry.2.1
        if value ≠ entry.2.2 then unauthorized else pure ()

/-- `submit_user` up to the commit. -/
def checkUser (service : OfflineService) (archive : ArchiveFile)
    (descriptorBytes : LoadedJson) (trustedManifest : Json)
    (user : OfflineUserSubmissionContext)
    (verifications : ExternalVerifications) :
    Except OfflineError (ValidatedPackage × OfflineCommit) := do
  if user.sessionActive = false then
    rejectSubmission .userAuthRequired
      "An active authenticated session is required."
  else if user.csrfVerified = false then
    rejectSubmission .csrfRequired "CSRF verification is required."
  else do
    let descriptor ← loadDescriptor descriptorBytes
    let descriptorAuth ← packageMapping (descriptor.member "authentication")
    let profileMismatch : Except OfflineError Unit :=
      rejectSubmission .profileMismatch
        "User-submitted package profile is invalid."
    [("profile", "OFFLINE-USER-SUBMITTED"), ("assurance_level", "LOW")].forM
      fun pair => do
        let value ← packageString descriptorAuth pair.1
        if value ≠ pair.2 then profileMismatch else pure ()
    verifyUserScope descriptor trustedManifest user
    let submission ← packageMapping (trustedManifest.member "submission")
    let endpointId ← packageString submission "endpoint_id"
    let nonce ← packageString descriptor "nonce"
    validateForCommit env service archive descriptorBytes trustedManifest
      { organizationId := user.organizationId
        assetId := user.assetId
        jobId := user.jobId
        endpointId := endpointId
        nonce := nonce
        receivedAt := user.receivedAt
        profile := "OFFLINE-USER-SUBMITTED"
        assuranceLevel := "LOW"
        authenticationKind := .offlineSubmitter
        authenticatedSubjectId := some user.authenticatedSubjectId
        certificateSha256 := none }
      verifications

open Interleaving Package Credential

/-- Exceptions that leave a submission. -/
inductive SubmissionError where
  | credential (error : CredentialError)
  | package (error : PackageError)
  | offline (error : OfflineError)

/-- `OfflineSubmissionReceipt`; the nonce is not part of it. -/
structure OfflineSubmissionReceipt where
  receiptId : String
  profile : String
  assuranceLevel : String
  organizationId : String
  assetId : String
  jobId : String
  packageId : String
  archiveSha256 : String
  committedAt : DateTime
  authenticatedSubjectId : Option String
  certificateSha256 : Option String

structure AcceptedOnlineSubmission where
  validatedPackage : ValidatedPackage
  receipt : CollectorSubmissionReceipt

structure AcceptedOfflineSubmission where
  validatedPackage : ValidatedPackage
  receipt : OfflineSubmissionReceipt

/-- The credential store of the online entry point, and the set `_used` of
`InMemoryOfflineReplayStore`. -/
structure SubmissionStore where
  credentials : CredentialStore
  offlineUsed : List NonceKey

/-- A call of the credential store, or a commit of the replay store, which
holds its lock from the check to the insertion. -/
inductive SubmissionOp where
  | credential (op : CredentialOp)
  | replayCommit (commit : OfflineCommit)

@[reducible] def SubmissionOp.Resp : SubmissionOp → Type
  | .credential op => op.Resp
  | .replayCommit _ => Except OfflineError OfflineSubmissionReceipt

def OfflineCommit.nonceKey (commit : OfflineCommit) : NonceKey :=
  { organizationId := commit.organizationId
    assetId := commit.assetId
    jobId := commit.jobId
    nonce := commit.nonce }

def OfflineCommit.receipt (commit : OfflineCommit) (receiptId : String) :
    OfflineSubmissionReceipt :=
  { receiptId := receiptId
    profile := commit.profile
    assuranceLevel := commit.assuranceLevel
    organizationId := commit.organizationId
    assetId := commit.assetId
    jobId := commit.jobId
    packageId := commit.packageId
    archiveSha256 := commit.archiveSha256
    committedAt := commit.committedAt
    authenticatedSubjectId := commit.authenticatedSubjectId
    certificateSha256 := commit.certificateSha256 }

/-- The environment of the submission services. -/
structure SubmissionEnvironment where
  credential : CredentialEnvironment
  signature : SignatureEnvironment
  offline : OfflineService
  onlineConfig : ValidatorConfig

variable (env : SubmissionEnvironment)

namespace SubmissionStore

/-- `commit` of the replay store. -/
def replayCommit (store : SubmissionStore) (commit : OfflineCommit) :
    Except OfflineError OfflineSubmissionReceipt × SubmissionStore :=
  if commit.nonceKey ∈ store.offlineUsed then
    (rejectSubmission .replayed
      "Offline submission nonce was already committed.", store)
  else
    (.ok (commit.receipt (env.credential.uuid4 store.credentials.drawn)),
      { credentials :=
          { store.credentials with drawn := store.credentials.drawn + 1 }
        offlineUsed := store.offlineUsed ++ [commit.nonceKey] })

def execute (store : SubmissionStore) :
    (op : SubmissionOp) → op.Resp × SubmissionStore
  | .credential op =>
      ((store.credentials.execute env.credential op).1,
        { store with
          credentials := (store.credentials.execute env.credential op).2 })
  | .replayCommit commit => store.replayCommit env commit

end SubmissionStore

/-- Service code between calls of the stores. -/
abbrev SubmissionProgram (α : Type) :=
  Program SubmissionOp SubmissionOp.Resp SubmissionError α

/-- A program of the credential service as part of a submission. -/
def ofCredential {α : Type} (program : CredentialProgram α) :
    SubmissionProgram α :=
  program.translate SubmissionOp.credential (fun _ answer => answer)
    SubmissionError.credential

def ofPackage {α : Type} : Except PackageError α → Except SubmissionError α
  | .ok value => .ok value
  | .error error => .error (.package error)

def ofOffline {α : Type} : Except OfflineError α → Except SubmissionError α
  | .ok value => .ok value
  | .error error => .error (.offline error)

/-- The credential is not scoped to what is submitted. -/
def scopeMismatch {α : Type} (message : String) : Except SubmissionError α :=
  .error (.credential (rejection .scopeMismatch message))

/-- The trusted Manifest is the one of the credential's scope. -/
def checkScopedManifest (scope : CollectorCredentialScope)
    (trustedManifest : Json) : Except SubmissionError Unit := do
  let mismatch : Except SubmissionError Unit :=
    scopeMismatch "Collector credential is not scoped to this Manifest."
  match trustedManifest.stringAt "id",
      trustedManifest.stringAt "manifest_content_sha256",
      trustedManifest.stringAt "nonce" with
  | some manifestId, some manifestSha256, some manifestNonce =>
      if manifestId ≠ scope.manifestId then mismatch
      else do
        let sameContent ←
          ofPackage (compareDigest manifestSha256 scope.manifestSha256)
        if sameContent = false ∨ manifestNonce ≠ scope.nonce then mismatch
        else pure ()
  | _, _, _ => mismatch

/-- `submit`, between the authorization and the commit. -/
def checkOnline (scope : CollectorCredentialScope) (archive : ArchiveFile)
    (descriptorBytes : LoadedJson) (trustedManifest : Json)
    (contentType : String) (receivedAt : DateTime)
    (verifications : ExternalVerifications) :
    Except SubmissionError ValidatedPackage := do
  if contentType ≠ scope.contentType then
    scopeMismatch "Collector credential is not scoped to this content type."
  else do
    let descriptor ← ofPackage descriptorBytes
    if descriptor.member "schema_version" ≠
        some (.str scope.schemaVersion) then
      ofPackage (reject .descriptorSemanticInvalid
        "Package schema version differs from the credential scope.")
    else do
      checkScopedManifest scope trustedManifest
      if archive.sizeBytes > scope.maxArchiveBytes then
        ofPackage (reject .archiveTooLarge
          "Package archive exceeds the credential scope.")
      else do
        let context : PackageValidationContext :=
          { organizationId := scope.organizationId
            assetId := scope.assetId
            jobId := scope.jobId
            endpointId := scope.endpointId
            receivedAt := receivedAt }
        let gates : PackageGateVerifications :=
          { manifestSignature := verifications.manifestSignature
            nonce := ⟨.freshReserved, scope.nonce⟩
            packageAuthentication := ⟨.verified, .onlineTransport⟩
            malwareScan := verifications.malwareScan
            contentPolicy := verifications.contentPolicy
            stagedObject := verifications.stagedObject }
        let validated ← ofPackage (Package.validate
          env.signature.toPackageEnvironment env.onlineConfig archive
          descriptorBytes trustedManifest context gates)
        if validated.authenticationProfile ≠ "ONLINE-AUTHENTICATED" then
          ofPackage (reject .packageAuthenticationInvalid
            "Online endpoint accepts only ONLINE-AUTHENTICATED packages.")
        else pure validated

/-- `submit` of the online service. -/
def submit (token : String) (archive : ArchiveFile)
    (descriptorBytes : LoadedJson) (trustedManifest : Json)
    (contentType : String) (receivedAt : DateTime)
    (verifications : ExternalVerifications) :
    SubmissionProgram AcceptedOnlineSubmission := do
  let authorization ←
    ofCredential (authorize env.credential token receivedAt)
  let validated ← Program.lift (checkOnline env authorization.scope archive
    descriptorBytes trustedManifest contentType receivedAt verifications)
  let receipt ← ofCredential (commit env.credential token receivedAt
    validated.packageId validated.inspection.archiveSha256)
  pure ⟨validated, receipt⟩

def commitOffline (checked : Except OfflineError
    (ValidatedPackage × OfflineCommit)) :
    SubmissionProgram AcceptedOfflineSubmission := do
  let (validated, arguments) ← Program.lift (ofOffline checked)
  let outcome : Except OfflineError OfflineSubmissionReceipt ←
    Program.perform (SubmissionOp.replayCommit arguments)
  let receipt ← Program.lift (ofOffline outcome)
  pure ⟨validated, receipt⟩

/-- A request to one of the entry points, or to the credential service. -/
inductive SubmissionRequest where
  | credential (request : CredentialRequest)
  | online (token : String) (archive : ArchiveFile)
      (descriptorBytes : LoadedJson) (trustedManifest : Json)
      (contentType : String) (receivedAt : DateTime)
      (verifications : ExternalVerifications)
  | signed (archive : ArchiveFile) (descriptorBytes : LoadedJson)
      (trustedManifest : Json) (envelopeBytes : EnvelopeBytes)
      (receivedAt : DateTime)
      (revocation : CertificateRevocationVerification)
      (verifications : ExternalVerifications)
  | user (archive : ArchiveFile) (descriptorBytes : LoadedJson)
      (trustedManifest : Json) (submitter : OfflineUserSubmissionContext)
      (verifications : ExternalVerifications)

/-- What a request returns. -/
inductive SubmissionReply where
  | credential (reply : CredentialReply)
  | online (accepted : AcceptedOnlineSubmission)
  | offline (accepted : AcceptedOfflineSubmission)

/-- The program a request runs: `submit`, `submit_signed` and `submit_user`,
next to the requests of the credential service. -/
def SubmissionRequest.body :
    SubmissionRequest → SubmissionProgram SubmissionReply
  | .credential request => do
      let reply ← ofCredential (request.body env.credential)
      pure (.credential reply)
  | .online token archive descriptorBytes trustedManifest contentType
      receivedAt verifications => do
      let accepted ← submit env token archive descriptorBytes trustedManifest
        contentType receivedAt verifications
      pure (.online accepted)
  | .signed archive descriptorBytes trustedManifest envelopeBytes receivedAt
      revocation verifications => do
      let accepted ← commitOffline (checkSigned env.signature env.offline
        archive descriptorBytes trustedManifest envelopeBytes receivedAt
        revocation verifications)
      pure (.offline accepted)
  | .user archive descriptorBytes trustedManifest submitter
      verifications => do
      let accepted ← commitOffline (checkUser env.signature env.offline
        archive descriptorBytes trustedManifest submitter verifications)
      pure (.offline accepted)

/-- Any number of requests, interleaved at their calls of the stores. -/
def submissionSystem :
    System SubmissionStore SubmissionRequest SubmissionOp SubmissionOp.Resp
      SubmissionError SubmissionReply :=
  { execute := SubmissionStore.execute env
    body := SubmissionRequest.body env
    admits := fun _ _ => true }

/-- A started request. -/
abbrev SubmissionThread :=
  Thread SubmissionRequest SubmissionOp SubmissionOp.Resp SubmissionError
    SubmissionReply

/-- The stores and all started requests. -/
abbrev SubmissionConfig :=
  Config SubmissionStore SubmissionRequest SubmissionOp SubmissionOp.Resp
    SubmissionError SubmissionReply

end SecAI.Submission
