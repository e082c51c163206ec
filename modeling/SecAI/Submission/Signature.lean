/-
Module: SecAI.Submission.Signature
Purpose: The verification of a detached offline signature envelope against a
  pinned organization root, and what is encoded in one is decoded again.
Trusted boundary: X.509 parsing and Ed25519 verification are parameters
Main exports:
  SignatureEnvironment, OfflineTrustStore, verify, decode_encode
-/
import SecAI.Package.FullValidator
import SecAI.Common.Outcome

namespace SecAI.Submission

open Package

def offlinePackageEkuOid : String := "1.3.6.1.4.1.55555.1.1"

def maxOfflineEnvelopeBytes : Nat := 64 * 1024

def maxRevocationAge : Int := hours 24

inductive OfflineSignatureCode where
  | envelopeTooLarge
  | envelopeInvalid
  | timeInvalid
  | certificateInvalid
  | certificateUntrusted
  | certificateWrongEku
  | certificateSubjectMismatch
  | certificateRevoked
  | revocationUnavailable
  | signatureInvalid
  | payloadScopeMismatch
deriving DecidableEq

inductive OfflineSubmissionCode where
  | userAuthRequired
  | csrfRequired
  | userScopeMismatch
  | profileMismatch
  | signedScopeMismatch
  | replayed
deriving DecidableEq

/-- Exceptions that leave an offline submission. -/
inductive OfflineError where
  | signature (code : OfflineSignatureCode) (message : String)
  | submission (code : OfflineSubmissionCode) (message : String)
  | package (error : PackageError)
deriving DecidableEq

/-- An exception of the package validators passes through. -/
def liftPackage {α : Type} : Except PackageError α → Except OfflineError α
  | .ok value => .ok value
  | .error error => .error (.package error)

theorem liftPackage_eq_ok {α : Type} {outcome : Except PackageError α}
    {value : α} : liftPackage outcome = .ok value ↔ outcome = .ok value := by
  cases outcome <;> simp [liftPackage]

def rejectSignature {α : Type} (code : OfflineSignatureCode)
    (message : String) : Except OfflineError α :=
  .error (.signature code message)

inductive CertificateRevocationStatus where
  | good
  | revoked
  | unavailable

structure CertificateRevocationVerification where
  status : CertificateRevocationStatus
  certificateSha256 : String
  checkedAt : DateTime
  sourceVersion : String

structure VerifiedOfflineSigner where
  organizationId : String
  assetId : String
  certificateSha256 : String
  trustAnchorSha256 : String
  keyId : String
  payloadSha256 : String
  assuranceLevel : String

/-- What the checks read of a parsed certificate.  An absent extension is
`none`, and so is a key that is not an Ed25519 key. -/
structure Certificate where
  der : List UInt8
  issuer : String
  subject : String
  organizationNames : List String
  ed25519Key : Option (List UInt8)
  signature : List UInt8
  tbsCertificateBytes : List UInt8
  notValidBefore : DateTime
  notValidAfter : DateTime
  basicConstraintsCa : Option Bool
  keyUsageCertSign : Option Bool
  keyUsageDigitalSignature : Option Bool
  extendedKeyUsage : Option (List String)
  subjectAlternativeUris : Option (List String)
deriving DecidableEq

/-- The cryptography library. -/
structure SignatureEnvironment extends PackageEnvironment where
  /-- `x509.load_der_x509_certificate`. -/
  loadDerCertificate : List UInt8 → Option Certificate
  /-- `Ed25519PublicKey.verify` of a signature and a message. -/
  ed25519Verify : List UInt8 → List UInt8 → List UInt8 → Bool

/-- The envelope bytes: their number and what `load_strict_json` makes of
them. -/
structure EnvelopeBytes where
  length : Nat
  document : LoadedJson

def envelopeMapping (value : Option Json) : Except OfflineError Json :=
  match value with
  | some (.obj members) => .ok (.obj members)
  | _ => rejectSignature .envelopeInvalid "Offline envelope object is invalid."

def envelopeString (document : Json) (key : String) :
    Except OfflineError String :=
  match document.stringAt key with
  | some value => .ok value
  | none => rejectSignature .envelopeInvalid "Offline envelope field is invalid."

/-- `hmac.compare_digest` of two strings, which have to be ASCII. -/
def compareDigest (first second : String) : Except PackageError Bool :=
  if (first.toList ++ second.toList).all fun character =>
      decide (character.toNat < 128) then
    .ok (decide (first = second))
  else .error (.builtin "TypeError")

/-! ## `base64.b64decode(text, altchars=b"-_", validate=True)` -/

/-- The value of a character; both spellings of the last two are read. -/
def base64Value (character : Char) : Option Nat :=
  if 'A' ≤ character ∧ character ≤ 'Z' then some (character.toNat - 65)
  else if 'a' ≤ character ∧ character ≤ 'z' then some (character.toNat - 71)
  else if '0' ≤ character ∧ character ≤ '9' then some (character.toNat + 4)
  else if character = '+' ∨ character = '-' then some 62
  else if character = '/' ∨ character = '_' then some 63
  else none

/-- The strict decoder: `quad` is the position in the current group of four,
`left` the bits not yet written, `pads` the padding seen. -/
def decodeStrict (quad left pads : Nat) : List Char → Option (List UInt8)
  | [] => if quad = 0 then some [] else none
  | '=' :: rest =>
      if quad = 0 then none
      else if 2 ≤ quad ∧ 4 ≤ quad + (pads + 1) then
        if rest = [] then some [] else none
      else decodeStrict quad left (pads + 1) rest
  | character :: rest =>
      match base64Value character with
      | none => none
      | some value =>
          if pads ≠ 0 then none
          else
            let next := fun left => decodeStrict ((quad + 1) % 4) left 0 rest
            if quad = 0 then next value
            else if quad = 1 then
              (next (value % 16)).map
                (UInt8.ofNat (left * 4 + value / 16) :: ·)
            else if quad = 2 then
              (next (value % 4)).map
                (UInt8.ofNat (left * 16 + value / 4) :: ·)
            else (next 0).map (UInt8.ofNat (left * 64 + value) :: ·)

def decodeBase64url (value : String) : Except OfflineError (List UInt8) :=
  let padded := value.toList ++
    List.replicate ((4 - value.toList.length % 4) % 4) '='
  match decodeStrict 0 0 0 padded with
  | some bytes => .ok bytes
  | none =>
      rejectSignature .envelopeInvalid
        "Offline envelope base64url field is invalid."

/-! ## Certificates -/

variable (env : SignatureEnvironment)

def envelopeTimestamp (document : Json) (key : String) :
    Except OfflineError DateTime := do
  let value ← envelopeString document key
  match env.fromIsoformat (removeSuffix "Z" value ++ "+00:00") with
  | some parsed => .ok parsed
  | none =>
      rejectSignature .envelopeInvalid
        "Offline envelope timestamp is invalid."

def certificate (value : String) : Except OfflineError Certificate := do
  let der ← decodeBase64url value
  match env.loadDerCertificate der with
  | some parsed => .ok parsed
  | none =>
      rejectSignature .certificateInvalid
        "Offline certificate cannot be parsed."

/-- Verification under the Ed25519 key of a certificate.  The refusal of
another kind of key is a `ValueError`, so the callers take it for a failed
verification. -/
def verifiedBy (signer : Certificate) (signature message : List UInt8) :
    Bool :=
  match signer.ed25519Key with
  | some key => env.ed25519Verify key signature message
  | none => false

def extension {α : Type} : Option α → Except OfflineError α
  | some value => .ok value
  | none =>
      rejectSignature .certificateInvalid
        "A required offline certificate extension is missing."

def verifyChain (leaf root : Certificate) (receivedAt : DateTime) :
    Except OfflineError Unit := do
  if leaf.issuer ≠ root.subject ∨ root.issuer ≠ root.subject then
    rejectSignature .certificateInvalid
      "Offline certificate issuer chain is invalid."
  else if verifiedBy env root root.signature root.tbsCertificateBytes =
        false ∨
      verifiedBy env root leaf.signature leaf.tbsCertificateBytes = false then
    rejectSignature .certificateInvalid
      "Offline certificate chain signature is invalid."
  else if ¬(root.notValidBefore ≤ receivedAt ∧
      receivedAt ≤ root.notValidAfter ∧ leaf.notValidBefore ≤ receivedAt ∧
      receivedAt ≤ leaf.notValidAfter) then
    rejectSignature .certificateInvalid
      "Offline certificate is outside its validity period."
  else do
    let rootCa ← extension root.basicConstraintsCa
    let leafCa ← extension leaf.basicConstraintsCa
    let leafSigns ← extension leaf.keyUsageDigitalSignature
    let rootCertifies ← extension root.keyUsageCertSign
    if rootCa = false ∨ rootCertifies = false ∨ leafCa = true ∨
        leafSigns = false then
      rejectSignature .certificateInvalid
        "Offline certificate constraints are invalid."
    else do
      let usages ← extension leaf.extendedKeyUsage
      if offlinePackageEkuOid ∉ usages then
        rejectSignature .certificateWrongEku
          "Offline certificate is not authorized for package signing."
      else pure ()

def verifySubject (leaf : Certificate) (organizationId assetId : String) :
    Except OfflineError Unit := do
  let uris ← extension leaf.subjectAlternativeUris
  if leaf.organizationNames ≠ [organizationId] ∨
      uris ≠ ["urn:secai:asset:" ++ assetId] then
    rejectSignature .certificateSubjectMismatch
      "Offline certificate is not bound to this organization and Asset."
  else pure ()

def verifyRevocation (certificateSha256 : String) (receivedAt : DateTime)
    (revocation : CertificateRevocationVerification) :
    Except OfflineError Unit := do
  let sameCertificate ← liftPackage
    (compareDigest revocation.certificateSha256 certificateSha256)
  if sameCertificate = false ∨ revocation.checkedAt > receivedAt ∨
      receivedAt - revocation.checkedAt > maxRevocationAge then
    rejectSignature .revocationUnavailable
      "Offline revocation proof is not bound to this certificate and time."
  else
    match revocation.status with
    | .unavailable =>
        rejectSignature .revocationUnavailable
          "Offline revocation status is unavailable."
    | .revoked =>
        rejectSignature .certificateRevoked "Offline certificate was revoked."
    | .good => pure ()

/-- `OfflineTrustStore`: the pinned roots, by fingerprint. -/
abbrev OfflineTrustStore := List Certificate

def OfflineTrustStore.get (roots : OfflineTrustStore) (fingerprint : String) :
    Option Certificate :=
  roots.reverse.find? fun root => decide (env.sha256 root.der = fingerprint)

/-- The root of the chain, which has to be one of the pinned roots. -/
def pinnedRoot (trustStore : OfflineTrustStore) (signer : Json) :
    Except OfflineError Certificate := do
  match signer.member "chain_der_base64url" with
  | some (.arr [rootValue]) =>
      match rootValue with
      | .str text => do
          let root ← certificate env text
          match trustStore.get env (env.sha256 root.der) with
          | none =>
              rejectSignature .certificateUntrusted
                "Offline certificate root is not pinned."
          | some trusted =>
              if trusted.der ≠ root.der then
                rejectSignature .certificateUntrusted
                  "Offline certificate root is not pinned."
              else pure root
      | _ =>
          rejectSignature .certificateInvalid "Root certificate is invalid."
  | _ =>
      rejectSignature .certificateInvalid
        "Offline certificate chain must contain one organization root."

def loadEnvelope (envelopeBytes : EnvelopeBytes) : Except OfflineError Json :=
  let failed (error : PackageError) : Except OfflineError Json :=
    match error with
    | .rejected .. =>
        rejectSignature .envelopeInvalid
          "Offline envelope failed strict JSON or Schema validation."
    | other => .error (.package other)
  match envelopeBytes.document with
  | .error error => failed error
  | .ok envelope =>
      if envelope.isObject = false then
        rejectSignature .envelopeInvalid "Offline envelope must be an object."
      else
        match env.validateSchema envelope
            "offline_signature_envelope.schema.json"
            .descriptorSchemaInvalid with
        | .error error => failed error
        | .ok () => .ok envelope

def verifyEnvelopeTime (payload : Json) (receivedAt : DateTime) :
    Except OfflineError Unit := do
  let issuedAt ← envelopeTimestamp env payload "issued_at"
  let expiresAt ← envelopeTimestamp env payload "expires_at"
  if expiresAt ≤ issuedAt ∨ receivedAt < issuedAt ∨
      receivedAt > expiresAt then
    rejectSignature .timeInvalid
      "Offline signature envelope is not currently valid."
  else pure ()

/-- The digest and the signature over the payload; the result is the digest. -/
def verifyPayloadSignature (leaf : Certificate) (payload signature : Json) :
    Except OfflineError String := do
  let payloadSha256 ← liftPackage (env.digest payload)
  let signed ← envelopeString signature "signed_sha256"
  let sameDigest ← liftPackage (compareDigest signed payloadSha256)
  if sameDigest = false then
    rejectSignature .signatureInvalid
      "Offline signature digest is mismatched."
  else do
    let value ← envelopeString signature "value"
    let signatureBytes ← decodeBase64url value
    let message ← liftPackage (env.canonicalBytes payload)
    if verifiedBy env leaf signatureBytes message = false then
      rejectSignature .signatureInvalid
        "Offline package signature verification failed."
    else pure payloadSha256

/-- `verify`: the signed payload and who signed it. -/
def verify (trustStore : OfflineTrustStore) (envelopeBytes : EnvelopeBytes)
    (receivedAt : DateTime)
    (revocation : CertificateRevocationVerification) :
    Except OfflineError (Json × VerifiedOfflineSigner) := do
  if envelopeBytes.length > maxOfflineEnvelopeBytes then
    rejectSignature .envelopeTooLarge "Offline envelope is too large."
  else do
    let envelope ← loadEnvelope env envelopeBytes
    match envelope.member "payload" with
    | none => .error (.package (.builtin "KeyError"))
    | some payload => do
        let signer ← envelopeMapping (envelope.member "signer")
        let signature ← envelopeMapping (envelope.member "signature")
        verifyEnvelopeTime env payload receivedAt
        let leafText ← envelopeString signer "leaf_certificate_der_base64url"
        let leaf ← certificate env leafText
        let root ← pinnedRoot env trustStore signer
        let leafSha256 := env.sha256 leaf.der
        let rootSha256 := env.sha256 root.der
        verifyChain env leaf root receivedAt
        let signerClaim ← envelopeString signer "certificate_sha256"
        let signatureClaim ← envelopeString signature "certificate_sha256"
        [signerClaim, signatureClaim].forM fun claim => do
          let agrees ← liftPackage (compareDigest claim leafSha256)
          if agrees = false then
            rejectSignature .certificateInvalid
              "Offline certificate digest is mismatched."
          else pure ()
        verifyRevocation leafSha256 receivedAt revocation
        let organizationId ← envelopeString payload "organization_id"
        let assetId ← envelopeString payload "asset_id"
        verifySubject leaf organizationId assetId
        let payloadSha256 ← verifyPayloadSignature env leaf payload signature
        let keyId ← envelopeString signature "key_id"
        pure (payload,
          { organizationId := organizationId
            assetId := assetId
            certificateSha256 := leafSha256
            trustAnchorSha256 := rootSha256
            keyId := keyId
            payloadSha256 := payloadSha256
            assuranceLevel := "MEDIUM" })

end SecAI.Submission

namespace SecAI.Submission

open Package Outcome

/-! ## `base64.urlsafe_b64encode` -/

def base64Char (value : Nat) : Char :=
  if value < 26 then Char.ofNat (value + 65)
  else if value < 52 then Char.ofNat (value + 71)
  else if value < 62 then Char.ofNat (value - 4)
  else if value = 62 then '-'
  else '_'

/-- The characters of the bytes, three by three, without the padding. -/
def base64Chars : List UInt8 → List Char
  | [] => []
  | [first] =>
      [base64Char (first.toNat / 4), base64Char (first.toNat % 4 * 16)]
  | [first, second] =>
      [base64Char (first.toNat / 4),
        base64Char (first.toNat % 4 * 16 + second.toNat / 16),
        base64Char (second.toNat % 16 * 4)]
  | first :: second :: third :: rest =>
      base64Char (first.toNat / 4) ::
        base64Char (first.toNat % 4 * 16 + second.toNat / 16) ::
        base64Char (second.toNat % 16 * 4 + third.toNat / 64) ::
        base64Char (third.toNat % 64) :: base64Chars rest

/-- `_b64url`. -/
def encodeBase64url (bytes : List UInt8) : String :=
  String.ofList (base64Chars bytes)

theorem base64Char_spec : ∀ value : Fin 64,
    base64Value (base64Char value) = some value.1 ∧
      base64Char value ≠ '=' := by
  decide

theorem decodeStrict_char (quad left value : Nat) (rest : List Char)
    (bound : value < 64) :
    decodeStrict quad left 0 (base64Char value :: rest) =
      if quad = 0 then decodeStrict ((quad + 1) % 4) value 0 rest
      else if quad = 1 then
        (decodeStrict ((quad + 1) % 4) (value % 16) 0 rest).map
          (UInt8.ofNat (left * 4 + value / 16) :: ·)
      else if quad = 2 then
        (decodeStrict ((quad + 1) % 4) (value % 4) 0 rest).map
          (UInt8.ofNat (left * 16 + value / 4) :: ·)
      else
        (decodeStrict ((quad + 1) % 4) 0 0 rest).map
          (UInt8.ofNat (left * 64 + value) :: ·) := by
  obtain ⟨isValue, notPad⟩ := base64Char_spec ⟨value, bound⟩
  rw [decodeStrict]
  · simp only [isValue]
    simp
  · exact notPad

section Quads

variable {left value : Nat} (byte : UInt8) (rest : List Char)
  (bound : value < 64)

include bound

theorem decodeStrict_first :
    decodeStrict 0 left 0 (base64Char value :: rest) =
      decodeStrict 1 value 0 rest := by
  rw [decodeStrict_char _ _ _ _ bound, if_pos rfl]

theorem decodeStrict_second (same : left * 4 + value / 16 = byte.toNat) :
    decodeStrict 1 left 0 (base64Char value :: rest) =
      (decodeStrict 2 (value % 16) 0 rest).map (byte :: ·) := by
  rw [decodeStrict_char _ _ _ _ bound, same, UInt8.ofNat_toNat]
  rfl

theorem decodeStrict_third (same : left * 16 + value / 4 = byte.toNat) :
    decodeStrict 2 left 0 (base64Char value :: rest) =
      (decodeStrict 3 (value % 4) 0 rest).map (byte :: ·) := by
  rw [decodeStrict_char _ _ _ _ bound, same, UInt8.ofNat_toNat]
  rfl

theorem decodeStrict_fourth (same : left * 64 + value = byte.toNat) :
    decodeStrict 3 left 0 (base64Char value :: rest) =
      (decodeStrict 0 0 0 rest).map (byte :: ·) := by
  rw [decodeStrict_char _ _ _ _ bound, same, UInt8.ofNat_toNat]
  rfl

end Quads

def base64Padding (bytes : List UInt8) : List Char :=
  List.replicate ((3 - bytes.length % 3) % 3) '='

theorem base64Chars_padding (bytes : List UInt8) :
    List.replicate ((4 - (base64Chars bytes).length % 4) % 4) '=' =
      base64Padding bytes := by
  unfold base64Padding
  congr 1
  induction bytes using base64Chars.induct with
  | case1 => rfl
  | case2 => rfl
  | case3 => rfl
  | case4 first second third rest ih =>
      simp only [base64Chars, List.length_cons]
      omega

theorem decodeStrict_base64Chars (bytes : List UInt8) (left : Nat) :
    decodeStrict 0 left 0 (base64Chars bytes ++ base64Padding bytes) =
      some bytes := by
  induction bytes using base64Chars.induct generalizing left with
  | case1 => rfl
  | case2 first =>
      have small := first.toNat_lt
      simp only [base64Chars, List.cons_append, List.nil_append]
      rw [decodeStrict_first _ (by omega),
        decodeStrict_second first _ (by omega) (by omega)]
      rfl
  | case3 first second =>
      have small := first.toNat_lt
      have smallSecond := second.toNat_lt
      simp only [base64Chars, List.cons_append, List.nil_append]
      rw [decodeStrict_first _ (by omega),
        decodeStrict_second first _ (by omega) (by omega),
        decodeStrict_third second _ (by omega) (by omega)]
      rfl
  | case4 first second third rest ih =>
      have small := first.toNat_lt
      have smallSecond := second.toNat_lt
      have smallThird := third.toNat_lt
      have samePadding : base64Padding (first :: second :: third :: rest) =
          base64Padding rest := by
        unfold base64Padding
        congr 1
        simp only [List.length_cons]
        omega
      simp only [base64Chars, List.cons_append, samePadding]
      rw [decodeStrict_first _ (by omega),
        decodeStrict_second first _ (by omega) (by omega),
        decodeStrict_third second _ (by omega) (by omega),
        decodeStrict_fourth third _ (by omega) (by omega),
        ih]
      rfl

theorem decode_encode (bytes : List UInt8) :
    decodeBase64url (encodeBase64url bytes) = .ok bytes := by
  unfold decodeBase64url encodeBase64url
  simp only [String.toList_ofList]
  rw [base64Chars_padding, decodeStrict_base64Chars]
/-! ## Envelopes that verify -/

section Envelopes

variable {signatureEnv : SignatureEnvironment} {der : List UInt8}

theorem envelopeString_eq_ok {document : Json} {key value : String}
    (found : document.stringAt key = some value) :
    envelopeString document key = .ok value := by
  unfold envelopeString
  rw [found]

theorem certificate_encode {parsed : Certificate}
    (loaded : signatureEnv.loadDerCertificate der = some parsed) :
    certificate signatureEnv (encodeBase64url der) = .ok parsed := by
  unfold certificate
  refine bind_eq_ok.mpr ⟨der, decode_encode der, ?_⟩
  rw [loaded]

theorem pinnedRoot_encode {trustStore : OfflineTrustStore} {signer : Json}
    {root : Certificate}
    (chain : signer.member "chain_der_base64url" =
      some (.arr [.str (encodeBase64url der)]))
    (loaded : signatureEnv.loadDerCertificate der = some root)
    (pinned : OfflineTrustStore.get signatureEnv trustStore
      (signatureEnv.sha256 root.der) = some root) :
    pinnedRoot signatureEnv trustStore signer = .ok root := by
  unfold pinnedRoot
  rw [chain]
  refine bind_eq_ok.mpr ⟨root, certificate_encode loaded, ?_⟩
  rw [pinned]
  exact if_neg (not_not.mpr rfl)

theorem verifyPayloadSignature_encode {leaf : Certificate}
    {payload signature : Json} {payloadSha256 : String}
    {signatureBytes message : List UInt8}
    (canonical : signatureEnv.canonicalBytes payload = .ok message)
    (digest : signatureEnv.sha256 message = payloadSha256)
    (ascii : compareDigest payloadSha256 payloadSha256 = .ok true)
    (signedDigest : signature.stringAt "signed_sha256" = some payloadSha256)
    (value : signature.stringAt "value" =
      some (encodeBase64url signatureBytes))
    (verified : verifiedBy signatureEnv leaf signatureBytes message = true) :
    verifyPayloadSignature signatureEnv leaf payload signature =
      .ok payloadSha256 := by
  unfold verifyPayloadSignature
  refine bind_eq_ok.mpr ⟨payloadSha256, ?_, ?_⟩
  · rw [liftPackage_eq_ok, PackageEnvironment.digest]
    exact bind_eq_ok.mpr ⟨message, canonical, by rw [digest]; rfl⟩
  · refine bind_eq_ok.mpr ⟨payloadSha256, envelopeString_eq_ok signedDigest,
      ?_⟩
    refine bind_eq_ok.mpr ⟨true, liftPackage_eq_ok.mpr ascii, ?_⟩
    rw [if_neg Bool.true_eq_false.mp]
    refine bind_eq_ok.mpr ⟨_, envelopeString_eq_ok value, ?_⟩
    refine bind_eq_ok.mpr ⟨_, decode_encode signatureBytes, ?_⟩
    refine bind_eq_ok.mpr ⟨message, liftPackage_eq_ok.mpr canonical, ?_⟩
    rw [verified]
    rfl

end Envelopes

end SecAI.Submission
