/-
Module: SecAI.Credential.Service
Purpose: The collector credential store, its atomic calls and what one of them
  does to a record, and the service operations as programs over them.
Trusted boundary: the keyed hash and the Unicode database are parameters
Main exports:
  CredentialStore, CredentialOp, checkRecordState, issue, commit_cases
-/
import SecAI.Common.Table
import SecAI.Common.Values
import SecAI.Credential.Token
import SecAI.Interleaving.System

namespace SecAI.Credential

open Interleaving

def maxFailedAttempts : Nat := 5

def maxCredentialTtl : Int := hours 2

structure CollectorCredentialScope where
  organizationId : String
  assetId : String
  jobId : String
  manifestId : String
  manifestSha256 : String
  nonce : String
  endpointId : String
  contentType : String
  schemaVersion : String
  maxArchiveBytes : Nat
deriving DecidableEq

structure CollectorCredentialRecord where
  credentialId : String
  scope : CollectorCredentialScope
  tokenHash : String
  hashKeyVersion : String
  issuedAt : DateTime
  expiresAt : DateTime
  failedAttempts : Nat
  usedAt : Option DateTime
  revokedAt : Option DateTime
  receiptId : Option String
deriving DecidableEq

structure IssuedCollectorCredential where
  credentialId : String
  token : String
  scope : CollectorCredentialScope
  issuedAt : DateTime
  expiresAt : DateTime

structure AuthorizedCollectorCredential where
  credentialId : String
  scope : CollectorCredentialScope
  expiresAt : DateTime

structure CollectorSubmissionReceipt where
  receiptId : String
  credentialId : String
  organizationId : String
  assetId : String
  jobId : String
  manifestId : String
  packageId : String
  archiveSha256 : String
  committedAt : DateTime

def CollectorCredentialRecord.committed (record : CollectorCredentialRecord)
    (receivedAt : DateTime) (receiptId : String) : CollectorCredentialRecord :=
  { record with usedAt := some receivedAt, receiptId := some receiptId }

/-- What one nonce is used for. -/
structure NonceKey where
  organizationId : String
  assetId : String
  jobId : String
  nonce : String
deriving DecidableEq

def CollectorCredentialScope.nonceKey (scope : CollectorCredentialScope) :
    NonceKey :=
  { organizationId := scope.organizationId
    assetId := scope.assetId
    jobId := scope.jobId
    nonce := scope.nonce }

/-- `InMemoryCollectorCredentialStore`.  `drawn` counts how often the process
random source has been read. -/
structure CredentialStore where
  records : List CollectorCredentialRecord
  usedNonces : List NonceKey
  drawn : Nat

/-- The parts of the service that are not calls of the store. -/
structure CredentialEnvironment extends UnicodeDigits where
  /-- The hexadecimal HMAC-SHA-256 of an ASCII token. -/
  keyedHash : String → String
  hashKeyVersion : String
  uuid4 : Nat → String
  tokenUrlsafe : Nat → String

def rejection (code : CollectorCredentialCode) (message : String) :
    CredentialError :=
  .credential code message

def checkRecordState (record : CollectorCredentialRecord)
    (receivedAt : DateTime) : Except CredentialError Unit :=
  if record.revokedAt.isSome then
    .error (rejection .revoked "Collector credential was revoked.")
  else if record.usedAt.isSome then
    .error (rejection .alreadyUsed
      "Collector credential was already committed.")
  else if record.failedAttempts ≥ maxFailedAttempts then
    .error (rejection .attemptsExceeded
      "Collector credential attempt limit was reached.")
  else if receivedAt > record.expiresAt then
    .error (rejection .expired "Collector credential has expired.")
  else .ok ()

def invalidCredential : CredentialError :=
  rejection .invalid "Collector credential is invalid."

/-! ## The store -/

/-- One call of the store, under its lock, or one read of the random
source. -/
inductive CredentialOp where
  | insert (record : CollectorCredentialRecord)
  | get (credentialId : String)
  | replace (record : CollectorCredentialRecord)
  | commit (credentialId tokenHash : String) (receivedAt : DateTime)
      (packageId archiveSha256 : String)
  | draw

/-- What each call answers; an exception of the call is part of the answer. -/
@[reducible] def CredentialOp.Resp : CredentialOp → Type
  | .insert _ | .replace _ => Except CredentialError Unit
  | .get _ => Option CollectorCredentialRecord
  | .commit .. => Except CredentialError CollectorSubmissionReceipt
  | .draw => Nat

namespace CredentialStore

/-- `self._records.get(credential_id)`. -/
def record (store : CredentialStore) (credentialId : String) :
    Option CollectorCredentialRecord :=
  Table.lookup CollectorCredentialRecord.credentialId credentialId
    store.records

/-- `self._records[record.credential_id] = record`, for a known key. -/
def put (store : CredentialStore) (record : CollectorCredentialRecord) :
    CredentialStore :=
  { store with
    records := Table.updateWhere
      (fun row => decide (row.credentialId = record.credentialId))
      (fun _ => record) store.records }

def receipt (record : CollectorCredentialRecord) (receiptId packageId
    archiveSha256 : String) (receivedAt : DateTime) :
    CollectorSubmissionReceipt :=
  { receiptId := receiptId
    credentialId := record.credentialId
    organizationId := record.scope.organizationId
    assetId := record.scope.assetId
    jobId := record.scope.jobId
    manifestId := record.scope.manifestId
    packageId := packageId
    archiveSha256 := archiveSha256
    committedAt := receivedAt }

variable (env : CredentialEnvironment)

/-- `commit` of the store. -/
def commit (store : CredentialStore) (credentialId tokenHash : String)
    (receivedAt : DateTime) (packageId archiveSha256 : String) :
    Except CredentialError CollectorSubmissionReceipt × CredentialStore :=
  match store.record credentialId with
  | none => (.error invalidCredential, store)
  | some record =>
      if record.tokenHash ≠ tokenHash then (.error invalidCredential, store)
      else
        match checkRecordState record receivedAt with
        | .error error => (.error error, store)
        | .ok () =>
            if record.scope.nonceKey ∈ store.usedNonces then
              (.error (rejection .nonceReplayed
                "Collector submission nonce was already committed."), store)
            else
              let receiptId := env.uuid4 store.drawn
              (.ok (receipt record receiptId packageId archiveSha256
                receivedAt),
                { store.put (record.committed receivedAt receiptId) with
                  usedNonces := store.usedNonces ++ [record.scope.nonceKey]
                  drawn := store.drawn + 1 })

def execute (store : CredentialStore) :
    (op : CredentialOp) → op.Resp × CredentialStore
  | .insert record =>
      match store.record record.credentialId with
      | some _ => (.error (.value "Credential ID already exists."), store)
      | none => (.ok (), { store with records := store.records ++ [record] })
  | .get credentialId => (store.record credentialId, store)
  | .replace record =>
      match store.record record.credentialId with
      | none => (.error (.value "Credential does not exist."), store)
      | some _ => (.ok (), store.put record)
  | .commit credentialId tokenHash receivedAt packageId archiveSha256 =>
      store.commit env credentialId tokenHash receivedAt packageId
        archiveSha256
  | .draw => (store.drawn, { store with drawn := store.drawn + 1 })

end CredentialStore

/-! ## The service -/

/-- Service code between calls of the store. -/
abbrev CredentialProgram (α : Type) :=
  Program CredentialOp CredentialOp.Resp CredentialError α

/-- A call of the store in service code. -/
abbrev call (op : CredentialOp) : CredentialProgram op.Resp :=
  Program.perform op

variable (env : CredentialEnvironment)

def tokenHash (token : String) : Except CredentialError String :=
  if token.toList.all fun character => decide (character.toNat < 128) then
    .ok (env.keyedHash token)
  else .error .unicodeEncode

def issue (scope : CollectorCredentialScope) (issuedAt : DateTime)
    (ttl : Int) : CredentialProgram IssuedCollectorCredential := do
  if ttl ≤ 0 ∨ ttl > maxCredentialTtl then
    .raise (.value
      "Collector credential TTL must be positive and at most two hours.")
  else do
    let credentialId := env.uuid4 (← call .draw)
    let secret := env.tokenUrlsafe (← call .draw)
    let token := credentialScheme ++ "." ++ credentialId ++ "." ++ secret
    let expiresAt := issuedAt + ttl
    let hash ← Program.lift (tokenHash env token)
    let inserted ← call (.insert
      { credentialId := credentialId
        scope := scope
        tokenHash := hash
        hashKeyVersion := env.hashKeyVersion
        issuedAt := issuedAt
        expiresAt := expiresAt
        failedAttempts := 0
        usedAt := none
        revokedAt := none
        receiptId := none })
    Program.lift inserted
    pure
      { credentialId := credentialId
        token := token
        scope := scope
        issuedAt := issuedAt
        expiresAt := expiresAt }

/-- A call that issuing a credential makes. -/
def IssueOp : CredentialOp → Prop
  | .insert _ | .draw => True
  | _ => False

theorem issue_issues (scope : CollectorCredentialScope) (issuedAt : DateTime)
    (ttl : Int) : (issue env scope issuedAt ttl).Issues IssueOp := by
  unfold issue
  split
  · trivial
  · refine .perform trivial fun _ => .perform trivial fun _ => ?_
    exact .lift fun _ _ => .perform trivial fun _ => .lift fun _ _ => trivial

/-- `_record_failure`: the record written back is the one read before. -/
def recordFailure : Option CollectorCredentialRecord → CredentialProgram Unit
  | none => pure ()
  | some record => do
      let replaced ← call (.replace
        { record with failedAttempts := record.failedAttempts + 1 })
      Program.lift replaced

def presentedFor (hash : String) :
    Option CollectorCredentialRecord → Option CollectorCredentialRecord
  | some record => if record.tokenHash = hash then some record else none
  | none => none

/-- The rest of `authorize`, once the record has been read. -/
def judgeRecord (token : String) (receivedAt : DateTime)
    (record : Option CollectorCredentialRecord) :
    CredentialProgram AuthorizedCollectorCredential := do
  let presentedHash ← Program.lift (tokenHash env token)
  match presentedFor presentedHash record with
  | none => do
      recordFailure record
      .raise invalidCredential
  | some record => do
      Program.lift (checkRecordState record receivedAt)
      pure
        { credentialId := record.credentialId
          scope := record.scope
          expiresAt := record.expiresAt }

def authorize (token : String) (receivedAt : DateTime) :
    CredentialProgram AuthorizedCollectorCredential := do
  let credentialId ← Program.lift (splitToken env.toUnicodeDigits token)
  let record ← call (.get credentialId)
  judgeRecord env token receivedAt record

/-- `commit` of the service. -/
def commit (token : String) (receivedAt : DateTime)
    (packageId archiveSha256 : String) :
    CredentialProgram CollectorSubmissionReceipt := do
  let credentialId ← Program.lift (splitToken env.toUnicodeDigits token)
  let presentedHash ← Program.lift (tokenHash env token)
  let outcome ← call (.commit credentialId presentedHash receivedAt packageId
    archiveSha256)
  Program.lift outcome

/-- `revoke`: the record written back is the one read before. -/
def revoke (credentialId : String) (revokedAt : DateTime) :
    CredentialProgram Unit := do
  match ← call (.get credentialId) with
  | none => pure ()
  | some record => do
      let replaced ← call (.replace { record with revokedAt := some revokedAt })
      Program.lift replaced

/-! ## Interleaved requests -/

/-- A request to the credential service. -/
inductive CredentialRequest where
  | issue (scope : CollectorCredentialScope) (issuedAt : DateTime) (ttl : Int)
  | authorize (token : String) (receivedAt : DateTime)
  | commit (token : String) (receivedAt : DateTime)
      (packageId archiveSha256 : String)
  | revoke (credentialId : String) (revokedAt : DateTime)

/-- What a request returns. -/
inductive CredentialReply where
  | issued (credential : IssuedCollectorCredential)
  | authorized (credential : AuthorizedCollectorCredential)
  | committed (receipt : CollectorSubmissionReceipt)
  | revoked

def CredentialRequest.body : CredentialRequest →
    CredentialProgram CredentialReply
  | .issue scope issuedAt ttl => do
      pure (.issued (← Credential.issue env scope issuedAt ttl))
  | .authorize token receivedAt => do
      pure (.authorized (← Credential.authorize env token receivedAt))
  | .commit token receivedAt packageId archiveSha256 => do
      pure (.committed (← Credential.commit env token receivedAt packageId
        archiveSha256))
  | .revoke credentialId revokedAt => do
      Credential.revoke credentialId revokedAt
      pure .revoked

/-- Any number of requests, interleaved at their calls of the store. -/
def credentialSystem :
    System CredentialStore CredentialRequest CredentialOp CredentialOp.Resp
      CredentialError CredentialReply :=
  { execute := CredentialStore.execute env
    body := CredentialRequest.body env
    admits := fun _ _ => true }

/-- A started request. -/
abbrev CredentialThread :=
  Thread CredentialRequest CredentialOp CredentialOp.Resp CredentialError
    CredentialReply

/-- The store and all started requests. -/
abbrev CredentialConfig :=
  Config CredentialStore CredentialRequest CredentialOp CredentialOp.Resp
    CredentialError CredentialReply

end SecAI.Credential

namespace SecAI.Credential

variable (env : CredentialEnvironment)

/-! ## What one call does to one record -/

def CollectorCredentialRecord.closed (record : CollectorCredentialRecord) :
    Bool :=
  record.revokedAt.isSome || record.usedAt.isSome

namespace CredentialStore

variable {store : CredentialStore} {credentialId : String}
  {row : CollectorCredentialRecord}

theorem record_put (found : store.record credentialId = some row)
    (record : CollectorCredentialRecord) :
    (store.put record).record credentialId =
      some (if record.credentialId = credentialId then record else row) := by
  have rowId : row.credentialId = credentialId := Table.lookup_key found
  have keeps : ∀ other : CollectorCredentialRecord,
      decide (other.credentialId = record.credentialId) = true →
      record.credentialId = other.credentialId := by
    intro other same
    exact (of_decide_eq_true same).symm
  have updated := Table.lookup_updateWhere
    (fun row => decide (row.credentialId = record.credentialId)) keeps
    credentialId store.records
  rw [CredentialStore.record] at found
  rw [CredentialStore.record, put, updated, found, Option.map_some, rowId]
  by_cases same : record.credentialId = credentialId
  · rw [if_pos same, if_pos (decide_eq_true same.symm)]
  · rw [if_neg same, if_neg (by simpa using Ne.symm same)]

theorem record_replace (found : store.record credentialId = some row)
    (record : CollectorCredentialRecord) :
    (store.execute env (.replace record)).2.record credentialId =
      some (if record.credentialId = credentialId then record else row) := by
  simp only [execute]
  split
  · next missing =>
      have different : record.credentialId ≠ credentialId := by
        intro same
        rw [same, found] at missing
        cases missing
      rw [if_neg different, found]
  · exact record_put found record

/-- A commit either is refused and changes nothing, or marks an open record
whose secret was presented. -/
theorem commit_cases (store : CredentialStore) (credentialId tokenHash : String)
    (receivedAt : DateTime) (packageId archiveSha256 : String) :
    (∃ error, store.commit env credentialId tokenHash receivedAt packageId
      archiveSha256 = (.error error, store)) ∨
    ∃ record receiptId after, store.record credentialId = some record ∧
      record.tokenHash = tokenHash ∧
      checkRecordState record receivedAt = .ok () ∧
      record.scope.nonceKey ∉ store.usedNonces ∧
      store.commit env credentialId tokenHash receivedAt packageId
        archiveSha256 = (.ok (receipt record receiptId packageId archiveSha256
          receivedAt), after) ∧
      after.records = (store.put (record.committed receivedAt receiptId)
        ).records ∧
      after.usedNonces = store.usedNonces ++ [record.scope.nonceKey] := by
  unfold commit
  split
  · exact .inl ⟨_, rfl⟩
  rename_i record found
  split
  · exact .inl ⟨_, rfl⟩
  rename_i same
  split
  · exact .inl ⟨_, rfl⟩
  rename_i checked
  split
  · exact .inl ⟨_, rfl⟩
  · next fresh =>
      exact .inr ⟨record, _, _, found, not_not.mp same, checked,
        fresh, rfl, rfl, rfl⟩

theorem open_of_checkRecordState {record : CollectorCredentialRecord}
    {receivedAt : DateTime}
    (checked : checkRecordState record receivedAt = .ok ()) :
    record.closed = false := by
  unfold checkRecordState at checked
  split at checked
  · cases checked
  rename_i notRevoked
  split at checked
  · cases checked
  · next notUsed =>
      simp only [CollectorCredentialRecord.closed, notRevoked, notUsed,
        Bool.or_self]

theorem record_insert (found : store.record credentialId = some row)
    (record : CollectorCredentialRecord) :
    (store.execute env (.insert record)).2.record credentialId = some row := by
  simp only [execute]
  split
  · exact found
  · exact Table.lookup_append_of_some found _

/-- A stored record keeps its scope through a call that writes back no other
scope. -/
theorem scope_execute (found : store.record credentialId = some row)
    (op : CredentialOp)
    (sameScope : ∀ record, op = .replace record →
      ∃ known, store.record record.credentialId = some known ∧
        known.scope = record.scope) :
    ∃ after, (store.execute env op).2.record credentialId = some after ∧
      after.scope = row.scope := by
  cases op with
  | insert record => exact ⟨row, record_insert env found record, rfl⟩
  | get other => exact ⟨row, found, rfl⟩
  | replace record =>
      have written := record_replace env found record
      obtain ⟨known, foundKnown, sameKnown⟩ := sameScope record rfl
      by_cases same : record.credentialId = credentialId
      · rw [if_pos same] at written
        rw [same, found] at foundKnown
        cases foundKnown
        exact ⟨record, written, sameKnown.symm⟩
      · rw [if_neg same] at written
        exact ⟨row, written, rfl⟩
  | commit committed tokenHash receivedAt packageId archiveSha256 =>
      simp only [execute]
      rcases commit_cases env store committed tokenHash receivedAt packageId
          archiveSha256 with
        ⟨error, refused⟩ | ⟨record, receiptId, after, foundRecord, -, -, -,
          accepted, sameRecords, -⟩
      · rw [refused]
        exact ⟨row, found, rfl⟩
      · rw [accepted]
        have written := record_put found
          (record.committed receivedAt receiptId)
        by_cases same : record.credentialId = credentialId
        · have sameRow : record = row := by
            rw [← Table.lookup_key foundRecord, same, found] at foundRecord
            exact (Option.some.inj foundRecord).symm
          rw [if_pos (by exact same)] at written
          refine ⟨record.committed receivedAt receiptId, ?_, ?_⟩
          · rw [CredentialStore.record, sameRecords]
            exact written
          · rw [sameRow]
            rfl
        · rw [if_neg (by exact same)] at written
          refine ⟨row, ?_, rfl⟩
          rw [CredentialStore.record, sameRecords]
          exact written
  | draw => exact ⟨row, found, rfl⟩

/-- A committed nonce stays committed. -/
theorem usedNonces_execute {key : NonceKey} (used : key ∈ store.usedNonces)
    (op : CredentialOp) : key ∈ (store.execute env op).2.usedNonces := by
  cases op with
  | insert record =>
      simp only [execute]
      split <;> exact used
  | get other => exact used
  | replace record =>
      simp only [execute]
      split <;> exact used
  | commit committed tokenHash receivedAt packageId archiveSha256 =>
      simp only [execute]
      rcases commit_cases env store committed tokenHash receivedAt packageId
          archiveSha256 with
        ⟨error, refused⟩ | ⟨record, receiptId, after, -, -, -, -, accepted, -,
          nonces⟩
      · rw [refused]
        exact used
      · rw [accepted]
        simp only [nonces]
        exact List.mem_append_left _ used
  | draw => exact used

end CredentialStore

end SecAI.Credential
