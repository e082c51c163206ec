/-
Module: SecAI.Submission.Replay
Purpose: How often one nonce is accepted, over every interleaving of the
  three entry points.
Trusted boundary: none
Main exports:
  acceptedOnline, acceptedOffline, accepted_once_per_replay_store
-/
import SecAI.Package.Inventory
import SecAI.Submission.Online

namespace SecAI.Submission

open Interleaving Package Credential Outcome

variable (env : SubmissionEnvironment)

/-! ## Accepted submissions of one nonce -/

def SubmissionRequest.manifestNonce : SubmissionRequest → Option String
  | .credential _ => none
  | .online _ _ _ trustedManifest _ _ _
  | .signed _ _ trustedManifest _ _ _ _
  | .user _ _ trustedManifest _ _ => trustedManifest.stringAt "nonce"

def receiptFor (key : NonceKey) (receipt : CollectorSubmissionReceipt) :
    Bool :=
  decide (receipt.organizationId = key.organizationId ∧
    receipt.assetId = key.assetId ∧ receipt.jobId = key.jobId)

def offlineReceiptFor (key : NonceKey) (receipt : OfflineSubmissionReceipt) :
    Bool :=
  decide (receipt.organizationId = key.organizationId ∧
    receipt.assetId = key.assetId ∧ receipt.jobId = key.jobId)

/-- An online submission of this organization, asset, job and nonce has been
accepted. -/
def acceptedOnline (key : NonceKey) (thread : SubmissionThread) : Bool :=
  match thread.rest with
  | .done (.online accepted) =>
      decide (thread.request.manifestNonce = some key.nonce) &&
        receiptFor key accepted.receipt
  | _ => false

/-- An offline submission, signed or by a user, of this organization, asset,
job and nonce has been accepted. -/
def acceptedOffline (key : NonceKey) (thread : SubmissionThread) : Bool :=
  match thread.rest with
  | .done (.offline accepted) =>
      decide (thread.request.manifestNonce = some key.nonce) &&
        offlineReceiptFor key accepted.receipt
  | _ => false

/-! ## What a request has seen when it calls a store -/

/-- What a request has done so far, oldest first. -/
abbrev Past := List (Event SubmissionOp SubmissionOp.Resp)

/-- The credential service read this record under this identifier. -/
def ReadRecord (past : Past) (target : String)
    (read : CollectorCredentialRecord) : Prop :=
  (⟨.credential (.get target), some read⟩ :
    Event SubmissionOp SubmissionOp.Resp) ∈ past

/-- A record is only written back with the scope it was read with; a
submission only commits the nonce of its Manifest. -/
def Justified (request : SubmissionRequest) (past : Past) :
    SubmissionOp → Prop
  | .credential (.replace record) =>
      ∃ target read, ReadRecord past target read ∧
        record.credentialId = read.credentialId ∧ record.scope = read.scope
  | .credential (.commit target ..) =>
      ∀ nonce, request.manifestNonce = some nonce →
        ∃ read, ReadRecord past target read ∧ read.scope.nonce = nonce
  | .replayCommit commit => request.manifestNonce = some commit.nonce
  | _ => True

/-- An accepted submission has the receipt of a commit it made. -/
def Receipted (past : Past) : SubmissionReply → Prop
  | .credential _ => True
  | .online accepted =>
      ∃ target tokenHash receivedAt packageId archiveSha256,
        (⟨.credential (.commit target tokenHash receivedAt packageId
          archiveSha256), .ok accepted.receipt⟩ :
          Event SubmissionOp SubmissionOp.Resp) ∈ past
  | .offline accepted =>
      ∃ commit, (⟨.replayCommit commit, .ok accepted.receipt⟩ :
        Event SubmissionOp SubmissionOp.Resp) ∈ past

def remember (past : Past) (event : Event SubmissionOp SubmissionOp.Resp) :
    Past :=
  past ++ [event]

def rememberCredential (past : Past)
    (event : Event CredentialOp CredentialOp.Resp) : Past :=
  past ++ [⟨.credential event.op, event.answer⟩]

theorem foldl_remember (history : Past) :
    history.foldl remember [] = history := by
  unfold remember
  rw [List.foldl_append_eq_append, List.nil_append]
  exact List.flatMap_singleton' history

/-! ## The credential service -/

/-- What the credential service may do within a request. -/
abbrev CredentialRespects {α : Type} (request : SubmissionRequest)
    (ensures : Past → α → Prop) (past : Past)
    (program : CredentialProgram α) : Prop :=
  program.Respects (fun past op => Justified request past (.credential op))
    rememberCredential ensures past

variable {env}

variable {request : SubmissionRequest} {past : Past}

theorem ofCredential_respects {α : Type} {ensures : Past → α → Prop}
    {program : CredentialProgram α}
    (respects : CredentialRespects request ensures past program) :
    (ofCredential program).Respects (Justified request) remember ensures
      past := by
  unfold ofCredential
  refine Program.Respects.translate ?_ ?_ respects
  · intro past op allowed
    exact allowed
  · intro past op answer
    rfl

/-- An authorization hands out the scope of a record it has read under the
identifier in the token. -/
def AuthorizedBy (credentialEnv : CredentialEnvironment) (token : String)
    (past : Past) (authorization : AuthorizedCollectorCredential) : Prop :=
  ∃ target read, splitToken credentialEnv.toUnicodeDigits token = .ok target ∧
    ReadRecord past target read ∧ authorization.scope = read.scope

theorem authorize_respects (request : SubmissionRequest)
    (credentialEnv : CredentialEnvironment) (token : String)
    (receivedAt : DateTime) (past : Past) :
    CredentialRespects request (AuthorizedBy credentialEnv token) past
      (authorize credentialEnv token receivedAt) := by
  unfold authorize
  apply Program.Respects.lift
  intro target split
  refine ⟨trivial, fun record => ?_⟩
  unfold judgeRecord
  apply Program.Respects.lift
  intro hash hashed
  cases presented : presentedFor hash record with
  | none =>
      cases record with
      | none => trivial
      | some read =>
          refine ⟨⟨target, read, List.mem_append_right _
            List.mem_cons_self, rfl, rfl⟩, fun answer => ?_⟩
          cases answer <;> trivial
  | some found =>
      have same : record = some found := by
        cases record with
        | none => cases presented
        | some read =>
            simp only [presentedFor, Option.ite_none_right_eq_some,
              Option.some.injEq] at presented
            rw [presented.2]
      subst same
      apply Program.Respects.lift
      intro checked _
      exact ⟨target, found, split, List.mem_append_right _
        List.mem_cons_self, rfl⟩

theorem commit_respects {credentialEnv : CredentialEnvironment}
    {token : String}
    (committable : ∀ nonce, request.manifestNonce = some nonce →
      ∃ target read, splitToken credentialEnv.toUnicodeDigits token =
        .ok target ∧ ReadRecord past target read ∧ read.scope.nonce = nonce)
    (receivedAt : DateTime) (packageId archiveSha256 : String) :
    CredentialRespects request (fun past receipt =>
        ∃ target tokenHash receivedAt packageId archiveSha256,
          (⟨.credential (.commit target tokenHash receivedAt packageId
            archiveSha256), .ok receipt⟩ :
            Event SubmissionOp SubmissionOp.Resp) ∈ past) past
      (commit credentialEnv token receivedAt packageId archiveSha256) := by
  unfold commit
  apply Program.Respects.lift
  intro target split
  apply Program.Respects.lift
  intro hash hashed
  refine ⟨?_, fun answer => ?_⟩
  · intro nonce sameNonce
    obtain ⟨named, read, splitNamed, found, sameScope⟩ :=
      committable nonce sameNonce
    rw [split] at splitNamed
    cases splitNamed
    exact ⟨read, found, sameScope⟩
  · cases answer with
    | error error => trivial
    | ok receipt =>
        exact ⟨target, hash, receivedAt, packageId, archiveSha256,
          List.mem_append_right _ List.mem_cons_self⟩

theorem revoke_respects (request : SubmissionRequest) (target : String)
    (revokedAt : DateTime) (past : Past) :
    CredentialRespects request (fun _ _ => True) past
      (revoke target revokedAt) := by
  refine ⟨trivial, fun record => ?_⟩
  cases record with
  | none => trivial
  | some read =>
      refine ⟨⟨target, read, List.mem_append_right _ List.mem_cons_self, rfl,
        rfl⟩, fun answer => ?_⟩
      cases answer <;> trivial

/-- No request of the credential service is a submission, so only the records
it writes back matter. -/
theorem credential_request_respects (request : CredentialRequest)
    (credentialEnv : CredentialEnvironment) (past : Past) :
    CredentialRespects (.credential request) (fun _ _ => True) past
      (request.body credentialEnv) := by
  cases request with
  | issue scope issuedAt ttl =>
      refine .bind ((Program.Respects.of_issues (issue_issues _ scope issuedAt
        ttl) ?_ past).weaken fun _ _ _ => trivial)
      intro past op allowed
      cases op with
      | insert record => trivial
      | draw => trivial
      | get target => exact allowed.elim
      | replace record => exact allowed.elim
      | commit => exact allowed.elim
  | authorize token receivedAt =>
      exact .bind ((authorize_respects _ credentialEnv token receivedAt past
        ).weaken fun _ _ _ => trivial)
  | commit token receivedAt packageId archiveSha256 =>
      refine .bind ((commit_respects ?_ receivedAt packageId archiveSha256
        ).weaken fun _ _ _ => trivial)
      intro nonce same
      cases same
  | revoke target revokedAt =>
      exact .bind ((revoke_respects _ target revokedAt past).weaken
        fun _ _ _ => trivial)

/-! ## The checks before a commit -/

variable {trustedManifest : Json}

variable {scope : CollectorCredentialScope}

theorem checkScopedManifest_nonce
    (passed : checkScopedManifest scope trustedManifest = .ok ()) :
    trustedManifest.stringAt "nonce" = some scope.nonce := by
  have refused : ∀ message, Refused (scopeMismatch message :
      Except SubmissionError Unit) := fun _ => .error _
  unfold checkScopedManifest at passed
  simp only at passed
  split at passed
  · next manifestId manifestSha256 manifestNonce _ _ found =>
      obtain ⟨-, passed⟩ := refused_or (refused _) passed
      obtain ⟨sameContent, -, passed⟩ := bind_eq_ok.mp passed
      obtain ⟨agrees, -⟩ := refused_or (refused _) passed
      rw [found, not_not.mp (not_or.mp agrees).2]
  · cases passed

variable {archive : ArchiveFile} {descriptorBytes : LoadedJson}
  {verifications : ExternalVerifications}

variable {receivedAt : DateTime}

theorem checkOnline_nonce {contentType : String}
    {validated : ValidatedPackage}
    (passed : checkOnline env scope archive descriptorBytes trustedManifest
      contentType receivedAt verifications = .ok validated) :
    trustedManifest.stringAt "nonce" = some scope.nonce := by
  unfold checkOnline at passed
  obtain ⟨-, passed⟩ := refused_or (.error _) passed
  obtain ⟨descriptor, -, passed⟩ := bind_eq_ok.mp passed
  obtain ⟨-, passed⟩ := refused_or (.error _) passed
  obtain ⟨_, inScope, -⟩ := bind_eq_ok.mp passed
  exact checkScopedManifest_nonce inScope

variable {signatureEnv : SignatureEnvironment} {service : OfflineService}
  {checked : ValidatedPackage × OfflineCommit}

theorem validateForCommit_nonce {manifest : Json} {scope : OfflineScope}
    (passed : validateForCommit signatureEnv service archive descriptorBytes
      manifest scope verifications = .ok checked) :
    manifest.stringAt "nonce" = some checked.2.nonce := by
  unfold validateForCommit at passed
  obtain ⟨validated, accepted, passed⟩ := bind_eq_ok.mp passed
  obtain ⟨-, passed⟩ := refused_or (.error _) passed
  cases passed
  obtain ⟨_, _, _, _, _, inScope, _⟩ :=
    validate_passes (liftPackage_eq_ok.mp accepted)
  exact validateManifestContext_nonce inScope

theorem checkSigned_nonce {envelopeBytes : EnvelopeBytes}
    {revocation : CertificateRevocationVerification}
    (passed : checkSigned signatureEnv service archive descriptorBytes
      trustedManifest envelopeBytes receivedAt revocation verifications =
        .ok checked) :
    trustedManifest.stringAt "nonce" = some checked.2.nonce := by
  unfold checkSigned at passed
  obtain ⟨⟨payload, signer⟩, -, passed⟩ := bind_eq_ok.mp passed
  obtain ⟨descriptor, -, passed⟩ := bind_eq_ok.mp passed
  obtain ⟨_, -, passed⟩ := bind_eq_ok.mp passed
  obtain ⟨jobId, -, passed⟩ := bind_eq_ok.mp passed
  obtain ⟨submission, -, passed⟩ := bind_eq_ok.mp passed
  obtain ⟨endpointId, -, passed⟩ := bind_eq_ok.mp passed
  obtain ⟨nonce, -, passed⟩ := bind_eq_ok.mp passed
  exact validateForCommit_nonce passed

theorem checkUser_nonce {user : OfflineUserSubmissionContext}
    (passed : checkUser signatureEnv service archive descriptorBytes
      trustedManifest user verifications = .ok checked) :
    trustedManifest.stringAt "nonce" = some checked.2.nonce := by
  unfold checkUser at passed
  obtain ⟨-, passed⟩ := refused_or (.error _) passed
  obtain ⟨-, passed⟩ := refused_or (.error _) passed
  obtain ⟨descriptor, -, passed⟩ := bind_eq_ok.mp passed
  obtain ⟨descriptorAuth, -, passed⟩ := bind_eq_ok.mp passed
  obtain ⟨_, -, passed⟩ := bind_eq_ok.mp passed
  obtain ⟨_, -, passed⟩ := bind_eq_ok.mp passed
  obtain ⟨submission, -, passed⟩ := bind_eq_ok.mp passed
  obtain ⟨endpointId, -, passed⟩ := bind_eq_ok.mp passed
  obtain ⟨nonce, -, passed⟩ := bind_eq_ok.mp passed
  exact validateForCommit_nonce passed

/-! ## Whole requests -/

theorem ofOffline_eq_ok {α : Type} {outcome : Except OfflineError α}
    {value : α} : ofOffline outcome = .ok value ↔ outcome = .ok value := by
  cases outcome <;> simp [ofOffline]

theorem submit_respects (token : String) (archive : ArchiveFile)
    (descriptorBytes : LoadedJson) (trustedManifest : Json)
    (contentType : String) (receivedAt : DateTime)
    (verifications : ExternalVerifications) :
    (submit env token archive descriptorBytes trustedManifest contentType
      receivedAt verifications).Respects
      (Justified (.online token archive descriptorBytes trustedManifest
        contentType receivedAt verifications)) remember
      (fun past accepted => Receipted past (.online accepted)) [] := by
  unfold submit
  apply Program.Respects.bind
  refine (ofCredential_respects (authorize_respects _ env.credential token
    receivedAt [])).weaken ?_
  rintro past authorization ⟨target, read, split, found, sameScope⟩
  apply Program.Respects.lift
  intro validated checked
  apply Program.Respects.bind
  have scopeNonce := checkOnline_nonce checked
  have committable : ∀ nonce,
      (SubmissionRequest.online token archive descriptorBytes trustedManifest
        contentType receivedAt verifications).manifestNonce = some nonce →
      ∃ target read,
        splitToken env.credential.toUnicodeDigits token = .ok target ∧
        ReadRecord past target read ∧ read.scope.nonce = nonce := by
    intro nonce sameNonce
    have same := scopeNonce.symm.trans sameNonce
    rw [sameScope, Option.some.injEq] at same
    exact ⟨target, read, split, found, same⟩
  refine (ofCredential_respects (commit_respects committable receivedAt
    validated.packageId validated.inspection.archiveSha256)).weaken ?_
  intro past receipt committed
  exact committed

theorem commitOffline_respects
    {checked : Except OfflineError (ValidatedPackage × OfflineCommit)}
    (nonce : ∀ value, checked = .ok value →
      request.manifestNonce = some value.2.nonce) :
    (commitOffline checked).Respects (Justified request) remember
      (fun past accepted => Receipted past (.offline accepted)) [] := by
  unfold commitOffline
  apply Program.Respects.lift
  rintro ⟨validated, arguments⟩ passed
  refine ⟨nonce _ (ofOffline_eq_ok.mp passed), fun answer => ?_⟩
  apply Program.Respects.lift
  intro receipt granted
  rw [ofOffline_eq_ok.mp granted]
  exact ⟨arguments, List.mem_append_right _ List.mem_cons_self⟩

/-- Every request keeps to what it has seen. -/
theorem body_respects (request : SubmissionRequest) :
    (request.body env).Respects (Justified request) remember Receipted
      [] := by
  cases request with
  | credential request =>
      exact .bind ((ofCredential_respects (credential_request_respects request
        env.credential [])).weaken fun _ _ _ => trivial)
  | online token archive descriptorBytes trustedManifest contentType
      receivedAt verifications =>
      exact .bind ((submit_respects token archive descriptorBytes
        trustedManifest contentType receivedAt verifications).weaken
          fun _ _ receipted => receipted)
  | signed archive descriptorBytes trustedManifest envelopeBytes receivedAt
      revocation verifications =>
      refine .bind ((commitOffline_respects ?_).weaken
        fun _ _ receipted => receipted)
      intro value passed
      exact checkSigned_nonce passed
  | user archive descriptorBytes trustedManifest submitter verifications =>
      refine .bind ((commitOffline_respects ?_).weaken
        fun _ _ receipted => receipted)
      intro value passed
      exact checkUser_nonce passed

/-! ## What has been read and committed -/

/-- A record that was read under an identifier is stored under it, with the
scope it was read with. -/
def ScopeKept (store : SubmissionStore) :
    Event SubmissionOp SubmissionOp.Resp → Prop
  | ⟨.credential (.get target), answer⟩ =>
      ∀ read, answer = some read → read.credentialId = target ∧
        ∃ current, store.credentials.record target = some current ∧
          current.scope = read.scope
  | _ => True

def onlineWeight (key : NonceKey) (request : SubmissionRequest) :
    Event SubmissionOp SubmissionOp.Resp → Nat
  | ⟨.credential (.commit ..), .ok receipt⟩ =>
      if request.manifestNonce = some key.nonce ∧
        receiptFor key receipt = true then 1 else 0
  | _ => 0

/-- How often the offline entry points committed this key. -/
def offlineWeight (key : NonceKey) (request : SubmissionRequest) :
    Event SubmissionOp SubmissionOp.Resp → Nat
  | ⟨.replayCommit _, .ok receipt⟩ =>
      if request.manifestNonce = some key.nonce ∧
        offlineReceiptFor key receipt = true then 1 else 0
  | _ => 0

/-- What holds of the stores and of everything the requests have done. -/
structure Sound (env : SubmissionEnvironment) (key : NonceKey)
    (config : SubmissionConfig) : Prop where
  walked : (submissionSystem env).Walked config
  scopes : ∀ thread ∈ config.threads, ∀ event ∈ thread.history,
    ScopeKept config.store event
  online : config.tally (onlineWeight key) ≤
    if key ∈ config.store.credentials.usedNonces then 1 else 0
  offline : config.tally (offlineWeight key) ≤
    if key ∈ config.store.offlineUsed then 1 else 0

variable {op : SubmissionOp}

variable {resume : op.Resp → SubmissionProgram SubmissionReply}

theorem justified_of_path {history : Past}
    (path : Program.Path (request.body env) history (.call op resume)) :
    Justified request history op := by
  have respects := path.respects (body_respects request)
  rw [foldl_remember] at respects
  exact respects.1

theorem receipted_of_path {history : Past} {reply : SubmissionReply}
    (path : Program.Path (request.body env) history (.done reply)) :
    Receipted history reply := by
  have respects := path.respects (body_respects request)
  rw [foldl_remember] at respects
  exact respects

variable {store : SubmissionStore}

/-- A justified call keeps the scopes of all records that were read. -/
theorem ScopeKept.execute {event : Event SubmissionOp SubmissionOp.Resp}
    (kept : ScopeKept store event)
    (read : ∀ event ∈ past, ScopeKept store event)
    (justified : Justified request past op) :
    ScopeKept (store.execute env op).2 event := by
  obtain ⟨called, answer⟩ := event
  match called with
  | .credential (.get target) =>
      intro record answered
      obtain ⟨sameId, current, found, sameScope⟩ := kept record answered
      refine ⟨sameId, ?_⟩
      cases op with
      | replayCommit commit =>
          refine ⟨current, ?_, sameScope⟩
          simp only [SubmissionStore.execute, SubmissionStore.replayCommit]
          split <;> exact found
      | credential op =>
          have writes : ∀ record, op = .replace record →
              ∃ known, store.credentials.record record.credentialId =
                some known ∧ known.scope = record.scope := by
            rintro record rfl
            obtain ⟨target, known, wasRead, sameKnown, keptScope⟩ := justified
            obtain ⟨named, stored, foundStored, same⟩ :=
              read _ wasRead known rfl
            rw [sameKnown, named]
            exact ⟨stored, foundStored, same.trans keptScope.symm⟩
          obtain ⟨after, foundAfter, sameAfter⟩ :=
            CredentialStore.scope_execute env.credential found op writes
          exact ⟨after, foundAfter, sameAfter.trans sameScope⟩
  | .credential (.insert _) | .credential (.replace _)
  | .credential (.commit ..) | .credential .draw | .replayCommit _ => trivial

theorem scopeKept_answer (store : SubmissionStore) (op : SubmissionOp) :
    ScopeKept (store.execute env op).2 ⟨op, (store.execute env op).1⟩ := by
  match op with
  | .credential (.get target) =>
      intro read answered
      exact ⟨Table.lookup_key answered, read, answered, rfl⟩
  | .credential (.insert _) | .credential (.replace _)
  | .credential (.commit ..) | .credential .draw | .replayCommit _ => trivial

/-- The online entry point commits a key that was not committed. -/
theorem onlineWeight_execute (key : NonceKey)
    (read : ∀ event ∈ past, ScopeKept store event)
    (justified : Justified request past op) :
    onlineWeight key request ⟨op, (store.execute env op).1⟩ = 0 ∨
      (onlineWeight key request ⟨op, (store.execute env op).1⟩ = 1 ∧
        key ∉ store.credentials.usedNonces ∧
        key ∈ (store.execute env op).2.credentials.usedNonces) := by
  match op with
  | .credential (.commit target tokenHash receivedAt packageId
      archiveSha256) =>
      simp only [SubmissionStore.execute, CredentialStore.execute]
      rcases CredentialStore.commit_cases env.credential store.credentials
          target tokenHash receivedAt packageId archiveSha256 with
        ⟨error, refused⟩ | ⟨record, receiptId, after, found, -, -, fresh,
          accepted, -, nonces⟩
      · rw [refused]
        exact .inl rfl
      · rw [accepted]
        simp only [onlineWeight]
        split
        · next counted =>
            obtain ⟨known, wasRead, sameNonce⟩ := justified _ counted.1
            obtain ⟨-, stored, foundStored, sameScope⟩ :=
              read _ wasRead known rfl
            rw [found] at foundStored
            cases foundStored
            have sameKey : record.scope.nonceKey = key := by
              obtain ⟨organization, asset, job⟩ :=
                of_decide_eq_true counted.2
              rw [← sameScope] at sameNonce
              obtain ⟨organizationId, assetId, jobId, nonce⟩ := key
              simp only [CredentialStore.receipt] at organization asset job
              simp only [CollectorCredentialScope.nonceKey, organization,
                asset, job, sameNonce]
            rw [sameKey] at fresh nonces
            refine .inr ⟨rfl, fresh, ?_⟩
            rw [nonces]
            exact List.mem_append_right _ List.mem_cons_self
        · exact .inl rfl
  | .credential (.insert _) | .credential (.replace _)
  | .credential (.get _) | .credential .draw | .replayCommit _ =>
      exact .inl rfl

/-- The replay store commits a key that was not committed. -/
theorem offlineWeight_execute (key : NonceKey)
    (justified : Justified request past op) :
    offlineWeight key request ⟨op, (store.execute env op).1⟩ = 0 ∨
      (offlineWeight key request ⟨op, (store.execute env op).1⟩ = 1 ∧
        key ∉ store.offlineUsed ∧
        key ∈ (store.execute env op).2.offlineUsed) := by
  match op with
  | .replayCommit commit =>
      simp only [SubmissionStore.execute, SubmissionStore.replayCommit]
      split
      · exact .inl rfl
      rename_i fresh
      simp only [offlineWeight]
      split
      · next counted =>
          have sameKey : commit.nonceKey = key := by
            obtain ⟨organization, asset, job⟩ :=
              of_decide_eq_true counted.2
            have nonce := Option.some.inj (justified.symm.trans counted.1)
            obtain ⟨organizationId, assetId, jobId, nonce⟩ := key
            simp only [OfflineCommit.receipt] at organization asset job
            simp only [OfflineCommit.nonceKey, organization, asset, job,
              nonce]
          rw [sameKey] at fresh
          refine .inr ⟨rfl, fresh, ?_⟩
          rw [sameKey]
          exact List.mem_append_right _ List.mem_cons_self
      · exact .inl rfl
  | .credential _ => exact .inl rfl

theorem used_execute {key : NonceKey} (op : SubmissionOp) :
    (key ∈ store.credentials.usedNonces →
      key ∈ (store.execute env op).2.credentials.usedNonces) ∧
    (key ∈ store.offlineUsed →
      key ∈ (store.execute env op).2.offlineUsed) := by
  cases op with
  | credential op =>
      exact ⟨fun used => CredentialStore.usedNonces_execute env.credential used
        op, id⟩
  | replayCommit commit =>
      simp only [SubmissionStore.execute, SubmissionStore.replayCommit]
      split
      · exact ⟨id, id⟩
      · exact ⟨id, List.mem_append_left _⟩

namespace Sound

variable {key : NonceKey} {config : SubmissionConfig}

theorem start (sound : Sound env key config) (request : SubmissionRequest) :
    Sound env key
      { config with
        threads := config.threads ++
          [(submissionSystem env).fresh request] } := by
  have step : (submissionSystem env).Step System.unguarded config
      { config with
        threads := config.threads ++
          [(submissionSystem env).fresh request] } :=
    .start request rfl
  have tally (weight) :=
    System.tally_start (submissionSystem env) weight config request
  refine ⟨sound.walked.step step, ?_, ?_, ?_⟩
  · intro thread member event inHistory
    rcases List.mem_append.mp member with earlier | last
    · exact sound.scopes thread earlier event inHistory
    · rw [List.mem_singleton.mp last] at inHistory
      exact absurd inHistory List.not_mem_nil
  · rw [tally]
    exact sound.online
  · rw [tally]
    exact sound.offline

/-- A weight that is only counted while a key becomes used keeps below the
number of times it is used. -/
theorem tally_bound {before weight total : Nat} {used usedAfter : Prop}
    [Decidable used] [Decidable usedAfter]
    (bound : before ≤ if used then 1 else 0)
    (counted : weight = 0 ∨ (weight = 1 ∧ ¬used ∧ usedAfter))
    (stays : used → usedAfter) (sum : total = before + weight) :
    total ≤ if usedAfter then 1 else 0 := by
  rcases counted with none | ⟨one, fresh, now⟩
  · by_cases used
    · next wasUsed =>
        rw [if_pos wasUsed] at bound
        rw [if_pos (stays wasUsed)]
        omega
    · next notUsed =>
        rw [if_neg notUsed] at bound
        omega
  · rw [if_neg fresh] at bound
    rw [if_pos now]
    omega

theorem execute (sound : Sound env key config) {index : Nat}
    {thread : SubmissionThread}
    (scheduled : config.threads[index]? = some thread)
    (pending : thread.rest = .call op resume) :
    Sound env key
      { store := (config.store.execute env op).2
        threads := config.threads.set index
          (System.answered thread op resume
            (config.store.execute env op).1) } := by
  have step : (submissionSystem env).Step System.unguarded config
      { store := (config.store.execute env op).2
        threads := config.threads.set index
          (System.answered thread op resume
            (config.store.execute env op).1) } :=
    .execute index thread op resume scheduled pending trivial
  have member := List.mem_of_getElem? scheduled
  have path := sound.walked thread member
  rw [pending] at path
  have justified := justified_of_path path
  have read := sound.scopes thread member
  have tally (weight) := System.tally_execute weight config
    (config.store.execute env op).2 scheduled op resume
    (config.store.execute env op).1
  refine ⟨sound.walked.step step, ?_, ?_, ?_⟩
  · intro other inThreads event inHistory
    rcases List.mem_or_eq_of_mem_set inThreads with earlier | rfl
    · exact (sound.scopes other earlier event inHistory).execute read
        justified
    · rcases List.mem_append.mp inHistory with old | new
      · exact (read event old).execute read justified
      · rw [List.mem_singleton.mp new]
        exact scopeKept_answer config.store op
  · exact tally_bound sound.online (onlineWeight_execute key read justified)
      (used_execute op).1 (tally _)
  · exact tally_bound sound.offline (offlineWeight_execute key justified)
      (used_execute op).2 (tally _)

theorem initial (store : SubmissionStore) :
    Sound env key (Config.initial store) :=
  ⟨.initial store, fun _ member => absurd member List.not_mem_nil,
    Nat.zero_le _, Nat.zero_le _⟩

theorem run
    (run : (submissionSystem env).Run System.unguarded (Config.initial store)
      config) : Sound env key config := by
  refine run.invariant (Sound env key) (initial store) ?_
  intro before after sound step
  cases step with
  | start request => exact sound.start request
  | execute index thread op resume scheduled pending =>
      exact sound.execute scheduled pending

end Sound

/-! ## Accepted at most once by each replay store -/

theorem onlineWeight_of_accepted {key : NonceKey} {thread : SubmissionThread}
    (path : Program.Path (thread.request.body env) thread.history
      thread.rest) (accepted : acceptedOnline key thread = true) :
    1 ≤ thread.tally (onlineWeight key) := by
  unfold acceptedOnline at accepted
  split at accepted
  · next online finished =>
      rw [Bool.and_eq_true, decide_eq_true_eq] at accepted
      rw [finished] at path
      obtain ⟨target, tokenHash, receivedAt, packageId, archiveSha256,
        committed⟩ := receipted_of_path path
      have counted := Thread.weight_le_tally (onlineWeight key) committed
      simpa only [onlineWeight, if_pos accepted] using counted
  · cases accepted

theorem offlineWeight_of_accepted {key : NonceKey}
    {thread : SubmissionThread}
    (path : Program.Path (thread.request.body env) thread.history
      thread.rest) (accepted : acceptedOffline key thread = true) :
    1 ≤ thread.tally (offlineWeight key) := by
  unfold acceptedOffline at accepted
  split at accepted
  · next offline finished =>
      rw [Bool.and_eq_true, decide_eq_true_eq] at accepted
      rw [finished] at path
      obtain ⟨commit, committed⟩ := receipted_of_path path
      have counted := Thread.weight_le_tally (offlineWeight key) committed
      simpa only [offlineWeight, if_pos accepted] using counted
  · cases accepted

/-- Whatever is submitted in whatever order, the online entry point accepts
one organization, asset, job and nonce at most once, and so do the two offline
entry points together. -/
theorem accepted_once_per_replay_store {store : SubmissionStore}
    {config : SubmissionConfig}
    (run : (submissionSystem env).Run System.unguarded (Config.initial store)
      config) (key : NonceKey) :
    config.threads.countP (acceptedOnline key) ≤ 1 ∧
      config.threads.countP (acceptedOffline key) ≤ 1 := by
  have sound : Sound env key config := .run run
  have online := config.countP_le_tally (onlineWeight key)
    (acceptedOnline key) fun thread member accepted =>
      onlineWeight_of_accepted (sound.walked thread member) accepted
  have offline := config.countP_le_tally (offlineWeight key)
    (acceptedOffline key) fun thread member accepted =>
      offlineWeight_of_accepted (sound.walked thread member) accepted
  have onlineBound := sound.online
  have offlineBound := sound.offline
  constructor
  · split at onlineBound <;> omega
  · split at offlineBound <;> omega

/-! ## Accepted by both replay stores -/

def sampleToken : String :=
  "secai_job_v1.12345678-1234-4678-9234-567812345678." ++
    "AAECAwQFBgcICQoLDA0ODxAREhMUFRYXGBkaGxwdHh8"

def sampleTokenHash : String :=
  "bd5d0c636e655f48fbf53771dee47e454228ef0fa7c7a9708fcd892bca929388"

/-- The descriptors of both submissions, with their digests. -/
def twoDescriptors : List (Json × String) :=
  [(sampleDescriptor onlineAuthentication sampleEvidence,
     "a719325b876824b68fe890b1dc1b22af61d1944f62eecf934c3e2b4b686070b5"),
   (sampleDescriptor userAuthentication sampleEvidence,
     "cd140ac43888fcfc8da3c060025a738426adc28092d47a73a5bd50bedc101df2")]

def sampleEnvironment : SubmissionEnvironment :=
  { credential :=
      { isSpace := fun _ => false
        decimalDigit := fun _ => none
        keyedHash := fun token =>
          if token = sampleToken then sampleTokenHash else ""
        hashKeyVersion := "v1"
        uuid4 := fun drawn =>
          "8f14e45f-ceea-467f-a9b1-c0ffee00000" ++ toString drawn
        tokenUrlsafe := fun _ => "" }
    signature :=
      { toPackageEnvironment := samplePackageEnvironment
          (digestOf twoDescriptors sampleDigests)
        loadDerCertificate := fun _ => none
        ed25519Verify := fun _ _ _ => false }
    offline := { config := defaultConfig, trustStore := [] }
    onlineConfig := defaultConfig }

def sampleScope : CollectorCredentialScope :=
  { organizationId := "33000000-0000-4000-8000-000000000003"
    assetId := "28000000-0000-4000-8000-000000000004"
    jobId := "28000000-0000-4000-8000-000000000003"
    manifestId := "28000000-0000-4000-8000-000000000001"
    manifestSha256 := sampleManifestHash
    nonce := "SU1QLTAyOC1ub25jZS0wMDAx"
    endpointId := "imp033-offline-upload"
    contentType := "application/zip"
    schemaVersion := "1.0.0"
    maxArchiveBytes := 10485760 }

def sampleStore : SubmissionStore :=
  { credentials :=
      { records :=
          [{ credentialId := "12345678-1234-4678-9234-567812345678"
             scope := sampleScope
             tokenHash := sampleTokenHash
             hashKeyVersion := "v1"
             issuedAt := sampleTime 0
             expiresAt := sampleTime 60
             failedAttempts := 0
             usedAt := none
             revokedAt := none
             receiptId := none }]
        usedNonces := []
        drawn := 0 }
    offlineUsed := [] }

def sampleVerifications : ExternalVerifications :=
  { manifestSignature := ⟨.verified, sampleManifestHash⟩
    malwareScan := ⟨.clean, sampleArchiveHash⟩
    contentPolicy := ⟨.verified, sampleArchiveHash⟩
    stagedObject :=
      { status := .verified
        organizationId := "33000000-0000-4000-8000-000000000003"
        assetId := "28000000-0000-4000-8000-000000000004"
        jobId := "28000000-0000-4000-8000-000000000003"
        archiveSha256 := sampleArchiveHash
        sizeBytes := 1865 } }

def onlineRequest : SubmissionRequest :=
  .online sampleToken sampleArchive
    (.ok (sampleDescriptor onlineAuthentication sampleEvidence))
    sampleManifest "application/zip" (sampleTime 20) sampleVerifications

def userRequest : SubmissionRequest :=
  .user sampleArchive
    (.ok (sampleDescriptor userAuthentication sampleEvidence)) sampleManifest
    { authenticatedSubjectId := "33000000-0000-4000-8000-000000000009"
      organizationId := "33000000-0000-4000-8000-000000000003"
      assetId := "28000000-0000-4000-8000-000000000004"
      jobId := "28000000-0000-4000-8000-000000000003"
      receivedAt := sampleTime 25
      sessionActive := true
      csrfVerified := true
      authorizedForAsset := true }
    sampleVerifications

def sampleKey : NonceKey := sampleScope.nonceKey

/-- The two submissions, one after the other. -/
def submittedTwice : List (Action SubmissionRequest) :=
  [.start onlineRequest, .step 0, .step 0, .start userRequest, .step 1]

/-- A submission of this organization, asset, job and nonce has been
accepted. -/
def accepted (key : NonceKey) (thread : SubmissionThread) : Bool :=
  acceptedOnline key thread || acceptedOffline key thread

theorem submittedTwice_accepted : ∃ config,
    (submissionSystem sampleEnvironment).Run System.unguarded
      (Config.initial sampleStore) config ∧
    (config.threads.countP (acceptedOnline sampleKey) = 1 ∧
      config.threads.countP (acceptedOffline sampleKey) = 1) ∧
    config.threads.countP (accepted sampleKey) = 2 := by
  let observe (config : SubmissionConfig) : (Nat × Nat) × Nat :=
    ((config.threads.countP (acceptedOnline sampleKey),
      config.threads.countP (acceptedOffline sampleKey)),
      config.threads.countP (accepted sampleKey))
  have scheduled : ((submissionSystem sampleEnvironment).schedule
      System.unguarded (Config.initial sampleStore) submittedTwice).map
        observe = some ((1, 1), 2) := by
    decide +kernel
  obtain ⟨config, run, seen⟩ := System.exists_run_of_schedule scheduled
  obtain ⟨each, both⟩ := Prod.mk.inj seen
  exact ⟨config, run, Prod.mk.inj each, both⟩

/-- The collector and a user submit the package of one job, and each store
accepts its own. -/
theorem each_replay_store_accepts_once : ∃ config : SubmissionConfig,
    (config.threads.countP (acceptedOnline sampleKey) = 1 ∧
      config.threads.countP (acceptedOffline sampleKey) = 1) ∧
    config.threads.countP (acceptedOnline sampleKey) ≤ 1 ∧
      config.threads.countP (acceptedOffline sampleKey) ≤ 1 := by
  obtain ⟨config, run, each, -⟩ := submittedTwice_accepted
  exact ⟨config, each, accepted_once_per_replay_store run sampleKey⟩

/-- One organization, asset, job and nonce is accepted twice: the two stores
do not know of each other. -/
theorem accepted_online_and_offline : ∃ config,
    (submissionSystem sampleEnvironment).Run System.unguarded
      (Config.initial sampleStore) config ∧
    ¬config.threads.countP (accepted sampleKey) ≤ 1 := by
  obtain ⟨config, run, -, both⟩ := submittedTwice_accepted
  exact ⟨config, run, by omega⟩

end SecAI.Submission
