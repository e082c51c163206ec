/-
Module: SecAI.Approval.Refusals
Purpose: What a refused call leaves behind: a registration of a collector that
  fails, an approval that is refused, and a secret that is none.
Trusted boundary: keyed hashes and the Unicode database are parameters; no
  other call comes in between
Main exports:
  register, decideScanApproval, EncodesIfSplit, CanDecide, ScanWaits
-/
import SecAI.Approval.Session
import SecAI.Common.Outcome
import SecAI.Credential.Service
import SecAI.OneShot.Scan

namespace SecAI.Approval

open SecAI.OneShot (OneShotTables SelfScan findPendingLinuxOneshotRun
  markLinuxOneshotDeleted createLinuxOneshotRun)

/-- The two stores of `ScanSessionService`. -/
structure SessionStores where
  tokens : List ScanTokenRecord
  approvals : List ScanApprovalRecord

/-- What leaves `register`. -/
inductive RegisterFault where
  | token (fault : ScanTokenFault)
  | approval (fault : ScanApprovalFault)
deriving DecidableEq

/-- `register`, with the identifier that the request draws. -/
def register (env : ScanTokenEnvironment) (stores : SessionStores)
    (token deviceName serverOrigin : String) (receivedAt : DateTime)
    (requestId : String) :
    SessionStores × Except RegisterFault RegisteredScanSession :=
  match env.startRun stores.tokens token serverOrigin receivedAt with
  | (tokens, .error fault) =>
      ({ stores with tokens := tokens }, .error (.token fault))
  | (tokens, .ok started) =>
      match requestApproval stores.approvals started.organizationId
        started.subjectUserId deviceName receivedAt scanApprovalTtl
        requestId with
      | .error fault =>
          ({ stores with tokens := tokens }, .error (.approval fault))
      | .ok (approvals, requested) =>
          let registration : Registration :=
            { tokenRef := env.tokenRefOf token
              started := started
              deviceName := deviceName
              receivedAt := receivedAt }
          (⟨tokens, approvals⟩, .ok (registration.session requested))

/-- No token has used another run, and no request is stored. -/
def SessionStores.CostsNothing (before after : SessionStores) : Prop :=
  (∀ tokenRef, runsOf after.tokens tokenRef = runsOf before.tokens tokenRef) ∧
    after.approvals = before.approvals

section Registrations

variable {env : ScanTokenEnvironment} {stores : SessionStores}
  {token deviceName serverOrigin requestId : String} {receivedAt : DateTime}

/-- A request with the longest lifetime is stored exactly if the device has a
name and the identifier is new. -/
theorem requestApproval_isOk {approvals : List ScanApprovalRecord}
    {organizationId subjectUserId : String} :
    (∃ done, requestApproval approvals organizationId subjectUserId deviceName
        receivedAt scanApprovalTtl requestId = .ok done) ↔
      isDeviceName deviceName = true ∧
        approvalWithId requestId approvals = none := by
  have lasting : ¬(scanApprovalTtl ≤ 0 ∨ scanApprovalTtl > scanApprovalTtl) :=
    by decide
  rw [requestApproval]
  cases isDeviceName deviceName with
  | false => simp
  | true =>
      rw [if_neg (by simp), if_neg lasting]
      cases approvalWithId requestId approvals <;> simp

/-- A valid token with a run left is started. -/
theorem startRun_of_valid {tokens : List ScanTokenRecord}
    {record : ScanTokenRecord}
    (valid : ValidToken env tokens token serverOrigin receivedAt record)
    (left : record.usedRuns < maxScanTokenRuns) :
    env.startRun tokens token serverOrigin receivedAt =
      (changeToken record.tokenRef ScanTokenRecord.started tokens,
        .ok record.started.verified) := by
  have isChecked : checked tokens record.tokenRef record.tokenHmac serverOrigin
      receivedAt = (tokens, .ok record) := by
    rw [checked, valid.stored]
    simp only [ne_eq, not_true_eq_false, if_false, valid.origin]
    rw [if_neg (Int.not_lt.mpr valid.unexpired)]
  rw [ScanTokenEnvironment.startRun, valid.presented]
  dsimp only
  rw [storeStartRun, isChecked]
  dsimp only
  rw [if_neg (Nat.not_le.mpr left)]

/-- What `register` comes to after a run was started. -/
theorem register_of_started {tokens : List ScanTokenRecord}
    {started : VerifiedScanToken}
    (counted : env.startRun stores.tokens token serverOrigin receivedAt =
      (tokens, .ok started)) :
    (∃ session approvals, register env stores token deviceName serverOrigin
        receivedAt requestId = (⟨tokens, approvals⟩, .ok session)) ∧
      (isDeviceName deviceName = true ∧
        approvalWithId requestId stores.approvals = none) ∨
    (∃ fault, register env stores token deviceName serverOrigin receivedAt
        requestId = (⟨tokens, stores.approvals⟩, .error (.approval fault))) ∧
      ¬(isDeviceName deviceName = true ∧
        approvalWithId requestId stores.approvals = none) := by
  rw [register, counted]
  dsimp only
  cases done : requestApproval stores.approvals started.organizationId
      started.subjectUserId deviceName receivedAt scanApprovalTtl requestId with
  | ok result => exact .inl ⟨⟨_, _, rfl⟩, requestApproval_isOk.mp ⟨_, done⟩⟩
  | error fault =>
      refine .inr ⟨⟨fault, rfl⟩, fun accepted => ?_⟩
      obtain ⟨result, isOk⟩ := requestApproval_isOk.mpr accepted
      rw [done] at isOk
      cases isOk

end Registrations

/-- `text.isascii()`. -/
def isAscii (text : String) : Bool :=
  text.toList.all fun character => decide (character.toNat < 128)

/-- A `ScanTokenError`. -/
def IsTokenError (fault : ScanTokenFault) : Prop :=
  ∃ code, fault = .token code

section Secrets

open Outcome (Confined confined_ok confined_error_iff confined_bind_iff)

variable {env : ScanTokenEnvironment} {token serverOrigin : String}
  {tokens : List ScanTokenRecord} {receivedAt : DateTime}

theorem hmac_confined_iff {secret : String} :
    Confined IsTokenError (env.hmac secret) ↔ isAscii secret = true := by
  rw [ScanTokenEnvironment.hmac, ← isAscii]
  split
  · next ascii => exact iff_of_true (confined_ok _) ascii
  · next foreign =>
      rw [confined_error_iff]
      exact iff_of_false nofun foreign

/-- The token is not split, or its secret is of ASCII characters. -/
def SecretEncodesIfSplit (token : String) : Prop :=
  ∀ tokenRef secret, splitToken token = .ok (tokenRef, secret) →
    isAscii secret = true

theorem presented_confined_iff :
    Confined IsTokenError (env.presented token) ↔
      SecretEncodesIfSplit token := by
  have split : Confined IsTokenError (splitToken token) := by
    unfold splitToken
    dsimp only
    split
    · exact confined_error_iff.mpr ⟨_, rfl⟩
    · split
      · exact confined_error_iff.mpr ⟨_, rfl⟩
      · exact confined_ok _
  rw [ScanTokenEnvironment.presented, split.bind_iff, Prod.forall]
  refine forall_congr' fun tokenRef => forall_congr' fun secret =>
    imp_congr_right fun _ => ?_
  rw [confined_bind_iff]
  exact ⟨fun both => hmac_confined_iff.mp both.1, fun ascii =>
    ⟨hmac_confined_iff.mpr ascii, fun _ _ => confined_ok _⟩⟩

theorem checked_confined (tokens : List ScanTokenRecord)
    (tokenRef presentedHmac serverOrigin : String) (receivedAt : DateTime) :
    Confined IsTokenError (checked tokens tokenRef presentedHmac serverOrigin
      receivedAt).2 := by
  unfold checked
  split
  · exact confined_error_iff.mpr ⟨_, rfl⟩
  · split
    · exact confined_error_iff.mpr ⟨_, rfl⟩
    · split
      · exact confined_error_iff.mpr ⟨_, rfl⟩
      · split
        · exact confined_error_iff.mpr ⟨_, rfl⟩
        · exact confined_ok _

theorem verify_confined_iff :
    Confined IsTokenError (env.verify tokens token serverOrigin receivedAt).2 ↔
      Confined IsTokenError (env.presented token) := by
  rw [ScanTokenEnvironment.verify]
  cases env.presented token with
  | error fault => simp only [confined_error_iff]
  | ok presented =>
      refine iff_of_true ?_ (confined_ok _)
      have confined := checked_confined tokens presented.1 presented.2
        serverOrigin receivedAt
      dsimp only
      split
      · next same =>
          rw [same] at confined
          exact confined_error_iff.mpr (confined_error_iff.mp confined)
      · exact confined_ok _

theorem startRun_confined_iff :
    Confined IsTokenError (env.startRun tokens token serverOrigin
        receivedAt).2 ↔
      Confined IsTokenError (env.presented token) := by
  rw [ScanTokenEnvironment.startRun]
  cases env.presented token with
  | error fault => simp only [confined_error_iff]
  | ok presented =>
      refine iff_of_true ?_ (confined_ok _)
      have confined := checked_confined tokens presented.1 presented.2
        serverOrigin receivedAt
      dsimp only
      unfold storeStartRun
      split
      · next counted =>
          split at counted
          · next same =>
              cases counted
              rw [same] at confined
              exact confined_error_iff.mpr (confined_error_iff.mp confined)
          · split at counted
            · cases counted
              exact confined_error_iff.mpr ⟨_, rfl⟩
            · cases counted
      · exact confined_ok _

end Secrets

section Credentials

open Outcome (Confined confined_ok confined_error_iff confined_bind_iff)
open SecAI.Credential (CredentialError CredentialEnvironment CredentialStore
  CollectorCredentialRecord tokenHash checkRecordState)
open SecAI.Credential.CredentialStore (execute)

/-- A `CollectorCredentialError`. -/
def IsCredentialError (error : CredentialError) : Prop :=
  ∃ code message, error = .credential code message

variable {env : CredentialEnvironment} {token : String}
  {store : CredentialStore} {receivedAt : DateTime}

theorem tokenHash_confined_iff :
    Confined IsCredentialError (tokenHash env token) ↔
      isAscii token = true := by
  rw [tokenHash, ← isAscii]
  split
  · next ascii => exact iff_of_true (confined_ok _) ascii
  · next foreign =>
      rw [confined_error_iff]
      exact iff_of_false nofun foreign

theorem splitToken_confined :
    Confined IsCredentialError
      (Credential.splitToken env.toUnicodeDigits token) := by
  unfold Credential.splitToken
  split
  · split
    · exact confined_error_iff.mpr ⟨_, _, rfl⟩
    · split
      · exact confined_error_iff.mpr ⟨_, _, rfl⟩
      · split
        · exact confined_error_iff.mpr ⟨_, _, rfl⟩
        · exact confined_ok _
  · exact confined_error_iff.mpr ⟨_, _, rfl⟩

theorem checkRecordState_confined (record : CollectorCredentialRecord)
    (receivedAt : DateTime) :
    Confined IsCredentialError (checkRecordState record receivedAt) := by
  unfold checkRecordState
  refine .guard ⟨_, _, rfl⟩ fun _ => .guard ⟨_, _, rfl⟩ fun _ => ?_
  exact .guard ⟨_, _, rfl⟩ fun _ => .guard ⟨_, _, rfl⟩ fun _ => confined_ok _

/-- What a `commit` of the store raises is typed. -/
theorem storeCommit_confined (credentialId hash packageId archive : String) :
    Confined IsCredentialError (store.commit env credentialId hash receivedAt
      packageId archive).1 := by
  have invalid : IsCredentialError Credential.invalidCredential := ⟨_, _, rfl⟩
  unfold CredentialStore.commit
  split
  · exact confined_error_iff.mpr invalid
  next record _ =>
    split
    · exact confined_error_iff.mpr invalid
    have state := checkRecordState_confined record receivedAt
    split
    · next refused =>
        rw [refused] at state
        exact confined_error_iff.mpr (confined_error_iff.mp state)
    split
    · exact confined_error_iff.mpr ⟨_, _, rfl⟩
    · exact confined_ok _

/-- The token is not split, or is of ASCII characters. -/
def EncodesIfSplit (env : CredentialEnvironment) (token : String) : Prop :=
  (Credential.splitToken env.toUnicodeDigits token).isOk = true →
    isAscii token = true

/-- A call that is typed once the token is encoded. -/
theorem confined_of_split_iff {α : Type} {outcome : Except CredentialError α}
    (refused : ∀ error,
      Credential.splitToken env.toUnicodeDigits token = .error error →
      outcome = .error error)
    (split : ∀ credentialId,
      Credential.splitToken env.toUnicodeDigits token = .ok credentialId →
      (Confined IsCredentialError outcome ↔
        Confined IsCredentialError (tokenHash env token))) :
    Confined IsCredentialError outcome ↔ EncodesIfSplit env token := by
  have typed : Confined IsCredentialError
    (Credential.splitToken env.toUnicodeDigits token) := splitToken_confined
  rw [EncodesIfSplit]
  cases isSplit : Credential.splitToken env.toUnicodeDigits token with
  | error error =>
      rw [isSplit] at typed
      rw [refused error isSplit]
      exact iff_of_true (confined_error_iff.mpr (confined_error_iff.mp typed))
        nofun
  | ok credentialId =>
      rw [split credentialId isSplit, tokenHash_confined_iff]
      exact ⟨fun ascii _ => ascii, fun ascii => ascii rfl⟩

theorem commit_confined_iff {packageId archive : String} :
    Confined IsCredentialError ((Credential.commit env token receivedAt
        packageId archive).run (execute env) store).1 ↔
      EncodesIfSplit env token := by
  apply confined_of_split_iff
  case refused =>
    intro error isSplit
    rw [Credential.commit, isSplit]
    rfl
  case split =>
    intro credentialId isSplit
    rw [Credential.commit, isSplit]
    cases tokenHash env token with
    | error error => exact confined_error_iff.trans confined_error_iff.symm
    | ok hash =>
        refine iff_of_true ?_ (confined_ok _)
        have typed : Confined IsCredentialError (store.commit env credentialId
            hash receivedAt packageId archive).1 :=
          storeCommit_confined credentialId hash packageId archive
        change Confined IsCredentialError ((Interleaving.Program.lift
          (store.commit env credentialId hash receivedAt packageId
            archive).1 : Credential.CredentialProgram _).run (execute env) _).1
        cases outcome : (store.commit env credentialId hash receivedAt
            packageId archive).1 with
        | error error =>
            rw [outcome] at typed
            exact typed
        | ok receipt => exact confined_ok _

/-- The failure of a record that has been read is recorded. -/
theorem recordFailure_returns {record : CollectorCredentialRecord}
    (stored : store.record record.credentialId = some record) :
    ((Credential.recordFailure (some record)).run (execute env) store).1 =
      .ok () := by
  simp only [Credential.recordFailure, Interleaving.Program.perform_bind,
    Interleaving.Program.run_call, execute, stored,
    Interleaving.Program.lift_ok, Interleaving.Program.run_done]

theorem authorize_confined_iff :
    Confined IsCredentialError ((Credential.authorize env token
        receivedAt).run (execute env) store).1 ↔
      EncodesIfSplit env token := by
  apply confined_of_split_iff
  case refused =>
    intro error isSplit
    rw [Credential.authorize, isSplit]
    rfl
  case split =>
    intro credentialId isSplit
    rw [Credential.authorize, isSplit]
    have got : execute env store (.get credentialId) =
        (store.record credentialId, store) := rfl
    simp only [Interleaving.Program.lift_ok, Interleaving.Program.done_bind,
      Interleaving.Program.perform_bind, Interleaving.Program.run_call]
    rw [got, Credential.judgeRecord]
    cases tokenHash env token with
    | error error => exact confined_error_iff.trans confined_error_iff.symm
    | ok hash =>
        refine iff_of_true ?_ (confined_ok _)
        have invalid : IsCredentialError Credential.invalidCredential :=
          ⟨_, _, rfl⟩
        cases found : store.record credentialId with
        | none => exact confined_error_iff.mpr invalid
        | some record =>
            have same : record.credentialId = credentialId :=
              Table.lookup_key found
            have stored : store.record record.credentialId = some record :=
              same ▸ found
            by_cases right : record.tokenHash = hash
            · have typed := checkRecordState_confined record receivedAt
              simp only [Credential.presentedFor, if_pos right,
                Interleaving.Program.lift_ok, Interleaving.Program.done_bind]
              cases state : checkRecordState record receivedAt with
              | error error =>
                  rw [state] at typed
                  exact confined_error_iff.mpr (confined_error_iff.mp typed)
              | ok _ => exact confined_ok _
            · have recorded : ((Credential.recordFailure (some record)).run
                  (execute env) store).1 = .ok () :=
                recordFailure_returns stored
              simp only [Credential.presentedFor, if_neg right,
                Interleaving.Program.lift_ok, Interleaving.Program.done_bind,
                Interleaving.Program.run_bind]
              split
              · exact confined_error_iff.mpr invalid
              · next raised =>
                  rw [raised] at recorded
                  cases recorded

end Credentials

def exampleTokenService : ScanTokenEnvironment where
  keyedHash secret := "h" ++ secret
  hashKeyVersion := "v1"

/-- A secret with a letter outside ASCII raises another exception. -/
theorem foreign_secret_raises_unicode :
    ¬Outcome.Confined IsTokenError
      (exampleTokenService.verify [] "0123456789ab.\u00e9" "https://s" 0).2 := by
  have raised : (exampleTokenService.verify [] "0123456789ab.\u00e9" "https://s"
      0).2 = .error .unicodeEncode := by decide
  rw [raised, Outcome.confined_error_iff]
  rintro ⟨code, same⟩
  cases same

def exampleSessions : SessionStores where
  tokens :=
    [{ tokenRef := "0123456789ab"
       tokenHmac := "hk"
       hashKeyVersion := "v1"
       organizationId := "o"
       subjectUserId := "u"
       serverOrigin := "https://s"
       issuedAt := 0
       expiresAt := scanTokenTtl
       usedRuns := 0
       failedAttempts := 0 }]
  approvals := []

/-- A device name with a blank costs a run. -/
theorem blank_in_name_costs_a_run :
    ¬∀ fault, (register exampleTokenService exampleSessions "0123456789ab.k"
        "my pc" "https://s" 0 "r").2 = .error fault →
      exampleSessions.CostsNothing (register exampleTokenService
        exampleSessions "0123456789ab.k" "my pc" "https://s" 0 "r").1 := by
  intro free
  have costs := free (.approval (.approval .deviceNameInvalid)) (by decide)
  have used : runsOf (register exampleTokenService exampleSessions
      "0123456789ab.k" "my pc" "https://s" 0 "r").1.tokens "0123456789ab" = 1 :=
    by decide
  rw [costs.1] at used
  exact absurd used (by decide)

/-- A Linux self scan with its owner. -/
structure OwnedScan where
  organizationId : String
  ownerUserId : String
  runId : String
  tables : OneShotTables

/-- The code that `issue_choices` stores for a self scan. -/
structure IssuedCode where
  subjectUserId : String
  code : String
  runId : String
  expiresAt : DateTime

/-- What the decision on a request reads and writes. -/
structure DecisionStores where
  scans : List OwnedScan
  codes : List IssuedCode
  approvals : List ScanApprovalRecord

/-- What leaves `decide_scan_approval`. -/
inductive DecisionFault where
  /-- `LINUX_ONESHOT_ALREADY_WAITING`. -/
  | pendingConflict (runId : String)
  | approval (fault : ScanApprovalFault)
deriving DecidableEq

/-- `AuthenticatedPrincipal`, with what is read of it. -/
structure Caller where
  organizationId : String
  userId : String
  assetIds : List String

/-- What `provision_linux_self_scan` draws. -/
structure DrawnScan where
  runId : String
  code : String
  scan : SelfScan

/-- `find_pending_linux_oneshot_run`, over the scans of all owners. -/
def pendingScan (scans : List OwnedScan) (caller : Caller) :
    Option (String × Option DateTime) :=
  scans.findSome? fun scan =>
    if scan.organizationId = caller.organizationId ∧
        scan.ownerUserId = caller.userId then
      (findPendingLinuxOneshotRun scan.tables "self-auto").map
        fun expiresAt => (scan.runId, expiresAt)
    else none

def withoutScan (scans : List OwnedScan) (runId : String) (now : DateTime) :
    List OwnedScan :=
  scans.map fun scan =>
    if scan.runId = runId then
      { scan with tables := (markLinuxOneshotDeleted scan.tables now).2 }
    else scan

def DecisionStores.created (stores : DecisionStores) (caller : Caller)
    (drawn : DrawnScan) (now : DateTime) : DecisionStores :=
  { stores with
    scans := stores.scans ++
      [{ organizationId := caller.organizationId
         ownerUserId := caller.userId
         runId := drawn.runId
         tables := createLinuxOneshotRun OneShot.unprovisioned.tables .auto
           drawn.scan.placeholderManifest }]
    codes := stores.codes ++
      [{ subjectUserId := caller.userId
         code := drawn.code
         runId := drawn.runId
         expiresAt := now + minutes 10 }] }

def provisionLinuxSelfScan (stores : DecisionStores) (caller : Caller)
    (drawn : DrawnScan) (now : DateTime) :
    Except DecisionFault DecisionStores :=
  match pendingScan stores.scans caller with
  | none => .ok (stores.created caller drawn now)
  | some (runId, expiresAt) =>
      -- `_pending_run_action`: an unknown expiry is a past one.
      if expiresAt.any fun expiresAt => decide (now < expiresAt) then
        .error (.pendingConflict runId)
      else
        .ok ({ stores with
          scans := withoutScan stores.scans runId now }.created caller drawn
            now)

def singleAssignedAsset (caller : Caller) : Option String :=
  match caller.assetIds with
  | [assetId] => some assetId
  | _ => none

/-- `decide_scan_approval` of a request that is approved. -/
def decideScanApproval (stores : DecisionStores) (caller : Caller)
    (requestId : String) (elevatedConsent : Bool) (drawn : DrawnScan)
    (decidedAt : DateTime) :
    DecisionStores × Except DecisionFault ScanApprovalView :=
  match provisionLinuxSelfScan stores caller drawn decidedAt with
  | .error fault => (stores, .error fault)
  | .ok provisioned =>
      match decideApproval provisioned.approvals requestId caller.userId
        (.approve elevatedConsent (some drawn.code)
          (singleAssignedAsset caller)) decidedAt with
      | .error fault => (provisioned, .error (.approval fault))
      | .ok (approvals, view) =>
          ({ provisioned with approvals := approvals }, .ok view)

section Decisions

variable {stores : DecisionStores} {caller : Caller} {requestId : String}
  {elevatedConsent : Bool} {drawn : DrawnScan} {decidedAt : DateTime}

/-- The caller owns a pending request, in time. -/
def CanDecide (approvals : List ScanApprovalRecord) (requestId userId : String)
    (decidedAt : DateTime) : Prop :=
  ∃ record, approvalWithId requestId approvals = some record ∧
    record.subjectUserId = userId ∧ record.state = .pending ∧
    decidedAt ≤ record.expiresAt

theorem decideApproval_of_canDecide {approvals : List ScanApprovalRecord}
    {userId : String} {decision : Decision}
    (can : CanDecide approvals requestId userId decidedAt) :
    ∃ done, decideApproval approvals requestId userId decision decidedAt =
      .ok done := by
  obtain ⟨record, found, owner, pending, inTime⟩ := can
  have required : requireApproval approvals requestId = .ok record := by
    rw [requireApproval, found]
  rw [decideApproval, required, Outcome.ok_bind, if_neg (not_not_intro owner),
    if_neg (not_not_intro pending), if_neg (Int.not_lt.mpr inTime)]
  exact ⟨_, rfl⟩

/-- An unexpired self scan of the caller waits. -/
def ScanWaits (stores : DecisionStores) (caller : Caller)
    (now : DateTime) : Prop :=
  ∃ runId expiresAt,
    pendingScan stores.scans caller = some (runId, some expiresAt) ∧
      now < expiresAt

/-- Provisioning raises while a scan waits, and else creates a run. -/
theorem provision_cases (stores : DecisionStores) (caller : Caller)
    (drawn : DrawnScan) (decidedAt : DateTime) :
    (∃ fault, provisionLinuxSelfScan stores caller drawn decidedAt =
        .error (.pendingConflict fault)) ∧ ScanWaits stores caller decidedAt ∨
    (∃ provisioned, provisionLinuxSelfScan stores caller drawn decidedAt =
        .ok provisioned ∧ provisioned.approvals = stores.approvals ∧
        provisioned.codes ≠ stores.codes) ∧
      ¬ScanWaits stores caller decidedAt := by
  have grows (before : DecisionStores) :
      (before.created caller drawn decidedAt).codes ≠ before.codes := by
    intro same
    have length := congrArg List.length same
    rw [DecisionStores.created, List.length_append] at length
    simp at length
  rw [provisionLinuxSelfScan, ScanWaits]
  cases pendingScan stores.scans caller with
  | none => exact .inr ⟨⟨_, rfl, rfl, grows stores⟩, by rintro ⟨_, _, ⟨⟩, _⟩⟩
  | some pending =>
      obtain ⟨runId, expiresAt⟩ := pending
      dsimp only
      split
      · next waits =>
          obtain ⟨expiry, rfl, later⟩ := (Option.any_eq_true _ _).mp waits
          exact .inl ⟨⟨runId, rfl⟩, runId, expiry, rfl, of_decide_eq_true later⟩
      · next expired =>
          refine .inr ⟨⟨_, rfl, rfl, grows _⟩, ?_⟩
          rintro ⟨_, expiry, same, later⟩
          cases same
          exact expired (decide_eq_true later)

end Decisions

def exampleDecisions : DecisionStores := ⟨[], [], []⟩

def exampleScan : SelfScan where
  manifests _ := ⟨"m", "", "", "", none, .null⟩

/-- The approval of an unknown request leaves a run and a code. -/
theorem unknown_request_creates_a_run :
    ¬∀ fault, (decideScanApproval exampleDecisions ⟨"o", "u", []⟩ "r" false
        ⟨"run", "ABCD", exampleScan⟩ 0).2 = .error (.approval fault) →
      (decideScanApproval exampleDecisions ⟨"o", "u", []⟩ "r" false
          ⟨"run", "ABCD", exampleScan⟩ 0).1.scans = [] ∧
        (decideScanApproval exampleDecisions ⟨"o", "u", []⟩ "r" false
          ⟨"run", "ABCD", exampleScan⟩ 0).1.codes = [] := by
  intro free
  have nothing := free (.approval .notFound) (by decide)
  exact absurd nothing.2 (by decide)

end SecAI.Approval
