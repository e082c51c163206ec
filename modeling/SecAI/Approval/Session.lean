/-
Module: SecAI.Approval.Session
Purpose: The execution tokens and approval requests of a remote collector, and
  the calls of `ScanSessionService` by the endpoints, in any order.
Trusted boundary: the keyed hash is a parameter; times are timezone-aware; the
  calls of one service are atomic under its lock; a clock is read at or before
  the call that uses it
Main exports:
  ScanTokenRecord, ScanApprovalRecord, SessionState, sessionMachine
-/
import SecAI.Common.Table
import SecAI.Common.Values
import SecAI.Interleaving.Machine

namespace SecAI.Approval

def scanTokenTtl : Int := hours 24

def maxScanTokenRuns : Nat := 3

inductive ScanTokenErrorCode where
  | invalid
  | expired
  | runsExhausted
  | scopeMismatch
deriving DecidableEq

/-- Exceptions that leave a call of the token service. -/
inductive ScanTokenFault where
  | token (code : ScanTokenErrorCode)
  /-- A `ValueError` of the service or its store. -/
  | value
  /-- `str.encode("ascii")` on a secret that is not ASCII. -/
  | unicodeEncode
deriving DecidableEq

structure ScanTokenRecord where
  tokenRef : String
  tokenHmac : String
  hashKeyVersion : String
  organizationId : String
  subjectUserId : String
  serverOrigin : String
  issuedAt : DateTime
  expiresAt : DateTime
  usedRuns : Nat
  failedAttempts : Nat

structure IssuedScanToken where
  token : String
  serverOrigin : String
  expiresAt : DateTime
  maxRuns : Nat

/-- `VerifiedScanToken`, and `StartedScanRun`, which has the same fields. -/
structure VerifiedScanToken where
  organizationId : String
  subjectUserId : String
  serverOrigin : String
  remainingRuns : Nat
deriving DecidableEq

/-- What the service reads outside its arguments. -/
structure ScanTokenEnvironment where
  /-- The hexadecimal HMAC-SHA-256 of an ASCII secret. -/
  keyedHash : String → String
  hashKeyVersion : String

/-- A character of `[0-9a-f]`. -/
def isReferenceCharacter (character : Char) : Bool :=
  decide ('0' ≤ character ∧ character ≤ '9') ||
    decide ('a' ≤ character ∧ character ≤ 'f')

/-- `_REFERENCE_PATTERN.fullmatch`. -/
def isReference (text : List Char) : Bool :=
  decide (text.length = 12) && text.all isReferenceCharacter

def splitToken (token : String) : Except ScanTokenFault (String × String) :=
  let tokenRef := token.toList.takeWhile (· != '.')
  match token.toList.dropWhile (· != '.') with
  | [] => .error (.token .invalid)
  | _separator :: secret =>
      if secret = [] ∨ isReference tokenRef = false then
        .error (.token .invalid)
      else .ok (String.ofList tokenRef, String.ofList secret)

def ScanTokenEnvironment.hmac (env : ScanTokenEnvironment) (secret : String) :
    Except ScanTokenFault String :=
  if secret.toList.all fun character => decide (character.toNat < 128) then
    .ok (env.keyedHash secret)
  else .error .unicodeEncode

def tokenWithRef (tokenRef : String) (tokens : List ScanTokenRecord) :
    Option ScanTokenRecord :=
  Table.lookup ScanTokenRecord.tokenRef tokenRef tokens

def changeToken (tokenRef : String)
    (change : ScanTokenRecord → ScanTokenRecord)
    (tokens : List ScanTokenRecord) : List ScanTokenRecord :=
  Table.updateWhere (fun record => decide (record.tokenRef = tokenRef)) change
    tokens

/-- `replace(record, failed_attempts=record.failed_attempts + 1)`. -/
def ScanTokenRecord.failed (record : ScanTokenRecord) : ScanTokenRecord :=
  { record with failedAttempts := record.failedAttempts + 1 }

/-- `replace(record, used_runs=record.used_runs + 1)`. -/
def ScanTokenRecord.started (record : ScanTokenRecord) : ScanTokenRecord :=
  { record with usedRuns := record.usedRuns + 1 }

/-- `_checked`: what it leaves in the store, and its result. -/
def checked (tokens : List ScanTokenRecord)
    (tokenRef presentedHmac serverOrigin : String) (receivedAt : DateTime) :
    List ScanTokenRecord × Except ScanTokenFault ScanTokenRecord :=
  match tokenWithRef tokenRef tokens with
  | none => (tokens, .error (.token .invalid))
  | some record =>
      if record.tokenHmac ≠ presentedHmac then
        (changeToken tokenRef ScanTokenRecord.failed tokens,
          .error (.token .invalid))
      else if receivedAt > record.expiresAt then
        (tokens, .error (.token .expired))
      else if record.serverOrigin ≠ serverOrigin then
        (tokens, .error (.token .scopeMismatch))
      else (tokens, .ok record)

/-- `InMemoryScanTokenStore.start_run`. -/
def storeStartRun (tokens : List ScanTokenRecord)
    (tokenRef presentedHmac serverOrigin : String) (receivedAt : DateTime) :
    List ScanTokenRecord × Except ScanTokenFault ScanTokenRecord :=
  match checked tokens tokenRef presentedHmac serverOrigin receivedAt with
  | (tokens, .error fault) => (tokens, .error fault)
  | (tokens, .ok record) =>
      if record.usedRuns ≥ maxScanTokenRuns then
        (tokens, .error (.token .runsExhausted))
      else
        (changeToken tokenRef ScanTokenRecord.started tokens,
          .ok record.started)

/-- `issue`, with the reference and the secret that it draws.  A reference
that is taken is not inserted. -/
def ScanTokenEnvironment.issue (env : ScanTokenEnvironment)
    (tokens : List ScanTokenRecord)
    (organizationId subjectUserId serverOrigin : String) (issuedAt : DateTime)
    (ttl : Int) (tokenRef secret : String) :
    List ScanTokenRecord × Except ScanTokenFault IssuedScanToken :=
  if ttl ≤ 0 ∨ ttl > scanTokenTtl then (tokens, .error .value)
  else if organizationId = "" ∨ subjectUserId = "" ∨ serverOrigin = "" then
    (tokens, .error .value)
  else if (tokenWithRef tokenRef tokens).isSome then (tokens, .error .value)
  else
    match env.hmac secret with
    | .error fault => (tokens, .error fault)
    | .ok tokenHmac =>
        (tokens ++
          [{ tokenRef := tokenRef
             tokenHmac := tokenHmac
             hashKeyVersion := env.hashKeyVersion
             organizationId := organizationId
             subjectUserId := subjectUserId
             serverOrigin := serverOrigin
             issuedAt := issuedAt
             expiresAt := issuedAt + ttl
             usedRuns := 0
             failedAttempts := 0 }],
          .ok
            { token := tokenRef ++ "." ++ secret
              serverOrigin := serverOrigin
              expiresAt := issuedAt + ttl
              maxRuns := maxScanTokenRuns })

def ScanTokenEnvironment.presented (env : ScanTokenEnvironment)
    (token : String) : Except ScanTokenFault (String × String) := do
  let (tokenRef, secret) ← splitToken token
  let presentedHmac ← env.hmac secret
  pure (tokenRef, presentedHmac)

def ScanTokenRecord.verified (record : ScanTokenRecord) : VerifiedScanToken :=
  { organizationId := record.organizationId
    subjectUserId := record.subjectUserId
    serverOrigin := record.serverOrigin
    remainingRuns := maxScanTokenRuns - record.usedRuns }

def ScanTokenEnvironment.verify (env : ScanTokenEnvironment)
    (tokens : List ScanTokenRecord) (token serverOrigin : String)
    (receivedAt : DateTime) :
    List ScanTokenRecord × Except ScanTokenFault VerifiedScanToken :=
  match env.presented token with
  | .error fault => (tokens, .error fault)
  | .ok (tokenRef, presentedHmac) =>
      match checked tokens tokenRef presentedHmac serverOrigin receivedAt with
      | (tokens, .error fault) => (tokens, .error fault)
      | (tokens, .ok record) => (tokens, .ok record.verified)

def ScanTokenEnvironment.startRun (env : ScanTokenEnvironment)
    (tokens : List ScanTokenRecord) (token serverOrigin : String)
    (receivedAt : DateTime) :
    List ScanTokenRecord × Except ScanTokenFault VerifiedScanToken :=
  match env.presented token with
  | .error fault => (tokens, .error fault)
  | .ok (tokenRef, presentedHmac) =>
      match storeStartRun tokens tokenRef presentedHmac serverOrigin
        receivedAt with
      | (tokens, .error fault) => (tokens, .error fault)
      | (tokens, .ok record) => (tokens, .ok record.verified)

/-- A token that is valid for a call at `receivedAt`, with its record. -/
structure ValidToken (env : ScanTokenEnvironment)
    (tokens : List ScanTokenRecord) (token serverOrigin : String)
    (receivedAt : DateTime) (record : ScanTokenRecord) : Prop where
  presented : env.presented token = .ok (record.tokenRef, record.tokenHmac)
  stored : tokenWithRef record.tokenRef tokens = some record
  unexpired : receivedAt ≤ record.expiresAt
  origin : record.serverOrigin = serverOrigin

variable {tokenRef : String} {tokens : List ScanTokenRecord}
  {record : ScanTokenRecord}

theorem tokenWithRef_ref
    (found : tokenWithRef tokenRef tokens = some record) :
    record.tokenRef = tokenRef :=
  Table.lookup_key found

variable {change : ScanTokenRecord → ScanTokenRecord}

theorem tokenWithRef_changeToken (wanted tokenRef : String)
    (keeps : ∀ record, (change record).tokenRef = record.tokenRef)
    (tokens : List ScanTokenRecord) :
    tokenWithRef wanted (changeToken tokenRef change tokens) =
      (tokenWithRef wanted tokens).map fun record =>
        if wanted = tokenRef then change record else record := by
  unfold tokenWithRef changeToken
  rw [Table.lookup_updateWhere _ (fun record _ => keeps record)]
  apply Option.map_congr
  intro record found
  rw [Table.lookup_key found]
  simp only [decide_eq_true_eq]

variable {after : List ScanTokenRecord} {serverOrigin : String}
  {receivedAt : DateTime}

variable {presentedHmac : String}

/-- The spec of `_checked`. -/
theorem checked_ok
    (done : checked tokens tokenRef presentedHmac serverOrigin receivedAt =
      (after, .ok record)) :
    after = tokens ∧ tokenWithRef tokenRef tokens = some record ∧
      record.tokenHmac = presentedHmac ∧ receivedAt ≤ record.expiresAt ∧
      record.serverOrigin = serverOrigin := by
  unfold checked at done
  split at done
  · cases done
  rename_i found
  split at done
  · cases done
  rename_i same
  split at done
  · cases done
  rename_i inTime
  split at done
  · cases done
  rename_i origin
  cases done
  exact ⟨rfl, found, not_not.mp same,
    Int.not_lt.mp inTime, not_not.mp origin⟩

def runsOf (tokens : List ScanTokenRecord) (tokenRef : String) : Nat :=
  (tokenWithRef tokenRef tokens).elim 0 ScanTokenRecord.usedRuns

theorem runsOf_changeToken (tokens : List ScanTokenRecord)
    (tokenRef wanted : String)
    (keeps : ∀ record, (change record).tokenRef = record.tokenRef)
    (runs : ∀ record, (change record).usedRuns = record.usedRuns) :
    runsOf (changeToken tokenRef change tokens) wanted =
      runsOf tokens wanted := by
  unfold runsOf
  rw [tokenWithRef_changeToken wanted tokenRef keeps]
  cases tokenWithRef wanted tokens with
  | none => rfl
  | some record =>
      simp only [Option.map_some, Option.elim_some]
      split
      · exact runs record
      · rfl

theorem checked_runs {outcome : Except ScanTokenFault ScanTokenRecord}
    (done : checked tokens tokenRef presentedHmac serverOrigin receivedAt =
      (after, outcome)) (wanted : String) :
    runsOf after wanted = runsOf tokens wanted := by
  unfold checked at done
  split at done
  · cases done; rfl
  split at done
  · cases done
    exact runsOf_changeToken tokens tokenRef wanted (fun _ => rfl)
      fun _ => rfl
  · split at done
    · cases done; rfl
    · split at done <;> cases done <;> rfl

variable {env : ScanTokenEnvironment} {token : String}

theorem verify_runs {outcome : Except ScanTokenFault VerifiedScanToken}
    (done : env.verify tokens token serverOrigin receivedAt = (after, outcome))
    (wanted : String) : runsOf after wanted = runsOf tokens wanted := by
  unfold ScanTokenEnvironment.verify at done
  split at done
  · cases done; rfl
  split at done
  · next checked =>
      cases done
      exact checked_runs checked wanted
  · next checked =>
      cases done
      exact checked_runs checked wanted

theorem verify_ok {verified : VerifiedScanToken}
    (done : env.verify tokens token serverOrigin receivedAt =
      (after, .ok verified)) :
    ∃ record, ValidToken env tokens token serverOrigin receivedAt record ∧
      verified = record.verified := by
  unfold ScanTokenEnvironment.verify at done
  split at done
  · cases done
  rename_i tokenRef presentedHmac presented
  split at done
  · cases done
  rename_i record checked
  cases done
  obtain ⟨-, found, same, inTime, origin⟩ := checked_ok checked
  cases tokenWithRef_ref found
  exact ⟨record, ⟨same ▸ presented, found, inTime, origin⟩, rfl⟩

/-- The spec of `start_run`: a run of a valid token that has one left. -/
theorem startRun_ok {started : VerifiedScanToken}
    (done : env.startRun tokens token serverOrigin receivedAt =
      (after, .ok started)) :
    ∃ record, ValidToken env tokens token serverOrigin receivedAt record ∧
      record.usedRuns < maxScanTokenRuns ∧
      started = record.started.verified ∧
      after = changeToken record.tokenRef ScanTokenRecord.started tokens := by
  unfold ScanTokenEnvironment.startRun storeStartRun at done
  split at done
  · cases done
  rename_i tokenRef presentedHmac presented
  split at done
  · cases done
  rename_i counted
  cases done
  split at counted
  · cases counted
  rename_i record checked
  obtain ⟨rfl, found, same, inTime, origin⟩ := checked_ok checked
  cases tokenWithRef_ref found
  split at counted
  · cases counted
  rename_i left
  cases counted
  exact ⟨record, ⟨same ▸ presented, found, inTime, origin⟩,
    Nat.not_le.mp left, rfl, rfl⟩

/-- A refused `start_run` uses no run. -/
theorem startRun_error {fault : ScanTokenFault}
    (done : env.startRun tokens token serverOrigin receivedAt =
      (after, .error fault)) (wanted : String) :
    runsOf after wanted = runsOf tokens wanted := by
  unfold ScanTokenEnvironment.startRun storeStartRun at done
  split at done
  · cases done; rfl
  split at done
  · next counted =>
      cases done
      split at counted
      · next checked =>
          cases counted
          exact checked_runs checked wanted
      rename_i record checked
      split at counted
      · cases counted
        exact checked_runs checked wanted
      · cases counted
  · cases done

theorem runsOf_started
    (stored : tokenWithRef record.tokenRef tokens = some record)
    (wanted : String) :
    runsOf (changeToken record.tokenRef ScanTokenRecord.started tokens)
        wanted =
      runsOf tokens wanted + if wanted = record.tokenRef then 1 else 0 := by
  have keeps : ∀ token : ScanTokenRecord,
      token.started.tokenRef = token.tokenRef := fun _ => rfl
  unfold runsOf
  rw [tokenWithRef_changeToken wanted record.tokenRef keeps]
  by_cases same : wanted = record.tokenRef
  · subst same
    simp only [stored, Option.map_some, if_true, Option.elim_some]
    rfl
  · simp only [same, if_false, Nat.add_zero]
    cases tokenWithRef wanted tokens <;> rfl

/-- The spec of `issue` for the runs: a new token has used none. -/
theorem issue_runs {organizationId subjectUserId secret : String}
    {issuedAt : DateTime} {ttl : Int}
    {outcome : Except ScanTokenFault IssuedScanToken}
    (done : env.issue tokens organizationId subjectUserId serverOrigin issuedAt
      ttl tokenRef secret = (after, outcome)) (wanted : String) :
    runsOf after wanted = runsOf tokens wanted := by
  unfold ScanTokenEnvironment.issue at done
  split at done
  · cases done; rfl
  split at done
  · cases done; rfl
  split at done
  · cases done; rfl
  split at done
  · cases done; rfl
  cases done
  unfold runsOf tokenWithRef
  rw [Table.lookup_append]
  cases found : Table.lookup ScanTokenRecord.tokenRef wanted tokens with
  | some record => rfl
  | none =>
      simp only [Option.none_or, Option.elim_none, Table.lookup,
        List.find?_cons, List.find?_nil]
      split <;> rfl

def scanApprovalTtl : Int := minutes 10

inductive ScanApprovalState where
  | pending
  | approved
  | declined
  | expired
deriving DecidableEq

inductive ScanApprovalErrorCode where
  | notFound
  | ownerMismatch
  | alreadyDecided
  | expired
  | deviceNameInvalid
deriving DecidableEq

/-- Exceptions that leave a call of the approval service. -/
inductive ScanApprovalFault where
  | approval (code : ScanApprovalErrorCode)
  /-- A `ValueError` of the service or its store. -/
  | value
deriving DecidableEq

structure ScanApprovalRecord where
  requestId : String
  organizationId : String
  subjectUserId : String
  deviceName : String
  requestedAt : DateTime
  expiresAt : DateTime
  state : ScanApprovalState
  elevatedConsent : Bool
  decidedAt : Option DateTime
  grantCode : Option String
  assetId : Option String

structure RequestedScanApproval where
  requestId : String
  deviceName : String
  expiresAt : DateTime

structure ScanApprovalView where
  requestId : String
  deviceName : String
  state : ScanApprovalState
  elevatedConsent : Bool
  decidedAt : Option DateTime
  grantCode : Option String
  assetId : Option String
deriving DecidableEq

def effectiveState (record : ScanApprovalRecord) (receivedAt : DateTime) :
    ScanApprovalState :=
  if record.state = .pending ∧ receivedAt > record.expiresAt then .expired
  else record.state

def viewOf (record : ScanApprovalRecord) (state : ScanApprovalState)
    (includeGrant : Bool) : ScanApprovalView :=
  { requestId := record.requestId
    deviceName := record.deviceName
    state := state
    elevatedConsent := record.elevatedConsent
    decidedAt := record.decidedAt
    grantCode :=
      if includeGrant = true ∧ state = .approved then record.grantCode
      else none
    assetId := record.assetId }

/-- A character of `[A-Za-z0-9]`. -/
def isAlphanumeric (character : Char) : Bool :=
  decide ('A' ≤ character ∧ character ≤ 'Z') ||
    decide ('a' ≤ character ∧ character ≤ 'z') ||
    decide ('0' ≤ character ∧ character ≤ '9')

/-- `_DEVICE_NAME_PATTERN.fullmatch`. -/
def isDeviceName (deviceName : String) : Bool :=
  match deviceName.toList with
  | [] => false
  | first :: rest =>
      isAlphanumeric first && decide (rest.length ≤ 63) &&
        rest.all fun character =>
          isAlphanumeric character || ['.', '_', '-'].contains character

def approvalWithId (requestId : String)
    (approvals : List ScanApprovalRecord) : Option ScanApprovalRecord :=
  Table.lookup ScanApprovalRecord.requestId requestId approvals

def ScanApprovalRecord.requested (requestId organizationId subjectUserId
    deviceName : String) (requestedAt : DateTime) (ttl : Int) :
    ScanApprovalRecord :=
  { requestId := requestId
    organizationId := organizationId
    subjectUserId := subjectUserId
    deviceName := deviceName
    requestedAt := requestedAt
    expiresAt := requestedAt + ttl
    state := .pending
    elevatedConsent := false
    decidedAt := none
    grantCode := none
    assetId := none }

/-- `request`, with the identifier that it draws. -/
def requestApproval (approvals : List ScanApprovalRecord)
    (organizationId subjectUserId deviceName : String)
    (requestedAt : DateTime) (ttl : Int) (requestId : String) :
    Except ScanApprovalFault
      (List ScanApprovalRecord × RequestedScanApproval) :=
  if isDeviceName deviceName = false then
    .error (.approval .deviceNameInvalid)
  else if ttl ≤ 0 ∨ ttl > scanApprovalTtl then .error .value
  else if (approvalWithId requestId approvals).isSome then .error .value
  else
    .ok (approvals ++ [.requested requestId organizationId subjectUserId
        deviceName requestedAt ttl],
      { requestId := requestId
        deviceName := deviceName
        expiresAt := requestedAt + ttl })

def requireApproval (approvals : List ScanApprovalRecord)
    (requestId : String) : Except ScanApprovalFault ScanApprovalRecord :=
  match approvalWithId requestId approvals with
  | none => .error (.approval .notFound)
  | some record => .ok record

def pendingView (approvals : List ScanApprovalRecord)
    (requestId viewerUserId : String) (receivedAt : DateTime)
    (includeGrant : Bool) : Except ScanApprovalFault ScanApprovalView := do
  let record ← requireApproval approvals requestId
  if record.subjectUserId ≠ viewerUserId then
    .error (.approval .ownerMismatch)
  else .ok (viewOf record (effectiveState record receivedAt) includeGrant)

def poll (approvals : List ScanApprovalRecord) (requestId : String)
    (receivedAt : DateTime) : Except ScanApprovalFault ScanApprovalView := do
  let record ← requireApproval approvals requestId
  .ok (viewOf record (effectiveState record receivedAt) true)

/-- What the owner decides. -/
inductive Decision where
  | approve (elevatedConsent : Bool) (grantCode assetId : Option String)
  | decline
deriving DecidableEq

/-- The record with the decision, by `approve` or `decline`. -/
def ScanApprovalRecord.decided (record : ScanApprovalRecord)
    (decidedAt : DateTime) : Decision → ScanApprovalRecord
  | .approve elevatedConsent grantCode assetId =>
      { record with
        state := .approved
        elevatedConsent := elevatedConsent
        decidedAt := some decidedAt
        grantCode := grantCode
        assetId := assetId }
  | .decline =>
      { record with
        state := .declined
        elevatedConsent := false
        decidedAt := some decidedAt
        grantCode := none
        assetId := none }

/-- `_decide`, under the lock of the service. -/
def decideApproval (approvals : List ScanApprovalRecord)
    (requestId approvingUserId : String) (decision : Decision)
    (decidedAt : DateTime) :
    Except ScanApprovalFault (List ScanApprovalRecord × ScanApprovalView) := do
  let record ← requireApproval approvals requestId
  if record.subjectUserId ≠ approvingUserId then
    .error (.approval .ownerMismatch)
  else if record.state ≠ .pending then .error (.approval .alreadyDecided)
  else if decidedAt > record.expiresAt then .error (.approval .expired)
  else
    let decided := record.decided decidedAt decision
    .ok (Table.updateWhere (fun stored => stored.requestId == requestId)
        (fun _ => decided) approvals,
      viewOf decided decided.state true)

variable {approvals : List ScanApprovalRecord} {requestId : String}
  {record : ScanApprovalRecord}

theorem requireApproval_ok
    (found : requireApproval approvals requestId = .ok record) :
    approvalWithId requestId approvals = some record := by
  unfold requireApproval at found
  split at found
  · cases found
  · next stored =>
      cases found
      exact stored

theorem approvalWithId_id
    (found : approvalWithId requestId approvals = some record) :
    record.requestId = requestId :=
  Table.lookup_key found

@[simp] theorem decided_requestId (record : ScanApprovalRecord)
    (decidedAt : DateTime) (decision : Decision) :
    (record.decided decidedAt decision).requestId = record.requestId := by
  cases decision <;> rfl

theorem decided_not_pending (record : ScanApprovalRecord)
    (decidedAt : DateTime) (decision : Decision) :
    (record.decided decidedAt decision).state ≠ .pending := by
  cases decision <;> nofun

/-- The spec of `_decide`: the owner decides a pending request in time. -/
structure DecidedNow (before : List ScanApprovalRecord)
    (requestId approvingUserId : String) (decision : Decision)
    (decidedAt : DateTime) (record : ScanApprovalRecord)
    (after : List ScanApprovalRecord) : Prop where
  stored : approvalWithId requestId before = some record
  owner : record.subjectUserId = approvingUserId
  undecided : record.state = .pending
  inTime : decidedAt ≤ record.expiresAt
  written : ∀ wanted, approvalWithId wanted after =
    if wanted = requestId then some (record.decided decidedAt decision)
    else approvalWithId wanted before

variable {view : ScanApprovalView}

theorem decideApproval_ok {after : List ScanApprovalRecord}
    {approvingUserId : String} {decision : Decision} {decidedAt : DateTime}
    (done : decideApproval approvals requestId approvingUserId decision
      decidedAt = .ok (after, view)) :
    ∃ record, DecidedNow approvals requestId approvingUserId decision decidedAt
        record after ∧
      view = viewOf (record.decided decidedAt decision)
        (record.decided decidedAt decision).state true := by
  unfold decideApproval at done
  cases found : requireApproval approvals requestId with
  | error fault =>
      rw [found] at done
      cases done
  | ok record =>
      rw [found] at done
      simp only [bind, Except.bind] at done
      split at done
      · cases done
      rename_i owner
      split at done
      · cases done
      rename_i undecided
      split at done
      · cases done
      rename_i inTime
      cases done
      refine ⟨record, ⟨requireApproval_ok found,
        not_not.mp owner, not_not.mp undecided,
        Int.not_lt.mp inTime, ?_⟩, rfl⟩
      intro wanted
      have stored := requireApproval_ok found
      have id := approvalWithId_id stored
      unfold approvalWithId at stored ⊢
      rw [Table.lookup_updateWhere]
      · by_cases same : wanted = requestId
        · subst same
          simp [stored, id]
        rw [if_neg same]
        cases other : Table.lookup ScanApprovalRecord.requestId
            wanted approvals with
        | none => rfl
        | some stored =>
            have key := Table.lookup_key other
            simp [key, same]
      · intro row met
        rw [decided_requestId, id]
        exact (eq_of_beq met).symm

/-- The spec of `request`: a new pending request. -/
theorem requestApproval_ok {after : List ScanApprovalRecord}
    {organizationId subjectUserId deviceName : String}
    {requestedAt : DateTime} {ttl : Int} {requested : RequestedScanApproval}
    (done : requestApproval approvals organizationId subjectUserId deviceName
      requestedAt ttl requestId = .ok (after, requested)) :
    approvalWithId requestId approvals = none ∧
      ∀ wanted, approvalWithId wanted after =
        if wanted = requestId then
          some (.requested requestId organizationId subjectUserId deviceName
            requestedAt ttl)
        else approvalWithId wanted approvals := by
  unfold requestApproval at done
  split at done
  · cases done
  split at done
  · cases done
  split at done
  · cases done
  rename_i absent
  cases done
  have missing := Option.not_isSome_iff_eq_none.mp absent
  refine ⟨missing, ?_⟩
  intro wanted
  unfold approvalWithId at missing ⊢
  rw [Table.lookup_append]
  by_cases same : wanted = requestId
  · subst same
    rw [missing]
    simp [Table.lookup, ScanApprovalRecord.requested]
  · have different : requestId ≠ wanted := Ne.symm same
    simp [Table.lookup, ScanApprovalRecord.requested, same,
      different]

variable {receivedAt : DateTime}

/-- The spec of `pending_view`: the request of the viewer. -/
theorem pendingView_ok {viewerUserId : String} {includeGrant : Bool}
    (done : pendingView approvals requestId viewerUserId receivedAt
      includeGrant = .ok view) :
    ∃ record, approvalWithId requestId approvals = some record ∧
      record.subjectUserId = viewerUserId ∧
      view = viewOf record (effectiveState record receivedAt)
        includeGrant := by
  unfold pendingView at done
  cases found : requireApproval approvals requestId with
  | error fault =>
      rw [found] at done
      cases done
  | ok record =>
      rw [found] at done
      simp only [bind, Except.bind] at done
      split at done
      · cases done
      · next owner =>
          cases done
          exact ⟨record, requireApproval_ok found, not_not.mp owner, rfl⟩

theorem poll_ok (done : poll approvals requestId receivedAt = .ok view) :
    ∃ record, approvalWithId requestId approvals = some record ∧
      view = viewOf record (effectiveState record receivedAt) true := by
  unfold poll at done
  cases found : requireApproval approvals requestId with
  | error fault =>
      rw [found] at done
      cases done
  | ok record =>
      rw [found] at done
      cases done
      exact ⟨record, requireApproval_ok found, rfl⟩

theorem effectiveState_eq_expired (legal : record.state ≠ .expired) :
    effectiveState record receivedAt = .expired ↔
      record.state = .pending ∧ record.expiresAt < receivedAt := by
  unfold effectiveState
  split
  · next lapsed => exact ⟨fun _ => lapsed, fun _ => rfl⟩
  · next still =>
      exact ⟨fun same => absurd same legal, fun lapsed => absurd lapsed still⟩

theorem effectiveState_eq_approved :
    effectiveState record receivedAt = .approved ↔
      record.state = .approved := by
  unfold effectiveState
  split
  · next lapsed =>
      rw [lapsed.1]
      exact ⟨nofun, nofun⟩
  · exact Iff.rfl

open Interleaving

structure RegisteredScanSession where
  requestId : String
  deviceName : String
  approveUrl : String
  expiresAt : DateTime
  remainingRuns : Nat
deriving DecidableEq

structure AuthorizedScan where
  requestId : String
  organizationId : String
  subjectUserId : String
  deviceName : String
  elevatedConsent : Bool
  grantCode : Option String
  assetId : Option String

/-- What the approval page shows of a request. -/
structure ApprovalPage where
  requestId : String
  deviceName : String
  state : ScanApprovalState
  elevatedConsent : Bool

/-- A `register` between its two calls.  `tokenRef` names the token whose run
it has used. -/
structure Registration where
  tokenRef : String
  started : VerifiedScanToken
  deviceName : String
  receivedAt : DateTime

/-- The endpoint that calls `authorize_exchange`: `grant_scan_code` or
`submit_windows_scan_result`. -/
inductive ExchangePurpose where
  | grant
  | results
deriving DecidableEq

/-- An `authorize_exchange` between its two calls. -/
structure Authorization where
  purpose : ExchangePurpose
  verified : VerifiedScanToken
  requestId : String
  receivedAt : DateTime

/-- Both stores, the clock, and the calls on their way. -/
structure SessionState where
  now : DateTime
  tokens : List ScanTokenRecord
  approvals : List ScanApprovalRecord
  registering : List Registration
  authorizing : List Authorization

def emptySessions (now : DateTime) : SessionState :=
  { now := now
    tokens := []
    approvals := []
    registering := []
    authorizing := [] }

/-- One step.  `issuedAt`, `receivedAt` and `decidedAt` are clock readings of
the endpoint. -/
inductive SessionLabel where
  /-- Time passes. -/
  | tick (elapsed : Nat)
  /-- `issue_token`, with the reference and the secret that are drawn. -/
  | issueToken (organizationId subjectUserId serverOrigin : String)
      (issuedAt : DateTime) (tokenRef secret : String)
  /-- The first call of `register`. -/
  | startRun (token deviceName serverOrigin : String) (receivedAt : DateTime)
  /-- The second call of `register`, with the identifier that is drawn. -/
  | request (index : Nat) (requestId : String)
  /-- `decide_scan_approval`, from its last call on. -/
  | decide (requestId approvingUserId : String) (decision : Decision)
      (decidedAt : DateTime)
  /-- `poll_scan_approval`. -/
  | poll (requestId : String) (receivedAt : DateTime)
  /-- `scan_approval_page`. -/
  | page (requestId viewerUserId : String) (receivedAt : DateTime)
  /-- The first call of `authorize_exchange`. -/
  | verifyToken (purpose : ExchangePurpose) (token requestId serverOrigin :
      String) (receivedAt : DateTime)
  /-- The second call of `authorize_exchange`. -/
  | exchange (index : Nat)
deriving DecidableEq

def SessionLabel.reading : SessionLabel → Option DateTime
  | .issueToken _ _ _ issuedAt _ _ => some issuedAt
  | .startRun _ _ _ receivedAt => some receivedAt
  | .decide _ _ _ decidedAt => some decidedAt
  | .poll _ receivedAt => some receivedAt
  | .page _ _ receivedAt => some receivedAt
  | .verifyToken _ _ _ _ receivedAt => some receivedAt
  | .tick _ | .request _ _ | .exchange _ => none

/-- What a step gives to whoever made the request.  `started` names the token
and `verified` nothing: the request goes on. -/
inductive SessionAnswer where
  | ticked
  /-- An exception. -/
  | failed
  | issued (token : IssuedScanToken)
  | started (tokenRef : String)
  | registered (session : RegisteredScanSession)
  | decided (page : ApprovalPage)
  | polled (view : ScanApprovalView)
  | viewed (view : ScanApprovalView)
  | verified
  | granted (scan : AuthorizedScan)
  | accepted (requestId : String)

def SessionAnswer.grantCode : SessionAnswer → Option String
  | .polled view => view.grantCode
  | .viewed view => view.grantCode
  | .granted scan => scan.grantCode
  | _ => none

/-! ## The calls -/

/-- `ScanSessionService.poll`. -/
def sessionPoll (approvals : List ScanApprovalRecord) (requestId : String)
    (receivedAt : DateTime) : Except ScanApprovalFault ScanApprovalView := do
  let view ← poll approvals requestId receivedAt
  .ok { view with grantCode := none }

/-- The session that `register` returns. -/
def Registration.session (registration : Registration)
    (requested : RequestedScanApproval) : RegisteredScanSession :=
  { requestId := requested.requestId
    deviceName := requested.deviceName
    approveUrl := registration.started.serverOrigin ++ "/ui/scan-approve" ++
      "?req=" ++ requested.requestId
    expiresAt := requested.expiresAt
    remainingRuns := registration.started.remainingRuns }

def ScanApprovalView.page (view : ScanApprovalView) : ApprovalPage :=
  { requestId := view.requestId
    deviceName := view.deviceName
    state := view.state
    elevatedConsent := view.elevatedConsent }

/-- The scan that `authorize_exchange` returns. -/
def Authorization.scan (authorization : Authorization)
    (view : ScanApprovalView) : AuthorizedScan :=
  { requestId := view.requestId
    organizationId := authorization.verified.organizationId
    subjectUserId := authorization.verified.subjectUserId
    deviceName := view.deviceName
    elevatedConsent := view.elevatedConsent
    grantCode := view.grantCode
    assetId := view.assetId }

/-- The second call of `authorize_exchange`, and what its endpoint answers. -/
def Authorization.answer (authorization : Authorization)
    (approvals : List ScanApprovalRecord) : SessionAnswer :=
  match pendingView approvals authorization.requestId
      authorization.verified.subjectUserId authorization.receivedAt true with
  | .error _ => .failed
  | .ok view =>
      if view.state ≠ .approved then .failed
      else
        match authorization.purpose with
        | .grant =>
            if view.grantCode.isNone then .failed
            else .granted (authorization.scan view)
        | .results =>
            if view.assetId.isNone then .failed
            else .accepted view.requestId

/-! ## The machine -/

section Machine

variable (env : ScanTokenEnvironment)

def ScanTokenEnvironment.tokenRefOf (token : String) : String :=
  match env.presented token with
  | .ok (tokenRef, _) => tokenRef
  | .error _ => ""

/-- The first call of `register`. -/
def startRegistration (state : SessionState)
    (token deviceName serverOrigin : String) (receivedAt : DateTime) :
    SessionAnswer × SessionState :=
  match env.startRun state.tokens token serverOrigin receivedAt with
  | (tokens, .error _) => (.failed, { state with tokens := tokens })
  | (tokens, .ok started) =>
      (.started (env.tokenRefOf token), { state with
        tokens := tokens
        registering := state.registering ++
          [{ tokenRef := env.tokenRefOf token
             started := started
             deviceName := deviceName
             receivedAt := receivedAt }] })

/-- The second call of `register`. -/
def finishRegistration (state : SessionState) (index : Nat)
    (requestId : String) : Option (SessionAnswer × SessionState) :=
  match state.registering[index]? with
  | none => none
  | some registration =>
      let registering := state.registering.eraseIdx index
      match requestApproval state.approvals
          registration.started.organizationId
          registration.started.subjectUserId registration.deviceName
          registration.receivedAt scanApprovalTtl requestId with
      | .error _ => some (.failed, { state with registering := registering })
      | .ok (approvals, requested) =>
          some (.registered (registration.session requested),
            { state with approvals := approvals, registering := registering })

/-- The last call of `decide_scan_approval`. -/
def finishDecision (state : SessionState)
    (requestId approvingUserId : String) (decision : Decision)
    (decidedAt : DateTime) : SessionAnswer × SessionState :=
  match decideApproval state.approvals requestId approvingUserId decision
      decidedAt with
  | .error _ => (.failed, state)
  | .ok (approvals, view) =>
      (.decided view.page, { state with approvals := approvals })

/-- The first call of `authorize_exchange`. -/
def startAuthorization (state : SessionState) (purpose : ExchangePurpose)
    (token requestId serverOrigin : String) (receivedAt : DateTime) :
    SessionAnswer × SessionState :=
  match env.verify state.tokens token serverOrigin receivedAt with
  | (tokens, .error _) => (.failed, { state with tokens := tokens })
  | (tokens, .ok verified) =>
      (.verified, { state with
        tokens := tokens
        authorizing := state.authorizing ++
          [{ purpose := purpose
             verified := verified
             requestId := requestId
             receivedAt := receivedAt }] })

def sessionStep (state : SessionState) :
    SessionLabel → Option (SessionAnswer × SessionState)
  | .tick elapsed => some (.ticked, { state with now := state.now + elapsed })
  | .issueToken organizationId subjectUserId serverOrigin issuedAt tokenRef
      secret =>
      match env.issue state.tokens organizationId subjectUserId serverOrigin
        issuedAt scanTokenTtl tokenRef secret with
      | (_, .error _) => some (.failed, state)
      | (tokens, .ok issued) =>
          some (.issued issued, { state with tokens := tokens })
  | .startRun token deviceName serverOrigin receivedAt =>
      some (startRegistration env state token deviceName serverOrigin
        receivedAt)
  | .request index requestId => finishRegistration state index requestId
  | .decide requestId approvingUserId decision decidedAt =>
      some (finishDecision state requestId approvingUserId decision decidedAt)
  | .poll requestId receivedAt =>
      match sessionPoll state.approvals requestId receivedAt with
      | .error _ => some (.failed, state)
      | .ok view => some (.polled view, state)
  | .page requestId viewerUserId receivedAt =>
      match pendingView state.approvals requestId viewerUserId receivedAt
          false with
      | .error _ => some (.failed, state)
      | .ok view => some (.viewed view, state)
  | .verifyToken purpose token requestId serverOrigin receivedAt =>
      some (startAuthorization env state purpose token requestId serverOrigin
        receivedAt)
  | .exchange index =>
      match state.authorizing[index]? with
      | none => none
      | some authorization =>
          some (authorization.answer state.approvals, { state with
            authorizing := state.authorizing.eraseIdx index })

/-- The calls in any order, each with a clock reading made before it. -/
def sessionMachine : Machine SessionState SessionLabel SessionAnswer where
  step state label :=
    if label.reading.all fun reading => reading ≤ state.now then
      sessionStep env state label
    else none

end Machine

/-! ## What a step does -/

/-- Everything that one step can do. -/
inductive SessionStep (env : ScanTokenEnvironment) (before : SessionState) :
    SessionLabel → SessionAnswer → SessionState → Prop where
  /-- Nothing but the clock, the failures of a token and the calls that have
  raised can change. -/
  | passed {label : SessionLabel} {answer : SessionAnswer}
      {after : SessionState} (answered : answer = .ticked ∨ answer = .failed)
      (runs : ∀ tokenRef,
        runsOf after.tokens tokenRef = runsOf before.tokens tokenRef)
      (approvals : after.approvals = before.approvals)
      (registering : after.registering.Sublist before.registering)
      (authorizing : after.authorizing.Sublist before.authorizing) :
      SessionStep env before label answer after
  | issued {label : SessionLabel} {tokens : List ScanTokenRecord}
      {token : IssuedScanToken}
      (runs : ∀ tokenRef,
        runsOf tokens tokenRef = runsOf before.tokens tokenRef) :
      SessionStep env before label (.issued token)
        { before with tokens := tokens }
  | started {token deviceName serverOrigin : String} {receivedAt : DateTime}
      {record : ScanTokenRecord} {registration : Registration}
      (valid : ValidToken env before.tokens token serverOrigin receivedAt
        record)
      (left : record.usedRuns < maxScanTokenRuns)
      (names : registration.tokenRef = record.tokenRef) :
      SessionStep env before
        (.startRun token deviceName serverOrigin receivedAt)
        (.started record.tokenRef)
        { before with
          tokens := changeToken record.tokenRef ScanTokenRecord.started
            before.tokens
          registering := before.registering ++ [registration] }
  | registered {index : Nat} {requestId : String}
      {registration : Registration} {approvals : List ScanApprovalRecord}
      {record : ScanApprovalRecord} {session : RegisteredScanSession}
      (waiting : before.registering[index]? = some registration)
      (absent : approvalWithId requestId before.approvals = none)
      (pending : record.state = .pending)
      (written : ∀ wanted, approvalWithId wanted approvals =
        if wanted = requestId then some record
        else approvalWithId wanted before.approvals) :
      SessionStep env before (.request index requestId) (.registered session)
        { before with
          approvals := approvals
          registering := before.registering.eraseIdx index }
  | decided {requestId approvingUserId : String} {decision : Decision}
      {decidedAt : DateTime} {record : ScanApprovalRecord}
      {approvals : List ScanApprovalRecord} {page : ApprovalPage}
      (now : DecidedNow before.approvals requestId approvingUserId decision
        decidedAt record approvals) :
      SessionStep env before
        (.decide requestId approvingUserId decision decidedAt) (.decided page)
        { before with approvals := approvals }
  | polled {requestId : String} {receivedAt : DateTime}
      {record : ScanApprovalRecord} {view : ScanApprovalView}
      (stored : approvalWithId requestId before.approvals = some record)
      (state : view.state = effectiveState record receivedAt)
      (silent : view.grantCode = none) :
      SessionStep env before (.poll requestId receivedAt) (.polled view) before
  | viewed {requestId viewerUserId : String} {receivedAt : DateTime}
      {record : ScanApprovalRecord} {view : ScanApprovalView}
      (stored : approvalWithId requestId before.approvals = some record)
      (state : view.state = effectiveState record receivedAt)
      (silent : view.grantCode = none) :
      SessionStep env before (.page requestId viewerUserId receivedAt)
        (.viewed view) before
  | verified {token serverOrigin : String} {record : ScanTokenRecord}
      {authorization : Authorization} {tokens : List ScanTokenRecord}
      (valid : ValidToken env before.tokens token serverOrigin
        authorization.receivedAt record)
      (carries : authorization.verified = record.verified)
      (runs : ∀ tokenRef,
        runsOf tokens tokenRef = runsOf before.tokens tokenRef) :
      SessionStep env before
        (.verifyToken authorization.purpose token authorization.requestId
          serverOrigin authorization.receivedAt) .verified
        { before with
          tokens := tokens
          authorizing := before.authorizing ++ [authorization] }
  | granted {index : Nat} {authorization : Authorization}
      {record : ScanApprovalRecord} {scan : AuthorizedScan}
      (waiting : before.authorizing[index]? = some authorization)
      (purpose : authorization.purpose = .grant)
      (stored : approvalWithId authorization.requestId before.approvals =
        some record)
      (owner : record.subjectUserId = authorization.verified.subjectUserId)
      (approved : record.state = .approved)
      (code : scan.grantCode = record.grantCode) :
      SessionStep env before (.exchange index) (.granted scan)
        { before with authorizing := before.authorizing.eraseIdx index }
  | accepted {index : Nat} {requestId : String} :
      SessionStep env before (.exchange index) (.accepted requestId)
        { before with authorizing := before.authorizing.eraseIdx index }

variable {before after : SessionState} {serverOrigin : String}

theorem issue_cases {env : ScanTokenEnvironment}
    {organizationId subjectUserId tokenRef secret : String}
    {issuedAt : DateTime} {answer : SessionAnswer}
    (made : sessionStep env before (.issueToken organizationId subjectUserId
      serverOrigin issuedAt tokenRef secret) = some (answer, after)) :
    SessionStep env before (.issueToken organizationId subjectUserId
      serverOrigin issuedAt tokenRef secret) answer after := by
  simp only [sessionStep] at made
  split at made
  · cases made
    exact .passed (.inr rfl) (fun _ => rfl) rfl (.refl _) (.refl _)
  · next issued =>
      cases made
      exact .issued fun wanted => issue_runs issued wanted

variable {receivedAt : DateTime}

theorem start_registration_cases {env : ScanTokenEnvironment}
    {token deviceName : String} {answer : SessionAnswer}
    (made : startRegistration env before token deviceName serverOrigin
      receivedAt = (answer, after)) :
    SessionStep env before (.startRun token deviceName serverOrigin receivedAt)
      answer after := by
  unfold startRegistration at made
  split at made
  · next done =>
      cases made
      exact .passed (.inr rfl) (fun wanted => startRun_error done wanted) rfl
        (.refl _) (.refl _)
  · next tokens started done =>
      cases made
      obtain ⟨record, valid, left, rfl, rfl⟩ := startRun_ok done
      have names : env.tokenRefOf token = record.tokenRef := by
        unfold ScanTokenEnvironment.tokenRefOf
        rw [valid.presented]
      rw [names]
      exact .started valid left rfl

variable {requestId : String}

theorem finish_registration_cases {env : ScanTokenEnvironment} {index : Nat}
    {answer : SessionAnswer}
    (made : finishRegistration before index requestId =
      some (answer, after)) :
    SessionStep env before (.request index requestId) answer after := by
  unfold finishRegistration at made
  split at made
  · cases made
  rename_i registration waiting
  dsimp only at made
  split at made
  · cases made
    exact .passed (.inr rfl) (fun _ => rfl) rfl
      (List.eraseIdx_sublist _ _) (.refl _)
  rename_i approvals requested done
  cases made
  obtain ⟨absent, written⟩ := requestApproval_ok done
  exact .registered waiting absent rfl written

theorem finish_decision_cases {env : ScanTokenEnvironment}
    {approvingUserId : String} {decision : Decision} {decidedAt : DateTime}
    {answer : SessionAnswer}
    (made : finishDecision before requestId approvingUserId decision
      decidedAt = (answer, after)) :
    SessionStep env before
      (.decide requestId approvingUserId decision decidedAt) answer after := by
  unfold finishDecision at made
  split at made
  · cases made
    exact .passed (.inr rfl) (fun _ => rfl) rfl (.refl _) (.refl _)
  rename_i done
  cases made
  obtain ⟨record, now, -⟩ := decideApproval_ok done
  exact .decided now

theorem poll_cases {env : ScanTokenEnvironment} {answer : SessionAnswer}
    (made : sessionStep env before (.poll requestId receivedAt) =
      some (answer, after)) :
    SessionStep env before (.poll requestId receivedAt) answer after := by
  simp only [sessionStep] at made
  split at made
  · cases made
    exact .passed (.inr rfl) (fun _ => rfl) rfl (.refl _) (.refl _)
  rename_i done
  cases made
  unfold sessionPoll at done
  cases polled : poll before.approvals requestId receivedAt with
  | error fault =>
      rw [polled] at done
      cases done
  | ok view =>
      rw [polled] at done
      cases done
      obtain ⟨record, stored, rfl⟩ := poll_ok polled
      exact .polled stored rfl rfl

theorem page_cases {env : ScanTokenEnvironment} {viewerUserId : String}
    {answer : SessionAnswer}
    (made : sessionStep env before (.page requestId viewerUserId receivedAt) =
      some (answer, after)) :
    SessionStep env before (.page requestId viewerUserId receivedAt) answer
      after := by
  simp only [sessionStep] at made
  split at made
  · cases made
    exact .passed (.inr rfl) (fun _ => rfl) rfl (.refl _) (.refl _)
  rename_i done
  cases made
  obtain ⟨record, stored, _, rfl⟩ := pendingView_ok done
  exact .viewed stored rfl rfl

theorem start_authorization_cases {env : ScanTokenEnvironment}
    {purpose : ExchangePurpose} {token : String} {answer : SessionAnswer}
    (made : startAuthorization env before purpose token requestId serverOrigin
      receivedAt = (answer, after)) :
    SessionStep env before
      (.verifyToken purpose token requestId serverOrigin receivedAt) answer
      after := by
  unfold startAuthorization at made
  split at made
  · next done =>
      cases made
      exact .passed (.inr rfl) (fun wanted => verify_runs done wanted) rfl
        (.refl _) (.refl _)
  · next tokens verified done =>
      cases made
      obtain ⟨record, valid, carries⟩ := verify_ok done
      exact @SessionStep.verified env before token serverOrigin record
        ⟨purpose, verified, requestId, receivedAt⟩ tokens valid carries
        fun wanted => verify_runs done wanted

theorem exchange_cases {env : ScanTokenEnvironment} {index : Nat}
    {authorization : Authorization}
    (waiting : before.authorizing[index]? = some authorization) :
    SessionStep env before (.exchange index)
      (authorization.answer before.approvals)
      { before with authorizing := before.authorizing.eraseIdx index } := by
  have failed : SessionStep env before (.exchange index) .failed
      { before with authorizing := before.authorizing.eraseIdx index } :=
    .passed (.inr rfl) (fun _ => rfl) rfl (.refl _)
      (List.eraseIdx_sublist _ _)
  unfold Authorization.answer
  split
  · exact failed
  rename_i view done
  obtain ⟨record, stored, owner, rfl⟩ := pendingView_ok done
  split
  · exact failed
  rename_i approved
  have state : record.state = .approved :=
    effectiveState_eq_approved.mp (not_not.mp approved)
  split
  · next purpose =>
      split
      · exact failed
      · refine .granted waiting purpose stored owner state ?_
        simp [Authorization.scan, viewOf,
          effectiveState_eq_approved.mpr state]
  · split
    · exact failed
    · exact .accepted

/-- The step lemma of the sessions. -/
theorem session_step_cases {env : ScanTokenEnvironment} {label : SessionLabel}
    {answer : SessionAnswer}
    (made : (sessionMachine env).step before label = some (answer, after)) :
    SessionStep env before label answer after := by
  simp only [sessionMachine] at made
  split at made
  · cases label with
    | tick elapsed =>
        cases made
        exact .passed (.inl rfl) (fun _ => rfl) rfl (.refl _) (.refl _)
    | issueToken organizationId subjectUserId serverOrigin issuedAt tokenRef
        secret => exact issue_cases made
    | startRun token deviceName serverOrigin receivedAt =>
        exact start_registration_cases (Option.some.inj made)
    | request index requestId => exact finish_registration_cases made
    | decide requestId approvingUserId decision decidedAt =>
        exact finish_decision_cases (Option.some.inj made)
    | poll requestId receivedAt => exact poll_cases made
    | page requestId viewerUserId receivedAt => exact page_cases made
    | verifyToken purpose token requestId serverOrigin receivedAt =>
        exact start_authorization_cases (Option.some.inj made)
    | exchange index =>
        simp only [sessionStep] at made
        split at made
        · cases made
        · next waiting =>
            cases made
            exact exchange_cases waiting
  · cases made

end SecAI.Approval
