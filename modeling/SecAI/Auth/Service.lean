/-
Module: SecAI.Auth.Service
Purpose: The database of accounts, sessions and roles with its atomic calls, and
  the services over them: login, MFA completion, session checks, status changes
  and the account owner's settings.
Trusted boundary: none
Main exports:
  AuthStore.execute, AuthProgram, passwordLogin, authenticate, changeStatus
-/
import SecAI.Common.Values
import SecAI.Common.Table
import SecAI.Interleaving.Program
import SecAI.Auth.Passwords

namespace SecAI.Auth

/-- Roles a person can hold in an organization. -/
inductive HumanRole where
  | user
  | securityOfficer
  | approver
  | admin
deriving DecidableEq

def HumanRole.isPrivileged : HumanRole → Bool
  | .securityOfficer | .approver | .admin => true
  | .user => false

/-- The stage of the login a browser session belongs to. -/
inductive SessionPhase where
  | preAuth
  | mfaPending
  | authenticated
deriving Inhabited, DecidableEq

/-- The `status_allowed` values of `user_accounts`. -/
inductive AccountStatus where
  | pendingApproval
  | active
  | tempLocked
  | disabled
  | rejected
deriving DecidableEq

/-- The status value as the database and the reason codes spell it. -/
def AccountStatus.text : AccountStatus → String
  | .pendingApproval => "PENDING_APPROVAL"
  | .active => "ACTIVE"
  | .tempLocked => "TEMP_LOCKED"
  | .disabled => "DISABLED"
  | .rejected => "REJECTED"

/-- A row of `user_accounts`. -/
structure UserAccountRecord where
  id : Uuid
  organizationId : Uuid
  usernameCanonical : String
  displayName : String
  status : AccountStatus
  passwordHash : String
  credentialVersion : Nat
  roleAssignmentVersion : Nat
  passwordChangedAt : DateTime
  failedAttempts : Nat
  lockedUntil : Option DateTime
  mfaCodeHash : Option String
  mfaIssuedAt : Option DateTime
  mfaExpiresAt : Option DateTime
  createdAt : DateTime
  updatedAt : DateTime
deriving DecidableEq

/-- What the login service reads of an account. -/
structure AccountSnapshot where
  id : Uuid
  organizationId : Uuid
  usernameCanonical : String
  displayName : String
  status : AccountStatus
  passwordHash : String
  credentialVersion : Nat
  roleAssignmentVersion : Nat
  passwordChangedAt : DateTime
  failedAttempts : Nat
  lockedUntil : Option DateTime
  mfaCodeHash : Option String
  mfaIssuedAt : Option DateTime
  mfaExpiresAt : Option DateTime

/-- `_account`: the snapshot of a row. -/
def UserAccountRecord.snapshot (record : UserAccountRecord) :
    AccountSnapshot :=
  { id := record.id
    organizationId := record.organizationId
    usernameCanonical := record.usernameCanonical
    displayName := record.displayName
    status := record.status
    passwordHash := record.passwordHash
    credentialVersion := record.credentialVersion
    roleAssignmentVersion := record.roleAssignmentVersion
    passwordChangedAt := record.passwordChangedAt
    failedAttempts := record.failedAttempts
    lockedUntil := record.lockedUntil
    mfaCodeHash := record.mfaCodeHash
    mfaIssuedAt := record.mfaIssuedAt
    mfaExpiresAt := record.mfaExpiresAt }

/-- What the account administration reads of an account. -/
structure ManagedAccount where
  id : Uuid
  organizationId : Uuid
  username : String
  displayName : String
  status : AccountStatus
  passwordHash : String
  credentialVersion : Nat
  createdAt : DateTime
  updatedAt : DateTime
  mfaCodeHash : Option String
  mfaIssuedAt : Option DateTime
  mfaExpiresAt : Option DateTime

/-- `_managed_account`: the administration's view of a row. -/
def UserAccountRecord.managed (record : UserAccountRecord) : ManagedAccount :=
  { id := record.id
    organizationId := record.organizationId
    username := record.usernameCanonical
    displayName := record.displayName
    status := record.status
    passwordHash := record.passwordHash
    credentialVersion := record.credentialVersion
    createdAt := record.createdAt
    updatedAt := record.updatedAt
    mfaCodeHash := record.mfaCodeHash
    mfaIssuedAt := record.mfaIssuedAt
    mfaExpiresAt := record.mfaExpiresAt }

/-- A row of `browser_sessions`, which is also the stored session the login
service reads back. -/
structure BrowserSessionRecord where
  sessionIdHash : String
  userId : Option Uuid
  activeOrganizationId : Option Uuid
  phase : SessionPhase
  credentialVersion : Nat
  roleAssignmentVersion : Nat
  authMethods : String
  csrfTokenHash : String
  mfaAttempts : Nat
  authenticatedAt : Option DateTime
  reauthenticatedAt : Option DateTime
  createdAt : DateTime
  lastSeenAt : DateTime
  expiresAt : DateTime
  idleExpiresAt : DateTime
  revokedAt : Option DateTime
  revokeReason : Option String
deriving Inhabited, DecidableEq

/-- A row of `organizations`. -/
structure OrganizationRecord where
  id : Uuid
  createdAt : DateTime
deriving DecidableEq

/-- A row of `user_role_assignments`. -/
structure UserRoleAssignmentRecord where
  userId : Uuid
  organizationId : Uuid
  roleName : HumanRole
  grantedAt : DateTime
  revokedAt : Option DateTime
deriving DecidableEq

/-- A row of `user_asset_assignments`. -/
structure UserAssetAssignmentRecord where
  userId : Uuid
  organizationId : Uuid
  assetId : Uuid
  revokedAt : Option DateTime
deriving DecidableEq

/-- A row of the authentication audit log. -/
structure AuthenticationAuditEvent where
  eventType : String
  outcome : String
  reasonCode : String
  sessionReference : Option String
  userId : Option Uuid
  organizationId : Option Uuid
deriving DecidableEq

/-- The identity an authenticated request acts under. -/
structure AuthenticatedPrincipal where
  userId : Uuid
  username : String
  displayName : String
  organizationId : Uuid
  roles : List HumanRole
  assetIds : List Uuid
  authMethods : List String
  sessionCreatedAt : DateTime
  reauthenticatedAt : DateTime
deriving DecidableEq

/-- Whether the principal holds a role with the short idle timeout. -/
def AuthenticatedPrincipal.privileged (principal : AuthenticatedPrincipal) :
    Bool :=
  principal.roles.any HumanRole.isPrivileged

/-- What a login stage hands to the browser. -/
structure SessionContext where
  token : String
  csrfToken : String
  phase : SessionPhase
  expiresAt : DateTime
  principal : Option AuthenticatedPrincipal

/-- The public codes of the login service. -/
inductive AuthenticationCode where
  | required
  | invalidCredentials
  | mfaRequired
  | invalidMfa
  | sessionExpired
  | sessionRevoked
  | csrfRejected
  | profileBlocked
deriving DecidableEq

/-- Exceptions that leave a service call. -/
inductive ServiceError where
  | authentication (code : AuthenticationCode) (publicMessage : String)
  | accountManagement (publicMessage : String)
  /-- A uniqueness constraint of the database. -/
  | integrity
  /-- `str.encode("ascii")` on a text that is not ASCII. -/
  | unicodeEncode
deriving DecidableEq

open Interleaving

/-- The tables the authentication services share.  `drawn` counts how often
the process random source has been read. -/
structure AuthStore where
  organizations : List OrganizationRecord
  accounts : List UserAccountRecord
  sessions : List BrowserSessionRecord
  roleAssignments : List UserRoleAssignmentRecord
  assetAssignments : List UserAssetAssignmentRecord
  auditEvents : List AuthenticationAuditEvent
  drawn : Nat
deriving DecidableEq

/-- One repository call (a database transaction of its own), or one read of
the random source. -/
inductive AuthOp where
  | accountByUsername (username : String)
  | accountById (userId : Uuid)
  | roles (userId organizationId : Uuid)
  | assetIds (userId organizationId : Uuid)
  | createSession (values : BrowserSessionRecord)
  | session (sessionIdHash : String)
  | revokeSession (sessionIdHash : String) (now : DateTime) (reason : String)
  | revokeUserSessions (userId : Uuid) (now : DateTime) (reason : String)
      (exceptHash : Option String)
  | touchSession (sessionIdHash : String) (now idleExpiresAt : DateTime)
  | registerLoginFailure (account : AccountSnapshot) (now : DateTime)
      (lockUntil : Option DateTime)
  | resetLoginFailures (userId : Uuid) (now : DateTime)
  | incrementMfaFailure (sessionIdHash : String)
  | audit (event : AuthenticationAuditEvent)
  | managedAccountById (userId : Uuid)
  | registrationOrganizationId
  | createPendingAccount (userId organizationId : Uuid)
      (username displayName passwordHash : String) (now : DateTime)
  | transitionAccount (userId organizationId : Uuid)
      (fromStatuses : List AccountStatus) (toStatus : AccountStatus)
      (now : DateTime) (grantUserRole : Bool)
  | updateDisplayName (userId organizationId : Uuid) (displayName : String)
      (now : DateTime)
  | changePassword (userId organizationId : Uuid) (passwordHash : String)
      (now : DateTime)
  | updateMfaCode (userId organizationId : Uuid) (codeHash : String)
      (issuedAt expiresAt : DateTime)
  | draw

/-- What each call answers; `createSession` whether the row could be inserted,
or its primary key was taken. -/
@[reducible] def AuthOp.Resp : AuthOp → Type
  | .accountByUsername _ | .accountById _ => Option AccountSnapshot
  | .roles _ _ => List HumanRole
  | .assetIds _ _ => List Uuid
  | .createSession _ => Bool
  | .session _ => Option BrowserSessionRecord
  | .managedAccountById _ | .transitionAccount .. | .updateDisplayName ..
  | .createPendingAccount .. => Option ManagedAccount
  | .registrationOrganizationId => Option Uuid
  | .changePassword .. | .updateMfaCode .. => Bool
  | .draw => Nat
  | _ => Unit

namespace AuthStore

def account (store : AuthStore) (userId : Uuid) : Option UserAccountRecord :=
  Table.lookup UserAccountRecord.id userId store.accounts

def storedSession (store : AuthStore) (sessionIdHash : String) :
    Option BrowserSessionRecord :=
  Table.lookup BrowserSessionRecord.sessionIdHash sessionIdHash store.sessions

theorem storedSession_append (store : AuthStore)
    {values : BrowserSessionRecord}
    (unused : store.storedSession values.sessionIdHash = none) :
    AuthStore.storedSession
      { store with sessions := store.sessions ++ [values] }
      values.sessionIdHash = some values := by
  rw [storedSession] at unused ⊢
  rw [Table.lookup_append, unused]
  simp [Table.lookup]

/-- `UPDATE user_accounts ... WHERE id = userId`. -/
def updateAccount (store : AuthStore) (userId : Uuid)
    (change : UserAccountRecord → UserAccountRecord) : AuthStore :=
  { store with
    accounts := Table.updateWhere (fun row => decide (row.id = userId)) change
      store.accounts }

/-- `UPDATE browser_sessions ... WHERE condition`. -/
def updateSessions (store : AuthStore)
    (condition : BrowserSessionRecord → Bool)
    (change : BrowserSessionRecord → BrowserSessionRecord) : AuthStore :=
  { store with
    sessions := Table.updateWhere condition change store.sessions }

/-- The account row, if it belongs to this organization. -/
def scopedAccount (store : AuthStore) (userId organizationId : Uuid) :
    Option UserAccountRecord :=
  (store.account userId).filter fun row =>
    decide (row.organizationId = organizationId)

/-- `registration_organization_id`: the organization of the administrator
appointed first, or else the oldest organization. -/
def registrationOrganizationId (store : AuthStore) : Option Uuid :=
  let administrators := store.accounts.flatMap fun account =>
    (store.roleAssignments.filter fun row =>
        decide (row.userId = account.id) &&
          decide (row.organizationId = account.organizationId) &&
          decide (row.roleName = .admin) && row.revokedAt.isNone &&
          decide (account.status ∈ [AccountStatus.active, .tempLocked])).map
      fun row => (row.grantedAt, account.createdAt, account.organizationId)
  let appointedEarlier (one other : DateTime × DateTime × Uuid) : Bool :=
    decide (one.1 < other.1) ||
      (decide (one.1 = other.1) && decide (one.2.1 < other.2.1))
  match Table.first appointedEarlier administrators with
  | some (_, _, organizationId) => some organizationId
  | none =>
      (Table.first (fun one other => decide (one.createdAt < other.createdAt))
        store.organizations).map OrganizationRecord.id

/-- `create_pending_account`: nothing is stored when the identifier or the
username is taken. -/
def createPendingAccount (store : AuthStore) (userId organizationId : Uuid)
    (username displayName passwordHash : String) (now : DateTime) :
    Option ManagedAccount × AuthStore :=
  let record : UserAccountRecord :=
    { id := userId
      organizationId := organizationId
      usernameCanonical := username
      displayName := displayName
      status := .pendingApproval
      passwordHash := passwordHash
      credentialVersion := 1
      roleAssignmentVersion := 1
      passwordChangedAt := now
      failedAttempts := 0
      lockedUntil := none
      mfaCodeHash := none
      mfaIssuedAt := none
      mfaExpiresAt := none
      createdAt := now
      updatedAt := now }
  if store.accounts.any fun row =>
      decide (row.id = userId) || decide (row.usernameCanonical = username)
  then (none, store)
  else
    (some record.managed, { store with accounts := store.accounts ++ [record] })

/-- The columns `register_login_failure` writes: the count is computed from
the caller's snapshot, and a lock replaces whatever status the row has. -/
def failureColumns (account : AccountSnapshot) (now : DateTime)
    (lockUntil : Option DateTime) (row : UserAccountRecord) :
    UserAccountRecord :=
  match lockUntil with
  | none =>
      { row with
        failedAttempts := account.failedAttempts + 1
        updatedAt := now }
  | some until_ =>
      { row with
        failedAttempts := account.failedAttempts + 1
        updatedAt := now
        status := .tempLocked
        lockedUntil := some until_ }

/-- The columns `reset_login_failures` writes. -/
def resetColumns (now : DateTime) (row : UserAccountRecord) :
    UserAccountRecord :=
  { row with
    failedAttempts := 0
    status := .active
    lockedUntil := none
    updatedAt := now }

/-- `record.role_assignment_version += 1`. -/
def bumpRoleVersion (row : UserAccountRecord) : UserAccountRecord :=
  { row with roleAssignmentVersion := row.roleAssignmentVersion + 1 }

/-- `transition_account` gives a USER role to an activated account: a missing
assignment is added, a revoked one is renewed. -/
def grantUserRole (store : AuthStore) (userId organizationId : Uuid)
    (now : DateTime) : AuthStore :=
  let isUserRole (row : UserRoleAssignmentRecord) : Bool :=
    decide (row.userId = userId) &&
      decide (row.organizationId = organizationId) &&
      decide (row.roleName = .user)
  let bumped := store.updateAccount userId bumpRoleVersion
  match store.roleAssignments.find? isUserRole with
  | none =>
      { bumped with
        roleAssignments := store.roleAssignments ++
          [{ userId := userId
             organizationId := organizationId
             roleName := .user
             grantedAt := now
             revokedAt := none }] }
  | some assignment =>
      if assignment.revokedAt.isSome then
        { bumped with
          roleAssignments := Table.updateWhere
            (fun row => decide (row = assignment))
            (fun row => { row with revokedAt := none, grantedAt := now })
            store.roleAssignments }
      else store

/-- `transition_account`: a compare-and-set on the status. -/
def transitionAccount (store : AuthStore) (userId organizationId : Uuid)
    (fromStatuses : List AccountStatus) (toStatus : AccountStatus)
    (now : DateTime) (grantRole : Bool) : Option ManagedAccount × AuthStore :=
  match store.scopedAccount userId organizationId with
  | none => (none, store)
  | some record =>
      if record.status ∈ fromStatuses then
        let moved := store.updateAccount userId fun row =>
          { row with
            status := toStatus
            failedAttempts := 0
            lockedUntil := none
            updatedAt := now }
        let granted :=
          if grantRole then moved.grantUserRole userId organizationId now
          else moved
        ((granted.account userId).map UserAccountRecord.managed, granted)
      else (none, store)

/-- The guarded updates of an ACTIVE account's credentials. -/
def updateActive (store : AuthStore) (userId organizationId : Uuid)
    (change : UserAccountRecord → UserAccountRecord) : Bool × AuthStore :=
  match store.scopedAccount userId organizationId with
  | none => (false, store)
  | some record =>
      if record.status = .active then
        (true, store.updateAccount userId change)
      else (false, store)

def execute (store : AuthStore) : (op : AuthOp) → op.Resp × AuthStore
  | .accountByUsername username =>
      ((Table.lookup UserAccountRecord.usernameCanonical username
        store.accounts).map UserAccountRecord.snapshot, store)
  | .accountById userId =>
      ((store.account userId).map UserAccountRecord.snapshot, store)
  | .roles userId organizationId =>
      ((store.roleAssignments.filter fun row =>
          decide (row.userId = userId) &&
            decide (row.organizationId = organizationId) &&
            row.revokedAt.isNone).map UserRoleAssignmentRecord.roleName,
        store)
  | .assetIds userId organizationId =>
      ((store.assetAssignments.filter fun row =>
          decide (row.userId = userId) &&
            decide (row.organizationId = organizationId) &&
            row.revokedAt.isNone).map UserAssetAssignmentRecord.assetId,
        store)
  | .createSession values =>
      match store.storedSession values.sessionIdHash with
      | some _ => (false, store)
      | none => (true, { store with sessions := store.sessions ++ [values] })
  | .session sessionIdHash => (store.storedSession sessionIdHash, store)
  | .revokeSession sessionIdHash now reason =>
      ((), store.updateSessions
        (fun row => decide (row.sessionIdHash = sessionIdHash) &&
          row.revokedAt.isNone)
        (fun row =>
          { row with revokedAt := some now, revokeReason := some reason }))
  | .revokeUserSessions userId now reason exceptHash =>
      ((), store.updateSessions
        (fun row => decide (row.userId = some userId) &&
          row.revokedAt.isNone && decide (some row.sessionIdHash ≠ exceptHash))
        (fun row =>
          { row with revokedAt := some now, revokeReason := some reason }))
  | .touchSession sessionIdHash now idleExpiresAt =>
      ((), store.updateSessions
        (fun row => decide (row.sessionIdHash = sessionIdHash) &&
          row.revokedAt.isNone)
        (fun row =>
          { row with lastSeenAt := now, idleExpiresAt := idleExpiresAt }))
  | .registerLoginFailure account now lockUntil =>
      ((), store.updateAccount account.id
        (failureColumns account now lockUntil))
  | .resetLoginFailures userId now =>
      ((), store.updateAccount userId (resetColumns now))
  | .incrementMfaFailure sessionIdHash =>
      ((), store.updateSessions
        (fun row => decide (row.sessionIdHash = sessionIdHash))
        (fun row => { row with mfaAttempts := row.mfaAttempts + 1 }))
  | .audit event =>
      ((), { store with auditEvents := store.auditEvents ++ [event] })
  | .managedAccountById userId =>
      ((store.account userId).map UserAccountRecord.managed, store)
  | .registrationOrganizationId => (store.registrationOrganizationId, store)
  | .createPendingAccount userId organizationId username displayName
      passwordHash now =>
      store.createPendingAccount userId organizationId username displayName
        passwordHash now
  | .transitionAccount userId organizationId fromStatuses toStatus now grant =>
      store.transitionAccount userId organizationId fromStatuses toStatus now
        grant
  | .updateDisplayName userId organizationId displayName now =>
      match store.scopedAccount userId organizationId with
      | none => (none, store)
      | some _ =>
          let updated := store.updateAccount userId fun row =>
            { row with displayName := displayName, updatedAt := now }
          ((updated.account userId).map UserAccountRecord.managed, updated)
  | .changePassword userId organizationId passwordHash now =>
      store.updateActive userId organizationId fun row =>
        { row with
          passwordHash := passwordHash
          credentialVersion := row.credentialVersion + 1
          passwordChangedAt := now
          failedAttempts := 0
          lockedUntil := none
          updatedAt := now }
  | .updateMfaCode userId organizationId codeHash issuedAt expiresAt =>
      store.updateActive userId organizationId fun row =>
        { row with
          mfaCodeHash := some codeHash
          mfaIssuedAt := some issuedAt
          mfaExpiresAt := some expiresAt
          credentialVersion := row.credentialVersion + 1
          updatedAt := issuedAt }
  | .draw => (store.drawn, { store with drawn := store.drawn + 1 })

theorem execute_createSession (store : AuthStore)
    (values : BrowserSessionRecord) :
    store.execute (.createSession values) = (false, store) ∨
      store.storedSession values.sessionIdHash = none ∧
        store.execute (.createSession values) =
          (true, { store with sessions := store.sessions ++ [values] }) := by
  simp only [execute]
  cases store.storedSession values.sessionIdHash with
  | some _ => exact .inl rfl
  | none => exact .inr ⟨rfl, rfl⟩

end AuthStore

/-- Service code between repository calls. -/
abbrev AuthProgram (α : Type) := Program AuthOp AuthOp.Resp ServiceError α

/-- A repository call in service code. -/
abbrev call (op : AuthOp) : AuthProgram op.Resp := Program.perform op

/-- The parts of the service that are not repository calls: the Unicode
database, keyed digests, the password hasher, the encodings of random draws,
and the configured timeouts. -/
structure AuthEnvironment extends UnicodeText where
  sessionHash : String → String
  csrfToken : String → String
  csrfHash : String → String
  /-- The keyed digest below the ASCII check of `mfa_code_digest`. -/
  mfaDigest : Uuid → String → String
  verifyPassword : String → String → Bool
  hashPassword : Nat → String → String
  tokenUrlsafe : Nat → String
  uuid4 : Nat → Uuid
  /-- `secrets.randbelow(1_000_000)` printed with six digits. -/
  sixDigitCode : Nat → String
  mfaSigningKeyReady : Bool
  idleTimeoutMinutes : Int
  privilegedIdleTimeoutMinutes : Int
  absoluteTimeoutHours : Int
  preAuthTimeoutMinutes : Int

/-- The wording shared by every refused password login. -/
def genericLoginMessage : String :=
  "로그인 정보가 올바르지 않거나 현재 로그인할 수 없습니다."

def reject {α : Type} (code : AuthenticationCode) (message : String) :
    AuthProgram α :=
  .raise (.authentication code message)

/-- Twelve characters of the session hash, for the audit log. -/
def reference (sessionHash : String) : String := (sessionHash.take 12).toString

/-- `mfa_code_digest`: the payload must be ASCII. -/
def mfaCodeDigest (env : AuthEnvironment) (userId : Uuid) (code : String) :
    Except ServiceError String :=
  if code.toList.all fun character => decide (character.toNat < 128) then
    .ok (env.mfaDigest userId code)
  else .error .unicodeEncode

def auditEvent (eventType outcome reasonCode : String)
    (sessionReference : Option String) (userId organizationId : Option Uuid) :
    AuthenticationAuditEvent :=
  { eventType := eventType
    outcome := outcome
    reasonCode := reasonCode
    sessionReference := sessionReference
    userId := userId
    organizationId := organizationId }

variable (env : AuthEnvironment)

def canonicalUsername (username : String) : String :=
  env.casefold (env.strip (env.nfc username))

def createSession (now : DateTime) (phase : SessionPhase)
    (user : Option AccountSnapshot) (authMethods : String)
    (privileged : Bool) : AuthProgram SessionContext := do
  let drawn ← call .draw
  let token := env.tokenUrlsafe drawn
  let sessionHash := env.sessionHash token
  let csrfToken := env.csrfToken token
  let expiresAt :=
    if phase = .authenticated then now + hours env.absoluteTimeoutHours
    else now + minutes env.preAuthTimeoutMinutes
  let idleMinutes :=
    if phase = .authenticated then
      if privileged then env.privilegedIdleTimeoutMinutes
      else env.idleTimeoutMinutes
    else env.preAuthTimeoutMinutes
  let authenticatedAt := if phase = .authenticated then some now else none
  let inserted ← call (.createSession
    { sessionIdHash := sessionHash
      userId := user.map AccountSnapshot.id
      activeOrganizationId := user.map AccountSnapshot.organizationId
      phase := phase
      credentialVersion := (user.map AccountSnapshot.credentialVersion).getD 0
      roleAssignmentVersion :=
        (user.map AccountSnapshot.roleAssignmentVersion).getD 0
      authMethods := authMethods
      csrfTokenHash := env.csrfHash csrfToken
      mfaAttempts := 0
      authenticatedAt := authenticatedAt
      reauthenticatedAt := authenticatedAt
      createdAt := now
      lastSeenAt := now
      expiresAt := expiresAt
      idleExpiresAt := now + minutes idleMinutes
      revokedAt := none
      revokeReason := none })
  if inserted = false then .raise .integrity
  else
    pure
      { token := token
        csrfToken := csrfToken
        phase := phase
        expiresAt := expiresAt
        principal := none }

def newPreAuth (now : DateTime) : AuthProgram SessionContext :=
  createSession env now .preAuth none "" false

/-- `_load_session`: an expired session is revoked on the way. -/
def loadSession (token : Option String) (expectedPhase : SessionPhase)
    (now : DateTime) : AuthProgram (String × BrowserSessionRecord) :=
  match token with
  | none | some "" => reject .required "로그인이 필요합니다."
  | some token => do
      let sessionHash := env.sessionHash token
      match ← call (.session sessionHash) with
      | none => reject .required "로그인을 다시 시작해 주세요."
      | some stored =>
          if stored.phase ≠ expectedPhase then
            reject .required "로그인을 다시 시작해 주세요."
          else if stored.revokedAt.isSome then
            reject .sessionRevoked
              "종료된 로그인입니다. 다시 로그인해 주세요."
          else if now ≥ stored.expiresAt ∨ now ≥ stored.idleExpiresAt then do
            call (.revokeSession sessionHash now "TIMEOUT")
            reject .sessionExpired
              "로그인 시간이 만료되었습니다. 다시 로그인해 주세요."
          else pure (sessionHash, stored)

def pendingContext (token : Option String) (now : DateTime) :
    AuthProgram SessionContext := do
  let (_, stored) ← loadSession env token .mfaPending now
  pure
    { token := token.getD ""
      csrfToken := env.csrfToken (token.getD "")
      phase := .mfaPending
      expiresAt := stored.expiresAt
      principal := none }

def AccountSnapshot.lockedAt (account : AccountSnapshot) (now : DateTime) :
    Bool :=
  decide (account.status = .tempLocked) &&
    match account.lockedUntil with
    | some lockedUntil => decide (now < lockedUntil)
    | none => false

/-- The statuses and locks for which `password_login` refuses before it looks
at the password. -/
def AccountSnapshot.unavailableAt (account : AccountSnapshot)
    (now : DateTime) : Bool :=
  decide (account.status ∈
      [AccountStatus.pendingApproval, .disabled, .rejected]) ||
    account.lockedAt now

/-- The lock `password_login` asks for with a failure count. -/
def lockUntil (failureCount : Nat) (now : DateTime) : Option DateTime :=
  if failureCount ≥ 10 then some (now + minutes 15) else none

/-- The rest of `password_login`, once the account has been looked up. -/
def decideLogin (oldHash password : String) (now : DateTime) :
    Option AccountSnapshot → AuthProgram SessionContext
  | none => do
      call (.audit (auditEvent "LOGIN_PASSWORD" "DENY" "UNKNOWN_SUBJECT"
        (some (reference oldHash)) none none))
      reject .invalidCredentials genericLoginMessage
  | some account =>
      if account.unavailableAt now then do
        call (.audit (auditEvent "LOGIN_PASSWORD" "DENY" "ACCOUNT_UNAVAILABLE"
          (some (reference oldHash)) (some account.id)
          (some account.organizationId)))
        reject .invalidCredentials genericLoginMessage
      else if env.verifyPassword account.passwordHash password = false then do
        -- The count and the lock are both decided on the snapshot read above.
        call (.registerLoginFailure account now
          (lockUntil (account.failedAttempts + 1) now))
        call (.audit (auditEvent "LOGIN_PASSWORD" "DENY" "BAD_PASSWORD"
          (some (reference oldHash)) (some account.id)
          (some account.organizationId)))
        reject .invalidCredentials genericLoginMessage
      else if now ≥ account.passwordChangedAt + days 30 then do
        call (.audit (auditEvent "LOGIN_PASSWORD" "DENY" "PASSWORD_EXPIRED"
          (some (reference oldHash)) (some account.id)
          (some account.organizationId)))
        reject .invalidCredentials
          "비밀번호 사용기간이 지났습니다. 승인된 계정 복구 절차로 변경해 주세요."
      else do
        call (.revokeSession oldHash now "PASSWORD_VERIFIED")
        let pending ← createSession env now .mfaPending (some account)
          "password" false
        call (.audit (auditEvent "LOGIN_PASSWORD" "ALLOW" "MFA_REQUIRED"
          (some (reference (env.sessionHash pending.token)))
          (some account.id) (some account.organizationId)))
        pure pending

def passwordLogin (preAuthToken : Option String)
    (username password : String) (now : DateTime) :
    AuthProgram SessionContext := do
  let (oldHash, _) ← loadSession env preAuthToken .preAuth now
  let account ← call (.accountByUsername (canonicalUsername env username))
  decideLogin env oldHash password now account

/-- The factor check of `complete_dev_mfa`. -/
def AccountSnapshot.validFactor (account : AccountSnapshot)
    (suppliedHash : String) (now : DateTime) : Bool :=
  decide (account.status = .active) &&
    match account.mfaCodeHash, account.mfaExpiresAt with
    | some codeHash, some expiresAt =>
        decide (now < expiresAt) && decide (suppliedHash = codeHash)
    | _, _ => false

def completeDevMfa (pendingToken : Option String) (suppliedCode : String)
    (now : DateTime) : AuthProgram SessionContext := do
  let (oldHash, stored) ← loadSession env pendingToken .mfaPending now
  match stored.userId with
  | none => reject .invalidMfa "두 번째 인증을 다시 시작해 주세요."
  | some userId =>
      match ← call (.accountById userId) with
      | none => reject .invalidMfa "두 번째 인증을 다시 시작해 주세요."
      | some account => do
          let suppliedHash ←
            Program.lift (mfaCodeDigest env account.id suppliedCode)
          if stored.mfaAttempts ≥ 5 ∨
              account.validFactor suppliedHash now = false then do
            call (.incrementMfaFailure oldHash)
            if stored.mfaAttempts + 1 ≥ 5 then
              call (.revokeSession oldHash now "MFA_LIMIT")
            call (.audit (auditEvent "LOGIN_MFA" "DENY" "FACTOR_FAILED"
              (some (reference oldHash)) (some account.id)
              (some account.organizationId)))
            reject .invalidMfa "인증코드가 올바르지 않거나 사용할 수 없습니다."
          else do
            let roles ← call (.roles account.id account.organizationId)
            if roles.isEmpty then do
              call (.revokeSession oldHash now "NO_ACTIVE_ROLE")
              reject .invalidCredentials genericLoginMessage
            else do
              call (.revokeSession oldHash now "MFA_VERIFIED")
              let authenticated ← createSession env now .authenticated
                (some account) "password,dev-test-mfa"
                (roles.any HumanRole.isPrivileged)
              call (.resetLoginFailures account.id now)
              call (.audit (auditEvent "LOGIN_MFA" "ALLOW" "AUTHENTICATED"
                (some (reference (env.sessionHash authenticated.token)))
                (some account.id) (some account.organizationId)))
              pure authenticated

/-- The session no longer speaks for the account it was created for. -/
def identityChanged (stored : BrowserSessionRecord)
    (organizationId : Uuid) : Option AccountSnapshot → Bool
  | none => true
  | some account =>
      decide (account.status ≠ .active) ||
        decide (account.credentialVersion ≠ stored.credentialVersion) ||
        decide (account.roleAssignmentVersion ≠
          stored.roleAssignmentVersion) ||
        decide (account.organizationId ≠ organizationId)

def authenticate (token : Option String) (meaningfulActivity : Bool)
    (now : DateTime) : AuthProgram SessionContext := do
  let (sessionHash, stored) ← loadSession env token .authenticated now
  match stored.userId, stored.activeOrganizationId with
  | some userId, some organizationId => do
      let account ← call (.accountById userId)
      match account, identityChanged stored organizationId account with
      | some account, false => do
          let roles ← call (.roles account.id account.organizationId)
          if roles.isEmpty then do
            call (.revokeSession sessionHash now "NO_ACTIVE_ROLE")
            reject .sessionRevoked
              "사용 가능한 역할이 없어 로그인이 종료되었습니다."
          else do
            let authenticatedAt := stored.authenticatedAt.getD stored.createdAt
            let reauthenticatedAt :=
              stored.reauthenticatedAt.getD authenticatedAt
            let assetIds ← call (.assetIds account.id account.organizationId)
            let principal : AuthenticatedPrincipal :=
              { userId := account.id
                username := account.usernameCanonical
                displayName := account.displayName
                organizationId := account.organizationId
                roles := roles
                assetIds := assetIds
                authMethods :=
                  ((stored.authMethods.splitOn ",").filter
                    fun method => decide (method ≠ ""))
                sessionCreatedAt := stored.createdAt
                reauthenticatedAt := reauthenticatedAt }
            if meaningfulActivity then
              let idleMinutes :=
                if principal.privileged then env.privilegedIdleTimeoutMinutes
                else env.idleTimeoutMinutes
              call (.touchSession sessionHash now
                (min stored.expiresAt (now + minutes idleMinutes)))
            pure
              { token := token.getD ""
                csrfToken := env.csrfToken (token.getD "")
                phase := .authenticated
                expiresAt := stored.expiresAt
                principal := some principal }
      | _, _ => do
          call (.revokeSession sessionHash now "IDENTITY_CHANGED")
          reject .sessionRevoked
            "계정 또는 권한이 변경되어 다시 로그인해야 합니다."
  | _, _ => reject .required "로그인이 필요합니다."

def revokeCurrent (token reason : String) (now : DateTime) :
    AuthProgram Unit := do
  let sessionHash := env.sessionHash token
  let stored ← call (.session sessionHash)
  call (.revokeSession sessionHash now reason)
  call (.audit (auditEvent "SESSION_REVOKE" "ALLOW" reason
    (some (reference sessionHash))
    (stored.bind BrowserSessionRecord.userId)
    (stored.bind BrowserSessionRecord.activeOrganizationId)))

def revokeAll (token : String) (now : DateTime) : AuthProgram Unit := do
  let (sessionHash, stored) ← loadSession env (some token) .authenticated now
  match stored.userId with
  | none => reject .required "로그인이 필요합니다."
  | some userId => do
      call (.revokeUserSessions userId now "LOGOUT_ALL" none)
      call (.audit (auditEvent "SESSION_REVOKE_ALL" "ALLOW" "LOGOUT_ALL"
        (some (reference sessionHash)) (some userId)
        stored.activeOrganizationId))

def refuse {α : Type} (message : String) : AuthProgram α :=
  .raise (.accountManagement message)

/-- What an administrator can ask for. -/
inductive StatusAction where
  | approve
  | reject
  | disable
  | activate
deriving DecidableEq

/-- One row of `_STATUS_ACTIONS`. -/
structure StatusTransition where
  fromStatuses : List AccountStatus
  toStatus : AccountStatus
  grantUserRole : Bool

def statusActions : StatusAction → StatusTransition
  | .approve => ⟨[.pendingApproval], .active, true⟩
  | .reject => ⟨[.pendingApproval], .rejected, false⟩
  | .disable => ⟨[.active], .disabled, false⟩
  | .activate => ⟨[.disabled], .active, true⟩

def StatusAction.ofName : String → Option StatusAction
  | "approve" => some .approve
  | "reject" => some .reject
  | "disable" => some .disable
  | "activate" => some .activate
  | _ => none

def requireAdmin (principal : AuthenticatedPrincipal) : AuthProgram Unit :=
  if HumanRole.admin ∈ principal.roles then pure ()
  else refuse "관리자 권한이 필요합니다."

def accountEvent (eventType outcome reasonCode : String)
    (principal : AuthenticatedPrincipal) : AuthenticationAuditEvent :=
  auditEvent eventType outcome reasonCode none (some principal.userId)
    (some principal.organizationId)

def changeStatus (principal : AuthenticatedPrincipal) (userId : Uuid)
    (action : String) (now : DateTime) : AuthProgram ManagedAccount := do
  requireAdmin principal
  match StatusAction.ofName action with
  | none => refuse "지원하지 않는 계정 관리 작업입니다."
  | some action =>
      if userId = principal.userId ∧ (action = .reject ∨ action = .disable) then
        refuse "현재 로그인한 본인 계정은 중지할 수 없습니다."
      else do
        let transition := statusActions action
        match ← call (.transitionAccount userId principal.organizationId
            transition.fromStatuses transition.toStatus now
            transition.grantUserRole) with
        | none =>
            refuse "계정 상태가 이미 변경되었거나 계정을 찾을 수 없습니다."
        | some account => do
            let reason := "ACCOUNT_" ++ transition.toStatus.text
            if action = .reject ∨ action = .disable then
              call (.revokeUserSessions userId now reason none)
            call (.audit (accountEvent "ACCOUNT_STATUS_CHANGE" "ALLOW" reason
              principal))
            pure account

variable (env : AuthEnvironment)

def checkedDisplayName (value : String) : Except ServiceError String :=
  let displayName := env.strip (env.nfc value)
  if displayName.isEmpty ∨ displayName.length > 128 then
    .error (.accountManagement "표시 이름은 1~128자로 입력해 주세요.")
  else if displayName.toList.any env.isControlCategory then
    .error (.accountManagement "표시 이름에 제어 문자를 사용할 수 없습니다.")
  else .ok displayName

/-- A character `_USERNAME_PATTERN` admits at the start. -/
def usernameStart (character : Char) : Bool :=
  decide ('a' ≤ character ∧ character ≤ 'z') ||
    decide ('0' ≤ character ∧ character ≤ '9')

def checkedUsername (value : String) : Except ServiceError String :=
  let username := env.casefold (env.strip (env.nfc value))
  let wellFormed :=
    match username.toList with
    | [] => false
    | head :: tail =>
        usernameStart head &&
          tail.all (fun character =>
            usernameStart character || ['.', '_', '-'].contains character) &&
          decide (2 ≤ tail.length ∧ tail.length ≤ 63)
  if wellFormed = false ∨ containsText ".." username = true then
    .error (.accountManagement
      "사용자 이름은 영문 소문자 또는 숫자로 시작하는 3~64자로 입력해 주세요.")
  else .ok username

def requestRegistration
    (username displayName password passwordConfirmation : String)
    (now : DateTime) : AuthProgram Bool := do
  let canonical ← Program.lift (checkedUsername env username)
  let safeDisplayName ← Program.lift (checkedDisplayName env displayName)
  if password ≠ passwordConfirmation then
    refuse "새 비밀번호 확인이 일치하지 않습니다."
  else
    let policy := validatePasswordPolicy env.toUnicodeText password canonical
    if policy.accepted = false then
      refuse (" ".intercalate policy.reasons)
    else do
      match ← call .registrationOrganizationId with
      | none => refuse "가입 요청을 받을 조직이 준비되지 않았습니다."
      | some organizationId => do
          let salt ← call .draw
          let drawn ← call .draw
          let account ← call (.createPendingAccount (env.uuid4 drawn)
            organizationId canonical safeDisplayName
            (env.hashPassword salt password) now)
          call (.audit (auditEvent "ACCOUNT_REGISTRATION_REQUEST"
            (if account.isSome then "ALLOW" else "DENY")
            (if account.isSome then "PENDING_APPROVAL"
              else "DUPLICATE_REQUEST")
            none (account.map ManagedAccount.id) (some organizationId)))
          pure account.isSome

def updateDisplayName (principal : AuthenticatedPrincipal)
    (displayName : String) (now : DateTime) : AuthProgram ManagedAccount := do
  let checked ← Program.lift (checkedDisplayName env displayName)
  match ← call (.updateDisplayName principal.userId principal.organizationId
      checked now) with
  | none => refuse "계정 정보를 변경할 수 없습니다."
  | some account => do
      call (.audit (accountEvent "ACCOUNT_PROFILE_CHANGE" "ALLOW"
        "DISPLAY_NAME_CHANGED" principal))
      pure account

def changePassword (principal : AuthenticatedPrincipal)
    (currentPassword newPassword confirmation : String) (now : DateTime) :
    AuthProgram Unit := do
  match ← call (.managedAccountById principal.userId) with
  | none => refuse "계정 정보를 변경할 수 없습니다."
  | some account =>
      if account.status ≠ .active then
        refuse "계정 정보를 변경할 수 없습니다."
      else if env.verifyPassword account.passwordHash currentPassword = false
      then do
        call (.audit (accountEvent "ACCOUNT_PASSWORD_CHANGE" "DENY"
          "CURRENT_PASSWORD_MISMATCH" principal))
        refuse "현재 비밀번호가 올바르지 않습니다."
      else if newPassword ≠ confirmation then
        refuse "새 비밀번호 확인이 일치하지 않습니다."
      else if env.verifyPassword account.passwordHash newPassword then
        refuse "현재 비밀번호와 다른 새 비밀번호를 입력해 주세요."
      else
        let policy :=
          validatePasswordPolicy env.toUnicodeText newPassword
            principal.username
        if policy.accepted = false then
          refuse (" ".intercalate policy.reasons)
        else do
          let salt ← call .draw
          let changed ← call (.changePassword principal.userId
            principal.organizationId (env.hashPassword salt newPassword) now)
          if changed = false then refuse "비밀번호를 변경할 수 없습니다."
          else do
            call (.revokeUserSessions principal.userId now "PASSWORD_CHANGED"
              none)
            call (.audit (accountEvent "ACCOUNT_PASSWORD_CHANGE" "ALLOW"
              "PASSWORD_CHANGED" principal))

structure IssuedMfaCode where
  code : String
  expiresAt : DateTime

def renewMfaCode (principal : AuthenticatedPrincipal) (userId : Uuid)
    (now : DateTime) : AuthProgram IssuedMfaCode := do
  requireAdmin principal
  if env.mfaSigningKeyReady = false then
    refuse "인증 코드 발급 설정이 준비되지 않았습니다."
  else do
    let expiresAt := now + days 30
    let drawn ← call .draw
    let code := env.sixDigitCode drawn
    let codeHash ← Program.lift (mfaCodeDigest env userId code)
    let changed ← call (.updateMfaCode userId principal.organizationId
      codeHash now expiresAt)
    if changed = false then
      refuse "사용 중인 계정에만 인증 코드를 발급할 수 있습니다."
    else do
      call (.revokeUserSessions userId now "MFA_CODE_REISSUED" none)
      call (.audit (accountEvent "ACCOUNT_MFA_CODE_REISSUE" "ALLOW"
        "MFA_CODE_REISSUED" principal))
      pure { code := code, expiresAt := expiresAt }

end SecAI.Auth
