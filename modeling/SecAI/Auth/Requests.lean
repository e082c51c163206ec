/-
Module: SecAI.Auth.Requests
Purpose: What one repository call can do to an account, the authentication
  services as one system of interleaved requests, and which of them can issue
  the calls that write its status.
Trusted boundary: none
Main exports:
  AccountStep, AuthRequest, authSystem, AdministratorTransition, body_issues
-/
import SecAI.Auth.Service
import SecAI.Interleaving.System

namespace SecAI.Auth

open Interleaving

/-- `AccountStep op before after`: the call `op` takes an account row from
`before` to `after`.  The three calls that write the status are kept apart. -/
inductive AccountStep (op : AuthOp) (before : UserAccountRecord) :
    UserAccountRecord → Prop where
  | unchanged : AccountStep op before before
  | failure (account : AccountSnapshot) (now : DateTime)
      (lock : Option DateTime)
      (called : op = .registerLoginFailure account now lock)
      (addressed : account.id = before.id) :
      AccountStep op before (AuthStore.failureColumns account now lock before)
  | reset (now : DateTime)
      (called : op = .resetLoginFailures before.id now) :
      AccountStep op before (AuthStore.resetColumns now before)
  | transition (organizationId : Uuid) (fromStatuses : List AccountStatus)
      (toStatus : AccountStatus) (now : DateTime) (grant : Bool)
      (called : op = .transitionAccount before.id organizationId fromStatuses
        toStatus now grant)
      (admitted : before.status ∈ fromStatuses) {after : UserAccountRecord}
      (sameId : after.id = before.id) (moved : after.status = toStatus)
      (cleared : after.failedAttempts = 0)
      (version : before.credentialVersion ≤ after.credentialVersion) :
      AccountStep op before after
  | settings {after : UserAccountRecord} (sameId : after.id = before.id)
      (sameStatus : after.status = before.status)
      (attempts : after.failedAttempts = before.failedAttempts ∨
        after.failedAttempts = 0)
      (version : before.credentialVersion ≤ after.credentialVersion) :
      AccountStep op before after

variable {op : AuthOp}

theorem AccountStep.credentialVersion_le {before after : UserAccountRecord}
    (step : AccountStep op before after) :
    before.credentialVersion ≤ after.credentialVersion := by
  cases step
  case unchanged => exact Nat.le_refl _
  case failure account now lock _ _ => cases lock <;> exact Nat.le_refl _
  case reset => exact Nat.le_refl _
  case transition version => exact version
  case settings version => exact version

namespace AuthStore

variable {store : AuthStore} {userId : Uuid} {row : UserAccountRecord}

theorem account_updateAccount (target : Uuid)
    (change : UserAccountRecord → UserAccountRecord)
    (keeps : ∀ row, (change row).id = row.id)
    (found : store.account userId = some row) :
    (store.updateAccount target change).account userId =
      some (if userId = target then change row else row) := by
  have sameKey : row.id = userId := Table.lookup_key found
  have updated := Table.lookup_updateWhere
    (fun row => decide (row.id = target)) (fun row _ => keeps row) userId
    store.accounts
  rw [account] at found
  rw [account, updateAccount, updated, found]
  simp [sameKey]

/-- The role assignment of an activation leaves all but the role version of
the row alone. -/
theorem account_grantUserRole (target organizationId : Uuid) (now : DateTime)
    (found : store.account userId = some row) :
    ∃ version, (store.grantUserRole target organizationId now).account userId =
      some { row with roleAssignmentVersion := version } := by
  have bumpedVersion : ∃ version,
      (store.updateAccount target bumpRoleVersion).account userId =
        some { row with roleAssignmentVersion := version } := by
    refine ⟨if userId = target then row.roleAssignmentVersion + 1
      else row.roleAssignmentVersion, ?_⟩
    rw [account_updateAccount target bumpRoleVersion (fun _ => rfl) found]
    split <;> rfl
  simp only [grantUserRole]
  split
  · exact bumpedVersion
  · split
    · exact bumpedVersion
    · exact ⟨row.roleAssignmentVersion, found⟩

variable {organizationId : Uuid}

theorem account_of_scopedAccount
    (found : store.scopedAccount userId organizationId = some row) :
    store.account userId = some row :=
  (Option.filter_eq_some_iff.mp found).1

variable {target : Uuid} {change : UserAccountRecord → UserAccountRecord}

private theorem step_settings (keepsId : ∀ row, (change row).id = row.id)
    (keepsStatus : ∀ row, (change row).status = row.status)
    (attempts : ∀ row, (change row).failedAttempts = row.failedAttempts ∨
      (change row).failedAttempts = 0)
    (rises : ∀ row, row.credentialVersion ≤ (change row).credentialVersion)
    (found : store.account userId = some row) :
    ∃ after, (store.updateAccount target change).account userId = some after ∧
      AccountStep op row after := by
  refine ⟨_, account_updateAccount target change keepsId found, ?_⟩
  split
  · exact .settings (keepsId row) (keepsStatus row) (attempts row) (rises row)
  · exact .unchanged

private theorem step_updateActive (keepsId : ∀ row, (change row).id = row.id)
    (keepsStatus : ∀ row, (change row).status = row.status)
    (attempts : ∀ row, (change row).failedAttempts = row.failedAttempts ∨
      (change row).failedAttempts = 0)
    (rises : ∀ row, row.credentialVersion ≤ (change row).credentialVersion)
    (found : store.account userId = some row) :
    ∃ after, (store.updateActive target organizationId change).2.account
        userId = some after ∧ AccountStep op row after := by
  unfold updateActive
  split
  · exact ⟨row, found, .unchanged⟩
  · split
    · exact step_settings keepsId keepsStatus attempts rises found
    · exact ⟨row, found, .unchanged⟩

variable {fromStatuses : List AccountStatus} {toStatus : AccountStatus}

/-- A transition moves the addressed row when its status is one of those it
starts from, and touches no other row. -/
private theorem step_transitionAccount {now : DateTime} {grant : Bool}
    (found : store.account userId = some row) :
    ∃ after, (store.transitionAccount target organizationId fromStatuses
        toStatus now grant).2.account userId = some after ∧
      AccountStep (.transitionAccount target organizationId fromStatuses
        toStatus now grant) row after := by
  unfold transitionAccount
  split
  · exact ⟨row, found, .unchanged⟩
  rename_i record inOrganization
  split
  · next admitted =>
      let move (row : UserAccountRecord) : UserAccountRecord :=
        { row with
          status := toStatus
          failedAttempts := 0
          lockedUntil := none
          updatedAt := now }
      have moved : (store.updateAccount target move).account userId = _ :=
        account_updateAccount target _ (fun _ => rfl) found
      by_cases addressed : userId = target
      · subst addressed
        rw [if_pos rfl] at moved
        have rowId : row.id = userId := Table.lookup_key found
        have same := account_of_scopedAccount inOrganization
        rw [found] at same
        cases same
        cases grant with
        | false =>
            exact ⟨_, moved, .transition organizationId fromStatuses
              toStatus now _ (by rw [rowId]) admitted rfl rfl rfl
              (Nat.le_refl _)⟩
        | true =>
            obtain ⟨version, granted⟩ :=
              account_grantUserRole userId organizationId now moved
            exact ⟨_, granted, .transition organizationId fromStatuses
              toStatus now _ (by rw [rowId]) admitted rfl rfl rfl
              (Nat.le_refl _)⟩
      · rw [if_neg addressed] at moved
        cases grant with
        | false => exact ⟨_, moved, .unchanged⟩
        | true =>
            obtain ⟨version, granted⟩ :=
              account_grantUserRole target organizationId now moved
            exact ⟨_, granted, .settings rfl rfl (.inl rfl) (Nat.le_refl _)⟩
  · exact ⟨row, found, .unchanged⟩

/-- Everything one repository call can do to an account row. -/
theorem account_execute (op : AuthOp)
    (found : store.account userId = some row) :
    ∃ after, (store.execute op).2.account userId = some after ∧
      AccountStep op row after := by
  have rowId : row.id = userId := Table.lookup_key found
  cases op with
  | registerLoginFailure account now lock =>
      refine ⟨_, account_updateAccount account.id _
        (fun row => by cases lock <;> rfl) found, ?_⟩
      split
      · next addressed =>
          exact .failure account now lock rfl (addressed.symm.trans rowId.symm)
      · exact .unchanged
  | resetLoginFailures target now =>
      refine ⟨_, account_updateAccount target _ (fun _ => rfl) found, ?_⟩
      split
      · next addressed =>
          exact .reset now (by rw [rowId, addressed])
      · exact .unchanged
  | transitionAccount => exact step_transitionAccount found
  | updateDisplayName target organizationId =>
      simp only [execute]
      split
      · exact ⟨row, found, .unchanged⟩
      · exact step_settings (fun _ => rfl) (fun _ => rfl)
          (fun _ => .inl rfl) (fun _ => Nat.le_refl _) found
  | changePassword =>
      exact step_updateActive (fun _ => rfl) (fun _ => rfl)
        (fun _ => .inr rfl) (fun _ => Nat.le_succ _) found
  | updateMfaCode =>
      exact step_updateActive (fun _ => rfl) (fun _ => rfl)
        (fun _ => .inl rfl) (fun _ => Nat.le_succ _) found
  | createPendingAccount =>
      simp only [execute, createPendingAccount]
      split
      · exact ⟨row, found, .unchanged⟩
      · exact ⟨row, Table.lookup_append_of_some found _, .unchanged⟩
  | createSession values =>
      simp only [execute]
      split <;> exact ⟨row, found, .unchanged⟩
  | _ => exact ⟨row, found, .unchanged⟩

/-- No two account rows have one identifier. -/
def Keyed (store : AuthStore) : Prop :=
  (store.accounts.map UserAccountRecord.id).Nodup

instance (store : AuthStore) : Decidable store.Keyed :=
  inferInstanceAs (Decidable (List.Nodup _))

theorem keyed_updateAccount (target : Uuid)
    (change : UserAccountRecord → UserAccountRecord)
    (keeps : ∀ row, (change row).id = row.id) (keyed : store.Keyed) :
    (store.updateAccount target change).Keyed := by
  rw [Keyed, updateAccount, Table.map_updateWhere keeps]
  exact keyed

private theorem keyed_grantUserRole (target organizationId : Uuid)
    (now : DateTime) (keyed : store.Keyed) :
    (store.grantUserRole target organizationId now).Keyed := by
  have bumped := keyed_updateAccount target bumpRoleVersion (fun _ => rfl)
    keyed
  simp only [grantUserRole]
  split
  · exact bumped
  · split
    · exact bumped
    · exact keyed

private theorem keyed_updateActive (target organizationId : Uuid)
    (change : UserAccountRecord → UserAccountRecord)
    (keeps : ∀ row, (change row).id = row.id) (keyed : store.Keyed) :
    (store.updateActive target organizationId change).2.Keyed := by
  unfold updateActive
  split
  · exact keyed
  · split
    · exact keyed_updateAccount target change keeps keyed
    · exact keyed

/-- The primary key of the account table stays one. -/
theorem keyed_execute (op : AuthOp) (keyed : store.Keyed) :
    (store.execute op).2.Keyed := by
  cases op with
  | registerLoginFailure account now lock =>
      exact keyed_updateAccount _ _ (fun row => by cases lock <;> rfl) keyed
  | resetLoginFailures =>
      exact keyed_updateAccount _ _ (fun _ => rfl) keyed
  | transitionAccount target organizationId fromStatuses toStatus now grant =>
      simp only [execute, transitionAccount]
      split
      · exact keyed
      split
      · have moved := keyed_updateAccount target (fun row =>
          { row with
            status := toStatus
            failedAttempts := 0
            lockedUntil := none
            updatedAt := now }) (fun _ => rfl) keyed
        cases grant with
        | false => exact moved
        | true => exact keyed_grantUserRole target organizationId now moved
      · exact keyed
  | updateDisplayName =>
      simp only [execute]
      split
      · exact keyed
      · exact keyed_updateAccount _ _ (fun _ => rfl) keyed
  | changePassword =>
      exact keyed_updateActive _ _ _ (fun _ => rfl) keyed
  | updateMfaCode => exact keyed_updateActive _ _ _ (fun _ => rfl) keyed
  | createPendingAccount newId =>
      simp only [execute, createPendingAccount]
      split
      · exact keyed
      rename_i free
      rw [Keyed, List.map_append, List.nodup_append]
      refine ⟨keyed, by simp, ?_⟩
      rintro taken member added isNew rfl
      obtain ⟨row, present, same⟩ := List.mem_map.mp member
      apply free
      rw [List.any_eq_true]
      refine ⟨row, present, ?_⟩
      have newIs := List.mem_singleton.mp isNew
      simp [same, newIs]
  | createSession values =>
      simp only [execute]
      split <;> exact keyed
  | _ => exact keyed

theorem Keyed.account_of_mem (keyed : store.Keyed)
    (member : row ∈ store.accounts) : store.account row.id = some row :=
  Table.lookup_eq_of_mem keyed member

/-- No call lowers a credential version. -/
theorem credentialVersion_execute (op : AuthOp)
    (found : store.account userId = some row) :
    ∃ after, (store.execute op).2.account userId = some after ∧
      row.credentialVersion ≤ after.credentialVersion := by
  obtain ⟨after, foundAfter, step⟩ := account_execute op found
  exact ⟨after, foundAfter, step.credentialVersion_le⟩

theorem account_updateActive (keepsId : ∀ row, (change row).id = row.id)
    (succeeded : (store.updateActive target organizationId change).1 = true) :
    ∃ row, store.account target = some row ∧
      (store.updateActive target organizationId change).2.account target =
        some (change row) := by
  unfold updateActive at succeeded ⊢
  split at succeeded
  · cases succeeded
  rename_i record inOrganization
  split at succeeded
  · next active =>
      have found := account_of_scopedAccount inOrganization
      refine ⟨record, found, ?_⟩
      rw [if_pos active]
      have changed := account_updateAccount target change keepsId found
      rw [if_pos rfl] at changed
      exact changed
  · cases succeeded

/-- A transition that succeeds has given the account its new status. -/
theorem account_transitionAccount {now : DateTime} {grant : Bool}
    (succeeded : (store.transitionAccount target organizationId fromStatuses
      toStatus now grant).1.isSome) :
    ∃ row, (store.transitionAccount target organizationId fromStatuses
      toStatus now grant).2.account target = some row ∧
      row.status = toStatus := by
  unfold transitionAccount at succeeded ⊢
  split at succeeded
  · cases succeeded
  rename_i record inOrganization
  split at succeeded
  · next admitted =>
      have moved := account_updateAccount target (fun row =>
        { row with
          status := toStatus
          failedAttempts := 0
          lockedUntil := none
          updatedAt := now }) (fun _ => rfl)
        (account_of_scopedAccount inOrganization)
      rw [if_pos rfl] at moved
      rw [if_pos admitted]
      cases grant with
      | false => exact ⟨_, moved, rfl⟩
      | true =>
          obtain ⟨version, granted⟩ :=
            account_grantUserRole target organizationId now moved
          exact ⟨_, granted, rfl⟩
  · cases succeeded

end AuthStore

/-- A request to the login or the account-administration service. -/
inductive AuthRequest where
  | newPreAuth (now : DateTime)
  | pendingContext (token : Option String) (now : DateTime)
  | passwordLogin (preAuthToken : Option String) (username password : String)
      (now : DateTime)
  | completeDevMfa (pendingToken : Option String) (suppliedCode : String)
      (now : DateTime)
  | authenticate (token : Option String) (meaningfulActivity : Bool)
      (now : DateTime)
  | revokeCurrent (token reason : String) (now : DateTime)
  | revokeAll (token : String) (now : DateTime)
  | requestRegistration (username displayName password confirmation : String)
      (now : DateTime)
  | changeStatus (principal : AuthenticatedPrincipal) (userId : Uuid)
      (action : String) (now : DateTime)
  | updateDisplayName (principal : AuthenticatedPrincipal)
      (displayName : String) (now : DateTime)
  | changePassword (principal : AuthenticatedPrincipal)
      (currentPassword newPassword confirmation : String) (now : DateTime)
  | renewMfaCode (principal : AuthenticatedPrincipal) (userId : Uuid)
      (now : DateTime)
deriving DecidableEq

/-- What a request returns. -/
inductive AuthReply where
  | session (context : SessionContext)
  | account (account : ManagedAccount)
  | accepted (value : Bool)
  | mfaCode (issued : IssuedMfaCode)
  | completed

variable (env : AuthEnvironment)

def AuthRequest.body : AuthRequest → AuthProgram AuthReply
  | .newPreAuth now => do
      pure (.session (← Auth.newPreAuth env now))
  | .pendingContext token now => do
      pure (.session (← Auth.pendingContext env token now))
  | .passwordLogin preAuthToken username password now => do
      pure (.session
        (← Auth.passwordLogin env preAuthToken username password now))
  | .completeDevMfa pendingToken suppliedCode now => do
      pure (.session (← Auth.completeDevMfa env pendingToken suppliedCode now))
  | .authenticate token meaningfulActivity now => do
      pure (.session (← Auth.authenticate env token meaningfulActivity now))
  | .revokeCurrent token reason now => do
      Auth.revokeCurrent env token reason now
      pure .completed
  | .revokeAll token now => do
      Auth.revokeAll env token now
      pure .completed
  | .requestRegistration username displayName password confirmation now => do
      pure (.accepted (← Auth.requestRegistration env username displayName
        password confirmation now))
  | .changeStatus principal userId action now => do
      pure (.account (← Auth.changeStatus principal userId action now))
  | .updateDisplayName principal displayName now => do
      pure (.account (← Auth.updateDisplayName env principal displayName now))
  | .changePassword principal currentPassword newPassword confirmation now => do
      Auth.changePassword env principal currentPassword newPassword
        confirmation now
      pure .completed
  | .renewMfaCode principal userId now => do
      pure (.mfaCode (← Auth.renewMfaCode env principal userId now))

/-- Any number of requests, interleaved at their repository calls. -/
def authSystem :
    System AuthStore AuthRequest AuthOp AuthOp.Resp ServiceError AuthReply :=
  { execute := AuthStore.execute
    body := AuthRequest.body env
    admits := fun _ _ => true }

/-- A started request. -/
abbrev AuthThread :=
  Thread AuthRequest AuthOp AuthOp.Resp ServiceError AuthReply

/-- The tables and all started requests. -/
abbrev AuthConfig :=
  Config AuthStore AuthRequest AuthOp AuthOp.Resp ServiceError AuthReply

/-! ## Who can ask for a status transition -/

/-- The call is not a status transition. -/
def NoTransition : AuthOp → Prop
  | .transitionAccount .. => False
  | _ => True

/-- A status transition is the one an administrator's request names. -/
def AdministratorTransition (request : AuthRequest) : AuthOp → Prop
  | .transitionAccount userId organizationId fromStatuses toStatus now grant =>
      ∃ principal name action,
        request = .changeStatus principal userId name now ∧
        HumanRole.admin ∈ principal.roles ∧
        StatusAction.ofName name = some action ∧
        organizationId = principal.organizationId ∧
        statusActions action = ⟨fromStatuses, toStatus, grant⟩
  | _ => True

theorem AdministratorTransition.of_noTransition {request : AuthRequest}
    (op : AuthOp) (other : NoTransition op) :
    AdministratorTransition request op := by
  cases op with
  | transitionAccount => exact other.elim
  | _ => trivial

/-- The call neither moves an account by a transition, nor opens a session,
nor extends one. -/
def QuietOp : AuthOp → Prop
  | .transitionAccount .. | .createSession _ | .touchSession .. => False
  | _ => True

/-- The call neither moves an account by a transition nor extends a
session. -/
def StageOp : AuthOp → Prop
  | .transitionAccount .. | .touchSession .. => False
  | _ => True

/-- The call neither moves an account by a transition nor opens a session, and
extends no session but this one. -/
def VisitOp (sessionIdHash : String) : AuthOp → Prop
  | .transitionAccount .. | .createSession _ => False
  | .touchSession touched _ _ => touched = sessionIdHash
  | _ => True

/-- The call neither opens nor extends a session. -/
def KeepsSessions : AuthOp → Prop
  | .createSession _ | .touchSession .. => False
  | _ => True

def LoadOp : AuthOp → Prop
  | .session _ | .revokeSession .. => True
  | _ => False

/-- A call that loads or creates a session and touches no account. -/
def SessionOp : AuthOp → Prop
  | .session _ | .revokeSession .. | .draw | .createSession _ => True
  | _ => False

/-- A call of the password stage under the canonical name `name`: of the
account calls only the failure registration writes. -/
def LoginOp (name : String) : AuthOp → Prop
  | .accountByUsername username => username = name
  | .session _ | .revokeSession .. | .registerLoginFailure .. | .audit _
  | .draw | .createSession _ => True
  | _ => False

theorem QuietOp.stage (op : AuthOp) (quiet : QuietOp op) : StageOp op := by
  cases op with
  | transitionAccount | touchSession => exact quiet.elim
  | _ => trivial

theorem QuietOp.visit {sessionIdHash : String} (op : AuthOp)
    (quiet : QuietOp op) : VisitOp sessionIdHash op := by
  cases op with
  | transitionAccount | createSession | touchSession => exact quiet.elim
  | _ => trivial

theorem QuietOp.keepsSessions (op : AuthOp) (quiet : QuietOp op) :
    KeepsSessions op := by
  cases op with
  | createSession | touchSession => exact quiet.elim
  | _ => trivial

theorem StageOp.noTransition (op : AuthOp) (stage : StageOp op) :
    NoTransition op := by
  cases op with
  | transitionAccount => exact stage.elim
  | _ => trivial

theorem QuietOp.noTransition (op : AuthOp) (quiet : QuietOp op) :
    NoTransition op :=
  (quiet.stage op).noTransition op

theorem VisitOp.noTransition {sessionIdHash : String} (op : AuthOp)
    (visit : VisitOp sessionIdHash op) : NoTransition op := by
  cases op with
  | transitionAccount => exact visit.elim
  | _ => trivial

theorem LoadOp.sessionOp (op : AuthOp) (load : LoadOp op) :
    SessionOp op := by
  cases op with
  | session | revokeSession => trivial
  | _ => exact load.elim

theorem LoadOp.quiet (op : AuthOp) (load : LoadOp op) : QuietOp op := by
  cases op with
  | session | revokeSession => trivial
  | _ => exact load.elim

theorem SessionOp.loginOp {name : String} (op : AuthOp)
    (session : SessionOp op) : LoginOp name op := by
  cases op with
  | session | revokeSession | draw | createSession => trivial
  | _ => exact session.elim

theorem LoginOp.stage {name : String} (op : AuthOp)
    (login : LoginOp name op) : StageOp op := by
  cases op with
  | transitionAccount | touchSession => exact login.elim
  | _ => trivial

theorem SessionOp.stage (op : AuthOp) (session : SessionOp op) :
    StageOp op := by
  have login : LoginOp "" op := session.loginOp op
  exact login.stage op

theorem LoginOp.accounts_execute {name : String} {op : AuthOp}
    (login : LoginOp name op)
    (other : ∀ account now lock, op ≠ .registerLoginFailure account now lock)
    (store : AuthStore) : (store.execute op).2.accounts = store.accounts := by
  cases op with
  | registerLoginFailure account now lock =>
      exact absurd rfl (other account now lock)
  | createSession values =>
      simp only [AuthStore.execute]
      split <;> rfl
  | session | revokeSession | accountByUsername | audit | draw => rfl
  | _ => exact login.elim

theorem loadSession_loadOp (token : Option String) (phase : SessionPhase)
    (now : DateTime) :
    (loadSession env token phase now).Issues LoadOp := by
  unfold loadSession
  split
  · trivial
  · trivial
  refine .perform trivial fun stored => ?_
  split
  · trivial
  split
  · trivial
  split
  · trivial
  · split
    · exact .perform trivial fun _ => trivial
    · trivial

theorem loadSession_sessionOp (token : Option String) (phase : SessionPhase)
    (now : DateTime) :
    (loadSession env token phase now).Issues SessionOp :=
  (loadSession_loadOp env token phase now).mono LoadOp.sessionOp

theorem loadSession_quiet (token : Option String) (phase : SessionPhase)
    (now : DateTime) :
    (loadSession env token phase now).Issues QuietOp :=
  (loadSession_loadOp env token phase now).mono LoadOp.quiet

theorem createSession_sessionOp (now : DateTime) (phase : SessionPhase)
    (user : Option AccountSnapshot) (authMethods : String)
    (privileged : Bool) :
    (createSession env now phase user authMethods privileged).Issues
      SessionOp := by
  refine .perform trivial fun _ => .perform trivial fun inserted => ?_
  split <;> trivial

theorem createSession_stage (now : DateTime) (phase : SessionPhase)
    (user : Option AccountSnapshot) (authMethods : String)
    (privileged : Bool) :
    (createSession env now phase user authMethods privileged).Issues
      StageOp :=
  (createSession_sessionOp env ..).mono SessionOp.stage

theorem passwordLogin_loginOp (preAuthToken : Option String)
    (username password : String) (now : DateTime) :
    (passwordLogin env preAuthToken username password now).Issues
      (LoginOp (canonicalUsername env username)) := by
  refine .bind ((loadSession_sessionOp env preAuthToken .preAuth now).mono
    SessionOp.loginOp) fun loaded => ?_
  refine .perform rfl fun account => ?_
  unfold decideLogin
  split
  · exact .perform trivial fun _ => trivial
  split
  · exact .perform trivial fun _ => trivial
  split
  · exact .perform trivial fun _ => .perform trivial fun _ => trivial
  split
  · exact .perform trivial fun _ => trivial
  · refine .perform trivial fun _ => ?_
    exact .bind ((createSession_sessionOp env ..).mono
      SessionOp.loginOp) fun _ => .perform trivial fun _ => trivial

theorem completeDevMfa_stage (pendingToken : Option String)
    (suppliedCode : String) (now : DateTime) :
    (completeDevMfa env pendingToken suppliedCode now).Issues StageOp := by
  refine .bind ((loadSession_quiet env pendingToken .mfaPending now).mono
    QuietOp.stage) ?_
  rintro ⟨oldHash, stored⟩
  dsimp only
  split
  · trivial
  refine .perform trivial fun account => ?_
  split
  · trivial
  refine .lift fun suppliedHash _ => ?_
  split
  · refine .perform trivial fun _ => ?_
    split
    · exact .perform trivial fun _ => .perform trivial fun _ => trivial
    · exact .perform trivial fun _ => trivial
  · refine .perform trivial fun roles => ?_
    split
    · exact .perform trivial fun _ => trivial
    · refine .perform trivial fun _ => ?_
      exact .bind (createSession_stage env ..) fun _ =>
        .perform trivial fun _ => .perform trivial fun _ => trivial

theorem authenticate_visits (token : Option String)
    (meaningfulActivity : Bool) (now : DateTime) :
    ∃ next, authenticate env token meaningfulActivity now =
        loadSession env token .authenticated now >>= next ∧
      ∀ sessionHash stored,
        (next (sessionHash, stored)).Issues (VisitOp sessionHash) := by
  refine ⟨_, rfl, fun sessionHash stored => ?_⟩
  dsimp only
  split
  · refine .perform trivial fun account => ?_
    split
    · refine .perform trivial fun roles => ?_
      split
      · exact .perform trivial fun _ => trivial
      refine .perform trivial fun assetIds => ?_
      split
      · exact .perform rfl fun _ => trivial
      · trivial
    · exact .perform trivial fun _ => trivial
  · trivial

theorem authenticate_issues {allowed : AuthOp → Prop}
    (visits : ∀ sessionHash op, VisitOp sessionHash op → allowed op)
    (token : Option String) (meaningfulActivity : Bool) (now : DateTime) :
    (authenticate env token meaningfulActivity now).Issues allowed := by
  obtain ⟨next, split, visiting⟩ :=
    authenticate_visits env token meaningfulActivity now
  rw [split]
  refine .bind ((loadSession_quiet env token .authenticated now).mono ?_) ?_
  · exact fun op quiet => visits "" op (quiet.visit op)
  · exact fun loaded => (visiting loaded.1 loaded.2).mono (visits loaded.1)

theorem pendingContext_quiet (token : Option String) (now : DateTime) :
    (pendingContext env token now).Issues QuietOp :=
  .bind (loadSession_quiet env ..) fun _ => trivial

theorem revokeCurrent_quiet (token reason : String) (now : DateTime) :
    (revokeCurrent env token reason now).Issues QuietOp :=
  .perform trivial fun _ => .perform trivial fun _ =>
    .perform trivial fun _ => trivial

theorem revokeAll_quiet (token : String) (now : DateTime) :
    (revokeAll env token now).Issues QuietOp := by
  refine .bind (loadSession_quiet env ..) ?_
  rintro ⟨sessionHash, stored⟩
  dsimp only
  split
  · trivial
  · exact .perform trivial fun _ => .perform trivial fun _ => trivial

theorem changeStatus_issues (principal : AuthenticatedPrincipal)
    (userId : Uuid) (name : String) (now : DateTime) :
    (changeStatus principal userId name now).Issues fun op =>
      AdministratorTransition (.changeStatus principal userId name now) op ∧
        KeepsSessions op := by
  unfold changeStatus requireAdmin
  split
  · next admin =>
      rw [Program.pure_eq_done, Program.done_bind]
      split
      · trivial
      rename_i action named
      split
      · trivial
      refine .perform ⟨⟨principal, name, action, rfl, admin, named, rfl,
        rfl⟩, trivial⟩ fun account => ?_
      split
      · trivial
      split
      · exact .perform ⟨trivial, trivial⟩ fun _ =>
          .perform ⟨trivial, trivial⟩ fun _ => trivial
      · exact .perform ⟨trivial, trivial⟩ fun _ => trivial
  · trivial

theorem requestRegistration_quiet
    (username displayName password confirmation : String) (now : DateTime) :
    (requestRegistration env username displayName password confirmation
      now).Issues QuietOp := by
  refine .lift fun canonical _ => .lift fun safeDisplayName _ => ?_
  split
  · trivial
  dsimp only
  split
  · trivial
  refine .perform trivial fun organizationId => ?_
  split
  · trivial
  · exact .perform trivial fun _ => .perform trivial fun _ =>
      .perform trivial fun _ => .perform trivial fun _ => trivial

theorem updateDisplayName_quiet (principal : AuthenticatedPrincipal)
    (displayName : String) (now : DateTime) :
    (updateDisplayName env principal displayName now).Issues
      QuietOp := by
  refine .lift fun checked _ => .perform trivial fun account => ?_
  split
  · trivial
  · exact .perform trivial fun _ => trivial

theorem changePassword_quiet (principal : AuthenticatedPrincipal)
    (currentPassword newPassword confirmation : String) (now : DateTime) :
    (changePassword env principal currentPassword newPassword confirmation
      now).Issues QuietOp := by
  refine .perform trivial fun account => ?_
  split
  · trivial
  split
  · trivial
  split
  · exact .perform trivial fun _ => trivial
  split
  · trivial
  split
  · trivial
  dsimp only
  split
  · trivial
  refine .perform trivial fun salt => .perform trivial ?_
  intro changed
  split
  · trivial
  · exact .perform trivial fun _ => .perform trivial fun _ =>
      trivial

theorem renewMfaCode_quiet (principal : AuthenticatedPrincipal)
    (userId : Uuid) (now : DateTime) :
    (renewMfaCode env principal userId now).Issues QuietOp := by
  unfold renewMfaCode requireAdmin
  split
  · rw [Program.pure_eq_done, Program.done_bind]
    split
    · trivial
    refine .perform trivial fun drawn => .lift fun codeHash _ => ?_
    refine .perform trivial fun changed => ?_
    split
    · trivial
    · exact .perform trivial fun _ => .perform trivial fun _ => trivial
  · trivial

/-- Only an administrator's status change issues a transition, and exactly
the one `_STATUS_ACTIONS` lists. -/
theorem body_issues (request : AuthRequest) :
    (request.body env).Issues (AdministratorTransition request) := by
  have ordinary {α : Type} {program : AuthProgram α} {wrap : α → AuthReply}
      (issues : program.Issues NoTransition) :
      (program >>= fun value => pure (wrap value)).Issues
        (AdministratorTransition request) :=
    .bind (issues.mono AdministratorTransition.of_noTransition)
      fun _ => trivial
  have quiet {α : Type} {program : AuthProgram α} {wrap : α → AuthReply}
      (issues : program.Issues QuietOp) :
      (program >>= fun value => pure (wrap value)).Issues
        (AdministratorTransition request) :=
    ordinary (issues.mono QuietOp.noTransition)
  have staged {α : Type} {program : AuthProgram α} {wrap : α → AuthReply}
      (issues : program.Issues StageOp) :
      (program >>= fun value => pure (wrap value)).Issues
        (AdministratorTransition request) :=
    ordinary (issues.mono StageOp.noTransition)
  cases request with
  | newPreAuth => exact staged (createSession_stage env ..)
  | pendingContext => exact quiet (pendingContext_quiet env ..)
  | passwordLogin =>
      exact staged ((passwordLogin_loginOp env ..).mono LoginOp.stage)
  | completeDevMfa => exact staged (completeDevMfa_stage env ..)
  | authenticate =>
      exact ordinary (authenticate_issues env
        (fun _ => VisitOp.noTransition) ..)
  | revokeCurrent => exact quiet (revokeCurrent_quiet env ..)
  | revokeAll => exact quiet (revokeAll_quiet env ..)
  | requestRegistration => exact quiet (requestRegistration_quiet env ..)
  | changeStatus =>
      exact .bind ((changeStatus_issues ..).mono fun _ issued => issued.1)
        fun _ => trivial
  | updateDisplayName => exact quiet (updateDisplayName_quiet env ..)
  | changePassword => exact quiet (changePassword_quiet env ..)
  | renewMfaCode => exact quiet (renewMfaCode_quiet env ..)

/-! ## A small installation

One organization with an administrator and one account, for concrete runs. -/

def sampleEnvironment : AuthEnvironment :=
  { nfc := id
    strip := id
    casefold := id
    isControlCategory := fun character => decide (character.toNat < 32)
    isAlpha := Char.isAlpha
    sessionHash := fun token => "session:" ++ token
    csrfToken := fun token => "csrf:" ++ token
    csrfHash := fun token => "csrf-hash:" ++ token
    mfaDigest := fun _ code => "mfa:" ++ code
    verifyPassword := fun passwordHash password =>
      decide (passwordHash = "argon2id:7" ∧ password = "Sunny-day9")
    hashPassword := fun salt _ => "argon2id:" ++ toString salt
    tokenUrlsafe := fun drawn => "token-" ++ toString drawn
    uuid4 := fun drawn => ⟨1000 + drawn⟩
    sixDigitCode := fun _ => "123456"
    mfaSigningKeyReady := true
    idleTimeoutMinutes := 30
    privilegedIdleTimeoutMinutes := 15
    absoluteTimeoutHours := 8
    preAuthTimeoutMinutes := 5 }

def alice : UserAccountRecord :=
  { id := ⟨1⟩
    organizationId := ⟨100⟩
    usernameCanonical := "alice"
    displayName := "Alice"
    status := .active
    passwordHash := "argon2id:7"
    credentialVersion := 1
    roleAssignmentVersion := 1
    passwordChangedAt := 0
    failedAttempts := 0
    lockedUntil := none
    mfaCodeHash := some "mfa:123456"
    mfaIssuedAt := some 0
    mfaExpiresAt := some (days 30)
    createdAt := 0
    updatedAt := 0 }

def administrator : AuthenticatedPrincipal :=
  { userId := ⟨2⟩
    username := "root"
    displayName := "Root"
    organizationId := ⟨100⟩
    roles := [.admin]
    assetIds := []
    authMethods := ["password", "dev-test-mfa"]
    sessionCreatedAt := 0
    reauthenticatedAt := 0 }

def sampleStore : AuthStore :=
  { organizations := [⟨⟨100⟩, 0⟩]
    accounts := [alice]
    sessions := []
    roleAssignments := [⟨⟨1⟩, ⟨100⟩, .user, 0, none⟩]
    assetAssignments := []
    auditEvents := []
    drawn := 0 }

end SecAI.Auth
