/-
Module: SecAI.Auth.SessionSteps
Purpose: What one repository call, and one undisturbed request, can do to one
  session row.
Trusted boundary: none
Main exports:
  Aged, AuthStore.storedSession_execute, AuthStore.storedSession_created
-/
import SecAI.Auth.Requests

namespace SecAI.Auth

open Interleaving

/-- `Aged old new`: `new` is a later version of the session row `old`.  Whom
the session belongs to, its phase, its versions and its absolute expiry never
change, and a revocation is final. -/
structure Aged (old new : BrowserSessionRecord) : Prop where
  sameHash : new.sessionIdHash = old.sessionIdHash
  sameUser : new.userId = old.userId
  sameOrganization : new.activeOrganizationId = old.activeOrganizationId
  samePhase : new.phase = old.phase
  sameCredentialVersion : new.credentialVersion = old.credentialVersion
  sameRoleVersion : new.roleAssignmentVersion = old.roleAssignmentVersion
  sameExpiry : new.expiresAt = old.expiresAt
  staysRevoked : old.revokedAt.isSome → new.revokedAt = old.revokedAt

namespace Aged

theorem refl (row : BrowserSessionRecord) : Aged row row where
  sameHash := rfl
  sameUser := rfl
  sameOrganization := rfl
  samePhase := rfl
  sameCredentialVersion := rfl
  sameRoleVersion := rfl
  sameExpiry := rfl
  staysRevoked := fun _ => rfl

theorem trans {first second third : BrowserSessionRecord}
    (one : Aged first second) (two : Aged second third) :
    Aged first third where
  sameHash := two.sameHash.trans one.sameHash
  sameUser := two.sameUser.trans one.sameUser
  sameOrganization := two.sameOrganization.trans one.sameOrganization
  samePhase := two.samePhase.trans one.samePhase
  sameCredentialVersion :=
    two.sameCredentialVersion.trans one.sameCredentialVersion
  sameRoleVersion := two.sameRoleVersion.trans one.sameRoleVersion
  sameExpiry := two.sameExpiry.trans one.sameExpiry
  staysRevoked := by
    intro revoked
    have kept := one.staysRevoked revoked
    rw [two.staysRevoked (by rw [kept]; exact revoked), kept]

end Aged

/-- A session that the call opens satisfies `allowed`. -/
def Opens (allowed : BrowserSessionRecord → Prop) : AuthOp → Prop
  | .createSession values => allowed values
  | _ => True

/-- The call moves the idle expiry of the session. -/
def Touches (sessionIdHash : String) : AuthOp → Prop
  | .touchSession touched _ _ => touched = sessionIdHash
  | _ => False

namespace AuthStore

variable {store : AuthStore} {sessionIdHash : String}
  {row : BrowserSessionRecord}

theorem updateActive_sessions (userId organizationId : Uuid)
    (change : UserAccountRecord → UserAccountRecord) :
    (store.updateActive userId organizationId change).2.sessions =
      store.sessions := by
  unfold updateActive
  split
  · rfl
  · split <;> rfl

theorem grantUserRole_sessions (userId organizationId : Uuid)
    (now : DateTime) :
    (store.grantUserRole userId organizationId now).sessions =
      store.sessions := by
  simp only [grantUserRole]
  split
  · rfl
  · split <;> rfl

theorem transitionAccount_sessions (userId organizationId : Uuid)
    (fromStatuses : List AccountStatus) (toStatus : AccountStatus)
    (now : DateTime) (grantRole : Bool) :
    (store.transitionAccount userId organizationId fromStatuses toStatus now
      grantRole).2.sessions = store.sessions := by
  unfold transitionAccount
  split
  · rfl
  split
  · cases grantRole with
    | false => rfl
    | true => exact grantUserRole_sessions userId organizationId now
  · rfl

/-- The calls that write session rows. -/
def WritesSessions : AuthOp → Prop
  | .createSession _ | .revokeSession .. | .revokeUserSessions ..
  | .touchSession .. | .incrementMfaFailure _ => True
  | _ => False

theorem sessions_execute {op : AuthOp} (other : ¬WritesSessions op) :
    (store.execute op).2.sessions = store.sessions := by
  cases op with
  | transitionAccount => exact transitionAccount_sessions ..
  | changePassword => exact updateActive_sessions ..
  | updateMfaCode => exact updateActive_sessions ..
  | updateDisplayName =>
      simp only [execute]
      split <;> rfl
  | createPendingAccount =>
      simp only [execute, createPendingAccount]
      split <;> rfl
  | createSession | revokeSession | revokeUserSessions | touchSession
  | incrementMfaFailure => exact absurd trivial other
  | _ => rfl

/-- Every write of session rows but an insertion is an update that ages each
row, and only a touch moves the idle expiry. -/
theorem execute_updates {op : AuthOp} (writes : WritesSessions op)
    (inserts : ∀ values, op ≠ .createSession values) :
    ∃ condition change,
      (store.execute op).2 = store.updateSessions condition change ∧
      ∀ row, Aged row (if condition row then change row else row) ∧
        (¬Touches row.sessionIdHash op →
          (if condition row then change row else row).idleExpiresAt =
            row.idleExpiresAt) := by
  cases op with
  | createSession values => exact absurd rfl (inserts values)
  | revokeSession revoked now reason =>
      refine ⟨_, _, rfl, fun row => ⟨?_, fun _ => by split <;> rfl⟩⟩
      split
      · next met =>
          simp only [Bool.and_eq_true, Option.isNone_iff_eq_none] at met
          constructor <;> simp [met.2]
      · exact .refl row
  | revokeUserSessions userId now reason except =>
      refine ⟨_, _, rfl, fun row => ⟨?_, fun _ => by split <;> rfl⟩⟩
      split
      · next met =>
          simp only [Bool.and_eq_true, Option.isNone_iff_eq_none] at met
          constructor <;> simp [met.1.2]
      · exact .refl row
  | touchSession touched now idleExpiresAt =>
      refine ⟨_, _, rfl, fun row => ⟨?_, fun untouched => ?_⟩⟩
      · split
        · exact { Aged.refl row with }
        · exact .refl row
      · have different : row.sessionIdHash ≠ touched :=
          fun same => untouched same.symm
        simp [different]
  | incrementMfaFailure counted =>
      refine ⟨_, _, rfl, fun row => ⟨?_, fun _ => by split <;> rfl⟩⟩
      split
      · exact { Aged.refl row with }
      · exact .refl row
  | _ => exact writes.elim

theorem storedSession_updateSessions {condition : BrowserSessionRecord → Bool}
    {change : BrowserSessionRecord → BrowserSessionRecord}
    (ages : ∀ row, Aged row (if condition row then change row else row)) :
    (store.updateSessions condition change).storedSession sessionIdHash =
      (store.storedSession sessionIdHash).map fun row =>
        if condition row then change row else row := by
  refine Table.lookup_updateWhere condition (fun row met => ?_) sessionIdHash
    store.sessions
  have same := (ages row).sameHash
  rw [if_pos met] at same
  exact same

/-- What one repository call does to a session row: it ages, and only a touch
moves its idle expiry. -/
theorem storedSession_execute (op : AuthOp)
    (found : store.storedSession sessionIdHash = some row) :
    ∃ after, (store.execute op).2.storedSession sessionIdHash = some after ∧
      Aged row after ∧
      (¬Touches sessionIdHash op →
        after.idleExpiresAt = row.idleExpiresAt) := by
  have rowHash : row.sessionIdHash = sessionIdHash := Table.lookup_key found
  by_cases writes : WritesSessions op
  · by_cases inserts : ∃ values, op = .createSession values
    · obtain ⟨values, rfl⟩ := inserts
      refine ⟨row, ?_, .refl row, fun _ => rfl⟩
      rcases execute_createSession store values with
        taken | ⟨_, inserted⟩
      · rw [taken]
        exact found
      · rw [inserted]
        exact Table.lookup_append_of_some found _
    · obtain ⟨condition, change, updates, ages⟩ :=
        @execute_updates store _ writes
          fun values same => inserts ⟨values, same⟩
      obtain ⟨aged, idle⟩ := ages row
      rw [rowHash] at idle
      refine ⟨_, ?_, aged, idle⟩
      rw [updates, storedSession_updateSessions fun row => (ages row).1, found]
      rfl
  · refine ⟨row, ?_, .refl row, fun _ => rfl⟩
    rw [storedSession, sessions_execute writes]
    exact found

/-- A session row appears only where it is created. -/
theorem storedSession_created (op : AuthOp)
    (missing : store.storedSession sessionIdHash = none)
    (found : (store.execute op).2.storedSession sessionIdHash = some row) :
    op = .createSession row ∧ row.sessionIdHash = sessionIdHash := by
  have rowHash : row.sessionIdHash = sessionIdHash := Table.lookup_key found
  refine ⟨?_, rowHash⟩
  by_cases writes : WritesSessions op
  · by_cases inserts : ∃ values, op = .createSession values
    · obtain ⟨values, rfl⟩ := inserts
      rcases execute_createSession store values with
        taken | ⟨_, inserted⟩
      · rw [taken, missing] at found
        cases found
      · rw [inserted, storedSession, Table.lookup_append] at found
        rw [storedSession] at missing
        rw [missing, Option.none_or] at found
        have same := List.mem_singleton.mp (Table.lookup_mem found)
        rw [same]
    · obtain ⟨condition, change, updates, ages⟩ :=
        @execute_updates store _ writes
          fun values same => inserts ⟨values, same⟩
      rw [updates, storedSession_updateSessions fun row => (ages row).1,
        missing] at found
      cases found
  · rw [storedSession, sessions_execute writes] at found
    rw [storedSession, found] at missing
    cases missing

end AuthStore

section Runs

variable {α : Type} {program : AuthProgram α} {store : AuthStore}
  {sessionIdHash : String} {row : BrowserSessionRecord}

theorem run_session_kept (program : AuthProgram α)
    (found : store.storedSession sessionIdHash = some row) :
    ∃ after, (program.run AuthStore.execute store).2.storedSession
      sessionIdHash = some after ∧ Aged row after := by
  induction program generalizing store row with
  | done value => exact ⟨row, found, .refl row⟩
  | raise error => exact ⟨row, found, .refl row⟩
  | call op resume ih =>
      obtain ⟨middle, foundMiddle, aged, _⟩ :=
        AuthStore.storedSession_execute op found
      obtain ⟨after, foundAfter, later⟩ :=
        ih (store.execute op).1 foundMiddle
      exact ⟨after, foundAfter, aged.trans later⟩

theorem run_session_untouched
    (untouched : program.Issues fun op => ¬Touches sessionIdHash op)
    (found : store.storedSession sessionIdHash = some row) :
    ∃ after, (program.run AuthStore.execute store).2.storedSession
      sessionIdHash = some after ∧ Aged row after ∧
      after.idleExpiresAt = row.idleExpiresAt := by
  let holds (later : AuthStore) : Prop :=
    ∃ after, later.storedSession sessionIdHash = some after ∧
      Aged row after ∧ after.idleExpiresAt = row.idleExpiresAt
  have initially : holds store := ⟨row, found, .refl row, rfl⟩
  suffices preserved : ∀ later op, holds later →
      ¬Touches sessionIdHash op → holds (later.execute op).2 from
    Program.run_preserves AuthStore.execute preserved untouched initially
  rintro later op ⟨current, foundCurrent, aged, idle⟩ other
  obtain ⟨after, foundAfter, step, kept⟩ :=
    AuthStore.storedSession_execute op foundCurrent
  exact ⟨after, foundAfter, aged.trans step, (kept other).trans idle⟩

/-- A session row that appears while a program runs was created by it. -/
theorem run_session_created {allowed : BrowserSessionRecord → Prop}
    (opens : program.Issues (Opens allowed))
    (missing : store.storedSession sessionIdHash = none)
    (found : (program.run AuthStore.execute store).2.storedSession
      sessionIdHash = some row) :
    ∃ created, allowed created ∧ created.sessionIdHash = sessionIdHash ∧
      Aged created row := by
  let holds (later : AuthStore) : Prop :=
    ∀ current, later.storedSession sessionIdHash = some current →
      ∃ created, allowed created ∧ created.sessionIdHash = sessionIdHash ∧
        Aged created current
  have initially : holds store := by
    intro current present
    rw [missing] at present
    cases present
  suffices preserved : ∀ later op, holds later → Opens allowed op →
      holds (later.execute op).2 from
    Program.run_preserves AuthStore.execute preserved opens initially row
      found
  intro later op earlier issued current present
  cases before : later.storedSession sessionIdHash with
  | none =>
      obtain ⟨created, hash⟩ :=
        AuthStore.storedSession_created op before present
      subst created
      exact ⟨current, issued, hash, .refl current⟩
  | some old =>
      obtain ⟨after, foundAfter, aged, _⟩ :=
        AuthStore.storedSession_execute op before
      rw [foundAfter] at present
      cases present
      obtain ⟨created, listed, hash, grown⟩ := earlier old before
      exact ⟨created, listed, hash, grown.trans aged⟩

end Runs

theorem run_wrapped {β : Type} (program : AuthProgram α) (wrap : α → β)
    (store : AuthStore) :
    ((program >>= fun value => pure (wrap value)).run AuthStore.execute
      store).2 = (program.run AuthStore.execute store).2 := by
  rw [Program.run_bind]
  generalize program.run AuthStore.execute store = outcome
  obtain ⟨result, after⟩ := outcome
  cases result <;> rfl

/-- The session row is one that `_create_session` writes for this phase and
this account. -/
structure OpenedFor (phase : SessionPhase) (user : Option AccountSnapshot)
    (session : BrowserSessionRecord) : Prop where
  samePhase : session.phase = phase
  owner : session.userId = user.map AccountSnapshot.id
  organization :
    session.activeOrganizationId = user.map AccountSnapshot.organizationId
  credentialVersion : session.credentialVersion =
    (user.map AccountSnapshot.credentialVersion).getD 0
  roleVersion : session.roleAssignmentVersion =
    (user.map AccountSnapshot.roleAssignmentVersion).getD 0

theorem OpenedFor.aged {phase : SessionPhase} {user : Option AccountSnapshot}
    {created session : BrowserSessionRecord}
    (opened : OpenedFor phase user created) (aged : Aged created session) :
    OpenedFor phase user session where
  samePhase := aged.samePhase.trans opened.samePhase
  owner := aged.sameUser.trans opened.owner
  organization := aged.sameOrganization.trans opened.organization
  credentialVersion :=
    aged.sameCredentialVersion.trans opened.credentialVersion
  roleVersion := aged.sameRoleVersion.trans opened.roleVersion

theorem createSession_opens (env : AuthEnvironment) (now : DateTime)
    (phase : SessionPhase) (user : Option AccountSnapshot)
    (authMethods : String) (privileged : Bool) :
    (createSession env now phase user authMethods privileged).Issues
      (Opens (OpenedFor phase user)) := by
  refine .perform trivial fun drawn => .perform ?_ fun inserted => ?_
  · exact ⟨rfl, rfl, rfl, rfl, rfl⟩
  · split <;> trivial

/-- The session is neither revoked nor expired at this instant. -/
structure BrowserSessionRecord.ValidAt (session : BrowserSessionRecord)
    (now : DateTime) : Prop where
  unrevoked : session.revokedAt = none
  withinAbsolute : now < session.expiresAt
  withinIdle : now < session.idleExpiresAt

/-- `_load_session` either fails, or hands out the stored session unchanged
and valid; no account row changes. -/
theorem loadSession_run (env : AuthEnvironment) (token : Option String)
    (phase : SessionPhase) (now : DateTime) (store : AuthStore) :
    (∃ error after, (loadSession env token phase now).run AuthStore.execute
        store = (.error error, after) ∧ after.accounts = store.accounts) ∨
      ∃ text stored, token = some text ∧
        store.storedSession (env.sessionHash text) = some stored ∧
        stored.phase = phase ∧ stored.ValidAt now ∧
        (loadSession env token phase now).run AuthStore.execute store =
          (.ok (env.sessionHash text, stored), store) := by
  unfold loadSession
  split
  · exact .inl ⟨_, _, rfl, rfl⟩
  · exact .inl ⟨_, _, rfl, rfl⟩
  rename_i text _
  simp only [call, Program.perform_bind, Program.run_call,
    AuthStore.execute]
  cases found : store.storedSession (env.sessionHash text) with
  | none => exact .inl ⟨_, _, rfl, rfl⟩
  | some stored =>
      simp only []
      split
      · exact .inl ⟨_, _, rfl, rfl⟩
      rename_i samePhase
      split
      · exact .inl ⟨_, _, rfl, rfl⟩
      rename_i unrevoked
      split
      · exact .inl ⟨_, _, rfl, rfl⟩
      rename_i unexpired
      rw [not_or] at unexpired
      refine .inr ⟨text, stored, rfl, found,
        of_not_not samePhase, ⟨?_, ?_, ?_⟩, rfl⟩
      · simpa using unrevoked
      · exact Int.not_le.mp unexpired.1
      · exact Int.not_le.mp unexpired.2

theorem identityChanged_eq_false {session : BrowserSessionRecord}
    {organizationId : Uuid} {account : AccountSnapshot}
    (unchanged : identityChanged session organizationId (some account) =
      false) :
    account.status = .active ∧
      account.credentialVersion = session.credentialVersion ∧
      account.roleAssignmentVersion = session.roleAssignmentVersion ∧
      account.organizationId = organizationId := by
  simpa [identityChanged, and_assoc] using unchanged

end SecAI.Auth
