/-
Module: SecAI.Auth.TemporaryLock
Purpose: What the two login stages do, undisturbed, to an account whose
  temporary lock has run out.
Trusted boundary: none
Main exports:
  LapsedLock, presentCredentials, lapsed_lock_never_unlocks
-/
import SecAI.Auth.SessionSteps

namespace SecAI.Auth

open Interleaving

variable (env : AuthEnvironment)

/-- A created session is found again under its token and belongs to the user
it was created for. -/
theorem createSession_run (now : DateTime) (phase : SessionPhase)
    (user : Option AccountSnapshot) (authMethods : String)
    (privileged : Bool) (store : AuthStore) :
    (∃ error after, (createSession env now phase user authMethods
        privileged).run AuthStore.execute store = (.error error, after) ∧
        after.accounts = store.accounts) ∨
      ∃ context after stored, (createSession env now phase user authMethods
          privileged).run AuthStore.execute store = (.ok context, after) ∧
        after.accounts = store.accounts ∧
        after.storedSession (env.sessionHash context.token) = some stored ∧
        stored.userId = user.map AccountSnapshot.id := by
  unfold createSession
  simp only [call, Program.perform_bind, Program.run_call]
  rcases AuthStore.execute_createSession (store.execute .draw).2 _ with
    taken | ⟨unused, inserted⟩
  · rw [taken]
    exact .inl ⟨_, _, rfl, rfl⟩
  · rw [inserted]
    exact .inr ⟨_, _, _, rfl, rfl, AuthStore.storedSession_append _ unused,
      rfl⟩

/-- Only an ACTIVE account passes the second stage; any other keeps its row. -/
theorem completeDevMfa_of_not_active {token : String} (code : String)
    (now : DateTime) {store : AuthStore} {stored : BrowserSessionRecord} {userId : Uuid}
    {record : UserAccountRecord}
    (session : store.storedSession (env.sessionHash token) = some stored)
    (owner : stored.userId = some userId)
    (account : store.account userId = some record)
    (notActive : record.status ≠ .active) :
    ∃ error after, (completeDevMfa env (some token) code now).run
      AuthStore.execute store = (.error error, after) ∧
      after.accounts = store.accounts := by
  unfold completeDevMfa
  rw [Program.run_bind]
  rcases loadSession_run env (some token) .mfaPending now store with
    ⟨error, after, failed, same⟩ |
      ⟨text, found, sameToken, looked, _, _, loaded⟩
  · exact ⟨error, after, by rw [failed], same⟩
  · cases sameToken
    rw [session] at looked
    cases looked
    rw [loaded]
    simp only [owner, call, Program.perform_bind, Program.run_call,
      AuthStore.execute, account, Option.map_some]
    cases digest : mfaCodeDigest env record.snapshot.id code with
    | error error => exact ⟨_, _, rfl, rfl⟩
    | ok suppliedHash =>
        have refused : record.snapshot.validFactor suppliedHash now = false := by
          simp [AccountSnapshot.validFactor, UserAccountRecord.snapshot,
            notActive]
        simp only [Program.lift_ok, Program.done_bind, refused, or_true,
          if_true, Program.run_call, AuthStore.execute]
        split
        · exact ⟨_, _, rfl, rfl⟩
        · exact ⟨_, _, rfl, rfl⟩

/-- A first stage with the correct password changes no account row, and its
pending session belongs to the account. -/
theorem passwordLogin_run {preAuthToken : Option String}
    {username password : String} {now : DateTime} {store : AuthStore}
    {record : UserAccountRecord}
    (named : Table.lookup UserAccountRecord.usernameCanonical
      (canonicalUsername env username) store.accounts = some record)
    (correct : env.verifyPassword record.passwordHash password = true) :
    (∃ error after, (passwordLogin env preAuthToken username password now).run
        AuthStore.execute store = (.error error, after) ∧
        after.accounts = store.accounts) ∨
      ∃ context after stored, (passwordLogin env preAuthToken username
          password now).run AuthStore.execute store = (.ok context, after) ∧
        after.accounts = store.accounts ∧
        after.storedSession (env.sessionHash context.token) = some stored ∧
        stored.userId = some record.id := by
  unfold passwordLogin
  rw [Program.run_bind]
  rcases loadSession_run env preAuthToken .preAuth now store with
    ⟨error, after, failed, same⟩ | ⟨text, found, _, _, _, _, loaded⟩
  · exact .inl ⟨error, after, by rw [failed], same⟩
  · rw [loaded]
    have verified : env.verifyPassword record.snapshot.passwordHash password =
        true := correct
    simp only [call, Program.perform_bind, Program.run_call,
      AuthStore.execute, named, Option.map_some, decideLogin, verified,
      Bool.true_eq_false, if_false]
    split
    · exact .inl ⟨_, _, rfl, rfl⟩
    split
    · exact .inl ⟨_, _, rfl, rfl⟩
    simp only [Program.run_call, AuthStore.execute, Program.run_bind]
    rcases createSession_run env now .mfaPending (some record.snapshot)
        "password" false (store.updateSessions _ _) with
      ⟨error, after, failed, same⟩ |
        ⟨context, after, stored, created, same, looked, owner⟩
    · exact .inl ⟨error, after, by rw [failed], same⟩
    · let allowed := auditEvent "LOGIN_PASSWORD" "ALLOW" "MFA_REQUIRED"
        (some (reference (env.sessionHash context.token)))
        (some record.id) (some record.organizationId)
      let audited : AuthStore :=
        { after with auditEvents := after.auditEvents ++ [allowed] }
      refine .inr ⟨context, audited, stored, ?_, same, looked, owner⟩
      rw [created]
      rfl

/-- Present the correct password, and on success the MFA code, with nothing
in between. -/
def presentCredentials (preAuthToken : Option String)
    (username password code : String) (now later : DateTime) :
    AuthProgram SessionContext := do
  let pending ← passwordLogin env preAuthToken username password now
  completeDevMfa env (some pending.token) code later

/-- The account is back in use: an authenticated session was handed out and
the row is ACTIVE. -/
def Unlocked (userId : Uuid)
    (outcome : Except ServiceError SessionContext × AuthStore) : Prop :=
  ∃ context, outcome.1 = .ok context ∧ context.phase = .authenticated ∧
    (outcome.2.account userId).map UserAccountRecord.status = some .active

/-- A temporarily locked account whose lock has run out, and credentials that
are correct in every respect: a live pre-login session, an unexpired
password, an active role and a correct, unexpired MFA factor. -/
structure LapsedLock (store : AuthStore) (record : UserAccountRecord)
    (preAuthToken username password code : String)
    (now later : DateTime) : Prop where
  stored : store.account record.id = some record
  named : Table.lookup UserAccountRecord.usernameCanonical
    (canonicalUsername env username) store.accounts = some record
  locked : record.status = .tempLocked
  lapsed : ∃ lockedUntil, record.lockedUntil = some lockedUntil ∧
    lockedUntil ≤ now
  ordered : now ≤ later
  preAuthSession : ∃ session, preAuthToken ≠ "" ∧
    store.storedSession (env.sessionHash preAuthToken) = some session ∧
    session.phase = .preAuth ∧ session.revokedAt = none ∧
    now < session.expiresAt ∧ now < session.idleExpiresAt
  correctPassword : env.verifyPassword record.passwordHash password = true
  unexpiredPassword : now < record.passwordChangedAt + days 30
  activeRole : (AuthStore.execute store
    (.roles record.id record.organizationId)).1 ≠ []
  correctFactor : ∃ codeHash expiresAt,
    mfaCodeDigest env record.id code = .ok codeHash ∧
    record.mfaCodeHash = some codeHash ∧
    record.mfaExpiresAt = some expiresAt ∧ later < expiresAt

variable {env}

/-- However correct the credentials are, a temporarily locked account is not
unlocked by presenting them: the second stage asks for ACTIVE, which only its
own success would restore.  The row stays as it is. -/
theorem lapsed_lock_never_unlocks {store : AuthStore}
    {record : UserAccountRecord} {preAuthToken username password code : String}
    {now later : DateTime}
    (lock : LapsedLock env store record preAuthToken username password code
      now later) :
    let outcome := (presentCredentials env (some preAuthToken) username
      password code now later).run AuthStore.execute store
    ¬ Unlocked record.id outcome ∧ outcome.2.account record.id = some record := by
  intro outcome
  have failed : ∃ error, outcome.1 = .error error ∧
      outcome.2.accounts = store.accounts := by
    have split : outcome = _ := Program.run_bind AuthStore.execute _ _ _
    rcases passwordLogin_run env lock.named lock.correctPassword with
      ⟨error, after, first, same⟩ |
        ⟨context, after, stored, first, same, session, owner⟩
    · rw [first] at split
      exact ⟨error, by rw [split], by rw [split]; exact same⟩
    · rw [first] at split
      have account : after.account record.id = some record := by
        rw [AuthStore.account, same]
        exact lock.stored
      have notActive : record.status ≠ .active := by
        rw [lock.locked]
        decide
      obtain ⟨error, final, second, unchanged⟩ :=
        completeDevMfa_of_not_active env code later session owner account
          notActive
      have result : outcome = (.error error, final) := split.trans second
      exact ⟨error, by rw [result], by rw [result]; exact unchanged.trans same⟩
  obtain ⟨error, raised, unchanged⟩ := failed
  constructor
  · rintro ⟨context, completed, _⟩
    rw [raised] at completed
    cases completed
  · rw [AuthStore.account, unchanged]
    exact lock.stored

/-- Ten wrong passwords, a quarter of an hour of waiting, and a new login
page. -/
def tenWrongLogins : List (Action AuthRequest) :=
  [.start (.newPreAuth 0), .step 0, .step 0] ++
  (List.range 10).flatMap (fun attempt =>
    .start (.passwordLogin (some "token-0") "alice" "Rainy-day9" 1) ::
      List.replicate 4 (.step (attempt + 1))) ++
  [.start (.newPreAuth (minutes 16)), .step 11, .step 11]

def lockedOutStore : AuthStore :=
  (((authSystem sampleEnvironment).schedule System.unguarded
    (Config.initial sampleStore) tenWrongLogins).map Config.store).getD
      sampleStore

def lockedAlice : UserAccountRecord :=
  { alice with
    status := .tempLocked
    failedAttempts := 10
    lockedUntil := some (1 + minutes 15)
    updatedAt := 1 }

theorem lockedOutStore_reachable :
    ∃ config, (authSystem sampleEnvironment).Run System.unguarded
      (Config.initial sampleStore) config ∧
      config.store = lockedOutStore := by
  have scheduled : ((authSystem sampleEnvironment).schedule System.unguarded
      (Config.initial sampleStore) tenWrongLogins).map Config.store =
      some lockedOutStore := by
    decide
  exact System.exists_run_of_schedule scheduled

theorem lockedAlice_lapsed :
    LapsedLock sampleEnvironment lockedOutStore lockedAlice "token-1" "alice"
      "Sunny-day9" "123456" (minutes 16) (minutes 17) where
  stored := by decide
  named := by decide
  locked := rfl
  lapsed := ⟨1 + minutes 15, rfl, by decide⟩
  ordered := by decide
  preAuthSession :=
    ⟨(lockedOutStore.storedSession "session:token-1").getD default,
      by decide⟩
  correctPassword := by decide
  unexpiredPassword := by decide
  activeRole := by decide
  correctFactor := ⟨"mfa:123456", days 30, by decide⟩

/-- The right password and the right code leave this account locked. -/
theorem lockedAlice_stays_locked :
    let outcome := (presentCredentials sampleEnvironment (some "token-1")
      "alice" "Sunny-day9" "123456" (minutes 16) (minutes 17)).run
        AuthStore.execute lockedOutStore
    ¬ Unlocked lockedAlice.id outcome ∧
      outcome.2.account lockedAlice.id = some lockedAlice :=
  lapsed_lock_never_unlocks lockedAlice_lapsed

/-- A lock that ten wrong passwords have set has run out, every credential is
right, and still no session is handed out. -/
theorem correct_credentials_do_not_unlock :
    (∃ config, (authSystem sampleEnvironment).Run System.unguarded
      (Config.initial sampleStore) config ∧ config.store = lockedOutStore) ∧
    LapsedLock sampleEnvironment lockedOutStore lockedAlice "token-1" "alice"
      "Sunny-day9" "123456" (minutes 16) (minutes 17) ∧
    ¬ Unlocked lockedAlice.id ((presentCredentials sampleEnvironment
      (some "token-1") "alice" "Sunny-day9" "123456" (minutes 16)
      (minutes 17)).run AuthStore.execute lockedOutStore) := by
  refine ⟨lockedOutStore_reachable, lockedAlice_lapsed, ?_⟩
  rintro ⟨_, _, _, active⟩
  have locked : ((((presentCredentials sampleEnvironment (some "token-1")
      "alice" "Sunny-day9" "123456" (minutes 16) (minutes 17)).run
        AuthStore.execute lockedOutStore).2.account lockedAlice.id).map
          UserAccountRecord.status) = some .tempLocked := by
    decide
  rw [locked] at active
  cases active

end SecAI.Auth
