/-
Module: SecAI.Auth.Lockout
Purpose: When an account closed by an administrator stays closed, and when the
  failure count covers every wrong password, over every interleaving.
Trusted boundary: none
Main exports:
  closed_until_activation, attemptSystem, failures_counted
-/
import SecAI.Auth.Requests

namespace SecAI.Auth

open Interleaving

def AccountStatus.closed : AccountStatus → Bool
  | .disabled | .rejected => true
  | _ => false

def AuthStore.closedNow (store : AuthStore) (userId : Uuid) : Bool :=
  (store.account userId).any fun row => row.status.closed

/-- The call is a login's status write, and the account it addresses has been
closed since the login read it.  `register_login_failure` with a lock writes
TEMP_LOCKED and `reset_login_failures` writes ACTIVE, both unconditionally. -/
def overwritesClosed (userId : Uuid) (store : AuthStore) : AuthOp → Bool
  | .registerLoginFailure account _ (some _) =>
      decide (account.id = userId) && store.closedNow userId
  | .resetLoginFailures target _ =>
      decide (target = userId) && store.closedNow userId
  | _ => false

/-- The request is an administrator's activation of the account, and the call
is its transition. -/
def activates (userId : Uuid) (thread : AuthThread) (op : AuthOp) : Bool :=
  match thread.request, op with
  | .changeStatus _ target name _, .transitionAccount .. =>
      decide (target = userId) &&
        decide (StatusAction.ofName name = some .activate)
  | _, _ => false

/-- No login writes a closed account, and no administrator activates it. -/
def leavesClosed (userId : Uuid) (store : AuthStore) (thread : AuthThread)
    (op : AuthOp) : Prop :=
  overwritesClosed userId store op = false ∧ activates userId thread op = false

instance (userId : Uuid) (store : AuthStore) (thread : AuthThread)
    (op : AuthOp) : Decidable (leavesClosed userId store thread op) :=
  inferInstanceAs (Decidable (_ ∧ _))

variable {env : AuthEnvironment}

/-- Of the listed transitions only the activation starts from a closed
status. -/
theorem statusActions_closed {action : StatusAction} {status : AccountStatus}
    (closed : status.closed = true)
    (admitted : status ∈ (statusActions action).fromStatuses) :
    action = .activate := by
  cases action <;> cases status <;> simp_all [statusActions,
    AccountStatus.closed]

/-- One call that no guard forbids keeps the status of a closed account. -/
theorem closed_step {store : AuthStore} {thread : AuthThread} {op : AuthOp}
    {userId : Uuid} {row after : UserAccountRecord}
    (found : store.account userId = some row)
    (closed : row.status.closed = true)
    (issued : AdministratorTransition thread.request op)
    (guarded : leavesClosed userId store thread op)
    (step : AccountStep op row after) : after.status = row.status := by
  have rowId : row.id = userId := Table.lookup_key found
  have closedNow : store.closedNow userId = true := by
    rw [AuthStore.closedNow, found]
    exact closed
  obtain ⟨noOverwrite, noActivation⟩ := guarded
  cases step with
  | unchanged => rfl
  | failure account now lock called addressed =>
      cases lock with
      | none => rfl
      | some lockedUntil =>
          subst called
          simp [overwritesClosed, addressed, rowId, closedNow] at noOverwrite
  | reset now called =>
      subst called
      simp [overwritesClosed, rowId, closedNow] at noOverwrite
  | transition organizationId fromStatuses toStatus now grant called
      admitted =>
      subst called
      obtain ⟨principal, name, action, requested, _, named, _, listed⟩ :=
        issued
      have fromListed : row.status ∈ (statusActions action).fromStatuses := by
        rw [listed]
        exact admitted
      cases statusActions_closed closed fromListed
      simp [activates, requested, rowId, named] at noActivation
  | settings _ sameStatus => exact sameStatus

/-- Every write the guard excludes does take the account out of the status
the administrator gave it. -/
theorem overwritesClosed_reopens {store : AuthStore} {op : AuthOp}
    {userId : Uuid} (overwrites : overwritesClosed userId store op = true) :
    (store.execute op).2.closedNow userId = false := by
  cases op with
  | registerLoginFailure account now lock =>
      cases lock with
      | none => simp [overwritesClosed] at overwrites
      | some lockedUntil =>
          simp only [overwritesClosed, Bool.and_eq_true, decide_eq_true_eq,
            AuthStore.closedNow, Option.any_eq_true] at overwrites
          obtain ⟨addressed, row, found, _⟩ := overwrites
          have written := AuthStore.account_updateAccount account.id
            (AuthStore.failureColumns account now (some lockedUntil))
            (fun _ => rfl) found
          rw [if_pos addressed.symm] at written
          simp only [AuthStore.closedNow, AuthStore.execute, written]
          rfl
  | resetLoginFailures target now =>
      simp only [overwritesClosed, Bool.and_eq_true, decide_eq_true_eq,
        AuthStore.closedNow, Option.any_eq_true] at overwrites
      obtain ⟨addressed, row, found, _⟩ := overwrites
      have written := AuthStore.account_updateAccount target
        (AuthStore.resetColumns now) (fun _ => rfl) found
      rw [if_pos addressed.symm] at written
      simp only [AuthStore.closedNow, AuthStore.execute, written]
      rfl
  | _ => simp [overwritesClosed] at overwrites

/-- Once an account is DISABLED or REJECTED, in any reachable state, it keeps
that status for as long as no administrator activates it and no login writes
its status while it is closed. -/
theorem closed_until_activation {store : AuthStore}
    {before after : AuthConfig}
    {userId : Uuid} {row : UserAccountRecord}
    (reached : (authSystem env).Run System.unguarded (Config.initial store)
      before)
    (found : before.store.account userId = some row)
    (closed : row.status.closed = true)
    (run : (authSystem env).Run (leavesClosed userId) before after) :
    ∃ later, after.store.account userId = some later ∧
      later.status = row.status := by
  let holds (config : AuthConfig) : Prop :=
    (authSystem env).Walked config ∧
      ∃ later, config.store.account userId = some later ∧
        later.status = row.status
  have initially : holds before :=
    ⟨reached.walked (System.Walked.initial store), row, found, rfl⟩
  refine (run.invariant holds initially ?_).2
  rintro middle next ⟨walked, current, currentFound, same⟩ step
  refine ⟨walked.step step, ?_⟩
  cases step with
  | start => exact ⟨current, currentFound, same⟩
  | execute index thread op resume scheduled pending guarded =>
      obtain ⟨later, laterFound, rowStep⟩ :=
        AuthStore.account_execute op currentFound
      have issued : AdministratorTransition thread.request op :=
        walked.issues scheduled pending (body_issues env thread.request)
      have kept := closed_step currentFound (by rw [same]; exact closed)
        issued guarded rowStep
      exact ⟨later, laterFound, kept.trans same⟩

/-- A login up to the point where the MFA stage has read the ACTIVE account;
then an administrator disables it. -/
def disabledDuringLogin : List (Action AuthRequest) :=
  [.start (.newPreAuth 0), .step 0, .step 0,
   .start (.passwordLogin (some "token-0") "alice" "Sunny-day9" 1)] ++
  List.replicate 6 (.step 1) ++
  [.start (.completeDevMfa (some "token-1") "123456" 2), .step 2, .step 2,
   .start (.changeStatus administrator alice.id "disable" 3), .step 3, .step 3,
   .step 3]

def aliceStatus (config : AuthConfig) : Option AccountStatus :=
  (config.store.account alice.id).map UserAccountRecord.status

/-- A new login attempt meets the disabled account and leaves it disabled. -/
theorem disabled_account_refuses_login :
    ∃ before after,
      (authSystem sampleEnvironment).Run System.unguarded
        (Config.initial sampleStore) before ∧
      (authSystem sampleEnvironment).Run (leavesClosed alice.id)
        before after ∧
      before.threads.length < after.threads.length ∧
      ∃ later, after.store.account alice.id = some later ∧
        later.status = .disabled := by
  let continued (config : AuthConfig) :=
    (aliceStatus config, ((authSystem sampleEnvironment).schedule
      (leavesClosed alice.id) config
      ([.start (.newPreAuth 4), .step 4, .step 4,
        .start (.passwordLogin (some "token-2") "alice" "Sunny-day9" 5)] ++
        List.replicate 3 (.step 5))).map fun later =>
          decide (config.threads.length < later.threads.length))
  have scheduled : ((authSystem sampleEnvironment).schedule System.unguarded
      (Config.initial sampleStore) disabledDuringLogin).map continued =
      some (some .disabled, some true) := by
    decide
  obtain ⟨before, reached, seen⟩ := System.exists_run_of_schedule scheduled
  obtain ⟨disabled, later⟩ := Prod.mk.inj seen
  obtain ⟨row, found, status⟩ := Option.map_eq_some_iff.mp disabled
  obtain ⟨after, run, longer⟩ := System.exists_run_of_schedule later
  refine ⟨before, after, reached, run, of_decide_eq_true longer, ?_⟩
  rw [← status]
  exact closed_until_activation reached found (by rw [status]; rfl) run

/-- The MFA stage sets an account ACTIVE that an administrator has disabled
while it ran; nobody activates the account. -/
theorem login_reactivates_disabled :
    ∃ before after,
      (authSystem sampleEnvironment).Run System.unguarded
        (Config.initial sampleStore) before ∧
      aliceStatus before = some .disabled ∧
      (authSystem sampleEnvironment).Run
        (fun _ thread op => activates alice.id thread op = false)
        before after ∧
      aliceStatus after = some .active := by
  let continued (config : AuthConfig) :=
    (aliceStatus config, ((authSystem sampleEnvironment).schedule
      (fun _ thread op => activates alice.id thread op = false) config
      (List.replicate 6 (.step 2))).map aliceStatus)
  have scheduled : ((authSystem sampleEnvironment).schedule System.unguarded
      (Config.initial sampleStore) disabledDuringLogin).map continued =
      some (some .disabled, some (some .active)) := by
    decide
  obtain ⟨before, reached, seen⟩ := System.exists_run_of_schedule scheduled
  obtain ⟨disabled, later⟩ := Prod.mk.inj seen
  obtain ⟨after, run, active⟩ := System.exists_run_of_schedule later
  exact ⟨before, after, reached, disabled, run, active⟩

variable (env : AuthEnvironment)

/-- The request is a login under the account's name with a wrong password, or
asks for the login page such an attempt starts from. -/
def wrongAttempt (userId : Uuid) (store : AuthStore) : AuthRequest → Bool
  | .passwordLogin _ username password _ =>
      (store.account userId).any fun row =>
        decide (Table.lookup UserAccountRecord.usernameCanonical
          (canonicalUsername env username) store.accounts = some row) &&
            !env.verifyPassword row.passwordHash password
  | .newPreAuth _ => true
  | _ => false

def attemptSystem (userId : Uuid) :
    System AuthStore AuthRequest AuthOp AuthOp.Resp ServiceError AuthReply :=
  { authSystem env with admits := wrongAttempt env userId }

/-- The attempt has completed: it was refused over its credentials. -/
def refused (thread : AuthThread) : Bool :=
  match thread.rest with
  | .raise (.authentication .invalidCredentials _) => true
  | _ => false

def completedAttempts (config : AuthConfig) : Nat :=
  config.threads.countP refused

/-- A failure is registered while the account still has the count that the
login read: no other failure was registered in between. -/
def countsFromStored (store : AuthStore) (_ : AuthThread) : AuthOp → Prop
  | .registerLoginFailure account _ _ =>
      (store.account account.id).map UserAccountRecord.failedAttempts =
        some account.failedAttempts
  | _ => True

instance (store : AuthStore) (thread : AuthThread) (op : AuthOp) :
    Decidable (countsFromStored store thread op) :=
  match op with
  | .registerLoginFailure account _ _ =>
      inferInstanceAs (Decidable ((store.account account.id).map
        UserAccountRecord.failedAttempts = some account.failedAttempts))
  | .accountByUsername _ | .accountById _ | .roles .. | .assetIds ..
  | .createSession _ | .session _ | .revokeSession .. | .revokeUserSessions ..
  | .touchSession .. | .resetLoginFailures .. | .incrementMfaFailure _
  | .audit _ | .managedAccountById _ | .registrationOrganizationId
  | .createPendingAccount .. | .transitionAccount .. | .updateDisplayName ..
  | .changePassword .. | .updateMfaCode .. | .draw => .isTrue trivial

/-! ## The course of one attempt -/

/-- What `_load_session` raises is not a refusal of credentials. -/
def NotCredentials : ServiceError → Prop
  | .authentication .invalidCredentials _ => False
  | _ => True

theorem loadSession_raises (token : Option String) (phase : SessionPhase)
    (now : DateTime) :
    (loadSession env token phase now).Raises NotCredentials := by
  unfold loadSession
  split
  · trivial
  · trivial
  refine .perform fun stored => ?_
  split
  · trivial
  split
  · trivial
  split
  · trivial
  · split
    · exact .perform fun _ => trivial
    · trivial

theorem newPreAuth_raises (now : DateTime) :
    (AuthRequest.body env (.newPreAuth now)).Raises NotCredentials := by
  intro drawn inserted
  cases inserted <;> trivial

/-- The next thing to happen is a refusal of the credentials or the
registration of a failure. -/
def Critical {α : Type} : AuthProgram α → Prop
  | .raise (.authentication .invalidCredentials _) => True
  | .call (.registerLoginFailure ..) _ => True
  | _ => False

theorem Critical.of_bind {α β : Type} {left : AuthProgram α}
    {next : α → AuthProgram β} (critical : Critical (left >>= next))
    (unfinished : ∀ value, left ≠ .done value) : Critical left := by
  cases left with
  | done value => exact absurd rfl (unfinished value)
  | raise error =>
      cases error with
      | authentication code message => cases code <;> exact critical
      | _ => exact critical
  | call op resume => cases op <;> exact critical

theorem not_critical_of_session {α : Type} {left : AuthProgram α}
    (issues : left.Issues SessionOp) (raises : left.Raises NotCredentials) :
    ¬ Critical left := by
  intro critical
  cases left with
  | done value => exact critical
  | raise error =>
      cases error with
      | authentication code message =>
          cases code with
          | invalidCredentials => exact raises
          | _ => exact critical
      | _ => exact critical
  | call op resume =>
      cases op with
      | registerLoginFailure => exact issues.1
      | _ => exact critical

variable {env}

variable {token : Option String} {username password : String} {now : DateTime}
  {history : List (Event AuthOp AuthOp.Resp)}

/-- A login that is about to refuse the credentials or to register a failure
has looked up the account and is on a path of the decision about it. -/
theorem passwordLogin_path {rest : AuthProgram SessionContext}
    (walked : Program.Path (passwordLogin env token username password now)
      history rest) (critical : Critical rest) :
    ∃ oldHash answer tail,
      (⟨.accountByUsername (canonicalUsername env username), answer⟩ :
        Event AuthOp AuthOp.Resp) ∈ history ∧ tail ⊆ history ∧
      Program.Path (decideLogin env oldHash password now answer) tail rest := by
  rcases walked.of_bind with
    ⟨left, loading, rfl, unfinished⟩ |
      ⟨earlier, later, ⟨oldHash, _⟩, rfl, _, looking⟩
  · exact absurd (critical.of_bind unfinished) (not_critical_of_session
      (loading.issues (loadSession_sessionOp env ..))
      (loading.raises (loadSession_raises env ..)))
  · rcases looking.of_call with ⟨rfl, rfl⟩ | ⟨answer, tail, rfl, deciding⟩
    · exact critical.elim
    · refine ⟨oldHash, answer, tail, ?_, ?_, deciding⟩
      · simp
      · intro event member
        simp [member]

def refusalEvent (oldHash reason : String) (account : AccountSnapshot) :
    AuthenticationAuditEvent :=
  auditEvent "LOGIN_PASSWORD" "DENY" reason (some (reference oldHash))
    (some account.id) (some account.organizationId)

variable {account : AccountSnapshot}

/-- With a wrong password the decision is refused at once or registers a
failure first. -/
theorem decideLogin_of_wrong
    (wrong : env.verifyPassword account.passwordHash password = false)
    (oldHash : String) (now : DateTime) :
    decideLogin env oldHash password now (some account) =
      if account.unavailableAt now then
        .call (.audit (refusalEvent oldHash "ACCOUNT_UNAVAILABLE" account))
          fun _ => reject .invalidCredentials genericLoginMessage
      else
        .call (.registerLoginFailure account now
          (lockUntil (account.failedAttempts + 1) now)) fun _ =>
            .call (.audit (refusalEvent oldHash "BAD_PASSWORD" account))
              fun _ => reject .invalidCredentials genericLoginMessage := by
  rw [decideLogin, if_pos wrong]
  rfl

/-- Everything an attempt has looked up: an account with this password
hash. -/
def LooksUp (env : AuthEnvironment) (password : String)
    (history : List (Event AuthOp AuthOp.Resp)) : Prop :=
  ∀ name (answer : Option AccountSnapshot),
    (⟨.accountByUsername name, answer⟩ : Event AuthOp AuthOp.Resp) ∈ history →
      ∃ account, answer = some account ∧
        env.verifyPassword account.passwordHash password = false

/-- A critical attempt has looked up an account, and left the decision about
it as it reports. -/
theorem wrongAttempt_path {rest : AuthProgram AuthReply}
    (walked : Program.Path
      (AuthRequest.body env (.passwordLogin token username password now))
      history rest) (critical : Critical rest)
    (wrong : LooksUp env password history) :
    ∃ oldHash account tail left,
      (⟨.accountByUsername (canonicalUsername env username), some account⟩ :
        Event AuthOp AuthOp.Resp) ∈ history ∧
      env.verifyPassword account.passwordHash password = false ∧
      tail ⊆ history ∧
      Program.Path (decideLogin env oldHash password now (some account)) tail
        left ∧
      rest = left >>= fun value => .done (.session value) := by
  obtain ⟨left, path, rfl⟩ := walked.of_map
  have unfinished : ∀ value, left ≠ .done value := by
    rintro value rfl
    exact critical
  obtain ⟨oldHash, answer, tail, member, inside, deciding⟩ :=
    passwordLogin_path path (critical.of_bind unfinished)
  obtain ⟨account, rfl, wrongHere⟩ := wrong _ _ member
  exact ⟨oldHash, account, tail, left, member, wrongHere, inside, deciding,
    rfl⟩

variable {lock : Option DateTime}

/-- An attempt that registers a failure registers the snapshot it has looked
up, with the lock that goes with its count. -/
theorem registering_attempt {later : DateTime}
    {resume : Unit → AuthProgram AuthReply} (walked : Program.Path
      (AuthRequest.body env (.passwordLogin token username password now))
      history (.call (.registerLoginFailure account later lock) resume))
    (wrong : LooksUp env password history) :
    (⟨.accountByUsername (canonicalUsername env username), some account⟩ :
      Event AuthOp AuthOp.Resp) ∈ history ∧
      lock = lockUntil (account.failedAttempts + 1) later := by
  obtain ⟨oldHash, found, tail, left, member, wrongHere, _, deciding, same⟩ :=
    wrongAttempt_path walked trivial wrong
  rw [decideLogin_of_wrong wrongHere oldHash now] at deciding
  split at deciding
  · rcases deciding.of_call with ⟨_, rfl⟩ | ⟨_, _, _, audited⟩
    · cases same
    · obtain ⟨_, rfl⟩ := audited.of_raise
      cases same
  · rcases deciding.of_call with ⟨_, rfl⟩ | ⟨_, _, _, registered⟩
    · cases same
      exact ⟨member, rfl⟩
    · rcases registered.of_call with ⟨_, rfl⟩ | ⟨_, _, _, audited⟩
      · cases same
      · obtain ⟨_, rfl⟩ := audited.of_raise
        cases same

/-- A completed attempt has seen the account unavailable or has registered a
failure. -/
theorem refused_attempt {message : String} (walked : Program.Path
      (AuthRequest.body env (.passwordLogin token username password now))
      history (.raise (.authentication .invalidCredentials message)))
    (wrong : LooksUp env password history) :
    ∃ account,
      (⟨.accountByUsername (canonicalUsername env username), some account⟩ :
        Event AuthOp AuthOp.Resp) ∈ history ∧
      (account.unavailableAt now = true ∨
        (⟨.registerLoginFailure account now
          (lockUntil (account.failedAttempts + 1) now), ()⟩ :
          Event AuthOp AuthOp.Resp) ∈ history) := by
  obtain ⟨oldHash, account, tail, left, member, wrongHere, inside, deciding,
    same⟩ := wrongAttempt_path walked trivial wrong
  refine ⟨account, member, ?_⟩
  rw [decideLogin_of_wrong wrongHere oldHash now] at deciding
  split at deciding
  · next unavailable => exact .inl unavailable
  have finished : left.Finished := by
    cases left with
    | done | raise => trivial
    | call => cases same
  obtain ⟨_, _, rfl, _⟩ := deciding.of_call_finished finished
  exact .inr (inside (by simp))

/-! ## What the runs preserve -/

def registration : AuthRequest → Event AuthOp AuthOp.Resp → Nat
  | _, ⟨.registerLoginFailure .., _⟩ => 1
  | _, _ => 0

/-- An answered lookup of the account: its status was that of the row, or the
account has been locked since. -/
def LookupFaithful (row : UserAccountRecord) :
    Event AuthOp AuthOp.Resp → Prop
  | ⟨.accountByUsername _, answer⟩ =>
      ∃ account, answer = some account ∧ account.id = row.id ∧
        account.passwordHash = row.passwordHash ∧
        (account.status = .active ∨ account.status = .tempLocked) ∧
        (account.status = .tempLocked → row.status = .tempLocked)
  | _ => True

/-- The thread is a wrong attempt on the row, or has no part in it. -/
def Attempting (env : AuthEnvironment) (store : AuthStore)
    (row : UserAccountRecord) (thread : AuthThread) : Prop :=
  match thread.request with
  | .passwordLogin _ username password _ =>
      Table.lookup UserAccountRecord.usernameCanonical
        (canonicalUsername env username) store.accounts = some row ∧
      env.verifyPassword row.passwordHash password = false ∧
      ∀ event ∈ thread.history, LookupFaithful row event
  | .newPreAuth _ => True
  | _ => False

/-- The count covers the registered failures, and a full count has locked the
account. -/
structure Counting (env : AuthEnvironment) (userId : Uuid)
    (config : AuthConfig) (row : UserAccountRecord) : Prop where
  walked : (attemptSystem env userId).Walked config
  found : config.store.account userId = some row
  usable : row.status = .active ∨ row.status = .tempLocked
  lockedCount : row.status = .tempLocked →
    10 ≤ row.failedAttempts ∧ row.lockedUntil.isSome = true
  counted : config.tally registration ≤ row.failedAttempts
  fullLocks : 1 ≤ config.tally registration → 10 ≤ row.failedAttempts →
    row.status = .tempLocked
  attempts : ∀ thread ∈ config.threads, Attempting env config.store row thread

variable {op : AuthOp}

theorem registration_eq_zero (request : AuthRequest) (answer : op.Resp)
    (other : ∀ account now lock, op ≠ .registerLoginFailure account now lock) :
    registration request ⟨op, answer⟩ = 0 := by
  cases op with
  | registerLoginFailure account now lock =>
      exact absurd rfl (other account now lock)
  | _ => rfl

variable {store : AuthStore}

theorem LookupFaithful.of_loginOp {row : UserAccountRecord} {name : String}
    (login : LoginOp name op)
    (looked : Table.lookup UserAccountRecord.usernameCanonical name
      store.accounts = some row)
    (usable : row.status = .active ∨ row.status = .tempLocked) :
    LookupFaithful row ⟨op, (store.execute op).1⟩ := by
  cases op with
  | accountByUsername username =>
      cases login
      refine ⟨row.snapshot, ?_, rfl, rfl, usable, id⟩
      simp only [AuthStore.execute, looked, Option.map_some]
  | _ => trivial

variable {after : UserAccountRecord}

/-- What was faithful to a row is faithful to the row after a registered
failure. -/
theorem LookupFaithful.later {row : UserAccountRecord}
    (sameId : after.id = row.id)
    (sameHash : after.passwordHash = row.passwordHash)
    (staysLocked : row.status = .tempLocked → after.status = .tempLocked)
    {event : Event AuthOp AuthOp.Resp} (faithful : LookupFaithful row event) :
    LookupFaithful after event := by
  obtain ⟨op, answer⟩ := event
  cases op with
  | accountByUsername name =>
      obtain ⟨account, answered, id, hash, usable, locked⟩ := faithful
      exact ⟨account, answered, id.trans sameId.symm, hash.trans sameHash.symm,
        usable, fun status => staysLocked (locked status)⟩
  | _ => trivial

variable {thread : AuthThread}

theorem Attempting.later {next : AuthStore} {row : UserAccountRecord}
    (lookups : ∀ name,
      Table.lookup UserAccountRecord.usernameCanonical name store.accounts =
        some row →
      Table.lookup UserAccountRecord.usernameCanonical name next.accounts =
        some after) (sameId : after.id = row.id)
    (sameHash : after.passwordHash = row.passwordHash)
    (staysLocked : row.status = .tempLocked → after.status = .tempLocked)
    (attempting : Attempting env store row thread) :
    Attempting env next after thread := by
  unfold Attempting at attempting ⊢
  split
  · next request =>
      rw [request] at attempting
      obtain ⟨looked, wrong, faithful⟩ := attempting
      exact ⟨lookups _ looked, by rw [sameHash]; exact wrong,
        fun event member =>
          (faithful event member).later sameId sameHash staysLocked⟩
  · trivial
  · next other another =>
      split at attempting
      · next request => exact (other _ _ _ _ request).elim
      · next request => exact (another _ request).elim
      · exact attempting

variable {resume : op.Resp → AuthProgram AuthReply}

/-- An attempt stays one when an answer is added that is faithful. -/
theorem Attempting.answered {row : UserAccountRecord} {answer : op.Resp}
    (faithful : ∀ token username password now,
      thread.request = .passwordLogin token username password now →
      LookupFaithful row ⟨op, answer⟩)
    (attempting : Attempting env store row thread) :
    Attempting env store row (System.answered thread op resume answer) := by
  unfold Attempting at attempting ⊢
  simp only [System.answered]
  cases request : thread.request with
  | passwordLogin token username password now =>
      rw [request] at attempting
      refine ⟨attempting.1, attempting.2.1, fun event member => ?_⟩
      rcases List.mem_append.mp member with old | new
      · exact attempting.2.2 event old
      · rw [List.mem_singleton.mp new]
        exact faithful token username password now request
  | _ =>
      rw [request] at attempting
      exact attempting

namespace Counting

variable {userId : Uuid} {config : AuthConfig} {row : UserAccountRecord}

theorem looksUp (wrong : env.verifyPassword row.passwordHash password = false)
    (faithful : ∀ event ∈ history, LookupFaithful row event) :
    LooksUp env password history := by
  intro name answer member
  obtain ⟨account, same, _, sameHash, _⟩ := faithful _ member
  exact ⟨account, same, by rw [sameHash]; exact wrong⟩

/-- Starting a wrong attempt. -/
theorem start {request : AuthRequest}
    (counting : Counting env userId config row)
    (admitted : wrongAttempt env userId config.store request = true) :
    Counting env userId
      { config with
        threads := config.threads ++
          [(attemptSystem env userId).fresh request] } row := by
  have step : (attemptSystem env userId).Step System.unguarded config
      { config with
        threads := config.threads ++
          [(attemptSystem env userId).fresh request] } :=
    .start request admitted
  have sameTally := System.tally_start (attemptSystem env userId)
    registration config request
  refine ⟨counting.walked.step step, counting.found, counting.usable,
    counting.lockedCount, ?_, ?_, ?_⟩
  · rw [sameTally]
    exact counting.counted
  · rw [sameTally]
    exact counting.fullLocks
  · intro thread member
    rcases List.mem_append.mp member with earlier | last
    · exact counting.attempts thread earlier
    · rw [List.mem_singleton.mp last]
      cases request with
      | newPreAuth => trivial
      | passwordLogin token username password now =>
          simp only [wrongAttempt, Option.any_eq_true, Bool.and_eq_true,
            decide_eq_true_eq, Bool.not_eq_true'] at admitted
          obtain ⟨named, found, looked, wrong⟩ := admitted
          rw [counting.found] at found
          cases found
          exact ⟨looked, wrong, fun _ none => absurd none List.not_mem_nil⟩
      | _ => exact absurd admitted Bool.false_ne_true

variable {index : Nat}

/-- Carrying out a call of a scheduled attempt, when the row after it still
covers the count. -/
theorem execute (counting : Counting env userId config row)
    (scheduled : config.threads[index]? = some thread)
    (pending : thread.rest = .call op resume)
    (found : (config.store.execute op).2.account userId = some after)
    (usable : after.status = .active ∨ after.status = .tempLocked)
    (lockedCount : after.status = .tempLocked →
      10 ≤ after.failedAttempts ∧ after.lockedUntil.isSome = true)
    (counted : config.tally registration +
      registration thread.request ⟨op, (config.store.execute op).1⟩ ≤ after.failedAttempts)
    (fullLocks : 1 ≤ config.tally registration +
        registration thread.request ⟨op, (config.store.execute op).1⟩ →
      10 ≤ after.failedAttempts → after.status = .tempLocked)
    (attempts : ∀ other, Attempting env config.store row other →
      Attempting env (config.store.execute op).2 after other)
    (faithful : ∀ token username password now,
      thread.request = .passwordLogin token username password now →
      LookupFaithful after ⟨op, (config.store.execute op).1⟩) :
    Counting env userId
      { store := (config.store.execute op).2
        threads := config.threads.set index
          (System.answered thread op resume (config.store.execute op).1) }
      after := by
  have tally := System.tally_execute registration config
    (config.store.execute op).2 scheduled op resume (config.store.execute op).1
  have step : (attemptSystem env userId).Step System.unguarded config
      { store := (config.store.execute op).2
        threads := config.threads.set index
          (System.answered thread op resume (config.store.execute op).1) } :=
    .execute index thread op resume scheduled pending trivial
  refine ⟨counting.walked.step step, found, usable, lockedCount,
    by rw [tally]; exact counted, by rw [tally]; exact fullLocks, ?_⟩
  intro other member
  rcases List.mem_or_eq_of_mem_set member with earlier | rfl
  · exact attempts other (counting.attempts other earlier)
  · exact (attempts thread
      (counting.attempts thread (List.mem_of_getElem? scheduled))).answered
        faithful

/-- A call that changes no account row. -/
theorem quiet (counting : Counting env userId config row)
    (scheduled : config.threads[index]? = some thread)
    (pending : thread.rest = .call op resume)
    (sameAccounts : (config.store.execute op).2.accounts =
      config.store.accounts)
    (unregistered : registration thread.request ⟨op, (config.store.execute op).1⟩ = 0)
    (faithful : ∀ token username password now,
      thread.request = .passwordLogin token username password now →
      LookupFaithful row ⟨op, (config.store.execute op).1⟩) :
    Counting env userId
      { store := (config.store.execute op).2
        threads := config.threads.set index
          (System.answered thread op resume (config.store.execute op).1) }
      row := by
  refine counting.execute scheduled pending ?_ counting.usable
    counting.lockedCount ?_ ?_ ?_ faithful
  · rw [AuthStore.account, sameAccounts]
    exact counting.found
  · rw [unregistered]
    exact counting.counted
  · rw [unregistered]
    exact counting.fullLocks
  · intro other attempting
    exact attempting.later (fun name looked => by rw [sameAccounts]; exact looked)
      rfl rfl id

/-- Registering a failure whose count was read from the stored one. -/
theorem register {later : DateTime} {resume : Unit → AuthProgram AuthReply}
    (counting : Counting env userId config row)
    (scheduled : config.threads[index]? = some thread)
    (pending : thread.rest =
      .call (.registerLoginFailure account later lock) resume)
    (request : thread.request = .passwordLogin token username password now)
    (guarded : countsFromStored config.store thread
      (.registerLoginFailure account later lock)) :
    Counting env userId
      { store := (config.store.execute
          (.registerLoginFailure account later lock)).2
        threads := config.threads.set index
          (System.answered thread (.registerLoginFailure account later lock)
            resume ()) }
      (AuthStore.failureColumns account later lock row) := by
  have member := List.mem_of_getElem? scheduled
  have attempting := counting.attempts thread member
  have path := counting.walked thread member
  unfold Attempting at attempting
  rw [request] at attempting path
  rw [pending] at path
  obtain ⟨looked, wrong, faithful⟩ := attempting
  obtain ⟨read, lockRule⟩ :=
    registering_attempt path (Counting.looksUp wrong faithful)
  obtain ⟨_, same, sameId, _, _, _⟩ := faithful _ read
  cases same
  have sameUser : row.id = userId := Table.lookup_key counting.found
  have sameCount : row.failedAttempts = account.failedAttempts := by
    have stored : (config.store.account account.id).map
        UserAccountRecord.failedAttempts = some account.failedAttempts :=
      guarded
    rw [sameId, sameUser, counting.found] at stored
    exact Option.some.inj stored
  have lockCases : (lock = none ∧ account.failedAttempts + 1 < 10) ∨
      (lock = some (later + minutes 15) ∧
        10 ≤ account.failedAttempts + 1) := by
    rw [lockRule, lockUntil]
    split
    · next full => exact .inr ⟨rfl, full⟩
    · next few => exact .inl ⟨rfl, by omega⟩
  have columns : (AuthStore.failureColumns account later lock row
      ).failedAttempts = row.failedAttempts + 1 := by
    cases lock <;> simp [AuthStore.failureColumns, sameCount]
  have keepsId : ∀ other : UserAccountRecord,
      (AuthStore.failureColumns account later lock other).id = other.id := by
    intro other
    cases lock <;> rfl
  have keepsName : ∀ other : UserAccountRecord,
      (AuthStore.failureColumns account later lock other).usernameCanonical =
        other.usernameCanonical := by
    intro other
    cases lock <;> rfl
  have counted := counting.counted
  refine counting.execute scheduled pending ?_ ?_ ?_ ?_ ?_ ?_ ?_
  · have written := AuthStore.account_updateAccount account.id
      (AuthStore.failureColumns account later lock) keepsId counting.found
    rw [if_pos (by rw [sameId, sameUser])] at written
    exact written
  · rcases lockCases with ⟨rfl, _⟩ | ⟨rfl, _⟩
    · exact counting.usable
    · exact .inr rfl
  · rcases lockCases with ⟨rfl, few⟩ | ⟨rfl, full⟩
    · intro locked
      have := counting.lockedCount locked
      omega
    · intro _
      exact ⟨by omega, rfl⟩
  · rw [columns]
    simp only [registration]
    omega
  · rw [columns]
    rcases lockCases with ⟨rfl, few⟩ | ⟨rfl, full⟩
    · intro _ full
      omega
    · intro _ _
      rfl
  · intro other attempting
    refine attempting.later (fun name found => ?_) (keepsId row) ?_ ?_
    · have updated := Table.lookup_updateWhere
        (fun row => decide (row.id = account.id)) (fun row _ => keepsName row)
        name config.store.accounts
      rw [found, Option.map_some,
        if_pos (decide_eq_true sameId.symm)] at updated
      exact updated
    · cases lock <;> rfl
    · intro locked
      cases lock with
      | none => exact locked
      | some => rfl
  · intro _ _ _ _ _
    trivial

/-- One step of a run in which every failure is counted from the stored
count. -/
theorem step {next : AuthConfig} (counting : Counting env userId config row)
    (step : (attemptSystem env userId).Step countsFromStored config next) :
    ∃ after, Counting env userId next after := by
  cases step with
  | start request admitted => exact ⟨row, counting.start admitted⟩
  | execute index thread op resume scheduled pending guarded =>
      have attempting :=
        counting.attempts thread (List.mem_of_getElem? scheduled)
      unfold Attempting at attempting
      split at attempting
      · next token username password now request =>
          have issued : LoginOp (canonicalUsername env username) op := by
            refine counting.walked.issues scheduled pending ?_
            rw [request]
            exact .bind (passwordLogin_loginOp env token username password now)
              fun _ => trivial
          rcases Classical.em (∃ account later lock,
              op = .registerLoginFailure account later lock) with
            ⟨account, later, lock, rfl⟩ | other
          · exact ⟨_, counting.register scheduled pending request guarded⟩
          · have unregistering : ∀ account later lock,
                op ≠ .registerLoginFailure account later lock :=
              fun account later lock same => other ⟨account, later, lock, same⟩
            refine ⟨row, counting.quiet scheduled pending
              (issued.accounts_execute unregistering _)
              (registration_eq_zero _ _ unregistering) fun _ _ _ _ _ => ?_⟩
            exact .of_loginOp issued attempting.1 counting.usable
      · next now request =>
          have issued : SessionOp op := by
            refine counting.walked.issues scheduled pending ?_
            rw [request]
            exact .bind (createSession_sessionOp env ..) fun _ => trivial
          have login : LoginOp "" op := SessionOp.loginOp op issued
          have unregistering : ∀ account later lock,
              op ≠ .registerLoginFailure account later lock := by
            rintro account later lock rfl
            exact issued
          refine ⟨row, counting.quiet scheduled pending
            (login.accounts_execute unregistering _)
            (registration_eq_zero _ _ unregistering) fun _ _ _ _ other => ?_⟩
          rw [request] at other
          cases other
      · exact attempting.elim

/-- Every completed attempt is covered by the count, or the account is
locked. -/
theorem completed (counting : Counting env userId config row) :
    completedAttempts config ≤ config.tally registration ∨
      row.status = .tempLocked := by
  by_cases locked : row.status = .tempLocked
  · exact .inr locked
  left
  have registered : ∀ thread ∈ config.threads, refused thread = true →
      1 ≤ thread.tally registration := by
    intro thread member isRefused
    have attempting := counting.attempts thread member
    have path := counting.walked thread member
    obtain ⟨message, rest⟩ : ∃ message, thread.rest =
        .raise (.authentication .invalidCredentials message) := by
      unfold refused at isRefused
      split at isRefused
      · next message rest => exact ⟨message, rest⟩
      · cases isRefused
    rw [rest] at path
    unfold Attempting at attempting
    split at attempting
    · next token username password now request =>
        rw [request] at path
        obtain ⟨_, wrong, faithful⟩ := attempting
        obtain ⟨account, read, outcome⟩ :=
          refused_attempt path (Counting.looksUp wrong faithful)
        obtain ⟨_, same, _, _, usable, lockedThen⟩ := faithful _ read
        cases same
        rcases outcome with unavailable | registered
        · exfalso
          have active : account.status = .active :=
            usable.resolve_right fun status => locked (lockedThen status)
          simp [AccountSnapshot.unavailableAt, AccountSnapshot.lockedAt,
            active] at unavailable
        · exact Thread.weight_le_tally registration registered
    · next now request =>
        rw [request] at path
        exact (path.raises (newPreAuth_raises env now)).elim
    · exact attempting.elim
  exact Config.countP_le_tally registration config refused registered

end Counting

/-- In every run of wrong-password attempts on an ACTIVE account in which no
failure is counted from a count that another one has passed, the stored count
covers the completed attempts up to the threshold, and the threshold locks the
account. -/
theorem failures_counted {store : AuthStore} {userId : Uuid}
    {row : UserAccountRecord} {config : AuthConfig}
    (found : store.account userId = some row) (active : row.status = .active)
    (run : (attemptSystem env userId).Run countsFromStored
      (Config.initial store) config) :
    ∃ later, config.store.account userId = some later ∧
      min (completedAttempts config) 10 ≤ later.failedAttempts ∧
      (10 ≤ completedAttempts config →
        later.status = .tempLocked ∧ later.lockedUntil.isSome = true) := by
  have initially : Counting env userId (Config.initial store) row :=
    { walked := System.Walked.initial store
      found := found
      usable := .inl active
      lockedCount := by simp [active]
      counted := Nat.zero_le _
      fullLocks := by simp [Config.tally, Config.initial]
      attempts := nofun }
  obtain ⟨later, counting⟩ := run.invariant
    (fun config => ∃ later, Counting env userId config later)
    ⟨row, initially⟩
    fun _ _ holds step => holds.elim fun _ counting => counting.step step
  refine ⟨later, counting.found, ?_, ?_⟩
  · rcases counting.completed with covered | locked
    · have counted := counting.counted
      omega
    · have full := (counting.lockedCount locked).1
      omega
  · intro threshold
    have locked : later.status = .tempLocked := by
      rcases counting.completed with covered | locked
      · have counted := counting.counted
        exact counting.fullLocks (by omega) (by omega)
      · exact locked
    exact ⟨locked, (counting.lockedCount locked).2⟩

/-! ## Two overlapping attempts -/

/-- Two login pages, and a wrong password entered on each. -/
def twoAttempts : List (Action AuthRequest) :=
  [.start (.newPreAuth 0), .step 0, .step 0,
   .start (.newPreAuth 0), .step 1, .step 1,
   .start (.passwordLogin (some "token-0") "alice" "Rainy-day9" 1),
   .start (.passwordLogin (some "token-1") "alice" "Windy-day9" 1)]

def aliceFailures (config : AuthConfig) : Nat × Option Nat :=
  (completedAttempts config,
    (config.store.account alice.id).map UserAccountRecord.failedAttempts)

/-- One after the other, both attempts are counted. -/
theorem sequential_attempts_counted :
    ∃ config, aliceFailures config = (2, some 2) ∧
      ∃ later, config.store.account alice.id = some later ∧
        min (completedAttempts config) 10 ≤ later.failedAttempts ∧
        (10 ≤ completedAttempts config →
          later.status = .tempLocked ∧ later.lockedUntil.isSome = true) := by
  have scheduled : ((attemptSystem sampleEnvironment alice.id).schedule
      countsFromStored (Config.initial sampleStore)
      (twoAttempts ++ List.replicate 4 (.step 2) ++
        List.replicate 4 (.step 3))).map aliceFailures =
      some (2, some 2) := by
    decide
  obtain ⟨config, run, seen⟩ := System.exists_run_of_schedule scheduled
  have found : sampleStore.account alice.id = some alice := rfl
  exact ⟨config, seen, failures_counted found rfl run⟩

/-- When both read the account before either writes, two completed attempts
leave a count of one. -/
theorem overlapping_attempts_lose_a_failure :
    ∃ config,
      (attemptSystem sampleEnvironment alice.id).Run System.unguarded
        (Config.initial sampleStore) config ∧
      completedAttempts config = 2 ∧
      (config.store.account alice.id).map UserAccountRecord.failedAttempts =
        some 1 := by
  have scheduled : ((attemptSystem sampleEnvironment alice.id).schedule
      System.unguarded (Config.initial sampleStore)
      (twoAttempts ++ [.step 2, .step 2, .step 3, .step 3, .step 2, .step 2,
        .step 3, .step 3])).map aliceFailures = some (2, some 1) := by
    decide
  obtain ⟨config, run, seen⟩ := System.exists_run_of_schedule scheduled
  obtain ⟨completed, count⟩ := Prod.mk.inj seen
  exact ⟨config, run, completed, count⟩

end SecAI.Auth
