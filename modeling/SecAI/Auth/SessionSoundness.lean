/-
Module: SecAI.Auth.SessionSoundness
Purpose: What a token that authenticates has behind it, after any sequence of
  requests, and that a session that is over stays over.
Trusted boundary: none
Main exports:
  AuthEvent, replay, PasswordStage, authenticated_sessions_are_sound
-/
import SecAI.Auth.SessionSteps

namespace SecAI.Auth

open Interleaving

/-! ## Sequences of requests -/

/-- What happens to an installation: a request is served from start to end,
or accounts and role assignments are rewritten outside of these services, by
the bootstrap command or in the database, which leaves sessions alone. -/
inductive AuthEvent where
  | request (request : AuthRequest)
  | assignment (accounts : List UserAccountRecord)
      (roleAssignments : List UserRoleAssignmentRecord)

def AuthRequest.now : AuthRequest → DateTime
  | .newPreAuth now | .pendingContext _ now | .passwordLogin _ _ _ now
  | .completeDevMfa _ _ now | .authenticate _ _ now | .revokeCurrent _ _ now
  | .revokeAll _ now | .requestRegistration _ _ _ _ now
  | .changeStatus _ _ _ now | .updateDisplayName _ _ now
  | .changePassword _ _ _ _ now | .renewMfaCode _ _ now => now

/-- The event does not happen before this instant. -/
def AuthEvent.NotBefore (instant : DateTime) : AuthEvent → Prop
  | .request served => instant ≤ served.now
  | .assignment .. => True

variable (env : AuthEnvironment)

def AuthEvent.apply (store : AuthStore) : AuthEvent → AuthStore
  | .request served => ((served.body env).run AuthStore.execute store).2
  | .assignment accounts roleAssignments =>
      { store with accounts := accounts, roleAssignments := roleAssignments }

def replay (start : AuthStore) (events : List AuthEvent) : AuthStore :=
  events.foldl (AuthEvent.apply env) start

/-- `authenticate` returns this principal for the token. -/
def Authenticates (store : AuthStore) (token : Option String)
    (now : DateTime) (principal : AuthenticatedPrincipal) : Prop :=
  ∃ meaningfulActivity context,
    ((authenticate env token meaningfulActivity now).run AuthStore.execute
      store).1 = .ok context ∧ context.principal = some principal

/-! ## Where a session comes from -/

/-- Serving the request adds the session row. -/
def Creates (store : AuthStore) (request : AuthRequest)
    (session : BrowserSessionRecord) : Prop :=
  store.storedSession session.sessionIdHash = none ∧
    (AuthEvent.apply env store (.request request)).storedSession
      session.sessionIdHash = some session

/-- The pending session was created by `password_login`, for the account with
the name and the password that were given. -/
inductive PasswordStage (start : AuthStore) (events : List AuthEvent)
    (pending : BrowserSessionRecord) : Prop where
  | intro (earlier later : List AuthEvent) (preAuthToken : Option String)
      (username password : String) (now : DateTime)
      (account : UserAccountRecord) (created : BrowserSessionRecord)
      (order : events = earlier ++
        .request (.passwordLogin preAuthToken username password now) :: later)
      (named : Table.lookup UserAccountRecord.usernameCanonical
        (canonicalUsername env username)
        (replay env start earlier).accounts = some account)
      (verified : env.verifyPassword account.passwordHash password = true)
      (creates : Creates env (replay env start earlier)
        (.passwordLogin preAuthToken username password now) created)
      (opened : OpenedFor .mfaPending (some account.snapshot) created)
      (aged : Aged created pending)

/-- The session was created by `complete_dev_mfa` from a pending session that
was valid at that moment and came from the password stage of the same account,
and the code was the account's current factor. -/
inductive FactorStage (start : AuthStore) (events : List AuthEvent)
    (session : BrowserSessionRecord) : Prop where
  | intro (earlier later : List AuthEvent) (pendingToken code : String)
      (now : DateTime) (pending : BrowserSessionRecord)
      (account : UserAccountRecord) (suppliedHash : String)
      (created : BrowserSessionRecord)
      (order : events = earlier ++
        .request (.completeDevMfa (some pendingToken) code now) :: later)
      (loaded : (replay env start earlier).storedSession
        (env.sessionHash pendingToken) = some pending)
      (valid : pending.ValidAt now)
      (passwordStage : PasswordStage env start earlier pending)
      (owner : pending.userId = some account.id)
      (found : (replay env start earlier).account account.id = some account)
      (digest : mfaCodeDigest env account.id code = .ok suppliedHash)
      (factor : account.snapshot.validFactor suppliedHash now = true)
      (creates : Creates env (replay env start earlier)
        (.completeDevMfa (some pendingToken) code now) created)
      (opened : OpenedFor .authenticated (some account.snapshot) created)
      (aged : Aged created session)

/-- What `authenticate` has checked of the tables where it returns. -/
structure Accepted (store : AuthStore) (token : String) (now : DateTime)
    (principal : AuthenticatedPrincipal) (session : BrowserSessionRecord)
    (account : UserAccountRecord) : Prop where
  stored : store.storedSession (env.sessionHash token) = some session
  phase : session.phase = .authenticated
  valid : session.ValidAt now
  owner : session.userId = some account.id
  organization : session.activeOrganizationId = some account.organizationId
  found : store.account account.id = some account
  active : account.status = .active
  credentialVersion : account.credentialVersion = session.credentialVersion
  roleVersion :
    account.roleAssignmentVersion = session.roleAssignmentVersion
  identity : principal.userId = account.id
  roles : principal.roles = (store.execute
    (.roles account.id account.organizationId)).1
  activeRole : principal.roles ≠ []

/-- What a token that authenticates has behind it. -/
structure SoundSession (start : AuthStore) (events : List AuthEvent)
    (token : String) (now : DateTime) (principal : AuthenticatedPrincipal)
    (session : BrowserSessionRecord) (account : UserAccountRecord) : Prop
    extends Accepted env (replay env start events) token now principal
      session account where
  origin : FactorStage env start events session

variable {env}

/-! ## What each request opens -/

/-- Why a request has opened a session. -/
inductive Opening (env : AuthEnvironment) (store : AuthStore) :
    AuthRequest → BrowserSessionRecord → Prop where
  | page (now : DateTime) {session : BrowserSessionRecord}
      (opened : OpenedFor .preAuth none session) :
      Opening env store (.newPreAuth now) session
  | password (preAuthToken : Option String) (username password : String)
      (now : DateTime) (account : UserAccountRecord)
      {session : BrowserSessionRecord}
      (named : Table.lookup UserAccountRecord.usernameCanonical
        (canonicalUsername env username) store.accounts = some account)
      (verified : env.verifyPassword account.passwordHash password = true)
      (opened : OpenedFor .mfaPending (some account.snapshot) session) :
      Opening env store (.passwordLogin preAuthToken username password now)
        session
  | factor (pendingToken code : String) (now : DateTime)
      (pending : BrowserSessionRecord) (account : UserAccountRecord)
      (suppliedHash : String) {session : BrowserSessionRecord}
      (loaded : store.storedSession (env.sessionHash pendingToken) =
        some pending)
      (phase : pending.phase = .mfaPending) (valid : pending.ValidAt now)
      (owner : pending.userId = some account.id)
      (found : store.account account.id = some account)
      (digest : mfaCodeDigest env account.id code = .ok suppliedHash)
      (factor : account.snapshot.validFactor suppliedHash now = true)
      (opened : OpenedFor .authenticated (some account.snapshot) session) :
      Opening env store (.completeDevMfa (some pendingToken) code now) session

theorem KeepsSessions.opens_nothing (op : AuthOp)
    (keeps : KeepsSessions op) : Opens (fun _ => False) op := by
  cases op with
  | createSession => exact keeps.elim
  | _ => trivial

theorem QuietOp.opens_nothing (op : AuthOp) (quiet : QuietOp op) :
    Opens (fun _ => False) op :=
  (quiet.keepsSessions op).opens_nothing op

theorem VisitOp.opens_nothing {visited : String} (op : AuthOp)
    (visit : VisitOp visited op) : Opens (fun _ => False) op := by
  cases op with
  | createSession => exact visit.elim
  | _ => trivial

section Opened

variable {α : Type} {store : AuthStore} {sessionIdHash : String}
  {row : BrowserSessionRecord}

theorem quiet_creates_nothing {program : AuthProgram α}
    (quiet : program.Issues QuietOp)
    (missing : store.storedSession sessionIdHash = none) :
    (program.run AuthStore.execute store).2.storedSession sessionIdHash =
      none := by
  rw [Option.eq_none_iff_forall_ne_some]
  intro row found
  obtain ⟨_, nothing, _⟩ :=
    run_session_created (quiet.mono QuietOp.opens_nothing) missing found
  exact nothing

theorem run_opened (fact : Prop) {program : AuthProgram α}
    {phase : SessionPhase} {user : Option AccountSnapshot}
    (opens : program.Issues (Opens fun session =>
      fact ∧ OpenedFor phase user session))
    (missing : store.storedSession sessionIdHash = none)
    (found : (program.run AuthStore.execute store).2.storedSession
      sessionIdHash = some row) :
    fact ∧ OpenedFor phase user row := by
  obtain ⟨created, ⟨holds, opened⟩, _, aged⟩ :=
    run_session_created opens missing found
  exact ⟨holds, opened.aged aged⟩

/-- `password_login` opens a pending session, for the account whose password
it has verified. -/
theorem passwordLogin_opened {preAuthToken : Option String}
    {username password : String} {now : DateTime}
    (missing : store.storedSession sessionIdHash = none)
    (found : ((passwordLogin env preAuthToken username password now).run
      AuthStore.execute store).2.storedSession sessionIdHash = some row) :
    ∃ account, Table.lookup UserAccountRecord.usernameCanonical
        (canonicalUsername env username) store.accounts = some account ∧
      env.verifyPassword account.passwordHash password = true ∧
      OpenedFor .mfaPending (some account.snapshot) row := by
  have loading := quiet_creates_nothing
    (loadSession_quiet env preAuthToken .preAuth now) missing
  rw [passwordLogin, Program.run_bind] at found
  rcases loadSession_run env preAuthToken .preAuth now store with
    ⟨error, after, failed, _⟩ | ⟨text, stored, _, _, _, _, loaded⟩
  · rw [failed] at found loading
    rw [loading] at found
    cases found
  · rw [loaded] at found
    simp only [call, Program.perform_bind, Program.run_call,
      AuthStore.execute] at found
    generalize named : Table.lookup UserAccountRecord.usernameCanonical
      (canonicalUsername env username) store.accounts = looked at found
    cases looked with
    | none =>
        rw [Option.map_none, quiet_creates_nothing ?_ missing] at found
        · cases found
        · exact .perform trivial fun _ => trivial
    | some account =>
        have opens : (decideLogin env (env.sessionHash text) password now
            (some account.snapshot)).Issues (Opens fun session =>
              env.verifyPassword account.passwordHash password = true ∧
              OpenedFor .mfaPending (some account.snapshot) session) := by
          unfold decideLogin
          dsimp only
          split
          · exact .perform trivial fun _ => trivial
          split
          · exact .perform trivial fun _ => .perform trivial fun _ =>
              trivial
          rename_i verified
          split
          · exact .perform trivial fun _ => trivial
          refine .perform trivial fun _ => .bind
            ((createSession_opens env ..).mono ?_) fun _ =>
              .perform trivial fun _ => trivial
          intro op opened
          cases op with
          | createSession =>
              exact ⟨Bool.not_eq_false _ ▸ verified, opened⟩
          | _ => trivial
        obtain ⟨verified, opened⟩ := run_opened _ opens missing found
        exact ⟨account, rfl, verified, opened⟩

/-- `complete_dev_mfa` opens a session, from a valid pending session and with
the current factor of its account. -/
theorem completeDevMfa_opened {pendingToken : Option String} {code : String}
    {now : DateTime}
    (missing : store.storedSession sessionIdHash = none)
    (found : ((completeDevMfa env pendingToken code now).run
      AuthStore.execute store).2.storedSession sessionIdHash = some row) :
    ∃ text, pendingToken = some text ∧
      Opening env store (.completeDevMfa (some text) code now) row := by
  have loading := quiet_creates_nothing
    (loadSession_quiet env pendingToken .mfaPending now) missing
  have quietly {program : AuthProgram SessionContext}
      (ran : (program.run AuthStore.execute store).2.storedSession
        sessionIdHash = some row) (quiet : program.Issues QuietOp) :
      False := by
    rw [quiet_creates_nothing quiet missing] at ran
    cases ran
  rw [completeDevMfa, Program.run_bind] at found
  rcases loadSession_run env pendingToken .mfaPending now store with
    ⟨error, after, failed, _⟩ | ⟨text, pending, named, looked, phase, valid,
      loaded⟩
  · rw [failed] at found loading
    rw [loading] at found
    cases found
  · rw [loaded] at found
    refine ⟨text, named, ?_⟩
    dsimp only at found
    generalize owner : pending.userId = user at found
    cases user with
    | none => exact (quietly found trivial).elim
    | some userId =>
        simp only [call, Program.perform_bind, Program.run_call,
          AuthStore.execute] at found
        generalize held : store.account userId = record at found
        cases record with
        | none => exact (quietly found trivial).elim
        | some account =>
            have accountId : account.id = userId := Table.lookup_key held
            simp only [Option.map_some] at found
            generalize digest : mfaCodeDigest env account.snapshot.id code =
              supplied at found
            cases supplied with
            | error error => exact (quietly found trivial).elim
            | ok suppliedHash =>
                rw [Program.lift_ok, Program.done_bind] at found
                split at found
                · refine (quietly found ⟨trivial, fun _ => ?_⟩).elim
                  split
                  · exact ⟨trivial, fun _ => ⟨trivial, fun _ => trivial⟩⟩
                  · exact ⟨trivial, fun _ => trivial⟩
                · next admitted =>
                    rw [not_or, Bool.not_eq_false] at admitted
                    have opened : OpenedFor .authenticated
                        (some account.snapshot) row := by
                      refine (run_opened True ?_ missing found).2
                      refine ⟨trivial, fun roles => ?_⟩
                      dsimp only
                      split
                      · exact ⟨trivial, fun _ => trivial⟩
                      refine ⟨trivial, fun _ => .bind
                        ((createSession_opens env ..).mono ?_) fun _ =>
                          ⟨trivial, fun _ => ⟨trivial, fun _ => trivial⟩⟩⟩
                      intro op opened
                      cases op with
                      | createSession => exact ⟨trivial, opened⟩
                      | _ => trivial
                    subst accountId
                    exact .factor text code now pending account suppliedHash
                      looked phase valid owner held digest admitted.2 opened

end Opened

/-- A session that appears while a request is served was opened by it. -/
theorem served_opening {store : AuthStore} {request : AuthRequest}
    {sessionIdHash : String} {row : BrowserSessionRecord}
    (missing : store.storedSession sessionIdHash = none)
    (found : (AuthEvent.apply env store (.request request)).storedSession
      sessionIdHash = some row) : Opening env store request row := by
  have nothing {program : AuthProgram AuthReply}
      (opens : program.Issues (Opens fun _ => False))
      (ran : (program.run AuthStore.execute store).2.storedSession
        sessionIdHash = some row) : False := by
    obtain ⟨_, impossible, _⟩ := run_session_created opens missing ran
    exact impossible
  have wrapped {α : Type} {program : AuthProgram α} {wrap : α → AuthReply}
      (opens : program.Issues (Opens fun _ => False)) :
      (program >>= fun value => pure (wrap value)).Issues
        (Opens fun _ => False) := .bind opens fun _ => trivial
  have quietly {α : Type} {program : AuthProgram α} {wrap : α → AuthReply}
      (quiet : program.Issues QuietOp) :
      (program >>= fun value => pure (wrap value)).Issues
        (Opens fun _ => False) := wrapped (quiet.mono QuietOp.opens_nothing)
  cases request with
  | newPreAuth now =>
      have created : ((newPreAuth env now).run AuthStore.execute
          store).2.storedSession sessionIdHash = some row :=
        (congrArg (AuthStore.storedSession · sessionIdHash)
          (run_wrapped _ AuthReply.session store)).symm.trans found
      obtain ⟨_, opened, _, aged⟩ :=
        run_session_created (createSession_opens env ..) missing created
      exact .page now (opened.aged aged)
  | passwordLogin preAuthToken username password now =>
      have created : ((passwordLogin env preAuthToken username password
          now).run AuthStore.execute store).2.storedSession sessionIdHash =
            some row :=
        (congrArg (AuthStore.storedSession · sessionIdHash)
          (run_wrapped _ AuthReply.session store)).symm.trans found
      obtain ⟨account, named, verified, opened⟩ :=
        passwordLogin_opened missing created
      exact .password preAuthToken username password now account named
        verified opened
  | completeDevMfa pendingToken code now =>
      have created : ((completeDevMfa env pendingToken code now).run
          AuthStore.execute store).2.storedSession sessionIdHash =
            some row :=
        (congrArg (AuthStore.storedSession · sessionIdHash)
          (run_wrapped _ AuthReply.session store)).symm.trans found
      obtain ⟨text, rfl, opening⟩ := completeDevMfa_opened missing created
      exact opening
  | authenticate token meaningfulActivity now =>
      exact (nothing (wrapped (authenticate_issues env
        (fun _ => VisitOp.opens_nothing) ..)) found).elim
  | changeStatus principal userId action now =>
      exact (nothing (wrapped ((changeStatus_issues ..).mono fun op issued =>
        issued.2.opens_nothing op)) found).elim
  | pendingContext =>
      exact (nothing (quietly (pendingContext_quiet env ..)) found).elim
  | revokeCurrent =>
      exact (nothing (quietly (revokeCurrent_quiet env ..)) found).elim
  | revokeAll =>
      exact (nothing (quietly (revokeAll_quiet env ..)) found).elim
  | requestRegistration =>
      exact (nothing (quietly (requestRegistration_quiet env ..)) found).elim
  | updateDisplayName =>
      exact (nothing (quietly (updateDisplayName_quiet env ..)) found).elim
  | changePassword =>
      exact (nothing (quietly (changePassword_quiet env ..)) found).elim
  | renewMfaCode =>
      exact (nothing (quietly (renewMfaCode_quiet env ..)) found).elim

/-! ## Every session has a history -/

theorem replay_snoc (start : AuthStore) (events : List AuthEvent)
    (event : AuthEvent) :
    replay env start (events ++ [event]) =
      AuthEvent.apply env (replay env start events) event := by
  rw [replay, List.foldl_append]
  rfl

theorem replay_append (start : AuthStore) (first second : List AuthEvent) :
    replay env start (first ++ second) =
      replay env (replay env start first) second := by
  rw [replay, List.foldl_append]
  rfl

theorem apply_session_kept {store : AuthStore} {sessionIdHash : String}
    {row : BrowserSessionRecord} (event : AuthEvent)
    (found : store.storedSession sessionIdHash = some row) :
    ∃ after, (AuthEvent.apply env store event).storedSession sessionIdHash =
      some after ∧ Aged row after := by
  cases event with
  | request request => exact run_session_kept (request.body env) found
  | assignment => exact ⟨row, found, .refl row⟩

variable {start : AuthStore}

/-- Where there were no sessions at the start, each has been opened by a
request of the history, and has only aged since. -/
theorem session_opened (empty : start.sessions = []) (events : List AuthEvent)
    {sessionIdHash : String} {row : BrowserSessionRecord}
    (found : (replay env start events).storedSession sessionIdHash =
      some row) :
    ∃ earlier request later created,
      events = earlier ++ .request request :: later ∧
      Opening env (replay env start earlier) request created ∧
      Creates env (replay env start earlier) request created ∧
      Aged created row := by
  induction events using List.reverseRecOn generalizing row with
  | nil =>
      have none_ : start.storedSession sessionIdHash = none := by
        rw [AuthStore.storedSession, empty]
        rfl
      cases none_.symm.trans found
  | append_singleton events event ih =>
      rw [replay_snoc] at found
      cases before : (replay env start events).storedSession
          sessionIdHash with
      | some old =>
          obtain ⟨earlier, request, later, created, order, opening, creates,
            aged⟩ := ih before
          obtain ⟨after, foundAfter, step⟩ := apply_session_kept event before
          rw [foundAfter] at found
          cases found
          refine ⟨earlier, request, later ++ [event], created, ?_, opening,
            creates, aged.trans step⟩
          rw [order, List.append_assoc, List.cons_append]
      | none =>
          cases event with
          | assignment => cases before.symm.trans found
          | request request =>
              have rowHash : row.sessionIdHash = sessionIdHash :=
                Table.lookup_key found
              subst rowHash
              exact ⟨events, request, [], row, rfl,
                served_opening before found, ⟨before, found⟩, .refl row⟩

variable {events : List AuthEvent}

theorem passwordStage_of_pending (empty : start.sessions = [])
    {sessionIdHash : String} {pending : BrowserSessionRecord}
    (found : (replay env start events).storedSession sessionIdHash =
      some pending) (phase : pending.phase = .mfaPending) :
    PasswordStage env start events pending := by
  obtain ⟨earlier, request, later, created, order, opening, creates, aged⟩ :=
    session_opened empty events found
  have createdPhase := aged.samePhase.symm.trans phase
  cases opening with
  | page now opened =>
      exact nomatch opened.samePhase.symm.trans createdPhase
  | password preAuthToken username password now account named verified
      opened =>
      exact .intro earlier later preAuthToken username password now account
        created order named verified creates opened aged
  | factor _ _ _ _ _ _ _ _ _ _ _ _ _ opened =>
      exact nomatch opened.samePhase.symm.trans createdPhase

theorem factorStage_of_authenticated (empty : start.sessions = [])
    {sessionIdHash : String} {session : BrowserSessionRecord}
    (found : (replay env start events).storedSession sessionIdHash =
      some session) (phase : session.phase = .authenticated) :
    FactorStage env start events session := by
  obtain ⟨earlier, request, later, created, order, opening, creates, aged⟩ :=
    session_opened empty events found
  have createdPhase := aged.samePhase.symm.trans phase
  cases opening with
  | page now opened =>
      exact nomatch opened.samePhase.symm.trans createdPhase
  | password _ _ _ _ _ _ _ opened =>
      exact nomatch opened.samePhase.symm.trans createdPhase
  | factor pendingToken code now pending account suppliedHash loaded
      pendingPhase valid owner held digest factor opened =>
      exact .intro earlier later pendingToken code now pending account
        suppliedHash created order loaded valid
        (passwordStage_of_pending empty loaded pendingPhase) owner held digest
        factor creates opened aged

/-! ## What authenticate has checked -/

theorem authenticate_returns {store : AuthStore} {token : Option String}
    {meaningfulActivity : Bool} {now : DateTime} {context : SessionContext}
    (returned : ((authenticate env token meaningfulActivity now).run
      AuthStore.execute store).1 = .ok context) :
    ∃ text session account principal, token = some text ∧
      context.principal = some principal ∧
      Accepted env store text now principal session account := by
  rw [authenticate, Program.run_bind] at returned
  rcases loadSession_run env token .authenticated now store with
    ⟨error, after, failed, _⟩ | ⟨text, session, named, looked, phase, valid,
      loaded⟩
  · rw [failed] at returned
    cases returned
  · rw [loaded] at returned
    dsimp only at returned
    split at returned
    · next userId organizationId owner organization =>
        simp only [call, Program.perform_bind, Program.run_call,
          AuthStore.execute] at returned
        generalize held : store.account userId = record at returned
        cases record with
        | none => cases returned
        | some account =>
            have accountId : account.id = userId := Table.lookup_key held
            subst accountId
            simp only [Option.map_some] at returned
            generalize changed : identityChanged session organizationId
              (some account.snapshot) = outdated at returned
            cases outdated with
            | true => cases returned
            | false =>
                obtain ⟨active, credentialVersion, roleVersion,
                  sameOrganization⟩ := identityChanged_eq_false changed
                simp only [Program.run_call] at returned
                split at returned
                · cases returned
                rename_i someRole
                have checked (principal : AuthenticatedPrincipal)
                    (identity : principal.userId = account.id)
                    (roles : principal.roles = (store.execute
                      (.roles account.id account.organizationId)).1) :
                    Accepted env store text now principal
                      session account := by
                  constructor
                  case stored => exact looked
                  case phase => exact phase
                  case valid => exact valid
                  case owner => exact owner
                  case organization =>
                    rw [organization, ← sameOrganization]
                    rfl
                  case found => exact held
                  case active => exact active
                  case credentialVersion => exact credentialVersion
                  case roleVersion => exact roleVersion
                  case identity => exact identity
                  case roles => exact roles
                  case activeRole =>
                    rw [roles]
                    intro none_
                    exact someRole (List.isEmpty_iff.mpr none_)
                simp only [Program.run_call] at returned
                split at returned
                · cases returned
                  exact ⟨text, session, account, _, named, rfl,
                    checked _ rfl rfl⟩
                · cases returned
                  exact ⟨text, session, account, _, named, rfl,
                    checked _ rfl rfl⟩
    · cases returned

/-! ## A session that is over stays over -/

theorem StageOp.untouched {sessionIdHash : String} (op : AuthOp)
    (stage : StageOp op) : ¬Touches sessionIdHash op := by
  cases op with
  | touchSession => exact stage.elim
  | _ => exact not_false

theorem KeepsSessions.untouched {sessionIdHash : String} (op : AuthOp)
    (keeps : KeepsSessions op) : ¬Touches sessionIdHash op := by
  cases op with
  | touchSession => exact keeps.elim
  | _ => exact not_false

theorem QuietOp.untouched {sessionIdHash : String} (op : AuthOp)
    (quiet : QuietOp op) : ¬Touches sessionIdHash op :=
  (quiet.stage op).untouched op

theorem VisitOp.untouched {visited sessionIdHash : String}
    (other : visited ≠ sessionIdHash) (op : AuthOp)
    (visit : VisitOp visited op) : ¬Touches sessionIdHash op := by
  cases op with
  | touchSession touched => exact fun same => other (visit.symm.trans same)
  | _ => exact not_false

variable {instant : DateTime}

theorem BrowserSessionRecord.ValidAt.earlier {session : BrowserSessionRecord}
    {now : DateTime} (valid : session.ValidAt now) (before : instant ≤ now) :
    session.ValidAt instant where
  unrevoked := valid.unrevoked
  withinAbsolute := Int.lt_of_le_of_lt before valid.withinAbsolute
  withinIdle := Int.lt_of_le_of_lt before valid.withinIdle

theorem Aged.over {old new : BrowserSessionRecord} (aged : Aged old new)
    (idle : new.idleExpiresAt = old.idleExpiresAt)
    (ended : ¬old.ValidAt instant) : ¬new.ValidAt instant := by
  intro valid
  apply ended
  constructor
  case unrevoked =>
    by_contra revoked
    have kept := aged.staysRevoked (Option.isSome_iff_ne_none.mpr revoked)
    exact revoked (kept.symm.trans valid.unrevoked)
  case withinAbsolute => exact aged.sameExpiry ▸ valid.withinAbsolute
  case withinIdle => exact idle ▸ valid.withinIdle

/-- `authenticate` does not revive a session that is over. -/
theorem authenticate_keeps_over (env : AuthEnvironment)
    (token : Option String) (meaningfulActivity : Bool) {store : AuthStore}
    {sessionIdHash : String} {row : BrowserSessionRecord} {now : DateTime}
    (found : store.storedSession sessionIdHash = some row)
    (ended : ¬row.ValidAt instant) (before : instant ≤ now) :
    ∃ after, ((authenticate env token meaningfulActivity now).run
        AuthStore.execute store).2.storedSession sessionIdHash = some after ∧
      Aged row after ∧ after.idleExpiresAt = row.idleExpiresAt := by
  have loading := run_session_untouched
    ((loadSession_quiet env token .authenticated now).mono QuietOp.untouched)
    found
  obtain ⟨next, split, visits⟩ :=
    authenticate_visits env token meaningfulActivity now
  rw [split, Program.run_bind]
  rcases loadSession_run env token .authenticated now store with
    ⟨error, after, failed, _⟩ | ⟨text, session, _, looked, _, valid, loaded⟩
  · rw [failed] at loading ⊢
    exact loading
  · rw [loaded]
    refine run_session_untouched ((visits _ _).mono (VisitOp.untouched ?_))
      found
    -- The loaded session is valid, so it is not the one that is over.
    intro same
    rw [same, found] at looked
    cases looked
    exact ended (valid.earlier before)

/-- No event revives a session that is over. -/
theorem apply_over_kept {store : AuthStore} {sessionIdHash : String}
    {row : BrowserSessionRecord} {event : AuthEvent}
    (found : store.storedSession sessionIdHash = some row)
    (ended : ¬row.ValidAt instant) (notBefore : event.NotBefore instant) :
    ∃ after, (AuthEvent.apply env store event).storedSession sessionIdHash =
      some after ∧ ¬after.ValidAt instant := by
  cases event with
  | assignment => exact ⟨row, found, ended⟩
  | request request =>
      have untouched {program : AuthProgram AuthReply}
          (issues : program.Issues fun op => ¬Touches sessionIdHash op) :
          ∃ after, (program.run AuthStore.execute store).2.storedSession
            sessionIdHash = some after ∧ ¬after.ValidAt instant := by
        obtain ⟨after, kept, aged, idle⟩ := run_session_untouched issues found
        exact ⟨after, kept, aged.over idle ended⟩
      have staged {α : Type} {program : AuthProgram α} {wrap : α → AuthReply}
          (issues : program.Issues StageOp) :
          (program >>= fun value => pure (wrap value)).Issues fun op =>
            ¬Touches sessionIdHash op :=
        .bind (issues.mono StageOp.untouched) fun _ => trivial
      have quietly {α : Type} {program : AuthProgram α}
          {wrap : α → AuthReply} (issues : program.Issues QuietOp) :
          (program >>= fun value => pure (wrap value)).Issues fun op =>
            ¬Touches sessionIdHash op := staged (issues.mono QuietOp.stage)
      cases request with
      | authenticate token meaningfulActivity now =>
          obtain ⟨after, kept, aged, idle⟩ := authenticate_keeps_over env
            token meaningfulActivity found ended notBefore
          refine ⟨after, ?_, aged.over idle ended⟩
          exact (congrArg (AuthStore.storedSession · sessionIdHash)
            (run_wrapped _ AuthReply.session store)).trans kept
      | newPreAuth => exact untouched (staged (createSession_stage env ..))
      | passwordLogin =>
          exact untouched (staged
            ((passwordLogin_loginOp env ..).mono LoginOp.stage))
      | completeDevMfa =>
          exact untouched (staged (completeDevMfa_stage env ..))
      | changeStatus =>
          exact untouched (.bind ((changeStatus_issues ..).mono
            fun op issued => issued.2.untouched op) fun _ => trivial)
      | pendingContext =>
          exact untouched (quietly (pendingContext_quiet env ..))
      | revokeCurrent =>
          exact untouched (quietly (revokeCurrent_quiet env ..))
      | revokeAll => exact untouched (quietly (revokeAll_quiet env ..))
      | requestRegistration =>
          exact untouched (quietly (requestRegistration_quiet env ..))
      | updateDisplayName =>
          exact untouched (quietly (updateDisplayName_quiet env ..))
      | changePassword =>
          exact untouched (quietly (changePassword_quiet env ..))
      | renewMfaCode => exact untouched (quietly (renewMfaCode_quiet env ..))

theorem replay_over_kept {store : AuthStore} {sessionIdHash : String}
    {row : BrowserSessionRecord}
    (found : store.storedSession sessionIdHash = some row)
    (ended : ¬row.ValidAt instant)
    (notBefore : ∀ event ∈ events, event.NotBefore instant) :
    ∃ after, (replay env store events).storedSession sessionIdHash =
      some after ∧ ¬after.ValidAt instant := by
  induction events generalizing store row with
  | nil => exact ⟨row, found, ended⟩
  | cons event events ih =>
      obtain ⟨after, foundAfter, still⟩ :=
        apply_over_kept found ended (notBefore event List.mem_cons_self)
      exact ih foundAfter still fun later member =>
        notBefore later (List.mem_cons_of_mem _ member)

theorem replay_revoked_kept {store : AuthStore} {sessionIdHash : String}
    {row : BrowserSessionRecord} (events : List AuthEvent)
    (found : store.storedSession sessionIdHash = some row)
    (revoked : row.revokedAt.isSome) :
    ∃ after, (replay env store events).storedSession sessionIdHash =
      some after ∧ after.revokedAt.isSome := by
  induction events generalizing store row with
  | nil => exact ⟨row, found, revoked⟩
  | cons event events ih =>
      obtain ⟨after, foundAfter, aged⟩ := apply_session_kept event found
      have still : after.revokedAt.isSome := by
        rw [aged.staysRevoked revoked]
        exact revoked
      exact ih foundAfter still

theorem Authenticates.valid {store : AuthStore} {token : String}
    {now : DateTime} {principal : AuthenticatedPrincipal}
    {row : BrowserSessionRecord}
    (found : store.storedSession (env.sessionHash token) = some row)
    (authenticated : Authenticates env store (some token) now principal) :
    row.ValidAt now := by
  obtain ⟨meaningfulActivity, context, returned, _⟩ := authenticated
  obtain ⟨text, session, account, _, same, _, accepted⟩ :=
    authenticate_returns returned
  cases same
  cases found.symm.trans accepted.stored
  exact accepted.valid

/-- After any sequence of events, a token authenticates only with a sound
session; and a session that was once revoked, or once expired, never
authenticates again. -/
theorem authenticated_sessions_are_sound {start : AuthStore}
    (empty : start.sessions = []) (events : List AuthEvent) :
    (∀ token now principal,
      Authenticates env (replay env start events) token now principal →
      ∃ text session account, token = some text ∧
        SoundSession env start events text now principal session account) ∧
    ∀ token session,
      (replay env start events).storedSession (env.sessionHash token) =
        some session →
      (session.revokedAt.isSome → ∀ later now principal,
        ¬Authenticates env (replay env start (events ++ later)) (some token)
          now principal) ∧
      ∀ instant,
        session.expiresAt ≤ instant ∨ session.idleExpiresAt ≤ instant →
        ∀ later, (∀ event ∈ later, AuthEvent.NotBefore instant event) →
        ∀ now principal, instant ≤ now →
          ¬Authenticates env (replay env start (events ++ later)) (some token)
            now principal := by
  refine ⟨?_, fun token session found => ⟨?_, ?_⟩⟩
  · rintro token now principal ⟨meaningfulActivity, context, returned, named⟩
    obtain ⟨text, session, account, other, same, returns, accepted⟩ :=
      authenticate_returns returned
    cases named.symm.trans returns
    exact ⟨text, session, account, same, accepted,
      factorStage_of_authenticated empty accepted.stored accepted.phase⟩
  · intro revoked later now principal authenticated
    obtain ⟨row, foundLater, still⟩ := replay_revoked_kept later found revoked
    rw [replay_append] at authenticated
    have valid := authenticated.valid foundLater
    rw [valid.unrevoked] at still
    cases still
  · intro instant expired later notBefore now principal before authenticated
    have ended : ¬session.ValidAt instant := by
      intro valid
      rcases expired with absolute | idle
      · exact absurd valid.withinAbsolute (Int.not_lt.mpr absolute)
      · exact absurd valid.withinIdle (Int.not_lt.mpr idle)
    obtain ⟨row, foundLater, still⟩ := replay_over_kept found ended notBefore
    rw [replay_append] at authenticated
    exact still ((authenticated.valid foundLater).earlier before)

def aliceLogin : List AuthEvent :=
  [.request (.newPreAuth 0),
   .request (.passwordLogin (some "token-0") "alice" "Sunny-day9" 1),
   .request (.completeDevMfa (some "token-1") "123456" 2)]

def aliceSession (events : List AuthEvent) : BrowserSessionRecord :=
  ((replay sampleEnvironment sampleStore events).storedSession
    (sampleEnvironment.sessionHash "token-2")).getD default

/-- The session of the login is sound, and after a logout it is never accepted
again. -/
theorem aliceSession_is_sound :
    (∃ principal session account, SoundSession sampleEnvironment sampleStore
      aliceLogin "token-2" 3 principal session account) ∧
    ∀ later now principal, ¬Authenticates sampleEnvironment
      (replay sampleEnvironment sampleStore (aliceLogin ++
        [.request (.revokeCurrent "token-2" "LOGOUT" 4)] ++ later))
      (some "token-2") now principal := by
  constructor
  · let outcome := ((authenticate sampleEnvironment (some "token-2") true
      3).run AuthStore.execute
        (replay sampleEnvironment sampleStore aliceLogin)).1
    have accepted :
        (outcome.toOption.bind SessionContext.principal).isSome := by
      decide
    obtain ⟨principal, returned⟩ := Option.isSome_iff_exists.mp accepted
    obtain ⟨context, finished, named⟩ := Option.bind_eq_some_iff.mp returned
    have returns : outcome = .ok context := by
      revert finished
      cases outcome with
      | error error => exact nofun
      | ok value => exact congrArg Except.ok ∘ Option.some.inj
    have authenticated : Authenticates sampleEnvironment
        (replay sampleEnvironment sampleStore aliceLogin) (some "token-2") 3
        principal := ⟨true, context, returns, named⟩
    obtain ⟨text, session, account, same, sound⟩ :=
      (authenticated_sessions_are_sound rfl aliceLogin).1 _ _ _ authenticated
    cases same
    exact ⟨principal, session, account, sound⟩
  · have found : (replay sampleEnvironment sampleStore (aliceLogin ++
        [.request (.revokeCurrent "token-2" "LOGOUT" 4)])).storedSession
          (sampleEnvironment.sessionHash "token-2") = some (aliceSession
            (aliceLogin ++
              [.request (.revokeCurrent "token-2" "LOGOUT" 4)])) := by
      decide
    exact ((authenticated_sessions_are_sound rfl _).2 "token-2" _ found).1
      (by decide)

end SecAI.Auth
