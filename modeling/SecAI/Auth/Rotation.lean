/-
Module: SecAI.Auth.Rotation
Purpose: When replacing a password or an MFA code, or disabling an account,
  invalidates the logins that are under way, over every interleaving of their
  repository calls.
Trusted boundary: none
Main exports:
  readsOutdated, keepsRotation, OutlivesRotation, rotation_invalidates_logins
-/
import SecAI.Auth.Lockout
import SecAI.Auth.SessionSteps

namespace SecAI.Auth

open Interleaving

/-! ## What a request has done so far -/

/-- The calls a request has made, with their answers. -/
abbrev AuthHistory := List (Event AuthOp AuthOp.Resp)

/-- The account that `password_login` has looked up. -/
def namedAccount (history : AuthHistory) : Option AccountSnapshot :=
  history.findSome? fun
    | ⟨.accountByUsername _, answer⟩ => answer
    | _ => none

/-- The account that the MFA stage, or `authenticate`, has read, with the
identifier it was asked for. -/
def readAccount (history : AuthHistory) : Option (Uuid × AccountSnapshot) :=
  history.findSome? fun
    | ⟨.accountById userId, answer⟩ =>
        answer.map fun account => (userId, account)
    | _ => none

/-- The session that has been loaded, under the hash it was asked for. -/
def loadedSession (history : AuthHistory) :
    Option (String × BrowserSessionRecord) :=
  history.findSome? fun
    | ⟨.session sessionIdHash, answer⟩ =>
        answer.map fun stored => (sessionIdHash, stored)
    | _ => none

def openedSession (history : AuthHistory) : Option BrowserSessionRecord :=
  history.findSome? fun
    | ⟨.createSession values, answer⟩ =>
        if answer = true then some values else none
    | _ => none

/-- The call has given the account a new password or a new MFA code. -/
def replacesCredential (userId : Uuid) : Event AuthOp AuthOp.Resp → Bool
  | ⟨.changePassword target _ _ _, answer⟩ =>
      decide (target = userId) && answer
  | ⟨.updateMfaCode target _ _ _ _, answer⟩ =>
      decide (target = userId) && answer
  | _ => false

def disablesAccount (userId : Uuid) : Event AuthOp AuthOp.Resp → Bool
  | ⟨.transitionAccount target _ _ toStatus _ _, answer⟩ =>
      decide (target = userId) && decide (toStatus = .disabled) &&
        Option.isSome answer
  | _ => false

def returned (thread : AuthThread) : Bool :=
  match thread.rest with
  | .done _ => true
  | _ => false

def AuthRequest.rotates (userId : Uuid) : AuthRequest → Bool
  | .changePassword principal _ _ _ _ => decide (principal.userId = userId)
  | .renewMfaCode _ target _ => decide (target = userId)
  | .changeStatus _ target name _ =>
      decide (target = userId) &&
        decide (StatusAction.ofName name = some .disable)
  | _ => false

def AuthRequest.disables : AuthRequest → Bool
  | .changeStatus .. => true
  | _ => false

/-- The call is the one with which the rotating operation takes effect. -/
def takesEffect (userId : Uuid) (rotation : AuthRequest)
    (event : Event AuthOp AuthOp.Resp) : Bool :=
  if rotation.disables then disablesAccount userId event
  else replacesCredential userId event

variable (env : AuthEnvironment)

def factorPasses (account : AccountSnapshot) (code : String)
    (now : DateTime) : Bool :=
  match mfaCodeDigest env account.id code with
  | .ok suppliedHash => account.validFactor suppliedHash now
  | .error _ => false

/-! ## The login that goes wrong -/

/-- `complete_dev_mfa` reads an account whose credentials have been replaced
since `password_login` created the pending session, and the code passes: the
stage goes on as if the password had been checked against these
credentials. -/
def readsOutdated (store : AuthStore) (thread : AuthThread) : AuthOp → Bool
  | .accountById userId =>
      match thread.request with
      | .completeDevMfa _ code now =>
          match loadedSession thread.history, store.account userId with
          | some (_, pending), some row =>
              decide (row.credentialVersion ≠ pending.credentialVersion) &&
                factorPasses env row.snapshot code now
          | _, _ => false
      | _ => false
  | _ => false

/-- No MFA stage goes on with replaced credentials; and where the rotating
operation is a disablement, no login writes the closed account and no
administrator activates it again. -/
def keepsRotation (userId : Uuid) (rotation : AuthRequest)
    (store : AuthStore) (thread : AuthThread) (op : AuthOp) : Prop :=
  readsOutdated env store thread op = false ∧
    (rotation.disables = true → leavesClosed userId store thread op)

instance (userId : Uuid) (rotation : AuthRequest) (store : AuthStore)
    (thread : AuthThread) (op : AuthOp) :
    Decidable (keepsRotation env userId rotation store thread op) :=
  inferInstanceAs (Decidable (_ ∧ (_ → _)))

/-- The requests `first` and `second` are the two stages of one login of the
user, which has created the session. -/
inductive LoginSession (config : AuthConfig) (userId : Uuid)
    (first second : Nat) (session : BrowserSessionRecord) : Prop where
  | intro (stage other : AuthThread) (preAuthToken : Option String)
      (username password pendingToken code : String) (now later : DateTime)
      (pending : BrowserSessionRecord)
      (passwordStage : config.threads[first]? = some stage)
      (asked : stage.request =
        .passwordLogin preAuthToken username password now)
      (created : openedSession stage.history = some pending)
      (factorStage : config.threads[second]? = some other)
      (presented : other.request =
        .completeDevMfa (some pendingToken) code later)
      (continued : env.sessionHash pendingToken = pending.sessionIdHash)
      (completed : openedSession other.history = some session)
      (owner : session.userId = some userId)

/-- The login has already read the account that its password, or its MFA code,
is verified against. -/
def HasRead (config : AuthConfig) (first second : Nat) : Prop :=
  (∃ stage, config.threads[first]? = some stage ∧
    (namedAccount stage.history).isSome) ∨
  ∃ stage, config.threads[second]? = some stage ∧
    (readAccount stage.history).isSome

/-- The rotating operation has not taken effect. -/
def NotYetRotated (config : AuthConfig) (userId : Uuid)
    (rotation : AuthRequest) (turn : Nat) : Prop :=
  ∀ thread, config.threads[turn]? = some thread →
    ∀ event ∈ thread.history, takesEffect userId rotation event = false

/-- The rotating operation has completed. -/
def HasRotated (config : AuthConfig) (rotation : AuthRequest)
    (turn : Nat) : Prop :=
  ∃ thread, config.threads[turn]? = some thread ∧
    thread.request = rotation ∧ returned thread = true

/-- The request is an `authenticate` that has accepted the session. -/
def HasAccepted (config : AuthConfig) (visit : Nat)
    (session : BrowserSessionRecord) : Prop :=
  ∃ thread token meaningfulActivity now,
    config.threads[visit]? = some thread ∧
    thread.request = .authenticate (some token) meaningfulActivity now ∧
    env.sessionHash token = session.sessionIdHash ∧ returned thread = true

/-- A login outlives the rotation: it had read the old credentials `before`
the rotation took effect, and the session it created is accepted by an
`authenticate` that starts after the rotating operation has completed. -/
inductive OutlivesRotation (userId : Uuid) (rotation : AuthRequest)
    (before rotated after : AuthConfig) : Prop where
  | intro (first second turn visit : Nat) (session : BrowserSessionRecord)
      (login : LoginSession env after userId first second session)
      (verified : HasRead before first second)
      (rotates : rotation.rotates userId = true)
      (unrotated : NotYetRotated before userId rotation turn)
      (completed : HasRotated rotated rotation turn)
      (fresh : rotated.threads.length ≤ visit)
      (accepted : HasAccepted env after visit session)

variable {env}

/-! ## What the requests know -/

section Recalled

variable {history earlier : AuthHistory}

variable {account : AccountSnapshot}

theorem namedAccount_grown (inside : earlier <+: history)
    (known : namedAccount earlier = some account) :
    namedAccount history = some account := by
  obtain ⟨later, rfl⟩ := inside
  rw [namedAccount, List.findSome?_append]
  rw [namedAccount] at known
  rw [known, Option.some_or]

theorem readAccount_grown {found : Uuid × AccountSnapshot}
    (inside : earlier <+: history)
    (known : readAccount earlier = some found) :
    readAccount history = some found := by
  obtain ⟨later, rfl⟩ := inside
  rw [readAccount, List.findSome?_append]
  rw [readAccount] at known
  rw [known, Option.some_or]

theorem loadedSession_grown {loaded : String × BrowserSessionRecord}
    (inside : earlier <+: history)
    (known : loadedSession earlier = some loaded) :
    loadedSession history = some loaded := by
  obtain ⟨later, rfl⟩ := inside
  rw [loadedSession, List.findSome?_append]
  rw [loadedSession] at known
  rw [known, Option.some_or]

theorem mem_of_namedAccount (known : namedAccount history = some account) :
    ∃ username, (⟨.accountByUsername username, some account⟩ :
      Event AuthOp AuthOp.Resp) ∈ history := by
  obtain ⟨⟨op, answer⟩, member, read⟩ := List.exists_of_findSome?_eq_some known
  cases op with
  | accountByUsername username => exact ⟨username, read ▸ member⟩
  | _ => cases read

theorem mem_of_readAccount {userId : Uuid}
    (known : readAccount history = some (userId, account)) :
    (⟨.accountById userId, some account⟩ : Event AuthOp AuthOp.Resp) ∈
      history := by
  obtain ⟨⟨op, answer⟩, member, read⟩ := List.exists_of_findSome?_eq_some known
  cases op with
  | accountById asked =>
      obtain ⟨found, answered, same⟩ := Option.map_eq_some_iff.mp read
      cases same
      exact answered ▸ member
  | _ => cases read

theorem mem_of_loadedSession {sessionIdHash : String}
    {stored : BrowserSessionRecord}
    (known : loadedSession history = some (sessionIdHash, stored)) :
    (⟨.session sessionIdHash, some stored⟩ : Event AuthOp AuthOp.Resp) ∈
      history := by
  obtain ⟨⟨op, answer⟩, member, read⟩ := List.exists_of_findSome?_eq_some known
  cases op with
  | session asked =>
      obtain ⟨found, answered, same⟩ := Option.map_eq_some_iff.mp read
      cases same
      exact answered ▸ member
  | _ => cases read

theorem mem_of_openedSession {values : BrowserSessionRecord}
    (known : openedSession history = some values) :
    (⟨.createSession values, true⟩ : Event AuthOp AuthOp.Resp) ∈ history := by
  obtain ⟨⟨op, answer⟩, member, read⟩ := List.exists_of_findSome?_eq_some known
  cases op with
  | createSession created =>
      obtain ⟨inserted, same⟩ := Option.ite_none_right_eq_some.mp read
      cases same
      exact inserted ▸ member
  | _ => cases read

end Recalled

open Program (remember)

/-- A session is loaded by the one call that asks for it. -/
theorem loadSession_recalls {allowed : AuthHistory → AuthOp → Prop}
    (quiet : ∀ known op, LoadOp op → allowed known op)
    (token : Option String) (phase : SessionPhase) (now : DateTime) :
    (loadSession env token phase now).Respects allowed remember
      (fun known loaded => ∃ text, token = some text ∧
        loaded.1 = env.sessionHash text ∧
        known = [⟨.session loaded.1, some loaded.2⟩]) [] := by
  unfold loadSession
  split
  · trivial
  · trivial
  rename_i text _
  refine .perform (quiet _ _ trivial) fun stored => ?_
  split
  · trivial
  split
  · trivial
  split
  · trivial
  · split
    · exact .perform (quiet _ _ trivial) fun _ => trivial
    · exact ⟨text, rfl, rfl, rfl⟩

theorem createSession_recalls {allowed : AuthHistory → AuthOp → Prop}
    {known : AuthHistory} {phase : SessionPhase}
    {user : Option AccountSnapshot} (draws : allowed known .draw)
    (opens : ∀ drawn values, OpenedFor phase user values →
      allowed (known ++ [⟨.draw, drawn⟩]) (.createSession values))
    (now : DateTime) (authMethods : String) (privileged : Bool)
    {β : Type} {next : SessionContext → AuthProgram β}
    {ensures : AuthHistory → β → Prop}
    (rest : ∀ known context,
      (next context).Respects allowed remember ensures known) :
    (createSession env now phase user authMethods privileged >>=
      next).Respects allowed remember ensures known := by
  refine .bind (.perform draws fun drawn =>
    .perform (opens drawn _ ?_) fun inserted => ?_)
  · exact ⟨rfl, rfl, rfl, rfl, rfl⟩
  · cases inserted with
    | false => trivial
    | true => exact rest _ _

variable {fact : AuthHistory → Prop}

/-- What a program knows where it returns survives the packaging of its
result. -/
theorem wrapped_recalls {α : Type} {program : AuthProgram α}
    {allowed : AuthHistory → AuthOp → Prop}
    (recalls : program.Respects allowed remember (fun known _ => fact known) [])
    (wrap : α → AuthReply) :
    (program >>= fun value => pure (wrap value)).Respects allowed remember
      (fun known _ => fact known) [] :=
  .bind recalls

/-- The password stage opens a session for the account it has looked up. -/
def OpensForNamed (known : AuthHistory) : AuthOp → Prop :=
  Opens fun values => ∃ account, namedAccount known = some account ∧
    OpenedFor .mfaPending (some account) values

theorem passwordLogin_recalls (preAuthToken : Option String)
    (username password : String) (now : DateTime) :
    (passwordLogin env preAuthToken username password now).Respects
      OpensForNamed remember (fun _ _ => True) [] := by
  have loads : ∀ known op, LoadOp op → OpensForNamed known op := by
    intro known op load
    cases op with
    | createSession => exact load.elim
    | _ => trivial
  refine .bind ((loadSession_recalls loads preAuthToken .preAuth now).weaken
    ?_)
  rintro known ⟨oldHash, stored⟩ ⟨text, _, _, rfl⟩
  refine .perform trivial fun answer => ?_
  cases answer with
  | none => exact .perform trivial fun _ => trivial
  | some account =>
      unfold decideLogin
      dsimp only
      split
      · exact .perform trivial fun _ => trivial
      split
      · exact .perform trivial fun _ => .perform trivial fun _ => trivial
      split
      · exact .perform trivial fun _ => trivial
      refine .perform trivial fun _ => createSession_recalls trivial
        (fun drawn values opened => ⟨account, rfl, opened⟩) _ _ _ ?_
      intro known context
      exact .perform trivial fun _ => trivial

variable {now : DateTime}

variable {preAuthToken : Option String}

theorem passwordStage_recalls {request : AuthRequest}
    {username password : String}
    (asked : request = .passwordLogin preAuthToken username password now) :
    (request.body env).Respects OpensForNamed remember (fun _ _ => True) [] := by
  subst asked
  exact wrapped_recalls
    (passwordLogin_recalls preAuthToken username password now) _

/-- The MFA stage reads the account of the session it has loaded, and opens a
session for the account it has read and the code it has checked. -/
def OpensForRead (env : AuthEnvironment) (pendingToken : Option String)
    (code : String) (now : DateTime) (known : AuthHistory) : AuthOp → Prop
  | .createSession values => ∃ text stored userId account,
      pendingToken = some text ∧
      loadedSession known = some (env.sessionHash text, stored) ∧
      stored.userId = some userId ∧
      readAccount known = some (userId, account) ∧
      factorPasses env account code now = true ∧
      OpenedFor .authenticated (some account) values
  | .accountById userId => ∃ text stored, pendingToken = some text ∧
      loadedSession known = some (env.sessionHash text, stored) ∧
      stored.userId = some userId
  | _ => True

theorem completeDevMfa_recalls (pendingToken : Option String)
    (code : String) (now : DateTime) :
    (completeDevMfa env pendingToken code now).Respects
      (OpensForRead env pendingToken code now) remember (fun _ _ => True)
      [] := by
  have loads : ∀ known op, LoadOp op →
      OpensForRead env pendingToken code now known op := by
    intro known op load
    cases op with
    | createSession | accountById => exact load.elim
    | _ => trivial
  refine .bind ((loadSession_recalls loads pendingToken .mfaPending
    now).weaken ?_)
  rintro known ⟨oldHash, stored⟩ ⟨text, presented, hash, rfl⟩
  dsimp only at hash ⊢
  subst hash
  generalize owner : stored.userId = user
  cases user with
  | none => trivial
  | some userId =>
      refine .perform ⟨text, stored, presented, rfl, owner⟩ fun answer => ?_
      cases answer with
      | none => trivial
      | some account =>
          refine .lift fun suppliedHash digest => ?_
          split
          · refine .perform trivial fun _ => ?_
            split
            · exact .perform trivial fun _ => .perform trivial fun _ => trivial
            · exact .perform trivial fun _ => trivial
          · next admitted =>
              rw [not_or, Bool.not_eq_false] at admitted
              have passes : factorPasses env account code now = true := by
                rw [factorPasses, digest]
                exact admitted.2
              refine .perform trivial fun roles => ?_
              split
              · exact .perform trivial fun _ => trivial
              refine .perform trivial fun _ => createSession_recalls trivial
                (fun drawn values opened => ⟨text, stored, userId, account,
                  presented, rfl, owner, rfl, passes, opened⟩) _ _ _ ?_
              intro known context
              exact .perform trivial fun _ => .perform trivial fun _ =>
                trivial

theorem factorStage_recalls {request : AuthRequest}
    {pendingToken : Option String} {code : String}
    (presented : request = .completeDevMfa pendingToken code now) :
    (request.body env).Respects (OpensForRead env pendingToken code now)
      remember (fun _ _ => True) [] := by
  subst presented
  exact wrapped_recalls (completeDevMfa_recalls pendingToken code now) _

/-- What `authenticate` knows where it returns. -/
def AcceptsRead (env : AuthEnvironment) (token : Option String)
    (known : AuthHistory) : Prop :=
  ∃ text stored userId account, token = some text ∧
    loadedSession known = some (env.sessionHash text, stored) ∧
    stored.userId = some userId ∧
    readAccount known = some (userId, account) ∧
    account.status = .active ∧
    account.credentialVersion = stored.credentialVersion

theorem authenticate_recalls (token : Option String)
    (meaningfulActivity : Bool) (now : DateTime) :
    (authenticate env token meaningfulActivity now).Respects
      (fun _ _ => True) remember (fun known _ => AcceptsRead env token known)
      [] := by
  refine .bind ((loadSession_recalls (fun _ _ _ => trivial) token
    .authenticated now).weaken ?_)
  rintro known ⟨sessionHash, stored⟩ ⟨text, presented, hash, rfl⟩
  dsimp only at hash ⊢
  subst hash
  split
  · next userId organizationId owner organization =>
      refine .perform trivial fun answer => ?_
      cases answer with
      | none => exact .perform trivial fun _ => trivial
      | some account =>
          generalize changed : identityChanged stored organizationId
            (some account) = outdated
          cases outdated with
          | true => exact .perform trivial fun _ => trivial
          | false =>
              have accepts (later : AuthHistory) : AcceptsRead env token
                  (⟨.session (env.sessionHash text), some stored⟩ ::
                    ⟨.accountById userId, some account⟩ :: later) := by
                obtain ⟨active, version, _⟩ := identityChanged_eq_false changed
                exact ⟨text, stored, userId, account, presented, rfl, owner,
                  rfl, active, version⟩
              refine .perform trivial fun roles => ?_
              split
              · exact .perform trivial fun _ => trivial
              refine .perform trivial fun assetIds => ?_
              split
              · exact .perform trivial fun _ => accepts [_, _, _]
              · exact accepts [_, _]
  · trivial

theorem changePassword_recalls (principal : AuthenticatedPrincipal)
    (currentPassword newPassword confirmation : String) (now : DateTime) :
    (changePassword env principal currentPassword newPassword confirmation
      now).Respects (fun _ _ => True) remember (fun known _ =>
        ∃ event ∈ known, replacesCredential principal.userId event = true)
      [] := by
  refine .perform trivial fun answer => ?_
  split
  · trivial
  split
  · trivial
  split
  · exact .perform trivial fun _ => trivial
  split
  · trivial
  split
  · trivial
  dsimp only
  split
  · trivial
  refine .perform trivial fun salt => .perform trivial ?_
  intro changed
  split
  · trivial
  rename_i replaced
  refine .perform trivial fun _ => .perform trivial fun _ => ?_
  refine ⟨_, List.mem_append_left _ (List.mem_append_left _
    List.mem_concat_self), ?_⟩
  rw [Bool.not_eq_false] at replaced
  simp [replacesCredential, replaced]

theorem renewMfaCode_recalls (principal : AuthenticatedPrincipal)
    (userId : Uuid) (now : DateTime) :
    (renewMfaCode env principal userId now).Respects (fun _ _ => True) remember
      (fun known _ =>
        ∃ event ∈ known, replacesCredential userId event = true) [] := by
  unfold renewMfaCode requireAdmin
  split
  · rw [Program.pure_eq_done, Program.done_bind]
    split
    · trivial
    refine .perform trivial fun drawn => .lift fun codeHash _ => ?_
    refine .perform trivial fun changed => ?_
    split
    · trivial
    rename_i replaced
    refine .perform trivial fun _ => .perform trivial fun _ => ?_
    refine ⟨_, List.mem_append_left _ (List.mem_append_left _
      List.mem_concat_self), ?_⟩
    rw [Bool.not_eq_false] at replaced
    simp [replacesCredential, replaced]
  · trivial

theorem changeStatus_recalls (principal : AuthenticatedPrincipal)
    (userId : Uuid) {name : String} (now : DateTime)
    (named : StatusAction.ofName name = some .disable) :
    (changeStatus principal userId name now).Respects (fun _ _ => True)
      remember (fun known _ =>
        ∃ event ∈ known, disablesAccount userId event = true) [] := by
  unfold changeStatus requireAdmin
  split
  · rw [Program.pure_eq_done, Program.done_bind, named]
    dsimp only
    split
    · trivial
    refine .perform trivial fun account => ?_
    cases account with
    | none => trivial
    | some account =>
        refine .perform trivial fun _ => .perform trivial fun _ => ?_
        refine ⟨_, List.mem_append_left _ (List.mem_append_left _
          List.mem_concat_self), ?_⟩
        simp [disablesAccount, statusActions]
  · trivial

/-- A rotating operation that returns has taken effect. -/
theorem rotation_recalls {userId : Uuid} {rotation : AuthRequest}
    (rotates : rotation.rotates userId = true) :
    (rotation.body env).Respects (fun _ _ => True) remember (fun known _ =>
      ∃ event ∈ known, takesEffect userId rotation event = true) [] := by
  cases rotation with
  | changePassword principal current new confirmation now =>
      have target : principal.userId = userId := of_decide_eq_true rotates
      subst target
      exact wrapped_recalls (changePassword_recalls ..) _
  | renewMfaCode principal target now =>
      have same : target = userId := of_decide_eq_true rotates
      subst same
      exact wrapped_recalls (renewMfaCode_recalls ..) _
  | changeStatus principal target name now =>
      rw [AuthRequest.rotates, Bool.and_eq_true] at rotates
      have same : target = userId := of_decide_eq_true rotates.1
      subst same
      exact wrapped_recalls
        (changeStatus_recalls principal target now
          (of_decide_eq_true rotates.2)) _
  | _ => cases rotates

section Walked

variable {request : AuthRequest} {history : AuthHistory}
  {rest : AuthProgram AuthReply} {allowed : AuthHistory → AuthOp → Prop}
  {ensures : AuthHistory → AuthReply → Prop}

theorem opening_recalled (walked : (request.body env).Path history rest)
    (respects : (request.body env).Respects allowed remember ensures [])
    {values : BrowserSessionRecord}
    (opened : openedSession history = some values) :
    ∃ earlier, earlier <+: history ∧
      allowed earlier (.createSession values) := by
  obtain ⟨earlier, inside, permitted⟩ :=
    walked.respected respects _ (mem_of_openedSession opened)
  rw [Program.foldl_recall] at permitted
  exact ⟨earlier, (List.prefix_append _ _).trans inside, permitted⟩

theorem return_recalled {thread : AuthThread}
    (walked : (thread.request.body env).Path thread.history thread.rest)
    (respects : (thread.request.body env).Respects allowed remember
      (fun known _ => fact known) []) (done : returned thread = true) :
    fact thread.history := by
  have known := walked.respects respects
  rw [Program.foldl_recall] at known
  unfold returned at done
  split at done
  · next reply finished =>
      rw [finished] at known
      exact known
  · cases done

end Walked

/-! ## What the tables remember -/

/-- What an answer still says of the tables: an account has not gone back to
earlier credentials, and a session is still there, aged. -/
def Remembers (store : AuthStore) : Event AuthOp AuthOp.Resp → Prop
  | ⟨.accountByUsername _, answer⟩ => ∀ account, answer = some account →
      ∃ row, store.account account.id = some row ∧
        account.credentialVersion ≤ row.credentialVersion
  | ⟨.accountById userId, answer⟩ => ∀ account, answer = some account →
      account.id = userId ∧ ∃ row, store.account account.id = some row ∧
        account.credentialVersion ≤ row.credentialVersion
  | ⟨.session sessionIdHash, answer⟩ => ∀ stored, answer = some stored →
      ∃ row, store.storedSession sessionIdHash = some row ∧ Aged stored row
  | ⟨.createSession values, answer⟩ => answer = true →
      ∃ row, store.storedSession values.sessionIdHash = some row ∧
        Aged values row
  | _ => True

/-- A call is remembered when it is answered. -/
theorem remembers_answer (store : AuthStore) (keyed : store.Keyed)
    (op : AuthOp) :
    Remembers (store.execute op).2 ⟨op, (store.execute op).1⟩ := by
  cases op with
  | accountByUsername username =>
      intro account answered
      obtain ⟨row, found, rfl⟩ := Option.map_eq_some_iff.mp answered
      exact ⟨row, keyed.account_of_mem (Table.lookup_mem found),
        Nat.le_refl _⟩
  | accountById userId =>
      intro account answered
      obtain ⟨row, found, rfl⟩ := Option.map_eq_some_iff.mp answered
      have same : row.id = userId := Table.lookup_key found
      exact ⟨same, row, same ▸ found, Nat.le_refl _⟩
  | session sessionIdHash =>
      intro stored answered
      exact ⟨stored, answered, .refl stored⟩
  | createSession values =>
      intro inserted
      rcases AuthStore.execute_createSession store values with
        taken | ⟨unused, stored⟩
      · rw [taken] at inserted
        cases inserted
      · rw [stored]
        exact ⟨values, AuthStore.storedSession_append store unused,
          .refl values⟩
  | _ => trivial

variable {store : AuthStore}

/-- What is remembered is not forgotten. -/
theorem remembers_execute (op : AuthOp) {event : Event AuthOp AuthOp.Resp}
    (remembers : Remembers store event) :
    Remembers (store.execute op).2 event := by
  obtain ⟨asked, answer⟩ := event
  have later {account : AccountSnapshot}
      (known : ∃ row, store.account account.id = some row ∧
        account.credentialVersion ≤ row.credentialVersion) :
      ∃ row, (store.execute op).2.account account.id = some row ∧
        account.credentialVersion ≤ row.credentialVersion := by
    obtain ⟨row, found, rises⟩ := known
    obtain ⟨after, foundAfter, risesOn⟩ :=
      AuthStore.credentialVersion_execute op found
    exact ⟨after, foundAfter, rises.trans risesOn⟩
  have older {sessionIdHash : String} {old : BrowserSessionRecord}
      (known : ∃ row, store.storedSession sessionIdHash = some row ∧
        Aged old row) :
      ∃ row, (store.execute op).2.storedSession sessionIdHash = some row ∧
        Aged old row := by
    obtain ⟨row, found, aged⟩ := known
    obtain ⟨after, foundAfter, step, _⟩ :=
      AuthStore.storedSession_execute op found
    exact ⟨after, foundAfter, aged.trans step⟩
  cases asked with
  | accountByUsername username =>
      exact fun account answered => later (remembers account answered)
  | accountById userId =>
      exact fun account answered => ⟨(remembers account answered).1,
        later (remembers account answered).2⟩
  | session sessionIdHash =>
      exact fun stored answered => older (remembers stored answered)
  | createSession values => exact fun inserted => older (remembers inserted)
  | _ => trivial

variable {config : AuthConfig}

theorem run_remembers (keyed : store.Keyed)
    (reached : (authSystem env).Run System.unguarded (Config.initial store)
      config) :
    config.store.Keyed ∧ ∀ (index : Nat) (thread : AuthThread),
      config.threads[index]? = some thread →
      ∀ event ∈ thread.history, Remembers config.store event := by
  refine reached.since AuthStore.Keyed Remembers
    (System.Walked.initial store) keyed ?_
  intro store thread op keyed _ _
  exact ⟨AuthStore.keyed_execute op keyed, remembers_answer store keyed op,
    fun _ => remembers_execute op⟩

/-! ## The rotation takes effect -/

/-- The rotation has left the account with newer credentials than `version`,
or closed. -/
def Invalidated (userId : Uuid) (rotation : AuthRequest) (version : Nat)
    (store : AuthStore) : Prop :=
  ∃ row, store.account userId = some row ∧
    if rotation.disables then row.status.closed = true
    else version < row.credentialVersion

variable {op : AuthOp}

variable {row : UserAccountRecord}

/-- The call with which the rotation takes effect invalidates. -/
theorem invalidated_of_takesEffect {userId : Uuid} {rotation : AuthRequest}
    (found : store.account userId = some row)
    (effect : takesEffect userId rotation ⟨op, (store.execute op).1⟩ =
      true) :
    Invalidated userId rotation row.credentialVersion
      (store.execute op).2 := by
  have renewed {organizationId : Uuid}
      {change : UserAccountRecord → UserAccountRecord}
      (keepsId : ∀ row, (change row).id = row.id)
      (rises : ∀ row, row.credentialVersion < (change row).credentialVersion)
      (succeeded : (store.updateActive userId organizationId change).1 =
        true) :
      ∃ after, (store.updateActive userId organizationId change).2.account
        userId = some after ∧
        row.credentialVersion < after.credentialVersion := by
    obtain ⟨same, foundSame, foundAfter⟩ :=
      AuthStore.account_updateActive keepsId succeeded
    cases found.symm.trans foundSame
    exact ⟨_, foundAfter, rises row⟩
  unfold takesEffect at effect
  unfold Invalidated
  split at effect
  · next disables =>
      simp only [if_pos disables]
      cases op with
      | transitionAccount target organizationId fromStatuses toStatus now
          grant =>
          simp only [disablesAccount, Bool.and_eq_true,
            decide_eq_true_eq] at effect
          obtain ⟨⟨rfl, rfl⟩, succeeded⟩ := effect
          obtain ⟨after, foundAfter, disabled⟩ :=
            AuthStore.account_transitionAccount succeeded
          exact ⟨after, foundAfter, by rw [disabled]; rfl⟩
      | _ => cases effect
  · next replaces =>
      simp only [if_neg replaces]
      cases op with
      | changePassword target organizationId passwordHash now =>
          simp only [replacesCredential, Bool.and_eq_true,
            decide_eq_true_eq] at effect
          obtain ⟨rfl, succeeded⟩ := effect
          exact renewed (fun _ => rfl) (fun _ => Nat.lt_succ_self _) succeeded
      | updateMfaCode target organizationId codeHash issuedAt expiresAt =>
          simp only [replacesCredential, Bool.and_eq_true,
            decide_eq_true_eq] at effect
          obtain ⟨rfl, succeeded⟩ := effect
          exact renewed (fun _ => rfl) (fun _ => Nat.lt_succ_self _) succeeded
      | _ => cases effect

theorem invalidated_execute {userId : Uuid} {rotation : AuthRequest}
    {version : Nat} {thread : AuthThread}
    (invalidated : Invalidated userId rotation version store)
    (guarded : keepsRotation env userId rotation store thread op)
    (issued : AdministratorTransition thread.request op) :
    Invalidated userId rotation version (store.execute op).2 := by
  obtain ⟨row, found, holds⟩ := invalidated
  unfold Invalidated
  split at holds
  · next disables =>
      obtain ⟨after, foundAfter, step⟩ := AuthStore.account_execute op found
      have kept := closed_step found holds issued (guarded.2 disables) step
      exact ⟨after, foundAfter, by rw [if_pos disables, kept]; exact holds⟩
  · next replaces =>
      obtain ⟨after, foundAfter, rises⟩ :=
        AuthStore.credentialVersion_execute op found
      refine ⟨after, foundAfter, ?_⟩
      rw [if_neg replaces]
      exact Nat.lt_of_lt_of_le holds rises

section Rotated

variable {userId : Uuid} {rotation : AuthRequest}
  {before after : AuthConfig}

/-- Once the rotating operation has taken effect, the account as it was before
is invalidated. -/
theorem rotated_invalidates (walked : (authSystem env).Walked before)
    (run : (authSystem env).Run (keepsRotation env userId rotation) before
      after) (found : before.store.account userId = some row) {turn : Nat}
    (rotates : rotation.rotates userId = true)
    (unrotated : NotYetRotated before userId rotation turn)
    (completed : HasRotated after rotation turn) :
    Invalidated userId rotation row.credentialVersion after.store := by
  obtain ⟨thread, present, rfl, done⟩ := completed
  obtain ⟨event, member, effect⟩ := return_recalled
    (run.walked walked thread (List.mem_of_getElem? present))
    (rotation_recalls rotates) done
  -- The effect belongs to what was executed after `before`.
  have recent : event ∈ thread.history.drop (before.executed turn) := by
    rw [← List.take_append_drop (before.executed turn) thread.history] at member
    rcases List.mem_append.mp member with early | late
    · exfalso
      unfold Config.executed at early
      cases started : before.threads[turn]? with
      | none =>
          rw [started] at early
          cases early
      | some old =>
          obtain ⟨_, same, _, grown⟩ := run.threads_persist.2 turn old started
          rw [present] at same
          cases same
          obtain ⟨rest, split⟩ := grown
          rw [started, ← split] at early
          simp only [Option.map_some, Option.getD_some,
            List.take_left] at early
          rw [unrotated old started event early] at effect
          cases effect
    · exact late
  let standing (store : AuthStore) : Prop :=
    ∃ later, store.account userId = some later ∧
      row.credentialVersion ≤ later.credentialVersion
  have since := run.since standing
    (fun store event => takesEffect userId thread.request event = true →
      Invalidated userId thread.request row.credentialVersion store)
    walked ⟨row, found, Nat.le_refl _⟩ ?_
  · exact since.2 turn thread present event recent effect
  · rintro store mover op ⟨later, foundLater, rises⟩ guarded issued
    obtain ⟨next, foundNext, risesOn⟩ :=
      AuthStore.credentialVersion_execute op foundLater
    refine ⟨⟨next, foundNext, rises.trans risesOn⟩, ?_, ?_⟩
    · intro effective
      obtain ⟨renewed, foundRenewed, holds⟩ :=
        invalidated_of_takesEffect foundLater effective
      refine ⟨renewed, foundRenewed, ?_⟩
      split at holds
      · next disables =>
          rw [if_pos disables]
          exact holds
      · next replaces =>
          rw [if_neg replaces]
          exact Nat.lt_of_le_of_lt rises holds
    · intro event known effective
      exact invalidated_execute (known effective) guarded
        (issued _ (body_issues env mover.request))

/-- Requests that start after the rotation read the account as it is then. -/
theorem later_reads_invalidated {version : Nat}
    (walked : (authSystem env).Walked before)
    (run : (authSystem env).Run (keepsRotation env userId rotation) before
      after)
    (invalidated : Invalidated userId rotation version before.store)
    {visit : Nat} (fresh : before.threads.length ≤ visit)
    {thread : AuthThread} (present : after.threads[visit]? = some thread)
    {account : AccountSnapshot}
    (read : readAccount thread.history = some (userId, account)) :
    if rotation.disables then account.status.closed = true
    else version < account.credentialVersion := by
  let faithful (_ : AuthStore) : Event AuthOp AuthOp.Resp → Prop
    | ⟨.accountById asked, answer⟩ => ∀ account, asked = userId →
        answer = some account →
          if rotation.disables then account.status.closed = true
          else version < account.credentialVersion
    | _ => True
  have since := run.since (Invalidated userId rotation version) faithful
    walked invalidated ?_
  · have nothing : before.executed visit = 0 := by
      rw [Config.executed, List.getElem?_eq_none fresh]
      rfl
    have member : (⟨.accountById userId, some account⟩ :
        Event AuthOp AuthOp.Resp) ∈
          thread.history.drop (before.executed visit) := by
      rw [nothing, List.drop_zero]
      exact mem_of_readAccount read
    exact since.2 visit thread present _ member account rfl rfl
  · intro store mover op invalidated guarded issued
    refine ⟨invalidated_execute invalidated guarded
      (issued _ (body_issues env mover.request)), ?_, fun _ known => known⟩
    cases op with
    | accountById asked =>
        rintro account rfl answered
        obtain ⟨row, found, holds⟩ := invalidated
        obtain ⟨same, foundSame, rfl⟩ := Option.map_eq_some_iff.mp answered
        cases found.symm.trans foundSame
        exact holds
    | _ => trivial

end Rotated

/-! ## The MFA stage goes on with the credentials of the first stage -/

/-- The MFA stage has read the account before the run, or its code does not
pass, or the account had the credentials of the pending session. -/
def Settled (env : AuthEnvironment) (start : AuthStore)
    (thread : AuthThread) : Prop :=
  ∀ pendingToken code now, thread.request =
      .completeDevMfa pendingToken code now →
    ∀ userId account, readAccount thread.history = some (userId, account) →
      (∃ row, start.account account.id = some row ∧
        account.credentialVersion ≤ row.credentialVersion) ∨
      factorPasses env account code now = false ∨
      ∃ sessionIdHash pending,
        loadedSession thread.history = some (sessionIdHash, pending) ∧
        account.credentialVersion = pending.credentialVersion

variable {start : AuthStore}

/-- A guarded call leaves the MFA stage settled. -/
theorem settled_answered {thread : AuthThread}
    {resume : op.Resp → AuthProgram AuthReply} {userId : Uuid}
    {rotation : AuthRequest}
    (walked : (thread.request.body env).Path thread.history
      (.call op resume))
    (guarded : keepsRotation env userId rotation store thread op)
    (settled : Settled env start thread) :
    Settled env start
      (System.answered thread op resume (store.execute op).1) := by
  intro pendingToken code now asked readId account read
  have sameRequest : thread.request = .completeDevMfa pendingToken code now :=
    asked
  simp only [System.answered] at read ⊢
  have grown : thread.history <+:
      thread.history ++ [⟨op, (store.execute op).1⟩] :=
    List.prefix_append _ _
  cases known : readAccount thread.history with
  | some found =>
      rw [readAccount_grown grown known] at read
      cases read
      rcases settled pendingToken code now sameRequest readId account known
        with old | fails | ⟨sessionIdHash, pending, loaded, same⟩
      · exact .inl old
      · exact .inr (.inl fails)
      · exact .inr (.inr ⟨sessionIdHash, pending,
          loadedSession_grown grown loaded, same⟩)
  | none =>
      rw [readAccount, List.findSome?_append] at read
      rw [readAccount] at known
      rw [known, Option.none_or] at read
      cases op with
      | accountById wanted =>
          have looked :=
            (walked.respects (factorStage_recalls sameRequest)).1
          rw [Program.foldl_recall] at looked
          obtain ⟨text, pending, _, loaded, _⟩ := looked
          have answered : (store.account wanted).map
              UserAccountRecord.snapshot = some account := by
            obtain ⟨found, answered, same⟩ :=
              Option.map_eq_some_iff.mp (List.findSome?_singleton ▸ read)
            cases same
            exact answered
          obtain ⟨row, found, rfl⟩ := Option.map_eq_some_iff.mp answered
          have current := guarded.1
          simp only [readsOutdated, sameRequest] at current
          rw [List.nil_append] at loaded
          rw [loaded, found] at current
          simp only [Bool.and_eq_false_iff, decide_eq_false_iff_not,
            not_not] at current
          rcases current with same | fails
          · exact .inr (.inr ⟨_, pending, loadedSession_grown grown loaded,
              same⟩)
          · exact .inr (.inl fails)
      | _ => cases read

/-- The MFA stage is settled in every run without outdated reads. -/
theorem run_settled {userId : Uuid} {rotation : AuthRequest}
    {before after : AuthConfig}
    (walked : (authSystem env).Walked before)
    (remembered : ∀ (index : Nat) (thread : AuthThread),
      before.threads[index]? = some thread →
      ∀ event ∈ thread.history, Remembers before.store event)
    (run : (authSystem env).Run (keepsRotation env userId rotation) before
      after) :
    ∀ thread ∈ after.threads, Settled env before.store thread := by
  let holds (config : AuthConfig) : Prop :=
    (authSystem env).Walked config ∧
      ∀ thread ∈ config.threads, Settled env before.store thread
  have initially : holds before := by
    refine ⟨walked, ?_⟩
    intro thread member pendingToken code now _ readId account read
    obtain ⟨index, found⟩ := List.getElem?_of_mem member
    exact .inl (remembered index thread found _ (mem_of_readAccount read)
      account rfl).2
  refine (run.invariant holds initially ?_).2
  rintro middle next ⟨walks, settled⟩ step
  refine ⟨walks.step step, ?_⟩
  cases step with
  | start request =>
      intro thread member
      rcases List.mem_append.mp member with earlier | last
      · exact settled thread earlier
      · rw [List.mem_singleton.mp last]
        intro _ _ _ _ _ _ read
        cases read
  | execute index thread op resume scheduled pending guarded =>
      intro other member
      rcases List.mem_or_eq_of_mem_set member with earlier | rfl
      · exact settled other earlier
      · have present := List.mem_of_getElem? scheduled
        have path := walks thread present
        rw [pending] at path
        exact settled_answered path guarded (settled thread present)

/-! ## Rotation invalidates the logins under way -/

/-- The two stages of a login as they know each other: which account each has
read, and that the second goes on with the session of the first. -/
structure Stages (env : AuthEnvironment) (first second : AuthThread)
    (code : String) (now : DateTime) (userId : Uuid)
    (session pending : BrowserSessionRecord)
    (named account : AccountSnapshot) : Prop where
  lookedUp : namedAccount first.history = some named
  read : readAccount second.history = some (userId, account)
  loaded : ∃ sessionIdHash,
    loadedSession second.history = some (sessionIdHash, pending)
  passes : factorPasses env account code now = true
  sameUser : named.id = userId
  accountId : account.id = userId
  pendingVersion : pending.credentialVersion = named.credentialVersion
  sessionVersion : session.credentialVersion = account.credentialVersion

variable {first second : Nat}

variable {session : BrowserSessionRecord}

/-- Every login session has such stages. -/
theorem stages_of_login (keyed : start.Keyed)
    (reached : (authSystem env).Run System.unguarded (Config.initial start)
      config) {userId : Uuid}
    (login : LoginSession env config userId first second session) :
    ∃ stage other pendingToken code now pending named account,
      config.threads[first]? = some stage ∧
      config.threads[second]? = some other ∧
      other.request = .completeDevMfa pendingToken code now ∧
      (∃ row, config.store.storedSession session.sessionIdHash = some row ∧
        Aged session row) ∧
      session.userId = some userId ∧
      Stages env stage other code now userId session pending named
        account := by
  have walked := reached.walked (System.Walked.initial start)
  have remembers := (run_remembers keyed reached).2
  obtain ⟨stage, other, preAuthToken, username, password, pendingToken, code,
    now, later, created, passwordStage, asked, opened, factorStage, presented,
    continued, completed, owner⟩ := login
  have stageMember := List.mem_of_getElem? passwordStage
  have otherMember := List.mem_of_getElem? factorStage
  -- What the two stages have read before they opened their sessions.
  obtain ⟨earlier, inside, named, known, pendingFor⟩ := opening_recalled
    (walked stage stageMember) (passwordStage_recalls asked) opened
  obtain ⟨before, within, text, pending, readId, account, same, loading,
    pendingOwner, reading, passes, sessionFor⟩ := opening_recalled
    (walked other otherMember) (factorStage_recalls presented) completed
  cases same
  have loaded := loadedSession_grown within loading
  have read := readAccount_grown within reading
  -- The session that was loaded is the one the first stage has created.
  obtain ⟨row, found, agedCreated⟩ := remembers first stage passwordStage _
    (mem_of_openedSession opened) rfl
  obtain ⟨twin, foundTwin, agedPending⟩ := remembers second other factorStage
    _ (mem_of_loadedSession loaded) pending rfl
  rw [continued] at foundTwin
  cases found.symm.trans foundTwin
  obtain ⟨accountId, _⟩ := remembers second other factorStage _
    (mem_of_readAccount read) account rfl
  have readUser : readId = userId := by
    have same := sessionFor.owner.symm.trans owner
    rw [Option.map_some, accountId] at same
    exact Option.some.inj same
  have namedUser : named.id = readId := by
    have ownerOfRow := agedCreated.sameUser.trans pendingFor.owner
    rw [agedPending.sameUser, pendingOwner, Option.map_some] at ownerOfRow
    exact (Option.some.inj ownerOfRow).symm
  subst readUser
  refine ⟨stage, other, some pendingToken, code, later, pending, named,
    account, passwordStage, factorStage, presented,
    remembers second other factorStage _ (mem_of_openedSession completed) rfl,
    owner, ?_⟩
  constructor
  case lookedUp => exact namedAccount_grown inside known
  case read => exact read
  case loaded => exact ⟨_, loaded⟩
  case passes => exact passes
  case sameUser => exact namedUser
  case accountId => exact accountId
  case pendingVersion =>
    have version := agedPending.sameCredentialVersion.symm.trans
      (agedCreated.sameCredentialVersion.trans pendingFor.credentialVersion)
    exact version
  case sessionVersion => exact sessionFor.credentialVersion

/-- The session of a login that had read the account before the rotation does
not have newer credentials than the account had then. -/
theorem session_version_le (keyed : start.Keyed) {before after : AuthConfig}
    {userId : Uuid} {rotation : AuthRequest}
    (reached : (authSystem env).Run System.unguarded (Config.initial start)
      before)
    (run : (authSystem env).Run (keepsRotation env userId rotation) before
      after) (login : LoginSession env after userId first second session)
    (verified : HasRead before first second) :
    ∃ row, before.store.account userId = some row ∧
      session.credentialVersion ≤ row.credentialVersion := by
  have walked := reached.walked (System.Walked.initial start)
  have remembers := (run_remembers keyed reached).2
  obtain ⟨stage, other, pendingToken, code, now, pending, named, account,
    passwordStage, factorStage, presented, _, _, stages⟩ :=
    stages_of_login keyed (reached.trans (run.mono fun _ _ _ _ => trivial))
      login
  rcases verified with ⟨old, present, seen⟩ | ⟨old, present, seen⟩
  · obtain ⟨same, known⟩ := Option.isSome_iff_exists.mp seen
    obtain ⟨_, found, _, grown⟩ := run.threads_persist.2 first old present
    rw [passwordStage] at found
    cases found
    cases stages.lookedUp.symm.trans (namedAccount_grown grown known)
    obtain ⟨username, member⟩ := mem_of_namedAccount known
    obtain ⟨row, foundRow, rises⟩ :=
      remembers first old present _ member _ rfl
    rw [stages.sameUser] at foundRow
    rcases run_settled walked remembers run other
        (List.mem_of_getElem? factorStage) pendingToken code now presented _ _
        stages.read with
      ⟨seenRow, foundSeen, lower⟩ | fails | ⟨sessionIdHash, loaded, asked,
        version⟩
    · rw [stages.accountId] at foundSeen
      exact ⟨seenRow, foundSeen, stages.sessionVersion ▸ lower⟩
    · rw [stages.passes] at fails
      cases fails
    · obtain ⟨_, asked'⟩ := stages.loaded
      cases asked.symm.trans asked'
      refine ⟨row, foundRow, ?_⟩
      rw [stages.sessionVersion, version, stages.pendingVersion]
      exact rises
  · obtain ⟨⟨readId, same⟩, known⟩ := Option.isSome_iff_exists.mp seen
    obtain ⟨_, found, _, grown⟩ := run.threads_persist.2 second old present
    rw [factorStage] at found
    cases found
    cases stages.read.symm.trans (readAccount_grown grown known)
    obtain ⟨_, row, foundRow, rises⟩ := remembers second old present _
      (mem_of_readAccount known) _ rfl
    rw [stages.accountId] at foundRow
    exact ⟨row, foundRow, stages.sessionVersion ▸ rises⟩

/-- From any reachable state on, in every run in which no MFA stage goes on
with replaced credentials (and, for a disablement, no login writes the closed
account and nobody activates it), no login that has read the old credentials
outlives their rotation. -/
theorem rotation_invalidates_logins {start : AuthStore}
    (keyed : start.Keyed) {before rotated after : AuthConfig}
    {userId : Uuid} {rotation : AuthRequest}
    (reached : (authSystem env).Run System.unguarded (Config.initial start)
      before)
    (rotating : (authSystem env).Run (keepsRotation env userId rotation)
      before rotated)
    (later : (authSystem env).Run (keepsRotation env userId rotation)
      rotated after) :
    ¬OutlivesRotation env userId rotation before rotated after := by
  rintro ⟨first, second, turn, visit, session, login, verified, rotates,
    unrotated, completed, fresh, thread, token, meaningfulActivity, now,
    present, visits, hash, done⟩
  have walked := reached.walked (System.Walked.initial start)
  have whole := reached.trans ((rotating.trans later).mono
    fun _ _ _ _ => trivial)
  have remembers := (run_remembers keyed whole).2
  obtain ⟨_, _, _, _, _, _, _, _, _, _, _, ⟨row, stored, aged⟩, owner, _⟩ :=
    stages_of_login keyed whole login
  obtain ⟨old, foundOld, version⟩ := session_version_le keyed reached
    (rotating.trans later) login verified
  have invalidated := rotated_invalidates walked rotating foundOld rotates
    unrotated completed
  -- What the later `authenticate` has read.
  have recalls : (thread.request.body env).Respects (fun _ _ => True) remember
      (fun known _ => AcceptsRead env (some token) known) [] := by
    rw [visits]
    exact wrapped_recalls (authenticate_recalls ..) _
  obtain ⟨text, seen, readId, account, same, loaded, seenOwner, read, active,
    sameVersion⟩ := return_recalled
      (whole.walked (System.Walked.initial start) thread
        (List.mem_of_getElem? present)) recalls done
  cases same
  obtain ⟨twin, foundTwin, agedSeen⟩ := remembers visit thread present _
    (mem_of_loadedSession loaded) seen rfl
  rw [hash] at foundTwin
  cases stored.symm.trans foundTwin
  have readUser : readId = userId := by
    have sameOwner := agedSeen.sameUser.symm.trans aged.sameUser
    rw [seenOwner, owner] at sameOwner
    exact Option.some.inj sameOwner
  subst readUser
  have fromThen := later_reads_invalidated (rotating.walked walked) later
    invalidated fresh present read
  split at fromThen
  · rw [active] at fromThen
    cases fromThen
  · have sessionVersion := agedSeen.sameCredentialVersion.symm.trans
      aged.sameCredentialVersion
    omega

/-! ## A password changed during a login -/

/-- What is seen of a request: what it asks for, whether its password stage
has read the account, the session it has created with its owner, and whether
it has returned. -/
structure Seen where
  request : AuthRequest
  read : Bool
  opened : Option (String × Option Uuid)
  done : Bool
deriving DecidableEq

def seen (config : AuthConfig) (index : Nat) : Option Seen :=
  config.threads[index]?.map fun thread =>
    { request := thread.request
      read := (namedAccount thread.history).isSome
      opened := (openedSession thread.history).map fun session =>
        (session.sessionIdHash, session.userId)
      done := returned thread }

/-- A login as far as the MFA stage has loaded the pending session. -/
def loginUnderWay : List (Action AuthRequest) :=
  [.start (.newPreAuth 0), .step 0, .step 0,
   .start (.passwordLogin (some "token-0") "alice" "Sunny-day9" 1)] ++
  List.replicate 6 (.step 1) ++
  [.start (.completeDevMfa (some "token-1") "123456" 2), .step 2]

def aliceSignedIn : AuthenticatedPrincipal :=
  { userId := alice.id
    username := "alice"
    displayName := "Alice"
    organizationId := ⟨100⟩
    roles := [.user]
    assetIds := []
    authMethods := ["password", "dev-test-mfa"]
    sessionCreatedAt := 0
    reauthenticatedAt := 0 }

def passwordChange : AuthRequest :=
  .changePassword aliceSignedIn "Sunny-day9" "Windy-night7" "Windy-night7" 3

theorem seen_eq {index : Nat} {what : Seen}
    (observed : seen config index = some what) :
    ∃ thread, config.threads[index]? = some thread ∧
      thread.request = what.request ∧
      (namedAccount thread.history).isSome = what.read ∧
      ((openedSession thread.history).map fun session =>
        (session.sessionIdHash, session.userId)) = what.opened ∧
      returned thread = what.done := by
  obtain ⟨thread, found, same⟩ := Option.map_eq_some_iff.mp observed
  cases same
  exact ⟨thread, found, rfl, rfl, rfl, rfl⟩

/-- The two stages of the sample login, read off what is seen of them. -/
theorem loginSession_of_seen {username password pendingToken code :
      String} {later : DateTime} {owner : Option Uuid} {userId : Uuid}
    {sessionIdHash : String} (passwordStage : seen config first = some
      ⟨.passwordLogin preAuthToken username password now, true,
        some (sampleEnvironment.sessionHash pendingToken, owner), true⟩)
    (factorStage : seen config second = some
      ⟨.completeDevMfa (some pendingToken) code later, false,
        some (sessionIdHash, some userId), true⟩) :
    ∃ session, session.sessionIdHash = sessionIdHash ∧
      LoginSession sampleEnvironment config userId first second session := by
  obtain ⟨stage, foundStage, asked, _, created, _⟩ := seen_eq passwordStage
  obtain ⟨other, foundOther, presented, _, completed, _⟩ :=
    seen_eq factorStage
  obtain ⟨pending, opened, pendingIs⟩ := Option.map_eq_some_iff.mp created
  obtain ⟨session, finished, sessionIs⟩ :=
    Option.map_eq_some_iff.mp completed
  obtain ⟨sameHash, sameOwner⟩ := Prod.mk.inj sessionIs
  exact ⟨session, sameHash, .intro stage other preAuthToken username password
    pendingToken code now later pending foundStage asked opened foundOther
    presented (Prod.mk.inj pendingIs).1.symm finished sameOwner⟩

theorem hasRead_of_seen {request : AuthRequest}
    {opened : Option (String × Option Uuid)} {done : Bool}
    (passwordStage : seen config first = some ⟨request, true, opened, done⟩) :
    HasRead config first second := by
  obtain ⟨stage, found, _, read, _⟩ := seen_eq passwordStage
  exact .inl ⟨stage, found, read⟩

theorem hasRotated_of_seen {rotation : AuthRequest} {turn : Nat}
    (completed : seen config turn = some ⟨rotation, false, none, true⟩) :
    HasRotated config rotation turn := by
  obtain ⟨thread, found, same, _, _, done⟩ := seen_eq completed
  exact ⟨thread, found, same, done⟩

theorem notYetRotated_of_length {userId : Uuid} {rotation : AuthRequest}
    {turn : Nat} (length : config.threads.length = turn) :
    NotYetRotated config userId rotation turn := by
  intro thread found
  rw [List.getElem?_eq_none (Nat.le_of_eq length)] at found
  cases found

/-- What is seen of the two stages and of the later `authenticate`. -/
structure SeenAfter where
  stages : Option Seen × Option Seen
  visit : Option Seen
deriving DecidableEq

/-- What is seen of the rotating operation, and afterwards. -/
structure SeenRotated where
  started : Nat
  turn : Option Seen
  after : Option SeenAfter
deriving DecidableEq

/-- What is seen before the rotating operation, and from then on. -/
structure SeenBefore where
  started : Nat
  stage : Option Seen
  rotated : Option SeenRotated
deriving DecidableEq

section Watched

variable (guard : AuthStore → AuthThread → AuthOp → Prop)
  [∀ store thread op, Decidable (guard store thread op)]

def watch (during afterwards : List (Action AuthRequest))
    (before : AuthConfig) : SeenBefore :=
  { started := before.threads.length
    stage := seen before 1
    rotated := ((authSystem sampleEnvironment).schedule guard before
      during).map fun rotated =>
        { started := rotated.threads.length
          turn := seen rotated 3
          after := ((authSystem sampleEnvironment).schedule guard rotated
            afterwards).map fun after =>
              { stages := (seen after 1, seen after 2)
                visit := seen after 4 } } }

/-- What has been watched belongs to three moments of a run. -/
theorem runs_of_watch {login during afterwards : List (Action AuthRequest)}
    {stage turn visit : Option Seen} {stages : Option Seen × Option Seen}
    (watched : ((authSystem sampleEnvironment).schedule System.unguarded
      (Config.initial sampleStore) login).map
        (watch guard during afterwards) =
      some ⟨first, stage, some ⟨second, turn, some ⟨stages, visit⟩⟩⟩) :
    ∃ before rotated after,
      (authSystem sampleEnvironment).Run System.unguarded
        (Config.initial sampleStore) before ∧
      (authSystem sampleEnvironment).Run guard before rotated ∧
      (authSystem sampleEnvironment).Run guard rotated after ∧
      before.threads.length = first ∧ seen before 1 = stage ∧
      rotated.threads.length = second ∧ seen rotated 3 = turn ∧
      seen after 1 = stages.1 ∧ seen after 2 = stages.2 ∧
      seen after 4 = visit := by
  obtain ⟨before, reached, facts⟩ := System.exists_run_of_schedule watched
  obtain ⟨length, read, next⟩ := SeenBefore.mk.inj facts
  obtain ⟨rotated, rotating, facts⟩ := System.exists_run_of_schedule next
  obtain ⟨fresh, changed, last⟩ := SeenRotated.mk.inj facts
  obtain ⟨after, later, facts⟩ := System.exists_run_of_schedule last
  obtain ⟨both, visited⟩ := SeenAfter.mk.inj facts
  exact ⟨before, rotated, after, reached, rotating, later, length, read,
    fresh, changed, congrArg Prod.fst both, congrArg Prod.snd both, visited⟩

end Watched

/-- The password stage of the sample login, when it is over. -/
def passwordStageSeen : Seen :=
  { request := .passwordLogin (some "token-0") "alice" "Sunny-day9" 1
    read := true
    opened := some ("session:token-1", some alice.id)
    done := true }

/-- The MFA stage of the sample login, when it is over. -/
def factorStageSeen (sessionIdHash : String) : Seen :=
  { request := .completeDevMfa (some "token-1") "123456" 2
    read := false
    opened := some (sessionIdHash, some alice.id)
    done := true }

def completedSeen (request : AuthRequest) : Seen :=
  { request := request, read := false, opened := none, done := true }

/-- The whole login is over before the password is changed: its session is not
accepted afterwards. -/
theorem finished_login_does_not_outlive :
    ∃ before rotated after session,
      LoginSession sampleEnvironment after alice.id 1 2 session ∧
      HasRead before 1 2 ∧ HasRotated rotated passwordChange 3 ∧
      ¬HasAccepted sampleEnvironment after 4 session := by
  have watched : ((authSystem sampleEnvironment).schedule System.unguarded
      (Config.initial sampleStore)
      (loginUnderWay ++ List.replicate 7 (.step 2))).map
        (watch (keepsRotation sampleEnvironment alice.id passwordChange)
          (.start passwordChange :: List.replicate 5 (.step 3))
          [.start (.authenticate (some "token-2") false 4), .step 4]) =
      some ⟨3, some passwordStageSeen,
        some ⟨4, some (completedSeen passwordChange),
          some ⟨(some passwordStageSeen,
              some (factorStageSeen "session:token-2")),
            some
              { completedSeen (.authenticate (some "token-2") false 4) with
                done := false }⟩⟩⟩ := by
    decide
  obtain ⟨before, rotated, after, reached, rotating, later, length, read,
    fresh, changed, stage, other, _⟩ := runs_of_watch _ watched
  obtain ⟨session, _, login⟩ := loginSession_of_seen stage other
  refine ⟨before, rotated, after, session, login, hasRead_of_seen read,
    hasRotated_of_seen changed, fun accepted => ?_⟩
  exact rotation_invalidates_logins (by decide) reached rotating later
    (.intro 1 2 3 4 session login (hasRead_of_seen read) (by decide)
      (notYetRotated_of_length length) (hasRotated_of_seen changed)
      (Nat.le_of_eq fresh) accepted)

/-- The password is changed after the MFA stage has loaded the pending session
and before it reads the account: the login that has verified the old password
gets a session with the new credentials, and the session is accepted. -/
theorem password_login_outlives_rotation :
    ∃ before rotated after,
      (authSystem sampleEnvironment).Run System.unguarded
        (Config.initial sampleStore) before ∧
      (authSystem sampleEnvironment).Run System.unguarded before rotated ∧
      (authSystem sampleEnvironment).Run System.unguarded rotated after ∧
      OutlivesRotation sampleEnvironment alice.id passwordChange before
        rotated after := by
  have watched : ((authSystem sampleEnvironment).schedule System.unguarded
      (Config.initial sampleStore) loginUnderWay).map
        (watch System.unguarded
          (.start passwordChange :: List.replicate 5 (.step 3))
          (List.replicate 7 (.step 2) ++
            .start (.authenticate (some "token-3") false 4) ::
              List.replicate 4 (.step 4))) =
      some ⟨3, some passwordStageSeen,
        some ⟨4, some (completedSeen passwordChange),
          some ⟨(some passwordStageSeen,
              some (factorStageSeen "session:token-3")),
            some (completedSeen
              (.authenticate (some "token-3") false 4))⟩⟩⟩ := by
    decide
  obtain ⟨before, rotated, after, reached, rotating, later, length, read,
    fresh, changed, stage, other, visit⟩ := runs_of_watch _ watched
  obtain ⟨session, hash, login⟩ := loginSession_of_seen stage other
  obtain ⟨thread, found, visits, _, _, done⟩ := seen_eq visit
  exact ⟨before, rotated, after, reached, rotating, later,
    .intro 1 2 3 4 session login (hasRead_of_seen read) (by decide)
      (notYetRotated_of_length length) (hasRotated_of_seen changed)
      (Nat.le_of_eq fresh)
      ⟨thread, "token-3", false, 4, found, visits, hash.symm, done⟩⟩

end SecAI.Auth
