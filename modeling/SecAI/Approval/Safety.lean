/-
Module: SecAI.Approval.Safety
Purpose: What holds of the runs of a token, the decision of a request and the
  grant of a code, over every order of the calls and every clock reading.
Trusted boundary: none
Main exports:
  ApprovalSafe, Counted, approval_safe, expired_request_is_approved
-/
import Mathlib.Data.List.Perm.Basic
import SecAI.Approval.Session

namespace SecAI.Approval

open Interleaving

/-- A step of the sessions. -/
abbrev SessionMoment := Moment SessionState SessionLabel SessionAnswer

variable {env : ScanTokenEnvironment}

/-! ## What the steps are about -/

def startsRun (tokenRef : String) (moment : SessionMoment) : Bool :=
  match moment.answer with
  | .started startedRef => decide (startedRef = tokenRef)
  | _ => false

def registersRun (tokenRef : String) (moment : SessionMoment) : Bool :=
  match moment.label, moment.answer with
  | .request index _, .registered _ =>
      moment.before.registering[index]?.any fun registration =>
        decide (registration.tokenRef = tokenRef)
  | _, _ => false

def decidesRequest (requestId : String) (moment : SessionMoment) : Bool :=
  match moment.label, moment.answer with
  | .decide decidedId _ _ _, .decided _ => decide (decidedId = requestId)
  | _, _ => false

/-- The step reports the state of the request at a clock reading. -/
def Reports (moment : SessionMoment) (requestId : String)
    (receivedAt : DateTime) (state : ScanApprovalState) : Prop :=
  (moment.label = .poll requestId receivedAt ∧
    ∃ view, moment.answer = .polled view ∧ view.state = state) ∨
  ∃ viewerUserId, moment.label = .page requestId viewerUserId receivedAt ∧
    ∃ view, moment.answer = .viewed view ∧ view.state = state

/-- The step records a decision of the request at a clock reading. -/
def DecidesAt (moment : SessionMoment) (requestId : String)
    (decidedAt : DateTime) : Prop :=
  ∃ approvingUserId decision page,
    moment.label = .decide requestId approvingUserId decision decidedAt ∧
    moment.answer = .decided page

/-- The step is the approval of the request by its owner, in time, with the
grant code of its record. -/
def Approves (moment : SessionMoment) (request : ScanApprovalRecord) : Prop :=
  ∃ elevatedConsent assetId decidedAt page,
    moment.label = .decide request.requestId request.subjectUserId
      (.approve elevatedConsent request.grantCode assetId) decidedAt ∧
    moment.answer = .decided page ∧ decidedAt ≤ request.expiresAt

/-- The step verifies, for an exchange of this purpose, a token of this user
that is valid at its clock reading. -/
def Verifies (env : ScanTokenEnvironment) (moment : SessionMoment)
    (purpose : ExchangePurpose) (requestId subjectUserId : String) : Prop :=
  ∃ token serverOrigin receivedAt record,
    moment.label =
      .verifyToken purpose token requestId serverOrigin receivedAt ∧
    moment.answer = .verified ∧
    ValidToken env moment.before.tokens token serverOrigin receivedAt record ∧
    record.subjectUserId = subjectUserId

/-- The step is an exchange for a request that its owner approved, made with a
valid token of that owner. -/
structure ProperlyGranted (env : ScanTokenEnvironment)
    (earlier : List SessionMoment) (moment : SessionMoment) (code : String)
    (request : ScanApprovalRecord) : Prop where
  exchange : ∃ index, moment.label = .exchange index
  stored : approvalWithId request.requestId moment.before.approvals =
    some request
  code : request.grantCode = some code
  approved : ∃ approval ∈ earlier, Approves approval request
  token : ∃ verification ∈ earlier,
    Verifies env verification .grant request.requestId request.subjectUserId

/-- The safety of the approval protocol. -/
structure ApprovalSafe (env : ScanTokenEnvironment)
    (trace : List SessionMoment) : Prop where
  /-- At most three runs of a token are ever used. -/
  runs : ∀ tokenRef, trace.countP (startsRun tokenRef) ≤ 3
  /-- At most three requests are ever registered with a token. -/
  registrations : ∀ tokenRef, trace.countP (registersRun tokenRef) ≤ 3
  /-- A request is decided at most once. -/
  once : ∀ requestId, trace.countP (decidesRequest requestId) ≤ 1
  /-- A decided request never changes. -/
  absorbing : ∀ moment ∈ trace, ∀ requestId record,
    approvalWithId requestId moment.before.approvals = some record →
    record.state ≠ .pending →
    approvalWithId requestId moment.after.approvals = some record
  /-- No decision is recorded whose call read the clock past the expiry, or
  whose user is not the owner. -/
  inTime : ∀ moment ∈ trace, ∀ requestId approvingUserId decision decidedAt page,
    moment.label = .decide requestId approvingUserId decision decidedAt →
    moment.answer = .decided page →
    ∃ record, DecidedNow moment.before.approvals requestId approvingUserId
      decision decidedAt record moment.after.approvals
  /-- Once EXPIRED is reported, a call that reads the clock no earlier reports
  EXPIRED, unless a decision was recorded in between whose call had read the
  clock before. -/
  expired : ∀ earlier first between second later requestId firstAt secondAt
    state,
    trace = earlier ++ first :: (between ++ second :: later) →
    Reports first requestId firstAt .expired →
    Reports second requestId secondAt state → firstAt ≤ secondAt →
    state = .expired ∨
      ∃ decision ∈ between, ∃ decidedAt < firstAt,
        DecidesAt decision requestId decidedAt
  /-- A grant code is only ever revealed by a proper exchange. -/
  granted : ∀ earlier moment later code,
    trace = earlier ++ moment :: later →
    moment.answer.grantCode = some code →
    ∃ request, ProperlyGranted env earlier moment code request

/-! ## The counts -/

/-- What a run has counted. -/
structure Counted (trace : List SessionMoment) (state : SessionState) :
    Prop where
  runs : ∀ tokenRef,
    trace.countP (startsRun tokenRef) = runsOf state.tokens tokenRef
  bound : ∀ tokenRef, runsOf state.tokens tokenRef ≤ maxScanTokenRuns
  registrations : ∀ tokenRef,
    trace.countP (registersRun tokenRef) +
        state.registering.countP (fun registration =>
          decide (registration.tokenRef = tokenRef)) ≤
      trace.countP (startsRun tokenRef)
  decisions : ∀ requestId,
    trace.countP (decidesRequest requestId) ≤
      (approvalWithId requestId state.approvals).elim 0 fun record =>
        if record.state = .pending then 0 else 1

theorem countP_eraseIdx {α : Type} {items : List α} {index : Nat} {item : α}
    (present : items[index]? = some item) (test : α → Bool) :
    (items.eraseIdx index).countP test + (if test item then 1 else 0) =
      items.countP test := by
  obtain ⟨inside, rfl⟩ := List.getElem?_eq_some_iff.mp present
  rw [← List.Perm.countP_eq test (List.getElem_cons_eraseIdx_perm inside),
    List.countP_cons]

theorem countP_snoc {α : Type} (test : α → Bool) (items : List α) (last : α) :
    (items ++ [last]).countP test =
      items.countP test + if test last then 1 else 0 := by
  rw [List.countP_append, List.countP_singleton]

variable {earlier : List SessionMoment} {state after : SessionState}
  {moment : SessionMoment}

/-- A step that starts, registers and decides nothing leaves the counts. -/
theorem Counted.quiet (counted : Counted earlier state)
    (startsNone : ∀ tokenRef, startsRun tokenRef moment = false)
    (registersNone : ∀ tokenRef, registersRun tokenRef moment = false)
    (decidesNone : ∀ requestId, decidesRequest requestId moment = false)
    (runs : ∀ tokenRef,
      runsOf after.tokens tokenRef = runsOf state.tokens tokenRef)
    (approvals : after.approvals = state.approvals)
    (registering : after.registering.Sublist state.registering) :
    Counted (earlier ++ [moment]) after := by
  constructor
  case runs =>
    intro tokenRef
    rw [countP_snoc, startsNone, runs]
    exact counted.runs tokenRef
  case bound =>
    intro tokenRef
    rw [runs]
    exact counted.bound tokenRef
  case registrations =>
    intro tokenRef
    rw [countP_snoc, countP_snoc, registersNone,
      startsNone]
    exact Nat.le_trans
      (Nat.add_le_add_left (registering.countP_le) _)
      (counted.registrations tokenRef)
  case decisions =>
    intro requestId
    rw [countP_snoc, decidesNone, approvals]
    exact counted.decisions requestId

/-- A started run is counted on its token, where there was one left. -/
theorem Counted.started (counted : Counted earlier state)
    {record : ScanTokenRecord} {registration : Registration}
    (stored : tokenWithRef record.tokenRef state.tokens = some record)
    (left : record.usedRuns < maxScanTokenRuns)
    (names : registration.tokenRef = record.tokenRef)
    (answered : moment.answer = .started record.tokenRef) :
    Counted (earlier ++ [moment]) { state with
      tokens := changeToken record.tokenRef ScanTokenRecord.started
        state.tokens
      registering := state.registering ++ [registration] } := by
  have starts : ∀ tokenRef, startsRun tokenRef moment =
      decide (record.tokenRef = tokenRef) := by
    intro tokenRef
    unfold startsRun
    rw [answered]
  have registersNone : ∀ tokenRef, registersRun tokenRef moment = false := by
    intro tokenRef
    unfold registersRun
    rw [answered]
    cases moment.label <;> rfl
  have decidesNone : ∀ requestId, decidesRequest requestId moment = false := by
    intro requestId
    unfold decidesRequest
    rw [answered]
    cases moment.label <;> rfl
  constructor
  case runs =>
    intro tokenRef
    rw [countP_snoc, starts, runsOf_started stored, counted.runs]
    simp only [decide_eq_true_eq, @eq_comm _ record.tokenRef]
  case bound =>
    intro tokenRef
    rw [runsOf_started stored]
    split
    · next same =>
        have used : runsOf state.tokens tokenRef = record.usedRuns := by
          rw [same, runsOf, stored]
          rfl
        omega
    · exact counted.bound tokenRef
  case registrations =>
    intro tokenRef
    have before := counted.registrations tokenRef
    rw [countP_snoc, countP_snoc, countP_snoc, registersNone, starts, names]
    simp only [Bool.false_eq_true, if_false]
    omega
  case decisions =>
    intro requestId
    rw [countP_snoc, decidesNone]
    exact counted.decisions requestId

variable {record : ScanApprovalRecord} {requestId : String}
  {approvals : List ScanApprovalRecord}

/-- A registration uses up one that was on its way. -/
theorem Counted.registered (counted : Counted earlier state) {index : Nat}
    {registration : Registration} {session : RegisteredScanSession}
    (waiting : state.registering[index]? = some registration)
    (absent : approvalWithId requestId state.approvals = none)
    (written : ∀ wanted, approvalWithId wanted approvals =
      if wanted = requestId then some record
      else approvalWithId wanted state.approvals) :
    Counted (earlier ++
        [⟨state, .request index requestId, .registered session, after⟩])
      { state with
        approvals := approvals
        registering := state.registering.eraseIdx index } := by
  constructor
  case runs =>
    intro tokenRef
    rw [countP_snoc]
    exact counted.runs tokenRef
  case bound => exact counted.bound
  case registrations =>
    intro tokenRef
    have before := counted.registrations tokenRef
    rw [← countP_eraseIdx waiting] at before
    rw [countP_snoc, countP_snoc]
    simp only [startsRun, registersRun, waiting, Option.any_some,
      Bool.false_eq_true, if_false, Nat.add_zero]
    omega
  case decisions =>
    intro wanted
    have before := counted.decisions wanted
    rw [countP_snoc, written]
    by_cases same : wanted = requestId
    · subst same
      rw [absent] at before
      rw [if_pos rfl]
      exact Nat.le_trans before (Nat.zero_le _)
    · rw [if_neg same]
      exact before

variable {approvingUserId : String} {decision : Decision}
  {decidedAt : DateTime} {page : ApprovalPage}

/-- A decision is the first one of its request. -/
theorem Counted.decided (counted : Counted earlier state)
    (now : DecidedNow state.approvals requestId approvingUserId decision
      decidedAt record approvals) :
    Counted (earlier ++ [⟨state,
        .decide requestId approvingUserId decision decidedAt, .decided page,
        after⟩]) { state with approvals := approvals } := by
  constructor
  case runs =>
    intro tokenRef
    rw [countP_snoc]
    exact counted.runs tokenRef
  case bound => exact counted.bound
  case registrations =>
    intro tokenRef
    rw [countP_snoc, countP_snoc]
    exact counted.registrations tokenRef
  case decisions =>
    intro wanted
    have before := counted.decisions wanted
    rw [countP_snoc, now.written]
    simp only [decidesRequest, decide_eq_true_eq]
    by_cases same : wanted = requestId
    · subst same
      rw [now.stored, Option.elim_some, now.undecided] at before
      simp only [if_true, Option.elim_some,
        decided_not_pending record decidedAt decision, if_false]
      exact Nat.add_le_add_right before 1
    · rw [if_neg (Ne.symm same), if_neg same]
      exact before

variable {before : SessionState} {label : SessionLabel}
  {answer : SessionAnswer}

/-- The step lemma of the counts. -/
theorem Counted.step (counted : Counted earlier before)
    (step : SessionStep env before label answer after) :
    Counted (earlier ++ [⟨before, label, answer, after⟩]) after := by
  cases step with
  | passed answered runs approvals registering authorizing =>
      refine counted.quiet ?_ ?_ ?_ runs approvals registering
      · intro tokenRef
        rcases answered with rfl | rfl <;> rfl
      · intro tokenRef
        rcases answered with rfl | rfl <;> cases label <;> rfl
      · intro requestId
        rcases answered with rfl | rfl <;> cases label <;> rfl
  | issued runs =>
      refine counted.quiet (fun _ => rfl) ?_ ?_ runs rfl (.refl _)
      · intro tokenRef
        cases label <;> rfl
      · intro requestId
        cases label <;> rfl
  | started valid left names =>
      exact counted.started valid.stored left names rfl
  | registered waiting absent pending written =>
      exact counted.registered waiting absent written
  | decided now => exact counted.decided now
  | verified valid carries runs =>
      exact counted.quiet (fun _ => rfl) (fun _ => rfl) (fun _ => rfl) runs rfl
        (.refl _)
  | polled | viewed | granted | accepted =>
      exact counted.quiet (fun _ => rfl) (fun _ => rfl) (fun _ => rfl)
        (fun _ => rfl) rfl (.refl _)

theorem emptySessions_counted (now : DateTime) :
    Counted [] (emptySessions now) where
  runs := fun _ => rfl
  bound := fun _ => Nat.zero_le _
  registrations := fun _ => Nat.le_refl 0
  decisions := fun _ => Nat.zero_le _

/-! ## The grounds of approvals and exchanges -/

/-- What stands behind each approval and each exchange on its way. -/
structure Sound (env : ScanTokenEnvironment) (trace : List SessionMoment)
    (state : SessionState) : Prop where
  /-- EXPIRED is not a stored state. -/
  stored : ∀ requestId record,
    approvalWithId requestId state.approvals = some record →
    record.state ≠ .expired
  approvals : ∀ requestId record,
    approvalWithId requestId state.approvals = some record →
    record.state = .approved → ∃ approval ∈ trace, Approves approval record
  authorizations : ∀ authorization ∈ state.authorizing,
    ∃ verification ∈ trace,
      Verifies env verification authorization.purpose authorization.requestId
        authorization.verified.subjectUserId

theorem Sound.quiet (sound : Sound env earlier state) (moment : SessionMoment)
    (approvals : after.approvals = state.approvals)
    (authorizing : after.authorizing.Sublist state.authorizing) :
    Sound env (earlier ++ [moment]) after := by
  constructor
  case stored =>
    rw [approvals]
    exact sound.stored
  case approvals =>
    rw [approvals]
    intro requestId record found approved
    obtain ⟨approval, member, approves⟩ :=
      sound.approvals requestId record found approved
    exact ⟨approval, List.mem_append_left _ member, approves⟩
  case authorizations =>
    intro authorization member
    obtain ⟨verification, inTrace, verifies⟩ :=
      sound.authorizations authorization (authorizing.subset member)
    exact ⟨verification, List.mem_append_left _ inTrace, verifies⟩

/-- A step that writes one request. -/
theorem Sound.written (sound : Sound env earlier state)
    (moment : SessionMoment)
    (written : ∀ wanted, approvalWithId wanted after.approvals =
      if wanted = requestId then some record
      else approvalWithId wanted state.approvals)
    (authorizing : after.authorizing = state.authorizing)
    (legal : record.state ≠ .expired)
    (approves : record.state = .approved → Approves moment record) :
    Sound env (earlier ++ [moment]) after := by
  have before : Sound env (earlier ++ [moment])
      { after with approvals := state.approvals } :=
    sound.quiet moment rfl (by rw [authorizing])
  constructor
  case stored =>
    intro wanted other found
    rw [written] at found
    split at found
    · cases found
      exact legal
    · exact sound.stored wanted other found
  case approvals =>
    intro wanted other found approved
    rw [written] at found
    split at found
    · cases found
      exact ⟨moment, List.mem_append_right _ List.mem_cons_self,
        approves approved⟩
    · exact before.approvals wanted other found approved
  case authorizations => exact before.authorizations

theorem DecidedNow.approves
    (now : DecidedNow state.approvals requestId approvingUserId decision
      decidedAt record approvals)
    (approved : (record.decided decidedAt decision).state = .approved) :
    Approves ⟨state, .decide requestId approvingUserId decision decidedAt,
        .decided page, after⟩ (record.decided decidedAt decision) := by
  cases decision with
  | decline => cases approved
  | approve elevatedConsent grantCode assetId =>
      cases now.owner
      cases approvalWithId_id now.stored
      exact ⟨elevatedConsent, assetId, decidedAt, page, rfl, rfl, now.inTime⟩

/-- The step lemma of the grounds. -/
theorem Sound.step (sound : Sound env earlier before)
    (step : SessionStep env before label answer after) :
    Sound env (earlier ++ [⟨before, label, answer, after⟩]) after := by
  cases step with
  | passed answered runs approvals registering authorizing =>
      exact sound.quiet _ approvals authorizing
  | issued runs => exact sound.quiet _ rfl (.refl _)
  | started valid left names => exact sound.quiet _ rfl (.refl _)
  | registered waiting absent pending written =>
      refine sound.written _ written rfl ?_ ?_
      · rw [pending]
        nofun
      · intro approved
        rw [pending] at approved
        cases approved
  | @decided requestId approvingUserId decision decidedAt record approvals page
      now =>
      refine sound.written _ now.written rfl ?_ now.approves
      cases decision <;> nofun
  | polled stored state silent => exact sound.quiet _ rfl (.refl _)
  | viewed stored state silent => exact sound.quiet _ rfl (.refl _)
  | @verified token serverOrigin record authorization tokens valid carries
      runs =>
      have kept : Sound env (earlier ++ [⟨before,
          .verifyToken authorization.purpose token authorization.requestId
            serverOrigin authorization.receivedAt, .verified,
          { before with
            tokens := tokens
            authorizing := before.authorizing ++ [authorization] }⟩]) before :=
        sound.quiet _ rfl (.refl _)
      refine ⟨kept.stored, kept.approvals, ?_⟩
      intro other member
      rcases List.mem_append.mp member with earlier | last
      · exact kept.authorizations other earlier
      · cases List.mem_singleton.mp last
        refine ⟨_, List.mem_append_right _ List.mem_cons_self, token,
          serverOrigin, authorization.receivedAt, record, rfl, rfl, valid, ?_⟩
        rw [carries]
        rfl
  | granted waiting purpose stored owner approved code =>
      exact sound.quiet _ rfl (List.eraseIdx_sublist _ _)
  | accepted => exact sound.quiet _ rfl (List.eraseIdx_sublist _ _)

theorem emptySessions_sound (now : DateTime) :
    Sound env [] (emptySessions now) where
  stored := by
    intro requestId record found
    cases found
  approvals := by
    intro requestId record found
    cases found
  authorizations := by
    intro authorization member
    cases member

/-! ## One step -/

/-- A decided request never changes. -/
theorem decided_stays (step : SessionStep env before label answer after)
    (found : approvalWithId requestId before.approvals = some record)
    (final : record.state ≠ .pending) :
    approvalWithId requestId after.approvals = some record := by
  cases step with
  | passed answered runs approvals registering authorizing =>
      rw [approvals]
      exact found
  | registered waiting absent pending written =>
      rw [written]
      split
      · next same =>
          rw [same, absent] at found
          cases found
      · exact found
  | decided now =>
      rw [now.written]
      split
      · next same =>
          rw [same, now.stored] at found
          cases found
          exact absurd now.undecided final
      · exact found
  | issued | started | polled | viewed | verified | granted | accepted =>
      exact found

/-- A pending request stays as it is, or is decided in time. -/
theorem pending_until_decided
    (step : SessionStep env before label answer after)
    (found : approvalWithId requestId before.approvals = some record) :
    approvalWithId requestId after.approvals = some record ∨
      ∃ decidedAt ≤ record.expiresAt,
        DecidesAt ⟨before, label, answer, after⟩ requestId decidedAt := by
  cases step with
  | passed answered runs approvals registering authorizing =>
      rw [approvals]
      exact .inl found
  | registered waiting absent pending written =>
      left
      rw [written]
      split
      · next same =>
          rw [same, absent] at found
          cases found
      · exact found
  | @decided decidedId approvingUserId decision decidedAt other approvals page
      now =>
      by_cases same : requestId = decidedId
      · subst same
        cases found.symm.trans now.stored
        exact .inr ⟨decidedAt, now.inTime, approvingUserId, decision, page,
          rfl, rfl⟩
      · left
        rw [now.written, if_neg same]
        exact found
  | issued | started | polled | viewed | verified | granted | accepted =>
      exact .inl found

/-- A pending request is unchanged at the end of a run, or was decided in
time by one of its steps. -/
theorem pending_until_decided_run {guard : SessionState → SessionLabel → Prop}
    {start final : SessionState} {trace : List SessionMoment}
    (run : (sessionMachine env).Run guard start trace final)
    (found : approvalWithId requestId start.approvals = some record) :
    approvalWithId requestId final.approvals = some record ∨
      ∃ decision ∈ trace, ∃ decidedAt ≤ record.expiresAt,
        DecidesAt decision requestId decidedAt := by
  induction run with
  | refl => exact .inl found
  | step _ _ made ih =>
      rcases ih with still | ⟨decision, member, decided⟩
      · rcases pending_until_decided (session_step_cases made) still with
          same | decided
        · exact .inl same
        · exact .inr ⟨_, List.mem_append_right _ List.mem_cons_self, decided⟩
      · exact .inr ⟨decision, List.mem_append_left _ member, decided⟩

/-- A report shows the effective state of the stored request, and changes
nothing. -/
theorem Reports.effective {receivedAt : DateTime} {state : ScanApprovalState}
    (reports : Reports moment requestId receivedAt state)
    (step : SessionStep env moment.before moment.label moment.answer
      moment.after) :
    ∃ record,
      approvalWithId requestId moment.before.approvals = some record ∧
      effectiveState record receivedAt = state ∧
      moment.after = moment.before := by
  obtain ⟨before, label, answer, after⟩ := moment
  rcases reports with ⟨rfl, view, rfl, rfl⟩ |
    ⟨viewerUserId, rfl, view, rfl, rfl⟩
  · cases step with
    | passed answered => rcases answered with same | same <;> cases same
    | polled stored state silent => exact ⟨_, stored, state.symm, rfl⟩
  · cases step with
    | passed answered => rcases answered with same | same <;> cases same
    | viewed stored state silent => exact ⟨_, stored, state.symm, rfl⟩

theorem decided_now (step : SessionStep env before
      (.decide requestId approvingUserId decision decidedAt) (.decided page)
      after) :
    ∃ record, DecidedNow before.approvals requestId approvingUserId decision
      decidedAt record after.approvals := by
  cases step with
  | passed answered => rcases answered with same | same <;> cases same
  | decided now => exact ⟨_, now⟩

/-- A grant code leaves the service in a grant only. -/
theorem properly_granted (sound : Sound env earlier moment.before)
    (step : SessionStep env moment.before moment.label moment.answer
      moment.after) {code : String}
    (revealed : moment.answer.grantCode = some code) :
    ∃ request, ProperlyGranted env earlier moment code request := by
  obtain ⟨before, label, answer, after⟩ := moment
  dsimp only at step
  cases step with
  | passed answered =>
      rcases answered with rfl | rfl <;> cases revealed
  | polled stored state silent => cases silent.symm.trans revealed
  | viewed stored state silent => cases silent.symm.trans revealed
  | @granted index authorization record scan waiting purpose stored owner
      approved code =>
      have id := approvalWithId_id stored
      obtain ⟨verification, member, verifies⟩ := sound.authorizations
        authorization (List.mem_of_getElem? waiting)
      rw [purpose, ← owner, ← id] at verifies
      exact ⟨record,
        { exchange := ⟨index, rfl⟩
          stored := id ▸ stored
          code := code.symm.trans revealed
          approved := sound.approvals _ record stored approved
          token := ⟨verification, member, verifies⟩ }⟩
  | issued | started | registered | decided | verified | accepted =>
      cases revealed

/-! ## Every order of the calls -/

/-- The approval protocol is safe, in every order of the calls and with every
clock reading. -/
theorem approval_safe {now : DateTime} {trace : List SessionMoment}
    {final : SessionState}
    (run : (sessionMachine env).Run Machine.unguarded (emptySessions now) trace
      final) : ApprovalSafe env trace := by
  have counted : Counted trace final := run.traced Counted
    (emptySessions_counted now)
    fun _ _ _ _ _ counted _ made => counted.step (session_step_cases made)
  have started : ∀ tokenRef, trace.countP (startsRun tokenRef) ≤ 3 := by
    intro tokenRef
    rw [counted.runs]
    exact counted.bound tokenRef
  have soundBefore : ∀ {earlier later : List SessionMoment}
      {moment : SessionMoment}, trace = earlier ++ moment :: later →
      Sound env earlier moment.before := by
    rintro earlier later moment rfl
    exact run.around.1.traced (Sound env) (emptySessions_sound now)
      fun _ _ _ _ _ sound _ made => sound.step (session_step_cases made)
  constructor
  case runs => exact started
  case registrations =>
    intro tokenRef
    exact Nat.le_trans (Nat.le_of_add_right_le (counted.registrations tokenRef))
      (started tokenRef)
  case once =>
    intro requestId
    refine Nat.le_trans (counted.decisions requestId) ?_
    cases approvalWithId requestId final.approvals with
    | none => exact Nat.zero_le 1
    | some record =>
        rw [Option.elim_some]
        split <;> omega
  case absorbing =>
    intro moment member requestId record found final
    obtain ⟨earlier, later, rfl⟩ := List.append_of_mem member
    exact decided_stays (session_step_cases run.around.2.2.1) found final
  case inTime =>
    rintro ⟨before, label, answer, after⟩ member requestId approvingUserId
      decision decidedAt page rfl rfl
    obtain ⟨earlier, later, rfl⟩ := List.append_of_mem member
    exact decided_now (session_step_cases run.around.2.2.1)
  case expired =>
    rintro earlier first between second later requestId firstAt secondAt state
      rfl firstReports secondReports inOrder
    obtain ⟨-, -, firstMade, rest⟩ := run.around
    obtain ⟨middle, -, secondMade, -⟩ := rest.around
    obtain ⟨record, found, effective, same⟩ :=
      firstReports.effective (session_step_cases firstMade)
    obtain ⟨pending, lapsed⟩ := (effectiveState_eq_expired
      ((soundBefore rfl).stored requestId record found)).mp effective
    rw [← same] at found
    rcases pending_until_decided_run middle found with
      still | ⟨decision, member, decidedAt, inTime, decides⟩
    · obtain ⟨other, foundThen, shown, -⟩ :=
        secondReports.effective (session_step_cases secondMade)
      cases still.symm.trans foundThen
      left
      rw [← shown]
      unfold effectiveState
      exact if_pos ⟨pending, Int.lt_of_lt_of_le lapsed inOrder⟩
    · exact .inr ⟨decision, member, decidedAt,
        Int.lt_of_le_of_lt inTime lapsed, decides⟩
  case granted =>
    rintro earlier moment later code rfl revealed
    exact properly_granted (soundBefore rfl)
      (session_step_cases run.around.2.2.1) revealed

/-! ## A granted scan, and an expired request that is approved -/

def exampleEnvironment : ScanTokenEnvironment :=
  { keyedHash := id
    hashKeyVersion := "v1" }

/-- A registration of `PC-1` with a new token, at the time 0. -/
def registrationSteps : List SessionLabel :=
  [.issueToken "organization" "user" "https://host" 0 "0123456789ab" "secret",
    .startRun "0123456789ab.secret" "PC-1" "https://host" 0,
    .request 0 "request"]

/-- The approval of that request, after a reading of the clock at 0. -/
def approvalStep : SessionLabel :=
  .decide "request" "user" (.approve true (some "code") none) 0

/-- A scan whose code is granted. -/
theorem granted_scan_is_safe :
    ∃ trace final,
      (sessionMachine exampleEnvironment).Run Machine.unguarded
        (emptySessions 0) trace final ∧
      (∃ moment ∈ trace, moment.answer.grantCode = some "code") ∧
      ApprovalSafe exampleEnvironment trace := by
  have carried : ((sessionMachine exampleEnvironment).replay Machine.unguarded
      (emptySessions 0) (registrationSteps ++
        [.verifyToken .grant "0123456789ab.secret" "request" "https://host" 0,
          approvalStep, .poll "request" 0, .exchange 0])).map
      (fun (trace, _) =>
        decide (∃ moment ∈ trace, moment.answer.grantCode = some "code")) =
      some true := by
    decide
  obtain ⟨trace, final, run, revealed⟩ := Machine.exists_run_of_replay carried
  exact ⟨trace, final, run, of_decide_eq_true revealed, approval_safe run⟩

/-- The state that a poll of the request reports at this time. -/
def polledState (moment : SessionMoment) : Option ScanApprovalState :=
  match moment.answer with
  | .polled view => some view.state
  | _ => none

theorem reports_of_polledState {receivedAt : DateTime}
    {state : ScanApprovalState}
    (label : moment.label = .poll requestId receivedAt)
    (polled : polledState moment = some state) :
    Reports moment requestId receivedAt state := by
  unfold polledState at polled
  split at polled
  · next view answered =>
      exact .inl ⟨label, view, answered, Option.some.inj polled⟩
  · cases polled

/-- A request that was reported as EXPIRED is approved afterwards, by a
decision whose call had read the clock before the expiry. -/
theorem expired_request_is_approved :
    ∃ moments final first second receivedAt,
      (sessionMachine exampleEnvironment).Run Machine.unguarded
        (emptySessions 0) moments final ∧
      moments[4]? = some first ∧ Reports first "request" receivedAt .expired ∧
      moments[6]? = some second ∧
      Reports second "request" receivedAt .approved := by
  have carried : ((sessionMachine exampleEnvironment).replay Machine.unguarded
      (emptySessions 0) (registrationSteps ++
        [.tick 600000001, .poll "request" 600000001, approvalStep,
          .poll "request" 600000001])).map
      (fun (moments, _) =>
        (moments[4]?.map fun moment => (moment.label, polledState moment),
          moments[6]?.map fun moment => (moment.label, polledState moment))) =
      some (some (.poll "request" 600000001, some .expired),
        some (.poll "request" 600000001, some .approved)) := by
    decide
  obtain ⟨moments, final, run, seen⟩ := Machine.exists_run_of_replay carried
  obtain ⟨early, late⟩ := Prod.mk.inj seen
  obtain ⟨first, firstAt, firstSeen⟩ := Option.map_eq_some_iff.mp early
  obtain ⟨second, secondAt, secondSeen⟩ := Option.map_eq_some_iff.mp late
  obtain ⟨firstLabel, firstState⟩ := Prod.mk.inj firstSeen
  obtain ⟨secondLabel, secondState⟩ := Prod.mk.inj secondSeen
  exact ⟨moments, final, first, second, 600000001, run, firstAt,
    reports_of_polledState firstLabel firstState, secondAt,
    reports_of_polledState secondLabel secondState⟩

end SecAI.Approval
