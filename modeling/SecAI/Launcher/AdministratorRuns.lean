/-
Module: SecAI.Launcher.AdministratorRuns
Purpose: The administrator run that the launcher reports beside a result: in a
  run whose scans finish while no administrator run is shown, it was requested
  for that result and started with its criteria.
Trusted boundary: as in the launcher's steps
Main exports:
  FinishesUnattended, administrator_run_is_of_result
-/
import SecAI.Launcher.JobSoundness

namespace SecAI.Launcher

open Interleaving

variable {Criteria : Type} {compare : Compare Criteria}

/-- A scan that finishes does so while no administrator run is shown. -/
def FinishesUnattended (state : LauncherState Criteria)
    (label : LauncherLabel Criteria) : Prop :=
  (finishingAt state label).all (fun _ =>
    decide (state.bridge.administratorStatus = .notRequested)) = true

/-- It does so, and it makes its comparison. -/
def FinishesAlone (compare : Compare Criteria) (state : LauncherState Criteria)
    (label : LauncherLabel Criteria) : Prop :=
  FinishesUnattended state label ∧ ComparisonMade compare state label

instance (state : LauncherState Criteria) (label : LauncherLabel Criteria) :
    Decidable (FinishesUnattended state label) :=
  inferInstanceAs (Decidable (_ = true))

instance (state : LauncherState Criteria) (label : LauncherLabel Criteria) :
    Decidable (FinishesAlone compare state label) :=
  inferInstanceAs (Decidable (_ ∧ _))

variable {index : Nat} {worker : Worker}

theorem FinishesUnattended.of_settle {state : LauncherState Criteria}
    {token : List Char} {report : ScanReport}
    (sound : FinishesUnattended state (.work index (.settle token)))
    (found : state.workers[index]? = some worker)
    (phase : worker.phase = .finishing report) :
    state.bridge.administratorStatus = .notRequested := by
  rw [FinishesUnattended, finishingAt_settle found phase] at sound
  simpa using sound

/-! ## What a worker leaves alone -/

/-- A record with the same administrator fields and the same criteria. -/
structure SameAdministrator (before after : BridgeState Criteria) : Prop where
  status : after.administratorStatus = before.administratorStatus
  token : after.resultToken = before.resultToken
  criteria : after.criteria = before.criteria

theorem SameAdministrator.refl (bridge : BridgeState Criteria) :
    SameAdministrator bridge bridge :=
  ⟨rfl, rfl, rfl⟩

variable {bridge : BridgeState Criteria}

variable {phase : WorkerPhase}

theorem WorkerEffect.sameAdministrator {after : BridgeState Criteria}
    {move : WorkerMove}
    (effect : WorkerEffect compare bridge worker move after phase) :
    SameAdministrator bridge after := by
  cases effect with
  | advanced _ _ | stopped _ | failed _ | exited _ => exact ⟨rfl, rfl, rfl⟩
  | reported _ _ _ =>
      unfold reportProgress
      split
      case isTrue => exact .refl _
      case isFalse =>
        split
        case isTrue => exact .refl _
        case isFalse => exact ⟨rfl, rfl, rfl⟩
  | @finished _ report _ =>
      unfold finishScan
      cases comparisonOf compare bridge report _ <;> exact ⟨rfl, rfl, rfl⟩

/-- Only a scan that finishes makes a record COMPLETED. -/
theorem JobInvariant.completed_of_moved {state : LauncherState Criteria}
    (holds : JobInvariant state) {move : WorkerMove}
    (found : state.workers[index]? = some worker)
    (moved : moveWorker compare state.bridge worker move =
      some (bridge, phase)) (completed : bridge.status = .completed) :
    (state.bridge.status = .completed ∧
        bridge.attempt = state.bridge.attempt) ∨
      ∃ token report, move = .settle token ∧
        worker.phase = .finishing report := by
  obtain ⟨rfl, workers, some_worker⟩ := holds.moves_newest found moved
  have shown := holds.shows some_worker
  cases moveWorker_effect (holds.attempt_eq some_worker).1 moved with
  | advanced _ _ | exited _ => exact .inl ⟨completed, rfl⟩
  | @reported step message percent active _ uncancelled =>
      have running := shown.active active
      rw [uncancelled] at running
      cases (reportProgress_status state.bridge worker step percent message
        running).symm.trans completed
  | stopped _ | failed _ => cases completed
  | finished finishing => exact .inr ⟨_, _, rfl, finishing⟩

/-! ## The invariant -/

/-- The newest call is the one that the record shows. -/
structure ShowsCall (bridge : BridgeState Criteria)
    (call : AdministratorCall Criteria) : Prop where
  isOpen : call.outcome = none ↔ bridge.administratorStatus = .requestingUac
  token : bridge.administratorStatus ≠ .notRequested →
    ∀ token ∈ bridge.resultToken, call.token = token
  current : bridge.status = .completed →
    bridge.administratorStatus ≠ .notRequested →
    call.attempt = bridge.attempt ∧
      ∀ criteria, call.startedWith = some criteria →
        criteria = bridge.criteria

/-- What every state of a run satisfies whose scans finish alone. -/
structure AdministratorInvariant (state : LauncherState Criteria) : Prop where
  free : state.bridge.administratorStatus = .notRequested →
    state.bridge.resultToken = none
  called : state.bridge.administratorStatus ≠ .notRequested →
    state.calls ≠ []
  closed : ∀ call ∈ state.calls.tail, call.outcome ≠ none
  newest : ∀ call ∈ state.calls.head?, ShowsCall state.bridge call

theorem launched_administratorInvariant :
    AdministratorInvariant (launched Criteria) where
  free := fun _ => rfl
  called := fun requested => (requested rfl).elim
  closed := nofun
  newest := nofun

namespace AdministratorInvariant

variable {state : LauncherState Criteria}

/-- A record with the same administrator fields keeps the invariant when it is
COMPLETED only as before. -/
theorem of_same (holds : AdministratorInvariant state) (workers : List Worker)
    (status : bridge.administratorStatus = state.bridge.administratorStatus)
    (token : bridge.resultToken = state.bridge.resultToken)
    (current : bridge.status = .completed →
      bridge.administratorStatus ≠ .notRequested →
      state.bridge.status = .completed ∧
        bridge.attempt = state.bridge.attempt ∧
        bridge.criteria = state.bridge.criteria) :
    AdministratorInvariant { state with
      bridge := bridge
      workers := workers } where
  free := by
    rw [status, token]
    exact holds.free
  called := by
    rw [status]
    exact holds.called
  closed := holds.closed
  newest := by
    intro call first
    have shown := holds.newest call first
    exact
      { isOpen := by rw [status]; exact shown.isOpen
        token := by rw [status, token]; exact shown.token
        current := by
          intro completed requested
          obtain ⟨before, attempt, criteria⟩ := current completed requested
          rw [attempt, criteria]
          exact shown.current before (status ▸ requested) }

variable {call : AdministratorCall Criteria}

theorem index_eq_zero (holds : AdministratorInvariant state)
    (found : state.calls[index]? = some call) (isOpen : call.outcome = none) :
    index = 0 ∧ (∃ calls, state.calls = call :: calls) ∧
      state.bridge.administratorStatus = .requestingUac := by
  cases some_call : state.calls with
  | nil => rw [some_call] at found; cases found
  | cons newest calls =>
      rw [some_call] at found
      cases index with
      | zero =>
          cases found
          refine ⟨rfl, ⟨calls, rfl⟩, ?_⟩
          exact (holds.newest call (by rw [some_call]; rfl)).isOpen.mp isOpen
      | succ index =>
          rw [List.getElem?_cons_succ] at found
          exact (holds.closed call
            (by rw [some_call]; exact List.mem_of_getElem? found) isOpen).elim

theorem all_closed (holds : AdministratorInvariant state)
    (waiting : state.bridge.administratorStatus ≠ .requestingUac) :
    ∀ call ∈ state.calls, call.outcome ≠ none := by
  intro call member isOpen
  obtain ⟨index, found⟩ := List.mem_iff_getElem?.mp member
  exact waiting (holds.index_eq_zero found isOpen).2.2

/-- A run is requested for a completed attempt. -/
theorem requested (holds : AdministratorInvariant state)
    (free : state.bridge.administratorStatus ∈
      [.notRequested, .cancelledOrDenied, .failed])
    (selected : List (List Char)) (token : List Char) :
    AdministratorInvariant { state with
      bridge := state.bridge.administered .requestingUac selected (some token)
      calls := ⟨state.bridge.attempt, selected, token, none, none⟩ ::
        state.calls } where
  free := nofun
  called := nofun
  closed := by
    apply holds.all_closed
    intro waiting
    rw [waiting] at free
    exact absurd free (by decide)
  newest := by
    intro call first
    cases first
    exact
      { isOpen := ⟨fun _ => rfl, fun _ => rfl⟩
        token := by
          intro _ other same
          cases same
          rfl
        current := fun _ _ => ⟨rfl, nofun⟩ }

/-- The process is started with the criteria of the record. -/
theorem elevated (holds : AdministratorInvariant state)
    (found : state.calls[index]? = some call) (isOpen : call.outcome = none) :
    AdministratorInvariant { state with
      calls := state.calls.set index
        { call with startedWith := some state.bridge.criteria } } := by
  obtain ⟨rfl, ⟨calls, some_call⟩, _⟩ := holds.index_eq_zero found isOpen
  have shown := holds.newest call (by rw [some_call]; rfl)
  rw [some_call, List.set_cons_zero]
  exact
    { free := holds.free
      called := nofun
      closed := by
        intro other earlier
        exact holds.closed other (by rw [some_call]; exact earlier)
      newest := by
        intro newest first
        cases first
        exact
          { isOpen := shown.isOpen
            token := shown.token
            current := by
              intro completed requested
              refine ⟨(shown.current completed requested).1, ?_⟩
              intro criteria same
              cases same
              rfl } }

/-- The process has been started, or not. -/
theorem answered (holds : AdministratorInvariant state)
    {outcome : AdministratorStatus} (found : state.calls[index]? = some call)
    (isOpen : call.outcome = none) (possible : outcome ∈
      [.started, .cancelledOrDenied, .unavailable, .failed]) :
    AdministratorInvariant { state with
      bridge := state.bridge.administered outcome state.bridge.selectedProbeIds
        (if outcome = .started then state.bridge.resultToken else none)
      calls := state.calls.set index { call with outcome := some outcome } } := by
  obtain ⟨rfl, ⟨calls, some_call⟩, waiting⟩ :=
    holds.index_eq_zero found isOpen
  have shown := holds.newest call (by rw [some_call]; rfl)
  have requested : state.bridge.administratorStatus ≠ .notRequested := by
    rw [waiting]
    decide
  rw [some_call, List.set_cons_zero]
  exact
    { free := by
        intro free
        change outcome = .notRequested at free
        rw [free] at possible
        exact absurd possible (by decide)
      called := nofun
      closed := by
        intro other earlier
        exact holds.closed other (by rw [some_call]; exact earlier)
      newest := by
        intro newest first
        cases first
        exact
          { isOpen := by
              constructor
              case mp => nofun
              case mpr =>
                intro waiting
                change outcome = .requestingUac at waiting
                rw [waiting] at possible
                exact absurd possible (by decide)
            token := by
              intro _ token same
              change token ∈ (if outcome = .started then
                state.bridge.resultToken else none) at same
              split at same
              case isTrue => exact shown.token requested token same
              case isFalse => cases same
            current := fun completed _ =>
              shown.current completed requested } }

theorem reset (holds : AdministratorInvariant state)
    (ended : state.bridge.administratorStatus ∈
      [.started, .cancelledOrDenied, .failed, .unavailable]) :
    AdministratorInvariant { state with
      bridge := state.bridge.administered .notRequested [] none } where
  free := fun _ => rfl
  called := fun requested => (requested rfl).elim
  closed := holds.closed
  newest := by
    intro call first
    have waiting : state.bridge.administratorStatus ≠ .requestingUac := by
      intro waiting
      rw [waiting] at ended
      exact absurd ended (by decide)
    have notOpen := holds.all_closed waiting call
      (List.mem_of_mem_head? first)
    exact
      { isOpen := ⟨fun isOpen => (notOpen isOpen).elim, nofun⟩
        token := fun requested => (requested rfl).elim
        current := fun _ requested => (requested rfl).elim }

/-- A step keeps the invariant whose scan finishes while no run is shown. -/
theorem kept (holds : AdministratorInvariant state)
    (job : JobInvariant state) {after : LauncherState Criteria}
    {label : LauncherLabel Criteria} {reply : Reply}
    (sound : FinishesUnattended state label)
    (made : (launcherMachine compare).step state label =
      some (reply, after)) :
    AdministratorInvariant after := by
  cases launcher_step_effect made with
  | begun _ => exact holds.of_same _ rfl rfl nofun
  | cancelled _ => exact holds.of_same _ rfl rfl nofun
  | stillCancelling _ | refused => exact holds
  | requested _ free => exact holds.requested free _ _
  | elevated found _ isOpen => exact holds.elevated found isOpen
  | answered found isOpen possible => exact holds.answered found isOpen possible
  | reset _ ended => exact holds.reset ended
  | worked found moved =>
      obtain ⟨rfl, workers, some_worker⟩ := job.moves_newest found moved
      have same := (moveWorker_effect (job.attempt_eq some_worker).1
        moved).sameAdministrator
      refine holds.of_same _ same.status same.token ?_
      intro completed requested
      rcases job.completed_of_moved found moved completed with
        ⟨before, attempt⟩ | ⟨token, report, rfl, finishing⟩
      case inl => exact ⟨before, attempt, same.criteria⟩
      case inr =>
        rw [same.status] at requested
        exact (requested (sound.of_settle found finishing)).elim

end AdministratorInvariant

/-! ## Every run -/

/-- The step that requested a call: the attempt of the call was COMPLETED. -/
def RequestedIn (trace : List (Moment (LauncherState Criteria)
    (LauncherLabel Criteria) Reply)) (call : AdministratorCall Criteria) :
    Prop :=
  ∃ moment ∈ trace,
    moment.label = .requestAdministrator call.selected call.token ∧
      moment.answer = none ∧
      moment.before.bridge.status = .completed ∧
      moment.before.bridge.attempt = call.attempt

variable
  {trace : List (Moment (LauncherState Criteria) (LauncherLabel Criteria) Reply)}

theorem RequestedIn.of_set {calls : List (AdministratorCall Criteria)}
    {call changed : AdministratorCall Criteria}
    (known : ∀ call ∈ calls, RequestedIn trace call)
    (found : calls[index]? = some call)
    (attempt : changed.attempt = call.attempt)
    (selected : changed.selected = call.selected)
    (token : changed.token = call.token) :
    ∀ other ∈ calls.set index changed, RequestedIn trace other := by
  intro other member
  rcases List.mem_or_eq_of_mem_set member with earlier | rfl
  case inl => exact known other earlier
  case inr =>
    have requested := known call (List.mem_of_getElem? found)
    unfold RequestedIn at requested ⊢
    rw [attempt, selected, token]
    exact requested

/-- What a run has established whose scans finish alone. -/
structure AdministratorHistory (trace : List (Moment (LauncherState Criteria)
    (LauncherLabel Criteria) Reply)) (final : LauncherState Criteria) :
    Prop where
  job : JobInvariant final
  shown : ResultShown final
  administrator : AdministratorInvariant final
  requested : ∀ call ∈ final.calls, RequestedIn trace call

/-- A step keeps the requests that are known, and makes its own known. -/
theorem requestedIn_kept {earlier : List (Moment (LauncherState Criteria)
      (LauncherLabel Criteria) Reply)}
    {before after : LauncherState Criteria} {label : LauncherLabel Criteria}
    {reply : Reply} (known : ∀ call ∈ before.calls, RequestedIn earlier call)
    (made : (launcherMachine compare).step before label =
      some (reply, after)) :
    ∀ call ∈ after.calls,
      RequestedIn (earlier ++ [⟨before, label, reply, after⟩]) call := by
  have still : ∀ call ∈ before.calls,
      RequestedIn (earlier ++ [⟨before, label, reply, after⟩]) call := by
    intro call member
    obtain ⟨moment, among, requested⟩ := known call member
    exact ⟨moment, List.mem_append_left _ among, requested⟩
  cases launcher_step_effect made with
  | begun _ | cancelled _ | stillCancelling _ | refused | reset _ _
  | worked _ _ => exact still
  | requested completed _ =>
      intro call member
      rcases List.mem_cons.mp member with rfl | old
      case inl =>
        exact ⟨_, List.mem_append_right _ List.mem_cons_self, rfl, rfl,
          completed, rfl⟩
      case inr => exact still call old
  | elevated found _ _ => exact RequestedIn.of_set still found rfl rfl rfl
  | answered found _ _ => exact RequestedIn.of_set still found rfl rfl rfl

theorem administratorHistory_of_run {final : LauncherState Criteria}
    (run : (launcherMachine compare).Run (FinishesAlone compare)
      (launched Criteria) trace final) :
    AdministratorHistory trace final := by
  refine run.traced AdministratorHistory ⟨launched_jobInvariant, nofun,
    launched_administratorInvariant,
    fun _ member => (List.not_mem_nil member).elim⟩ ?_
  intro earlier before label answer after known sound made
  exact
    { job := known.job.kept made
      shown := known.shown.kept known.job sound.2 made
      administrator := known.administrator.kept known.job sound.1 made
      requested := requestedIn_kept known.requested made }

/-- In every run whose scans finish while no administrator run is shown and
with their comparison, in every state: a report of COMPLETED with a token or
with an administrator status other than NOT_REQUESTED shows the newest run,
which was requested after the reported attempt completed, and if its process
has been started then with the criteria of the reported result. -/
theorem administrator_run_is_of_result
    {trace : List (Moment (LauncherState Criteria)
      (LauncherLabel Criteria) Reply)} {final : LauncherState Criteria}
    (run : (launcherMachine compare).Run (FinishesAlone compare)
      (launched Criteria) trace final)
    (completed : (statePayload final.bridge).status = .completed)
    (shown : (statePayload final.bridge).administrator.resultToken ≠ none ∨
      (statePayload final.bridge).administrator.status ≠ .notRequested) :
    ∃ call entry, final.calls.head? = some call ∧
      (statePayload final.bridge).result = some entry ∧
      entry.attempt = (statePayload final.bridge).attempt ∧
      call.attempt = (statePayload final.bridge).attempt ∧
      RequestedIn trace call ∧
      (∀ token ∈ (statePayload final.bridge).administrator.resultToken,
        call.token = token) ∧
      ∀ criteria, call.startedWith = some criteria →
        criteria = entry.criteria := by
  change final.bridge.status = .completed at completed
  have known := administratorHistory_of_run run
  have requested : final.bridge.administratorStatus ≠ .notRequested := by
    intro free
    rcases shown with token | status
    case inl => exact token (known.administrator.free free)
    case inr => exact status free
  obtain ⟨call, calls, some_call⟩ :=
    List.exists_cons_of_ne_nil (known.administrator.called requested)
  have newest := known.administrator.newest call (by rw [some_call]; rfl)
  obtain ⟨attempt, criteria⟩ := newest.current completed requested
  obtain ⟨entry, last, ofAttempt, recorded⟩ := known.shown completed
  refine ⟨call, entry, by rw [some_call]; rfl, ?_, ofAttempt, attempt,
    known.requested call (by rw [some_call]; exact List.mem_cons_self),
    newest.token requested, ?_⟩
  case refine_1 =>
    simp only [statePayload, if_pos completed, last]
  case refine_2 =>
    intro started same
    rw [recorded]
    exact criteria started same

def administratorMoves (Criteria : Type) (token : List Char) :
    List (LauncherLabel Criteria) :=
  [.requestAdministrator [['P']] token, .elevate 0,
    .settleAdministrator 0 .started]

/-- A run for a result, its reset, a recheck, and a run for the new result. -/
def resetThenRechecked : List (LauncherLabel Bool) :=
  .begin .scan none ['a'] :: finishingMoves Bool ['b'] ++
    administratorMoves Bool ['t'] ++ .resetAdministrator ::
    .begin .recheck (some true) [] :: finishingMoves Bool ['c'] ++
    administratorMoves Bool ['u']

/-- The second of these runs is the one that is shown. -/
theorem administrator_run_is_of_result_rechecked :
    ∃ final : LauncherState Bool,
      final.bridge.resultToken = some ['u'] ∧
      ∃ call entry, final.calls.head? = some call ∧
        (statePayload final.bridge).result = some entry ∧
        entry.criteria = some true ∧ call.attempt = 2 ∧
        ∀ criteria, call.startedWith = some criteria →
          criteria = entry.criteria := by
  have carried : ((launcherMachine fun _ _ _ _ => none).replay
      (FinishesAlone fun _ _ _ _ => none) (launched Bool)
      resetThenRechecked).map (fun reached =>
        (reached.2.bridge.status, reached.2.bridge.attempt,
          reached.2.bridge.resultToken,
          reached.2.bridge.history.getLast?.bind HistoryEntry.criteria)) =
      some (.completed, 2, some ['u'], some true) := by decide
  obtain ⟨trace, final, run, seen⟩ := Machine.exists_run_of_replay carried
  obtain ⟨completed, rest⟩ := Prod.mk.inj seen
  obtain ⟨attempt, rest⟩ := Prod.mk.inj rest
  obtain ⟨token, criteria⟩ := Prod.mk.inj rest
  have shown : (statePayload final.bridge).administrator.resultToken ≠
      none := by
    change final.bridge.resultToken ≠ none
    rw [token]
    nofun
  obtain ⟨call, entry, newest, result, _, ofAttempt, _, _, started⟩ :=
    administrator_run_is_of_result run completed (.inl shown)
  refine ⟨final, token, call, entry, newest, result, ?_, ?_, started⟩
  case refine_1 =>
    have last : final.bridge.history.getLast? = some entry := by
      simpa [statePayload, if_pos completed] using result
    rwa [last] at criteria
  case refine_2 => exact ofAttempt.trans attempt

/-! ## A run that outlives its result -/

/-- A run for a result and then a recheck, without a reset. -/
def rechecked : List (LauncherLabel Bool) :=
  .begin .scan none ['a'] :: finishingMoves Bool ['b'] ++
    administratorMoves Bool ['t'] ++ .begin .recheck (some true) [] ::
    finishingMoves Bool ['c']

/-- A recheck completes beside the run of the previous result, which was
started with other criteria. -/
theorem stale_administrator_run_shown :
    ∃ trace final,
      (launcherMachine (fun _ _ _ _ => none : Compare Bool)).Run
        Machine.unguarded (launched Bool) trace final ∧
      (statePayload final.bridge).status = .completed ∧
      (statePayload final.bridge).attempt = 2 ∧
      (statePayload final.bridge).administrator.status = .started ∧
      (statePayload final.bridge).administrator.resultToken = some ['t'] ∧
      final.calls = [⟨1, [['P']], ['t'], some none, some .started⟩] ∧
      (statePayload final.bridge).result.bind HistoryEntry.criteria =
        some true := by
  have carried : ((launcherMachine fun _ _ _ _ => none).replay
      Machine.unguarded (launched Bool) rechecked).map
        (fun reached => decide (reached.2.bridge.status = .completed ∧
          reached.2.bridge.attempt = 2 ∧
          reached.2.bridge.administratorStatus = .started ∧
          reached.2.bridge.resultToken = some ['t'] ∧
          reached.2.calls =
            [⟨1, [['P']], ['t'], some none, some .started⟩] ∧
          (statePayload reached.2.bridge).result.bind
            HistoryEntry.criteria = some true)) = some true := by decide
  obtain ⟨trace, final, run, seen⟩ := Machine.exists_run_of_replay carried
  obtain ⟨completed, attempt, status, token, calls, criteria⟩ :=
    of_decide_eq_true seen
  exact ⟨trace, final, run, completed, attempt, status, token, calls, criteria⟩

end SecAI.Launcher
