/-
Module: SecAI.Launcher.JobSoundness
Purpose: The job of the scans: in a run whose scans finish without a
  cancellation and make their comparison, one attempt runs at a time and no
  cancelled attempt completes.
Trusted boundary: as in the launcher's steps
Main exports:
  finishingAt, launcher_job_is_sound, launcher_job_is_sound_twice
-/
import SecAI.Launcher.Effects

namespace SecAI.Launcher

open Interleaving

variable {Criteria : Type} {compare : Compare Criteria}

/-! ## The guards of the last block -/

/-- The worker whose scan a step finishes, its report and its token. -/
def finishingAt (state : LauncherState Criteria) :
    LauncherLabel Criteria → Option (Worker × ScanReport × List Char)
  | .work index (.settle token) =>
      state.workers[index]?.bind fun worker =>
        match worker.phase with
        | .finishing report => some (worker, report, token)
        | _ => none
  | _ => none

/-- A scan that finishes makes its comparison with the previous result. -/
def ComparisonMade (compare : Compare Criteria)
    (state : LauncherState Criteria) (label : LauncherLabel Criteria) : Prop :=
  (finishingAt state label).all (fun (_, report, token) =>
    (comparisonOf compare state.bridge report token).isSome) = true

/-- A scan that finishes has not been cancelled. -/
def FinishesUncancelled (state : LauncherState Criteria)
    (label : LauncherLabel Criteria) : Prop :=
  (finishingAt state label).all (fun (worker, _, _) =>
    !worker.cancelEvent) = true

def FinishesSoundly (compare : Compare Criteria)
    (state : LauncherState Criteria) (label : LauncherLabel Criteria) : Prop :=
  FinishesUncancelled state label ∧ ComparisonMade compare state label

instance (state : LauncherState Criteria) (label : LauncherLabel Criteria) :
    Decidable (ComparisonMade compare state label) :=
  inferInstanceAs (Decidable (_ = true))

instance (state : LauncherState Criteria) (label : LauncherLabel Criteria) :
    Decidable (FinishesUncancelled state label) :=
  inferInstanceAs (Decidable (_ = true))

instance (state : LauncherState Criteria) (label : LauncherLabel Criteria) :
    Decidable (FinishesSoundly compare state label) :=
  inferInstanceAs (Decidable (_ ∧ _))

section Settling

variable {state : LauncherState Criteria} {index : Nat} {token : List Char}
  {worker : Worker} {report : ScanReport}

theorem finishingAt_settle (found : state.workers[index]? = some worker)
    (phase : worker.phase = .finishing report) :
    finishingAt state (.work index (.settle token)) =
      some (worker, report, token) := by
  rw [finishingAt, found, Option.bind_some, phase]

theorem ComparisonMade.of_settle
    (sound : ComparisonMade compare state (.work index (.settle token)))
    (found : state.workers[index]? = some worker)
    (phase : worker.phase = .finishing report) :
    ∃ comparison, comparisonOf compare state.bridge report token =
      some comparison := by
  rw [ComparisonMade, finishingAt_settle found phase] at sound
  exact Option.isSome_iff_exists.mp sound

theorem FinishesUncancelled.of_settle
    (sound : FinishesUncancelled state (.work index (.settle token)))
    (found : state.workers[index]? = some worker)
    (phase : worker.phase = .finishing report) :
    worker.cancelEvent = false := by
  rw [FinishesUncancelled, finishingAt_settle found phase] at sound
  simpa using sound

end Settling

/-! ## The invariant -/

/-- How the record shows the newest worker. -/
structure Shows (bridge : BridgeState Criteria) (worker : Worker) : Prop where
  active : worker.phase.IsActive →
    bridge.status = if worker.cancelEvent then .cancelling else .running
  done : ¬worker.phase.IsActive →
    bridge.status ∈ [.cancelled, .failed, .completed]
  progress : worker.phase.IsActive → bridge.progressPercent ≤ 99

/-- What every state of a run satisfies. -/
structure JobInvariant (state : LauncherState Criteria) : Prop where
  counted : state.workers.map Worker.attempt =
    (List.range' 1 state.bridge.attempt).reverse
  ended : ∀ worker ∈ state.workers.tail, worker.phase = .ended
  idle : state.workers = [] → state.bridge.status = .ready
  newest : ∀ worker ∈ state.workers.head?, Shows state.bridge worker
  numbered : state.bridge.history.map HistoryEntry.sequence =
    List.range' 1 state.bridge.history.length
  past : ∀ entry ∈ state.bridge.history,
    entry.attempt ≤ state.bridge.attempt ∧
      (entry.attempt = state.bridge.attempt →
        state.bridge.status = .completed)

theorem launched_jobInvariant : JobInvariant (launched Criteria) where
  counted := rfl
  ended := nofun
  idle := fun _ => rfl
  newest := nofun
  numbered := rfl
  past := nofun

namespace JobInvariant

variable {state : LauncherState Criteria} {worker : Worker}
  {workers : List Worker}

theorem attempt_eq (holds : JobInvariant state)
    (some_worker : state.workers = worker :: workers) :
    worker.attempt = state.bridge.attempt ∧
      workers.map Worker.attempt =
        (List.range' 1 (state.bridge.attempt - 1)).reverse := by
  have counted := holds.counted
  rw [some_worker, List.map_cons] at counted
  cases number : state.bridge.attempt with
  | zero => rw [number] at counted; cases counted
  | succ attempt =>
      rw [number, List.range'_1_concat, List.reverse_append] at counted
      obtain ⟨first, rest⟩ := List.cons.inj counted
      exact ⟨first.trans (Nat.add_comm _ _), rest⟩

theorem attempt_lt (holds : JobInvariant state)
    (some_worker : state.workers = worker :: workers) {other : Worker}
    (member : other ∈ workers) : other.attempt < state.bridge.attempt := by
  have numbered := List.mem_map_of_mem (f := Worker.attempt) member
  rw [(holds.attempt_eq some_worker).2, List.mem_reverse,
    List.mem_range'_1] at numbered
  omega

theorem exists_worker (holds : JobInvariant state)
    (started : state.bridge.status ≠ .ready) :
    ∃ worker workers, state.workers = worker :: workers := by
  cases some_worker : state.workers with
  | nil => exact (started (holds.idle some_worker)).elim
  | cons worker workers => exact ⟨worker, workers, rfl⟩

theorem shows (holds : JobInvariant state)
    (some_worker : state.workers = worker :: workers) :
    Shows state.bridge worker :=
  holds.newest worker (by rw [some_worker]; rfl)

/-- An attempt begins only behind workers that have ended. -/
theorem all_ended (holds : JobInvariant state) {action : ScanAction}
    (accepted : beginAccepted state action) :
    ∀ worker ∈ state.workers, worker.phase = .ended := by
  intro worker member
  obtain ⟨allowed, notAlive⟩ := accepted
  cases some_worker : state.workers with
  | nil => rw [some_worker] at member; cases member
  | cons newest workers =>
      rw [some_worker] at member
      rcases List.mem_cons.mp member with rfl | earlier
      case inr => exact holds.ended worker (by rw [some_worker]; exact earlier)
      have dead : worker.isAlive = false := by simpa [some_worker] using notAlive
      by_contra running
      have active : worker.phase.IsActive := by
        constructor
        case left =>
          intro settled
          simp [Worker.isAlive, settled] at dead
        case right => exact running
      have status := (holds.shows some_worker).active active
      cases action <;> cases flag : worker.cancelEvent <;>
        simp [ScanAction.allowed, status, flag] at allowed

end JobInvariant

/-! ## Every step keeps it -/

namespace JobInvariant

variable {state : LauncherState Criteria}

theorem administered (holds : JobInvariant state)
    (status : AdministratorStatus) (selected : List (List Char))
    (token : Option (List Char))
    (calls : List (AdministratorCall Criteria)) :
    JobInvariant { state with
      bridge := state.bridge.administered status selected token
      calls := calls } where
  counted := holds.counted
  ended := holds.ended
  idle := holds.idle
  newest := fun worker first =>
    ⟨(holds.newest worker first).active, (holds.newest worker first).done,
      (holds.newest worker first).progress⟩
  numbered := holds.numbered
  past := holds.past

/-- An attempt begins. -/
theorem begun (holds : JobInvariant state) {action : ScanAction}
    (accepted : beginAccepted state action) (criteria : Option Criteria)
    (token : List Char) :
    JobInvariant { state with
      bridge := beginAttempt state.bridge criteria token
      workers := ⟨state.bridge.attempt + 1, false, .created⟩ ::
        state.workers } where
  counted := by
    simp only [List.map_cons, beginAttempt]
    rw [holds.counted, List.range'_1_concat, List.reverse_append,
      Nat.add_comm]
    rfl
  ended := holds.all_ended accepted
  idle := nofun
  newest := by
    intro worker first
    cases first
    exact
      { active := fun _ => rfl
        done := fun done => (done ⟨nofun, nofun⟩).elim
        progress := fun _ => by
          change (0 : Int) ≤ 99
          decide }
  numbered := holds.numbered
  past := by
    intro entry member
    have known := (holds.past entry member).1
    constructor
    case left => exact Nat.le_succ_of_le known
    case right =>
      intro same
      exact absurd same (Nat.ne_of_lt (Nat.lt_succ_of_le known))

/-- A running attempt is cancelled. -/
theorem cancelled (holds : JobInvariant state)
    (running : state.bridge.status = .running) :
    JobInvariant { state with
      bridge := state.bridge.cancelling
      workers := setCancelEvent state.workers } := by
  obtain ⟨worker, workers, some_worker⟩ :=
    holds.exists_worker (by rw [running]; decide)
  have shown := holds.shows some_worker
  have active : worker.phase.IsActive := by
    by_contra done
    have status := shown.done done
    rw [running] at status
    exact absurd status (by decide)
  have current := (holds.attempt_eq some_worker).1
  rw [some_worker]
  exact
    { counted := by
        have counted := holds.counted
        rw [some_worker] at counted
        exact counted
      ended := by
        intro other earlier
        exact holds.ended other (by rw [some_worker]; exact earlier)
      idle := nofun
      newest := by
        intro newest first
        cases first
        exact
          { active := fun _ => rfl
            done := fun done => (done active).elim
            progress := shown.progress }
      numbered := holds.numbered
      past := by
        intro entry member
        obtain ⟨known, completed⟩ := holds.past entry member
        refine ⟨known, fun same => ?_⟩
        cases running.symm.trans (completed same) }

theorem moves_newest (holds : JobInvariant state) {index : Nat}
    {worker : Worker} {move : WorkerMove}
    {moved : BridgeState Criteria × WorkerPhase}
    (found : state.workers[index]? = some worker)
    (makes : moveWorker compare state.bridge worker move = some moved) :
    index = 0 ∧ ∃ workers, state.workers = worker :: workers := by
  cases some_worker : state.workers with
  | nil => rw [some_worker] at found; cases found
  | cons newest workers =>
      cases index with
      | zero =>
          rw [some_worker] at found
          cases found
          exact ⟨rfl, workers, rfl⟩
      | succ index =>
          rw [some_worker, List.getElem?_cons_succ] at found
          have ended := holds.ended worker
            (by rw [some_worker]; exact List.mem_of_getElem? found)
          rw [moveWorker_ended ended] at makes
          cases makes

/-- A move that leaves the attempts and the history alone keeps the invariant
when the record still shows the worker. -/
theorem moved (holds : JobInvariant state) {worker : Worker}
    {workers : List Worker} (some_worker : state.workers = worker :: workers)
    {bridge : BridgeState Criteria} {phase : WorkerPhase}
    (attempt : bridge.attempt = state.bridge.attempt)
    (history : bridge.history = state.bridge.history)
    (status : bridge.status = .completed ↔ state.bridge.status = .completed)
    (shown : Shows bridge { worker with phase := phase }) :
    JobInvariant { state with
      bridge := bridge
      workers := { worker with phase := phase } :: workers } where
  counted := by
    have counted := holds.counted
    rw [some_worker] at counted
    simpa only [attempt, List.map_cons] using counted
  ended := by
    intro other earlier
    exact holds.ended other (by rw [some_worker]; exact earlier)
  idle := nofun
  newest := by
    intro newest first
    cases first
    exact shown
  numbered := by simpa only [history] using holds.numbered
  past := by
    intro entry member
    simp only [history, attempt, status] at member ⊢
    exact holds.past entry member

/-- A scan finishes. -/
theorem finished (holds : JobInvariant state) {worker : Worker}
    {workers : List Worker} (some_worker : state.workers = worker :: workers)
    (report : ScanReport) (token : List Char) :
    JobInvariant { state with
      bridge := finishScan compare state.bridge worker.attempt report token
      workers := { worker with phase := .settled } :: workers } := by
  have current := (holds.attempt_eq some_worker).1
  have shown : Shows
      (finishScan compare state.bridge worker.attempt report token)
      { worker with phase := .settled } :=
    { active := fun active => (active.1 rfl).elim
      done := fun _ => by simp
      progress := fun active => (active.1 rfl).elim }
  have counted : ({ worker with phase := .settled } :: workers).map
      Worker.attempt = (List.range' 1 (finishScan compare state.bridge
        worker.attempt report token).attempt).reverse := by
    have counted := holds.counted
    rw [some_worker] at counted
    simpa only [finishScan_attempt, List.map_cons] using counted
  have ended : ∀ other ∈ workers, other.phase = .ended := by
    intro other earlier
    exact holds.ended other (by rw [some_worker]; exact earlier)
  refine
    { counted := counted
      ended := ended
      idle := nofun
      newest := by
        intro newest first
        cases first
        exact shown
      numbered := ?_
      past := ?_ }
  case refine_1 =>
    cases made : comparisonOf compare state.bridge report token with
    | none =>
        simpa only [finishScan_history_unmade _ made] using holds.numbered
    | some comparison =>
        obtain ⟨entry, history, _, sequence, _⟩ :=
          finishScan_history worker.attempt made
        simp only [history, List.map_append, List.map_cons, List.map_nil,
          List.length_append, List.length_singleton, List.range'_1_concat]
        rw [holds.numbered, sequence, Nat.add_comm]
  case refine_2 =>
    intro other member
    simp only [finishScan_attempt, finishScan_status, implies_true, and_true]
    cases made : comparisonOf compare state.bridge report token with
    | none =>
        simp only [finishScan_history_unmade _ made] at member
        exact (holds.past other member).1
    | some comparison =>
        obtain ⟨entry, history, attempt, _, _⟩ :=
          finishScan_history worker.attempt made
        simp only [history, List.mem_append, List.mem_singleton] at member
        rcases member with earlier | rfl
        case inl => exact (holds.past other earlier).1
        case inr => rw [attempt, current]

/-- Every step keeps the invariant. -/
theorem kept (holds : JobInvariant state) {after : LauncherState Criteria}
    {label : LauncherLabel Criteria} {reply : Reply}
    (made : (launcherMachine compare).step state label =
      some (reply, after)) :
    JobInvariant after := by
  cases launcher_step_effect made with
  | begun accepted => exact holds.begun accepted _ _
  | cancelled running => exact holds.cancelled running
  | stillCancelling _ => exact holds
  | refused => exact holds
  | requested _ _ => exact holds.administered _ _ _ _
  | elevated _ _ _ =>
      exact holds.administered state.bridge.administratorStatus
        state.bridge.selectedProbeIds state.bridge.resultToken _
  | answered _ _ _ => exact holds.administered _ _ _ _
  | reset _ _ => exact holds.administered _ _ _ state.calls
  | @worked index move worker bridge phase found moved =>
      obtain ⟨rfl, workers, some_worker⟩ := holds.moves_newest found moved
      have shown := holds.shows some_worker
      rw [some_worker, List.set_cons_zero]
      cases moveWorker_effect (holds.attempt_eq some_worker).1 moved with
      | advanced active still =>
          refine holds.moved some_worker rfl rfl Iff.rfl ?_
          exact
            { active := fun _ => shown.active active
              done := fun done => (done still).elim
              progress := fun _ => shown.progress active }
      | @reported step message percent active bound uncancelled =>
          have running := shown.active active
          rw [uncancelled] at running
          have still := reportProgress_status state.bridge worker step percent
            message running
          refine holds.moved some_worker (by simp) (by simp)
            (by rw [still, running]; decide) ?_
          exact
            { active := fun _ => by rw [still, uncancelled]; rfl
              done := fun done => (done ⟨nofun, nofun⟩).elim
              progress := fun _ => reportProgress_le _ _ _ _ _
                (shown.progress active) bound }
      | stopped active =>
          have status := shown.active active
          refine holds.moved some_worker rfl rfl ?_ ?_
          case refine_1 =>
            rw [status]
            cases worker.cancelEvent <;> simp [stopScan]
          case refine_2 =>
            exact
              { active := fun active => (active.1 rfl).elim
                done := fun _ => by simp [stopScan]
                progress := fun active => (active.1 rfl).elim }
      | failed active =>
          have status := shown.active active
          refine holds.moved some_worker rfl rfl ?_ ?_
          case refine_1 =>
            rw [status]
            cases worker.cancelEvent <;> simp [failScan]
          case refine_2 =>
            exact
              { active := fun active => (active.1 rfl).elim
                done := fun _ => by simp [failScan]
                progress := fun active => (active.1 rfl).elim }
      | finished _ => exact holds.finished some_worker _ _
      | exited settled =>
          refine holds.moved some_worker rfl rfl Iff.rfl ?_
          exact
            { active := fun active => (active.2 rfl).elim
              done := fun _ => shown.done fun active => active.1 settled
              progress := fun active => (active.2 rfl).elim }

end JobInvariant

/-! ## The result of the current attempt -/

/-- COMPLETED shows the result of the current attempt, with the criteria of
the record. -/
def ResultShown (state : LauncherState Criteria) : Prop :=
  state.bridge.status = .completed →
    ∃ entry, state.bridge.history.getLast? = some entry ∧
      entry.attempt = state.bridge.attempt ∧
      entry.criteria = state.bridge.criteria

/-- A step keeps it whose scan makes its comparison. -/
theorem ResultShown.kept {before after : LauncherState Criteria}
    {label : LauncherLabel Criteria} {reply : Reply}
    (shown : ResultShown before) (holds : JobInvariant before)
    (sound : ComparisonMade compare before label)
    (made : (launcherMachine compare).step before label =
      some (reply, after)) :
    ResultShown after := by
  cases launcher_step_effect made with
  | begun _ | cancelled _ => nofun
  | stillCancelling _ | refused | requested _ _ | elevated _ _ _
  | answered _ _ _ | reset _ _ => exact shown
  | @worked _ _ worker _ _ found moved =>
      obtain ⟨rfl, workers, some_worker⟩ := holds.moves_newest found moved
      have newest := holds.shows some_worker
      have current := (holds.attempt_eq some_worker).1
      cases moveWorker_effect current moved with
      | advanced _ _ | exited _ => exact shown
      | @reported step message percent active _ uncancelled =>
          intro completed
          have running := newest.active active
          rw [uncancelled] at running
          cases (reportProgress_status before.bridge _ step percent message
            running).symm.trans completed
      | stopped _ | failed _ => nofun
      | @finished token report finishing =>
          intro _
          obtain ⟨comparison, compared⟩ := sound.of_settle found finishing
          obtain ⟨entry, history, attempt, _, criteria⟩ :=
            finishScan_history worker.attempt compared
          refine ⟨entry, ?_, ?_, ?_⟩
          case refine_1 => simp only [history, List.getLast?_concat]
          case refine_2 => simp only [finishScan_attempt, attempt, current]
          case refine_3 => simp only [finishScan_criteria, criteria]

/-- No result is of an attempt that was cancelled. -/
def ResultsUncancelled (state : LauncherState Criteria) : Prop :=
  ∀ entry ∈ state.bridge.history, ∀ worker ∈ state.workers,
    worker.attempt = entry.attempt → worker.cancelEvent = false

/-- It is kept when the history is, and the newest worker is not cancelled
while the attempt has a result. -/
theorem ResultsUncancelled.of_newest {before after : LauncherState Criteria}
    (uncancelled : ResultsUncancelled before)
    (history : after.bridge.history = before.bridge.history)
    {worker moved : Worker} {workers : List Worker}
    (some_worker : before.workers = worker :: workers)
    (moved_worker : after.workers = moved :: workers)
    (newest : ∀ entry ∈ before.bridge.history,
      moved.attempt = entry.attempt → moved.cancelEvent = false) :
    ResultsUncancelled after := by
  intro entry member other among same
  rw [history] at member
  rw [moved_worker] at among
  rcases List.mem_cons.mp among with rfl | earlier
  case inl => exact newest entry member same
  case inr =>
    exact uncancelled entry member other
      (by rw [some_worker]; exact List.mem_cons_of_mem _ earlier) same

/-- A step keeps it that finishes no cancelled scan. -/
theorem ResultsUncancelled.kept {before after : LauncherState Criteria}
    {label : LauncherLabel Criteria} {reply : Reply}
    (uncancelled : ResultsUncancelled before) (holds : JobInvariant before)
    (sound : FinishesUncancelled before label)
    (made : (launcherMachine compare).step before label =
      some (reply, after)) :
    ResultsUncancelled after := by
  cases launcher_step_effect made with
  | begun _ =>
      intro entry member worker among same
      rcases List.mem_cons.mp among with rfl | earlier
      case inl => rfl
      case inr => exact uncancelled entry member worker earlier same
  | cancelled running =>
      obtain ⟨worker, workers, some_worker⟩ :=
        holds.exists_worker (by rw [running]; decide)
      refine uncancelled.of_newest rfl some_worker
        (congrArg setCancelEvent some_worker) ?_
      intro entry member same
      -- An attempt that runs has no result yet.
      have completed := (holds.past entry member).2
        (same.symm.trans (holds.attempt_eq some_worker).1)
      cases running.symm.trans completed
  | stillCancelling _ | refused | requested _ _ | elevated _ _ _
  | answered _ _ _ | reset _ _ => exact uncancelled
  | @worked index move worker bridge phase found moved =>
      obtain ⟨rfl, workers, some_worker⟩ := holds.moves_newest found moved
      have replaced : before.workers.set 0 { worker with phase := phase } =
          { worker with phase := phase } :: workers := by
        rw [some_worker, List.set_cons_zero]
      have newest : ∀ entry ∈ before.bridge.history,
          worker.attempt = entry.attempt → worker.cancelEvent = false := by
        intro entry member same
        exact uncancelled entry member worker
          (by rw [some_worker]; exact List.mem_cons_self) same
      cases moveWorker_effect (holds.attempt_eq some_worker).1 moved with
      | advanced _ _ | stopped _ | failed _ | exited _ =>
          exact uncancelled.of_newest rfl some_worker replaced newest
      | reported _ _ _ =>
          exact uncancelled.of_newest (by simp) some_worker replaced newest
      | @finished token report finishing =>
          have unset := sound.of_settle found finishing
          cases made : comparisonOf compare before.bridge report token with
          | none =>
              exact uncancelled.of_newest (finishScan_history_unmade _ made)
                some_worker replaced fun _ _ _ => unset
          | some comparison =>
              obtain ⟨entry, history, attempt, _, _⟩ :=
                finishScan_history worker.attempt made
              intro other member tried among same
              rw [replaced] at among
              rcases List.mem_cons.mp among with rfl | past
              case inl => exact unset
              simp only [history, List.mem_append,
                List.mem_singleton] at member
              rcases member with earlier | rfl
              case inl =>
                exact uncancelled other earlier tried
                  (by rw [some_worker]; exact List.mem_cons_of_mem _ past) same
              case inr =>
                have before := holds.attempt_lt some_worker past
                rw [same, attempt, (holds.attempt_eq some_worker).1] at before
                exact (Nat.lt_irrefl _ before).elim

/-! ## Cancelled attempts -/

def cancelledAttempts (state : LauncherState Criteria) : List Nat :=
  (state.workers.filter Worker.cancelEvent).map Worker.attempt

theorem mem_cancelledAttempts {state : LauncherState Criteria}
    {attempt : Nat} :
    attempt ∈ cancelledAttempts state ↔
      ∃ worker ∈ state.workers,
        worker.cancelEvent = true ∧ worker.attempt = attempt := by
  simp [cancelledAttempts, and_assoc]

theorem setCancelEvent_sublist (workers : List Worker) :
    (workers.filter Worker.cancelEvent).map Worker.attempt ⊆
      ((setCancelEvent workers).filter Worker.cancelEvent).map
        Worker.attempt := by
  cases workers with
  | nil => exact List.Subset.refl _
  | cons worker past =>
      cases flag : worker.cancelEvent <;>
        simp [setCancelEvent, flag]

/-- A cancelled attempt stays cancelled. -/
theorem cancelledAttempts_grow {before after : LauncherState Criteria}
    {label : LauncherLabel Criteria} {reply : Reply}
    (made : (launcherMachine compare).step before label =
      some (reply, after)) :
    cancelledAttempts before ⊆ cancelledAttempts after := by
  cases launcher_step_effect made with
  | begun _ => exact List.Subset.refl _
  | cancelled _ => exact setCancelEvent_sublist before.workers
  | stillCancelling _ | refused | requested _ _ | elevated _ _ _
  | answered _ _ _ | reset _ _ => exact List.Subset.refl _
  | @worked index _ worker _ phase found _ =>
      intro attempt member
      rw [mem_cancelledAttempts] at member ⊢
      obtain ⟨other, among, flag, same⟩ := member
      obtain ⟨place, inside, at_⟩ := List.getElem_of_mem among
      by_cases moved : index = place
      case neg =>
        refine ⟨other, ?_, flag, same⟩
        refine List.mem_of_getElem? (i := place) ?_
        rw [List.getElem?_set_ne moved, List.getElem?_eq_getElem inside, at_]
      case pos =>
        subst moved
        rw [List.getElem?_eq_getElem inside, at_] at found
        cases found
        exact ⟨_, List.mem_set inside _, flag, same⟩

namespace JobInvariant

variable {state : LauncherState Criteria}

/-- An accepted cancellation cancels the current attempt. -/
theorem current_cancelled (holds : JobInvariant state)
    {after : LauncherState Criteria}
    (made : (launcherMachine compare).step state .cancel =
      some (some 202, after)) :
    state.bridge.attempt ∈ cancelledAttempts after := by
  rw [mem_cancelledAttempts]
  cases launcher_step_effect made with
  | cancelled running =>
      obtain ⟨worker, workers, some_worker⟩ :=
        holds.exists_worker (by rw [running]; decide)
      refine ⟨{ worker with cancelEvent := true }, ?_, rfl,
        (holds.attempt_eq some_worker).1⟩
      rw [some_worker]
      exact List.mem_cons_self
  | stillCancelling cancelling =>
      obtain ⟨worker, workers, some_worker⟩ :=
        holds.exists_worker (by rw [cancelling]; decide)
      refine ⟨worker, by rw [some_worker]; exact List.mem_cons_self, ?_,
        (holds.attempt_eq some_worker).1⟩
      have shown := holds.shows some_worker
      have active : worker.phase.IsActive := by
        by_contra done
        have status := shown.done done
        rw [cancelling] at status
        exact absurd status (by decide)
      by_contra unset
      have status := shown.active active
      rw [cancelling, if_neg unset] at status
      cases status

theorem countP_le_one (holds : JobInvariant state) :
    state.workers.countP (fun worker => decide (worker.phase ≠ .ended)) ≤
      1 := by
  cases some_worker : state.workers with
  | nil => exact Nat.zero_le _
  | cons worker workers =>
      have past : workers.countP
          (fun worker => decide (worker.phase ≠ .ended)) = 0 := by
        rw [List.countP_eq_zero]
        intro other member
        simpa using holds.ended other (by rw [some_worker]; exact member)
      rw [List.countP_cons, past, Nat.zero_add]
      split <;> decide

end JobInvariant

theorem no_result_of_cancelled {state : LauncherState Criteria}
    (results : ResultsUncancelled state)
    (shown : ResultShown state) {attempt : Nat}
    (cancelled : attempt ∈ cancelledAttempts state) :
    ¬(state.bridge.status = .completed ∧ state.bridge.attempt = attempt) ∧
      ∀ entry ∈ state.bridge.history, entry.attempt ≠ attempt := by
  obtain ⟨worker, member, flag, rfl⟩ := mem_cancelledAttempts.mp cancelled
  have no_entry : ∀ entry ∈ state.bridge.history,
      entry.attempt ≠ worker.attempt := by
    intro entry among same
    have unset := results entry among worker member same.symm
    rw [flag] at unset
    cases unset
  constructor
  case left =>
    rintro ⟨completed, same⟩
    obtain ⟨entry, last, attempt, _⟩ := shown completed
    exact no_entry entry (List.mem_of_getLast? last) (attempt.trans same)
  case right => exact no_entry

/-! ## Progress -/

/-- The attempt does not go back, nor does the progress within an attempt. -/
def Advances (before after : LauncherState Criteria) : Prop :=
  before.bridge.attempt ≤ after.bridge.attempt ∧
    (before.bridge.attempt = after.bridge.attempt →
      before.bridge.progressPercent ≤ after.bridge.progressPercent)

theorem Advances.trans {first second third : LauncherState Criteria}
    (former : Advances first second) (latter : Advances second third) :
    Advances first third := by
  refine ⟨former.1.trans latter.1, fun same => ?_⟩
  have middle : first.bridge.attempt = second.bridge.attempt :=
    le_antisymm former.1 (same ▸ latter.1)
  exact (former.2 middle).trans (latter.2 (middle.symm.trans same))

/-- Every step advances. -/
theorem JobInvariant.advances {before after : LauncherState Criteria}
    (holds : JobInvariant before) {label : LauncherLabel Criteria}
    {reply : Reply}
    (made : (launcherMachine compare).step before label =
      some (reply, after)) :
    Advances before after := by
  cases launcher_step_effect made with
  | begun _ =>
      refine ⟨Nat.le_succ _, fun same => ?_⟩
      exact absurd same (Nat.ne_of_lt (Nat.lt_succ_self _))
  | cancelled _ | stillCancelling _ | refused | requested _ _
  | elevated _ _ _ | answered _ _ _ | reset _ _ =>
      exact ⟨le_refl _, fun _ => le_refl _⟩
  | worked found moved =>
      obtain ⟨_, workers, some_worker⟩ := holds.moves_newest found moved
      have shown := holds.shows some_worker
      cases moveWorker_effect (holds.attempt_eq some_worker).1 moved with
      | advanced _ _ | stopped _ | failed _ | exited _ =>
          exact ⟨le_refl _, fun _ => le_refl _⟩
      | reported _ _ _ =>
          exact ⟨Nat.le_of_eq (by simp), fun _ => le_reportProgress _ _ _ _ _⟩
      | finished finishing =>
          have active : _ := shown.progress
            (by simp [finishing, WorkerPhase.IsActive])
          refine ⟨Nat.le_of_eq (by simp), fun _ => ?_⟩
          simp only [finishScan_progressPercent]
          omega

/-! ## Every run -/

/-- What a soundly finishing run has established. -/
structure JobHistory (trace : List (Moment (LauncherState Criteria)
    (LauncherLabel Criteria) Reply)) (final : LauncherState Criteria) :
    Prop where
  invariant : JobInvariant final
  results : ResultsUncancelled final
  shown : ResultShown final
  advances : ∀ moment ∈ trace, Advances moment.before final
  cancelled : ∀ moment ∈ trace, moment.label = .cancel →
    moment.answer = some 202 →
    moment.before.bridge.attempt ∈ cancelledAttempts final

theorem jobHistory_of_run {trace : List (Moment (LauncherState Criteria)
      (LauncherLabel Criteria) Reply)} {final : LauncherState Criteria}
    (run : (launcherMachine compare).Run (FinishesSoundly compare)
      (launched Criteria) trace final) :
    JobHistory trace final := by
  refine run.traced JobHistory ⟨launched_jobInvariant, nofun, nofun,
    fun _ member => (List.not_mem_nil member).elim,
    fun _ member => (List.not_mem_nil member).elim⟩ ?_
  intro earlier before label answer after known sound made
  have step := known.invariant.advances made
  exact
    { invariant := known.invariant.kept made
      results := known.results.kept known.invariant sound.1 made
      shown := known.shown.kept known.invariant sound.2 made
      advances := by
        intro moment member
        rcases List.mem_append.mp member with old | new
        case inl => exact (known.advances moment old).trans step
        case inr => cases List.mem_singleton.mp new; exact step
      cancelled := by
        intro moment member
        rcases List.mem_append.mp member with old | new
        case inl =>
          intro cancels accepted
          exact cancelledAttempts_grow made
            (known.cancelled moment old cancels accepted)
        case inr =>
          cases List.mem_singleton.mp new
          rintro rfl rfl
          exact known.invariant.current_cancelled made }

/-- In every run whose scans finish without a cancellation and with their
comparison, in every state: at most one worker has not ended, a cancelled
attempt is not COMPLETED and has no result, progress has not decreased since
any state of the attempt, the sequence numbers count from one, and COMPLETED
means that the last result is that of the attempt. -/
theorem launcher_job_is_sound {trace : List (Moment (LauncherState Criteria)
      (LauncherLabel Criteria) Reply)} {final : LauncherState Criteria}
    (run : (launcherMachine compare).Run (FinishesSoundly compare)
      (launched Criteria) trace final) :
    final.workers.countP (fun worker => decide (worker.phase ≠ .ended)) ≤ 1 ∧
      (∀ moment ∈ trace, moment.label = .cancel →
        moment.answer = some 202 →
        ¬(final.bridge.status = .completed ∧
          final.bridge.attempt = moment.before.bridge.attempt) ∧
        ∀ entry ∈ final.bridge.history,
          entry.attempt ≠ moment.before.bridge.attempt) ∧
      (∀ moment ∈ trace,
        moment.before.bridge.attempt = final.bridge.attempt →
        moment.before.bridge.progressPercent ≤
          final.bridge.progressPercent) ∧
      final.bridge.history.map HistoryEntry.sequence =
        List.range' 1 final.bridge.history.length ∧
      (final.bridge.status = .completed →
        ∃ entry, final.bridge.history.getLast? = some entry ∧
          entry.attempt = final.bridge.attempt) := by
  have known := jobHistory_of_run run
  refine ⟨known.invariant.countP_le_one, ?_, ?_, known.invariant.numbered,
    ?_⟩
  case refine_1 =>
    intro moment member cancels accepted
    exact no_result_of_cancelled known.results known.shown
      (known.cancelled moment member cancels accepted)
  case refine_2 =>
    intro moment member
    exact (known.advances moment member).2
  case refine_3 =>
    intro completed
    obtain ⟨entry, last, attempt, _⟩ := known.shown completed
    exact ⟨entry, last, attempt⟩

def emptyReport : ScanReport :=
  { total := 15
    collected := 15
    errors := 0
    observedAt := none
    isAssessed := false
    controls := [] }

def finishingMoves (Criteria : Type) (token : List Char) :
    List (LauncherLabel Criteria) :=
  [.work 0 .start, .work 0 (.progress ['S'] 30 []),
    .work 0 (.collect .returned), .work 0 .check,
    .work 0 (.evaluate (some emptyReport)), .work 0 (.settle token),
    .work 0 .exit]

/-- A scan that is cancelled in time, retried and rechecked. -/
def cancelledThenRechecked : List (LauncherLabel Unit) :=
  [.begin .scan none ['a'], .work 0 .start, .cancel,
      .work 0 (.collect .cancelled), .work 0 (.settle []), .work 0 .exit,
      .begin .retry none []] ++
    finishingMoves Unit ['b'] ++ [.begin .recheck none []] ++
    finishingMoves Unit ['c']

/-- The three attempts of such a run end as they should. -/
theorem launcher_job_is_sound_twice :
    ∃ final : LauncherState Unit,
      (final.bridge.status = .completed ∧ final.bridge.attempt = 3 ∧
        final.bridge.history.map HistoryEntry.attempt = [2, 3]) ∧
      final.workers.countP
        (fun worker => decide (worker.phase ≠ .ended)) ≤ 1 ∧
      final.bridge.history.map HistoryEntry.sequence =
        List.range' 1 final.bridge.history.length := by
  have carried : ((launcherMachine fun _ _ _ _ => none).replay
      (FinishesSoundly fun _ _ _ _ => none) (launched Unit)
      cancelledThenRechecked).map (fun reached =>
        (reached.2.bridge.status, reached.2.bridge.attempt,
          reached.2.bridge.history.map HistoryEntry.attempt)) =
      some (.completed, 3, [2, 3]) := by decide
  obtain ⟨trace, final, run, seen⟩ := Machine.exists_run_of_replay carried
  have sound := launcher_job_is_sound run
  obtain ⟨completed, rest⟩ := Prod.mk.inj seen
  obtain ⟨attempt, history⟩ := Prod.mk.inj rest
  exact ⟨final, ⟨completed, attempt, history⟩, sound.1, sound.2.2.2.1⟩

/-! ## A cancellation behind the last check -/

def cancelledTooLate : List (LauncherLabel Unit) :=
  [.begin .scan none ['a'], .work 0 .start, .work 0 (.collect .returned),
    .work 0 .check, .cancel, .work 0 (.evaluate (some emptyReport)),
    .work 0 (.settle ['b'])]

/-- A cancellation that is accepted behind the last check is not heeded: the
attempt ends COMPLETED, with a result. -/
theorem cancelled_scan_completes :
    ∃ trace final,
      (launcherMachine (fun _ _ _ _ => none : Compare Unit)).Run
        Machine.unguarded (launched Unit) trace final ∧
      (∃ moment ∈ trace, moment.label = .cancel ∧
        moment.answer = some 202 ∧
        moment.after.bridge.status = .cancelling ∧
        moment.before.bridge.attempt = final.bridge.attempt) ∧
      final.bridge.status = .completed ∧
      final.bridge.history.map HistoryEntry.attempt =
        [final.bridge.attempt] := by
  have carried : ((launcherMachine fun _ _ _ _ => none).replay
      Machine.unguarded (launched Unit) cancelledTooLate).map
        (fun reached =>
          (reached.1.any fun moment => decide (moment.label = .cancel ∧
            moment.answer = some 202 ∧
            moment.after.bridge.status = .cancelling ∧
            moment.before.bridge.attempt = reached.2.bridge.attempt),
          reached.2.bridge.status,
          reached.2.bridge.history.map HistoryEntry.attempt,
          reached.2.bridge.attempt)) =
      some (true, .completed, [1], 1) := by decide
  obtain ⟨trace, final, run, seen⟩ := Machine.exists_run_of_replay carried
  obtain ⟨cancels, rest⟩ := Prod.mk.inj seen
  obtain ⟨completed, rest⟩ := Prod.mk.inj rest
  obtain ⟨history, attempt⟩ := Prod.mk.inj rest
  obtain ⟨moment, member, cancelled⟩ := List.any_eq_true.mp cancels
  refine ⟨trace, final, run, ⟨moment, member, of_decide_eq_true cancelled⟩,
    completed, ?_⟩
  rw [history, attempt]

end SecAI.Launcher
