/-
Module: SecAI.Launcher.Effects
Purpose: The launcher of the scans of a Windows PC: the record that its requests
  and its worker share, their interleaved steps, one locked block at a time, and
  what each of them can do.
Trusted boundary: the scan runner, the evaluation of what it collects, the
  comparison of two results and the elevated process are known by what they
  return or raise; tokens are chosen by the environment
Main exports:
  BridgeState, Worker, LauncherEffect, launcher_step_effect, moveWorker_effect
-/
import Mathlib.Data.Char
import Mathlib.Data.List.Infix
import Mathlib.Data.List.Lex
import SecAI.Common.Ordered
import SecAI.Interleaving.Machine

namespace SecAI.Launcher

open Interleaving

/-! ## The shared record -/

/-- `_BridgeState.status`. -/
inductive JobStatus where
  | ready
  | running
  | cancelling
  | cancelled
  | failed
  | completed
deriving DecidableEq

/-- `_BridgeState.administrator_status`. -/
inductive AdministratorStatus where
  | notRequested
  | requestingUac
  /-- `ELEVATION_STARTED`. -/
  | started
  /-- `ELEVATION_CANCELLED`. -/
  | cancelledOrDenied
  /-- `ELEVATION_UNAVAILABLE`. -/
  | unavailable
  | failed
deriving DecidableEq

/-- A row of `build_control_results`, with what the launcher reads of it. -/
structure ControlResult where
  controlId : List Char
  displayStatus : List Char
  assessmentStatus : Option (List Char)
deriving DecidableEq

/-- `control.get("assessment_status", control["display_status"])`. -/
def ControlResult.shownStatus (control : ControlResult) : List Char :=
  control.assessmentStatus.getD control.displayStatus

/-- The `summary` of a comparison of two results. -/
structure ComparisonSummary where
  improved : Nat
  worsened : Nat
  unchanged : Nat
  remainingRisk : Nat

/-- What the worker knows about a scan before its last block. -/
structure ScanReport where
  total : Nat
  collected : Nat
  errors : Nat
  observedAt : Option (List Char)
  /-- Something was observed, so that the controls are assessed. -/
  isAssessed : Bool
  controls : List ControlResult
deriving DecidableEq

def ScanReport.hasCompleteRuleResults (report : ScanReport) : Bool :=
  report.controls.all fun control => control.assessmentStatus.isSome

/-- `state.summary`, with what differs between scans. -/
structure ScanSummary where
  totalProbes : Nat
  collectedProbes : Nat
  errorProbes : Nat

/-- One result in `result_history`. -/
structure HistoryEntry (Criteria : Type) where
  resultId : List Char
  sequence : Nat
  attempt : Nat
  observedAt : List Char
  changedControlCount : Nat
  comparison : Option ComparisonSummary
  controls : List ControlResult
  /-- `result_kind` is `LIVE_DRAFT_ASSESSMENT`. -/
  isLiveDraft : Bool
  criteria : Option Criteria

/-- `_BridgeState`, without the worker and its event. -/
structure BridgeState (Criteria : Type) where
  status : JobStatus
  jobId : Option (List Char)
  attempt : Nat
  progressPercent : Int
  currentStep : List Char
  currentControlId : Option (List Char)
  completedControlIds : List (List Char)
  message : List Char
  summary : Option ScanSummary
  history : List (HistoryEntry Criteria)
  errorReference : Option (List Char)
  administratorStatus : AdministratorStatus
  selectedProbeIds : List (List Char)
  resultToken : Option (List Char)
  criteria : Option Criteria

/-- Where a worker is between two steps that others can see. -/
inductive WorkerPhase where
  /-- The thread has not been started. -/
  | created
  /-- Inside the scan runner. -/
  | collecting
  /-- The runner has returned; the event has not been read yet. -/
  | collected
  /-- The event has been read for the last time. -/
  | evaluating
  /-- `HostCollectionCancelled` was raised. -/
  | stopping
  /-- Another exception was raised. -/
  | failing
  /-- Nothing but the last block is left. -/
  | finishing (report : ScanReport)
  /-- The last block is done, and the thread is still alive. -/
  | settled
  | ended
deriving DecidableEq

/-- A thread of `_run_scan_job` with its attempt and its event. -/
structure Worker where
  attempt : Nat
  cancelEvent : Bool
  phase : WorkerPhase

def Worker.isAlive (worker : Worker) : Bool :=
  decide (worker.phase ≠ .created ∧ worker.phase ≠ .ended)

/-- A request of an administrator run: the attempt whose result was shown when
it was made, its token, and the criteria that the process was started with. -/
structure AdministratorCall (Criteria : Type) where
  attempt : Nat
  selected : List (List Char)
  token : List Char
  startedWith : Option (Option Criteria)
  outcome : Option AdministratorStatus
deriving DecidableEq

/-- The shared record, the workers with the newest first, and the requests of
administrator runs with the newest first. -/
structure LauncherState (Criteria : Type) where
  bridge : BridgeState Criteria
  workers : List Worker
  calls : List (AdministratorCall Criteria)

def launched (Criteria : Type) : LauncherState Criteria :=
  { bridge :=
      { status := .ready
        jobId := none
        attempt := 0
        progressPercent := 0
        currentStep := "READY".toList
        currentControlId := none
        completedControlIds := []
        message := "점검을 시작할 수 있습니다.".toList
        summary := none
        history := []
        errorReference := none
        administratorStatus := .notRequested
        selectedProbeIds := []
        resultToken := none
        criteria := none }
    workers := []
    calls := [] }

/-! ## What the launcher reports -/

/-- The administrator part of a report. -/
structure AdministratorPayload where
  available : Bool
  status : AdministratorStatus
  selectedProbeIds : List (List Char)
  standardResultPreserved : Bool
  resultToken : Option (List Char)

/-- `_state_payload_unlocked`. -/
structure StatePayload (Criteria : Type) where
  status : JobStatus
  jobId : Option (List Char)
  attempt : Nat
  progressPercent : Int
  currentStep : List Char
  currentControlId : Option (List Char)
  completedControlIds : List (List Char)
  message : List Char
  scanAvailable : Bool
  canCancel : Bool
  canRetry : Bool
  canRecheck : Bool
  administrator : AdministratorPayload
  summary : Option ScanSummary
  result : Option (HistoryEntry Criteria)
  history : List (HistoryEntry Criteria)
  errorReference : Option (List Char)

section Steps

variable {Criteria : Type}

/-- `_state_payload_unlocked`. -/
def statePayload (bridge : BridgeState Criteria) : StatePayload Criteria :=
  { status := bridge.status
    jobId := bridge.jobId
    attempt := bridge.attempt
    progressPercent := bridge.progressPercent
    currentStep := bridge.currentStep
    currentControlId := bridge.currentControlId
    completedControlIds := Ordered.sortedSet bridge.completedControlIds
    message := bridge.message
    scanAvailable := decide (bridge.status = .ready)
    canCancel := decide (bridge.status = .running)
    canRetry := decide (bridge.status ∈ [.cancelled, .failed])
    canRecheck := decide (bridge.status = .completed)
    administrator :=
      { available := decide (bridge.status = .completed)
        status := bridge.administratorStatus
        selectedProbeIds := bridge.selectedProbeIds
        standardResultPreserved := decide (bridge.history ≠ [])
        resultToken := bridge.resultToken }
    summary := bridge.summary
    result :=
      if bridge.status = .completed then bridge.history.getLast? else none
    history := bridge.history
    errorReference := bridge.errorReference }

/-! ## The steps of a worker -/

/-- `progress` of `_run_scan_job`; what it raises reaches the runner. -/
def reportProgress (bridge : BridgeState Criteria) (worker : Worker)
    (step : List Char) (percent : Int) (message : List Char) :
    BridgeState Criteria :=
  if percent < 0 ∨ 99 < percent then bridge
  else if bridge.attempt ≠ worker.attempt ∨ worker.cancelEvent then bridge
  else
    let controlId :=
      if "CONTROL_PC_".toList.isPrefixOf step then
        some ((step.drop 8).map fun character =>
          if character = '_' then '-' else character)
      else none
    { bridge with
      status := .running
      currentStep := step
      currentControlId := controlId
      completedControlIds := bridge.completedControlIds ++ controlId.toList
      progressPercent := max bridge.progressPercent percent
      message := message }

/-- The block after `HostCollectionCancelled`. -/
def stopScan (bridge : BridgeState Criteria) : BridgeState Criteria :=
  { bridge with
    status := .cancelled
    currentStep := "CANCELLED".toList
    message :=
      "점검을 취소했습니다. 원하면 같은 화면에서 다시 시도할 수 있습니다.".toList
    summary := none
    errorReference := none }

def failScan (bridge : BridgeState Criteria) (reference : List Char) :
    BridgeState Criteria :=
  { bridge with
    status := .failed
    currentStep := "FAILED".toList
    message := "점검을 완료하지 못했습니다. 잠시 후 다시 시도해 주세요.".toList
    summary := none
    errorReference := some reference }

/-- `build_recheck_comparison` of the previous result and the controls of the
result with an identifier and a sequence number, unless it raises. -/
abbrev Compare (Criteria : Type) :=
  HistoryEntry Criteria → List Char → Nat → List ControlResult →
    Option ComparisonSummary

/-- The comparison with the previous result, if there is one to be made; none
if it raises. -/
def comparisonOf (compare : Compare Criteria) (bridge : BridgeState Criteria)
    (report : ScanReport) (resultId : List Char) :
    Option (Option ComparisonSummary) :=
  match bridge.history.getLast? with
  | none => some none
  | some previous =>
      if report.hasCompleteRuleResults && previous.isLiveDraft then
        (compare previous resultId (bridge.history.length + 1)
          report.controls).map some
      else some none

def changedControlCount (previous : List ControlResult)
    (controls : List ControlResult) : Nat :=
  if previous = [] then 0
  else controls.countP fun control =>
    !((previous.reverse.find? fun other =>
        decide (other.controlId = control.controlId)).any fun other =>
      decide (other.shownStatus = control.shownStatus))

/-- The last block of a scan that is not cancelled.  The status is set before
the comparison is made. -/
def finishScan (compare : Compare Criteria) (bridge : BridgeState Criteria)
    (attempt : Nat) (report : ScanReport) (resultId : List Char) :
    BridgeState Criteria :=
  let completed := { bridge with
    status := .completed
    currentStep := "COMPLETED".toList
    progressPercent := 100
    message := "일반 권한 점검을 마쳤습니다.".toList
    summary := some
      { totalProbes := report.total
        collectedProbes := report.collected
        errorProbes := report.errors } }
  match comparisonOf compare bridge report resultId with
  | none => completed
  | some comparison =>
      let changed := match comparison with
        | some summary => summary.improved + summary.worsened
        | none => changedControlCount
            ((bridge.history.getLast?.map HistoryEntry.controls).getD [])
            report.controls
      { completed with
        history := bridge.history ++ [
          { resultId := resultId
            sequence := bridge.history.length + 1
            attempt := attempt
            observedAt := report.observedAt.getD "UNKNOWN".toList
            changedControlCount := changed
            comparison := comparison
            controls := report.controls
            isLiveDraft := report.isAssessed
            criteria := bridge.criteria }]
        errorReference := none }

/-- What the scan runner does in the end. -/
inductive RunnerOutcome where
  | returned
  | cancelled
  | raised
deriving DecidableEq

/-- One step of a worker.  `percent`, `message` and the tokens are those that
the step comes with. -/
inductive WorkerMove where
  /-- `worker.start()`. -/
  | start
  | progress (step : List Char) (percent : Int) (message : List Char)
  | collect (outcome : RunnerOutcome)
  /-- `if cancel_event.is_set()`. -/
  | check
  /-- Everything up to the last block, which raises without a report. -/
  | evaluate (report : Option ScanReport)
  /-- The last locked block. -/
  | settle (token : List Char)
  | exit
deriving DecidableEq

/-- The last locked block; an attempt that is not the current one changes
nothing. -/
def settleWorker (compare : Compare Criteria) (bridge : BridgeState Criteria)
    (worker : Worker) (token : List Char) :
    WorkerPhase → Option (BridgeState Criteria)
  | .stopping => some
      (if bridge.attempt ≠ worker.attempt then bridge else stopScan bridge)
  | .failing => some
      (if bridge.attempt ≠ worker.attempt then bridge
      else failScan bridge token)
  | .finishing report => some
      (if bridge.attempt ≠ worker.attempt then bridge
      else finishScan compare bridge worker.attempt report token)
  | _ => none

/-- One step of `_run_scan_job`. -/
def moveWorker (compare : Compare Criteria) (bridge : BridgeState Criteria)
    (worker : Worker) : WorkerMove → Option (BridgeState Criteria × WorkerPhase)
  | .start =>
      if worker.phase = .created then some (bridge, .collecting) else none
  | .progress step percent message =>
      if worker.phase = .collecting then
        some (reportProgress bridge worker step percent message, .collecting)
      else none
  | .collect outcome =>
      if worker.phase = .collecting then
        some (bridge, match outcome with
          | .returned => .collected
          | .cancelled => .stopping
          | .raised => .failing)
      else none
  | .check =>
      if worker.phase = .collected then
        some (bridge, if worker.cancelEvent then .stopping else .evaluating)
      else none
  | .evaluate report =>
      if worker.phase = .evaluating then
        some (bridge, match report with
          | some report => .finishing report
          | none => .failing)
      else none
  | .settle token =>
      (settleWorker compare bridge worker token worker.phase).map
        fun bridge => (bridge, .settled)
  | .exit => if worker.phase = .settled then some (bridge, .ended) else none

/-! ## The requests -/

/-- The requests that start an attempt. -/
inductive ScanAction where
  | scan
  | retry
  | recheck
deriving DecidableEq

/-- `allowed_by_action`. -/
def ScanAction.allowed : ScanAction → List JobStatus
  | .scan => [.ready]
  | .retry => [.cancelled, .failed]
  | .recheck => [.completed]

/-- The code of an answer; the steps of a worker have none. -/
abbrev Reply := Option Nat

/-- `_begin_scan` accepts. -/
def beginAccepted (state : LauncherState Criteria) (action : ScanAction) :
    Prop :=
  state.bridge.status ∈ action.allowed ∧
    (state.workers.head?.any Worker.isAlive) = false

instance (state : LauncherState Criteria) (action : ScanAction) :
    Decidable (beginAccepted state action) :=
  inferInstanceAs (Decidable (_ ∧ _))

def beginAttempt (bridge : BridgeState Criteria) (criteria : Option Criteria)
    (token : List Char) : BridgeState Criteria :=
  { bridge with
    jobId := some (bridge.jobId.getD token)
    attempt := bridge.attempt + 1
    status := .running
    progressPercent := 0
    currentStep := "STARTING".toList
    currentControlId := none
    completedControlIds := []
    message := "점검을 시작하고 있습니다.".toList
    summary := none
    errorReference := none
    criteria := criteria <|> bridge.criteria }

/-- `_begin_scan`, up to the start of the thread. -/
def beginScan (state : LauncherState Criteria) (action : ScanAction)
    (criteria : Option Criteria) (token : List Char) :
    Reply × LauncherState Criteria :=
  if beginAccepted state action then
    (some 202, { state with
      bridge := beginAttempt state.bridge criteria token
      workers := ⟨state.bridge.attempt + 1, false, .created⟩ :: state.workers })
  else (some 409, state)

def setCancelEvent : List Worker → List Worker
  | [] => []
  | worker :: past => { worker with cancelEvent := true } :: past

def cancelScan (state : LauncherState Criteria) :
    Reply × LauncherState Criteria :=
  match state.bridge.status with
  | .running =>
      (some 202, { state with
        bridge := { state.bridge with
          status := .cancelling
          currentStep := "CANCELLING".toList
          message :=
            "현재 확인 항목을 안전하게 마친 뒤 점검을 취소합니다.".toList }
        workers := setCancelEvent state.workers })
  | .cancelling => (some 202, state)
  | _ => (some 409, state)

/-- The first block of `_launch_administrator`; none behind a refusal. -/
def requestAdministrator (state : LauncherState Criteria)
    (selected : List (List Char)) (token : List Char) :
    Reply × LauncherState Criteria :=
  if state.bridge.status ≠ .completed ∨ state.bridge.administratorStatus ∉
      [.notRequested, .cancelledOrDenied, .failed] then (some 409, state)
  else
    (none, { state with
      bridge := { state.bridge with
        administratorStatus := .requestingUac
        selectedProbeIds := selected
        resultToken := some token }
      calls := ⟨state.bridge.attempt, selected, token, none, none⟩ ::
        state.calls })

/-- The elevated process is requested, without the lock, with the criteria that
are in the record at that time. -/
def elevate (state : LauncherState Criteria) (index : Nat) :
    Option (LauncherState Criteria) := do
  let call ← state.calls[index]?
  if call.startedWith.isSome ∨ call.outcome.isSome then none
  else
    return { state with
      calls := state.calls.set index
        { call with startedWith := some state.bridge.criteria } }

def outcomeReply : AdministratorStatus → Nat
  | .started => 202
  | .cancelledOrDenied => 200
  | _ => 503

/-- The last block of `_launch_administrator`. -/
def settleAdministrator (state : LauncherState Criteria) (index : Nat)
    (outcome : AdministratorStatus) :
    Option (Reply × LauncherState Criteria) := do
  let call ← state.calls[index]?
  if call.outcome.isSome ∨
      outcome ∉ [.started, .cancelledOrDenied, .unavailable, .failed] then none
  else
    return (some (outcomeReply outcome), { state with
      bridge := { state.bridge with
        administratorStatus := outcome
        resultToken :=
          if outcome = .started then state.bridge.resultToken else none }
      calls := state.calls.set index { call with outcome := some outcome } })

def resetAdministrator (state : LauncherState Criteria) :
    Reply × LauncherState Criteria :=
  if state.bridge.status ≠ .completed ∨ state.bridge.administratorStatus ∉
      [.started, .cancelledOrDenied, .failed, .unavailable] then
    (some 409, state)
  else
    (some 200, { state with
      bridge := { state.bridge with
        administratorStatus := .notRequested
        selectedProbeIds := []
        resultToken := none } })

/-! ## The interleaving -/

/-- A step of the launcher. -/
inductive LauncherLabel (Criteria : Type) where
  | begin (action : ScanAction) (criteria : Option Criteria)
      (token : List Char)
  | cancel
  | requestAdministrator (selected : List (List Char)) (token : List Char)
  | elevate (index : Nat)
  | settleAdministrator (index : Nat) (outcome : AdministratorStatus)
  | resetAdministrator
  | work (index : Nat) (move : WorkerMove)
deriving DecidableEq

/-- One step of a worker, among the others. -/
def workOn (compare : Compare Criteria) (state : LauncherState Criteria)
    (index : Nat) (move : WorkerMove) : Option (LauncherState Criteria) := do
  let worker ← state.workers[index]?
  let (bridge, phase) ← moveWorker compare state.bridge worker move
  return { state with
    bridge := bridge
    workers := state.workers.set index { worker with phase := phase } }

def launcherMachine (compare : Compare Criteria) :
    Machine (LauncherState Criteria) (LauncherLabel Criteria) Reply where
  step := fun state label =>
    match label with
    | .begin action criteria token =>
        some (beginScan state action criteria token)
    | .cancel => some (cancelScan state)
    | .requestAdministrator selected token =>
        some (requestAdministrator state selected token)
    | .elevate index => (elevate state index).map fun after => (none, after)
    | .settleAdministrator index outcome =>
        settleAdministrator state index outcome
    | .resetAdministrator => some (resetAdministrator state)
    | .work index move =>
        (workOn compare state index move).map fun after => (none, after)

end Steps

variable {Criteria : Type} {compare : Compare Criteria}

def BridgeState.administered (bridge : BridgeState Criteria)
    (status : AdministratorStatus) (selected : List (List Char))
    (token : Option (List Char)) : BridgeState Criteria :=
  { bridge with
    administratorStatus := status
    selectedProbeIds := selected
    resultToken := token }

def BridgeState.cancelling (bridge : BridgeState Criteria) :
    BridgeState Criteria :=
  { bridge with
    status := .cancelling
    currentStep := "CANCELLING".toList
    message := "현재 확인 항목을 안전하게 마친 뒤 점검을 취소합니다.".toList }

/-- The effects of the steps, with what their guards ensure. -/
inductive LauncherEffect (compare : Compare Criteria)
    (before : LauncherState Criteria) :
    LauncherLabel Criteria → Reply → LauncherState Criteria → Prop where
  | begun {action : ScanAction} {criteria : Option Criteria}
      {token : List Char} (accepted : beginAccepted before action) :
      LauncherEffect compare before (.begin action criteria token) (some 202)
        { before with
          bridge := beginAttempt before.bridge criteria token
          workers :=
            ⟨before.bridge.attempt + 1, false, .created⟩ :: before.workers }
  | cancelled (running : before.bridge.status = .running) :
      LauncherEffect compare before .cancel (some 202)
        { before with
          bridge := before.bridge.cancelling
          workers := setCancelEvent before.workers }
  | stillCancelling (cancelling : before.bridge.status = .cancelling) :
      LauncherEffect compare before .cancel (some 202) before
  | refused {label : LauncherLabel Criteria} :
      LauncherEffect compare before label (some 409) before
  | requested {selected : List (List Char)} {token : List Char}
      (completed : before.bridge.status = .completed)
      (free : before.bridge.administratorStatus ∈
        [.notRequested, .cancelledOrDenied, .failed]) :
      LauncherEffect compare before (.requestAdministrator selected token) none
        { before with
          bridge := before.bridge.administered .requestingUac selected
            (some token)
          calls := ⟨before.bridge.attempt, selected, token, none, none⟩ ::
            before.calls }
  | elevated {index : Nat} {call : AdministratorCall Criteria}
      (found : before.calls[index]? = some call)
      (waiting : call.startedWith = none) (isOpen : call.outcome = none) :
      LauncherEffect compare before (.elevate index) none
        { before with
          calls := before.calls.set index
            { call with startedWith := some before.bridge.criteria } }
  | answered {index : Nat} {outcome : AdministratorStatus}
      {call : AdministratorCall Criteria}
      (found : before.calls[index]? = some call) (isOpen : call.outcome = none)
      (possible : outcome ∈
        [.started, .cancelledOrDenied, .unavailable, .failed]) :
      LauncherEffect compare before (.settleAdministrator index outcome)
        (some (outcomeReply outcome))
        { before with
          bridge := before.bridge.administered outcome
            before.bridge.selectedProbeIds
            (if outcome = .started then before.bridge.resultToken else none)
          calls := before.calls.set index
            { call with outcome := some outcome } }
  | reset (completed : before.bridge.status = .completed)
      (closed : before.bridge.administratorStatus ∈
        [.started, .cancelledOrDenied, .failed, .unavailable]) :
      LauncherEffect compare before .resetAdministrator (some 200)
        { before with
          bridge := before.bridge.administered .notRequested [] none }
  | worked {index : Nat} {move : WorkerMove} {worker : Worker}
      {bridge : BridgeState Criteria} {phase : WorkerPhase}
      (found : before.workers[index]? = some worker)
      (moved : moveWorker compare before.bridge worker move =
        some (bridge, phase)) :
      LauncherEffect compare before (.work index move) none
        { before with
          bridge := bridge
          workers := before.workers.set index { worker with phase := phase } }

/-- The step lemma: a step has one of the listed effects. -/
theorem launcher_step_effect {before after : LauncherState Criteria}
    {label : LauncherLabel Criteria} {reply : Reply}
    (made : (launcherMachine compare).step before label =
      some (reply, after)) :
    LauncherEffect compare before label reply after := by
  cases label with
  | begin action criteria token =>
      simp only [launcherMachine, beginScan, Option.some.injEq] at made
      split at made
      case isTrue accepted => cases made; exact .begun accepted
      case isFalse => cases made; exact .refused
  | cancel =>
      simp only [launcherMachine, cancelScan, Option.some.injEq] at made
      split at made
      case h_1 running => cases made; exact .cancelled running
      case h_2 cancelling => cases made; exact .stillCancelling cancelling
      case h_3 => cases made; exact .refused
  | requestAdministrator selected token =>
      simp only [launcherMachine, requestAdministrator,
        Option.some.injEq] at made
      split at made
      case isTrue => cases made; exact .refused
      case isFalse accepted =>
        cases made
        obtain ⟨completed, free⟩ := not_or.mp accepted
        exact .requested (not_not.mp completed) (not_not.mp free)
  | elevate index =>
      simp only [launcherMachine, elevate, Option.map_eq_some_iff] at made
      obtain ⟨final, done, same⟩ := made
      cases same
      obtain ⟨call, found, rest⟩ := Option.bind_eq_some_iff.mp done
      split at rest
      case isTrue => cases rest
      case isFalse accepted =>
        cases rest
        rw [not_or, Option.not_isSome_iff_eq_none,
          Option.not_isSome_iff_eq_none] at accepted
        exact .elevated found accepted.1 accepted.2
  | settleAdministrator index outcome =>
      simp only [launcherMachine, settleAdministrator] at made
      obtain ⟨call, found, rest⟩ := Option.bind_eq_some_iff.mp made
      split at rest
      case isTrue => cases rest
      case isFalse accepted =>
        cases rest
        obtain ⟨isOpen, possible⟩ := not_or.mp accepted
        exact .answered found (Option.not_isSome_iff_eq_none.mp isOpen)
          (not_not.mp possible)
  | resetAdministrator =>
      simp only [launcherMachine, resetAdministrator,
        Option.some.injEq] at made
      split at made
      case isTrue => cases made; exact .refused
      case isFalse accepted =>
        cases made
        obtain ⟨completed, closed⟩ := not_or.mp accepted
        exact .reset (not_not.mp completed) (not_not.mp closed)
  | work index move =>
      simp only [launcherMachine, workOn, Option.map_eq_some_iff] at made
      obtain ⟨final, done, same⟩ := made
      cases same
      obtain ⟨worker, found, rest⟩ := Option.bind_eq_some_iff.mp done
      obtain ⟨⟨bridge, phase⟩, moved, last⟩ := Option.bind_eq_some_iff.mp rest
      cases last
      exact .worked found moved

/-- The thread of a worker is still inside `_run_scan_job`, or will be. -/
def WorkerPhase.IsActive (phase : WorkerPhase) : Prop :=
  phase ≠ .settled ∧ phase ≠ .ended

/-- What a move of the worker of the current attempt does. -/
inductive WorkerEffect (compare : Compare Criteria)
    (bridge : BridgeState Criteria) (worker : Worker) :
    WorkerMove → BridgeState Criteria → WorkerPhase → Prop where
  | advanced {move : WorkerMove} {phase : WorkerPhase}
      (active : worker.phase.IsActive) (still : phase.IsActive) :
      WorkerEffect compare bridge worker move bridge phase
  | reported {step message : List Char} {percent : Int}
      (active : worker.phase.IsActive) (bound : percent ≤ 99)
      (uncancelled : worker.cancelEvent = false) :
      WorkerEffect compare bridge worker (.progress step percent message)
        (reportProgress bridge worker step percent message) .collecting
  | stopped {token : List Char} (active : worker.phase.IsActive) :
      WorkerEffect compare bridge worker (.settle token) (stopScan bridge)
        .settled
  | failed {token : List Char} (active : worker.phase.IsActive) :
      WorkerEffect compare bridge worker (.settle token)
        (failScan bridge token) .settled
  | finished {token : List Char} {report : ScanReport}
      (phase : worker.phase = .finishing report) :
      WorkerEffect compare bridge worker (.settle token)
        (finishScan compare bridge worker.attempt report token) .settled
  | exited (phase : worker.phase = .settled) :
      WorkerEffect compare bridge worker .exit bridge .ended

/-- The move of a worker of the current attempt has one of these effects. -/
theorem moveWorker_effect {bridge after : BridgeState Criteria}
    {worker : Worker} {move : WorkerMove} {phase : WorkerPhase}
    (current : worker.attempt = bridge.attempt)
    (moved : moveWorker compare bridge worker move = some (after, phase)) :
    WorkerEffect compare bridge worker move after phase := by
  cases move with
  | start =>
      simp only [moveWorker, Option.ite_none_right_eq_some] at moved
      obtain ⟨created, same⟩ := moved
      cases same
      exact .advanced (by simp [created, WorkerPhase.IsActive])
        (by simp [WorkerPhase.IsActive])
  | progress step percent message =>
      simp only [moveWorker, Option.ite_none_right_eq_some] at moved
      obtain ⟨collecting, same⟩ := moved
      have active : worker.phase.IsActive := by
        simp [collecting, WorkerPhase.IsActive]
      cases same
      by_cases shown : 0 ≤ percent ∧ percent ≤ 99 ∧ worker.cancelEvent = false
      case pos => exact .reported active shown.2.1 shown.2.2
      case neg =>
        have ignored : reportProgress bridge worker step percent message =
            bridge := by
          unfold reportProgress
          split
          case isTrue => rfl
          case isFalse inside =>
            refine if_pos (.inr ?_)
            rw [← Bool.not_eq_false]
            intro uncancelled
            exact shown ⟨by omega, by omega, uncancelled⟩
        rw [ignored]
        exact .advanced active (by simp [WorkerPhase.IsActive])
  | collect outcome =>
      simp only [moveWorker, Option.ite_none_right_eq_some] at moved
      obtain ⟨collecting, same⟩ := moved
      cases same
      exact .advanced (by simp [collecting, WorkerPhase.IsActive])
        (by cases outcome <;> simp [WorkerPhase.IsActive])
  | check =>
      simp only [moveWorker, Option.ite_none_right_eq_some] at moved
      obtain ⟨collected, same⟩ := moved
      cases same
      exact .advanced (by simp [collected, WorkerPhase.IsActive])
        (by cases worker.cancelEvent <;> simp [WorkerPhase.IsActive])
  | evaluate report =>
      simp only [moveWorker, Option.ite_none_right_eq_some] at moved
      obtain ⟨evaluating, same⟩ := moved
      cases same
      exact .advanced (by simp [evaluating, WorkerPhase.IsActive])
        (by cases report <;> simp [WorkerPhase.IsActive])
  | settle token =>
      simp only [moveWorker, Option.map_eq_some_iff] at moved
      obtain ⟨final, settled, same⟩ := moved
      cases same
      have notOther : ¬bridge.attempt ≠ worker.attempt := by
        simp [current]
      cases phase : worker.phase with
      | stopping =>
          rw [phase, settleWorker, if_neg notOther] at settled
          cases settled
          exact .stopped (by simp [phase, WorkerPhase.IsActive])
      | failing =>
          rw [phase, settleWorker, if_neg notOther] at settled
          cases settled
          exact .failed (by simp [phase, WorkerPhase.IsActive])
      | finishing report =>
          rw [phase, settleWorker, if_neg notOther] at settled
          cases settled
          exact .finished phase
      | created | collecting | collected | evaluating | settled | ended =>
          rw [phase, settleWorker] at settled
          · cases settled
          all_goals nofun
  | exit =>
      simp only [moveWorker, Option.ite_none_right_eq_some] at moved
      obtain ⟨settled, same⟩ := moved
      cases same
      exact .exited settled

theorem moveWorker_ended {bridge : BridgeState Criteria} {worker : Worker}
    (ended : worker.phase = .ended) (move : WorkerMove) :
    moveWorker compare bridge worker move = none := by
  cases move <;> simp [moveWorker, settleWorker, ended]

section Blocks

variable (bridge : BridgeState Criteria) (worker : Worker)
variable (step : List Char) (percent : Int) (message : List Char)

@[simp] theorem reportProgress_attempt :
    (reportProgress bridge worker step percent message).attempt =
      bridge.attempt := by
  unfold reportProgress
  split_ifs <;> rfl

@[simp] theorem reportProgress_history :
    (reportProgress bridge worker step percent message).history =
      bridge.history := by
  unfold reportProgress
  split_ifs <;> rfl

theorem reportProgress_status (running : bridge.status = .running) :
    (reportProgress bridge worker step percent message).status =
      .running := by
  unfold reportProgress
  split
  case isTrue => exact running
  case isFalse =>
    split
    case isTrue => exact running
    case isFalse => rfl

theorem le_reportProgress :
    bridge.progressPercent ≤
      (reportProgress bridge worker step percent message).progressPercent := by
  unfold reportProgress
  split
  case isTrue => exact le_refl _
  case isFalse =>
    split
    case isTrue => exact le_refl _
    case isFalse => exact le_max_left _ _

theorem reportProgress_le (shown : bridge.progressPercent ≤ 99)
    (bound : percent ≤ 99) :
    (reportProgress bridge worker step percent message).progressPercent ≤
      99 := by
  unfold reportProgress
  split
  case isTrue => exact shown
  case isFalse =>
    split
    case isTrue => exact shown
    case isFalse => exact max_le shown bound

end Blocks

@[simp] theorem finishScan_status (bridge : BridgeState Criteria)
    (attempt : Nat) (report : ScanReport) (token : List Char) :
    (finishScan compare bridge attempt report token).status = .completed := by
  unfold finishScan
  cases comparisonOf compare bridge report token <;> rfl

@[simp] theorem finishScan_attempt (bridge : BridgeState Criteria)
    (attempt : Nat) (report : ScanReport) (token : List Char) :
    (finishScan compare bridge attempt report token).attempt =
      bridge.attempt := by
  unfold finishScan
  cases comparisonOf compare bridge report token <;> rfl

@[simp] theorem finishScan_progressPercent (bridge : BridgeState Criteria)
    (attempt : Nat) (report : ScanReport) (token : List Char) :
    (finishScan compare bridge attempt report token).progressPercent =
      100 := by
  unfold finishScan
  cases comparisonOf compare bridge report token <;> rfl

@[simp] theorem finishScan_criteria (bridge : BridgeState Criteria)
    (attempt : Nat) (report : ScanReport) (token : List Char) :
    (finishScan compare bridge attempt report token).criteria =
      bridge.criteria := by
  unfold finishScan
  cases comparisonOf compare bridge report token <;> rfl

theorem finishScan_history_unmade {bridge : BridgeState Criteria}
    {report : ScanReport} {token : List Char} (attempt : Nat)
    (unmade : comparisonOf compare bridge report token = none) :
    (finishScan compare bridge attempt report token).history =
      bridge.history := by
  unfold finishScan
  rw [unmade]

theorem finishScan_history {bridge : BridgeState Criteria}
    {report : ScanReport} {token : List Char}
    {comparison : Option ComparisonSummary} (attempt : Nat)
    (made : comparisonOf compare bridge report token = some comparison) :
    ∃ entry : HistoryEntry Criteria,
      (finishScan compare bridge attempt report token).history =
        bridge.history ++ [entry] ∧
      entry.attempt = attempt ∧
      entry.sequence = bridge.history.length + 1 ∧
      entry.criteria = bridge.criteria := by
  unfold finishScan
  rw [made]
  exact ⟨_, rfl, rfl, rfl, rfl⟩

end SecAI.Launcher
