/-
Module: SecAI.LinuxAudit.Thread
Purpose: The row and the event log of a Linux audit run, its thread from the
  start to the last handler, and the cancellation requests that reach it.
Trusted boundary: each statement is atomic and sees what is committed; a
  database call either commits or raises without effect
Main exports:
  AuditRunRow, AuditTables, Phase, Luck, AuditState, AuditLabel
-/
import SecAI.Common.Ordered
import SecAI.Package.Json
import SecAI.Interleaving.Machine

namespace SecAI.LinuxAudit

/-- The status values that a run over SSH takes. -/
inductive RunStatus where
  | queued
  | running
  | completed
  | failed
  | cancelled
deriving DecidableEq

/-- `status in {"COMPLETED", "FAILED", "CANCELLED"}`; the other statuses are
those that the updates ask for. -/
def RunStatus.isTerminal : RunStatus → Bool
  | .queued | .running => false
  | .completed | .failed | .cancelled => true

/-- The columns of a row of `linux_audit_runs` that change during a run. -/
structure AuditRunRow where
  status : RunStatus
  resultJson : Option Json
  resultSha256 : Option String
  cancellationRequested : Bool

/-- A row of `linux_audit_events`. -/
structure AuditEvent where
  sequence : Nat
  eventType : String
  payload : Json
deriving DecidableEq

/-- One run and its events. -/
structure AuditTables where
  row : AuditRunRow
  events : List AuditEvent

def createLinuxAuditRun : AuditTables :=
  { row :=
      { status := .queued
        resultJson := none
        resultSha256 := none
        cancellationRequested := false }
    events := [] }

/-- `SELECT COALESCE(max(sequence), 0) + 1`. -/
def nextSequence (events : List AuditEvent) : Nat :=
  (events.map AuditEvent.sequence).foldl max 0 + 1

/-- `append_linux_audit_event`, with the run locked. -/
def appendLinuxAuditEvent (tables : AuditTables) (eventType : String)
    (payload : Json) : AuditTables :=
  { tables with
    events := tables.events ++
      [{ sequence := nextSequence tables.events
         eventType := eventType
         payload := payload }] }

/-- `sequence > :after`. -/
def AuditEvent.isAfter (cursor : Int) (event : AuditEvent) : Bool :=
  decide (cursor < event.sequence)

def listLinuxAuditEvents (tables : AuditTables) (after : Int) :
    List AuditEvent :=
  (Ordered.sortedBy AuditEvent.sequence
    (tables.events.filter (AuditEvent.isAfter after))).take 200

def markLinuxAuditRunning (tables : AuditTables) : AuditTables :=
  if tables.row.status = .queued then
    { tables with row := { tables.row with status := .running } }
  else tables

/-- `finish_linux_audit_run`; the results are coalesced with the stored
ones. -/
def finishLinuxAuditRun (tables : AuditTables) (status : RunStatus)
    (resultJson : Option Json) (resultSha256 : Option String) : AuditTables :=
  if tables.row.status.isTerminal then tables
  else
    { tables with
      row := { tables.row with
        status := status
        resultJson := resultJson.or tables.row.resultJson
        resultSha256 := resultSha256.or tables.row.resultSha256 } }

/-- `request_linux_audit_cancellation`: whether a row was updated. -/
def requestLinuxAuditCancellation (tables : AuditTables) :
    Bool × AuditTables :=
  if tables.row.status.isTerminal then (false, tables)
  else
    (true, { tables with
      row := { tables.row with cancellationRequested := true } })

end SecAI.LinuxAudit

namespace SecAI.LinuxAudit

open Interleaving

/-- An exception, by the handler that catches it: `except InterruptedError`
or `except Exception`. -/
inductive Raised where
  | interrupted
  | other

/-- What the thread does next.  Each constructor is one call of
`_run_linux_audit`, or one look at the cancellation of the run. -/
inductive Phase where
  /-- `start_linux_audit_thread` has not registered the event yet. -/
  | unstarted
  /-- `mark_linux_audit_running`. -/
  | marking
  /-- The event `RUN_STARTED`. -/
  | announcing
  /-- `_secured_ssh_material`. -/
  | preparing
  /-- `cancel.is_set()` before one of the `left` detection commands. -/
  | detecting (attempt left : Nat)
  /-- `load_linux_audit_run` of the same look, the event being clear, and
  then the command. -/
  | detectingRow (attempt left : Nat)
  /-- The event `PREFLIGHT_RETRY`. -/
  | retrying (attempt : Nat)
  /-- `_validate_target_distribution` and the platform catalog. -/
  | validating
  /-- The event `PLATFORM_IDENTIFIED`. -/
  | identifying
  /-- `cancel.is_set()` before the next command of the plan. -/
  | collecting (commands : List String)
  /-- `load_linux_audit_run` of the same look. -/
  | collectingRow (command : String) (commands : List String)
  /-- The event `PROBE_PROGRESS` of a started command. -/
  | starting (command : String) (commands : List String)
  /-- The command, and the event `PROBE_PROGRESS` of its end. -/
  | finishing (command : String) (commands : List String)
  /-- `if batch.cancelled or cancel.is_set()`. -/
  | checking
  /-- `evaluate_kisa_unix`. -/
  | evaluating
  /-- The event `CONTROL_COMPLETED` of the next control, and after the last
  one the result itself. -/
  | reporting (controls : List Json)
  /-- `finish_linux_audit_run(status="COMPLETED")`. -/
  | completing
  /-- The event `RUN_COMPLETED`. -/
  | announcingCompleted
  /-- `finish_linux_audit_run(status="CANCELLED")`. -/
  | cancelling
  /-- The event `RUN_CANCELLED`. -/
  | announcingCancelled
  /-- `finish_linux_audit_run(status="FAILED")`. -/
  | failing
  /-- The event `RUN_FAILED`. -/
  | announcingFailed
  /-- `_CANCELLATIONS.pop(run_id, None)`. -/
  | cleaning
  | ended
deriving DecidableEq

/-- The handler that an exception inside the `try` block reaches. -/
def Raised.handler : Raised → Phase
  | .interrupted => .cancelling
  | .other => .failing

/-- What the collection and the evaluation of a run produce. -/
structure AuditEnvironment where
  /-- The commands of `adapter.plan`. -/
  commands : List String
  /-- The payloads of the `CONTROL_COMPLETED` events. -/
  controls : List Json
  resultJson : Json
  resultSha256 : String

/-- What a step of the thread meets: whether its call raises, whether the
detection has its two outputs, and what its event carries. -/
structure Luck where
  raises : Option Raised := none
  detected : Bool := true
  payload : Json := .null

/-- A run with its thread and the cancellation requests on their way. -/
structure AuditState where
  tables : AuditTables
  phase : Phase
  /-- The `threading.Event` is set. -/
  cancel : Bool
  /-- `_CANCELLATIONS` holds the event. -/
  registered : Bool
  /-- The requests between their transaction and `event.set()`. -/
  signals : Nat

/-- The run as `start_linux_audit` has committed it. -/
def createdRun : AuditState :=
  { tables := createLinuxAuditRun
    phase := .unstarted
    cancel := false
    registered := false
    signals := 0 }

/-- A call inside the `try` block: it commits `tables` and the thread goes on
with `next`, or it raises and a handler takes over. -/
def AuditState.call (state : AuditState) (luck : Luck) (tables : AuditTables)
    (next : Phase) : AuditState :=
  match luck.raises with
  | none => { state with tables := tables, phase := next }
  | some raised => { state with phase := raised.handler }

/-- A call inside a handler: what it raises leaves the thread through
`finally`. -/
def AuditState.callHandled (state : AuditState) (luck : Luck)
    (tables : AuditTables) (next : Phase) : AuditState :=
  match luck.raises with
  | none => { state with tables := tables, phase := next }
  | some _ => { state with phase := .cleaning }

/-- `_event`. -/
def AuditState.appended (state : AuditState) (eventType : String)
    (luck : Luck) : AuditTables :=
  appendLinuxAuditEvent state.tables eventType luck.payload

def advance (env : AuditEnvironment) (luck : Luck) (state : AuditState) :
    Option AuditState :=
  match state.phase with
  | .unstarted => some { state with registered := true, phase := .marking }
  | .marking =>
      some (state.call luck (markLinuxAuditRunning state.tables) .announcing)
  | .announcing =>
      some (state.call luck (state.appended "RUN_STARTED" luck) .preparing)
  | .preparing => some (state.call luck state.tables (.detecting 1 2))
  | .detecting attempt 0 =>
      some { state with
        phase :=
          if !luck.detected && attempt < 2 then .retrying attempt
          else .validating }
  | .detecting attempt (left + 1) =>
      some { state with
        phase :=
          if state.cancel then .cancelling
          else .detectingRow attempt left }
  | .detectingRow attempt left =>
      some (state.call luck state.tables
        (if state.tables.row.cancellationRequested then .cancelling
          else .detecting attempt left))
  | .retrying attempt =>
      some (state.call luck (state.appended "PREFLIGHT_RETRY" luck)
        (.detecting (attempt + 1) 2))
  | .validating => some (state.call luck state.tables .identifying)
  | .identifying =>
      some (state.call luck (state.appended "PLATFORM_IDENTIFIED" luck)
        (.collecting env.commands))
  | .collecting [] => some { state with phase := .checking }
  | .collecting (command :: commands) =>
      some { state with
        phase :=
          if state.cancel then .cancelling
          else .collectingRow command commands }
  | .collectingRow command commands =>
      some (state.call luck state.tables
        (if state.tables.row.cancellationRequested then .cancelling
          else .starting command commands))
  | .starting command commands =>
      some (state.call luck (state.appended "PROBE_PROGRESS" luck)
        (.finishing command commands))
  | .finishing _ commands =>
      some (state.call luck (state.appended "PROBE_PROGRESS" luck)
        (.collecting commands))
  | .checking =>
      some { state with
        phase := if state.cancel then .cancelling else .evaluating }
  | .evaluating =>
      some (state.call luck state.tables (.reporting env.controls))
  | .reporting (control :: controls) =>
      some (state.call luck
        (appendLinuxAuditEvent state.tables "CONTROL_COMPLETED" control)
        (.reporting controls))
  | .reporting [] => some (state.call luck state.tables .completing)
  | .completing =>
      some (state.call luck
        (finishLinuxAuditRun state.tables .completed (some env.resultJson)
          (some env.resultSha256)) .announcingCompleted)
  | .announcingCompleted =>
      some (state.call luck (state.appended "RUN_COMPLETED" luck) .cleaning)
  | .cancelling =>
      some (state.callHandled luck
        (finishLinuxAuditRun state.tables .cancelled none none)
        .announcingCancelled)
  | .announcingCancelled =>
      some (state.callHandled luck (state.appended "RUN_CANCELLED" luck)
        .cleaning)
  | .failing =>
      some (state.callHandled luck
        (finishLinuxAuditRun state.tables .failed none none) .announcingFailed)
  | .announcingFailed =>
      some (state.callHandled luck (state.appended "RUN_FAILED" luck)
        .cleaning)
  | .cleaning => some { state with registered := false, phase := .ended }
  | .ended => none

/-- The transaction of `cancel_linux_audit`; a request that updated the row
goes on to signal the event. -/
def cancelLinuxAudit (state : AuditState) : Bool × AuditState :=
  let (requested, tables) := requestLinuxAuditCancellation state.tables
  (requested, { state with
    tables := tables
    signals := if requested then state.signals + 1 else state.signals })

def requestRunningLinuxAuditCancel (state : AuditState) : Option AuditState :=
  if state.signals = 0 then none
  else
    some { state with
      signals := state.signals - 1
      cancel := state.cancel || state.registered }

/-- What can happen next. -/
inductive AuditLabel where
  | thread (luck : Luck)
  | requestCancellation (raises : Bool)
  | signalCancellation

/-- The thread and the requests in any order.  A cancellation request answers
whether it was accepted. -/
def auditMachine (env : AuditEnvironment) :
    Machine AuditState AuditLabel (Option Bool) where
  step state
    | .thread luck => (advance env luck state).map fun after => (none, after)
    | .requestCancellation true => some (none, state)
    | .requestCancellation false =>
        let (requested, after) := cancelLinuxAudit state
        some (some requested, after)
    | .signalCancellation =>
        (requestRunningLinuxAuditCancel state).map fun after => (none, after)

/-- Everything that a step of the machine can be. -/
inductive AuditStep (env : AuditEnvironment) (before : AuditState) :
    AuditLabel → Option Bool → AuditState → Prop where
  | thread {luck : Luck} {after : AuditState}
      (advanced : advance env luck before = some after) :
      AuditStep env before (.thread luck) none after
  | requestRaised :
      AuditStep env before (.requestCancellation true) none before
  | accepted (still : before.tables.row.status.isTerminal = false) :
      AuditStep env before (.requestCancellation false) (some true)
        { before with
          tables := { before.tables with
            row := { before.tables.row with cancellationRequested := true } }
          signals := before.signals + 1 }
  | refused (terminal : before.tables.row.status.isTerminal = true) :
      AuditStep env before (.requestCancellation false) (some false) before
  | signalled (waiting : before.signals ≠ 0) :
      AuditStep env before .signalCancellation none
        { before with
          signals := before.signals - 1
          cancel := before.cancel || before.registered }

theorem audit_step_cases {env : AuditEnvironment} {before after : AuditState}
    {label : AuditLabel} {answer : Option Bool}
    (made : (auditMachine env).step before label = some (answer, after)) :
    AuditStep env before label answer after := by
  cases label with
  | thread luck =>
      obtain ⟨advancedTo, advanced, same⟩ := Option.map_eq_some_iff.mp made
      cases same
      exact .thread advanced
  | requestCancellation raises =>
      cases raises with
      | true => cases made; exact .requestRaised
      | false =>
          cases terminal : before.tables.row.status.isTerminal with
          | true =>
              simp only [auditMachine, cancelLinuxAudit,
                requestLinuxAuditCancellation, terminal, if_true] at made
              cases made
              exact .refused terminal
          | false =>
              simp only [auditMachine, cancelLinuxAudit,
                requestLinuxAuditCancellation, terminal] at made
              cases made
              exact .accepted terminal
  | signalCancellation =>
      obtain ⟨signalled, requested, same⟩ := Option.map_eq_some_iff.mp made
      cases same
      unfold requestRunningLinuxAuditCancel at requested
      split at requested
      · cases requested
      · next waiting => cases requested; exact .signalled waiting

end SecAI.LinuxAudit
