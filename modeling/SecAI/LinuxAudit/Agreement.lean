/-
Module: SecAI.LinuxAudit.Agreement
Purpose: When the status, the result and the event log of a run agree, over
  every interleaving of its thread with cancellation requests.
Trusted boundary: none
Main exports:
  terminalStatus, Phase.Expects, RunAgrees, undisturbed_runs_agree
-/
import SecAI.LinuxAudit.Thread

namespace SecAI.LinuxAudit

open Interleaving

def terminalStatus : String → Option RunStatus
  | "RUN_COMPLETED" => some .completed
  | "RUN_FAILED" => some .failed
  | "RUN_CANCELLED" => some .cancelled
  | _ => none

/-! ## The tables during and after a run -/

/-- No terminal event has been appended. -/
def NoTerminalEvent (tables : AuditTables) : Prop :=
  ∀ event ∈ tables.events, terminalStatus event.eventType = none

/-- Every terminal event reports the status of the run. -/
def TerminalEventsMatch (tables : AuditTables) : Prop :=
  ∀ event ∈ tables.events, ∀ status,
    terminalStatus event.eventType = some status → tables.row.status = status

/-- The run has no terminal status and no terminal event. -/
structure Open (tables : AuditTables) : Prop where
  status : tables.row.status.isTerminal = false
  events : NoTerminalEvent tables

/-- The run has the status, and no terminal event yet. -/
structure Announcing (status : RunStatus) (tables : AuditTables) : Prop where
  status : tables.row.status = status
  events : NoTerminalEvent tables

/-- What the thread finds in the tables in each phase. -/
def Phase.Expects : Phase → AuditTables → Prop
  | .announcingCompleted => Announcing .completed
  | .announcingCancelled => Announcing .cancelled
  | .announcingFailed => Announcing .failed
  | .cleaning | .ended => TerminalEventsMatch
  | _ => Open

variable {tables : AuditTables}

theorem Raised.handler_expects (raised : Raised) (still : Open tables) :
    raised.handler.Expects tables := by
  cases raised <;> exact still

theorem NoTerminalEvent.matches (none_ : NoTerminalEvent tables) :
    TerminalEventsMatch tables := by
  intro event member status reported
  rw [none_ event member] at reported
  cases reported

variable {eventType : String}

theorem mem_appended {payload : Json} {event : AuditEvent} (member : event ∈
      (appendLinuxAuditEvent tables eventType payload).events) :
    event ∈ tables.events ∨ event.eventType = eventType := by
  rcases List.mem_append.mp member with earlier | last
  · exact .inl earlier
  · rw [List.mem_singleton.mp last]
    exact .inr rfl

theorem NoTerminalEvent.append (none_ : NoTerminalEvent tables)
    (ordinary : terminalStatus eventType = none) (payload : Json) :
    NoTerminalEvent (appendLinuxAuditEvent tables eventType payload) := by
  intro event member
  rcases mem_appended member with earlier | same
  · exact none_ event earlier
  · rw [same, ordinary]

theorem Open.append (still : Open tables)
    (ordinary : terminalStatus eventType = none) (payload : Json) :
    Open (appendLinuxAuditEvent tables eventType payload) :=
  { status := still.status
    events := still.events.append ordinary payload }

theorem Open.mark (still : Open tables) :
    Open (markLinuxAuditRunning tables) := by
  unfold markLinuxAuditRunning
  split
  · exact { status := rfl, events := still.events }
  · exact still

theorem finish_of_open (still : tables.row.status.isTerminal = false)
    (status : RunStatus) (resultJson : Option Json)
    (resultSha256 : Option String) :
    finishLinuxAuditRun tables status resultJson resultSha256 =
      { tables with
        row := { tables.row with
          status := status
          resultJson := resultJson.or tables.row.resultJson
          resultSha256 := resultSha256.or tables.row.resultSha256 } } := by
  unfold finishLinuxAuditRun
  rw [still]
  rfl

theorem Open.finish (still : Open tables) (status : RunStatus)
    (resultJson : Option Json) (resultSha256 : Option String) :
    Announcing status
      (finishLinuxAuditRun tables status resultJson resultSha256) := by
  rw [finish_of_open still.status]
  exact { status := rfl, events := still.events }

theorem Announcing.append {status : RunStatus}
    (announcing : Announcing status tables)
    (reports : terminalStatus eventType = some status) (payload : Json) :
    TerminalEventsMatch (appendLinuxAuditEvent tables eventType payload) := by
  intro event member other reported
  rcases mem_appended member with earlier | same
  · rw [announcing.events event earlier] at reported
    cases reported
  · rw [same, reports] at reported
    cases reported
    exact announcing.status

/-! ## One step of the thread -/

variable {state : AuditState} {luck : Luck} {next : Phase}

theorem call_expects (still : Open state.tables)
    (good : next.Expects tables) :
    (state.call luck tables next).phase.Expects
      (state.call luck tables next).tables := by
  unfold AuditState.call
  split
  · exact good
  · exact Raised.handler_expects _ still

theorem callHandled_expects (without : NoTerminalEvent state.tables)
    (good : next.Expects tables) :
    (state.callHandled luck tables next).phase.Expects
      (state.callHandled luck tables next).tables := by
  unfold AuditState.callHandled
  split
  · exact good
  · exact without.matches

theorem ite_expects {condition : Prop} [Decidable condition]
    {first second : Phase} (one : first.Expects tables)
    (other : second.Expects tables) :
    (if condition then first else second).Expects tables := by
  split
  · exact one
  · exact other

variable {env : AuditEnvironment} {before after : AuditState}

/-- The step lemma of the thread: each phase leaves the tables as the next one
expects them, unless the event `RUN_COMPLETED` raises. -/
theorem advance_expects (expects : before.phase.Expects before.tables)
    (announced : before.phase = .announcingCompleted → luck.raises = none)
    (advanced : advance env luck before = some after) :
    after.phase.Expects after.tables := by
  obtain ⟨tables, phase, cancel, registered, signals⟩ := before
  cases phase with
  | unstarted => cases advanced; exact expects
  | marking => cases advanced; exact call_expects expects (Open.mark expects)
  | announcing =>
      cases advanced
      exact call_expects expects (Open.append expects rfl _)
  | preparing => cases advanced; exact call_expects expects expects
  | detecting attempt left =>
      cases left <;> cases advanced <;> exact ite_expects expects expects
  | detectingRow attempt left =>
      cases advanced
      exact call_expects expects (ite_expects expects expects)
  | retrying attempt =>
      cases advanced
      exact call_expects expects (Open.append expects rfl _)
  | validating => cases advanced; exact call_expects expects expects
  | identifying =>
      cases advanced
      exact call_expects expects (Open.append expects rfl _)
  | collecting commands =>
      cases commands with
      | nil => cases advanced; exact expects
      | cons command commands =>
          cases advanced
          exact ite_expects expects expects
  | collectingRow command commands =>
      cases advanced
      exact call_expects expects (ite_expects expects expects)
  | starting command commands =>
      cases advanced
      exact call_expects expects (Open.append expects rfl _)
  | finishing command commands =>
      cases advanced
      exact call_expects expects (Open.append expects rfl _)
  | checking => cases advanced; exact ite_expects expects expects
  | evaluating => cases advanced; exact call_expects expects expects
  | reporting controls =>
      cases controls with
      | nil => cases advanced; exact call_expects expects expects
      | cons control controls =>
          cases advanced
          exact call_expects expects (Open.append expects rfl _)
  | completing =>
      cases advanced
      exact call_expects expects (Open.finish expects _ _ _)
  | announcingCompleted =>
      cases advanced
      simp only [AuditState.call, announced rfl]
      exact Announcing.append expects rfl _
  | cancelling =>
      cases advanced
      exact callHandled_expects (Open.events expects)
        (Open.finish expects _ _ _)
  | announcingCancelled =>
      cases advanced
      exact callHandled_expects (Announcing.events expects)
        (Announcing.append expects rfl _)
  | failing =>
      cases advanced
      exact callHandled_expects (Open.events expects)
        (Open.finish expects _ _ _)
  | announcingFailed =>
      cases advanced
      exact callHandled_expects (Announcing.events expects)
        (Announcing.append expects rfl _)
  | cleaning => cases advanced; exact expects
  | ended => cases advanced

/-! ## What a step does to the row -/

/-- Everything that one step of the thread can do to the row. -/
inductive RowStep (before after : AuditState) : Prop where
  | same (row : after.tables.row = before.tables.row)
  | running (queued : before.tables.row.status = .queued)
      (row : after.tables.row = { before.tables.row with status := .running })
  | completed (phase : before.phase = .completing)
      (still : before.tables.row.status.isTerminal = false)
      (resultJson : Json) (resultSha256 : String)
      (row : after.tables.row = { before.tables.row with
        status := .completed
        resultJson := some resultJson
        resultSha256 := some resultSha256 })
  | closed (status : RunStatus) (ends : status = .cancelled ∨ status = .failed)
      (still : before.tables.row.status.isTerminal = false)
      (row : after.tables.row = { before.tables.row with status := status })

theorem call_row (row : tables.row = state.tables.row) :
    RowStep state (state.call luck tables next) := by
  unfold AuditState.call
  split
  · exact .same row
  · exact .same rfl

theorem callHandled_row (row : tables.row = state.tables.row) :
    RowStep state (state.callHandled luck tables next) := by
  unfold AuditState.callHandled
  split
  · exact .same row
  · exact .same rfl

theorem finish_row {status : RunStatus}
    (ends : status = .cancelled ∨ status = .failed) :
    RowStep state (state.callHandled luck
      (finishLinuxAuditRun state.tables status none none) next) := by
  unfold AuditState.callHandled
  split
  · cases still : state.tables.row.status.isTerminal with
    | false =>
        refine .closed status ends still ?_
        simp only [finish_of_open still, Option.none_or]
    | true =>
        apply RowStep.same
        simp only [finishLinuxAuditRun, still, if_true]
  · exact .same rfl

theorem mark_row :
    RowStep state
      (state.call luck (markLinuxAuditRunning state.tables) next) := by
  unfold AuditState.call markLinuxAuditRunning
  split
  · split
    · next queued => exact .running queued rfl
    · exact .same rfl
  · exact .same rfl

theorem complete_row (phase : state.phase = .completing) (resultJson : Json)
    (resultSha256 : String) :
    RowStep state (state.call luck
      (finishLinuxAuditRun state.tables .completed (some resultJson)
        (some resultSha256)) next) := by
  unfold AuditState.call
  split
  · cases still : state.tables.row.status.isTerminal with
    | false =>
        refine .completed phase still resultJson resultSha256 ?_
        simp only [finish_of_open still, Option.some_or]
    | true =>
        apply RowStep.same
        simp only [finishLinuxAuditRun, still, if_true]
  · exact .same rfl

/-- The step lemma of the thread for the row. -/
theorem advance_row (advanced : advance env luck before = some after) :
    RowStep before after := by
  obtain ⟨tables, phase, cancel, registered, signals⟩ := before
  cases phase with
  | unstarted => cases advanced; exact .same rfl
  | marking => cases advanced; exact mark_row
  | announcing => cases advanced; exact call_row rfl
  | preparing => cases advanced; exact call_row rfl
  | detecting attempt left =>
      cases left <;> cases advanced <;> exact .same rfl
  | detectingRow attempt left => cases advanced; exact call_row rfl
  | retrying attempt => cases advanced; exact call_row rfl
  | validating => cases advanced; exact call_row rfl
  | identifying => cases advanced; exact call_row rfl
  | collecting commands =>
      cases commands <;> cases advanced <;> exact .same rfl
  | collectingRow command commands => cases advanced; exact call_row rfl
  | starting command commands => cases advanced; exact call_row rfl
  | finishing command commands => cases advanced; exact call_row rfl
  | checking => cases advanced; exact .same rfl
  | evaluating => cases advanced; exact call_row rfl
  | reporting controls =>
      cases controls <;> cases advanced <;> exact call_row rfl
  | completing => cases advanced; exact complete_row rfl _ _
  | announcingCompleted => cases advanced; exact call_row rfl
  | cancelling => cases advanced; exact finish_row (.inl rfl)
  | announcingCancelled => cases advanced; exact callHandled_row rfl
  | failing => cases advanced; exact finish_row (.inr rfl)
  | announcingFailed => cases advanced; exact callHandled_row rfl
  | cleaning => cases advanced; exact .same rfl
  | ended => cases advanced

/-! ## The last look at the cancellation -/

/-- The phases between the last look at the event and the end of the result:
the thread does not ask for a cancellation any more. -/
def Phase.isPastLastLook : Phase → Bool
  | .evaluating | .reporting _ | .completing => true
  | _ => false

theorem call_phase
    (past : (state.call luck tables next).phase.isPastLastLook = true) :
    next.isPastLastLook = true := by
  unfold AuditState.call at past
  split at past
  · exact past
  · next raised _ => cases raised <;> cases past

theorem callHandled_phase
    (past : (state.callHandled luck tables next).phase.isPastLastLook = true) :
    next.isPastLastLook = true := by
  unfold AuditState.callHandled at past
  split at past
  · exact past
  · cases past

theorem ite_phase {condition : Prop} [Decidable condition]
    {first second : Phase}
    (past : (if condition then first else second).isPastLastLook = true)
    (notFirst : first.isPastLastLook = false) :
    ¬condition ∧ second.isPastLastLook = true := by
  split at past
  · rw [notFirst] at past
    cases past
  · next unmet => exact ⟨unmet, past⟩

/-- The thread gets past its last look through that look only. -/
theorem advance_pastLastLook (advanced : advance env luck before = some after)
    (past : after.phase.isPastLastLook = true) :
    before.phase.isPastLastLook = true ∨
      (before.phase = .checking ∧ before.cancel = false) := by
  obtain ⟨tables, phase, cancel, registered, signals⟩ := before
  cases phase with
  | unstarted => cases advanced; cases past
  | marking => cases advanced; cases call_phase past
  | announcing => cases advanced; cases call_phase past
  | preparing => cases advanced; cases call_phase past
  | detecting attempt left =>
      cases left <;> cases advanced <;> cases (ite_phase past rfl).2
  | detectingRow attempt left =>
      cases advanced
      cases (ite_phase (call_phase past) rfl).2
  | retrying attempt => cases advanced; cases call_phase past
  | validating => cases advanced; cases call_phase past
  | identifying => cases advanced; cases call_phase past
  | collecting commands =>
      cases commands with
      | nil => cases advanced; cases past
      | cons command commands => cases advanced; cases (ite_phase past rfl).2
  | collectingRow command commands =>
      cases advanced
      cases (ite_phase (call_phase past) rfl).2
  | starting command commands => cases advanced; cases call_phase past
  | finishing command commands => cases advanced; cases call_phase past
  | checking =>
      cases advanced
      exact .inr ⟨rfl, Bool.eq_false_iff.mpr (ite_phase past rfl).1⟩
  | evaluating => exact .inl rfl
  | reporting controls => exact .inl rfl
  | completing => exact .inl rfl
  | announcingCompleted => cases advanced; cases call_phase past
  | cancelling => cases advanced; cases callHandled_phase past
  | announcingCancelled => cases advanced; cases callHandled_phase past
  | failing => cases advanced; cases callHandled_phase past
  | announcingFailed => cases advanced; cases callHandled_phase past
  | cleaning => cases advanced; cases past
  | ended => cases advanced

/-! ## Every interleaving -/

/-- Nothing crosses the completion of the run: at the last look every
accepted cancellation has set the event, none is accepted between that look
and the end of the result, and the event `RUN_COMPLETED` does not raise. -/
def Undisturbed (state : AuditState) : AuditLabel → Prop
  | .thread luck =>
      (state.phase = .checking →
        state.tables.row.cancellationRequested = true → state.cancel = true) ∧
      (state.phase = .announcingCompleted → luck.raises = none)
  | .requestCancellation raises =>
      raises = true ∨ state.phase.isPastLastLook = false
  | .signalCancellation => True

instance (state : AuditState) :
    (label : AuditLabel) → Decidable (Undisturbed state label)
  | .thread _ => inferInstanceAs (Decidable ((_ → _ → _) ∧ (_ → _)))
  | .requestCancellation _ => inferInstanceAs (Decidable (_ ∨ _))
  | .signalCancellation => .isTrue trivial

/-- What a run keeps, whatever happens. -/
structure Recorded (state : AuditState) : Prop where
  result : state.tables.row.resultJson.isSome = true ↔
    state.tables.row.status = .completed
  hash : state.tables.row.resultSha256.isSome = true ↔
    state.tables.row.status = .completed

/-- What an undisturbed run keeps. -/
structure Agreeing (state : AuditState) : Prop where
  tables : state.phase.Expects state.tables
  seen : state.tables.row.cancellationRequested = true →
    state.phase.isPastLastLook = false ∧
      state.tables.row.status ≠ .completed

theorem Recorded.of_row (recorded : Recorded before)
    (row : RowStep before after) : Recorded after := by
  obtain ⟨result, hash⟩ := recorded
  cases row with
  | same row => exact ⟨by rw [row]; exact result, by rw [row]; exact hash⟩
  | running queued row =>
      rw [queued] at result hash
      constructor <;> simp_all
  | completed phase still resultJson resultSha256 row =>
      constructor <;> simp [row]
  | closed status ends still row =>
      have before_ : before.tables.row.status ≠ .completed := by
        intro completed
        rw [completed] at still
        cases still
      have after_ : status ≠ .completed := by
        rcases ends with rfl | rfl <;> decide
      constructor
      · simp only [row, result, before_, after_]
      · simp only [row, hash, before_, after_]

variable {label : AuditLabel} {answer : Option Bool}

theorem Recorded.step (recorded : Recorded before)
    (made : (auditMachine env).step before label = some (answer, after)) :
    Recorded after := by
  cases audit_step_cases made with
  | thread advanced => exact recorded.of_row (advance_row advanced)
  | requestRaised => exact recorded
  | accepted still => exact ⟨recorded.result, recorded.hash⟩
  | refused terminal => exact recorded
  | signalled waiting => exact ⟨recorded.result, recorded.hash⟩

theorem terminal_status_stays
    (terminal : before.tables.row.status.isTerminal = true)
    (made : (auditMachine env).step before label = some (answer, after)) :
    after.tables.row.status = before.tables.row.status := by
  cases audit_step_cases made with
  | thread advanced =>
      cases advance_row advanced with
      | same row => rw [row]
      | running queued row =>
          rw [queued] at terminal
          cases terminal
      | completed phase still => cases still.symm.trans terminal
      | closed status ends still => cases still.symm.trans terminal
  | requestRaised => rfl
  | accepted still => rfl
  | refused _ => rfl
  | signalled waiting => rfl

theorem cancellation_stays
    (requested : before.tables.row.cancellationRequested = true)
    (made : (auditMachine env).step before label = some (answer, after)) :
    after.tables.row.cancellationRequested = true := by
  cases audit_step_cases made with
  | thread advanced =>
      cases advance_row advanced with
      | same row => rw [row]; exact requested
      | running queued row => rw [row]; exact requested
      | completed phase still resultJson resultSha256 row =>
          rw [row]
          exact requested
      | closed status ends still row => rw [row]; exact requested
  | requestRaised => exact requested
  | accepted still => rfl
  | refused _ => exact requested
  | signalled waiting => exact requested

theorem Phase.expects_requested {phase : Phase}
    (expects : phase.Expects tables) :
    phase.Expects { tables with
      row := { tables.row with cancellationRequested := true } } := by
  cases phase with
  | announcingCompleted => exact ⟨expects.1, expects.2⟩
  | announcingCancelled => exact ⟨expects.1, expects.2⟩
  | announcingFailed => exact ⟨expects.1, expects.2⟩
  | cleaning => exact expects
  | ended => exact expects
  | _ => exact ⟨expects.1, expects.2⟩

theorem Agreeing.thread (agreeing : Agreeing before)
    (undisturbed : Undisturbed before (.thread luck))
    (advanced : advance env luck before = some after) : Agreeing after := by
  refine ⟨advance_expects agreeing.tables undisturbed.2 advanced, ?_⟩
  intro requested
  have row := advance_row advanced
  have already : before.tables.row.cancellationRequested = true := by
    cases row with
    | same row => rw [← row]; exact requested
    | running queued row => rw [row] at requested; exact requested
    | completed phase still resultJson resultSha256 row =>
        rw [row] at requested
        exact requested
    | closed status ends still row => rw [row] at requested; exact requested
  obtain ⟨notPast, notCompleted⟩ := agreeing.seen already
  constructor
  · cases past : after.phase.isPastLastLook with
    | false => rfl
    | true =>
        rcases advance_pastLastLook advanced past with earlier | ⟨look, clear⟩
        · cases notPast.symm.trans earlier
        · cases clear.symm.trans (undisturbed.1 look already)
  · cases row with
    | same row => rw [row]; exact notCompleted
    | running queued row => simp [row]
    | completed phase => rw [phase] at notPast; cases notPast
    | closed status ends still row =>
        rcases ends with rfl | rfl <;> simp [row]

theorem Agreeing.step (agreeing : Agreeing before)
    (undisturbed : Undisturbed before label)
    (made : (auditMachine env).step before label = some (answer, after)) :
    Agreeing after := by
  cases audit_step_cases made with
  | thread advanced => exact agreeing.thread undisturbed advanced
  | requestRaised => exact agreeing
  | accepted still =>
      refine ⟨Phase.expects_requested agreeing.tables, fun _ => ?_⟩
      constructor
      · exact undisturbed.resolve_left nofun
      · intro completed
        simp only at completed
        rw [completed] at still
        cases still
  | refused terminal => exact agreeing
  | signalled waiting => exact ⟨agreeing.tables, agreeing.seen⟩

theorem createdRun_recorded : Recorded createdRun := by
  constructor <;> decide

theorem createdRun_agreeing : Agreeing createdRun := by
  refine ⟨⟨rfl, ?_⟩, nofun⟩
  intro event member
  cases member

/-- The status, the result, the cancellations and the events of a run agree in
every state that it reaches. -/
structure RunAgrees
    (trace : List (Moment AuditState AuditLabel (Option Bool))) : Prop where
  /-- At most one terminal status, which never changes. -/
  settled : ∀ moment ∈ trace,
    moment.before.tables.row.status.isTerminal = true →
    moment.after.tables.row.status = moment.before.tables.row.status
  /-- The result is present exactly on a COMPLETED run. -/
  result : ∀ moment ∈ trace,
    moment.after.tables.row.resultJson.isSome = true ↔
      moment.after.tables.row.status = .completed
  /-- After an accepted cancellation the run is never COMPLETED. -/
  honoured : ∀ earlier request later, trace = earlier ++ request :: later →
    request.answer = some true → ∀ moment ∈ request :: later,
      moment.after.tables.row.status ≠ .completed
  /-- Each terminal event reports the status of the run. -/
  events : ∀ moment ∈ trace, TerminalEventsMatch moment.after.tables

theorem Phase.Expects.matches {phase : Phase}
    (expects : phase.Expects tables) : TerminalEventsMatch tables := by
  cases phase with
  | cleaning => exact expects
  | ended => exact expects
  | announcingCompleted => exact expects.events.matches
  | announcingCancelled => exact expects.events.matches
  | announcingFailed => exact expects.events.matches
  | _ => exact expects.events.matches

theorem requested_of_accepted (made : (auditMachine env).step before label =
      some (some true, after)) :
    after.tables.row.cancellationRequested = true := by
  generalize same : (some true : Option Bool) = answer at made
  cases audit_step_cases made with
  | thread advanced => cases same
  | requestRaised => cases same
  | accepted still => rfl
  | refused terminal => cases same
  | signalled waiting => cases same

variable {trace : List (Moment AuditState AuditLabel (Option Bool))}

theorem never_completed_after_request {start final : AuditState}
    (run : (auditMachine env).Run Undisturbed start trace final)
    (agreeing : Agreeing start)
    (requested : start.tables.row.cancellationRequested = true) :
    ∀ moment ∈ trace, moment.after.tables.row.status ≠ .completed := by
  intro moment member
  have holds := run.after_moment
    (fun state => Agreeing state ∧
      state.tables.row.cancellationRequested = true)
    ⟨agreeing, requested⟩
    (fun _ _ _ _ holds undisturbed made =>
      ⟨holds.1.step undisturbed made, cancellation_stays holds.2 made⟩) member
  exact (holds.1.seen holds.2).2

/-- In every undisturbed run of the thread, interleaved with cancellation
requests, status, result, cancellations and events agree. -/
theorem undisturbed_runs_agree {env : AuditEnvironment}
    {trace : List (Moment AuditState AuditLabel (Option Bool))}
    {final : AuditState}
    (run : (auditMachine env).Run Undisturbed createdRun trace final) :
    RunAgrees trace where
  settled := by
    intro moment member terminal
    obtain ⟨earlier, later, rfl⟩ := List.append_of_mem member
    exact terminal_status_stays terminal run.around.2.2.1
  result := by
    intro moment member
    exact (run.after_moment Recorded createdRun_recorded
      (fun _ _ _ _ recorded _ made => recorded.step made) member).result
  honoured := by
    intro earlier request later order accepted moment member
    subst order
    obtain ⟨reached, undisturbed, makes, rest⟩ := run.around
    have before := reached.invariant Agreeing createdRun_agreeing
      fun _ _ _ _ agreeing undisturbed made => agreeing.step undisturbed made
    have after := before.step undisturbed makes
    have requested : request.after.tables.row.cancellationRequested = true := by
      rw [Machine.Makes, accepted] at makes
      exact requested_of_accepted makes
    rcases List.mem_cons.mp member with rfl | later
    · exact (after.seen requested).2
    · exact never_completed_after_request rest after requested moment later
  events := by
    intro moment member
    exact (run.after_moment Agreeing createdRun_agreeing
      (fun _ _ _ _ agreeing undisturbed made =>
        agreeing.step undisturbed made) member).tables.matches

/-! ## Runs that are not undisturbed -/

def ubuntuCommands : List String :=
  ["linux.os-release", "linux.passwd-db", "linux.group-db",
    "linux.login-defs", "linux.pam-su", "linux.sshd-effective",
    "linux.passwd-mode", "linux.shadow-mode", "linux.hosts-mode",
    "linux.inetd-mode", "linux.services-mode", "linux.hosts-lpd-mode",
    "linux.startup-unsafe", "linux.ownerless", "linux.suid-sgid",
    "linux.world-writable", "linux.dev-regular", "linux.rhosts",
    "linux.environment-unsafe", "linux.home-hidden", "linux.active-services",
    "linux.enabled-services", "linux.listening-sockets", "linux.cron-unsafe",
    "linux.nfs-exports", "linux.ftpusers", "linux.service-config",
    "linux.banner", "linux.sudoers-check", "linux.sudoers-config",
    "linux.time-sync", "linux.auditd-state", "linux.logging-state",
    "linux.logging-config", "linux.log-metadata", "linux.profile-policy",
    "linux.pam-policy", "linux.syslog-mode", "linux.firewall-state",
    "linux.firewall-rules", "linux.package-inventory",
    "linux.pending-security-updates"]

def ubuntuEnvironment : AuditEnvironment :=
  { commands := ubuntuCommands
    controls := List.replicate 67 .null
    resultJson := .obj []
    resultSha256 := "" }

/-- The thread making `count` steps in which nothing raises. -/
def threadSteps (count : Nat) : List AuditLabel :=
  List.replicate count (.thread {})

theorem completed_run_agrees :
    ∃ trace final,
      (auditMachine ubuntuEnvironment).Run Undisturbed createdRun trace final ∧
      final.tables.row.status = .completed ∧ final.phase = .ended ∧
      RunAgrees trace := by
  have carried : ((auditMachine ubuntuEnvironment).replay Undisturbed createdRun
      (threadSteps 253)).map (fun (_, final) =>
        (final.tables.row.status, final.phase)) = some (.completed, .ended) := by
    decide +kernel
  obtain ⟨trace, final, run, seen⟩ := Machine.exists_run_of_replay carried
  obtain ⟨completed, ended⟩ := Prod.mk.inj seen
  exact ⟨trace, final, run, completed, ended, undisturbed_runs_agree run⟩

/-- A run that is COMPLETED although a cancellation was accepted does not
agree. -/
theorem not_agrees_of_accepted {guard : AuditState → AuditLabel → Prop}
    {start final : AuditState}
    (run : (auditMachine env).Run guard start trace final)
    (completed : final.tables.row.status = .completed)
    (accepted : ∃ moment ∈ trace, moment.answer = some true) :
    ¬RunAgrees trace := by
  intro agrees
  obtain ⟨request, member, answered⟩ := accepted
  obtain ⟨earlier, later, rfl⟩ := List.append_of_mem member
  have honoured := agrees.honoured earlier request later rfl answered
  rcases run.around.2.2.2.final_mem with same | ⟨last, member, same⟩
  · exact honoured request List.mem_cons_self (same ▸ completed)
  · exact honoured last (List.mem_cons_of_mem _ member) (same ▸ completed)

/-- A cancellation that is accepted while the controls are reported is lost:
the run is COMPLETED.  And a run whose event `RUN_COMPLETED` raises is
COMPLETED with the event `RUN_FAILED`. -/
theorem completed_runs_disagree :
    (∃ trace final,
      (auditMachine ubuntuEnvironment).Run Machine.unguarded createdRun trace
        final ∧
      final.tables.row.status = .completed ∧
      (∃ moment ∈ trace, moment.answer = some true) ∧ ¬RunAgrees trace) ∧
    ∃ trace final,
      (auditMachine ubuntuEnvironment).Run Machine.unguarded createdRun trace
        final ∧
      final.tables.row.status = .completed ∧
      (∃ event ∈ final.tables.events, event.eventType = "RUN_FAILED") ∧
      ¬RunAgrees trace := by
  constructor
  case left =>
    have carried : ((auditMachine ubuntuEnvironment).replay Machine.unguarded
        createdRun (threadSteps 200 ++ [.requestCancellation false] ++
          threadSteps 53)).map (fun (trace, final) =>
            (final.tables.row.status,
              decide (∃ moment ∈ trace, moment.answer = some true))) =
        some (.completed, true) := by
      decide +kernel
    obtain ⟨trace, final, run, seen⟩ := Machine.exists_run_of_replay carried
    obtain ⟨completed, accepted⟩ := Prod.mk.inj seen
    have accepted := of_decide_eq_true accepted
    exact ⟨trace, final, run, completed, accepted,
      not_agrees_of_accepted run completed accepted⟩
  case right =>
    have carried : ((auditMachine ubuntuEnvironment).replay Machine.unguarded
        createdRun (threadSteps 251 ++ [.thread { raises := some .other }] ++
          threadSteps 3)).map (fun (_, final) =>
            (final.tables.row.status,
              decide (∃ event ∈ final.tables.events,
                event.eventType = "RUN_FAILED"))) =
        some (.completed, true) := by
      decide +kernel
    obtain ⟨trace, final, run, seen⟩ := Machine.exists_run_of_replay carried
    obtain ⟨completed, announced⟩ := Prod.mk.inj seen
    obtain ⟨event, member, failed⟩ := of_decide_eq_true announced
    refine ⟨trace, final, run, completed, ⟨event, member, failed⟩, ?_⟩
    intro agrees
    rcases run.final_mem with same | ⟨moment, inTrace, rfl⟩
    · rw [same] at completed
      cases completed
    · have reported := agrees.events moment inTrace event member .failed
        (by rw [failed]; rfl)
      cases completed.symm.trans reported

end SecAI.LinuxAudit
