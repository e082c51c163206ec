/-
Module: SecAI.Chat.Scheduling
Purpose: The requests that run and stop one generation, at the granularity of
  reading its row, marking it and scheduling a task for it.
Trusted boundary: a locked row is neither marked nor stopped by another
  transaction until the one that marked it commits; whether a locked read
  refreshes a row that the session has read before is a parameter
Main exports:
  markedStatus, stoppedStatus, RunState, at_most_one_task
-/
import SecAI.Chat.Calls

namespace SecAI.Chat

open Interleaving

/-- The status in which `mark_chat_generation_streaming` returns a
generation. -/
def markedStatus : GenerationStatus → Option GenerationStatus
  | .queued | .streaming => some .streaming
  | .completed => some .completed
  | .stopped | .failed => none

/-- The status in which `stop_chat_generation` returns a generation. -/
def stoppedStatus : GenerationStatus → Option GenerationStatus
  | .queued | .streaming | .stopped => some .stopped
  | .completed | .failed => none

/-- Where a `run_generation` request stands. -/
inductive RunPhase where
  /-- It has read a queued generation. -/
  | queued
  /-- It has answered or raised. -/
  | over
deriving DecidableEq

/-- The transaction that has marked the row: its request, and the status that
its commit writes. -/
structure MarkedRow where
  request : Nat
  status : GenerationStatus

/-- The committed row of the generation, the transaction that holds it, the
requests to run it, and how many tasks they have scheduled. -/
structure RunState where
  status : GenerationStatus
  held : Option MarkedRow
  requests : List RunPhase
  tasks : Nat

def RunState.started : RunState := ⟨.queued, none, [], 0⟩

/-- A step of some request, or the end of a task. -/
inductive RunLabel where
  /-- A `run_generation` request reads the row. -/
  | read
  | mark (request : Nat)
  /-- `_initialize_stream`, `add_task` and the commit. -/
  | schedule (request : Nat)
  /-- A `stop_generation` request. -/
  | stop
  /-- A task completes or fails its generation. -/
  | finish (completed : Bool)

/-- What a step answers. -/
inductive RunAnswer where
  | waiting
  | status (status : GenerationStatus)
  | refused

section Requests

variable (refreshes : Bool)

/-- The status of the row in a session that has read it as queued. -/
def RunState.seen (state : RunState) : GenerationStatus :=
  if refreshes then state.status else .queued

/-- A request that has read a queued generation locks and marks it. -/
def RunState.mark (state : RunState) (request : Nat) :
    Option (RunAnswer × RunState) :=
  match state.held, state.requests[request]? with
  | none, some .queued =>
      match markedStatus (state.seen refreshes) with
      | some status => some (.waiting,
          { state with held := some ⟨request, status⟩ })
      | none => some (.refused,
          { state with requests := state.requests.set request .over })
  | _, _ => none

/-- The request that holds the row schedules a task and commits. -/
def RunState.schedule (state : RunState) (request : Nat) :
    Option (RunAnswer × RunState) :=
  match state.held with
  | some marked =>
      if marked.request = request then
        some (.status marked.status,
          { status := marked.status
            held := none
            requests := state.requests.set request .over
            tasks := state.tasks + 1 })
      else none
  | none => none

def schedulingMachine : Machine RunState RunLabel RunAnswer where
  step state
    | .read =>
        if state.status = .queued then
          some (.waiting,
            { state with requests := state.requests ++ [.queued] })
        else
          some (.status state.status,
            { state with requests := state.requests ++ [.over] })
    | .mark request => state.mark refreshes request
    | .schedule request => state.schedule request
    | .stop =>
        if state.held = none then
          match stoppedStatus state.status with
          | some status => some (.status status, { state with status := status })
          | none => some (.refused, state)
        else none
    | .finish completed =>
        if state.held = none ∧ state.status = .streaming ∧ 0 < state.tasks then
          let status := if completed then .completed else .failed
          some (.status status, { state with status := status })
        else none

/-- A request that has read a queued generation marks it while it is still
queued, or is refused. -/
def FreshMark (state : RunState) : RunLabel → Prop
  | .mark _ => state.status = .queued ∨
      markedStatus (state.seen refreshes) = none
  | _ => True

instance : ∀ (state : RunState) (label : RunLabel),
    Decidable (FreshMark refreshes state label)
  | state, .mark _ => inferInstanceAs (Decidable
      (state.status = .queued ∨ markedStatus (state.seen refreshes) = none))
  | _, .read | _, .schedule _ | _, .stop | _, .finish _ => .isTrue trivial

end Requests

/-- Until a task is scheduled the row is queued or was stopped, and the
transaction that holds the row is the one that schedules it. -/
structure Exclusive (state : RunState) : Prop where
  queued : state.status = .queued → state.tasks = 0
  held : ∀ marked ∈ state.held,
    state.status = .queued ∧ marked.status = .streaming
  once : state.tasks ≤ 1

section Exclusive

variable {refreshes : Bool} {before after : RunState} {answer : RunAnswer}

theorem Exclusive.mark {request : Nat} (exclusive : Exclusive before)
    (fresh : FreshMark refreshes before (.mark request))
    (made : before.mark refreshes request = some (answer, after)) :
    Exclusive after := by
  rw [RunState.mark] at made
  split at made
  · split at made
    · next isFree isQueued status marked =>
        cases made
        have queued : before.status = .queued := by
          rcases fresh with queued | refused
          · exact queued
          · rw [refused] at marked
            cases marked
        refine ⟨exclusive.queued, ?_, exclusive.once⟩
        rintro _ ⟨⟩
        refine ⟨queued, ?_⟩
        have seen : before.seen refreshes = .queued := by
          rw [RunState.seen, queued]
          cases refreshes <;> rfl
        rw [seen] at marked
        exact (Option.some.inj marked).symm
    · cases made
      exact ⟨exclusive.queued, exclusive.held, exclusive.once⟩
  · cases made

theorem Exclusive.schedule {request : Nat} (exclusive : Exclusive before)
    (made : before.schedule request = some (answer, after)) :
    Exclusive after := by
  rw [RunState.schedule] at made
  split at made
  · next marked isHeld =>
      split at made
      · cases made
        obtain ⟨queued, streaming⟩ := exclusive.held marked isHeld
        refine ⟨?_, nofun, ?_⟩
        · intro again
          rw [streaming] at again
          cases again
        · rw [exclusive.queued queued]
      · cases made
  · cases made

theorem Exclusive.moved {status : GenerationStatus}
    (exclusive : Exclusive before) (free : before.held = none)
    (notQueued : status ≠ .queued) :
    Exclusive { before with status := status } := by
  refine ⟨fun queued => absurd queued notQueued, ?_, exclusive.once⟩
  intro marked isHeld
  cases free.symm.trans isHeld

theorem Exclusive.step {label : RunLabel} (exclusive : Exclusive before)
    (fresh : FreshMark refreshes before label)
    (made : (schedulingMachine refreshes).step before label =
      some (answer, after)) : Exclusive after := by
  cases label with
  | read =>
      simp only [schedulingMachine] at made
      split at made
      all_goals
        cases made
        exact ⟨exclusive.queued, exclusive.held, exclusive.once⟩
  | mark request => exact exclusive.mark fresh made
  | schedule request => exact exclusive.schedule made
  | stop =>
      simp only [schedulingMachine] at made
      split at made
      · next free =>
          split at made
          · next status stopped =>
              cases made
              apply exclusive.moved free
              rintro rfl
              cases old : before.status <;> rw [old] at stopped <;> cases stopped
          · cases made
            exact exclusive
      · cases made
  | finish completed =>
      simp only [schedulingMachine] at made
      split at made
      · next allowed =>
          cases made
          apply exclusive.moved allowed.1
          cases completed <;> exact nofun
      · cases made

end Exclusive

end SecAI.Chat
