/-
Module: SecAI.Queue.FinishedSteps
Purpose: The recovery queue: its tables with their atomic calls, the publisher
  and the worker as programs, and when a step that has succeeded stays so.
Trusted boundary: the hash of a result document and UUID generation are
  parameters; the broker redelivers only messages it was given; whether a
  publication is seen to succeed is part of the request
Main exports:
  QueueStore.execute, dispatch, queueSystem, finished_step_stays
-/
import SecAI.Common.Values
import SecAI.Common.Table
import SecAI.Interleaving.System

namespace SecAI.Queue

def recoveryTaskName : String := "secai.maintenance.verify_delivery"

def recoveryStepName : String := "IMP044_RECOVERY_PROBE"

def recoveryQueueName : String := "maintenance"

def recoverySchemaVersion : String := "1.0"

def recoveryInputVersion : Nat := 1

inductive QueueRecoveryCode where
  | invalidMessage
  | eventNotFound
  | eventStateInvalid
  | stepNotFound
  | deliveryNotFound
  | activeWorkerInvalid

/-- Exceptions that leave a queue call. -/
inductive QueueError where
  | recovery (code : QueueRecoveryCode) (message : String)
  /-- A primary key or a uniqueness constraint of the database. -/
  | integrity
  /-- `send_task` could not reach the broker. -/
  | broker

/-- The `status_allowed` values of `workflow_steps`. -/
inductive StepStatus where
  | dispatchPending
  | queued
  | running
  | succeeded
  | failed
  | quarantined
deriving DecidableEq

/-- The `status_allowed` values of `outbox_events`. -/
inductive EventStatus where
  | pending
  | published
  | retryPending
deriving DecidableEq

/-- `status IN ('PENDING', 'RETRY_PENDING')`. -/
def EventStatus.isPending : EventStatus → Bool
  | .pending | .retryPending => true
  | .published => false

/-- The `status_allowed` values of `task_executions`. -/
inductive ExecutionStatus where
  | running
  | workerLost
  | succeeded
  | returnExisting
  | failed
  | quarantined
deriving DecidableEq

/-- The payload of an outbox event: the message `prepare_recovery_probe`
writes, with the texts of UUIDs and instants kept as their values. -/
structure RecoveryMessage where
  schemaVersion : String
  taskName : String
  jobId : Uuid
  assetId : Uuid
  workflowStep : String
  expectedInputVersion : Nat
  idempotencyKey : String
  correlationId : Uuid
  createdAt : DateTime

/-- A row of `workflow_steps`. -/
structure WorkflowStepRecord where
  id : Uuid
  organizationId : Uuid
  jobId : Uuid
  assetId : Uuid
  stepName : String
  status : StepStatus
  expectedInputVersion : Nat
  idempotencyKey : String
  attemptCount : Nat
  lastErrorCode : Option String
  createdAt : DateTime
  updatedAt : DateTime

/-- A row of `outbox_events`. -/
structure OutboxEventRecord where
  id : Uuid
  organizationId : Uuid
  jobId : Uuid
  workflowStepId : Uuid
  eventType : String
  schemaVersion : String
  taskName : String
  queueName : String
  payload : RecoveryMessage
  status : EventStatus
  publishAttempts : Nat
  publishedAt : Option DateTime
  lastErrorCode : Option String
  createdAt : DateTime
  updatedAt : DateTime

/-- A row of `task_executions`. -/
structure TaskExecutionRecord where
  id : Uuid
  organizationId : Uuid
  jobId : Uuid
  workflowStepId : Uuid
  deliveryId : Uuid
  attemptNo : Nat
  status : ExecutionStatus
  workerPid : Option Nat
  errorCode : Option String
  startedAt : DateTime
  completedAt : Option DateTime

/-- A row of `workflow_results`. -/
structure WorkflowResultRecord where
  id : Uuid
  organizationId : Uuid
  jobId : Uuid
  workflowStepId : Uuid
  idempotencyKey : String
  resultSha256 : String
  createdAt : DateTime

/-- The document whose hash a result row keeps. -/
structure ResultPayload where
  schemaVersion : String
  jobId : Uuid
  workflowStep : String
  expectedInputVersion : Nat
  idempotencyKey : String
  result : String

/-- A task message in the broker. -/
structure BrokerMessage where
  taskName : String
  eventId : Uuid
  deliveryId : Uuid
  queueName : String
deriving DecidableEq

structure RecoveryProbeReference where
  jobId : Uuid
  stepId : Uuid
  outboxEventId : Uuid
  baselineFindingCount : Nat

structure RecoveryAttempt where
  executionId : Uuid
  attemptNo : Nat
  shouldHoldForWorkerLoss : Bool
  resultAlreadyExists : Bool
deriving DecidableEq

/-- `f"job:{job_id}:{RECOVERY_STEP_NAME}:v1"`. -/
def recoveryIdempotencyKey (jobId : Uuid) : String :=
  "job:" ++ jobId.text ++ ":" ++ recoveryStepName ++ ":v1"

/-- The binding checks of `validate_recovery_message`. -/
def validateRecoveryMessage (message : RecoveryMessage) :
    Except QueueError RecoveryMessage :=
  if message.schemaVersion ≠ recoverySchemaVersion ∨
      message.taskName ≠ recoveryTaskName ∨
      message.workflowStep ≠ recoveryStepName ∨
      message.expectedInputVersion ≠ recoveryInputVersion ∨
      message.idempotencyKey ≠ recoveryIdempotencyKey message.jobId then
    .error (.recovery .invalidMessage "Queue message binding is invalid.")
  else .ok message

/-- The parts of the repository that are not table accesses: the canonical
hash of a result document, and random identifiers, which do not repeat. -/
structure QueueEnvironment where
  canonicalSha256 : ResultPayload → String
  uuid4 : Nat → Uuid
  uuid4_injective : ∀ first second, uuid4 first = uuid4 second → first = second

/-- The tables and the messages handed to the broker.  `drawn` counts how
often the process random source has been read. -/
structure QueueStore where
  steps : List WorkflowStepRecord
  events : List OutboxEventRecord
  executions : List TaskExecutionRecord
  results : List WorkflowResultRecord
  findingVersions : Nat
  messages : List BrokerMessage
  drawn : Nat

/-- What becomes of a publication. -/
inductive BrokerOutcome where
  | accepted
  | refused
  /-- The message was stored, but the publisher saw an exception. -/
  | acceptedUnconfirmed

/-- One repository call (a database transaction of its own), one publication,
or one read of the random source. -/
inductive QueueOp where
  | prepareRecoveryProbe (now : DateTime)
  | pendingEventPayload (eventId : Uuid)
  | recordEventPublishAttempt (eventId : Uuid) (now : DateTime)
  | draw
  | sendTask (message : BrokerMessage) (outcome : BrokerOutcome)
  | markEventPublished (eventId : Uuid) (now : DateTime)
  | markEventRetryPending (eventId : Uuid) (now : DateTime)
  | beginRecoveryAttempt (eventId deliveryId : Uuid) (pid : Nat)
      (now : DateTime)
  | completeRecoveryAttempt (executionId : Uuid) (now : DateTime)

/-- What each call answers; an exception of the call is part of the answer. -/
@[reducible] def QueueOp.Resp : QueueOp → Type
  | .prepareRecoveryProbe _ => Except QueueError RecoveryProbeReference
  | .pendingEventPayload _ =>
      Except QueueError (RecoveryMessage × String × String)
  | .draw => Nat
  | .beginRecoveryAttempt .. => Except QueueError RecoveryAttempt
  | .completeRecoveryAttempt .. => Except QueueError Bool
  | _ => Except QueueError Unit

def refusal {α : Type} (code : QueueRecoveryCode) (message : String) :
    Except QueueError α :=
  .error (.recovery code message)

namespace QueueStore

def step (store : QueueStore) (stepId : Uuid) : Option WorkflowStepRecord :=
  Table.lookup WorkflowStepRecord.id stepId store.steps

def event (store : QueueStore) (eventId : Uuid) : Option OutboxEventRecord :=
  Table.lookup OutboxEventRecord.id eventId store.events

def execution (store : QueueStore) (executionId : Uuid) :
    Option TaskExecutionRecord :=
  Table.lookup TaskExecutionRecord.id executionId store.executions

def hasResult (store : QueueStore) (idempotencyKey : String) : Bool :=
  (Table.lookup WorkflowResultRecord.idempotencyKey idempotencyKey
    store.results).isSome

/-- The executions of a step, oldest first. -/
def executionsOf (store : QueueStore) (stepId : Uuid) :
    List TaskExecutionRecord :=
  store.executions.filter fun row => decide (row.workflowStepId = stepId)

/-- `UPDATE workflow_steps ... WHERE id = stepId`. -/
def updateStep (store : QueueStore) (stepId : Uuid)
    (change : WorkflowStepRecord → WorkflowStepRecord) : QueueStore :=
  { store with
    steps := Table.updateWhere (fun row => decide (row.id = stepId)) change
      store.steps }

/-- `UPDATE outbox_events ... WHERE id = eventId`. -/
def updateEvent (store : QueueStore) (eventId : Uuid)
    (change : OutboxEventRecord → OutboxEventRecord) : QueueStore :=
  { store with
    events := Table.updateWhere (fun row => decide (row.id = eventId)) change
      store.events }

/-- `UPDATE task_executions ... WHERE condition`. -/
def updateExecutions (store : QueueStore)
    (condition : TaskExecutionRecord → Bool)
    (change : TaskExecutionRecord → TaskExecutionRecord) : QueueStore :=
  { store with
    executions := Table.updateWhere condition change store.executions }

variable (env : QueueEnvironment)

def probeMessage (jobId assetId correlationId : Uuid) (now : DateTime) :
    RecoveryMessage :=
  { schemaVersion := recoverySchemaVersion
    taskName := recoveryTaskName
    jobId := jobId
    assetId := assetId
    workflowStep := recoveryStepName
    expectedInputVersion := recoveryInputVersion
    idempotencyKey := recoveryIdempotencyKey jobId
    correlationId := correlationId
    createdAt := now }

def probeStep (stepId organizationId jobId assetId : Uuid) (now : DateTime) :
    WorkflowStepRecord :=
  { id := stepId
    organizationId := organizationId
    jobId := jobId
    assetId := assetId
    stepName := recoveryStepName
    status := .dispatchPending
    expectedInputVersion := recoveryInputVersion
    idempotencyKey := recoveryIdempotencyKey jobId
    attemptCount := 0
    lastErrorCode := none
    createdAt := now
    updatedAt := now }

def probeEvent (eventId organizationId jobId stepId : Uuid)
    (payload : RecoveryMessage) (now : DateTime) : OutboxEventRecord :=
  { id := eventId
    organizationId := organizationId
    jobId := jobId
    workflowStepId := stepId
    eventType := "workflow.step.requested"
    schemaVersion := recoverySchemaVersion
    taskName := recoveryTaskName
    queueName := recoveryQueueName
    payload := payload
    status := .pending
    publishAttempts := 0
    publishedAt := none
    lastErrorCode := none
    createdAt := now
    updatedAt := now }

/-- The identifiers of a new recovery probe. -/
structure ProbeIds where
  organizationId : Uuid
  assetId : Uuid
  jobId : Uuid
  stepId : Uuid
  eventId : Uuid
  correlationId : Uuid

/-- The identifiers, in the order of the source. -/
def drawProbeIds (drawn : Nat) : ProbeIds :=
  { organizationId := env.uuid4 drawn
    assetId := env.uuid4 (drawn + 1)
    jobId := env.uuid4 (drawn + 2)
    stepId := env.uuid4 (drawn + 3)
    eventId := env.uuid4 (drawn + 4)
    correlationId := env.uuid4 (drawn + 5) }

/-- The insertions of `prepare_recovery_probe`: primary keys and the
idempotency key have to be new. -/
def insertProbe (store : QueueStore) (ids : ProbeIds)
    (payload : RecoveryMessage) (now : DateTime) :
    Except QueueError RecoveryProbeReference × QueueStore :=
  if store.steps.any (fun row => decide (row.id = ids.stepId) ||
        decide (row.idempotencyKey = recoveryIdempotencyKey ids.jobId)) ||
      store.events.any (fun row => decide (row.id = ids.eventId)) then
    (.error .integrity, store)
  else
    (.ok
      { jobId := ids.jobId
        stepId := ids.stepId
        outboxEventId := ids.eventId
        baselineFindingCount := store.findingVersions },
      { store with
        steps := store.steps ++
          [probeStep ids.stepId ids.organizationId ids.jobId ids.assetId now]
        events := store.events ++
          [probeEvent ids.eventId ids.organizationId ids.jobId ids.stepId
            payload now] })

/-- Nothing is inserted when the payload did not validate. -/
def insertValidated (store : QueueStore) (ids : ProbeIds) (now : DateTime) :
    Except QueueError RecoveryMessage →
      Except QueueError RecoveryProbeReference × QueueStore
  | .error error => (.error error, store)
  | .ok payload => store.insertProbe ids payload now

def prepareRecoveryProbe (store : QueueStore) (now : DateTime) :
    Except QueueError RecoveryProbeReference × QueueStore :=
  let ids := drawProbeIds env store.drawn
  { store with drawn := store.drawn + 6 }.insertValidated ids now
    (validateRecoveryMessage
      (probeMessage ids.jobId ids.assetId ids.correlationId now))

def pendingEventPayload (store : QueueStore) (eventId : Uuid) :
    Except QueueError (RecoveryMessage × String × String) :=
  match store.event eventId with
  | none => refusal .eventNotFound "Outbox event is unavailable."
  | some event =>
      if event.status.isPending = false then
        refusal .eventStateInvalid "Outbox event is not pending."
      else do
        let payload ← validateRecoveryMessage event.payload
        pure (payload, event.taskName, event.queueName)

/-- An `UPDATE` of one event that is guarded by its status: nothing happens
unless the event is in one of the statuses. -/
def updateEventWhen (store : QueueStore) (eventId : Uuid)
    (admitted : EventStatus → Bool)
    (change : OutboxEventRecord → OutboxEventRecord) (message : String) :
    Except QueueError OutboxEventRecord × QueueStore :=
  match store.event eventId with
  | none => (refusal .eventStateInvalid message, store)
  | some event =>
      if admitted event.status then
        (.ok (change event), store.updateEvent eventId change)
      else (refusal .eventStateInvalid message, store)

/-- The columns of an event that a publication attempt writes. -/
def publishingColumns (now : DateTime) (row : OutboxEventRecord) :
    OutboxEventRecord :=
  { row with
    status := .pending
    publishAttempts := row.publishAttempts + 1
    lastErrorCode := none
    updatedAt := now }

def recordEventPublishAttempt (store : QueueStore) (eventId : Uuid)
    (now : DateTime) : Except QueueError Unit × QueueStore :=
  let (outcome, updated) := store.updateEventWhen eventId
    EventStatus.isPending (publishingColumns now)
    "Outbox event cannot start another publish attempt."
  (outcome.map fun _ => (), updated)

/-- The columns of an event that its acknowledgement writes. -/
def publishedColumns (now : DateTime) (row : OutboxEventRecord) :
    OutboxEventRecord :=
  { row with
    status := .published
    publishedAt := some now
    lastErrorCode := none
    updatedAt := now }

/-- The columns of a step that the acknowledgement of its event writes. -/
def queuedColumns (now : DateTime) (row : WorkflowStepRecord) :
    WorkflowStepRecord :=
  { row with status := .queued, updatedAt := now }

/-- `mark_event_published`: the step is set QUEUED whatever its status is. -/
def markEventPublished (store : QueueStore) (eventId : Uuid)
    (now : DateTime) : Except QueueError Unit × QueueStore :=
  match store.updateEventWhen eventId EventStatus.isPending
      (publishedColumns now)
      "Outbox publish acknowledgement lost its pending event." with
  | (.error error, unchanged) => (.error error, unchanged)
  | (.ok event, updated) =>
      (.ok (), updated.updateStep event.workflowStepId (queuedColumns now))

/-- The columns of an event that a failed publication writes. -/
def retryColumns (now : DateTime) (row : OutboxEventRecord) :
    OutboxEventRecord :=
  { row with
    status := .retryPending
    lastErrorCode := some "BROKER_PUBLISH_FAILED"
    updatedAt := now }

def markEventRetryPending (store : QueueStore) (eventId : Uuid)
    (now : DateTime) : Except QueueError Unit × QueueStore :=
  let (outcome, updated) := store.updateEventWhen eventId
    (fun status => decide (status = .pending)) (retryColumns now)
    "Outbox event cannot be scheduled for retry."
  (outcome.map fun _ => (), updated)

/-- The message of a delivery agrees with the stored step. -/
def messageMatches (message : RecoveryMessage) (step : WorkflowStepRecord) :
    Bool :=
  decide (step.jobId = message.jobId) &&
    decide (step.assetId = message.assetId) &&
    decide (step.stepName = message.workflowStep) &&
    decide (step.expectedInputVersion = message.expectedInputVersion) &&
    decide (step.idempotencyKey = message.idempotencyKey)

def loseRunning (now : DateTime) (row : TaskExecutionRecord) :
    TaskExecutionRecord :=
  { row with
    status := .workerLost
    errorCode := some "WORKER_PROCESS_LOST"
    completedAt := some now }

def isRunningOf (stepId : Uuid) (row : TaskExecutionRecord) : Bool :=
  decide (row.workflowStepId = stepId) && decide (row.status = .running)

def attemptRow (executionId : Uuid) (step : WorkflowStepRecord)
    (deliveryId : Uuid) (pid : Nat) (now : DateTime) (resultExists : Bool) :
    TaskExecutionRecord :=
  { id := executionId
    organizationId := step.organizationId
    jobId := step.jobId
    workflowStepId := step.id
    deliveryId := deliveryId
    attemptNo := step.attemptCount + 1
    status := if resultExists then .returnExisting else .running
    workerPid := some pid
    errorCode := none
    startedAt := now
    completedAt := if resultExists then some now else none }

def attemptColumns (attemptNo : Nat) (now : DateTime) (resultExists : Bool)
    (row : WorkflowStepRecord) : WorkflowStepRecord :=
  { row with
    attemptCount := attemptNo
    status := if resultExists then .succeeded else .running
    lastErrorCode := none
    updatedAt := now }

/-- The writes of `begin_recovery_attempt`: a running execution of the step is
given up, the attempt is counted and its execution added. -/
def recordAttempt (store : QueueStore) (step : WorkflowStepRecord)
    (deliveryId : Uuid) (pid : Nat) (now : DateTime) : QueueStore :=
  let resultExists := store.hasResult step.idempotencyKey
  let attempt := attemptRow (env.uuid4 store.drawn) step deliveryId pid now
    resultExists
  let reconciled :=
    store.updateExecutions (isRunningOf step.id) (loseRunning now)
  let counted := reconciled.updateStep step.id
    (attemptColumns attempt.attemptNo now resultExists)
  { counted with
    executions := counted.executions ++ [attempt]
    drawn := store.drawn + 1 }

/-- What `begin_recovery_attempt` returns. -/
def startedAttempt (executionId : Uuid) (step : WorkflowStepRecord)
    (resultExists : Bool) : RecoveryAttempt :=
  { executionId := executionId
    attemptNo := step.attemptCount + 1
    shouldHoldForWorkerLoss :=
      decide (step.attemptCount + 1 = 1) && !resultExists
    resultAlreadyExists := resultExists }

/-- The primary key of executions, or the uniqueness of a step's attempt
numbers, refuses the row. -/
def executionConflict (store : QueueStore) (executionId stepId : Uuid)
    (attemptNo : Nat) : Bool :=
  store.executions.any fun row =>
    decide (row.id = executionId) ||
      (decide (row.workflowStepId = stepId) &&
        decide (row.attemptNo = attemptNo))

def beginRecoveryAttempt (store : QueueStore) (eventId deliveryId : Uuid)
    (pid : Nat) (now : DateTime) :
    Except QueueError RecoveryAttempt × QueueStore :=
  match store.event eventId with
  | none => (refusal .eventNotFound "Outbox event is unavailable.", store)
  | some event =>
      match validateRecoveryMessage event.payload with
      | .error error => (.error error, store)
      | .ok message =>
          match store.step event.workflowStepId with
          | none => (refusal .stepNotFound "Workflow step is unavailable.",
              store)
          | some step =>
              if messageMatches message step = false then
                (refusal .invalidMessage
                  "Queue message differs from PostgreSQL workflow truth.",
                  store)
              else if store.executionConflict (env.uuid4 store.drawn) step.id
                  (step.attemptCount + 1) then
                (.error .integrity, { store with drawn := store.drawn + 1 })
              else
                (.ok (startedAttempt (env.uuid4 store.drawn) step
                    (store.hasResult step.idempotencyKey)),
                  store.recordAttempt env step deliveryId pid now)

def resultPayload (step : WorkflowStepRecord) : ResultPayload :=
  { schemaVersion := "1.0"
    jobId := step.jobId
    workflowStep := step.stepName
    expectedInputVersion := step.expectedInputVersion
    idempotencyKey := step.idempotencyKey
    result := "DELIVERY_VERIFIED" }

def resultRow (resultId : Uuid) (step : WorkflowStepRecord) (now : DateTime) :
    WorkflowResultRecord :=
  { id := resultId
    organizationId := step.organizationId
    jobId := step.jobId
    workflowStepId := step.id
    idempotencyKey := step.idempotencyKey
    resultSha256 := env.canonicalSha256 (resultPayload step)
    createdAt := now }

/-- The columns of an execution that its completion writes. -/
def finishedColumns (now : DateTime) (inserted : Bool)
    (row : TaskExecutionRecord) : TaskExecutionRecord :=
  { row with
    status := if inserted then .succeeded else .returnExisting
    completedAt := some now
    workerPid := none }

/-- The columns of a step that the completion of an execution writes. -/
def succeededColumns (now : DateTime) (row : WorkflowStepRecord) :
    WorkflowStepRecord :=
  { row with
    status := .succeeded
    lastErrorCode := none
    updatedAt := now }

/-- The writes of `complete_recovery_attempt`: a result is inserted unless its
key is taken. -/
def recordCompletion (store : QueueStore) (step : WorkflowStepRecord)
    (executionId : Uuid) (now : DateTime) : QueueStore :=
  let inserted := !store.hasResult step.idempotencyKey
  let finished := store.updateExecutions
    (fun row => decide (row.id = executionId)) (finishedColumns now inserted)
  let settled := finished.updateStep step.id (succeededColumns now)
  { settled with
    results :=
      if inserted then
        store.results ++ [resultRow env (env.uuid4 store.drawn) step now]
      else store.results
    drawn := store.drawn + 1 }

def completeRecoveryAttempt (store : QueueStore) (executionId : Uuid)
    (now : DateTime) : Except QueueError Bool × QueueStore :=
  match store.execution executionId with
  | none => (refusal .deliveryNotFound "Running task execution is unavailable.",
      store)
  | some execution =>
      if execution.status ≠ .running then
        (refusal .deliveryNotFound "Running task execution is unavailable.",
          store)
      else
        match store.step execution.workflowStepId with
        | none => (.error .integrity, store)
        | some step =>
            -- `ON CONFLICT` covers the key, not the primary key.
            if store.hasResult step.idempotencyKey = false ∧
                store.results.any fun row =>
                  decide (row.id = env.uuid4 store.drawn) then
              (.error .integrity, { store with drawn := store.drawn + 1 })
            else
              (.ok (!store.hasResult step.idempotencyKey),
                store.recordCompletion env step executionId now)

def sendTask (store : QueueStore) (message : BrokerMessage) :
    BrokerOutcome → Except QueueError Unit × QueueStore
  | .accepted => (.ok (), { store with messages := store.messages ++ [message] })
  | .refused => (.error .broker, store)
  | .acceptedUnconfirmed =>
      (.error .broker, { store with messages := store.messages ++ [message] })

def execute (store : QueueStore) : (op : QueueOp) → op.Resp × QueueStore
  | .prepareRecoveryProbe now => store.prepareRecoveryProbe env now
  | .pendingEventPayload eventId => (store.pendingEventPayload eventId, store)
  | .recordEventPublishAttempt eventId now =>
      store.recordEventPublishAttempt eventId now
  | .draw => (store.drawn, { store with drawn := store.drawn + 1 })
  | .sendTask message outcome => store.sendTask message outcome
  | .markEventPublished eventId now => store.markEventPublished eventId now
  | .markEventRetryPending eventId now =>
      store.markEventRetryPending eventId now
  | .beginRecoveryAttempt eventId deliveryId pid now =>
      store.beginRecoveryAttempt env eventId deliveryId pid now
  | .completeRecoveryAttempt executionId now =>
      store.completeRecoveryAttempt env executionId now

end QueueStore

namespace QueueStore

variable (env : QueueEnvironment) {store : QueueStore}

theorem validateRecoveryMessage_probeMessage (jobId assetId correlationId : Uuid)
    (now : DateTime) :
    validateRecoveryMessage (probeMessage jobId assetId correlationId now) =
      .ok (probeMessage jobId assetId correlationId now) := by
  simp [validateRecoveryMessage, probeMessage]

/-- A preparation adds nothing, or a step and an event that are both new. -/
theorem prepareRecoveryProbe_cases (store : QueueStore) (now : DateTime) :
    (∃ error, store.prepareRecoveryProbe env now =
      (.error error, { store with drawn := store.drawn + 6 })) ∨
    ∃ ids : ProbeIds,
      (∀ row ∈ store.steps, row.id ≠ ids.stepId ∧
        row.idempotencyKey ≠ recoveryIdempotencyKey ids.jobId) ∧
      (∀ row ∈ store.events, row.id ≠ ids.eventId) ∧
      (store.prepareRecoveryProbe env now).2 =
        { store with
          steps := store.steps ++
            [probeStep ids.stepId ids.organizationId ids.jobId ids.assetId now]
          events := store.events ++
            [probeEvent ids.eventId ids.organizationId ids.jobId ids.stepId
              (probeMessage ids.jobId ids.assetId ids.correlationId now) now]
          drawn := store.drawn + 6 } := by
  simp only [prepareRecoveryProbe, validateRecoveryMessage_probeMessage,
    insertValidated, insertProbe]
  split
  · exact .inl ⟨_, rfl⟩
  rename_i free
  simp only [Bool.not_eq_true, Bool.or_eq_false_iff, List.any_eq_false,
    decide_eq_false_iff_not] at free
  refine .inr ⟨drawProbeIds env store.drawn, ?_, ?_, rfl⟩
  · intro row member
    simpa using free.1 row member
  · intro row member
    simpa using free.2 row member

/-- A delivery is refused without a write, or its attempt is recorded for the
step of its event. -/
theorem beginRecoveryAttempt_cases (store : QueueStore)
    (eventId deliveryId : Uuid) (pid : Nat) (now : DateTime) :
    (∃ error drawn, store.drawn ≤ drawn ∧
      store.beginRecoveryAttempt env eventId deliveryId pid now =
        (.error error, { store with drawn := drawn })) ∨
    ∃ event step, store.event eventId = some event ∧
      store.step event.workflowStepId = some step ∧
      store.executionConflict (env.uuid4 store.drawn) step.id
        (step.attemptCount + 1) = false ∧
      store.beginRecoveryAttempt env eventId deliveryId pid now =
        (.ok (startedAttempt (env.uuid4 store.drawn) step
            (store.hasResult step.idempotencyKey)),
          store.recordAttempt env step deliveryId pid now) := by
  unfold beginRecoveryAttempt
  split
  · exact .inl ⟨_, store.drawn, Nat.le_refl _, rfl⟩
  rename_i event eventFound
  split
  · exact .inl ⟨_, store.drawn, Nat.le_refl _, rfl⟩
  split
  · exact .inl ⟨_, store.drawn, Nat.le_refl _, rfl⟩
  rename_i step stepFound
  split
  · exact .inl ⟨_, store.drawn, Nat.le_refl _, rfl⟩
  split
  · exact .inl ⟨_, store.drawn + 1, Nat.le_succ _, rfl⟩
  · next free =>
      exact .inr ⟨event, step, eventFound, stepFound,
        by simpa using free, rfl⟩

/-- A delivery of a stored event whose message agrees with its step is
recorded, unless the database refuses the row. -/
theorem beginRecoveryAttempt_ok {eventId deliveryId : Uuid} {pid : Nat}
    {now : DateTime} {event : OutboxEventRecord} {step : WorkflowStepRecord}
    (eventFound : store.event eventId = some event)
    (valid : validateRecoveryMessage event.payload = .ok event.payload)
    (stepFound : store.step event.workflowStepId = some step)
    (agrees : messageMatches event.payload step = true)
    (free : store.executionConflict (env.uuid4 store.drawn) step.id
      (step.attemptCount + 1) = false) :
    store.beginRecoveryAttempt env eventId deliveryId pid now =
      (.ok (startedAttempt (env.uuid4 store.drawn) step
          (store.hasResult step.idempotencyKey)),
        store.recordAttempt env step deliveryId pid now) := by
  simp only [beginRecoveryAttempt, eventFound, valid, stepFound, agrees,
    free, Bool.true_eq_false, Bool.false_eq_true, if_false]

/-- A completion is refused without a write, or it settles a running execution
and its step. -/
theorem completeRecoveryAttempt_cases (store : QueueStore)
    (executionId : Uuid) (now : DateTime) :
    (∃ error drawn, store.drawn ≤ drawn ∧
      store.completeRecoveryAttempt env executionId now =
        (.error error, { store with drawn := drawn })) ∨
    ∃ execution step, store.execution executionId = some execution ∧
      execution.status = .running ∧
      store.step execution.workflowStepId = some step ∧
      store.completeRecoveryAttempt env executionId now =
        (.ok (!store.hasResult step.idempotencyKey),
          store.recordCompletion env step executionId now) := by
  unfold completeRecoveryAttempt
  split
  · exact .inl ⟨_, store.drawn, Nat.le_refl _, rfl⟩
  rename_i execution executionFound
  split
  · exact .inl ⟨_, store.drawn, Nat.le_refl _, rfl⟩
  rename_i running
  split
  · exact .inl ⟨_, store.drawn, Nat.le_refl _, rfl⟩
  rename_i step stepFound
  split
  · exact .inl ⟨_, store.drawn + 1, Nat.le_succ _, rfl⟩
  · exact .inr ⟨execution, step, executionFound,
      not_not.mp running, stepFound, rfl⟩

/-- A status-guarded event update is refused without a write, or it changes
the event it names. -/
theorem updateEventWhen_cases (store : QueueStore) (eventId : Uuid)
    (admitted : EventStatus → Bool)
    (change : OutboxEventRecord → OutboxEventRecord) (message : String) :
    (∃ error, store.updateEventWhen eventId admitted change message =
      (.error error, store)) ∨
    ∃ event, store.event eventId = some event ∧
      admitted event.status = true ∧
      store.updateEventWhen eventId admitted change message =
        (.ok (change event), store.updateEvent eventId change) := by
  unfold updateEventWhen
  split
  · exact .inl ⟨_, rfl⟩
  rename_i event eventFound
  split
  · next admits => exact .inr ⟨event, eventFound, admits, rfl⟩
  · exact .inl ⟨_, rfl⟩

/-- An acknowledgement is refused without a write, or it marks a pending event
and requeues its step. -/
theorem markEventPublished_cases (store : QueueStore) (eventId : Uuid)
    (now : DateTime) :
    (∃ error, store.markEventPublished eventId now = (.error error, store)) ∨
    ∃ event, store.event eventId = some event ∧
      event.status.isPending = true ∧
      store.markEventPublished eventId now =
        (.ok (), (store.updateEvent eventId (publishedColumns now)).updateStep
          event.workflowStepId (queuedColumns now)) := by
  unfold markEventPublished
  rcases store.updateEventWhen_cases eventId EventStatus.isPending
      (publishedColumns now)
      "Outbox publish acknowledgement lost its pending event." with
    ⟨error, refused⟩ | ⟨event, found, pending, written⟩
  · rw [refused]
    exact .inl ⟨error, rfl⟩
  · rw [written]
    exact .inr ⟨event, found, pending, rfl⟩

/-- `StepWrite store op before after`: the call `op` takes a step row from
`before` to `after`. -/
inductive StepWrite (store : QueueStore) (op : QueueOp)
    (before : WorkflowStepRecord) : WorkflowStepRecord → Prop where
  | unchanged : StepWrite store op before before
  | requeued (eventId : Uuid) (now : DateTime) (event : OutboxEventRecord)
      (called : op = .markEventPublished eventId now)
      (found : store.event eventId = some event)
      (pending : event.status.isPending = true)
      (addressed : event.workflowStepId = before.id) :
      StepWrite store op before (queuedColumns now before)
  | attempted (now : DateTime) :
      StepWrite store op before (attemptColumns (before.attemptCount + 1) now
        (store.hasResult before.idempotencyKey) before)
  | succeeded (now : DateTime) :
      StepWrite store op before (succeededColumns now before)

theorem StepWrite.sameKeys {op : QueueOp} {before after : WorkflowStepRecord}
    (write : StepWrite store op before after) :
    after.id = before.id ∧ after.idempotencyKey = before.idempotencyKey := by
  cases write with
  | unchanged => exact ⟨rfl, rfl⟩
  | requeued => exact ⟨rfl, rfl⟩
  | attempted => exact ⟨rfl, rfl⟩
  | succeeded => exact ⟨rfl, rfl⟩

variable {stepId : Uuid} {row : WorkflowStepRecord}

theorem step_updateStep (target : Uuid)
    (change : WorkflowStepRecord → WorkflowStepRecord)
    (keeps : ∀ row, (change row).id = row.id)
    (found : store.step stepId = some row) :
    (store.updateStep target change).step stepId =
      some (if stepId = target then change row else row) := by
  have sameKey : row.id = stepId := Table.lookup_key found
  have updated := Table.lookup_updateWhere
    (fun row => decide (row.id = target)) (fun row _ => keeps row) stepId
    store.steps
  rw [step] at found
  rw [step, updateStep, updated, found]
  simp [sameKey]

theorem step_row_unique {step : WorkflowStepRecord} {sought : Uuid}
    (found : store.step stepId = some row)
    (other : store.step sought = some step) (same : stepId = step.id) :
    row = step := by
  have soughtId : step.id = sought := Table.lookup_key other
  rw [same, soughtId, other] at found
  exact (Option.some.inj found).symm

/-- Everything one call can do to a step row. -/
theorem step_execute (op : QueueOp) (found : store.step stepId = some row) :
    ∃ after, (store.execute env op).2.step stepId = some after ∧
      StepWrite store op row after := by
  have rowId : row.id = stepId := Table.lookup_key found
  cases op with
  | prepareRecoveryProbe now =>
      simp only [execute]
      rcases prepareRecoveryProbe_cases env store now with
        ⟨error, refused⟩ | ⟨ids, _, _, inserted⟩
      · rw [refused]
        exact ⟨row, found, .unchanged⟩
      · rw [inserted]
        exact ⟨row, Table.lookup_append_of_some found _, .unchanged⟩
  | recordEventPublishAttempt eventId now =>
      have kept : (store.execute env
          (.recordEventPublishAttempt eventId now)).2.steps = store.steps := by
        simp only [execute, recordEventPublishAttempt, updateEventWhen]
        split
        · rfl
        · split <;> rfl
      exact ⟨row, by rw [step, kept]; exact found, .unchanged⟩
  | markEventRetryPending eventId now =>
      have kept : (store.execute env
          (.markEventRetryPending eventId now)).2.steps = store.steps := by
        simp only [execute, markEventRetryPending, updateEventWhen]
        split
        · rfl
        · split <;> rfl
      exact ⟨row, by rw [step, kept]; exact found, .unchanged⟩
  | markEventPublished eventId now =>
      simp only [execute]
      rcases store.markEventPublished_cases eventId now with
        ⟨error, refused⟩ | ⟨event, eventFound, pending, written⟩
      · rw [refused]
        exact ⟨row, found, .unchanged⟩
      · rw [written]
        refine ⟨_, step_updateStep event.workflowStepId (queuedColumns now)
          (fun _ => rfl) found, ?_⟩
        split
        · next addressed =>
            exact .requeued eventId now event rfl eventFound pending
              (addressed.symm.trans rowId.symm)
        · exact .unchanged
  | beginRecoveryAttempt eventId deliveryId pid now =>
      simp only [execute]
      rcases beginRecoveryAttempt_cases env store eventId deliveryId pid now
          with
        ⟨error, drawn, _, refused⟩ | ⟨event, step, _, stepFound, _, recorded⟩
      · rw [refused]
        exact ⟨row, found, .unchanged⟩
      · rw [recorded]
        have reconciled : (store.updateExecutions (isRunningOf step.id)
            (loseRunning now)).step stepId = some row := found
        refine ⟨_, step_updateStep step.id (attemptColumns _ now _)
          (fun _ => rfl) reconciled, ?_⟩
        split
        · next addressed =>
            cases step_row_unique found stepFound addressed
            exact .attempted now
        · exact .unchanged
  | completeRecoveryAttempt executionId now =>
      simp only [execute]
      rcases completeRecoveryAttempt_cases env store executionId now with
        ⟨error, drawn, _, refused⟩ |
          ⟨execution, step, _, _, stepFound, recorded⟩
      · rw [refused]
        exact ⟨row, found, .unchanged⟩
      · rw [recorded]
        have finished : (store.updateExecutions
            (fun row => decide (row.id = executionId))
            (finishedColumns now (!store.hasResult step.idempotencyKey))).step
              stepId = some row := found
        refine ⟨_, step_updateStep step.id (succeededColumns now)
          (fun _ => rfl) finished, ?_⟩
        split
        · exact .succeeded now
        · exact .unchanged
  | sendTask message outcome =>
      cases outcome <;> exact ⟨row, found, .unchanged⟩
  | pendingEventPayload eventId => exact ⟨row, found, .unchanged⟩
  | draw => exact ⟨row, found, .unchanged⟩

/-- A call leaves the results alone, or it completes a running execution and
adds the first result of its step. -/
theorem results_execute (op : QueueOp) :
    (store.execute env op).2.results = store.results ∨
    ∃ executionId now execution step,
      op = .completeRecoveryAttempt executionId now ∧
      store.execution executionId = some execution ∧
      execution.status = .running ∧
      store.step execution.workflowStepId = some step ∧
      store.hasResult step.idempotencyKey = false ∧
      (store.execute env op).2.results =
        store.results ++ [resultRow env (env.uuid4 store.drawn) step now] := by
  cases op with
  | prepareRecoveryProbe now =>
      simp only [execute]
      rcases prepareRecoveryProbe_cases env store now with
        ⟨error, refused⟩ | ⟨ids, _, _, inserted⟩
      · rw [refused]
        exact .inl rfl
      · rw [inserted]
        exact .inl rfl
  | recordEventPublishAttempt eventId now =>
      simp only [execute, recordEventPublishAttempt, updateEventWhen]
      split
      · exact .inl rfl
      · split <;> exact .inl rfl
  | markEventRetryPending eventId now =>
      simp only [execute, markEventRetryPending, updateEventWhen]
      split
      · exact .inl rfl
      · split <;> exact .inl rfl
  | markEventPublished eventId now =>
      simp only [execute]
      rcases store.markEventPublished_cases eventId now with
        ⟨error, refused⟩ | ⟨event, _, _, written⟩
      · rw [refused]
        exact .inl rfl
      · rw [written]
        exact .inl rfl
  | beginRecoveryAttempt eventId deliveryId pid now =>
      simp only [execute]
      rcases beginRecoveryAttempt_cases env store eventId deliveryId pid now
          with
        ⟨error, drawn, _, refused⟩ | ⟨event, step, _, _, _, recorded⟩
      · rw [refused]
        exact .inl rfl
      · rw [recorded]
        exact .inl rfl
  | completeRecoveryAttempt executionId now =>
      simp only [execute]
      rcases completeRecoveryAttempt_cases env store executionId now with
        ⟨error, drawn, _, refused⟩ |
          ⟨execution, step, found, running, stepFound, recorded⟩
      · rw [refused]
        exact .inl rfl
      · rw [recorded]
        cases taken : store.hasResult step.idempotencyKey with
        | true => exact .inl (by simp [recordCompletion, taken])
        | false =>
            exact .inr ⟨executionId, now, execution, step, rfl, found,
              running, stepFound, taken, by simp [recordCompletion, taken]⟩
  | sendTask message outcome => cases outcome <;> exact .inl rfl
  | pendingEventPayload eventId => exact .inl rfl
  | draw => exact .inl rfl

theorem hasResult_execute (op : QueueOp) {key : String}
    (stored : store.hasResult key = true) :
    (store.execute env op).2.hasResult key = true := by
  have results : (store.execute env op).2.results = store.results ∨ _ :=
    results_execute env op
  rcases results with same | ⟨_, _, _, _, _, _, _, _, _, grown⟩
  · rw [hasResult, same]
    exact stored
  · obtain ⟨result, found⟩ := Option.isSome_iff_exists.mp stored
    rw [hasResult, grown, Table.lookup_append_of_some found]
    rfl

end QueueStore

open Interleaving

/-- A program over the repository, the broker and the random source. -/
abbrev QueueProgram (α : Type) : Type :=
  Program QueueOp QueueOp.Resp QueueError α

/-- What `_dispatch` prints. -/
structure DispatchReport where
  status : String
  deliveryId : Uuid
  payloadFieldCount : Nat
  rawPayloadLogged : Bool

variable (env : QueueEnvironment)

def prepare (now : DateTime) : QueueProgram RecoveryProbeReference := do
  let reference ← .perform (.prepareRecoveryProbe now)
  .lift reference

/-- `_dispatch`.  The message has left before its event is marked. -/
def dispatch (eventId : Uuid) (simulatePublishCrash : Bool)
    (outcome : BrokerOutcome) (attemptedAt settledAt : DateTime) :
    QueueProgram DispatchReport := do
  let pending ← .perform (.pendingEventPayload eventId)
  let (_, taskName, queueName) ← .lift pending
  let attempted ← .perform (.recordEventPublishAttempt eventId attemptedAt)
  .lift attempted
  let drawn ← .perform .draw
  let deliveryId := env.uuid4 drawn
  let sent : Except QueueError Unit ← .perform
    (QueueOp.sendTask ⟨taskName, eventId, deliveryId, queueName⟩ outcome)
  match sent with
  | .error error =>
      let marked ← .perform (.markEventRetryPending eventId settledAt)
      .lift marked
      .raise error
  | .ok _ =>
      if simulatePublishCrash then
        pure ⟨"PUBLISHED_NOT_ACKNOWLEDGED", deliveryId, 9, false⟩
      else
        let marked ← .perform (.markEventPublished eventId settledAt)
        .lift marked
        pure ⟨"PUBLISHED", deliveryId, 9, false⟩

/-- `verify_delivery`.  The hold of a first attempt is a pause between the two
calls, which any schedule may make. -/
def verifyDelivery (eventId deliveryId : Uuid) (pid : Nat)
    (startedAt completedAt : DateTime) : QueueProgram Unit := do
  let begun ← .perform
    (.beginRecoveryAttempt eventId deliveryId pid startedAt)
  let attempt ← .lift begun
  if attempt.resultAlreadyExists then pure ()
  else
    let completed ← .perform
      (.completeRecoveryAttempt attempt.executionId completedAt)
    let _ ← .lift completed
    pure ()

/-- A command of the recovery tool, or a delivery of the broker to a worker. -/
inductive QueueRequest where
  | prepare (now : DateTime)
  | dispatch (eventId : Uuid) (simulatePublishCrash : Bool)
      (outcome : BrokerOutcome) (attemptedAt settledAt : DateTime)
  | deliver (message : BrokerMessage) (pid : Nat)
      (startedAt completedAt : DateTime)

/-- What a request returns. -/
inductive QueueReply where
  | prepared (reference : RecoveryProbeReference)
  | dispatched (report : DispatchReport)
  | delivered

def QueueRequest.body : QueueRequest → QueueProgram QueueReply
  | .prepare now => do
      pure (.prepared (← Queue.prepare now))
  | .dispatch eventId simulatePublishCrash outcome attemptedAt settledAt => do
      pure (.dispatched (← Queue.dispatch env eventId simulatePublishCrash
        outcome attemptedAt settledAt))
  | .deliver message pid startedAt completedAt => do
      verifyDelivery message.eventId message.deliveryId pid startedAt
        completedAt
      pure .delivered

/-- Any number of publishers and workers.  The broker delivers a message as
often as it likes, but none it was not given; a publisher or worker that
crashes is not scheduled again. -/
def queueSystem : System QueueStore QueueRequest QueueOp QueueOp.Resp
    QueueError QueueReply :=
  { execute := QueueStore.execute env
    body := QueueRequest.body env
    admits := fun store request =>
      match request with
      | .deliver message .. => decide (message ∈ store.messages)
      | _ => true }

/-- A started request. -/
abbrev QueueThread :=
  Thread QueueRequest QueueOp QueueOp.Resp QueueError QueueReply

/-- The tables, the broker and all started requests. -/
abbrev QueueConfig :=
  Config QueueStore QueueRequest QueueOp QueueOp.Resp QueueError QueueReply

def emptyStore : QueueStore := ⟨[], [], [], [], 0, [], 0⟩

def QueueStore.finished (store : QueueStore) (stepId : Uuid) : Bool :=
  (store.step stepId).any fun row =>
    decide (row.status = .succeeded) && store.hasResult row.idempotencyKey

/-- The call acknowledges a publication, still pending in the outbox, of a
step that has finished in the meantime. -/
def requeuesFinished (stepId : Uuid) (store : QueueStore) : QueueOp → Bool
  | .markEventPublished eventId _ =>
      store.finished stepId && (store.event eventId).any fun event =>
        decide (event.workflowStepId = stepId) && event.status.isPending
  | _ => false

/-- No publication of the step is acknowledged after the step has finished. -/
def keepsFinished (stepId : Uuid) (store : QueueStore) (_ : QueueThread)
    (op : QueueOp) : Prop :=
  requeuesFinished stepId store op = false

instance (stepId : Uuid) (store : QueueStore) (thread : QueueThread)
    (op : QueueOp) : Decidable (keepsFinished stepId store thread op) :=
  inferInstanceAs (Decidable (_ = _))

variable {env : QueueEnvironment}

variable {store : QueueStore} {stepId : Uuid}

theorem finished_iff :
    store.finished stepId = true ↔ ∃ row, store.step stepId = some row ∧
      row.status = .succeeded ∧ store.hasResult row.idempotencyKey = true := by
  simp [QueueStore.finished, Option.any_eq_true]

theorem finished_execute (op : QueueOp)
    (finished : store.finished stepId = true)
    (guarded : requeuesFinished stepId store op = false) :
    (store.execute env op).2.finished stepId = true := by
  obtain ⟨row, found, succeeded, stored⟩ := finished_iff.mp finished
  obtain ⟨after, foundAfter, write⟩ := QueueStore.step_execute env op found
  have kept := QueueStore.hasResult_execute env op stored
  have sameKey := write.sameKeys.2
  apply finished_iff.mpr
  refine ⟨after, foundAfter, ?_, by rw [sameKey]; exact kept⟩
  cases write with
  | unchanged => exact succeeded
  | requeued eventId now event called eventFound pending addressed =>
      have rowId : row.id = stepId := Table.lookup_key found
      subst called
      simp [requeuesFinished, finished, eventFound, pending, addressed,
        rowId] at guarded
  | attempted now => simp [QueueStore.attemptColumns, stored]
  | succeeded now => rfl

/-- Every acknowledgement the guard excludes does take a step back. -/
theorem requeuesFinished_regresses {op : QueueOp}
    (requeues : requeuesFinished stepId store op = true) :
    (store.execute env op).2.finished stepId = false := by
  cases op with
  | markEventPublished eventId now =>
      simp only [requeuesFinished, Bool.and_eq_true, Option.any_eq_true,
        decide_eq_true_eq] at requeues
      obtain ⟨finished, event, eventFound, addressed, pending⟩ := requeues
      obtain ⟨row, found, _, _⟩ := finished_iff.mp finished
      have located : (store.updateEvent eventId
          (QueueStore.publishedColumns now)).step stepId = some row := found
      have marked := QueueStore.step_updateStep event.workflowStepId
        (QueueStore.queuedColumns now) (fun _ => rfl) located
      rw [if_pos addressed.symm] at marked
      have written : (store.execute env (.markEventPublished eventId now)).2 =
          (store.updateEvent eventId
            (QueueStore.publishedColumns now)).updateStep
              event.workflowStepId (QueueStore.queuedColumns now) := by
        simp [QueueStore.execute, QueueStore.markEventPublished,
          QueueStore.updateEventWhen, eventFound, pending]
        rfl
      rw [QueueStore.finished, written, marked]
      rfl
  | _ => simp [requeuesFinished] at requeues

/-- Once a step is SUCCEEDED with its result stored, it stays so for as long
as no publication of it is acknowledged after the fact. -/
theorem finished_step_stays {before after : QueueConfig} {stepId : Uuid}
    (finished : before.store.finished stepId = true)
    (run : (queueSystem env).Run (keepsFinished stepId) before after) :
    after.store.finished stepId = true := by
  apply run.store_invariant (fun store => store.finished stepId = true)
    finished
  intro store thread op stillFinished guarded
  exact finished_execute op stillFinished guarded

def sampleQueue : QueueEnvironment :=
  { canonicalSha256 := fun _ => String.ofList (List.replicate 64 'a')
    uuid4 := fun drawn => ⟨drawn⟩
    uuid4_injective := fun _ _ same => congrArg Uuid.value same }

def sampleMessage : BrokerMessage :=
  { taskName := recoveryTaskName
    eventId := ⟨4⟩
    deliveryId := ⟨6⟩
    queueName := recoveryQueueName }

/-- A probe is prepared and published, and its worker finishes before the
publisher goes on. -/
def finishedBeforeMark : List (Action QueueRequest) :=
  [.start (.prepare 0), .step 0,
   .start (.dispatch ⟨4⟩ false .accepted 1 2),
   .step 1, .step 1, .step 1, .step 1,
   .start (.deliver sampleMessage 77 3 4), .step 2, .step 2]

/-- The publisher acknowledges in time and the worker finishes after that. -/
def finishedAfterMark : List (Action QueueRequest) :=
  [.start (.prepare 0), .step 0,
   .start (.dispatch ⟨4⟩ false .accepted 1 2),
   .step 1, .step 1, .step 1, .step 1, .step 1,
   .start (.deliver sampleMessage 77 3 4), .step 2, .step 2]

/-- A second delivery of the message leaves the finished step alone. -/
theorem duplicate_delivery_keeps_success :
    ∃ before after,
      (queueSystem sampleQueue).Run System.unguarded
        (Config.initial emptyStore) before ∧
      (queueSystem sampleQueue).Run (keepsFinished ⟨3⟩) before after ∧
      before.store.executions.length < after.store.executions.length ∧
      after.store.finished ⟨3⟩ = true := by
  let continued (config : QueueConfig) :=
    (config.store.finished ⟨3⟩, ((queueSystem sampleQueue).schedule
      (keepsFinished ⟨3⟩) config
      [.start (.deliver sampleMessage 78 5 6), .step 3]).map fun later =>
        decide (config.store.executions.length <
          later.store.executions.length))
  have scheduled : ((queueSystem sampleQueue).schedule System.unguarded
      (Config.initial emptyStore) finishedAfterMark).map continued =
      some (true, some true) := by
    decide
  obtain ⟨before, reached, seen⟩ := System.exists_run_of_schedule scheduled
  obtain ⟨finished, later⟩ := Prod.mk.inj seen
  obtain ⟨after, run, longer⟩ := System.exists_run_of_schedule later
  exact ⟨before, after, reached, run, of_decide_eq_true longer,
    finished_step_stays finished run⟩

/-- The publisher's acknowledgement takes a step that has SUCCEEDED, with its
result stored, back to QUEUED. -/
theorem late_acknowledgement_requeues :
    ∃ before after,
      (queueSystem sampleQueue).Run System.unguarded
        (Config.initial emptyStore) before ∧
      before.store.finished ⟨3⟩ = true ∧
      (queueSystem sampleQueue).Run System.unguarded before after ∧
      (after.store.step ⟨3⟩).map WorkflowStepRecord.status = some .queued := by
  let continued (config : QueueConfig) :=
    (config.store.finished ⟨3⟩, ((queueSystem sampleQueue).schedule
      System.unguarded config [.step 1]).map fun later =>
        (later.store.step ⟨3⟩).map WorkflowStepRecord.status)
  have scheduled : ((queueSystem sampleQueue).schedule System.unguarded
      (Config.initial emptyStore) finishedBeforeMark).map continued =
      some (true, some (some .queued)) := by
    decide
  obtain ⟨before, reached, seen⟩ := System.exists_run_of_schedule scheduled
  obtain ⟨finished, later⟩ := Prod.mk.inj seen
  obtain ⟨after, run, queued⟩ := System.exists_run_of_schedule later
  exact ⟨before, after, reached, finished, run, queued⟩

end SecAI.Queue
