/-
Module: SecAI.Queue.ExactlyOnce
Purpose: What at-least-once delivery leaves in the tables: one result for each
  key, one running execution for each step, consecutive attempt numbers.
Trusted boundary: none
Main exports:
  Registered, Accounted, ExactlyOnce, exactly_once
-/
import Mathlib.Data.List.Nodup
import SecAI.Queue.FinishedSteps

namespace SecAI.Queue

open Interleaving

/-! ## The invariant -/

/-- The columns of a step that no call writes after its insertion. -/
def WorkflowStepRecord.identity (row : WorkflowStepRecord) :
    Uuid × Uuid × Uuid × String × Nat × String :=
  (row.id, row.jobId, row.assetId, row.stepName, row.expectedInputVersion,
    row.idempotencyKey)

/-- The event carries a valid message of a stored step. -/
def EventBound (store : QueueStore) (event : OutboxEventRecord) : Prop :=
  validateRecoveryMessage event.payload = .ok event.payload ∧
    ∃ step ∈ store.steps, step.id = event.workflowStepId ∧
      QueueStore.messageMatches event.payload step = true

/-- Steps have their own identifiers and keys, and events belong to them. -/
structure Registered (store : QueueStore) : Prop where
  stepIds : (store.steps.map WorkflowStepRecord.id).Nodup
  stepKeys : (store.steps.map WorkflowStepRecord.idempotencyKey).Nodup
  events : ∀ event ∈ store.events, EventBound store event

/-- The executions of every step account for its attempt count, a running one
is the latest and has no result yet, and results have their own keys. -/
structure Accounted (env : QueueEnvironment) (store : QueueStore) : Prop where
  resultKeys : (store.results.map WorkflowResultRecord.idempotencyKey).Nodup
  attempts : ∀ step ∈ store.steps,
    (store.executionsOf step.id).map TaskExecutionRecord.attemptNo =
      List.range' 1 step.attemptCount
  running : ∀ step ∈ store.steps, ∀ row ∈ store.executionsOf step.id,
    row.status = .running →
      row.attemptNo = step.attemptCount ∧
        store.hasResult step.idempotencyKey = false
  owned : ∀ row ∈ store.executions,
    ∃ step ∈ store.steps, step.id = row.workflowStepId
  drawnIds : ∀ row ∈ store.executions,
    ∃ draw < store.drawn, row.id = env.uuid4 draw

/-- The invariant of the recovery tables. -/
structure Consistent (env : QueueEnvironment) (store : QueueStore) : Prop where
  registered : Registered store
  accounted : Accounted env store

variable {env : QueueEnvironment} {store : QueueStore}

/-! ## Registered steps -/

theorem identity_fields {before after : WorkflowStepRecord}
    (same : after.identity = before.identity) :
    after.id = before.id ∧ after.idempotencyKey = before.idempotencyKey ∧
      ∀ message, QueueStore.messageMatches message after =
        QueueStore.messageMatches message before := by
  simp only [WorkflowStepRecord.identity, Prod.mk.injEq] at same
  obtain ⟨sameId, sameJob, sameAsset, sameName, sameVersion, sameKey⟩ := same
  refine ⟨sameId, sameKey, fun message => ?_⟩
  simp only [QueueStore.messageMatches, sameJob, sameAsset, sameName,
    sameVersion, sameKey]

namespace Registered

theorem step_of_mem (registered : Registered store)
    {step : WorkflowStepRecord} (member : step ∈ store.steps) :
    store.step step.id = some step :=
  Table.lookup_eq_of_mem registered.stepIds member

variable {first second : WorkflowStepRecord}

theorem eq_of_id (registered : Registered store)
    (inFirst : first ∈ store.steps) (inSecond : second ∈ store.steps)
    (same : first.id = second.id) : first = second :=
  List.inj_on_of_nodup_map registered.stepIds inFirst inSecond same

theorem eq_of_key (registered : Registered store)
    (inFirst : first ∈ store.steps) (inSecond : second ∈ store.steps)
    (same : first.idempotencyKey = second.idempotencyKey) : first = second :=
  List.inj_on_of_nodup_map registered.stepKeys inFirst inSecond same

/-- A row of a step that keeps its identity is bound to the same events. -/
theorem updateStep (registered : Registered store) (target : Uuid)
    {change : WorkflowStepRecord → WorkflowStepRecord}
    (keeps : ∀ row, (change row).identity = row.identity) :
    Registered (store.updateStep target change) where
  stepIds := by
    have same : (store.updateStep target change).steps.map
        WorkflowStepRecord.id = store.steps.map WorkflowStepRecord.id :=
      Table.map_updateWhere (fun row => (identity_fields (keeps row)).1) _
    rw [same]
    exact registered.stepIds
  stepKeys := by
    have same : (store.updateStep target change).steps.map
        WorkflowStepRecord.idempotencyKey =
          store.steps.map WorkflowStepRecord.idempotencyKey :=
      Table.map_updateWhere (fun row => (identity_fields (keeps row)).2.1) _
    rw [same]
    exact registered.stepKeys
  events := by
    intro event member
    obtain ⟨valid, step, inSteps, sameId, agrees⟩ :=
      registered.events event member
    refine ⟨valid, _, Table.mem_updateWhere.mpr ⟨step, inSteps, rfl⟩, ?_⟩
    split
    · obtain ⟨keptId, _, keptMatch⟩ := identity_fields (keeps step)
      exact ⟨keptId.trans sameId, (keptMatch _).trans agrees⟩
    · exact ⟨sameId, agrees⟩

theorem updateEvent (registered : Registered store) (target : Uuid)
    (change : OutboxEventRecord → OutboxEventRecord)
    (keepsStep : ∀ row, (change row).workflowStepId = row.workflowStepId)
    (keepsPayload : ∀ row, (change row).payload = row.payload) :
    Registered (store.updateEvent target change) where
  stepIds := registered.stepIds
  stepKeys := registered.stepKeys
  events := by
    intro event member
    obtain ⟨old, inEvents, rfl⟩ := Table.mem_updateWhere.mp member
    have bound := registered.events old inEvents
    split
    · unfold EventBound
      rw [keepsStep, keepsPayload]
      exact bound
    · exact bound

/-- The rows of a new probe keep the tables registered. -/
theorem insert (registered : Registered store) (ids : QueueStore.ProbeIds)
    (now : DateTime) (drawn : Nat)
    (newStep : ∀ row ∈ store.steps, row.id ≠ ids.stepId ∧
      row.idempotencyKey ≠ recoveryIdempotencyKey ids.jobId) :
    Registered
      { store with
        steps := store.steps ++ [QueueStore.probeStep ids.stepId
          ids.organizationId ids.jobId ids.assetId now]
        events := store.events ++ [QueueStore.probeEvent ids.eventId
          ids.organizationId ids.jobId ids.stepId (QueueStore.probeMessage
            ids.jobId ids.assetId ids.correlationId now) now]
        drawn := drawn } where
  stepIds := by
    rw [List.map_append, List.map_singleton]
    refine List.nodup_append.mpr ⟨registered.stepIds, List.nodup_singleton _,
      ?_⟩
    intro key inKeys other inOther
    obtain ⟨row, inSteps, rfl⟩ := List.mem_map.mp inKeys
    rw [List.mem_singleton.mp inOther]
    exact (newStep row inSteps).1
  stepKeys := by
    rw [List.map_append, List.map_singleton]
    refine List.nodup_append.mpr ⟨registered.stepKeys, List.nodup_singleton _,
      ?_⟩
    intro key inKeys other inOther
    obtain ⟨row, inSteps, rfl⟩ := List.mem_map.mp inKeys
    rw [List.mem_singleton.mp inOther]
    exact (newStep row inSteps).2
  events := by
    intro event member
    rcases List.mem_append.mp member with earlier | last
    · obtain ⟨valid, step, inSteps, rest⟩ := registered.events event earlier
      exact ⟨valid, step, List.mem_append_left _ inSteps, rest⟩
    · rw [List.mem_singleton.mp last]
      refine ⟨QueueStore.validateRecoveryMessage_probeMessage _ _ _ _, _,
        List.mem_append_right _ (List.mem_singleton.mpr rfl), rfl, ?_⟩
      simp [QueueStore.messageMatches, QueueStore.probeMessage,
        QueueStore.probeEvent, QueueStore.probeStep]

end Registered

/-! ## Accounted executions -/

namespace Accounted

theorem eq_of_attemptNo (accounted : Accounted env store)
    {step : WorkflowStepRecord} (inSteps : step ∈ store.steps)
    {first second : TaskExecutionRecord}
    (inFirst : first ∈ store.executionsOf step.id)
    (inSecond : second ∈ store.executionsOf step.id)
    (same : first.attemptNo = second.attemptNo) : first = second := by
  have distinct : ((store.executionsOf step.id).map
      TaskExecutionRecord.attemptNo).Nodup := by
    rw [accounted.attempts step inSteps]
    exact List.nodup_range'
  exact List.inj_on_of_nodup_map distinct inFirst inSecond same

theorem no_conflict (accounted : Accounted env store)
    {step : WorkflowStepRecord} (inSteps : step ∈ store.steps) :
    store.executionConflict (env.uuid4 store.drawn) step.id
      (step.attemptCount + 1) = false := by
  simp only [QueueStore.executionConflict, List.any_eq_false, Bool.or_eq_true,
    Bool.and_eq_true, decide_eq_true_eq, not_or, not_and]
  intro row member
  constructor
  · intro same
    obtain ⟨draw, earlier, drawnId⟩ := accounted.drawnIds row member
    have repeated := env.uuid4_injective _ _ (drawnId.symm.trans same)
    omega
  · intro ofStep sameAttempt
    have listed : row ∈ store.executionsOf step.id := by
      simp [QueueStore.executionsOf, member, ofStep]
    have numbered : row.attemptNo ∈ List.range' 1 step.attemptCount := by
      rw [← accounted.attempts step inSteps]
      exact List.mem_map_of_mem listed
    have bound := List.mem_range'_1.mp numbered
    omega

/-- At most one execution of a step is running. -/
theorem one_running (accounted : Accounted env store)
    {step : WorkflowStepRecord} (inSteps : step ∈ store.steps) :
    (store.executionsOf step.id).countP
      (fun row => decide (row.status = .running)) ≤ 1 := by
  rw [List.countP_eq_length_filter]
  have distinct : (((store.executionsOf step.id).filter fun row =>
      decide (row.status = .running)).map
        TaskExecutionRecord.attemptNo).Nodup := by
    have all : ((store.executionsOf step.id).map
        TaskExecutionRecord.attemptNo).Nodup := by
      rw [accounted.attempts step inSteps]
      exact List.nodup_range'
    exact all.sublist (List.filter_sublist.map _)
  have constant : ∀ attemptNo ∈ ((store.executionsOf step.id).filter
      fun row => decide (row.status = .running)).map
        TaskExecutionRecord.attemptNo, attemptNo = step.attemptCount := by
    intro attemptNo member
    obtain ⟨row, inRunning, rfl⟩ := List.mem_map.mp member
    obtain ⟨listed, isRunning⟩ := List.mem_filter.mp inRunning
    exact (accounted.running step inSteps row listed
      (of_decide_eq_true isRunning)).1
  rw [List.eq_replicate_of_mem constant, List.nodup_replicate,
    List.length_map] at distinct
  exact distinct

/-- An update of step columns other than the key and the attempt count. -/
theorem updateStep (accounted : Accounted env store) (target : Uuid)
    {change : WorkflowStepRecord → WorkflowStepRecord}
    (keeps : ∀ row, (change row).id = row.id ∧
      (change row).idempotencyKey = row.idempotencyKey ∧
      (change row).attemptCount = row.attemptCount) :
    Accounted env (store.updateStep target change) where
  resultKeys := accounted.resultKeys
  attempts := by
    intro step member
    obtain ⟨old, inSteps, rfl⟩ := Table.mem_updateWhere.mp member
    have numbered := accounted.attempts old inSteps
    split
    · rw [(keeps old).1, (keeps old).2.2]
      exact numbered
    · exact numbered
  running := by
    intro step member
    obtain ⟨old, inSteps, rfl⟩ := Table.mem_updateWhere.mp member
    have current := accounted.running old inSteps
    split
    · rw [(keeps old).1, (keeps old).2.1, (keeps old).2.2]
      exact current
    · exact current
  owned := by
    intro row member
    obtain ⟨step, inSteps, owns⟩ := accounted.owned row member
    refine ⟨_, Table.mem_updateWhere.mpr ⟨step, inSteps, rfl⟩, ?_⟩
    split
    · exact (keeps step).1.trans owns
    · exact owns
  drawnIds := accounted.drawnIds

/-- Nothing but the step, execution and result tables is accounted for. -/
theorem of_same (accounted : Accounted env store) {after : QueueStore}
    (steps : after.steps = store.steps)
    (executions : after.executions = store.executions)
    (results : after.results = store.results)
    (drawn : store.drawn ≤ after.drawn) : Accounted env after where
  resultKeys := by
    rw [results]
    exact accounted.resultKeys
  attempts := by
    unfold QueueStore.executionsOf
    rw [steps, executions]
    exact accounted.attempts
  running := by
    unfold QueueStore.executionsOf QueueStore.hasResult
    rw [steps, executions, results]
    exact accounted.running
  owned := by
    rw [steps, executions]
    exact accounted.owned
  drawnIds := by
    rw [executions]
    intro row member
    obtain ⟨draw, earlier, same⟩ := accounted.drawnIds row member
    exact ⟨draw, by omega, same⟩

/-- A new step has no executions. -/
theorem insert (accounted : Accounted env store) {step : WorkflowStepRecord}
    (unattempted : step.attemptCount = 0)
    (newStep : ∀ row ∈ store.steps, row.id ≠ step.id)
    (events : List OutboxEventRecord) {drawn : Nat}
    (grown : store.drawn ≤ drawn) :
    Accounted env
      { store with
        steps := store.steps ++ [step]
        events := events
        drawn := drawn } := by
  have none : store.executionsOf step.id = [] := by
    refine List.filter_eq_nil_iff.mpr ?_
    intro row member ofStep
    obtain ⟨owner, inSteps, owns⟩ := accounted.owned row member
    exact newStep owner inSteps (owns.trans (of_decide_eq_true ofStep))
  refine ⟨accounted.resultKeys, ?_, ?_, ?_, ?_⟩
  · intro other member
    rcases List.mem_append.mp member with earlier | last
    · exact accounted.attempts other earlier
    · rw [List.mem_singleton.mp last, unattempted]
      change (store.executionsOf step.id).map _ = _
      rw [none]
      rfl
  · intro other member row listed
    rcases List.mem_append.mp member with earlier | last
    · exact accounted.running other earlier row listed
    · rw [List.mem_singleton.mp last] at listed
      change row ∈ store.executionsOf step.id at listed
      rw [none] at listed
      cases listed
  · intro row member
    obtain ⟨owner, inSteps, owns⟩ := accounted.owned row member
    exact ⟨owner, List.mem_append_left _ inSteps, owns⟩
  · intro row member
    obtain ⟨draw, earlier, same⟩ := accounted.drawnIds row member
    exact ⟨draw, Nat.lt_of_lt_of_le earlier grown, same⟩

end Accounted

/-! ## A new attempt -/

/-- The executions of a step after an attempt was recorded: the running ones
are given up, and the attempted step has one more. -/
theorem executionsOf_recordAttempt (step : WorkflowStepRecord)
    (deliveryId : Uuid) (pid : Nat) (now : DateTime) (stepId : Uuid) :
    (store.recordAttempt env step deliveryId pid now).executionsOf stepId =
      Table.updateWhere (QueueStore.isRunningOf step.id)
        (QueueStore.loseRunning now) (store.executionsOf stepId) ++
        if step.id = stepId then
          [QueueStore.attemptRow (env.uuid4 store.drawn) step deliveryId pid
            now (store.hasResult step.idempotencyKey)]
        else [] := by
  have kept : (Table.updateWhere (QueueStore.isRunningOf step.id)
      (QueueStore.loseRunning now) store.executions).filter
        (fun row => decide (row.workflowStepId = stepId)) =
      Table.updateWhere (QueueStore.isRunningOf step.id)
        (QueueStore.loseRunning now) (store.executionsOf stepId) := by
    apply Table.filter_updateWhere
    intro row
    rfl
  have recorded : (store.recordAttempt env step deliveryId pid
      now).executions = Table.updateWhere (QueueStore.isRunningOf step.id)
        (QueueStore.loseRunning now) store.executions ++
        [QueueStore.attemptRow (env.uuid4 store.drawn) step deliveryId pid now
          (store.hasResult step.idempotencyKey)] := rfl
  rw [QueueStore.executionsOf, recorded, List.filter_append, kept]
  congr 1
  by_cases same : step.id = stepId
  · simp [QueueStore.attemptRow, same]
  · simp [QueueStore.attemptRow, same]

variable {now : DateTime}

variable {row : TaskExecutionRecord}

/-- An execution that is still running after an attempt of `step` was recorded
belongs to another step. -/
theorem running_after_loss {step : WorkflowStepRecord} {stepId : Uuid}
    (member : row ∈ Table.updateWhere (QueueStore.isRunningOf step.id)
      (QueueStore.loseRunning now) (store.executionsOf stepId))
    (isRunning : row.status = .running) :
    row ∈ store.executionsOf stepId ∧ stepId ≠ step.id := by
  obtain ⟨old, listed, rfl⟩ := Table.mem_updateWhere.mp member
  have ofStep : old.workflowStepId = stepId := by
    simpa using (List.mem_filter.mp listed).2
  split at isRunning
  · cases isRunning
  rename_i notLost
  rw [if_neg notLost]
  refine ⟨listed, ?_⟩
  intro same
  apply notLost
  simp [QueueStore.isRunningOf, ofStep, same, isRunning]

/-- The steps after an attempt was recorded. -/
theorem mem_steps_recordAttempt (registered : Registered store)
    {step : WorkflowStepRecord} (inSteps : step ∈ store.steps)
    {deliveryId : Uuid} {pid : Nat} {other : WorkflowStepRecord}
    (member : other ∈
      (store.recordAttempt env step deliveryId pid now).steps) :
    (other.id = step.id ∧ other.idempotencyKey = step.idempotencyKey ∧
        other.attemptCount = step.attemptCount + 1) ∨
      other ∈ store.steps ∧ step.id ≠ other.id := by
  have written : (store.recordAttempt env step deliveryId pid now).steps =
      Table.updateWhere (fun row => decide (row.id = step.id))
        (QueueStore.attemptColumns (step.attemptCount + 1) now
          (store.hasResult step.idempotencyKey)) store.steps := rfl
  rw [written] at member
  obtain ⟨old, inOld, rfl⟩ := Table.mem_updateWhere.mp member
  by_cases same : old.id = step.id
  · cases registered.eq_of_id inOld inSteps same
    rw [if_pos (decide_eq_true rfl)]
    exact .inl ⟨rfl, rfl, rfl⟩
  · rw [if_neg (by simpa using same)]
    exact .inr ⟨inOld, Ne.symm same⟩

/-- An attempt is accounted for by its execution. -/
theorem Accounted.recordAttempt (accounted : Accounted env store)
    (registered : Registered store) {step : WorkflowStepRecord}
    (inSteps : step ∈ store.steps) (deliveryId : Uuid) (pid : Nat)
    (now : DateTime) :
    Accounted env (store.recordAttempt env step deliveryId pid now) := by
  refine ⟨accounted.resultKeys, ?_, ?_, ?_, ?_⟩
  · intro other member
    have lossless (stepId : Uuid) : (Table.updateWhere
        (QueueStore.isRunningOf step.id) (QueueStore.loseRunning now)
        (store.executionsOf stepId)).map TaskExecutionRecord.attemptNo =
          (store.executionsOf stepId).map TaskExecutionRecord.attemptNo := by
      apply Table.map_updateWhere
      intro row
      rfl
    rw [executionsOf_recordAttempt, List.map_append, lossless]
    rcases mem_steps_recordAttempt registered inSteps member with
      ⟨sameId, _, counted⟩ | ⟨inOld, different⟩
    · rw [sameId, counted, if_pos rfl, accounted.attempts step inSteps,
        List.range'_1_concat, Nat.add_comm 1]
      rfl
    · rw [if_neg different, List.map_nil, List.append_nil]
      exact accounted.attempts other inOld
  · intro other member row listed isRunning
    rw [executionsOf_recordAttempt] at listed
    rcases List.mem_append.mp listed with earlier | latest
    · obtain ⟨listedBefore, different⟩ :=
        running_after_loss earlier isRunning
      rcases mem_steps_recordAttempt registered inSteps member with
        ⟨sameId, _, _⟩ | ⟨inOld, _⟩
      · exact absurd sameId different
      · exact accounted.running other inOld row listedBefore isRunning
    · rcases mem_steps_recordAttempt registered inSteps member with
        ⟨sameId, sameKey, counted⟩ | ⟨_, different⟩
      · rw [if_pos sameId.symm] at latest
        rw [List.mem_singleton.mp latest] at isRunning ⊢
        rw [sameKey, counted]
        refine ⟨rfl, ?_⟩
        change store.hasResult step.idempotencyKey = false
        cases stored : store.hasResult step.idempotencyKey with
        | false => rfl
        | true => simp [QueueStore.attemptRow, stored] at isRunning
      · rw [if_neg different] at latest
        cases latest
  · intro row member
    have ownedBefore : ∃ owner ∈ store.steps,
        owner.id = row.workflowStepId := by
      rcases List.mem_append.mp member with earlier | latest
      · obtain ⟨old, inOld, rfl⟩ := Table.mem_updateWhere.mp earlier
        split
        · exact accounted.owned old inOld
        · exact accounted.owned old inOld
      · rw [List.mem_singleton.mp latest]
        exact ⟨step, inSteps, rfl⟩
    obtain ⟨owner, inOwners, owns⟩ := ownedBefore
    refine ⟨_, Table.mem_updateWhere.mpr ⟨owner, inOwners, rfl⟩, ?_⟩
    split
    · exact owns
    · exact owns
  · intro row member
    rcases List.mem_append.mp member with earlier | latest
    · obtain ⟨old, inOld, rfl⟩ := Table.mem_updateWhere.mp earlier
      obtain ⟨draw, before, same⟩ := accounted.drawnIds old inOld
      refine ⟨draw, Nat.lt_succ_of_lt before, ?_⟩
      split
      · exact same
      · exact same
    · rw [List.mem_singleton.mp latest]
      exact ⟨store.drawn, Nat.lt_succ_self _, rfl⟩

/-! ## A completion -/

/-- The tables after an execution was settled with its result, before the
columns of its step are written. -/
def settledStore (env : QueueEnvironment) (store : QueueStore)
    (step : WorkflowStepRecord) (executionId : Uuid) (now : DateTime) :
    QueueStore :=
  { store with
    executions := Table.updateWhere (fun row => decide (row.id = executionId))
      (QueueStore.finishedColumns now (!store.hasResult step.idempotencyKey))
      store.executions
    results :=
      if !store.hasResult step.idempotencyKey then
        store.results ++
          [QueueStore.resultRow env (env.uuid4 store.drawn) step now]
      else store.results
    drawn := store.drawn + 1 }

theorem recordCompletion_eq (step : WorkflowStepRecord) (executionId : Uuid)
    (now : DateTime) :
    store.recordCompletion env step executionId now =
      (settledStore env store step executionId now).updateStep step.id
        (QueueStore.succeededColumns now) := rfl

theorem executionsOf_settledStore (step : WorkflowStepRecord)
    (executionId : Uuid) (now : DateTime) (stepId : Uuid) :
    (settledStore env store step executionId now).executionsOf stepId =
      Table.updateWhere (fun row => decide (row.id = executionId))
        (QueueStore.finishedColumns now (!store.hasResult step.idempotencyKey))
        (store.executionsOf stepId) := by
  apply Table.filter_updateWhere
  intro row
  rfl

theorem finishedColumns_not_running (now : DateTime) (inserted : Bool)
    (row : TaskExecutionRecord) :
    (QueueStore.finishedColumns now inserted row).status ≠ .running := by
  cases inserted <;> exact nofun

variable {executionId : Uuid}

/-- What is still running after the completion was running before it, and is
not the settled execution. -/
theorem running_after_settling {step : WorkflowStepRecord} {stepId : Uuid}
    (listed : row ∈
      (settledStore env store step executionId now).executionsOf stepId)
    (isRunning : row.status = .running) :
    row ∈ store.executionsOf stepId ∧ row.id ≠ executionId := by
  rw [executionsOf_settledStore] at listed
  obtain ⟨old, listedBefore, rfl⟩ := Table.mem_updateWhere.mp listed
  split at isRunning
  · exact absurd isRunning (finishedColumns_not_running now _ old)
  · next other =>
      rw [if_neg other]
      exact ⟨listedBefore, by simpa using other⟩

theorem hasResult_settledStore {step : WorkflowStepRecord} {key : String}
    (other : key ≠ step.idempotencyKey) :
    (settledStore env store step executionId now).hasResult key =
      store.hasResult key := by
  unfold QueueStore.hasResult settledStore
  dsimp only
  split
  · rw [Table.lookup_append]
    have elsewhere : Table.lookup WorkflowResultRecord.idempotencyKey key
        [QueueStore.resultRow env (env.uuid4 store.drawn) step now] = none := by
      simp [Table.lookup, QueueStore.resultRow, Ne.symm other]
    rw [elsewhere, Option.or_none]
  · rfl

theorem resultKeys_settledStore (accounted : Accounted env store)
    (step : WorkflowStepRecord) (executionId : Uuid) (now : DateTime) :
    ((settledStore env store step executionId now).results.map
      WorkflowResultRecord.idempotencyKey).Nodup := by
  unfold settledStore
  dsimp only
  split
  · next absent =>
      rw [List.map_append, List.map_singleton]
      refine List.nodup_append.mpr
        ⟨accounted.resultKeys, List.pairwise_singleton _ _, ?_⟩
      intro key inKeys other inOther same
      obtain ⟨result, inResults, rfl⟩ := List.mem_map.mp inKeys
      rw [List.mem_singleton.mp inOther] at same
      obtain ⟨found, stored⟩ : ∃ found,
          Table.lookup WorkflowResultRecord.idempotencyKey
            result.idempotencyKey store.results = some found :=
        Table.lookup_isSome_of_mem inResults
      have taken : store.hasResult step.idempotencyKey = true := by
        change (Table.lookup _ step.idempotencyKey _).isSome = true
        change result.idempotencyKey = step.idempotencyKey at same
        rw [← same, stored]
        rfl
      simp [taken] at absent
  · exact accounted.resultKeys

/-- A completion of a running execution is accounted for. -/
theorem Accounted.recordCompletion (accounted : Accounted env store)
    (registered : Registered store) {execution : TaskExecutionRecord}
    {step : WorkflowStepRecord}
    (found : store.execution executionId = some execution)
    (isRunning : execution.status = .running)
    (stepFound : store.step execution.workflowStepId = some step)
    (now : DateTime) :
    Accounted env (store.recordCompletion env step executionId now) := by
  have inSteps : step ∈ store.steps := Table.lookup_mem stepFound
  have stepId : step.id = execution.workflowStepId :=
    Table.lookup_key stepFound
  have executionKey : execution.id = executionId := Table.lookup_key found
  have executionListed : execution ∈ store.executionsOf step.id := by
    simp [QueueStore.executionsOf, Table.lookup_mem found, stepId]
  rw [recordCompletion_eq]
  apply Accounted.updateStep
  · refine ⟨resultKeys_settledStore accounted step executionId now, ?_, ?_,
      ?_, ?_⟩
    · intro other member
      have sameAttempts : ((settledStore env store step executionId
          now).executionsOf other.id).map TaskExecutionRecord.attemptNo =
            (store.executionsOf other.id).map TaskExecutionRecord.attemptNo := by
        rw [executionsOf_settledStore]
        apply Table.map_updateWhere
        intro row
        rfl
      rw [sameAttempts]
      exact accounted.attempts other member
    · intro other member row listed stillRunning
      obtain ⟨listedBefore, unsettled⟩ :=
        running_after_settling listed stillRunning
      obtain ⟨current, noResult⟩ :=
        accounted.running other member row listedBefore stillRunning
      refine ⟨current, ?_⟩
      by_cases sameKey : other.idempotencyKey = step.idempotencyKey
      · -- The completed execution was the only running one of its step.
        cases registered.eq_of_key member inSteps sameKey
        have latest := accounted.running step inSteps execution
          executionListed isRunning
        have sameRow := accounted.eq_of_attemptNo inSteps listedBefore
          executionListed (current.trans latest.1.symm)
        exact absurd (sameRow ▸ executionKey) unsettled
      · rw [hasResult_settledStore sameKey]
        exact noResult
    · intro row member
      obtain ⟨old, inOld, rfl⟩ := Table.mem_updateWhere.mp member
      split
      · exact accounted.owned old inOld
      · exact accounted.owned old inOld
    · intro row member
      obtain ⟨old, inOld, rfl⟩ := Table.mem_updateWhere.mp member
      obtain ⟨draw, before, same⟩ := accounted.drawnIds old inOld
      refine ⟨draw, Nat.lt_succ_of_lt before, ?_⟩
      split
      · exact same
      · exact same
  · exact fun _ => ⟨rfl, rfl, rfl⟩

/-! ## Every call -/

theorem Registered.of_same (registered : Registered store)
    {after : QueueStore} (steps : after.steps = store.steps)
    (events : after.events = store.events) : Registered after where
  stepIds := by
    rw [steps]
    exact registered.stepIds
  stepKeys := by
    rw [steps]
    exact registered.stepKeys
  events := by
    unfold EventBound
    rw [steps, events]
    exact registered.events

theorem Consistent.of_same (consistent : Consistent env store)
    {after : QueueStore} (steps : after.steps = store.steps)
    (events : after.events = store.events)
    (executions : after.executions = store.executions)
    (results : after.results = store.results)
    (drawn : store.drawn ≤ after.drawn) : Consistent env after :=
  ⟨consistent.registered.of_same steps events,
    consistent.accounted.of_same steps executions results drawn⟩

theorem Consistent.updateEventWhen (consistent : Consistent env store)
    (eventId : Uuid) (admitted : EventStatus → Bool)
    (change : OutboxEventRecord → OutboxEventRecord) (message : String)
    (keepsStep : ∀ row, (change row).workflowStepId = row.workflowStepId)
    (keepsPayload : ∀ row, (change row).payload = row.payload) :
    Consistent env
      (store.updateEventWhen eventId admitted change message).2 := by
  rcases store.updateEventWhen_cases eventId admitted change message with
    ⟨error, refused⟩ | ⟨event, _, _, written⟩
  · rw [refused]
    exact consistent
  · rw [written]
    exact ⟨consistent.registered.updateEvent eventId change keepsStep
        keepsPayload,
      consistent.accounted.of_same rfl rfl rfl (Nat.le_refl _)⟩

/-- Every call keeps the invariant. -/
theorem Consistent.execute (consistent : Consistent env store)
    (op : QueueOp) : Consistent env (store.execute env op).2 := by
  cases op with
  | prepareRecoveryProbe now =>
      simp only [QueueStore.execute]
      rcases QueueStore.prepareRecoveryProbe_cases env store now with
        ⟨error, refused⟩ | ⟨ids, newStep, _, inserted⟩
      · rw [refused]
        exact consistent.of_same rfl rfl rfl rfl (Nat.le_add_right _ _)
      · rw [inserted]
        exact ⟨consistent.registered.insert ids now _ newStep,
          consistent.accounted.insert rfl
            (fun row member => (newStep row member).1) _
            (Nat.le_add_right _ _)⟩
  | pendingEventPayload eventId => exact consistent
  | recordEventPublishAttempt eventId now =>
      exact consistent.updateEventWhen eventId EventStatus.isPending
        (QueueStore.publishingColumns now) _ (fun _ => rfl) (fun _ => rfl)
  | draw => exact consistent.of_same rfl rfl rfl rfl (Nat.le_succ _)
  | sendTask message outcome =>
      cases outcome with
      | accepted => exact consistent.of_same rfl rfl rfl rfl (Nat.le_refl _)
      | refused => exact consistent
      | acceptedUnconfirmed =>
          exact consistent.of_same rfl rfl rfl rfl (Nat.le_refl _)
  | markEventPublished eventId now =>
      simp only [QueueStore.execute]
      rcases store.markEventPublished_cases eventId now with
        ⟨error, refused⟩ | ⟨event, _, _, written⟩
      · rw [refused]
        exact consistent
      · rw [written]
        have marked := consistent.registered.updateEvent eventId
          (QueueStore.publishedColumns now) (fun _ => rfl) (fun _ => rfl)
        have accounted : Accounted env (store.updateEvent eventId
            (QueueStore.publishedColumns now)) :=
          consistent.accounted.of_same rfl rfl rfl (Nat.le_refl _)
        exact ⟨marked.updateStep _ fun _ => rfl,
          accounted.updateStep _ fun _ => ⟨rfl, rfl, rfl⟩⟩
  | markEventRetryPending eventId now =>
      exact consistent.updateEventWhen eventId
        (fun status => decide (status = .pending))
        (QueueStore.retryColumns now)
        _ (fun _ => rfl) (fun _ => rfl)
  | beginRecoveryAttempt eventId deliveryId pid now =>
      simp only [QueueStore.execute]
      rcases QueueStore.beginRecoveryAttempt_cases env store eventId
          deliveryId pid now with
        ⟨error, drawn, grown, refused⟩ | ⟨event, step, _, found, _, recorded⟩
      · rw [refused]
        exact consistent.of_same rfl rfl rfl rfl grown
      · rw [recorded]
        refine ⟨?_, consistent.accounted.recordAttempt consistent.registered
          (Table.lookup_mem found) deliveryId pid now⟩
        have rewritten : Registered (store.updateStep step.id
            (QueueStore.attemptColumns (step.attemptCount + 1) now
              (store.hasResult step.idempotencyKey))) :=
          consistent.registered.updateStep _ fun _ => rfl
        exact rewritten.of_same rfl rfl
  | completeRecoveryAttempt executionId now =>
      simp only [QueueStore.execute]
      rcases QueueStore.completeRecoveryAttempt_cases env store executionId
          now with
        ⟨error, drawn, grown, refused⟩ |
          ⟨execution, step, found, isRunning, stepFound, recorded⟩
      · rw [refused]
        exact consistent.of_same rfl rfl rfl rfl grown
      · rw [recorded]
        refine ⟨?_, consistent.accounted.recordCompletion
          consistent.registered found isRunning stepFound now⟩
        have rewritten : Registered (store.updateStep step.id
            (QueueStore.succeededColumns now)) :=
          consistent.registered.updateStep _ fun _ => rfl
        exact rewritten.of_same rfl rfl

theorem Consistent.empty : Consistent env emptyStore :=
  have none {α : Type} {promise : α → Prop} :
      ∀ row ∈ ([] : List α), promise row :=
    fun _ member => absurd member List.not_mem_nil
  ⟨⟨List.nodup_nil, List.nodup_nil, none⟩,
    ⟨List.nodup_nil, none, none, none, none⟩⟩

theorem Consistent.reachable {config : QueueConfig}
    (reached : (queueSystem env).Run System.unguarded
      (Config.initial emptyStore) config) : Consistent env config.store := by
  apply reached.store_invariant (Consistent env) Consistent.empty
  intro store thread op consistent _
  exact consistent.execute op

/-! ## Exactly-once results -/

/-- In a consistent store every delivery of a stored event is recorded for the
event's step: no check and no constraint refuses it. -/
theorem Consistent.delivery_recorded (consistent : Consistent env store)
    {eventId : Uuid} {event : OutboxEventRecord} {step : WorkflowStepRecord}
    (eventFound : store.event eventId = some event)
    (stepFound : store.step event.workflowStepId = some step)
    (deliveryId : Uuid) (pid : Nat) (now : DateTime) :
    store.beginRecoveryAttempt env eventId deliveryId pid now =
      (.ok (QueueStore.startedAttempt (env.uuid4 store.drawn) step
          (store.hasResult step.idempotencyKey)),
        store.recordAttempt env step deliveryId pid now) := by
  obtain ⟨valid, bound, inSteps, boundId, agrees⟩ :=
    consistent.registered.events event (Table.lookup_mem eventFound)
  have sameStep : bound = step := by
    apply consistent.registered.eq_of_id inSteps (Table.lookup_mem stepFound)
    exact boundId.trans (Table.lookup_key stepFound).symm
  subst sameStep
  exact QueueStore.beginRecoveryAttempt_ok env eventFound valid stepFound
    agrees (consistent.accounted.no_conflict inSteps)

/-- A delivery of a step whose result exists adds one finished execution and
touches no other: none was running. -/
theorem Accounted.executions_of_existing (accounted : Accounted env store)
    {step : WorkflowStepRecord} (inSteps : step ∈ store.steps)
    (stored : store.hasResult step.idempotencyKey = true) (deliveryId : Uuid)
    (pid : Nat) (now : DateTime) :
    (store.recordAttempt env step deliveryId pid now).executions =
      store.executions ++ [QueueStore.attemptRow (env.uuid4 store.drawn) step
        deliveryId pid now true] := by
  have untouched : Table.updateWhere (QueueStore.isRunningOf step.id)
      (QueueStore.loseRunning now) store.executions = store.executions := by
    have nothing : ∀ row ∈ store.executions,
        (if QueueStore.isRunningOf step.id row then
          QueueStore.loseRunning now row else row) = row := by
      intro row member
      apply if_neg
      intro running
      obtain ⟨ofStep, isRunning⟩ : row.workflowStepId = step.id ∧
          row.status = .running := by
        simpa [QueueStore.isRunningOf] using running
      have absent := (accounted.running step inSteps row
        (List.mem_filter.mpr ⟨member, decide_eq_true ofStep⟩) isRunning).2
      simp [stored] at absent
    rw [Table.updateWhere, List.map_congr_left nothing, List.map_id']
  change Table.updateWhere _ _ _ ++ [_] = _
  rw [untouched, stored]

/-- What the tables promise however often messages are delivered and whatever
crashes. -/
structure ExactlyOnce (env : QueueEnvironment) (store : QueueStore) :
    Prop where
  /-- A key has at most one result. -/
  oneResult : ∀ key, store.results.countP
    (fun result => decide (result.idempotencyKey = key)) ≤ 1
  /-- A step has at most one running execution. -/
  oneRunning : ∀ step ∈ store.steps, (store.executionsOf step.id).countP
    (fun row => decide (row.status = .running)) ≤ 1
  /-- The attempts of a step are numbered from one to its attempt count. -/
  numbered : ∀ step ∈ store.steps,
    (store.executionsOf step.id).map TaskExecutionRecord.attemptNo =
      List.range' 1 step.attemptCount
  /-- Only the completion of the latest, running execution of a step writes
  a result, and it writes the first one under the key of the step. -/
  currentWrites : ∀ op : QueueOp,
    (store.execute env op).2.results = store.results ∨
    ∃ execution now step result,
      op = .completeRecoveryAttempt execution.id now ∧
      execution ∈ store.executions ∧ execution.status = .running ∧
      step ∈ store.steps ∧ step.id = execution.workflowStepId ∧
      execution.attemptNo = step.attemptCount ∧
      store.hasResult step.idempotencyKey = false ∧
      result.idempotencyKey = step.idempotencyKey ∧
      (store.execute env op).2.results = store.results ++ [result]
  /-- A delivery after the result returns the existing result: it adds one
  finished execution that is marked so, and writes no result. -/
  existingReturned : ∀ event ∈ store.events, ∀ step ∈ store.steps,
    event.workflowStepId = step.id →
    store.hasResult step.idempotencyKey = true →
    ∀ (eventId deliveryId : Uuid) (pid : Nat) (now : DateTime),
      store.event eventId = some event →
      ∃ attempt after row,
        store.beginRecoveryAttempt env eventId deliveryId pid now =
          (.ok attempt, after) ∧
        attempt.resultAlreadyExists = true ∧
        after.results = store.results ∧
        after.executions = store.executions ++ [row] ∧
        row.workflowStepId = step.id ∧ row.status = .returnExisting ∧
        row.attemptNo = step.attemptCount + 1 ∧ row.completedAt = some now

/-- A result is written only by the completion of a current attempt. -/
theorem Consistent.currentWrites (consistent : Consistent env store)
    (op : QueueOp) :
    (store.execute env op).2.results = store.results ∨
    ∃ execution now step result,
      op = .completeRecoveryAttempt execution.id now ∧
      execution ∈ store.executions ∧ execution.status = .running ∧
      step ∈ store.steps ∧ step.id = execution.workflowStepId ∧
      execution.attemptNo = step.attemptCount ∧
      store.hasResult step.idempotencyKey = false ∧
      result.idempotencyKey = step.idempotencyKey ∧
      (store.execute env op).2.results = store.results ++ [result] := by
  rcases QueueStore.results_execute env op with
    same | ⟨executionId, now, execution, step, called, found, isRunning,
      stepFound, absent, grown⟩
  · exact .inl same
  · have inSteps : step ∈ store.steps := Table.lookup_mem stepFound
    have stepId : step.id = execution.workflowStepId :=
      Table.lookup_key stepFound
    have member : execution ∈ store.executions := Table.lookup_mem found
    have executionKey : execution.id = executionId := Table.lookup_key found
    have listed : execution ∈ store.executionsOf step.id :=
      List.mem_filter.mpr ⟨member, decide_eq_true stepId.symm⟩
    have current := (consistent.accounted.running step inSteps execution
      listed isRunning).1
    refine .inr ⟨execution, now, step, _, ?_, member, isRunning, inSteps,
      stepId, current, absent, rfl, grown⟩
    rw [executionKey]
    exact called

/-- In every state that publishers, workers, crashes and duplicate deliveries
can reach, results are exactly-once. -/
theorem exactly_once {config : QueueConfig}
    (reached : (queueSystem env).Run System.unguarded
      (Config.initial emptyStore) config) :
    ExactlyOnce env config.store := by
  have consistent := Consistent.reachable reached
  constructor
  case oneResult =>
    intro key
    have distinct : config.store.results.Pairwise fun first second =>
        first.idempotencyKey ≠ second.idempotencyKey :=
      List.pairwise_map.mp consistent.accounted.resultKeys
    exact Table.countP_key_le_one distinct key
  case oneRunning =>
    intro step inSteps
    exact consistent.accounted.one_running inSteps
  case numbered => exact consistent.accounted.attempts
  case currentWrites => exact consistent.currentWrites
  case existingReturned =>
    intro event inEvents step inSteps ofStep stored eventId deliveryId pid now
      eventFound
    have stepFound : config.store.step event.workflowStepId = some step := by
      rw [ofStep]
      exact consistent.registered.step_of_mem inSteps
    have recorded := consistent.delivery_recorded eventFound stepFound
      deliveryId pid now
    exact ⟨_, _, _, recorded, stored, rfl,
      consistent.accounted.executions_of_existing inSteps stored deliveryId
        pid now, rfl, rfl, rfl, rfl⟩

/-! ## Two deliveries of one message -/

/-- The promises hold after a worker has finished, and the message may still
be delivered again. -/
theorem exactly_once_after_success :
    ∃ config,
      (queueSystem sampleQueue).Run System.unguarded
        (Config.initial emptyStore) config ∧
      config.store.results.length = 1 ∧
      ExactlyOnce sampleQueue config.store := by
  have scheduled : ((queueSystem sampleQueue).schedule System.unguarded
      (Config.initial emptyStore) finishedAfterMark).map
        (fun config => config.store.results.length) = some 1 := by
    decide
  obtain ⟨config, reached, one⟩ := System.exists_run_of_schedule scheduled
  exact ⟨config, reached, one, exactly_once reached⟩

/-- A delivery after the result does create an execution, which records that
the existing result was returned. -/
theorem existing_result_adds_execution :
    ∃ config attempt,
      (queueSystem sampleQueue).Run System.unguarded
        (Config.initial emptyStore) config ∧
      config.store.finished ⟨3⟩ = true ∧
      (config.store.execute sampleQueue
        (.beginRecoveryAttempt ⟨4⟩ ⟨6⟩ 78 5)).1 = .ok attempt ∧
      attempt.resultAlreadyExists = true ∧
      (config.store.execute sampleQueue
        (.beginRecoveryAttempt ⟨4⟩ ⟨6⟩ 78 5)).2.executions.map
          TaskExecutionRecord.status = [.succeeded, .returnExisting] := by
  let observe (config : QueueConfig) :=
    (config.store.finished ⟨3⟩,
      (config.store.beginRecoveryAttempt sampleQueue ⟨4⟩ ⟨6⟩ 78 5).1.toOption,
      (config.store.beginRecoveryAttempt sampleQueue ⟨4⟩ ⟨6⟩ 78
        5).2.executions.map TaskExecutionRecord.status)
  have scheduled : ((queueSystem sampleQueue).schedule System.unguarded
      (Config.initial emptyStore) finishedAfterMark).map observe =
      some (true, some ⟨⟨9⟩, 2, false, true⟩, [.succeeded, .returnExisting]) := by
    decide
  obtain ⟨config, reached, seen⟩ := System.exists_run_of_schedule scheduled
  obtain ⟨finished, answered, statuses⟩ := Prod.mk.inj seen |>.imp id
    Prod.mk.inj
  refine ⟨config, ⟨⟨9⟩, 2, false, true⟩, reached, finished, ?_, rfl, statuses⟩
  change (config.store.beginRecoveryAttempt sampleQueue ⟨4⟩ ⟨6⟩ 78 5).1 = _
  cases outcome : (config.store.beginRecoveryAttempt sampleQueue ⟨4⟩ ⟨6⟩ 78
      5).1 with
  | error error =>
      rw [outcome] at answered
      cases answered
  | ok attempt =>
      rw [outcome] at answered
      cases answered
      rfl

end SecAI.Queue
