/-
Module: SecAI.Recovery.Convergence
Purpose: The record of a storage recovery run, the calls that change it, and
  when a run that is marked SUCCEEDED has met its targets, after any sequence
  of calls.
Trusted boundary: the calls run one transaction each
Main exports:
  RecoveryStore, MetTargets, LateRecovery, met_targets_iff_no_late_recovery
-/
import SecAI.Common.Values
import SecAI.Interleaving.Machine
import SecAI.Common.Outcome

namespace SecAI.Recovery

open Interleaving

/-- The `status_allowed` values of `storage_recovery_runs`. -/
inductive RunStatus where
  | preparing
  | backupCreated
  | outageTesting
  | restoreValidating
  | succeeded
  | failed
deriving DecidableEq

/-- The components a recovery run watches. -/
inductive Component where
  | postgres
  | redis
  | aistor
deriving DecidableEq

/-- The `component_status_allowed` values; which of them a component may be
marked with is `Component.allowed`. -/
inductive ComponentStatus where
  | pending
  | outageObserved
  | recovered
  | restored
  | rebuilt
  | failed
deriving DecidableEq

def Component.text : Component → String
  | .postgres => "postgres"
  | .redis => "redis"
  | .aistor => "aistor"

def ComponentStatus.text : ComponentStatus → String
  | .pending => "PENDING"
  | .outageObserved => "OUTAGE_OBSERVED"
  | .recovered => "RECOVERED"
  | .restored => "RESTORED"
  | .rebuilt => "REBUILT"
  | .failed => "FAILED"

/-- The dictionary `allowed` of `mark_component`. -/
def Component.allowed : Component → List ComponentStatus
  | .postgres => [.outageObserved, .recovered, .restored, .failed]
  | .redis => [.outageObserved, .rebuilt, .failed]
  | .aistor => [.outageObserved, .recovered, .restored, .failed]

/-- `component not in allowed or status not in allowed[component]`, read as
the component and the status that the two texts name. -/
def allowedTransition (component status : String) :
    Option (Component × ComponentStatus) := do
  let component ← [Component.postgres, .redis, .aistor].find? fun candidate =>
    candidate.text == component
  let status ← component.allowed.find? fun candidate =>
    candidate.text == status
  pure (component, status)

/-- A row of `storage_recovery_runs`. -/
structure StorageRecoveryRunRecord where
  status : RunStatus
  postgresStatus : ComponentStatus
  redisStatus : ComponentStatus
  aistorStatus : ComponentStatus
  postgresRpoSeconds : Option Int := none
  postgresRtoSeconds : Option Int := none
  evidenceRpoSeconds : Option Int := none
  evidenceRtoSeconds : Option Int := none
  redisRebuildSeconds : Option Int := none
  findingLineageReproduced : Bool := false
  objectHashReproduced : Bool := false
  pendingOutboxReconciled : Bool := false
  independentFailureDomain : Bool := false
  productionGateComplete : Bool := false
  lastErrorCode : Option String := none
  startedAt : DateTime
  completedAt : Option DateTime := none
  updatedAt : DateTime

/-- The columns of `evidence_artifacts` that a recovery call writes. -/
structure EvidenceArtifactRecord where
  restoredVersionId : Option String
  backupStatus : String

/-- The run and its synthetic artifact, as far as they exist. -/
structure RecoveryStore where
  run : Option StorageRecoveryRunRecord
  artifact : Option EvidenceArtifactRecord

/-- Exceptions that leave a recovery call. -/
inductive RecoveryError where
  | value (message : String)
  | runtime (message : String)
  /-- A constraint or a column type of the database refused the row. -/
  | database
deriving DecidableEq

/-- A duration that fits the `Integer` column and `duration_nonnegative`. -/
def isDuration : Option Int → Bool
  | none => true
  | some value => decide (0 ≤ value ∧ value < 2147483648)

/-- The constraints of `storage_recovery_runs` that its columns do not carry
in their types. -/
def StorageRecoveryRunRecord.accepted (record : StorageRecoveryRunRecord) :
    Bool :=
  isDuration record.postgresRpoSeconds && isDuration record.postgresRtoSeconds &&
    isDuration record.evidenceRpoSeconds &&
    isDuration record.evidenceRtoSeconds &&
    isDuration record.redisRebuildSeconds && !record.productionGateComplete

def RecoveryStore.flushRun (store : RecoveryStore)
    (record : StorageRecoveryRunRecord) : Except RecoveryError RecoveryStore :=
  if record.accepted then .ok { store with run := some record }
  else .error .database

/-- The run that `prepare_storage_recovery_run` inserts. -/
def prepareStorageRecoveryRun (now : DateTime) : StorageRecoveryRunRecord :=
  { status := .preparing
    postgresStatus := .pending
    redisStatus := .pending
    aistorStatus := .pending
    startedAt := now
    updatedAt := now }

def getRecoveryRun (store : RecoveryStore) :
    Except RecoveryError StorageRecoveryRunRecord :=
  match store.run with
  | some record => .ok record
  | none => .error (.runtime "Storage recovery run is unavailable.")

/-- `setattr(record, f"{component}_status", status)`. -/
def StorageRecoveryRunRecord.setStatus (record : StorageRecoveryRunRecord)
    (status : ComponentStatus) : Component → StorageRecoveryRunRecord
  | .postgres => { record with postgresStatus := status }
  | .redis => { record with redisStatus := status }
  | .aistor => { record with aistorStatus := status }

/-- `setattr(record, duration_field, seconds)`, if there are seconds. -/
def StorageRecoveryRunRecord.setDuration (record : StorageRecoveryRunRecord) :
    Option Int → Component → StorageRecoveryRunRecord
  | none, _ => record
  | some seconds, .postgres => { record with postgresRtoSeconds := some seconds }
  | some seconds, .redis => { record with redisRebuildSeconds := some seconds }
  | some seconds, .aistor => { record with evidenceRtoSeconds := some seconds }

/-- The run status after a component was marked.  `RECOVERED` has no branch
of its own. -/
def statusAfterMark (current : RunStatus) : ComponentStatus → RunStatus
  | .outageObserved => .outageTesting
  | .restored | .rebuilt => .restoreValidating
  | .failed => .failed
  | _ => current

/-- The row that `mark_component` leaves. -/
def StorageRecoveryRunRecord.marked (record : StorageRecoveryRunRecord)
    (component : Component) (status : ComponentStatus) (seconds : Option Int)
    (now : DateTime) : StorageRecoveryRunRecord :=
  let changed := (record.setStatus status component).setDuration seconds component
  { changed with
    status := statusAfterMark changed.status status
    updatedAt := now }

def markComponent (store : RecoveryStore) (component status : String)
    (seconds : Option Int) (now : DateTime) :
    Except RecoveryError RecoveryStore := do
  let record ← getRecoveryRun store
  match allowedTransition component status with
  | none =>
      .error (.value "Storage recovery component transition is invalid.")
  | some (component, status) =>
      store.flushRun (record.marked component status seconds now)

def markBackupCreated (store : RecoveryStore) (evidenceRpoSeconds : Int)
    (now : DateTime) : Except RecoveryError RecoveryStore := do
  let record ← getRecoveryRun store
  store.flushRun
    { record with
      status := .backupCreated
      evidenceRpoSeconds := some evidenceRpoSeconds
      updatedAt := now }

/-- `mark_artifact_restored`; the column holds 256 characters. -/
def markArtifactRestored (store : RecoveryStore) (restoredVersionId : String) :
    Except RecoveryError RecoveryStore :=
  match store.artifact with
  | none => .error (.runtime "Synthetic recovery artifact is unavailable.")
  | some artifact =>
      if restoredVersionId.length ≤ 256 then
        .ok { store with
          artifact := some { artifact with
            restoredVersionId := some restoredVersionId
            backupStatus := "RESTORED" } }
      else .error .database

/-- The five durations that `complete_recovery_run` is given. -/
structure MeasuredSeconds where
  postgresRpo : Int
  postgresRto : Int
  evidenceRpo : Int
  evidenceRto : Int
  redisRebuild : Int

/-- One entry of `measured_seconds` against its target. -/
def meetsTarget (metric : String) (measured target : Int) :
    Except RecoveryError Unit :=
  if measured < 0 ∨ measured > target then
    .error (.runtime (metric ++ " target was not met."))
  else .ok ()

/-- The row that `complete_recovery_run` leaves. -/
def StorageRecoveryRunRecord.completed (record : StorageRecoveryRunRecord)
    (measured : MeasuredSeconds) (now : DateTime) : StorageRecoveryRunRecord :=
  { record with
    status := .succeeded
    postgresRpoSeconds := some measured.postgresRpo
    postgresRtoSeconds := some measured.postgresRto
    evidenceRpoSeconds := some measured.evidenceRpo
    evidenceRtoSeconds := some measured.evidenceRto
    redisRebuildSeconds := some measured.redisRebuild
    findingLineageReproduced := true
    objectHashReproduced := true
    pendingOutboxReconciled := true
    independentFailureDomain := false
    productionGateComplete := false
    lastErrorCode := none
    completedAt := some now
    updatedAt := now }

def completeRecoveryRun (store : RecoveryStore) (measured : MeasuredSeconds)
    (now : DateTime) : Except RecoveryError RecoveryStore := do
  meetsTarget "PostgreSQL RPO" measured.postgresRpo 900
  meetsTarget "PostgreSQL RTO" measured.postgresRto 14400
  meetsTarget "evidence RPO" measured.evidenceRpo 3600
  meetsTarget "evidence RTO" measured.evidenceRto 28800
  if measured.redisRebuild < 0 then
    .error (.runtime "Redis rebuild duration is invalid.")
  else
    let record ← getRecoveryRun store
    if record.postgresStatus = .restored ∧ record.redisStatus = .rebuilt ∧
        record.aistorStatus = .restored then
      store.flushRun (record.completed measured now)
    else
      .error (.runtime "Storage recovery components have not converged.")

/-- A call on one recovery run, with the arguments it is given. -/
inductive RecoveryCall where
  | markComponent (component status : String) (seconds : Option Int)
      (now : DateTime)
  | markBackupCreated (evidenceRpoSeconds : Int) (now : DateTime)
  | markArtifactRestored (restoredVersionId : String)
  | completeRecoveryRun (measured : MeasuredSeconds) (now : DateTime)

def RecoveryCall.transact (store : RecoveryStore) :
    RecoveryCall → Except RecoveryError RecoveryStore
  | .markComponent component status seconds now =>
      Recovery.markComponent store component status seconds now
  | .markBackupCreated evidenceRpoSeconds now =>
      Recovery.markBackupCreated store evidenceRpoSeconds now
  | .markArtifactRestored restoredVersionId =>
      Recovery.markArtifactRestored store restoredVersionId
  | .completeRecoveryRun measured now =>
      Recovery.completeRecoveryRun store measured now

/-- Repository calls one after the other; a call that raises is rolled
back. -/
def recoveryMachine :
    Machine RecoveryStore RecoveryCall (Except RecoveryError Unit) where
  step store call :=
    match call.transact store with
    | .ok after => some (.ok (), after)
    | .error error => some (.error error, store)

/-- The duration was recorded and lies within its target. -/
def Within (target : Int) (recorded : Option Int) : Prop :=
  ∃ seconds, recorded = some seconds ∧ 0 ≤ seconds ∧ seconds ≤ target

/-- The components have converged and the durations are within the targets
of the run. -/
structure MetTargets (record : StorageRecoveryRunRecord) : Prop where
  postgres : record.postgresStatus = .restored
  redis : record.redisStatus = .rebuilt
  aistor : record.aistorStatus = .restored
  postgresRpo : Within 900 record.postgresRpoSeconds
  postgresRto : Within 14400 record.postgresRtoSeconds
  evidenceRpo : Within 3600 record.evidenceRpoSeconds
  evidenceRto : Within 28800 record.evidenceRtoSeconds
  /-- The rebuild of Redis has no target, but it is measured. -/
  redisRebuild : ∃ seconds, record.redisRebuildSeconds = some seconds ∧
    0 ≤ seconds

/-- A run that is marked SUCCEEDED has met its targets. -/
def SucceededMetTargets (store : RecoveryStore) : Prop :=
  ∀ record, store.run = some record → record.status = .succeeded →
    MetTargets record

/-- The call marks a component of a run that has already SUCCEEDED as
RECOVERED, with a duration that the database accepts. -/
def LateRecovery (store : RecoveryStore) : RecoveryCall → Prop
  | .markComponent component status seconds _ =>
      store.run.map StorageRecoveryRunRecord.status = some .succeeded ∧
        status = "RECOVERED" ∧
        (component = "postgres" ∨ component = "aistor") ∧
        isDuration seconds = true
  | .markBackupCreated _ _ | .markArtifactRestored _
  | .completeRecoveryRun _ _ => False

instance (store : RecoveryStore) :
    (call : RecoveryCall) → Decidable (LateRecovery store call)
  | .markComponent _ _ _ _ => inferInstanceAs (Decidable (_ ∧ _ ∧ _ ∧ _))
  | .markBackupCreated _ _ | .markArtifactRestored _
  | .completeRecoveryRun _ _ => .isFalse id

/-- The guard of the calls that are not late recoveries. -/
def NoLateRecovery (store : RecoveryStore) (call : RecoveryCall) : Prop :=
  ¬LateRecovery store call

instance (store : RecoveryStore) (call : RecoveryCall) :
    Decidable (NoLateRecovery store call) :=
  inferInstanceAs (Decidable (¬_))

variable {store after : RecoveryStore} {record : StorageRecoveryRunRecord}

theorem flushRun_eq_ok :
    store.flushRun record = .ok after ↔
      record.accepted = true ∧ after = { store with run := some record } := by
  unfold RecoveryStore.flushRun
  split
  · next accepted =>
      constructor
      · intro same
        cases same
        exact ⟨accepted, rfl⟩
      · rintro ⟨-, rfl⟩
        rfl
  · next refused =>
      constructor
      · nofun
      · rintro ⟨accepted, -⟩
        exact absurd accepted refused

theorem getRecoveryRun_eq_ok :
    getRecoveryRun store = .ok record ↔ store.run = some record := by
  unfold getRecoveryRun
  split <;> simp_all

theorem meetsTarget_eq_ok {metric : String} {measured target : Int}
    {done : Unit} :
    meetsTarget metric measured target = .ok done ↔
      0 ≤ measured ∧ measured ≤ target := by
  unfold meetsTarget
  split
  · next missed =>
      constructor
      · nofun
      · intro met
        omega
  · next met =>
      constructor
      · intro
        omega
      · intro
        rfl

theorem allowed_of_transition {component status : String}
    {marked : Component × ComponentStatus}
    (allowed : allowedTransition component status = some marked) :
    marked.1.text = component ∧ marked.2.text = status ∧
      marked.2 ∈ marked.1.allowed := by
  simp only [allowedTransition, Option.bind_eq_bind, Option.bind_eq_some_iff,
    Option.pure_def, Option.some.injEq] at allowed
  obtain ⟨found, foundComponent, foundStatus, listed, rfl⟩ := allowed
  have named := List.find?_some foundComponent
  have spelled := List.find?_some listed
  exact ⟨by simpa using named, by simpa using spelled,
    List.mem_of_find?_eq_some listed⟩

/-- Everything that one call can do to the run. -/
inductive Effect (before : RecoveryStore) (call : RecoveryCall) :
    RecoveryStore → Prop where
  /-- The call raised, or it only wrote the artifact. -/
  | untouched {after : RecoveryStore} (same : after.run = before.run) :
      Effect before call after
  | marked {record : StorageRecoveryRunRecord} {component : Component}
      {status : ComponentStatus} {seconds : Option Int} {now : DateTime}
      (found : before.run = some record)
      (called : call =
        .markComponent component.text status.text seconds now)
      (allowed : status ∈ component.allowed)
      (accepted :
        (record.marked component status seconds now).accepted = true) :
      Effect before call
        { before with run := some (record.marked component status seconds now) }
  | backedUp {changed : StorageRecoveryRunRecord}
      (status : changed.status = .backupCreated)
      (accepted : changed.accepted = true) :
      Effect before call { before with run := some changed }
  | completed {changed : StorageRecoveryRunRecord}
      (met : MetTargets changed) (accepted : changed.accepted = true) :
      Effect before call { before with run := some changed }

variable {before : RecoveryStore} {seconds : Option Int} {now : DateTime}

theorem markComponent_effect {component status : String}
    (done : markComponent before component status seconds now = .ok after) :
    Effect before (.markComponent component status seconds now) after := by
  simp only [markComponent, Outcome.bind_eq_ok, getRecoveryRun_eq_ok] at done
  obtain ⟨record, found, done⟩ := done
  split at done
  · cases done
  rename_i allowed
  obtain ⟨rfl, rfl, listed⟩ := allowed_of_transition allowed
  obtain ⟨accepted, rfl⟩ := flushRun_eq_ok.mp done
  exact .marked found rfl listed accepted

variable {call : RecoveryCall}

theorem markBackupCreated_effect {evidenceRpoSeconds : Int}
    (done : markBackupCreated before evidenceRpoSeconds now = .ok after) :
    Effect before call after := by
  simp only [markBackupCreated, Outcome.bind_eq_ok] at done
  obtain ⟨record, _, done⟩ := done
  obtain ⟨accepted, rfl⟩ := flushRun_eq_ok.mp done
  exact .backedUp rfl accepted

theorem markArtifactRestored_effect {restoredVersionId : String}
    (done : markArtifactRestored before restoredVersionId = .ok after) :
    Effect before call after := by
  unfold markArtifactRestored at done
  split at done
  · cases done
  split at done
  · cases done
    exact .untouched rfl
  · cases done

theorem completeRecoveryRun_effect {measured : MeasuredSeconds}
    (done : completeRecoveryRun before measured now = .ok after) :
    Effect before call after := by
  simp only [completeRecoveryRun, Outcome.bind_eq_ok, meetsTarget_eq_ok] at done
  obtain ⟨_, postgresRpo, _, postgresRto, _, evidenceRpo, _, evidenceRto,
    done⟩ := done
  split at done
  · cases done
  rename_i measuredRedis
  obtain ⟨record, found, done⟩ := Outcome.bind_eq_ok.mp done
  split at done
  · next converged =>
      obtain ⟨accepted, rfl⟩ := flushRun_eq_ok.mp done
      refine .completed ?_ accepted
      exact
        { postgres := converged.1
          redis := converged.2.1
          aistor := converged.2.2
          postgresRpo := ⟨_, rfl, postgresRpo⟩
          postgresRto := ⟨_, rfl, postgresRto⟩
          evidenceRpo := ⟨_, rfl, evidenceRpo⟩
          evidenceRto := ⟨_, rfl, evidenceRto⟩
          redisRebuild := ⟨_, rfl, by omega⟩ }
  · cases done

variable {answer : Except RecoveryError Unit}

theorem step_effect
    (made : recoveryMachine.step before call = some (answer, after)) :
    Effect before call after := by
  simp only [recoveryMachine] at made
  split at made
  · next done =>
      cases made
      cases call with
      | markComponent component status seconds now =>
          exact markComponent_effect done
      | markBackupCreated evidenceRpoSeconds now =>
          exact markBackupCreated_effect done
      | markArtifactRestored restoredVersionId =>
          exact markArtifactRestored_effect done
      | completeRecoveryRun measured now =>
          exact completeRecoveryRun_effect done
  · cases made
    exact .untouched rfl

@[simp] theorem marked_status (record : StorageRecoveryRunRecord)
    (component : Component) (status : ComponentStatus) (seconds : Option Int)
    (now : DateTime) :
    (record.marked component status seconds now).status =
      statusAfterMark record.status status := by
  cases component <;> cases seconds <;> rfl

def StorageRecoveryRunRecord.statusOf (record : StorageRecoveryRunRecord) :
    Component → ComponentStatus
  | .postgres => record.postgresStatus
  | .redis => record.redisStatus
  | .aistor => record.aistorStatus

@[simp] theorem marked_statusOf (record : StorageRecoveryRunRecord)
    (component : Component) (status : ComponentStatus) (seconds : Option Int)
    (now : DateTime) :
    (record.marked component status seconds now).statusOf component =
      status := by
  cases component <;> cases seconds <;> rfl

variable {component : Component}

theorem statusAfterMark_succeeded {current : RunStatus}
    {status : ComponentStatus} (allowed : status ∈ component.allowed)
    (succeeded : statusAfterMark current status = .succeeded) :
    current = .succeeded ∧ status = .recovered ∧ component ≠ .redis := by
  cases component <;> cases status <;>
    simp_all [Component.allowed, statusAfterMark]

theorem isDuration_of_accepted {status : ComponentStatus}
    (accepted : (record.marked component status seconds now).accepted = true) :
    isDuration seconds = true := by
  simp only [StorageRecoveryRunRecord.accepted, Bool.and_eq_true] at accepted
  obtain ⟨⟨⟨⟨⟨_, postgres⟩, _⟩, evidence⟩, redis⟩, _⟩ := accepted
  cases seconds with
  | none => rfl
  | some value =>
      cases component with
      | postgres => exact postgres
      | redis => exact redis
      | aistor => exact evidence

/-- A call that is no late recovery keeps what SUCCEEDED says. -/
theorem kept_without_late_recovery (holds : SucceededMetTargets before)
    (notLate : NoLateRecovery before call)
    (made : recoveryMachine.step before call = some (answer, after)) :
    SucceededMetTargets after := by
  intro changed foundLater succeeded
  cases step_effect made with
  | untouched same => exact holds changed (same ▸ foundLater) succeeded
  | marked found called allowed accepted =>
      cases foundLater
      rw [marked_status] at succeeded
      obtain ⟨already, rfl, notRedis⟩ :=
        statusAfterMark_succeeded allowed succeeded
      exfalso
      apply notLate
      rw [called]
      refine ⟨by rw [found, Option.map_some, already], rfl, ?_,
        isDuration_of_accepted accepted⟩
      cases ‹Component› with
      | postgres => exact .inl rfl
      | redis => exact (notRedis rfl).elim
      | aistor => exact .inr rfl
  | backedUp status _ =>
      cases foundLater
      rw [status] at succeeded
      cases succeeded
  | completed met _ =>
      cases foundLater
      exact met

/-- The row that the database holds meets its constraints. -/
def RowAccepted (store : RecoveryStore) : Prop :=
  ∀ record, store.run = some record → record.accepted = true

theorem rowAccepted_kept (holds : RowAccepted before)
    (made : recoveryMachine.step before call = some (answer, after)) :
    RowAccepted after := by
  intro changed found
  cases step_effect made with
  | untouched same => exact holds changed (same ▸ found)
  | marked _ _ _ accepted => cases found; exact accepted
  | backedUp _ accepted => cases found; exact accepted
  | completed _ accepted => cases found; exact accepted

theorem marked_accepted (row : record.accepted = true)
    (duration : isDuration seconds = true) (component : Component)
    (status : ComponentStatus) (now : DateTime) :
    (record.marked component status seconds now).accepted = true := by
  simp only [StorageRecoveryRunRecord.accepted, Bool.and_eq_true] at row
  cases seconds <;> cases component <;>
    simp [StorageRecoveryRunRecord.accepted, StorageRecoveryRunRecord.marked,
      StorageRecoveryRunRecord.setStatus, StorageRecoveryRunRecord.setDuration,
      row, duration]

/-- What a mark that the dictionary allows leaves in the database. -/
theorem step_mark (found : before.run = some record)
    (row : record.accepted = true) (component : Component)
    (status : ComponentStatus)
    (allowed : allowedTransition component.text status.text =
      some (component, status)) (duration : isDuration seconds = true)
    (now : DateTime) :
    recoveryMachine.step before
        (.markComponent component.text status.text seconds now) =
      some (.ok (), { before with
        run := some (record.marked component status seconds now) }) := by
  have read : getRecoveryRun before = .ok record :=
    getRecoveryRun_eq_ok.mpr found
  have written : before.flushRun (record.marked component status seconds now) =
      .ok { before with
        run := some (record.marked component status seconds now) } :=
    flushRun_eq_ok.mpr ⟨marked_accepted row duration _ _ _, rfl⟩
  have done : markComponent before component.text status.text seconds now =
      .ok { before with
        run := some (record.marked component status seconds now) } := by
    simp only [markComponent, read, allowed]
    exact written
  simp only [recoveryMachine, RecoveryCall.transact, done]

theorem recovered_mark_breaks (succeeded : record.status = .succeeded)
    (notRedis : component ≠ .redis) :
    ¬SucceededMetTargets { store with
      run := some (record.marked component .recovered seconds now) } := by
  intro holds
  have met := holds _ rfl ((marked_status ..).trans succeeded)
  have column := marked_statusOf record component .recovered seconds now
  cases component with
  | postgres => cases column.symm.trans met.postgres
  | redis => exact notRedis rfl
  | aistor => cases column.symm.trans met.aistor

/-- A late recovery is recorded, and leaves SUCCEEDED beside a component that
is not restored. -/
theorem broken_by_late_recovery (rows : RowAccepted before)
    (late : LateRecovery before call)
    (made : recoveryMachine.step before call = some (answer, after)) :
    ¬SucceededMetTargets after := by
  cases call with
  | markComponent component status seconds now =>
      obtain ⟨status, rfl, named, duration⟩ := late
      obtain ⟨record, found, succeeded⟩ := Option.map_eq_some_iff.mp status
      have row := rows record found
      rcases named with rfl | rfl
      case inl =>
        have recorded := step_mark found row .postgres .recovered (by decide)
          duration now
        cases made.symm.trans recorded
        apply recovered_mark_breaks succeeded
        decide
      case inr =>
        have recorded := step_mark found row .aistor .recovered (by decide)
          duration now
        cases made.symm.trans recorded
        apply recovered_mark_breaks succeeded
        decide
  | markBackupCreated _ _ => cases late
  | markArtifactRestored _ => cases late
  | completeRecoveryRun _ _ => cases late

/-- The store right after `prepare_storage_recovery_run`. -/
def preparedStore (now : DateTime) (artifact : Option EvidenceArtifactRecord) :
    RecoveryStore :=
  { run := some (prepareStorageRecoveryRun now)
    artifact := artifact }

theorem preparedStore_rowAccepted (now : DateTime)
    (artifact : Option EvidenceArtifactRecord) :
    RowAccepted (preparedStore now artifact) := by
  intro record found
  cases found
  rfl

theorem preparedStore_succeededMetTargets (now : DateTime)
    (artifact : Option EvidenceArtifactRecord) :
    SucceededMetTargets (preparedStore now artifact) := by
  intro record found succeeded
  cases found
  cases succeeded

/-- Over every sequence of calls on one prepared run: in each state, a run
that is marked SUCCEEDED has met its targets, if and only if no call was a
late recovery. -/
theorem met_targets_iff_no_late_recovery {now : DateTime}
    {artifact : Option EvidenceArtifactRecord}
    {trace : List (Moment RecoveryStore RecoveryCall
      (Except RecoveryError Unit))} {final : RecoveryStore}
    (run : recoveryMachine.Run Machine.unguarded (preparedStore now artifact)
      trace final) :
    (∀ moment ∈ trace, SucceededMetTargets moment.after) ↔
      ∀ moment ∈ trace, NoLateRecovery moment.before moment.label := by
  constructor
  case mp =>
    intro sound moment member late
    obtain ⟨rows, _, makes⟩ := run.before_moment RowAccepted
      (preparedStore_rowAccepted now artifact)
      (fun _ _ _ _ holds _ made => rowAccepted_kept holds made) member
    exact broken_by_late_recovery rows late makes (sound moment member)
  case mpr =>
    intro punctual moment member
    obtain ⟨holds, notLate, makes⟩ := (run.strengthen punctual).before_moment
      SucceededMetTargets (preparedStore_succeededMetTargets now artifact)
      (fun _ _ _ _ holds notLate made =>
        kept_without_late_recovery holds notLate made) member
    exact kept_without_late_recovery holds notLate makes

def successfulCalls : List RecoveryCall :=
  [.markBackupCreated 40 10,
    .markComponent "postgres" "OUTAGE_OBSERVED" none 20,
    .markComponent "redis" "REBUILT" (some 30) 30,
    .markComponent "postgres" "RESTORED" (some 1200) 40,
    .markComponent "aistor" "RESTORED" (some 900) 50,
    .completeRecoveryRun ⟨300, 1200, 40, 900, 30⟩ 60]

/-- A recovery that succeeds, in which every state is sound. -/
theorem successful_recovery_met_targets :
    ∃ trace final,
      recoveryMachine.Run Machine.unguarded (preparedStore 0 none) trace final ∧
      final.run.map StorageRecoveryRunRecord.status = some .succeeded ∧
      ∀ moment ∈ trace, SucceededMetTargets moment.after := by
  obtain ⟨trace, final, carried, succeeded, punctual⟩ :
      ∃ trace final,
        recoveryMachine.replay Machine.unguarded (preparedStore 0 none)
          successfulCalls = some (trace, final) ∧
        final.run.map StorageRecoveryRunRecord.status = some .succeeded ∧
        ∀ moment ∈ trace, NoLateRecovery moment.before moment.label :=
    ⟨_, _, rfl, by decide, by decide⟩
  have run := Machine.run_of_replay carried
  exact ⟨trace, final, run, succeeded,
    (met_targets_iff_no_late_recovery run).mpr punctual⟩

/-- After a late recovery the run is still marked SUCCEEDED, but PostgreSQL
is not RESTORED and its recovery time is past the target. -/
theorem late_recovery_breaks_succeeded :
    ∃ trace final record,
      recoveryMachine.Run Machine.unguarded (preparedStore 0 none) trace final ∧
      final.run = some record ∧ record.status = .succeeded ∧
      record.postgresStatus = .recovered ∧
      record.postgresRtoSeconds = some 99999 ∧ ¬MetTargets record := by
  obtain ⟨trace, final, record, carried, found, seen⟩ :
      ∃ trace final record,
        recoveryMachine.replay Machine.unguarded (preparedStore 0 none)
          (successfulCalls ++
            [.markComponent "postgres" "RECOVERED" (some 99999) 70]) =
          some (trace, final) ∧
        final.run = some record ∧ record.status = .succeeded ∧
        record.postgresStatus = .recovered ∧
        record.postgresRtoSeconds = some 99999 :=
    ⟨_, _, _, rfl, rfl, by decide⟩
  obtain ⟨succeeded, recovered, measured⟩ := seen
  refine ⟨trace, final, record, Machine.run_of_replay carried, found, succeeded,
    recovered, measured, fun met => ?_⟩
  cases recovered.symm.trans met.postgres

end SecAI.Recovery
