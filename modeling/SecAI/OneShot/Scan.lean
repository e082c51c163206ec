/-
Module: SecAI.OneShot.Scan
Purpose: The tables of one Linux self scan and the repository calls on them;
  its provisioning, the exchange of its code, the submissions and uploads on
  their way, and its deletion, in any order.
Trusted boundary: each repository call is atomic and sees what is committed;
  the outcome of a validation, apart from its checks against the loaded run,
  is a parameter of the step
Main exports:
  OneShotTables, SelfScan, ScanState, ScanLabel, Answer
-/
import SecAI.LinuxAudit.Thread

namespace SecAI.OneShot

open LinuxAudit (AuditEvent nextSequence)

/-! ## The tables -/

inductive LinuxDistribution where
  | ubuntu2204
  | ubuntu2404
  | debian12
  | rocky9
  | rhel9
  | almalinux9
deriving DecidableEq

/-- The column `distribution` of a self scan. -/
inductive RunDistribution where
  /-- `AUTO`. -/
  | auto
  | bound (distribution : LinuxDistribution)
deriving DecidableEq

/-- The `asset_key` of a distribution. -/
def RunDistribution.assetKey : RunDistribution → String
  | .bound .ubuntu2204 => "self-ubuntu22"
  | .bound .ubuntu2404 => "self-ubuntu24"
  | .bound .debian12 => "self-debian12"
  | .bound .rocky9 => "self-rocky9"
  | .bound .rhel9 => "self-rhel9"
  | .bound .almalinux9 => "self-alma9"
  | .auto => "self-auto"

/-- The status values that the calls on a self scan know. -/
inductive OneShotStatus where
  | waitingUpload
  | validating
  | completed
deriving DecidableEq

/-- A collector manifest: the members that the calls read, and the whole
document.  `expiresAt` is absent where the member is no timestamp. -/
structure Manifest where
  id : String
  contentSha256 : String
  executionAttemptId : String
  nonce : String
  expiresAt : Option Int
  document : Json
deriving DecidableEq

/-- The row of `linux_audit_runs`.  The manifest stands for the columns
`manifest_id`, `manifest_json`, `manifest_sha256` and
`execution_attempt_id`. -/
structure OneShotRow where
  assetKey : String
  distribution : RunDistribution
  status : OneShotStatus
  manifest : Manifest
  packageSha256 : Option String
  submissionProfile : Option String
  assuranceLevel : Option String
  resultJson : Option Json
  resultSha256 : Option String
  receivedAt : Option Int
  completedAt : Option Int
  deletedAt : Option Int

/-- The members of a package descriptor that are committed. -/
structure Descriptor where
  id : String
  manifestId : String
  executionAttemptId : String
  nonce : String
  document : Json

/-- A row of `linux_oneshot_evidence`. -/
structure EvidenceItem where
  evidenceId : String
  probeId : String
  collectionStatus : String
  errorCode : String
  rawOutputSha256 : String
  normalizedSha256 : String
  redactionApplied : Bool
  normalizedValue : String
  collectedAt : Int

/-- The arguments of `commit_linux_oneshot_result`. -/
structure ProcessedPackage where
  descriptor : Descriptor
  descriptorSha256 : String
  archiveSha256 : String
  submissionProfile : String
  assuranceLevel : String
  evidence : List EvidenceItem
  resultJson : Json
  /-- `result_json["result_sha256"]`. -/
  resultSha256 : String
  receivedAt : Int

/-- A row of `linux_oneshot_submissions`. -/
structure Submission where
  descriptor : Descriptor
  archiveSha256 : String
  descriptorSha256 : String
  submissionProfile : String
  assuranceLevel : String
  createdAt : Int

/-- What is stored of one run. -/
structure OneShotTables where
  row : Option OneShotRow
  submissions : List Submission
  evidence : List EvidenceItem
  events : List AuditEvent

/-- What the calls raise. -/
inductive OneShotError where
  | autoBindConflict
  | differentPackageAlreadyCommitted
  /-- `scalar_one` without a row. -/
  | noRunFound
  | runNotWaiting
  | resultCommitConflict

/-! ## The calls -/

/-- `append_linux_audit_event`. -/
def OneShotTables.appendEvent (tables : OneShotTables) (eventType : String)
    (payload : Json) : OneShotTables :=
  { tables with
    events := tables.events ++
      [{ sequence := nextSequence tables.events
         eventType := eventType
         payload := payload }] }

def createLinuxOneshotRun (tables : OneShotTables)
    (distribution : RunDistribution) (manifest : Manifest) : OneShotTables :=
  { tables with
    row := some
      { assetKey := distribution.assetKey
        distribution := distribution
        status := .waitingUpload
        manifest := manifest
        packageSha256 := none
        submissionProfile := none
        assuranceLevel := none
        resultJson := none
        resultSha256 := none
        receivedAt := none
        completedAt := none
        deletedAt := none } }.appendEvent "WAITING_FOR_PACKAGE"
    (.obj [("mode", .str "ONESHOT_SELF"), ("draft", .bool true)])

/-- `find_pending_linux_oneshot_run`: the expiry of this run if it is the
pending one. -/
def findPendingLinuxOneshotRun (tables : OneShotTables) (assetKey : String) :
    Option (Option Int) :=
  match tables.row with
  | none => none
  | some row =>
      if row.assetKey = assetKey ∧ row.deletedAt = none ∧
          (row.status = .waitingUpload ∨ row.status = .validating) then
        some row.manifest.expiresAt
      else none

def bindLinuxOneshotPlatform (tables : OneShotTables)
    (distribution : LinuxDistribution) (manifest : Manifest)
    (discovery : Json) : Except OneShotError OneShotTables :=
  match tables.row with
  | none => .error .autoBindConflict
  | some row =>
      if row.status = .waitingUpload ∧ row.distribution = .auto then
        .ok ({ tables with
          row := some { row with
            assetKey := (RunDistribution.bound distribution).assetKey
            distribution := .bound distribution
            manifest := manifest } }.appendEvent "PLATFORM_IDENTIFIED"
          discovery)
      else .error .autoBindConflict

/-- `load_linux_oneshot_run`; the record is the row. -/
def loadLinuxOneshotRun (tables : OneShotTables) : Option OneShotRow :=
  tables.row.filter fun row => row.deletedAt.isNone

def nonceIsFresh (tables : OneShotTables) (nonce : String) : Bool :=
  tables.submissions.all fun submission => submission.descriptor.nonce != nonce

/-- The row that the last UPDATE of `commit_linux_oneshot_result` writes. -/
def OneShotRow.completedWith (row : OneShotRow) (package : ProcessedPackage) :
    OneShotRow :=
  { row with
    status := .completed
    packageSha256 := some package.archiveSha256
    submissionProfile := some package.submissionProfile
    assuranceLevel := some package.assuranceLevel
    resultJson := some package.resultJson
    resultSha256 := some package.resultSha256
    receivedAt := some package.receivedAt
    completedAt := some package.receivedAt }

/-- The row that a package inserts into `linux_oneshot_submissions`. -/
def ProcessedPackage.submission (package : ProcessedPackage) : Submission :=
  { descriptor := package.descriptor
    archiveSha256 := package.archiveSha256
    descriptorSha256 := package.descriptorSha256
    submissionProfile := package.submissionProfile
    assuranceLevel := package.assuranceLevel
    createdAt := package.receivedAt }

/-- The payload of the event `RUN_COMPLETED`. -/
def ProcessedPackage.completion (package : ProcessedPackage) : Json :=
  .obj [("result_sha256", .str package.resultSha256),
    ("archive_sha256", .str package.archiveSha256),
    ("assurance_level", .str package.assuranceLevel), ("draft", .bool true)]

def commitLinuxOneshotResult (tables : OneShotTables)
    (package : ProcessedPackage) :
    Except OneShotError (Bool × OneShotTables) :=
  match tables.submissions with
  | existing :: _ =>
      if existing.archiveSha256 = package.archiveSha256 then
        .ok (false, tables)
      else .error .differentPackageAlreadyCommitted
  | [] =>
      match tables.row with
      | none => .error .noRunFound
      | some row =>
          if row.status ≠ .waitingUpload then .error .runNotWaiting
          else if row.resultJson = none then
            .ok (true, { tables with
              row := some (row.completedWith package)
              submissions := tables.submissions ++ [package.submission]
              evidence := tables.evidence ++ package.evidence }.appendEvent
              "RUN_COMPLETED" package.completion)
          else .error .resultCommitConflict

def markLinuxOneshotDeleted (tables : OneShotTables) (now : Int) :
    Bool × OneShotTables :=
  match tables.row with
  | none => (false, tables)
  | some row =>
      if row.deletedAt = none then
        (true, { tables with row := some { row with deletedAt := some now } })
      else (false, tables)

end SecAI.OneShot

namespace SecAI.OneShot

open Interleaving

/-- What `provision_linux_self_scan` prepares: a manifest for each
distribution. -/
structure SelfScan where
  manifests : LinuxDistribution → Manifest

def SelfScan.placeholderManifest (scan : SelfScan) : Manifest :=
  scan.manifests .ubuntu2404

/-- The device code of the run. -/
inductive CodePhase where
  | unissued
  | issued
  | exchanged
deriving DecidableEq

/-- What `connection.exchange` does with a presented code. -/
inductive ExchangeOutcome where
  /-- It is not the code, or the code has expired. -/
  | refused
  /-- The code is consumed, and something after that raises. -/
  | spent
  /-- The code is consumed, and `bind_linux_oneshot_platform` is called
  next. -/
  | selected (distribution : LinuxDistribution) (discovery : Json)

/-- A submission or an upload on its way. -/
inductive Upload where
  /-- The run was loaded. -/
  | loaded (record : OneShotRow)
  /-- The package passed `_validate_and_commit` up to its last transaction. -/
  | validated (package : ProcessedPackage)

/-- The run, its code, and the requests between two repository calls. -/
structure ScanState where
  tables : OneShotTables
  code : CodePhase
  binding : Option (LinuxDistribution × Json)
  uploads : List Upload

def unprovisioned : ScanState :=
  { tables := { row := none, submissions := [], evidence := [], events := [] }
    code := .unissued
    binding := none
    uploads := [] }

/-- A step of the scan.  A call that `raises` is rolled back. -/
inductive ScanLabel where
  /-- The transaction of `provision_linux_self_scan`. -/
  | provision (raises : Bool)
  /-- The transaction of a later provisioning by the same owner. -/
  | provisionAnother (now : Int) (raises : Bool)
  /-- `connection.issue_choices`. -/
  | issueCode
  /-- `connection.exchange`. -/
  | exchange (outcome : ExchangeOutcome)
  /-- `bind_linux_oneshot_platform`. -/
  | bind (raises : Bool)
  /-- `load_linux_oneshot_run` of `submit_linux_self_scan` or
  `upload_linux_self_scan`. -/
  | load
  /-- `_validate_and_commit`, up to its last transaction. -/
  | validate (index : Nat) (package : ProcessedPackage) (accepted : Bool)
  /-- `commit_linux_oneshot_result`. -/
  | commit (index : Nat) (raises : Bool)
  /-- `mark_linux_oneshot_deleted` of `delete_linux_self_scan`. -/
  | delete (now : Int) (raises : Bool)

/-- What a step answers. -/
inductive Answer where
  | done
  | raised
  | committed (answer : Bool)
  | deleted (answer : Bool)
deriving DecidableEq

/-- The package belongs to the run as it was loaded, and that run was bound to
a distribution. -/
def admits (record : OneShotRow) (package : ProcessedPackage) : Bool :=
  record.distribution != .auto &&
    package.descriptor.manifestId == record.manifest.id &&
    package.descriptor.nonce == record.manifest.nonce &&
    package.descriptor.executionAttemptId ==
      record.manifest.executionAttemptId

/-- `_pending_run_action(expires_at, now) == "REPLACE"`. -/
def pendingRunReplaced (expiresAt : Option Int) (now : Int) : Bool :=
  match expiresAt with
  | none => true
  | some expiresAt => expiresAt ≤ now

/-! ## The steps -/

/-- A later provisioning deletes the pending run it replaces. -/
def provisionAnother (state : ScanState) (now : Int) : Answer × ScanState :=
  match findPendingLinuxOneshotRun state.tables
      RunDistribution.auto.assetKey with
  | none => (.done, state)
  | some expiresAt =>
      if pendingRunReplaced expiresAt now then
        let (deleted, tables) := markLinuxOneshotDeleted state.tables now
        (.deleted deleted, { state with tables := tables })
      else (.raised, state)

def exchangeCode (state : ScanState) :
    ExchangeOutcome → Option ScanState
  | .refused => some state
  | .spent =>
      if state.code = .issued then some { state with code := .exchanged }
      else none
  | .selected distribution discovery =>
      if state.code = .issued then
        some { state with
          code := .exchanged
          binding := some (distribution, discovery) }
      else none

def bindPlatform (scan : SelfScan) (state : ScanState) (raises : Bool) :
    Option (Answer × ScanState) :=
  match state.binding with
  | none => none
  | some (distribution, discovery) =>
      if raises then some (.raised, { state with binding := none })
      else
        match bindLinuxOneshotPlatform state.tables distribution
            (scan.manifests distribution) discovery with
        | .error _ => some (.raised, { state with binding := none })
        | .ok tables =>
            some (.done, { state with tables := tables, binding := none })

def validateUpload (state : ScanState) (index : Nat)
    (package : ProcessedPackage) (accepted : Bool) :
    Option (Answer × ScanState) :=
  match state.uploads[index]? with
  | some (.loaded record) =>
      if accepted && admits record package &&
          nonceIsFresh state.tables record.manifest.nonce then
        some (.done, { state with
          uploads := state.uploads.set index (.validated package) })
      else
        some (.raised, { state with uploads := state.uploads.eraseIdx index })
  | _ => none

def commitUpload (state : ScanState) (index : Nat) (raises : Bool) :
    Option (Answer × ScanState) :=
  match state.uploads[index]? with
  | some (.validated package) =>
      let uploads := state.uploads.eraseIdx index
      if raises then some (.raised, { state with uploads := uploads })
      else
        match commitLinuxOneshotResult state.tables package with
        | .error _ => some (.raised, { state with uploads := uploads })
        | .ok (committed, tables) =>
            some (.committed committed,
              { state with tables := tables, uploads := uploads })
  | _ => none

def scanMachine (scan : SelfScan) : Machine ScanState ScanLabel Answer where
  step state
    | .provision raises =>
        if state.tables.row.isSome then none
        else if raises then some (.raised, state)
        else
          some (.done, { state with
            tables := createLinuxOneshotRun state.tables .auto
              scan.placeholderManifest })
    | .provisionAnother now raises =>
        if raises then some (.raised, state)
        else some (provisionAnother state now)
    | .issueCode =>
        if state.tables.row.isSome ∧ state.code = .unissued then
          some (.done, { state with code := .issued })
        else none
    | .exchange outcome =>
        (exchangeCode state outcome).map fun after => (.done, after)
    | .bind raises => bindPlatform scan state raises
    | .load =>
        match loadLinuxOneshotRun state.tables with
        | none => some (.raised, state)
        | some record =>
            some (.done, { state with
              uploads := state.uploads ++ [.loaded record] })
    | .validate index package accepted =>
        validateUpload state index package accepted
    | .commit index raises => commitUpload state index raises
    | .delete now raises =>
        if raises then some (.raised, state)
        else
          let (deleted, tables) := markLinuxOneshotDeleted state.tables now
          some (.deleted deleted, { state with tables := tables })

/-! ## What a step does to the tables -/

/-- Everything that one step can do to the tables. -/
inductive TablesStep (scan : SelfScan) (before : ScanState)
    (label : ScanLabel) : Answer → OneShotTables → Prop where
  | same {answer : Answer} (kept : answer ≠ .deleted true) :
      TablesStep scan before label answer before.tables
  | created (absent : before.tables.row = none) :
      TablesStep scan before label .done
        (createLinuxOneshotRun before.tables .auto scan.placeholderManifest)
  | bound {distribution : LinuxDistribution} {discovery : Json}
      {row : OneShotRow} (request : label = .bind false)
      (binding : before.binding = some (distribution, discovery))
      (present : before.tables.row = some row)
      (waiting : row.status = .waitingUpload)
      (unbound : row.distribution = .auto) :
      TablesStep scan before label .done
        ({ before.tables with
          row := some { row with
            assetKey := (RunDistribution.bound distribution).assetKey
            distribution := .bound distribution
            manifest := scan.manifests distribution } }.appendEvent
          "PLATFORM_IDENTIFIED" discovery)
  | committed {index : Nat} {package : ProcessedPackage} {row : OneShotRow}
      (request : label = .commit index false)
      (upload : before.uploads[index]? = some (.validated package))
      (present : before.tables.row = some row)
      (waiting : row.status = .waitingUpload) (first : row.resultJson = none)
      (only : before.tables.submissions = []) :
      TablesStep scan before label (.committed true)
        ({ before.tables with
          row := some (row.completedWith package)
          submissions := [package.submission]
          evidence := before.tables.evidence ++ package.evidence }.appendEvent
          "RUN_COMPLETED" package.completion)
  | deleted {row : OneShotRow} (now : Int)
      (present : before.tables.row = some row) (alive : row.deletedAt = none) :
      TablesStep scan before label (.deleted true)
        { before.tables with row := some { row with deletedAt := some now } }

theorem delete_cases (scan : SelfScan) (before : ScanState) (label : ScanLabel)
    (now : Int) :
    TablesStep scan before label
      (.deleted (markLinuxOneshotDeleted before.tables now).1)
      (markLinuxOneshotDeleted before.tables now).2 := by
  unfold markLinuxOneshotDeleted
  split
  · exact .same nofun
  rename_i row present
  split
  · next alive => exact .deleted now present alive
  · exact .same nofun

theorem provision_another_cases (scan : SelfScan) (before : ScanState)
    (label : ScanLabel) (now : Int) :
    TablesStep scan before label (provisionAnother before now).1
      (provisionAnother before now).2.tables := by
  unfold provisionAnother
  split
  · exact .same nofun
  · split
    · exact delete_cases scan before label now
    · exact .same nofun

variable {scan : SelfScan} {before after : ScanState} {answer : Answer}

theorem bind_cases {raises : Bool}
    (bound : bindPlatform scan before raises = some (answer, after)) :
    TablesStep scan before (.bind raises) answer after.tables := by
  unfold bindPlatform at bound
  split at bound
  · cases bound
  rename_i distribution discovery binding
  split at bound
  · cases bound; exact .same nofun
  rename_i calm
  rw [Bool.eq_false_iff.mpr calm]
  unfold bindLinuxOneshotPlatform at bound
  split at bound
  · cases bound; exact .same nofun
  rename_i tables ok
  cases bound
  split at ok
  · cases ok
  rename_i row present
  split at ok
  · next unbound =>
      cases ok
      exact .bound rfl binding present unbound.1 unbound.2
  · cases ok

theorem commit_cases {index : Nat} {raises : Bool}
    (made : commitUpload before index raises = some (answer, after)) :
    TablesStep scan before (.commit index raises) answer after.tables := by
  unfold commitUpload at made
  split at made
  · next package upload =>
      dsimp only at made
      split at made
      · cases made; exact .same nofun
      rename_i calm
      rw [Bool.eq_false_iff.mpr calm]
      split at made
      · cases made; exact .same nofun
      rename_i committed tables ok
      cases made
      unfold commitLinuxOneshotResult at ok
      split at ok
      · split at ok
        · cases ok; exact .same nofun
        · cases ok
      rename_i only
      split at ok
      · cases ok
      rename_i row present
      split at ok
      · cases ok
      rename_i waiting
      split at ok
      · next first =>
          cases ok
          rw [only]
          exact .committed rfl upload present
            (not_not.mp waiting) first only
      · cases ok
  · cases made

/-- The step lemma of the tables. -/
theorem scan_step_cases {label : ScanLabel}
    (made : (scanMachine scan).step before label = some (answer, after)) :
    TablesStep scan before label answer after.tables := by
  cases label with
  | provision raises =>
      simp only [scanMachine] at made
      split at made
      · cases made
      rename_i absent
      split at made
      · cases made; exact .same nofun
      · cases made
        exact .created (Option.not_isSome_iff_eq_none.mp absent)
  | provisionAnother now raises =>
      simp only [scanMachine] at made
      split at made
      · cases made; exact .same nofun
      have step := provision_another_cases scan before
        (.provisionAnother now raises) now
      rw [Option.some.inj made] at step
      exact step
  | issueCode =>
      simp only [scanMachine] at made
      split at made
      · cases made; exact .same nofun
      · cases made
  | exchange outcome =>
      obtain ⟨reached, exchanged, same⟩ := Option.map_eq_some_iff.mp made
      cases same
      have tables : after.tables = before.tables := by
        unfold exchangeCode at exchanged
        split at exchanged
        · cases exchanged; rfl
        · split at exchanged
          · cases exchanged; rfl
          · cases exchanged
        · split at exchanged
          · cases exchanged; rfl
          · cases exchanged
      rw [tables]
      exact .same nofun
  | bind raises => exact bind_cases made
  | load =>
      simp only [scanMachine] at made
      split at made <;> cases made <;> exact .same nofun
  | validate index package accepted =>
      simp only [scanMachine, validateUpload] at made
      split at made
      · split at made <;> cases made <;> exact .same nofun
      · cases made
  | commit index raises => exact commit_cases made
  | delete now raises =>
      simp only [scanMachine] at made
      split at made
      · cases made; exact .same nofun
      · cases made
        exact delete_cases scan before _ now

end SecAI.OneShot
