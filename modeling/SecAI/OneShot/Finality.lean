/-
Module: SecAI.OneShot.Finality
Purpose: A self scan is decided once, and when its deletion is final, over
  every order of its repository calls.
Trusted boundary: none
Main exports:
  DecidedOnce, BeforeDeletion, Consistent, decided_once_iff_before_deletion
-/
import SecAI.OneShot.Scan

namespace SecAI.OneShot

open Interleaving

/-- What a deletion must leave alone for good. -/
structure Kept where
  distribution : RunDistribution
  manifest : Manifest
  resultJson : Option Json
  resultSha256 : Option String
  events : List LinuxAudit.AuditEvent
deriving DecidableEq

/-- The distribution, the manifest, the result and the events of the run. -/
def OneShotTables.kept (tables : OneShotTables) : Option Kept :=
  tables.row.map fun row =>
    { distribution := row.distribution
      manifest := row.manifest
      resultJson := row.resultJson
      resultSha256 := row.resultSha256
      events := tables.events }

def OneShotTables.result (tables : OneShotTables) :
    Option (Json × Option String) :=
  tables.row.bind fun row =>
    row.resultJson.map fun resultJson => (resultJson, row.resultSha256)

/-- A self scan is decided at most once, and its deletion is final. -/
structure DecidedOnce
    (trace : List (Moment ScanState ScanLabel Answer)) : Prop where
  /-- At most one submission is ever recorded. -/
  submission : ∀ moment ∈ trace,
    moment.after.tables.submissions.length ≤ 1
  /-- A recorded result never changes. -/
  result : ∀ moment ∈ trace, ∀ result,
    moment.before.tables.result = some result →
    moment.after.tables.result = some result
  /-- After a deletion that returned true, nothing of the run changes. -/
  final : ∀ earlier deletion later, trace = earlier ++ deletion :: later →
    deletion.answer = .deleted true → ∀ moment ∈ later,
      moment.after.tables.kept = deletion.after.tables.kept

def OneShotTables.IsDeleted (tables : OneShotTables) : Prop :=
  ∃ row, tables.row = some row ∧ row.deletedAt.isSome = true

instance (tables : OneShotTables) : Decidable tables.IsDeleted :=
  match same : tables.row with
  | none => .isFalse fun ⟨_, present, _⟩ => by cases same.symm.trans present
  | some row =>
      decidable_of_iff (row.deletedAt.isSome = true)
        ⟨fun gone => ⟨row, same, gone⟩,
          fun ⟨_, present, gone⟩ => by
            cases same.symm.trans present
            exact gone⟩

def OneShotTables.isWaiting (tables : OneShotTables) : Bool :=
  tables.row.any fun row => row.status == .waitingUpload

def OneShotTables.isUnbound (tables : OneShotTables) : Bool :=
  tables.row.any fun row => row.distribution == .auto

def Upload.isValidated : Upload → Bool
  | .loaded _ => false
  | .validated _ => true

/-- The platform is not bound, and the result not committed, for a run that
was deleted in the meantime. -/
def BeforeDeletion (state : ScanState) : ScanLabel → Prop
  | .bind false =>
      state.binding.isSome = true → state.tables.isWaiting = true →
        state.tables.isUnbound = true → ¬state.tables.IsDeleted
  | .commit index false =>
      state.uploads[index]?.any Upload.isValidated = true →
        state.tables.isWaiting = true → ¬state.tables.IsDeleted
  | _ => True

instance (state : ScanState) (label : ScanLabel) :
    Decidable (BeforeDeletion state label) :=
  match label with
  | .bind false => inferInstanceAs (Decidable (_ → _ → _ → _))
  | .commit _ false => inferInstanceAs (Decidable (_ → _ → _))
  | .bind true | .commit _ true | .provision _ | .provisionAnother _ _
  | .issueCode | .exchange _ | .load | .validate _ _ _ | .delete _ _ =>
      .isTrue trivial

/-! ## What every run keeps -/

/-- The status, the submission and the result go together. -/
structure Consistent (tables : OneShotTables) : Prop where
  submission : tables.submissions.length ≤ 1
  waiting : ∀ row, tables.row = some row → row.status = .waitingUpload →
    tables.submissions = [] ∧ row.resultJson = none
  absent : tables.row = none → tables.submissions = []

variable {scan : SelfScan} {before : ScanState} {label : ScanLabel}
  {answer : Answer} {after : OneShotTables}

theorem Consistent.step (consistent : Consistent before.tables)
    (step : TablesStep scan before label answer after) :
    Consistent after := by
  obtain ⟨submission, waiting, absent⟩ := consistent
  cases step with
  | same kept => exact ⟨submission, waiting, absent⟩
  | created missing =>
      refine ⟨submission, ?_, nofun⟩
      rintro row ⟨⟩ _
      exact ⟨absent missing, rfl⟩
  | bound request binding present isWaiting unbound =>
      refine ⟨submission, ?_, nofun⟩
      rintro row ⟨⟩ _
      have original := waiting _ present isWaiting
      exact original
  | committed request upload present isWaiting first only =>
      refine ⟨Nat.le_refl 1, ?_, nofun⟩
      rintro row ⟨⟩ still
      cases still
  | deleted now present alive =>
      refine ⟨submission, ?_, nofun⟩
      rintro row ⟨⟩ still
      have original := waiting _ present still
      exact original

theorem unprovisioned_consistent : Consistent unprovisioned.tables where
  submission := Nat.zero_le 1
  waiting := by
    intro row present
    cases present
  absent := fun _ => rfl

variable {tables : OneShotTables} {row : OneShotRow}

theorem result_of_row (present : tables.row = some row) :
    tables.result =
      row.resultJson.map fun resultJson => (resultJson, row.resultSha256) := by
  unfold OneShotTables.result
  rw [present]
  rfl

theorem result_of_absent (absent : tables.row = none) :
    tables.result = none := by
  unfold OneShotTables.result
  rw [absent]
  rfl

/-- A recorded result stays, whatever happens. -/
theorem result_stays (step : TablesStep scan before label answer after)
    {result : Json × Option String}
    (recorded : before.tables.result = some result) :
    after.result = some result := by
  cases step with
  | same kept => exact recorded
  | created missing =>
      rw [result_of_absent missing] at recorded
      cases recorded
  | bound request binding present isWaiting unbound =>
      rw [result_of_row present] at recorded
      rw [result_of_row rfl]
      exact recorded
  | committed request upload present isWaiting first only =>
      rw [result_of_row present, first] at recorded
      cases recorded
  | deleted now present alive =>
      rw [result_of_row present] at recorded
      rw [result_of_row rfl]
      exact recorded

theorem deleted_stays (step : TablesStep scan before label answer after)
    (gone : before.tables.IsDeleted) : after.IsDeleted := by
  obtain ⟨row, present, deletedAt⟩ := gone
  cases step with
  | same kept => exact ⟨row, present, deletedAt⟩
  | created missing => cases missing.symm.trans present
  | bound request binding found isWaiting unbound =>
      cases found.symm.trans present
      exact ⟨_, rfl, deletedAt⟩
  | committed request upload found isWaiting first only =>
      cases found.symm.trans present
      exact ⟨_, rfl, deletedAt⟩
  | deleted now found alive =>
      cases found.symm.trans present
      exact ⟨_, rfl, rfl⟩

theorem deleted_by_deletion (step : TablesStep scan before label answer after)
    (gone : after.IsDeleted) :
    before.tables.IsDeleted ∨ answer = .deleted true := by
  obtain ⟨row, present, deletedAt⟩ := gone
  cases step with
  | same kept => exact .inl ⟨row, present, deletedAt⟩
  | created missing =>
      cases present
      cases deletedAt
  | bound request binding found isWaiting unbound =>
      cases present
      exact .inl ⟨_, found, deletedAt⟩
  | committed request upload found isWaiting first only =>
      cases present
      exact .inl ⟨_, found, deletedAt⟩
  | deleted now found alive => exact .inr rfl

theorem isDeleted_of_answer (step : TablesStep scan before label answer after)
    (answered : answer = .deleted true) : after.IsDeleted := by
  cases step with
  | same kept => exact absurd answered kept
  | deleted now present alive => exact ⟨_, rfl, rfl⟩
  | created missing => cases answered
  | bound request binding found isWaiting unbound => cases answered
  | committed request upload found isWaiting first only => cases answered

/-! ## What a deletion keeps -/

theorem kept_of_row (present : tables.row = some row) :
    tables.kept = some
      { distribution := row.distribution
        manifest := row.manifest
        resultJson := row.resultJson
        resultSha256 := row.resultSha256
        events := tables.events } := by
  unfold OneShotTables.kept
  rw [present]
  rfl

theorem isWaiting_of_row (present : tables.row = some row)
    (waiting : row.status = .waitingUpload) : tables.isWaiting = true := by
  unfold OneShotTables.isWaiting
  rw [present, Option.any_some, waiting]
  rfl

theorem isUnbound_of_row (present : tables.row = some row)
    (unbound : row.distribution = .auto) : tables.isUnbound = true := by
  unfold OneShotTables.isUnbound
  rw [present, Option.any_some, unbound]
  rfl

theorem kept_stays (step : TablesStep scan before label answer after)
    (gone : before.tables.IsDeleted) (allowed : BeforeDeletion before label) :
    after.kept = before.tables.kept := by
  cases step with
  | same kept => rfl
  | created missing =>
      obtain ⟨row, present, _⟩ := gone
      cases missing.symm.trans present
  | bound request binding present waiting unbound =>
      subst request
      exact absurd gone (allowed (by rw [binding]; rfl)
        (isWaiting_of_row present waiting) (isUnbound_of_row present unbound))
  | committed request upload present waiting first only =>
      subst request
      exact absurd gone
        (allowed (by rw [upload]; rfl) (isWaiting_of_row present waiting))
  | deleted now present alive =>
      rw [kept_of_row present, kept_of_row rfl]

theorem kept_ne_of_append {before : OneShotTables}
    (present : before.row = some row)
    (longer : before.events.length < after.events.length) :
    after.kept ≠ before.kept := by
  intro same
  rw [kept_of_row present] at same
  obtain ⟨_, _, kept⟩ := Option.map_eq_some_iff.mp same
  have events : after.events = before.events := congrArg Kept.events kept
  rw [events] at longer
  exact Nat.lt_irrefl _ longer

theorem waiting_row (waiting : tables.isWaiting = true) :
    ∃ row, tables.row = some row ∧ row.status = .waitingUpload := by
  obtain ⟨row, present, status⟩ := (Option.any_eq_true _ _).mp waiting
  exact ⟨row, present, eq_of_beq status⟩

theorem kept_changed_by_bind {after : ScanState}
    (made : bindPlatform scan before false = some (answer, after))
    (waiting : before.tables.isWaiting = true)
    (unbound : before.tables.isUnbound = true) :
    after.tables.kept ≠ before.tables.kept := by
  obtain ⟨row, present, status⟩ := waiting_row waiting
  have auto : row.distribution = .auto := by
    obtain ⟨other, found, distribution⟩ := (Option.any_eq_true _ _).mp unbound
    cases found.symm.trans present
    exact eq_of_beq distribution
  unfold bindPlatform at made
  split at made
  · cases made
  simp only [Bool.false_eq_true, if_false, bindLinuxOneshotPlatform, present,
    status, auto, and_self, if_true] at made
  cases made
  exact kept_ne_of_append present
    (by simp [OneShotTables.appendEvent])

theorem validated_upload {upload : Option Upload}
    (ready : upload.any Upload.isValidated = true) :
    ∃ package, upload = some (.validated package) := by
  obtain ⟨found, rfl, validated⟩ := (Option.any_eq_true _ _).mp ready
  cases found with
  | loaded record => cases validated
  | validated package => exact ⟨package, rfl⟩

theorem kept_changed_by_commit {after : ScanState} {index : Nat}
    {package : ProcessedPackage} (consistent : Consistent before.tables)
    (made : commitUpload before index false = some (answer, after))
    (upload : before.uploads[index]? = some (.validated package))
    (waiting : before.tables.isWaiting = true) :
    after.tables.kept ≠ before.tables.kept := by
  obtain ⟨row, present, status⟩ := waiting_row waiting
  obtain ⟨only, first⟩ := consistent.waiting row present status
  simp only [commitUpload, upload, commitLinuxOneshotResult, only, present,
    status, first, Bool.false_eq_true, if_false, ne_eq, not_true_eq_false,
    if_true] at made
  cases made
  exact kept_ne_of_append present
    (by simp [OneShotTables.appendEvent])

theorem kept_changed {after : ScanState}
    (consistent : Consistent before.tables)
    (made : (scanMachine scan).step before label = some (answer, after))
    (late : ¬BeforeDeletion before label) :
    before.tables.IsDeleted ∧ after.tables.kept ≠ before.tables.kept := by
  unfold BeforeDeletion at late
  split at late
  · push Not at late
    obtain ⟨_, waiting, unbound, gone⟩ := late
    exact ⟨gone, kept_changed_by_bind made waiting unbound⟩
  · push Not at late
    obtain ⟨ready, waiting, gone⟩ := late
    obtain ⟨package, upload⟩ := validated_upload ready
    exact ⟨gone, kept_changed_by_commit consistent made upload waiting⟩
  · exact absurd trivial late

/-! ## Every order of the calls -/

variable {final : ScanState}
  {trace : List (Moment ScanState ScanLabel Answer)}

theorem exists_deletion {guard : ScanState → ScanLabel → Prop}
    {start : ScanState} (run : (scanMachine scan).Run guard start trace final)
    (alive : ¬start.tables.IsDeleted) (gone : final.tables.IsDeleted) :
    ∃ deletion ∈ trace, deletion.answer = .deleted true := by
  induction run with
  | refl => exact absurd gone alive
  | step earlier met made ih =>
      rcases deleted_by_deletion (scan_step_cases made) gone with
        before | answered
      · obtain ⟨deletion, member, answered⟩ := ih before
        exact ⟨deletion, List.mem_append_left _ member, answered⟩
      · exact ⟨_, List.mem_append_right _ List.mem_cons_self, answered⟩

theorem unprovisioned_alive : ¬unprovisioned.tables.IsDeleted := by
  rintro ⟨row, present, _⟩
  cases present

/-- A scan with a final deletion makes every change before it. -/
theorem DecidedOnce.before_deletion (decided : DecidedOnce trace)
    (run : (scanMachine scan).Run Machine.unguarded unprovisioned trace final)
    {moment : Moment ScanState ScanLabel Answer} (member : moment ∈ trace) :
    BeforeDeletion moment.before moment.label := by
  by_contra late
  obtain ⟨earlier, later, rfl⟩ := List.append_of_mem member
  obtain ⟨reached, -, made, -⟩ := run.around
  have consistent := reached.invariant (fun state => Consistent state.tables)
    unprovisioned_consistent
    fun _ _ _ _ consistent _ made => consistent.step (scan_step_cases made)
  obtain ⟨gone, changed⟩ := kept_changed consistent made late
  obtain ⟨deletion, inEarlier, answered⟩ :=
    exists_deletion reached unprovisioned_alive gone
  obtain ⟨front, between, rfl⟩ := List.append_of_mem inEarlier
  have fixed := decided.final front deletion (between ++ moment :: later)
    (by simp) answered
  have after := fixed moment (by simp)
  rcases reached.around.2.2.2.final_mem with same | ⟨last, inBetween, same⟩
  · exact changed (same ▸ after)
  · have before := fixed last (List.mem_append_left _ inBetween)
    exact changed (same ▸ after.trans before.symm)

/-- A scan is decided once and its deletion is final, exactly if its platform
was bound and its result committed before it was deleted. -/
theorem decided_once_iff_before_deletion {scan : SelfScan}
    {trace : List (Moment ScanState ScanLabel Answer)} {final : ScanState}
    (run : (scanMachine scan).Run Machine.unguarded unprovisioned trace
      final) :
    DecidedOnce trace ↔
      ∀ moment ∈ trace, BeforeDeletion moment.before moment.label := by
  constructor
  case mp => exact fun decided moment member => decided.before_deletion run member
  case mpr =>
    intro before
    constructor
    case submission =>
      intro moment member
      exact (run.after_moment (fun state => Consistent state.tables)
        unprovisioned_consistent
        (fun _ _ _ _ consistent _ made =>
          consistent.step (scan_step_cases made)) member).submission
    case result =>
      intro moment member result recorded
      obtain ⟨earlier, later, rfl⟩ := List.append_of_mem member
      exact result_stays (scan_step_cases run.around.2.2.1) recorded
    case final =>
      rintro earlier deletion later rfl answered moment member
      obtain ⟨-, -, made, rest⟩ := (run.strengthen before).around
      exact (rest.after_moment
        (fun state => state.tables.IsDeleted ∧
          state.tables.kept = deletion.after.tables.kept)
        ⟨isDeleted_of_answer (scan_step_cases made) answered, rfl⟩
        (fun _ _ _ _ holds allowed made =>
          ⟨deleted_stays (scan_step_cases made) holds.1,
            (kept_stays (scan_step_cases made) holds.1 allowed).trans
              holds.2⟩) member).2

/-! ## A scan that is deleted at its end, and two that go on after it -/

def exampleScan : SelfScan :=
  { manifests := fun distribution =>
      let assetKey := (RunDistribution.bound distribution).assetKey
      { id := assetKey ++ "/manifest"
        contentSha256 := assetKey ++ "/sha256"
        executionAttemptId := assetKey ++ "/attempt"
        nonce := assetKey ++ "/nonce"
        expiresAt := some 3600
        document := .obj [] } }

def examplePackage : ProcessedPackage :=
  let manifest := exampleScan.manifests .rocky9
  { descriptor :=
      { id := "package"
        manifestId := manifest.id
        executionAttemptId := manifest.executionAttemptId
        nonce := manifest.nonce
        document := .obj [] }
    descriptorSha256 := "descriptor"
    archiveSha256 := "archive"
    submissionProfile := "ONLINE-AUTHENTICATED"
    assuranceLevel := "MEDIUM"
    evidence := []
    resultJson := .obj []
    resultSha256 := "result"
    receivedAt := 120 }

def submittedSteps : List ScanLabel :=
  [.provision false, .issueCode, .exchange (.selected .rocky9 .null),
    .bind false, .load]

/-- The scan is submitted twice, and then deleted. -/
theorem submitted_scan_is_decided_once :
    ∃ trace final,
      (scanMachine exampleScan).Run Machine.unguarded unprovisioned trace
        final ∧
      final.tables.submissions.length = 1 ∧ final.tables.IsDeleted ∧
      DecidedOnce trace := by
  have carried : ((scanMachine exampleScan).replay BeforeDeletion unprovisioned
      (submittedSteps ++ [.load, .validate 0 examplePackage true,
        .validate 1 examplePackage true, .commit 0 false, .commit 0 false,
        .delete 200 false])).map (fun (_, final) =>
          (final.tables.submissions.length,
            decide final.tables.IsDeleted)) = some (1, true) := by
    decide
  obtain ⟨trace, final, run, seen⟩ := Machine.exists_run_of_replay carried
  obtain ⟨submissions, gone⟩ := Prod.mk.inj seen
  have free : (scanMachine exampleScan).Run Machine.unguarded unprovisioned
      trace final := run.weaken fun _ _ _ => trivial
  refine ⟨trace, final, free, submissions, of_decide_eq_true gone, ?_⟩
  apply (decided_once_iff_before_deletion free).mpr
  intro moment member
  exact (run.before_moment (fun _ => True) trivial
    (fun _ _ _ _ _ _ _ => trivial) member).2.1

/-- A deletion after which the kept data is another than at its end is not
final. -/
theorem not_decided_of_changed {guard : ScanState → ScanLabel → Prop}
    {start : ScanState} (run : (scanMachine scan).Run guard start trace final)
    (changed : ∃ deletion ∈ trace, deletion.answer = .deleted true ∧
      deletion.after.tables.kept ≠ final.tables.kept) :
    ¬DecidedOnce trace := by
  intro decided
  obtain ⟨deletion, member, answered, different⟩ := changed
  obtain ⟨earlier, later, rfl⟩ := List.append_of_mem member
  have fixed := decided.final earlier deletion later rfl answered
  rcases run.around.2.2.2.final_mem with same | ⟨last, inLater, same⟩
  · exact different (congrArg (fun state => state.tables.kept) same.symm)
  · have kept := fixed last inLater
    rw [same] at kept
    exact different kept.symm

/-- A code that is exchanged after the deletion binds the deleted run, and a
package whose run was loaded before the deletion is committed after it. -/
theorem deleted_scan_goes_on :
    (∃ trace final,
      (scanMachine exampleScan).Run Machine.unguarded unprovisioned trace
        final ∧
      final.tables.IsDeleted ∧ ¬DecidedOnce trace) ∧
    ∃ trace final,
      (scanMachine exampleScan).Run Machine.unguarded unprovisioned trace
        final ∧
      final.tables.submissions.length = 1 ∧ ¬DecidedOnce trace := by
  constructor
  case left =>
    have carried : ((scanMachine exampleScan).replay Machine.unguarded
        unprovisioned [.provision false, .issueCode, .delete 60 false,
          .exchange (.selected .rocky9 .null), .bind false]).map
        (fun (trace, final) => (decide final.tables.IsDeleted,
          decide (∃ deletion ∈ trace, deletion.answer = .deleted true ∧
            deletion.after.tables.kept ≠ final.tables.kept))) =
        some (true, true) := by
      decide
    obtain ⟨trace, final, run, seen⟩ := Machine.exists_run_of_replay carried
    obtain ⟨gone, changed⟩ := Prod.mk.inj seen
    exact ⟨trace, final, run, of_decide_eq_true gone,
      not_decided_of_changed run (of_decide_eq_true changed)⟩
  case right =>
    have carried : ((scanMachine exampleScan).replay Machine.unguarded
        unprovisioned (submittedSteps ++ [.delete 60 false,
          .validate 0 examplePackage true, .commit 0 false])).map
        (fun (trace, final) => (final.tables.submissions.length,
          decide (∃ deletion ∈ trace, deletion.answer = .deleted true ∧
            deletion.after.tables.kept ≠ final.tables.kept))) =
        some (1, true) := by
      decide
    obtain ⟨trace, final, run, seen⟩ := Machine.exists_run_of_replay carried
    obtain ⟨submissions, changed⟩ := Prod.mk.inj seen
    exact ⟨trace, final, run, submissions,
      not_decided_of_changed run (of_decide_eq_true changed)⟩

end SecAI.OneShot
