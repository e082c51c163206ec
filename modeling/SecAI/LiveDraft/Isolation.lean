/-
Module: SecAI.LiveDraft.Isolation
Purpose: An observation has no part in the results of the controls that its
  probe does not feed, unless its evidence cannot be prepared.
Trusted boundary: as in the contracts of the live draft
Main exports:
  DifferAt, resultOf, IsComplete, one_probe_affects_one_control_iff
-/
import SecAI.LiveDraft.Evaluation
import SecAI.LiveDraft.Preparable

namespace SecAI.LiveDraft

open SecAI.Collector (ProbeObservation)
open SecAI.Criteria (CriteriaContext)
open SecAI.Text

/-- The result of a control, if nothing was raised. -/
def resultOf (run : Except LiveRaised (List (String × LiveResult)))
    (controlId : String) : Option LiveResult :=
  match run with
  | .ok results => results.lookup controlId
  | .error _ => none

/-- There is one result for each of the controls. -/
def IsComplete (run : Except LiveRaised (List (String × LiveResult))) : Prop :=
  ∃ results, run = .ok results ∧ results.map Prod.fst = controlIds

/-- The observations are the same, but for those of a probe. -/
def DifferAt (probe : String) (first second : List ProbeObservation) : Prop :=
  List.Forall₂ (fun before after => after.probeId = before.probeId ∧
    (before.probeId ≠ probe → after = before)) first second

/-! ## Every control is decided -/

section Controls

variable {env : LiveEnvironment} {pack : AuditPack}
  {observations : List ProbeObservation} {criteria : Option CriteriaContext}
  {controlId : String}

theorem returns_additionalResult {context : CriteriaContext}
    (formed : context.IsWellFormed env.criteria) {key : String}
    (known : key ∈ Criteria.Collector.valueKeys)
    {status actual expected explanation : String} :
    Returns (additionalResult context key status actual expected
      explanation) := by
  obtain ⟨-, named⟩ := Criteria.hasExactKeys_iff.mp formed.sourceKeys
  obtain ⟨entry, member, same⟩ := List.mem_map.mp (named key known)
  rw [additionalResult]
  split
  · exact returns_ok _
  · next nowhere =>
      have differs := List.find?_eq_none.mp nowhere entry member
      exact absurd (decide_eq_true same) differs

theorem returns_additionalCriteriaDecision {context : CriteriaContext}
    (formed : context.IsWellFormed env.criteria)
    {observation : ProbeObservation} :
    Returns (additionalCriteriaDecision env controlId observation
      context) := by
  rw [additionalCriteriaDecision]
  split
  · exact returns_ok _
  split
  · next key isKey =>
    split
    · refine returns_map.mpr (returns_additionalResult formed ?_)
      have known : ∀ entry ∈ criteriaKeys,
          entry.2 ∈ Criteria.Collector.valueKeys := by decide
      obtain ⟨_, _, whole, -⟩ := List.lookup_eq_some_iff.mp isKey
      exact known (controlId, key) (by rw [whole]; simp)
    · exact returns_ok _
  split
  · exact returns_ok _
  split
  · exact returns_ok _
  · exact returns_ok _

theorem returns_additionalOf
    (formed : ∀ context ∈ criteria, context.IsWellFormed env.criteria)
    {isCompared : Bool} {observation : ProbeObservation} :
    Returns (additionalOf env isCompared criteria controlId observation) := by
  rw [additionalOf.eq_def]
  split
  · exact returns_additionalCriteriaDecision (formed _ rfl)
  · exact returns_ok _

/-- A control with evidence has an observation. -/
theorem controlObservation_of_evidence
    {rows : List (List Json)}
    (prepared : probeToControl.mapM (rowsOf env observations) = .ok rows)
    (filled : evidenceOf rows.flatten controlId ≠ []) :
    (controlObservation observations controlId).isSome = true := by
  obtain ⟨row, member⟩ := List.exists_mem_of_ne_nil _ filled
  obtain ⟨inRows, isOwn⟩ := List.mem_filter.mp member
  obtain ⟨group, inGroups, inGroup⟩ := List.mem_flatten.mp inRows
  obtain ⟨entry, inTable, made⟩ := Outcome.mapM_mem prepared group inGroups
  have ofEntry := control_of_row made row inGroup
  rw [of_decide_eq_true isOwn, Option.some.injEq, Json.str.injEq] at ofEntry
  rw [rowsOf] at made
  split at made
  case h_2 =>
    cases made
    cases inGroup
  case h_1 observation found =>
    obtain ⟨isObserved, same⟩ := probeId_of_observationOf found
    rw [controlObservation, List.find?_isSome]
    refine ⟨observation, List.mem_reverse.mpr isObserved, decide_eq_true ?_⟩
    rw [same, lookup_of_mem inTable, ofEntry]

theorem returns_evaluateControl
    (formed : ∀ context ∈ criteria, context.IsWellFormed env.criteria)
    {rows : List (List Json)}
    (prepared : probeToControl.mapM (rowsOf env observations) = .ok rows) :
    Returns (evaluateControl env pack observations criteria rows.flatten
      controlId) := by
  rw [evaluateControl]
  split
  · exact returns_ok _
  · next filled =>
      have observed := controlObservation_of_evidence prepared filled
      obtain ⟨observation, found⟩ := Option.isSome_iff_exists.mp observed
      rw [found]
      obtain ⟨additional, isCompared⟩ := returns_additionalOf formed
      exact returns_bind.mpr ⟨additional, isCompared, returns_ok _⟩

end Controls

/-! ## Observations of one probe -/

section Isolated

variable {env : LiveEnvironment} {pack : AuditPack}
  {first second : List ProbeObservation} {probe controlId : String}

theorem DifferAt.probeIds (alike : DifferAt probe first second) :
    second.map ProbeObservation.probeId =
      first.map ProbeObservation.probeId := by
  induction alike with
  | nil => rfl
  | cons head _ ih =>
      rw [List.map_cons, List.map_cons, ih, head.1]

theorem DifferAt.areProbed (alike : DifferAt probe first second)
    (probed : AreProbed first) : AreProbed second := by
  constructor
  case distinct =>
    rw [alike.probeIds]
    exact probed.distinct
  case known =>
    intro observation member
    have isProbe := List.mem_map_of_mem (f := ProbeObservation.probeId) member
    rw [alike.probeIds] at isProbe
    obtain ⟨other, isOther, same⟩ := List.mem_map.mp isProbe
    rw [← same]
    exact probed.known other isOther

theorem DifferAt.find? (test : String → Bool) (other : test probe = false)
    (alike : DifferAt probe first second) :
    second.find? (fun observation => test observation.probeId) =
      first.find? (fun observation => test observation.probeId) := by
  induction alike with
  | nil => rfl
  | @cons before after _ _ head _ ih =>
      rw [List.find?_cons, List.find?_cons, head.1, ih]
      split
      · next tested =>
          rw [head.2]
          rintro rfl
          rw [other] at tested
          cases tested
      · rfl

theorem DifferAt.rowsOf (alike : DifferAt probe first second)
    {entry : String × String} (other : entry.1 ≠ probe) :
    LiveDraft.rowsOf env second entry = LiveDraft.rowsOf env first entry := by
  have same : observationOf second entry.1 = observationOf first entry.1 :=
    alike.find? (fun probeId => decide (probeId = entry.1))
      (decide_eq_false other.symm)
  rw [LiveDraft.rowsOf, same]
  rfl

/-- The evidence of a control that the probe does not feed is the same. -/
theorem evidenceOf_isolated :
    ∀ {entries : List (String × String)} {rows others : List (List Json)},
      (∀ entry ∈ entries, entry.2 = controlId →
        rowsOf env second entry = rowsOf env first entry) →
      entries.mapM (rowsOf env first) = .ok rows →
      entries.mapM (rowsOf env second) = .ok others →
      evidenceOf others.flatten controlId = evidenceOf rows.flatten controlId
  | [], rows, others, _, prepared, preparedAgain => by
      cases prepared
      cases preparedAgain
      rfl
  | entry :: entries, rows, others, same, prepared, preparedAgain => by
      obtain _ | ⟨head, tail⟩ := Outcome.mapM_eq_ok.mp prepared
      obtain _ | ⟨headAgain, tailAgain⟩ := Outcome.mapM_eq_ok.mp preparedAgain
      have later := evidenceOf_isolated
        (fun other member => same other (List.mem_cons_of_mem _ member))
        (Outcome.mapM_eq_ok.mpr tail)
        (Outcome.mapM_eq_ok.mpr tailAgain)
      rw [evidenceOf] at later ⊢
      rw [evidenceOf] at later ⊢
      rw [List.flatten_cons, List.flatten_cons, List.filter_append,
        List.filter_append, later]
      congr 1
      by_cases isOwn : entry.2 = controlId
      case pos =>
        rw [same entry List.mem_cons_self isOwn, head] at headAgain
        cases headAgain
        rfl
      case neg =>
        have notOwn : ∀ {observations : List ProbeObservation}
            {group : List Json}, rowsOf env observations entry = .ok group →
            group.filter (fun item => decide
              (item.member "control_id" = some (.str controlId))) = [] := by
          intro observations group made
          refine List.filter_eq_nil_iff.mpr fun row member => ?_
          rw [control_of_row made row member, decide_eq_true_eq]
          exact fun equal => isOwn (Json.str.inj (Option.some.inj equal))
        rw [notOwn head, notOwn headAgain]

/-- The decision on a control that the probe does not feed is the same. -/
theorem evaluateControl_isolated (alike : DifferAt probe first second)
    (other : controlId ≠ controlOf probe) {criteria : Option CriteriaContext}
    {rows others : List (List Json)}
    (prepared : probeToControl.mapM (rowsOf env first) = .ok rows)
    (preparedAgain : probeToControl.mapM (rowsOf env second) = .ok others) :
    evaluateControl env pack second criteria others.flatten controlId =
      evaluateControl env pack first criteria rows.flatten controlId := by
  have sameRows : ∀ entry ∈ probeToControl, entry.2 = controlId →
      LiveDraft.rowsOf env second entry = LiveDraft.rowsOf env first entry := by
    intro entry inTable isOwn
    refine alike.rowsOf fun fed => other ?_
    rw [← isOwn, ← controlOf_of_mem inTable, fed]
  have notFed : decide (probeToControl.lookup probe = some controlId) =
      false := by
    refine decide_eq_false fun fed => other ?_
    rw [controlOf, fed]
    rfl
  have sameObservation : controlObservation second controlId =
      controlObservation first controlId :=
    DifferAt.find? (fun probeId =>
      decide (probeToControl.lookup probeId = some controlId)) notFed
      (List.forall₂_reverse_iff.mpr alike)
  rw [evaluateControl, evaluateControl, sameObservation, alike.probeIds,
    evidenceOf_isolated sameRows prepared preparedAgain]

end Isolated

/-! ## The whole evaluation -/

section Evaluations

variable {env : LiveEnvironment} {pack : AuditPack}
  {observations first second : List ProbeObservation} {probe : String}
  {criteriaContext : Option Decoded} {criteria : Option CriteriaContext}

theorem isWellFormed_of_validated
    (valid : validatedCriteria env criteriaContext = .ok criteria) :
    ∀ context ∈ criteria, context.IsWellFormed env.criteria := by
  intro context isContext
  cases isContext
  rw [validatedCriteria.eq_def] at valid
  split at valid
  · next document =>
      cases validated : Criteria.Collector.validateCriteriaExecutionContext
          env.criteria document with
      | error fault =>
          rw [validated] at valid
          cases valid
      | ok other =>
          rw [validated] at valid
          cases valid
          exact Criteria.isWellFormed_of_validate validated
  · cases valid

/-- What the loop over the controls gives for each of them. -/
theorem lookup_of_evaluated {evaluate : String → Except LiveFault LiveResult} :
    ∀ {controls : List String} {results : List (String × LiveResult)},
      (controls.mapM fun controlId => do
        let result ← evaluate controlId
        return (controlId, result)) = .ok results →
      results.map Prod.fst = controls ∧ ∀ controlId,
        results.lookup controlId =
          if controlId ∈ controls then (evaluate controlId).toOption else none
  | [], results, done => by
      cases done
      exact ⟨rfl, fun _ => rfl⟩
  | control :: controls, results, done => by
      obtain _ | ⟨head, tail⟩ := Outcome.mapM_eq_ok.mp done
      obtain ⟨result, isResult, same⟩ := Outcome.bind_eq_ok.mp head
      cases same
      obtain ⟨names, later⟩ := lookup_of_evaluated
        (Outcome.mapM_eq_ok.mpr tail)
      refine ⟨by rw [List.map_cons, names], fun controlId => ?_⟩
      rw [List.lookup_cons, later]
      by_cases isHead : controlId = control
      case pos =>
        subst isHead
        simp [isResult, Except.toOption]
      case neg => simp [isHead, beq_eq_false_iff_ne.mpr isHead]

theorem evaluate_of_prepared (filled : observations ≠ [])
    (valid : validatedCriteria env criteriaContext = .ok criteria)
    {prepared : List Json}
    (isPrepared : prepareEvidence env observations = .ok prepared) :
    evaluateLiveDraftObservations env pack observations criteriaContext =
      (controlIds.mapM fun controlId => do
        let result ← evaluateControl env pack observations criteria prepared
          controlId
        return (controlId, result)).mapError LiveRaised.fault := by
  rw [evaluateLiveDraftObservations, if_neg filled, valid]
  change (evaluateControls env pack observations criteria).mapError _ = _
  rw [evaluateControls, isPrepared]
  rfl

theorem prepared_of_preparable (probed : AreProbed observations)
    (preparable : ArePreparable env observations) :
    ∃ rows, probeToControl.mapM (rowsOf env observations) = .ok rows ∧
      prepareEvidence env observations = .ok rows.flatten := by
  have returns := (prepareEvidence_returns_iff probed).mpr preparable
  rw [prepareEvidence_of_probed probed, returns_map] at returns
  obtain ⟨rows, isRows⟩ := returns
  refine ⟨rows, isRows, ?_⟩
  rw [prepareEvidence_of_probed probed, isRows]
  rfl

/-- The results of an evaluation whose evidence can be prepared. -/
theorem results_of_preparable (filled : observations ≠ [])
    (probed : AreProbed observations)
    (valid : validatedCriteria env criteriaContext = .ok criteria)
    (preparable : ArePreparable env observations) :
    ∃ rows results,
      probeToControl.mapM (rowsOf env observations) = .ok rows ∧
      evaluateLiveDraftObservations env pack observations criteriaContext =
        .ok results ∧ results.map Prod.fst = controlIds ∧
      ∀ controlId, results.lookup controlId =
        if controlId ∈ controlIds then
          (evaluateControl env pack observations criteria rows.flatten
            controlId).toOption
        else none := by
  obtain ⟨rows, isRows, isPrepared⟩ := prepared_of_preparable probed preparable
  have returns : Returns (controlIds.mapM fun controlId => do
      let result ← evaluateControl env pack observations criteria rows.flatten
        controlId
      return (controlId, result)) := by
    refine returns_mapM.mpr fun controlId _ => ?_
    obtain ⟨result, isResult⟩ := @returns_evaluateControl env pack _ _
      controlId (isWellFormed_of_validated valid) _ isRows
    exact returns_bind.mpr ⟨result, isResult, returns_ok _⟩
  obtain ⟨results, evaluated⟩ := returns
  obtain ⟨names, looked⟩ := lookup_of_evaluated evaluated
  refine ⟨rows, results, isRows, ?_, names, looked⟩
  rw [evaluate_of_prepared filled valid isPrepared, evaluated]
  rfl

theorem arePreparable_of_evaluated (filled : observations ≠ [])
    (probed : AreProbed observations)
    (valid : validatedCriteria env criteriaContext = .ok criteria)
    {results : List (String × LiveResult)}
    (evaluated : evaluateLiveDraftObservations env pack observations
      criteriaContext = .ok results) : ArePreparable env observations := by
  refine (prepareEvidence_returns_iff probed).mp ?_
  rw [evaluateLiveDraftObservations, if_neg filled, valid] at evaluated
  obtain ⟨prepared, isPrepared, -⟩ := Outcome.bind_eq_ok.mp
    (mapError_eq_ok.mp evaluated)
  exact ⟨prepared, isPrepared⟩

/-- An evaluation gives one result for each control exactly if the evidence of
each observation can be prepared. -/
theorem isComplete_iff (filled : observations ≠ [])
    (probed : AreProbed observations)
    (valid : validatedCriteria env criteriaContext = .ok criteria) :
    IsComplete (evaluateLiveDraftObservations env pack observations
        criteriaContext) ↔ ArePreparable env observations := by
  constructor
  case mp =>
    rintro ⟨results, evaluated, -⟩
    exact arePreparable_of_evaluated filled probed valid evaluated
  case mpr =>
    intro preparable
    obtain ⟨-, results, -, evaluated, names, -⟩ :=
      @results_of_preparable env pack _ _ _ filled probed valid preparable
    exact ⟨results, evaluated, names⟩

/-- One probe affects one control, if and only if the evidence of each
observation can be prepared: the evaluation of known probes returns one result
for each of the 18 controls, and observations that differ in one probe have the
same results but for the control that it feeds. -/
theorem one_probe_affects_one_control_iff (env : LiveEnvironment)
    (pack : AuditPack) (criteriaContext : Option Decoded)
    (valid : ∃ criteria, validatedCriteria env criteriaContext = .ok criteria)
    (first second : List ProbeObservation) (probe : String)
    (filled : first ≠ []) (probed : AreProbed first)
    (alike : DifferAt probe first second) :
    (IsComplete (evaluateLiveDraftObservations env pack first
          criteriaContext) ∧
        ∀ controlId, controlId ≠ controlOf probe →
          resultOf (evaluateLiveDraftObservations env pack second
              criteriaContext) controlId =
            resultOf (evaluateLiveDraftObservations env pack first
              criteriaContext) controlId) ↔
      ArePreparable env first ∧ ArePreparable env second := by
  obtain ⟨criteria, isValid⟩ := valid
  have filledAgain : second ≠ [] := by
    rintro rfl
    cases alike
    exact filled rfl
  have probedAgain := alike.areProbed probed
  rw [isComplete_iff filled probed isValid]
  refine and_congr_right fun preparable => ?_
  obtain ⟨rows, results, isRows, evaluated, names, looked⟩ :=
    @results_of_preparable env pack _ _ _ filled probed isValid preparable
  constructor
  case mp =>
    intro isolated
    -- A control that the probe does not feed has a result, so the other
    -- evaluation has one too.
    obtain ⟨control, isControl, other⟩ : ∃ control ∈ controlIds,
        control ≠ controlOf probe := by
      by_cases one : controlOf probe = "PC-01"
      · exact ⟨"PC-02", by decide, by rw [one]; decide⟩
      · exact ⟨"PC-01", by decide, Ne.symm one⟩
    have same := isolated control other
    cases again : evaluateLiveDraftObservations env pack second
        criteriaContext with
    | error fault =>
        obtain ⟨result, isResult⟩ := @returns_evaluateControl env pack _ _
          control (isWellFormed_of_validated isValid) _ isRows
        rw [again, evaluated, resultOf, resultOf, looked, if_pos isControl,
          isResult] at same
        cases same
    | ok others =>
        exact arePreparable_of_evaluated filledAgain probedAgain isValid again
  case mpr =>
    intro preparableAgain controlId other
    obtain ⟨rowsAgain, resultsAgain, isRowsAgain, evaluatedAgain, -,
      lookedAgain⟩ := @results_of_preparable env pack _ _ _
        filledAgain probedAgain isValid preparableAgain
    rw [evaluated, evaluatedAgain, resultOf, resultOf, looked, lookedAgain,
      evaluateControl_isolated alike other isRows isRowsAgain]

end Evaluations

/-! ## An odd record -/

def lifecycleObservation (status errorCode : String) (records : List Json) :
    ProbeObservation :=
  sampleObservation "win.os.lifecycle" status errorCode records

def lifecycleRecord : Json :=
  .obj [("product_name", .str "Windows 11"), ("edition_group", .str "PRO"),
    ("display_version", .str "24H2"), ("os_build", .int 26100),
    ("ubr", .int 1), ("architecture", .str "AMD64")]

/-- The observations of a screen saver that failed, and of a lifecycle. -/
def lifecycleObservations (status errorCode : String) (records : List Json) :
    List ProbeObservation :=
  [sampleObservation "win.user.screensaver-policy" "ERROR" "QUERY_FAILED" [],
    lifecycleObservation status errorCode records]

theorem lifecycle_areProbed (status errorCode : String) (records : List Json) :
    AreProbed (lifecycleObservations status errorCode records) where
  distinct := by
    change ["win.user.screensaver-policy", "win.os.lifecycle"].Nodup
    decide
  known := by
    refine List.forall_mem_cons.mpr ⟨?_, List.forall_mem_singleton.mpr ?_⟩
    · change "win.user.screensaver-policy" ∈ _
      decide
    · change "win.os.lifecycle" ∈ _
      decide

theorem lifecycle_control (status errorCode : String) (records : List Json) :
    controlOf (lifecycleObservation status errorCode records).probeId =
      "PC-11" := by
  change controlOf "win.os.lifecycle" = _
  decide

theorem sampleScreenSaver_isPreparable :
    IsPreparable sampleLiveEnvironment "PC-16"
      (sampleObservation "win.user.screensaver-policy" "ERROR" "QUERY_FAILED"
        []) :=
  ⟨nofun, fun _ => rfl, fun _ collected => absurd collected.1 (by decide)⟩

/-- An operating system that was not read, and one that was, have the same
results for the other controls. -/
theorem read_lifecycle_affects_one_control :
    IsComplete (evaluateLiveDraftObservations sampleLiveEnvironment emptyPack
        (lifecycleObservations "ERROR" "QUERY_FAILED" [])
        (some (sampleContext 10).document)) ∧
      ∀ controlId, controlId ≠ controlOf "win.os.lifecycle" →
        resultOf (evaluateLiveDraftObservations sampleLiveEnvironment emptyPack
            (lifecycleObservations "COLLECTED" "NONE" [lifecycleRecord])
            (some (sampleContext 10).document)) controlId =
          resultOf (evaluateLiveDraftObservations sampleLiveEnvironment
            emptyPack (lifecycleObservations "ERROR" "QUERY_FAILED" [])
            (some (sampleContext 10).document)) controlId := by
  have valid : validatedCriteria sampleLiveEnvironment
      (some (sampleContext 10).document) = .ok (some (sampleContext 10)) :=
    congrArg (some <$> ·) (sampleContext_isValid (by decide))
  refine (one_probe_affects_one_control_iff sampleLiveEnvironment emptyPack _
    ⟨_, valid⟩ _ _ "win.os.lifecycle" (List.cons_ne_nil _ _)
    (lifecycle_areProbed _ _ _) ?_).mpr ⟨?_, ?_⟩
  · exact .cons ⟨rfl, fun _ => rfl⟩ (.cons ⟨rfl, fun other =>
      (other rfl).elim⟩ .nil)
  · refine List.forall_mem_cons.mpr ⟨sampleScreenSaver_isPreparable,
      List.forall_mem_singleton.mpr ?_⟩
    rw [lifecycle_control]
    exact ⟨nofun, nofun, fun _ collected =>
      absurd collected.1 (by decide)⟩
  · refine List.forall_mem_cons.mpr ⟨sampleScreenSaver_isPreparable,
      List.forall_mem_singleton.mpr ?_⟩
    rw [lifecycle_control]
    refine ⟨nofun, nofun, fun _ _ => ?_⟩
    refine ⟨lifecycleRecord, rfl, ?_, trivial, 26100, rfl⟩
    unfold HasFields
    decide

/-- An operating system without a name stops the evaluation of all controls. -/
theorem odd_lifecycle_stops_all :
    AreProbed (lifecycleObservations "COLLECTED" "NONE" [.obj []]) ∧
      ∀ results, evaluateLiveDraftObservations sampleLiveEnvironment emptyPack
        (lifecycleObservations "COLLECTED" "NONE" [.obj []])
        (some (sampleContext 10).document) ≠ .ok results := by
  refine ⟨lifecycle_areProbed _ _ _, fun results evaluated => ?_⟩
  have valid : validatedCriteria sampleLiveEnvironment
      (some (sampleContext 10).document) = .ok (some (sampleContext 10)) :=
    congrArg (some <$> ·) (sampleContext_isValid (by decide))
  have preparable := arePreparable_of_evaluated (List.cons_ne_nil _ _)
    (lifecycle_areProbed _ _ _) valid evaluated
  obtain ⟨-, -, standard⟩ := preparable _
    (List.mem_cons_of_mem _ (List.mem_singleton_self _))
  obtain ⟨record, isRecord, fields, -⟩ := standard
    (by rw [lifecycle_control]; decide) ⟨rfl, List.cons_ne_nil _ _⟩
  cases isRecord
  exact absurd (fields "product_name" (by decide)) (by decide)

end SecAI.LiveDraft
