/-
Module: SecAI.LiveDraft.Verdicts
Purpose: Which verdicts of the evaluation rest on evidence that was collected:
  all but those of the comparisons with the selected criteria.
Trusted boundary: as in the contracts of the live draft
Main exports:
  IsEvidenced, administrator_reports, packDecision_reports
-/
import SecAI.LiveDraft.Compared
import SecAI.LiveDraft.Isolation

namespace SecAI.LiveDraft

open SecAI.Collector (ProbeObservation)
open SecAI.Criteria (CriteriaContext CriteriaValues)
open SecAI.Text

/-! ## Reports -/

def reportedStatuses : List String := ["PASS", "FAIL", "N/A", "ERROR", "REVIEW"]

/-- The decision has a status, and if it is a verdict, then for a reason. -/
def Reports (reason : Prop) (decision : LiveDecision) : Prop :=
  decision.status ∈ reportedStatuses ∧ (HasVerdict decision.status → reason)

section Reports

variable {reason weaker : Prop} {decision : LiveDecision}

theorem Reports.imp (reports : Reports reason decision)
    (implies : reason → weaker) : Reports weaker decision :=
  ⟨reports.1, implies ∘ reports.2⟩

theorem reports_of_error (isError : decision.status = "ERROR") :
    Reports reason decision := by
  constructor
  · rw [isError]
    decide
  · rw [isError]
    exact fun has => absurd has (by decide)

theorem reports_of_review (isReview : decision.status = "REVIEW") :
    Reports reason decision := by
  constructor
  · rw [isReview]
    decide
  · rw [isReview]
    exact fun has => absurd has (by decide)

theorem reports_of_verdictText {passed : Bool} (holds : reason)
    (isVerdict : decision.status = verdictText passed) :
    Reports reason decision := by
  refine ⟨?_, fun _ => holds⟩
  rw [isVerdict]
  cases passed <;> decide

theorem Reports.cases (reports : Reports reason decision) :
    reason ∨ decision.status ∈ ["ERROR", "REVIEW"] := by
  by_cases has : HasVerdict decision.status
  case pos => exact .inl (reports.2 has)
  case neg =>
    refine .inr ?_
    have known := reports.1
    simp only [HasVerdict, reportedStatuses, List.mem_cons] at has known ⊢
    tauto

end Reports

/-! ## Comparisons -/

section Comparisons

variable {env : LiveEnvironment} {values : CriteriaValues}
  {observation : ProbeObservation} {decision : LiveDecision}
  {controlId : String}

theorem records_of_summary {summary : Json}
    (read : summaryRecord observation = .ok summary) :
    observation.records ≠ [] := by
  intro empty
  rw [summaryRecord, recordsOfType, empty] at read
  cases read

theorem records_of_first {record : Json}
    (read : firstRecord observation = .ok record) :
    observation.records ≠ [] := by
  rw [firstRecord_eq_ok.mp read]
  exact List.cons_ne_nil _ _

/-- A comparison of an administrator's evidence reads a record. -/
theorem selected_reports_records
    (administrator : controlId ∈ administratorControlIds)
    (made : selectedCriteriaDecision env controlId values observation =
      .ok (some decision)) :
    Reports (observation.records ≠ []) decision := by
  simp only [administratorControlIds, List.mem_cons, List.not_mem_nil,
    or_false] at administrator
  rcases administrator with rfl | rfl | rfl | rfl | rfl
  · obtain ⟨reading, criteria, read, -, status⟩ :=
      passwordDecision_status (some_map_eq_ok.mp made)
    simp only [readPasswords, Outcome.bind_eq_ok] at read
    obtain ⟨record, isFirst, -⟩ := read
    exact reports_of_verdictText (records_of_first isFirst) status
  · obtain ⟨reading, approved, hashes, read, -, -, status⟩ :=
      shareDecision_status (some_map_eq_ok.mp made)
    simp only [readShares, Outcome.bind_eq_ok] at read
    obtain ⟨summary, isSummary, -⟩ := read
    exact reports_of_verdictText (records_of_summary isSummary) status
  · obtain ⟨reading, approved, read, -, unsure | status⟩ :=
      messengerDecision_status (some_map_eq_ok.mp made)
    · exact reports_of_error unsure.2
    · simp only [readMessengers, Outcome.bind_eq_ok] at read
      obtain ⟨summary, isSummary, -⟩ := read
      exact reports_of_verdictText (records_of_summary isSummary) status
  · cases made
  · obtain ⟨reading, maximum, read, -, outcome⟩ :=
      updateDecision_status (some_map_eq_ok.mp made)
    simp only [readUpdates, Outcome.bind_eq_ok] at read
    obtain ⟨record, isFirst, -⟩ := read
    rcases outcome with ⟨-, status⟩ | ⟨-, _, _, -, -, status⟩
    · exact @reports_of_verdictText _ _ false (records_of_first isFirst) status
    · exact reports_of_verdictText (records_of_first isFirst) status

theorem bootDecision_reports
    (made : bootDecision env observation = .ok decision) :
    Reports (observation.records ≠ []) decision := by
  simp only [bootDecision, Outcome.bind_eq_ok] at made
  obtain ⟨reading, read, made⟩ := made
  simp only [readBoot, Outcome.bind_eq_ok] at read
  obtain ⟨summary, isSummary, -⟩ := read
  refine ⟨?_, fun _ => records_of_summary isSummary⟩
  have known : (if reading.count = 1 then "PASS" else
      if reading.count = 0 then "ERROR" else "FAIL") ∈ reportedStatuses := by
    split
    · decide
    · split <;> decide
  split at made <;>
  · obtain ⟨shown, -, same⟩ := Outcome.bind_eq_ok.mp made
    cases same
    exact known

/-- What is decided of an administrator's evidence was collected. -/
theorem administrator_reports {criteria : Option CriteriaContext}
    (made : liveAdministratorDecision env controlId observation criteria =
      some decision) : Reports (IsCollected observation) decision := by
  rw [liveAdministratorDecision] at made
  split at made
  case isTrue => cases made
  case isFalse administrator =>
    rw [not_or, not_not] at administrator
    split at made
    case isTrue =>
      cases made
      exact reports_of_error rfl
    case isFalse collected =>
      rw [not_not] at collected
      have read : ∀ decision, collectedDecision env controlId observation
          criteria = .ok (some decision) →
          Reports (observation.records ≠ []) decision := by
        intro decision made
        rw [collectedDecision.eq_def] at made
        split at made
        case isTrue =>
          cases boot : bootDecision env observation with
          | error fault =>
              rw [boot] at made
              cases made
          | ok other =>
              rw [boot] at made
              cases made
              exact bootDecision_reports boot
        case isFalse =>
          split at made
          · exact selected_reports_records administrator.1 made
          · obtain ⟨summary, -, same⟩ := Outcome.bind_eq_ok.mp made
            cases same
            exact reports_of_review rfl
      cases outcome : collectedDecision env controlId observation criteria with
      | error fault =>
          rw [outcome] at made
          cases made
          exact reports_of_error rfl
      | ok found =>
          rw [outcome] at made
          cases made
          exact (read decision outcome).imp fun filled => ⟨collected, filled⟩

/-- A comparison of the other selected controls has a status that is
reported. -/
theorem selected_status (selected : controlId ∈ selectedControlIds)
    (made : selectedCriteriaDecision env controlId values observation =
      .ok (some decision)) : decision.status ∈ reportedStatuses := by
  have ofVerdict : ∀ {passed : Bool}, decision.status = verdictText passed →
      decision.status ∈ reportedStatuses :=
    fun status => (reports_of_verdictText trivial status).1
  have ofReview : decision.status = "REVIEW" →
      decision.status ∈ reportedStatuses :=
    fun status => (@reports_of_review True _ status).1
  simp only [selectedControlIds, List.mem_cons, List.not_mem_nil,
    or_false] at selected
  rcases selected with rfl | rfl | rfl | rfl | rfl | rfl
  · obtain ⟨_, _, -, -, status⟩ := serviceDecision_status (some_map_eq_ok.mp made)
    exact ofVerdict status
  · obtain ⟨_, _, -, -, ⟨-, status⟩ | ⟨-, ⟨-, status⟩ | ⟨-, status⟩⟩⟩ :=
      wininetDecision_status (some_map_eq_ok.mp made)
    · exact ofReview status
    · rw [status]
      decide
    · exact ofVerdict status
  · obtain ⟨_, _, -, -, ⟨-, status⟩ | ⟨-, _, -, -, status⟩⟩ :=
      antivirusDecision_status (some_map_eq_ok.mp made)
    · exact @ofVerdict false status
    · exact ofVerdict status
  · obtain ⟨_, _, -, -, ⟨-, status⟩ | ⟨-, -, status⟩⟩ :=
      screenSaverDecision_status (some_map_eq_ok.mp made)
    · exact ofReview status
    · exact ofVerdict status
  · obtain ⟨_, _, -, -, ⟨-, status⟩ | ⟨-, status⟩⟩ :=
      autoplayDecision_status (some_map_eq_ok.mp made)
    · exact ofReview status
    · exact ofVerdict status
  · obtain ⟨_, _, -, -, ⟨-, status⟩ | ⟨-, status⟩⟩ :=
      assistanceDecision_status (some_map_eq_ok.mp made)
    · exact ofReview status
    · exact ofVerdict status

/-- What is decided under the selected criteria is what the comparison
reads. -/
theorem scoped_reports {context : CriteriaContext}
    (made : scopedDecision env controlId observation (some context) =
      some decision) :
    Reports (IsCompared env context.values observation controlId)
      decision := by
  rw [scopedDecision] at made
  split at made
  case isTrue selected =>
    cases outcome : selectedCriteriaDecision env controlId context.values
        observation with
    | error fault =>
        rw [outcome] at made
        cases made
        exact reports_of_error rfl
    | ok found =>
        rw [outcome] at made
        cases made
        exact ⟨selected_status selected outcome, fun has =>
          decides_selectedCriteria.mp ⟨⟨decision, outcome, has⟩, selected⟩⟩
  case isFalse => cases made

end Comparisons

/-! ## Decisions of the audit pack -/

section Packs

variable {env : LiveEnvironment} {pack : AuditPack} {rules : ControlRules}
  {controlId : String} {evidence : List Json} {decision : LiveDecision}

/-- A registry decides on a row that was collected. -/
theorem registryDecision_reports {row : Json}
    (made : registryDecision env pack controlId rules row = some decision) :
    Reports (Rules.Registry.WasCollected row) decision := by
  rw [registryDecision] at made
  split at made
  case h_2 => cases made
  case h_1 ruled isRuled =>
    cases made
    obtain ⟨-, reported⟩ := Rules.Registry.evaluate_reported isRuled
    cases reported with
    | uncollected => exact reports_of_error rfl
    | collected taken _ determined =>
        refine ⟨?_, fun _ => taken⟩
        cases determined with
        | passed => exact List.mem_cons_self
        | decided _ isStatus _ =>
            simp only [List.mem_cons, List.not_mem_nil, or_false] at isStatus
            rcases isStatus with rfl | rfl | rfl <;>
              simp [plainDecision, reportedStatuses]
        | failed => simp [plainDecision, reportedStatuses]
        | unreadable => simp [plainDecision, reportedStatuses]

/-- The volumes are decided if each probe has collected a volume. -/
theorem volumeDecision_reports
    (made : volumeDecision env rules evidence = some decision) :
    Reports (∃ subject, Rules.Complete (evidence : Multiset Json) subject)
      decision := by
  rw [volumeDecision] at made
  split at made
  case h_2 => cases made
  case h_1 ruled isRuled =>
    cases made
    by_cases isError : ruled.status = .error
    case pos =>
      refine reports_of_error ?_
      rw [isError]
      rfl
    case neg =>
      constructor
      · change ruled.status.text ∈ reportedStatuses
        cases ruled.status <;> decide
      · intro _
        simp only [Rules.evaluate, Outcome.bind_eq_ok] at isRuled
        obtain ⟨_, -, records, parsed, isRuled⟩ := isRuled
        have read := Rules.parseEvidence_wellRead parsed
        have determined : (Rules.evaluatePc07Applicability records).status ≠
            .undetermined := by
          intro undetermined
          rw [Rules.evaluatePc07Ntfs, if_pos undetermined] at isRuled
          cases isRuled
          exact isError rfl
        obtain ⟨-, complete⟩ :=
          Rules.evaluatePc07Applicability_complete read determined
        have candidates : Rules.candidatesOf records ≠ [] := by
          intro none
          refine determined ?_
          rw [Rules.evaluatePc07Applicability]
          dsimp only
          split
          · rfl
          split
          · rfl
          · rfl
        obtain ⟨subject, isCandidate⟩ := List.exists_mem_of_ne_nil _ candidates
        exact ⟨subject, complete subject
          ((Rules.mem_candidatesOf read).mp isCandidate)⟩

/-- What the audit pack decides on: a row that was collected, or a volume that
each probe has collected. -/
theorem packDecision_reports :
    Reports (if controlId = "PC-07" then
        ∃ subject, Rules.Complete (evidence : Multiset Json) subject
      else ∃ row ∈ evidence, Rules.Registry.WasCollected row)
      (packDecision env pack controlId evidence) := by
  rw [packDecision]
  cases ruled : pack.controls.lookup controlId with
  | none => exact reports_of_error rfl
  | some rules =>
      change Reports _ (Option.getD (if controlId = "PC-07" then _ else _) _)
      split
      case isTrue =>
        cases made : volumeDecision env rules evidence with
        | none => exact reports_of_error rfl
        | some decision => exact volumeDecision_reports made
      case isFalse =>
        cases isRow : evidence.head? with
        | none => exact reports_of_error rfl
        | some row =>
            change Reports _ (Option.getD
              (registryDecision env pack controlId rules row) _)
            cases made : registryDecision env pack controlId rules row with
            | none => exact reports_of_error rfl
            | some decision =>
                exact (registryDecision_reports made).imp fun collected =>
                  ⟨row, List.mem_of_head? isRow, collected⟩

end Packs

/-! ## One control -/

section Controls

variable {env : LiveEnvironment} {pack : AuditPack}
  {observations : List ProbeObservation} {criteria : Option CriteriaContext}
  {controlId : String} {rows : List (List Json)}

/-- Each probe of the control was observed, and it has collected records. -/
def IsEvidenced (observations : List ProbeObservation) (controlId : String) :
    Prop :=
  ∀ entry ∈ probeToControl, entry.2 = controlId →
    ∃ observation ∈ observations, observation.probeId = entry.1 ∧
      IsCollected observation

theorem single_probe : ∀ first ∈ probeToControl, ∀ second ∈ probeToControl,
    first.2 = second.2 → first.2 ≠ "PC-07" → first.1 = second.1 := by
  decide

theorem mem_probeToControl_of_lookup {probeId : String}
    (found : probeToControl.lookup probeId = some controlId) :
    (probeId, controlId) ∈ probeToControl := by
  obtain ⟨front, behind, whole, -⟩ := List.lookup_eq_some_iff.mp found
  rw [whole]
  simp

theorem evidenced_of_collected {observation : ProbeObservation}
    (member : observation ∈ observations)
    (feeds : probeToControl.lookup observation.probeId = some controlId)
    (other : controlId ≠ "PC-07") (collected : IsCollected observation) :
    IsEvidenced observations controlId := by
  intro entry inTable isOwn
  have same := single_probe _ (mem_probeToControl_of_lookup feeds) entry
    inTable isOwn.symm other
  exact ⟨observation, member, same, collected⟩

theorem controlObservation_cases {observation : ProbeObservation}
    (found : controlObservation observations controlId = some observation) :
    observation ∈ observations ∧
      probeToControl.lookup observation.probeId = some controlId := by
  rw [controlObservation] at found
  have feeds := List.find?_some found
  exact ⟨List.mem_reverse.mp (List.mem_of_find?_eq_some found),
    of_decide_eq_true feeds⟩

theorem mem_evidenceOf
    (prepared : probeToControl.mapM (rowsOf env observations) = .ok rows)
    {row : Json} (member : row ∈ evidenceOf rows.flatten controlId) :
    ∃ observation ∈ observations, ∃ subject sourceId normalized,
      (observation.probeId, controlId) ∈ probeToControl ∧
        row = evidenceRow controlId observation subject sourceId
          normalized := by
  obtain ⟨inRows, isOwn⟩ := List.mem_filter.mp member
  obtain ⟨group, inGroups, inGroup⟩ := List.mem_flatten.mp inRows
  obtain ⟨entry, inTable, made⟩ := Outcome.mapM_mem prepared group inGroups
  obtain ⟨observation, subject, sourceId, normalized, found, rfl⟩ :=
    row_of_probe made row inGroup
  obtain ⟨isObserved, same⟩ := probeId_of_observationOf found
  have isControl : entry.2 = controlId := Json.str.inj
    (Option.some.inj (of_decide_eq_true isOwn))
  subst isControl
  exact ⟨observation, isObserved, subject, sourceId, normalized,
    same ▸ inTable, rfl⟩

theorem collected_of_row {observation : ProbeObservation} {subject : Json}
    {sourceId : String} {normalized : Option Json}
    (taken : Rules.Registry.WasCollected (evidenceRow controlId observation
      subject sourceId normalized)) : IsCollected observation := by
  have status : (evidenceRow controlId observation subject sourceId
      normalized).member "collection_status" =
        some (.str (evidenceStatus observation).1) := rfl
  rw [Rules.Registry.WasCollected, status] at taken
  exact evidenceStatus_collected.mp (Json.str.inj (Option.some.inj taken))

/-- A decision of the audit pack that is a verdict has evidence. -/
theorem packDecision_evidenced
    (prepared : probeToControl.mapM (rowsOf env observations) = .ok rows) :
    Reports (IsEvidenced observations controlId)
      (packDecision env pack controlId
        (evidenceOf rows.flatten controlId)) := by
  refine packDecision_reports.imp fun grounds => ?_
  split at grounds
  case isTrue isVolumes =>
    subst isVolumes
    obtain ⟨subject, complete⟩ := grounds
    have storage : ∀ entry ∈ probeToControl, entry.2 = "PC-07" →
        entry.1 ∈ Rules.pc07Probes := by decide
    intro entry inTable isOwn
    obtain ⟨value, row, member, -, isProbe, taken, -⟩ :=
      complete entry.1 (storage entry inTable isOwn)
    obtain ⟨observation, isObserved, _, _, _, -, rfl⟩ :=
      mem_evidenceOf prepared (Multiset.mem_coe.mp member)
    have same : observation.probeId = entry.1 := Json.str.inj
      (Option.some.inj isProbe)
    exact ⟨observation, isObserved, same, collected_of_row taken⟩
  case isFalse other =>
    obtain ⟨row, member, taken⟩ := grounds
    obtain ⟨observation, isObserved, _, _, _, inTable, rfl⟩ :=
      mem_evidenceOf prepared member
    exact evidenced_of_collected isObserved (lookup_of_mem inTable) other
      (collected_of_row taken)

/-- The records that are compared with selected criteria were collected. -/
def ComparedAreCollected (env : LiveEnvironment)
    (observations : List ProbeObservation)
    (criteria : Option CriteriaContext) : Prop :=
  ∀ context ∈ criteria, ∀ observation ∈ observations,
    IsCompared env context.values observation
        (controlOf observation.probeId) → IsCollected observation

theorem not_compared_volumes {values : CriteriaValues}
    {observation : ProbeObservation} :
    ¬IsCompared env values observation "PC-07" := id

/-- A decision on a control that is a verdict has evidence, if what is compared
was collected. -/
theorem controlDecision_reports
    (prepared : probeToControl.mapM (rowsOf env observations) = .ok rows)
    (collected : ComparedAreCollected env observations criteria)
    {observation : ProbeObservation}
    (found : controlObservation observations controlId = some observation)
    {suppliedProbes : List String} :
    Reports (IsEvidenced observations controlId)
      (controlDecision env pack suppliedProbes criteria controlId
        (evidenceOf rows.flatten controlId) observation).1 := by
  obtain ⟨isObserved, feeds⟩ := controlObservation_cases found
  rw [controlDecision.eq_def]
  split
  · next decision administrator =>
      have listed : controlId ≠ "PC-07" := by
        rintro rfl
        rw [liveAdministratorDecision, if_pos (.inl (by decide))]
          at administrator
        cases administrator
      exact (administrator_reports administrator).imp
        (evidenced_of_collected isObserved feeds listed)
  split
  · next decision made =>
      cases criteria with
      | none => cases made
      | some context =>
          refine (scoped_reports made).imp fun compared => ?_
          have listed : controlId ≠ "PC-07" := by
            rintro rfl
            exact not_compared_volumes compared
          have isControl : controlOf observation.probeId = controlId := by
            rw [controlOf, feeds]
            rfl
          refine evidenced_of_collected isObserved feeds listed ?_
          exact collected context rfl observation isObserved
            (isControl ▸ compared)
  split
  · exact reports_of_error rfl
  · exact packDecision_evidenced prepared

/-- The verdict on a control has evidence, if what is compared was
collected. -/
theorem evaluateControl_reports
    (prepared : probeToControl.mapM (rowsOf env observations) = .ok rows)
    (collected : ComparedAreCollected env observations criteria)
    {result : LiveResult}
    (evaluated : evaluateControl env pack observations criteria rows.flatten
      controlId = .ok result) :
    Reports (IsEvidenced observations controlId) result.decision := by
  rw [evaluateControl] at evaluated
  split at evaluated
  case isTrue =>
    cases evaluated
    exact reports_of_error rfl
  case isFalse =>
    cases found : controlObservation observations controlId with
    | none =>
        rw [found] at evaluated
        cases evaluated
    | some observation =>
        rw [found] at evaluated
        have reports := @controlDecision_reports env pack _ _ _ _ prepared
          collected _ found (observations.map ProbeObservation.probeId)
        dsimp only at evaluated
        generalize controlDecision env pack
          (observations.map ProbeObservation.probeId) criteria controlId
          (evidenceOf rows.flatten controlId) observation = outcome
          at evaluated reports
        obtain ⟨decision, isCompared⟩ := outcome
        obtain ⟨additional, -, same⟩ := Outcome.bind_eq_ok.mp evaluated
        cases same
        exact reports

end Controls

/-! ## All controls -/

section Evaluations

variable {env : LiveEnvironment} {pack : AuditPack}
  {observations : List ProbeObservation} {criteria : Option CriteriaContext}

/-- A verdict is reported only with evidence of each probe of the control;
otherwise an error or a review is. -/
def VerdictsHaveEvidence (observations : List ProbeObservation)
    (results : List (String × LiveResult)) : Prop :=
  ∀ entry ∈ results,
    (HasVerdict entry.2.decision.status → IsEvidenced observations entry.1) ∧
      (¬IsEvidenced observations entry.1 →
        entry.2.decision.status ∈ ["ERROR", "REVIEW"])

theorem AreProbed.unique (probed : AreProbed observations)
    {first second : ProbeObservation} (member : first ∈ observations)
    (again : second ∈ observations) (same : first.probeId = second.probeId) :
    first = second :=
  List.inj_on_of_nodup_map probed.distinct member again same

/-- An observation that is not of a volume has a row. -/
theorem evidence_of_observation (probed : AreProbed observations)
    {rows : List (List Json)}
    (prepared : probeToControl.mapM (rowsOf env observations) = .ok rows)
    {observation : ProbeObservation} (member : observation ∈ observations)
    (other : controlOf observation.probeId ≠ "PC-07") :
    evidenceOf rows.flatten (controlOf observation.probeId) ≠ [] := by
  have inTable := mem_probeToControl (probed.known observation member)
  obtain ⟨group, inRows, made⟩ := Outcome.related_of_mem
    (Outcome.mapM_eq_ok.mp prepared) inTable
  have filled : group ≠ [] := by
    rw [rowsOf, probed.observationOf member] at made
    dsimp only at made
    rw [prepareProbe, if_neg fun both => other both.2] at made
    obtain ⟨subject, -, more⟩ := Outcome.bind_eq_ok.mp made
    dsimp only at more
    split at more <;>
    · obtain ⟨normalized, -, same⟩ := Outcome.bind_eq_ok.mp more
      cases same
      exact List.cons_ne_nil _ _
  obtain ⟨row, isRow⟩ := List.exists_mem_of_ne_nil _ filled
  refine List.ne_nil_of_mem (List.mem_filter.mpr
    ⟨List.mem_flatten.mpr ⟨group, inRows, isRow⟩, decide_eq_true ?_⟩)
  exact control_of_row made row isRow

theorem controlObservation_of_mem (probed : AreProbed observations)
    {observation : ProbeObservation} (member : observation ∈ observations)
    (other : controlOf observation.probeId ≠ "PC-07") :
    controlObservation observations (controlOf observation.probeId) =
      some observation := by
  have inTable := mem_probeToControl (probed.known observation member)
  cases found : controlObservation observations
      (controlOf observation.probeId) with
  | none =>
      have nowhere := List.find?_eq_none.mp found observation
        (List.mem_reverse.mpr member)
      exact absurd (decide_eq_true (lookup_of_mem inTable)) nowhere
  | some found' =>
      obtain ⟨isObserved, feeds⟩ := controlObservation_cases found
      have same := single_probe _ inTable _ (mem_probeToControl_of_lookup feeds)
        rfl other
      rw [probed.unique isObserved member same.symm]

/-- A comparison that decides is the decision on its control. -/
theorem evaluateControl_of_compared (probed : AreProbed observations)
    {rows : List (List Json)}
    (prepared : probeToControl.mapM (rowsOf env observations) = .ok rows)
    {context : CriteriaContext} {observation : ProbeObservation}
    (member : observation ∈ observations)
    (compared : IsCompared env context.values observation
      (controlOf observation.probeId)) {result : LiveResult}
    (evaluated : evaluateControl env pack observations (some context)
      rows.flatten (controlOf observation.probeId) = .ok result) :
    HasVerdict result.decision.status := by
  obtain ⟨⟨decision, made, has⟩, selected⟩ :=
    decides_selectedCriteria.mpr compared
  have other : controlOf observation.probeId ≠ "PC-07" ∧
      controlOf observation.probeId ∉ administratorControlIds := by
    revert selected
    generalize controlOf observation.probeId = controlId
    intro selected
    simp only [selectedControlIds, List.mem_cons, List.not_mem_nil,
      or_false] at selected
    rcases selected with rfl | rfl | rfl | rfl | rfl | rfl <;> decide
  rw [evaluateControl, if_neg (evidence_of_observation probed prepared member
    other.1), controlObservation_of_mem probed member other.1] at evaluated
  have decided : controlDecision env pack
      (observations.map ProbeObservation.probeId) (some context)
      (controlOf observation.probeId)
      (evidenceOf rows.flatten (controlOf observation.probeId)) observation =
        (decision, true) := by
    rw [controlDecision, liveAdministratorDecision, if_pos (.inl other.2),
      scopedDecision]
    dsimp only
    rw [if_pos selected, made]
    rfl
  dsimp only at evaluated
  rw [decided] at evaluated
  obtain ⟨additional, -, same⟩ := Outcome.bind_eq_ok.mp evaluated
  cases same
  exact has

/-- Verdicts have evidence, if and only if: the records that are compared with
selected criteria were collected. -/
theorem verdicts_have_evidence_iff (env : LiveEnvironment) (pack : AuditPack)
    (criteriaContext : Option Decoded) (observations : List ProbeObservation)
    (probed : AreProbed observations) :
    (∀ results, evaluateLiveDraftObservations env pack observations
        criteriaContext = .ok results →
      VerdictsHaveEvidence observations results) ↔
      ∀ criteria, validatedCriteria env criteriaContext = .ok criteria →
        ArePreparable env observations →
        ComparedAreCollected env observations criteria := by
  constructor
  case mp =>
    intro evidenced criteria valid preparable context isContext observation
      member compared
    have inTable := mem_probeToControl (probed.known observation member)
    obtain ⟨rows, results, isRows, evaluated, names, looked⟩ :=
      @results_of_preparable env pack _ _ _ (List.ne_nil_of_mem member)
        probed valid preparable
    cases isContext
    obtain ⟨result, isResult⟩ := @returns_evaluateControl env pack _ _
      (controlOf observation.probeId) (isWellFormed_of_validated valid) _
      isRows
    have listed : controlOf observation.probeId ∈ controlIds := by
      have known : ∀ entry ∈ probeToControl, entry.2 ∈ controlIds := by decide
      exact known _ inTable
    have found := looked (controlOf observation.probeId)
    rw [if_pos listed, isResult] at found
    obtain ⟨front, behind, whole, -⟩ := List.lookup_eq_some_iff.mp found
    have has := evaluateControl_of_compared probed isRows member compared
      isResult
    obtain ⟨other, isObserved, same, collected⟩ :=
      (evidenced results evaluated (controlOf observation.probeId, result)
        (by rw [whole]; simp)).1 has _ inTable rfl
    rw [probed.unique member isObserved same.symm]
    exact collected
  case mpr =>
    rintro collected results evaluated ⟨controlId, result⟩ member
    obtain ⟨criteria, prepared, valid, isPrepared, -, isResult⟩ :=
      evaluated_control evaluated member
    have filled : observations ≠ [] := by
      rintro rfl
      cases evaluated
      cases member
    have preparable := arePreparable_of_evaluated filled probed valid evaluated
    obtain ⟨rows, isRows, again⟩ := prepared_of_preparable probed preparable
    rw [again] at isPrepared
    cases isPrepared
    have reports := evaluateControl_reports isRows
      (collected criteria valid preparable) isResult
    exact ⟨reports.2, fun unevidenced =>
      reports.cases.resolve_left unevidenced⟩

end Evaluations

/-! ## Services that were not collected -/

def autoplayRecord : Json :=
  .obj [("turn_off_autoplay_enabled", .bool true),
    ("non_volume_autoplay_disallowed", .bool true),
    ("autoplay_scope", .str "ALL_DRIVES"),
    ("autorun_default_behavior", .str "DO_NOT_EXECUTE")]

def collectedAutoplay : ProbeObservation :=
  sampleObservation "win.media.autoplay-policy" "COLLECTED" "NONE"
    [autoplayRecord]

/-- The verdict on a policy that was collected has evidence. -/
theorem collected_autoplay_has_evidence :
    AreProbed [collectedAutoplay] ∧
      ∀ results, evaluateLiveDraftObservations sampleLiveEnvironment emptyPack
        [collectedAutoplay] (some (sampleContext 10).document) = .ok results →
      VerdictsHaveEvidence [collectedAutoplay] results := by
  have probed : AreProbed [collectedAutoplay] := ⟨by decide, by decide⟩
  refine ⟨probed, (verdicts_have_evidence_iff sampleLiveEnvironment emptyPack _
    [collectedAutoplay] probed).mpr ?_⟩
  intro criteria _ _ context _ observation member _
  rw [List.mem_singleton.mp member]
  exact ⟨rfl, List.cons_ne_nil _ _⟩

def failedServices : ProbeObservation :=
  sampleObservation "win.services.inventory" "ERROR" "QUERY_FAILED" []

theorem failedServices_isCompared :
    IsCompared sampleLiveEnvironment (sampleContext 10).values failedServices
      "PC-05" := by
  refine ⟨⟨Criteria.Server.defaultUnnecessaryServiceIds.map (points ·.toList),
    rfl, ?_, ?_⟩, List.forall_mem_nil _, List.nodup_nil⟩
  · decide
  · decide

/-- Services that were not collected get a verdict. -/
theorem uncollected_services_get_verdict :
    ∃ results, evaluateLiveDraftObservations sampleLiveEnvironment emptyPack
        [failedServices] (some (sampleContext 10).document) = .ok results ∧
      ¬VerdictsHaveEvidence [failedServices] results := by
  have valid : validatedCriteria sampleLiveEnvironment
      (some (sampleContext 10).document) = .ok (some (sampleContext 10)) :=
    congrArg (some <$> ·) (sampleContext_isValid (by decide))
  have probed : AreProbed [failedServices] := ⟨by decide, by decide⟩
  have isControl : controlOf failedServices.probeId = "PC-05" := by decide
  have preparable : ArePreparable sampleLiveEnvironment [failedServices] := by
    refine List.forall_mem_singleton.mpr ?_
    rw [isControl]
    exact ⟨nofun, nofun, fun _ collected => absurd collected.1 (by decide)⟩
  obtain ⟨rows, results, isRows, evaluated, -, looked⟩ :=
    @results_of_preparable _ emptyPack _ _ _ (List.cons_ne_nil _ _)
      probed valid preparable
  refine ⟨results, evaluated, fun evidenced => ?_⟩
  obtain ⟨result, isResult⟩ := @returns_evaluateControl _ emptyPack _ _
    "PC-05" (isWellFormed_of_validated valid) _ isRows
  have found := looked "PC-05"
  rw [if_pos (by decide), isResult] at found
  obtain ⟨front, behind, whole, -⟩ := List.lookup_eq_some_iff.mp found
  have has : HasVerdict result.decision.status :=
    evaluateControl_of_compared probed isRows (List.mem_singleton_self _) (isControl ▸ failedServices_isCompared)
    (isControl ▸ isResult)
  obtain ⟨other, isObserved, -, collected⟩ := (evidenced ("PC-05", result)
    (by rw [whole]; simp)).1 has ("win.services.inventory", "PC-05")
    (by decide) rfl
  rw [List.mem_singleton.mp isObserved] at collected
  exact absurd collected.1 (by decide)

end SecAI.LiveDraft
