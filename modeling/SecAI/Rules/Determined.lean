/-
Module: SecAI.Rules.Determined
Purpose: The kinds of decision that the registries make of a collected value,
  and what each of them rests on.
Trusted boundary: see SecAI.Rules.Registry
Main exports:
  Determined, Determined.error_iff, Determined.policy_of_pass, ApprovesSnapshot
-/
import SecAI.Common.Outcome
import SecAI.Rules.AccountPolicy
import SecAI.Rules.EndpointProtection
import SecAI.Rules.PatchLifecycle
import SecAI.Rules.ServiceManagement
import SecAI.Rules.UserMediaRemote

namespace SecAI.Rules.Registry

open SecAI.Findings (isIdentifier)
open SecAI.Rules (ensure_eq_ok)

/-! ## Kinds of decision -/

theorem isIdentifier_ofList {characters : List Char}
    (all : isIdentifier characters = true) :
    isIdentifier (String.ofList characters).toList = true := by
  rw [String.toList_ofList]
  exact all

/-- The decision is of one of the kinds that a registry makes of a collected
value: it rests on a policy if it passes, and reports no code of the error
schema exactly if the value is not recognised. -/
inductive Determined (unrecognised accepted : Prop) : RuleDecision → Prop where
  | passed {controlId resultCode actual expected : String}
      {details : List (String × String)}
      (code : isIdentifier resultCode.toList = true)
      (recognised : ¬unrecognised) (policy : accepted) :
      Determined unrecognised accepted
        ⟨controlId, "PASS", resultCode, actual, expected, resultCode, [],
          details⟩
  | decided {controlId status resultCode actual expected : String}
      {details : List (String × String)}
      (code : isIdentifier resultCode.toList = true)
      (isStatus : status ∈ ["FAIL", "REVIEW", "N/A"])
      (recognised : ¬unrecognised) :
      Determined unrecognised accepted
        ⟨controlId, status, resultCode, actual, expected, resultCode, [],
          details⟩
  | failed {controlId resultCode actual expected errorCode : String}
      {details : List (String × String)}
      (code : isIdentifier resultCode.toList = true)
      (isCode : errorCode ∈ ["EVIDENCE_INCOMPLETE", "UNSUPPORTED_OS"])
      (recognised : ¬unrecognised) :
      Determined unrecognised accepted
        ⟨controlId, "ERROR", resultCode, actual, expected, resultCode,
          [errorCode], details⟩
  | unreadable {controlId resultCode actual expected : String}
      {details : List (String × String)}
      (code : isIdentifier resultCode.toList = true)
      (unread : unrecognised) :
      Determined unrecognised accepted
        ⟨controlId, "ERROR", resultCode, actual, expected, resultCode,
          ["PARSE_ERROR"], details⟩

variable {unrecognised accepted : Prop} {decision : RuleDecision}

section Recognised

variable {controlId status actual expected errorCode : String}
  {details : List (String × String)} {code : List Char}

theorem Determined.met (isCode : isIdentifier code = true)
    (policy : accepted) :
    Determined False accepted ⟨controlId, "PASS", .ofList code, actual,
      expected, .ofList code, [], details⟩ :=
  .passed (isIdentifier_ofList isCode) not_false policy

theorem Determined.judged (isCode : isIdentifier code = true)
    (isStatus : status ∈ ["FAIL", "REVIEW", "N/A"]) :
    Determined False accepted ⟨controlId, status, .ofList code, actual,
      expected, .ofList code, [], details⟩ :=
  .decided (isIdentifier_ofList isCode) isStatus not_false

theorem Determined.incomplete (isCode : isIdentifier code = true)
    (isError : errorCode ∈ ["EVIDENCE_INCOMPLETE", "UNSUPPORTED_OS"]) :
    Determined False accepted ⟨controlId, "ERROR", .ofList code, actual,
      expected, .ofList code, [errorCode], details⟩ :=
  .failed (isIdentifier_ofList isCode) isError not_false

end Recognised

theorem Determined.error_iff
    (determined : Determined unrecognised accepted decision) :
    decision.status = "ERROR" ↔ decision.errorCodes ≠ [] := by
  cases determined with
  | passed => simp
  | decided code isStatus recognised =>
      simp only [List.mem_cons, List.not_mem_nil, or_false] at isStatus
      rcases isStatus with rfl | rfl | rfl <;> simp
  | failed => simp
  | unreadable => simp

theorem Determined.policy_of_pass
    (determined : Determined unrecognised accepted decision)
    (passes : decision.status = "PASS") : accepted := by
  cases determined with
  | passed code recognised policy => exact policy
  | decided code isStatus recognised =>
      subst passes
      simp at isStatus
  | failed => simp at passes
  | unreadable => simp at passes

theorem string_eq_some {value : Option Json} {message text : String}
    (read : Registry.string value message = .ok text) : value = some (.str text) := by
  unfold Registry.string at read
  split at read
  · split at read
    · cases read
    · cases read
      rfl
  · cases read

end SecAI.Rules.Registry

/-! ## PC-01 to PC-03 -/

namespace SecAI.Rules.AccountPolicy

open SecAI.Rules.Registry
open SecAI.Rules (ensure_eq_ok)

variable {value : Json} {source : String} {made : RuleDecision}

theorem evaluatePc01_determined
    (done : evaluatePc01 value source = .ok made) :
    Determined False True made := by
  simp only [evaluatePc01, Outcome.bind_eq_ok] at done
  obtain ⟨days, -, actual, -, done⟩ := done
  split at done
  · cases done
    exact .met rfl trivial
  · cases done
    exact .judged rfl (by decide)

theorem evaluatePc02_determined {organizationPolicy : Option Json}
    (done : evaluatePc02 value source organizationPolicy = .ok made) :
    Determined False (∃ policy ∈ organizationPolicy,
      (passwordStandard policy).isOk = true) made := by
  simp only [evaluatePc02, Outcome.bind_eq_ok] at done
  obtain ⟨effective, -, actual, -, done⟩ := done
  cases organizationPolicy with
  | none =>
      cases done
      exact .judged rfl (by decide)
  | some policy =>
      simp only [Outcome.bind_eq_ok] at done
      obtain ⟨standard, read, expected, -, done⟩ := done
      split at done
      · cases done
        exact .met rfl
          ⟨policy, rfl, by rw [read]; rfl⟩
      · cases done
        exact .judged rfl (by decide)

theorem evaluatePc03_determined :
    Determined False True (evaluatePc03 value source) := by
  unfold evaluatePc03
  split
  · exact .incomplete rfl (by decide)
  · split
    · exact .met rfl trivial
    · exact .judged rfl (by decide)

end SecAI.Rules.AccountPolicy

/-! ## PC-04, PC-05, PC-06, PC-08 and PC-09 -/

namespace SecAI.Rules.ServiceManagement

open SecAI.Rules.Registry
open SecAI.Rules (ensure_eq_ok)

variable {value : Json} {organizationPolicy : Option Json}
  {made : RuleDecision}

theorem policyIds_some {field : String} {identifiers : List String}
    (read : policyIds organizationPolicy field = .ok (some identifiers)) :
    ∃ policy ∈ organizationPolicy,
      (identifiersOf policy field).isOk = true := by
  cases organizationPolicy with
  | none => cases read
  | some policy =>
      refine ⟨policy, rfl, ?_⟩
      cases same : identifiersOf policy field with
      | ok found => rfl
      | error fault => simp [policyIds, same, Except.map] at read

theorem evaluatePc04_determined
    (done : evaluatePc04 value organizationPolicy = .ok made) :
    Determined False (∃ policy ∈ organizationPolicy,
      (identifiersOf policy "approved_share_ids").isOk = true) made := by
  simp only [evaluatePc04, Outcome.bind_eq_ok] at done
  obtain ⟨_, -, _, -, _, -, _, -, _, -, identifiers, read, _, -, done⟩ := done
  cases identifiers with
  | none =>
      cases done
      exact .judged rfl (by decide)
  | some identifiers =>
      simp only [Outcome.bind_eq_ok] at done
      obtain ⟨_, -, done⟩ := done
      split at done
      · cases done
        exact .met rfl (policyIds_some read)
      · cases done
        exact .judged rfl (by decide)

theorem coverageIncomplete_determined {accepted : Prop}
    {controlId resultCode actual : String} {identifiers : List String}
    (code : Findings.isIdentifier resultCode.toList = true)
    (done : coverageIncomplete controlId resultCode actual identifiers =
      .ok made) :
    Determined False accepted made := by
  simp only [coverageIncomplete, Outcome.bind_eq_ok] at done
  obtain ⟨_, -, done⟩ := done
  cases done
  exact .failed code (by decide) not_false

theorem evaluatePc05_determined
    (done : evaluatePc05 value organizationPolicy = .ok made) :
    Determined False (∃ policy ∈ organizationPolicy,
      (identifiersOf policy "unnecessary_service_ids").isOk = true) made := by
  simp only [evaluatePc05, Outcome.bind_eq_ok] at done
  obtain ⟨_, -, _, -, _, -, identifiers, read, _, -, done⟩ := done
  cases identifiers with
  | none =>
      cases done
      exact .judged rfl (by decide)
  | some identifiers =>
      dsimp only at done
      split at done
      · exact coverageIncomplete_determined (isIdentifier_ofList rfl) done
      simp only [Outcome.bind_eq_ok] at done
      obtain ⟨_, -, done⟩ := done
      split at done
      · cases done
        exact .met rfl (policyIds_some read)
      · cases done
        exact .judged rfl (by decide)

theorem evaluatePc06_determined
    (done : evaluatePc06 value organizationPolicy = .ok made) :
    Determined False (∃ policy ∈ organizationPolicy,
      (identifiersOf policy "denied_product_ids").isOk = true) made := by
  simp only [evaluatePc06, Outcome.bind_eq_ok] at done
  obtain ⟨_, -, _, -, _, -, _, -, identifiers, read, _, -, done⟩ := done
  cases identifiers with
  | none =>
      cases done
      exact .judged rfl (by decide)
  | some identifiers =>
      dsimp only at done
      split at done
      · exact coverageIncomplete_determined (isIdentifier_ofList rfl) done
      split at done
      · cases done
        exact .judged rfl (by decide)
      simp only [Outcome.bind_eq_ok] at done
      obtain ⟨_, -, done⟩ := done
      split at done
      · cases done
        exact .met rfl (policyIds_some read)
      · cases done
        exact .judged rfl (by decide)

theorem evaluatePc08_determined (done : evaluatePc08 value = .ok made) :
    Determined False True made := by
  simp only [evaluatePc08, Outcome.bind_eq_ok] at done
  obtain ⟨_, -, _, -, _, -, _, -, _, -, done⟩ := done
  split at done
  · cases done
    exact .incomplete rfl (by decide)
  split at done
  · cases done
    exact .met rfl trivial
  · cases done
    exact .judged rfl (by decide)

theorem wininetNotApplicable_determined {use : WininetUse} :
    Determined False True (wininetNotApplicable use) := by
  unfold wininetNotApplicable
  split
  · exact .judged rfl (by decide)
  · exact .judged rfl (by decide)

theorem wininetSetting_determined {use : WininetUse} {enabled : Bool}
    (done : wininetSetting use enabled = .ok made) :
    Determined False True made := by
  unfold wininetSetting at done
  dsimp only at done
  split at done
  · cases done
    exact .judged rfl (by decide)
  simp only [Outcome.bind_eq_ok] at done
  obtain ⟨_, -, done⟩ := done
  split at done
  · cases done
    exact .met rfl trivial
  · cases done
    exact .judged rfl (by decide)

theorem evaluatePc09_determined (done : evaluatePc09 value = .ok made) :
    Determined False True made := by
  simp only [evaluatePc09, Outcome.bind_eq_ok] at done
  obtain ⟨use, -, done⟩ := done
  split at done
  · cases done
    exact .judged rfl (by decide)
  split at done
  · cases done
    exact wininetNotApplicable_determined
  split at done
  · cases done
    exact .incomplete rfl (by decide)
  · simp only [Outcome.bind_eq_ok] at done
    obtain ⟨enabled, -, done⟩ := done
    exact wininetSetting_determined done

end SecAI.Rules.ServiceManagement

/-! ## PC-10 and PC-11 -/

namespace SecAI.Rules.PatchLifecycle

open SecAI.Rules.Registry
open SecAI.Rules (ensure_eq_ok)

variable {env : RegistryEnvironment} {value evidence snapshot : Json}
  {organizationPolicy : Option Json} {made : RuleDecision}

theorem decision_eq_ok {controlId status resultCode actual expected
    scopeLabel : String} {reference : Option Json} {errorCodes : List String}
    (done : decision controlId status resultCode actual expected scopeLabel
      reference errorCodes = .ok made) :
    ∃ details, made = ⟨controlId, status, resultCode, actual, expected,
      resultCode, errorCodes, details⟩ := by
  simp only [decision, Outcome.bind_eq_ok] at done
  obtain ⟨_, -, _, -, _, -, done⟩ := done
  cases done
  exact ⟨_, rfl⟩

/-- The policy attests a procedure that approves the snapshot. -/
def ApprovesSnapshot (policy : Json) : Prop :=
  ∃ procedure, procedureOf policy = .ok procedure ∧
    procedure.approvedSnapshotId = snapshotId

theorem procedure_some {found : Procedure}
    (read : procedure organizationPolicy = .ok (some found)) :
    ∃ policy ∈ organizationPolicy, procedureOf policy = .ok found := by
  cases organizationPolicy with
  | none => cases read
  | some policy =>
      refine ⟨policy, rfl, ?_⟩
      cases same : procedureOf policy with
      | ok other =>
          simp only [procedure, same, Except.map, Except.ok.injEq,
            Option.some.injEq] at read
          rw [read]
      | error fault => simp [procedure, same, Except.map] at read

/-- The snapshot is the one that the rules name. -/
def IsReference (snapshot : Json) : Prop :=
  snapshot.member "snapshot_id" = some (.str snapshotId)

theorem approvesSnapshot_of_same {found : Procedure}
    (reference : IsReference snapshot)
    (read : procedure organizationPolicy = .ok (some found))
    (same : ¬snapshot.member "snapshot_id" ≠
      some (.str found.approvedSnapshotId)) :
    ∃ policy ∈ organizationPolicy, ApprovesSnapshot policy := by
  obtain ⟨policy, isPolicy, readPolicy⟩ := procedure_some read
  refine ⟨policy, isPolicy, found, readPolicy, ?_⟩
  rw [not_not, reference, Option.some.injEq, Json.str.injEq] at same
  exact same.symm

theorem managedPatches_determined {actual expected : String}
    (reference : IsReference snapshot)
    (done : managedPatches env value evidence snapshot actual expected
      organizationPolicy = .ok made) :
    Determined False (∃ policy ∈ organizationPolicy,
      ApprovesSnapshot policy) made := by
  simp only [managedPatches, Outcome.bind_eq_ok] at done
  obtain ⟨found, read, done⟩ := done
  cases found with
  | none =>
      obtain ⟨_, rfl⟩ := decision_eq_ok done
      exact .judged rfl (by decide)
  | some found =>
      dsimp only at done
      split at done
      · obtain ⟨_, rfl⟩ := decision_eq_ok done
        exact .judged rfl (by decide)
      next same =>
        simp only [Outcome.bind_eq_ok] at done
        obtain ⟨_, -, _, -, _, -, done⟩ := done
        split at done
        · simp only [Outcome.bind_eq_ok] at done
          obtain ⟨_, -, done⟩ := done
          obtain ⟨_, rfl⟩ := decision_eq_ok done
          exact .incomplete rfl (by decide)
        · obtain ⟨_, rfl⟩ := decision_eq_ok done
          exact .met rfl
            (approvesSnapshot_of_same reference read same)

theorem comparePatches_determined {state : PatchState} {record : Json}
    {actual : String} (reference : IsReference snapshot)
    (done : comparePatches env state record value evidence snapshot actual
      organizationPolicy = .ok made) :
    Determined False (∃ policy ∈ organizationPolicy,
      ApprovesSnapshot policy) made := by
  simp only [comparePatches, Outcome.bind_eq_ok] at done
  obtain ⟨_, -, expected, -, done⟩ := done
  split at done
  · obtain ⟨_, rfl⟩ := decision_eq_ok done
    exact .incomplete rfl (by decide)
  split at done
  · obtain ⟨_, rfl⟩ := decision_eq_ok done
    exact .judged rfl (by decide)
  split at done
  · obtain ⟨_, rfl⟩ := decision_eq_ok done
    exact .judged rfl (by decide)
  split at done
  · obtain ⟨_, rfl⟩ := decision_eq_ok done
    exact .judged rfl (by decide)
  · exact managedPatches_determined reference done

theorem evaluatePc10_determined (reference : IsReference snapshot)
    (done : evaluatePc10 env value evidence snapshot organizationPolicy =
      .ok made) :
    Determined False (∃ policy ∈ organizationPolicy,
      ApprovesSnapshot policy) made := by
  simp only [evaluatePc10, Outcome.bind_eq_ok] at done
  obtain ⟨state, -, baseline, -, actual, -, done⟩ := done
  cases baseline with
  | none =>
      obtain ⟨_, rfl⟩ := decision_eq_ok done
      exact .judged rfl (by decide)
  | some record =>
      dsimp only at done
      split at done
      · obtain ⟨_, rfl⟩ := decision_eq_ok done
        exact .incomplete rfl (by decide)
      · exact comparePatches_determined reference done

theorem managedLifecycle_determined {actual expected : String}
    (reference : IsReference snapshot)
    (done : managedLifecycle snapshot actual expected organizationPolicy =
      .ok made) :
    Determined False (∃ policy ∈ organizationPolicy,
      ApprovesSnapshot policy) made := by
  simp only [managedLifecycle, Outcome.bind_eq_ok] at done
  obtain ⟨found, read, done⟩ := done
  cases found with
  | none =>
      obtain ⟨_, rfl⟩ := decision_eq_ok done
      exact .judged rfl (by decide)
  | some found =>
      dsimp only at done
      split at done
      · obtain ⟨_, rfl⟩ := decision_eq_ok done
        exact .judged rfl (by decide)
      next same =>
        obtain ⟨_, rfl⟩ := decision_eq_ok done
        exact .met rfl
          (approvesSnapshot_of_same reference read same)

theorem compareLifecycle_determined {record : Json} {actual : String}
    (reference : IsReference snapshot)
    (done : compareLifecycle env record evidence snapshot actual
      organizationPolicy = .ok made) :
    Determined False (∃ policy ∈ organizationPolicy,
      ApprovesSnapshot policy) made := by
  simp only [compareLifecycle, Outcome.bind_eq_ok] at done
  obtain ⟨_, -, _, -, done⟩ := done
  split at done
  · obtain ⟨_, rfl⟩ := decision_eq_ok done
    exact .judged rfl (by decide)
  · exact managedLifecycle_determined reference done

theorem evaluatePc11_determined (reference : IsReference snapshot)
    (done : evaluatePc11 env value evidence snapshot organizationPolicy =
      .ok made) :
    Determined False (∃ policy ∈ organizationPolicy,
      ApprovesSnapshot policy) made := by
  simp only [evaluatePc11, Outcome.bind_eq_ok] at done
  obtain ⟨_, -, _, -, _, -, _, -, _, -, _, -, actual, -, done⟩ := done
  split at done
  · obtain ⟨_, rfl⟩ := decision_eq_ok done
    exact .incomplete rfl (by decide)
  simp only [Outcome.bind_eq_ok] at done
  obtain ⟨record, -, done⟩ := done
  cases record with
  | none =>
      obtain ⟨_, rfl⟩ := decision_eq_ok done
      exact .judged rfl (by decide)
  | some record => exact compareLifecycle_determined reference done

theorem validatedReference_eq_ok {snapshot validated : Json}
    (done : validatedReference env snapshot = .ok validated) :
    validated = snapshot ∧ IsReference snapshot := by
  simp only [validatedReference, Outcome.bind_eq_ok, ensure_eq_ok] at done
  obtain ⟨_, named, _, -, _, -, _, -, _, -, _, -, _, -, _, -, _, -, made⟩ :=
    done
  cases made
  exact ⟨rfl, named⟩

theorem evaluateValue_determined {controlId : String}
    {referenceSnapshot : Option Json}
    (done : evaluateValue env controlId value evidence referenceSnapshot
      organizationPolicy = .ok made) :
    Determined False (∃ policy ∈ organizationPolicy,
      ApprovesSnapshot policy) made := by
  unfold evaluateValue at done
  split at done
  · obtain ⟨_, rfl⟩ := decision_eq_ok done
    exact .judged rfl (by decide)
  simp only [Outcome.bind_eq_ok] at done
  obtain ⟨validated, valid, done⟩ := done
  obtain ⟨rfl, reference⟩ := validatedReference_eq_ok valid
  simp only [evaluateReference, Outcome.bind_eq_ok] at done
  obtain ⟨_, -, _, -, _, -, _, -, done⟩ := done
  split at done
  · obtain ⟨_, rfl⟩ := decision_eq_ok done
    exact .judged rfl (by decide)
  split at done
  · exact evaluatePc10_determined reference done
  · exact evaluatePc11_determined reference done

end SecAI.Rules.PatchLifecycle

/-! ## PC-12 to PC-15 -/

namespace SecAI.Rules.EndpointProtection

open SecAI.Rules.Registry
open SecAI.Rules (ensure_eq_ok)

variable {env : RegistryEnvironment} {value evidence catalog : Json}
  {organizationPolicy : Option Json} {made : RuleDecision}

/-- The automatic logon setting is neither one of the two values nor absent. -/
def UnrecognisedLogon (value : Json) : Prop :=
  ∀ state ∈ ["0", "1", "MISSING"],
    value.member "auto_admin_logon_value" ≠ some (.str state)

theorem evaluatePc12_determined (done : evaluatePc12 env value = .ok made) :
    Determined (UnrecognisedLogon value) True made := by
  simp only [evaluatePc12, Outcome.bind_eq_ok] at done
  obtain ⟨_, -, state, read, _, -, _, -, _, -, done⟩ := done
  have named := string_eq_some read
  split at done
  next disabled =>
    cases done
    refine .passed (isIdentifier_ofList rfl) (fun unread => ?_) trivial
    refine unread state ?_ named
    simp only [List.mem_cons, List.not_mem_nil, or_false] at disabled ⊢
    exact disabled.elim .inl fun missing => .inr (.inr missing)
  next notDisabled =>
    split at done
    next enabled =>
      cases done
      refine .decided (isIdentifier_ofList rfl) (by decide) fun unread => ?_
      exact unread state (by simp [enabled]) named
    next notEnabled =>
      cases done
      refine .unreadable (isIdentifier_ofList rfl) fun other isOther same => ?_
      rw [named, Option.some.injEq, Json.str.injEq] at same
      subst same
      simp only [List.mem_cons, List.not_mem_nil, or_false] at isOther notDisabled
      rcases isOther with zero | one | missing
      · exact notDisabled (.inl zero)
      · exact notEnabled one
      · exact notDisabled (.inr missing)

/-- The policy sets a freshness for the catalog that the rules name. -/
def SetsFreshness (policy : Json) : Prop :=
  ∃ freshness, freshnessOf policy = .ok (some freshness)

theorem freshnessPolicy_some {freshness : Freshness}
    (read : freshnessPolicy organizationPolicy = .ok (some freshness)) :
    ∃ policy ∈ organizationPolicy, SetsFreshness policy := by
  cases organizationPolicy with
  | none => cases read
  | some policy => exact ⟨policy, rfl, freshness, read⟩

theorem compareFreshness_determined {freshness : Freshness} {accepted : Prop}
    {adapterId adapterVersion productName signatureVersion : String}
    (policy : accepted)
    (done : compareFreshness env value evidence freshness adapterId
      adapterVersion productName signatureVersion = .ok made) :
    Determined False accepted made := by
  simp only [compareFreshness, Outcome.bind_eq_ok] at done
  obtain ⟨_, -, _, -, _, -, _, -, _, -, done⟩ := done
  split at done
  · cases done
    exact .judged rfl (by decide)
  split at done
  · cases done
    exact .judged rfl (by decide)
  split at done
  · cases done
    exact .judged rfl (by decide)
  · cases done
    exact .met rfl policy

theorem activeAntivirus_determined
    (done : activeAntivirus env value evidence organizationPolicy = .ok made) :
    Determined False (∃ policy ∈ organizationPolicy, SetsFreshness policy)
      made := by
  simp only [activeAntivirus, Outcome.bind_eq_ok] at done
  obtain ⟨freshness, read, _, -, _, -, _, -, _, -, done⟩ := done
  cases freshness with
  | none =>
      cases done
      exact .judged rfl (by decide)
  | some freshness =>
      exact compareFreshness_determined (freshnessPolicy_some read) done

theorem inactiveAntivirus_determined {accepted : Prop}
    (done : inactiveAntivirus value = .ok made) :
    Determined False accepted made := by
  unfold inactiveAntivirus at done
  split at done
  · cases done
  · cases done
  split at done
  · cases done
    exact .judged rfl (by decide)
  · cases done
    exact .judged rfl (by decide)

theorem evaluatePc13_determined
    (done : evaluatePc13 env value evidence catalog organizationPolicy =
      .ok made) :
    Determined False (∃ policy ∈ organizationPolicy, SetsFreshness policy)
      made := by
  simp only [evaluatePc13, Outcome.bind_eq_ok] at done
  obtain ⟨present, -, done⟩ := done
  split at done
  · cases done
    exact .judged rfl (by decide)
  simp only [Outcome.bind_eq_ok] at done
  obtain ⟨adapter, -, done⟩ := done
  cases adapter with
  | none =>
      cases done
      exact .judged rfl (by decide)
  | some adapter =>
      dsimp only at done
      split at done
      · exact inactiveAntivirus_determined done
      · exact activeAntivirus_determined done

theorem realtimeProtection_determined
    (done : realtimeProtection value = .ok made) :
    Determined False True made := by
  simp only [realtimeProtection, Outcome.bind_eq_ok] at done
  obtain ⟨_, -, _, -, _, -, _, -, _, -, _, -, done⟩ := done
  split at done
  · cases done
    exact .judged rfl (by decide)
  · cases done
    exact .met rfl trivial

theorem evaluatePc14_determined (done : evaluatePc14 value catalog = .ok made) :
    Determined False True made := by
  simp only [evaluatePc14, Outcome.bind_eq_ok] at done
  obtain ⟨present, -, done⟩ := done
  split at done
  · cases done
    exact .judged rfl (by decide)
  simp only [Outcome.bind_eq_ok] at done
  obtain ⟨adapter, -, done⟩ := done
  cases adapter with
  | none =>
      cases done
      exact .judged rfl (by decide)
  | some adapter =>
      dsimp only at done
      split at done
      · cases done
        exact .judged rfl (by decide)
      · exact realtimeProtection_determined done

theorem alternativeFirewall_determined {productAdapter : Json}
    {disabled : List FirewallProfile}
    {actual productId productVersion : String}
    (done : alternativeFirewall env value productAdapter disabled actual
      productId productVersion = .ok made) :
    Determined False True made := by
  simp only [alternativeFirewall, Outcome.bind_eq_ok] at done
  obtain ⟨_, -, done⟩ := done
  split at done
  · cases done
    exact .judged rfl (by decide)
  simp only [Outcome.bind_eq_ok] at done
  obtain ⟨_, -, done⟩ := done
  split at done
  · cases done
    exact .met rfl trivial
  · cases done
    exact .judged rfl (by decide)

theorem effectiveProfiles_determined {adapterId adapterVersion : String}
    (done : effectiveProfiles env value catalog adapterId adapterVersion =
      .ok made) :
    Determined False True made := by
  simp only [effectiveProfiles, Outcome.bind_eq_ok] at done
  obtain ⟨_, -, _, -, done⟩ := done
  split at done
  · cases done
    exact .met rfl trivial
  simp only [disabledProfiles, Outcome.bind_eq_ok] at done
  obtain ⟨present, -, done⟩ := done
  split at done
  · cases done
    exact .judged rfl (by decide)
  simp only [Outcome.bind_eq_ok] at done
  obtain ⟨_, -, _, -, adapter, -, done⟩ := done
  cases adapter with
  | none =>
      cases done
      exact .judged rfl (by decide)
  | some adapter => exact alternativeFirewall_determined done

theorem evaluatePc15_determined
    (done : evaluatePc15 env value catalog = .ok made) :
    Determined False True made := by
  simp only [evaluatePc15, Outcome.bind_eq_ok] at done
  obtain ⟨_, -, _, -, adapter, -, done⟩ := done
  cases adapter with
  | none =>
      cases done
      exact .judged rfl (by decide)
  | some adapter =>
      dsimp only at done
      split at done
      · simp only [Outcome.bind_eq_ok] at done
        obtain ⟨_, -, done⟩ := done
        cases done
        exact .incomplete rfl (by decide)
      split at done
      · cases done
        exact .incomplete rfl (by decide)
      · exact effectiveProfiles_determined done

end SecAI.Rules.EndpointProtection

/-! ## PC-16 to PC-18 -/

namespace SecAI.Rules.UserMediaRemote

open SecAI.Rules.Registry
open SecAI.Rules (ensure_eq_ok)

variable {value : Json} {organizationPolicy : Option Json}
  {made : RuleDecision}

theorem evaluatePc16_determined (done : evaluatePc16 value = .ok made) :
    Determined False True made := by
  simp only [evaluatePc16, Outcome.bind_eq_ok] at done
  obtain ⟨_, -, _, -, _, -, _, -, _, -, done⟩ := done
  split at done
  · cases done
    exact .incomplete rfl (by decide)
  simp only [compareScreenSaver, Outcome.bind_eq_ok] at done
  obtain ⟨_, -, done⟩ := done
  split at done
  · cases done
    exact .judged rfl (by decide)
  split at done
  · cases done
    exact .judged rfl (by decide)
  · cases done
    exact .met rfl trivial

/-- The policy attests an approved procedure for all removable media. -/
def ApprovesProcedure (policy : Json) : Prop :=
  ∃ attestationId, statusOf policy = .ok ("APPROVED", attestationId)

theorem procedureStatus_approved {procedure : String × String}
    (read : procedureStatus organizationPolicy = .ok procedure)
    (approved : procedure.1 = "APPROVED") :
    ∃ policy ∈ organizationPolicy, ApprovesProcedure policy := by
  obtain ⟨status, attestationId⟩ := procedure
  cases organizationPolicy with
  | none =>
      cases read
      simp at approved
  | some policy =>
      dsimp only at approved
      subst approved
      exact ⟨policy, rfl, attestationId, read⟩

theorem evaluatePc17_determined
    (done : evaluatePc17 value organizationPolicy = .ok made) :
    Determined False (∃ policy ∈ organizationPolicy,
      ApprovesProcedure policy) made := by
  simp only [evaluatePc17, Outcome.bind_eq_ok] at done
  obtain ⟨_, -, _, -, _, -, _, -, _, -, _, -, done⟩ := done
  split at done
  · simp only [managedMedia, Outcome.bind_eq_ok] at done
    obtain ⟨procedure, read, done⟩ := done
    split at done
    · cases done
      exact .judged rfl (by decide)
    next approved =>
      cases done
      exact .met rfl
        (procedureStatus_approved read (not_not.mp approved))
  · cases done
    exact .judged rfl (by decide)

/-- One of the two remote assistance settings is neither one of the two values
nor absent. -/
def UnrecognisedAssistance (value : Json) : Prop :=
  (∀ state ∈ ["0", "1", "MISSING"],
    value.member "f_allow_to_get_help" ≠ some (.str state)) ∨
  ∀ state ∈ ["0", "1", "MISSING"],
    value.member "f_allow_unsolicited" ≠ some (.str state)

theorem unrecognised_iff {solicited offer : String}
    (first : value.member "f_allow_to_get_help" = some (.str solicited))
    (second : value.member "f_allow_unsolicited" = some (.str offer)) :
    UnrecognisedAssistance value ↔
      solicited ∉ ["0", "1", "MISSING"] ∨ offer ∉ ["0", "1", "MISSING"] := by
  have absent : ∀ {states : List String} {state : String},
      (∀ other ∈ states, some (Json.str state) ≠ some (.str other)) ↔
        state ∉ states := by
    intro states state
    constructor
    case mp => exact fun differs member => differs state member rfl
    case mpr =>
      intro absent other member same
      rw [Option.some.injEq, Json.str.injEq] at same
      exact absent (same ▸ member)
  rw [UnrecognisedAssistance, first, second, absent, absent]

theorem evaluatePc18_determined (done : evaluatePc18 value = .ok made) :
    Determined (UnrecognisedAssistance value) True made := by
  simp only [evaluatePc18, Outcome.bind_eq_ok] at done
  obtain ⟨solicited, first, offer, second, _, -, done⟩ := done
  have unread := unrecognised_iff (string_eq_some first)
    (string_eq_some second)
  split at done
  next unrecognised =>
    cases done
    exact .unreadable (isIdentifier_ofList rfl) (unread.mpr unrecognised)
  next recognised =>
    have recognised := mt unread.mp recognised
    split at done
    · cases done
      exact .decided (isIdentifier_ofList rfl) (by decide) recognised
    split at done
    · cases done
      exact .decided (isIdentifier_ofList rfl) (by decide) recognised
    · cases done
      exact .passed (isIdentifier_ofList rfl) recognised trivial

end SecAI.Rules.UserMediaRemote
