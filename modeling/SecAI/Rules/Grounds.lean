/-
Module: SecAI.Rules.Grounds
Purpose: What a decision rests on, in every registry: collected evidence, an
  accepted policy where the organization sets the criteria, approved rules.
Trusted boundary: see SecAI.Rules.Registry and SecAI.Rules.VolumeVerdict
Main exports:
  RuleRegistry.evaluate, AcceptedPolicy, decisions_have_grounds
-/
import SecAI.Findings.Replay
import SecAI.Rules.Determined
import SecAI.Rules.VolumeVerdict

namespace SecAI.Rules.Registry

open SecAI.Findings (isIdentifier)
open SecAI.Rules (ensure_eq_ok parametersAreApproved)

/-! ## The registries -/

/-- The registries that evaluate one evidence record. -/
inductive RuleRegistry where
  | accountPolicy
  | serviceManagement
  | patchLifecycle
  | endpointProtection
  | userMediaRemote

/-- The arguments of `evaluate`; a registry takes those it has a parameter
for. -/
structure RuleRequest where
  controlId : String
  applicabilityRule : Json
  evaluationRule : Json
  evidence : Json
  organizationPolicy : Option Json
  referenceSnapshot : Option Json
  adapterCatalog : Option Json

/-- `_RULES` of a registry. -/
def RuleRegistry.rules : RuleRegistry → List (String × RuleDefinition)
  | .accountPolicy => AccountPolicy.rules
  | .serviceManagement => ServiceManagement.rules
  | .patchLifecycle => PatchLifecycle.rules
  | .endpointProtection => EndpointProtection.rules
  | .userMediaRemote => UserMediaRemote.rules

/-- `evaluate` of a registry. -/
def RuleRegistry.evaluate (registry : RuleRegistry)
    (env : RegistryEnvironment) (request : RuleRequest) :
    Except RegistryFault RuleDecision :=
  match registry with
  | .accountPolicy =>
      AccountPolicy.evaluate request.controlId request.applicabilityRule
        request.evaluationRule request.evidence request.organizationPolicy
  | .serviceManagement =>
      ServiceManagement.evaluate request.controlId request.applicabilityRule
        request.evaluationRule request.evidence request.organizationPolicy
  | .patchLifecycle =>
      PatchLifecycle.evaluate env request.controlId request.applicabilityRule
        request.evaluationRule request.evidence request.referenceSnapshot
        request.organizationPolicy
  | .endpointProtection =>
      EndpointProtection.evaluate env request.controlId
        request.applicabilityRule request.evaluationRule request.evidence
        request.adapterCatalog request.organizationPolicy
  | .userMediaRemote =>
      UserMediaRemote.evaluate request.controlId request.applicabilityRule
        request.evaluationRule request.evidence request.organizationPolicy

/-! ## Policies and values -/

def organizationControls : List String :=
  ["PC-02", "PC-04", "PC-05", "PC-06", "PC-10", "PC-11", "PC-13", "PC-17"]

/-- The policy is one that the rule of the control accepts. -/
inductive AcceptedPolicy : String → Json → Prop where
  | passwords {policy : Json}
      (read : (AccountPolicy.passwordStandard policy).isOk = true) :
      AcceptedPolicy "PC-02" policy
  | shares {policy : Json}
      (read : (ServiceManagement.identifiersOf policy
        "approved_share_ids").isOk = true) :
      AcceptedPolicy "PC-04" policy
  | services {policy : Json}
      (read : (ServiceManagement.identifiersOf policy
        "unnecessary_service_ids").isOk = true) :
      AcceptedPolicy "PC-05" policy
  | messengers {policy : Json}
      (read : (ServiceManagement.identifiersOf policy
        "denied_product_ids").isOk = true) :
      AcceptedPolicy "PC-06" policy
  | patches {policy : Json} (approves : PatchLifecycle.ApprovesSnapshot policy) :
      AcceptedPolicy "PC-10" policy
  | lifecycle {policy : Json}
      (approves : PatchLifecycle.ApprovesSnapshot policy) :
      AcceptedPolicy "PC-11" policy
  | freshness {policy : Json}
      (sets : EndpointProtection.SetsFreshness policy) :
      AcceptedPolicy "PC-13" policy
  | media {policy : Json}
      (approves : UserMediaRemote.ApprovesProcedure policy) :
      AcceptedPolicy "PC-17" policy

/-- The value has a setting that the rule of the control does not know. -/
def Unrecognised (controlId : String) (value : Json) : Prop :=
  (controlId = "PC-12" ∧ EndpointProtection.UnrecognisedLogon value) ∨
    (controlId = "PC-18" ∧ UserMediaRemote.UnrecognisedAssistance value)

/-- If the criteria of the control come from the organization, there is a
policy that its rule accepts. -/
def PolicyAsNeeded (controlId : String) (organizationPolicy : Option Json) :
    Prop :=
  controlId ∈ organizationControls →
    ∃ policy ∈ organizationPolicy, AcceptedPolicy controlId policy

theorem Determined.imp {unrecognised accepted unread policy : Prop}
    {decision : RuleDecision}
    (determined : Determined unrecognised accepted decision)
    (sameReading : unrecognised ↔ unread) (weaker : accepted → policy) :
    Determined unread policy decision := by
  cases determined with
  | passed code recognised accepts =>
      exact .passed code (mt sameReading.mpr recognised) (weaker accepts)
  | decided code isStatus recognised =>
      exact .decided code isStatus (mt sameReading.mpr recognised)
  | failed code isCode recognised =>
      exact .failed code isCode (mt sameReading.mpr recognised)
  | unreadable code unread => exact .unreadable code (sameReading.mp unread)

section Values

variable {env : RegistryEnvironment} {controlId : String}
  {value evidence : Json} {organizationPolicy : Option Json}
  {made : RuleDecision}

theorem recognised_of_control (notLogon : controlId ≠ "PC-12")
    (notAssistance : controlId ≠ "PC-18") :
    False ↔ Unrecognised controlId value := by
  simp [Unrecognised, notLogon, notAssistance]

theorem policyAsNeeded_of_control (fixed : controlId ∉ organizationControls) :
    PolicyAsNeeded controlId organizationPolicy :=
  fun listed => (fixed listed).elim

theorem listed_of_lookup {rules : List (String × RuleDefinition)}
    {definition : RuleDefinition}
    (listed : rules.lookup controlId = some definition) :
    controlId ∈ rules.map Prod.fst := by
  obtain ⟨before, after, same, -⟩ := List.lookup_eq_some_iff.mp listed
  rw [same]
  simp

theorem accountPolicy_determined {source : String}
    (listed : controlId ∈ AccountPolicy.rules.map Prod.fst)
    (done : AccountPolicy.evaluateValue controlId value source
      organizationPolicy = .ok made) :
    Determined (Unrecognised controlId value)
      (PolicyAsNeeded controlId organizationPolicy) made := by
  simp only [AccountPolicy.rules, List.map_cons, List.map_nil, List.mem_cons,
    List.not_mem_nil, or_false] at listed
  rcases listed with rfl | rfl | rfl
  · exact (AccountPolicy.evaluatePc01_determined done).imp
      (recognised_of_control (by decide) (by decide))
      fun _ => policyAsNeeded_of_control (by decide)
  · exact (AccountPolicy.evaluatePc02_determined done).imp
      (recognised_of_control (by decide) (by decide))
      fun ⟨policy, isPolicy, read⟩ _ => ⟨policy, isPolicy, .passwords read⟩
  · cases done
    exact AccountPolicy.evaluatePc03_determined.imp
      (recognised_of_control (by decide) (by decide))
      fun _ => policyAsNeeded_of_control (by decide)

theorem serviceManagement_determined
    (listed : controlId ∈ ServiceManagement.rules.map Prod.fst)
    (done : ServiceManagement.evaluateValue controlId value
      organizationPolicy = .ok made) :
    Determined (Unrecognised controlId value)
      (PolicyAsNeeded controlId organizationPolicy) made := by
  simp only [ServiceManagement.rules, List.map_cons, List.map_nil,
    List.mem_cons, List.not_mem_nil, or_false] at listed
  rcases listed with rfl | rfl | rfl | rfl | rfl
  · exact (ServiceManagement.evaluatePc04_determined done).imp
      (recognised_of_control (by decide) (by decide))
      fun ⟨policy, isPolicy, read⟩ _ => ⟨policy, isPolicy, .shares read⟩
  · exact (ServiceManagement.evaluatePc05_determined done).imp
      (recognised_of_control (by decide) (by decide))
      fun ⟨policy, isPolicy, read⟩ _ => ⟨policy, isPolicy, .services read⟩
  · exact (ServiceManagement.evaluatePc06_determined done).imp
      (recognised_of_control (by decide) (by decide))
      fun ⟨policy, isPolicy, read⟩ _ => ⟨policy, isPolicy, .messengers read⟩
  · exact (ServiceManagement.evaluatePc08_determined done).imp
      (recognised_of_control (by decide) (by decide))
      fun _ => policyAsNeeded_of_control (by decide)
  · exact (ServiceManagement.evaluatePc09_determined done).imp
      (recognised_of_control (by decide) (by decide))
      fun _ => policyAsNeeded_of_control (by decide)

theorem patchLifecycle_determined {referenceSnapshot : Option Json}
    (listed : controlId ∈ PatchLifecycle.rules.map Prod.fst)
    (done : PatchLifecycle.evaluateValue env controlId value evidence
      referenceSnapshot organizationPolicy = .ok made) :
    Determined (Unrecognised controlId value)
      (PolicyAsNeeded controlId organizationPolicy) made := by
  simp only [PatchLifecycle.rules, List.map_cons, List.map_nil,
    List.mem_cons, List.not_mem_nil, or_false] at listed
  rcases listed with rfl | rfl
  · exact (PatchLifecycle.evaluateValue_determined done).imp
      (recognised_of_control (by decide) (by decide))
      fun ⟨policy, isPolicy, approves⟩ _ =>
        ⟨policy, isPolicy, .patches approves⟩
  · exact (PatchLifecycle.evaluateValue_determined done).imp
      (recognised_of_control (by decide) (by decide))
      fun ⟨policy, isPolicy, approves⟩ _ =>
        ⟨policy, isPolicy, .lifecycle approves⟩

theorem endpointProtection_determined {adapterCatalog : Option Json}
    (listed : controlId ∈ EndpointProtection.rules.map Prod.fst)
    (done : EndpointProtection.evaluateValue env controlId value evidence
      adapterCatalog organizationPolicy = .ok made) :
    Determined (Unrecognised controlId value)
      (PolicyAsNeeded controlId organizationPolicy) made := by
  simp only [EndpointProtection.rules, List.map_cons, List.map_nil,
    List.mem_cons, List.not_mem_nil, or_false] at listed
  by_cases logon : controlId = "PC-12"
  · subst logon
    exact (EndpointProtection.evaluatePc12_determined done).imp
      (by simp [Unrecognised])
      fun _ => policyAsNeeded_of_control (by decide)
  have recognised : False ↔ Unrecognised controlId value := by
    refine recognised_of_control logon ?_
    rintro rfl
    simp at listed
  cases adapterCatalog with
  | none =>
      simp only [EndpointProtection.evaluateValue, if_neg logon] at done
      cases done
      exact .decided (isIdentifier_ofList rfl) (by decide) recognised.mpr
  | some catalog =>
      simp only [EndpointProtection.evaluateValue, if_neg logon,
        Outcome.bind_eq_ok] at done
      obtain ⟨catalog, -, done⟩ := done
      rcases listed with rfl | rfl | rfl | rfl
      · exact (logon rfl).elim
      · exact (EndpointProtection.evaluatePc13_determined done).imp recognised
          fun ⟨policy, isPolicy, sets⟩ _ => ⟨policy, isPolicy, .freshness sets⟩
      · exact (EndpointProtection.evaluatePc14_determined done).imp recognised
          fun _ => policyAsNeeded_of_control (by decide)
      · exact (EndpointProtection.evaluatePc15_determined done).imp recognised
          fun _ => policyAsNeeded_of_control (by decide)

theorem userMediaRemote_determined
    (listed : controlId ∈ UserMediaRemote.rules.map Prod.fst)
    (done : UserMediaRemote.evaluateValue controlId value
      organizationPolicy = .ok made) :
    Determined (Unrecognised controlId value)
      (PolicyAsNeeded controlId organizationPolicy) made := by
  simp only [UserMediaRemote.rules, List.map_cons, List.map_nil,
    List.mem_cons, List.not_mem_nil, or_false] at listed
  rcases listed with rfl | rfl | rfl
  · exact (UserMediaRemote.evaluatePc16_determined done).imp
      (recognised_of_control (by decide) (by decide))
      fun _ => policyAsNeeded_of_control (by decide)
  · exact (UserMediaRemote.evaluatePc17_determined done).imp
      (recognised_of_control (by decide) (by decide))
      fun ⟨policy, isPolicy, approves⟩ _ => ⟨policy, isPolicy, .media approves⟩
  · exact (UserMediaRemote.evaluatePc18_determined done).imp
      (by simp [Unrecognised])
      fun _ => policyAsNeeded_of_control (by decide)

end Values

/-! ## The rule package -/

/-- The rule has this identifier, this version and these parameters, and
nothing else. -/
def RefersTo (rule : Json) (identity : String × String)
    (approved : List (String × Json)) : Prop :=
  hasExactKeys rule ["rule_id", "rule_version", "parameters"] = true ∧
    rule.member "rule_id" = some (.str identity.1) ∧
    rule.member "rule_version" = some (.str identity.2) ∧
    ∃ parameters, rule.member "parameters" = some parameters ∧
      parametersAreApproved approved parameters = true

/-- The rule package is the one that the registry has approved for the
control. -/
def HasApprovedRules (registry : RuleRegistry) (request : RuleRequest) : Prop :=
  ∃ definition, registry.rules.lookup request.controlId = some definition ∧
    RefersTo request.applicabilityRule definition.applicability
      definition.applicabilityParameters ∧
    RefersTo request.evaluationRule definition.evaluation
      definition.evaluationParameters

theorem mapping_eq_ok {value : Option Json} {message : String}
    {mapping : Json} (read : Registry.mapping value message = .ok mapping) :
    value = some mapping := by
  unfold Registry.mapping at read
  split at read
  · cases read
    rfl
  · cases read

theorem ruleReference_eq_ok {rule : Json} {reference : RuleReference}
    (read : ruleReference rule = .ok reference) :
    hasExactKeys rule ["rule_id", "rule_version", "parameters"] = true ∧
      rule.member "rule_id" = some (.str reference.identity.1) ∧
      rule.member "rule_version" = some (.str reference.identity.2) ∧
      rule.member "parameters" = some reference.parameters := by
  simp only [ruleReference, Outcome.bind_eq_ok, ensure_eq_ok] at read
  obtain ⟨found, isMapping, _, keys, ruleId, readId, version, readVersion,
    parameters, readParameters, made⟩ := read
  cases made
  cases mapping_eq_ok isMapping
  exact ⟨keys, string_eq_some readId, string_eq_some readVersion,
    mapping_eq_ok readParameters⟩

theorem checkRulePackage_eq_ok {texts : RegistryTexts}
    {rules : List (String × RuleDefinition)} {controlId : String}
    {applicabilityRule evaluationRule : Json} {definition : RuleDefinition}
    (done : checkRulePackage texts rules controlId applicabilityRule
      evaluationRule = .ok definition) :
    rules.lookup controlId = some definition ∧
      RefersTo applicabilityRule definition.applicability
        definition.applicabilityParameters ∧
      RefersTo evaluationRule definition.evaluation
        definition.evaluationParameters := by
  simp only [checkRulePackage, Outcome.bind_eq_ok, ensure_eq_ok] at done
  obtain ⟨found, listed, applicability, readApplicability, evaluation,
    readEvaluation, _, ⟨sameApplicability, sameEvaluation⟩, _, first, _, second,
    made⟩ := done
  cases made
  have isListed : rules.lookup controlId = some definition := by
    cases same : rules.lookup controlId with
    | none =>
        rw [same] at listed
        cases listed
    | some other =>
        rw [same] at listed
        cases listed
        rfl
  obtain ⟨keys, ruleId, version, parameters⟩ :=
    ruleReference_eq_ok readApplicability
  obtain ⟨otherKeys, otherId, otherVersion, otherParameters⟩ :=
    ruleReference_eq_ok readEvaluation
  rw [sameApplicability] at ruleId version
  rw [sameEvaluation] at otherId otherVersion
  exact ⟨isListed, ⟨keys, ruleId, version, _, parameters, first⟩,
    otherKeys, otherId, otherVersion, _, otherParameters, second⟩

/-! ## The record -/

def WasCollected (record : Json) : Prop :=
  record.member "collection_status" = some (.str "COLLECTED")

/-- The decision is made of what became of the collection: its error, or the
value that it found. -/
inductive Reported (request : RuleRequest) : RuleDecision → Prop where
  | uncollected {errorCode controlId resultCode actual expected : String}
      {details : List (String × String)}
      (failed : ¬WasCollected request.evidence)
      (read : request.evidence.member "error_code" = some (.str errorCode))
      (code : isIdentifier resultCode.toList = true) :
      Reported request ⟨controlId, "ERROR", resultCode, actual, expected,
        resultCode, [errorCode], details⟩
  | collected {value : Json} {decision : RuleDecision}
      (taken : WasCollected request.evidence)
      (read : request.evidence.member "normalized_value" = some value)
      (determined : Determined (Unrecognised request.controlId value)
        (PolicyAsNeeded request.controlId request.organizationPolicy)
        decision) :
      Reported request decision

theorem collection_cases {evidence : Json} {missing : String}
    {outcome : Collection} (done : collection evidence missing = .ok outcome) :
    (∃ errorCode, outcome = .failed errorCode ∧ ¬WasCollected evidence ∧
      evidence.member "error_code" = some (.str errorCode)) ∨
    ∃ value, outcome = .collected value ∧ WasCollected evidence ∧
      evidence.member "normalized_value" = some value := by
  unfold collection at done
  split at done
  next failed =>
    simp only [Outcome.bind_eq_ok, ensure_eq_ok] at done
    obtain ⟨errorCode, read, _, -, made⟩ := done
    cases made
    exact .inl ⟨errorCode, rfl, failed, string_eq_some read⟩
  next taken =>
    simp only [Outcome.bind_eq_ok, ensure_eq_ok] at done
    obtain ⟨_, -, value, read, made⟩ := done
    cases made
    exact .inr ⟨value, rfl, not_not.mp taken, mapping_eq_ok read⟩

/-! ## The evaluation -/

/-- The steps that the registries share: the checks of the rule package and of
the scope, and the outcome of the collection. -/
def gated (texts : RegistryTexts) (rules : List (String × RuleDefinition))
    (request : RuleRequest) (missing : String)
    (onFailure : String → Except RegistryFault RuleDecision)
    (onValue : Json → Except RegistryFault RuleDecision) :
    Except RegistryFault RuleDecision := do
  let definition ← checkRulePackage texts rules request.controlId
    request.applicabilityRule request.evaluationRule
  checkScope texts definition request.controlId request.evidence
  match ← collection request.evidence missing with
  | .failed errorCode => onFailure errorCode
  | .collected value => onValue value

theorem gated_eq_ok {texts : RegistryTexts}
    {rules : List (String × RuleDefinition)} {request : RuleRequest}
    {missing : String}
    {onFailure : String → Except RegistryFault RuleDecision}
    {onValue : Json → Except RegistryFault RuleDecision} {made : RuleDecision}
    (done : gated texts rules request missing onFailure onValue = .ok made) :
    (∃ definition, rules.lookup request.controlId = some definition ∧
      RefersTo request.applicabilityRule definition.applicability
        definition.applicabilityParameters ∧
      RefersTo request.evaluationRule definition.evaluation
        definition.evaluationParameters) ∧
    ((∃ errorCode, ¬WasCollected request.evidence ∧
        request.evidence.member "error_code" = some (.str errorCode) ∧
        onFailure errorCode = .ok made) ∨
      ∃ value, WasCollected request.evidence ∧
        request.evidence.member "normalized_value" = some value ∧
        onValue value = .ok made) := by
  simp only [gated, Outcome.bind_eq_ok] at done
  obtain ⟨definition, approved, _, -, outcome, read, done⟩ := done
  refine ⟨⟨definition, checkRulePackage_eq_ok approved⟩, ?_⟩
  rcases collection_cases read with
    ⟨errorCode, rfl, failed, isCode⟩ | ⟨value, rfl, taken, isValue⟩
  · exact .inl ⟨errorCode, failed, isCode, done⟩
  · exact .inr ⟨value, taken, isValue, done⟩

def registryControls : List String :=
  ["PC-01", "PC-02", "PC-03", "PC-04", "PC-05", "PC-06", "PC-08", "PC-09",
    "PC-10", "PC-11", "PC-12", "PC-13", "PC-14", "PC-15", "PC-16", "PC-17",
    "PC-18"]

theorem controls_listed (registry : RuleRegistry) :
    registry.rules.map Prod.fst ⊆ registryControls := by
  cases registry with
  | accountPolicy => decide
  | serviceManagement => decide
  | patchLifecycle => decide
  | endpointProtection => decide
  | userMediaRemote => decide

theorem collectionResultCode_isIdentifier :
    ∀ controlId ∈ registryControls,
      ∀ suffix ∈ ["_POLICY_COLLECTION_FAILED", "_COLLECTION_FAILED"],
        isIdentifier (collectionResultCode controlId suffix).toList = true := by
  decide

variable {env : RegistryEnvironment} {registry : RuleRegistry}
  {request : RuleRequest} {made : RuleDecision}

/-- The steps of a registry, from what it does of the two outcomes. -/
theorem reported_of_gated (registry : RuleRegistry) (suffix : String)
    {texts : RegistryTexts} {missing : String}
    {onFailure : String → Except RegistryFault RuleDecision}
    {onValue : Json → Except RegistryFault RuleDecision}
    (done : gated texts registry.rules request missing onFailure onValue =
      .ok made)
    (isSuffix : suffix ∈ ["_POLICY_COLLECTION_FAILED", "_COLLECTION_FAILED"])
    (fails : ∀ errorCode, onFailure errorCode = .ok made →
      ∃ actual expected details, made =
        let code := collectionResultCode request.controlId suffix
        ⟨request.controlId, "ERROR", code, actual, expected, code, [errorCode],
          details⟩)
    (decides : request.controlId ∈ registry.rules.map Prod.fst →
      ∀ value, onValue value = .ok made →
        Determined (Unrecognised request.controlId value)
          (PolicyAsNeeded request.controlId request.organizationPolicy) made) :
    HasApprovedRules registry request ∧ Reported request made := by
  obtain ⟨⟨definition, approved⟩, outcome⟩ := gated_eq_ok done
  have listed := listed_of_lookup approved.1
  refine ⟨⟨definition, approved⟩, ?_⟩
  rcases outcome with ⟨errorCode, failed, read, done⟩ | ⟨value, taken, read, done⟩
  · obtain ⟨_, _, _, rfl⟩ := fails errorCode done
    exact .uncollected failed read (collectionResultCode_isIdentifier
      request.controlId (controls_listed registry listed) suffix isSuffix)
  · exact .collected taken read (decides listed value done)

/-- A decision of a registry is made under the approved rules, of what became
of the collection. -/
theorem evaluate_reported (done : registry.evaluate env request = .ok made) :
    HasApprovedRules registry request ∧ Reported request made := by
  cases registry with
  | accountPolicy =>
      refine reported_of_gated .accountPolicy "_POLICY_COLLECTION_FAILED" done
        (by decide) ?_ ?_
      · rintro errorCode ⟨⟩
        exact ⟨_, _, _, rfl⟩
      · intro listed value done
        simp only [Outcome.bind_eq_ok] at done
        obtain ⟨source, -, _, -, done⟩ := done
        exact accountPolicy_determined listed done
  | serviceManagement =>
      refine reported_of_gated .serviceManagement "_COLLECTION_FAILED" done
        (by decide) ?_ fun listed _ => serviceManagement_determined listed
      rintro errorCode ⟨⟩
      exact ⟨_, _, _, rfl⟩
  | patchLifecycle =>
      refine reported_of_gated .patchLifecycle "_COLLECTION_FAILED" done
        (by decide) ?_ fun listed _ => patchLifecycle_determined listed
      intro errorCode done
      obtain ⟨details, rfl⟩ := PatchLifecycle.decision_eq_ok done
      exact ⟨_, _, _, rfl⟩
  | endpointProtection =>
      refine reported_of_gated .endpointProtection "_COLLECTION_FAILED" done
        (by decide) ?_ fun listed _ => endpointProtection_determined listed
      rintro errorCode ⟨⟩
      exact ⟨_, _, _, rfl⟩
  | userMediaRemote =>
      refine reported_of_gated .userMediaRemote "_COLLECTION_FAILED" done
        (by decide) ?_ fun listed _ => userMediaRemote_determined listed
      rintro errorCode ⟨⟩
      exact ⟨_, _, _, rfl⟩

def passwordStandard : Json :=
  .obj [("complexity_required", .bool true),
    ("minimum_password_length", .int 12), ("password_required", .bool true),
    ("standard_id", .str "ORG-PWD-1"), ("version", .str "1.0.0")]

def sampleRegistryEnvironment (answers : Findings.SampleAnswers) :
    RegistryEnvironment :=
  { answers.environment with
    dateFromIsoformat := fun _ => none
    dateOf := fun _ => ⟨1970, 1, 1, by decide, by decide, by decide⟩
    strip := asciiText.strip
    casefold := asciiText.casefold
    repr := fun _ => "" }

/-- The evaluation of a password policy, under the rules of its control. -/
def passwordRequest (organizationPolicy : Option Json) : RuleRequest :=
  { controlId := "PC-02"
    applicabilityRule :=
      (Findings.passwordControl.member "applicability_rule").getD .null
    evaluationRule :=
      (Findings.passwordControl.member "evaluation_rule").getD .null
    evidence := Findings.passwordEvidence
      "3c153ee4-27c4-5940-ab53-7a53a2120aa8"
      "33000000-0000-4000-8000-000000000016"
    organizationPolicy := organizationPolicy
    referenceSnapshot := none
    adapterCatalog := none }

end SecAI.Rules.Registry

namespace SecAI.Rules

open SecAI.Auth (UnicodeText)
open SecAI.Rules.Registry (RefersTo WasCollected RuleRegistry RuleRequest
  RegistryEnvironment RuleDecision)

section Volumes

variable {evidence : Multiset Json} {records : List NormalizedEvidenceRecord}

/-- An applicability that is determined rests on subjects that are all
classified, and on candidates that are complete. -/
theorem evaluatePc07Applicability_complete (read : WellRead evidence records)
    (determined :
      (evaluatePc07Applicability records).status ≠ .undetermined) :
    (∀ subject, IsSubject evidence subject →
      TrustedExclusion evidence subject ∨ Candidate evidence subject) ∧
    ∀ subject, Candidate evidence subject → Complete evidence subject := by
  unfold evaluatePc07Applicability at determined
  dsimp only at determined
  split at determined
  · exact (determined rfl).elim
  next classified =>
    split at determined
    · exact (determined rfl).elim
    next noErrors =>
      refine ⟨fun subject isSubject => ?_,
        (candidateErrors_eq_nil read).mp (not_not.mp noErrors)⟩
      by_contra neither
      rw [not_or] at neither
      exact classified ((classificationIncomplete_iff read).mpr
        ⟨subject, isSubject, neither⟩)

theorem sortedSet_ne_nil {codes : List String} (some_code : codes ≠ []) :
    Ordered.sortedSet codes ≠ [] := by
  obtain ⟨code, member⟩ := List.exists_mem_of_ne_nil codes some_code
  exact List.ne_nil_of_mem (Ordered.mem_sortedSet.mpr member)

theorem evaluatePc07Applicability_codes
    (undetermined :
      (evaluatePc07Applicability records).status = .undetermined) :
    (evaluatePc07Applicability records).errorCodes ≠ [] := by
  unfold evaluatePc07Applicability at undetermined ⊢
  dsimp only at undetermined ⊢
  split
  · dsimp only
    split
    · exact List.cons_ne_nil _ _
    next codes => exact codes
  · split
    next some_error => exact sortedSet_ne_nil some_error
    · split
      · exact List.cons_ne_nil _ _
      next some_candidate =>
        simp_all

variable {unicode : UnicodeText} {decision : DecisionCandidate}

/-- The operator reports error codes exactly if it reports an error. -/
theorem evaluatePc07Ntfs_error_iff
    (done : evaluatePc07Ntfs unicode (evaluatePc07Applicability records)
      records = .ok decision) :
    decision.status = .error ↔ decision.errorCodes ≠ [] := by
  unfold evaluatePc07Ntfs at done
  split at done
  next undetermined =>
    cases done
    exact iff_of_true rfl (evaluatePc07Applicability_codes undetermined)
  next =>
    split at done
    · cases done
    · cases done
      exact iff_of_true rfl (List.cons_ne_nil _ _)
    cases done
    unfold decideFilesystems
    dsimp only
    split
    · simp
    · simp

/-- A failed record leaves an error, unless its volume is excluded. -/
theorem evaluatePc07Ntfs_uncollected (read : WellRead evidence records)
    (done : evaluatePc07Ntfs unicode (evaluatePc07Applicability records)
      records = .ok decision) {item : Json} (member : item ∈ evidence)
    (failed : ¬WasCollected item) {subject : String}
    (isAbout : About item subject)
    (counts : ¬TrustedExclusion evidence subject) :
    decision.status = .error := by
  unfold evaluatePc07Ntfs at done
  split at done
  next =>
    cases done
    rfl
  next determined =>
    exfalso
    obtain ⟨classified, complete⟩ :=
      evaluatePc07Applicability_complete read determined
    have candidate := (classified subject ⟨item, member, isAbout⟩).resolve_left
      counts
    have taken := (read.complete_iff.mpr (complete subject candidate)).2
    obtain ⟨record, isRecord, made⟩ := read.recorded item member
    have status := made.status
    rw [taken record isRecord (made.subject.unique isAbout)] at status
    exact failed status

end Volumes

theorem ruleReference_eq_ok {rule : Json} {reference : RuleReference}
    (read : ruleReference rule = .ok reference) :
    hasExactKeys rule ["rule_id", "rule_version", "parameters"] = true ∧
      rule.member "rule_id" = some (.str reference.ruleId) ∧
      rule.member "rule_version" = some (.str reference.ruleVersion) ∧
      rule.member "parameters" = some reference.parameters := by
  simp only [ruleReference, Outcome.bind_eq_ok, ensure_eq_ok, string_eq_ok,
    mapping_eq_ok] at read
  obtain ⟨_, keys, ruleId, ⟨readId, -⟩, version, ⟨readVersion, -⟩, parameters,
    ⟨readParameters, -⟩, made⟩ := read
  cases made
  exact ⟨keys, readId, readVersion, readParameters⟩

variable {applicabilityRule evaluationRule : Json}

theorem checkRules_eq_ok {controlId : String}
    (approved : checkRules controlId applicabilityRule evaluationRule =
      .ok ()) :
    controlId = "PC-07" ∧
      RefersTo applicabilityRule ("pc07.applicability", "0.1.0")
        approvedApplicabilityParameters ∧
      RefersTo evaluationRule ("pc07.ntfs", "0.1.0")
        approvedEvaluationParameters := by
  simp only [checkRules, Outcome.bind_eq_ok, ensure_eq_ok] at approved
  obtain ⟨applicability, readApplicability, evaluation, readEvaluation, _,
    ⟨control, sameApplicability, sameEvaluation⟩, _, first, second⟩ := approved
  obtain ⟨keys, ruleId, version, parameters⟩ :=
    ruleReference_eq_ok readApplicability
  obtain ⟨otherKeys, otherId, otherVersion, otherParameters⟩ :=
    ruleReference_eq_ok readEvaluation
  rw [Prod.mk.injEq] at sameApplicability sameEvaluation
  rw [sameApplicability.1] at ruleId
  rw [sameApplicability.2] at version
  rw [sameEvaluation.1] at otherId
  rw [sameEvaluation.2] at otherVersion
  exact ⟨control, ⟨keys, ruleId, version, _, parameters, first⟩,
    otherKeys, otherId, otherVersion, _, otherParameters, second⟩

/-- What a decision about one record rests on. -/
structure HasGrounds (registry : RuleRegistry) (request : RuleRequest)
    (decision : RuleDecision) : Prop where
  approved : Registry.HasApprovedRules registry request
  uncollected : ¬WasCollected request.evidence → decision.status = "ERROR"
  errors : decision.status = "ERROR" ↔ decision.errorCodes ≠ []
  policy : decision.status = "PASS" →
    Registry.PolicyAsNeeded request.controlId request.organizationPolicy

/-- What a decision about volumes rests on: a record that was not collected is
passed over only if it is about a volume that is excluded for a trusted
reason. -/
structure HasVolumeGrounds (controlId : String)
    (applicabilityRule evaluationRule : Json) (evidence : List Json)
    (decision : DecisionCandidate) : Prop where
  control : controlId = "PC-07"
  applicability : RefersTo applicabilityRule ("pc07.applicability", "0.1.0")
    approvedApplicabilityParameters
  evaluation : RefersTo evaluationRule ("pc07.ntfs", "0.1.0")
    approvedEvaluationParameters
  uncollected : ∀ item ∈ evidence, ¬WasCollected item →
    ∀ subject, About item subject →
      ¬TrustedExclusion (evidence : Multiset Json) subject →
      decision.status = .error
  errors : decision.status = .error ↔ decision.errorCodes ≠ []

theorem evaluate_hasGrounds {env : RegistryEnvironment}
    {registry : RuleRegistry} {request : RuleRequest}
    {decision : RuleDecision}
    (done : registry.evaluate env request = .ok decision) :
    HasGrounds registry request decision := by
  obtain ⟨approved, reported⟩ := Registry.evaluate_reported done
  cases reported with
  | uncollected failed read code =>
      exact {
        approved := approved
        uncollected := fun _ => rfl
        errors := iff_of_true rfl (List.cons_ne_nil _ _)
        policy := fun passes => by simp at passes }
  | collected taken read determined =>
      exact {
        approved := approved
        uncollected := fun failed => (failed taken).elim
        errors := determined.error_iff
        policy := determined.policy_of_pass }

theorem evaluate_hasVolumeGrounds {unicode : UnicodeText} {controlId : String}
    {evidence : List Json} {decision : DecisionCandidate}
    (done : evaluate unicode controlId applicabilityRule evaluationRule
      evidence = .ok decision) :
    HasVolumeGrounds controlId applicabilityRule evaluationRule evidence
      decision := by
  simp only [evaluate, Outcome.bind_eq_ok] at done
  obtain ⟨_, approved, records, parsed, done⟩ := done
  obtain ⟨control, applicability, evaluation⟩ := checkRules_eq_ok approved
  have read := parseEvidence_wellRead parsed
  exact {
    control := control
    applicability := applicability
    evaluation := evaluation
    uncollected := fun item member failed subject isAbout counts =>
      evaluatePc07Ntfs_uncollected read done (Multiset.mem_coe.mpr member)
        failed isAbout counts
    errors := evaluatePc07Ntfs_error_iff done }

/-- Every decision of a registry has its grounds. -/
theorem decisions_have_grounds :
    (∀ (env : RegistryEnvironment) (registry : RuleRegistry)
      (request : RuleRequest) (decision : RuleDecision),
      registry.evaluate env request = .ok decision →
      HasGrounds registry request decision) ∧
    ∀ (unicode : UnicodeText) (controlId : String)
      (applicabilityRule evaluationRule : Json) (evidence : List Json)
      (decision : DecisionCandidate),
      evaluate unicode controlId applicabilityRule evaluationRule evidence =
        .ok decision →
      HasVolumeGrounds controlId applicabilityRule evaluationRule evidence
        decision :=
  ⟨fun _ _ _ _ => evaluate_hasGrounds,
    fun _ _ _ _ _ _ => evaluate_hasVolumeGrounds⟩

/-- The decision on a password policy that meets the standard. -/
def passwordsInOrder : RuleDecision :=
  AccountPolicy.decision "PC-02" "PASS"
    "PASSWORD_POLICY_MEETS_ORGANIZATION_STANDARD"
    "최소 14자, 복잡성 사용, 비밀번호 사용"
    "조직 기준: 최소 12자, 복잡성 사용, 비밀번호 사용" "LOCAL" []

/-- The decision on the volume `C`. -/
def volumeInOrder : DecisionCandidate :=
  { status := .compliant
    applicability :=
      { status := .applicable
        reasonCode := "WINDOWS_FIXED_VOLUME_SET"
        candidateVolumeIds := ["C"]
        excludedVolumes := []
        errorCodes := [] }
    subjectScope := "VOLUME"
    subjectKey := "pc07:evaluated-volume-set"
    resultCode := "ALL_EVALUATED_VOLUMES_NTFS"
    evaluatedVolumeIds := ["C"]
    violatingVolumeIds := []
    errorCodes := []
    rationaleCode := "ALL_EVALUATED_VOLUMES_NTFS" }

theorem compliant_decisions_have_grounds :
    HasGrounds .accountPolicy
        (Registry.passwordRequest (some Registry.passwordStandard))
        passwordsInOrder ∧
      HasVolumeGrounds "PC-07" packApplicabilityRule packEvaluationRule
        (oneVolume "NTFS" (.str "UNLOCKED")) volumeInOrder :=
  ⟨decisions_have_grounds.1 (Registry.sampleRegistryEnvironment ⟨[], []⟩)
      .accountPolicy _ _ (by decide +kernel),
    decisions_have_grounds.2 asciiText _ _ _ _ _ (by decide +kernel)⟩

/-- A document about the system partition `EFI`. -/
def systemPartitionDocument (probe status errorCode : String)
    (value : List (String × Json)) : Json :=
  .obj ([("asset_id", .str "asset"), ("collection_status", .str status),
    ("control_id", .str "PC-07"), ("error_code", .str errorCode),
    ("id", .str ("EFI " ++ probe)), ("job_id", .str "job")] ++ value ++
    [("package_id", .str "package"), ("probe_id", .str probe),
    ("probe_version", .str "0.1.0"),
    ("subject", .obj [("scope", .str "VOLUME"), ("subject_key", .str "EFI")])])

/-- The evidence of a system partition whose volume probe has timed out. -/
def systemPartition : List Json :=
  [systemPartitionDocument "win.storage.volumes" "ERROR" "PROBE_TIMEOUT" [],
    systemPartitionDocument "win.storage.partitions" "COLLECTED" "NONE"
      [("normalized_value", .obj [("partition_role", .str "EFI_SYSTEM"),
        ("trusted_role_identity", .bool true), ("volume_id", .str "EFI")])],
    systemPartitionDocument "win.storage.disks" "COLLECTED" "NONE"
      [("normalized_value", .obj [("is_online", .bool true),
        ("volume_class", .str "EFI_SYSTEM_PARTITION"),
        ("volume_id", .str "EFI")])]]

/-- The timeout of a volume that is excluded does not keep the others from
being compliant. -/
theorem excluded_timeout_is_passed_over :
    (∃ item ∈ systemPartition ++ oneVolume "NTFS" (.str "UNLOCKED"),
      ¬WasCollected item) ∧
    (evaluate asciiText "PC-07" packApplicabilityRule packEvaluationRule
        (systemPartition ++ oneVolume "NTFS" (.str "UNLOCKED"))).map
      (·.status) = .ok .compliant := by
  refine ⟨⟨_, List.mem_append_left _ List.mem_cons_self, ?_⟩, by decide⟩
  unfold WasCollected
  decide

end SecAI.Rules
