/-
Module: SecAI.Rules.Registry
Purpose: What the rule registries of PC-01 to PC-18 other than the one of PC-07
  share: readers, the checks of a rule package and of its evidence, decisions.
Trusted boundary: RFC 8785 serialization, SHA-256, the reading of dates, the
  Unicode database and `repr` are parameters
Main exports:
  RegistryEnvironment, RegistryFault, RuleDefinition, RuleDecision
-/
import SecAI.Findings.Contracts
import SecAI.Rules.Applicability
import Mathlib.Data.Int.Log
import Mathlib.Data.Rat.Floor

namespace SecAI.Rules.Registry

open SecAI.Findings (FindingEnvironment canonicalSha256)
open SecAI.Rules (hasExactKeys parametersAreApproved ensure)

structure Date where
  year : Nat
  month : Nat
  day : Nat
  yearInRange : 1 ≤ year ∧ year ≤ 9999
  monthInRange : 1 ≤ month ∧ month ≤ 12
  dayInRange : 1 ≤ day ∧ day ≤ 31

def padded (width number : Nat) : String :=
  let digits := toString number
  String.ofList (List.replicate (width - digits.length) '0') ++ digits

def Date.isoformat (date : Date) : String :=
  padded 4 date.year ++ "-" ++ padded 2 date.month ++ "-" ++ padded 2 date.day

/-- `first < second`, of dates. -/
def Date.before (first second : Date) : Bool :=
  decide (first.year < second.year ∨
    (first.year = second.year ∧ (first.month < second.month ∨
      (first.month = second.month ∧ first.day < second.day))))

/-- The parts of the registries that are not code of the repository. -/
structure RegistryEnvironment extends FindingEnvironment where
  /-- `date.fromisoformat`. -/
  dateFromIsoformat : String → Option Date
  /-- `instant.date()`, in UTC. -/
  dateOf : DateTime → Date
  strip : String → String
  casefold : String → String
  /-- `str` of a float, a list or a mapping. -/
  repr : Json → String

/-- Exceptions that leave a registry. -/
inductive RegistryFault where
  /-- The error class of the registry, such as `AccountPolicyRuleError`. -/
  | rejected (message : String)
  /-- `SecAICanonicalizationError` of `canonicalize_json`. -/
  | canonicalization
  /-- The `TypeError` of looking an unhashable value up in a set. -/
  | typeError
  /-- The `OverflowError` of an instant that UTC moves out of range. -/
  | overflow
  /-- The `ValueError` of printing an integer of more than 4300 digits. -/
  | tooManyDigits
deriving DecidableEq

/-- A part of a formatted text. -/
inductive Piece where
  | literal (text : String)
  | number (value : Int)

def Piece.text : Piece → String
  | .literal text => text
  | .number value => toString value

def Piece.isPrintable : Piece → Bool
  | .literal _ => true
  | .number value => decide (value.natAbs < 10 ^ 4300)

/-- `f"…"`. -/
def formatted (pieces : List Piece) : Except RegistryFault String :=
  if pieces.all Piece.isPrintable then
    .ok (String.join (pieces.map Piece.text))
  else .error .tooManyDigits

/-- `"a" if condition else "b"`. -/
def either (condition : Bool) (first second : String) : Piece :=
  .literal (if condition then first else second)

def mapping (value : Option Json) (message : String) :
    Except RegistryFault Json :=
  match value with
  | some (.obj members) => .ok (.obj members)
  | _ => .error (.rejected message)

def sequence (value : Option Json) (message : String) :
    Except RegistryFault (List Json) :=
  match value with
  | some (.arr items) => .ok items
  | _ => .error (.rejected message)

def string (value : Option Json) (message : String) :
    Except RegistryFault String :=
  match value with
  | some (.str text) =>
      if text = "" then .error (.rejected message) else .ok text
  | _ => .error (.rejected message)

def integer (value : Option Json) (message : String) :
    Except RegistryFault Int :=
  match value with
  | some (.int number) =>
      if number < 0 then .error (.rejected message) else .ok number
  | _ => .error (.rejected message)

def boolean (value : Option Json) (message : String) :
    Except RegistryFault Bool :=
  match value with
  | some (.bool truth) => .ok truth
  | _ => .error (.rejected message)

/-- `text.replace("Z", "+00:00")`. -/
def withOffset (text : String) : String :=
  String.ofList (text.toList.flatMap fun character =>
    if character = 'Z' then "+00:00".toList else [character])

/-- An instant between the years 1 and 9999 of UTC. -/
def inCalendar (instant : DateTime) : Prop :=
  seconds (-62135596800) ≤ instant ∧ instant < seconds 253402300800

instance (instant : DateTime) : Decidable (inCalendar instant) :=
  inferInstanceAs (Decidable (_ ∧ _))

variable (env : RegistryEnvironment)

/-- `_timestamp`.  A text without an offset is rejected like one that cannot be
read. -/
def timestamp (value : Option Json) (message : String) :
    Except RegistryFault DateTime := do
  let text ← string value message
  match env.fromIsoformat (withOffset text) with
  | some instant =>
      if inCalendar instant then .ok instant else .error .overflow
  | none => .error (.rejected message)

def date (value : Option Json) (message : String) :
    Except RegistryFault Date := do
  let text ← string value message
  match env.dateFromIsoformat text with
  | some date => .ok date
  | none => .error (.rejected message)

/-- The nearest integer, or the even one of two. -/
def roundHalfEven (value : Rat) : Int :=
  let below := ⌊value⌋
  let rest := value - below
  if rest < 1 / 2 then below
  else if 1 / 2 < rest then below + 1
  else if below % 2 = 0 then below
  else below + 1

/-- The double that is nearest to a number; those at hand are zero or normal. -/
def nearestDouble (value : Rat) : Rat :=
  if value = 0 then 0
  else
    let scale : Rat := (2 : Rat) ^ (52 - Int.log 2 |value|)
    roundHalfEven (value * scale) / scale

/-- `(later - earlier).total_seconds()`. -/
def totalSeconds (earlier later : DateTime) : Rat :=
  nearestDouble (((later - earlier : Int) : Rat) / 1000000)

/-- `total_seconds() / 3600`. -/
def totalHours (earlier later : DateTime) : Rat :=
  nearestDouble (totalSeconds earlier later / 3600)

/-- `int(total_seconds() // 3600)`. -/
def wholeHours (earlier later : DateTime) : Int :=
  ⌊totalSeconds earlier later / 3600⌋

/-- The identifier and the version of a rule, and its parameters. -/
structure RuleReference where
  identity : String × String
  parameters : Json

/-- `_rule_ref`. -/
def ruleReference (value : Json) : Except RegistryFault RuleReference := do
  let rule ← mapping (some value) "Rule reference must be an object."
  ensure (hasExactKeys rule ["rule_id", "rule_version", "parameters"] = true)
    (.rejected "Rule reference fields are invalid.")
  let ruleId ← string (rule.member "rule_id") "Rule ID is invalid."
  let ruleVersion ←
    string (rule.member "rule_version") "Rule version is invalid."
  let parameters ←
    mapping (rule.member "parameters") "Rule parameters are invalid."
  return ⟨(ruleId, ruleVersion), parameters⟩

/-- An entry of `_RULES`. -/
structure RuleDefinition where
  probeId : String
  subjectScope : String
  applicability : String × String
  evaluation : String × String
  applicabilityParameters : List (String × Json)
  evaluationParameters : List (String × Json)

/-- The texts in which the registries differ. -/
structure RegistryTexts where
  controlNotAllowlisted : String
  applicabilityParameters : String
  evaluationParameters : String
  subjectScope : String

/-- The checks of `evaluate` on the rule package. -/
def checkRulePackage (texts : RegistryTexts)
    (rules : List (String × RuleDefinition)) (controlId : String)
    (applicabilityRule evaluationRule : Json) :
    Except RegistryFault RuleDefinition := do
  let definition ← (rules.lookup controlId).elim
    (.error (.rejected texts.controlNotAllowlisted)) .ok
  let applicability ← ruleReference applicabilityRule
  let evaluation ← ruleReference evaluationRule
  ensure (applicability.identity = definition.applicability ∧
      evaluation.identity = definition.evaluation)
    (.rejected "Rule ID or version is not allowlisted.")
  ensure (parametersAreApproved definition.applicabilityParameters
      applicability.parameters = true)
    (.rejected texts.applicabilityParameters)
  ensure (parametersAreApproved definition.evaluationParameters
      evaluation.parameters = true)
    (.rejected texts.evaluationParameters)
  return definition

/-- The checks of `evaluate` on the scope of the evidence. -/
def checkScope (texts : RegistryTexts) (definition : RuleDefinition)
    (controlId : String) (evidence : Json) : Except RegistryFault Unit := do
  ensure (evidence.member "control_id" = some (.str controlId))
    (.rejected "Evidence Control scope differs.")
  ensure (evidence.member "probe_id" = some (.str definition.probeId) ∧
      evidence.member "probe_version" = some (.str "0.1.0"))
    (.rejected "Evidence Probe is not allowlisted.")
  let subject ←
    mapping (evidence.member "subject") "Evidence subject is invalid."
  ensure (subject.member "scope" = some (.str definition.subjectScope))
    (.rejected texts.subjectScope)

/-- What the collection of an evidence record came to. -/
inductive Collection where
  | failed (errorCode : String)
  | collected (value : Json)

/-- The part of `evaluate` that reads the outcome of the collection. -/
def collection (evidence : Json) (missing : String) :
    Except RegistryFault Collection :=
  if evidence.member "collection_status" ≠ some (.str "COLLECTED") then do
    let errorCode ← string (evidence.member "error_code")
      "Collection error code is missing."
    ensure (errorCode ≠ "NONE")
      (.rejected "Failed collection cannot use NONE error code.")
    return .failed errorCode
  else do
    ensure (evidence.member "error_code" = some (.str "NONE"))
      (.rejected "Collected evidence must use NONE error code.")
    let value ← mapping (evidence.member "normalized_value") missing
    return .collected value

/-- A decision: what the decisions of all registries have, and the other fields
of the dataclass of the registry. -/
structure RuleDecision where
  controlId : String
  status : String
  resultCode : String
  actual : String
  expected : String
  rationaleCode : String
  errorCodes : List String
  details : List (String × String)
deriving DecidableEq

def RuleDecision.detail (decision : RuleDecision) (key : String) :
    List (String × Json) :=
  ((decision.details.lookup key).map fun text => (key, .str text)).toList

def RuleDecision.asDict (decision : RuleDecision) : Json :=
  .obj (
    [("actual", .str decision.actual)] ++
    decision.detail "adapter_coverage" ++
    decision.detail "adapter_id" ++
    decision.detail "adapter_version" ++
    [("control_id", .str decision.controlId)] ++
    decision.detail "coverage" ++
    [("error_codes", .arr (decision.errorCodes.map .str)),
      ("expected", .str decision.expected)] ++
    decision.detail "policy_source" ++
    decision.detail "policy_source_label" ++
    [("rationale_code", .str decision.rationaleCode)] ++
    decision.detail "reference_as_of" ++
    decision.detail "reference_snapshot_id" ++
    decision.detail "reference_valid_until" ++
    [("result_code", .str decision.resultCode)] ++
    decision.detail "scope_label" ++
    [("status", .str decision.status)])

/-- `f"{control_id.replace('-', '')}…"`. -/
def collectionResultCode (controlId suffix : String) : String :=
  String.ofList (controlId.toList.filter (· ≠ '-')) ++ suffix

end SecAI.Rules.Registry
