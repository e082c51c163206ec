/-
Module: SecAI.Findings.Contracts
Purpose: The schemas of audit packs, evidence and findings, the data contracts
  of finding construction, and the parts that are not code of the repository.
Trusted boundary: RFC 8785 serialization, SHA-256, UUID version 5, timestamp
  parsing and the Unicode database are parameters
Main exports:
  auditPackSchema, findingSchema, FindingEnvironment, FindingBuildContext
-/
import SecAI.Common.JsonSchema
import SecAI.Credential.Token
import SecAI.Common.Values

namespace SecAI.Findings

open SecAI.Credential (UnicodeDigits uuidAccepts)
open SecAI.JsonSchema

/-- `^(0|[1-9][0-9]*)`, and what follows it. -/
def numericIdentifier : List Char → Option (List Char)
  | '0' :: rest => some rest
  | text =>
      match text.takeWhile isDigit with
      | [] => none
      | _ => some (text.dropWhile isDigit)

/-- A dot, and what follows it. -/
def afterDot : List Char → Option (List Char)
  | '.' :: rest => some rest
  | _ => none

/-- `[0-9A-Za-z.-]`. -/
def isVersionCharacter (character : Char) : Bool :=
  isDigit character || isLetter character ||
    ['.', '-'].contains character

/-- The expression of a semantic version matches the whole text. -/
def isSemver (text : List Char) : Bool :=
  let rest := (((numericIdentifier text).bind afterDot).bind
    numericIdentifier).bind afterDot |>.bind numericIdentifier
  match rest with
  | some [] => true
  | some (sign :: suffix) =>
      ['-', '+'].contains sign && !suffix.isEmpty &&
        suffix.all isVersionCharacter
  | none => false

/-- `[a-f0-9]{64}`. -/
def isSha256 (text : List Char) : Bool :=
  charactersOf (fun character => isDigit character ||
    decide ('a' ≤ character ∧ character ≤ 'f')) 64 64 text

/-- `[A-Za-z0-9._:-]`. -/
def isIdentifierCharacter (character : Char) : Bool :=
  isDigit character || isLetter character ||
    ['.', '_', ':', '-'].contains character

/-- `[A-Za-z][A-Za-z0-9._:-]{0,127}`. -/
def isIdentifier : List Char → Bool
  | head :: tail => isLetter head && charactersOf isIdentifierCharacter 0 127 tail
  | [] => false

/-- `PC-(0[1-9]|1[0-8])`. -/
def isControlId : List Char → Bool
  | ['P', 'C', '-', '0', unit] => decide ('1' ≤ unit ∧ unit ≤ '9')
  | ['P', 'C', '-', '1', unit] => decide ('0' ≤ unit ∧ unit ≤ '8')
  | _ => false

variable (digits : UnicodeDigits)

/-- `format: uuid`: a text that `UUID` reads, with dashes in place. -/
def isUuid (text : String) : Bool :=
  uuidAccepts digits text && [8, 13, 18, 23].all fun place =>
    decide (text.toList[place]? = some '-')

def uuid : Schema := allOf [isString, pattern (isUuid digits)]

/-- `timestamp`.  The format `date-time` is checked by an optional package that
is not installed. -/
def timestamp : Schema :=
  allOf [isString, pattern (anchored fun text =>
    decide (text.getLast? = some 'Z'))]

def semver : Schema :=
  allOf [isString, pattern (anchored isSemver), maxLength 64]

def sha256 : Schema := allOf [isString, pattern (anchored isSha256)]

def identifier : Schema := allOf [isString, pattern (anchored isIdentifier)]

/-- `controlId`. -/
def controlIdentifier : Schema :=
  allOf [isString, pattern (anchored isControlId)]

def findingStatus : Schema :=
  oneString ["PASS", "FAIL", "REVIEW", "ERROR", "N/A"]

def severity : Schema := oneString ["HIGH", "MEDIUM", "LOW"]

def automationType : Schema :=
  oneString ["AUTO", "AUTO-CONDITIONAL", "AUTO-APPLICABILITY", "MANUAL"]

def source : Schema :=
  oneString ["api", "collector", "normalizer", "rule-engine", "ai-service",
    "audit-pack-builder", "admin-ui", "scheduler", "manual-attestation"]

/-- The values of `errorCode`. -/
def errorCodes : List String :=
  ["NONE", "SCHEMA_INVALID", "SCHEMA_VERSION_UNSUPPORTED", "MANIFEST_INVALID",
    "MANIFEST_EXPIRED", "SIGNATURE_INVALID", "HASH_MISMATCH",
    "REPLAY_DETECTED", "UNSUPPORTED_OS", "PERMISSION_DENIED",
    "PROBE_NOT_ALLOWED", "PROBE_TIMEOUT", "OUTPUT_LIMIT_EXCEEDED",
    "PARSE_FAILED", "PACKAGE_INTEGRITY_FAILED", "UPLOAD_FAILED",
    "RULE_NOT_APPLICABLE", "EVIDENCE_INCOMPLETE", "RULE_EVALUATION_FAILED",
    "AI_PROVIDER_UNAVAILABLE", "AI_GENERATION_FAILED", "AI_SAFETY_BLOCKED"]

def errorCode : Schema := oneString errorCodes

def boundedScalar : Schema :=
  allOf [anyOf [isString, Json.isNumber, isBoolean, isNull], maxLength 8192]

def boundedValue : Schema :=
  oneOf [boundedScalar,
    allOf [isArray, maxItems 256, items boundedScalar],
    allOf [isObject, maxProperties 128,
      propertyNames (anchored (charactersOf isIdentifierCharacter 1 128)),
      additionalProperties boundedScalar]]

/-- The names of `commonFields`. -/
def commonNames : List String :=
  ["schema_version", "id", "created_at", "source", "producer_name",
    "producer_version", "correlation_id"]

def commonFields : Schema :=
  allOf [isObject, required commonNames,
    properties [("schema_version", const (.str "1.0.0")),
      ("id", uuid digits), ("created_at", timestamp), ("source", source),
      ("producer_name", identifier), ("producer_version", semver),
      ("correlation_id", uuid digits)]]

def signature : Schema :=
  let names := ["canonicalization", "algorithm", "key_id", "signed_sha256",
    "value"]
  allOf [isObject, closed (names ++ ["certificate_sha256"]), required names,
    properties [("canonicalization", const (.str "RFC8785-JCS")),
      ("algorithm", oneString ["ES256", "Ed25519", "RS256"]),
      ("key_id", identifier), ("signed_sha256", sha256),
      ("certificate_sha256", sha256),
      ("value", allOf [isString, pattern (anchored (charactersOf
        (fun character => isDigit character || isLetter character ||
          ['_', '-'].contains character) 32 4096))])]]

def artifactRef : Schema :=
  allOf [isObject, closed ["id", "sha256", "object_version"],
    required ["id", "sha256"],
    properties [("id", uuid digits), ("sha256", sha256),
      ("object_version", allOf [isString, minLength 1, maxLength 128])]]

def ruleRef : Schema :=
  allOf [isObject, closed ["rule_id", "rule_version", "parameters"],
    required ["rule_id", "rule_version", "parameters"],
    properties [("rule_id", identifier), ("rule_version", semver),
      ("parameters", allOf [isObject, maxProperties 64,
        propertyNames (anchored fun text =>
          match text with
          | head :: tail => isLetter head && charactersOf (fun character =>
              isDigit character || isLetter character ||
                decide (character = '_')) 0 63 tail
          | [] => false),
        additionalProperties boundedValue])]]

def evidenceRequirement : Schema :=
  let names := ["requirement_id", "probe_ids", "required", "minimum_records",
    "accepted_collection_status"]
  allOf [isObject,
    closed (names ++ ["organization_policy_required",
      "manual_attestation_allowed"]),
    required names,
    properties [("requirement_id", identifier),
      ("probe_ids", allOf [isArray, minItems 1, maxItems 32, uniqueItems,
        items identifier]),
      ("required", isBoolean),
      ("minimum_records", allOf [isInteger, between 0 512]),
      ("accepted_collection_status", allOf [isArray, minItems 1, uniqueItems,
        items (oneString ["COLLECTED", "ERROR", "SKIPPED"])]),
      ("organization_policy_required", isBoolean),
      ("manual_attestation_allowed", isBoolean)]]

def citation : Schema :=
  allOf [isObject,
    closed ["document", "page_start", "page_end", "section_label"],
    required ["document", "page_start", "page_end"],
    properties [("document", const (.str "KISA-2026-07-PC")),
      ("page_start", allOf [isInteger, between 555 592]),
      ("page_end", allOf [isInteger, between 555 592]),
      ("section_label", allOf [isString, maxLength 128])]]

def control : Schema :=
  let names := ["control_id", "title", "category", "severity",
    "automation_type", "required_privileges", "applicability_rule",
    "evidence_requirements", "evaluation_rule", "citations", "fixture_refs"]
  allOf [isObject, closed names, required names,
    properties [("control_id", controlIdentifier),
      ("title", allOf [isString, minLength 1, maxLength 256]),
      ("category", oneString ["ACCOUNT_MANAGEMENT", "SERVICE_MANAGEMENT",
        "PATCH_MANAGEMENT", "SECURITY_MANAGEMENT"]),
      ("severity", severity), ("automation_type", automationType),
      ("required_privileges", allOf [isArray, minItems 1, uniqueItems,
        items (oneString ["STANDARD_USER", "ELEVATED_ADMIN",
          "ORGANIZATION_POLICY"])]),
      ("applicability_rule", ruleRef),
      ("evidence_requirements", allOf [isArray, minItems 1, maxItems 64,
        items evidenceRequirement]),
      ("evaluation_rule", ruleRef),
      ("citations", allOf [isArray, minItems 1, maxItems 16, items citation]),
      ("fixture_refs", allOf [isObject,
        closed ["pass", "fail", "error", "review", "not_applicable"],
        required ["pass", "fail", "error"],
        properties [("pass", identifier), ("fail", identifier),
          ("error", identifier), ("review", identifier),
          ("not_applicable", identifier)]])]]

def memberIs (key value : String) : Schema :=
  allOf [properties [(key, const (.str value))], required [key]]

def approval : Schema :=
  allOf [isObject,
    closed ["status", "approved_at", "approver_ids", "signature",
      "revocation_reason"],
    required ["status"],
    properties [("status", oneString ["DRAFT", "APPROVED", "REVOKED"]),
      ("approved_at", timestamp),
      ("approver_ids", allOf [isArray, minItems 1, maxItems 16, uniqueItems,
        items (uuid digits)]),
      ("signature", signature),
      ("revocation_reason", allOf [isString, minLength 1, maxLength 512])],
    ifThen (memberIs "status" "APPROVED")
      (required ["approved_at", "approver_ids", "signature"]),
    ifThen (memberIs "status" "REVOKED") (required ["revocation_reason"])]

/-- `audit_pack.schema.json`. -/
def auditPackSchema : Schema :=
  let names := ["pack_profile", "name", "version", "guide", "target",
    "effective_from", "content_sha256", "controls", "approval"]
  allOf [commonFields digits, isObject, required names,
    properties [("source", const (.str "audit-pack-builder")),
      ("pack_profile", const (.str "KISA-2026-PC-MVP")),
      ("name", allOf [isString, minLength 1, maxLength 128]),
      ("version", semver),
      ("guide", allOf [isObject,
        closed ["publisher", "version", "section", "document_sha256"],
        required ["publisher", "version", "section", "document_sha256"],
        properties [("publisher", const (.str "KISA")),
          ("version", const (.str "2026")),
          ("section", const (.str "07.PC")),
          ("document_sha256", sha256)]]),
      ("target", allOf [isObject,
        closed ["os_family", "versions", "architectures"],
        required ["os_family", "versions", "architectures"],
        properties [("os_family", const (.str "WINDOWS")),
          ("versions", const (.arr [.str "11"])),
          ("architectures", const (.arr [.str "x86_64"]))]]),
      ("effective_from", timestamp), ("effective_until", timestamp),
      ("content_sha256", sha256),
      ("controls", allOf [isArray, minItems 1, maxItems 18, items control]),
      ("approval", approval digits)],
    closed (commonNames ++ names ++ ["effective_until"])]

/-- `S-[0-9-]{5,184}`. -/
def isUserSid : List Char → Bool
  | 'S' :: '-' :: rest => charactersOf (fun character =>
      isDigit character || decide (character = '-')) 5 184 rest
  | _ => false

/-- `subject`, of evidence and of findings. -/
def subjectSchema (ofUser : Schema) : Schema :=
  allOf [isObject, closed ["scope", "user_sid", "subject_key"],
    required ["scope"],
    properties [("scope", oneString ["ASSET", "USER", "VOLUME", "PRODUCT",
        "POLICY"]),
      ("user_sid", allOf [isString, pattern (anchored isUserSid)]),
      ("subject_key", allOf [isString, minLength 1, maxLength 128])],
    ifThen ofUser (required ["user_sid"])]

/-- `normalized_evidence.schema.json`. -/
def normalizedEvidenceSchema : Schema :=
  let names := ["job_id", "asset_id", "package_id", "source_evidence_id",
    "control_id", "guide_version", "collector_version", "probe_id",
    "probe_version", "subject", "collected_at", "normalized_at",
    "source_locator", "collection_status", "error_code", "redaction",
    "evidence_sha256"]
  allOf [commonFields digits, isObject, required names,
    properties [("source", const (.str "normalizer")),
      ("job_id", uuid digits), ("asset_id", uuid digits),
      ("package_id", uuid digits), ("source_evidence_id", uuid digits),
      ("control_id", controlIdentifier),
      ("guide_version", const (.str "2026")),
      ("collector_version", semver), ("probe_id", identifier),
      ("probe_version", semver),
      ("subject", subjectSchema (memberIs "scope" "USER")),
      ("collected_at", timestamp), ("normalized_at", timestamp),
      ("source_locator", allOf [isObject,
        closed ["type", "provider", "locator"], required ["type", "provider"],
        properties [("type", oneString ["WINDOWS_API", "REGISTRY",
            "POWERSHELL", "CIM", "WINDOWS_CLI", "PRODUCT_ADAPTER",
            "MANUAL_ATTESTATION", "REFERENCE_DATA"]),
          ("provider", allOf [isString, minLength 1, maxLength 128]),
          ("locator", allOf [isString, minLength 1, maxLength 512])]]),
      ("raw_value", boundedValue), ("normalized_value", boundedValue),
      ("unit", allOf [isString, maxLength 64]),
      ("policy_scope", oneString ["MACHINE", "USER", "DOMAIN", "MDM",
        "PRODUCT", "ORGANIZATION", "NOT_APPLICABLE"]),
      ("policy_source", allOf [isString, maxLength 128]),
      ("effective_value", isBoolean),
      ("collection_status", oneString ["COLLECTED", "ERROR", "SKIPPED"]),
      ("error_code", errorCode),
      ("redaction", allOf [isObject, closed ["applied", "method", "reason"],
        required ["applied"],
        properties [("applied", isBoolean),
          ("method", oneString ["NONE", "PRESENCE_ONLY", "MASKED", "HASHED",
            "OMITTED"]),
          ("reason", allOf [isString, maxLength 256])]]),
      ("evidence_sha256", sha256), ("attestation_id", uuid digits)],
    ifThenElse (memberIs "collection_status" "COLLECTED")
      (allOf [required ["normalized_value"],
        properties [("error_code", const (.str "NONE"))]])
      (properties [("error_code", negated (const (.str "NONE")))]),
    closed (commonNames ++ names ++ ["raw_value", "normalized_value", "unit",
      "policy_scope", "policy_source", "effective_value", "attestation_id"])]

/-- `applicability` of a finding. -/
def applicabilitySchema : Schema :=
  allOf [isObject, closed ["status", "reason_code", "rule_id"],
    required ["status", "reason_code"],
    properties [("status", oneString ["APPLICABLE", "NOT_APPLICABLE",
        "UNDETERMINED"]),
      ("reason_code", identifier), ("rule_id", identifier)]]

/-- `audit_pack` of a finding. -/
def packReferenceSchema : Schema :=
  allOf [isObject, closed ["id", "version", "sha256"],
    required ["id", "version", "sha256"],
    properties [("id", uuid digits), ("version", semver), ("sha256", sha256)]]

/-- `rule_result` of a finding. -/
def ruleResultSchema : Schema :=
  let names := ["rule_id", "rule_version", "result_code", "actual",
    "expected", "rationale_code", "citations", "input_sha256",
    "output_sha256"]
  allOf [isObject, closed names, required names,
    properties [("rule_id", identifier), ("rule_version", semver),
      ("result_code", identifier), ("actual", boundedValue),
      ("expected", boundedValue), ("rationale_code", identifier),
      ("citations", allOf [isArray, minItems 1, maxItems 16, items citation]),
      ("input_sha256", sha256), ("output_sha256", sha256)]]

/-- The conditions that the status of a finding puts on its other members. -/
def statusConditions : Schema :=
  let applicabilityIs (status : String) : String × Schema :=
    ("applicability", properties [("status", const (.str status))])
  allOf [
    ifThen (allOf [properties [("status", oneString ["PASS", "FAIL"])],
        required ["status"]])
      (allOf [properties [applicabilityIs "APPLICABLE",
          ("evidence_refs", minItems 1), ("error_codes", maxItems 0)],
        required ["evidence_refs"]]),
    ifThen (memberIs "status" "N/A")
      (properties [applicabilityIs "NOT_APPLICABLE",
        ("error_codes", maxItems 0)]),
    ifThen (memberIs "status" "ERROR")
      (properties [("error_codes", allOf [minItems 1,
        negated (contains (const (.str "NONE")))])])]

/-- `finding.schema.json`. -/
def findingSchema : Schema :=
  let names := ["job_id", "asset_id", "control_id", "guide_version",
    "severity", "subject", "status", "applicability", "audit_pack",
    "rule_result", "evidence_refs", "evidence_set_sha256", "error_codes",
    "evaluated_at"]
  allOf [commonFields digits, isObject, required names,
    properties [("source", const (.str "rule-engine")),
      ("job_id", uuid digits), ("asset_id", uuid digits),
      ("control_id", controlIdentifier),
      ("guide_version", const (.str "2026")), ("severity", severity),
      ("subject", subjectSchema
        (properties [("scope", const (.str "USER"))])),
      ("status", findingStatus), ("applicability", applicabilitySchema),
      ("audit_pack", packReferenceSchema digits),
      ("rule_result", ruleResultSchema),
      ("evidence_refs", allOf [isArray, maxItems 512, uniqueItems,
        items (artifactRef digits)]),
      ("evidence_set_sha256", sha256),
      ("policy_refs", allOf [isArray, maxItems 64, items (artifactRef digits)]),
      ("error_codes", allOf [isArray, maxItems 32, uniqueItems,
        items errorCode]),
      ("evaluated_at", timestamp)],
    statusConditions,
    closed (commonNames ++ names ++ ["policy_refs"])]

end SecAI.Findings

namespace SecAI.Findings

open SecAI.Credential (UnicodeDigits uuidAccepts)

/-- A SHA-256 digest, by its 256-bit value. -/
structure Sha256 where
  value : Nat

/-- `digest.hexdigest()`. -/
def Sha256.hexdigest (digest : Sha256) : String :=
  String.ofList ((List.range 64).map fun place =>
    hexDigit ((digest.value >>> (4 * (63 - place))) % 16))

/-- The parts of finding construction that are not code of the repository. -/
structure FindingEnvironment where
  /-- `rfc8785.dumps`; a document without a canonical form has none. -/
  canonicalize : Json → Option (List UInt8)
  sha256 : List UInt8 → Sha256
  /-- `UUID(text)`, of a text that it reads. -/
  uuidOf : String → Uuid
  /-- `uuid5`. -/
  uuid5 : Uuid → String → Uuid
  /-- `datetime.fromisoformat`, of a text that ends in an offset. -/
  fromIsoformat : String → Option DateTime
  digits : UnicodeDigits

inductive FindingBuildCode where
  | packSchemaInvalid
  | packNotApproved
  | packHashMismatch
  | evidenceSchemaInvalid
  | evaluationScopeMismatch
  | findingSchemaInvalid
deriving DecidableEq

/-- Exceptions that leave the construction of a finding. -/
inductive FindingFault where
  | build (code : FindingBuildCode) (message : String)
  /-- `SecAICanonicalizationError` of `canonicalize_json`. -/
  | canonicalization
deriving DecidableEq

variable (env : FindingEnvironment)

def canonicalSha256 (document : Json) : Except FindingFault String :=
  match env.canonicalize document with
  | some bytes => .ok (env.sha256 bytes).hexdigest
  | none => .error .canonicalization

/-- `_require_utc_timestamp` accepts the text. -/
def requireUtcTimestamp (value : String) : Bool :=
  decide (value.toList.getLast? = some 'Z') &&
    (env.fromIsoformat
      (String.ofList value.toList.dropLast ++ "+00:00")).isSome

/-- A text that `_require_utc_timestamp` accepts. -/
abbrev UtcTimestamp := { value : String // requireUtcTimestamp env value = true }

/-- `FindingBuildContext`; `__post_init__` lets no other values through. -/
structure FindingBuildContext where
  organizationId : String
  evaluationAsOf : UtcTimestamp env
  evaluatedAt : UtcTimestamp env
  engineVersion : String
  engineArtifactSha256 : String
  organizationIsUuid : uuidAccepts env.digits organizationId = true
  engineVersionIsSemver : isSemver engineVersion.toList = true
  engineArtifactIsSha256 : isSha256 engineArtifactSha256.toList = true

end SecAI.Findings
