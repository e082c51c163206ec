/-
Module: SecAI.Findings.Replay
Purpose: What the finding schema asks of a finding, and that a finding built
  again, from the same evidence in any order and at any time, is recognised.
Trusted boundary: see SecAI.Findings.Contracts
Main exports:
  Acceptable, assemble_eq_ok, Construction, replay_is_recognised
-/
import SecAI.Findings.Builder
import SecAI.Package.Inventory

namespace SecAI.Findings

open SecAI.Credential (UnicodeDigits)
open SecAI.JsonSchema
open SecAI.Rules (ensure_eq_ok)

/-- What `finding.schema.json` asks of the values of a finding. -/
structure Acceptable (digits : UnicodeDigits) (draft : FindingDraft) :
    Prop where
  id : uuid digits (.str draft.id) = true
  createdAt : timestamp (.str draft.createdAt) = true
  producerVersion : semver (.str draft.producerVersion) = true
  correlationId : uuid digits (.str draft.correlationId) = true
  jobId : uuid digits (.str draft.jobId) = true
  assetId : uuid digits (.str draft.assetId) = true
  controlId : controlIdentifier (.str draft.controlId) = true
  guideVersion : draft.guideVersion = "2026"
  severity : Findings.severity (.str draft.severity) = true
  subject : subjectSchema (properties [("scope", const (.str "USER"))])
    draft.subject = true
  status : findingStatus (.str draft.status) = true
  applicability :
    draft.applicabilityStatus ∈ ["APPLICABLE", "NOT_APPLICABLE", "UNDETERMINED"]
  applicabilityReasonCode :
    identifier (.str draft.applicabilityReasonCode) = true
  applicabilityRuleId : identifier (.str draft.applicabilityRuleId) = true
  packId : uuid digits (.str draft.packId) = true
  packVersion : semver (.str draft.packVersion) = true
  packSha256 : sha256 (.str draft.packSha256) = true
  ruleId : identifier (.str draft.ruleId) = true
  ruleVersion : semver (.str draft.ruleVersion) = true
  resultCode : identifier (.str draft.resultCode) = true
  actual : boundedValue draft.actual = true
  expected : boundedValue draft.expected = true
  rationaleCode : identifier (.str draft.rationaleCode) = true
  citationCount : 1 ≤ draft.citations.length ∧ draft.citations.length ≤ 16
  citations : ∀ item ∈ draft.citations, citation item = true
  inputSha256 : sha256 (.str draft.inputSha256) = true
  outputSha256 : sha256 (.str draft.outputSha256) = true
  evidenceRefCount : draft.evidenceRefs.length ≤ 512
  evidenceRefsDistinct : draft.evidenceRefs.Nodup
  evidenceRefs : ∀ item ∈ draft.evidenceRefs, artifactRef digits item = true
  evidenceSetSha256 : sha256 (.str draft.evidenceSetSha256) = true
  errorCodeCount : draft.errorCodes.length ≤ 32
  errorCodesDistinct : draft.errorCodes.Nodup
  errorCodes : ∀ code ∈ draft.errorCodes, code ∈ Findings.errorCodes
  evaluatedAt : timestamp (.str draft.evaluatedAt) = true
  decided : draft.status ∈ ["PASS", "FAIL"] →
    draft.applicabilityStatus = "APPLICABLE" ∧
      1 ≤ draft.evidenceRefs.length ∧ draft.errorCodes = []
  notApplicable : draft.status = "N/A" →
    draft.applicabilityStatus = "NOT_APPLICABLE" ∧ draft.errorCodes = []
  failed : draft.status = "ERROR" →
    draft.errorCodes ≠ [] ∧ "NONE" ∉ draft.errorCodes

theorem findingSchema_document {digits : UnicodeDigits}
    {draft : FindingDraft} :
    findingSchema digits draft.document = true ↔ Acceptable digits draft := by
  have codes : (draft.errorCodes.map Json.str).Nodup ↔ draft.errorCodes.Nodup :=
    List.nodup_map_iff fun _ _ same => Json.str.inj same
  have named : source (.str "rule-engine") = true ∧
      identifier (.str "sec-ai-rule-engine") = true := by decide
  simp [findingSchema, allOf, required, properties, FindingDraft.document,
    FindingDraft.ruleResult, Json.member, commonFields, closed, commonNames,
    JsonSchema.isObject, statusConditions, ifThen, memberIs, const,
    applicabilitySchema, packReferenceSchema, ruleResultSchema, oneString,
    minItems, maxItems, uniqueItems, items, negated, contains, isArray,
    codes, errorCode, named]
  constructor
  case mp =>
    rintro ⟨⟨id, createdAt, producerVersion, correlationId⟩, ⟨jobId, assetId,
      controlId, guideVersion, severity, subject, status,
      ⟨applicability, reason, rule⟩, ⟨packId, packVersion, packSha256⟩,
      ⟨ruleId, ruleVersion, resultCode, actual, expected, rationale,
        ⟨someCitation, citationBound, citations⟩, input, output⟩,
      ⟨refBound, refDistinct, refs⟩, set, ⟨codeBound, codeDistinct, codes⟩,
      evaluatedAt⟩, decided, notApplicable, failed⟩
    exact {
      id := id
      createdAt := createdAt
      producerVersion := producerVersion
      correlationId := correlationId
      jobId := jobId
      assetId := assetId
      controlId := controlId
      guideVersion := guideVersion
      severity := severity
      subject := subject
      status := status
      applicability := by simpa using applicability
      applicabilityReasonCode := reason
      applicabilityRuleId := rule
      packId := packId
      packVersion := packVersion
      packSha256 := packSha256
      ruleId := ruleId
      ruleVersion := ruleVersion
      resultCode := resultCode
      actual := actual
      expected := expected
      rationaleCode := rationale
      citationCount := ⟨someCitation, citationBound⟩
      citations := citations
      inputSha256 := input
      outputSha256 := output
      evidenceRefCount := refBound
      evidenceRefsDistinct := refDistinct
      evidenceRefs := refs
      evidenceSetSha256 := set
      errorCodeCount := codeBound
      errorCodesDistinct := codeDistinct
      errorCodes := codes
      evaluatedAt := evaluatedAt
      decided := by
        intro isDecided
        simp only [List.mem_cons, List.not_mem_nil, or_false] at isDecided
        rcases decided with ⟨notPass, notFail⟩ | due
        · exact (isDecided.elim notPass notFail).elim
        · exact due
      notApplicable := fun isStatus =>
        notApplicable.resolve_left (not_not.mpr isStatus)
      failed := by
        intro isStatus
        obtain ⟨some_code, all_codes⟩ :=
          failed.resolve_left (not_not.mpr isStatus)
        exact ⟨List.ne_nil_of_length_pos some_code,
          fun member => all_codes _ member rfl⟩ }
  case mpr =>
    intro values
    refine ⟨⟨values.id, values.createdAt, values.producerVersion,
      values.correlationId⟩, ⟨values.jobId, values.assetId, values.controlId,
      values.guideVersion, values.severity, values.subject, values.status,
      ⟨by simpa using values.applicability, values.applicabilityReasonCode,
        values.applicabilityRuleId⟩,
      ⟨values.packId, values.packVersion, values.packSha256⟩,
      ⟨values.ruleId, values.ruleVersion, values.resultCode, values.actual,
        values.expected, values.rationaleCode,
        ⟨values.citationCount.1, values.citationCount.2, values.citations⟩,
        values.inputSha256, values.outputSha256⟩,
      ⟨values.evidenceRefCount, values.evidenceRefsDistinct,
        values.evidenceRefs⟩, values.evidenceSetSha256,
      ⟨values.errorCodeCount, values.errorCodesDistinct, values.errorCodes⟩,
      values.evaluatedAt⟩, ?_, ?_, ?_⟩
    · by_cases isDecided : draft.status ∈ ["PASS", "FAIL"]
      · exact .inr (values.decided isDecided)
      · left
        simpa using isDecided
    · by_cases isStatus : draft.status = "N/A"
      · exact .inr (values.notApplicable isStatus)
      · exact .inl isStatus
    · by_cases isStatus : draft.status = "ERROR"
      · obtain ⟨some_code, none_absent⟩ := values.failed isStatus
        exact .inr ⟨List.length_pos_of_ne_nil some_code,
          fun code member same => none_absent (same ▸ member)⟩
      · exact .inl isStatus

variable {env : FindingEnvironment}

/-- What the builder has established of a document of the evidence. -/
structure Belongs (env : FindingEnvironment) (controlId : String)
    (validated : ValidatedEvidence) (item : Json) : Prop where
  accepted : normalizedEvidenceSchema env.digits item = true
  job : string item "job_id" .evidenceSchemaInvalid = .ok validated.jobId
  asset : string item "asset_id" .evidenceSchemaInvalid = .ok validated.assetId
  control : string item "control_id" .evidenceSchemaInvalid = .ok controlId
  correlation : string item "correlation_id" .evidenceSchemaInvalid =
    .ok validated.correlationId
  identifier : string item "id" .evidenceSchemaInvalid = .ok (documentId item)

variable {values : List String} {value : String}

theorem dedup_singleton (single : values.dedup = [value]) :
    ∀ other ∈ values, other = value := by
  intro other member
  have inDedup := List.mem_dedup.mpr member
  rw [single] at inDedup
  exact List.mem_singleton.mp inDedup

theorem dedup_replicate (count : Nat) (value : String) :
    (List.replicate (count + 1) value).dedup = [value] := by
  induction count with
  | zero => rfl
  | succ count ih =>
      rw [List.replicate_succ, List.dedup_cons_of_mem (by simp),
        ih]

variable {evidence : List Json}

theorem shared_value {key : String} (read : List.Forall₂ (fun item value =>
      string item key .evidenceSchemaInvalid = .ok value) evidence values)
    (single : values.dedup = [value]) : ∀ item ∈ evidence,
      string item key .evidenceSchemaInvalid = .ok value := by
  intro item member
  obtain ⟨found, listed, same⟩ := Outcome.related_of_mem read member
  rw [same, dedup_singleton single found listed]

theorem string_stringAt {document : Json} {key : String}
    {code : FindingBuildCode} (read : string document key code = .ok value) :
    document.stringAt key = some value := by
  unfold string at read
  split at read
  next found same =>
    split at read
    · cases read
    · cases read
      simp only [Json.stringAt, same]
  next => cases read

theorem dedup_length_one {fallback : String}
    (single : values.dedup.length = 1) :
    values.dedup = [values.headD fallback] := by
  obtain ⟨value, same⟩ := List.length_eq_one_iff.mp single
  cases values with
  | nil => cases same
  | cons head tail =>
      rw [same, List.headD_cons,
        dedup_singleton same head List.mem_cons_self]

variable {controlId : String} {validated : ValidatedEvidence}

theorem validatedEvidence_belongs
    (done : validatedEvidence env evidence controlId = .ok validated) :
    evidence ≠ [] ∧ (∀ item ∈ evidence, Belongs env controlId validated item) ∧
      (evidence.map documentId).Nodup ∧
      validated.documents = Ordered.sortedBy documentId evidence := by
  simp only [validatedEvidence, validateSchema, Outcome.bind_eq_ok,
    Outcome.mapM_eq_ok, ensure_eq_ok] at done
  obtain ⟨_, accepted, _, nonempty, jobIds, jobs, assetIds, assets, controlIds,
    controls, correlationIds, correlations, evidenceIds, identifiers, _,
    ⟨oneJob, oneAsset, oneControl, oneCorrelation, distinct⟩, made⟩ := done
  cases made
  have named : ∀ item ∈ evidence,
      string item "id" .evidenceSchemaInvalid = .ok (documentId item) := by
    intro item member
    obtain ⟨found, -, same⟩ := Outcome.related_of_mem identifiers member
    rw [same, documentId, string_stringAt same, Option.getD_some]
  refine ⟨nonempty, ?_, ?_, rfl⟩
  · intro item member
    exact {
      accepted := ensure_eq_ok.mp (Outcome.forM_eq_ok accepted item member)
      job := shared_value jobs (dedup_length_one oneJob) item member
      asset := shared_value assets (dedup_length_one oneAsset) item member
      control := shared_value controls oneControl item member
      correlation := shared_value correlations
        (dedup_length_one oneCorrelation) item member
      identifier := named item member }
  · have same : evidence.map documentId = evidenceIds := by
      have read := Outcome.mapM_eq_ok.mpr identifiers
      rw [Outcome.mapM_of_forall named, Except.ok.injEq] at read
      exact read
    rw [same]
    exact distinct

theorem validatedEvidence_of_belongs (nonempty : evidence ≠ [])
    (all : ∀ item ∈ evidence, Belongs env controlId validated item)
    (distinct : (evidence.map documentId).Nodup)
    (sorted : validated.documents = Ordered.sortedBy documentId evidence) :
    validatedEvidence env evidence controlId = .ok validated := by
  obtain ⟨first, rest, rfl⟩ := List.exists_cons_of_ne_nil nonempty
  have single : ∀ value : String, ((first :: rest).map fun _ => value).dedup =
      [value] := by
    intro value
    rw [List.map_const', List.length_cons]
    exact dedup_replicate _ value
  simp only [validatedEvidence, validateSchema, Outcome.bind_eq_ok,
    ensure_eq_ok]
  refine ⟨(), Outcome.forM_of_forall fun item member =>
      ensure_eq_ok.mpr (all item member).accepted, (), nonempty,
    _, Outcome.mapM_of_forall fun item member => (all item member).job,
    _, Outcome.mapM_of_forall fun item member => (all item member).asset,
    _, Outcome.mapM_of_forall fun item member => (all item member).control,
    _, Outcome.mapM_of_forall fun item member => (all item member).correlation,
    _, Outcome.mapM_of_forall fun item member => (all item member).identifier,
    (), ⟨by rw [single]; rfl, by rw [single]; rfl, single _,
      by rw [single]; rfl, distinct⟩, ?_⟩
  rw [← sorted]
  rfl

theorem validatedEvidence_perm {order : List Json}
    (permuted : evidence.Perm order)
    (done : validatedEvidence env evidence controlId = .ok validated) :
    validatedEvidence env order controlId = .ok validated := by
  obtain ⟨nonempty, all, distinct, sorted⟩ := validatedEvidence_belongs done
  refine validatedEvidence_of_belongs ?_ ?_ ?_ ?_
  · intro empty
    exact nonempty (List.Perm.eq_nil (empty ▸ permuted))
  · exact fun item member => all item (permuted.mem_iff.mpr member)
  · exact ((permuted.map documentId).nodup_iff).mp distinct
  · rw [sorted]
    exact Ordered.sortedBy_of_perm permuted distinct

open SecAI.Credential

def hexAlphabet : List Char := "0123456789abcdef".toList

theorem hexDigit_mem {digit : Nat} (small : digit < 16) :
    hexDigit digit ∈ hexAlphabet := by
  have all : ∀ digit < 16, hexDigit digit ∈ hexAlphabet := by decide
  exact all digit small

theorem hexAlphabet_facts : ∀ character ∈ hexAlphabet,
    isHexDigit character = true ∧ isAsciiSpace character = false ∧
      character.toNat < 128 ∧ character ≠ '-' ∧ character ≠ '+' ∧
      character ≠ 'x' ∧ character ≠ 'X' ∧ character ≠ 'u' ∧
      character.toNat ≠ 0x7b ∧ character.toNat ≠ 0x7d ∧
      (JsonSchema.isDigit character ||
        decide ('a' ≤ character ∧ character ≤ 'f')) = true := by
  intro character member
  have listed : character ∈ ['0', '1', '2', '3', '4', '5', '6', '7', '8', '9',
      'a', 'b', 'c', 'd', 'e', 'f'] := member
  simp only [List.mem_cons, List.not_mem_nil, or_false] at listed
  rcases listed with rfl | rfl | rfl | rfl | rfl | rfl | rfl | rfl | rfl |
    rfl | rfl | rfl | rfl | rfl | rfl | rfl <;> decide

theorem hexdigest_isSha256 (digest : Sha256) :
    isSha256 digest.hexdigest.toList = true := by
  simp only [isSha256, JsonSchema.charactersOf, Sha256.hexdigest,
    String.toList_ofList, List.length_map, List.length_range, le_refl,
    and_self, decide_true, Bool.true_and, List.all_map, List.all_eq_true,
    Function.comp_apply]
  intro place _
  obtain ⟨_, _, _, _, _, _, _, _, _, _, isClass⟩ := hexAlphabet_facts _
    (hexDigit_mem (Nat.mod_lt _ (by decide)))
  exact isClass

theorem hexdigest_ne_empty (digest : Sha256) : digest.hexdigest ≠ "" := by
  intro empty
  have long := hexdigest_isSha256 digest
  rw [empty] at long
  exact absurd long (by decide)

theorem removeText_absent {first : Char} {needle : List Char} :
    ∀ {text : List Char}, first ∉ text →
      removeText (first :: needle) 0 text = text
  | [], _ => rfl
  | head :: tail, absent => by
      rw [List.mem_cons, not_or] at absent
      have mismatch : (first :: needle).isPrefixOf (head :: tail) = false := by
        rw [List.isPrefixOf, beq_false_of_ne absent.1, Bool.false_and]
      rw [removeText, mismatch, if_neg Bool.false_ne_true,
        removeText_absent absent.2]

theorem removeText_character {character : Char} :
    ∀ text : List Char, removeText [character] 0 text =
      text.filter fun other => decide (other ≠ character)
  | [] => rfl
  | head :: tail => by
      rw [removeText, List.filter_cons]
      by_cases same : character = head
      · simp [List.isPrefixOf, same, removeText_character tail]
      · simp [List.isPrefixOf, same, Ne.symm same, removeText_character tail]

theorem stripBraces_absent {text : List Char}
    (absent : ∀ character ∈ text,
      character.toNat ≠ 0x7b ∧ character.toNat ≠ 0x7d) :
    stripBraces text = text := by
  have kept : ∀ {characters : List Char}, (∀ character ∈ characters,
      character.toNat ≠ 0x7b ∧ character.toNat ≠ 0x7d) →
      (characters.dropWhile fun character =>
        decide (character.toNat = 0x7b) || decide (character.toNat = 0x7d)) =
          characters := by
    intro characters noBrace
    cases characters with
    | nil => rfl
    | cons head tail =>
        have notBrace := noBrace head List.mem_cons_self
        rw [List.dropWhile_cons, if_neg]
        simp [notBrace]
  unfold stripBraces
  dsimp only
  rw [kept absent, kept, List.reverse_reverse]
  intro character member
  exact absent character (List.mem_reverse.mp member)

theorem scanHexDigits_all : ∀ {text : List Char},
    (∀ character ∈ text, isHexDigit character = true) →
      scanHexDigits false text = some []
  | [], _ => rfl
  | head :: tail, all => by
      rw [scanHexDigits, if_pos (all head List.mem_cons_self)]
      exact scanHexDigits_all fun character later =>
        all character (List.mem_cons_of_mem _ later)

/-- A number of hexadecimal digits is read. -/
theorem hexIntegerAccepts_digits {digits : UnicodeDigits} {text : List Char}
    (some_digit : text ≠ [])
    (all : ∀ character ∈ text, character ∈ hexAlphabet) :
    hexIntegerAccepts digits text = true := by
  have ascii : transformDecimalAndSpace digits text = text := by
    rw [transformDecimalAndSpace, if_pos]
    rw [List.all_eq_true]
    intro character member
    exact decide_eq_true (hexAlphabet_facts character (all _ member)).2.2.1
  have number : dropBasePrefix (dropSign (text.dropWhile isAsciiSpace)) =
      text := by
    cases text with
    | nil => exact (some_digit rfl).elim
    | cons head tail =>
        obtain ⟨_, blank, _, minus, plus, _⟩ :=
          hexAlphabet_facts head (all head List.mem_cons_self)
        rw [List.dropWhile_cons, if_neg (by simp [blank])]
        have unsigned : dropSign (head :: tail) = head :: tail := by
          unfold dropSign
          split
          next same =>
            rw [List.cons.injEq] at same
            exact (plus same.1).elim
          next same =>
            rw [List.cons.injEq] at same
            exact (minus same.1).elim
          next => rfl
        rw [unsigned]
        cases tail with
        | nil =>
            unfold dropBasePrefix
            split <;> simp_all
        | cons second rest =>
            obtain ⟨_, _, _, _, _, lower, upper, _⟩ :=
              hexAlphabet_facts second (all second (by simp))
            unfold dropBasePrefix
            split <;> simp_all
  unfold hexIntegerAccepts
  rw [ascii, number]
  cases text with
  | nil => exact (some_digit rfl).elim
  | cons head tail =>
      have isHex : ∀ character ∈ head :: tail, isHexDigit character = true :=
        fun character member =>
          (hexAlphabet_facts character (all character member)).1
      dsimp only
      rw [isHex head List.mem_cons_self, scanHexDigits_all isHex]
      rfl

section Text

variable (uuid : Uuid)

def uuidDigits : List Char :=
  (List.range 32).map fun place =>
    hexDigit ((uuid.value >>> (4 * (31 - place))) % 16)

theorem uuidDigits_mem : ∀ character ∈ uuidDigits uuid,
    character ∈ hexAlphabet := by
  intro character member
  obtain ⟨place, -, rfl⟩ := List.mem_map.mp member
  exact hexDigit_mem (Nat.mod_lt _ (by decide))

theorem uuidDigits_length : (uuidDigits uuid).length = 32 := by
  simp [uuidDigits]

theorem uuidText_toList : uuid.text.toList =
    (uuidDigits uuid).take 8 ++ ['-'] ++ ((uuidDigits uuid).drop 8).take 4 ++
      ['-'] ++ ((uuidDigits uuid).drop 12).take 4 ++ ['-'] ++
      ((uuidDigits uuid).drop 16).take 4 ++ ['-'] ++
      (uuidDigits uuid).drop 20 := by
  rw [Uuid.text, String.toList_ofList]
  rfl

theorem uuidText_mem {character : Char} (member : character ∈ uuid.text.toList) :
    character = '-' ∨ character ∈ hexAlphabet := by
  rw [uuidText_toList] at member
  simp only [List.mem_append, List.mem_singleton] at member
  have digit := uuidDigits_mem uuid character
  rcases member with (((((((first | dash) | second) | dash) | third) | dash) |
    fourth) | dash) | fifth
  · exact .inr (digit (List.mem_of_mem_take first))
  · exact .inl dash
  · exact .inr (digit (List.mem_of_mem_drop (List.mem_of_mem_take second)))
  · exact .inl dash
  · exact .inr (digit (List.mem_of_mem_drop (List.mem_of_mem_take third)))
  · exact .inl dash
  · exact .inr (digit (List.mem_of_mem_drop (List.mem_of_mem_take fourth)))
  · exact .inl dash
  · exact .inr (digit (List.mem_of_mem_drop fifth))

/-- Without its dashes the text is its digits. -/
theorem uuidText_digits : (uuid.text.toList.filter fun character =>
    decide (character ≠ '-')) = uuidDigits uuid := by
  have kept : ∀ {part : List Char}, (∀ character ∈ part,
      character ∈ uuidDigits uuid) →
      (part.filter fun character => decide (character ≠ '-')) = part := by
    intro part inDigits
    refine List.filter_eq_self.mpr fun character member => decide_eq_true ?_
    exact (hexAlphabet_facts character
      (uuidDigits_mem uuid character (inDigits character member))).2.2.2.1
  rw [uuidText_toList]
  simp only [List.filter_append]
  rw [kept fun _ member => List.mem_of_mem_take member,
    kept fun _ member => List.mem_of_mem_drop (List.mem_of_mem_take member),
    kept fun _ member => List.mem_of_mem_drop (List.mem_of_mem_take member),
    kept fun _ member => List.mem_of_mem_drop (List.mem_of_mem_take member),
    kept fun _ member => List.mem_of_mem_drop member]
  simp only [ne_eq, not_true_eq_false, decide_false, List.filter_cons,
    Bool.false_eq_true, if_false, List.filter_nil, List.append_nil,
    List.append_assoc]
  have joined : ∀ start count, ((uuidDigits uuid).drop start).take count ++
      (uuidDigits uuid).drop (start + count) = (uuidDigits uuid).drop start := by
    intro start count
    rw [← List.drop_drop]
    exact List.take_append_drop count _
  rw [joined 16 4, joined 12 4, joined 8 4]
  exact List.take_append_drop 8 _

theorem uuidText_accepted (digits : UnicodeDigits) :
    uuidAccepts digits uuid.text = true := by
  have noPrefix : 'u' ∉ uuid.text.toList := by
    intro member
    rcases uuidText_mem uuid member with dash | digit
    · exact absurd dash (by decide)
    · exact absurd digit (by decide)
  have noBrace : ∀ character ∈ uuid.text.toList,
      character.toNat ≠ 0x7b ∧ character.toNat ≠ 0x7d := by
    intro character member
    rcases uuidText_mem uuid member with rfl | digit
    · decide
    · obtain ⟨_, _, _, _, _, _, _, _, left, right, _⟩ :=
        hexAlphabet_facts character digit
      exact ⟨left, right⟩
  have bare : removeText ['-'] 0 (stripBraces (removeText "uuid:".toList 0
      (removeText "urn:".toList 0 uuid.text.toList))) = uuidDigits uuid := by
    rw [show "urn:".toList = 'u' :: ['r', 'n', ':'] from rfl,
      show "uuid:".toList = 'u' :: ['u', 'i', 'd', ':'] from rfl,
      removeText_absent noPrefix, removeText_absent noPrefix,
      stripBraces_absent noBrace, removeText_character, uuidText_digits]
  unfold uuidAccepts
  dsimp only
  rw [bare, uuidDigits_length, decide_eq_true rfl, Bool.true_and]
  refine hexIntegerAccepts_digits ?_ (uuidDigits_mem uuid)
  exact List.ne_nil_of_length_pos (by rw [uuidDigits_length]; decide)

theorem uuidText_ne_empty : uuid.text ≠ "" := by
  intro empty
  have long := congrArg (fun text : String => text.toList.length) empty
  simp [uuidText_toList, uuidDigits_length] at long

end Text

open SecAI.Credential (UnicodeDigits uuidAccepts)
open SecAI.JsonSchema
open SecAI.Package (canonicalBytes sampleEvidenceHash)
open SecAI.Rules (DecisionCandidate ensure_eq_ok)

variable {env : FindingEnvironment}

/-! ## The draft, at any time -/

def FindingDraft.at (draft : FindingDraft) (time : String) : FindingDraft :=
  { draft with createdAt := time, evaluatedAt := time }

def FindingDraft.finished (draft : FindingDraft) (id outputSha256 : String) :
    FindingDraft :=
  { draft with id := id, outputSha256 := outputSha256 }

def FindingBuildContext.at (context : FindingBuildContext env)
    (time : UtcTimestamp env) : FindingBuildContext env :=
  { context with evaluatedAt := time }

variable {pack control : Json} {controlId : String}
  {evidence : ValidatedEvidence} {made : FindingDraft}

theorem draft_at {context : FindingBuildContext env} {outline : Outline}
    (time : UtcTimestamp env)
    (done : draft env pack controlId control evidence context outline =
      .ok made) :
    draft env pack controlId control evidence (context.at time) outline =
      .ok (made.at time.val) := by
  simp only [draft, Outcome.bind_eq_ok] at done ⊢
  obtain ⟨applicabilityRule, first, evaluationRule, second, refs, third, set,
    fourth, packId, fifth, packVersion, sixth, packSha256, seventh, input,
    eighth, guide, ninth, citations, tenth, guideVersion, eleventh, severity,
    twelfth, applicabilityRuleId, thirteenth, ruleId, fourteenth, ruleVersion,
    fifteenth, last⟩ := done
  refine ⟨applicabilityRule, first, evaluationRule, second, refs, third, set,
    fourth, packId, fifth, packVersion, sixth, packSha256, seventh, input,
    eighth, guide, ninth, citations, tenth, guideVersion, eleventh, severity,
    twelfth, applicabilityRuleId, thirteenth, ruleId, fourteenth, ruleVersion,
    fifteenth, ?_⟩
  cases last
  rfl

theorem outputSha256_finished (draft : FindingDraft) (id outputSha256 : String) :
    canonicalFindingOutputSha256 env (draft.finished id outputSha256).document =
      canonicalFindingOutputSha256 env draft.document := by
  rfl

theorem outputSha256_at (draft : FindingDraft) (time : String) :
    canonicalFindingOutputSha256 env (draft.at time).document =
      canonicalFindingOutputSha256 env draft.document := by
  rfl

theorem canonicalSha256_isSha256 {document : Json} {digest : String}
    (done : canonicalSha256 env document = .ok digest) :
    isSha256 digest.toList = true ∧ digest ≠ "" := by
  unfold canonicalSha256 at done
  split at done
  · cases done
    exact ⟨hexdigest_isSha256 _, hexdigest_ne_empty _⟩
  · cases done

theorem outputSha256_isSha256 {document : Json} {digest : String}
    (done : canonicalFindingOutputSha256 env document = .ok digest) :
    isSha256 digest.toList = true ∧ digest ≠ "" := by
  unfold canonicalFindingOutputSha256 at done
  dsimp only at done
  split at done
  · exact canonicalSha256_isSha256 done
  · cases done

theorem draft_inputSha256 {context : FindingBuildContext env}
    {outline : Outline}
    (done : draft env pack controlId control evidence context outline =
      .ok made) :
    isSha256 made.inputSha256.toList = true ∧ made.inputSha256 ≠ "" := by
  simp only [draft, Outcome.bind_eq_ok] at done
  obtain ⟨_, -, _, -, _, -, _, -, _, -, _, -, _, -, input, hashed, _, -, _, -,
    _, -, _, -, _, -, _, -, _, -, last⟩ := done
  cases last
  exact canonicalSha256_isSha256 hashed

/-! ## Assembly -/

theorem assemble_eq_ok {context : FindingBuildContext env} {outline : Outline}
    {finding : Json} :
    assemble env pack controlId control evidence context outline =
        .ok finding ↔
      ∃ made outputSha256,
        draft env pack controlId control evidence context outline =
          .ok made ∧
        canonicalFindingOutputSha256 env made.document = .ok outputSha256 ∧
        Acceptable env.digits (made.finished
          (deterministicFindingId env made.inputSha256 outputSha256)
          outputSha256) ∧
        finding = (made.finished
          (deterministicFindingId env made.inputSha256 outputSha256)
          outputSha256).document := by
  simp only [assemble, validateSchema, Outcome.bind_eq_ok, ensure_eq_ok]
  constructor
  case mp =>
    rintro ⟨made, drafted, outputSha256, hashed, _, accepted, last⟩
    cases last
    exact ⟨made, outputSha256, drafted, hashed,
      findingSchema_document.mp accepted, rfl⟩
  case mpr =>
    rintro ⟨made, outputSha256, drafted, hashed, accepted, rfl⟩
    exact ⟨made, drafted, outputSha256, hashed, (),
      findingSchema_document.mpr accepted, rfl⟩

theorem timestamp_of_context (time : UtcTimestamp env) :
    timestamp (.str time.val) = true := by
  have accepted := time.property
  rw [requireUtcTimestamp, Bool.and_eq_true, decide_eq_true_eq] at accepted
  simp [timestamp, allOf, isString, pattern, anchored, accepted.1]

theorem assemble_at {context : FindingBuildContext env} {outline : Outline}
    {outputSha256 : String}
    (drafted : draft env pack controlId control evidence context outline =
      .ok made) (hashed : canonicalFindingOutputSha256 env made.document =
      .ok outputSha256) (accepted : Acceptable env.digits (made.finished
      (deterministicFindingId env made.inputSha256 outputSha256)
      outputSha256)) (time : UtcTimestamp env) :
    assemble env pack controlId control evidence (context.at time) outline =
      .ok ((made.at time.val).finished
        (deterministicFindingId env made.inputSha256 outputSha256)
        outputSha256).document := by
  rw [assemble_eq_ok]
  refine ⟨made.at time.val, outputSha256, draft_at time drafted, ?_, ?_, rfl⟩
  · rw [outputSha256_at, hashed]
  · exact { accepted with
      createdAt := timestamp_of_context time
      evaluatedAt := timestamp_of_context time }

/-- A finding that was assembled has the fingerprint it was given. -/
theorem findingFingerprint_finished {made : FindingDraft}
    {outputSha256 : String}
    (input : isSha256 made.inputSha256.toList = true ∧ made.inputSha256 ≠ "")
    (hashed : canonicalFindingOutputSha256 env made.document =
      .ok outputSha256) :
    findingFingerprint env (made.finished
        (deterministicFindingId env made.inputSha256 outputSha256)
        outputSha256).document =
      .ok ⟨made.inputSha256,
        deterministicFindingId env made.inputSha256 outputSha256,
        outputSha256⟩ := by
  obtain ⟨isHash, nonempty⟩ := outputSha256_isSha256 hashed
  have identified : deterministicFindingId env made.inputSha256 outputSha256 ≠
      "" := uuidText_ne_empty _
  have accepted : uuidAccepts env.digits
      (deterministicFindingId env made.inputSha256 outputSha256) = true :=
    uuidText_accepted _ _
  have readId : replayString (made.finished
      (deterministicFindingId env made.inputSha256 outputSha256)
      outputSha256).document "id" =
        .ok (deterministicFindingId env made.inputSha256 outputSha256) := by
    exact if_neg identified
  have readInput : replaySha256 (made.finished
      (deterministicFindingId env made.inputSha256 outputSha256)
      outputSha256).ruleResult "input_sha256" = .ok made.inputSha256 := by
    have read : replayString (made.finished
        (deterministicFindingId env made.inputSha256 outputSha256)
        outputSha256).ruleResult "input_sha256" = .ok made.inputSha256 :=
      if_neg input.2
    exact Outcome.bind_eq_ok.mpr ⟨_, read,
      Outcome.bind_eq_ok.mpr ⟨(), ensure_eq_ok.mpr input.1, rfl⟩⟩
  have readOutput : replaySha256 (made.finished
      (deterministicFindingId env made.inputSha256 outputSha256)
      outputSha256).ruleResult "output_sha256" = .ok outputSha256 := by
    have read : replayString (made.finished
        (deterministicFindingId env made.inputSha256 outputSha256)
        outputSha256).ruleResult "output_sha256" = .ok outputSha256 :=
      if_neg nonempty
    exact Outcome.bind_eq_ok.mpr ⟨_, read,
      Outcome.bind_eq_ok.mpr ⟨(), ensure_eq_ok.mpr isHash, rfl⟩⟩
  simp only [findingFingerprint, Outcome.bind_eq_ok, ensure_eq_ok]
  refine ⟨_, readId, (), accepted, _, rfl, _, readInput, _, readOutput, _, ?_,
    (), rfl, (), rfl, rfl⟩
  rw [outputSha256_finished, hashed]
  rfl

/-! ## Building again -/

/-- A decision, for the builder that takes it. -/
inductive Construction where
  | volumes (decision : DecisionCandidate)
  | common (decision : Json)

/-- `build` or `build_common`. -/
def Construction.run (construction : Construction) (env : FindingEnvironment)
    (pack : Json) (controlId : String) (evidence : List Json)
    (context : FindingBuildContext env) (allowDraft : Bool) :
    Except FindingFault Json :=
  match construction with
  | .volumes decision =>
      build env pack controlId evidence decision context allowDraft
  | .common decision =>
      buildCommon env pack controlId evidence decision context allowDraft

def Construction.outline (construction : Construction) (control : Json)
    (documents : List Json) : Except FindingFault Outline :=
  match construction with
  | .volumes decision => outlineOfVolumes control documents decision
  | .common decision => outlineOfCommon documents decision

theorem Construction.run_eq_ok {construction : Construction}
    {evidence : List Json} {context : FindingBuildContext env}
    {allowDraft : Bool} {finding : Json} :
    construction.run env pack controlId evidence context allowDraft =
        .ok finding ↔
      ∃ control validated outline,
        packControl env pack controlId allowDraft = .ok control ∧
        validatedEvidence env evidence controlId = .ok validated ∧
        construction.outline control validated.documents = .ok outline ∧
        assemble env pack controlId control validated context outline =
          .ok finding := by
  cases construction with
  | volumes decision =>
      simp only [Construction.run, build, Outcome.bind_eq_ok,
        Construction.outline]
      constructor
      · rintro ⟨control, found, validated, read, outline, made, done⟩
        exact ⟨control, validated, outline, found, read, made, done⟩
      · rintro ⟨control, validated, outline, found, read, made, done⟩
        exact ⟨control, found, validated, read, outline, made, done⟩
  | common decision =>
      simp only [Construction.run, buildCommon, Outcome.bind_eq_ok,
        Construction.outline]
      constructor
      · rintro ⟨control, found, validated, read, outline, made, done⟩
        exact ⟨control, validated, outline, found, read, made, done⟩
      · rintro ⟨control, validated, outline, found, read, made, done⟩
        exact ⟨control, found, validated, read, outline, made, done⟩

theorem resolveFindingReplay_same {existing candidate : Json}
    {fingerprint : FindingFingerprint}
    (stored : findingFingerprint env existing = .ok fingerprint)
    (again : findingFingerprint env candidate = .ok fingerprint) :
    resolveFindingReplay env (some existing) candidate =
      .ok ⟨.returnExisting, fingerprint⟩ := by
  simp only [resolveFindingReplay, Outcome.bind_eq_ok, ensure_eq_ok]
  exact ⟨fingerprint, again, fingerprint, stored, (), rfl, (), rfl, rfl⟩

/-- The identity that a finding shows: its identifier and its two hashes. -/
def identity (finding : Json) : Option String × Option String × Option String :=
  let ruleResult := (finding.member "rule_result").getD .null
  (finding.stringAt "id", ruleResult.stringAt "input_sha256",
    ruleResult.stringAt "output_sha256")

/-- A finding that was built has a fingerprint with its input hash as the key.
Built again from the evidence in any order and at any time, it shows the same
identity, and is resolved to the stored finding. -/
theorem replay_is_recognised {construction : Construction} {pack : Json}
    {controlId : String} {evidence order : List Json}
    {context : FindingBuildContext env} {allowDraft : Bool} {finding : Json}
    (built : construction.run env pack controlId evidence context allowDraft =
      .ok finding) (permuted : evidence.Perm order) (time : UtcTimestamp env) :
    ∃ fingerprint rebuilt,
      findingFingerprint env finding = .ok fingerprint ∧
      identity finding = (some fingerprint.findingId,
        some fingerprint.idempotencyKey, some fingerprint.outputSha256) ∧
      construction.run env pack controlId order
        { context with evaluatedAt := time } allowDraft = .ok rebuilt ∧
      identity rebuilt = identity finding ∧
      resolveFindingReplay env (some finding) rebuilt =
        .ok ⟨.returnExisting, fingerprint⟩ := by
  obtain ⟨control, validated, outline, found, read, outlined, assembled⟩ :=
    Construction.run_eq_ok.mp built
  obtain ⟨made, outputSha256, drafted, hashed, accepted, rfl⟩ :=
    assemble_eq_ok.mp assembled
  have input := draft_inputSha256 drafted
  have stored := findingFingerprint_finished input hashed
  have again := @findingFingerprint_finished env (made.at time.val) _ input
    ((outputSha256_at made time.val).trans hashed)
  refine ⟨_, _, stored, rfl, Construction.run_eq_ok.mpr ⟨control, validated,
    outline, found, validatedEvidence_perm permuted read, outlined,
    assemble_at drafted hashed accepted time⟩, rfl, ?_⟩
  exact resolveFindingReplay_same stored again

/-! ## A password policy, reported twice -/

def developmentPack (contentSha256 : String) (control : Json) : Json :=
  .obj
    [("approval", .obj [("status", .str "DRAFT")]),
     ("content_sha256", .str contentSha256), ("controls", .arr [control]),
     ("correlation_id", .str "51000000-0000-4000-8000-000000000061"),
     ("created_at", .str "2026-07-23T05:00:00Z"),
     ("effective_from", .str "2026-07-23T00:00:00Z"),
     ("guide",
       .obj
         [("document_sha256",
            .str ("44fe393981b244147be6af7423d99dc15633c089fad0bcb296cb" ++
              "e2371dde812d")),
          ("publisher", .str "KISA"), ("section", .str "07.PC"),
          ("version", .str "2026")]),
     ("id", .str "51000000-0000-4000-8000-000000000060"),
     ("name", .str "KISA 2026 PC-01~18 Development Pack"),
     ("pack_profile", .str "KISA-2026-PC-MVP"),
     ("producer_name", .str "sec-ai-audit-pack-builder"),
     ("producer_version", .str "0.1.0"), ("schema_version", .str "1.0.0"),
     ("source", .str "audit-pack-builder"),
     ("target",
       .obj
         [("architectures", .arr [.str "x86_64"]),
          ("os_family", .str "WINDOWS"), ("versions", .arr [.str "11"])]),
     ("version", .str "0.6.0")]

def passwordControl : Json :=
  .obj
    [("applicability_rule",
       .obj
         [("parameters",
            .obj
              [("subject_scope", .str "POLICY"),
               ("supported_policy_sources",
                 .arr
                   [.str "LOCAL", .str "DOMAIN", .str "MDM",
                    .str "WINDOWS_DEFAULT"]),
               ("unresolved_source_status", .str "ERROR")]),
          ("rule_id", .str "pc02.account-policy-applicability"),
          ("rule_version", .str "0.1.0")]),
     ("automation_type", .str "AUTO-CONDITIONAL"),
     ("category", .str "ACCOUNT_MANAGEMENT"),
     ("citations",
       .arr
         [.obj
            [("document", .str "KISA-2026-07-PC"), ("page_end", .int 558),
             ("page_start", .int 557),
             ("section_label", .str "PC-02 비밀번호 관리정책 설정")]]),
     ("control_id", .str "PC-02"),
     ("evaluation_rule",
       .obj
         [("parameters",
            .obj
              [("collection_failure_status", .str "ERROR"),
               ("comparison_profile",
                 .str "EFFECTIVE_POLICY_MEETS_ORGANIZATION_STANDARD"),
               ("missing_organization_policy_status", .str "REVIEW"),
               ("organization_policy_required", .bool true),
               ("required_policy_fields",
                 .arr
                   [.str "minimum_password_length",
                    .str "complexity_required",
                    .str "password_required"])]),
          ("rule_id", .str "pc02.password-policy"),
          ("rule_version", .str "0.1.0")]),
     ("evidence_requirements",
       .arr
         [.obj
            [("accepted_collection_status", .arr [.str "COLLECTED"]),
             ("manual_attestation_allowed", .bool false),
             ("minimum_records", .int 1),
             ("organization_policy_required", .bool true),
             ("probe_ids", .arr [.str "win.security.password-policy"]),
             ("required", .bool true),
             ("requirement_id", .str "pc02.effective-password-policy")]]),
     ("fixture_refs",
       .obj
         [("error", .str "pc02-error-collection"),
          ("fail", .str "pc02-fail-below-standard"),
          ("pass", .str "pc02-pass-organization-standard"),
          ("review", .str "pc02-review-no-standard")]),
     ("required_privileges",
       .arr
         [.str "STANDARD_USER", .str "ELEVATED_ADMIN",
          .str "ORGANIZATION_POLICY"]),
     ("severity", .str "HIGH"), ("title", .str "비밀번호 관리정책 설정")]

def passwordPack : Json :=
  developmentPack
    "962dcd9855bdd5f77b8e67ba0b06d4b02330b78bb9e5596a50e3490fd21f2054"
    passwordControl

def passwordPolicyValue : Json :=
  .obj
    [("complexity_enabled", .bool true),
     ("maximum_password_age_days", .int 60),
     ("minimum_password_length", .int 14),
     ("password_required", .bool true), ("policy_source", .str "LOCAL")]

/-- The evidence of that report, under the identifier that the normalizer gives
it. -/
def passwordEvidence (id sourceId : String) : Json :=
  .obj
    [("asset_id", .str "28000000-0000-4000-8000-000000000004"),
     ("collected_at", .str "2026-07-23T08:09:00Z"),
     ("collection_status", .str "COLLECTED"),
     ("collector_version", .str "0.1.0"), ("control_id", .str "PC-02"),
     ("correlation_id", .str "33000000-0000-4000-8000-000000000012"),
     ("created_at", .str "2026-07-23T08:26:00Z"), ("error_code", .str "NONE"),
     ("evidence_sha256", .str sampleEvidenceHash),
     ("guide_version", .str "2026"), ("id", .str id),
     ("job_id", .str "28000000-0000-4000-8000-000000000003"),
     ("normalized_at", .str "2026-07-23T08:26:00Z"),
     ("normalized_value", passwordPolicyValue),
     ("package_id", .str "33000000-0000-4000-8000-000000000011"),
     ("policy_source", .str "LOCAL"),
     ("probe_id", .str "win.security.password-policy"),
     ("probe_version", .str "0.1.0"),
     ("producer_name", .str "sec-ai-normalizer"),
     ("producer_version", .str "0.1.0"),
     ("redaction",
       .obj [("applied", .bool true), ("method", .str "OMITTED")]),
     ("schema_version", .str "1.0.0"), ("source", .str "normalizer"),
     ("source_evidence_id", .str sourceId),
     ("source_locator",
       .obj
         [("locator", .str "redacted-device-summary"),
          ("provider", .str "SyntheticAcceptanceAdapter"),
          ("type", .str "WINDOWS_API")]),
     ("subject", .obj [("scope", .str "POLICY")])]

/-- The two reports, in the order of their collection. -/
def passwordReports : List Json :=
  [passwordEvidence "b72e9308-10ee-5c0e-8483-3cea74f9dc15"
      "33000000-0000-4000-8000-000000000010",
    passwordEvidence "3c153ee4-27c4-5940-ab53-7a53a2120aa8"
      "33000000-0000-4000-8000-000000000016"]

/-- The decision where the organization has no standard. -/
def passwordReview : Json :=
  .obj
    [("actual", .str "최소 14자, 복잡성 사용, 비밀번호 사용"),
     ("control_id", .str "PC-02"), ("error_codes", .arr []),
     ("expected", .str "조직의 비밀번호 기준을 먼저 등록해야 함"),
     ("policy_source", .str "LOCAL"),
     ("policy_source_label", .str "이 PC에서 설정"),
     ("rationale_code", .str "ORGANIZATION_PASSWORD_STANDARD_REQUIRED"),
     ("result_code", .str "ORGANIZATION_PASSWORD_STANDARD_REQUIRED"),
     ("status", .str "REVIEW")]

/-- `UUID(text)`, of a text in the usual form. -/
def sampleUuid (text : String) : Uuid :=
  ⟨text.toList.foldl (fun value character =>
    if character = '-' then value
    else if character.isDigit then value * 16 + (character.toNat - 48)
    else value * 16 + (character.toNat - 87)) 0⟩

/-- `datetime.fromisoformat`, of the times in the sample. -/
def sampleIsoformat (text : String) : Option DateTime :=
  ([("2026-07-23T08:09:00+00:00", (9 : Int)),
    ("2026-07-23T08:26:00+00:00", 26), ("2026-07-23T08:27:00+00:00", 27),
    ("2026-07-23T08:28:00+00:00", 28)].lookup text).map Package.sampleTime

def sampleDigits : UnicodeDigits := ⟨fun _ => false, fun _ => none⟩

/-- What the libraries answer: the digests of documents that are told apart by
how they begin and end, and identifiers by the names they are made of. -/
structure SampleAnswers where
  digests : List (String × String × Nat)
  identifiers : List (String × Nat)

def SampleAnswers.environment (answers : SampleAnswers) : FindingEnvironment :=
  let bytesOf (text : String) : List UInt8 := text.toByteArray.data.toList
  { canonicalize := fun document => some (canonicalBytes document)
    sha256 := fun bytes =>
      ⟨((answers.digests.find? fun entry =>
        (bytesOf entry.1).isPrefixOf bytes &&
          (bytesOf entry.2.1).isSuffixOf bytes).map fun entry =>
            entry.2.2).getD 0⟩
    uuidOf := sampleUuid
    uuid5 := fun _ name => ⟨(answers.identifiers.lookup name).getD 0⟩
    fromIsoformat := sampleIsoformat
    digits := sampleDigits }

theorem sampleTimestamp_accepted (answers : SampleAnswers) (minute : String)
    (listed : minute ∈ ["27", "28"]) :
    requireUtcTimestamp answers.environment
      ("2026-07-23T08:" ++ minute ++ ":00Z") = true := by
  change (_ && (sampleIsoformat _).isSome) = true
  simp only [List.mem_cons, List.not_mem_nil, or_false] at listed
  rcases listed with rfl | rfl <;> decide

def SampleAnswers.context (answers : SampleAnswers) :
    FindingBuildContext answers.environment :=
  { organizationId := "33000000-0000-4000-8000-000000000003"
    evaluationAsOf := ⟨_, sampleTimestamp_accepted answers "27" (by simp)⟩
    evaluatedAt := ⟨_, sampleTimestamp_accepted answers "27" (by simp)⟩
    engineVersion := "0.1.0"
    engineArtifactSha256 := String.ofList (List.replicate 64 'a')
    organizationIsUuid := by
      change Credential.uuidAccepts sampleDigits _ = true
      decide
    engineVersionIsSemver := by decide
    engineArtifactIsSha256 := by decide }

def passwordPackDigest : String × String × Nat :=
  ("\x7b\x22controls\x22:", "",
    0x962dcd9855bdd5f77b8e67ba0b06d4b02330b78bb9e5596a50e3490fd21f2054)

def reportsAnswers : SampleAnswers :=
  { digests :=
      [passwordPackDigest,
       ("[\x7b\x22id\x22:", "",
         0x51f550d7770c4622d2cb0651c3e006d661e7266fb3505aa643b25f5e477b430b),
       ("\x7b\x22asset_id\x22:", "",
         0xd8111596fbc3b1db9883d6f68fe111924682502f2ef4481bee329fe6b6a8c384),
       ("\x7b\x22applicability\x22:", "",
         0x673ea76b6987027ec6f566f845b21f7aac49cf6cca2f1e734f3aa7bbfd876c16)]
    identifiers :=
      [("d8111596fbc3b1db9883d6f68fe111924682502f2ef4481bee329fe6b6a8c384:" ++
          "673ea76b6987027ec6f566f845b21f7aac49cf6cca2f1e734f3aa7bbfd876c16",
        0x080a344071095681ade33fa0b40f35cc)] }

theorem reports_built : ∃ finding,
    (Construction.common passwordReview).run reportsAnswers.environment
      passwordPack "PC-02" passwordReports reportsAnswers.context true =
        .ok finding :=
  Outcome.eq_ok_of_isOk (by decide +kernel)

/-- Built again a minute later, from the reports in the other order, it is the
stored finding. -/
theorem reports_recognised : ∃ finding fingerprint rebuilt,
    findingFingerprint reportsAnswers.environment finding = .ok fingerprint ∧
    identity finding = (some fingerprint.findingId,
      some fingerprint.idempotencyKey, some fingerprint.outputSha256) ∧
    (Construction.common passwordReview).run reportsAnswers.environment
      passwordPack "PC-02" passwordReports.reverse
      (reportsAnswers.context.at
        ⟨_, sampleTimestamp_accepted _ "28" (by simp)⟩) true =
        .ok rebuilt ∧
    identity rebuilt = identity finding ∧
    resolveFindingReplay reportsAnswers.environment (some finding) rebuilt =
      .ok ⟨.returnExisting, fingerprint⟩ := by
  obtain ⟨finding, built⟩ := reports_built
  obtain ⟨fingerprint, rebuilt, recognised⟩ := replay_is_recognised built
    (List.reverse_perm passwordReports).symm
    ⟨_, sampleTimestamp_accepted _ "28" (by simp)⟩
  exact ⟨finding, fingerprint, rebuilt, recognised⟩

end SecAI.Findings
