/-
Module: SecAI.Explanation.Grounded
Purpose: `GroundedAIService.generate`: answers from guide evidence, with or
  without an official finding, and the results of a scan as they check them.
Trusted boundary: hits and their relevance, digests, the Unicode database, how
  a float is written, and what the model answers are parameters; the system
  prompts are short enough for a message; the nesting stays within the
  recursion limit; the finding may have changed when the model has answered;
  the callback for tokens returns
Main exports:
  ResultLibrary, GroundedRequest, GroundedSources, GroundedAnswer, Asked
-/
import SecAI.Common.Outcome
import SecAI.Text.Rendered
import SecAI.Chat.GuideAnswers
import SecAI.Explanation.InstructionGuard

namespace SecAI.Explanation

open SecAI.Text

/-- What a call raises, by its class. -/
inductive Raised where
  /-- `ResultAIExplanationError`. -/
  | explanation (code : String)
  /-- `ResultFollowUpError`. -/
  | followUp (code : String)
  /-- `ResultRecheckComparisonError`. -/
  | comparison (code : String)
  /-- `DeviceAIContractError`. -/
  | device (code : String)
  /-- `GroundedAIError`. -/
  | grounded (code : String)
  /-- `ModelSearchError`. -/
  | modelSearch
  /-- `ProviderRequestError`. -/
  | provider (category : List CodePoint) (retryable : Bool)
  /-- `ValueError`, and what else inherits from it. -/
  | value (message : String)
  /-- `TypeError`. -/
  | type
  /-- `KeyError`. -/
  | key
  /-- `StopIteration`. -/
  | stopIteration
deriving DecidableEq

/-- What is not code of the explanations. -/
structure ResultLibrary extends FloatTexts where
  /-- The digest of the canonical form of a document. -/
  documentDigest : Decoded → List Char
  /-- The digest of the bytes of a text. -/
  textDigest : List CodePoint → List Char

def exampleLibrary : ResultLibrary where
  text := fun _ => []
  unmarked := fun _ => List.not_mem_nil
  documentDigest := fun _ => []
  textDigest := fun _ => []

section Digests

variable (library : ResultLibrary)

def canonicalSha256 (document : Decoded) : Except Raised (List CodePoint) :=
  if document.isRepresentable then
    .ok (points (library.documentDigest document))
  else .error (.value "SecAICanonicalizationError")

end Digests

/-- `PC-01` to `PC-18`. -/
def controlIds : List (List CodePoint) :=
  ["PC-01", "PC-02", "PC-03", "PC-04", "PC-05", "PC-06", "PC-07", "PC-08",
    "PC-09", "PC-10", "PC-11", "PC-12", "PC-13", "PC-14", "PC-15", "PC-16",
    "PC-17", "PC-18"].map fun controlId : String => points controlId.toList

def ruleStatuses : List (List CodePoint) :=
  ["PASS", "FAIL", "ERROR", "REVIEW", "N/A"].map fun status : String =>
    points status.toList

end SecAI.Explanation

namespace SecAI.Explanation

open SecAI.Text Delimited

/-- A text of characters. -/
abbrev literal (text : String) : List CodePoint := points text.toList

/-- A text as a value. -/
abbrev literalValue (text : String) : Decoded := .str (literal text)

def angle : Brackets CodePoint where
  mark := markPoint
  slash := CodePoint.ofChar '/'
  stop := CodePoint.ofChar '>'
  mark_ne_slash := by decide
  mark_ne_stop := by decide
  slash_ne_stop := by decide

def tagNamed (name : String)
    (plain : ((literal name).all fun point => decide (point ≠ angle.mark ∧
      point ≠ angle.slash ∧ point ≠ angle.stop)) = true) : Tag angle where
  name := literal name
  plain := fun _ member => of_decide_eq_true (List.all_eq_true.mp plain _ member)

/-- `untrusted_payload`. -/
def payloadTag : Tag angle := tagNamed "untrusted_payload" (by decide)

/-- The message of a user, by its parts. -/
abbrev UserMessage := List (Part angle)

def UserMessage.content (parts : UserMessage) : List CodePoint :=
  message (points ['\n']) parts

/-- `ChatMessage.__post_init__` of the text of a user. -/
def chatContent (content : List CodePoint) : Except Raised (List CodePoint) :=
  let stripped := stripPoints content
  if stripped = [] ∨ 24000 < stripped.length then
    .error (.value "CHAT_MESSAGE_LENGTH_INVALID")
  else .ok stripped

section Sending

variable (floats : FloatTexts)

/-- `json.dumps(payload, ensure_ascii=False, sort_keys=True)`. -/
def dumpSorted (style : JsonStyle) (payload : Decoded) : List CodePoint :=
  render floats style payload.sortKeys

end Sending

end SecAI.Explanation

namespace SecAI.Explanation

open SecAI.Text Delimited
open SecAI.Chat (GuideEnvironment GuideSearchScope GuideHit GuideCitation
  ControlCitationSource ModelExecutionPolicy ModelProfile GroundedStatus
  selectEvidence evidenceLimit hasLineage citedHits buildGroundingResult)

/-- The patterns of `_EXECUTABLE_OUTPUT_PATTERNS`. -/
def executablePatterns (database : CharacterDatabase) : List Pattern :=
  [.seq (.literal "```") (oneOfTexts ["powershell", "pwsh", "cmd", "bat",
      "bash", "sh", "python", "javascript"]),
    .sequence [.wordBoundary database.isWord,
      oneOfTexts ["Set-ItemProperty", "Remove-Item", "Invoke-Expression",
        "cmd.exe"],
      .wordBoundary database.isWord],
    .seq (.literalIgnoringCase "<script") (.wordBoundary database.isWord)]

/-- `_contains_executable_output`, of a text. -/
def containsExecutableOutput (database : CharacterDatabase)
    (text : List CodePoint) : Bool :=
  textMatches (executablePatterns database) text

/-! ## Findings -/

/-- `_PROHIBITED_FIELD_TERMS`. -/
def prohibitedTerms : List (List Char) :=
  ["authorization", "password", "passwd", "secret", "token", "api_key",
    "private_key", "credential", "cookie", "session"].map String.toList

/-- A key that contains a prohibited term, with hyphens as underscores. -/
def isProhibitedKey (database : CharacterDatabase) (key : List CodePoint) :
    Bool :=
  let folded := casefold database (key.map CodePoint.shown)
  let normalized := folded.map fun character =>
    if character = '-' then '_' else character
  prohibitedTerms.any fun term => decide (term <:+: normalized)

mutual

def hasProhibitedField (database : CharacterDatabase) : Decoded → Bool
  | .dict members => membersProhibited database members
  | .list items => itemsProhibited database items
  | .null | .bool _ | .int _ | .float _ | .str _ => false

def itemsProhibited (database : CharacterDatabase) : List Decoded → Bool
  | [] => false
  | item :: items =>
      hasProhibitedField database item || itemsProhibited database items

def membersProhibited (database : CharacterDatabase) :
    List (List CodePoint × Decoded) → Bool
  | [] => false
  | (key, value) :: members =>
      isProhibitedKey database key || hasProhibitedField database value ||
        membersProhibited database members

end

/-- What is read of a finding. -/
structure FindingSnapshot where
  controlId : List CodePoint
  officialStatus : List CodePoint
  ruleResult : Members
  known : controlId ∈ controlIds
  judged : officialStatus ∈ ruleStatuses

def findingSnapshot (database : CharacterDatabase) (finding : Members) :
    Except Raised FindingSnapshot :=
  let invalid : Raised := .grounded "FINDING_EXPLANATION_INPUT_INVALID"
  if hasProhibitedField database (.dict finding) then
    .error (.grounded "FINDING_CONTAINS_PROHIBITED_FIELD")
  else
    match getItem finding "control_id", getItem finding "status",
      getItem finding "rule_result", getItem finding "audit_pack" with
    | .str controlId, .str status, .dict ruleResult, .dict _ =>
        if known : controlId ∈ controlIds then
          if judged : status ∈ ruleStatuses then
            .ok ⟨controlId, status, ruleResult, known, judged⟩
          else .error invalid
        else .error invalid
    | _, _, _, _ => .error invalid

/-! ## Requests and results -/

/-- `GroundedAIRequest`: the mode is `FINDING_EXPLAIN` if and only if there is
a finding. -/
structure GroundedRequest where
  scope : GuideSearchScope
  finding : Option Members
  profile : ModelProfile

/-- `GuideConflictResolution`, with what is read of it. -/
structure GuideConflict where
  status : List CodePoint
  reasonCode : List CodePoint

/-- The other arguments of `generate`. -/
structure GroundedSources where
  hits : List GuideHit
  citationSources : List ControlCitationSource
  policy : ModelExecutionPolicy
  conflict : Option GuideConflict
  groundingScope : Option GuideSearchScope
  verifiedCitedHits : Option (List (GuideCitation × GuideHit))

/-- The digests of a finding and of its audit pack, where there is one. -/
abbrev FindingHashes := Option (List CodePoint × List CodePoint)

/-- `GroundedAIResult`. -/
structure GroundedAnswer where
  status : GroundedStatus
  reasonCode : Option (List CodePoint)
  answer : Option (List CodePoint) := none
  citations : List GuideCitation := []
  modelId : Option (List CodePoint) := none
  promptSha256 : Option (List CodePoint) := none
  inputSha256 : Option (List CodePoint) := none
  outputSha256 : Option (List CodePoint) := none
  officialFindingStatus : Option (List CodePoint) := none
  hashesBefore : FindingHashes := none
  hashesAfter : FindingHashes := none
  retryable : Bool := false

section Preparation

variable (env : GuideEnvironment) (library : ResultLibrary)
  (database : CharacterDatabase)

def currentHashes (finding : Option Members) :
    Except Raised FindingHashes :=
  match finding with
  | none => .ok none
  | some finding =>
      match getItem finding "audit_pack" with
      | .dict auditPack => do
          let findingHash ← canonicalSha256 library (.dict finding)
          let packHash ← canonicalSha256 library (.dict auditPack)
          return some (findingHash, packHash)
      | _ => .error (.grounded "FINDING_EXPLANATION_INPUT_INVALID")

/-- What is known of the finding before the model is asked. -/
structure FindingBefore where
  hashes : FindingHashes
  snapshot : Option FindingSnapshot

/-- The finding is hashed and read.  Its digest is made before its audit pack
is looked at. -/
def readFinding (finding : Option Members) :
    Except Raised FindingBefore :=
  match finding with
  | none => .ok ⟨none, none⟩
  | some finding => do
      let findingHash ← canonicalSha256 library (.dict finding)
      match getItem finding "audit_pack" with
      | .dict auditPack => do
          let packHash ← canonicalSha256 library (.dict auditPack)
          let snapshot ← findingSnapshot database finding
          return ⟨some (findingHash, packHash), some snapshot⟩
      | _ => throw (.grounded "FINDING_EXPLANATION_INPUT_INVALID")

/-- A result without an answer, before the model is asked. -/
def FindingBefore.refusal (before : FindingBefore) (status : GroundedStatus)
    (reasonCode : String) (citations : List GuideCitation) : GroundedAnswer :=
  { status := status
    reasonCode := some (literal reasonCode)
    citations := citations
    officialFindingStatus := before.snapshot.map FindingSnapshot.officialStatus
    hashesBefore := before.hashes
    hashesAfter := before.hashes }

/-- The hits that are cited, or the result without evidence. -/
abbrev CitedHits := Except GroundedAnswer (List (GuideCitation × GuideHit))

/-- The hits of a search, grounded in their scope. -/
def groundedHits (request : GroundedRequest) (sources : GroundedSources)
    (before : FindingBefore) : Except Raised CitedHits :=
  match env.settings with
  | none => .error .modelSearch
  | some settings =>
      match buildGroundingResult env settings
          (sources.groundingScope.getD request.scope) sources.hits
          sources.citationSources with
      | .error reason =>
          .ok (.error (before.refusal .noEvidence reason []))
      | .ok citations =>
          match citedHits sources.hits citations with
          | none => .ok (.error
              { status := .noEvidence
                reasonCode := some (literal "CITATION_LINEAGE_INVALID") })
          | some cited => .ok (.ok cited)

def verifiedHits (request : GroundedRequest)
    (verified : List (GuideCitation × GuideHit)) : Except Raised CitedHits :=
  if request.finding.isSome ∨ ¬(1 ≤ verified.length ∧ verified.length ≤ 10) then
    .error (.grounded "VERIFIED_CITATIONS_NOT_ALLOWED")
  else if verified.any fun pair => !hasLineage pair.1 pair.2 then
    .ok (.error
      { status := .noEvidence
        reasonCode := some (literal "CITATION_LINEAGE_INVALID") })
  else .ok (.ok verified)

/-- The hits that an answer is made of, from the search or given with their
citations. -/
def findCited (request : GroundedRequest) (sources : GroundedSources)
    (before : FindingBefore) : Except Raised CitedHits :=
  match sources.verifiedCitedHits with
  | none => groundedHits env request sources before
  | some verified => verifiedHits request verified

/-! ## The payload -/

def citationPayload (citation : GuideCitation) : Decoded :=
  .dict [
    (literal "chunk_id", literalValue citation.chunkId.text),
    (literal "guide_id", literalValue citation.guide.guideId),
    (literal "guide_version", literalValue citation.guide.guideVersion),
    (literal "document_code", literalValue citation.documentCode),
    (literal "source_sha256", literalValue citation.sourceSha256),
    (literal "scope_id", literalValue citation.guide.scopeId),
    (literal "pdf_page_number", .int citation.pdfPageNumber),
    (literal "control_id", literalValue citation.controlId),
    (literal "section_label", literalValue citation.sectionLabel),
    (literal "paragraph_ordinal", .int citation.paragraphOrdinal),
    (literal "paragraph_sha256", literalValue citation.paragraphSha256),
    (literal "text_sha256", literalValue citation.textSha256)]

def ruleResultFields : List String := ["result_code", "actual", "expected"]

def FindingSnapshot.payload (snapshot : FindingSnapshot) : Decoded :=
  .dict ([
    (literal "control_id", .str snapshot.controlId),
    (literal "official_status", .str snapshot.officialStatus)] ++
    ruleResultFields.map fun field =>
      (literal field, getItem snapshot.ruleResult field))

def evidencePayload (evidence : (GuideCitation × GuideHit) × Nat) : Decoded :=
  .dict [
    (literal "rank", .int (evidence.2 + 1)),
    (literal "text", .str (points evidence.1.2.text)),
    (literal "citation", citationPayload evidence.1.1)]

def GroundedRequest.mode (request : GroundedRequest) : String :=
  match request.finding with
  | none => "GUIDE_QA"
  | some _ => "FINDING_EXPLAIN"

/-- `input_payload`. -/
def groundedPayload (request : GroundedRequest)
    (snapshot : Option FindingSnapshot)
    (first : GuideCitation × GuideHit)
    (evidence : List (GuideCitation × GuideHit)) : Decoded :=
  .dict [
    (literal "mode", literalValue request.mode),
    (literal "question", .str (points request.scope.query)),
    (literal "guide_excerpt", .str (points first.2.text)),
    (literal "citation", citationPayload first.1),
    (literal "guide_evidence", .list (evidence.zipIdx.map evidencePayload)),
    (literal "knowledge_policy", .dict [
      (literal "official_judgement_source", literalValue "RULE_ENGINE_ONLY"),
      (literal "guide_source", literalValue "APPROVED_VECTOR_DB"),
      (literal "general_knowledge_role",
        literalValue "SUPPLEMENTARY_EXPLANATION_ONLY")]),
    (literal "finding", match snapshot with
      | none => .null
      | some snapshot => snapshot.payload)]

def promptHash : Except Raised (List CodePoint) :=
  canonicalSha256 library (.dict [
    (literal "template_id", literalValue "secai-grounded-korean-answer"),
    (literal "template_version", literalValue "2.3.0"),
    (literal "system_prompt", .str (points env.systemPrompt))])

/-! ## Before the model is asked -/

/-- What the model is asked, and what is known by then. -/
structure Asked where
  before : FindingBefore
  evidence : List (GuideCitation × GuideHit)
  message : UserMessage
  promptSha256 : List CodePoint
  inputSha256 : List CodePoint

def askAbout (request : GroundedRequest) (before : FindingBefore)
    (first : GuideCitation × GuideHit)
    (cited : List (GuideCitation × GuideHit)) : Except Raised Asked := do
  let evidence := selectEvidence (evidenceLimit request.profile) false 0 cited
  let payload := groundedPayload request before.snapshot first evidence
  let promptSha256 ← promptHash env library
  let inputSha256 ← canonicalSha256 library payload
  let message : UserMessage :=
    [⟨payloadTag, dumpSorted library.toFloatTexts .compact payload⟩]
  let _ ← chatContent message.content
  return ⟨before, evidence, message, promptSha256, inputSha256⟩

def isOfOtherControl (before : FindingBefore) (citation : GuideCitation) :
    Bool :=
  match before.snapshot with
  | none => false
  | some snapshot => decide (snapshot.controlId ≠ literal citation.controlId)

/-- The part of `generate` between the grounding and the model. -/
def askOrRefuse (request : GroundedRequest) (policy : ModelExecutionPolicy)
    (before : FindingBefore) (cited : List (GuideCitation × GuideHit)) :
    Except Raised (Except GroundedAnswer Asked) :=
  let citations := cited.map Prod.fst
  match cited with
  | [] => .ok (.error
      { status := .noEvidence
        reasonCode := some (literal "CITATION_LINEAGE_INVALID") })
  | first :: _ =>
      if isOfOtherControl before first.1 then
        .ok (.error (before.refusal .noEvidence
          "FINDING_GUIDE_CONTROL_MISMATCH" citations))
      else if cited.any fun pair =>
          containsPromptInjection (points pair.2.text) then
        .ok (.error (before.refusal .securityBlocked
          "UNTRUSTED_GUIDE_INSTRUCTION_DETECTED" citations))
      else if policy.contentTransferAllowed = false then
        .ok (.error (before.refusal .externalTransferBlocked
          "EXTERNAL_GUIDE_CONTENT_TRANSFER_NOT_APPROVED" citations))
      else do
        let asked ← askAbout env library request before first cited
        return .ok asked

def GroundedSources.inConflict (sources : GroundedSources) :
    Option GuideConflict :=
  sources.conflict.filter fun conflict =>
    decide (conflict.status = literal "CONFLICT")

/-- The part of `generate` before the model: an exception, a result without an
answer, or a question. -/
def prepare (request : GroundedRequest) (sources : GroundedSources) :
    Except Raised (Except GroundedAnswer Asked) :=
  match sources.inConflict with
  | some conflict => .ok (.error
      { status := .documentConflict
        reasonCode := some conflict.reasonCode })
  | none =>
      if containsPromptInjection (points request.scope.query) then
        .ok (.error
          { status := .securityBlocked
            reasonCode := some (literal "PROMPT_INJECTION_DETECTED") })
      else do
        let before ← readFinding library database request.finding
        let cited ← findCited env request sources before
        match cited with
        | .error refused => return .error refused
        | .ok cited =>
            askOrRefuse env library request sources.policy before cited

end Preparation

/-! ## The model -/

/-- Why there is no completion. -/
inductive ModelFault where
  /-- `ProviderRequestError`. -/
  | provider (category : List CodePoint) (retryable : Bool)
  /-- Another exception. -/
  | raised (raised : Raised)

/-- What the model does when it is asked, and the finding behind that. -/
structure ModelRun where
  /-- What `stream` yields and what it raises then, if there is such a
  method. -/
  stream : Option (List Chat.StreamChunk × Option ModelFault)
  /-- What `complete` returns. -/
  complete : Except ModelFault Chat.Completion
  findingAfter : Option Members

def assembled (chunks : List Chat.StreamChunk) : Chat.Completion where
  modelId := (chunks.getLast?.map Chat.StreamChunk.modelId).getD
    (literal "unknown")
  content := (chunks.map Chat.StreamChunk.contentDelta).flatten
  finishReason := (chunks.filterMap Chat.StreamChunk.finishReason).getLast?.getD
    (literal "unknown")

def handedOn (chunks : List Chat.StreamChunk) : List (List CodePoint) :=
  (chunks.map Chat.StreamChunk.contentDelta).filter (· ≠ [])

/-- The completion, or why there is none, and the tokens that are handed to
the callback by then. -/
structure Heard where
  completion : Except ModelFault Chat.Completion
  tokens : List (List CodePoint)

/-- What is heard of the model, with or without a callback for tokens. -/
def ModelRun.heard (run : ModelRun) (listens : Bool) : Heard :=
  match listens, run.stream with
  | true, some (chunks, none) => ⟨.ok (assembled chunks), handedOn chunks⟩
  | true, some (chunks, some fault) => ⟨.error fault, handedOn chunks⟩
  | _, _ =>
      match run.complete with
      | .ok completion =>
          ⟨.ok completion, if listens then [completion.content] else []⟩
      | .error fault => ⟨.error fault, []⟩

/-! ## The answer -/

def unavailableCategories : List (List CodePoint) :=
  ["MODEL_UNAVAILABLE", "UPSTREAM_UNAVAILABLE", "UPSTREAM_TIMEOUT",
    "RATE_LIMITED"].map fun category : String => literal category

def maxAnswerChars : Nat := 12000

section Answers

variable (env : GuideEnvironment) (library : ResultLibrary)
  (database : CharacterDatabase)

def Asked.answer (asked : Asked) (hashesAfter : FindingHashes) :
    GroundedAnswer :=
  { status := .securityBlocked
    reasonCode := none
    citations := asked.evidence.map Prod.fst
    promptSha256 := some asked.promptSha256
    inputSha256 := some asked.inputSha256
    officialFindingStatus :=
      asked.before.snapshot.map FindingSnapshot.officialStatus
    hashesBefore := asked.before.hashes
    hashesAfter := hashesAfter }

/-- The result of a `ProviderRequestError`. -/
def providerAnswer (asked : Asked) (category : List CodePoint)
    (retryable : Bool) (findingAfter : Option Members) :
    Except Raised GroundedAnswer := do
  let hashesAfter ← currentHashes library findingAfter
  return { asked.answer hashesAfter with
    status := if category ∈ unavailableCategories then .modelUnavailable
      else .generationFailed
    reasonCode := some category
    retryable := retryable }

def isBlocked (raw : List CodePoint) : Bool :=
  decide (raw = []) || decide (maxAnswerChars < raw.length) ||
    containsExecutableOutput database raw

def completedAnswer (asked : Asked) (completion : Chat.Completion)
    (findingAfter : Option Members) : Except Raised GroundedAnswer := do
  let raw := stripPoints completion.content
  let outputSha256 ← canonicalSha256 library (.dict [
    (literal "model_id", .str completion.modelId),
    (literal "content", .str raw),
    (literal "finish_reason", .str completion.finishReason)])
  let hashesAfter ← currentHashes library findingAfter
  if asked.before.hashes ≠ hashesAfter then
    throw (.grounded "OFFICIAL_STATE_MUTATION_DETECTED")
  if isBlocked database raw then
    return { asked.answer hashesAfter with
      reasonCode := some (literal "EXECUTABLE_MODEL_OUTPUT_BLOCKED")
      outputSha256 := some outputSha256 }
  return { asked.answer hashesAfter with
    status := .generated
    answer := some raw
    modelId := some completion.modelId
    outputSha256 := some outputSha256 }

/-- What becomes of what the model was heard to answer. -/
def answerHeard (asked : Asked) (heard : Heard)
    (findingAfter : Option Members) : Except Raised GroundedAnswer :=
  match heard.completion with
  | .ok completion =>
      completedAnswer library database asked completion findingAfter
  | .error (.provider category retryable) =>
      providerAnswer library asked category retryable findingAfter
  | .error (.raised raised) => .error raised

/-- A call of `generate`, with what it asked the model and what it handed to
the callback. -/
structure Generation where
  result : Except Raised GroundedAnswer
  asked : Option Asked
  tokens : List (List CodePoint)

/-- `GroundedAIService.generate`. -/
def generate (request : GroundedRequest) (sources : GroundedSources)
    (listens : Bool) (run : ModelRun) : Generation :=
  match prepare env library database request sources with
  | .error raised => ⟨.error raised, none, []⟩
  | .ok (.error refused) => ⟨.ok refused, none, []⟩
  | .ok (.ok asked) =>
      let heard := run.heard listens
      ⟨answerHeard library database asked heard run.findingAfter, some asked,
        heard.tokens⟩

end Answers

end SecAI.Explanation
