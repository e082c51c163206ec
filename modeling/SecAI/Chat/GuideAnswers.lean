/-
Module: SecAI.Chat.GuideAnswers
Purpose: Answers to questions from the approved guides: search, grounding, the
  model or the local summary, and what each of them raises.
Trusted boundary: the database and the model services answer as they are
  asked; Unicode normalization, relevance scores, the patterns of texts,
  hashing and the writing of JSON are parameters; memory and recursion have no
  bound
Main exports:
  Raised, SearchSettings, GuideEnvironment
-/
import SecAI.Chat.GatewayStream
import SecAI.Chat.Repository
import SecAI.Chat.Streaming
import SecAI.Text.Numerals

namespace SecAI.Chat

open SecAI.Text

/-- `ModelSearchSettings.mode`. -/
inductive SearchMode where
  | legacyLocal
  | bgeM3Reranker
  | bgeM3WithLegacyFallback

/-- The settings of `ModelSearchSettings` that an answer is made with. -/
structure SearchSettings where
  mode : SearchMode
  fastTopK : Nat
  preciseTopK : Nat
  minimumRerankScore : Rat
  minimumLexicalScore : Rat

structure GuideSearchScope where
  organizationId : Uuid
  guide : GuideScope
  query : List Char
  topK : Nat

/-- `GuideSearchHit`. -/
structure GuideHit where
  chunkId : Uuid
  organizationId : Uuid
  guide : GuideScope
  pdfPageNumber : Nat
  controlId : String
  text : List Char
  lexicalScore : Rat
  rerankScore : Rat
  sourceSha256 : String
  textSha256 : String
deriving DecidableEq

structure ControlCitationSource where
  controlId : String
  documentCode : String
  pageStart : Nat
  pageEnd : Nat
  sectionLabel : String

structure IntegratedGuideTarget where
  guide : GuideScope
  citationSources : List ControlCitationSource

/-- What is not code of the answers, or stays the same during a task. -/
structure GuideEnvironment where
  /-- `ModelSearchSettings.from_environment`; `none` is `ModelSearchError`. -/
  settings : Option SearchSettings
  /-- `_integrated_guide_targets()`. -/
  targets : List IntegratedGuideTarget
  /-- `_control_sources`. -/
  controlSources : GuideScope → List ControlCitationSource
  /-- `contains_prompt_injection`. -/
  containsPromptInjection : List Char → Bool
  /-- `contains_executable_output`. -/
  containsExecutableOutput : List Char → Bool
  /-- A term of `_SCOPE_EXCLUSION_TERMS` occurs in the question. -/
  isExcluded : String → List Char → Bool
  /-- `_best_paragraph`: its ordinal and its hash. -/
  bestParagraph : List Char → List Char → Option (Nat × String)
  /-- `_referenced_citation_ordinals`. -/
  referencedOrdinals : List Char → List Nat
  /-- `unicodedata.normalize("NFC", text)`. -/
  nfc : List Char → List Char
  /-- `_SYSTEM_PROMPT`. -/
  systemPrompt : List Char
  canonicalSha256 : Json → String
  /-- `json.dumps` of a payload. -/
  dumps : Json → List Char
  python : PythonValues

structure GuideCitation where
  chunkId : Uuid
  guide : GuideScope
  documentCode : String
  sourceSha256 : String
  pdfPageNumber : Nat
  controlId : String
  sectionLabel : String
  paragraphOrdinal : Nat
  paragraphSha256 : String
  textSha256 : String
  lexicalScore : Rat
  rerankScore : Rat
deriving DecidableEq

/-- The result of `build_grounding_result`: citations, or the reason why there
is no evidence. -/
abbrev Grounding := Except String (List GuideCitation)

/-- `^[a-f0-9]{64}$`. -/
def isSha256 (value : String) : Bool :=
  decide (value.toList.length = 64) && value.toList.all fun character =>
    character.isDigit || decide ('a' ≤ character ∧ character ≤ 'f')

/-- `_valid_lineage`, with the source of the control of the hit. -/
def validLineage (hit : GuideHit) (source : ControlCitationSource) : Bool :=
  decide (source.controlId = hit.controlId ∧
    source.pageStart ≤ hit.pdfPageNumber ∧
    hit.pdfPageNumber ≤ source.pageEnd ∧ source.documentCode ≠ "" ∧
    source.sectionLabel ≠ "") &&
  isSha256 hit.sourceSha256 && isSha256 hit.textSha256

def citationOf (hit : GuideHit) (source : ControlCitationSource)
    (ordinal : Nat) (paragraphSha256 : String) : GuideCitation :=
  { chunkId := hit.chunkId
    guide := hit.guide
    documentCode := source.documentCode
    sourceSha256 := hit.sourceSha256
    pdfPageNumber := hit.pdfPageNumber
    controlId := hit.controlId
    sectionLabel := source.sectionLabel
    paragraphOrdinal := ordinal
    paragraphSha256 := paragraphSha256
    textSha256 := hit.textSha256
    lexicalScore := hit.lexicalScore
    rerankScore := hit.rerankScore }

section Grounding

variable (env : GuideEnvironment)

/-- The loop of `build_grounding_result` over the qualified hits. -/
def citeHits (query : List Char) (sources : List ControlCitationSource) :
    List GuideHit → Grounding
  | [] => .ok []
  | hit :: rest =>
      match sources.find? (·.controlId = hit.controlId) with
      | none => .error "CITATION_LINEAGE_INVALID"
      | some source =>
          if validLineage hit source then do
            let later ← citeHits query sources rest
            match env.bestParagraph query hit.text with
            | some (ordinal, hash) =>
                return citationOf hit source ordinal hash :: later
            | none => return later
          else .error "CITATION_LINEAGE_INVALID"

def buildGroundingResult (settings : SearchSettings)
    (scope : GuideSearchScope) (hits : List GuideHit)
    (sources : List ControlCitationSource) : Grounding :=
  if env.isExcluded scope.guide.scopeId scope.query ∨ hits = [] then
    .error "NO_MATCH_IN_APPROVED_SCOPE"
  else
    let ofScope := hits.filter fun hit => decide
      (hit.organizationId = scope.organizationId ∧ hit.guide = scope.guide)
    if ofScope = [] then .error "CITATION_LINEAGE_INVALID"
    else
      let qualified := ofScope.filter fun hit => decide
        (settings.minimumRerankScore ≤ hit.rerankScore ∧
          settings.minimumLexicalScore ≤ hit.lexicalScore)
      if qualified = [] then .error "INSUFFICIENT_RELEVANCE"
      else
        match citeHits env scope.query sources qualified with
        | .ok [] => .error "INSUFFICIENT_RELEVANCE"
        | outcome => outcome

end Grounding

/-- `ChatCompletionResult`, with what an answer reads of it. -/
structure Completion where
  modelId : List CodePoint
  content : List CodePoint
  finishReason : List CodePoint

/-- `ModelExecutionPolicy`, with what `content_transfer_allowed` reads. -/
structure ModelExecutionPolicy where
  externalDataTransfer : Bool
  approvedExternalContentTransfer : Bool

def ModelExecutionPolicy.contentTransferAllowed
    (policy : ModelExecutionPolicy) : Bool :=
  !policy.externalDataTransfer || policy.approvedExternalContentTransfer

/-- `GroundedAIStatus`. -/
inductive GroundedStatus where
  | generated
  | noEvidence
  | documentConflict
  | externalTransferBlocked
  | securityBlocked
  | modelUnavailable
  | generationFailed

def GroundedStatus.text : GroundedStatus → String
  | .generated => "GENERATED"
  | .noEvidence => "NO_EVIDENCE"
  | .documentConflict => "DOCUMENT_CONFLICT"
  | .externalTransferBlocked => "EXTERNAL_TRANSFER_BLOCKED"
  | .securityBlocked => "SECURITY_BLOCKED"
  | .modelUnavailable => "MODEL_UNAVAILABLE"
  | .generationFailed => "GENERATION_FAILED"

def evidenceLimit : ModelProfile → Nat
  | .fast => 12000
  | .precise => 32000

/-- The cited hits that go into the payload: the first, and the others as long
as they fit. -/
def selectEvidence (limit : Nat) (begun : Bool) (used : Nat) :
    List (GuideCitation × GuideHit) → List (GuideCitation × GuideHit)
  | [] => []
  | (citation, hit) :: rest =>
      if begun ∧ limit < used + hit.text.length then []
      else (citation, hit) ::
        selectEvidence limit true (used + hit.text.length) rest

/-- The hit of a citation, or nothing where one is missing. -/
def citedHits (hits : List GuideHit) (citations : List GuideCitation) :
    Option (List (GuideCitation × GuideHit)) :=
  citations.mapM fun citation =>
    (hits.find? (·.chunkId = citation.chunkId)).map fun hit => (citation, hit)

def hasLineage (citation : GuideCitation) (hit : GuideHit) : Bool :=
  decide (citation.chunkId = hit.chunkId ∧ citation.guide = hit.guide ∧
    citation.pdfPageNumber = hit.pdfPageNumber ∧
    citation.sourceSha256 = hit.sourceSha256 ∧
    citation.textSha256 = hit.textSha256)

/-- A guide environment that searches in a mode, and refuses nothing. -/
def exampleGuides (mode : SearchMode) : GuideEnvironment where
  settings := some
    { mode := mode
      fastTopK := 5
      preciseTopK := 8
      minimumRerankScore := 0
      minimumLexicalScore := 0 }
  targets := []
  controlSources := fun _ => []
  containsPromptInjection := fun _ => false
  containsExecutableOutput := fun _ => false
  isExcluded := fun _ _ => false
  bestParagraph := fun _ _ => none
  referencedOrdinals := fun _ => []
  nfc := id
  systemPrompt := "system".toList
  canonicalSha256 := fun _ => "digest"
  dumps := fun _ => []
  python :=
    { accepted := fun _ => true
      isZero := fun _ => false
      text := fun _ => [] }

end SecAI.Chat
