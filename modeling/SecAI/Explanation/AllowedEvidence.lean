/-
Module: SecAI.Explanation.AllowedEvidence
Purpose: What is known when `GroundedAIService.generate` asks the model: it asks
  about allowed evidence only, and cites what it sent.
Trusted boundary: as in the answers; the chunk ids of the hits are distinct
Main exports:
  prepare_eq_asked, selectEvidence_prefix, isRelevant, SearchedEvidence, Citable
-/
import SecAI.Explanation.Grounded

namespace SecAI.Explanation

open SecAI.Text
open SecAI.Chat (GuideEnvironment GuideHit GuideCitation selectEvidence
  evidenceLimit)

section Preparation

variable {env : GuideEnvironment} {library : ResultLibrary}
  {database : CharacterDatabase}

/-- What holds when the model is asked. -/
structure Prepared (env : GuideEnvironment) (library : ResultLibrary)
    (database : CharacterDatabase) (request : GroundedRequest)
    (sources : GroundedSources) (asked : Asked)
    (first : GuideCitation × GuideHit)
    (rest : List (GuideCitation × GuideHit)) : Prop where
  noConflict : sources.inConflict = none
  queryClean : containsPromptInjection (points request.scope.query) = false
  finding : readFinding library database request.finding = .ok asked.before
  found : findCited env request sources asked.before = .ok (.ok (first :: rest))
  ofControl : isOfOtherControl asked.before first.1 = false
  textsClean : ∀ pair ∈ first :: rest,
    containsPromptInjection (points pair.2.text) = false
  allowed : sources.policy.contentTransferAllowed = true
  evidence : asked.evidence =
    selectEvidence (evidenceLimit request.profile) false 0 (first :: rest)
  message : asked.message = [⟨payloadTag, dumpSorted library.toFloatTexts
    .compact (groundedPayload request asked.before.snapshot first
      asked.evidence)⟩]
  sendable : ∃ content, chatContent asked.message.content = .ok content

variable {request : GroundedRequest} {sources : GroundedSources}
  {before : FindingBefore} {asked : Asked} {first : GuideCitation × GuideHit}
  {cited rest : List (GuideCitation × GuideHit)}

theorem askAbout_eq_ok (answered : askAbout env library request before first
    cited = .ok asked) :
    asked.before = before ∧
      asked.evidence =
        selectEvidence (evidenceLimit request.profile) false 0 cited ∧
      asked.message = [⟨payloadTag, dumpSorted library.toFloatTexts .compact
        (groundedPayload request before.snapshot first asked.evidence)⟩] ∧
      ∃ content, chatContent asked.message.content = .ok content := by
  unfold askAbout at answered
  simp only [Outcome.bind_eq_ok] at answered
  obtain ⟨promptSha256, -, inputSha256, -, content, sendable, same⟩ := answered
  cases same
  exact ⟨rfl, rfl, rfl, content, sendable⟩

theorem askOrRefuse_eq_ok {policy : Chat.ModelExecutionPolicy}
    (answered : askOrRefuse env library request policy before cited =
      .ok (.ok asked)) :
    ∃ first rest, cited = first :: rest ∧
      isOfOtherControl before first.1 = false ∧
      (∀ pair ∈ cited, containsPromptInjection (points pair.2.text) = false) ∧
      policy.contentTransferAllowed = true ∧
      askAbout env library request before first cited = .ok asked := by
  cases cited with
  | nil => cases answered
  | cons first rest =>
      refine ⟨first, rest, rfl, ?_⟩
      simp only [askOrRefuse] at answered
      by_cases other : isOfOtherControl before first.1 = true
      · rw [if_pos other] at answered
        cases answered
      rw [if_neg other] at answered
      by_cases instructs : ((first :: rest).any fun pair =>
          containsPromptInjection (points pair.2.text)) = true
      · rw [if_pos instructs] at answered
        cases answered
      rw [if_neg instructs] at answered
      by_cases forbidden : policy.contentTransferAllowed = false
      · rw [if_pos forbidden] at answered
        cases answered
      rw [if_neg forbidden] at answered
      obtain ⟨value, asks, same⟩ := Outcome.bind_eq_ok.mp answered
      cases same
      refine ⟨eq_false_of_ne_true other, ?_, eq_true_of_ne_false forbidden,
        asks⟩
      intro pair member
      by_contra injects
      exact instructs (List.any_eq_true.mpr
        ⟨pair, member, eq_true_of_ne_false injects⟩)

/-- The model is asked only when everything was checked. -/
theorem prepare_eq_asked (asks : prepare env library database request sources =
    .ok (.ok asked)) :
    ∃ first rest, Prepared env library database request sources asked first
      rest := by
  unfold prepare at asks
  split at asks
  · cases asks
  rename_i noConflict
  by_cases injected : containsPromptInjection
      (points request.scope.query) = true
  · rw [if_pos injected] at asks
    cases asks
  rw [if_neg injected] at asks
  obtain ⟨before, finding, later⟩ := Outcome.bind_eq_ok.mp asks
  obtain ⟨outcome, found, decided⟩ := Outcome.bind_eq_ok.mp later
  cases outcome with
  | error refused => cases decided
  | ok cited =>
      obtain ⟨first, rest, rfl, ofControl, textsClean, allowed, asksModel⟩ :=
        askOrRefuse_eq_ok decided
      obtain ⟨rfl, evidence, message, sendable⟩ := askAbout_eq_ok asksModel
      refine ⟨first, rest, ?_⟩
      constructor
      case noConflict => exact noConflict
      case queryClean => exact eq_false_of_ne_true injected
      case finding => exact finding
      case found => exact found
      case ofControl => exact ofControl
      case textsClean => exact textsClean
      case allowed => exact allowed
      case evidence => exact evidence
      case message => exact message
      case sendable => exact sendable

end Preparation

section Selection

theorem selectEvidence_prefix (limit : Nat)
    (cited : List (GuideCitation × GuideHit)) :
    ∀ begun used, selectEvidence limit begun used cited <+: cited := by
  induction cited with
  | nil =>
      intro begun used
      exact List.prefix_rfl
  | cons pair rest ih =>
      intro begun used
      rw [selectEvidence]
      split_ifs
      · exact List.nil_prefix
      · exact List.cons_prefix_cons.mpr ⟨rfl, ih _ _⟩

theorem selectEvidence_cons (limit used : Nat)
    (first : GuideCitation × GuideHit)
    (rest : List (GuideCitation × GuideHit)) :
    selectEvidence limit false used (first :: rest) =
      first :: selectEvidence limit true (used + first.2.text.length) rest := by
  rw [selectEvidence, if_neg]
  exact fun begun => Bool.false_ne_true begun.1

end Selection

section Answers

variable {library : ResultLibrary} {database : CharacterDatabase}
  {asked : Asked} {answer : GroundedAnswer} {completion : Chat.Completion}
  {findingAfter : Option Members}

def Asked.blocked (asked : Asked) (outputSha256 : List CodePoint) :
    GroundedAnswer :=
  { asked.answer asked.before.hashes with
    reasonCode := some (literal "EXECUTABLE_MODEL_OUTPUT_BLOCKED")
    outputSha256 := some outputSha256 }

def Asked.generated (asked : Asked) (completion : Chat.Completion)
    (outputSha256 : List CodePoint) : GroundedAnswer :=
  { asked.answer asked.before.hashes with
    status := .generated
    answer := some (stripPoints completion.content)
    modelId := some completion.modelId
    outputSha256 := some outputSha256 }

/-- A completion gives a result only if the finding has kept its digests, and
the checks of the output decide which one. -/
theorem completedAnswer_eq_ok (answered : completedAnswer library database
    asked completion findingAfter = .ok answer) :
    currentHashes library findingAfter = .ok asked.before.hashes ∧
      ∃ outputSha256,
        (isBlocked database (stripPoints completion.content) = true ∧
          answer = asked.blocked outputSha256) ∨
        (isBlocked database (stripPoints completion.content) = false ∧
          answer = asked.generated completion outputSha256) := by
  unfold completedAnswer at answered
  dsimp only at answered
  obtain ⟨outputSha256, -, answered⟩ := Outcome.bind_eq_ok.mp answered
  obtain ⟨hashesAfter, current, answered⟩ := Outcome.bind_eq_ok.mp answered
  by_cases changed : asked.before.hashes ≠ hashesAfter
  · rw [if_pos changed] at answered
    cases answered
  rw [if_neg changed] at answered
  rw [not_not] at changed
  refine ⟨changed ▸ current, outputSha256, ?_⟩
  by_cases blocked : isBlocked database (stripPoints completion.content) = true
  · rw [if_pos blocked] at answered
    cases answered
    exact .inl ⟨blocked, by rw [Asked.blocked, changed]⟩
  · rw [if_neg blocked] at answered
    cases answered
    exact .inr ⟨eq_false_of_ne_true blocked, by rw [Asked.generated, changed]⟩

theorem completedAnswer_of_unchanged {outputSha256 : List CodePoint}
    (digest : canonicalSha256 library (.dict [
      (literal "model_id", .str completion.modelId),
      (literal "content", .str (stripPoints completion.content)),
      (literal "finish_reason", .str completion.finishReason)]) =
        .ok outputSha256)
    (unchanged : currentHashes library findingAfter = .ok asked.before.hashes) :
    completedAnswer library database asked completion findingAfter =
      .ok (if isBlocked database (stripPoints completion.content) then
        asked.blocked outputSha256
      else asked.generated completion outputSha256) := by
  unfold completedAnswer
  dsimp only
  rw [digest, Outcome.ok_bind, unchanged, Outcome.ok_bind,
    if_neg (not_not.mpr rfl)]
  split_ifs <;> rfl

theorem providerAnswer_eq_ok {category : List CodePoint} {retryable : Bool}
    (answered : providerAnswer library asked category retryable findingAfter =
      .ok answer) :
    answer.status ∈
        [Chat.GroundedStatus.modelUnavailable, .generationFailed] ∧
      answer.citations = asked.evidence.map Prod.fst := by
  obtain ⟨hashesAfter, -, same⟩ := Outcome.bind_eq_ok.mp answered
  cases same
  refine ⟨?_, rfl⟩
  dsimp only
  split_ifs <;> simp

theorem answerHeard_citations {heard : Heard}
    (answered : answerHeard library database asked heard findingAfter =
      .ok answer) : answer.citations = asked.evidence.map Prod.fst := by
  unfold answerHeard at answered
  split at answered
  · obtain ⟨-, outputSha256, ⟨-, same⟩ | ⟨-, same⟩⟩ :=
      completedAnswer_eq_ok answered
    · rw [same]
      rfl
    · rw [same]
      rfl
  · exact (providerAnswer_eq_ok answered).2
  · cases answered

theorem generate_of_asked {env : GuideEnvironment} {request : GroundedRequest}
    {sources : GroundedSources}
    (asks : prepare env library database request sources = .ok (.ok asked))
    (listens : Bool) (run : ModelRun) :
    generate env library database request sources listens run =
      ⟨answerHeard library database asked (run.heard listens)
        run.findingAfter, some asked, (run.heard listens).tokens⟩ := by
  unfold generate
  rw [asks]

theorem currentHashes_of_readFinding {before : FindingBefore}
    {finding : Option Members}
    (read : readFinding library database finding = .ok before) :
    currentHashes library finding = .ok before.hashes := by
  cases finding with
  | none =>
      cases read
      rfl
  | some members =>
      rw [readFinding] at read
      obtain ⟨findingHash, ofFinding, read⟩ := Outcome.bind_eq_ok.mp read
      unfold currentHashes
      dsimp only
      split at read
      · obtain ⟨packHash, ofPack, read⟩ := Outcome.bind_eq_ok.mp read
        obtain ⟨snapshot, -, same⟩ := Outcome.bind_eq_ok.mp read
        cases same
        rw [ofFinding, ofPack]
        rfl
      · cases read

end Answers

open SecAI.Chat (GuideEnvironment GuideSearchScope GuideHit GuideCitation
  ControlCitationSource SearchSettings citeHits citedHits
  validLineage hasLineage buildGroundingResult GroundedStatus)

/-! ## Evidence of a search -/

section Searching

variable (env : GuideEnvironment) (settings : SearchSettings)
  (scope : GuideSearchScope)

def isInScope (hit : GuideHit) : Bool :=
  decide (hit.organizationId = scope.organizationId ∧ hit.guide = scope.guide)

def isQualified (hit : GuideHit) : Bool :=
  isInScope scope hit &&
    decide (settings.minimumRerankScore ≤ hit.rerankScore ∧
      settings.minimumLexicalScore ≤ hit.lexicalScore)

def isRelevant (hit : GuideHit) : Bool :=
  isQualified settings scope hit &&
    (env.bestParagraph scope.query hit.text).isSome

/-- Cited hits are the relevant hits in the order of the search, and each
citation is of a hit in scope at the pages of its control. -/
structure SearchedEvidence (sources : GroundedSources)
    (cited : List (GuideCitation × GuideHit)) : Prop where
  ranked : cited.map Prod.snd =
    sources.hits.filter (isRelevant env settings scope)
  cites : ∀ pair ∈ cited, isInScope scope pair.2 = true ∧
    ∃ source ∈ sources.citationSources, validLineage pair.2 source = true ∧
      ∃ ordinal hash,
        env.bestParagraph scope.query pair.2.text = some (ordinal, hash) ∧
        pair.1 = Chat.citationOf pair.2 source ordinal hash

/-- The citation of a hit, with the hit. -/
def citable (query : List Char) (sources : List ControlCitationSource)
    (hit : GuideHit) : Option (GuideCitation × GuideHit) :=
  (sources.find? (·.controlId = hit.controlId)).bind fun source =>
    (env.bestParagraph query hit.text).map fun paragraph =>
      (Chat.citationOf hit source paragraph.1 paragraph.2, hit)

end Searching

section Grounding

variable {env : GuideEnvironment} {settings : SearchSettings}
  {scope : GuideSearchScope} {query : List Char}
  {sources : List ControlCitationSource} {hits : List GuideHit}
  {citations : List GuideCitation}

/-- Every qualified hit has a valid lineage, and those with a paragraph are
cited. -/
theorem citeHits_eq_ok
    (cites : citeHits env query sources hits = .ok citations) :
    (∀ hit ∈ hits, ∃ source,
      sources.find? (·.controlId = hit.controlId) = some source ∧
        validLineage hit source = true) ∧
      citations = (hits.filterMap (citable env query sources)).map Prod.fst := by
  induction hits generalizing citations with
  | nil =>
      cases cites
      exact ⟨fun _ member => absurd member List.not_mem_nil, rfl⟩
  | cons hit rest ih =>
      rw [citeHits] at cites
      cases found : sources.find? (·.controlId = hit.controlId) with
      | none =>
          rw [found] at cites
          cases cites
      | some source =>
          rw [found] at cites
          dsimp only at cites
          by_cases valid : validLineage hit source = true
          case neg =>
            rw [if_neg valid] at cites
            cases cites
          case pos =>
            rw [if_pos valid] at cites
            obtain ⟨later, inRest, whole⟩ := Outcome.bind_eq_ok.mp cites
            obtain ⟨lineage, same⟩ := ih inRest
            constructor
            case left =>
              intro other member
              rcases List.mem_cons.mp member with first | inRest
              · rw [first]
                exact ⟨source, found, valid⟩
              · exact lineage other inRest
            case right =>
              rw [List.filterMap_cons, citable, found, Option.bind_some]
              cases paragraph : env.bestParagraph query hit.text with
              | none =>
                  rw [paragraph] at whole
                  cases whole
                  exact same
              | some best =>
                  rw [paragraph] at whole
                  cases whole
                  rw [same]
                  rfl

theorem find?_chunkId (distinct : (hits.map GuideHit.chunkId).Nodup)
    {hit : GuideHit} (member : hit ∈ hits) :
    hits.find? (·.chunkId = hit.chunkId) = some hit := by
  cases found : hits.find? (·.chunkId = hit.chunkId) with
  | none =>
      have none := List.find?_eq_none.mp found hit member
      exact absurd (decide_eq_true rfl) none
  | some other =>
      have same : other.chunkId = hit.chunkId := by
        simpa using List.find?_some found
      rw [List.inj_on_of_nodup_map distinct (List.mem_of_find?_eq_some found)
        member same]

theorem citable_eq_some {pair : GuideCitation × GuideHit} {hit : GuideHit}
    (cites : citable env query sources hit = some pair) :
    pair.2 = hit ∧ ∃ source,
      sources.find? (·.controlId = hit.controlId) = some source ∧
      ∃ ordinal hash, env.bestParagraph query hit.text = some (ordinal, hash) ∧
        pair.1 = Chat.citationOf hit source ordinal hash := by
  obtain ⟨source, found, rest⟩ := Option.bind_eq_some_iff.mp cites
  obtain ⟨⟨ordinal, hash⟩, best, same⟩ := Option.map_eq_some_iff.mp rest
  cases same
  exact ⟨rfl, source, found, ordinal, hash, best, rfl⟩

/-- Each citation finds the hit that it was made of. -/
theorem citedHits_citable (distinct : (hits.map GuideHit.chunkId).Nodup)
    {found : List GuideHit} (fromHits : ∀ hit ∈ found, hit ∈ hits) :
    citedHits hits ((found.filterMap (citable env query sources)).map Prod.fst)
      = some (found.filterMap (citable env query sources)) := by
  induction found with
  | nil => rfl
  | cons hit rest ih =>
      have later := ih fun other member =>
        fromHits other (List.mem_cons_of_mem _ member)
      rw [List.filterMap_cons]
      cases cites : citable env query sources hit with
      | none => exact later
      | some pair =>
          obtain ⟨ofHit, source, -, ordinal, hash, -, citation⟩ :=
            citable_eq_some cites
          have chunk : pair.1.chunkId = hit.chunkId := by
            rw [citation]
            rfl
          have itself := find?_chunkId distinct
            (fromHits hit List.mem_cons_self)
          rw [citedHits] at later ⊢
          rw [List.map_cons, List.mapM_cons, later, chunk, itself, ← ofHit]
          rfl

/-- Grounding cites the qualified hits. -/
theorem buildGroundingResult_eq_ok
    (grounds : buildGroundingResult env settings scope hits sources =
      .ok citations) :
    citeHits env scope.query sources
      (hits.filter (isQualified settings scope)) = .ok citations := by
  unfold buildGroundingResult at grounds
  by_cases excluded : env.isExcluded scope.guide.scopeId scope.query = true ∨
      hits = []
  · rw [if_pos excluded] at grounds
    cases grounds
  rw [if_neg excluded] at grounds
  dsimp only at grounds
  rw [List.filter_filter] at grounds
  have qualified : hits.filter (fun hit => decide
        (settings.minimumRerankScore ≤ hit.rerankScore ∧
          settings.minimumLexicalScore ≤ hit.lexicalScore) && decide
        (hit.organizationId = scope.organizationId ∧ hit.guide = scope.guide))
      = hits.filter (isQualified settings scope) := by
    apply List.filter_congr
    intro hit _
    exact Bool.and_comm _ _
  rw [qualified] at grounds
  split at grounds
  · cases grounds
  split at grounds
  · cases grounds
  split at grounds
  · cases grounds
  · exact grounds

theorem map_snd_filterMap_citable
    (sourced : ∀ hit ∈ hits, ∃ source,
      sources.find? (·.controlId = hit.controlId) = some source ∧
        validLineage hit source = true) :
    (hits.filterMap (citable env query sources)).map Prod.snd =
      hits.filter fun hit => (env.bestParagraph query hit.text).isSome := by
  induction hits with
  | nil => rfl
  | cons hit rest ih =>
      have later := ih fun other member =>
        sourced other (List.mem_cons_of_mem _ member)
      obtain ⟨source, found, -⟩ := sourced hit List.mem_cons_self
      rw [List.filterMap_cons, List.filter_cons, citable, found,
        Option.bind_some, ← later]
      cases env.bestParagraph query hit.text with
      | none => rfl
      | some best => rfl

/-- What is grounded in a search is searched evidence. -/
theorem searchedEvidence_of_groundedHits {request : GroundedRequest}
    {given : GroundedSources} {before : FindingBefore}
    {cited : List (GuideCitation × GuideHit)}
    (distinct : (given.hits.map GuideHit.chunkId).Nodup)
    (grounded : groundedHits env request given before = .ok (.ok cited)) :
    ∃ settings, env.settings = some settings ∧
      SearchedEvidence env settings (given.groundingScope.getD request.scope)
        given cited := by
  unfold groundedHits at grounded
  cases configured : env.settings with
  | none =>
      rw [configured] at grounded
      cases grounded
  | some settings =>
      refine ⟨settings, rfl, ?_⟩
      rw [configured] at grounded
      dsimp only at grounded
      cases grounds : buildGroundingResult env settings
          (given.groundingScope.getD request.scope) given.hits
          given.citationSources with
      | error reason =>
          rw [grounds] at grounded
          cases grounded
      | ok citations =>
          obtain ⟨sourced, same⟩ :=
            citeHits_eq_ok (buildGroundingResult_eq_ok grounds)
          rw [grounds] at grounded
          dsimp only at grounded
          rw [same, citedHits_citable distinct
            fun hit member => (List.mem_filter.mp member).1] at grounded
          cases grounded
          constructor
          case ranked =>
            rw [map_snd_filterMap_citable sourced, List.filter_filter]
            apply List.filter_congr
            intro hit _
            exact Bool.and_comm _ _
          case cites =>
            intro pair member
            obtain ⟨hit, qualified, cites⟩ := List.mem_filterMap.mp member
            obtain ⟨ofHit, source, found, ordinal, hash, best, citation⟩ :=
              citable_eq_some cites
            obtain ⟨other, foundOther, lineage⟩ := sourced hit qualified
            rw [found] at foundOther
            cases foundOther
            obtain ⟨-, inScope⟩ := List.mem_filter.mp qualified
            rw [ofHit]
            refine ⟨(Bool.and_eq_true_iff.mp inScope).1, source,
              List.mem_of_find?_eq_some found, lineage, ordinal, hash, best,
              citation⟩

end Grounding

/-! ## Generations -/

section Generations

variable {env : GuideEnvironment} {library : ResultLibrary}
  {database : CharacterDatabase} {request : GroundedRequest}
  {sources : GroundedSources} {asked : Asked} {answer : GroundedAnswer}

/-- The hits that may become evidence: those of the search in its scope, or
those that were given with citations of theirs. -/
def Citable (env : GuideEnvironment) (request : GroundedRequest)
    (sources : GroundedSources) (cited : List (GuideCitation × GuideHit)) :
    Prop :=
  match sources.verifiedCitedHits with
  | none => ∃ settings, env.settings = some settings ∧
      SearchedEvidence env settings (sources.groundingScope.getD request.scope)
        sources cited
  | some verified => cited = verified ∧ request.finding = none ∧
      ∀ pair ∈ cited, hasLineage pair.1 pair.2 = true

/-- What holds of a question to the model. -/
structure MayAsk (env : GuideEnvironment) (library : ResultLibrary)
    (request : GroundedRequest) (sources : GroundedSources) (asked : Asked) :
    Prop where
  allowed : sources.policy.contentTransferAllowed = true
  noConflict : ∀ conflict, sources.conflict = some conflict →
    conflict.status ≠ literal "CONFLICT"
  queryClean : containsPromptInjection (points request.scope.query) = false
  evidence : ∃ cited, Citable env request sources cited ∧
    (∀ pair ∈ cited,
      containsPromptInjection (points pair.2.text) = false) ∧
    asked.evidence ≠ [] ∧ asked.evidence <+: cited
  sent : ∃ first, asked.evidence.head? = some first ∧
    asked.message = [⟨payloadTag, dumpSorted library.toFloatTexts .compact
      (groundedPayload request asked.before.snapshot first asked.evidence)⟩]

/-- An answer that leaves the finding and its audit pack as they were, and
passes the checks of the output. -/
structure KeepsOfficialState (library : ResultLibrary)
    (database : CharacterDatabase) (request : GroundedRequest)
    (findingAfter : Option Members) (answer : GroundedAnswer) : Prop where
  unchanged : currentHashes library findingAfter =
    currentHashes library request.finding
  shownBefore : currentHashes library request.finding = .ok answer.hashesBefore
  shownAfter : answer.hashesAfter = answer.hashesBefore
  passes : ∃ text, answer.answer = some text ∧ text ≠ [] ∧
    text.length ≤ maxAnswerChars ∧ containsExecutableOutput database text = false

theorem citable_of_findCited {before : FindingBefore}
    {cited : List (GuideCitation × GuideHit)}
    (distinct : (sources.hits.map GuideHit.chunkId).Nodup)
    (found : findCited env request sources before = .ok (.ok cited)) :
    Citable env request sources cited := by
  unfold findCited at found
  unfold Citable
  cases mode : sources.verifiedCitedHits with
  | none =>
      rw [mode] at found
      exact searchedEvidence_of_groundedHits distinct found
  | some verified =>
      rw [mode] at found
      dsimp only [verifiedHits] at found
      split at found
      · cases found
      next allowed =>
        split at found
        · cases found
        next lineage =>
          cases found
          rw [not_or, Option.not_isSome_iff_eq_none] at allowed
          refine ⟨rfl, allowed.1, ?_⟩
          intro pair member
          by_contra broken
          exact lineage (List.any_eq_true.mpr ⟨pair, member, by simp [broken]⟩)

theorem mayAsk_of_prepare
    (distinct : (sources.hits.map GuideHit.chunkId).Nodup)
    (asks : prepare env library database request sources = .ok (.ok asked)) :
    MayAsk env library request sources asked := by
  obtain ⟨first, rest, prepared⟩ := prepare_eq_asked asks
  have selected := prepared.evidence
  rw [selectEvidence_cons] at selected
  constructor
  case allowed => exact prepared.allowed
  case noConflict =>
    intro conflict given inConflict
    have none := prepared.noConflict
    rw [GroundedSources.inConflict, given, Option.filter_some,
      if_pos (decide_eq_true inConflict)] at none
    cases none
  case queryClean => exact prepared.queryClean
  case evidence =>
    refine ⟨first :: rest, citable_of_findCited distinct prepared.found,
      prepared.textsClean, ?_, ?_⟩
    · rw [selected]
      exact List.cons_ne_nil _ _
    · rw [prepared.evidence]
      exact selectEvidence_prefix _ _ _ _
  case sent =>
    refine ⟨first, ?_, prepared.message⟩
    rw [selected]
    rfl

variable {refused : GroundedAnswer}

/-- Nothing is generated without the model. -/
theorem findCited_not_generated {before : FindingBefore}
    (refuses : findCited env request sources before = .ok (.error refused)) :
    refused.status ≠ .generated := by
  unfold findCited groundedHits verifiedHits at refuses
  intro generated
  split at refuses
  · split at refuses
    · cases refuses
    split at refuses
    · cases refuses
      cases generated
    split at refuses
    · cases refuses
      cases generated
    · cases refuses
  · split at refuses
    · cases refuses
    split at refuses
    · cases refuses
      cases generated
    · cases refuses

theorem askOrRefuse_not_generated {policy : Chat.ModelExecutionPolicy}
    {before : FindingBefore} {cited : List (GuideCitation × GuideHit)}
    (refuses : askOrRefuse env library request policy before cited =
      .ok (.error refused)) : refused.status ≠ .generated := by
  unfold askOrRefuse at refuses
  intro generated
  dsimp only at refuses
  split at refuses
  · cases refuses
    cases generated
  split at refuses
  · cases refuses
    cases generated
  split at refuses
  · cases refuses
    cases generated
  split at refuses
  · cases refuses
    cases generated
  · obtain ⟨asked, -, same⟩ := Outcome.bind_eq_ok.mp refuses
    cases same

theorem prepare_not_generated
    (refuses : prepare env library database request sources =
      .ok (.error refused)) : refused.status ≠ .generated := by
  unfold prepare at refuses
  split at refuses
  · cases refuses
    exact fun generated => nomatch generated
  by_cases injected : containsPromptInjection
      (points request.scope.query) = true
  · rw [if_pos injected] at refuses
    cases refuses
    exact fun generated => nomatch generated
  rw [if_neg injected] at refuses
  obtain ⟨before, -, later⟩ := Outcome.bind_eq_ok.mp refuses
  obtain ⟨outcome, found, decided⟩ := Outcome.bind_eq_ok.mp later
  cases outcome with
  | error early =>
      cases decided
      exact findCited_not_generated found
  | ok cited => exact askOrRefuse_not_generated decided

theorem keepsOfficialState_of_generated {heard : Heard}
    {findingAfter : Option Members}
    (read : readFinding library database request.finding = .ok asked.before)
    (answered : answerHeard library database asked heard findingAfter =
      .ok answer) (generated : answer.status = .generated) :
    KeepsOfficialState library database request findingAfter answer := by
  have before := currentHashes_of_readFinding read
  unfold answerHeard at answered
  split at answered
  · obtain ⟨after, outputSha256, ⟨-, same⟩ | ⟨passes, same⟩⟩ :=
      completedAnswer_eq_ok answered
    · rw [same] at generated
      cases generated
    · rw [same]
      simp only [isBlocked, Bool.or_eq_false_iff, decide_eq_false_iff_not,
        not_lt] at passes
      obtain ⟨⟨filled, short⟩, plain⟩ := passes
      constructor
      case unchanged => rw [after, before]
      case shownBefore => exact before
      case shownAfter => rfl
      case passes => exact ⟨_, rfl, filled, short, plain⟩
  · have refused := (providerAnswer_eq_ok answered).1
    rw [generated] at refused
    simp at refused
  · cases answered

/-- The model is asked about allowed evidence only; a result behind that cites
what was sent, and an answer that is generated passes the checks and leaves the
finding as it was. -/
theorem grounded_generation_uses_allowed_evidence
    (distinct : (sources.hits.map GuideHit.chunkId).Nodup) (listens : Bool)
    (run : ModelRun) :
    (∀ asked, (generate env library database request sources listens
          run).asked = some asked →
        MayAsk env library request sources asked ∧
          ∀ answer, (generate env library database request sources listens
              run).result = .ok answer →
            answer.citations = asked.evidence.map Prod.fst) ∧
      ∀ answer, (generate env library database request sources listens
          run).result = .ok answer → answer.status = .generated →
        (∃ asked, (generate env library database request sources listens
          run).asked = some asked) ∧
        KeepsOfficialState library database request run.findingAfter answer := by
  unfold generate
  cases prepares : prepare env library database request sources with
  | error raised =>
      constructor
      case left =>
        intro asked same
        cases same
      case right =>
        intro answer same
        cases same
  | ok outcome =>
      cases outcome with
      | error refused =>
          constructor
          case left =>
            intro asked same
            cases same
          case right =>
            intro answer same generated
            cases same
            exact absurd generated (prepare_not_generated prepares)
      | ok asked =>
          obtain ⟨first, rest, prepared⟩ := prepare_eq_asked prepares
          constructor
          case left =>
            intro other same
            cases same
            refine ⟨mayAsk_of_prepare distinct prepares, ?_⟩
            intro answer answered
            exact answerHeard_citations answered
          case right =>
            intro answer answered generated
            exact ⟨⟨asked, rfl⟩,
              keepsOfficialState_of_generated prepared.finding answered
                generated⟩

end Generations

/-- Guides in which the first paragraph of a hit is about every question. -/
def exampleGroundingGuides : GuideEnvironment :=
  { Chat.exampleGuides .legacyLocal with
    bestParagraph := fun _ _ => some (1, "digest") }

def exampleGuideRequest : GroundedRequest where
  scope :=
    { organizationId := ⟨1⟩
      guide := ⟨"guide", "2026", "unix"⟩
      query := "U-01?".toList
      topK := 5 }
  finding := none
  profile := .fast

def exampleGuideHit (scopeId : String) : GuideHit where
  chunkId := ⟨2⟩
  organizationId := ⟨1⟩
  guide := ⟨"guide", "2026", scopeId⟩
  pdfPageNumber := 12
  controlId := "U-01"
  text := "Root does not log in remotely.".toList
  lexicalScore := 1
  rerankScore := 1
  sourceSha256 :=
    "0123456789abcdef0123456789abcdef0123456789abcdef0123456789abcdef"
  textSha256 :=
    "0123456789abcdef0123456789abcdef0123456789abcdef0123456789abcdef"

def exampleCitationSource : ControlCitationSource :=
  ⟨"U-01", "KISA-2026", 12, 14, "U-01"⟩

def exampleSearched : GroundedSources where
  hits := [exampleGuideHit "unix"]
  citationSources := [exampleCitationSource]
  policy := ⟨false, false⟩
  conflict := none
  groundingScope := none
  verifiedCitedHits := none

def exampleVerified : GroundedSources :=
  { exampleSearched with
    hits := []
    verifiedCitedHits := some [(Chat.citationOf (exampleGuideHit "windows")
      exampleCitationSource 1 "digest", exampleGuideHit "windows")] }

theorem model_name_not_blank :
    (literal "model").all Chat.isBlankPoint = false := by
  decide

def exampleAnswer : ModelRun where
  stream := none
  complete := .ok ⟨literal "model", literal "Use another account.",
    literal "stop"⟩
  findingAfter := none

theorem example_asks : ∃ asked, prepare exampleGroundingGuides exampleLibrary
    asciiDatabase exampleGuideRequest exampleSearched = .ok (.ok asked) ∧
      asked.before.hashes = none := by
  have asks : ((prepare exampleGroundingGuides exampleLibrary asciiDatabase
      exampleGuideRequest exampleSearched).map fun outcome =>
        outcome.isOk) = .ok true := by
    decide +kernel
  cases prepares : prepare exampleGroundingGuides exampleLibrary asciiDatabase
      exampleGuideRequest exampleSearched with
  | error raised =>
      rw [prepares] at asks
      cases asks
  | ok outcome =>
      rw [prepares] at asks
      obtain ⟨asked, rfl⟩ := Outcome.eq_ok_of_isOk (Except.ok.inj asks)
      obtain ⟨first, rest, prepared⟩ := prepare_eq_asked prepares
      have none := currentHashes_of_readFinding prepared.finding
      exact ⟨asked, rfl, (Except.ok.inj none).symm⟩

/-- A generation from a searched hit. -/
theorem searched_generation_cites_what_it_sent :
    ∃ asked answer,
      (generate exampleGroundingGuides exampleLibrary asciiDatabase
        exampleGuideRequest exampleSearched false exampleAnswer).asked =
          some asked ∧
      (generate exampleGroundingGuides exampleLibrary asciiDatabase
        exampleGuideRequest exampleSearched false exampleAnswer).result =
          .ok answer ∧
      answer.status = .generated ∧
      MayAsk exampleGroundingGuides exampleLibrary exampleGuideRequest
        exampleSearched asked ∧
      answer.citations = asked.evidence.map Prod.fst := by
  have distinct : (exampleSearched.hits.map GuideHit.chunkId).Nodup := by
    decide
  obtain ⟨asking, -⟩ := @grounded_generation_uses_allowed_evidence
    exampleGroundingGuides exampleLibrary asciiDatabase exampleGuideRequest
    exampleSearched distinct false exampleAnswer
  obtain ⟨asked, asks, hashes⟩ := example_asks
  have whole := generate_of_asked asks false exampleAnswer
  have passes : isBlocked asciiDatabase
      (stripPoints (literal "Use another account.")) = false := by
    decide
  have answers := @completedAnswer_of_unchanged exampleLibrary asciiDatabase
    asked ⟨literal "model", literal "Use another account.", literal "stop"⟩
    none [] (by decide) (hashes ▸ rfl)
  rw [passes] at answers
  rw [whole] at asking ⊢
  obtain ⟨may, cites⟩ := asking asked rfl
  exact ⟨asked, _, rfl, answers, rfl, may, cites _ answers⟩

/-- Evidence that is given with its citations may be out of the scope of the
question. -/
theorem verified_evidence_may_be_out_of_scope :
    ∃ asked, (generate exampleGroundingGuides exampleLibrary asciiDatabase
        exampleGuideRequest exampleVerified false exampleAnswer).asked =
          some asked ∧
      ∃ pair ∈ asked.evidence,
        isInScope exampleGuideRequest.scope pair.2 = false := by
  have asks : ((generate exampleGroundingGuides exampleLibrary asciiDatabase
      exampleGuideRequest exampleVerified false exampleAnswer).asked.map
        fun asked => asked.evidence.any fun pair =>
          !isInScope exampleGuideRequest.scope pair.2) = some true := by
    decide +kernel
  obtain ⟨asked, asks, outside⟩ := Option.map_eq_some_iff.mp asks
  obtain ⟨pair, member, outOfScope⟩ := List.any_eq_true.mp outside
  exact ⟨asked, asks, pair, member, (Bool.not_eq_true' _).mp outOfScope⟩

end SecAI.Explanation
