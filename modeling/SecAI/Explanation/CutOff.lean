/-
Module: SecAI.Explanation.CutOff
Purpose: What becomes of a model's answer that is cut off: on the guide chat,
  in the explanations of a Windows PC, and in those of a Linux server.
Trusted boundary: `str.lower` and `str.casefold` of a text, the reader of the
  events and the store of the explanations are parameters; how the summary of a
  Windows PC edits the deltas is a parameter that every function may stand for
Main exports:
  finalReason, CutOff, streamRequest, cut_off_answer_refused_iff
-/
import SecAI.Explanation.AllowedEvidence

namespace SecAI.Explanation

open SecAI.Text
open SecAI.Chat (GuideEnvironment StreamChunk)

/-! ## Streams that are cut off -/

/-- `str.lower` and `str.casefold`, of texts. -/
structure ReasonTexts where
  lower : List CodePoint → List CodePoint
  casefold : List CodePoint → List CodePoint

def tokenLimitFinishReasons : List (List CodePoint) :=
  ["length", "max_tokens", "max_output_tokens"].map fun reason : String =>
    literal reason

def finalReason (chunks : List StreamChunk) : Option (List CodePoint) :=
  (chunks.filterMap StreamChunk.finishReason).getLast?

def isTokenLimit (texts : ReasonTexts) (reason : List CodePoint) : Bool :=
  decide (texts.lower (stripPoints reason) ∈ tokenLimitFinishReasons)

/-- A stream ends without a reason, or with a limit of tokens. -/
def CutOff (texts : ReasonTexts) (chunks : List StreamChunk) : Prop :=
  match finalReason chunks with
  | none => True
  | some reason => isTokenLimit texts reason = true

/-- What a generator yields, and what it raises behind that. -/
structure Streamed where
  deltas : List (List CodePoint)
  raised : Option Raised

def Streamed.behind (delta : List CodePoint) (later : Streamed) : Streamed :=
  if delta = [] then later else { later with deltas := delta :: later.deltas }

section Loops

variable (texts : ReasonTexts) (fault : Option Raised)

/-- The end of `ResultAITokenStreamService._stream_request`. -/
def requestEnd (terminalReason : Option (List CodePoint)) (emitted : Bool) :
    Option Raised :=
  if terminalReason.any (· ∈ tokenLimitFinishReasons) then
    some (.explanation "OUTPUT_TOKEN_LIMIT_REACHED")
  else if emitted then none
  else some (.explanation "EMPTY_AI_EXPLANATION")

/-- The loop of `ResultAITokenStreamService._stream_request`; the fault is what
the model's stream raises behind its chunks. -/
def requestLoop (terminalReason : Option (List CodePoint)) (emitted : Bool) :
    List StreamChunk → Streamed
  | [] => ⟨[], fault.or (requestEnd terminalReason emitted)⟩
  | chunk :: rest =>
      let reason := match chunk.finishReason with
        | none => terminalReason
        | some reason => some (texts.lower (stripPoints reason))
      (requestLoop reason (emitted || decide (chunk.contentDelta ≠ []))
        rest).behind chunk.contentDelta

/-- `ResultAITokenStreamService._stream_request`. -/
def streamRequest (chunks : List StreamChunk) : Streamed :=
  requestLoop texts fault none false chunks

def endsDevice (chunk : StreamChunk) : Bool :=
  chunk.finishReason.any fun reason =>
    decide (reason ≠ [] ∧ texts.casefold reason ∈ tokenLimitFinishReasons)

/-- The loop of `DeviceAITokenStreamService._stream`. -/
def deviceLoop (emitted : Bool) : List StreamChunk → Streamed
  | [] => ⟨[], fault.or
      (if emitted then none else some (.device "EMPTY_AI_EXPLANATION"))⟩
  | chunk :: rest =>
      let later :=
        if endsDevice texts chunk then
          ⟨[], some (.device "OUTPUT_TOKEN_LIMIT_REACHED")⟩
        else deviceLoop (emitted || decide (chunk.contentDelta ≠ [])) rest
      later.behind chunk.contentDelta

/-- `DeviceAITokenStreamService._stream`. -/
def deviceStream (chunks : List StreamChunk) : Streamed :=
  deviceLoop texts fault false chunks

end Loops

/-! ## What is stored -/

/-- The reader of the events, and the store. -/
structure Receivers where
  /-- The reader takes these deltas to the last one: it neither leaves nor
  cancels. -/
  takes : List (List CodePoint) → Bool
  /-- The store keeps a content: there is a place for it, it can be encoded, and
  the database takes the row. -/
  keeps : List CodePoint → Bool

/-- What is stored behind a stream: nothing if the stream raises or the reader
leaves. -/
def Receivers.stored (receivers : Receivers)
    (compose : List (List CodePoint) → List CodePoint) (streamed : Streamed) :
    Option (List CodePoint) :=
  match streamed.raised with
  | some _ => none
  | none =>
      if receivers.takes streamed.deltas then
        some (compose streamed.deltas) |>.filter receivers.keeps
      else none

def encodeStoredControlCard (floats : FloatTexts)
    (knowledgeSources : List Decoded) (parts : List (List CodePoint)) :
    List CodePoint :=
  render floats .spaced (.dict [
    (literal "source", .str parts.flatten),
    (literal "knowledge_sources", .list knowledgeSources)])

section Stores

variable (receivers : Receivers) (texts : ReasonTexts) (fault : Option Raised)
  (chunks : List StreamChunk)

def storedCard (floats : FloatTexts) (knowledgeSources : List Decoded) :
    Option (List CodePoint) :=
  receivers.stored (encodeStoredControlCard floats knowledgeSources)
    (streamRequest texts fault chunks)

/-- The summary of a Windows PC: the deltas are edited, and the store refuses a
blank content. -/
def storedSummary (edit : List (List CodePoint) → List (List CodePoint)) :
    Option (List CodePoint) :=
  let streamed := streamRequest texts fault chunks
  (receivers.stored List.flatten
    { streamed with deltas := edit streamed.deltas }).filter
      fun content => decide (stripPoints content ≠ [])

/-- An explanation or the summary of a Linux server, stripped. -/
def deviceStored : Option (List CodePoint) :=
  receivers.stored (fun parts => stripPoints parts.flatten)
    (deviceStream texts fault chunks)

end Stores

/-- What the chat does with a result. -/
inductive ChatEnding where
  /-- `complete_chat_generation` with the model's answer. -/
  | completed (content : List CodePoint)
  /-- `complete_chat_generation` with a fixed text. -/
  | noEvidence
  | failed (code : List CodePoint)
  | traceMissing

def chatEnding (answer : GroundedAnswer) : ChatEnding :=
  match answer.status, answer.answer with
  | .generated, some content =>
      if answer.modelId.isNone ∨ answer.promptSha256.isNone ∨
          answer.inputSha256.isNone ∨ answer.outputSha256.isNone then
        .traceMissing
      else .completed content
  | .noEvidence, _ => .noEvidence
  | status, _ =>
      .failed ((answer.reasonCode.filter (· ≠ [])).getD (literal status.text))

/-! ## The loops in closed form -/

section Closed

variable {texts : ReasonTexts} {fault : Option Raised}

theorem handedOn_cons (chunk : StreamChunk) (rest : List StreamChunk) :
    handedOn (chunk :: rest) = if chunk.contentDelta = [] then handedOn rest
      else chunk.contentDelta :: handedOn rest := by
  rw [handedOn, handedOn, List.map_cons, List.filter_cons]
  by_cases empty : chunk.contentDelta = []
  · simp [empty]
  · simp [empty]

theorem Streamed.behind_eq (delta : List CodePoint) (later : Streamed) :
    later.behind delta =
      ⟨if delta = [] then later.deltas else delta :: later.deltas,
        later.raised⟩ := by
  unfold behind
  split_ifs <;> rfl

theorem finalReason_cons (chunk : StreamChunk) (rest : List StreamChunk) :
    finalReason (chunk :: rest) =
      (finalReason rest).or chunk.finishReason := by
  unfold finalReason
  rw [List.filterMap_cons]
  cases chunk.finishReason with
  | none => rw [Option.or_none]
  | some reason =>
      dsimp only
      cases rest.filterMap StreamChunk.finishReason with
      | nil => rfl
      | cons next others => rw [List.getLast?_cons_cons, List.getLast?_cons]; rfl

/-- The loop has yielded what there is, and knows the last reason. -/
theorem requestLoop_eq (chunks : List StreamChunk) :
    ∀ terminalReason emitted,
      requestLoop texts fault terminalReason emitted chunks =
        ⟨handedOn chunks, fault.or (requestEnd
          (((finalReason chunks).map fun reason =>
            texts.lower (stripPoints reason)).or terminalReason)
          (emitted || decide (handedOn chunks ≠ [])))⟩ := by
  induction chunks with
  | nil =>
      intro terminalReason emitted
      simp [requestLoop, handedOn, finalReason]
  | cons chunk rest ih =>
      intro terminalReason emitted
      have reasons : ((finalReason rest).map fun reason =>
          texts.lower (stripPoints reason)).or (match chunk.finishReason with
            | none => terminalReason
            | some reason => some (texts.lower (stripPoints reason))) =
          ((finalReason (chunk :: rest)).map fun reason =>
            texts.lower (stripPoints reason)).or terminalReason := by
        rw [finalReason_cons]
        cases finalReason rest <;> cases chunk.finishReason <;> rfl
      have emits : (emitted || decide (chunk.contentDelta ≠ []) ||
          decide (handedOn rest ≠ [])) =
          (emitted || decide (handedOn (chunk :: rest) ≠ [])) := by
        rw [handedOn_cons]
        by_cases empty : chunk.contentDelta = []
        · simp [empty]
        · simp [empty]
      rw [requestLoop, ih, Streamed.behind_eq, reasons, emits,
        handedOn_cons]

/-- A limit of tokens ends the loop; else it has yielded what there is. -/
theorem deviceLoop_eq (chunks : List StreamChunk) :
    ∀ emitted, (deviceLoop texts fault emitted chunks).raised =
        (if chunks.any (endsDevice texts) then
          some (.device "OUTPUT_TOKEN_LIMIT_REACHED")
        else fault.or (if emitted || decide (handedOn chunks ≠ []) then none
          else some (.device "EMPTY_AI_EXPLANATION"))) ∧
      (chunks.any (endsDevice texts) = false →
        (deviceLoop texts fault emitted chunks).deltas = handedOn chunks) := by
  induction chunks with
  | nil =>
      intro emitted
      simp [deviceLoop, handedOn]
  | cons chunk rest ih =>
      intro emitted
      have emits : (emitted || decide (chunk.contentDelta ≠ []) ||
          decide (handedOn rest ≠ [])) =
          (emitted || decide (handedOn (chunk :: rest) ≠ [])) := by
        rw [handedOn_cons]
        by_cases empty : chunk.contentDelta = []
        · simp [empty]
        · simp [empty]
      rw [deviceLoop, Streamed.behind_eq, List.any_cons]
      cases ends : endsDevice texts chunk with
      | true => simp
      | false =>
          obtain ⟨raised, deltas⟩ := ih
            (emitted || decide (chunk.contentDelta ≠ []))
          rw [emits] at raised
          simp only [Bool.false_eq_true, if_false, Bool.false_or]
          refine ⟨raised, ?_⟩
          intro noneEnds
          rw [deltas noneEnds, handedOn_cons]

theorem streamRequest_eq (chunks : List StreamChunk) :
    streamRequest texts none chunks =
      ⟨handedOn chunks,
        if (finalReason chunks).any (isTokenLimit texts) then
          some (.explanation "OUTPUT_TOKEN_LIMIT_REACHED")
        else if handedOn chunks ≠ [] then none
        else some (.explanation "EMPTY_AI_EXPLANATION")⟩ := by
  rw [streamRequest, requestLoop_eq, Option.none_or, Option.or_none, requestEnd,
    Bool.false_or]
  simp only [decide_eq_true_eq]
  cases finalReason chunks with
  | none => rfl
  | some reason => rfl

/-- Nothing is stored when the stream raises, the reader leaves, or the store
refuses. -/
theorem Receivers.stored_eq_none_iff (receivers : Receivers)
    (compose : List (List CodePoint) → List CodePoint) (streamed : Streamed) :
    receivers.stored compose streamed = none ↔
      streamed.raised.isSome = true ∨ receivers.takes streamed.deltas = false ∨
        receivers.keeps (compose streamed.deltas) = false := by
  unfold stored
  cases streamed.raised with
  | some raised => simp
  | none =>
      cases taken : receivers.takes streamed.deltas with
      | false => simp
      | true => simp [Option.filter_some]

theorem Receivers.stored_filter_eq_none_iff (receivers : Receivers)
    (compose : List (List CodePoint) → List CodePoint) (streamed : Streamed)
    (accepts : List CodePoint → Bool) :
    (receivers.stored compose streamed).filter accepts = none ↔
      streamed.raised.isSome = true ∨ receivers.takes streamed.deltas = false ∨
        receivers.keeps (compose streamed.deltas) = false ∨
        accepts (compose streamed.deltas) = false := by
  unfold stored
  cases streamed.raised with
  | some raised => simp
  | none =>
      cases taken : receivers.takes streamed.deltas with
      | false => simp
      | true =>
          cases kept : receivers.keeps (compose streamed.deltas) with
          | false => simp [kept]
          | true => simp [kept, Option.filter_some]

end Closed

/-! ## Answers that are cut off -/

section Answers

variable {env : GuideEnvironment} {library : ResultLibrary}
  {database : CharacterDatabase} {request : GroundedRequest}
  {sources : GroundedSources} {asked : Asked}

/-- A result is generated, or completes a generation of the chat. -/
def IsCompleted (result : Except Raised GroundedAnswer) : Prop :=
  ∃ answer, result = .ok answer ∧
    (answer.status = .generated ∨
      ∃ content, chatEnding answer = .completed content)

def outputDocument (completion : Chat.Completion) : Decoded :=
  .dict [
    (literal "model_id", .str completion.modelId),
    (literal "content", .str (stripPoints completion.content)),
    (literal "finish_reason", .str completion.finishReason)]

/-- The output passes the checks, can be hashed, and the finding has kept its
digests. -/
structure Completes (library : ResultLibrary) (database : CharacterDatabase)
    (asked : Asked) (completion : Chat.Completion)
    (findingAfter : Option Members) : Prop where
  passes : isBlocked database (stripPoints completion.content) = false
  hashable : (canonicalSha256 library (outputDocument completion)).isOk = true
  unchanged : currentHashes library findingAfter = .ok asked.before.hashes

theorem status_of_completed {answer : GroundedAnswer} {content : List CodePoint}
    (completed : chatEnding answer = .completed content) :
    answer.status = .generated := by
  unfold chatEnding at completed
  split at completed
  · next generated _ => exact generated
  · cases completed
  · cases completed

/-- A completion is the answer if and only if nothing speaks against it. -/
theorem isCompleted_iff (completion : Chat.Completion)
    (findingAfter : Option Members) :
    IsCompleted (completedAnswer library database asked completion
        findingAfter) ↔
      Completes library database asked completion findingAfter := by
  constructor
  case mp =>
    rintro ⟨answer, answered, ends⟩
    have generated : answer.status = .generated :=
      ends.elim id fun ⟨content, completed⟩ => status_of_completed completed
    obtain ⟨unchanged, outputSha256, ⟨-, same⟩ | ⟨passes, -⟩⟩ :=
      completedAnswer_eq_ok answered
    · rw [same] at generated
      cases generated
    · obtain ⟨digest, hashed, -⟩ := Outcome.bind_eq_ok.mp answered
      refine ⟨passes, ?_, unchanged⟩
      rw [outputDocument, hashed]
      rfl
  case mpr =>
    intro completes
    obtain ⟨outputSha256, hashed⟩ := Outcome.eq_ok_of_isOk completes.hashable
    have answered := @completedAnswer_of_unchanged library database asked
      completion findingAfter outputSha256 hashed completes.unchanged
    rw [completes.passes] at answered
    exact ⟨_, answered, .inl rfl⟩

theorem streamRequest_raises_iff {texts : ReasonTexts}
    {chunks : List StreamChunk} (cut : CutOff texts chunks) :
    (streamRequest texts none chunks).raised.isSome = true ↔
      (finalReason chunks).isSome = true ∨ handedOn chunks = [] := by
  rw [streamRequest_eq]
  unfold CutOff at cut
  cases final : finalReason chunks with
  | none =>
      by_cases silent : handedOn chunks = []
      · simp [silent]
      · simp [silent]
  | some reason =>
      rw [final] at cut
      simp [cut]

theorem deviceStream_raises_iff {texts : ReasonTexts}
    {chunks : List StreamChunk} :
    (deviceStream texts none chunks).raised.isSome = true ↔
      chunks.any (endsDevice texts) = true ∨ handedOn chunks = [] := by
  rw [deviceStream, (deviceLoop_eq chunks false).1, Option.none_or,
    Bool.false_or]
  cases ends : chunks.any (endsDevice texts) with
  | true => simp
  | false =>
      by_cases silent : handedOn chunks = []
      · simp [silent]
      · simp [silent]

/-- A stream that is cut off leaves no complete answer if and only if: on the
chat, the text fails a check of its own; on a Windows PC, the stream names a
limit of tokens or has no text; on a Linux server, it does so in the way that is
looked for there; or the reader or the store does not take it. -/
theorem cut_off_answer_refused_iff {texts : ReasonTexts}
    {chunks : List StreamChunk} (cut : CutOff texts chunks) :
    (∀ (env : GuideEnvironment) (library : ResultLibrary)
        (database : CharacterDatabase) (request : GroundedRequest)
        (sources : GroundedSources) (asked : Asked)
        (complete : Except ModelFault Chat.Completion)
        (findingAfter : Option Members),
      prepare env library database request sources = .ok (.ok asked) →
        (¬IsCompleted (generate env library database request sources true
            ⟨some (chunks, none), complete, findingAfter⟩).result ↔
          ¬Completes library database asked (assembled chunks)
            findingAfter)) ∧
    (∀ (receivers : Receivers) (floats : FloatTexts)
        (knowledgeSources : List Decoded),
      storedCard receivers texts none chunks floats knowledgeSources = none ↔
        (finalReason chunks).isSome = true ∨ handedOn chunks = [] ∨
          receivers.takes (handedOn chunks) = false ∨
          receivers.keeps (encodeStoredControlCard floats knowledgeSources
            (handedOn chunks)) = false) ∧
    (∀ (receivers : Receivers)
        (edit : List (List CodePoint) → List (List CodePoint)),
      storedSummary receivers texts none chunks edit = none ↔
        (finalReason chunks).isSome = true ∨ handedOn chunks = [] ∨
          receivers.takes (edit (handedOn chunks)) = false ∨
          receivers.keeps (edit (handedOn chunks)).flatten = false ∨
          stripPoints (edit (handedOn chunks)).flatten = []) ∧
    ∀ receivers : Receivers,
      deviceStored receivers texts none chunks = none ↔
        chunks.any (endsDevice texts) = true ∨ handedOn chunks = [] ∨
          receivers.takes (handedOn chunks) = false ∨
          receivers.keeps (stripPoints (handedOn chunks).flatten) = false := by
  have deltas : (streamRequest texts none chunks).deltas = handedOn chunks := by
    rw [streamRequest_eq]
  refine ⟨?guide, ?card, ?summary, ?device⟩
  case guide =>
    intro env library database request sources asked complete findingAfter asks
    rw [generate_of_asked asks]
    exact not_congr (isCompleted_iff (assembled chunks) findingAfter)
  case card =>
    intro receivers floats knowledgeSources
    rw [storedCard, Receivers.stored_eq_none_iff, streamRequest_raises_iff cut,
      deltas, or_assoc]
  case summary =>
    intro receivers edit
    rw [storedSummary, Receivers.stored_filter_eq_none_iff,
      streamRequest_raises_iff cut, deltas, or_assoc, decide_eq_false_iff_not,
      not_not]
  case device =>
    intro receivers
    rw [deviceStored, Receivers.stored_eq_none_iff, deviceStream_raises_iff,
      or_assoc]
    cases ends : chunks.any (endsDevice texts) with
    | true => simp only [true_or]
    | false => rw [deviceStream, (deviceLoop_eq chunks false).2 ends]

end Answers

def smallReasons : ReasonTexts := ⟨id, id⟩

/-- A reader that stays, and a store that keeps every content. -/
def exampleReceivers : Receivers := ⟨fun _ => true, fun _ => true⟩

def exampleLimited : List StreamChunk :=
  [⟨literal "model", literal " ", some (literal "length"),
    model_name_not_blank, .inr rfl⟩]

def exampleEndless : List StreamChunk :=
  [⟨literal "model", literal "Use another", none, model_name_not_blank,
    .inl (by decide)⟩]

theorem exampleLimited_cutOff : CutOff smallReasons exampleLimited :=
  show isTokenLimit smallReasons (literal "length") = true by decide

/-- A blank answer at a limit of tokens is complete nowhere. -/
theorem limited_blank_answer_is_refused :
    (∃ asked, prepare exampleGroundingGuides exampleLibrary asciiDatabase
        exampleGuideRequest exampleSearched = .ok (.ok asked)) ∧
      ¬IsCompleted (generate exampleGroundingGuides exampleLibrary asciiDatabase
        exampleGuideRequest exampleSearched true
        ⟨some (exampleLimited, none), .error (.raised .type), none⟩).result ∧
      storedCard exampleReceivers smallReasons none exampleLimited
        exampleLibrary.toFloatTexts [] = none ∧
      storedSummary exampleReceivers smallReasons none exampleLimited id =
        none ∧
      deviceStored exampleReceivers smallReasons none exampleLimited = none := by
  obtain ⟨guide, card, summary, device⟩ :=
    cut_off_answer_refused_iff exampleLimited_cutOff
  obtain ⟨asked, asks, -⟩ := example_asks
  refine ⟨⟨asked, asks⟩, ?_, (card _ _ _).mpr (.inl rfl),
    (summary _ _).mpr (.inl rfl), (device _).mpr (.inl (by decide))⟩
  apply (guide _ _ _ _ _ _ _ _ asks).mpr
  intro completes
  have blank : isBlocked asciiDatabase
      (stripPoints (assembled exampleLimited).content) = true := by
    decide
  rw [completes.passes] at blank
  cases blank

/-- An answer whose stream ends without a reason is complete on all paths. -/
theorem endless_answer_is_complete :
    CutOff smallReasons exampleEndless ∧
      IsCompleted (generate exampleGroundingGuides exampleLibrary asciiDatabase
        exampleGuideRequest exampleSearched true
        ⟨some (exampleEndless, none), .error (.raised .type), none⟩).result ∧
      (storedCard exampleReceivers smallReasons none exampleEndless
        exampleLibrary.toFloatTexts []).isSome = true ∧
      deviceStored exampleReceivers smallReasons none exampleEndless =
        some (literal "Use another") := by
  refine ⟨trivial, ?_, by decide, by decide⟩
  obtain ⟨asked, asks, hashes⟩ := example_asks
  rw [generate_of_asked asks]
  apply (isCompleted_iff (assembled exampleEndless) none).mpr
  exact ⟨by decide, by decide, hashes ▸ rfl⟩

end SecAI.Explanation
