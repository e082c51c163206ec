/-
Module: SecAI.Chat.GatewayStream
Purpose: The event stream of the model gateway, as its server writes it and
  its client reads it.
Trusted boundary: the response arrives whole and with status 200; how Python
  reads a number and writes a value that is no string are parameters
Main exports:
  StreamChunk, ProviderEnd, eventStream, round_trip_iff
-/
import SecAI.Text.JsonText

namespace SecAI.Chat

open SecAI.Text

/-- `str.isspace` of one code point; no surrogate is one. -/
def isBlankPoint (point : CodePoint) : Bool :=
  isSpace (Char.ofNat point.val)

/-- `ChatCompletionStreamChunk`. -/
structure StreamChunk where
  modelId : List CodePoint
  contentDelta : List CodePoint
  finishReason : Option (List CodePoint)
  named : modelId.all isBlankPoint = false
  filled : contentDelta ≠ [] ∨ finishReason.isSome = true
deriving DecidableEq

def modelIdKey : List CodePoint :=
  points ['m', 'o', 'd', 'e', 'l', '_', 'i', 'd']

def contentDeltaKey : List CodePoint :=
  points ['c', 'o', 'n', 't', 'e', 'n', 't', '_', 'd', 'e', 'l', 't', 'a']

def finishReasonKey : List CodePoint :=
  points ['f', 'i', 'n', 'i', 's', 'h', '_', 'r', 'e', 'a', 's', 'o', 'n']

/-- `ChatCompletionStreamChunk.public_view`. -/
def StreamChunk.publicView (chunk : StreamChunk) : JsonText :=
  .object [
    (modelIdKey, .string chunk.modelId),
    (contentDeltaKey, .string chunk.contentDelta),
    (finishReasonKey, match chunk.finishReason with
      | some reason => .string reason
      | none => .null)]

/-! ## The server -/

/-- How the chunks of the provider end. -/
inductive ProviderEnd where
  | done
  /-- `ProviderRequestError`. -/
  | failed (category : List CodePoint) (retryable : Bool)

def errorPayload (category : List CodePoint) (retryable : Bool) : JsonText :=
  .object [
    (points ['e', 'r', 'r', 'o', 'r'], .object [
      (points ['c', 'a', 't', 'e', 'g', 'o', 'r', 'y'], .string category),
      (points ['r', 'e', 't', 'r', 'y', 'a', 'b', 'l', 'e'],
        .bool retryable)])]

def dataLine (text : List Char) : List Char :=
  'd' :: 'a' :: 't' :: 'a' :: ':' :: ' ' :: text

def frame (line : List Char) : List Char := line ++ ['\n', '\n']

/-- `event: error`. -/
def errorLine : List Char :=
  ['e', 'v', 'e', 'n', 't', ':', ' ', 'e', 'r', 'r', 'o', 'r']

def doneMark : List Char := ['[', 'D', 'O', 'N', 'E', ']']

def endFrames : ProviderEnd → List Char
  | .done => frame (dataLine doneMark)
  | .failed category retryable =>
      errorLine ++ '\n' ::
        frame (dataLine (dumps (errorPayload category retryable)))

/-- `event_stream` of `stream_chat_completions`. -/
def eventStream (chunks : List StreamChunk) (ending : ProviderEnd) :
    List Char :=
  chunks.flatMap (fun chunk => frame (dataLine (dumps chunk.publicView))) ++
    endFrames ending

/-! ## The client -/

/-- How the chunks that the client yields end. -/
inductive StreamEnd where
  | finished
  /-- `ProviderRequestError`. -/
  | raised (category : List CodePoint) (retryable : Bool)
  /-- `ValueError` of a chunk without a model. -/
  | invalidChunk

/-- What is not code of the client. -/
structure PythonValues where
  /-- `int()` and `float()` accept the literal. -/
  accepted : List Char → Bool
  /-- The number is zero. -/
  isZero : List Char → Bool
  /-- `str()` of a value that is no string. -/
  text : JsonText → List CodePoint

section Client

variable (python : PythonValues)

def isFalsy : JsonText → Bool
  | .null => true
  | .bool value => !value
  | .number literal => python.isZero literal
  | .string content => content.isEmpty
  | .array items => items.isEmpty
  | .object members => members.isEmpty

/-- `payload.get(key)`: the last member with a key counts. -/
def memberValue (members : List (List CodePoint × JsonText))
    (key : List CodePoint) : Option JsonText :=
  (members.reverse.find? fun entry => decide (entry.1 = key)).map Prod.snd

/-- What a chunk of the client is made of. -/
structure ReadChunk where
  modelId : List CodePoint
  contentDelta : List CodePoint
  finishReason : Option (List CodePoint)

/-- `str(finish_reason)`. -/
def finishText : JsonText → List CodePoint
  | .string content => content
  | value => python.text value

/-- `payload.get("content_delta") or ""`. -/
def contentOf (members : List (List CodePoint × JsonText)) : JsonText :=
  match memberValue members contentDeltaKey with
  | some value => if isFalsy python value then .string [] else value
  | none => .string []

/-- `payload.get("finish_reason")` as a text. -/
def finishOf (members : List (List CodePoint × JsonText)) :
    Option (List CodePoint) :=
  match memberValue members finishReasonKey with
  | some .null | none => none
  | some value => some (finishText python value)

/-- The payload of a data line, unless it is an `INVALID_GATEWAY_RESPONSE`. -/
def readPayload (raw : List Char) : Option ReadChunk :=
  match loads python.accepted raw with
  | some (.object members) =>
      match memberValue members modelIdKey, contentOf python members with
      | some (.string modelId), .string contentDelta =>
          some ⟨modelId, contentDelta, finishOf python members⟩
      | _, _ => none
  | _ => none

def dataOf (line : List Char) : Option (List Char) :=
  match line with
  | 'd' :: 'a' :: 't' :: 'a' :: ':' :: text =>
      let raw := strip text
      if raw = [] ∨ raw = doneMark then none else some raw
  | _ => none

def invalidGatewayResponse : List CodePoint :=
  points ['I', 'N', 'V', 'A', 'L', 'I', 'D', '_', 'G', 'A', 'T', 'E', 'W', 'A',
    'Y', '_', 'R', 'E', 'S', 'P', 'O', 'N', 'S', 'E']

def emptyGatewayResponse : List CodePoint :=
  points ['E', 'M', 'P', 'T', 'Y', '_', 'G', 'A', 'T', 'E', 'W', 'A', 'Y', '_',
    'R', 'E', 'S', 'P', 'O', 'N', 'S', 'E']

def readLines (emitted : Bool) :
    List (List Char) → List StreamChunk × StreamEnd
  | [] => ([], if emitted then .finished
      else .raised emptyGatewayResponse false)
  | line :: rest =>
      match dataOf line with
      | none => readLines emitted rest
      | some raw =>
          match readPayload python raw with
          | none => ([], .raised invalidGatewayResponse false)
          | some chunk =>
              if filled : chunk.contentDelta ≠ [] ∨
                  chunk.finishReason.isSome = true then
                if named : chunk.modelId.all isBlankPoint = false then
                  let (chunks, ending) := readLines
                    (emitted || decide (chunk.contentDelta ≠ [])) rest
                  (⟨chunk.modelId, chunk.contentDelta, chunk.finishReason,
                    named, filled⟩ :: chunks, ending)
                else ([], .invalidChunk)
              else readLines emitted rest

/-- `InternalModelGatewayClient.stream`. -/
def clientStream (response : List Char) : List StreamChunk × StreamEnd :=
  readLines python false (lines response)

end Client

def ProviderEnd.reported : ProviderEnd → StreamEnd
  | .done => .finished
  | .failed category retryable => .raised category retryable

/-- No string of the chunk has a pair of surrogates in it. -/
def StreamChunk.NoPairs (chunk : StreamChunk) : Prop :=
  NoPair chunk.modelId ∧ NoPair chunk.contentDelta ∧
    ∀ reason ∈ chunk.finishReason, NoPair reason

/-- When the round trip succeeds: a normal end behind a chunk with content, or
the one error that an error event is read as. -/
def RoundTrips (chunks : List StreamChunk) : ProviderEnd → Prop
  | .done => ∃ chunk ∈ chunks, chunk.contentDelta ≠ []
  | .failed category retryable =>
      category = invalidGatewayResponse ∧ retryable = false

/-! ## Payloads -/

section Payloads

variable (python : PythonValues)

theorem keys_distinct : modelIdKey ≠ contentDeltaKey ∧
    modelIdKey ≠ finishReasonKey ∧ contentDeltaKey ≠ finishReasonKey := by
  refine ⟨fun same => ?_, fun same => ?_, fun same => ?_⟩
  · exact absurd (points_injective same) (by decide)
  · exact absurd (points_injective same) (by decide)
  · exact absurd (points_injective same) (by decide)

theorem publicView_plain (chunk : StreamChunk) : chunk.publicView.Plain := by
  refine ⟨trivial, trivial, ?_, trivial⟩
  cases chunk.finishReason <;> trivial

def StreamChunk.joined (chunk : StreamChunk) : ReadChunk :=
  ⟨joinPairs chunk.modelId, joinPairs chunk.contentDelta,
    chunk.finishReason.map joinPairs⟩

theorem publicView_joined (chunk : StreamChunk) :
    chunk.publicView.joined = .object [
      (modelIdKey, .string (joinPairs chunk.modelId)),
      (contentDeltaKey, .string (joinPairs chunk.contentDelta)),
      (finishReasonKey, match chunk.finishReason with
        | some reason => .string (joinPairs reason)
        | none => .null)] := by
  have keys : ∀ text, joinPairs (points text) = points text := joinPairs_points
  cases same : chunk.finishReason with
  | none =>
      simp only [StreamChunk.publicView, same, JsonText.joined, joinedMembers,
        modelIdKey, contentDeltaKey, finishReasonKey, keys]
  | some reason =>
      simp only [StreamChunk.publicView, same, JsonText.joined, joinedMembers,
        modelIdKey, contentDeltaKey, finishReasonKey, keys]

theorem readPayload_publicView (chunk : StreamChunk) :
    readPayload python (dumps chunk.publicView) = some chunk.joined := by
  obtain ⟨modelContent, modelFinish, contentFinish⟩ := keys_distinct
  have content : ∀ text : List CodePoint,
      (if text = [] then JsonText.string [] else JsonText.string text) =
        JsonText.string text := by
    intro text
    split
    · next empty => rw [empty]
    · rfl
  rw [readPayload, loads_dumps (publicView_plain chunk), publicView_joined]
  cases same : chunk.finishReason with
  | none =>
      simp [memberValue, contentOf, finishOf, isFalsy, StreamChunk.joined, same,
        content, modelContent.symm, modelFinish.symm, contentFinish.symm]
  | some reason =>
      simp [memberValue, contentOf, finishOf, isFalsy, StreamChunk.joined, same,
        content, finishText, modelContent.symm, modelFinish.symm,
        contentFinish.symm]

theorem errorPayload_plain (category : List CodePoint) (retryable : Bool) :
    (errorPayload category retryable).Plain :=
  ⟨⟨trivial, trivial, trivial⟩, trivial⟩

theorem readPayload_errorPayload (category : List CodePoint)
    (retryable : Bool) :
    readPayload python (dumps (errorPayload category retryable)) = none := by
  have other : points ['e', 'r', 'r', 'o', 'r'] ≠ modelIdKey := fun same =>
    absurd (points_injective same) (by decide)
  rw [readPayload, loads_dumps (errorPayload_plain category retryable)]
  simp [errorPayload, JsonText.joined, joinedMembers, memberValue,
    joinPairs_points, other]

/-! ## Lines -/

theorem dataOf_object (members : List (List CodePoint × JsonText)) :
    dataOf (dataLine (dumps (.object members))) =
      some (dumps (.object members)) := by
  have stripped : strip (' ' :: dumps (.object members)) =
      dumps (.object members) := by
    have unblanked : strip (' ' :: dumps (.object members)) =
        strip (dumps (.object members)) := by
      rw [strip, List.dropWhile_cons_of_pos (by decide), strip]
    rw [unblanked, dumps]
    apply strip_eq_self
    · intro filled
      rfl
    · intro filled
      rw [List.getLast_cons (by simp), List.getLast_append_singleton]
      rfl
  rw [dataLine, dataOf, stripped, if_neg]
  rw [dumps]
  rintro (empty | isDone)
  · cases empty
  · cases isDone

theorem lines_frame {line : List Char}
    (printable : ∀ character ∈ line, IsPrintable character)
    (rest : List Char) : lines (frame line ++ rest) = line :: [] :: lines rest := by
  rw [frame, List.append_assoc]
  refine (lines_cons (fun character inLine =>
    (printable character inLine).not_lineBreak) _).trans ?_
  exact congrArg _ (@lines_cons [] nofun rest)

theorem dataLine_printable {text : List Char}
    (printable : ∀ character ∈ text, IsPrintable character) :
    ∀ character ∈ dataLine text, IsPrintable character := by
  intro character inLine
  have marks : ∀ mark ∈ ['d', 'a', 't', 'a', ':', ' '], IsPrintable mark :=
    @of_decide_eq_true _ (List.decidableBAll _ _) rfl
  rcases List.mem_append.mp (show character ∈ ['d', 'a', 't', 'a', ':', ' '] ++
    text from inLine) with mark | inText
  · exact marks character mark
  · exact printable character inText

end Payloads

/-! ## Chunk by chunk -/

section Chunks

variable (python : PythonValues) (emitted : Bool)

def chunkLines (chunk : StreamChunk) : List (List Char) :=
  [dataLine (dumps chunk.publicView), []]

theorem StreamChunk.joined_filled (chunk : StreamChunk) :
    chunk.joined.contentDelta ≠ [] ∨ chunk.joined.finishReason.isSome = true := by
  rcases chunk.filled with content | finish
  · exact .inl (joinPairs_ne_nil content)
  · right
    rw [joined, Option.isSome_map]
    exact finish

theorem StreamChunk.joined_of_noPairs {chunk : StreamChunk}
    (noPairs : chunk.NoPairs) :
    chunk.joined = ⟨chunk.modelId, chunk.contentDelta, chunk.finishReason⟩ := by
  obtain ⟨model, content, finish⟩ := noPairs
  rw [joined, (joinPairs_eq_self_iff _).mpr model,
    (joinPairs_eq_self_iff _).mpr content]
  cases same : chunk.finishReason with
  | none => rfl
  | some reason =>
      rw [Option.map_some, (joinPairs_eq_self_iff _).mpr (finish reason same)]

theorem StreamChunk.noPairs_of_joined {chunk : StreamChunk}
    (same : chunk.joined =
      ⟨chunk.modelId, chunk.contentDelta, chunk.finishReason⟩) :
    chunk.NoPairs := by
  rw [joined, ReadChunk.mk.injEq] at same
  refine ⟨(joinPairs_eq_self_iff _).mp same.1,
    (joinPairs_eq_self_iff _).mp same.2.1, ?_⟩
  intro reason isReason
  have kept := same.2.2
  rw [Option.mem_def.mp isReason, Option.map_some, Option.some.injEq] at kept
  exact (joinPairs_eq_self_iff _).mp kept

theorem readLines_chunkLines (chunk : StreamChunk) (rest : List (List Char)) :
    readLines python emitted (chunkLines chunk ++ rest) =
      if named : chunk.joined.modelId.all isBlankPoint = false then
        let (chunks, ending) := readLines python
          (emitted || decide (chunk.joined.contentDelta ≠ [])) rest
        (⟨chunk.joined.modelId, chunk.joined.contentDelta,
          chunk.joined.finishReason, named, chunk.joined_filled⟩ :: chunks,
          ending)
      else ([], .invalidChunk) := by
  have isData : dataOf (dataLine (dumps chunk.publicView)) =
      some (dumps chunk.publicView) := dataOf_object _
  have blank : ∀ emitted, readLines python emitted ([] :: rest) =
      readLines python emitted rest := fun _ => rfl
  rw [chunkLines, List.cons_append, List.singleton_append, readLines]
  simp only [isData, readPayload_publicView, dif_pos chunk.joined_filled, blank]

/-- The client yields exactly the chunks of the server if and only if these
have no pairs of surrogates and the rest yields no more. -/
theorem readLines_chunks (chunks : List StreamChunk) (ending : StreamEnd)
    (rest : List (List Char)) : ∀ emitted,
      readLines python emitted (chunks.flatMap chunkLines ++ rest) =
        (chunks, ending) ↔
      (∀ chunk ∈ chunks, chunk.NoPairs) ∧
        readLines python (emitted || chunks.any fun chunk =>
          decide (chunk.contentDelta ≠ [])) rest = ([], ending) := by
  induction chunks with
  | nil =>
      intro emitted
      rw [List.flatMap_nil, List.nil_append, List.any_nil, Bool.or_false]
      exact ⟨fun read => ⟨nofun, read⟩, fun both => both.2⟩
  | cons chunk chunks ih =>
      intro emitted
      rw [List.flatMap_cons, List.append_assoc, readLines_chunkLines]
      constructor
      · intro read
        split at read
        · next named =>
            have pieces := Prod.mk.inj read
            obtain ⟨sameChunk, sameRest⟩ := List.cons.inj pieces.1
            have joined : chunk.joined = ⟨chunk.modelId, chunk.contentDelta,
                chunk.finishReason⟩ := by
              have models := congrArg StreamChunk.modelId sameChunk
              have contents := congrArg StreamChunk.contentDelta sameChunk
              have finishes := congrArg StreamChunk.finishReason sameChunk
              exact ReadChunk.mk.injEq .. |>.mpr ⟨models, contents, finishes⟩
            have later := (ih (emitted ||
              decide (chunk.joined.contentDelta ≠ []))).mp
                (Prod.ext sameRest pieces.2)
            refine ⟨List.forall_mem_cons.mpr
              ⟨StreamChunk.noPairs_of_joined joined, later.1⟩, ?_⟩
            rw [joined, Bool.or_assoc] at later
            rw [List.any_cons]
            exact later.2
        · cases read
      · rintro ⟨noPairs, read⟩
        obtain ⟨first, others⟩ := List.forall_mem_cons.mp noPairs
        have joined := StreamChunk.joined_of_noPairs first
        rw [List.any_cons, ← Bool.or_assoc] at read
        have later := (ih (emitted ||
          decide (chunk.contentDelta ≠ []))).mpr ⟨others, read⟩
        simp only [joined, chunk.named, dite_true, later]

end Chunks

/-! ## Whole streams -/

section Streams

variable (python : PythonValues)

def endLines : ProviderEnd → List (List Char)
  | .done => [dataLine doneMark, []]
  | .failed category retryable =>
      [errorLine, dataLine (dumps (errorPayload category retryable)), []]

theorem lines_ending (ending : ProviderEnd) :
    lines (endFrames ending) = endLines ending := by
  cases ending with
  | done => rfl
  | failed category retryable =>
      have words : ∀ character ∈ errorLine, isLineBreak character = false :=
        @of_decide_eq_true _ (List.decidableBAll _ _) rfl
      have printable := dataLine_printable
        (dumps_printable (errorPayload_plain category retryable))
      refine (lines_cons words _).trans (congrArg _ ?_)
      have framed := lines_frame printable []
      rw [List.append_nil] at framed
      exact framed

theorem lines_eventStream (chunks : List StreamChunk) (ending : ProviderEnd) :
    lines (eventStream chunks ending) =
      chunks.flatMap chunkLines ++ endLines ending := by
  rw [eventStream]
  induction chunks with
  | nil => exact lines_ending ending
  | cons chunk chunks ih =>
      rw [List.flatMap_cons, List.append_assoc, lines_frame (dataLine_printable
        (dumps_printable (publicView_plain chunk))), ih,
        List.flatMap_cons]
      rfl

theorem readLines_done (emitted : Bool) :
    readLines python emitted (endLines .done) =
      ([], if emitted then .finished else .raised emptyGatewayResponse false) := by
  have isDone : dataOf (dataLine doneMark) = none := by decide
  have blank : dataOf [] = none := rfl
  simp only [endLines, readLines, isDone, blank]

theorem readLines_failed (emitted : Bool) (category : List CodePoint)
    (retryable : Bool) :
    readLines python emitted (endLines (.failed category retryable)) =
      ([], .raised invalidGatewayResponse false) := by
  have isName : dataOf errorLine = none := rfl
  have isData : dataOf (dataLine (dumps (errorPayload category retryable))) =
      some (dumps (errorPayload category retryable)) := dataOf_object _
  simp only [endLines, readLines, isName, isData, readPayload_errorPayload]

theorem clientStream_failed {chunks : List StreamChunk}
    (noPairs : ∀ chunk ∈ chunks, chunk.NoPairs) (category : List CodePoint)
    (retryable : Bool) :
    clientStream python (eventStream chunks (.failed category retryable)) =
      (chunks, .raised invalidGatewayResponse false) := by
  rw [clientStream, lines_eventStream]
  exact (readLines_chunks python chunks _ _ false).mpr
    ⟨noPairs, readLines_failed python _ category retryable⟩

end Streams

/-- The client decodes what the server has emitted to the chunks and the ending
of the provider if and only if no string has a pair of surrogates in it and the
stream ends normally behind a chunk with content, or with the error that every
error event is read as. -/
theorem round_trip_iff (python : PythonValues) (chunks : List StreamChunk)
    (ending : ProviderEnd) :
    clientStream python (eventStream chunks ending) =
        (chunks, ending.reported) ↔
      (∀ chunk ∈ chunks, chunk.NoPairs) ∧ RoundTrips chunks ending := by
  rw [clientStream, lines_eventStream, readLines_chunks, Bool.false_or]
  apply and_congr_right
  intro noPairs
  cases ending with
  | done =>
      rw [readLines_done, RoundTrips, ProviderEnd.reported, Prod.mk.injEq]
      by_cases emitted : ∃ chunk ∈ chunks, chunk.contentDelta ≠ []
      · simp [emitted]
      · simp [emitted]
  | failed category retryable =>
      rw [readLines_failed, RoundTrips, ProviderEnd.reported, Prod.mk.injEq,
        StreamEnd.raised.injEq]
      constructor
      · rintro ⟨_, sameCategory, sameFlag⟩
        exact ⟨sameCategory.symm, sameFlag.symm⟩
      · rintro ⟨sameCategory, sameFlag⟩
        exact ⟨rfl, sameCategory.symm, sameFlag.symm⟩

def exampleChunk : StreamChunk where
  modelId := points ['m', 'o', 'd', 'e', 'l']
  contentDelta := points ['a', 'n', 's', 'w', 'e', 'r']
  finishReason := none
  named := by decide
  filled := .inl nofun

/-- A provider times out behind its first chunk, and the client reports an
invalid response that must not be retried. -/
theorem timeout_becomes_invalid_response :
    clientStream ⟨fun _ => true, fun _ => false, fun _ => []⟩
        (eventStream [exampleChunk] (.failed
          (points "UPSTREAM_TIMEOUT".toList) true)) =
      ([exampleChunk], .raised invalidGatewayResponse false) ∧
    points "UPSTREAM_TIMEOUT".toList ≠ invalidGatewayResponse := by
  constructor
  case left =>
      apply clientStream_failed
      intro chunk isExample
      rw [List.mem_singleton] at isExample
      subst isExample
      exact ⟨(joinPairs_eq_self_iff _).mp (joinPairs_points _),
        (joinPairs_eq_self_iff _).mp (joinPairs_points _), nofun⟩
  case right =>
      intro same
      exact absurd (points_injective same) (by decide)

end SecAI.Chat
