/-
Module: SecAI.Chat.TypedFailures
Purpose: The decoders of model responses, of the provider and of the client of
  the model gateway, and when they raise nothing but `ProviderRequestError`.
Trusted boundary: the request can be sent or fails with `OSError` or
  `httpx.HTTPError`; how httpx decodes a body and which texts are nested too
  deeply for `json.loads` are parameters
Main exports:
  ClientFault, ResponseReader, EndsTyped, UnguardedUsage, typed_failures_iff
-/
import SecAI.Chat.GatewayStream
import SecAI.Text.Rendered
import SecAI.Common.Outcome

namespace SecAI.Chat

open SecAI.Text

/-- The code points of a word of the source. -/
abbrev wordPoints (word : String) : List CodePoint := points word.toList

/-- What an expression over decoded JSON raises. -/
inductive PythonFault where
  | key
  | index
  | type
  | value
  | attribute
  | recursion
deriving DecidableEq

/-- What `json.loads` raises. -/
inductive JsonFault where
  | value
  | recursion

def JsonFault.raised : JsonFault → PythonFault
  | .value => .value
  | .recursion => .recursion

/-- `value[key]`, for a string. -/
def subscript (value : JsonText) (key : List CodePoint) :
    Except PythonFault JsonText :=
  match value with
  | .object members =>
      match memberValue members key with
      | some item => .ok item
      | none => .error .key
  | _ => .error .type

/-- `value[0]`; the first character of a string is a string. -/
def firstItem : JsonText → Except PythonFault JsonText
  | .array (item :: _) => .ok item
  | .array [] => .error .index
  | .string (point :: _) => .ok (.string [point])
  | .string [] => .error .index
  | .object _ => .error .key
  | _ => .error .type

/-- `value.get(key)`; only a dict has such a method. -/
def getMember (value : JsonText) (key : List CodePoint) :
    Except PythonFault (Option JsonText) :=
  match value with
  | .object members => .ok (memberValue members key)
  | _ => .error .attribute

/-- `value or default`. -/
def PythonValues.orElse (python : PythonValues) (value : Option JsonText)
    (default : JsonText) : JsonText :=
  match value with
  | some value => if isFalsy python value then default else value
  | none => default

def optionalNonNegativeInt : Option JsonText → Option Nat
  | some (.number literal) => (wholeNumber literal).bind fun value =>
      if value < 0 then none else some value.toNat
  | _ => none

/-- `_optional_int` of the gateway's client, which is the same. -/
def optionalInt : Option JsonText → Option Nat := optionalNonNegativeInt

/-- How responses are read. -/
structure ResponseReader where
  python : PythonValues
  /-- `Response.json` of httpx. -/
  bodyJson : List UInt8 → Except JsonFault JsonText
  /-- The nesting of the text exceeds the recursion limit. -/
  tooDeep : List Char → Bool

/-- `json.loads` of the text of a line. -/
def ResponseReader.lineJson (reader : ResponseReader) (raw : List Char) :
    Except JsonFault JsonText :=
  if reader.tooDeep raw then .error .recursion
  else match loads reader.python.accepted raw with
    | some value => .ok value
    | none => .error .value

/-- What a client raises. -/
inductive ClientFault where
  /-- `ProviderRequestError`. -/
  | provider (category : List CodePoint) (retryable : Bool)
  | raised (fault : PythonFault)
deriving DecidableEq

/-- A `ProviderRequestError` with a fixed category. -/
def providerFault (category : String) (retryable : Bool) : ClientFault :=
  .provider (wordPoints category) retryable

/-- The text is not empty, and `strip` keeps it. -/
def IsTrimmed (text : List CodePoint) : Prop :=
  text ≠ [] ∧ stripPoints text = text

/-- `ChatCompletionResult`, as a client builds it. -/
structure CompletionResult where
  modelId : List CodePoint
  content : List CodePoint
  finishReason : List CodePoint
  promptTokens : Option Nat
  completionTokens : Option Nat
  totalTokens : Option Nat
  named : IsTrimmed modelId
  filled : IsTrimmed content
deriving DecidableEq

/-- The `model_id` of `ModelGatewaySettings`, which is stripped and checked
against a pattern. -/
structure ModelSettings where
  modelId : List CodePoint
  named : IsTrimmed modelId

/-- A request and its response: `OSError` or `httpx.HTTPError`, or a status with
a body. -/
inductive Exchange where
  | failed
  | answered (status : Nat) (body : List UInt8)

/-- A request and its streamed response; the lines may be interrupted by an
`OSError` or `httpx.HTTPError`. -/
inductive StreamedExchange where
  | failed
  | answered (status : Nat) (lines : List (List Char)) (interrupted : Bool)

/-- `except caught: raise ProviderRequestError(category, retryable=False)`. -/
def guarded {Value : Type} (caught : List PythonFault) (category : String)
    (result : Except PythonFault Value) : Except ClientFault Value :=
  result.mapError fun fault =>
    if fault ∈ caught then providerFault category false else .raised fault

def safeErrorCategory (status : Nat) : ClientFault :=
  if status = 401 ∨ status = 403 then
    providerFault "AUTHENTICATION_FAILED" false
  else if status = 402 then providerFault "USAGE_LIMIT_REACHED" false
  else if status = 408 then providerFault "UPSTREAM_TIMEOUT" true
  else if status = 429 then providerFault "RATE_LIMITED" true
  else if status = 502 ∨ status = 503 ∨ status = 504 then
    providerFault "MODEL_UNAVAILABLE" true
  else if 400 ≤ status ∧ status < 500 then
    providerFault "REQUEST_REJECTED" false
  else providerFault "UPSTREAM_ERROR" true

theorem stripPoints_stripPoints (text : List CodePoint) :
    stripPoints (stripPoints text) = stripPoints text := by
  have front : (stripPoints text).dropWhile CodePoint.isBlank =
      stripPoints text := by
    obtain ⟨behind, whole⟩ : stripPoints text <+:
      text.dropWhile CodePoint.isBlank := List.rdropWhile_prefix _ _
    cases stripped : stripPoints text with
    | nil => rfl
    | cons first rest =>
        have visible := List.head?_dropWhile_not CodePoint.isBlank text
        rw [← whole, stripped, List.cons_append, List.head?_cons] at visible
        exact List.dropWhile_cons_of_neg (by simp [visible])
  rw [stripPoints, front]
  exact List.rdropWhile_idempotent _ _

theorem isTrimmed_stripPoints {text : List CodePoint}
    (filled : stripPoints text ≠ []) : IsTrimmed (stripPoints text) :=
  ⟨filled, stripPoints_stripPoints text⟩

section Completions

variable (reader : ResponseReader)

/-- `message`, `content`, `choices`, `finish_reason` and `usage`. -/
def messageKey : List CodePoint := wordPoints "message"

def contentKey : List CodePoint := wordPoints "content"

def choicesKey : List CodePoint := wordPoints "choices"

def usageKey : List CodePoint := wordPoints "usage"

/-- What is read of the body of a completion. -/
structure CompletionFields where
  content : JsonText
  finishReason : JsonText
  usage : JsonText

/-- The `try` of `OpenAICompatibleProvider.complete`. -/
def upstreamFields (payload : JsonText) :
    Except PythonFault CompletionFields := do
  let choices ← subscript payload choicesKey
  let choice ← firstItem choices
  let message ← subscript choice messageKey
  let content ← subscript message contentKey
  let finishReason ← getMember choice finishReasonKey
  let usage ← getMember payload usageKey
  return ⟨content,
    reader.python.orElse finishReason (.string (wordPoints "unknown")),
    reader.python.orElse usage (.object [])⟩

/-- `usage.get(key)` outside of a `try`. -/
def usageMember (usage : JsonText) (key : String) :
    Except ClientFault (Option JsonText) :=
  (getMember usage (wordPoints key)).mapError .raised

/-- The result of `OpenAICompatibleProvider.complete`. -/
def upstreamResult (settings : ModelSettings) (fields : CompletionFields) :
    Except ClientFault CompletionResult :=
  match fields.content with
  | .string content =>
      if filled : stripPoints content ≠ [] then do
        let promptTokens ← usageMember fields.usage "prompt_tokens"
        let completionTokens ← usageMember fields.usage "completion_tokens"
        let totalTokens ← usageMember fields.usage "total_tokens"
        return {
          modelId := settings.modelId
          content := stripPoints content
          finishReason := finishText reader.python fields.finishReason
          promptTokens := optionalNonNegativeInt promptTokens
          completionTokens := optionalNonNegativeInt completionTokens
          totalTokens := optionalNonNegativeInt totalTokens
          named := settings.named
          filled := isTrimmed_stripPoints filled }
      else .error (providerFault "EMPTY_UPSTREAM_RESPONSE" false)
  | _ => .error (providerFault "EMPTY_UPSTREAM_RESPONSE" false)

/-- What `OpenAICompatibleProvider` catches around the decoding. -/
def upstreamCaught : List PythonFault := [.key, .index, .type, .value]

/-- `OpenAICompatibleProvider.complete`. -/
def providerComplete (settings : ModelSettings) :
    Exchange → Except ClientFault CompletionResult
  | .failed => .error (providerFault "UPSTREAM_UNAVAILABLE" true)
  | .answered status body =>
      if status ≠ 200 then .error (safeErrorCategory status)
      else do
        let fields ← guarded upstreamCaught "INVALID_UPSTREAM_RESPONSE"
          ((reader.bodyJson body).mapError JsonFault.raised >>=
            upstreamFields reader)
        upstreamResult reader settings fields

/-- The text of a member, if it is one. -/
def textMember (members : List (List CodePoint × JsonText)) (key : String) :
    Option (List CodePoint) :=
  match memberValue members (wordPoints key) with
  | some (.string content) => some content
  | _ => none

/-- The flag of a member, if it is one. -/
def flagMember (members : List (List CodePoint × JsonText)) (key : String) :
    Option Bool :=
  match memberValue members (wordPoints key) with
  | some (.bool value) => some value
  | _ => none

/-- The error of `InternalModelGatewayClient.complete` for another status: the
`detail` of the body may name it. -/
def gatewayFailure (status : Nat) (body : Except JsonFault JsonText) :
    ClientFault :=
  let category := wordPoints "MODEL_GATEWAY_REQUEST_FAILED"
  let retryable := decide (500 ≤ status)
  match body with
  | .error .recursion => .raised .recursion
  | .ok (.object members) =>
      match memberValue members (wordPoints "detail") with
      | some (.object detail) =>
          .provider ((textMember detail "category").getD category)
            ((flagMember detail "retryable").getD retryable)
      | _ => .provider category retryable
  | _ => .provider category retryable

/-- The fields of the body of the gateway, and its model. -/
structure GatewayFields extends CompletionFields where
  modelId : JsonText

/-- The `try` of `InternalModelGatewayClient.complete`. -/
def gatewayFields (payload : JsonText) :
    Except PythonFault GatewayFields := do
  let usage ← getMember payload usageKey
  let modelId ← subscript payload modelIdKey
  let content ← subscript payload contentKey
  let finishReason ← subscript payload finishReasonKey
  return ⟨⟨content, finishReason,
    reader.python.orElse usage (.object [])⟩, modelId⟩

/-- The result of `InternalModelGatewayClient.complete`. -/
def gatewayResult (fields : GatewayFields) :
    Except ClientFault CompletionResult :=
  match fields.modelId, fields.content, fields.finishReason, fields.usage with
  | .string modelId, .string content, .string finishReason, .object usage =>
      if named : stripPoints modelId ≠ [] then
        if filled : stripPoints content ≠ [] then
          .ok {
            modelId := stripPoints modelId
            content := stripPoints content
            finishReason := finishReason
            promptTokens :=
              optionalInt (memberValue usage (wordPoints "prompt_tokens"))
            completionTokens :=
              optionalInt (memberValue usage (wordPoints "completion_tokens"))
            totalTokens :=
              optionalInt (memberValue usage (wordPoints "total_tokens"))
            named := isTrimmed_stripPoints named
            filled := isTrimmed_stripPoints filled }
        else .error (providerFault "INVALID_GATEWAY_RESPONSE" false)
      else .error (providerFault "INVALID_GATEWAY_RESPONSE" false)
  | _, _, _, _ => .error (providerFault "INVALID_GATEWAY_RESPONSE" false)

/-- What `InternalModelGatewayClient` catches around the decoding. -/
def gatewayCaught : List PythonFault := [.key, .type, .value]

/-- `InternalModelGatewayClient.complete`. -/
def gatewayComplete : Exchange → Except ClientFault CompletionResult
  | .failed => .error (providerFault "MODEL_GATEWAY_UNAVAILABLE" true)
  | .answered status body =>
      if status ≠ 200 then
        .error (gatewayFailure status (reader.bodyJson body))
      else do
        let fields ← guarded gatewayCaught "INVALID_GATEWAY_RESPONSE"
          ((reader.bodyJson body).mapError JsonFault.raised >>=
            gatewayFields reader)
        gatewayResult fields

end Completions

section Streams

variable (reader : ResponseReader)

/-- What is read of the payload of an event. -/
structure EventFields where
  content : JsonText
  modelId : JsonText
  finishReason : Option JsonText

/-- The `try` of `OpenAICompatibleProvider.stream`, behind `json.loads`. -/
def upstreamEvent (settings : ModelSettings) (payload : JsonText) :
    Except PythonFault EventFields := do
  let choices ← subscript payload choicesKey
  let choice ← firstItem choices
  let delta ← getMember choice (wordPoints "delta")
  let content ← getMember (reader.python.orElse delta (.object [])) contentKey
  let finishReason ← getMember choice finishReasonKey
  let modelId ← getMember payload (wordPoints "model")
  return ⟨reader.python.orElse content (.string []),
    reader.python.orElse modelId (.string settings.modelId), finishReason⟩

/-- The `try` of `InternalModelGatewayClient.stream`, behind `json.loads`. -/
def gatewayEvent (payload : JsonText) : Except PythonFault EventFields := do
  let modelId ← subscript payload modelIdKey
  let content ← getMember payload contentDeltaKey
  let finishReason ← getMember payload finishReasonKey
  return ⟨reader.python.orElse content (.string []), modelId, finishReason⟩

/-- The text of a finish reason that is not `None`. -/
def finishReasonText (finishReason : Option JsonText) :
    Option (List CodePoint) :=
  match finishReason with
  | some .null | none => none
  | some value => some (finishText reader.python value)

/-- One of the two streams. -/
structure EventDecoder where
  event : JsonText → Except PythonFault EventFields
  caught : List PythonFault
  /-- The categories of an invalid response, an empty one, and none at all. -/
  invalid : String
  empty : String
  unavailable : String

/-- The chunk of an event, if it has something to say. -/
def EventDecoder.chunk (decoder : EventDecoder) (fields : EventFields) :
    Except ClientFault (Option StreamChunk) :=
  match fields.content, fields.modelId with
  | .string content, .string modelId =>
      if filled : content ≠ [] ∨
          (finishReasonText reader fields.finishReason).isSome = true then
        if named : modelId.all isBlankPoint = false then
          .ok (some ⟨modelId, content,
            finishReasonText reader fields.finishReason, named, filled⟩)
        else .error (.raised .value)
      else .ok none
  | _, _ => .error (providerFault decoder.invalid false)

def EventDecoder.readLine (decoder : EventDecoder) (line : List Char) :
    Except ClientFault (Option StreamChunk) :=
  match dataOf line with
  | none => .ok none
  | some raw => do
      let fields ← guarded decoder.caught decoder.invalid
        ((reader.lineJson raw).mapError JsonFault.raised >>= decoder.event)
      decoder.chunk reader fields

/-- The chunks that lines yield, and what is raised behind them. -/
def EventDecoder.readLines (decoder : EventDecoder) (interrupted : Bool)
    (emitted : Bool) : List (List Char) → List StreamChunk × Option ClientFault
  | [] => ([],
      if interrupted then some (providerFault decoder.unavailable true)
      else if emitted then none else some (providerFault decoder.empty false))
  | line :: rest =>
      match decoder.readLine reader line with
      | .error fault => ([], some fault)
      | .ok none => decoder.readLines interrupted emitted rest
      | .ok (some chunk) =>
          let (chunks, ending) := decoder.readLines interrupted
            (emitted || decide (chunk.contentDelta ≠ [])) rest
          (chunk :: chunks, ending)

def upstreamDecoder (settings : ModelSettings) : EventDecoder where
  event := upstreamEvent reader settings
  caught := upstreamCaught
  invalid := "INVALID_UPSTREAM_RESPONSE"
  empty := "EMPTY_UPSTREAM_RESPONSE"
  unavailable := "UPSTREAM_UNAVAILABLE"

def gatewayDecoder : EventDecoder where
  event := gatewayEvent reader
  caught := gatewayCaught
  invalid := "INVALID_GATEWAY_RESPONSE"
  empty := "EMPTY_GATEWAY_RESPONSE"
  unavailable := "MODEL_GATEWAY_UNAVAILABLE"

/-- `OpenAICompatibleProvider.stream`. -/
def providerStream (settings : ModelSettings) :
    StreamedExchange → List StreamChunk × Option ClientFault
  | .failed => ([], some (providerFault "UPSTREAM_UNAVAILABLE" true))
  | .answered status lines interrupted =>
      if status ≠ 200 then ([], some (safeErrorCategory status))
      else (upstreamDecoder reader settings).readLines reader interrupted false
        lines

/-- `InternalModelGatewayClient.stream`. -/
def gatewayStream :
    StreamedExchange → List StreamChunk × Option ClientFault
  | .failed => ([], some (providerFault "MODEL_GATEWAY_UNAVAILABLE" true))
  | .answered status lines interrupted =>
      if status ≠ 200 then
        ([], some (providerFault "MODEL_GATEWAY_REQUEST_FAILED"
          (decide (500 ≤ status))))
      else (gatewayDecoder reader).readLines reader interrupted false lines

end Streams

open Outcome (Meets)

/-- A `ProviderRequestError`. -/
def ClientFault.IsProvider : ClientFault → Prop
  | .provider .. => True
  | .raised _ => False

/-- A completion, whose fields its type keeps well formed, or a
`ProviderRequestError`. -/
def IsTyped (result : Except ClientFault CompletionResult) : Prop :=
  Meets (fun _ => True) ClientFault.IsProvider result

/-- Behind its chunks, a stream ends normally or with a
`ProviderRequestError`. -/
def EndsTyped (streamed : List StreamChunk × Option ClientFault) : Prop :=
  ∀ fault ∈ streamed.2, fault.IsProvider

/-- A value with the method `get`. -/
def IsObject : JsonText → Prop
  | .object _ => True
  | _ => False

/-- What `value[0]` gives. -/
def firstOf : JsonText → Option JsonText
  | .array (item :: _) => some item
  | .string (point :: _) => some (.string [point])
  | _ => none

/-- `payload["choices"][0]`. -/
def firstChoice (members : List (List CodePoint × JsonText)) :
    Option JsonText :=
  (memberValue members choicesKey).bind firstOf

/-! ## Single expressions -/

section Expressions

variable {value item : JsonText} {key : List CodePoint}

theorem subscript_eq_ok : subscript value key = .ok item ↔
    ∃ members, value = .object members ∧
      memberValue members key = some item := by
  unfold subscript
  cases value with
  | object members =>
      cases found : memberValue members key with
      | none => simp [found]
      | some other => simp [found]
  | _ => simp

theorem subscript_meets (value : JsonText) (key : List CodePoint) :
    Meets (fun item => ∃ members, value = .object members ∧
      memberValue members key = some item)
      (fun fault => fault = .key ∨ fault = .type) (subscript value key) := by
  cases raised : subscript value key with
  | ok item => exact subscript_eq_ok.mp raised
  | error fault =>
      unfold subscript at raised
      cases value with
      | object members =>
          cases found : memberValue members key with
          | none =>
              simp only [found] at raised
              cases raised
              exact .inl rfl
          | some other =>
              simp only [found] at raised
              cases raised
      | _ =>
          cases raised
          exact .inr rfl

theorem firstItem_eq_ok : firstItem value = .ok item ↔
    firstOf value = some item := by
  unfold firstItem firstOf
  cases value with
  | array items => cases items <;> simp
  | string content => cases content <;> simp
  | _ => simp

theorem firstItem_meets (value : JsonText) :
    Meets (fun item => firstOf value = some item)
      (fun fault => fault = .key ∨ fault = .index ∨ fault = .type)
      (firstItem value) := by
  cases value with
  | array items => cases items <;> simp [firstItem, firstOf, Meets]
  | string content => cases content <;> simp [firstItem, firstOf, Meets]
  | _ => simp [firstItem, Meets]

theorem getMember_of_not_object (plain : ¬IsObject value) :
    getMember value key = .error .attribute := by
  cases value with
  | object members => exact absurd trivial plain
  | _ => rfl

theorem eq_object_of_isObject (isObject : IsObject value) :
    ∃ members, value = .object members := by
  cases value with
  | object members => exact ⟨members, rfl⟩
  | _ => cases isObject

end Expressions

variable {Value : Type} {caught : List PythonFault} {category : String}

theorem guarded_meets {good : Value → Prop}
    {result : Except PythonFault Value}
    (meets : Meets good (· ∈ caught) result) :
    Meets good ClientFault.IsProvider (guarded caught category result) := by
  cases result with
  | ok value => exact meets
  | error fault =>
      have isCaught : fault ∈ caught := meets
      rw [guarded, Except.mapError, if_pos isCaught]
      trivial

theorem guarded_ok {value : Value} :
    guarded caught category (.ok value) = .ok value := rfl

theorem guarded_uncaught {fault : PythonFault} (escapes : fault ∉ caught) :
    guarded caught category (.error fault : Except PythonFault Value) =
      .error (.raised fault) := by
  rw [guarded, Except.mapError, if_neg escapes]

/-! ## Whole completions -/

section Completions

variable {reader : ResponseReader} {settings : ModelSettings}

/-- A completion with a text, whose usage is neither falsy nor a dict. -/
def UnguardedUsage (reader : ResponseReader) (payload : JsonText) : Prop :=
  ∃ members choice message content, payload = .object members ∧
    firstChoice members = some (.object choice) ∧
    memberValue choice messageKey = some (.object message) ∧
    memberValue message contentKey = some (.string content) ∧
    stripPoints content ≠ [] ∧
    ¬IsObject (reader.python.orElse (memberValue members usageKey) (.object []))

variable {payload : JsonText}

theorem choices_eq_ok {choice : JsonText} :
    (subscript payload choicesKey >>= firstItem) = .ok choice ↔
      ∃ members, payload = .object members ∧
        firstChoice members = some choice := by
  rw [Outcome.bind_eq_ok]
  constructor
  case mp =>
    rintro ⟨choices, chosen, first⟩
    obtain ⟨members, rfl, found⟩ := subscript_eq_ok.mp chosen
    refine ⟨members, rfl, ?_⟩
    rw [firstChoice, found]
    exact firstItem_eq_ok.mp first
  case mpr =>
    rintro ⟨members, rfl, first⟩
    obtain ⟨choices, found, chosen⟩ := Option.bind_eq_some_iff.mp first
    exact ⟨choices, subscript_eq_ok.mpr ⟨members, rfl, found⟩,
      firstItem_eq_ok.mpr chosen⟩

theorem upstreamFields_eq_ok {fields : CompletionFields} :
    upstreamFields reader payload = .ok fields ↔
      ∃ members choice message, payload = .object members ∧
        firstChoice members = some (.object choice) ∧
        memberValue choice messageKey = some (.object message) ∧
        memberValue message contentKey = some fields.content ∧
        fields = ⟨fields.content,
          reader.python.orElse (memberValue choice finishReasonKey)
            (.string (wordPoints "unknown")),
          reader.python.orElse (memberValue members usageKey)
            (.object [])⟩ := by
  unfold upstreamFields
  constructor
  case mp =>
    intro reads
    obtain ⟨choices, chosen, reads⟩ := Outcome.bind_eq_ok.mp reads
    obtain ⟨choiceValue, first, ofChoice⟩ := Outcome.bind_eq_ok.mp reads
    obtain ⟨members, rfl, isFirst⟩ := choices_eq_ok.mp
      (Outcome.bind_eq_ok.mpr ⟨choices, chosen, first⟩)
    obtain ⟨messageValue, hasMessage, ofMessage⟩ :=
      Outcome.bind_eq_ok.mp ofChoice
    obtain ⟨choice, rfl, isMessage⟩ := subscript_eq_ok.mp hasMessage
    obtain ⟨content, hasContent, ofContent⟩ := Outcome.bind_eq_ok.mp ofMessage
    obtain ⟨message, rfl, isContent⟩ := subscript_eq_ok.mp hasContent
    cases ofContent
    exact ⟨members, choice, message, rfl, isFirst, isMessage, isContent, rfl⟩
  case mpr =>
    rintro ⟨members, choice, message, rfl, isFirst, isMessage, isContent, same⟩
    obtain ⟨choices, chosen, first⟩ := Outcome.bind_eq_ok.mp
      (choices_eq_ok.mpr ⟨members, rfl, isFirst⟩)
    rw [same]
    refine Outcome.bind_eq_ok.mpr ⟨choices, chosen, ?_⟩
    refine Outcome.bind_eq_ok.mpr ⟨_, first, ?_⟩
    refine Outcome.bind_eq_ok.mpr
      ⟨_, subscript_eq_ok.mpr ⟨choice, rfl, isMessage⟩, ?_⟩
    exact Outcome.bind_eq_ok.mpr
      ⟨_, subscript_eq_ok.mpr ⟨message, rfl, isContent⟩, rfl⟩

/-- What the provider raises while it decodes a completion is caught. -/
theorem upstreamFields_caught (payload : JsonText) :
    Meets (fun _ => True) (· ∈ upstreamCaught)
      (upstreamFields reader payload) := by
  have keyOrType : ∀ value key, Meets (fun item => ∃ members,
      value = .object members ∧ memberValue members key = some item)
      (· ∈ upstreamCaught) (subscript value key) := by
    intro value key
    refine (subscript_meets value key).weaken (fun _ found => found) ?_
    rintro fault (rfl | rfl) <;> decide
  unfold upstreamFields
  refine (keyOrType payload choicesKey).bind ?_
  rintro choices ⟨members, rfl, -⟩
  have first : Meets (fun choice => firstOf choices = some choice)
      (· ∈ upstreamCaught) (firstItem choices) := by
    refine (firstItem_meets choices).weaken (fun _ first => first) ?_
    rintro fault (rfl | rfl | rfl) <;> decide
  refine first.bind ?_
  rintro choice -
  refine (keyOrType choice messageKey).bind ?_
  rintro message ⟨choiceMembers, rfl, -⟩
  refine (keyOrType message contentKey).bind ?_
  rintro content -
  trivial

/-- The result is typed if the usage is a dict, or the content is no text. -/
theorem upstreamResult_typed_iff (fields : CompletionFields) :
    IsTyped (upstreamResult reader settings fields) ↔
      ¬∃ content, fields.content = .string content ∧ stripPoints content ≠ [] ∧
        ¬IsObject fields.usage := by
  unfold upstreamResult
  cases text : fields.content with
  | string content =>
      by_cases filled : stripPoints content ≠ []
      case pos =>
        simp only [dif_pos filled]
        by_cases isObject : IsObject fields.usage
        case pos =>
          obtain ⟨members, same⟩ := eq_object_of_isObject isObject
          refine iff_of_true ?_ fun ⟨_, _, _, plain⟩ => plain isObject
          rw [same]
          trivial
        case neg =>
          refine iff_of_false ?_ fun guards =>
            guards ⟨content, rfl, filled, isObject⟩
          rw [usageMember, getMember_of_not_object isObject]
          exact id
      case neg =>
        simp only [dif_neg filled]
        refine iff_of_true trivial ?_
        rintro ⟨other, same, visible, -⟩
        cases same
        exact filled visible
  | _ =>
      refine iff_of_true trivial ?_
      rintro ⟨other, same, -⟩
      cases same

theorem unguardedUsage_iff :
    UnguardedUsage reader payload ↔
      ∃ fields, upstreamFields reader payload = .ok fields ∧
        ∃ content, fields.content = .string content ∧ stripPoints content ≠ [] ∧
          ¬IsObject fields.usage := by
  constructor
  case mp =>
    rintro ⟨members, choice, message, content, same, isFirst, isMessage,
      isContent, visible, plain⟩
    exact ⟨⟨.string content, _, _⟩, upstreamFields_eq_ok.mpr
      ⟨members, choice, message, same, isFirst, isMessage, isContent, rfl⟩,
      content, rfl, visible, plain⟩
  case mpr =>
    rintro ⟨fields, reads, content, text, visible, plain⟩
    obtain ⟨members, choice, message, same, isFirst, isMessage, isContent,
      whole⟩ := upstreamFields_eq_ok.mp reads
    rw [whole] at plain
    exact ⟨members, choice, message, content, same, isFirst, isMessage,
      text ▸ isContent, visible, plain⟩

/-- A completion of the provider is typed unless its body is nested too deeply
or has an unguarded usage. -/
theorem providerComplete_typed_iff (exchange : Exchange) :
    IsTyped (providerComplete reader settings exchange) ↔
      ∀ body, exchange = .answered 200 body →
        reader.bodyJson body ≠ .error .recursion ∧
          ∀ payload, reader.bodyJson body = .ok payload →
            ¬UnguardedUsage reader payload := by
  cases exchange with
  | failed => exact iff_of_true trivial nofun
  | answered status body =>
      by_cases succeeds : status = 200
      case neg =>
        rw [providerComplete, if_pos succeeds]
        refine iff_of_true ?_ ?_
        · unfold safeErrorCategory
          split_ifs <;> trivial
        · intro other same
          cases same
          exact absurd rfl succeeds
      case pos =>
        subst succeeds
        rw [providerComplete, if_neg (not_not.mpr rfl)]
        simp only [Exchange.answered.injEq, true_and, forall_eq']
        cases json : reader.bodyJson body with
        | error fault =>
            cases fault with
            | value => exact iff_of_true trivial ⟨nofun, nofun⟩
            | recursion => exact iff_of_false id fun guards => guards.1 rfl
        | ok payload =>
            cases reads : upstreamFields reader payload with
            | error fault =>
                have isCaught : fault ∈ upstreamCaught :=
                  (upstreamFields_caught payload).of_error reads
                refine iff_of_true ?_ ⟨nofun, ?_⟩
                · change Meets _ _ (guarded _ _ (upstreamFields reader payload)
                    >>= upstreamResult reader settings)
                  rw [reads, guarded, Except.mapError, if_pos isCaught]
                  trivial
                · intro other same unguarded
                  cases same
                  obtain ⟨fields, others, -⟩ := unguardedUsage_iff.mp unguarded
                  cases reads.symm.trans others
            | ok fields =>
                change IsTyped (guarded _ _ (upstreamFields reader payload)
                  >>= upstreamResult reader settings) ↔ _
                rw [reads, guarded_ok, Outcome.ok_bind,
                  upstreamResult_typed_iff]
                constructor
                · intro guards
                  refine ⟨nofun, ?_⟩
                  intro other same unguarded
                  cases same
                  obtain ⟨others, also, found⟩ :=
                    unguardedUsage_iff.mp unguarded
                  cases reads.symm.trans also
                  exact guards found
                · rintro ⟨-, guards⟩ found
                  exact guards payload rfl
                    (unguardedUsage_iff.mpr ⟨fields, reads, found⟩)

theorem gatewayResult_typed (fields : GatewayFields) :
    IsTyped (gatewayResult fields) := by
  unfold gatewayResult
  split
  · split_ifs <;> trivial
  · trivial

theorem gatewayFailure_isProvider_iff (status : Nat)
    (body : Except JsonFault JsonText) :
    (gatewayFailure status body).IsProvider ↔ body ≠ .error .recursion := by
  cases body with
  | error fault =>
      cases fault with
      | value => exact iff_of_true trivial nofun
      | recursion => exact iff_of_false id (not_not.mpr rfl)
  | ok payload =>
      refine iff_of_true ?_ nofun
      unfold gatewayFailure
      dsimp only
      split
      · next same => cases same
      · split <;> trivial
      · trivial

theorem gatewayFields_caught (members : List (List CodePoint × JsonText)) :
    Meets (fun _ => True) (· ∈ gatewayCaught)
      (gatewayFields reader (.object members)) := by
  have keyOrType : ∀ key, Meets (fun _ => True) (· ∈ gatewayCaught)
      (subscript (.object members) key) := by
    intro key
    refine (subscript_meets _ key).weaken (fun _ _ => trivial) ?_
    rintro fault (rfl | rfl) <;> decide
  unfold gatewayFields
  have any : Meets (fun _ => True) (· ∈ gatewayCaught)
      (getMember (.object members) usageKey) := trivial
  refine any.bind ?_
  intro usage _
  refine (keyOrType modelIdKey).bind ?_
  intro modelId _
  refine (keyOrType contentKey).bind ?_
  intro content _
  refine (keyOrType finishReasonKey).bind ?_
  intro finishReason _
  trivial

/-- A completion of the gateway's client is typed unless its body is nested too
deeply, or is no object behind the status 200. -/
theorem gatewayComplete_typed_iff (exchange : Exchange) :
    IsTyped (gatewayComplete reader exchange) ↔
      ∀ status body, exchange = .answered status body →
        reader.bodyJson body ≠ .error .recursion ∧
          (status = 200 → ∀ payload, reader.bodyJson body = .ok payload →
            IsObject payload) := by
  cases exchange with
  | failed => exact iff_of_true trivial nofun
  | answered status body =>
      simp only [Exchange.answered.injEq, and_imp, forall_eq',
        forall_apply_eq_imp_iff]
      by_cases succeeds : status = 200
      case neg =>
        rw [gatewayComplete, if_pos succeeds]
        exact (gatewayFailure_isProvider_iff _ _).trans
          ⟨fun typed => ⟨typed, fun same => absurd same succeeds⟩, And.left⟩
      case pos =>
        rw [gatewayComplete, if_neg (not_not.mpr succeeds)]
        simp only [succeeds, forall_true_left]
        cases json : reader.bodyJson body with
        | error fault =>
            cases fault with
            | value => exact iff_of_true trivial ⟨nofun, nofun⟩
            | recursion => exact iff_of_false id fun guards => guards.1 rfl
        | ok payload =>
            change IsTyped (guarded _ _ (gatewayFields reader payload)
              >>= gatewayResult) ↔ _
            by_cases isObject : IsObject payload
            case pos =>
              refine iff_of_true ?_ ⟨nofun, fun other same => ?_⟩
              · obtain ⟨members, rfl⟩ := eq_object_of_isObject isObject
                exact (guarded_meets (gatewayFields_caught members)).bind
                  fun fields _ => gatewayResult_typed fields
              · cases same
                exact isObject
            case neg =>
              refine iff_of_false ?_ fun guards =>
                isObject (guards.2 payload rfl)
              rw [gatewayFields, getMember_of_not_object isObject]
              exact id

end Completions

/-! ## Lines of a stream -/

section Lines

variable {reader : ResponseReader} {decoder : EventDecoder}
  {fits escapes : JsonText → Prop}

/-- A chunk is made of a text without a reason to end, which is empty. -/
def IsSilent (content : List CodePoint) (finishReason : Option JsonText) :
    Prop :=
  content = [] ∧ (finishReason = none ∨ finishReason = some .null)

/-- Texts that make up a chunk, or are silent. -/
def EventFields.IsPlain (fields : EventFields) : Prop :=
  ∃ content modelId, fields.content = .string content ∧
    fields.modelId = .string modelId ∧
    (IsSilent content fields.finishReason ∨ modelId.all isBlankPoint = false)

/-- Texts that would make up a chunk, of a model without a name. -/
def EventFields.IsNameless (fields : EventFields) : Prop :=
  ∃ content modelId, fields.content = .string content ∧
    fields.modelId = .string modelId ∧
    ¬IsSilent content fields.finishReason ∧ modelId.all isBlankPoint = true

/-- The line has no data, or its data fits. -/
def LineFits (reader : ResponseReader) (fits : JsonText → Prop)
    (line : List Char) : Prop :=
  ∀ raw, dataOf line = some raw →
    ∃ payload, reader.lineJson raw = .ok payload ∧ fits payload

/-- The data of the line is nested too deeply, or escapes. -/
def LineEscapes (reader : ResponseReader) (escapes : JsonText → Prop)
    (line : List Char) : Prop :=
  ∃ raw, dataOf line = some raw ∧ (reader.lineJson raw = .error .recursion ∨
    ∃ payload, reader.lineJson raw = .ok payload ∧ escapes payload)

/-- A line escapes, and all lines before it fit. -/
def FirstEscapes (reader : ResponseReader) (fits escapes : JsonText → Prop)
    (lines : List (List Char)) : Prop :=
  ∃ before line after, lines = before ++ line :: after ∧
    (∀ earlier ∈ before, LineFits reader fits earlier) ∧
    LineEscapes reader escapes line

/-- What fits and what escapes, in terms of what a decoder does. -/
structure Describes (decoder : EventDecoder) (fits escapes : JsonText → Prop) :
    Prop where
  value : .value ∈ decoder.caught
  recursion : .recursion ∉ decoder.caught
  fits : ∀ payload, fits payload ↔
    ∃ fields, decoder.event payload = .ok fields ∧ fields.IsPlain
  escapes : ∀ payload, escapes payload ↔
    (∃ fault, decoder.event payload = .error fault ∧ fault ∉ decoder.caught) ∨
    ∃ fields, decoder.event payload = .ok fields ∧ fields.IsNameless

theorem isSilent_iff {content : List CodePoint}
    {finishReason : Option JsonText} :
    IsSilent content finishReason ↔ ¬(content ≠ [] ∨
      (finishReasonText reader finishReason).isSome = true) := by
  rw [IsSilent, not_or, not_not]
  apply and_congr_right
  intro _
  cases finishReason with
  | none => simp [finishReasonText]
  | some value => cases value <;> simp [finishReasonText]

/-- The three things that can become of the fields of an event. -/
theorem EventDecoder.chunk_spec (fields : EventFields) :
    (fields.IsPlain ∧ ¬fields.IsNameless ∧
      ∃ chunk, decoder.chunk reader fields = .ok chunk) ∨
    (¬fields.IsPlain ∧ fields.IsNameless ∧
      decoder.chunk reader fields = .error (.raised .value)) ∨
    (¬fields.IsPlain ∧ ¬fields.IsNameless ∧
      decoder.chunk reader fields =
        .error (providerFault decoder.invalid false)) := by
  obtain ⟨contentValue, modelValue, finishReason⟩ := fields
  cases contentValue with
  | string content =>
      cases modelValue with
      | string modelId =>
          simp only [EventFields.IsPlain, EventFields.IsNameless,
            JsonText.string.injEq, exists_and_left, exists_eq_left',
            @isSilent_iff reader]
          unfold EventDecoder.chunk
          dsimp only
          split
          · next filled =>
              split
              · next named => simp [named, filled]
              · next named => simp [named, filled]
          · next filled => simp [filled]
      | _ => simp [EventFields.IsPlain, EventFields.IsNameless,
          EventDecoder.chunk]
  | _ => simp [EventFields.IsPlain, EventFields.IsNameless, EventDecoder.chunk]

theorem EventDecoder.readLine_of_event {line raw : List Char}
    {payload : JsonText} (data : dataOf line = some raw)
    (json : reader.lineJson raw = .ok payload) :
    decoder.readLine reader line =
      guarded decoder.caught decoder.invalid (decoder.event payload) >>=
        decoder.chunk reader := by
  unfold readLine
  rw [data]
  dsimp only
  rw [json]
  rfl

/-- A line fits if it is read, and escapes if it raises something else than a
`ProviderRequestError`. -/
theorem EventDecoder.readLine_iff (describes : Describes decoder fits escapes)
    (line : List Char) :
    (LineFits reader fits line ↔
      ∃ chunk, decoder.readLine reader line = .ok chunk) ∧
    (LineEscapes reader escapes line ↔
      ∃ fault, decoder.readLine reader line = .error (.raised fault)) := by
  cases data : dataOf line with
  | none =>
      have skipped : decoder.readLine reader line = .ok none := by
        rw [readLine, data]
      refine ⟨iff_of_true ?_ ⟨none, skipped⟩, iff_of_false ?_ ?_⟩
      · intro raw same
        cases data.symm.trans same
      · rintro ⟨raw, same, -⟩
        cases data.symm.trans same
      · rintro ⟨fault, raised⟩
        cases skipped.symm.trans raised
  | some raw =>
      simp only [LineFits, LineEscapes, data, Option.some.injEq, forall_eq',
        exists_eq_left']
      cases json : reader.lineJson raw with
      | error fault =>
          have reads : decoder.readLine reader line = .error
              (if fault.raised ∈ decoder.caught then
                providerFault decoder.invalid false
              else .raised fault.raised) := by
            rw [readLine, data]
            dsimp only
            rw [json]
            rfl
          rw [reads]
          cases fault with
          | value =>
              rw [if_pos (show JsonFault.value.raised ∈ _ from describes.value)]
              simp [providerFault]
          | recursion =>
              rw [if_neg (show JsonFault.recursion.raised ∉ _ from
                describes.recursion)]
              simp
      | ok payload =>
          rw [readLine_of_event data json]
          simp only [Except.ok.injEq, exists_eq_left', reduceCtorEq, false_or,
            describes.fits, describes.escapes]
          cases event : decoder.event payload with
          | error fault =>
              by_cases isCaught : fault ∈ decoder.caught
              · rw [guarded, Except.mapError, if_pos isCaught]
                simp [providerFault, isCaught, bind, Except.bind]
              · rw [guarded_uncaught isCaught]
                simp [isCaught, bind, Except.bind]
          | ok fields =>
              rw [guarded_ok, Outcome.ok_bind]
              simp only [Except.ok.injEq, exists_eq_left', reduceCtorEq,
                false_and, exists_false, false_or]
              rcases @EventDecoder.chunk_spec reader decoder fields with
                ⟨plain, named, chunk, made⟩ | ⟨plain, nameless, made⟩ |
                ⟨plain, named, made⟩
              · simp [plain, named, made]
              · simp [plain, nameless, made]
              · simp [plain, named, made, providerFault]

/-- A stream ends typed unless a line escapes behind lines that fit. -/
theorem EventDecoder.readLines_typed_iff
    (describes : Describes decoder fits escapes) (interrupted : Bool) :
    ∀ (lines : List (List Char)) (emitted : Bool),
      EndsTyped (decoder.readLines reader interrupted emitted lines) ↔
        ¬FirstEscapes reader fits escapes lines
  | [], emitted => by
      refine iff_of_true ?_ ?_
      · unfold readLines
        split_ifs
        · rintro fault ⟨rfl⟩
          trivial
        · exact nofun
        · rintro fault ⟨rfl⟩
          trivial
      · rintro ⟨before, line, after, whole, -⟩
        exact absurd whole.symm (by simp)
  | line :: rest, emitted => by
      obtain ⟨fitsIff, escapesIff⟩ :=
        @EventDecoder.readLine_iff reader decoder fits escapes describes line
      -- Either the line is the first, or it fits and the rest has the first.
      have firstOrLater : FirstEscapes reader fits escapes (line :: rest) ↔
          LineEscapes reader escapes line ∨
            LineFits reader fits line ∧
              FirstEscapes reader fits escapes rest := by
        constructor
        case mp =>
          rintro ⟨before, other, after, whole, allFit, escapes⟩
          cases before with
          | nil =>
              cases whole
              exact .inl escapes
          | cons first others =>
              cases whole
              obtain ⟨firstFits, othersFit⟩ := List.forall_mem_cons.mp allFit
              exact .inr ⟨firstFits, others, other, after, rfl, othersFit,
                escapes⟩
        case mpr =>
          rintro (escapes | ⟨firstFits, before, other, after, rfl, allFit,
            escapes⟩)
          · exact ⟨[], line, rest, rfl, nofun, escapes⟩
          · exact ⟨line :: before, other, after, rfl,
              List.forall_mem_cons.mpr ⟨firstFits, allFit⟩, escapes⟩
      rw [firstOrLater, fitsIff, escapesIff, readLines]
      cases read : decoder.readLine reader line with
      | error fault =>
          cases fault with
          | provider category retryable =>
              refine iff_of_true ?_ (by simp)
              rintro fault ⟨rfl⟩
              trivial
          | raised fault =>
              refine iff_of_false ?_ (by simp)
              exact fun typed => typed _ rfl
      | ok yielded =>
          cases yielded with
          | none =>
              simpa using readLines_typed_iff describes interrupted rest emitted
          | some chunk =>
              simpa [EndsTyped] using readLines_typed_iff describes interrupted
                rest (emitted || decide (chunk.contentDelta ≠ []))

end Lines

/-! ## The two streams -/

section Streams

variable {reader : ResponseReader} {settings : ModelSettings}

def upstreamText (reader : ResponseReader) (settings : ModelSettings)
    (members choice delta : List (List CodePoint × JsonText)) : EventFields :=
  ⟨reader.python.orElse (memberValue delta contentKey) (.string []),
    reader.python.orElse (memberValue members (wordPoints "model"))
      (.string settings.modelId),
    memberValue choice finishReasonKey⟩

/-- `choice.get("delta") or {}`. -/
def deltaOf (reader : ResponseReader)
    (choice : List (List CodePoint × JsonText)) : JsonText :=
  reader.python.orElse (memberValue choice (wordPoints "delta")) (.object [])

/-- An event of the provider: its first choice and the delta are dicts. -/
def UpstreamFits (reader : ResponseReader) (settings : ModelSettings)
    (payload : JsonText) : Prop :=
  ∃ members choice delta, payload = .object members ∧
    firstChoice members = some (.object choice) ∧
    deltaOf reader choice = .object delta ∧
    (upstreamText reader settings members choice delta).IsPlain

/-- An event of the provider whose first choice or delta is no dict, or whose
model has no name. -/
def UpstreamEscapes (reader : ResponseReader) (settings : ModelSettings)
    (payload : JsonText) : Prop :=
  ∃ members first, payload = .object members ∧
    firstChoice members = some first ∧
    ∀ choice, first = .object choice → ∀ delta,
      deltaOf reader choice = .object delta →
      (upstreamText reader settings members choice delta).IsNameless

def gatewayText (reader : ResponseReader)
    (members : List (List CodePoint × JsonText)) (modelId : JsonText) :
    EventFields :=
  ⟨reader.python.orElse (memberValue members contentDeltaKey) (.string []),
    modelId, memberValue members finishReasonKey⟩

def GatewayFits (reader : ResponseReader) (payload : JsonText) : Prop :=
  ∃ members modelId, payload = .object members ∧
    memberValue members modelIdKey = some modelId ∧
    (gatewayText reader members modelId).IsPlain

/-- An event of the gateway whose model has no name. -/
def GatewayEscapes (reader : ResponseReader) (payload : JsonText) : Prop :=
  ∃ members modelId, payload = .object members ∧
    memberValue members modelIdKey = some modelId ∧
    (gatewayText reader members modelId).IsNameless

/-- The four things that can become of an event of the provider. -/
theorem upstreamEvent_spec (payload : JsonText) :
    (∃ members choice delta, payload = .object members ∧
      firstChoice members = some (.object choice) ∧
      deltaOf reader choice = .object delta ∧
      upstreamEvent reader settings payload =
        .ok (upstreamText reader settings members choice delta)) ∨
    (∃ members first, payload = .object members ∧
      firstChoice members = some first ∧
      (∀ choice, first = .object choice → ¬IsObject (deltaOf reader choice)) ∧
      upstreamEvent reader settings payload = .error .attribute) ∨
    ((∀ members, payload = .object members → firstChoice members = none) ∧
      ∃ fault ∈ upstreamCaught,
        upstreamEvent reader settings payload = .error fault) := by
  have whole : upstreamEvent reader settings payload =
      (subscript payload choicesKey >>= firstItem) >>= fun choice => do
        let delta ← getMember choice (wordPoints "delta")
        let content ←
          getMember (reader.python.orElse delta (.object [])) contentKey
        let finishReason ← getMember choice finishReasonKey
        let modelId ← getMember payload (wordPoints "model")
        return ⟨reader.python.orElse content (.string []),
          reader.python.orElse modelId (.string settings.modelId),
          finishReason⟩ := by
    rw [upstreamEvent]
    cases subscript payload choicesKey <;> rfl
  cases chosen : subscript payload choicesKey >>= firstItem with
  | error fault =>
      refine .inr (.inr ⟨?_, fault, ?_, ?_⟩)
      · rintro members rfl
        by_contra found
        obtain ⟨choice, first⟩ := Option.ne_none_iff_exists'.mp found
        cases chosen.symm.trans (choices_eq_ok.mpr ⟨members, rfl, first⟩)
      · have caught : Meets (fun _ => True) (· ∈ upstreamCaught)
            (subscript payload choicesKey >>= firstItem) := by
          have keyOrType : Meets (fun _ => True) (· ∈ upstreamCaught)
              (subscript payload choicesKey) := by
            refine (subscript_meets payload _).weaken (fun _ _ => trivial) ?_
            rintro fault (rfl | rfl) <;> decide
          refine keyOrType.bind fun choices _ => ?_
          refine (firstItem_meets choices).weaken (fun _ _ => trivial) ?_
          rintro fault (rfl | rfl | rfl) <;> decide
        exact caught.of_error chosen
      · rw [whole, chosen]
        rfl
  | ok first =>
      obtain ⟨members, rfl, isFirst⟩ := choices_eq_ok.mp chosen
      rw [whole, chosen, Outcome.ok_bind]
      by_cases isObject : IsObject first
      case neg =>
        refine .inr (.inl ⟨members, first, rfl, isFirst, ?_, ?_⟩)
        · rintro choice rfl
          exact absurd trivial isObject
        · rw [getMember_of_not_object isObject]
          rfl
      case pos =>
        obtain ⟨choice, rfl⟩ := eq_object_of_isObject isObject
        by_cases deltaIsObject : IsObject (deltaOf reader choice)
        case neg =>
          refine .inr (.inl ⟨members, _, rfl, isFirst, ?_, ?_⟩)
          · rintro other ⟨rfl⟩
            exact deltaIsObject
          · change getMember (deltaOf reader choice) contentKey >>= _ = _
            rw [getMember_of_not_object deltaIsObject]
            rfl
        case pos =>
          obtain ⟨delta, isDelta⟩ := eq_object_of_isObject deltaIsObject
          refine .inl ⟨members, choice, delta, rfl, isFirst, isDelta, ?_⟩
          change getMember (deltaOf reader choice) contentKey >>= _ = _
          rw [isDelta]
          rfl

theorem upstreamDecoder_describes :
    Describes (upstreamDecoder reader settings)
      (UpstreamFits reader settings) (UpstreamEscapes reader settings) where
  value := show PythonFault.value ∈ upstreamCaught by decide
  recursion := show PythonFault.recursion ∉ upstreamCaught by decide
  fits := by
    intro payload
    change _ ↔ ∃ fields, upstreamEvent reader settings payload = .ok fields ∧ _
    rcases @upstreamEvent_spec reader settings payload with
      ⟨members, choice, delta, rfl, isFirst, isDelta, reads⟩ |
      ⟨members, first, rfl, isFirst, plain, reads⟩ |
      ⟨nowhere, fault, -, reads⟩
    · rw [reads]
      constructor
      · rintro ⟨_, otherChoice, otherDelta, ⟨rfl⟩, otherFirst, ofOther, plain⟩
        cases isFirst.symm.trans otherFirst
        cases isDelta.symm.trans ofOther
        exact ⟨_, rfl, plain⟩
      · rintro ⟨fields, ⟨rfl⟩, plain⟩
        exact ⟨members, choice, delta, rfl, isFirst, isDelta, plain⟩
    · rw [reads]
      refine iff_of_false ?_ nofun
      rintro ⟨_, choice, delta, ⟨rfl⟩, otherFirst, isDelta, -⟩
      cases isFirst.symm.trans otherFirst
      exact plain choice rfl (isDelta ▸ trivial)
    · rw [reads]
      refine iff_of_false ?_ nofun
      rintro ⟨members, choice, delta, rfl, isFirst, -⟩
      cases (nowhere members rfl).symm.trans isFirst
  escapes := by
    intro payload
    change _ ↔ (∃ fault, upstreamEvent reader settings payload = .error fault ∧
      fault ∉ upstreamCaught) ∨ ∃ fields,
        upstreamEvent reader settings payload = .ok fields ∧ _
    rcases @upstreamEvent_spec reader settings payload with
      ⟨members, choice, delta, rfl, isFirst, isDelta, reads⟩ |
      ⟨members, first, rfl, isFirst, plain, reads⟩ |
      ⟨nowhere, fault, isCaught, reads⟩
    · rw [reads]
      constructor
      · rintro ⟨_, first, ⟨rfl⟩, otherFirst, nameless⟩
        cases isFirst.symm.trans otherFirst
        exact .inr ⟨_, rfl, nameless choice rfl delta isDelta⟩
      · rintro (⟨fault, raised, -⟩ | ⟨fields, ⟨rfl⟩, nameless⟩)
        · cases raised
        · refine ⟨members, _, rfl, isFirst, ?_⟩
          rintro _ ⟨rfl⟩ otherDelta ofOther
          cases isDelta.symm.trans ofOther
          exact nameless
    · rw [reads]
      refine iff_of_true ⟨members, first, rfl, isFirst, ?_⟩
        (.inl ⟨.attribute, rfl, by decide⟩)
      intro choice same delta isDelta
      exact absurd (isDelta ▸ trivial) (plain choice same)
    · rw [reads]
      refine iff_of_false ?_ ?_
      · rintro ⟨members, first, rfl, isFirst, -⟩
        cases (nowhere members rfl).symm.trans isFirst
      · rintro (⟨other, ⟨rfl⟩, escapes⟩ | ⟨fields, raised, -⟩)
        · exact escapes isCaught
        · cases raised

theorem gatewayDecoder_describes :
    Describes (gatewayDecoder reader) (GatewayFits reader)
      (GatewayEscapes reader) := by
  have spec : ∀ payload,
      (∃ members modelId, payload = .object members ∧
        memberValue members modelIdKey = some modelId ∧
        gatewayEvent reader payload =
          .ok (gatewayText reader members modelId)) ∨
      ((∀ members, payload = .object members →
        memberValue members modelIdKey = none) ∧
        ∃ fault ∈ gatewayCaught,
          gatewayEvent reader payload = .error fault) := by
    intro payload
    cases found : subscript payload modelIdKey with
    | ok modelId =>
        obtain ⟨members, rfl, isModel⟩ := subscript_eq_ok.mp found
        refine .inl ⟨members, modelId, rfl, isModel, ?_⟩
        rw [gatewayEvent, found]
        rfl
    | error fault =>
        refine .inr ⟨?_, fault, ?_, ?_⟩
        · rintro members rfl
          by_contra some
          obtain ⟨modelId, isModel⟩ := Option.ne_none_iff_exists'.mp some
          cases found.symm.trans (subscript_eq_ok.mpr ⟨members, rfl, isModel⟩)
        · rcases (subscript_meets payload _).of_error found with rfl | rfl <;>
            decide
        · rw [gatewayEvent, found]
          rfl
  refine ⟨show PythonFault.value ∈ gatewayCaught by decide,
    show PythonFault.recursion ∉ gatewayCaught by decide, ?fits, ?escapes⟩
  case fits =>
    intro payload
    change _ ↔ ∃ fields, gatewayEvent reader payload = .ok fields ∧ _
    rcases spec payload with ⟨members, modelId, rfl, isModel, reads⟩ |
      ⟨nowhere, fault, -, reads⟩
    · rw [reads]
      constructor
      · rintro ⟨_, other, ⟨rfl⟩, also, plain⟩
        cases isModel.symm.trans also
        exact ⟨_, rfl, plain⟩
      · rintro ⟨fields, ⟨rfl⟩, plain⟩
        exact ⟨members, modelId, rfl, isModel, plain⟩
    · rw [reads]
      refine iff_of_false ?_ nofun
      rintro ⟨members, modelId, rfl, isModel, -⟩
      cases (nowhere members rfl).symm.trans isModel
  case escapes =>
    intro payload
    change _ ↔ (∃ fault, gatewayEvent reader payload = .error fault ∧
      fault ∉ gatewayCaught) ∨ ∃ fields,
        gatewayEvent reader payload = .ok fields ∧ _
    rcases spec payload with ⟨members, modelId, rfl, isModel, reads⟩ |
      ⟨nowhere, fault, isCaught, reads⟩
    · rw [reads]
      constructor
      · rintro ⟨_, other, ⟨rfl⟩, also, nameless⟩
        cases isModel.symm.trans also
        exact .inr ⟨_, rfl, nameless⟩
      · rintro (⟨fault, raised, -⟩ | ⟨fields, ⟨rfl⟩, nameless⟩)
        · cases raised
        · exact ⟨members, modelId, rfl, isModel, nameless⟩
    · rw [reads]
      refine iff_of_false ?_ ?_
      · rintro ⟨members, modelId, rfl, isModel, -⟩
        cases (nowhere members rfl).symm.trans isModel
      · rintro (⟨other, ⟨rfl⟩, escapes⟩ | ⟨fields, raised, -⟩)
        · exact escapes isCaught
        · cases raised

end Streams

/-- The decoders end with well-formed results or a `ProviderRequestError`, and
with nothing else, if and only if no text is nested too deeply, no completion of
the provider has a usage that is a truthy value other than a dict, no completion
of the gateway is another value than a dict, no event of the provider has a
choice or a delta that is no dict, and no chunk is of a model without a name. -/
theorem typed_failures_iff (reader : ResponseReader)
    (settings : ModelSettings) :
    (∀ exchange, IsTyped (providerComplete reader settings exchange) ↔
      ∀ body, exchange = .answered 200 body →
        reader.bodyJson body ≠ .error .recursion ∧
          ∀ payload, reader.bodyJson body = .ok payload →
            ¬UnguardedUsage reader payload) ∧
    (∀ exchange, IsTyped (gatewayComplete reader exchange) ↔
      ∀ status body, exchange = .answered status body →
        reader.bodyJson body ≠ .error .recursion ∧
          (status = 200 → ∀ payload, reader.bodyJson body = .ok payload →
            IsObject payload)) ∧
    (∀ exchange, EndsTyped (providerStream reader settings exchange) ↔
      ∀ lines interrupted, exchange = .answered 200 lines interrupted →
        ¬FirstEscapes reader (UpstreamFits reader settings)
          (UpstreamEscapes reader settings) lines) ∧
    ∀ exchange, EndsTyped (gatewayStream reader exchange) ↔
      ∀ lines interrupted, exchange = .answered 200 lines interrupted →
        ¬FirstEscapes reader (GatewayFits reader) (GatewayEscapes reader)
          lines := by
  refine ⟨providerComplete_typed_iff, gatewayComplete_typed_iff, ?provider,
    ?gateway⟩
  case provider =>
    intro exchange
    cases exchange with
    | failed =>
        refine iff_of_true ?_ nofun
        rintro fault ⟨rfl⟩
        trivial
    | answered status lines interrupted =>
        by_cases succeeds : status = 200
        case neg =>
          rw [providerStream, if_pos succeeds]
          refine iff_of_true ?_ ?_
          · rintro fault ⟨rfl⟩
            unfold safeErrorCategory
            split_ifs <;> trivial
          · intro otherLines other same
            cases same
            exact absurd rfl succeeds
        case pos =>
          subst succeeds
          rw [providerStream, if_neg (not_not.mpr rfl),
            EventDecoder.readLines_typed_iff upstreamDecoder_describes]
          simp
  case gateway =>
    intro exchange
    cases exchange with
    | failed =>
        refine iff_of_true ?_ nofun
        rintro fault ⟨rfl⟩
        trivial
    | answered status lines interrupted =>
        by_cases succeeds : status = 200
        case neg =>
          rw [gatewayStream, if_pos succeeds]
          refine iff_of_true ?_ ?_
          · rintro fault ⟨rfl⟩
            trivial
          · intro otherLines other same
            cases same
            exact absurd rfl succeeds
        case pos =>
          subst succeeds
          rw [gatewayStream, if_neg (not_not.mpr rfl),
            EventDecoder.readLines_typed_iff gatewayDecoder_describes]
          simp

def asciiReader : ResponseReader where
  python := ⟨fun _ => true, fun _ => false, fun _ => []⟩
  bodyJson body :=
    match loads (fun _ => true)
        (body.map fun byte => Char.ofNat byte.toNat) with
    | some value => .ok value
    | none => .error .value
  tooDeep := fun _ => false

def exampleModelSettings : ModelSettings where
  modelId := wordPoints "model"
  named := ⟨by decide, by decide +kernel⟩

def asciiBody (body : String) : List UInt8 :=
  body.toList.map fun character => character.toNat.toUInt8

def exampleUsage : String :=
  "\x7b\"choices\":[\x7b\"message\":\x7b\"content\":\"a\"\x7d\x7d]," ++
    "\"usage\":[1]\x7d"

def exampleChoice : String := "data: \x7b\"choices\":[null]\x7d"

def exampleNameless : String :=
  "data: \x7b\"model_id\":\"\",\"content_delta\":\"a\"\x7d"

/-- Each decoder raises something else than a `ProviderRequestError`. -/
theorem decoders_raise_other_exceptions :
    ¬IsTyped (providerComplete asciiReader exampleModelSettings
      (.answered 200 (asciiBody exampleUsage))) ∧
    ¬IsTyped (gatewayComplete asciiReader (.answered 200 (asciiBody "[]"))) ∧
    ¬EndsTyped (providerStream asciiReader exampleModelSettings
      (.answered 200 [exampleChoice.toList] false)) ∧
    ¬EndsTyped (gatewayStream asciiReader
      (.answered 200 [exampleNameless.toList] false)) := by
  have unguarded : providerComplete asciiReader exampleModelSettings
      (.answered 200 (asciiBody exampleUsage)) =
        .error (.raised .attribute) := by
    decide +kernel
  have list : gatewayComplete asciiReader (.answered 200 (asciiBody "[]")) =
      .error (.raised .attribute) := by
    decide
  have choice : providerStream asciiReader exampleModelSettings
      (.answered 200 [exampleChoice.toList] false) =
        ([], some (.raised .attribute)) := by
    decide +kernel
  have nameless : gatewayStream asciiReader
      (.answered 200 [exampleNameless.toList] false) =
        ([], some (.raised .value)) := by
    decide +kernel
  rw [unguarded, list, choice, nameless]
  exact ⟨id, id, fun typed => typed _ rfl, fun typed => typed _ rfl⟩

end SecAI.Chat
