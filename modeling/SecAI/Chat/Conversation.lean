/-
Module: SecAI.Chat.Conversation
Purpose: Histories of a conversation: what its operations change, also when
  they raise, and the placeholders of retried answers.
Trusted boundary: canonical hashing is a parameter; fresh identifiers come
  with the operation
Main exports:
  Conversation, ConversationOperation, conversationMachine, Conversation.Keeps
-/
import Mathlib.Data.List.Nodup
import SecAI.Chat.Contracts
import SecAI.Common.Outcome
import SecAI.Interleaving.Machine

namespace SecAI.Chat

open Interleaving
open SecAI.Text (strip)

/-! ## Operations -/

/-- The scope of a conversation or of a citation. -/
structure ConversationScope where
  guideId : String
  guideVersion : String
  scopeId : String
deriving DecidableEq

/-- What the citations of an answer are checked by. -/
structure ScopedCitation where
  scope : ConversationScope
  ordinal : Option Nat
deriving DecidableEq

/-- `_validate_citations`, with the ordinals so far. -/
def validateCitations (scope : ConversationScope) :
    List Nat → List ScopedCitation → Except ChatContractError Unit
  | _, [] => .ok ()
  | ordinals, citation :: rest =>
      if citation.scope ≠ scope then .error ⟨"CITATION_SCOPE_MISMATCH"⟩
      else match citation.ordinal with
        | none => validateCitations scope ordinals rest
        | some ordinal =>
            if ordinal ∈ ordinals then .error ⟨"CITATION_ORDINAL_DUPLICATE"⟩
            else validateCitations scope (ordinal :: ordinals) rest

/-- A conversation with its stream events, in their order, and the placeholders
that its retries have returned so far, each with its generation. -/
structure Conversation where
  scope : ConversationScope
  chat : ChatConversation
  events : List (Uuid × List Char)
  placeholders : List (Uuid × Uuid)
deriving DecidableEq

/-- The operations of a conversation, with the identifiers that `uuid4`
returns. -/
inductive ConversationOperation where
  | append (content : List Char) (parent branch : Option Uuid)
      (newBranch newId : Uuid)
  | edit (messageId : Uuid) (content : List Char) (newBranch newId : Uuid)
  | start (question : Uuid) (key : List Char) (retryOf : Option Uuid)
      (newId : Uuid)
  | chunk (generation : Uuid) (sequence : Int) (content : List Char)
  | complete (generation : Uuid) (citations : List ScopedCitation)
      (newId : Uuid)
  | stop (generation : Uuid)
  | retry (answer : Uuid) (key : List Char) (newGeneration newId : Uuid)
deriving DecidableEq

/-- What an operation returns. -/
inductive ConversationReply where
  | message (message : ChatMessage)
  | generation (generation : ChatGeneration)
  | event (sequence : Int)

/-- What an operation returns or raises, and the conversation behind it. -/
abbrev Performed := Except ChatContractError ConversationReply × Conversation

variable (canonicalSha256 : Json → String)

namespace Conversation

/-- An operation that changes nothing when it raises. -/
def lifted {α : Type} (state : Conversation) (reply : α → ConversationReply) :
    Except ChatContractError (α × ChatConversation) → Performed
  | .ok (value, after) => (.ok (reply value), { state with chat := after })
  | .error raised => (.error raised, state)

/-- `edit_user_message`: the original is superseded before the content is
checked. -/
def edit (state : Conversation) (messageId : Uuid) (content : List Char)
    (newBranch newId : Uuid) : Performed :=
  match state.chat.requireActive >>= fun _ => state.chat.message messageId with
  | .error raised => (.error raised, state)
  | .ok original =>
      if original.role ≠ .user ∨ original.status = .superseded then
        (.error ⟨"CHAT_EDIT_NOT_ALLOWED"⟩, state)
      else
        let messages := ChatConversation.withStatus state.chat.messages
          messageId .superseded
        match validatedContent content >>= fun value =>
          ChatMessage.checked canonicalSha256
            { id := newId
              branchId := newBranch
              role := .user
              content := value
              status := .completed
              revision := original.revision + 1
              parentMessageId := original.parentMessageId
              editOfMessageId := some original.id
              contentSha256 := "" } with
        | .error raised =>
            (.error raised, { state with
              chat := { state.chat with messages := messages } })
        | .ok edited =>
            (.ok (.message edited), { state with
              chat := { state.chat with messages := messages ++ [edited] } })

def withGeneration (chat : ChatConversation) (generationId : Uuid)
    (change : ChatGeneration → ChatGeneration) : List ChatGeneration :=
  Table.updateWhere (fun other => decide (other.id = generationId)) change
    chat.generations

/-- `_generation` and `_require_generation_open`. -/
def openGeneration (chat : ChatConversation) (generationId : Uuid) :
    Except ChatContractError ChatGeneration :=
  match Table.lookup ChatGeneration.id generationId chat.generations with
  | none => .error ⟨"CHAT_GENERATION_NOT_FOUND"⟩
  | some generation =>
      if generation.status.isTerminal then
        .error ⟨"GENERATION_ALREADY_TERMINAL"⟩
      else .ok generation

def chunks (state : Conversation) (generationId : Uuid) : List (List Char) :=
  (state.events.filter fun event =>
    decide (event.1 = generationId)).map Prod.snd

/-- `append_stream_chunk`. -/
def chunk (state : Conversation) (generationId : Uuid) (sequence : Int)
    (content : List Char) : Performed :=
  match openGeneration state.chat generationId with
  | .error raised => (.error raised, state)
  | .ok _ =>
      let earlier := state.chunks generationId
      if content = [] ∨ maxMessageChars < content.length then
        (.error ⟨"CHAT_STREAM_CHUNK_INVALID"⟩, state)
      else if sequence ≠ earlier.length + 1 then
        (.error ⟨"CHAT_STREAM_SEQUENCE_INVALID"⟩, state)
      else if maxMessageChars < earlier.flatten.length + content.length then
        (.error ⟨"CHAT_CONTENT_LENGTH_INVALID"⟩, state)
      else
        (.ok (.event sequence), { state with
          events := state.events ++ [(generationId, content)]
          chat := { state.chat with
            generations := withGeneration state.chat generationId
              fun other => { other with status := .streaming } } })

def answerOf (state : Conversation) (generation : ChatGeneration)
    (citations : List ScopedCitation) (newId : Uuid) :
    Except ChatContractError ChatMessage := do
  let content := (state.chunks generation.id).flatten
  let _ ← validatedContent content
  validateCitations state.scope [] citations
  ChatMessage.checked canonicalSha256
    { id := newId
      branchId := generation.branchId
      role := .assistant
      content := content
      status := .completed
      revision := 1
      parentMessageId := some generation.userMessageId
      retryOfMessageId := generation.retryOfMessageId
      contentSha256 := "" }

/-- `complete_generation`. -/
def complete (state : Conversation) (generationId : Uuid)
    (citations : List ScopedCitation) (newId : Uuid) : Performed :=
  match openGeneration state.chat generationId >>= fun generation =>
    answerOf canonicalSha256 state generation citations newId with
  | .error raised => (.error raised, state)
  | .ok message =>
      (.ok (.message message), { state with
        chat := { state.chat with
          messages := state.chat.messages ++ [message]
          generations := withGeneration state.chat generationId fun other =>
            { other with
              status := .completed
              responseMessageId := some message.id } } })

/-- `stop_generation`. -/
def stop (state : Conversation) (generationId : Uuid) : Performed :=
  match openGeneration state.chat generationId with
  | .error raised => (.error raised, state)
  | .ok generation =>
      (.ok (.generation { generation with status := .stopped }), { state with
        chat := { state.chat with
          generations := withGeneration state.chat generationId
            fun other => { other with status := .stopped } } })

def placeholderOf (answer : ChatMessage) (generation : ChatGeneration)
    (newId : Uuid) : Except ChatContractError ChatMessage :=
  ChatMessage.checked canonicalSha256
    { id := newId
      branchId := generation.branchId
      role := .assistant
      content := []
      status := .pending
      revision := answer.revision + 1
      parentMessageId := answer.parentMessageId
      retryOfMessageId := some answer.id
      contentSha256 := "" }

/-- `retry_answer`: a placeholder is added for every generation that
`start_generation` returns, also for one that was there before. -/
def retry (state : Conversation) (answerId : Uuid) (key : List Char)
    (newGeneration newId : Uuid) : Performed :=
  match state.chat.message answerId with
  | .error raised => (.error raised, state)
  | .ok answer =>
      match answer.role, answer.parentMessageId with
      | .assistant, some parent =>
          match state.chat.startGeneration parent key (some answer.id)
              newGeneration with
          | .error raised => (.error raised, state)
          | .ok (generation, started) =>
              match placeholderOf canonicalSha256 answer generation newId with
              | .error raised =>
                  (.error raised, { state with chat := started })
              | .ok placeholder =>
                  (.ok (.message placeholder), { state with
                    chat := { started with
                      messages := started.messages ++ [placeholder]
                      generations := withGeneration started generation.id
                        fun other =>
                          { other with
                            responseMessageId := some placeholder.id } }
                    placeholders := state.placeholders ++
                      [(generation.id, placeholder.id)] })
      | _, _ => (.error ⟨"CHAT_RETRY_NOT_ALLOWED"⟩, state)

def perform (state : Conversation) : ConversationOperation → Performed
  | .append content parent branch newBranch newId =>
      lifted state .message (state.chat.appendUserMessage canonicalSha256
        content parent branch newBranch newId)
  | .edit messageId content newBranch newId =>
      state.edit canonicalSha256 messageId content newBranch newId
  | .start question key retryOf newId =>
      lifted state .generation
        (state.chat.startGeneration question key retryOf newId)
  | .chunk generation sequence content =>
      state.chunk generation sequence content
  | .complete generation citations newId =>
      state.complete canonicalSha256 generation citations newId
  | .stop generation => state.stop generation
  | .retry answer key newGeneration newId =>
      state.retry canonicalSha256 answer key newGeneration newId

/-- The identifier of a message that an operation may add. -/
def newMessageId : ConversationOperation → Option Uuid
  | .append _ _ _ _ newId | .edit _ _ _ newId | .complete _ _ newId
  | .retry _ _ _ newId => some newId
  | .start .. | .chunk .. | .stop .. => none

/-- The conversation whose operations are given identifiers that no message
has. -/
def conversationMachine : Machine Conversation ConversationOperation
    (Except ChatContractError ConversationReply) where
  step state operation :=
    if ∀ newId ∈ newMessageId operation,
        newId ∉ state.chat.messages.map ChatMessage.id then
      some (state.perform canonicalSha256 operation)
    else none

def created (scope : ConversationScope) : Conversation :=
  ⟨scope, ⟨.active, [], []⟩, [], []⟩

/-! ## What is kept -/

/-- An operation that raises changes nothing; a retry with a recorded key
returns a placeholder of its generation and adds no message; a completed
generation has no pending placeholder. -/
structure Keeps (moment : Moment Conversation ConversationOperation
    (Except ChatContractError ConversationReply)) : Prop where
  unchanged : ∀ raised, moment.answer = .error raised →
    moment.after = moment.before
  retried : ∀ answer key newGeneration newId placeholder generation,
    moment.label = .retry answer key newGeneration newId →
    moment.answer = .ok (.message placeholder) →
    Table.lookup ChatGeneration.idempotencyKey (strip key)
      moment.before.chat.generations = some generation →
    (generation.id, placeholder.id) ∈ moment.before.placeholders ∧
      moment.after.chat.messages = moment.before.chat.messages
  completed : ∀ generation citations newId reply,
    moment.label = .complete generation citations newId →
    moment.answer = .ok reply →
    ∀ message ∈ moment.after.chat.messages,
      (generation, message.id) ∈ moment.after.placeholders →
        message.status ≠ .pending

/-- A retry repeats a recorded one. -/
def Repeats (state : Conversation) (answerId : Uuid) (key : List Char) :
    Prop :=
  state.chat.status = .active ∧ isIdempotencyKey (strip key) = true ∧
    ∃ answer parent question generation,
      state.chat.message answerId = .ok answer ∧ answer.role = .assistant ∧
      answer.parentMessageId = some parent ∧
      state.chat.message parent = .ok question ∧ question.role = .user ∧
      (question.status = .completed ∨ question.status = .superseded) ∧
      Table.lookup ChatGeneration.idempotencyKey (strip key)
        state.chat.generations = some generation ∧
      generation.userMessageId = parent ∧
      generation.retryOfMessageId = some answer.id

/-- An operation that is not one of those that go wrong: an edit of a message
that may be edited has a content that is accepted, a retry does not repeat a
recorded one, and a generation that is completed has no placeholder. -/
def Settles (state : Conversation) : ConversationOperation → Prop
  | .edit messageId content _ _ =>
      state.chat.status = .active → ∀ original,
        state.chat.message messageId = .ok original → original.role = .user →
        original.status ≠ .superseded →
          (validatedContent content).isOk = true
  | .retry answer key _ _ => ¬state.Repeats answer key
  | .complete generation citations newId =>
      ∀ found, openGeneration state.chat generation = .ok found →
        (answerOf canonicalSha256 state found citations newId).isOk = true →
          ∀ placeholder, (generation, placeholder) ∉ state.placeholders
  | .append .. | .start .. | .chunk .. | .stop .. => True

/-- Messages have identifiers of their own, and every placeholder is a pending
answer. -/
structure IsKept (state : Conversation) : Prop where
  distinct : (state.chat.messages.map ChatMessage.id).Nodup
  pending : ∀ placeholder ∈ state.placeholders, ∃ message ∈ state.chat.messages,
    message.id = placeholder.2 ∧ message.role = .assistant ∧
      message.status = .pending

variable {canonicalSha256} {state after : Conversation}

/-! ## Records -/

variable {message : ChatMessage}

theorem checked_fields {checked : ChatMessage}
    (done : message.checked canonicalSha256 = .ok checked) :
    checked.id = message.id ∧ checked.role = message.role ∧
      checked.status = message.status := by
  unfold ChatMessage.checked at done
  by_cases unrevised : message.revision = 0
  · rw [if_pos unrevised] at done
    cases done
  rw [if_neg unrevised] at done
  by_cases filled : message.status ≠ .pending ∨ message.content ≠ []
  · rw [if_pos filled] at done
    obtain ⟨content, -, done⟩ := Outcome.bind_eq_ok.mp done
    cases done
    exact ⟨rfl, rfl, rfl⟩
  · rw [if_neg filled] at done
    cases done
    exact ⟨rfl, rfl, rfl⟩

/-- A record with an accepted content is accepted. -/
theorem exists_checked (revision : message.revision ≠ 0)
    (accepted : (message.status = .pending ∧ message.content = []) ∨
      validatedContent message.content = .ok message.content) :
    ∃ checked, message.checked canonicalSha256 = .ok checked := by
  unfold ChatMessage.checked
  rw [if_neg revision]
  rcases accepted with ⟨isPending, isEmpty⟩ | valid
  · rw [if_neg (by simp [isPending, isEmpty])]
    exact ⟨_, rfl⟩
  · split
    · rw [valid]
      exact ⟨_, rfl⟩
    · exact ⟨_, rfl⟩

/-! ## The invariant -/

theorem IsKept.congr (kept : state.IsKept)
    (messages : after.chat.messages = state.chat.messages)
    (placeholders : after.placeholders = state.placeholders) :
    after.IsKept where
  distinct := messages ▸ kept.distinct
  pending := by
    rw [messages, placeholders]
    exact kept.pending

theorem IsKept.add (kept : state.IsKept)
    (fresh : message.id ∉ state.chat.messages.map ChatMessage.id)
    (messages : after.chat.messages = state.chat.messages ++ [message])
    (placeholders : ∀ placeholder ∈ after.placeholders,
      placeholder ∈ state.placeholders ∨ (message.id = placeholder.2 ∧
        message.role = .assistant ∧ message.status = .pending)) :
    after.IsKept where
  distinct := by
    rw [messages, List.map_append, List.map_singleton,
      ← List.concat_eq_append, List.nodup_concat]
    exact ⟨fresh, kept.distinct⟩
  pending := by
    intro placeholder member
    rw [messages]
    rcases placeholders placeholder member with earlier | isNew
    · obtain ⟨known, isKnown, isPending⟩ := kept.pending placeholder earlier
      exact ⟨known, List.mem_append_left _ isKnown, isPending⟩
    · exact ⟨message, List.mem_append_right _ (List.mem_singleton_self _),
        isNew⟩

variable {messageId : Uuid}

theorem message_eq_ok (found : state.chat.message messageId = .ok message) :
    message ∈ state.chat.messages ∧ message.id = messageId := by
  unfold ChatConversation.message at found
  split at found
  · next known =>
      cases found
      exact ⟨Table.lookup_mem known, Table.lookup_key known⟩
  · cases found

/-- Placeholders stay pending when a message of the user is superseded. -/
theorem IsKept.supersede (kept : state.IsKept) {original : ChatMessage}
    (found : state.chat.message messageId = .ok original)
    (isUser : original.role = .user)
    (messages : after.chat.messages = ChatConversation.withStatus
      state.chat.messages messageId .superseded)
    (placeholders : after.placeholders = state.placeholders) :
    after.IsKept where
  distinct := by
    rw [messages, ChatConversation.withStatus, Table.map_updateWhere]
    · exact kept.distinct
    · exact fun _ => rfl
  pending := by
    intro placeholder member
    rw [placeholders] at member
    obtain ⟨known, isKnown, isId, isAnswer, isPending⟩ :=
      kept.pending placeholder member
    refine ⟨known, ?_, isId, isAnswer, isPending⟩
    rw [messages]
    refine Table.mem_updateWhere.mpr ⟨known, isKnown, if_neg ?_⟩
    rw [decide_eq_true_eq]
    intro same
    obtain ⟨isMessage, isOriginal⟩ := message_eq_ok found
    have equal : known = original := List.inj_on_of_nodup_map kept.distinct
      isKnown isMessage (same.trans isOriginal.symm)
    rw [equal, isUser] at isAnswer
    cases isAnswer

/-! ## Steps -/

variable {content : List Char} {newBranch newId : Uuid}

theorem appendUserMessage_messages {conversation chat : ChatConversation}
    {parent branch : Option Uuid}
    (done : conversation.appendUserMessage canonicalSha256 content parent branch
      newBranch newId = .ok (message, chat)) :
    chat.messages = conversation.messages ++ [message] ∧
      message.id = newId := by
  obtain ⟨⟨⟩, -, done⟩ := Outcome.bind_eq_ok.mp done
  obtain ⟨found, -, done⟩ := Outcome.bind_eq_ok.mp done
  obtain ⟨value, -, done⟩ := Outcome.bind_eq_ok.mp done
  obtain ⟨checked, isChecked, done⟩ := Outcome.bind_eq_ok.mp done
  cases done
  exact ⟨rfl, (checked_fields isChecked).1⟩

variable {generation : ChatGeneration}

theorem startGeneration_messages {conversation chat : ChatConversation}
    {question : Uuid} {key : List Char} {retryOf : Option Uuid}
    (done : conversation.startGeneration question key retryOf newId =
      .ok (generation, chat)) : chat.messages = conversation.messages := by
  obtain ⟨⟨⟩, -, done⟩ := Outcome.bind_eq_ok.mp done
  obtain ⟨found, -, done⟩ := Outcome.bind_eq_ok.mp done
  split at done
  · cases done
  obtain ⟨accepted, -, done⟩ := Outcome.bind_eq_ok.mp done
  split at done
  · split at done
    · cases done
    · cases done
      rfl
  · cases done
    rfl

variable {raised : ChatContractError}

theorem lifted_error {α : Type} {reply : α → ConversationReply}
    {outcome : Except ChatContractError (α × ChatConversation)}
    (refused : (state.lifted reply outcome).1 = .error raised) :
    (state.lifted reply outcome).2 = state := by
  cases outcome with
  | error _ => rfl
  | ok _ => cases refused

/-- An accepted edit changes the original and adds its message. -/
theorem edit_accepted {original : ChatMessage}
    (active : state.chat.status = .active)
    (found : state.chat.message messageId = .ok original)
    (isUser : original.role = .user)
    (editable : original.status ≠ .superseded) :
    (∃ raised, validatedContent content = .error raised ∧
      state.edit canonicalSha256 messageId content newBranch newId =
        (.error raised, { state with chat := { state.chat with
          messages := ChatConversation.withStatus state.chat.messages messageId
            .superseded } })) ∨
    (validatedContent content).isOk = true ∧ ∃ edited, edited.id = newId ∧
      state.edit canonicalSha256 messageId content newBranch newId =
        (.ok (.message edited), { state with chat := { state.chat with
          messages := ChatConversation.withStatus state.chat.messages messageId
            .superseded ++ [edited] } }) := by
  have reached : (state.chat.requireActive >>= fun _ =>
      state.chat.message messageId) = .ok original := by
    rw [ChatConversation.requireActive, if_pos active]
    exact found
  unfold edit
  rw [reached]
  dsimp only
  rw [if_neg (by simp [isUser, editable])]
  cases valid : validatedContent content with
  | error raised => exact .inl ⟨raised, rfl, rfl⟩
  | ok value =>
      obtain ⟨edited, isEdited⟩ := @exists_checked canonicalSha256
        { id := newId
          branchId := newBranch
          role := .user
          content := value
          status := .completed
          revision := original.revision + 1
          parentMessageId := original.parentMessageId
          editOfMessageId := some original.id
          contentSha256 := "" } (Nat.succ_ne_zero _)
          (.inr (validatedContent_checked valid))
      refine .inr ⟨rfl, edited, (checked_fields isEdited).1, ?_⟩
      rw [Outcome.ok_bind, isEdited]

theorem edit_refused (refused : ¬(state.chat.status = .active ∧ ∃ original,
      state.chat.message messageId = .ok original ∧ original.role = .user ∧
        original.status ≠ .superseded)) :
    (state.edit canonicalSha256 messageId content newBranch newId).2 =
      state := by
  unfold edit
  cases reached : (state.chat.requireActive >>= fun _ =>
      state.chat.message messageId) with
  | error raised => rfl
  | ok original =>
      dsimp only
      rw [if_pos]
      obtain ⟨⟨⟩, active, found⟩ := Outcome.bind_eq_ok.mp reached
      by_contra editable
      rw [not_or] at editable
      refine refused ⟨?_, original, found, not_not.mp editable.1, editable.2⟩
      unfold ChatConversation.requireActive at active
      split at active
      · assumption
      · cases active

/-- An edit changes nothing when it raises, unless its content is refused. -/
theorem edit_unchanged_iff :
    (∀ raised, (state.edit canonicalSha256 messageId content newBranch
        newId).1 = .error raised →
      (state.edit canonicalSha256 messageId content newBranch newId).2 =
        state) ↔
      state.Settles canonicalSha256
        (.edit messageId content newBranch newId) := by
  constructor
  · intro unchanged active original found isUser editable
    rcases @edit_accepted canonicalSha256 state messageId content newBranch
      newId original active found isUser editable with
      ⟨raised, -, edits⟩ | ⟨valid, -⟩
    · have same := unchanged raised (congrArg Prod.fst edits)
      rw [edits] at same
      have messages := congrArg (fun state : Conversation =>
        state.chat.messages) same
      dsimp only at messages
      unfold ChatConversation.message at found
      split at found
      · next known =>
          cases found
          have changed := @Table.lookup_updateWhere _ _ _ ChatMessage.id
            (fun message => { message with status := .superseded })
            (fun message => decide (message.id = messageId))
            (fun _ _ => rfl) messageId state.chat.messages
          rw [ChatConversation.withStatus] at messages
          rw [messages, known, Option.map_some, if_pos (decide_eq_true
            (Table.lookup_key known))] at changed
          exact (editable (congrArg ChatMessage.status
            (Option.some.inj changed))).elim
      · cases found
    · exact valid
  · intro settles raised refused
    by_cases reaches : state.chat.status = .active ∧ ∃ original,
        state.chat.message messageId = .ok original ∧ original.role = .user ∧
          original.status ≠ .superseded
    · obtain ⟨active, original, found, isUser, editable⟩ := reaches
      rcases @edit_accepted canonicalSha256 state messageId content newBranch
        newId original active found isUser editable with
        ⟨error, invalid, -⟩ | ⟨-, edited, -, edits⟩
      · have valid := settles active original found isUser editable
        rw [invalid] at valid
        cases valid
      · rw [edits] at refused
        cases refused
    · exact edit_refused reaches

/-- A chunk, a stop and a completion change nothing when they raise. -/
theorem chunk_unchanged {generation : Uuid} {sequence : Int}
    (refused : (state.chunk generation sequence content).1 = .error raised) :
    (state.chunk generation sequence content).2 = state := by
  unfold chunk at refused ⊢
  cases opened : openGeneration state.chat generation with
  | error _ => rfl
  | ok _ =>
      rw [opened] at refused
      dsimp only at refused ⊢
      split at refused
      · rw [if_pos (by assumption)]
      rw [if_neg (by assumption)]
      split at refused
      · rw [if_pos (by assumption)]
      rw [if_neg (by assumption)]
      split at refused
      · rw [if_pos (by assumption)]
      · cases refused

theorem stop_unchanged {generation : Uuid}
    (refused : (state.stop generation).1 = .error raised) :
    (state.stop generation).2 = state := by
  unfold stop at refused ⊢
  cases opened : openGeneration state.chat generation with
  | error _ => rfl
  | ok _ =>
      rw [opened] at refused
      cases refused

theorem complete_cases (generation : Uuid) (citations : List ScopedCitation)
    (newId : Uuid) :
    (∃ raised, state.complete canonicalSha256 generation citations newId =
      (.error raised, state) ∧ ¬∃ found, openGeneration state.chat generation =
        .ok found ∧ (answerOf canonicalSha256 state found citations
          newId).isOk = true) ∨
    ∃ found message, openGeneration state.chat generation = .ok found ∧
      answerOf canonicalSha256 state found citations newId = .ok message ∧
      (state.complete canonicalSha256 generation citations newId).1 =
        .ok (.message message) ∧
      (state.complete canonicalSha256 generation citations
        newId).2.chat.messages = state.chat.messages ++ [message] ∧
      (state.complete canonicalSha256 generation citations
        newId).2.placeholders = state.placeholders := by
  unfold complete
  cases opened : openGeneration state.chat generation with
  | error raised =>
      refine .inl ⟨raised, rfl, ?_⟩
      rintro ⟨found, isFound, -⟩
      cases isFound
  | ok found =>
      rw [Outcome.ok_bind]
      cases answered : answerOf canonicalSha256 state found citations newId with
      | error raised =>
          refine .inl ⟨raised, rfl, ?_⟩
          rintro ⟨other, isOther, isOk⟩
          cases isOther
          rw [answered] at isOk
          cases isOk
      | ok message => exact .inr ⟨found, message, rfl, answered, rfl, rfl, rfl⟩

theorem answerOf_id {citations : List ScopedCitation}
    (answered : answerOf canonicalSha256 state generation citations newId =
      .ok message) : message.id = newId := by
  obtain ⟨_, -, answered⟩ := Outcome.bind_eq_ok.mp answered
  obtain ⟨_, -, answered⟩ := Outcome.bind_eq_ok.mp answered
  exact (checked_fields answered).1

/-! ### Retries -/

/-- A retry raises and changes nothing, or adds a placeholder for the
generation that is started. -/
theorem retry_cases (answerId : Uuid) (key : List Char)
    (newGeneration newId : Uuid) :
    (∃ raised, state.retry canonicalSha256 answerId key newGeneration newId =
      (.error raised, state) ∧ ∀ answer parent,
        state.chat.message answerId = .ok answer → answer.role = .assistant →
        answer.parentMessageId = some parent →
          ∀ started, state.chat.startGeneration parent key (some answer.id)
            newGeneration ≠ .ok started) ∨
    ∃ answer parent generation started placeholder,
      state.chat.message answerId = .ok answer ∧ answer.role = .assistant ∧
      answer.parentMessageId = some parent ∧
      state.chat.startGeneration parent key (some answer.id) newGeneration =
        .ok (generation, started) ∧
      (placeholder.id = newId ∧ placeholder.role = .assistant ∧
        placeholder.status = .pending) ∧
      (state.retry canonicalSha256 answerId key newGeneration newId).1 =
        .ok (.message placeholder) ∧
      (state.retry canonicalSha256 answerId key newGeneration
        newId).2.chat.messages = state.chat.messages ++ [placeholder] ∧
      (state.retry canonicalSha256 answerId key newGeneration
        newId).2.placeholders = state.placeholders ++
          [(generation.id, placeholder.id)] := by
  unfold retry
  cases found : state.chat.message answerId with
  | error raised =>
      refine .inl ⟨raised, rfl, ?_⟩
      intro answer parent isFound
      cases isFound
  | ok answer =>
      dsimp only
      cases role : answer.role with
      | user =>
          refine .inl ⟨_, rfl, ?_⟩
          intro other parent isFound isAnswer
          cases isFound
          rw [role] at isAnswer
          cases isAnswer
      | assistant =>
          cases behind : answer.parentMessageId with
          | none =>
              refine .inl ⟨_, rfl, ?_⟩
              intro other parent isFound _ isParent
              cases isFound
              rw [behind] at isParent
              cases isParent
          | some parent =>
              dsimp only
              cases starts : state.chat.startGeneration parent key
                  (some answer.id) newGeneration with
              | error raised =>
                  refine .inl ⟨raised, rfl, ?_⟩
                  intro other otherParent isFound _ isParent started
                  cases isFound
                  cases behind.symm.trans isParent
                  rw [starts]
                  simp
              | ok result =>
                  obtain ⟨generation, started⟩ := result
                  obtain ⟨placeholder, isPlaceholder⟩ := @exists_checked
                    canonicalSha256
                    { id := newId
                      branchId := generation.branchId
                      role := .assistant
                      content := []
                      status := .pending
                      revision := answer.revision + 1
                      parentMessageId := answer.parentMessageId
                      retryOfMessageId := some answer.id
                      contentSha256 := "" } (Nat.succ_ne_zero _)
                    (.inl ⟨rfl, rfl⟩)
                  have placed : placeholderOf canonicalSha256 answer
                      generation newId = .ok placeholder := isPlaceholder
                  dsimp only
                  rw [placed]
                  exact .inr ⟨answer, parent, generation, started, placeholder,
                    rfl, role, behind, starts, checked_fields isPlaceholder,
                    rfl, congrArg (· ++ [placeholder])
                      (startGeneration_messages starts), rfl⟩

/-- A generation is started with a recorded key when the request is the
recorded one. -/
theorem startGeneration_recorded {question : Uuid} {key : List Char}
    {retried : Uuid}
    (recorded : Table.lookup ChatGeneration.idempotencyKey (strip key)
      state.chat.generations = some generation) :
    (∃ started, state.chat.startGeneration question key (some retried) newId =
      .ok started) ↔
      state.chat.status = .active ∧ isIdempotencyKey (strip key) = true ∧
      (∃ asked, state.chat.message question = .ok asked ∧ asked.role = .user ∧
        (asked.status = .completed ∨ asked.status = .superseded)) ∧
      generation.userMessageId = question ∧
      generation.retryOfMessageId = some retried := by
  constructor
  · rintro ⟨started, done⟩
    obtain ⟨⟨⟩, active, done⟩ := Outcome.bind_eq_ok.mp done
    obtain ⟨asked, isAsked, done⟩ := Outcome.bind_eq_ok.mp done
    split at done
    · cases done
    rename_i allowed
    obtain ⟨accepted, isAccepted, done⟩ := Outcome.bind_eq_ok.mp done
    unfold validatedIdempotencyKey at isAccepted
    split at isAccepted
    · next isKey =>
        cases isAccepted
        rw [recorded] at done
        dsimp only at done
        split at done
        · cases done
        rename_i same
        rw [not_or, not_not, not_not] at same
        rw [not_or, not_not, not_not] at allowed
        unfold ChatConversation.requireActive at active
        split at active
        · next isActive =>
            refine ⟨isActive, isKey, ⟨asked, isAsked, allowed.1, ?_⟩,
              same⟩
            exact allowed.2.imp_right And.right
        · cases active
    · cases isAccepted
  · rintro ⟨active, isKey, ⟨asked, isAsked, isUser, status⟩, isQuestion,
      isRetried⟩
    refine ⟨(generation, state.chat), Outcome.bind_eq_ok.mpr ⟨(), ?_,
      Outcome.bind_eq_ok.mpr ⟨asked, isAsked, ?_⟩⟩⟩
    · exact if_pos active
    · rw [if_neg]
      · refine Outcome.bind_eq_ok.mpr ⟨strip key, if_pos isKey, ?_⟩
        rw [recorded]
        dsimp only
        rw [if_neg]
        · rfl
        · rw [not_or, not_not, not_not]
          exact ⟨isQuestion, isRetried⟩
      · rw [not_or, not_not, not_not]
        exact ⟨isUser, status.imp_right fun isOld => ⟨rfl, isOld⟩⟩

/-! ## Histories -/

variable {operation : ConversationOperation}
  {answer : Except ChatContractError ConversationReply}

theorem made_iff :
    (conversationMachine canonicalSha256).step state operation =
        some (answer, after) ↔
      (∀ newId ∈ newMessageId operation,
        newId ∉ state.chat.messages.map ChatMessage.id) ∧
      state.perform canonicalSha256 operation = (answer, after) := by
  unfold conversationMachine
  dsimp only
  split
  · next fresh => rw [Option.some.injEq, and_iff_right fresh]
  · next stale =>
      refine iff_of_false ?_ fun both => stale both.1
      rintro ⟨⟩

/-- Every operation keeps the invariant. -/
theorem IsKept.step (kept : state.IsKept)
    (made : (conversationMachine canonicalSha256).step state operation =
      some (answer, after)) : after.IsKept := by
  obtain ⟨fresh, performed⟩ := made_iff.mp made
  obtain rfl : (state.perform canonicalSha256 operation).2 = after :=
    congrArg Prod.snd performed
  clear made performed
  cases operation with
  | append content parent branch newBranch newId =>
      rw [perform]
      cases done : state.chat.appendUserMessage canonicalSha256 content parent
          branch newBranch newId with
      | error raised => exact kept
      | ok result =>
          obtain ⟨messages, isId⟩ := appendUserMessage_messages done
          exact kept.add (isId ▸ fresh newId rfl) messages
            fun _ member => .inl member
  | edit messageId content newBranch newId =>
      rw [perform]
      by_cases reaches : state.chat.status = .active ∧ ∃ original,
          state.chat.message messageId = .ok original ∧
            original.role = .user ∧ original.status ≠ .superseded
      · obtain ⟨active, original, found, isUser, editable⟩ := reaches
        have superseded := @IsKept.supersede state
          { state with
            chat := { state.chat with
              messages := ChatConversation.withStatus state.chat.messages
                messageId .superseded } }
          messageId kept original found isUser rfl rfl
        rcases @edit_accepted canonicalSha256 state messageId content newBranch
          newId original active found isUser editable with
          ⟨raised, -, edits⟩ | ⟨-, edited, isId, edits⟩
        · rw [edits]
          exact superseded
        · rw [edits]
          refine superseded.add ?_ rfl fun _ member => .inl member
          dsimp only
          rw [ChatConversation.withStatus, Table.map_updateWhere]
          · exact isId ▸ fresh newId rfl
          · exact fun _ => rfl
      · rw [edit_refused reaches]
        exact kept
  | start question key retryOf newId =>
      rw [perform]
      cases done : state.chat.startGeneration question key retryOf newId with
      | error raised => exact kept
      | ok result => exact kept.congr (startGeneration_messages done) rfl
  | chunk generation sequence content =>
      rw [perform, chunk]
      cases openGeneration state.chat generation with
      | error raised => exact kept
      | ok found =>
          dsimp only
          split_ifs <;> exact kept.congr rfl rfl
  | complete generation citations newId =>
      rw [perform]
      rcases @complete_cases canonicalSha256 state generation citations newId
        with ⟨raised, done, -⟩ | ⟨found, message, -, answered, -, messages,
          placeholders⟩
      · rw [done]
        exact kept
      · refine kept.add ?_ messages fun _ member => .inl (placeholders ▸ member)
        exact (answerOf_id answered) ▸ fresh newId rfl
  | stop generation =>
      rw [perform, stop]
      cases openGeneration state.chat generation with
      | error raised => exact kept
      | ok found => exact kept.congr rfl rfl
  | retry answerId key newGeneration newId =>
      rw [perform]
      rcases @retry_cases canonicalSha256 state answerId key newGeneration newId
        with ⟨raised, done, -⟩ | ⟨_, _, _, _, placeholder, -, -, -, -,
          ⟨isId, isAnswer, isPending⟩, -, messages, placeholders⟩
      · rw [done]
        exact kept
      · refine kept.add (isId ▸ fresh newId rfl) messages ?_
        intro entry member
        rw [placeholders, List.mem_append, List.mem_singleton] at member
        rcases member with earlier | rfl
        · exact .inl earlier
        · exact .inr ⟨rfl, isAnswer, isPending⟩

/-- What an operation does is what it should when it settles. -/
theorem keeps_iff (kept : state.IsKept)
    (made : (conversationMachine canonicalSha256).step state operation =
      some (answer, after)) :
    Keeps ⟨state, operation, answer, after⟩ ↔
      state.Settles canonicalSha256 operation := by
  obtain ⟨-, performed⟩ := made_iff.mp made
  obtain rfl : (state.perform canonicalSha256 operation).1 = answer :=
    congrArg Prod.fst performed
  obtain rfl : (state.perform canonicalSha256 operation).2 = after :=
    congrArg Prod.snd performed
  clear made performed
  cases operation with
  | append content parent branch newBranch newId =>
      refine iff_of_true ⟨fun _ => lifted_error, ?_, ?_⟩ trivial
      · rintro _ _ _ _ _ _ ⟨⟩
      · rintro _ _ _ _ ⟨⟩
  | edit messageId content newBranch newId =>
      rw [← edit_unchanged_iff]
      constructor
      · exact Keeps.unchanged
      · intro unchanged
        refine ⟨unchanged, ?_, ?_⟩
        · rintro _ _ _ _ _ _ ⟨⟩
        · rintro _ _ _ _ ⟨⟩
  | start question key retryOf newId =>
      refine iff_of_true ⟨fun _ => lifted_error, ?_, ?_⟩ trivial
      · rintro _ _ _ _ _ _ ⟨⟩
      · rintro _ _ _ _ ⟨⟩
  | chunk generation sequence content =>
      refine iff_of_true ⟨fun _ => chunk_unchanged, ?_, ?_⟩ trivial
      · rintro _ _ _ _ _ _ ⟨⟩
      · rintro _ _ _ _ ⟨⟩
  | stop generation =>
      refine iff_of_true ⟨fun _ => stop_unchanged, ?_, ?_⟩ trivial
      · rintro _ _ _ _ _ _ ⟨⟩
      · rintro _ _ _ _ ⟨⟩
  | complete generation citations newId =>
      rcases @complete_cases canonicalSha256 state generation citations newId
        with ⟨raised, done, refused⟩ | ⟨found, message, opened, answered,
          replied, messages, placeholders⟩
      · refine iff_of_true ⟨fun _ _ => ?_, ?_, ?_⟩ ?_
        · exact congrArg Prod.snd done
        · rintro _ _ _ _ _ _ ⟨⟩
        · rintro _ _ _ reply ⟨⟩ isReply
          rw [perform, done] at isReply
          cases isReply
        · intro found opened answered
          exact (refused ⟨found, opened, answered⟩).elim
      · constructor
        · intro keeps other isOther _ placeholder member
          obtain ⟨known, isKnown, isId, -, isPending⟩ :=
            kept.pending _ member
          refine keeps.completed generation citations newId _ rfl replied known
            ?_ ?_ isPending
          · exact messages ▸ List.mem_append_left _ isKnown
          · rw [isId]
            exact placeholders ▸ member
        · intro settles
          refine ⟨fun raised refused => ?_, ?_, ?_⟩
          · rw [perform, replied] at refused
            cases refused
          · rintro _ _ _ _ _ _ ⟨⟩
          · rintro _ _ _ _ ⟨⟩ _ other _ member
            dsimp only at member
            rw [perform, placeholders] at member
            exact (settles found opened (by rw [answered]; rfl) _ member).elim
  | retry answerId key newGeneration newId =>
      rcases @retry_cases canonicalSha256 state answerId key newGeneration newId
        with ⟨raised, done, refused⟩ | ⟨answer, parent, generation, started,
          placeholder, found, isAnswer, behind, starts, -, replied, messages,
          -⟩
      · refine iff_of_true ⟨fun _ _ => congrArg Prod.snd done, ?_, ?_⟩ ?_
        · rintro _ _ _ _ _ _ ⟨⟩ isReply
          rw [perform, done] at isReply
          cases isReply
        · rintro _ _ _ _ ⟨⟩
        · rintro ⟨active, isKey, answer, parent, question, generation, found,
            isAnswer, behind, isQuestion, isUser, status, recorded, isParent,
            isRetried⟩
          obtain ⟨started, starts⟩ := (startGeneration_recorded recorded).mpr
            ⟨active, isKey, ⟨question, isQuestion, isUser, status⟩, isParent,
              isRetried⟩
          exact refused answer parent found isAnswer behind started starts
      · constructor
        · rintro keeps ⟨-, -, -, -, -, recorded, -, -, -, -, -, -, known, -, -⟩
          have same := (keeps.retried answerId key newGeneration newId
            placeholder recorded rfl replied known).2
          dsimp only at same
          rw [perform, messages] at same
          simp at same
        · intro settles
          refine ⟨fun raised refused => ?_, ?_, ?_⟩
          · rw [perform, replied] at refused
            cases refused
          · rintro _ _ _ _ _ recorded ⟨⟩ _ known
            obtain ⟨active, isKey, ⟨question, isQuestion, isUser, status⟩,
              isParent, isRetried⟩ :=
                (startGeneration_recorded known).mp ⟨_, starts⟩
            exact (settles ⟨active, isKey, answer, parent, question, recorded,
              found, isAnswer, behind, isQuestion, isUser, status, known,
              isParent, isRetried⟩).elim
          · rintro _ _ _ _ ⟨⟩

theorem isKept_created (scope : ConversationScope) : (created scope).IsKept :=
  ⟨List.nodup_nil, List.forall_mem_nil _⟩

/-- In every history of a conversation, all operations do what they should when
they all settle. -/
theorem conversation_keeps_iff {scope : ConversationScope} {final : Conversation}
    {trace : List (Moment Conversation ConversationOperation
      (Except ChatContractError ConversationReply))}
    (run : (conversationMachine canonicalSha256).Run Machine.unguarded
      (created scope) trace final) :
    (∀ moment ∈ trace, Keeps moment) ↔
      ∀ moment ∈ trace,
        moment.before.Settles canonicalSha256 moment.label := by
  apply forall₂_congr
  intro moment member
  obtain ⟨kept, -, made⟩ := run.before_moment IsKept (isKept_created scope)
    (fun _ _ _ _ kept _ made => kept.step made) member
  exact keeps_iff kept made

/-! ## Histories in which something goes wrong -/

def serverScope : ConversationScope := ⟨"KISA-2026", "2026.1", "SERVER"⟩

def answeredQuestion : List ConversationOperation :=
  [.append "hello".toList none none ⟨1⟩ ⟨2⟩,
    .start ⟨2⟩ "question-1".toList none ⟨3⟩,
    .chunk ⟨3⟩ 1 "answer".toList, .complete ⟨3⟩ [] ⟨4⟩]

theorem answered_question_keeps :
    ∃ trace final, (conversationMachine fun _ => "digest").Run
        Machine.unguarded (created serverScope) trace final ∧
      final.chat.messages.map ChatMessage.status = [.completed, .completed] ∧
      ∀ moment ∈ trace, Keeps moment := by
  have carried : ((conversationMachine fun _ => "digest").replay
      Machine.unguarded (created serverScope) answeredQuestion).map
      (fun (trace, final) =>
        (trace.map fun moment => (moment.label, moment.before.placeholders),
          final.chat.messages.map ChatMessage.status)) =
      some (answeredQuestion.map fun label => (label, []),
        [.completed, .completed]) := by
    decide +kernel
  obtain ⟨trace, final, run, seen⟩ := Machine.exists_run_of_replay carried
  obtain ⟨labels, statuses⟩ := Prod.mk.inj seen
  refine ⟨trace, final, run, statuses, (conversation_keeps_iff run).mpr ?_⟩
  intro moment member
  have listed : (moment.label, moment.before.placeholders) ∈
      answeredQuestion.map fun label => (label, []) :=
    labels ▸ List.mem_map_of_mem member
  obtain ⟨label, isLabel, same⟩ := List.mem_map.mp listed
  obtain ⟨rfl, noneYet⟩ := Prod.mk.inj same
  simp only [answeredQuestion, List.mem_cons, List.not_mem_nil,
    or_false] at isLabel
  rcases isLabel with isLabel | isLabel | isLabel | isLabel
  case inr.inr.inr =>
    rw [isLabel]
    intro found _ _ placeholder
    rw [← noneYet]
    exact List.not_mem_nil
  all_goals
    rw [isLabel]
    trivial

/-- An edit with a blank content raises and leaves the message SUPERSEDED; and
a retry that is repeated adds a second placeholder, and both are still PENDING
when the generation is completed. -/
theorem conversations_go_wrong :
    (∃ trace final, (conversationMachine fun _ => "digest").Run
        Machine.unguarded (created serverScope) trace final ∧
      final.chat.messages.map ChatMessage.status = [.superseded] ∧
      ¬∀ moment ∈ trace, Keeps moment) ∧
    ∃ trace final, (conversationMachine fun _ => "digest").Run
        Machine.unguarded (created serverScope) trace final ∧
      final.chat.messages.map ChatMessage.status =
        [.completed, .completed, .pending, .pending, .completed] ∧
      final.chat.generations.map ChatGeneration.status =
        [.completed, .completed] ∧
      ¬∀ moment ∈ trace, Keeps moment := by
  constructor
  case left =>
    have carried : ((conversationMachine fun _ => "digest").replay
        Machine.unguarded (created serverScope)
        [.append "hello".toList none none ⟨1⟩ ⟨2⟩,
          .edit ⟨2⟩ "  ".toList ⟨3⟩ ⟨4⟩]).map (fun (trace, final) =>
            (final.chat.messages.map ChatMessage.status,
              decide (∃ moment ∈ trace, moment.answer.isOk = false ∧
                moment.after ≠ moment.before))) =
        some ([.superseded], true) := by
      decide +kernel
    obtain ⟨trace, final, run, seen⟩ := Machine.exists_run_of_replay carried
    obtain ⟨statuses, changed⟩ := Prod.mk.inj seen
    obtain ⟨moment, member, raised, differs⟩ := of_decide_eq_true changed
    refine ⟨trace, final, run, statuses, fun keeps => differs ?_⟩
    cases answered : moment.answer with
    | error error => exact (keeps moment member).unchanged error answered
    | ok reply =>
        rw [answered] at raised
        cases raised
  case right =>
    have carried : ((conversationMachine fun _ => "digest").replay
        Machine.unguarded (created serverScope) (answeredQuestion ++
          [.retry ⟨4⟩ "question-2".toList ⟨5⟩ ⟨6⟩,
            .retry ⟨4⟩ "question-2".toList ⟨7⟩ ⟨8⟩,
            .chunk ⟨5⟩ 1 "again".toList, .complete ⟨5⟩ [] ⟨9⟩])).map
        (fun (trace, final) =>
          (final.chat.messages.map ChatMessage.status,
            final.chat.generations.map ChatGeneration.status,
            decide (∃ moment ∈ trace,
              moment.label = .complete ⟨5⟩ [] ⟨9⟩ ∧
              moment.answer.isOk = true ∧
              ∃ message ∈ moment.after.chat.messages,
                (⟨5⟩, message.id) ∈ moment.after.placeholders ∧
                  message.status = .pending))) =
        some ([.completed, .completed, .pending, .pending, .completed],
          [.completed, .completed], true) := by
      decide +kernel
    obtain ⟨trace, final, run, seen⟩ := Machine.exists_run_of_replay carried
    obtain ⟨messages, seen⟩ := Prod.mk.inj seen
    obtain ⟨generations, left⟩ := Prod.mk.inj seen
    obtain ⟨moment, member, label, answered, message, isMessage, placed,
      isPending⟩ := of_decide_eq_true left
    refine ⟨trace, final, run, messages, generations, fun keeps => ?_⟩
    cases replied : moment.answer with
    | error error =>
        rw [replied] at answered
        cases answered
    | ok reply =>
        exact (keeps moment member).completed _ _ _ reply label replied message
          isMessage placed isPending

end Conversation

end SecAI.Chat
