/-
Module: SecAI.Chat.Contracts
Purpose: The lifecycle of a conversation as an aggregate: its messages, the
  generations it has started, and the requests it accepts.
Trusted boundary: canonical hashing is a parameter; fresh identifiers come
  with the request
Main exports:
  ChatContractError, ThreadStatus, MessageStatus, GenerationStatus
-/
import SecAI.Common.Table
import SecAI.Common.Values
import SecAI.Package.Json
import SecAI.Text.Characters

namespace SecAI.Chat

open SecAI.Text (strip)

structure ChatContractError where
  code : String
deriving DecidableEq

inductive ThreadStatus where
  | active
  | archived
  | tombstoned
deriving DecidableEq

inductive MessageStatus where
  | pending
  | completed
  | stopped
  | failed
  | superseded
deriving DecidableEq

inductive GenerationStatus where
  | queued
  | streaming
  | completed
  | stopped
  | failed
deriving DecidableEq

def GenerationStatus.isTerminal : GenerationStatus → Bool
  | .queued | .streaming => false
  | .completed | .stopped | .failed => true

/-- The role of a message. -/
inductive ChatRole where
  | user
  | assistant
deriving DecidableEq

def ChatRole.text : ChatRole → String
  | .user => "USER"
  | .assistant => "ASSISTANT"

def maxMessageChars : Nat := 24000

def validatedContent (content : List Char) :
    Except ChatContractError (List Char) :=
  let value := strip content
  if value = [] ∨ maxMessageChars < value.length then
    .error ⟨"CHAT_CONTENT_LENGTH_INVALID"⟩
  else .ok value

def isKeyCharacter (character : Char) : Bool :=
  character.isAlphanum || decide (character ∈ ['.', '_', ':', '-'])

/-- `^[A-Za-z0-9][A-Za-z0-9._:-]{7,127}$`. -/
def isIdempotencyKey : List Char → Bool
  | [] => false
  | first :: rest =>
      first.isAlphanum && decide (7 ≤ rest.length ∧ rest.length ≤ 127) &&
        rest.all isKeyCharacter

def validatedIdempotencyKey (value : List Char) :
    Except ChatContractError (List Char) :=
  if isIdempotencyKey (strip value) then .ok (strip value)
  else .error ⟨"CHAT_IDEMPOTENCY_KEY_INVALID"⟩

def messageDocument (role : ChatRole) (content : List Char) (revision : Nat)
    (parentMessageId : Option Uuid) : Json :=
  .obj [
    ("content", .str (String.ofList content)),
    ("parent_message_id",
      (parentMessageId.map fun parent => Json.str parent.text).getD .null),
    ("revision", .int revision),
    ("role", .str role.text)]

/-- `ChatMessageRecord` of the aggregate; citations belong to answers only. -/
structure ChatMessage where
  id : Uuid
  branchId : Uuid
  role : ChatRole
  content : List Char
  status : MessageStatus
  revision : Nat
  parentMessageId : Option Uuid
  editOfMessageId : Option Uuid := none
  retryOfMessageId : Option Uuid := none
  contentSha256 : String
deriving DecidableEq

structure ChatGeneration where
  id : Uuid
  userMessageId : Uuid
  idempotencyKey : List Char
  branchId : Uuid
  status : GenerationStatus
  responseMessageId : Option Uuid
  retryOfMessageId : Option Uuid
deriving DecidableEq

/-- `ChatConversation`: the status of its thread, its messages and its
generations.  `_generation_keys` is read from the generations, each of which
is entered under its own key. -/
structure ChatConversation where
  status : ThreadStatus
  messages : List ChatMessage
  generations : List ChatGeneration
deriving DecidableEq

section Requests

variable (canonicalSha256 : Json → String)

/-- `ChatMessageRecord.__post_init__`. -/
def ChatMessage.checked (message : ChatMessage) :
    Except ChatContractError ChatMessage := do
  if message.revision = 0 then throw ⟨"CHAT_REVISION_INVALID"⟩
  let content ←
    if message.status ≠ .pending ∨ message.content ≠ [] then
      validatedContent message.content
    else pure message.content
  return { message with
    content := content
    contentSha256 := canonicalSha256 (messageDocument message.role content
      message.revision message.parentMessageId) }

namespace ChatConversation

def requireActive (conversation : ChatConversation) :
    Except ChatContractError Unit :=
  if conversation.status = .active then .ok ()
  else .error ⟨"CHAT_THREAD_NOT_ACTIVE"⟩

def message (conversation : ChatConversation) (messageId : Uuid) :
    Except ChatContractError ChatMessage :=
  match Table.lookup ChatMessage.id messageId conversation.messages with
  | some found => .ok found
  | none => .error ⟨"CHAT_MESSAGE_NOT_FOUND"⟩

/-- `append_user_message`, with the identifiers that `uuid4` returns. -/
def appendUserMessage (conversation : ChatConversation) (content : List Char)
    (parentMessageId branchId : Option Uuid) (newBranch newId : Uuid) :
    Except ChatContractError (ChatMessage × ChatConversation) := do
  conversation.requireActive
  let parent ← parentMessageId.mapM conversation.message
  let value ← validatedContent content
  let message ← ChatMessage.checked canonicalSha256
    { id := newId
      branchId := branchId.getD ((parent.map ChatMessage.branchId).getD newBranch)
      role := .user
      content := value
      status := .completed
      revision := 1
      parentMessageId := parentMessageId
      contentSha256 := "" }
  return (message, { conversation with
    messages := conversation.messages ++ [message] })

def withStatus (messages : List ChatMessage) (messageId : Uuid)
    (status : MessageStatus) : List ChatMessage :=
  Table.updateWhere (fun message => decide (message.id = messageId))
    (fun message => { message with status := status }) messages

/-- `edit_user_message`, of an edit that is accepted.  One that is refused for
its content leaves the original superseded. -/
def editUserMessage (conversation : ChatConversation) (messageId : Uuid)
    (content : List Char) (newBranch newId : Uuid) :
    Except ChatContractError (ChatMessage × ChatConversation) := do
  conversation.requireActive
  let original ← conversation.message messageId
  if original.role ≠ .user ∨ original.status = .superseded then
    throw ⟨"CHAT_EDIT_NOT_ALLOWED"⟩
  let value ← validatedContent content
  let edited ← ChatMessage.checked canonicalSha256
    { id := newId
      branchId := newBranch
      role := .user
      content := value
      status := .completed
      revision := original.revision + 1
      parentMessageId := original.parentMessageId
      editOfMessageId := some original.id
      contentSha256 := "" }
  return (edited, { conversation with
    messages := withStatus conversation.messages messageId .superseded ++
      [edited] })

def startGeneration (conversation : ChatConversation) (userMessageId : Uuid)
    (idempotencyKey : List Char) (retryOfMessageId : Option Uuid)
    (newId : Uuid) :
    Except ChatContractError (ChatGeneration × ChatConversation) := do
  conversation.requireActive
  let question ← conversation.message userMessageId
  if question.role ≠ .user ∨ ¬(question.status = .completed ∨
      retryOfMessageId.isSome = true ∧ question.status = .superseded) then
    throw ⟨"CHAT_GENERATION_INPUT_INVALID"⟩
  let key ← validatedIdempotencyKey idempotencyKey
  match Table.lookup ChatGeneration.idempotencyKey key
      conversation.generations with
  | some existing =>
      if existing.userMessageId ≠ userMessageId ∨
          existing.retryOfMessageId ≠ retryOfMessageId then
        throw ⟨"CHAT_IDEMPOTENCY_CONFLICT"⟩
      return (existing, conversation)
  | none =>
      let generation : ChatGeneration :=
        { id := newId
          userMessageId := userMessageId
          idempotencyKey := key
          branchId := question.branchId
          status := .queued
          responseMessageId := none
          retryOfMessageId := retryOfMessageId }
      return (generation, { conversation with
        generations := conversation.generations ++ [generation] })

/-- `retry_answer`: a generation, and a placeholder for its answer. -/
def retryAnswer (conversation : ChatConversation) (assistantMessageId : Uuid)
    (idempotencyKey : List Char) (newGeneration newId : Uuid) :
    Except ChatContractError (ChatMessage × ChatConversation) := do
  let answer ← conversation.message assistantMessageId
  match answer.role, answer.parentMessageId with
  | .assistant, some parentMessageId =>
      let (generation, started) ← conversation.startGeneration
        parentMessageId idempotencyKey (some answer.id) newGeneration
      let placeholder ← ChatMessage.checked canonicalSha256
        { id := newId
          branchId := generation.branchId
          role := .assistant
          content := []
          status := .pending
          revision := answer.revision + 1
          parentMessageId := some parentMessageId
          retryOfMessageId := some answer.id
          contentSha256 := "" }
      return (placeholder, { started with
        messages := started.messages ++ [placeholder]
        generations := Table.updateWhere
          (fun other => decide (other.id = generation.id))
          (fun other => { other with responseMessageId := some newId })
          started.generations })
  | _, _ => throw ⟨"CHAT_RETRY_NOT_ALLOWED"⟩

end ChatConversation

end Requests

theorem validatedContent_eq_ok {content value : List Char} :
    validatedContent content = .ok value ↔
      value = strip content ∧ value ≠ [] ∧ value.length ≤ maxMessageChars := by
  rw [validatedContent]
  constructor
  · intro checked
    split at checked
    · cases checked
    rename_i passed
    cases checked
    rw [not_or] at passed
    exact ⟨rfl, passed.1, Nat.le_of_not_lt passed.2⟩
  · rintro ⟨rfl, filled, short⟩
    rw [if_neg]
    rintro (empty | long)
    · exact filled empty
    · exact Nat.not_lt_of_le short long

theorem validatedContent_checked {content value : List Char}
    (checked : validatedContent content = .ok value) :
    validatedContent value = .ok value := by
  obtain ⟨rfl, filled, short⟩ := validatedContent_eq_ok.mp checked
  exact validatedContent_eq_ok.mpr ⟨(SecAI.Text.strip_strip _).symm, filled, short⟩

theorem isKeyCharacter_not_space {character : Char}
    (allowed : isKeyCharacter character = true) :
    SecAI.Text.isSpace character = false := by
  have range : (48 ≤ character.toNat ∧ character.toNat ≤ 57) ∨
      (65 ≤ character.toNat ∧ character.toNat ≤ 90) ∨
      (97 ≤ character.toNat ∧ character.toNat ≤ 122) ∨
      character ∈ ['.', '_', ':', '-'] := by
    rw [isKeyCharacter, Bool.or_eq_true, decide_eq_true_eq] at allowed
    rcases allowed with letter | mark
    · delta Char.isAlphanum Char.isAlpha Char.isUpper Char.isLower
        Char.isDigit at letter
      simp only [Bool.or_eq_true, Bool.and_eq_true, decide_eq_true_eq,
        UInt32.le_iff_toNat_le] at letter
      rcases letter with (upper | lower) | digit
      · exact .inr (.inl upper)
      · exact .inr (.inr (.inl lower))
      · exact .inl digit
    · exact .inr (.inr (.inr mark))
  rcases range with digit | upper | lower | mark
  all_goals
    simp only [SecAI.Text.isSpace, Bool.or_eq_false_iff,
      decide_eq_false_iff_not, List.mem_cons, List.not_mem_nil, or_false]
  · omega
  · omega
  · omega
  · simp only [List.mem_cons, List.not_mem_nil, or_false] at mark
    rcases mark with rfl | rfl | rfl | rfl <;> decide

theorem strip_idempotencyKey {key : List Char}
    (accepted : isIdempotencyKey key = true) : strip key = key := by
  have blanks : ∀ character ∈ key, SecAI.Text.isSpace character = false := by
    intro character member
    cases key with
    | nil => cases member
    | cons first rest =>
        rw [isIdempotencyKey, Bool.and_eq_true, Bool.and_eq_true,
          List.all_eq_true] at accepted
        rcases List.mem_cons.mp member with rfl | later
        · exact isKeyCharacter_not_space (by
            rw [isKeyCharacter, accepted.1.1, Bool.true_or])
        · exact isKeyCharacter_not_space (accepted.2 character later)
  exact SecAI.Text.strip_eq_self (fun filled => blanks _ (List.head_mem filled))
    fun filled => blanks _ (List.getLast_mem filled)

theorem validatedIdempotencyKey_of_accepted {key : List Char}
    (accepted : isIdempotencyKey key = true) :
    validatedIdempotencyKey key = .ok key := by
  rw [validatedIdempotencyKey, strip_idempotencyKey accepted, if_pos accepted]

end SecAI.Chat
