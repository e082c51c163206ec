/-
Module: SecAI.Chat.Calls
Purpose: The repository functions of the chat as one machine, and what each of
  its calls can do to the rows.
Trusted boundary: none
Main exports:
  ChatLabel, ChatAnswer, chatMachine, CallStep
-/
import SecAI.Chat.Repository
import SecAI.Common.Outcome
import SecAI.Interleaving.Machine

namespace SecAI.Chat

open Interleaving
open Outcome (bind_eq_ok refused_or Refused)

/-! ## The machine -/

/-- A call of a repository function. -/
inductive ChatLabel where
  | create (owner : Owner) (newId : Uuid) (title : List Char)
      (guide : GuideScope) (profile : ModelProfile)
      (branchFromThreadId branchFromMessageId : Option Uuid) (now : DateTime)
  | archive (threadId : Uuid) (owner : Owner) (archived : Bool)
      (now : DateTime)
  | tombstone (threadId : Uuid) (owner : Owner) (now : DateTime)
  | undoTombstone (threadId : Uuid) (owner : Owner) (now : DateTime)
  | append (request : AppendRequest)
  | edit (request : EditRequest)
  | start (request : StartRequest)
  | stop (generationId : Uuid) (owner : Owner) (now : DateTime)
  | mark (generationId : Uuid) (owner : Owner) (now : DateTime)
  | fail (generationId : Uuid) (owner : Owner) (errorCode : List Char)
      (now : DateTime)
  | complete (request : CompleteRequest)

/-- What a call returns or raises. -/
inductive ChatAnswer where
  | refused (fault : ChatFault)
  | thread
  | message (row : MessageRow)
  | generation (row : GenerationRow)
deriving DecidableEq

/-- A transaction commits what its function returns, or rolls back. -/
def committed {α : Type} (before : ChatTables) (answer : α → ChatAnswer) :
    Except ChatFault (α × ChatTables) → ChatAnswer × ChatTables
  | .ok (row, after) => (answer row, after)
  | .error fault => (.refused fault, before)

def managed (before : ChatTables) :
    Except ChatFault ChatTables → ChatAnswer × ChatTables
  | .ok after => (.thread, after)
  | .error fault => (.refused fault, before)

def chatMachine (env : ChatEnvironment) :
    Machine ChatTables ChatLabel ChatAnswer where
  step tables
    | .create owner newId title guide profile fromThread fromMessage now =>
        some (committed tables (fun _ => .thread)
          (createChatThread tables owner newId title guide profile fromThread
            fromMessage now))
    | .archive threadId owner archived now =>
        some (managed tables
          (setChatThreadArchived tables threadId owner archived now))
    | .tombstone threadId owner now =>
        some (managed tables (tombstoneChatThread tables threadId owner now))
    | .undoTombstone threadId owner now =>
        some (managed tables
          (undoTombstoneChatThread tables threadId owner now))
    | .append request =>
        some (committed tables .message (appendUserMessage env tables request))
    | .edit request =>
        some (committed tables .message (editUserMessage env tables request))
    | .start request =>
        some (committed tables .generation (startChatGeneration tables request))
    | .stop generationId owner now =>
        some (committed tables .generation
          (stopChatGeneration tables generationId owner now))
    | .mark generationId owner now =>
        some (committed tables .generation
          (markChatGenerationStreaming tables generationId owner now))
    | .fail generationId owner errorCode now =>
        some (committed tables .generation
          (failChatGeneration tables generationId owner errorCode now))
    | .complete request =>
        some (committed tables .message
          (completeChatGeneration env tables request))

/-! ## Found rows -/

variable {tables : ChatTables} {owner : Owner} {generationId : Uuid}

theorem generationRow_eq_ok {row : GenerationRow} :
    generationRow tables owner generationId = .ok row ↔
      Table.lookup GenerationRow.id generationId tables.generations = some row ∧
        row.owner = owner := by
  rw [generationRow]
  cases Table.lookup GenerationRow.id generationId tables.generations with
  | none => simp
  | some found =>
      by_cases same : found.owner = owner
      · simp only [same, if_true, Except.ok.injEq, Option.some.injEq]
        constructor
        · rintro rfl
          exact ⟨rfl, same⟩
        · exact fun known => known.1
      · simp only [same, if_false, reduceCtorEq, Option.some.injEq, false_iff]
        rintro ⟨rfl, other⟩
        exact same other

variable {row : MessageRow} {threadId : Uuid}

theorem messageRow_eq_ok {messageId : Uuid} :
    messageRow tables owner threadId messageId = .ok row ↔
      Table.lookup MessageRow.id messageId tables.messages = some row ∧
        row.threadId = threadId ∧ row.owner = owner := by
  rw [messageRow]
  cases Table.lookup MessageRow.id messageId tables.messages with
  | none => simp
  | some found =>
      by_cases same : found.threadId = threadId ∧ found.owner = owner
      · simp only [same, and_self, if_true, Except.ok.injEq, Option.some.injEq]
        constructor
        · rintro rfl
          exact ⟨rfl, same⟩
        · exact fun known => known.1
      · simp only [if_neg same, reduceCtorEq, Option.some.injEq, false_iff]
        rintro ⟨rfl, other⟩
        exact same other

/-! ## Written rows -/

/-- What an insertion into `chat_messages` needs. -/
structure Insertable (tables : ChatTables) (row : MessageRow) : Prop where
  fresh : ∀ other ∈ tables.messages, other.id ≠ row.id
  keyed : ∀ key ∈ row.requestIdempotencyKey, isIdempotencyKey key = true

theorem insertMessage_eq_ok {after : ChatTables}
    (inserted : insertMessage tables row = .ok after) :
    Insertable tables row ∧
      after = { tables with messages := tables.messages ++ [row] } := by
  rw [insertMessage] at inserted
  split at inserted
  · cases inserted
  rename_i allowed
  cases inserted
  rw [not_or] at allowed
  refine ⟨⟨fun other member same => allowed.1 ⟨other, member, same⟩, ?_⟩, rfl⟩
  intro key isKey
  by_contra invalid
  exact allowed.2 ⟨key, isKey, .inl (eq_false_of_ne_true invalid)⟩

theorem Insertable.of_updateWhere {condition : MessageRow → Bool}
    {change : MessageRow → MessageRow} (insertable : Insertable { tables with
      messages := Table.updateWhere condition change tables.messages } row)
    (keeps : ∀ other, (change other).id = other.id) :
    Insertable tables row := by
  refine ⟨fun other member same => ?_, insertable.keyed⟩
  have kept : other.id ∈ (Table.updateWhere condition change
      tables.messages).map MessageRow.id := by
    rw [Table.map_updateWhere keeps]
    exact List.mem_map_of_mem member
  obtain ⟨changed, changedMember, sameId⟩ := List.mem_map.mp kept
  exact insertable.fresh changed changedMember (sameId.trans same)

theorem normalizedContent_eq_ok {content normalized : List Char} :
    normalizedContent content = .ok normalized ↔
      validatedContent content = .ok normalized := by
  rw [validatedContent_eq_ok, normalizedContent]
  constructor
  · intro checked
    split at checked
    · cases checked
    rename_i passed
    cases checked
    rw [not_or] at passed
    exact ⟨rfl, passed.1, Nat.le_of_not_lt passed.2⟩
  · rintro ⟨rfl, filled, short⟩
    rw [if_neg]
    rintro (empty | long)
    · exact filled empty
    · exact Nat.not_lt_of_le short long

/-- The row that `append_user_message` writes. -/
def appendedRow (env : ChatEnvironment) (request : AppendRequest)
    (content : List Char) (parent : Option MessageRow) : MessageRow :=
  { id := request.newId
    threadId := request.threadId
    owner := request.owner
    branchId := request.branchId.getD
      ((parent.map MessageRow.branchId).getD request.newBranch)
    role := .user
    status := .completed
    revision := 1
    parentMessageId := request.parentMessageId
    editOfMessageId := none
    retryOfMessageId := none
    requestIdempotencyKey := some request.idempotencyKey
    content := content
    contentSha256 := messageHash env .user content 1 request.parentMessageId }

/-- The row that `edit_user_message` writes. -/
def editedRow (env : ChatEnvironment) (request : EditRequest)
    (content : List Char) (original : MessageRow) : MessageRow :=
  { id := request.newId
    threadId := request.threadId
    owner := request.owner
    branchId := request.newBranch
    role := .user
    status := .completed
    revision := original.revision + 1
    parentMessageId := original.parentMessageId
    editOfMessageId := some original.id
    retryOfMessageId := none
    requestIdempotencyKey := some request.idempotencyKey
    content := content
    contentSha256 := messageHash env .user content (original.revision + 1)
      original.parentMessageId }

/-- The row that `start_chat_generation` writes. -/
def startedRow (request : StartRequest) (thread : ThreadRow) : GenerationRow :=
  { id := request.newId
    threadId := request.threadId
    owner := request.owner
    userMessageId := request.userMessageId
    responseMessageId := none
    retryOfMessageId := request.retryOfMessageId
    idempotencyKey := request.idempotencyKey
    status := .queued
    errorCode := none
    modelProfile := thread.profile
    trace := none
    startedAt := none
    stopRequestedAt := none
    completedAt := none }

/-! ## The steps -/

/-- A generation that a call has moved on: it was open, and keeps what names
it. -/
structure Advance (old new : GenerationRow) : Prop where
  id : new.id = old.id
  threadId : new.threadId = old.threadId
  owner : new.owner = old.owner
  userMessageId : new.userMessageId = old.userMessageId
  retryOfMessageId : new.retryOfMessageId = old.retryOfMessageId
  idempotencyKey : new.idempotencyKey = old.idempotencyKey
  wasOpen : old.status.isTerminal = false

/-- Everything that a call can do to the rows. -/
inductive CallStep (env : ChatEnvironment) (before : ChatTables) :
    ChatLabel → ChatAnswer → ChatTables → Prop where
  | refused (label : ChatLabel) (fault : ChatFault) :
      CallStep env before label (.refused fault) before
  /-- Only the threads change. -/
  | managed {label : ChatLabel}
      (notCompletion : ∀ request, label ≠ .complete request)
      (threads : List ThreadRow) :
      CallStep env before label .thread { before with threads := threads }
  | found {label : ChatLabel} {row : MessageRow}
      (notCompletion : ∀ request, label ≠ .complete request)
      (member : row ∈ before.messages) :
      CallStep env before label (.message row) before
  | appended (request : AppendRequest) {row : MessageRow}
      {thread : ThreadRow} {content : List Char} {parent : Option MessageRow}
      (isThread : threadRow before request.threadId request.owner = .ok thread)
      (active : thread.status = .active)
      (isContent : normalizedContent request.content = .ok content)
      (isParent : request.parentMessageId.mapM
        (messageRow before request.owner request.threadId) = .ok parent)
      (isRow : row = appendedRow env request content parent)
      (insertable : Insertable before row) :
      CallStep env before (.append request) (.message row)
        { before.withThread thread.id (fun other =>
            { other with updatedAt := request.now }) with
          messages := before.messages ++ [row] }
  | edited (request : EditRequest) {row original : MessageRow}
      {thread : ThreadRow} {content : List Char}
      (isThread : threadRow before request.threadId request.owner = .ok thread)
      (isOriginal : messageRow before request.owner request.threadId
        request.messageId = .ok original)
      (originalRole : original.role = .user)
      (originalStatus : original.status = .completed)
      (isContent : normalizedContent request.content = .ok content)
      (isRow : row = editedRow env request content original)
      (insertable : Insertable before row) :
      CallStep env before (.edit request) (.message row)
        { before with
          messages := Table.updateWhere
            (fun other => decide (other.id = original.id))
            (fun other => { other with status := .superseded })
            before.messages ++ [row] }
  | startedBefore (request : StartRequest) {row : GenerationRow}
      (member : row ∈ before.generations)
      (threadId : row.threadId = request.threadId)
      (key : row.idempotencyKey = request.idempotencyKey) :
      CallStep env before (.start request) (.generation row) before
  | started (request : StartRequest) {row : GenerationRow}
      {thread : ThreadRow} {question : MessageRow}
      (isThread : threadRow before request.threadId request.owner = .ok thread)
      (isQuestion : messageRow before request.owner request.threadId
        request.userMessageId = .ok question)
      (questionRole : question.role = .user)
      (questionStatus : question.status = .completed ∨
        request.retryOfMessageId.isSome = true ∧
          question.status = .superseded)
      (retried : ∀ retryOf ∈ request.retryOfMessageId, ∃ answer,
        messageRow before request.owner request.threadId retryOf = .ok answer ∧
          answer.role = .assistant ∧
          answer.parentMessageId = some request.userMessageId)
      (isRow : row = startedRow request thread)
      (keyed : isIdempotencyKey request.idempotencyKey = true)
      (freshId : ∀ other ∈ before.generations, other.id ≠ request.newId)
      (freshKey : ∀ other ∈ before.generations,
        ¬(other.threadId = request.threadId ∧
          other.idempotencyKey = request.idempotencyKey)) :
      CallStep env before (.start request) (.generation row)
        { before with generations := before.generations ++ [row] }
  | stoppedBefore (owner : Owner) (now : DateTime) {row : GenerationRow}
      (found : Table.lookup GenerationRow.id row.id before.generations =
        some row) (stopped : row.status = .stopped) :
      CallStep env before (.stop row.id owner now) (.generation row) before
  | stopped (owner : Owner) (now : DateTime) {old new : GenerationRow}
      (found : Table.lookup GenerationRow.id old.id before.generations =
        some old) (advance : Advance old new) (status : new.status = .stopped)
      (unanswered : new.responseMessageId = old.responseMessageId) :
      CallStep env before (.stop old.id owner now) (.generation new)
        (before.withGeneration old.id fun _ => new)
  | kept {label : ChatLabel} {row : GenerationRow}
      (notCompletion : ∀ request, label ≠ .complete request)
      (notStop : ∀ id owner now, label ≠ .stop id owner now)
      (notStart : ∀ request, label ≠ .start request) :
      CallStep env before label (.generation row) before
  | moved {label : ChatLabel} {old new : GenerationRow}
      (notCompletion : ∀ request, label ≠ .complete request)
      (notStop : ∀ id owner now, label ≠ .stop id owner now)
      (notStart : ∀ request, label ≠ .start request)
      (found : Table.lookup GenerationRow.id old.id before.generations =
        some old) (advance : Advance old new)
      (open_ : new.status ≠ .completed)
      (unanswered : new.responseMessageId = old.responseMessageId) :
      CallStep env before label (.generation new)
        (before.withGeneration old.id fun _ => new)
  | completedBefore (request : CompleteRequest) {generation : GenerationRow}
      {row : MessageRow}
      (found : Table.lookup GenerationRow.id request.generationId
        before.generations = some generation)
      (completed : generation.status = .completed)
      (response : generation.responseMessageId = some row.id)
      (member : row ∈ before.messages) :
      CallStep env before (.complete request) (.message row) before
  | completed (request : CompleteRequest) {old new : GenerationRow}
      {row : MessageRow} {citations : List CitationRow}
      (requested : old.id = request.generationId)
      (found : Table.lookup GenerationRow.id old.id before.generations =
        some old) (advance : Advance old new)
      (status : new.status = .completed)
      (response : new.responseMessageId = some row.id)
      (insertable : Insertable before row) (role : row.role = .assistant)
      (threadId : row.threadId = old.threadId) (owner : row.owner = old.owner)
      (parent : row.parentMessageId = some old.userMessageId)
      (retry : row.retryOfMessageId = old.retryOfMessageId) :
      CallStep env before (.complete request) (.message row)
        { before.withGeneration old.id (fun _ => new) with
          messages := before.messages ++ [row]
          citations := citations }

/-! ## What each function does -/

section Functions

variable {env : ChatEnvironment} {before after : ChatTables}

theorem requestedMessage_mem {key : List Char}
    (found : requestedMessage before owner threadId key = some row) :
    row ∈ before.messages :=
  List.mem_of_find?_eq_some found

theorem append_call_step {request : AppendRequest}
    (done : appendUserMessage env before request = .ok (row, after)) :
    CallStep env before (.append request) (.message row) after := by
  rw [appendUserMessage] at done
  obtain ⟨thread, isThread, done⟩ := bind_eq_ok.mp done
  obtain ⟨active, done⟩ := refused_or (Refused.error _) done
  obtain ⟨content, isContent, done⟩ := bind_eq_ok.mp done
  cases known : requestedMessage before request.owner request.threadId
      request.idempotencyKey with
  | some existing =>
      rw [known] at done
      obtain ⟨_, done⟩ := refused_or (Refused.error _) done
      cases done
      exact .found nofun (requestedMessage_mem known)
  | none =>
      rw [known] at done
      obtain ⟨parent, isParent, done⟩ := bind_eq_ok.mp done
      obtain ⟨written, inserted, done⟩ := bind_eq_ok.mp done
      obtain ⟨insertable, rfl⟩ := insertMessage_eq_ok inserted
      cases done
      exact .appended request isThread (not_not.mp active) isContent isParent
        rfl insertable

theorem edit_call_step {request : EditRequest}
    (done : editUserMessage env before request = .ok (row, after)) :
    CallStep env before (.edit request) (.message row) after := by
  rw [editUserMessage] at done
  obtain ⟨thread, isThread, done⟩ := bind_eq_ok.mp done
  cases known : requestedMessage before request.owner request.threadId
      request.idempotencyKey with
  | some existing =>
      rw [known] at done
      cases done
      exact .found nofun (requestedMessage_mem known)
  | none =>
      rw [known] at done
      obtain ⟨original, isOriginal, done⟩ := bind_eq_ok.mp done
      obtain ⟨allowed, done⟩ := refused_or (Refused.error _) done
      rw [not_or, not_not, not_not] at allowed
      obtain ⟨content, isContent, done⟩ := bind_eq_ok.mp done
      obtain ⟨written, inserted, done⟩ := bind_eq_ok.mp done
      obtain ⟨insertable, rfl⟩ := insertMessage_eq_ok inserted
      cases done
      exact .edited request isThread isOriginal allowed.1 allowed.2 isContent
        rfl (insertable.of_updateWhere fun _ => rfl)

/-- What an insertion into `chat_generation_runs` leaves behind. -/
theorem insertGeneration_eq_ok {row : GenerationRow}
    (inserted : insertGeneration before row = .ok after) :
    isIdempotencyKey row.idempotencyKey = true ∧
      ((∃ known, requestedGeneration before row.threadId row.idempotencyKey =
          some known ∧ after = before) ∨
        requestedGeneration before row.threadId row.idempotencyKey = none ∧
          (∀ other ∈ before.generations, other.id ≠ row.id) ∧
          after = { before with generations := before.generations ++ [row] }) := by
  rw [insertGeneration] at inserted
  split at inserted
  · cases inserted
  rename_i valid
  refine ⟨eq_true_of_ne_false valid, ?_⟩
  cases known : requestedGeneration before row.threadId
      row.idempotencyKey with
  | some found =>
      rw [known] at inserted
      cases inserted
      exact .inl ⟨found, rfl, rfl⟩
  | none =>
      rw [known] at inserted
      dsimp only at inserted
      split at inserted
      · cases inserted
      rename_i fresh
      cases inserted
      exact .inr ⟨rfl, fun other member same =>
        fresh ⟨other, member, same⟩, rfl⟩

theorem start_call_step {request : StartRequest} {row : GenerationRow}
    (done : startChatGeneration before request = .ok (row, after)) :
    CallStep env before (.start request) (.generation row) after := by
  rw [startChatGeneration] at done
  obtain ⟨thread, isThread, done⟩ := bind_eq_ok.mp done
  obtain ⟨question, isQuestion, done⟩ := bind_eq_ok.mp done
  obtain ⟨_, retryChecked, done⟩ := bind_eq_ok.mp done
  obtain ⟨allowed, done⟩ := refused_or (Refused.error _) done
  rw [not_or, not_not, not_not] at allowed
  obtain ⟨written, inserted, looked⟩ := bind_eq_ok.mp done
  clear done
  have retried : ∀ retryOf ∈ request.retryOfMessageId, ∃ answer,
      messageRow before request.owner request.threadId retryOf = .ok answer ∧
        answer.role = .assistant ∧
        answer.parentMessageId = some request.userMessageId := by
    intro retryOf isRetry
    rw [checkRetry, Option.mem_def.mp isRetry] at retryChecked
    obtain ⟨answer, isAnswer, checked⟩ := bind_eq_ok.mp retryChecked
    obtain ⟨passed, _⟩ := refused_or (Refused.error _) checked
    rw [not_or, not_not, not_not] at passed
    exact ⟨answer, isAnswer, passed.1, passed.2⟩
  obtain ⟨keyed, ⟨known, isKnown, rfl⟩ | ⟨absent, freshId, rfl⟩⟩ :=
    insertGeneration_eq_ok inserted
  · dsimp only at isKnown
    rw [isKnown] at looked
    obtain ⟨_, matched⟩ := refused_or (Refused.error _) looked
    obtain ⟨_, answered⟩ := refused_or (Refused.error _) matched
    cases answered
    have named := List.find?_some isKnown
    rw [decide_eq_true_eq] at named
    exact .startedBefore request (List.mem_of_find?_eq_some isKnown) named.1
      named.2
  · dsimp only at absent keyed freshId looked
    have freshKey : ∀ other ∈ before.generations,
        ¬(other.threadId = request.threadId ∧
          other.idempotencyKey = request.idempotencyKey) := by
      intro other member same
      have missed := List.find?_eq_none.mp absent other member
      rw [decide_eq_true_eq] at missed
      exact missed same
    have found : requestedGeneration
        { before with
          generations := before.generations ++ [startedRow request thread] }
        request.threadId request.idempotencyKey =
          some (startedRow request thread) := by
      rw [requestedGeneration, List.find?_append,
        show before.generations.find? _ = none from absent]
      simp [startedRow]
    rw [startedRow] at found
    rw [found] at looked
    obtain ⟨_, matched⟩ := refused_or (Refused.error _) looked
    obtain ⟨_, answered⟩ := refused_or (Refused.error _) matched
    cases answered
    exact .started request isThread isQuestion allowed.1 allowed.2 retried rfl
      keyed freshId freshKey

end Functions

section Generations

variable {env : ChatEnvironment} {before after : ChatTables}

variable {now : DateTime}

theorem stop_call_step {row : GenerationRow}
    (done : stopChatGeneration before generationId owner now =
      .ok (row, after)) :
    CallStep env before (.stop generationId owner now) (.generation row)
      after := by
  rw [stopChatGeneration] at done
  obtain ⟨generation, isGeneration, answered⟩ := bind_eq_ok.mp done
  obtain ⟨found, _⟩ := generationRow_eq_ok.mp isGeneration
  obtain rfl : generation.id = generationId := Table.lookup_key found
  cases status : generation.status with
  | queued | streaming =>
      simp only [status] at answered
      cases answered
      exact .stopped owner now found
        ⟨rfl, rfl, rfl, rfl, rfl, rfl, by rw [status]; rfl⟩ rfl rfl
  | stopped =>
      simp only [status] at answered
      cases answered
      exact .stoppedBefore owner now found status
  | completed | failed =>
      simp only [status] at answered
      cases answered

theorem mark_call_step {row : GenerationRow}
    (done : markChatGenerationStreaming before generationId owner now =
      .ok (row, after)) :
    CallStep env before (.mark generationId owner now) (.generation row)
      after := by
  rw [markChatGenerationStreaming] at done
  obtain ⟨generation, isGeneration, answered⟩ := bind_eq_ok.mp done
  obtain ⟨found, _⟩ := generationRow_eq_ok.mp isGeneration
  obtain rfl : generation.id = generationId := Table.lookup_key found
  cases status : generation.status with
  | queued =>
      simp only [status] at answered
      cases answered
      exact .moved nofun nofun nofun found
        ⟨rfl, rfl, rfl, rfl, rfl, rfl, by rw [status]; rfl⟩ nofun rfl
  | streaming | completed =>
      simp only [status] at answered
      cases answered
      exact .kept nofun nofun nofun
  | stopped | failed =>
      simp only [status] at answered
      cases answered

theorem fail_call_step {errorCode : List Char} {row : GenerationRow}
    (done : failChatGeneration before generationId owner errorCode now =
      .ok (row, after)) :
    CallStep env before (.fail generationId owner errorCode now)
      (.generation row) after := by
  rw [failChatGeneration] at done
  obtain ⟨_, coded⟩ := refused_or (Refused.error _) done
  obtain ⟨generation, isGeneration, answered⟩ := bind_eq_ok.mp coded
  obtain ⟨found, _⟩ := generationRow_eq_ok.mp isGeneration
  obtain rfl : generation.id = generationId := Table.lookup_key found
  cases status : generation.status with
  | queued | streaming =>
      simp only [status] at answered
      cases answered
      exact .moved nofun nofun nofun found
        ⟨rfl, rfl, rfl, rfl, rfl, rfl, by rw [status]; rfl⟩ nofun rfl
  | failed =>
      simp only [status] at answered
      cases answered
      exact .kept nofun nofun nofun
  | completed | stopped =>
      simp only [status] at answered
      cases answered

/-- A generation that was still open is completed. -/
theorem open_complete_call_step {request : CompleteRequest}
    {generation : GenerationRow}
    (isGeneration : generationRow before request.owner request.generationId =
      .ok generation) (wasOpen : generation.status.isTerminal = false)
    (done : completeChatGeneration env before request = .ok (row, after)) :
    CallStep env before (.complete request) (.message row) after := by
  obtain ⟨found, inScope⟩ := generationRow_eq_ok.mp isGeneration
  have requested : generation.id = request.generationId :=
    Table.lookup_key found
  rw [completeChatGeneration, isGeneration, Outcome.ok_bind] at done
  cases status : generation.status with
  | completed | stopped | failed =>
      rw [status] at wasOpen
      cases wasOpen
  | queued | streaming =>
      simp only [status] at done
      obtain ⟨thread, _, done⟩ := bind_eq_ok.mp done
      obtain ⟨content, isContent, done⟩ := bind_eq_ok.mp done
      obtain ⟨_, done⟩ := refused_or (Refused.error _) done
      obtain ⟨indexed, _, done⟩ := bind_eq_ok.mp done
      obtain ⟨question, isQuestion, done⟩ := bind_eq_ok.mp done
      obtain ⟨written, inserted, done⟩ := bind_eq_ok.mp done
      obtain ⟨insertable, rfl⟩ := insertMessage_eq_ok inserted
      have asked : question.id = generation.userMessageId :=
        Table.lookup_key (messageRow_eq_ok.mp isQuestion).1
      cases done
      rw [← requested] at found
      exact .completed request requested found
        ⟨rfl, rfl, rfl, rfl, rfl, rfl, wasOpen⟩ rfl rfl insertable rfl rfl
        inScope.symm (congrArg some asked) rfl

theorem complete_call_step {request : CompleteRequest}
    (done : completeChatGeneration env before request = .ok (row, after)) :
    CallStep env before (.complete request) (.message row) after := by
  obtain ⟨generation, isGeneration, answered⟩ := bind_eq_ok.mp done
  cases status : generation.status with
  | queued | streaming =>
      exact open_complete_call_step isGeneration (by rw [status]; rfl) done
  | stopped | failed =>
      simp only [status] at answered
      cases answered
  | completed =>
      simp only [status] at answered
      cases response : generation.responseMessageId with
      | none =>
          simp only [response] at answered
          cases answered
      | some responseId =>
          simp only [response] at answered
          obtain ⟨message, isMessage, same⟩ := bind_eq_ok.mp answered
          cases same
          obtain ⟨known, _⟩ := messageRow_eq_ok.mp isMessage
          obtain rfl : row.id = responseId := Table.lookup_key known
          exact .completedBefore request (generationRow_eq_ok.mp isGeneration).1
            status response (Table.lookup_mem known)

end Generations

/-! ## What a call does -/

section Steps

variable {env : ChatEnvironment} {before after : ChatTables}
variable {answer : ChatAnswer}

variable {label : ChatLabel}

theorem managed_call_step {outcome : Except ChatFault ChatTables}
    (made : managed before outcome = (answer, after))
    (threadsOnly : ∀ tables, outcome = .ok tables →
      ∃ threads, tables = { before with threads := threads })
    (notCompletion : ∀ request, label ≠ .complete request) :
    CallStep env before label answer after := by
  cases outcome with
  | error fault =>
      cases made
      exact .refused label fault
  | ok tables =>
      cases made
      obtain ⟨threads, rfl⟩ := threadsOnly _ rfl
      exact .managed notCompletion threads

theorem committed_call_step {α : Type}
    {outcome : Except ChatFault (α × ChatTables)} {answered : α → ChatAnswer}
    (made : committed before answered outcome = (answer, after))
    (done : ∀ row tables, outcome = .ok (row, tables) →
      CallStep env before label (answered row) tables) :
    CallStep env before label answer after := by
  cases outcome with
  | error fault =>
      cases made
      exact .refused label fault
  | ok result =>
      cases made
      exact done _ _ rfl

theorem createChatThread_threads {newId : Uuid} {title : List Char}
    {guide : GuideScope} {profile : ModelProfile}
    {fromThread fromMessage : Option Uuid} {now : DateTime} {row : ThreadRow}
    (done : createChatThread before owner newId title guide profile fromThread
      fromMessage now = .ok (row, after)) :
    after = { before with threads := before.threads ++ [row] } := by
  rw [createChatThread] at done
  obtain ⟨normalized, _, done⟩ := bind_eq_ok.mp done
  obtain ⟨_, _, done⟩ := bind_eq_ok.mp done
  obtain ⟨_, done⟩ := refused_or (Refused.error _) done
  cases done
  rfl

theorem setChatThreadArchived_threads {archived : Bool} {now : DateTime}
    (done : setChatThreadArchived before threadId owner archived now =
      .ok after) : ∃ threads, after = { before with threads := threads } := by
  obtain ⟨thread, _, changed⟩ := bind_eq_ok.mp done
  cases changed
  exact ⟨_, rfl⟩

theorem tombstoneChatThread_threads {now : DateTime}
    (done : tombstoneChatThread before threadId owner now = .ok after) :
    ∃ threads, after = { before with threads := threads } := by
  obtain ⟨thread, _, changed⟩ := bind_eq_ok.mp done
  cases changed
  exact ⟨_, rfl⟩

theorem undoTombstoneChatThread_threads {now : DateTime}
    (done : undoTombstoneChatThread before threadId owner now = .ok after) :
    ∃ threads, after = { before with threads := threads } := by
  obtain ⟨thread, _, undone⟩ := bind_eq_ok.mp done
  split at undone
  · obtain ⟨_, undone⟩ := refused_or (Refused.error _) undone
    obtain ⟨_, changed⟩ := refused_or (Refused.error _) undone
    cases changed
    exact ⟨_, rfl⟩
  · cases undone

/-- Every call does one of the things that `CallStep` lists. -/
theorem call_step_cases
    (made : (chatMachine env).step before label = some (answer, after)) :
    CallStep env before label answer after := by
  cases label with
  | create owner newId title guide profile fromThread fromMessage now =>
      refine committed_call_step (Option.some.inj made) fun row tables done => ?_
      rw [createChatThread_threads done]
      refine .managed ?_ _
      exact nofun
  | archive threadId owner archived now =>
      exact managed_call_step (Option.some.inj made)
        (fun _ => setChatThreadArchived_threads) nofun
  | tombstone threadId owner now =>
      exact managed_call_step (Option.some.inj made)
        (fun _ => tombstoneChatThread_threads) nofun
  | undoTombstone threadId owner now =>
      exact managed_call_step (Option.some.inj made)
        (fun _ => undoTombstoneChatThread_threads) nofun
  | append request =>
      exact committed_call_step (Option.some.inj made) fun _ _ => append_call_step
  | edit request =>
      exact committed_call_step (Option.some.inj made) fun _ _ => edit_call_step
  | start request =>
      exact committed_call_step (Option.some.inj made) fun _ _ => start_call_step
  | stop generationId owner now =>
      exact committed_call_step (Option.some.inj made) fun _ _ => stop_call_step
  | mark generationId owner now =>
      exact committed_call_step (Option.some.inj made) fun _ _ => mark_call_step
  | fail generationId owner errorCode now =>
      exact committed_call_step (Option.some.inj made) fun _ _ => fail_call_step
  | complete request =>
      exact committed_call_step (Option.some.inj made) fun _ _ => complete_call_step

end Steps

def exampleEnvironment : ChatEnvironment where
  canonicalSha256 := fun _ => "digest"
  integratedCitationAllowed := fun _ _ => true

def exampleOwner : Owner := ⟨⟨1⟩, ⟨2⟩⟩

def questionSteps : List ChatLabel :=
  [.create exampleOwner ⟨10⟩ "title".toList integratedChatScope .fast none none
      0,
    .append
      { threadId := ⟨10⟩
        owner := exampleOwner
        content := "question".toList
        idempotencyKey := "append-1".toList
        parentMessageId := none
        branchId := none
        newBranch := ⟨20⟩
        newId := ⟨30⟩
        now := 1 }]

def exampleStart : StartRequest :=
  { threadId := ⟨10⟩
    userMessageId := ⟨30⟩
    owner := exampleOwner
    idempotencyKey := "generate-1".toList
    retryOfMessageId := none
    newId := ⟨40⟩ }

def exampleComplete : CompleteRequest :=
  { generationId := ⟨40⟩
    owner := exampleOwner
    content := "answer".toList
    citations := []
    trace :=
      { answerMode := "EXTRACTIVE"
        modelId := "model"
        promptSha256 := "prompt"
        inputSha256 := "input"
        outputSha256 := "output" }
    newId := ⟨50⟩
    newCitationIds := []
    now := 2 }

def exampleRetry : StartRequest :=
  { exampleStart with
    idempotencyKey := "generate-2".toList
    retryOfMessageId := some ⟨50⟩
    newId := ⟨41⟩ }

def exampleEdit : EditRequest :=
  { threadId := ⟨10⟩
    messageId := ⟨30⟩
    owner := exampleOwner
    content := "edited".toList
    idempotencyKey := "edit-001".toList
    newBranch := ⟨21⟩
    newId := ⟨31⟩ }

end SecAI.Chat
