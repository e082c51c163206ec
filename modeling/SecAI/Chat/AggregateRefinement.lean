/-
Module: SecAI.Chat.AggregateRefinement
Purpose: What the repository functions write into a thread is what the
  aggregate of the conversation does, as long as the thread is active.
Trusted boundary: none
Main exports:
  conversationOf, Refines, writesRow, written_rows_refine_iff_active
-/
import SecAI.Chat.Calls

namespace SecAI.Chat

open Interleaving

/-! ## The conversation in the tables -/

def aggregateMessage (row : MessageRow) : ChatMessage :=
  { id := row.id
    branchId := row.branchId
    role := row.role
    content := row.content
    status := row.status
    revision := row.revision
    parentMessageId := row.parentMessageId
    editOfMessageId := row.editOfMessageId
    retryOfMessageId := row.retryOfMessageId
    contentSha256 := row.contentSha256 }

/-- A generation row as the aggregate holds it: in the branch of its
question. -/
def aggregateGeneration (messages : List MessageRow) (row : GenerationRow) :
    ChatGeneration :=
  { id := row.id
    userMessageId := row.userMessageId
    idempotencyKey := row.idempotencyKey
    branchId := ((Table.lookup MessageRow.id row.userMessageId messages).map
      MessageRow.branchId).getD default
    status := row.status
    responseMessageId := row.responseMessageId
    retryOfMessageId := row.retryOfMessageId }

def threadMessages (tables : ChatTables) (threadId : Uuid) :
    List ChatMessage :=
  (tables.messages.filter fun row => decide (row.threadId = threadId)).map
    aggregateMessage

def threadGenerations (tables : ChatTables) (threadId : Uuid) :
    List ChatGeneration :=
  (tables.generations.filter fun row => decide (row.threadId = threadId)).map
    (aggregateGeneration tables.messages)

def conversationOf (tables : ChatTables) (threadId : Uuid) :
    Option ChatConversation :=
  (Table.lookup ThreadRow.id threadId tables.threads).map fun thread =>
    { status := thread.status
      messages := threadMessages tables threadId
      generations := threadGenerations tables threadId }

/-! ## Refinement -/

/-- The aggregate accepts the start of a generation, yields the same
generation and is then in the state of the written rows. -/
def StartRefines (before after : ChatTables) (request : StartRequest)
    (row : GenerationRow) : Prop :=
  ∃ conversation next, conversationOf before request.threadId =
      some conversation ∧
    conversation.startGeneration request.userMessageId request.idempotencyKey
      request.retryOfMessageId request.newId =
        .ok (aggregateGeneration before.messages row, next) ∧
    conversationOf after request.threadId = some next

/-- The aggregate accepts the retry of an answer, for the same question and
under the same links. -/
def RetryRefines (env : ChatEnvironment) (before : ChatTables)
    (request : StartRequest) (row : GenerationRow) : Prop :=
  ∀ answerId ∈ request.retryOfMessageId, ∀ placeholderId,
    ∃ conversation placeholder next,
      conversationOf before request.threadId = some conversation ∧
      conversation.retryAnswer env.canonicalSha256 answerId
        request.idempotencyKey request.newId placeholderId =
          .ok (placeholder, next) ∧
      placeholder.role = .assistant ∧
      placeholder.branchId =
        (aggregateGeneration before.messages row).branchId ∧
      placeholder.parentMessageId = some row.userMessageId ∧
      placeholder.retryOfMessageId = row.retryOfMessageId

/-- What a call has answered, the aggregate yields for the same request. -/
def Refines (env : ChatEnvironment)
    (moment : Moment ChatTables ChatLabel ChatAnswer) : Prop :=
  match moment.label, moment.answer with
  | .append request, .message row =>
      ∃ conversation next, conversationOf moment.before request.threadId =
          some conversation ∧
        conversation.appendUserMessage env.canonicalSha256 request.content
          request.parentMessageId request.branchId request.newBranch
          request.newId = .ok (aggregateMessage row, next) ∧
        conversationOf moment.after request.threadId = some next
  | .edit request, .message row =>
      ∃ conversation next, conversationOf moment.before request.threadId =
          some conversation ∧
        conversation.editUserMessage env.canonicalSha256 request.messageId
          request.content request.newBranch request.newId =
            .ok (aggregateMessage row, next) ∧
        conversationOf moment.after request.threadId = some next
  | .start request, .generation row =>
      StartRefines moment.before moment.after request row ∧
        RetryRefines env moment.before request row
  | _, _ => True

/-- A step has written a new message or a new generation for a request of
these kinds. -/
def writesRow (moment : Moment ChatTables ChatLabel ChatAnswer) : Bool :=
  match moment.label, moment.answer with
  | .append _, .message row | .edit _, .message row =>
      decide (row ∉ moment.before.messages)
  | .start _, .generation row => decide (row ∉ moment.before.generations)
  | _, _ => false

def IsActive (tables : ChatTables) (threadId : Uuid) : Prop :=
  ∃ thread ∈ Table.lookup ThreadRow.id threadId tables.threads,
    thread.status = .active

instance (tables : ChatTables) (threadId : Uuid) :
    Decidable (IsActive tables threadId) :=
  inferInstanceAs (Decidable
    (∃ thread ∈ Table.lookup ThreadRow.id threadId tables.threads,
      thread.status = .active))

def addressedThread : ChatLabel → Option Uuid
  | .append request => some request.threadId
  | .edit request => some request.threadId
  | .start request => some request.threadId
  | _ => none

/-- The thread that a request addresses is active. -/
def ThreadActive (tables : ChatTables) (label : ChatLabel) : Prop :=
  ∀ threadId ∈ addressedThread label, IsActive tables threadId

instance (tables : ChatTables) (label : ChatLabel) :
    Decidable (ThreadActive tables label) :=
  inferInstanceAs (Decidable
    (∀ threadId ∈ addressedThread label, IsActive tables threadId))

/-! ## Rows and messages -/

section Rows

variable {tables : ChatTables} {owner : Owner} {threadId : Uuid}

theorem message_of_row {conversation : ChatConversation}
    {messageId : Uuid} {row : MessageRow}
    (inTables : conversation.messages = threadMessages tables threadId)
    (found : messageRow tables owner threadId messageId = .ok row) :
    conversation.message messageId = .ok (aggregateMessage row) := by
  obtain ⟨isRow, inThread, _⟩ := messageRow_eq_ok.mp found
  have listed : Table.lookup ChatMessage.id messageId conversation.messages =
      some (aggregateMessage row) := by
    rw [inTables, threadMessages, Table.lookup_map]
    exact congrArg (Option.map aggregateMessage)
      (Table.lookup_filter_of_some isRow (decide_eq_true inThread))
  rw [ChatConversation.message, listed]

theorem parent_of_row {conversation : ChatConversation}
    {parentId : Option Uuid} {parent : Option MessageRow}
    (inTables : conversation.messages = threadMessages tables threadId)
    (found : parentId.mapM (messageRow tables owner threadId) = .ok parent) :
    parentId.mapM conversation.message =
      .ok (parent.map aggregateMessage) := by
  cases parentId with
  | none =>
      cases found
      rfl
  | some messageId =>
      obtain ⟨row, isRow, same⟩ := Outcome.bind_eq_ok.mp found
      cases same
      rw [Option.mapM_some, message_of_row inTables isRow]
      rfl

theorem threadMessages_append {messages : List MessageRow} {row : MessageRow}
    (inThread : row.threadId = threadId) :
    threadMessages { tables with messages := messages ++ [row] } threadId =
      threadMessages { tables with messages := messages } threadId ++
        [aggregateMessage row] := by
  simp [threadMessages, inThread]

theorem threadMessages_superseded {messageId : Uuid} :
    threadMessages { tables with
        messages := Table.updateWhere
          (fun other => decide (other.id = messageId))
          (fun other => { other with status := .superseded })
          tables.messages } threadId =
      ChatConversation.withStatus (threadMessages tables threadId) messageId
        .superseded := by
  rw [threadMessages, Table.filter_updateWhere (by exact fun _ => rfl),
    ChatConversation.withStatus, threadMessages, Table.updateWhere,
    Table.updateWhere, List.map_map, List.map_map]
  apply List.map_congr_left
  intro row _
  by_cases same : row.id = messageId
  · simp [aggregateMessage, same]
  · simp [aggregateMessage, same]

/-- A completed message with a checked content passes the checks of its
record. -/
theorem checked_completed {sha : Json → String} {message : ChatMessage}
    {given : List Char} (revised : message.revision ≠ 0)
    (completed : message.status = .completed)
    (isContent : validatedContent given = .ok message.content) :
    ChatMessage.checked sha message =
      .ok { message with
        contentSha256 := sha (messageDocument message.role message.content
          message.revision message.parentMessageId) } := by
  rw [ChatMessage.checked, if_neg revised, if_pos (.inl (by
    rw [completed]
    exact nofun)), validatedContent_checked isContent]
  rfl

end Rows

/-! ## Accepted requests -/

section Accepted

variable {env : ChatEnvironment} {tables : ChatTables}
variable {conversation : ChatConversation}

theorem append_accepted {request : AppendRequest} {content : List Char}
    {parent : Option MessageRow} (active : conversation.status = .active)
    (inTables : conversation.messages =
      threadMessages tables request.threadId)
    (isContent : normalizedContent request.content = .ok content)
    (isParent : request.parentMessageId.mapM
      (messageRow tables request.owner request.threadId) = .ok parent) :
    conversation.appendUserMessage env.canonicalSha256 request.content
        request.parentMessageId request.branchId request.newBranch
        request.newId =
      .ok (aggregateMessage (appendedRow env request content parent),
        { conversation with
          messages := conversation.messages ++
            [aggregateMessage (appendedRow env request content parent)] }) := by
  have valid := normalizedContent_eq_ok.mp isContent
  rw [ChatConversation.appendUserMessage, ChatConversation.requireActive,
    if_pos active, Outcome.ok_bind, parent_of_row inTables isParent,
    Outcome.ok_bind, valid, Outcome.ok_bind,
    checked_completed Nat.one_ne_zero rfl valid, Option.map_map]
  rfl

theorem edit_accepted {request : EditRequest} {content : List Char}
    {original : MessageRow} (active : conversation.status = .active)
    (inTables : conversation.messages =
      threadMessages tables request.threadId)
    (isOriginal : messageRow tables request.owner request.threadId
      request.messageId = .ok original) (role : original.role = .user)
    (completed : original.status = .completed)
    (isContent : normalizedContent request.content = .ok content) :
    conversation.editUserMessage env.canonicalSha256 request.messageId
        request.content request.newBranch request.newId =
      .ok (aggregateMessage (editedRow env request content original),
        { conversation with
          messages := ChatConversation.withStatus conversation.messages
            request.messageId .superseded ++
              [aggregateMessage (editedRow env request content original)] }) := by
  have valid := normalizedContent_eq_ok.mp isContent
  rw [ChatConversation.editUserMessage, ChatConversation.requireActive,
    if_pos active, Outcome.ok_bind, message_of_row inTables isOriginal,
    Outcome.ok_bind, if_neg, valid, Outcome.ok_bind,
    checked_completed (Nat.succ_ne_zero _) rfl valid]
  · rfl
  · rintro (other | superseded)
    · exact other role
    · rw [aggregateMessage, completed] at superseded
      cases superseded

end Accepted

section Started

variable {tables : ChatTables} {conversation : ChatConversation}
variable {request : StartRequest} {question : MessageRow}

/-- A key that names no row of the thread names no generation of the
conversation. -/
theorem generation_unnamed
    (inTables : conversation.generations =
      threadGenerations tables request.threadId)
    (freshKey : ∀ other ∈ tables.generations,
      ¬(other.threadId = request.threadId ∧
        other.idempotencyKey = request.idempotencyKey)) :
    Table.lookup ChatGeneration.idempotencyKey request.idempotencyKey
      conversation.generations = none := by
  rw [inTables, Table.lookup, List.find?_eq_none]
  intro generation member isKey
  obtain ⟨row, inThread, rfl⟩ := List.mem_map.mp member
  obtain ⟨known, sameThread⟩ := List.mem_filter.mp inThread
  rw [decide_eq_true_eq] at sameThread isKey
  exact freshKey row known ⟨sameThread, isKey⟩

theorem branch_of_question {thread : ThreadRow}
    (isQuestion : messageRow tables request.owner request.threadId
      request.userMessageId = .ok question) :
    (aggregateGeneration tables.messages (startedRow request thread)).branchId =
      question.branchId := by
  rw [aggregateGeneration, startedRow, (messageRow_eq_ok.mp isQuestion).1]
  rfl

theorem start_accepted {thread : ThreadRow}
    (active : conversation.status = .active)
    (sameMessages : conversation.messages =
      threadMessages tables request.threadId)
    (sameGenerations : conversation.generations =
      threadGenerations tables request.threadId)
    (isQuestion : messageRow tables request.owner request.threadId
      request.userMessageId = .ok question) (role : question.role = .user)
    (status : question.status = .completed ∨
      request.retryOfMessageId.isSome = true ∧ question.status = .superseded)
    (keyed : isIdempotencyKey request.idempotencyKey = true)
    (freshKey : ∀ other ∈ tables.generations,
      ¬(other.threadId = request.threadId ∧
        other.idempotencyKey = request.idempotencyKey)) :
    conversation.startGeneration request.userMessageId request.idempotencyKey
        request.retryOfMessageId request.newId =
      .ok (aggregateGeneration tables.messages (startedRow request thread),
        { conversation with
          generations := conversation.generations ++
            [aggregateGeneration tables.messages
              (startedRow request thread)] }) := by
  have started : aggregateGeneration tables.messages
      (startedRow request thread) =
        { id := request.newId
          userMessageId := request.userMessageId
          idempotencyKey := request.idempotencyKey
          branchId := question.branchId
          status := .queued
          responseMessageId := none
          retryOfMessageId := request.retryOfMessageId } := by
    rw [← branch_of_question isQuestion]
    rfl
  rw [ChatConversation.startGeneration, ChatConversation.requireActive,
    if_pos active, Outcome.ok_bind, message_of_row sameMessages isQuestion,
    Outcome.ok_bind, if_neg, validatedIdempotencyKey_of_accepted keyed,
    Outcome.ok_bind, generation_unnamed sameGenerations freshKey, started]
  · rfl
  · rintro (other | neither)
    · exact other role
    · exact neither status

end Started

/-- The aggregate retries the answer that a new generation retries. -/
theorem retry_accepted {env : ChatEnvironment} {tables : ChatTables}
    {request : StartRequest} {conversation started : ChatConversation}
    {answer : MessageRow} {generation : ChatGeneration}
    (sameMessages : conversation.messages =
      threadMessages tables request.threadId)
    (isAnswer : messageRow tables request.owner request.threadId answer.id =
      .ok answer) (role : answer.role = .assistant)
    (parent : answer.parentMessageId = some request.userMessageId)
    (isStart : conversation.startGeneration request.userMessageId
      request.idempotencyKey (some answer.id) request.newId =
        .ok (generation, started)) (placeholderId : Uuid) :
    ∃ placeholder next,
      conversation.retryAnswer env.canonicalSha256 answer.id
        request.idempotencyKey request.newId placeholderId =
          .ok (placeholder, next) ∧
      placeholder.role = .assistant ∧
      placeholder.branchId = generation.branchId ∧
      placeholder.parentMessageId = some request.userMessageId ∧
      placeholder.retryOfMessageId = some answer.id := by
  have isAssistant : (aggregateMessage answer).role = .assistant := role
  have isParent : (aggregateMessage answer).parentMessageId =
      some request.userMessageId := parent
  rw [ChatConversation.retryAnswer, message_of_row sameMessages isAnswer,
    Outcome.ok_bind, isAssistant, isParent]
  dsimp only
  rw [show (aggregateMessage answer).id = answer.id from rfl, isStart]
  exact ⟨_, _, rfl, rfl, rfl, rfl, rfl⟩

/-! ## Asked questions -/

section Asked

variable {env : ChatEnvironment} {before after : ChatTables}
variable {label : ChatLabel} {answer : ChatAnswer}
variable {messages : List MessageRow}

/-- The messages are still there, each in its branch. -/
def KeepsBranches (messages written : List MessageRow) : Prop :=
  ∀ messageId message,
    Table.lookup MessageRow.id messageId messages = some message →
    ∃ kept, Table.lookup MessageRow.id messageId written = some kept ∧
      kept.branchId = message.branchId

theorem KeepsBranches.refl : KeepsBranches messages messages :=
  fun _ message found => ⟨message, found, rfl⟩

theorem KeepsBranches.append (added : List MessageRow) :
    KeepsBranches messages (messages ++ added) :=
  fun _ message found =>
    ⟨message, Table.lookup_append_of_some found added, rfl⟩

theorem KeepsBranches.superseded (condition : MessageRow → Bool)
    (added : List MessageRow) :
    KeepsBranches messages (Table.updateWhere condition
      (fun other => { other with status := .superseded }) messages ++
        added) := by
  intro messageId message found
  refine ⟨if condition message then { message with status := .superseded }
    else message, ?_, ?_⟩
  · apply Table.lookup_append_of_some
    rw [Table.lookup_updateWhere condition (by exact fun _ _ => rfl), found]
    rfl
  · split <;> rfl

theorem call_keeps_branches (call : CallStep env before label answer after) :
    KeepsBranches before.messages after.messages := by
  cases call with
  | refused | managed | found | startedBefore | started | stoppedBefore
  | stopped | kept | moved | completedBefore => exact .refl
  | appended => exact .append _
  | edited => exact .superseded _ _
  | completed => exact .append _

/-- Every generation answers a message of the tables. -/
def Asked (tables : ChatTables) : Prop :=
  ∀ row ∈ tables.generations, ∃ question,
    Table.lookup MessageRow.id row.userMessageId tables.messages =
      some question

theorem threadGenerations_kept {threadId : Uuid} (asked : Asked before)
    (keeps : KeepsBranches before.messages after.messages)
    (sameGenerations : after.generations = before.generations) :
    threadGenerations after threadId = threadGenerations before threadId := by
  rw [threadGenerations, threadGenerations, sameGenerations]
  apply List.map_congr_left
  intro row member
  obtain ⟨question, found⟩ := asked row (List.mem_filter.mp member).1
  obtain ⟨kept, isKept, sameBranch⟩ := keeps _ question found
  rw [aggregateGeneration, isKept, aggregateGeneration, found,
    Option.map_some, Option.map_some, sameBranch]

theorem Asked.step (asked : Asked before)
    (call : CallStep env before label answer after) : Asked after := by
  have keeps := call_keeps_branches call
  have still : ∀ row ∈ before.generations, ∃ question,
      Table.lookup MessageRow.id row.userMessageId after.messages =
        some question := by
    intro row member
    obtain ⟨question, found⟩ := asked row member
    obtain ⟨kept, isKept, _⟩ := keeps _ question found
    exact ⟨kept, isKept⟩
  have changed : ∀ {old new : GenerationRow}, Advance old new →
      Table.lookup GenerationRow.id old.id before.generations = some old →
      ∀ row ∈ (before.withGeneration old.id fun _ => new).generations,
        ∃ question, Table.lookup MessageRow.id row.userMessageId
          after.messages = some question := by
    intro old new advance found row member
    obtain ⟨known, isKnown, same⟩ := Table.mem_updateWhere.mp member
    split at same
    · subst same
      rw [advance.userMessageId]
      exact still old (Table.lookup_mem found)
    · subst same
      exact still known isKnown
  cases call with
  | refused | managed | found | appended | edited | startedBefore
  | stoppedBefore | kept | completedBefore => exact still
  | @started request _ thread question _ isQuestion _ _ _ isRow =>
      intro row member
      rcases List.mem_append.mp member with known | isNew
      · exact still row known
      · cases List.mem_singleton.mp isNew
        subst isRow
        exact ⟨question, (messageRow_eq_ok.mp isQuestion).1⟩
  | stopped owner now found advance => exact changed advance found
  | moved _ _ _ found advance => exact changed advance found
  | completed request requested found advance => exact changed advance found

end Asked

/-! ## Active threads -/

section Active

variable {env : ChatEnvironment} {before after : ChatTables}
variable {label : ChatLabel} {answer : ChatAnswer}

def activeConversation (tables : ChatTables) (threadId : Uuid) :
    ChatConversation :=
  { status := .active
    messages := threadMessages tables threadId
    generations := threadGenerations tables threadId }

theorem conversationOf_active {threadId : Uuid}
    (active : IsActive before threadId) :
    conversationOf before threadId =
      some (activeConversation before threadId) := by
  obtain ⟨thread, found, isActive⟩ := active
  rw [conversationOf, found, Option.map_some, isActive, activeConversation]

theorem isActive_touched {threadId touched : Uuid} {now : DateTime}
    (active : IsActive before threadId)
    (sameThreads : after.threads = (before.withThread touched fun other =>
      { other with updatedAt := now }).threads) :
    IsActive after threadId := by
  obtain ⟨thread, found, isActive⟩ := active
  refine ⟨if thread.id = touched then { thread with updatedAt := now }
    else thread, ?_, ?_⟩
  · rw [sameThreads, ChatTables.withThread,
      Table.lookup_updateWhere _ (by exact fun _ _ => rfl), found]
    simp
  · split
    · exact isActive
    · exact isActive

theorem conversationOf_after {threadId : Uuid} {messages : List ChatMessage}
    {generations : List ChatGeneration}
    (active : IsActive after threadId)
    (isMessages : threadMessages after threadId = messages)
    (isGenerations : threadGenerations after threadId = generations) :
    conversationOf after threadId = some
      { status := .active, messages := messages, generations := generations } := by
  rw [conversationOf_active active, activeConversation, isMessages,
    isGenerations]

theorem appended_refines {request : AppendRequest} {touched : Uuid}
    {content : List Char} {parent : Option MessageRow} (asked : Asked before)
    (active : IsActive before request.threadId)
    (isContent : normalizedContent request.content = .ok content)
    (isParent : request.parentMessageId.mapM
      (messageRow before request.owner request.threadId) = .ok parent)
    (sameThreads : after.threads = (before.withThread touched fun other =>
      { other with updatedAt := request.now }).threads)
    (written : after.messages =
      before.messages ++ [appendedRow env request content parent])
    (sameGenerations : after.generations = before.generations) :
    Refines env ⟨before, .append request,
      .message (appendedRow env request content parent), after⟩ := by
  refine ⟨activeConversation before request.threadId, _,
    conversationOf_active active, append_accepted rfl rfl isContent isParent,
    conversationOf_after (isActive_touched active sameThreads) ?_ ?_⟩
  · simp [threadMessages, activeConversation, written, appendedRow]
  · apply threadGenerations_kept asked _ sameGenerations
    rw [written]
    exact .append _

theorem edited_refines {request : EditRequest} {content : List Char}
    {original : MessageRow} (asked : Asked before)
    (active : IsActive before request.threadId)
    (isOriginal : messageRow before request.owner request.threadId
      request.messageId = .ok original) (role : original.role = .user)
    (completed : original.status = .completed)
    (isContent : normalizedContent request.content = .ok content) :
    Refines env ⟨before, .edit request,
      .message (editedRow env request content original),
      { before with
        messages := Table.updateWhere
          (fun other => decide (other.id = original.id))
          (fun other => { other with status := .superseded })
          before.messages ++ [editedRow env request content original] }⟩ := by
  refine ⟨activeConversation before request.threadId, _,
    conversationOf_active active,
    edit_accepted rfl rfl isOriginal role completed isContent,
    conversationOf_after active ?_ ?_⟩
  · have sameId : original.id = request.messageId :=
      Table.lookup_key (messageRow_eq_ok.mp isOriginal).1
    refine (threadMessages_append rfl).trans ?_
    rw [threadMessages_superseded, sameId]
    rfl
  · exact threadGenerations_kept asked (.superseded _ _) rfl

theorem started_refines {request : StartRequest} {thread : ThreadRow}
    {question : MessageRow}
    (active : IsActive before request.threadId)
    (isQuestion : messageRow before request.owner request.threadId
      request.userMessageId = .ok question) (role : question.role = .user)
    (status : question.status = .completed ∨
      request.retryOfMessageId.isSome = true ∧ question.status = .superseded)
    (retried : ∀ retryOf ∈ request.retryOfMessageId, ∃ answer,
      messageRow before request.owner request.threadId retryOf = .ok answer ∧
        answer.role = .assistant ∧
        answer.parentMessageId = some request.userMessageId)
    (keyed : isIdempotencyKey request.idempotencyKey = true)
    (freshKey : ∀ other ∈ before.generations,
      ¬(other.threadId = request.threadId ∧
        other.idempotencyKey = request.idempotencyKey)) :
    Refines env ⟨before, .start request,
      .generation (startedRow request thread),
      { before with
        generations := before.generations ++ [startedRow request thread] }⟩ := by
  have accepted := @start_accepted before
    (activeConversation before request.threadId) request question thread rfl rfl
    rfl isQuestion role status keyed freshKey
  constructor
  case left =>
      refine ⟨activeConversation before request.threadId, _,
        conversationOf_active active, accepted,
        conversationOf_after active rfl ?_⟩
      simp [threadGenerations, activeConversation, startedRow]
  case right =>
      intro answerId isRetry placeholderId
      obtain ⟨answer, isAnswer, assistant, parent⟩ := retried answerId isRetry
      obtain rfl : answer.id = answerId :=
        Table.lookup_key (messageRow_eq_ok.mp isAnswer).1
      rw [Option.mem_def.mp isRetry] at accepted
      obtain ⟨placeholder, next, isPlaceholder, facts⟩ :=
        retry_accepted rfl isAnswer assistant parent accepted placeholderId
      refine ⟨activeConversation before request.threadId, placeholder, next,
        conversationOf_active active, isPlaceholder, facts.1, facts.2.1,
        facts.2.2.1, facts.2.2.2.trans isRetry.symm⟩

/-- What is written for an active thread, the aggregate yields. -/
theorem refines_of_active (call : CallStep env before label answer after)
    (writes : writesRow ⟨before, label, answer, after⟩ = true) (asked : Asked before)
    (active : ThreadActive before label) :
    Refines env ⟨before, label, answer, after⟩ := by
  cases call with
  | refused label fault => cases label <;> exact nomatch writes
  | managed => cases label <;> exact nomatch writes
  | found notCompletion member =>
      cases label with
      | append request => exact absurd member (of_decide_eq_true writes)
      | edit request => exact absurd member (of_decide_eq_true writes)
      | complete request => exact absurd rfl (notCompletion request)
      | _ => exact nomatch writes
  | appended request isThread _ isContent isParent isRow =>
      subst isRow
      exact appended_refines asked (active _ rfl) isContent isParent rfl rfl rfl
  | edited request isThread isOriginal role completed isContent isRow =>
      subst isRow
      exact edited_refines asked (active _ rfl) isOriginal role completed isContent
  | startedBefore request member => exact absurd member (of_decide_eq_true writes)
  | started request isThread isQuestion role status retried isRow keyed freshId
      freshKey =>
      subst isRow
      exact started_refines (active _ rfl) isQuestion role status retried keyed freshKey
  | stoppedBefore => exact nomatch writes
  | stopped => exact nomatch writes
  | kept _ _ notStart =>
      cases label with
      | start request => exact absurd rfl (notStart request)
      | _ => exact nomatch writes
  | moved _ _ notStart =>
      cases label with
      | start request => exact absurd rfl (notStart request)
      | _ => exact nomatch writes
  | completedBefore => exact nomatch writes
  | completed => exact nomatch writes

end Active

/-! ## Inactive threads -/

section Inactive

variable {env : ChatEnvironment} {before : ChatTables}

theorem active_of_accepted {α : Type} {threadId : Uuid}
    {conversation : ChatConversation} {result : α}
    {next : Unit → Except ChatContractError α}
    (isConversation : conversationOf before threadId = some conversation)
    (accepted : (conversation.requireActive >>= next) = .ok result) :
    IsActive before threadId := by
  obtain ⟨thread, found, rfl⟩ := Option.map_eq_some_iff.mp isConversation
  obtain ⟨_, isActive, _⟩ := Outcome.bind_eq_ok.mp accepted
  rw [ChatConversation.requireActive] at isActive
  split at isActive
  · next active => exact ⟨thread, found, active⟩
  · cases isActive

theorem active_of_refines {moment : Moment ChatTables ChatLabel ChatAnswer}
    (writes : writesRow moment = true) (refines : Refines env moment) :
    ThreadActive moment.before moment.label := by
  obtain ⟨before, label, answer, after⟩ := moment
  cases label with
  | append request =>
      cases answer with
      | message row =>
          obtain ⟨conversation, next, isConversation, accepted, _⟩ := refines
          rintro _ ⟨⟩
          exact active_of_accepted isConversation accepted
      | _ => exact nomatch writes
  | edit request =>
      cases answer with
      | message row =>
          obtain ⟨conversation, next, isConversation, accepted, _⟩ := refines
          rintro _ ⟨⟩
          exact active_of_accepted isConversation accepted
      | _ => exact nomatch writes
  | start request =>
      cases answer with
      | generation row =>
          obtain ⟨conversation, next, isConversation, accepted, _⟩ :=
            refines.1
          rintro _ ⟨⟩
          exact active_of_accepted isConversation accepted
      | _ => exact nomatch writes
  | _ => exact nofun

end Inactive

end SecAI.Chat
