/-
Module: SecAI.Chat.RequestKeys
Purpose: What the key of a request stands for: how a call that repeats a key
  is compared with the call that was accepted under it.
Trusted boundary: none
Main exports:
  KeyedChange, keyedRequest, Reuses, KeysStand, Compared, keys_stand_iff
-/
import Mathlib.Data.List.Pairwise
import SecAI.Chat.GenerationRuns

namespace SecAI.Chat

open Interleaving
open SecAI.Text (strip)
open Outcome (bind_eq_ok bind_raises raised_or refused_or Refused)

/-! ## Requests with a key -/

/-- What a call with a key asks for: its kind, what it is about and its
content as it is stored. -/
inductive KeyedChange where
  | append (parent branch : Option Uuid) (content : List Char)
  | edit (messageId : Uuid) (content : List Char)
  | start (question : Uuid) (retryOf : Option Uuid)
deriving DecidableEq

/-- The thread and the key of a call, and what it asks for. -/
def keyedRequest : ChatLabel → Option (Uuid × List Char × KeyedChange)
  | .append request =>
      some (request.threadId, request.idempotencyKey,
        .append request.parentMessageId request.branchId
          (strip request.content))
  | .edit request =>
      some (request.threadId, request.idempotencyKey,
        .edit request.messageId (strip request.content))
  | .start request =>
      some (request.threadId, request.idempotencyKey,
        .start request.userMessageId request.retryOfMessageId)
  | .create .. | .archive .. | .tombstone .. | .undoTombstone .. | .stop ..
  | .mark .. | .fail .. | .complete .. => none

/-- A call of the chat with what it answers and what it leaves behind. -/
abbrev ChatMoment := Moment ChatTables ChatLabel ChatAnswer

/-- A call has the key of an earlier call of its thread, which wrote a row for
something else. -/
def Reuses (first again : ChatMoment) : Prop :=
  ∃ used ∈ keyedRequest first.label, ∃ asked ∈ keyedRequest again.label,
    asked.1 = used.1 ∧ asked.2.1 = used.2.1 ∧ asked.2.2 ≠ used.2.2 ∧
      first.after ≠ first.before

instance (first again : ChatMoment) : Decidable (Reuses first again) :=
  inferInstanceAs (Decidable (∃ used ∈ keyedRequest first.label,
    ∃ asked ∈ keyedRequest again.label, asked.1 = used.1 ∧
      asked.2.1 = used.2.1 ∧ asked.2.2 ≠ used.2.2 ∧
        first.after ≠ first.before))

/-- `CHAT_IDEMPOTENCY_CONFLICT`. -/
def conflict : ChatFault := .code "CHAT_IDEMPOTENCY_CONFLICT"

/-- A key stands for one request: a call that reuses it raises, and changes
nothing. -/
def KeysStand (trace : List ChatMoment) : Prop :=
  trace.Pairwise fun first again => Reuses first again →
    again.answer = .refused conflict ∧ again.after = again.before

instance (trace : List ChatMoment) : Decidable (KeysStand trace) :=
  inferInstanceAs (Decidable (trace.Pairwise fun first again =>
    Reuses first again →
      again.answer = .refused conflict ∧ again.after = again.before))

/-- A request to start a generation passes the checks in front of the
insertion. -/
def StartChecked (tables : ChatTables) (request : StartRequest) : Prop :=
  ∃ thread question,
    threadRow tables request.threadId request.owner = .ok thread ∧
    messageRow tables request.owner request.threadId request.userMessageId =
      .ok question ∧
    checkRetry tables request = .ok () ∧ question.role = .user ∧
    (question.status = .completed ∨
      request.retryOfMessageId.isSome = true ∧ question.status = .superseded)

/-- The calls are compared, and found to be different: an append that passes
its checks with the message that an append or an edit wrote, by a hash that
tells them apart, and a start that passes its checks with the generation that
a start wrote.  An edit is never compared, nor is a message with a
generation. -/
def Compared (env : ChatEnvironment) (first again : ChatMoment) : Prop :=
  match again.label, first.answer with
  | .append request, .message row =>
      ∃ thread content,
        threadRow again.before request.threadId request.owner = .ok thread ∧
        thread.status = .active ∧
        normalizedContent request.content = .ok content ∧
        row.contentSha256 ≠ messageHash env .user content row.revision
          request.parentMessageId
  | .start request, .generation _ => StartChecked again.before request
  | _, _ => False

/-! ## Conflicts -/

section Conflicts

variable {env : ChatEnvironment} {tables : ChatTables} {owner : Owner}

theorem code_no_conflict {α : Type} {code : String}
    (other : code ≠ "CHAT_IDEMPOTENCY_CONFLICT") :
    (.error (.code code) : Except ChatFault α) ≠ .error conflict := by
  intro same
  injection same with same
  injection same with same
  injection same with same
  exact other same

theorem threadRow_no_conflict (threadId : Uuid) :
    threadRow tables threadId owner ≠ .error conflict := by
  intro raised
  rcases bind_raises raised with raised | ⟨thread, -, raised⟩
  · unfold threadIncludingTombstone at raised
    split at raised
    · split at raised
      · cases raised
      · exact code_no_conflict (by decide) raised
    · exact code_no_conflict (by decide) raised
  · obtain ⟨-, raised⟩ := raised_or (code_no_conflict (by decide)) raised
    cases raised

theorem messageRow_no_conflict (threadId messageId : Uuid) :
    messageRow tables owner threadId messageId ≠ .error conflict := by
  unfold messageRow
  intro raised
  split at raised
  · split at raised
    · cases raised
    · exact code_no_conflict (by decide) raised
  · exact code_no_conflict (by decide) raised

theorem normalizedContent_no_conflict (content : List Char) :
    normalizedContent content ≠ .error conflict := by
  intro raised
  obtain ⟨-, raised⟩ := raised_or (code_no_conflict (by decide)) raised
  cases raised

theorem checkRetry_no_conflict (request : StartRequest) :
    checkRetry tables request ≠ .error conflict := by
  unfold checkRetry
  intro raised
  split at raised
  · rcases bind_raises raised with raised | ⟨retry, -, raised⟩
    · exact messageRow_no_conflict _ _ raised
    · obtain ⟨-, raised⟩ := raised_or (code_no_conflict (by decide)) raised
      cases raised
  · cases raised

theorem insertMessage_no_conflict (row : MessageRow) :
    insertMessage tables row ≠ .error conflict := by
  intro raised
  obtain ⟨-, raised⟩ := raised_or (by rintro ⟨⟩) raised
  cases raised

/-- An append raises the conflict when its checks pass and the message with
its key has another hash. -/
theorem append_conflict_iff {request : AppendRequest} :
    appendUserMessage env tables request = .error conflict ↔
      ∃ thread content row,
        threadRow tables request.threadId request.owner = .ok thread ∧
        thread.status = .active ∧
        normalizedContent request.content = .ok content ∧
        requestedMessage tables request.owner request.threadId
          request.idempotencyKey = some row ∧
        row.contentSha256 ≠ messageHash env .user content row.revision
          request.parentMessageId := by
  constructor
  · intro raised
    rcases bind_raises raised with raised | ⟨thread, isThread, raised⟩
    · exact (threadRow_no_conflict _ raised).elim
    · obtain ⟨active, raised⟩ :=
        raised_or (code_no_conflict (by decide)) raised
      rcases bind_raises raised with raised | ⟨content, isContent, raised⟩
      · exact (normalizedContent_no_conflict _ raised).elim
      · cases known : requestedMessage tables request.owner request.threadId
            request.idempotencyKey with
        | some row =>
            rw [known] at raised
            dsimp only at raised
            refine ⟨thread, content, row, isThread, not_not.mp active,
              isContent, rfl, ?_⟩
            intro same
            rw [if_neg (not_not.mpr same)] at raised
            cases raised
        | none =>
            rw [known] at raised
            dsimp only at raised
            rcases bind_raises raised with raised | ⟨parent, -, raised⟩
            · cases isParent : request.parentMessageId with
              | none =>
                  rw [isParent] at raised
                  cases raised
              | some parent =>
                  rw [isParent] at raised
                  rcases bind_raises raised with raised | ⟨_, -, raised⟩
                  · exact (messageRow_no_conflict _ _ raised).elim
                  · cases raised
            · rcases bind_raises raised with raised | ⟨written, -, raised⟩
              · exact (insertMessage_no_conflict _ raised).elim
              · cases raised
  · rintro ⟨thread, content, row, isThread, active, isContent, known, differs⟩
    unfold appendUserMessage
    rw [isThread, Outcome.ok_bind, if_neg (not_not.mpr active), isContent,
      Outcome.ok_bind, known]
    exact if_pos differs

/-- An edit never raises the conflict. -/
theorem edit_no_conflict (request : EditRequest) :
    editUserMessage env tables request ≠ .error conflict := by
  intro raised
  rcases bind_raises raised with raised | ⟨thread, -, raised⟩
  · exact threadRow_no_conflict _ raised
  · cases known : requestedMessage tables request.owner request.threadId
        request.idempotencyKey with
    | some row =>
        rw [known] at raised
        cases raised
    | none =>
        rw [known] at raised
        dsimp only at raised
        rcases bind_raises raised with raised | ⟨original, -, raised⟩
        · exact messageRow_no_conflict _ _ raised
        · obtain ⟨-, raised⟩ := raised_or (code_no_conflict (by decide)) raised
          rcases bind_raises raised with raised | ⟨content, -, raised⟩
          · exact normalizedContent_no_conflict _ raised
          · rcases bind_raises raised with raised | ⟨written, -, raised⟩
            · exact insertMessage_no_conflict _ raised
            · cases raised

/-- A start raises the conflict when its checks pass and the generation with
its key is of another question or retries another answer. -/
theorem start_conflict_iff {request : StartRequest} :
    startChatGeneration tables request = .error conflict ↔
      StartChecked tables request ∧
      isIdempotencyKey request.idempotencyKey = true ∧
      ∃ row, requestedGeneration tables request.threadId
          request.idempotencyKey = some row ∧ row.owner = request.owner ∧
        (row.userMessageId ≠ request.userMessageId ∨
          row.retryOfMessageId ≠ request.retryOfMessageId) := by
  constructor
  · intro raised
    rcases bind_raises raised with raised | ⟨thread, isThread, raised⟩
    · exact (threadRow_no_conflict _ raised).elim
    rcases bind_raises raised with raised | ⟨question, isQuestion, raised⟩
    · exact (messageRow_no_conflict _ _ raised).elim
    rcases bind_raises raised with raised | ⟨⟨⟩, retried, raised⟩
    · exact (checkRetry_no_conflict _ raised).elim
    obtain ⟨allowed, raised⟩ := raised_or (code_no_conflict (by decide)) raised
    rw [not_or, not_not, not_not] at allowed
    refine ⟨⟨thread, question, isThread, isQuestion, retried, allowed⟩, ?_⟩
    clear retried isQuestion isThread
    rcases bind_raises raised with raised | ⟨written, inserted, compared⟩
    · obtain ⟨-, raised⟩ := raised_or (by rintro ⟨⟩) raised
      split at raised
      · cases raised
      · obtain ⟨-, raised⟩ := raised_or (by rintro ⟨⟩) raised
        cases raised
    · clear raised
      obtain ⟨keyed, known | new⟩ := insertGeneration_eq_ok inserted
      · obtain ⟨row, isRow, rfl⟩ := known
        dsimp only at isRow keyed
        refine ⟨keyed, row, isRow, ?_⟩
        rw [isRow] at compared
        dsimp only at compared
        obtain ⟨owned, compared⟩ :=
          raised_or (code_no_conflict (by decide)) compared
        refine ⟨not_not.mp owned, ?_⟩
        by_contra same
        rw [if_neg same] at compared
        cases compared
      · obtain ⟨unknown, -, rfl⟩ := new
        rw [requestedGeneration, List.find?_append,
          show tables.generations.find? _ = none from unknown] at compared
        simp at compared
        cases compared
  · rintro ⟨⟨thread, question, isThread, isQuestion, retried, allowed⟩, keyed,
      row, isRow, owned, differs⟩
    unfold startChatGeneration
    rw [isThread, Outcome.ok_bind, isQuestion, Outcome.ok_bind, retried,
      Outcome.ok_bind, if_neg]
    · unfold insertGeneration
      dsimp only
      rw [if_neg (by simp [keyed]), isRow]
      dsimp only
      rw [Outcome.ok_bind, isRow]
      dsimp only
      rw [if_neg (not_not.mpr owned)]
      exact if_pos differs
    · rw [not_or, not_not, not_not]
      exact allowed

end Conflicts

/-! ## Rows under a key -/

section Rows

variable {env : ChatEnvironment} {before after : ChatTables} {owner : Owner}
variable {threadId : Uuid} {key : List Char}
variable {label : ChatLabel} {answer : ChatAnswer}

def Owned (tables : ChatTables) (threadId : Uuid) (owner : Owner) : Prop :=
  ∃ thread, Table.lookup ThreadRow.id threadId tables.threads = some thread ∧
    thread.owner = owner

theorem owned_of_threadRow {thread : ThreadRow}
    (isThread : threadRow before threadId owner = .ok thread) :
    Owned before threadId owner := by
  obtain ⟨found, isFound, -⟩ := bind_eq_ok.mp isThread
  unfold threadIncludingTombstone at isFound
  split at isFound
  · next row known =>
      split at isFound
      · next same => exact ⟨row, known, same⟩
      · cases isFound
  · cases isFound

theorem Owned.unique {other : Owner} (owned : Owned before threadId owner)
    (again : Owned before threadId other) : owner = other := by
  obtain ⟨thread, isThread, isOwner⟩ := owned
  obtain ⟨same, isSame, isOther⟩ := again
  cases isThread.symm.trans isSame
  exact isOwner.symm.trans isOther

theorem Owned.withThread (owned : Owned before threadId owner)
    {touched : Uuid} {change : ThreadRow → ThreadRow}
    (id : ∀ thread, (change thread).id = thread.id)
    (kept : ∀ thread, (change thread).owner = thread.owner) :
    Owned (before.withThread touched change) threadId owner := by
  obtain ⟨thread, isThread, isOwner⟩ := owned
  unfold Owned ChatTables.withThread
  dsimp only
  rw [Table.lookup_updateWhere _ fun thread _ => id thread, isThread]
  refine ⟨_, rfl, ?_⟩
  dsimp only
  split
  · exact (kept thread).trans isOwner
  · exact isOwner

theorem committed_no_thread {α : Type} {answered : α → ChatAnswer}
    {outcome : Except ChatFault (α × ChatTables)}
    (other : ∀ row, answered row ≠ .thread) :
    (committed before answered outcome).1 ≠ .thread := by
  cases outcome with
  | error fault => rintro ⟨⟩
  | ok result => exact other result.1

theorem managed_ok {outcome : Except ChatFault ChatTables}
    (made : managed before outcome = (.thread, after)) :
    outcome = .ok after := by
  cases outcome with
  | error fault => cases made
  | ok tables =>
      cases made
      rfl

/-- A call that manages threads keeps the owners. -/
theorem Owned.managed (owned : Owned before threadId owner)
    (made : (chatMachine env).step before label = some (.thread, after)) :
    Owned after threadId owner := by
  cases label with
  | create creator newId title guide profile fromThread fromMessage now =>
      have made := Option.some.inj made
      cases done : createChatThread before creator newId title guide profile
          fromThread fromMessage now with
      | error fault =>
          rw [done] at made
          cases made
      | ok result =>
          rw [done] at made
          cases made
          obtain ⟨thread, isThread, isOwner⟩ := owned
          rw [createChatThread_threads done]
          exact ⟨thread, Table.lookup_append_of_some isThread _, isOwner⟩
  | archive | tombstone =>
      obtain ⟨thread, -, changed⟩ :=
        bind_eq_ok.mp (managed_ok (Option.some.inj made))
      cases changed
      exact owned.withThread (fun _ => rfl) fun _ => rfl
  | undoTombstone =>
      obtain ⟨thread, -, undone⟩ :=
        bind_eq_ok.mp (managed_ok (Option.some.inj made))
      split at undone
      · obtain ⟨-, undone⟩ := refused_or (Refused.error _) undone
        obtain ⟨-, changed⟩ := refused_or (Refused.error _) undone
        cases changed
        exact owned.withThread (fun _ => rfl) fun _ => rfl
      · cases undone
  | append | edit | start | stop | mark | fail | complete =>
      have made := congrArg Prod.fst (Option.some.inj made)
      refine (committed_no_thread ?_ made).elim
      rintro row ⟨⟩

/-- A thread keeps its owner. -/
theorem Owned.step (owned : Owned before threadId owner)
    (made : (chatMachine env).step before label = some (answer, after)) :
    Owned after threadId owner := by
  cases call_step_cases made with
  | managed => exact owned.managed made
  | appended => exact owned.withThread (fun _ => rfl) fun _ => rfl
  | refused | found | edited | startedBefore | started | stoppedBefore
  | stopped | kept | moved | completedBefore | completed => exact owned

/-- Superseding a message leaves the messages under a key where they were. -/
theorem requestedMessage_superseded (messageId : Uuid) :
    requestedMessage { before with
        messages := Table.updateWhere
          (fun message => decide (message.id = messageId))
          (fun message => { message with status := .superseded })
          before.messages } owner threadId key =
      (requestedMessage before owner threadId key).map fun message =>
        if decide (message.id = messageId) then
          { message with status := .superseded } else message := by
  unfold requestedMessage
  dsimp only
  rw [Table.updateWhere, List.find?_map]
  congr 2
  funext message
  dsimp only [Function.comp]
  split <;> rfl

variable {row : MessageRow}

theorem requestedMessage_added
    (messages : after.messages = before.messages ++ [row]) :
    requestedMessage after owner threadId key =
      (requestedMessage before owner threadId key).or
        (if row.threadId = threadId ∧ row.owner = owner ∧
          row.requestIdempotencyKey = some key then some row else none) := by
  unfold requestedMessage
  rw [messages, List.find?_append]
  congr 1
  by_cases matched : row.threadId = threadId ∧ row.owner = owner ∧
      row.requestIdempotencyKey = some key
  · rw [if_pos matched]
    simp only [List.find?_cons, decide_eq_true matched]
  · rw [if_neg matched]
    simp only [List.find?_cons, decide_eq_false matched, List.find?_nil]

theorem requestedMessage_edited {messageId : Uuid}
    (messages : after.messages = Table.updateWhere
      (fun message => decide (message.id = messageId))
      (fun message => { message with status := .superseded })
      before.messages ++ [row]) :
    requestedMessage after owner threadId key =
      ((requestedMessage before owner threadId key).map fun message =>
        if decide (message.id = messageId) then
          { message with status := .superseded } else message).or
        (if row.threadId = threadId ∧ row.owner = owner ∧
          row.requestIdempotencyKey = some key then some row else none) := by
  rw [← requestedMessage_superseded]
  exact requestedMessage_added messages

/-- The message under a key keeps everything but its status. -/
theorem requestedMessage_kept (call : CallStep env before label answer after)
    (found : requestedMessage before owner threadId key = some row) :
    ∃ status, requestedMessage after owner threadId key =
      some { row with status := status } := by
  cases call with
  | appended | completed =>
      refine ⟨row.status, ?_⟩
      rw [@requestedMessage_added before _ _ _ _ _ rfl, found]
      rfl
  | @edited request _ original =>
      rw [@requestedMessage_edited before _ _ _ _ _ original.id rfl, found,
        Option.map_some, Option.some_or]
      split
      · exact ⟨_, rfl⟩
      · exact ⟨row.status, rfl⟩
  | refused | managed | found | startedBefore | started | stoppedBefore
  | stopped | kept | moved | completedBefore => exact ⟨row.status, found⟩

/-- What an accepted call with a key leaves behind: the row it answers, under
its key, in a thread of the owner of the row. -/
def Recorded (answer : ChatAnswer) (tables : ChatTables) (threadId : Uuid)
    (key : List Char) : KeyedChange → Prop
  | .append .. | .edit .. =>
      ∃ row owner status, answer = .message row ∧
        requestedMessage tables owner threadId key =
          some { row with status := status } ∧
        Owned tables threadId owner
  | .start question retryOf =>
      ∃ row later, answer = .generation row ∧
        Table.lookup GenerationRow.id row.id tables.generations =
          some later ∧
        later.threadId = threadId ∧ later.idempotencyKey = key ∧
        later.userMessageId = question ∧
        later.retryOfMessageId = retryOf ∧
        isIdempotencyKey key = true ∧ Owned tables threadId later.owner

variable {change : KeyedChange}

/-- What was recorded stays recorded. -/
theorem Recorded.step {first : ChatAnswer}
    (recorded : Recorded first before threadId key change)
    (made : (chatMachine env).step before label = some (answer, after)) :
    Recorded first after threadId key change := by
  cases change with
  | append | edit =>
      obtain ⟨row, owner, status, isRow, found, owned⟩ := recorded
      obtain ⟨later, isLater⟩ :=
        requestedMessage_kept (call_step_cases made) found
      exact ⟨row, owner, later, isRow, isLater, owned.step made⟩
  | start question retryOf =>
      obtain ⟨row, known, isRow, found, isThread, isKey, isQuestion, isRetry,
        keyed, owned⟩ := recorded
      obtain ⟨later, isLater, rfl | advance⟩ :=
        generation_stays (call_step_cases made) found
      · exact ⟨row, _, isRow, isLater, isThread, isKey, isQuestion, isRetry,
          keyed, owned.step made⟩
      · refine ⟨row, later, isRow, isLater, ?_, ?_, ?_, ?_, keyed, ?_⟩
        · exact advance.threadId.trans isThread
        · exact advance.idempotencyKey.trans isKey
        · exact advance.userMessageId.trans isQuestion
        · exact advance.retryOfMessageId.trans isRetry
        · rw [advance.owner]
          exact owned.step made

theorem append_recorded {request : AppendRequest}
    (made : (chatMachine env).step before (.append request) =
      some (answer, after)) (changed : after ≠ before)
    (isAppend : ∃ parent branch content,
      change = .append parent branch content) :
    Recorded answer after request.threadId request.idempotencyKey change := by
  obtain ⟨parent, branch, content, rfl⟩ := isAppend
  have performed := Option.some.inj made
  cases done : appendUserMessage env before request with
  | error fault =>
      rw [done] at performed
      cases performed
      exact (changed rfl).elim
  | ok result =>
      obtain ⟨row, written⟩ := result
      rw [done] at performed
      cases performed
      obtain ⟨thread, isThread, done⟩ := bind_eq_ok.mp done
      obtain ⟨-, done⟩ := refused_or (Refused.error _) done
      obtain ⟨content, -, done⟩ := bind_eq_ok.mp done
      refine ⟨row, request.owner, row.status, rfl, ?_,
        (owned_of_threadRow isThread).step made⟩
      cases known : requestedMessage before request.owner request.threadId
          request.idempotencyKey with
      | some existing =>
          rw [known] at done
          obtain ⟨-, done⟩ := refused_or (Refused.error _) done
          cases done
          exact (changed rfl).elim
      | none =>
          rw [known] at done
          obtain ⟨parent, -, done⟩ := bind_eq_ok.mp done
          obtain ⟨inserted, isInserted, done⟩ := bind_eq_ok.mp done
          obtain ⟨-, rfl⟩ := insertMessage_eq_ok isInserted
          cases done
          rw [@requestedMessage_added before _ _ _ _ _ rfl, known]
          exact if_pos ⟨rfl, rfl, rfl⟩

theorem edit_recorded {request : EditRequest}
    (made : (chatMachine env).step before (.edit request) =
      some (answer, after)) (changed : after ≠ before)
    (isEdit : ∃ messageId content, change = .edit messageId content) :
    Recorded answer after request.threadId request.idempotencyKey change := by
  obtain ⟨messageId, content, rfl⟩ := isEdit
  have performed := Option.some.inj made
  cases done : editUserMessage env before request with
  | error fault =>
      rw [done] at performed
      cases performed
      exact (changed rfl).elim
  | ok result =>
      obtain ⟨row, written⟩ := result
      rw [done] at performed
      cases performed
      obtain ⟨thread, isThread, done⟩ := bind_eq_ok.mp done
      refine ⟨row, request.owner, row.status, rfl, ?_,
        (owned_of_threadRow isThread).step made⟩
      cases known : requestedMessage before request.owner request.threadId
          request.idempotencyKey with
      | some existing =>
          rw [known] at done
          cases done
          exact (changed rfl).elim
      | none =>
          rw [known] at done
          obtain ⟨original, -, done⟩ := bind_eq_ok.mp done
          obtain ⟨-, done⟩ := refused_or (Refused.error _) done
          obtain ⟨content, -, done⟩ := bind_eq_ok.mp done
          obtain ⟨inserted, isInserted, done⟩ := bind_eq_ok.mp done
          obtain ⟨-, rfl⟩ := insertMessage_eq_ok isInserted
          cases done
          rw [@requestedMessage_edited before _ _ _ _ _ original.id rfl, known]
          exact if_pos ⟨rfl, rfl, rfl⟩

theorem start_recorded {request : StartRequest}
    (made : (chatMachine env).step before (.start request) =
      some (answer, after)) (changed : after ≠ before) :
    Recorded answer after request.threadId request.idempotencyKey
      (.start request.userMessageId request.retryOfMessageId) := by
  have performed := Option.some.inj made
  cases done : startChatGeneration before request with
  | error fault =>
      rw [done] at performed
      cases performed
      exact (changed rfl).elim
  | ok result =>
      obtain ⟨row, written⟩ := result
      rw [done] at performed
      cases performed
      cases @start_call_step env _ _ _ _ done with
      | startedBefore => exact (changed rfl).elim
      | kept _ _ notStart | moved _ _ notStart =>
          exact (notStart request rfl).elim
      | @started _ _ thread question isThread isQuestion role status retried
          isRow keyed freshId =>
          subst isRow
          refine ⟨_, startedRow request thread, rfl, ?_, rfl, rfl, rfl, rfl,
            keyed, (owned_of_threadRow isThread).step made⟩
          rw [Table.lookup_append, Table.lookup, List.find?_eq_none.mpr]
          · simp [Table.lookup, startedRow]
          · intro other member
            rw [decide_eq_true_eq]
            exact freshId other member

end Rows

/-! ## Where keys come from -/

section Sources

variable {env : ChatEnvironment} {before after : ChatTables}
variable {label : ChatLabel} {answer : ChatAnswer}
variable {trace : List ChatMoment} {moment : ChatMoment}
variable {threadId : Uuid} {key : List Char}

/-- A call wrote a row for a request. -/
structure Wrote (moment : ChatMoment) (threadId : Uuid) (key : List Char)
    (change : KeyedChange) : Prop where
  changed : moment.after ≠ moment.before
  asked : keyedRequest moment.label = some (threadId, key, change)

/-- A request to start a generation. -/
def IsStart (change : KeyedChange) : Prop :=
  ∃ question retryOf, change = .start question retryOf

/-- A key is that of an append or an edit of a run, which wrote a message. -/
def MessageSource (trace : List ChatMoment) (threadId : Uuid)
    (key : List Char) : Prop :=
  ∃ moment ∈ trace, ∃ change, Wrote moment threadId key change ∧
    ¬IsStart change ∧ ∃ row, moment.answer = .message row

/-- A key is that of a start of a run, which wrote a generation. -/
def GenerationSource (trace : List ChatMoment) (threadId : Uuid)
    (key : List Char) : Prop :=
  ∃ moment ∈ trace, ∃ change, Wrote moment threadId key change ∧
    IsStart change ∧ ∃ row, moment.answer = .generation row

/-- The keys of the rows are those of the calls that wrote them. -/
structure Sourced (trace : List ChatMoment) (tables : ChatTables) : Prop where
  messages : ∀ row ∈ tables.messages, ∀ key,
    row.requestIdempotencyKey = some key →
      MessageSource trace row.threadId key
  generations : ∀ row ∈ tables.generations,
    GenerationSource trace row.threadId row.idempotencyKey

theorem MessageSource.later (source : MessageSource trace threadId key) :
    MessageSource (trace ++ [moment]) threadId key := by
  obtain ⟨earlier, member, wrote⟩ := source
  exact ⟨earlier, List.mem_append_left _ member, wrote⟩

theorem GenerationSource.later (source : GenerationSource trace threadId key) :
    GenerationSource (trace ++ [moment]) threadId key := by
  obtain ⟨earlier, member, wrote⟩ := source
  exact ⟨earlier, List.mem_append_left _ member, wrote⟩

theorem messages_added {row : MessageRow} {messages : List MessageRow}
    (added : after.messages = messages ++ [row])
    (same : messages.length = before.messages.length) : after ≠ before := by
  rintro rfl
  have lengths := congrArg List.length added
  rw [List.length_append, same, List.length_singleton] at lengths
  omega

/-- An answer has no key. -/
theorem complete_unkeyed {request : CompleteRequest} {row : MessageRow}
    (done : completeChatGeneration env before request = .ok (row, after)) :
    row ∈ before.messages ∨ row.requestIdempotencyKey = none := by
  obtain ⟨generation, -, done⟩ := bind_eq_ok.mp done
  split at done
  · split at done
    · cases done
    · obtain ⟨response, isResponse, done⟩ := bind_eq_ok.mp done
      cases done
      exact .inl (Table.lookup_mem (messageRow_eq_ok.mp isResponse).1)
  · cases done
  · cases done
  all_goals
    obtain ⟨thread, -, done⟩ := bind_eq_ok.mp done
    obtain ⟨content, -, done⟩ := bind_eq_ok.mp done
    obtain ⟨-, done⟩ := refused_or (Refused.error _) done
    obtain ⟨indexed, -, done⟩ := bind_eq_ok.mp done
    obtain ⟨question, -, done⟩ := bind_eq_ok.mp done
    obtain ⟨written, -, done⟩ := bind_eq_ok.mp done
    cases done
    exact .inr rfl

theorem Sourced.message (sourced : Sourced trace before)
    (made : (chatMachine env).step before label = some (answer, after))
    {row : MessageRow} (member : row ∈ after.messages)
    (isKey : row.requestIdempotencyKey = some key) :
    MessageSource (trace ++ [⟨before, label, answer, after⟩]) row.threadId
      key := by
  have this : ∀ known ∈ before.messages, known.threadId = row.threadId →
      known.requestIdempotencyKey = row.requestIdempotencyKey →
      MessageSource (trace ++ [⟨before, label, answer, after⟩]) row.threadId
        key := by
    intro known isKnown sameThread sameKey
    rw [← sameThread]
    exact (sourced.messages known isKnown key (sameKey.trans isKey)).later
  cases call_step_cases made with
  | refused | managed | found | startedBefore | started | stoppedBefore
  | stopped | kept | moved | completedBefore => exact this row member rfl rfl
  | appended request isThread active isContent isParent isRow insertable =>
      rcases List.mem_append.mp member with known | isNew
      · exact this row known rfl rfl
      · obtain rfl := List.mem_singleton.mp isNew
        subst isRow
        cases isKey
        refine ⟨_, List.mem_append_right _ (List.mem_singleton_self _), _,
          ⟨messages_added rfl rfl, rfl⟩, ?_, _, rfl⟩
        rintro ⟨_, _, ⟨⟩⟩
  | edited request isThread isOriginal role status isContent isRow insertable =>
      rcases List.mem_append.mp member with known | isNew
      · obtain ⟨old, isOld, same⟩ := Table.mem_updateWhere.mp known
        apply this old isOld
        · rw [← same]
          split <;> rfl
        · rw [← same]
          split <;> rfl
      · obtain rfl := List.mem_singleton.mp isNew
        subst isRow
        cases isKey
        refine ⟨_, List.mem_append_right _ (List.mem_singleton_self _), _,
          ⟨messages_added rfl (List.length_map _), rfl⟩, ?_, _, rfl⟩
        rintro ⟨_, _, ⟨⟩⟩
  | @completed request old new written citations _ _ _ _ _ insertable =>
      rcases List.mem_append.mp member with known | isNew
      · exact this row known rfl rfl
      · obtain rfl := List.mem_singleton.mp isNew
        have performed := Option.some.inj made
        cases done : completeChatGeneration env before request with
        | error fault =>
            rw [done] at performed
            cases performed
        | ok result =>
            rw [done] at performed
            obtain ⟨same, -⟩ := Prod.mk.inj performed
            cases same
            rcases complete_unkeyed done with known | unkeyed
            · exact (insertable.fresh _ known rfl).elim
            · cases unkeyed.symm.trans isKey

theorem Sourced.generation (sourced : Sourced trace before)
    (made : (chatMachine env).step before label = some (answer, after))
    {row : GenerationRow} (member : row ∈ after.generations) :
    GenerationSource (trace ++ [⟨before, label, answer, after⟩]) row.threadId
      row.idempotencyKey := by
  have this : ∀ known ∈ before.generations, row = known ∨ Advance known row →
      GenerationSource (trace ++ [⟨before, label, answer, after⟩])
        row.threadId row.idempotencyKey := by
    rintro known isKnown (rfl | advance)
    · exact (sourced.generations row isKnown).later
    · rw [advance.threadId, advance.idempotencyKey]
      exact (sourced.generations known isKnown).later
  cases call_step_cases made with
  | refused | managed | found | appended | edited | startedBefore
  | stoppedBefore | kept | completedBefore => exact this row member (.inl rfl)
  | started request _ _ _ _ _ isRow =>
      rcases List.mem_append.mp member with known | isNew
      · exact this row known (.inl rfl)
      · obtain rfl := List.mem_singleton.mp isNew
        subst isRow
        refine ⟨_, List.mem_append_right _ (List.mem_singleton_self _), _,
          ⟨?_, rfl⟩, ⟨_, _, rfl⟩, _, rfl⟩
        intro same
        have lengths := congrArg (fun tables : ChatTables =>
          tables.generations.length) same
        simp at lengths
  | stopped _ _ found advance | moved _ _ _ found advance
  | completed _ _ found advance =>
      rcases mem_withGeneration member with rfl | ⟨known, -⟩
      · exact this _ (Table.lookup_mem found) (.inr advance)
      · exact this row known (.inl rfl)

theorem Sourced.empty : Sourced [] ChatTables.empty :=
  ⟨fun _ member => absurd member List.not_mem_nil,
    fun _ member => absurd member List.not_mem_nil⟩

theorem Sourced.step (sourced : Sourced trace before)
    (made : (chatMachine env).step before label = some (answer, after)) :
    Sourced (trace ++ [⟨before, label, answer, after⟩]) after :=
  ⟨fun _ member _ isKey => sourced.message made member isKey,
    fun _ member => sourced.generation made member⟩

end Sources

/-! ## Every run -/

section Runs

variable {env : ChatEnvironment} {tables : ChatTables}
variable {trace : List ChatMoment} {first again : ChatMoment}
variable {threadId : Uuid} {key : List Char} {used asked : KeyedChange}

/-- A call that wrote a row has recorded it. -/
theorem recorded_of_wrote
    (made : (chatMachine env).Makes first)
    (wrote : Wrote first threadId key used) :
    Recorded first.answer first.after threadId key used := by
  obtain ⟨before, label, answer, after⟩ := first
  obtain ⟨changed, isRequest⟩ := wrote
  dsimp only at changed isRequest ⊢
  cases label with
  | append request =>
      cases isRequest
      exact append_recorded made changed ⟨_, _, _, rfl⟩
  | edit request =>
      cases isRequest
      exact edit_recorded made changed ⟨_, _, rfl⟩
  | start request =>
      cases isRequest
      exact start_recorded made changed
  | create | archive | tombstone | undoTombstone | stop | mark | fail
  | complete => cases isRequest

theorem requestedGeneration_eq (consistent : Consistent trace tables)
    {row : GenerationRow}
    (found : Table.lookup GenerationRow.id row.id tables.generations =
      some row) :
    requestedGeneration tables row.threadId row.idempotencyKey = some row := by
  have isRow := Table.lookup_mem found
  cases known : requestedGeneration tables row.threadId
      row.idempotencyKey with
  | none =>
      have none := List.find?_eq_none.mp known row isRow
      simp at none
  | some other =>
      have isOther := List.mem_of_find?_eq_some known
      have same := List.find?_some known
      rw [decide_eq_true_eq] at same
      have sameId := consistent.keyed other isOther row isRow same.1 same.2
      have lookup := Table.lookup_eq_of_mem consistent.generationIds isOther
      rw [sameId, found] at lookup
      exact lookup.symm

theorem committed_conflict {α : Type} {answered : α → ChatAnswer}
    {outcome : Except ChatFault (α × ChatTables)} {after : ChatTables}
    {answer : ChatAnswer} (other : ∀ row fault, answered row ≠ .refused fault)
    (performed : committed tables answered outcome = (answer, after)) :
    outcome = .error conflict ↔
      answer = .refused conflict ∧ after = tables := by
  cases outcome with
  | error fault =>
      cases performed
      rw [and_iff_left rfl, ChatAnswer.refused.injEq, Except.error.injEq]
  | ok result =>
      cases performed
      refine iff_of_false (by rintro ⟨⟩) fun raised => ?_
      exact other _ _ raised.1

/-- An append conflicts with the message under its key when the hash tells
them apart. -/
theorem append_conflicts_iff {request : AppendRequest} {answered : ChatAnswer}
    (recorded : Recorded answered tables request.threadId
      request.idempotencyKey used) (isMessage : ¬IsStart used) :
    appendUserMessage env tables request = .error conflict ↔
      ∃ row, answered = .message row ∧ ∃ thread content,
        threadRow tables request.threadId request.owner = .ok thread ∧
        thread.status = .active ∧
        normalizedContent request.content = .ok content ∧
        row.contentSha256 ≠ messageHash env .user content row.revision
          request.parentMessageId := by
  have held : ∃ row owner status, answered = .message row ∧
      requestedMessage tables owner request.threadId request.idempotencyKey =
        some { row with status := status } ∧
      Owned tables request.threadId owner := by
    cases used with
    | append | edit => exact recorded
    | start question retryOf => exact (isMessage ⟨question, retryOf, rfl⟩).elim
  obtain ⟨row, owner, status, isRow, found, owned⟩ := held
  rw [append_conflict_iff]
  constructor
  · rintro ⟨thread, content, other, isThread, active, isContent, known,
      differs⟩
    obtain rfl := owned.unique (owned_of_threadRow isThread)
    cases found.symm.trans known
    exact ⟨row, isRow, thread, content, isThread, active, isContent, differs⟩
  · rintro ⟨other, isOther, thread, content, isThread, active, isContent,
      differs⟩
    obtain rfl := owned.unique (owned_of_threadRow isThread)
    cases isRow.symm.trans isOther
    exact ⟨thread, content, _, isThread, active, isContent, found, differs⟩

/-- A start conflicts with another one under its key when its checks pass. -/
theorem start_conflicts_iff {request : StartRequest} {answered : ChatAnswer}
    {question : Uuid} {retryOf : Option Uuid}
    (consistent : Consistent trace tables)
    (recorded : Recorded answered tables request.threadId
      request.idempotencyKey (.start question retryOf))
    (differs : KeyedChange.start request.userMessageId
      request.retryOfMessageId ≠ .start question retryOf) :
    startChatGeneration tables request = .error conflict ↔
      StartChecked tables request := by
  obtain ⟨row, later, -, found, isThread, isKey, isQuestion, isRetry, keyed,
    owned⟩ := recorded
  rw [start_conflict_iff]
  refine ⟨And.left, fun checked => ⟨checked, keyed, later, ?_, ?_, ?_⟩⟩
  · rw [← isThread, ← isKey]
    exact requestedGeneration_eq consistent (Table.lookup_key found ▸ found)
  · obtain ⟨thread, _, isThread, -⟩ := checked
    exact owned.unique (owned_of_threadRow isThread)
  · rw [← not_and_or]
    rintro ⟨sameQuestion, sameRetry⟩
    rw [← isQuestion, ← isRetry, sameQuestion, sameRetry] at differs
    exact differs rfl

theorem reuses_iff : Reuses first again ↔
    ∃ threadId key used asked, Wrote first threadId key used ∧
      keyedRequest again.label = some (threadId, key, asked) ∧
      asked ≠ used := by
  constructor
  · rintro ⟨⟨threadId, key, used⟩, isUsed, ⟨_, _, asked⟩, isAsked, rfl, rfl,
      differs, changed⟩
    exact ⟨_, _, used, asked, ⟨changed, isUsed⟩, isAsked, differs⟩
  · rintro ⟨threadId, key, used, asked, wrote, isAsked, differs⟩
    exact ⟨(threadId, key, used), wrote.asked, (threadId, key, asked), isAsked,
      rfl, rfl, differs, wrote.changed⟩

/-- Where keys stand for one request, a key of a message is not one of a
generation. -/
theorem kinds_agree (stand : KeysStand trace)
    (sent : MessageSource trace threadId key)
    (started : GenerationSource trace threadId key) : False := by
  obtain ⟨message, isMessage, sent, wroteMessage, notStart, row, isRow⟩ := sent
  obtain ⟨generation, isGeneration, started, wroteGeneration, isStart, other,
    isOther⟩ := started
  have differs : started ≠ sent := fun same => notStart (same ▸ isStart)
  have different : message ≠ generation := by
    rintro rfl
    cases isRow.symm.trans isOther
  -- Whichever of the two calls came first, the other one has raised.
  have apart : trace.Pairwise fun first again =>
      (Reuses first again → again.answer = .refused conflict) ∨
        (Reuses again first → first.answer = .refused conflict) :=
    stand.imp fun stands => .inl fun reuses => (stands reuses).1
  have symmetric : Std.Symm fun first again : ChatMoment =>
      (Reuses first again → again.answer = .refused conflict) ∨
        (Reuses again first → first.answer = .refused conflict) :=
    ⟨fun _ _ => Or.symm⟩
  rcases apart.forall isMessage isGeneration different with raises | raises
  · cases isOther.symm.trans (raises (reuses_iff.mpr
      ⟨_, _, _, _, wroteMessage, wroteGeneration.asked, differs⟩))
  · cases isRow.symm.trans (raises (reuses_iff.mpr
      ⟨_, _, _, _, wroteGeneration, wroteMessage.asked, differs.symm⟩))

theorem Recorded.kind {answer : ChatAnswer}
    (recorded : Recorded answer tables threadId key used) :
    (¬IsStart used ∧ ∃ row, answer = .message row) ∨
      (IsStart used ∧ ∃ row, answer = .generation row) := by
  cases used with
  | append | edit =>
      obtain ⟨row, _, _, isRow, -⟩ := recorded
      refine .inl ⟨?_, row, isRow⟩
      rintro ⟨_, _, ⟨⟩⟩
  | start question retryOf =>
      obtain ⟨row, _, isRow, -⟩ := recorded
      exact .inr ⟨⟨question, retryOf, rfl⟩, row, isRow⟩

/-- Where the calls before have kept their keys apart, a call that reuses a key
raises the conflict when it is compared. -/
theorem conflicts_iff_compared (stand : KeysStand trace)
    (sourced : Sourced trace again.before)
    (consistent : Consistent trace again.before)
    (made : (chatMachine env).Makes again) (member : first ∈ trace)
    (wrote : Wrote first threadId key used)
    (recorded : Recorded first.answer again.before threadId key used)
    (isRequest : keyedRequest again.label = some (threadId, key, asked))
    (differs : asked ≠ used) :
    (again.answer = .refused conflict ∧ again.after = again.before) ↔
      Compared env first again := by
  obtain ⟨before, label, answer, after⟩ := again
  unfold Machine.Makes at made
  unfold Compared
  dsimp only at made isRequest recorded sourced consistent ⊢
  cases label with
  | append request =>
      cases isRequest
      rw [← committed_conflict (by rintro _ _ ⟨⟩) (Option.some.inj made)]
      rcases recorded.kind with ⟨isMessage, row, isRow⟩ | ⟨isStart, row, isRow⟩
      · rw [append_conflicts_iff recorded isMessage, isRow]
        constructor
        · rintro ⟨other, isOther, compared⟩
          cases isOther
          exact compared
        · exact fun compared => ⟨row, rfl, compared⟩
      · rw [isRow]
        refine iff_of_false (fun raised => ?_) id
        -- The message under the key is of a call that was not compared.
        obtain ⟨_, _, other, -, -, -, known, -⟩ := append_conflict_iff.mp raised
        have inThread := List.find?_some known
        rw [decide_eq_true_eq] at inThread
        have sent := sourced.messages other (requestedMessage_mem known) _
          inThread.2.2
        rw [inThread.1] at sent
        exact kinds_agree stand sent
          ⟨first, member, used, wrote, isStart, row, isRow⟩
  | edit request =>
      refine iff_of_false ?_ id
      rw [← committed_conflict (by rintro _ _ ⟨⟩) (Option.some.inj made)]
      exact edit_no_conflict request
  | start request =>
      cases isRequest
      rw [← committed_conflict (by rintro _ _ ⟨⟩) (Option.some.inj made)]
      rcases recorded.kind with ⟨isMessage, row, isRow⟩ | ⟨isStart, row, isRow⟩
      · rw [isRow]
        refine iff_of_false (fun raised => ?_) id
        obtain ⟨-, -, other, known, -⟩ := start_conflict_iff.mp raised
        have inThread := List.find?_some known
        rw [decide_eq_true_eq] at inThread
        have started := sourced.generations other
          (List.mem_of_find?_eq_some known)
        rw [inThread.1, inThread.2] at started
        exact kinds_agree stand
          ⟨first, member, used, wrote, isMessage, row, isRow⟩ started
      · obtain ⟨question, retryOf, rfl⟩ := isStart
        rw [start_conflicts_iff consistent recorded differs, isRow]
  | create | archive | tombstone | undoTombstone | stop | mark | fail
  | complete => cases isRequest

/-- The rows of a run are those that its calls have written. -/
structure KeepsKeys (trace : List ChatMoment) (tables : ChatTables) :
    Prop where
  consistent : Consistent trace tables
  sourced : Sourced trace tables
  recorded : ∀ first ∈ trace, ∀ threadId key used,
    Wrote first threadId key used →
      Recorded first.answer tables threadId key used

theorem KeepsKeys.step {before after : ChatTables} {label : ChatLabel}
    {answer : ChatAnswer} (keeps : KeepsKeys trace before)
    (made : (chatMachine env).step before label = some (answer, after)) :
    KeepsKeys (trace ++ [⟨before, label, answer, after⟩]) after where
  consistent := keeps.consistent.step (call_step_cases made)
  sourced := keeps.sourced.step made
  recorded := by
    intro first member threadId key used wrote
    rcases List.mem_append.mp member with earlier | isNew
    · exact (keeps.recorded first earlier threadId key used wrote).step made
    · obtain rfl := List.mem_singleton.mp isNew
      exact recorded_of_wrote made wrote

/-- A call keeps the keys apart when the calls before did and it is compared
wherever it reuses a key. -/
theorem KeepsKeys.stand_iff {before after : ChatTables} {label : ChatLabel}
    {answer : ChatAnswer} (keeps : KeepsKeys trace before)
    (made : (chatMachine env).step before label = some (answer, after))
    (stand : KeysStand trace) (member : first ∈ trace) :
    (Reuses first ⟨before, label, answer, after⟩ →
      answer = .refused conflict ∧ after = before) ↔
    (Reuses first ⟨before, label, answer, after⟩ →
      Compared env first ⟨before, label, answer, after⟩) := by
  apply imp_congr_right
  intro reuses
  obtain ⟨threadId, key, used, asked, wrote, isAsked, differs⟩ :=
    reuses_iff.mp reuses
  exact @conflicts_iff_compared env trace first
    ⟨before, label, answer, after⟩ threadId key used asked stand keeps.sourced
    keeps.consistent made member wrote
    (keeps.recorded first member threadId key used wrote) isAsked differs

/-- In every run, keys stand for one request if and only if every call that
reuses a key is compared with the call that used it. -/
theorem keys_stand_iff {final : ChatTables}
    (run : (chatMachine env).Run Machine.unguarded ChatTables.empty trace
      final) :
    KeysStand trace ↔ trace.Pairwise fun first again =>
      Reuses first again → Compared env first again := by
  have both : KeepsKeys trace final ∧ (KeysStand trace ↔
      trace.Pairwise fun first again =>
        Reuses first again → Compared env first again) := by
    apply run.traced fun trace tables => KeepsKeys trace tables ∧
      (KeysStand trace ↔ trace.Pairwise fun first again =>
        Reuses first again → Compared env first again)
    · refine ⟨⟨Consistent.empty, Sourced.empty, ?_⟩, ?_⟩
      · exact fun _ member => absurd member List.not_mem_nil
      · exact iff_of_true List.Pairwise.nil List.Pairwise.nil
    · rintro earlier before label answer after ⟨keeps, same⟩ - made
      refine ⟨keeps.step made, ?_⟩
      rw [KeysStand, List.pairwise_append, List.pairwise_append, ← same]
      apply and_congr_right
      intro stand
      rw [and_iff_right (List.pairwise_singleton _ _),
        and_iff_right (List.pairwise_singleton _ _)]
      apply forall₂_congr
      intro first member
      rw [List.forall_mem_singleton, List.forall_mem_singleton]
      exact keeps.stand_iff made stand member
  exact both.2

end Runs

/-! ## Keys that are not kept apart -/

def contentEnvironment : ChatEnvironment where
  canonicalSha256
    | .obj ((_, .str content) :: _) => content
    | _ => ""
  integratedCitationAllowed := fun _ _ => true

/-- The question once more, under the same key but with another content. -/
def repeatedQuestion : ChatLabel :=
  .append
    { threadId := ⟨10⟩
      owner := exampleOwner
      content := "other".toList
      idempotencyKey := "append-1".toList
      parentMessageId := none
      branchId := none
      newBranch := ⟨22⟩
      newId := ⟨32⟩
      now := 2 }

/-- A repeated append raises the conflict, as it is compared. -/
theorem repeated_question_is_compared :
    ∃ trace final, (chatMachine contentEnvironment).Run Machine.unguarded
        ChatTables.empty trace final ∧
      (∃ first ∈ trace, ∃ again ∈ trace, Reuses first again) ∧
      trace.Pairwise fun first again =>
        Reuses first again → Compared contentEnvironment first again := by
  have carried : ((chatMachine contentEnvironment).replay Machine.unguarded
      ChatTables.empty (questionSteps ++ [repeatedQuestion])).map
      (fun (trace, _) => decide (KeysStand trace ∧
        ∃ first ∈ trace, ∃ again ∈ trace, Reuses first again)) =
      some true := by
    decide +kernel
  obtain ⟨trace, final, run, seen⟩ := Machine.exists_run_of_replay carried
  obtain ⟨stand, reused⟩ := of_decide_eq_true seen
  exact ⟨trace, final, run, reused, (keys_stand_iff run).mp stand⟩

def answeredMessage : ChatAnswer → Option Uuid
  | .message row => some row.id
  | .refused _ | .thread | .generation _ => none

/-- An edit under the key of another edit is answered with the message of that
edit, and an edit under the key of an append with the appended message. -/
theorem repeated_edits_are_accepted :
    ∃ trace final, (chatMachine contentEnvironment).Run Machine.unguarded
        ChatTables.empty trace final ∧
      trace.map (fun moment => answeredMessage moment.answer) =
        [none, some ⟨30⟩, some ⟨31⟩, some ⟨31⟩, some ⟨30⟩] ∧
      ¬KeysStand trace := by
  have carried : ((chatMachine contentEnvironment).replay Machine.unguarded
      ChatTables.empty (questionSteps ++ [.edit exampleEdit,
        .edit { exampleEdit with
          messageId := ⟨31⟩
          content := "other".toList },
        .edit { exampleEdit with
          idempotencyKey := "append-1".toList }])).map
      (fun (trace, _) =>
        (trace.map fun moment => answeredMessage moment.answer,
          decide (KeysStand trace))) =
      some ([none, some ⟨30⟩, some ⟨31⟩, some ⟨31⟩, some ⟨30⟩], false) := by
    decide +kernel
  obtain ⟨trace, final, run, seen⟩ := Machine.exists_run_of_replay carried
  obtain ⟨answers, fails⟩ := Prod.mk.inj seen
  exact ⟨trace, final, run, answers, of_decide_eq_false fails⟩

end SecAI.Chat
