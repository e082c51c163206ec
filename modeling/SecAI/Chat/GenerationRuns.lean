/-
Module: SecAI.Chat.GenerationRuns
Purpose: What every order of the calls of the chat leaves of a generation: its
  terminal statuses, its one response and the key that names it.
Trusted boundary: none
Main exports:
  responseWritten, responses, SoundGenerations, generations_are_sound
-/
import SecAI.Chat.Calls
import Mathlib.Data.List.Nodup

namespace SecAI.Chat

open Interleaving

/-! ## Responses -/

def responseWritten (generationId : Uuid)
    (moment : Moment ChatTables ChatLabel ChatAnswer) : Option MessageRow :=
  match moment.label, moment.answer with
  | .complete request, .message row =>
      if request.generationId = generationId ∧
          row ∉ moment.before.messages then some row
      else none
  | _, _ => none

/-- The messages that the steps of a run have written for a generation. -/
def responses (generationId : Uuid)
    (trace : List (Moment ChatTables ChatLabel ChatAnswer)) :
    List MessageRow :=
  trace.filterMap (responseWritten generationId)

/-- A message is the response of a generation. -/
structure IsResponse (row : GenerationRow) (message : MessageRow) : Prop where
  named : row.responseMessageId = some message.id
  role : message.role = .assistant
  threadId : message.threadId = row.threadId
  owner : message.owner = row.owner
  parent : message.parentMessageId = some row.userMessageId

/-- A completed generation has one response, and any other has none. -/
def Answered (trace : List (Moment ChatTables ChatLabel ChatAnswer))
    (tables : ChatTables) (row : GenerationRow) : Prop :=
  if row.status = .completed then
    ∃ message ∈ tables.messages, responses row.id trace = [message] ∧
      IsResponse row message
  else responses row.id trace = [] ∧ row.responseMessageId = none

/-- A run has treated its generations as a sound state machine does. -/
structure SoundGenerations (env : ChatEnvironment)
    (trace : List (Moment ChatTables ChatLabel ChatAnswer))
    (final : ChatTables) : Prop where
  /-- What a terminal generation is, it stays. -/
  absorbing : ∀ moment ∈ trace, ∀ generationId row,
    Table.lookup GenerationRow.id generationId moment.after.generations =
      some row →
    row.status.isTerminal = true →
    Table.lookup GenerationRow.id generationId final.generations = some row
  atMostOne : ∀ generationId, (responses generationId trace).length ≤ 1
  answered : ∀ generationId row,
    Table.lookup GenerationRow.id generationId final.generations = some row →
    Answered trace final row
  /-- Completing a completed generation once more returns its response. -/
  repeated : ∀ request message,
    responses request.generationId trace = [message] →
    message.owner = request.owner →
    (chatMachine env).step final (.complete request) =
      some (.message message, final)
  /-- No completion is accepted behind an accepted stop. -/
  stopped : ∀ earlier stop later, trace = earlier ++ stop :: later →
    ∀ generationId owner now row,
      stop.label = .stop generationId owner now →
      stop.answer = .generation row →
      responses generationId trace = [] ∧
        ∀ moment ∈ later, ∀ request,
          moment.label = .complete request →
          request.generationId = generationId →
          ∃ fault, moment.answer = .refused fault
  /-- The key of a thread names one row, -/
  keyed : ∀ first ∈ final.generations, ∀ second ∈ final.generations,
    first.threadId = second.threadId →
    first.idempotencyKey = second.idempotencyKey → first = second
  /-- and every request with the key is answered with that row. -/
  started : ∀ first ∈ trace, ∀ second ∈ trace, ∀ request again row other,
    first.label = .start request → second.label = .start again →
    first.answer = .generation row → second.answer = .generation other →
    request.threadId = again.threadId →
    request.idempotencyKey = again.idempotencyKey → row.id = other.id

/-! ## Terminal rows -/

section Terminal

variable {env : ChatEnvironment} {before after : ChatTables}
variable {label : ChatLabel} {answer : ChatAnswer}

variable {generationId : Uuid}

theorem lookup_withGeneration {old new : GenerationRow}
    (advance : Advance old new) :
    Table.lookup GenerationRow.id generationId
        (before.withGeneration old.id fun _ => new).generations =
      (Table.lookup GenerationRow.id generationId before.generations).map
        fun row => if decide (row.id = old.id) then new else row := by
  rw [ChatTables.withGeneration, Table.lookup_updateWhere]
  intro changed matched
  rw [decide_eq_true_eq] at matched
  exact advance.id.trans matched.symm

variable {row : GenerationRow}

theorem stays_withGeneration {old new : GenerationRow}
    (isOld : Table.lookup GenerationRow.id old.id before.generations = some old)
    (advance : Advance old new)
    (found : Table.lookup GenerationRow.id generationId before.generations =
      some row) :
    ∃ later, Table.lookup GenerationRow.id generationId
        (before.withGeneration old.id fun _ => new).generations = some later ∧
      (later = row ∨ Advance row later) := by
  rw [lookup_withGeneration advance, found, Option.map_some]
  by_cases same : row.id = old.id
  case pos =>
      rw [← same, Table.lookup_key found, found] at isOld
      cases isOld
      exact ⟨new, by rw [decide_eq_true rfl, if_pos rfl], .inr advance⟩
  case neg =>
      exact ⟨row, by rw [decide_eq_false same, if_neg nofun], .inl rfl⟩

theorem generation_stays (call : CallStep env before label answer after)
    (found : Table.lookup GenerationRow.id generationId before.generations =
      some row) :
    ∃ later, Table.lookup GenerationRow.id generationId after.generations =
        some later ∧ (later = row ∨ Advance row later) := by
  cases call with
  | refused | managed | found | appended | edited | startedBefore
  | stoppedBefore | kept | completedBefore => exact ⟨row, found, .inl rfl⟩
  | started => exact ⟨row, Table.lookup_append_of_some found _, .inl rfl⟩
  | stopped owner now isOld advance =>
      exact stays_withGeneration isOld advance found
  | moved _ _ _ isOld advance =>
      exact stays_withGeneration isOld advance found
  | completed request _ isOld advance =>
      exact stays_withGeneration isOld advance found

theorem terminal_kept (call : CallStep env before label answer after)
    (found : Table.lookup GenerationRow.id generationId before.generations =
      some row) (terminal : row.status.isTerminal = true) :
    Table.lookup GenerationRow.id generationId after.generations =
      some row := by
  obtain ⟨later, isLater, same | advance⟩ := generation_stays call found
  · rw [isLater, same]
  · rw [advance.wasOpen] at terminal
    cases terminal

theorem terminal_stays {start final : ChatTables}
    {trace : List (Moment ChatTables ChatLabel ChatAnswer)}
    (run : (chatMachine env).Run Machine.unguarded start trace final)
    (found : Table.lookup GenerationRow.id generationId start.generations =
      some row) (terminal : row.status.isTerminal = true) :
    Table.lookup GenerationRow.id generationId final.generations =
      some row :=
  run.invariant (fun tables => Table.lookup GenerationRow.id generationId
    tables.generations = some row) found
    fun _ _ _ _ known _ made => terminal_kept (call_step_cases made) known
      terminal

theorem stopped_refuses {request : CompleteRequest}
    (call : CallStep env before (.complete request) answer after)
    (found : Table.lookup GenerationRow.id request.generationId
      before.generations = some row) (stopped : row.status = .stopped) :
    ∃ fault, answer = .refused fault := by
  cases call with
  | refused label fault => exact ⟨fault, rfl⟩
  | managed notCompletion | found notCompletion | kept notCompletion
  | moved notCompletion => exact absurd rfl (notCompletion request)
  | completedBefore request known completed =>
      cases known.symm.trans found
      cases completed.symm.trans stopped
  | completed request requested known advance =>
      rw [requested] at known
      cases known.symm.trans found
      have wasOpen := advance.wasOpen
      rw [stopped] at wasOpen
      cases wasOpen

end Terminal

/-! ## The invariant -/

/-- The rows and the responses of a run belong together. -/
structure Consistent (trace : List (Moment ChatTables ChatLabel ChatAnswer))
    (tables : ChatTables) : Prop where
  generationIds : (tables.generations.map GenerationRow.id).Nodup
  keyed : ∀ first ∈ tables.generations, ∀ second ∈ tables.generations,
    first.threadId = second.threadId →
    first.idempotencyKey = second.idempotencyKey → first.id = second.id
  messageIds : (tables.messages.map MessageRow.id).Nodup
  answered : ∀ row ∈ tables.generations, Answered trace tables row
  unknown : ∀ generationId, (∀ row ∈ tables.generations,
    row.id ≠ generationId) → responses generationId trace = []

section Preservation

variable {trace : List (Moment ChatTables ChatLabel ChatAnswer)}
variable {before after : ChatTables} {label : ChatLabel} {answer : ChatAnswer}

variable {moment : Moment ChatTables ChatLabel ChatAnswer}

theorem responses_append_of_silent {generationId : Uuid}
    (silent : responseWritten generationId moment = none) :
    responses generationId (trace ++ [moment]) =
      responses generationId trace := by
  rw [responses, List.filterMap_append, List.filterMap_cons_none silent,
    List.filterMap_nil, List.append_nil, responses]

/-- What is known of a generation is kept by a step that writes no response
and keeps the answers. -/
theorem Answered.of_silent {row : GenerationRow}
    (answered : Answered trace before row)
    (silent : responseWritten row.id moment = none)
    (keeps : ∀ message ∈ before.messages, message.role = .assistant →
      message ∈ after.messages) : Answered (trace ++ [moment]) after row := by
  rw [Answered] at answered ⊢
  rw [responses_append_of_silent silent]
  split
  · next completed =>
      rw [if_pos completed] at answered
      obtain ⟨message, member, written, isResponse⟩ := answered
      exact ⟨message, keeps message member isResponse.role, written, isResponse⟩
  · next open_ =>
      rw [if_neg open_] at answered
      exact answered

/-- A step that writes no response and changes no generation. -/
theorem Consistent.of_messages (consistent : Consistent trace before)
    (sameGenerations : after.generations = before.generations)
    (messageIds : (after.messages.map MessageRow.id).Nodup)
    (keeps : ∀ message ∈ before.messages, message.role = .assistant →
      message ∈ after.messages)
    (silent : ∀ generationId, responseWritten generationId moment = none) :
    Consistent (trace ++ [moment]) after := by
  constructor
  case generationIds =>
      rw [sameGenerations]
      exact consistent.generationIds
  case keyed =>
      rw [sameGenerations]
      exact consistent.keyed
  case messageIds => exact messageIds
  case answered =>
      intro row member
      rw [sameGenerations] at member
      exact (consistent.answered row member).of_silent (silent _) keeps
  case unknown =>
      intro generationId absent
      rw [sameGenerations] at absent
      rw [responses_append_of_silent (silent _)]
      exact consistent.unknown generationId absent

theorem Consistent.of_unchanged (consistent : Consistent trace before)
    (sameGenerations : after.generations = before.generations)
    (sameMessages : after.messages = before.messages)
    (silent : ∀ generationId, responseWritten generationId moment = none) :
    Consistent (trace ++ [moment]) after := by
  apply consistent.of_messages sameGenerations _ _ silent
  · rw [sameMessages]
    exact consistent.messageIds
  · intro message member _
    rw [sameMessages]
    exact member

theorem nodup_insertable {row : MessageRow} {messages : List MessageRow}
    (insertable : Insertable before row)
    (sameIds : messages.map MessageRow.id = before.messages.map MessageRow.id)
    (distinct : (before.messages.map MessageRow.id).Nodup) :
    ((messages ++ [row]).map MessageRow.id).Nodup := by
  rw [List.map_append, List.nodup_append]
  refine ⟨sameIds ▸ distinct, List.nodup_singleton _, ?_⟩
  intro id member other isRow same
  obtain ⟨old, oldMember, rfl⟩ := List.mem_map.mp (sameIds ▸ member)
  rw [List.map_singleton, List.mem_singleton] at isRow
  exact insertable.fresh old oldMember (same.trans isRow)

/-- A new generation. -/
theorem Consistent.of_started {row : GenerationRow}
    (consistent : Consistent trace before) (queued : row.status = .queued)
    (unanswered : row.responseMessageId = none)
    (freshId : ∀ other ∈ before.generations, other.id ≠ row.id)
    (freshKey : ∀ other ∈ before.generations,
      ¬(other.threadId = row.threadId ∧
        other.idempotencyKey = row.idempotencyKey))
    (silent : ∀ generationId, responseWritten generationId moment = none) :
    Consistent (trace ++ [moment])
      { before with generations := before.generations ++ [row] } := by
  constructor
  case generationIds =>
      rw [List.map_append, List.nodup_append]
      refine ⟨consistent.generationIds, List.nodup_singleton _, ?_⟩
      intro id member other isRow same
      obtain ⟨old, oldMember, rfl⟩ := List.mem_map.mp member
      rw [List.map_singleton, List.mem_singleton] at isRow
      exact freshId old oldMember (same.trans isRow)
  case keyed =>
      intro first firstMember second secondMember sameThread sameKey
      rcases List.mem_append.mp firstMember with known | isNew
      · rcases List.mem_append.mp secondMember with known' | isNew'
        · exact consistent.keyed first known second known' sameThread sameKey
        · cases List.mem_singleton.mp isNew'
          exact (freshKey first known ⟨sameThread, sameKey⟩).elim
      · cases List.mem_singleton.mp isNew
        rcases List.mem_append.mp secondMember with known' | isNew'
        · exact (freshKey second known'
            ⟨sameThread.symm, sameKey.symm⟩).elim
        · cases List.mem_singleton.mp isNew'
          rfl
  case messageIds => exact consistent.messageIds
  case answered =>
      intro other member
      rcases List.mem_append.mp member with known | isNew
      · exact (consistent.answered other known).of_silent (silent _)
          fun _ kept _ => kept
      · cases List.mem_singleton.mp isNew
        rw [Answered, if_neg (by rw [queued]; exact nofun),
          responses_append_of_silent (silent _)]
        exact ⟨consistent.unknown row.id freshId, unanswered⟩
  case unknown =>
      intro generationId absent
      rw [responses_append_of_silent (silent _)]
      exact consistent.unknown generationId fun other member =>
        absent other (List.mem_append_left _ member)

theorem mem_withGeneration {old new row : GenerationRow}
    (member : row ∈ (before.withGeneration old.id fun _ => new).generations) :
    row = new ∨ row ∈ before.generations ∧ row.id ≠ old.id := by
  obtain ⟨other, known, same⟩ := Table.mem_updateWhere.mp member
  split at same
  · exact .inl same.symm
  · next different =>
      subst same
      exact .inr ⟨known, by simpa using different⟩

theorem map_withGeneration {β : Type} {field : GenerationRow → β}
    {old new : GenerationRow}
    (distinct : (before.generations.map GenerationRow.id).Nodup)
    (member : old ∈ before.generations) (keeps : field new = field old) :
    (before.withGeneration old.id fun _ => new).generations.map field =
      before.generations.map field := by
  rw [ChatTables.withGeneration, Table.updateWhere, List.map_map]
  apply List.map_congr_left
  intro row known
  by_cases same : row.id = old.id
  · have isOld : row = old :=
      List.inj_on_of_nodup_map distinct known member same
    simp [isOld, keeps]
  · simp [same]

/-- A generation that has moved on. -/
theorem Consistent.of_changed {old new : GenerationRow}
    {messages : List MessageRow} {citations : List CitationRow}
    (consistent : Consistent trace before)
    (found : Table.lookup GenerationRow.id old.id before.generations = some old)
    (advance : Advance old new)
    (messageIds : (messages.map MessageRow.id).Nodup)
    (keeps : ∀ message ∈ before.messages, message ∈ messages)
    (silent : ∀ generationId, generationId ≠ old.id →
      responseWritten generationId moment = none)
    (answered : Answered (trace ++ [moment])
      { before.withGeneration old.id (fun _ => new) with
        messages := messages
        citations := citations } new) :
    Consistent (trace ++ [moment])
      { before.withGeneration old.id (fun _ => new) with
        messages := messages
        citations := citations } := by
  have oldMember := Table.lookup_mem found
  constructor
  case generationIds =>
      dsimp only
      rw [map_withGeneration consistent.generationIds oldMember advance.id]
      exact consistent.generationIds
  case keyed =>
      intro first firstMember second secondMember sameThread sameKey
      rcases mem_withGeneration firstMember with rfl | ⟨known, _⟩
      · rcases mem_withGeneration secondMember with rfl | ⟨known', _⟩
        · rfl
        · rw [advance.id]
          exact consistent.keyed old oldMember second known'
            (advance.threadId.symm.trans sameThread)
            (advance.idempotencyKey.symm.trans sameKey)
      · rcases mem_withGeneration secondMember with rfl | ⟨known', _⟩
        · rw [advance.id]
          exact consistent.keyed first known old oldMember
            (sameThread.trans advance.threadId)
            (sameKey.trans advance.idempotencyKey)
        · exact consistent.keyed first known second known' sameThread sameKey
  case messageIds => exact messageIds
  case answered =>
      intro row member
      rcases mem_withGeneration member with rfl | ⟨known, different⟩
      · exact answered
      · exact (consistent.answered row known).of_silent (silent _ different)
          fun message kept _ => keeps message kept
  case unknown =>
      intro generationId absent
      have newMember : new ∈
          (before.withGeneration old.id fun _ => new).generations :=
        Table.mem_updateWhere.mpr ⟨old, oldMember, by simp⟩
      have different : generationId ≠ old.id := fun same =>
        absent new newMember (advance.id.trans same.symm)
      rw [responses_append_of_silent (silent _ different)]
      apply consistent.unknown
      intro row known same
      have different' : row.id ≠ old.id := fun isOld =>
        different (same.symm.trans isOld)
      exact absent row (Table.mem_updateWhere.mpr
        ⟨row, known, by simp [different']⟩) same

end Preservation

/-! ## Every run is sound -/

section Runs

variable {env : ChatEnvironment}
variable {trace : List (Moment ChatTables ChatLabel ChatAnswer)}

theorem Answered.of_open {tables : ChatTables} {row : GenerationRow}
    (answered : Answered trace tables row)
    (wasOpen : row.status.isTerminal = false) :
    responses row.id trace = [] ∧ row.responseMessageId = none := by
  rw [Answered, if_neg] at answered
  · exact answered
  · intro completed
    rw [completed] at wasOpen
    cases wasOpen

theorem Consistent.of_moved {before : ChatTables}
    {moment : Moment ChatTables ChatLabel ChatAnswer}
    {old new : GenerationRow} (consistent : Consistent trace before)
    (found : Table.lookup GenerationRow.id old.id before.generations = some old)
    (advance : Advance old new) (notCompleted : new.status ≠ .completed)
    (unanswered : new.responseMessageId = old.responseMessageId)
    (silent : ∀ generationId, responseWritten generationId moment = none) :
    Consistent (trace ++ [moment])
      (before.withGeneration old.id fun _ => new) := by
  have wasAnswered := (consistent.answered old
    (Table.lookup_mem found)).of_open advance.wasOpen
  apply consistent.of_changed found advance consistent.messageIds
    (fun _ kept => kept) fun _ _ => silent _
  rw [Answered, if_neg notCompleted, responses_append_of_silent (silent _),
    advance.id, unanswered]
  exact wasAnswered

/-- Each call keeps the rows and the responses together. -/
theorem Consistent.step {before after : ChatTables} {label : ChatLabel}
    {answer : ChatAnswer} (consistent : Consistent trace before)
    (call : CallStep env before label answer after) :
    Consistent (trace ++ [⟨before, label, answer, after⟩]) after := by
  cases call with
  | refused label fault =>
      refine consistent.of_unchanged rfl rfl fun generationId => ?_
      cases label <;> rfl
  | managed notCompletion threads =>
      refine consistent.of_unchanged rfl rfl fun generationId => ?_
      cases label <;> rfl
  | found notCompletion member =>
      refine consistent.of_unchanged rfl rfl fun generationId => ?_
      cases label with
      | complete request => exact absurd rfl (notCompletion request)
      | _ => rfl
  | appended request isThread active isContent isParent isRow insertable =>
      exact consistent.of_messages rfl
        (nodup_insertable insertable rfl consistent.messageIds)
        (fun message member _ => List.mem_append_left _ member) fun _ => rfl
  | edited request isThread isOriginal originalRole originalStatus isContent
      isRow insertable =>
      refine consistent.of_messages rfl ?_ ?_ fun _ => rfl
      · refine nodup_insertable insertable ?_ consistent.messageIds
        exact Table.map_updateWhere (by exact fun _ => rfl) _
      · intro message member role
        apply List.mem_append_left
        refine Table.mem_updateWhere.mpr ⟨message, member, if_neg ?_⟩
        -- The superseded message is the question, not an answer.
        intro matched
        rw [decide_eq_true_eq] at matched
        have same := List.inj_on_of_nodup_map consistent.messageIds member
          (Table.lookup_mem (messageRow_eq_ok.mp isOriginal).1) matched
        rw [same, originalRole] at role
        cases role
  | startedBefore => exact consistent.of_unchanged rfl rfl fun _ => rfl
  | started request isThread isQuestion role status retried isRow keyed freshId
      freshKey =>
      subst isRow
      exact consistent.of_started rfl rfl freshId freshKey fun _ => rfl
  | stoppedBefore => exact consistent.of_unchanged rfl rfl fun _ => rfl
  | stopped owner now found advance status unanswered =>
      exact consistent.of_moved found advance (by rw [status]; exact nofun)
        unanswered fun _ => rfl
  | kept notCompletion =>
      refine consistent.of_unchanged rfl rfl fun generationId => ?_
      cases label <;> rfl
  | moved notCompletion _ _ found advance notCompleted unanswered =>
      apply consistent.of_moved found advance notCompleted unanswered
      intro generationId
      cases label <;> rfl
  | completedBefore request found completed response member =>
      refine consistent.of_unchanged rfl rfl fun generationId => ?_
      exact if_neg fun both => both.2 member
  | @completed request old new row citations requested found advance status
      response insertable role threadId owner parent =>
      have fresh : row ∉ before.messages := fun member =>
        insertable.fresh row member rfl
      have unanswered := ((consistent.answered old
        (Table.lookup_mem found)).of_open advance.wasOpen).1
      apply consistent.of_changed found advance
        (nodup_insertable insertable rfl consistent.messageIds)
      · exact fun message member => List.mem_append_left _ member
      · intro generationId different
        exact if_neg fun both => different (both.1.symm.trans requested.symm)
      · have written : responseWritten old.id
            ⟨before, .complete request, .message row,
              { before.withGeneration old.id (fun _ => new) with
                messages := before.messages ++ [row]
                citations := citations }⟩ = some row :=
          if_pos ⟨requested.symm, fresh⟩
        rw [Answered, if_pos status, responses, advance.id,
          List.filterMap_append, List.filterMap_cons_some written,
          List.filterMap_nil]
        refine ⟨row, List.mem_append_right _ (List.mem_singleton.mpr rfl), ?_,
          ⟨response, role, threadId.trans advance.threadId.symm,
            owner.trans advance.owner.symm,
            parent.trans (congrArg some advance.userMessageId.symm)⟩⟩
        exact congrArg (· ++ [row]) unanswered

theorem Consistent.empty : Consistent [] ChatTables.empty where
  generationIds := List.nodup_nil
  keyed := fun _ member => absurd member List.not_mem_nil
  messageIds := List.nodup_nil
  answered := fun _ member => absurd member List.not_mem_nil
  unknown := fun _ _ => rfl

theorem Consistent.run {final : ChatTables}
    (run : (chatMachine env).Run Machine.unguarded ChatTables.empty trace
      final) : Consistent trace final :=
  run.traced Consistent Consistent.empty
    fun _ _ _ _ _ consistent _ made => consistent.step (call_step_cases made)

theorem lookup_changed {before : ChatTables} {old new : GenerationRow}
    (advance : Advance old new)
    (found : Table.lookup GenerationRow.id old.id before.generations =
      some old) :
    Table.lookup GenerationRow.id old.id
      (before.withGeneration old.id fun _ => new).generations = some new := by
  rw [lookup_withGeneration advance, found, Option.map_some,
    decide_eq_true rfl, if_pos rfl]

theorem stopped_of_accepted {before after : ChatTables} {generationId : Uuid}
    {owner : Owner} {now : DateTime} {row : GenerationRow}
    (call : CallStep env before (.stop generationId owner now)
      (.generation row) after) :
    row.status = .stopped ∧
      Table.lookup GenerationRow.id generationId after.generations =
        some row := by
  cases call with
  | stoppedBefore owner now found stopped => exact ⟨stopped, found⟩
  | stopped owner now found advance status =>
      exact ⟨status, lookup_changed advance found⟩
  | kept _ notStop => exact absurd rfl (notStop _ _ _)
  | moved _ notStop => exact absurd rfl (notStop _ _ _)

/-- A generation has been started for a key of a thread. -/
def Names (threadId : Uuid) (key : List Char) (generationId : Uuid)
    (tables : ChatTables) : Prop :=
  ∃ row, Table.lookup GenerationRow.id generationId tables.generations =
      some row ∧
    row.threadId = threadId ∧ row.idempotencyKey = key

theorem Names.step {threadId : Uuid} {key : List Char} {generationId : Uuid}
    {before after : ChatTables} {label : ChatLabel} {answer : ChatAnswer}
    (names : Names threadId key generationId before)
    (call : CallStep env before label answer after) :
    Names threadId key generationId after := by
  obtain ⟨row, isRow, thread, isKey⟩ := names
  obtain ⟨later, isLater, rfl | advance⟩ := generation_stays call isRow
  · exact ⟨later, isLater, thread, isKey⟩
  · exact ⟨later, isLater, advance.threadId.trans thread,
      advance.idempotencyKey.trans isKey⟩

theorem names_of_started {before after : ChatTables} {request : StartRequest}
    {row : GenerationRow} (consistent : Consistent trace before)
    (call : CallStep env before (.start request) (.generation row) after) :
    Names request.threadId request.idempotencyKey row.id after := by
  cases call with
  | startedBefore request member thread isKey =>
      exact ⟨row, Table.lookup_eq_of_mem consistent.generationIds member,
        thread, isKey⟩
  | @started _ _ thread question _ _ _ _ _ isRow _ freshId =>
      subst isRow
      refine ⟨startedRow request thread, ?_, rfl, rfl⟩
      rw [Table.lookup_append, Table.lookup, List.find?_eq_none.mpr]
      · simp [Table.lookup]
      · intro other member
        rw [decide_eq_true_eq]
        exact freshId other member
  | kept _ _ notStart => exact absurd rfl (notStart request)
  | moved _ _ notStart => exact absurd rfl (notStart request)

/-- A completed generation returns its response again. -/
theorem complete_again {final : ChatTables} (consistent : Consistent trace final)
    {request : CompleteRequest} {message : MessageRow}
    (written : responses request.generationId trace = [message])
    (inScope : message.owner = request.owner) :
    (chatMachine env).step final (.complete request) =
      some (.message message, final) := by
  have known : ∃ row ∈ final.generations, row.id = request.generationId := by
    by_contra absent
    rw [consistent.unknown request.generationId fun row member same =>
      absent ⟨row, member, same⟩] at written
    cases written
  obtain ⟨row, member, isId⟩ := known
  have answered := consistent.answered row member
  rw [Answered, isId, written] at answered
  split at answered
  · next completed =>
      obtain ⟨response, responseMember, same, isResponse⟩ := answered
      cases same
      have isGeneration : generationRow final request.owner
          request.generationId = .ok row :=
        generationRow_eq_ok.mpr
          ⟨isId ▸ Table.lookup_eq_of_mem consistent.generationIds member,
            isResponse.owner.symm.trans inScope⟩
      have isMessage : messageRow final request.owner row.threadId message.id =
          .ok message :=
        messageRow_eq_ok.mpr
          ⟨Table.lookup_eq_of_mem consistent.messageIds responseMember,
            isResponse.threadId, inScope⟩
      have returned : completeChatGeneration env final request =
          .ok (message, final) := by
        simp only [completeChatGeneration, isGeneration, Outcome.ok_bind,
          completed, isResponse.named, isMessage]
        rfl
      exact congrArg some (congrArg (committed final ChatAnswer.message)
        returned)
  · cases answered.1

end Runs

/-- Over every order of the calls, terminal generations stay as they are, each
generation has one response exactly when it is completed and returns it for
good, a stop is final, and a key names one generation. -/
theorem generations_are_sound {env : ChatEnvironment}
    {trace : List (Moment ChatTables ChatLabel ChatAnswer)}
    {final : ChatTables}
    (run : (chatMachine env).Run Machine.unguarded ChatTables.empty trace
      final) : SoundGenerations env trace final := by
  have consistent := Consistent.run run
  constructor
  case absorbing =>
      intro moment member generationId row found terminal
      obtain ⟨earlier, later, rfl⟩ := List.append_of_mem member
      exact terminal_stays run.around.2.2.2 found terminal
  case atMostOne =>
      intro generationId
      by_cases known : ∃ row ∈ final.generations, row.id = generationId
      · obtain ⟨row, member, rfl⟩ := known
        have answered := consistent.answered row member
        rw [Answered] at answered
        split at answered
        · obtain ⟨message, _, written, _⟩ := answered
          rw [written, List.length_singleton]
        · rw [answered.1]
          exact Nat.zero_le 1
      · rw [consistent.unknown generationId fun row member same =>
          known ⟨row, member, same⟩]
        exact Nat.zero_le 1
  case answered =>
      intro generationId row found
      exact consistent.answered row (Table.lookup_mem found)
  case repeated =>
      intro request message written inScope
      exact complete_again consistent written inScope
  case stopped =>
      rintro earlier ⟨before, label, answer, after⟩ later rfl generationId owner
        now row rfl rfl
      obtain ⟨_, _, makes, rest⟩ := run.around
      obtain ⟨stopped, found⟩ := stopped_of_accepted (call_step_cases makes)
      have terminal : row.status.isTerminal = true := by rw [stopped]; rfl
      have stays := terminal_stays rest found terminal
      refine ⟨?_, ?_⟩
      · have answered := consistent.answered row (Table.lookup_mem stays)
        rw [Answered, if_neg (by rw [stopped]; exact nofun),
          Table.lookup_key found] at answered
        exact answered.1
      · rintro ⟨middle, label, answer, reached⟩ member request rfl rfl
        obtain ⟨between, others, rfl⟩ := List.append_of_mem member
        obtain ⟨first, _, made, _⟩ := rest.around
        exact stopped_refuses (call_step_cases made)
          (terminal_stays first found terminal) stopped
  case keyed =>
      intro first firstMember second secondMember sameThread sameKey
      exact List.inj_on_of_nodup_map consistent.generationIds firstMember
        secondMember (consistent.keyed first firstMember second secondMember
          sameThread sameKey)
  case started =>
      have named : ∀ moment ∈ trace, ∀ request row,
          moment.label = .start request → moment.answer = .generation row →
          Names request.threadId request.idempotencyKey row.id final := by
        rintro ⟨before, label, answer, after⟩ member request row rfl rfl
        obtain ⟨earlier, later, rfl⟩ := List.append_of_mem member
        obtain ⟨first, _, made, rest⟩ := run.around
        exact rest.invariant
          (Names request.threadId request.idempotencyKey row.id)
          (names_of_started (Consistent.run first) (call_step_cases made))
          fun _ _ _ _ names _ makes => names.step (call_step_cases makes)
      intro first firstMember second secondMember request again row other isStart
        isAgain answered answeredAgain sameThread sameKey
      obtain ⟨one, isOne, oneThread, oneKey⟩ :=
        named first firstMember request row isStart answered
      obtain ⟨two, isTwo, twoThread, twoKey⟩ :=
        named second secondMember again other isAgain answeredAgain
      rw [← Table.lookup_key isOne, ← Table.lookup_key isTwo]
      exact consistent.keyed one (Table.lookup_mem isOne) two
        (Table.lookup_mem isTwo)
        (oneThread.trans (sameThread.trans twoThread.symm))
        (oneKey.trans (sameKey.trans twoKey.symm))

/-- A question is answered, and the completed generation is started, completed
and stopped again. -/
theorem answered_question_is_sound :
    ∃ trace final,
      (chatMachine exampleEnvironment).Run Machine.unguarded ChatTables.empty
        trace final ∧
      (responses ⟨40⟩ trace).length = 1 ∧
      final.generations.map GenerationRow.status = [.completed] ∧
      SoundGenerations exampleEnvironment trace final := by
  have carried : ((chatMachine exampleEnvironment).replay Machine.unguarded
      ChatTables.empty (questionSteps ++ [.start exampleStart,
        .mark ⟨40⟩ exampleOwner 2, .complete exampleComplete,
        .start exampleStart, .complete exampleComplete,
        .stop ⟨40⟩ exampleOwner 3])).map (fun (trace, final) =>
          ((responses ⟨40⟩ trace).length,
            final.generations.map GenerationRow.status)) =
      some (1, [.completed]) := by
    decide
  obtain ⟨trace, final, run, seen⟩ := Machine.exists_run_of_replay carried
  obtain ⟨written, statuses⟩ := Prod.mk.inj seen
  exact ⟨trace, final, run, written, statuses, generations_are_sound run⟩

end SecAI.Chat
