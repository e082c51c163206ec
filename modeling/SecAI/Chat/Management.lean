/-
Module: SecAI.Chat.Management
Purpose: The management calls on one chat thread, in any order, and the log of
  management events that they write.
Trusted boundary: a call is atomic, and a call that raises is rolled back; how
  a timestamp is written is a parameter
Main exports:
  ManagedThread, ManagementCall, ThreadLog, management_log_replays
-/
import Mathlib.Data.List.Chain
import SecAI.Chat.Repository
import SecAI.Common.Outcome

namespace SecAI.Chat

open SecAI.Text (strip)

/-- A row of `chat_threads` with the columns that only the management calls
write. -/
structure ManagedThread where
  row : ThreadRow
  isPinned : Bool
  folderName : Option (List Char)

structure ManagementSnapshot where
  title : List Char
  status : ThreadStatus
  isPinned : Bool
  folderName : Option (List Char)
  statusBeforeTombstone : Option ThreadStatus
  tombstonedAt : Option String

/-- The column `action` of an event. -/
inductive ManagementAction where
  | rename
  | pin
  | unpin
  | move
  | archive
  | restoreArchive
  | tombstone
  | undoTombstone

/-- A row of the event table, without its keys. -/
structure ManagementEvent where
  action : ManagementAction
  beforeState : ManagementSnapshot
  afterState : ManagementSnapshot

/-- A thread and its management events, oldest first. -/
structure ThreadLog where
  thread : ManagedThread
  events : List ManagementEvent

inductive ManagementCall where
  | rename (title : List Char)
  | setPinned (isPinned : Bool)
  | move (folderName : Option (List Char))
  | setArchived (archived : Bool)
  | tombstone
  | undoTombstone

def normalizeChatFolder : Option (List Char) →
    Except ChatFault (Option (List Char))
  | none => .ok none
  | some value =>
      let normalized := strip value
      if normalized = [] ∨ 80 < normalized.length then
        .error (.code "CHAT_FOLDER_LENGTH_INVALID")
      else if normalized.any fun character =>
          decide (character ∈ ['\r', '\n', '\x00']) then
        .error (.code "CHAT_MANAGEMENT_TEXT_INVALID")
      else .ok (some normalized)

/-- `_managed_thread`: the scope of the caller, and no tombstone. -/
def ManagedThread.managed (thread : ManagedThread) (owner : Owner) :
    Except ChatFault Unit :=
  if thread.row.owner = owner ∧ thread.row.status ≠ .tombstoned then .ok ()
  else .error (.code "CHAT_SCOPE_DENIED")

section Calls

-- `datetime.isoformat`.
variable (isoformat : DateTime → String)

/-- `_management_snapshot`. -/
def ManagedThread.snapshot (thread : ManagedThread) : ManagementSnapshot :=
  { title := thread.row.title
    status := thread.row.status
    isPinned := thread.isPinned
    folderName := thread.folderName
    statusBeforeTombstone := thread.row.statusBeforeTombstone
    tombstonedAt := thread.row.tombstonedAt.map isoformat }

/-- `_record_management_event`, of a thread that was changed. -/
def ThreadLog.recorded (log : ThreadLog) (action : ManagementAction)
    (changed : ManagedThread) : ThreadLog :=
  { thread := changed
    events := log.events ++
      [{ action := action
         beforeState := log.thread.snapshot isoformat
         afterState := changed.snapshot isoformat }] }

/-- `rename_chat_thread`. -/
def ThreadLog.rename (log : ThreadLog) (owner : Owner) (title : List Char)
    (now : DateTime) : Except ChatFault ThreadLog := do
  let _ ← log.thread.managed owner
  let normalized ← normalizeChatTitle title
  return log.recorded isoformat .rename { log.thread with
    row := { log.thread.row with title := normalized, updatedAt := now } }

/-- `set_chat_thread_pinned`. -/
def ThreadLog.setPinned (log : ThreadLog) (owner : Owner) (isPinned : Bool)
    (now : DateTime) : Except ChatFault ThreadLog := do
  let _ ← log.thread.managed owner
  return log.recorded isoformat (if isPinned then .pin else .unpin)
    { log.thread with
      row := { log.thread.row with updatedAt := now }
      isPinned := isPinned }

/-- `move_chat_thread`. -/
def ThreadLog.move (log : ThreadLog) (owner : Owner)
    (folderName : Option (List Char)) (now : DateTime) :
    Except ChatFault ThreadLog := do
  let _ ← log.thread.managed owner
  let normalized ← normalizeChatFolder folderName
  return log.recorded isoformat .move { log.thread with
    row := { log.thread.row with updatedAt := now }
    folderName := normalized }

/-- `set_chat_thread_archived`. -/
def ThreadLog.setArchived (log : ThreadLog) (owner : Owner) (archived : Bool)
    (now : DateTime) : Except ChatFault ThreadLog := do
  let _ ← log.thread.managed owner
  return log.recorded isoformat
    (if archived then .archive else .restoreArchive) { log.thread with
      row := { log.thread.row with
        status := if archived then .archived else .active
        updatedAt := now } }

/-- `tombstone_chat_thread`. -/
def ThreadLog.tombstone (log : ThreadLog) (owner : Owner) (now : DateTime) :
    Except ChatFault ThreadLog := do
  let _ ← log.thread.managed owner
  return log.recorded isoformat .tombstone { log.thread with
    row := { log.thread.row with
      statusBeforeTombstone := some log.thread.row.status
      status := .tombstoned
      tombstonedAt := some now
      updatedAt := now } }

/-- `undo_tombstone_chat_thread`. -/
def ThreadLog.undoTombstone (log : ThreadLog) (owner : Owner)
    (now : DateTime) : Except ChatFault ThreadLog :=
  let row := log.thread.row
  if row.owner ≠ owner then .error (.code "CHAT_SCOPE_DENIED")
  else
    match row.status, row.tombstonedAt, row.statusBeforeTombstone with
    | .tombstoned, some tombstonedAt, some before =>
        if before = .tombstoned then
          .error (.code "CHAT_DELETE_UNDO_NOT_AVAILABLE")
        else if now - tombstonedAt > chatDeleteUndoWindow then
          .error (.code "CHAT_DELETE_UNDO_EXPIRED")
        else
          .ok (log.recorded isoformat .undoTombstone { log.thread with
            row := { row with
              status := before
              statusBeforeTombstone := none
              tombstonedAt := none
              updatedAt := now } })
    | _, _, _ => .error (.code "CHAT_DELETE_UNDO_NOT_AVAILABLE")

def ThreadLog.perform (log : ThreadLog) (owner : Owner) (now : DateTime) :
    ManagementCall → Except ChatFault ThreadLog
  | .rename title => log.rename isoformat owner title now
  | .setPinned isPinned => log.setPinned isoformat owner isPinned now
  | .move folderName => log.move isoformat owner folderName now
  | .setArchived archived => log.setArchived isoformat owner archived now
  | .tombstone => log.tombstone isoformat owner now
  | .undoTombstone => log.undoTombstone isoformat owner now

/-- A call with its caller and its clock reading. -/
structure TimedCall where
  owner : Owner
  now : DateTime
  call : ManagementCall

/-- The thread after a call; a call that raises is rolled back. -/
def ThreadLog.after (log : ThreadLog) (timed : TimedCall) : ThreadLog :=
  match log.perform isoformat timed.owner timed.now timed.call with
  | .ok changed => changed
  | .error _ => log

def ThreadLog.run (log : ThreadLog) (calls : List TimedCall) : ThreadLog :=
  calls.foldl (ThreadLog.after isoformat) log

end Calls

section Replay

variable {isoformat : DateTime → String} {log changed : ThreadLog}
  {thread : ManagedThread} {owner : Owner} {now : DateTime}

/-- What the undo of a tombstone gives back. -/
def ManagementSnapshot.Restores (later earlier : ManagementSnapshot) : Prop :=
  later.title = earlier.title ∧ later.status = earlier.status ∧
    later.isPinned = earlier.isPinned ∧ later.folderName = earlier.folderName

/-- The later event takes up the state that the earlier one leaves, and after
a tombstone it is the undo, which restores the state before. -/
def ManagementEvent.Follows (earlier later : ManagementEvent) : Prop :=
  later.beforeState = earlier.afterState ∧
    (earlier.action = .tombstone → later.action = .undoTombstone ∧
      later.afterState.Restores earlier.beforeState)

/-- A tombstone puts the status aside, and changes nothing else that the undo
gives back. -/
def ManagementEvent.PutsAside (event : ManagementEvent) : Prop :=
  event.action = .tombstone →
    event.afterState.status = .tombstoned ∧
      event.afterState.statusBeforeTombstone = some event.beforeState.status ∧
      event.afterState.title = event.beforeState.title ∧
      event.afterState.isPinned = event.beforeState.isPinned ∧
      event.afterState.folderName = event.beforeState.folderName

/-- The log leads from a state to the thread, by events that follow each
other. -/
structure ThreadLog.Replays (isoformat : DateTime → String)
    (initial : ManagementSnapshot) (log : ThreadLog) : Prop where
  first : ∀ event ∈ log.events.head?, event.beforeState = initial
  chained : log.events.IsChain ManagementEvent.Follows
  unlogged : log.events = [] → log.thread.snapshot isoformat = initial
  current : ∀ last ∈ log.events.getLast?,
    last.afterState = log.thread.snapshot isoformat ∧ last.PutsAside

/-- What a call makes of the thread that it records: on a thread with a
tombstone it is the undo. -/
structure LoggedAs (isoformat : DateTime → String) (before : ManagedThread)
    (action : ManagementAction) (after : ManagedThread) : Prop where
  undoes : before.row.status = .tombstoned → action = .undoTombstone ∧
    after.row.title = before.row.title ∧ after.isPinned = before.isPinned ∧
    after.folderName = before.folderName ∧
    before.row.statusBeforeTombstone = some after.row.status
  putsAside : ManagementEvent.PutsAside
    ⟨action, before.snapshot isoformat, after.snapshot isoformat⟩

theorem managed_eq_ok (isManaged : thread.managed owner = .ok ()) :
    thread.row.status ≠ .tombstoned := by
  unfold ManagedThread.managed at isManaged
  split at isManaged
  · next both => exact both.2
  · cases isManaged

theorem LoggedAs.of_managed {action : ManagementAction}
    {after : ManagedThread} (isManaged : thread.managed owner = .ok ())
    (other : action ≠ .tombstone) : LoggedAs isoformat thread action after where
  undoes tombstoned := absurd tombstoned (managed_eq_ok isManaged)
  putsAside same := absurd same other

/-- The spec of a call that succeeds. -/
theorem perform_eq_ok {call : ManagementCall}
    (done : log.perform isoformat owner now call = .ok changed) :
    ∃ action after, changed = log.recorded isoformat action after ∧
      LoggedAs isoformat log.thread action after := by
  cases call with
  | rename title =>
      obtain ⟨_, isManaged, done⟩ := Outcome.bind_eq_ok.mp done
      obtain ⟨normalized, _, made⟩ := Outcome.bind_eq_ok.mp done
      cases made
      exact ⟨_, _, rfl, .of_managed isManaged nofun⟩
  | setPinned isPinned =>
      obtain ⟨_, isManaged, made⟩ := Outcome.bind_eq_ok.mp done
      cases made
      exact ⟨_, _, rfl, .of_managed isManaged (by cases isPinned <;> nofun)⟩
  | move folderName =>
      obtain ⟨_, isManaged, done⟩ := Outcome.bind_eq_ok.mp done
      obtain ⟨normalized, _, made⟩ := Outcome.bind_eq_ok.mp done
      cases made
      exact ⟨_, _, rfl, .of_managed isManaged nofun⟩
  | setArchived archived =>
      obtain ⟨_, isManaged, made⟩ := Outcome.bind_eq_ok.mp done
      cases made
      exact ⟨_, _, rfl, .of_managed isManaged (by cases archived <;> nofun)⟩
  | tombstone =>
      obtain ⟨_, isManaged, made⟩ := Outcome.bind_eq_ok.mp done
      cases made
      refine ⟨_, _, rfl, ?_, fun _ => ⟨rfl, rfl, rfl, rfl, rfl⟩⟩
      exact fun tombstoned => absurd tombstoned (managed_eq_ok isManaged)
  | undoTombstone =>
      simp only [ThreadLog.perform, ThreadLog.undoTombstone] at done
      split at done
      · cases done
      split at done
      · next before _ _ aside =>
          split at done
          · cases done
          split at done
          · cases done
          cases done
          exact ⟨_, _, rfl, fun _ => ⟨rfl, rfl, rfl, rfl, aside⟩, nofun⟩
      · cases done

variable {initial : ManagementSnapshot}

theorem ThreadLog.Replays.recorded (replays : log.Replays isoformat initial)
    {action : ManagementAction} {after : ManagedThread}
    (step : LoggedAs isoformat log.thread action after) :
    (log.recorded isoformat action after).Replays isoformat initial where
  first := by
    intro event isFirst
    cases empty : log.events with
    | nil =>
        rw [ThreadLog.recorded, empty] at isFirst
        cases isFirst
        exact replays.unlogged empty
    | cons head rest =>
        rw [ThreadLog.recorded, empty] at isFirst
        refine replays.first event ?_
        rw [empty]
        exact isFirst
  chained := by
    refine List.isChain_append.mpr ⟨replays.chained, .singleton _, ?_⟩
    intro last isLast event isNew
    cases isNew
    obtain ⟨leaves, putsAside⟩ := replays.current last isLast
    refine ⟨leaves.symm, fun isTombstone => ?_⟩
    obtain ⟨status, aside, title, pinned, folder⟩ := putsAside isTombstone
    rw [leaves] at status aside title pinned folder
    obtain ⟨isUndo, sameTitle, samePin, sameFolder, restored⟩ :=
      step.undoes status
    have sameStatus : some after.row.status = some last.beforeState.status :=
      restored.symm.trans aside
    exact ⟨isUndo, sameTitle.trans title, Option.some.inj sameStatus,
      samePin.trans pinned, sameFolder.trans folder⟩
  unlogged empty := absurd empty (List.append_ne_nil_of_right_ne_nil _ nofun)
  current := by
    intro last isLast
    rw [ThreadLog.recorded, List.getLast?_concat] at isLast
    cases isLast
    exact ⟨rfl, step.putsAside⟩

theorem ThreadLog.Replays.after (replays : log.Replays isoformat initial)
    (timed : TimedCall) :
    (log.after isoformat timed).Replays isoformat initial := by
  rw [ThreadLog.after]
  split
  · next done =>
      obtain ⟨action, thread, rfl, step⟩ := perform_eq_ok done
      exact replays.recorded step
  · exact replays

theorem ThreadLog.Replays.run (replays : log.Replays isoformat initial)
    (calls : List TimedCall) :
    (log.run isoformat calls).Replays isoformat initial := by
  induction calls generalizing log with
  | nil => exact replays
  | cons timed calls ih => exact ih (replays.after timed)

/-- The log of any calls on a thread replays from its first state to its
present one, and the event after a tombstone is an undo that restores what was
there. -/
theorem management_log_replays (isoformat : DateTime → String)
    (thread : ManagedThread) (calls : List TimedCall) :
    (ThreadLog.run isoformat ⟨thread, []⟩ calls).Replays isoformat
      (thread.snapshot isoformat) := by
  have start : ThreadLog.Replays isoformat (thread.snapshot isoformat)
      ⟨thread, []⟩ :=
    { first := fun _ isFirst => nomatch isFirst
      chained := .nil
      unlogged := fun _ => rfl
      current := fun _ isLast => nomatch isLast }
  exact start.run calls

end Replay

end SecAI.Chat
