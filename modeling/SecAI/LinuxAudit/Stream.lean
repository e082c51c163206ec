/-
Module: SecAI.LinuxAudit.Stream
Purpose: The event stream of a run: its reader, and when a stream that ends by
  itself has delivered the whole log.
Trusted boundary: none
Main exports:
  Reader, streamMachine, WellKept, log_is_kept, stream_complete_iff
-/
import SecAI.LinuxAudit.Agreement

namespace SecAI.LinuxAudit

open Interleaving

/-! ## The reader -/

/-- Where the generator `stream` stands. -/
inductive ReaderPhase where
  /-- `list_linux_audit_events`. -/
  | listing
  /-- `load_linux_audit_run`; `seen` is the length of the log that the listing
  saw. -/
  | loading (events : List AuditEvent) (seen : Nat)
  /-- The events that are left to yield, whether there were none, and the
  status that was loaded. -/
  | yielding (events : List AuditEvent) (noEvents : Bool) (status : RunStatus)
      (seen : Nat)
  /-- A query raised, and the connection broke. -/
  | broken
  /-- The generator returned. -/
  | ended
deriving DecidableEq

/-- A stream: where it starts, how far it is, and what it has delivered. -/
structure Reader where
  after : Int
  cursor : Int
  delivered : List AuditEvent
  phase : ReaderPhase

/-- The stream of a request with this `after`. -/
def openedReader (after : Int) : Reader :=
  { after := after, cursor := after, delivered := [], phase := .listing }

def readerStep (tables : AuditTables) (raises : Bool) (reader : Reader) :
    Option Reader :=
  match reader.phase with
  | .listing =>
      if raises then some { reader with phase := .broken }
      else
        some { reader with
          phase := .loading (listLinuxAuditEvents tables reader.cursor)
            tables.events.length }
  | .loading events seen =>
      if raises then some { reader with phase := .broken }
      else
        some { reader with
          phase := .yielding events events.isEmpty tables.row.status seen }
  | .yielding (event :: events) noEvents status seen =>
      some { reader with
        cursor := event.sequence
        delivered := reader.delivered ++ [event]
        phase := .yielding events noEvents status seen }
  | .yielding [] noEvents status _ =>
      some { reader with
        phase :=
          if status.isTerminal && noEvents then .ended else .listing }
  | .broken | .ended => none

/-- A run with one stream of its events. -/
structure StreamState where
  audit : AuditState
  reader : Reader

/-- A step of the run, or of the stream. -/
inductive StreamLabel where
  | audit (label : AuditLabel)
  | reader (raises : Bool)

def streamMachine (env : AuditEnvironment) :
    Machine StreamState StreamLabel (Option Bool) where
  step state
    | .audit label =>
        ((auditMachine env).step state.audit label).map
          fun (answer, after) => (answer, { state with audit := after })
    | .reader raises =>
        (readerStep state.audit.tables raises state.reader).map
          fun after => (none, { state with reader := after })

/-- A created run and a stream that has not listed anything. -/
def openedStream (after : Int) : StreamState :=
  { audit := createdRun, reader := openedReader after }

/-! ## What a stream owes its client -/

/-- The event reports a terminal status. -/
def AuditEvent.IsTerminal (event : AuditEvent) : Prop :=
  (terminalStatus event.eventType).isSome = true

instance (event : AuditEvent) : Decidable event.IsTerminal :=
  inferInstanceAs (Decidable (_ = _))

/-- A stream that ended by itself has delivered, in their order, all events of
the run after the one it started from, and the run has its terminal event. -/
def StreamComplete (state : StreamState) : Prop :=
  state.reader.phase = .ended →
    (∃ event ∈ state.audit.tables.events, event.IsTerminal) ∧
    state.reader.delivered =
      state.audit.tables.events.filter (AuditEvent.isAfter state.reader.after)

/-- The terminal event was in the log before the listing, or the client
already had it. -/
def TerminalListed (state : StreamState) (seen : Nat) : Prop :=
  ∃ event ∈ state.audit.tables.events, event.IsTerminal ∧
    (event ∈ state.audit.tables.events.take seen ∨
      (event.sequence : Int) ≤ state.reader.after)

/-- The length of the log that the listing saw on which the stream stops
next. -/
def ReaderPhase.stopsOn : ReaderPhase → Option Nat
  | .yielding [] true status seen =>
      if status.isTerminal then some seen else none
  | _ => none

/-- The stream does not stop on a status that the run had before its terminal
event was listed. -/
def StopsAfterTerminal (state : StreamState) : StreamLabel → Prop
  | .audit _ => True
  | .reader _ =>
      ∀ seen ∈ state.reader.phase.stopsOn, TerminalListed state seen

/-! ## The log -/

/-- The events stand in the order of their sequence numbers. -/
def Ascending (events : List AuditEvent) : Prop :=
  events.Pairwise fun first second => first.sequence < second.sequence

theorem le_foldl_max : ∀ (numbers : List Nat) (start : Nat),
    start ≤ numbers.foldl max start ∧
      ∀ number ∈ numbers, number ≤ numbers.foldl max start := by
  intro numbers
  induction numbers with
  | nil => exact fun start => ⟨Nat.le_refl _, nofun⟩
  | cons first rest ih =>
      intro start
      obtain ⟨above, all⟩ := ih (max start first)
      refine ⟨Nat.le_trans (Nat.le_max_left _ _) above, ?_⟩
      intro number member
      rcases List.mem_cons.mp member with rfl | later
      · exact Nat.le_trans (Nat.le_max_right _ _) above
      · exact all number later

variable {events : List AuditEvent}

theorem lt_nextSequence {event : AuditEvent} (member : event ∈ events) :
    event.sequence < nextSequence events :=
  Nat.lt_succ_of_le
    ((le_foldl_max _ 0).2 _ (List.mem_map_of_mem member))

variable {last : AuditEvent}

theorem Ascending.append (ascending : Ascending events)
    (above : ∀ event ∈ events, event.sequence < last.sequence) :
    Ascending (events ++ [last]) := by
  refine List.pairwise_append.mpr ⟨ascending, List.pairwise_singleton _ _, ?_⟩
  intro event member other single
  rw [List.mem_singleton.mp single]
  exact above event member

theorem Ascending.eq_of_sequence (ascending : Ascending events)
    {first second : AuditEvent} (one : first ∈ events)
    (other : second ∈ events) (same : first.sequence = second.sequence) :
    first = second := by
  by_contra different
  rcases List.pairwise_iff_getElem.mp ascending with ordered
  obtain ⟨i, iBound, rfl⟩ := List.getElem_of_mem one
  obtain ⟨j, jBound, rfl⟩ := List.getElem_of_mem other
  rcases Nat.lt_trichotomy i j with less | equal | greater
  · exact absurd same (Nat.ne_of_lt (ordered i j iBound jBound less))
  · subst equal
    exact different rfl
  · exact absurd same.symm (Nat.ne_of_lt (ordered j i jBound iBound greater))

variable {cursor : Int}

/-- Behind the first event after a cursor lies the rest of what is after it. -/
theorem Ascending.filter_after_first (ascending : Ascending events)
    {first : AuditEvent} {rest : List AuditEvent}
    (found : events.filter (AuditEvent.isAfter cursor) = first :: rest) :
    events.filter (AuditEvent.isAfter first.sequence) = rest := by
  have kept : Ascending (first :: rest) := by
    rw [← found]
    exact ascending.filter _
  have above : cursor < first.sequence := by
    have member : first ∈ events.filter (AuditEvent.isAfter cursor) := by
      rw [found]
      exact List.mem_cons_self
    exact of_decide_eq_true (List.mem_filter.mp member).2
  calc events.filter (AuditEvent.isAfter first.sequence)
      = (events.filter (AuditEvent.isAfter cursor)).filter
          (AuditEvent.isAfter first.sequence) := by
        rw [List.filter_filter]
        apply List.filter_congr
        intro event _
        unfold AuditEvent.isAfter
        rw [← Bool.decide_and]
        apply decide_eq_decide.mpr
        omega
    _ = (first :: rest).filter (AuditEvent.isAfter first.sequence) := by
        rw [found]
    _ = rest.filter (AuditEvent.isAfter first.sequence) := by
        simp [AuditEvent.isAfter]
    _ = rest := by
        apply List.filter_eq_self.mpr
        intro event member
        have below := (List.pairwise_cons.mp kept).1 event member
        simp only [AuditEvent.isAfter, decide_eq_true_eq]
        omega

variable {tables : AuditTables}

theorem listing_isPrefix (ascending : Ascending tables.events)
    (cursor : Int) :
    listLinuxAuditEvents tables cursor <+:
      tables.events.filter (AuditEvent.isAfter cursor) := by
  unfold listLinuxAuditEvents
  rw [Ordered.sortedBy_of_pairwise
    ((ascending.filter _).imp fun below => Nat.le_of_lt below)]
  exact List.take_prefix _ _

theorem filter_of_empty_listing
    (empty : listLinuxAuditEvents tables cursor = []) :
    tables.events.filter (AuditEvent.isAfter cursor) = [] := by
  unfold listLinuxAuditEvents at empty
  rcases List.take_eq_nil_iff.mp empty with zero | sorted
  · cases zero
  · exact List.Perm.eq_nil (sorted ▸ (Ordered.sortedBy_perm _ _).symm)

/-! ## What a step does to the log -/

/-- The thread appends no more events. -/
def Phase.Closed : Phase → Prop
  | .cleaning | .ended => True
  | _ => False

/-- Everything that one step of the thread can do to the log. -/
inductive LogStep (before after : AuditState) : Prop where
  | same (events : after.tables.events = before.tables.events)
      (closed : before.phase.Closed → after.phase.Closed)
  | appended (event : AuditEvent) (ongoing : ¬before.phase.Closed)
      (sequence : event.sequence = nextSequence before.tables.events)
      (events : after.tables.events = before.tables.events ++ [event])
      (last : event.IsTerminal → after.phase.Closed)

variable {luck : Luck} {next : Phase}

theorem call_log {state : AuditState} (ongoing : ¬state.phase.Closed)
    (events : tables.events = state.tables.events) :
    LogStep state (state.call luck tables next) := by
  unfold AuditState.call
  split
  · exact .same events fun closed => absurd closed ongoing
  · exact .same rfl fun closed => absurd closed ongoing

theorem callHandled_log {state : AuditState} (ongoing : ¬state.phase.Closed)
    (events : tables.events = state.tables.events) :
    LogStep state (state.callHandled luck tables next) := by
  unfold AuditState.callHandled
  split
  · exact .same events fun closed => absurd closed ongoing
  · exact .same rfl fun closed => absurd closed ongoing

theorem call_append {state : AuditState} (ongoing : ¬state.phase.Closed)
    (eventType : String) (payload : Json)
    (last : (terminalStatus eventType).isSome = true → next.Closed) :
    LogStep state (state.call luck
      (appendLinuxAuditEvent state.tables eventType payload) next) := by
  unfold AuditState.call
  split
  · exact .appended ⟨_, eventType, payload⟩ ongoing rfl rfl last
  · exact .same rfl fun closed => absurd closed ongoing

theorem callHandled_append {state : AuditState}
    (ongoing : ¬state.phase.Closed) (eventType : String) (payload : Json)
    (last : (terminalStatus eventType).isSome = true → next.Closed) :
    LogStep state (state.callHandled luck
      (appendLinuxAuditEvent state.tables eventType payload) next) := by
  unfold AuditState.callHandled
  split
  · exact .appended ⟨_, eventType, payload⟩ ongoing rfl rfl last
  · exact .same rfl fun closed => absurd closed ongoing

@[simp] theorem finished_events (tables : AuditTables) (status : RunStatus)
    (resultJson : Option Json) (resultSha256 : Option String) :
    (finishLinuxAuditRun tables status resultJson resultSha256).events =
      tables.events := by
  unfold finishLinuxAuditRun
  split <;> rfl

@[simp] theorem marked_events (tables : AuditTables) :
    (markLinuxAuditRunning tables).events = tables.events := by
  unfold markLinuxAuditRunning
  split <;> rfl

variable {env : AuditEnvironment} {after : AuditState}

/-- The step lemma of the thread for the log. -/
theorem advance_log {before : AuditState}
    (advanced : advance env luck before = some after) :
    LogStep before after := by
  obtain ⟨tables, phase, cancel, registered, signals⟩ := before
  cases phase with
  | unstarted => cases advanced; exact .same rfl False.elim
  | marking => cases advanced; exact call_log id (marked_events _)
  | announcing => cases advanced; exact call_append id _ _ nofun
  | preparing => cases advanced; exact call_log id rfl
  | detecting attempt left =>
      cases left <;> cases advanced <;> exact .same rfl False.elim
  | detectingRow attempt left => cases advanced; exact call_log id rfl
  | retrying attempt => cases advanced; exact call_append id _ _ nofun
  | validating => cases advanced; exact call_log id rfl
  | identifying => cases advanced; exact call_append id _ _ nofun
  | collecting commands =>
      cases commands <;> cases advanced <;> exact .same rfl False.elim
  | collectingRow command commands => cases advanced; exact call_log id rfl
  | starting command commands =>
      cases advanced
      exact call_append id _ _ nofun
  | finishing command commands =>
      cases advanced
      exact call_append id _ _ nofun
  | checking => cases advanced; exact .same rfl False.elim
  | evaluating => cases advanced; exact call_log id rfl
  | reporting controls =>
      cases controls with
      | nil => cases advanced; exact call_log id rfl
      | cons control controls =>
          cases advanced
          exact call_append id _ _ nofun
  | completing => cases advanced; exact call_log id (finished_events _ _ _ _)
  | announcingCompleted =>
      cases advanced
      exact call_append id _ _ fun _ => trivial
  | cancelling =>
      cases advanced
      exact callHandled_log id (finished_events _ _ _ _)
  | announcingCancelled =>
      cases advanced
      exact callHandled_append id _ _ fun _ => trivial
  | failing =>
      cases advanced
      exact callHandled_log id (finished_events _ _ _ _)
  | announcingFailed =>
      cases advanced
      exact callHandled_append id _ _ fun _ => trivial
  | cleaning => cases advanced; exact .same rfl id
  | ended => cases advanced

variable {answer : Option Bool}

theorem audit_log {before : AuditState} {label : AuditLabel}
    (made : (auditMachine env).step before label = some (answer, after)) :
    LogStep before after := by
  cases audit_step_cases made with
  | thread advanced => exact advance_log advanced
  | requestRaised => exact .same rfl id
  | accepted still => exact .same rfl id
  | refused terminal => exact .same rfl id
  | signalled waiting => exact .same rfl id

/-! ## The log of a run -/

/-- The log is numbered from one on without gaps, and behind an event that
ends the run comes no other one. -/
structure WellKept (state : AuditState) : Prop where
  numbered : state.tables.events.map AuditEvent.sequence =
    List.range' 1 state.tables.events.length
  closing : ∀ event ∈ state.tables.events, event.IsTerminal →
    state.phase.Closed ∧ state.tables.events.getLast? = some event

theorem nextSequence_of_numbered {events : List AuditEvent}
    (numbered : events.map AuditEvent.sequence =
      List.range' 1 events.length) :
    nextSequence events = events.length + 1 := by
  have highest : ∀ count, (List.range' 1 count).foldl max 0 = count := by
    intro count
    induction count with
    | zero => rfl
    | succ count ih =>
        rw [List.range'_1_concat, List.foldl_append, ih]
        simp only [List.foldl_cons, List.foldl_nil]
        omega
  rw [nextSequence, numbered, highest]

theorem LogStep.prefixes {before : AuditState}
    (logged : LogStep before after) :
    before.tables.events <+: after.tables.events := by
  cases logged with
  | same events => exact events ▸ List.prefix_refl _
  | appended event ongoing sequence events =>
      exact events ▸ List.prefix_append _ _

theorem WellKept.logged {before : AuditState} (kept : WellKept before)
    (logged : LogStep before after) : WellKept after := by
  cases logged with
  | same events closed =>
      refine ⟨events ▸ kept.numbered, fun event member terminal => ?_⟩
      have ⟨ended, last⟩ := kept.closing event (events ▸ member) terminal
      exact ⟨closed ended, events ▸ last⟩
  | appended event ongoing sequence events last =>
      rw [nextSequence_of_numbered kept.numbered] at sequence
      refine ⟨?_, fun other member terminal => ?_⟩
      · rw [events, List.map_append, kept.numbered, List.length_append,
          List.length_singleton, List.range'_1_concat, List.map_singleton,
          sequence, Nat.add_comm 1]
      · rw [events, List.mem_append, List.mem_singleton] at member
        rcases member with earlier | rfl
        · exact absurd (kept.closing other earlier terminal).1 ongoing
        · exact ⟨last terminal, by rw [events, List.getLast?_concat]⟩

/-- Whatever raises and whenever a cancellation is asked for, the log of an
audit only grows, has no gaps and ends with the event that ends the run. -/
theorem log_is_kept {guard : AuditState → AuditLabel → Prop}
    {trace : List (Moment AuditState AuditLabel (Option Bool))}
    {final : AuditState}
    (run : (auditMachine env).Run guard createdRun trace final) :
    WellKept final ∧ ∀ moment ∈ trace,
      moment.after.tables.events <+: final.tables.events := by
  have kept := run.invariant WellKept ⟨rfl, fun _ none_ => nomatch none_⟩
    fun _ _ _ _ kept _ made => kept.logged (audit_log made)
  refine ⟨kept, fun moment member => ?_⟩
  obtain ⟨earlier, later, rfl⟩ := List.append_of_mem member
  have onwards := run.around.2.2.2
  exact onwards.invariant
    (fun state => moment.after.tables.events <+: state.tables.events)
    (List.prefix_refl _)
    fun _ _ _ _ grown _ made => grown.trans (audit_log made).prefixes

theorem failed_log_is_kept :
    ∃ trace final, (auditMachine ubuntuEnvironment).Run Machine.unguarded
      createdRun trace final ∧
        final.tables.events.map AuditEvent.eventType =
          ["RUN_STARTED", "RUN_FAILED"] ∧ WellKept final := by
  have carried : ((auditMachine ubuntuEnvironment).replay Machine.unguarded
      createdRun (threadSteps 3 ++ .thread { raises := some .other } ::
        threadSteps 2)).map (fun (_, final) =>
          final.tables.events.map AuditEvent.eventType) =
      some ["RUN_STARTED", "RUN_FAILED"] := by decide +kernel
  obtain ⟨trace, final, run, seen⟩ := Machine.exists_run_of_replay carried
  exact ⟨trace, final, run, seen, (log_is_kept run).1⟩

/-! ## What the stream knows of the log -/

/-- A listing after `cursor` that found nothing in the first `seen` events:
the cursor is where the stream started, or on one of them. -/
structure ListedNothing (events : List AuditEvent) (start cursor : Int)
    (seen : Nat) : Prop where
  none_ : (events.take seen).filter (AuditEvent.isAfter cursor) = []
  reached : cursor = start ∨
    ∃ event ∈ events.take seen, (event.sequence : Int) = cursor

/-- What a listing tells about the log. -/
structure Listing (events : List AuditEvent) (start cursor : Int)
    (listed : List AuditEvent) (empty : Bool) (seen : Nat) : Prop where
  front : listed <+: events.filter (AuditEvent.isAfter cursor)
  bound : seen ≤ events.length
  nothing : empty = true → listed = [] ∧ ListedNothing events start cursor seen

/-- What the stream has in its hands. -/
def ReaderPhase.Follows (events : List AuditEvent) (start cursor : Int) :
    ReaderPhase → Prop
  | .loading listed seen =>
      Listing events start cursor listed listed.isEmpty seen
  | .yielding listed empty _ seen =>
      Listing events start cursor listed empty seen
  | .listing | .broken | .ended => True

/-- What a run keeps between its log and the stream. -/
structure Following (state : StreamState) : Prop where
  ascending : Ascending state.audit.tables.events
  /-- The terminal event is the last one. -/
  terminal : ∀ event ∈ state.audit.tables.events, event.IsTerminal →
    state.audit.phase.Closed ∧
    ∀ other ∈ state.audit.tables.events, other.sequence ≤ event.sequence
  forward : state.reader.after ≤ state.reader.cursor
  /-- Delivered is what lies between the start and the cursor. -/
  split : state.audit.tables.events.filter
      (AuditEvent.isAfter state.reader.after) =
    state.reader.delivered ++ state.audit.tables.events.filter
      (AuditEvent.isAfter state.reader.cursor)
  reached : state.reader.cursor = state.reader.after ∨
    ∃ event ∈ state.audit.tables.events,
      (event.sequence : Int) = state.reader.cursor
  phase : state.reader.phase.Follows state.audit.tables.events
    state.reader.after state.reader.cursor

variable {start : Int} {seen : Nat}

theorem ListedNothing.append
    (nothing : ListedNothing events start cursor seen)
    (bound : seen ≤ events.length) (last : AuditEvent) :
    ListedNothing (events ++ [last]) start cursor seen := by
  obtain ⟨none_, reached⟩ := nothing
  have same : (events ++ [last]).take seen = events.take seen :=
    List.take_append_of_le_length bound
  exact ⟨by rw [same]; exact none_, by rw [same]; exact reached⟩

theorem Listing.append {listed : List AuditEvent} {empty : Bool}
    (listing : Listing events start cursor listed empty seen)
    (last : AuditEvent) :
    Listing (events ++ [last]) start cursor listed empty seen := by
  constructor
  case front =>
    rw [List.filter_append]
    exact listing.front.trans (List.prefix_append _ _)
  case bound =>
    rw [List.length_append]
    exact Nat.le_add_right_of_le listing.bound
  case nothing =>
    intro found
    obtain ⟨left, nothing⟩ := listing.nothing found
    exact ⟨left, nothing.append listing.bound last⟩

theorem ReaderPhase.Follows.append {phase : ReaderPhase}
    (follows : phase.Follows events start cursor) (last : AuditEvent) :
    phase.Follows (events ++ [last]) start cursor := by
  cases phase with
  | listing => trivial
  | loading listed seen => exact Listing.append follows last
  | yielding listed empty status seen => exact Listing.append follows last
  | broken => trivial
  | ended => trivial

variable {state : StreamState}

/-- An event that is appended lies after the cursor if it lies after the
start. -/
theorem Following.isAfter_appended (following : Following state)
    (sequence : last.sequence = nextSequence state.audit.tables.events) :
    last.isAfter state.reader.cursor = last.isAfter state.reader.after := by
  unfold AuditEvent.isAfter
  apply decide_eq_decide.mpr
  rcases following.reached with same | ⟨event, member, same⟩
  · rw [same]
  · have below := lt_nextSequence member
    have forward := following.forward
    omega

/-- An event that the thread appends leaves the stream as far as it was. -/
theorem Following.appended (following : Following state)
    (ongoing : ¬state.audit.phase.Closed)
    (sequence : last.sequence = nextSequence state.audit.tables.events)
    (events : after.tables.events = state.audit.tables.events ++ [last])
    (closing : last.IsTerminal → after.phase.Closed) :
    Following { state with audit := after } := by
  have above : ∀ event ∈ state.audit.tables.events,
      event.sequence < last.sequence := by
    intro event member
    rw [sequence]
    exact lt_nextSequence member
  constructor
  case ascending =>
    simp only [events]
    exact following.ascending.append above
  case terminal =>
    simp only [events]
    intro event member terminal
    rcases List.mem_append.mp member with earlier | same
    · exact absurd (following.terminal event earlier terminal).1 ongoing
    · cases List.mem_singleton.mp same
      refine ⟨closing terminal, ?_⟩
      intro other among
      rcases List.mem_append.mp among with earlier | same
      · exact Nat.le_of_lt (above other earlier)
      · exact Nat.le_of_eq (congrArg _ (List.mem_singleton.mp same))
  case forward => exact following.forward
  case split =>
    simp only [events, List.filter_append, following.split,
      List.append_assoc]
    congr 2
    simp only [List.filter_cons, List.filter_nil,
      following.isAfter_appended sequence]
  case reached =>
    simp only [events]
    apply following.reached.imp_right
    rintro ⟨event, member, same⟩
    exact ⟨event, List.mem_append_left _ member, same⟩
  case phase =>
    simp only [events]
    exact following.phase.append last

theorem Following.audit_step {label : AuditLabel}
    (following : Following state)
    (made : (auditMachine env).step state.audit label =
      some (answer, after)) : Following { state with audit := after } := by
  cases audit_log made with
  | same events closed =>
      obtain ⟨ascending, terminal, forward, split, reached, phase⟩ := following
      constructor <;> simp only [events]
      case terminal =>
        intro event member ends
        exact ⟨closed (terminal event member ends).1,
          (terminal event member ends).2⟩
      all_goals assumption
  | appended last ongoing sequence events closing =>
      exact following.appended ongoing sequence events closing

/-! ## One step of the stream -/

/-- Everything that one step of the stream can do. -/
inductive ReaderStep (tables : AuditTables) (before : Reader) :
    Reader → Prop where
  | broke (waits : ∀ events empty status seen,
        before.phase ≠ .yielding events empty status seen) :
      ReaderStep tables before { before with phase := .broken }
  | listed (phase : before.phase = .listing) :
      ReaderStep tables before { before with
        phase := .loading (listLinuxAuditEvents tables before.cursor)
          tables.events.length }
  | loaded {events : List AuditEvent} {seen : Nat}
      (phase : before.phase = .loading events seen) :
      ReaderStep tables before { before with
        phase := .yielding events events.isEmpty tables.row.status seen }
  | yielded {event : AuditEvent} {events : List AuditEvent} {empty : Bool}
      {status : RunStatus} {seen : Nat}
      (phase : before.phase = .yielding (event :: events) empty status seen) :
      ReaderStep tables before { before with
        cursor := event.sequence
        delivered := before.delivered ++ [event]
        phase := .yielding events empty status seen }
  | again {empty : Bool} {status : RunStatus} {seen : Nat}
      (phase : before.phase = .yielding [] empty status seen)
      (goesOn : (status.isTerminal && empty) = false) :
      ReaderStep tables before { before with phase := .listing }
  | stopped {status : RunStatus} {seen : Nat}
      (phase : before.phase = .yielding [] true status seen)
      (terminal : status.isTerminal = true) :
      ReaderStep tables before { before with phase := .ended }

theorem reader_step_cases {raises : Bool} {before after : Reader}
    (stepped : readerStep tables raises before = some after) :
    ReaderStep tables before after := by
  obtain ⟨start, cursor, delivered, phase⟩ := before
  cases phase with
  | listing =>
      cases raises with
      | true => cases stepped; exact .broke nofun
      | false => cases stepped; exact .listed rfl
  | loading events seen =>
      cases raises with
      | true => cases stepped; exact .broke nofun
      | false => cases stepped; exact .loaded rfl
  | yielding events empty status seen =>
      cases events with
      | cons event events => cases stepped; exact .yielded rfl
      | nil =>
          cases stops : status.isTerminal && empty with
          | false =>
              simp only [readerStep, stops] at stepped
              cases stepped
              exact .again rfl stops
          | true =>
              simp only [readerStep, stops, if_true] at stepped
              cases stepped
              obtain ⟨terminal, rfl⟩ := (Bool.and_eq_true _ _).mp stops
              exact .stopped rfl terminal
  | broken => cases stepped
  | ended => cases stepped

variable {status : RunStatus}

/-- An event that is yielded is the first one after the cursor. -/
theorem Following.yielded {event : AuditEvent} {rest : List AuditEvent}
    {empty : Bool} (following : Following state)
    (phase : state.reader.phase =
      .yielding (event :: rest) empty status seen) :
    Following { state with
      reader := { state.reader with
        cursor := event.sequence
        delivered := state.reader.delivered ++ [event]
        phase := .yielding rest empty status seen } } := by
  have listing := following.phase
  rw [phase] at listing
  obtain ⟨others, found⟩ := listing.front
  have first : state.audit.tables.events.filter
      (AuditEvent.isAfter state.reader.cursor) = event :: (rest ++ others) :=
    found.symm
  have behind := following.ascending.filter_after_first first
  have member : event ∈ state.audit.tables.events.filter
      (AuditEvent.isAfter state.reader.cursor) := by
    rw [first]
    exact List.mem_cons_self
  obtain ⟨logged, later⟩ := List.mem_filter.mp member
  constructor
  case ascending => exact following.ascending
  case terminal => exact following.terminal
  case forward =>
    exact Int.le_trans following.forward
      (Int.le_of_lt (of_decide_eq_true later))
  case split =>
    show _ = (state.reader.delivered ++ [event]) ++ _
    rw [following.split, first, behind, List.append_assoc,
      List.singleton_append]
  case reached => exact .inr ⟨event, logged, rfl⟩
  case phase =>
    constructor
    case front =>
      rw [behind]
      exact List.prefix_append _ _
    case bound => exact listing.bound
    case nothing =>
      intro found
      cases (listing.nothing found).1

theorem Following.listing (following : Following state) :
    Listing state.audit.tables.events state.reader.after state.reader.cursor
      (listLinuxAuditEvents state.audit.tables state.reader.cursor)
      (listLinuxAuditEvents state.audit.tables state.reader.cursor).isEmpty
      state.audit.tables.events.length := by
  constructor
  case front => exact listing_isPrefix following.ascending _
  case bound => exact Nat.le_refl _
  case nothing =>
    intro empty
    have nothing := List.isEmpty_iff.mp empty
    refine ⟨nothing, ?_, ?_⟩
    · rw [List.take_length]
      exact filter_of_empty_listing nothing
    · rw [List.take_length]
      exact following.reached

theorem Following.reader_step {after : Reader} (following : Following state)
    (stepped : ReaderStep state.audit.tables state.reader after) :
    Following { state with reader := after } := by
  cases stepped with
  | broke waits => exact { following with phase := trivial }
  | listed phase => exact { following with phase := following.listing }
  | loaded phase =>
      have listing := following.phase
      rw [phase] at listing
      exact { following with phase := listing }
  | yielded phase => exact following.yielded phase
  | again phase goesOn => exact { following with phase := trivial }
  | stopped phase terminal => exact { following with phase := trivial }

/-- Everything that a step of the run or of the stream can be. -/
inductive StreamStep (env : AuditEnvironment) (before : StreamState) :
    StreamLabel → StreamState → Prop where
  | audit {label : AuditLabel} {answer : Option Bool} {after : AuditState}
      (made : (auditMachine env).step before.audit label =
        some (answer, after)) :
      StreamStep env before (.audit label) { before with audit := after }
  | reader {raises : Bool} {after : Reader}
      (stepped : ReaderStep before.audit.tables before.reader after) :
      StreamStep env before (.reader raises) { before with reader := after }

variable {before : StreamState} {label : StreamLabel}

theorem stream_step_cases {after : StreamState}
    (made : (streamMachine env).step before label = some (answer, after)) :
    StreamStep env before label after := by
  cases label with
  | audit request =>
      obtain ⟨⟨told, reached⟩, stepped, same⟩ := Option.map_eq_some_iff.mp made
      cases same
      exact .audit stepped
  | reader raises =>
      obtain ⟨reached, stepped, same⟩ := Option.map_eq_some_iff.mp made
      cases same
      exact .reader (reader_step_cases stepped)

theorem Following.step {after : StreamState} (following : Following before)
    (made : (streamMachine env).step before label = some (answer, after)) :
    Following after := by
  cases stream_step_cases made with
  | audit moved => exact following.audit_step moved
  | reader stepped => exact following.reader_step stepped

theorem openedStream_following (start : Int) :
    Following (openedStream start) where
  ascending := List.Pairwise.nil
  terminal := nofun
  forward := Int.le_refl _
  split := rfl
  reached := .inl rfl
  phase := trivial

/-! ## When a stream that stops is complete -/

theorem Following.caught_up (following : Following state)
    (phase : state.reader.phase = .yielding [] true status seen)
    (listed : TerminalListed state seen) :
    state.audit.tables.events.filter
      (AuditEvent.isAfter state.reader.cursor) = [] := by
  have listing := following.phase
  rw [phase] at listing
  obtain ⟨-, none_, -⟩ := listing.nothing rfl
  obtain ⟨last, member, terminal, known⟩ := listed
  have reached : (last.sequence : Int) ≤ state.reader.cursor := by
    rcases known with taken | before
    · have notAfter := List.filter_eq_nil_iff.mp none_ last taken
      simpa [AuditEvent.isAfter] using notAfter
    · exact Int.le_trans before following.forward
  apply List.filter_eq_nil_iff.mpr
  intro event among
  have below := (following.terminal last member terminal).2 event among
  simp only [AuditEvent.isAfter, decide_eq_true_eq]
  omega

/-- If nothing is after the cursor of an empty listing, that listing saw the
terminal event. -/
theorem Following.terminal_listed (following : Following state)
    (phase : state.reader.phase = .yielding [] true status seen)
    (member : last ∈ state.audit.tables.events) (terminal : last.IsTerminal)
    (nothing : state.audit.tables.events.filter
      (AuditEvent.isAfter state.reader.cursor) = []) :
    TerminalListed state seen := by
  have listing := following.phase
  rw [phase] at listing
  obtain ⟨-, -, reached⟩ := listing.nothing rfl
  refine ⟨last, member, terminal, ?_⟩
  have notAfter : (last.sequence : Int) ≤ state.reader.cursor := by
    have notAfter := List.filter_eq_nil_iff.mp nothing last member
    simpa [AuditEvent.isAfter] using notAfter
  rcases reached with same | ⟨event, taken, same⟩
  · exact .inr (same ▸ notAfter)
  · have among := List.mem_of_mem_take taken
    have below := (following.terminal last member terminal).2 event among
    have equal : event = last :=
      following.ascending.eq_of_sequence among member (by omega)
    exact .inl (equal ▸ taken)

theorem StreamComplete.audit_step {label : AuditLabel}
    (complete : StreamComplete state) (following : Following state)
    (made : (auditMachine env).step state.audit label =
      some (answer, after)) :
    StreamComplete { state with audit := after } := by
  intro ended
  obtain ⟨⟨last, member, terminal⟩, delivered⟩ := complete ended
  cases audit_log made with
  | same events closed =>
      simp only [events]
      exact ⟨⟨last, member, terminal⟩, delivered⟩
  | appended event ongoing sequence events closing =>
      exact absurd (following.terminal last member terminal).1 ongoing

/-- The step lemma of a stream that stops on a listed terminal event. -/
theorem StreamComplete.step {after : StreamState}
    (complete : StreamComplete before) (following : Following before)
    (stops : StopsAfterTerminal before label)
    (made : (streamMachine env).step before label = some (answer, after)) :
    StreamComplete after := by
  cases stream_step_cases made with
  | audit moved => exact complete.audit_step following moved
  | reader stepped =>
      intro ended
      cases stepped with
      | stopped phase terminal =>
          have listed : TerminalListed before _ :=
            stops _ (by simp only [phase, ReaderPhase.stopsOn, terminal]; rfl)
          have split := following.split
          rw [following.caught_up phase listed, List.append_nil] at split
          obtain ⟨last, member, ends, _⟩ := listed
          exact ⟨⟨last, member, ends⟩, split.symm⟩
      | broke waits => cases ended
      | listed phase => cases ended
      | loaded phase => cases ended
      | yielded phase => cases ended
      | again phase goesOn => cases ended

theorem ReaderPhase.stopsOn_eq_some {phase : ReaderPhase}
    (stops : phase.stopsOn = some seen) :
    ∃ status, phase = .yielding [] true status seen ∧
      status.isTerminal = true := by
  unfold stopsOn at stops
  split at stops
  · split at stops
    · next status _ terminal =>
        cases stops
        exact ⟨status, rfl, terminal⟩
    · cases stops
  · cases stops

/-- A stream that is complete when it stops had listed the terminal event. -/
theorem Following.stops_of_complete {after : StreamState}
    (following : Following before)
    (made : (streamMachine env).step before label = some (answer, after))
    (complete : StreamComplete after) : StopsAfterTerminal before label := by
  cases stream_step_cases made with
  | audit moved => trivial
  | reader stepped =>
      intro seen stops
      obtain ⟨status, phase, terminal⟩ := ReaderPhase.stopsOn_eq_some stops
      cases stepped with
      | stopped _ _ =>
          obtain ⟨⟨last, member, ends⟩, delivered⟩ := complete rfl
          have nothing : before.audit.tables.events.filter
              (AuditEvent.isAfter before.reader.cursor) = [] :=
            List.append_right_eq_self.mp
              (following.split.symm.trans delivered.symm)
          exact following.terminal_listed phase member ends nothing
      | broke waits => exact absurd phase (waits _ _ _ _)
      | again same goesOn =>
          cases same.symm.trans phase
          rw [terminal] at goesOn
          cases goesOn
      | listed same => cases same.symm.trans phase
      | loaded same => cases same.symm.trans phase
      | yielded same => cases same.symm.trans phase

/-- A stream that ends by itself has delivered every event of its run, exactly
if it never stops on a terminal status that it loaded after an empty listing
without the terminal event. -/
theorem stream_complete_iff {env : AuditEnvironment} {start : Int}
    {trace : List (Moment StreamState StreamLabel (Option Bool))}
    {final : StreamState}
    (run : (streamMachine env).Run Machine.unguarded (openedStream start)
      trace final) :
    (∀ moment ∈ trace, StreamComplete moment.after) ↔
      ∀ moment ∈ trace, StopsAfterTerminal moment.before moment.label := by
  constructor
  case mp =>
    intro complete moment member
    obtain ⟨following, -, made⟩ := run.before_moment Following
      (openedStream_following start)
      (fun _ _ _ _ following _ made => following.step made) member
    exact following.stops_of_complete made (complete moment member)
  case mpr =>
    intro stops moment member
    exact ((run.strengthen stops).after_moment
      (fun state => Following state ∧ StreamComplete state)
      ⟨openedStream_following start, nofun⟩
      (fun _ _ _ _ holds met made =>
        ⟨holds.1.step made, holds.2.step holds.1 met made⟩) member).2

/-! ## A complete stream, and one that is not -/

instance (state : StreamState) (seen : Nat) :
    Decidable (TerminalListed state seen) :=
  inferInstanceAs (Decidable (∃ event ∈ _, _ ∧ (_ ∨ _)))

instance (state : StreamState) :
    (label : StreamLabel) → Decidable (StopsAfterTerminal state label)
  | .audit _ => .isTrue trivial
  | .reader _ => inferInstanceAs (Decidable (∀ _ ∈ _, _))

/-- The thread making `thread` steps, and then the stream `reader` steps. -/
def streamSteps (thread reader : Nat) : List StreamLabel :=
  (threadSteps thread).map .audit ++ List.replicate reader (.reader false)

/-- The stream of a run that has ended delivers all its 154 events. -/
theorem late_stream_is_complete :
    ∃ trace final,
      (streamMachine ubuntuEnvironment).Run Machine.unguarded (openedStream 0)
        trace final ∧
      final.reader.phase = .ended ∧ final.reader.delivered.length = 154 ∧
      ∀ moment ∈ trace, StreamComplete moment.after := by
  have carried : ((streamMachine ubuntuEnvironment).replay StopsAfterTerminal
      (openedStream 0) (streamSteps 253 160)).map (fun (_, final) =>
        (final.reader.phase, final.reader.delivered.length)) =
      some (.ended, 154) := by
    decide +kernel
  obtain ⟨trace, final, run, seen⟩ := Machine.exists_run_of_replay carried
  obtain ⟨ended, length⟩ := Prod.mk.inj seen
  have free : (streamMachine ubuntuEnvironment).Run Machine.unguarded
      (openedStream 0) trace final := run.weaken fun _ _ _ => trivial
  refine ⟨trace, final, free, ended, length, ?_⟩
  apply (stream_complete_iff free).mpr
  intro moment member
  exact (run.before_moment (fun _ => True) trivial
    (fun _ _ _ _ _ _ _ => trivial) member).2.1

/-- A stream that loads the status COMPLETED before the event `RUN_COMPLETED`
is appended stops without that event. -/
theorem early_stream_is_incomplete :
    ∃ trace final,
      (streamMachine ubuntuEnvironment).Run Machine.unguarded (openedStream 0)
        trace final ∧
      final.reader.phase = .ended ∧
      (∃ event ∈ final.audit.tables.events,
        event.eventType = "RUN_COMPLETED" ∧
        event ∉ final.reader.delivered) ∧
      ¬StreamComplete final := by
  have carried : ((streamMachine ubuntuEnvironment).replay Machine.unguarded
      (openedStream 0) (streamSteps 251 159 ++ [.audit (.thread {})])).map
      (fun (_, final) =>
        (final.reader.phase,
          decide (∃ event ∈ final.audit.tables.events,
            event.eventType = "RUN_COMPLETED" ∧
            event.isAfter final.reader.after = true ∧
            event ∉ final.reader.delivered))) =
      some (.ended, true) := by
    decide +kernel
  obtain ⟨trace, final, run, seen⟩ := Machine.exists_run_of_replay carried
  obtain ⟨ended, missed⟩ := Prod.mk.inj seen
  obtain ⟨event, member, last, later, missing⟩ := of_decide_eq_true missed
  refine ⟨trace, final, run, ended, ⟨event, member, last, missing⟩, ?_⟩
  intro complete
  rw [(complete ended).2] at missing
  exact missing (List.mem_filter.mpr ⟨member, later⟩)

end SecAI.LinuxAudit
