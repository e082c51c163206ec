/-
Module: SecAI.Chat.Streaming
Purpose: The text of one generation on its way from the task that generates it
  through the stream store to the readers of its events.
Trusted boundary: the store is available and nothing in it expires; each of its
  operations is one step
Main exports:
  StreamStore, Reader, StreamState, delivered_text_is_the_answer
-/
import SecAI.Chat.Contracts
import SecAI.Interleaving.Machine

namespace SecAI.Chat

open Interleaving
open SecAI.Text (isSpace strip strip_append_blank)

/-! ## The stream store -/

/-- The two keys of a generation. -/
structure StreamStore where
  content : Option (List Char)
  epoch : Option Nat

def streamMaxChars : Nat := 100000

/-- `STRLEN`: the length in bytes. -/
def strlen (content : List Char) : Nat :=
  (content.map Char.utf8Size).sum

namespace StreamStore

/-- `_initialize_stream`. -/
def initialized : StreamStore := ⟨some [], some 0⟩

def remaining (store : StreamStore) : Nat :=
  streamMaxChars - strlen (store.content.getD [])

/-- `_append_stream_token`. -/
def append (store : StreamStore) (token : List Char) : StreamStore :=
  if token = [] ∨ store.remaining = 0 then store
  else
    { store with
      content := some (store.content.getD [] ++ token.take store.remaining) }

/-- `_reset_stream`. -/
def reset (store : StreamStore) : StreamStore :=
  ⟨some [], some (store.epoch.getD 0 + 1)⟩

/-- `_read_stream`. -/
def read (store : StreamStore) : List Char × Nat :=
  (store.content.getD [], store.epoch.getD 0)

/-- `_discard_stream`. -/
def discarded : StreamStore := ⟨none, none⟩

end StreamStore

/-! ## Readers -/

/-- Where the loop of a reader stands. -/
inductive ReaderPhase where
  | polling
  /-- It has read the status of the generation. -/
  | looked (completed : Bool)
  /-- It has reported `COMPLETED`. -/
  | reported
  | ended
  /-- It has waited for too long. -/
  | expired
deriving DecidableEq

def ReaderPhase.isWaiting : ReaderPhase → Bool
  | .polling | .looked _ => true
  | .reported | .ended | .expired => false

/-- The variables of `event_stream`, and the text delivered since its last
`answer-reset`. -/
structure Reader where
  offset : Nat
  epoch : Nat
  delivered : List Char
  phase : ReaderPhase

namespace Reader

def connected : Reader := ⟨0, 0, [], .polling⟩

/-- The `answer-reset` of a poll. -/
def noticeReset (reader : Reader) (epoch : Nat) : Reader :=
  if epoch ≠ reader.epoch then
    { reader with epoch := epoch, offset := 0, delivered := [] }
  else reader

/-- The `answer-token` of a poll. -/
def deliverRest (reader : Reader) (content : List Char) : Reader :=
  let offset := if content.length < reader.offset then 0 else reader.offset
  if offset < content.length then
    { reader with
      offset := content.length
      delivered := reader.delivered ++ content.drop offset }
  else { reader with offset := offset }

def deliver (reader : Reader) (store : StreamStore) : Reader :=
  (reader.noticeReset store.read.2).deliverRest store.read.1

end Reader

/-! ## The task and its readers -/

/-- The store, the text that the task has written since its last reset, the
answer it has completed the generation with, and the readers. -/
structure StreamState where
  store : StreamStore
  written : List Char
  stored : Option (List Char)
  readers : List Reader

def StreamState.started : StreamState := ⟨.initialized, [], none, []⟩

/-- A step of the task or of a reader. -/
inductive StreamLabel where
  | append (token : List Char)
  | reset
  | complete
  | connect
  | look (reader : Nat)
  | deliver (reader : Nat)
  | discard (reader : Nat)
  | expire (reader : Nat)

namespace StreamState

def withReader (state : StreamState) (index : Nat) (reader : Reader) :
    StreamState :=
  { state with readers := state.readers.set index reader }

def look (state : StreamState) (index : Nat) : Option StreamState :=
  match state.readers[index]? with
  | some reader =>
      if reader.phase = .polling then
        some (state.withReader index
          { reader with phase := .looked state.stored.isSome })
      else none
  | none => none

def deliver (state : StreamState) (index : Nat) : Option StreamState :=
  match state.readers[index]? with
  | some reader =>
      match reader.phase with
      | .looked completed =>
          some (state.withReader index
            { reader.deliver state.store with
              phase := if completed then .reported else .polling })
      | _ => none
  | none => none

def discard (state : StreamState) (index : Nat) (old new : ReaderPhase) :
    Option StreamState :=
  match state.readers[index]? with
  | some reader =>
      if reader.phase = old then
        some { state.withReader index { reader with phase := new } with
          store := .discarded }
      else none
  | none => none

/-- A step of the task, which has not completed the generation yet. -/
def task (state : StreamState) : StreamLabel → Option StreamState
  | .append token => some { state with
      store := state.store.append token
      written := state.written ++ token }
  | .reset => some { state with store := state.store.reset, written := [] }
  | .complete =>
      match validatedContent state.written with
      | .ok answer => some { state with stored := some answer }
      | .error _ => none
  | _ => none

def poll (state : StreamState) : StreamLabel → Option StreamState
  | .connect => some { state with
      readers := state.readers ++ [Reader.connected] }
  | .look index => state.look index
  | .deliver index => state.deliver index
  | .discard index => state.discard index .reported .ended
  | .expire index => state.discard index .polling .expired
  | _ => none

end StreamState

/-- The task and any number of readers, in any order of their steps. -/
def streamMachine : Machine StreamState StreamLabel Unit where
  step state label :=
    ((if state.stored = none then state.task label else none).or
      (state.poll label)).map fun after => ((), after)

/-! ## Undisturbed deliveries -/

def StreamStore.cut (store : StreamStore) (token : List Char) : List Char :=
  token.drop store.remaining

/-- A reader loses nothing when the stream is discarded: it waits no longer, or
has got the whole text and will not take the deletion for a reset. -/
def Reader.isServed (reader : Reader) (store : StreamStore) : Bool :=
  !reader.phase.isWaiting || decide (store.content = none ∨
    reader.epoch = 0 ∧ store.content = some reader.delivered)

def OthersServed (state : StreamState) (index : Nat) : Prop :=
  ∀ other < state.readers.length, other ≠ index →
    (state.readers[other]?).all (·.isServed state.store) = true

instance (state : StreamState) (index : Nat) :
    Decidable (OthersServed state index) :=
  inferInstanceAs (Decidable (∀ other < state.readers.length, other ≠ index →
    (state.readers[other]?).all (·.isServed state.store) = true))

/-- Appends cut off blanks only, and the stream of a generation is discarded
behind its completion, when no other reader needs it, and not read from then
on. -/
def Undisturbed (state : StreamState) : StreamLabel → Prop
  | .append token => ∀ character ∈ state.store.cut token,
      isSpace character = true
  | .connect => state.store.content ≠ none
  | .discard index => OthersServed state index
  | .expire index => state.stored ≠ none ∧ OthersServed state index
  | _ => True

instance : ∀ (state : StreamState) (label : StreamLabel),
    Decidable (Undisturbed state label)
  | state, .append token => List.decidableBAll
      (fun character => isSpace character = true) (state.store.cut token)
  | state, .connect => inferInstanceAs (Decidable
      (state.store.content ≠ none))
  | state, .discard index => inferInstanceAs (Decidable
      (OthersServed state index))
  | state, .expire index => inferInstanceAs (Decidable
      (state.stored ≠ none ∧ OthersServed state index))
  | _, .reset | _, .complete | _, .look _ | _, .deliver _ => .isTrue trivial

/-! ## What a reader has got -/

/-- A reader has got the stored answer. -/
def Finished (stored : Option (List Char)) (reader : Reader) : Prop :=
  ∃ answer, stored = some answer ∧ strip reader.delivered = answer

/-- What a waiting reader has got is a prefix of the text, unless it has yet to
notice a reset; of a discarded text it has got everything. -/
def Follows (store : StreamStore) (stored : Option (List Char))
    (reader : Reader) : Prop :=
  (∃ content epoch, store = ⟨some content, some epoch⟩ ∧
    reader.epoch ≤ epoch ∧
    (reader.epoch = epoch → reader.offset ≤ content.length ∧
      reader.delivered = content.take reader.offset)) ∨
  store = .discarded ∧ reader.epoch = 0 ∧ Finished stored reader

/-- What is known of a reader in each of its phases. -/
def ReaderSound (store : StreamStore) (stored : Option (List Char))
    (reader : Reader) : Prop :=
  match reader.phase with
  | .polling => Follows store stored reader
  | .looked completed => Follows store stored reader ∧
      (completed = true → stored.isSome = true)
  | .reported | .ended => Finished stored reader
  | .expired => True

/-- The text in the store is what was written, up to blanks that were cut
off. -/
def Intact (store : StreamStore) (written : List Char) : Prop :=
  ∃ content epoch blanks, store = ⟨some content, some epoch⟩ ∧
    written = content ++ blanks ∧
    (∀ character ∈ blanks, isSpace character = true) ∧
    (blanks = [] ∨ store.remaining = 0)

/-- The store, the answer and the readers belong together. -/
structure StreamSound (state : StreamState) : Prop where
  store : Intact state.store state.written ∨
    state.store = .discarded ∧ state.stored.isSome = true
  answer : ∀ answer, state.stored = some answer →
    answer = strip state.written
  readers : ∀ (index : Nat) reader, state.readers[index]? = some reader →
    ReaderSound state.store state.stored reader

/-! ## Steps of the task -/

section Task

theorem length_le_strlen (content : List Char) :
    content.length ≤ strlen content := by
  induction content with
  | nil => exact Nat.le_refl 0
  | cons first rest ih =>
      have positive := first.utf8Size_pos
      rw [strlen, List.map_cons, List.sum_cons, List.length_cons]
      rw [strlen] at ih
      omega

theorem strlen_append (first second : List Char) :
    strlen (first ++ second) = strlen first + strlen second := by
  rw [strlen, List.map_append, List.sum_append, strlen, strlen]

/-- An append that cuts off nothing but blanks leaves the text intact. -/
theorem Intact.append {store : StreamStore} {written token : List Char}
    (intact : Intact store written)
    (blank : ∀ character ∈ store.cut token, isSpace character = true) :
    Intact (store.append token) (written ++ token) := by
  obtain ⟨content, epoch, blanks, isStore, isWritten, areBlank, full⟩ := intact
  rw [StreamStore.append]
  split
  · next nothing =>
      refine ⟨content, epoch, blanks ++ token, isStore, ?_, ?_, ?_⟩
      · rw [isWritten, List.append_assoc]
      · intro character member
        rcases List.mem_append.mp member with old | new
        · exact areBlank character old
        · rcases nothing with rfl | noRoom
          · cases new
          · apply blank
            rw [StreamStore.cut, noRoom]
            exact new
      · rcases nothing with rfl | noRoom
        · rw [List.append_nil]
          exact full
        · exact .inr noRoom
  · next something =>
      rw [not_or] at something
      have whole : blanks = [] := full.resolve_right something.2
      subst whole
      rw [List.append_nil] at isWritten
      subst isWritten
      refine ⟨written ++ token.take store.remaining, epoch,
        token.drop store.remaining, ?_, ?_, blank, ?_⟩
      · rw [isStore]
        rfl
      · rw [List.append_assoc, List.take_append_drop]
      · rcases Nat.lt_or_ge store.remaining token.length with cut | fits
        · right
          have room : store.remaining = streamMaxChars - strlen written := by
            rw [StreamStore.remaining, isStore]
            rfl
          have length := length_le_strlen (token.take store.remaining)
          rw [List.length_take_of_le (Nat.le_of_lt cut)] at length
          rw [StreamStore.remaining, isStore]
          simp only [Option.getD_some]
          rw [← isStore, strlen_append]
          omega
        · exact .inl (List.drop_eq_nil_of_le fits)

variable {store : StreamStore} {reader : Reader}

theorem not_finished : ¬Finished none reader := by
  rintro ⟨answer, stored, _⟩
  cases stored

theorem Follows.append (token : List Char)
    (follows : Follows store none reader) :
    Follows (store.append token) none reader := by
  rcases follows with ⟨content, epoch, rfl, behind, delivered⟩ | ⟨_, _, got⟩
  · rw [StreamStore.append]
    split
    · exact .inl ⟨content, epoch, rfl, behind, delivered⟩
    refine .inl ⟨_, epoch, rfl, behind, fun same => ?_⟩
    obtain ⟨short, isPrefix⟩ := delivered same
    rw [Option.getD_some]
    constructor
    · rw [List.length_append]
      exact Nat.le_add_right_of_le short
    · rw [List.take_append_of_le_length short]
      exact isPrefix
  · exact (not_finished got).elim

theorem Follows.reset (follows : Follows store none reader) :
    Follows store.reset none reader := by
  rcases follows with ⟨content, epoch, rfl, behind, _⟩ | ⟨_, _, got⟩
  · refine .inl ⟨[], epoch + 1, rfl, Nat.le_succ_of_le behind, fun same => ?_⟩
    omega
  · exact (not_finished got).elim

theorem ReaderSound.of_follows {store' : StreamStore}
    {stored : Option (List Char)} (sound : ReaderSound store none reader)
    (follows : Follows store none reader → Follows store' stored reader) :
    ReaderSound store' stored reader := by
  rw [ReaderSound] at sound ⊢
  cases phase : reader.phase with
  | polling =>
      rw [phase] at sound
      exact follows sound
  | looked completed =>
      rw [phase] at sound
      refine ⟨follows sound.1, fun isCompleted => ?_⟩
      cases sound.2 isCompleted
  | reported | ended =>
      rw [phase] at sound
      exact (not_finished sound).elim
  | expired => trivial

/-- The task keeps the store, the answer and the readers together. -/
theorem StreamSound.task {before after : StreamState} {label : StreamLabel}
    (sound : StreamSound before) (undisturbed : Undisturbed before label)
    (unanswered : before.stored = none)
    (made : before.task label = some after) : StreamSound after := by
  have intact : Intact before.store before.written := by
    rcases sound.store with intact | ⟨_, answered⟩
    · exact intact
    · rw [unanswered] at answered
      cases answered
  have readers := sound.readers
  rw [unanswered] at readers
  cases label with
  | append token =>
      cases made
      refine ⟨.inl (intact.append undisturbed), ?_, ?_⟩
      · intro answer stored
        cases unanswered.symm.trans stored
      · intro index reader found
        rw [show StreamState.stored { before with
          store := before.store.append token
          written := before.written ++ token } = none from unanswered]
        exact (readers index reader found).of_follows (.append token)
  | reset =>
      cases made
      refine ⟨.inl ⟨[], _, [], rfl, rfl, nofun, .inl rfl⟩, ?_, ?_⟩
      · intro answer stored
        cases unanswered.symm.trans stored
      · intro index reader found
        rw [show StreamState.stored { before with
          store := before.store.reset
          written := [] } = none from unanswered]
        exact (readers index reader found).of_follows .reset
  | complete =>
      simp only [StreamState.task] at made
      split at made
      · next answer checked =>
          cases made
          refine ⟨.inl intact, ?_, ?_⟩
          · intro other stored
            cases stored
            exact (validatedContent_eq_ok.mp checked).1
          · intro index reader found
            apply (readers index reader found).of_follows
            rintro (kept | ⟨_, _, got⟩)
            · exact .inl kept
            · exact (not_finished got).elim
      · cases made
  | _ => cases made

end Task

/-! ## Steps of the readers -/

section Readers

variable {before after : StreamState} {store : StreamStore}
variable {stored : Option (List Char)} {reader changed : Reader} {index : Nat}

/-- A poll of the whole text delivers what was missing of it. -/
theorem deliver_kept {content : List Char} {epoch : Nat}
    (delivered : reader.epoch = epoch → reader.offset ≤ content.length ∧
      reader.delivered = content.take reader.offset) :
    reader.deliver ⟨some content, some epoch⟩ =
      { reader with
        offset := content.length
        epoch := epoch
        delivered := content } := by
  rw [Reader.deliver, StreamStore.read, Option.getD_some, Option.getD_some,
    Reader.noticeReset]
  by_cases same : epoch = reader.epoch
  · subst same
    obtain ⟨short, isPrefix⟩ := delivered rfl
    rw [if_neg (by exact fun different => different rfl), Reader.deliverRest,
      if_neg (Nat.not_lt_of_le short)]
    by_cases missing : reader.offset < content.length
    · simp only [if_pos missing, isPrefix, List.take_append_drop]
    · have whole : reader.offset = content.length := by omega
      simp only [whole, if_neg (Nat.lt_irrefl _), isPrefix, List.take_length]
  · rw [if_pos same, Reader.deliverRest]
    cases content with
    | nil => rfl
    | cons first rest => rfl

theorem deliver_discarded (first : reader.epoch = 0) :
    reader.deliver .discarded = { reader with offset := 0 } := by
  simp only [Reader.deliver, StreamStore.read, StreamStore.discarded,
    Option.getD_none, Reader.noticeReset, first, ne_eq, not_true, if_false,
    Reader.deliverRest, List.length_nil]
  split
  · simp
  · next short =>
      have zero : reader.offset = 0 := by omega
      simp [zero]

theorem Follows.deliver (follows : Follows store stored reader)
    {phase : ReaderPhase} :
    Follows store stored { reader.deliver store with phase := phase } := by
  rcases follows with ⟨content, epoch, rfl, behind, delivered⟩ |
    ⟨rfl, first, got⟩
  · rw [deliver_kept delivered]
    exact .inl ⟨content, epoch, rfl, Nat.le_refl epoch, fun _ =>
      ⟨Nat.le_refl _, (List.take_length).symm⟩⟩
  · rw [deliver_discarded first]
    exact .inr ⟨rfl, first, got⟩

theorem Follows.finished {written : List Char}
    (follows : Follows store stored reader)
    (intact : Intact store written ∨ store = .discarded ∧ stored.isSome = true)
    (isStored : stored.isSome = true)
    (isAnswer : ∀ answer, stored = some answer → answer = strip written)
    {phase : ReaderPhase} :
    Finished stored { reader.deliver store with phase := phase } := by
  obtain ⟨answer, isSome⟩ := Option.isSome_iff_exists.mp isStored
  refine ⟨answer, isSome, ?_⟩
  rcases follows with ⟨content, epoch, rfl, behind, delivered⟩ |
    ⟨rfl, first, got⟩
  · rw [deliver_kept delivered, isAnswer answer isSome]
    rcases intact with ⟨_, _, blanks, same, rfl, areBlank, _⟩ | ⟨same, _⟩
    · cases same
      exact (strip_append_blank content areBlank).symm
    · cases same
  · rw [deliver_discarded first]
    obtain ⟨other, isOther, stripped⟩ := got
    cases isSome.symm.trans isOther
    exact stripped

theorem StreamSound.withReader (sound : StreamSound before)
    (changedSound : ReaderSound before.store before.stored changed) :
    StreamSound (before.withReader index changed) := by
  refine ⟨sound.store, sound.answer, ?_⟩
  intro other reader found
  rw [StreamState.withReader, List.getElem?_set] at found
  split at found
  · split at found
    · cases found
      exact changedSound
    · cases found
  · exact sound.readers other reader found

theorem StreamSound.look (sound : StreamSound before)
    (made : before.look index = some after) : StreamSound after := by
  rw [StreamState.look] at made
  split at made
  · next reader found =>
      split at made
      · next polling =>
          cases made
          have follows := sound.readers index reader found
          rw [ReaderSound, polling] at follows
          exact sound.withReader ⟨follows, id⟩
      · cases made
  · cases made

theorem StreamSound.deliver (sound : StreamSound before)
    (made : before.deliver index = some after) : StreamSound after := by
  rw [StreamState.deliver] at made
  split at made
  · next reader found =>
      split at made
      · next completed looked =>
          cases made
          have known := sound.readers index reader found
          rw [ReaderSound, looked] at known
          apply sound.withReader
          cases completed with
          | false => exact known.1.deliver
          | true =>
              exact known.1.finished sound.store (known.2 rfl) sound.answer
      · cases made
  · cases made

/-- A reader that is served by the text survives its deletion. -/
theorem ReaderSound.discarded {written : List Char}
    (sound : ReaderSound store stored reader)
    (intact : Intact store written ∨ store = .discarded ∧ stored.isSome = true)
    (isStored : stored.isSome = true)
    (isAnswer : ∀ answer, stored = some answer → answer = strip written)
    (served : reader.isServed store = true) :
    ReaderSound .discarded stored reader := by
  have follows : reader.phase.isWaiting = true → Follows store stored reader →
      Follows .discarded stored reader := by
    intro waiting known
    rcases intact with ⟨content, epoch, blanks, rfl, rfl, areBlank, _⟩ |
      ⟨rfl, _⟩
    · rw [Reader.isServed, waiting, Bool.not_true, Bool.false_or,
        decide_eq_true_eq] at served
      obtain ⟨first, whole⟩ := served.resolve_left nofun
      obtain ⟨answer, isSome⟩ := Option.isSome_iff_exists.mp isStored
      refine .inr ⟨rfl, first, answer, isSome, ?_⟩
      rw [← Option.some.inj whole, isAnswer answer isSome]
      exact (strip_append_blank content areBlank).symm
    · exact known
  rw [ReaderSound] at sound ⊢
  cases phase : reader.phase with
  | polling =>
      rw [phase] at sound follows
      exact follows rfl sound
  | looked completed =>
      rw [phase] at sound follows
      exact ⟨follows rfl sound.1, sound.2⟩
  | reported | ended =>
      rw [phase] at sound
      exact sound
  | expired => trivial

theorem discarding_reader {old new : ReaderPhase}
    (made : before.discard index old new = some after) :
    ∃ reader, before.readers[index]? = some reader ∧ reader.phase = old := by
  rw [StreamState.discard] at made
  split at made
  · next reader found =>
      split at made
      · next isOld => exact ⟨reader, found, isOld⟩
      · cases made
  · cases made

/-- A reader discards the stream of a completed generation. -/
theorem StreamSound.discard {old new : ReaderPhase}
    (sound : StreamSound before) (isStored : before.stored.isSome = true)
    (served : OthersServed before index)
    (ends : ∀ reader, ReaderSound before.store before.stored reader →
      reader.phase = old →
      ReaderSound .discarded before.stored { reader with phase := new })
    (made : before.discard index old new = some after) :
    StreamSound after := by
  rw [StreamState.discard] at made
  split at made
  · next reader found =>
      split at made
      · next isOld =>
          cases made
          refine ⟨.inr ⟨rfl, isStored⟩, sound.answer, ?_⟩
          intro other known isKnown
          rw [StreamState.withReader, List.getElem?_set] at isKnown
          split at isKnown
          · split at isKnown
            · cases isKnown
              exact ends reader (sound.readers index reader found) isOld
            · cases isKnown
          · next different =>
              have inRange := (List.getElem?_eq_some_iff.mp isKnown).1
              have isServed := served other inRange
                (fun same => different same.symm)
              rw [isKnown, Option.all_some] at isServed
              exact (sound.readers other known isKnown).discarded sound.store
                isStored sound.answer isServed
      · cases made
  · cases made

theorem StreamSound.connect (sound : StreamSound before)
    (available : before.store.content ≠ none) :
    StreamSound { before with
      readers := before.readers ++ [Reader.connected] } := by
  refine ⟨sound.store, sound.answer, ?_⟩
  intro other reader found
  rw [List.getElem?_append] at found
  split at found
  · exact sound.readers other reader found
  rw [List.getElem?_singleton] at found
  split at found
  · cases found
    rcases sound.store with ⟨content, epoch, _, isStore, _⟩ | ⟨gone, _⟩
    · exact .inl ⟨content, epoch, isStore, Nat.zero_le epoch, fun _ =>
        ⟨Nat.zero_le _, rfl⟩⟩
    · rw [gone] at available
      exact (available rfl).elim
  · cases found

/-- The readers keep the store, the answer and the readers together. -/
theorem StreamSound.poll {label : StreamLabel} (sound : StreamSound before)
    (undisturbed : Undisturbed before label)
    (made : before.poll label = some after) : StreamSound after := by
  cases label with
  | connect =>
      cases made
      exact sound.connect undisturbed
  | look index => exact sound.look made
  | deliver index => exact sound.deliver made
  | discard index =>
      obtain ⟨reporter, found, reported⟩ := discarding_reader made
      have got := sound.readers index reporter found
      rw [ReaderSound, reported] at got
      obtain ⟨answer, isSome, _⟩ := got
      refine sound.discard (by rw [isSome]; rfl) undisturbed
        (fun reader known isReported => ?_) made
      rw [ReaderSound, isReported] at known
      exact known
  | expire index =>
      refine sound.discard (Option.isSome_iff_ne_none.mpr undisturbed.1)
        undisturbed.2 (fun reader _ _ => ?_) made
      trivial
  | _ => cases made

end Readers

/-! ## Every undisturbed run -/

theorem StreamSound.step {before after : StreamState} {label : StreamLabel}
    {answer : Unit} (sound : StreamSound before)
    (undisturbed : Undisturbed before label)
    (made : streamMachine.step before label = some (answer, after)) :
    StreamSound after := by
  obtain ⟨reached, moved, same⟩ := Option.map_eq_some_iff.mp made
  cases same
  rcases Option.or_eq_some_iff.mp moved with byTask | ⟨_, byReader⟩
  · split at byTask
    · next unanswered => exact sound.task undisturbed unanswered byTask
    · cases byTask
  · exact sound.poll undisturbed byReader

theorem StreamSound.started : StreamSound StreamState.started where
  store := .inl ⟨[], 0, [], rfl, rfl, nofun, .inl rfl⟩
  answer := nofun
  readers := by
    intro index reader found
    cases found

/-- In every undisturbed run, a reader that has reported the completion has
delivered the stored answer since its last reset, up to the blanks around
it. -/
theorem delivered_text_is_the_answer {final : StreamState}
    {trace : List (Moment StreamState StreamLabel Unit)}
    (run : streamMachine.Run Undisturbed StreamState.started trace final) :
    ∀ reader ∈ final.readers,
      reader.phase = .reported ∨ reader.phase = .ended →
      ∃ answer, final.stored = some answer ∧
        strip reader.delivered = strip answer := by
  have sound : StreamSound final :=
    run.invariant StreamSound StreamSound.started
      fun _ _ _ _ sound undisturbed made => sound.step undisturbed made
  intro reader member reported
  obtain ⟨index, found⟩ := List.getElem?_of_mem member
  have got : Finished final.stored reader := by
    have known := sound.readers index reader found
    rw [ReaderSound] at known
    rcases reported with isReported | isEnded
    · rw [isReported] at known
      exact known
    · rw [isEnded] at known
      exact known
  obtain ⟨answer, isSome, rfl⟩ := got
  exact ⟨_, isSome, (SecAI.Text.strip_strip _).symm⟩

/-- Two readers of an answer of which the first token was reset; the second
reader polls once more behind the end of the first. -/
theorem two_readers_get_the_answer :
    ∃ trace final, streamMachine.Run Undisturbed StreamState.started trace
        final ∧
      final.readers.map (fun reader => (reader.phase, reader.delivered)) =
        [(.ended, "answer ".toList), (.ended, "answer ".toList)] ∧
      ∀ reader ∈ final.readers,
        reader.phase = .reported ∨ reader.phase = .ended →
        ∃ answer, final.stored = some answer ∧
          strip reader.delivered = strip answer := by
  have carried : (streamMachine.replay Undisturbed StreamState.started
      [.append "ans".toList, .connect, .look 0, .deliver 0,
        .append "wer ".toList, .connect, .look 1, .deliver 1, .look 0,
        .deliver 0, .complete, .look 0, .deliver 0, .discard 0, .look 1,
        .deliver 1, .discard 1]).map (fun (_, final) =>
          final.readers.map fun reader => (reader.phase, reader.delivered)) =
      some [(.ended, "answer ".toList), (.ended, "answer ".toList)] := by
    decide
  obtain ⟨trace, final, run, seen⟩ := Machine.exists_run_of_replay carried
  exact ⟨trace, final, run, seen, delivered_text_is_the_answer run⟩

/-- Two readers have got the first token; the one that sees the completion
first discards the stream, and the other one reports the completion without the
second token. -/
theorem discarded_stream_is_cut_short :
    ∃ trace final, streamMachine.Run Machine.unguarded StreamState.started
        trace final ∧
      final.stored = some "answer".toList ∧
      final.readers.map (fun reader => (reader.phase, reader.delivered)) =
        [(.ended, "answer".toList), (.ended, "ans".toList)] := by
  have carried : (streamMachine.replay Machine.unguarded StreamState.started
      [.append "ans".toList, .connect, .connect, .look 0, .deliver 0, .look 1,
        .deliver 1, .append "wer".toList, .complete, .look 0, .deliver 0,
        .discard 0, .look 1, .deliver 1, .discard 1]).map (fun (_, final) =>
          (final.stored, final.readers.map fun reader =>
            (reader.phase, reader.delivered))) =
      some (some "answer".toList,
        [(.ended, "answer".toList), (.ended, "ans".toList)]) := by
    decide
  obtain ⟨trace, final, run, seen⟩ := Machine.exists_run_of_replay carried
  obtain ⟨stored, readers⟩ := Prod.mk.inj seen
  exact ⟨trace, final, run, stored, readers⟩

end SecAI.Chat
