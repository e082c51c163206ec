/-
Module: SecAI.Interleaving.System
Purpose: Any number of programs over one store, interleaved at their atomic
  operations, with the invariant rules for all runs and for guarded runs.
Trusted boundary: none
Main exports:
  System, Config, Step, Run
-/
import Mathlib.Data.List.Basic
import Mathlib.Algebra.Order.BigOperators.Group.List
import Mathlib.Algebra.Order.Group.Nat
import Mathlib.Algebra.Order.Ring.Nat
import SecAI.Interleaving.Program

namespace Interleaving

variable {σ ρ Op : Type} {Resp : Op → Type} {ε α : Type}

/-- A shared store with atomic operations and the programs that requests run
on it.  `admits` says when a request may be started at all. -/
structure System (σ ρ Op : Type) (Resp : Op → Type) (ε α : Type) where
  execute : σ → (op : Op) → Resp op × σ
  body : ρ → Program Op Resp ε α
  admits : σ → ρ → Bool

/-- One started request: what it was, what it did so far, what is left. -/
structure Thread (ρ Op : Type) (Resp : Op → Type) (ε α : Type) where
  request : ρ
  history : List (Event Op Resp)
  rest : Program Op Resp ε α

/-- The store and every request started so far, oldest first.  A crashed
request is one that is never scheduled again. -/
structure Config (σ ρ Op : Type) (Resp : Op → Type) (ε α : Type) where
  store : σ
  threads : List (Thread ρ Op Resp ε α)

namespace Config

def initial (store : σ) : Config σ ρ Op Resp ε α := ⟨store, []⟩

/-- How many operations a thread has executed so far. -/
def executed (config : Config σ ρ Op Resp ε α) (index : Nat) : Nat :=
  ((config.threads[index]?).map fun thread => thread.history.length).getD 0

end Config

namespace System

variable (system : System σ ρ Op Resp ε α)

/-- The thread that has just been started. -/
def fresh (request : ρ) : Thread ρ Op Resp ε α :=
  { request := request, history := [], rest := system.body request }

/-- The thread after its next operation was answered. -/
def answered (thread : Thread ρ Op Resp ε α) (op : Op)
    (resume : Resp op → Program Op Resp ε α) (answer : Resp op) :
    Thread ρ Op Resp ε α :=
  { thread with
    history := thread.history ++ [⟨op, answer⟩]
    rest := resume answer }

/-- One scheduling step.  `guard` restricts which operations may be executed
in which stores; unguarded runs use `fun _ _ _ => True`. -/
inductive Step (guard : σ → Thread ρ Op Resp ε α → Op → Prop) :
    Config σ ρ Op Resp ε α → Config σ ρ Op Resp ε α → Prop where
  | start {before : Config σ ρ Op Resp ε α} (request : ρ)
      (admitted : system.admits before.store request = true) :
      Step guard before
        { before with threads := before.threads ++ [system.fresh request] }
  | execute {before : Config σ ρ Op Resp ε α} (index : Nat)
      (thread : Thread ρ Op Resp ε α) (op : Op)
      (resume : Resp op → Program Op Resp ε α)
      (scheduled : before.threads[index]? = some thread)
      (pending : thread.rest = .call op resume)
      (guarded : guard before.store thread op) :
      Step guard before
        { store := (system.execute before.store op).2
          threads := before.threads.set index
            (answered thread op resume (system.execute before.store op).1) }

/-- Any number of steps. -/
inductive Run (guard : σ → Thread ρ Op Resp ε α → Op → Prop) :
    Config σ ρ Op Resp ε α → Config σ ρ Op Resp ε α → Prop where
  | refl (config : Config σ ρ Op Resp ε α) : Run guard config config
  | step {before middle after : Config σ ρ Op Resp ε α}
      (head : Run guard before middle)
      (last : system.Step guard middle after) : Run guard before after

/-- No restriction on the schedule. -/
def unguarded : σ → Thread ρ Op Resp ε α → Op → Prop := fun _ _ _ => True

variable {system}
variable {guard : σ → Thread ρ Op Resp ε α → Op → Prop}

variable {before after : Config σ ρ Op Resp ε α}

variable {weaker : σ → Thread ρ Op Resp ε α → Op → Prop}

theorem Step.mono (step : system.Step guard before after)
    (implies : ∀ store thread op, guard store thread op →
      weaker store thread op) : system.Step weaker before after := by
  cases step with
  | start request admitted => exact .start request admitted
  | execute index thread op resume scheduled pending guarded =>
      exact .execute index thread op resume scheduled pending
        (implies _ _ _ guarded)

namespace Run

theorem mono (run : system.Run guard before after)
    (implies : ∀ store thread op, guard store thread op →
      weaker store thread op) : system.Run weaker before after := by
  induction run with
  | refl => exact .refl _
  | step _ last ih =>
      exact .step ih (last.mono implies)

theorem trans {first middle last : Config σ ρ Op Resp ε α}
    (one : system.Run guard first middle)
    (two : system.Run guard middle last) : system.Run guard first last := by
  induction two with
  | refl => exact one
  | step _ last ih => exact .step ih last

theorem invariant (holds : Config σ ρ Op Resp ε α → Prop)
    (run : system.Run guard before after) (initially : holds before)
    (preserved : ∀ middle next, holds middle →
      system.Step guard middle next → holds next) : holds after := by
  induction run with
  | refl => exact initially
  | step _ last ih =>
      exact preserved _ _ ih last

/-- An invariant of the store alone needs to be checked for each operation
that is executed. -/
theorem store_invariant (holds : σ → Prop)
    (run : system.Run guard before after) (initially : holds before.store)
    (preserved : ∀ store thread op, holds store → guard store thread op →
      holds (system.execute store op).2) : holds after.store := by
  induction run with
  | refl => exact initially
  | step _ last ih =>
      cases last with
      | start => exact ih
      | execute index thread op resume scheduled pending guarded =>
          exact preserved _ _ _ ih guarded

end Run

/-- Every thread is on a path of the program its request runs. -/
def Walked (system : System σ ρ Op Resp ε α)
    (config : Config σ ρ Op Resp ε α) : Prop :=
  ∀ thread ∈ config.threads,
    (system.body thread.request).Path thread.history thread.rest

theorem Walked.initial (store : σ) :
    system.Walked (Config.initial store) := by
  intro thread member
  cases member

theorem Walked.step (walked : system.Walked before)
    (step : system.Step guard before after) : system.Walked after := by
  cases step with
  | start request =>
      intro thread member
      rcases List.mem_append.mp member with earlier | last
      · exact walked thread earlier
      · rw [List.mem_singleton.mp last]
        exact .start
  | execute index thread op resume scheduled pending =>
      intro other member
      rcases List.mem_or_eq_of_mem_set member with earlier | rfl
      · exact walked other earlier
      · have path := walked thread (List.mem_of_getElem? scheduled)
        rw [pending] at path
        exact path.extend _

theorem Run.walked (run : system.Run guard before after)
    (walked : system.Walked before) : system.Walked after :=
  run.invariant _ walked fun _ _ earlier step => earlier.step step

theorem Walked.issues {config : Config σ ρ Op Resp ε α}
    (walked : system.Walked config) {index : Nat}
    {thread : Thread ρ Op Resp ε α} {op : Op}
    {resume : Resp op → Program Op Resp ε α}
    (scheduled : config.threads[index]? = some thread)
    (pending : thread.rest = .call op resume) {allowed : Op → Prop}
    (issues : (system.body thread.request).Issues allowed) : allowed op := by
  have path := walked thread (List.mem_of_getElem? scheduled)
  rw [pending] at path
  exact (path.issues issues).1

/-- A run never drops a thread and never changes what it was started for. -/
theorem Run.threads_persist (run : system.Run guard before after) :
    before.threads.length ≤ after.threads.length ∧
      ∀ (index : Nat) (thread : Thread ρ Op Resp ε α),
        before.threads[index]? = some thread →
        ∃ later, after.threads[index]? = some later ∧
          later.request = thread.request ∧
          thread.history <+: later.history := by
  induction run with
  | refl => exact ⟨Nat.le_refl _, fun _ thread found =>
      ⟨thread, found, rfl, List.prefix_refl _⟩⟩
  | step _ last ih =>
      obtain ⟨longer, persists⟩ := ih
      cases last with
      | start request =>
          refine ⟨by simp only [List.length_append]; omega, ?_⟩
          intro index thread found
          obtain ⟨later, foundLater, same⟩ := persists index thread found
          have inside := (List.getElem?_eq_some_iff.mp foundLater).1
          exact ⟨later, by rw [List.getElem?_append_left inside]; exact foundLater,
            same⟩
      | execute moved mover op resume scheduled =>
          refine ⟨by simpa using longer, ?_⟩
          intro index thread found
          obtain ⟨later, foundLater, sameRequest, grown⟩ :=
            persists index thread found
          by_cases same : moved = index
          · subst same
            have inside := (List.getElem?_eq_some_iff.mp scheduled).1
            rw [scheduled] at foundLater
            cases foundLater
            exact ⟨_, List.getElem?_set_self inside, sameRequest,
              grown.trans (List.prefix_append _ _)⟩
          · exact ⟨later, by rw [List.getElem?_set_ne same]; exact foundLater,
              sameRequest, grown⟩

/-- The rule for what is known of the operations that a run executes: it holds
when an operation is answered, and no later operation ends it.  `invariant` is
what the store satisfies meanwhile. -/
theorem Run.since (invariant : σ → Prop) (known : σ → Event Op Resp → Prop)
    (run : system.Run guard before after) (walked : system.Walked before)
    (initially : invariant before.store)
    (kept : ∀ store thread op, invariant store → guard store thread op →
      (∀ allowed, (system.body thread.request).Issues allowed → allowed op) →
      invariant (system.execute store op).2 ∧
        known (system.execute store op).2
          ⟨op, (system.execute store op).1⟩ ∧
        ∀ event, known store event →
          known (system.execute store op).2 event) :
    invariant after.store ∧
      ∀ (index : Nat) (thread : Thread ρ Op Resp ε α),
        after.threads[index]? = some thread →
        ∀ event ∈ thread.history.drop (before.executed index),
          known after.store event := by
  have every : system.Walked after ∧ invariant after.store ∧
      ∀ (index : Nat) (thread : Thread ρ Op Resp ε α),
        after.threads[index]? = some thread →
        ∀ event ∈ thread.history.drop (before.executed index),
          known after.store event := by
    induction run with
    | refl =>
        refine ⟨walked, initially, ?_⟩
        intro index thread found event member
        have all : before.executed index = thread.history.length := by
          rw [Config.executed, found]
          rfl
        rw [all, List.drop_length] at member
        cases member
    | step _ last ih =>
        obtain ⟨walks, holds, answered⟩ := ih
        refine ⟨walks.step last, ?_⟩
        cases last with
        | start request =>
            refine ⟨holds, fun index thread found event member => ?_⟩
            rcases Nat.lt_or_ge index _ with inside | outside
            · rw [List.getElem?_append_left inside] at found
              exact answered index thread found event member
            · rw [List.getElem?_append_right outside] at found
              have new := List.mem_singleton.mp (List.mem_of_getElem? found)
              rw [new, fresh, List.drop_nil] at member
              cases member
        | execute moved mover op resume scheduled pending guarded =>
            have issued : ∀ allowed,
                (system.body mover.request).Issues allowed → allowed op :=
              fun _ issues => walks.issues scheduled pending issues
            obtain ⟨next, learnt, stable⟩ := kept _ _ _ holds guarded issued
            refine ⟨next, fun index thread found event member => ?_⟩
            by_cases same : moved = index
            · subst same
              have inside := (List.getElem?_eq_some_iff.mp scheduled).1
              rw [List.getElem?_set_self inside] at found
              cases found
              rcases List.mem_append.mp (List.drop_append ▸ member) with
                earlier | now
              · exact stable event (answered moved mover scheduled event
                  earlier)
              · cases List.mem_singleton.mp (List.mem_of_mem_drop now)
                exact learnt
            · rw [List.getElem?_set_ne same] at found
              exact stable event (answered index thread found event member)
  exact every.2

end System

/-- The weight of one thread's executed operations, which may depend on what
it was started for. -/
def Thread.tally (weight : ρ → Event Op Resp → Nat)
    (thread : Thread ρ Op Resp ε α) : Nat :=
  (thread.history.map (weight thread.request)).sum

/-- The weight of all executed operations. -/
def Config.tally (weight : ρ → Event Op Resp → Nat)
    (config : Config σ ρ Op Resp ε α) : Nat :=
  (config.threads.map (Thread.tally weight)).sum

theorem Thread.weight_le_tally (weight : ρ → Event Op Resp → Nat)
    {thread : Thread ρ Op Resp ε α} {event : Event Op Resp}
    (member : event ∈ thread.history) :
    weight thread.request event ≤ thread.tally weight :=
  List.le_sum_of_mem (List.mem_map_of_mem member)

theorem Config.countP_le_tally (weight : ρ → Event Op Resp → Nat)
    (config : Config σ ρ Op Resp ε α) (test : Thread ρ Op Resp ε α → Bool)
    (covered : ∀ thread ∈ config.threads, test thread = true →
      1 ≤ thread.tally weight) :
    config.threads.countP test ≤ config.tally weight := by
  unfold Config.tally
  revert covered
  induction config.threads with
  | nil => exact fun _ => Nat.le_refl 0
  | cons head tail ih =>
      intro covered
      have later := ih fun thread member =>
        covered thread (List.mem_cons_of_mem _ member)
      rw [List.countP_cons, List.map_cons, List.sum_cons]
      by_cases tested : test head = true
      · have first := covered head List.mem_cons_self tested
        rw [if_pos tested]
        omega
      · rw [if_neg tested]
        omega

theorem List.sum_map_set {β : Type} (weight : β → Nat) :
    ∀ (items : List β) (index : Nat) (item old : β),
      items[index]? = some old →
      ((items.set index item).map weight).sum + weight old =
        (items.map weight).sum + weight item
  | [], _, _, _, found => by simp at found
  | head :: tail, 0, item, old, found => by
      simp only [List.getElem?_cons_zero, Option.some.injEq] at found
      subst found
      simp only [List.set_cons_zero, List.map_cons, List.sum_cons]
      omega
  | head :: tail, index + 1, item, old, found => by
      have inner := List.sum_map_set weight tail index item old
        (by simpa using found)
      simp only [List.set_cons_succ, List.map_cons, List.sum_cons]
      omega

namespace System

variable {system : System σ ρ Op Resp ε α}
variable {guard : σ → Thread ρ Op Resp ε α → Op → Prop}

theorem tally_start (system : System σ ρ Op Resp ε α)
    (weight : ρ → Event Op Resp → Nat) (config : Config σ ρ Op Resp ε α)
    (request : ρ) :
    ({ config with threads := config.threads ++ [system.fresh request] } :
      Config σ ρ Op Resp ε α).tally weight = config.tally weight := by
  simp [Config.tally, Thread.tally, fresh]

theorem tally_execute (weight : ρ → Event Op Resp → Nat)
    (config : Config σ ρ Op Resp ε α) (store : σ) {index : Nat}
    {thread : Thread ρ Op Resp ε α}
    (scheduled : config.threads[index]? = some thread) (op : Op)
    (resume : Resp op → Program Op Resp ε α) (answer : Resp op) :
    ({ store := store
       threads := config.threads.set index
         (answered thread op resume answer) } :
      Config σ ρ Op Resp ε α).tally weight =
      config.tally weight + weight thread.request ⟨op, answer⟩ := by
  have replaced := List.sum_map_set (Thread.tally weight) config.threads index
    (answered thread op resume answer) thread scheduled
  have grown : Thread.tally weight (answered thread op resume answer) =
      Thread.tally weight thread + weight thread.request ⟨op, answer⟩ := by
    simp [Thread.tally, answered]
  simp only [Config.tally]
  omega

end System

/-- A scheduler decision: start a request, or let one thread go on. -/
inductive Action (ρ : Type) where
  | start (request : ρ)
  | step (index : Nat)

namespace System

variable (system : System σ ρ Op Resp ε α)
variable (guard : σ → Thread ρ Op Resp ε α → Op → Prop)
variable [∀ store thread op, Decidable (guard store thread op)]

/-- Carry out one scheduler decision, if the guard allows it. -/
def performAction (config : Config σ ρ Op Resp ε α) :
    Action ρ → Option (Config σ ρ Op Resp ε α)
  | .start request =>
      if system.admits config.store request then
        some { config with threads := config.threads ++ [system.fresh request] }
      else none
  | .step index =>
      match config.threads[index]? with
      | none => none
      | some thread =>
          match thread.rest with
          | .call op resume =>
              if guard config.store thread op then
                some
                  { store := (system.execute config.store op).2
                    threads := config.threads.set index
                      (answered thread op resume
                        (system.execute config.store op).1) }
              else none
          | _ => none

/-- Carry out a list of scheduler decisions. -/
def schedule (config : Config σ ρ Op Resp ε α) :
    List (Action ρ) → Option (Config σ ρ Op Resp ε α)
  | [] => some config
  | action :: actions =>
      match system.performAction guard config action with
      | none => none
      | some next => schedule next actions

variable {system guard}

theorem step_of_performAction {before after : Config σ ρ Op Resp ε α}
    {action : Action ρ}
    (performed : system.performAction guard before action = some after) :
    system.Step guard before after := by
  cases action with
  | start request =>
      simp only [performAction, Option.ite_none_right_eq_some,
        Option.some.injEq] at performed
      obtain ⟨admitted, rfl⟩ := performed
      exact .start request admitted
  | step index =>
      simp only [performAction] at performed
      split at performed
      · cases performed
      rename_i thread scheduled
      split at performed
      · next op resume pending =>
          simp only [Option.ite_none_right_eq_some,
            Option.some.injEq] at performed
          obtain ⟨guarded, rfl⟩ := performed
          exact .execute index thread op resume scheduled pending guarded
      · cases performed

variable {actions : List (Action ρ)}

theorem run_of_schedule :
    ∀ {before after : Config σ ρ Op Resp ε α},
      system.schedule guard before actions = some after →
      system.Run guard before after := by
  induction actions with
  | nil =>
      intro before after scheduled
      cases scheduled
      exact .refl _
  | cons action actions ih =>
      intro before after scheduled
      simp only [schedule] at scheduled
      split at scheduled
      · cases scheduled
      rename_i middle performed
      have first : system.Run guard before middle :=
        .step (.refl _) (step_of_performAction performed)
      exact first.trans (ih scheduled)

theorem exists_run_of_schedule {β : Type}
    {observe : Config σ ρ Op Resp ε α → β} {seen : β}
    {before : Config σ ρ Op Resp ε α}
    (scheduled : (system.schedule guard before actions).map observe =
      some seen) :
    ∃ after, system.Run guard before after ∧ observe after = seen := by
  obtain ⟨after, carried, same⟩ := Option.map_eq_some_iff.mp scheduled
  exact ⟨after, run_of_schedule carried, same⟩

instance (store : σ) (thread : Thread ρ Op Resp ε α) (op : Op) :
    Decidable (unguarded store thread op) :=
  .isTrue trivial

end System

end Interleaving
