/-
Module: SecAI.Interleaving.Machine
Purpose: State machines that answer labelled requests, the guarded runs they
  make, and the rules for what a run establishes and what it keeps.
Trusted boundary: none
Main exports:
  Machine, Moment, Machine.Run, Machine.Run.invariant
-/
import Mathlib.Data.List.Basic

namespace Interleaving

variable {σ α ω : Type}

/-- A machine that moves by labelled steps.  A step answers its label; a label
that has no step in a state cannot happen there. -/
structure Machine (σ α ω : Type) where
  step : σ → α → Option (ω × σ)

/-- One step that a run made: the states around it, its label and its
answer. -/
structure Moment (σ α ω : Type) where
  before : σ
  label : α
  answer : ω
  after : σ

namespace Machine

variable (machine : Machine σ α ω)

/-- The step of a moment is one the machine makes. -/
def Makes (moment : Moment σ α ω) : Prop :=
  machine.step moment.before moment.label =
    some (moment.answer, moment.after)

/-- The runs of the machine whose steps all meet `guard`, with the steps they
made in their order. -/
inductive Run (guard : σ → α → Prop) (start : σ) :
    List (Moment σ α ω) → σ → Prop where
  | refl : Run guard start [] start
  | step {trace : List (Moment σ α ω)} {before after : σ} {label : α}
      {answer : ω} (earlier : Run guard start trace before)
      (met : guard before label)
      (made : machine.step before label = some (answer, after)) :
      Run guard start (trace ++ [⟨before, label, answer, after⟩]) after

/-- The guard that every step meets. -/
def unguarded : σ → α → Prop := fun _ _ => True

namespace Run

variable {machine : Machine σ α ω} {guard : σ → α → Prop}
variable {start middle final : σ} {trace later : List (Moment σ α ω)}

theorem invariant (holds : σ → Prop) (run : machine.Run guard start trace final)
    (initially : holds start)
    (kept : ∀ before label answer after, holds before → guard before label →
      machine.step before label = some (answer, after) → holds after) :
    holds final := by
  induction run with
  | refl => exact initially
  | step _ met made ih =>
      exact kept _ _ _ _ ih met made

/-- The rule for a property of the steps made so far and the state they lead
to. -/
theorem traced (holds : List (Moment σ α ω) → σ → Prop)
    (run : machine.Run guard start trace final)
    (initially : holds [] start)
    (kept : ∀ earlier before label answer after, holds earlier before →
      guard before label →
      machine.step before label = some (answer, after) →
      holds (earlier ++ [⟨before, label, answer, after⟩]) after) :
    holds trace final := by
  induction run with
  | refl => exact initially
  | step _ met made ih =>
      exact kept _ _ _ _ _ ih met made

theorem append (earlier : machine.Run guard start trace middle)
    (rest : machine.Run guard middle later final) :
    machine.Run guard start (trace ++ later) final := by
  induction rest with
  | refl => simpa using earlier
  | step _ met made ih =>
      rw [← List.append_assoc]
      exact ih.step met made

theorem single {label : α} {answer : ω} (met : guard start label)
    (made : machine.step start label = some (answer, final)) :
    machine.Run guard start [⟨start, label, answer, final⟩] final :=
  .step .refl met made

theorem weaken {weaker : σ → α → Prop}
    (run : machine.Run guard start trace final)
    (implies : ∀ state label, guard state label → weaker state label) :
    machine.Run weaker start trace final := by
  induction run with
  | refl => exact .refl
  | step _ met made ih =>
      exact ih.step (implies _ _ met) made

theorem around {earlier : List (Moment σ α ω)} {moment : Moment σ α ω}
    (run : machine.Run guard start (earlier ++ moment :: later) final) :
    machine.Run guard start earlier moment.before ∧
      guard moment.before moment.label ∧ machine.Makes moment ∧
      machine.Run guard moment.after later final := by
  generalize same : earlier ++ moment :: later = trace at run
  induction run generalizing later with
  | refl => simp at same
  | @step walked _ _ label answer reached met made ih =>
      rcases List.eq_nil_or_concat later with rfl | ⟨front, last, rfl⟩
      · obtain ⟨rfl, equal⟩ := List.append_inj' same rfl
        cases equal
        exact ⟨reached, met, made, .refl⟩
      · rw [List.concat_eq_append, ← List.cons_append,
          ← List.append_assoc] at same
        obtain ⟨rfl, equal⟩ := List.append_inj' same rfl
        cases equal
        obtain ⟨first, allowed, makes, rest⟩ := ih rfl
        rw [List.concat_eq_append]
        exact ⟨first, allowed, makes, rest.step met made⟩

/-- What holds initially and is kept by every step holds before every step a
run made. -/
theorem before_moment (holds : σ → Prop)
    (run : machine.Run guard start trace final) (initially : holds start)
    (kept : ∀ before label answer after, holds before → guard before label →
      machine.step before label = some (answer, after) → holds after)
    {moment : Moment σ α ω} (member : moment ∈ trace) :
    holds moment.before ∧ guard moment.before moment.label ∧
      machine.Makes moment := by
  obtain ⟨earlier, later, rfl⟩ := List.append_of_mem member
  obtain ⟨reached, allowed, makes, _⟩ := run.around
  exact ⟨reached.invariant holds initially kept, allowed, makes⟩

theorem after_moment (holds : σ → Prop)
    (run : machine.Run guard start trace final) (initially : holds start)
    (kept : ∀ before label answer after, holds before → guard before label →
      machine.step before label = some (answer, after) → holds after)
    {moment : Moment σ α ω} (member : moment ∈ trace) :
    holds moment.after := by
  obtain ⟨before, met, made⟩ :=
    run.before_moment holds initially kept member
  exact kept _ _ _ _ before met made

theorem strengthen {stronger : σ → α → Prop}
    (run : machine.Run guard start trace final)
    (each : ∀ moment ∈ trace, stronger moment.before moment.label) :
    machine.Run stronger start trace final := by
  induction run with
  | refl => exact .refl
  | step _ met made ih =>
      refine .step (ih fun moment member =>
        each moment (List.mem_append_left _ member)) ?_ made
      exact each _ (List.mem_append_right _ (List.mem_singleton.mpr rfl))

theorem final_mem (run : machine.Run guard start trace final) :
    final = start ∨ ∃ moment ∈ trace, moment.after = final := by
  cases run with
  | refl => exact .inl rfl
  | step earlier met made =>
      exact .inr ⟨_, List.mem_append_right _ (List.mem_singleton.mpr rfl), rfl⟩

end Run

section Replay

variable (guard : σ → α → Prop) [∀ state label, Decidable (guard state label)]

/-- Carry out the labels one after the other, as far as the guard allows. -/
def replay (start : σ) : List α → Option (List (Moment σ α ω) × σ)
  | [] => some ([], start)
  | label :: labels =>
      if guard start label then
        match machine.step start label with
        | none => none
        | some (answer, after) =>
            (replay after labels).map fun (trace, final) =>
              (⟨start, label, answer, after⟩ :: trace, final)
      else none

variable {machine guard}

/-- What can be carried out is a run. -/
theorem run_of_replay {labels : List α} :
    ∀ {start final : σ} {trace : List (Moment σ α ω)},
      machine.replay guard start labels = some (trace, final) →
      machine.Run guard start trace final := by
  induction labels with
  | nil =>
      intro start final trace carried
      cases carried
      exact .refl
  | cons label labels ih =>
      intro start final trace carried
      simp only [replay] at carried
      split at carried
      · next met =>
          split at carried
          · cases carried
          rename_i answer after made
          obtain ⟨⟨rest, last⟩, continued, same⟩ :=
            Option.map_eq_some_iff.mp carried
          cases same
          exact (Run.single met made).append
            (ih continued)
      · cases carried

/-- What the replay of some labels is seen to leave behind, a run leaves
behind. -/
theorem exists_run_of_replay {β : Type}
    {observe : List (Moment σ α ω) × σ → β} {seen : β} {start : σ}
    {labels : List α}
    (carried : (machine.replay guard start labels).map observe = some seen) :
    ∃ trace final, machine.Run guard start trace final ∧
      observe (trace, final) = seen := by
  obtain ⟨⟨trace, final⟩, replayed, same⟩ := Option.map_eq_some_iff.mp carried
  exact ⟨trace, final, run_of_replay replayed, same⟩

end Replay

instance (state : σ) (label : α) : Decidable (unguarded state label) :=
  .isTrue trivial

end Machine

end Interleaving
