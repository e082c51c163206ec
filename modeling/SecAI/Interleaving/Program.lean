/-
Module: SecAI.Interleaving.Program
Purpose: Sequential programs over atomic operations, the paths they take, the
  operations they can ever issue, and what depends on what they have read.
Trusted boundary: none
Main exports:
  Program, Program.perform, Program.Issues, Program.Respects, Program.remember
-/
import Mathlib.Data.List.Basic

namespace Interleaving

variable {Op : Type} {Resp : Op → Type} {ε α β : Type}

/-- A program that talks to its environment one atomic operation at a time.
Between two operations any other program may run; `raise` is an exception that
leaves the program. -/
inductive Program (Op : Type) (Resp : Op → Type) (ε α : Type) where
  | done (value : α)
  | raise (error : ε)
  | call (op : Op) (resume : Resp op → Program Op Resp ε α)

/-- One executed operation together with the answer it got. -/
structure Event (Op : Type) (Resp : Op → Type) where
  op : Op
  answer : Resp op

namespace Program

/-- Sequential composition; an exception skips the continuation. -/
def bind : Program Op Resp ε α → (α → Program Op Resp ε β) →
    Program Op Resp ε β
  | done value, next => next value
  | raise error, _ => raise error
  | call op resume, next => call op fun answer => (resume answer).bind next

instance : Monad (Program Op Resp ε) where
  pure := done
  bind := bind

/-- A single operation as a program. -/
def perform (op : Op) : Program Op Resp ε (Resp op) := call op done

/-- A check that the program makes on its own, without an operation. -/
def lift : Except ε α → Program Op Resp ε α
  | .ok value => done value
  | .error error => raise error

@[simp] theorem pure_eq_done (value : α) :
    (pure value : Program Op Resp ε α) = done value := rfl

@[simp] theorem done_bind (value : α) (next : α → Program Op Resp ε β) :
    (done value >>= next) = next value := rfl

@[simp] theorem raise_bind (error : ε) (next : α → Program Op Resp ε β) :
    ((raise error : Program Op Resp ε α) >>= next) = raise error := rfl

@[simp] theorem call_bind (op : Op) (resume : Resp op → Program Op Resp ε α)
    (next : α → Program Op Resp ε β) :
    (call op resume >>= next) =
      call op fun answer => resume answer >>= next := rfl

@[simp] theorem perform_bind (op : Op)
    (next : Resp op → Program Op Resp ε β) :
    ((perform op : Program Op Resp ε (Resp op)) >>= next) = call op next := rfl

@[simp] theorem lift_ok (value : α) :
    (lift (.ok value) : Program Op Resp ε α) = done value := rfl

@[simp] theorem lift_error (error : ε) :
    (lift (.error error) : Program Op Resp ε α) = raise error := rfl

/-- The program has returned or raised. -/
def Finished : Program Op Resp ε α → Prop
  | done _ | raise _ => True
  | call _ _ => False

/-- Every operation the program can ever issue, whatever the answers are,
satisfies `allowed`. -/
def Issues (allowed : Op → Prop) : Program Op Resp ε α → Prop
  | done _ | raise _ => True
  | call op resume => allowed op ∧ ∀ answer, (resume answer).Issues allowed

namespace Issues

variable {allowed : Op → Prop}

@[simp] theorem of_done (value : α) :
    (done value : Program Op Resp ε α).Issues allowed := trivial

@[simp] theorem of_raise (error : ε) :
    (raise error : Program Op Resp ε α).Issues allowed := trivial

@[simp] theorem call_iff (op : Op) (resume : Resp op → Program Op Resp ε α) :
    (call op resume).Issues allowed ↔
      allowed op ∧ ∀ answer, (resume answer).Issues allowed := Iff.rfl

@[simp] theorem of_lift (outcome : Except ε α) :
    (lift outcome : Program Op Resp ε α).Issues allowed := by
  cases outcome <;> trivial

variable {program : Program Op Resp ε α} {next : α → Program Op Resp ε β}

theorem bind (first : program.Issues allowed)
    (rest : ∀ value, (next value).Issues allowed) :
    (program >>= next).Issues allowed := by
  induction program with
  | done value => exact rest value
  | raise error => trivial
  | call op resume ih =>
      exact ⟨first.1, fun answer =>
        ih answer (first.2 answer)⟩

theorem perform {op : Op} {next : Resp op → Program Op Resp ε β}
    (first : allowed op) (rest : ∀ answer, (next answer).Issues allowed) :
    (Program.perform op >>= next).Issues allowed :=
  ⟨first, rest⟩

theorem lift {outcome : Except ε α}
    (rest : ∀ value, outcome = .ok value → (next value).Issues allowed) :
    (Program.lift outcome >>= next).Issues allowed := by
  cases outcome with
  | ok value => exact rest value rfl
  | error error => trivial

theorem mono {stronger : Op → Prop} (issues : program.Issues stronger)
    (implies : ∀ op, stronger op → allowed op) : program.Issues allowed := by
  induction program with
  | done value => trivial
  | raise error => trivial
  | call op resume ih =>
      exact ⟨implies op issues.1, fun answer =>
        ih answer (issues.2 answer)⟩

end Issues

/-- Every exception that can leave the program satisfies `allowed`. -/
def Raises (allowed : ε → Prop) : Program Op Resp ε α → Prop
  | done _ => True
  | raise error => allowed error
  | call _ resume => ∀ answer, (resume answer).Raises allowed

namespace Raises

variable {allowed : ε → Prop}

theorem perform {op : Op} {next : Resp op → Program Op Resp ε β}
    (rest : ∀ answer, (next answer).Raises allowed) :
    (Program.perform op >>= next).Raises allowed := rest

end Raises

/-- `Path program history rest`: answering the operations of `program` as
`history` says leaves `rest` to be run. -/
inductive Path (program : Program Op Resp ε α) :
    List (Event Op Resp) → Program Op Resp ε α → Prop where
  | start : Path program [] program
  | extend {history : List (Event Op Resp)} {op : Op}
      {resume : Resp op → Program Op Resp ε α}
      (walked : Path program history (call op resume)) (answer : Resp op) :
      Path program (history ++ [⟨op, answer⟩]) (resume answer)

namespace Path

variable {history : List (Event Op Resp)} {rest : Program Op Resp ε α}

theorem cons {op : Op} {resume : Resp op → Program Op Resp ε α}
    {answer : Resp op} (walked : Path (resume answer) history rest) :
    Path (call op resume) (⟨op, answer⟩ :: history) rest := by
  induction walked with
  | start => exact .extend .start answer
  | extend _ later ih =>
      exact .extend ih later

theorem of_done {value : α} (walked : Path (done value) history rest) :
    history = [] ∧ rest = done value := by
  induction walked with
  | start => exact ⟨rfl, rfl⟩
  | extend _ _ ih => cases ih.2

theorem of_raise {error : ε} (walked : Path (raise error) history rest) :
    history = [] ∧ rest = raise error := by
  induction walked with
  | start => exact ⟨rfl, rfl⟩
  | extend _ _ ih => cases ih.2

theorem of_call {op : Op} {resume : Resp op → Program Op Resp ε α}
    (walked : Path (call op resume) history rest) :
    (history = [] ∧ rest = call op resume) ∨
      ∃ answer later, history = ⟨op, answer⟩ :: later ∧
        Path (resume answer) later rest := by
  induction walked with
  | start => exact .inl ⟨rfl, rfl⟩
  | extend walked answer ih =>
      rcases ih with
        ⟨rfl, same⟩ | ⟨first, later, rfl, tail⟩
      · cases same
        exact .inr ⟨answer, [], rfl, .start⟩
      · exact .inr ⟨first, later ++ [_], rfl, .extend tail answer⟩

theorem of_call_finished {op : Op} {resume : Resp op → Program Op Resp ε α}
    (walked : Path (call op resume) history rest) (finished : rest.Finished) :
    ∃ answer later, history = ⟨op, answer⟩ :: later ∧
      Path (resume answer) later rest := by
  rcases walked.of_call with ⟨_, rfl⟩ | walked
  · cases finished
  · exact walked

/-- A path through a composition has either not left the first part, or has
walked all of it and goes on in the second. -/
theorem of_bind {program : Program Op Resp ε α}
    {next : α → Program Op Resp ε β} {rest : Program Op Resp ε β}
    (walked : Path (program >>= next) history rest) :
    (∃ left, Path program history left ∧ rest = left >>= next ∧
      ∀ value, left ≠ done value) ∨
    ∃ earlier later value, history = earlier ++ later ∧
      Path program earlier (done value) ∧ Path (next value) later rest := by
  induction program generalizing history with
  | done value => exact .inr ⟨[], history, value, rfl, .start, walked⟩
  | raise error =>
      obtain ⟨rfl, rfl⟩ := walked.of_raise
      exact .inl ⟨raise error, .start, rfl, nofun⟩
  | call op resume ih =>
      rcases walked.of_call with ⟨rfl, rfl⟩ | ⟨answer, later, rfl, tail⟩
      · exact .inl ⟨call op resume, .start, rfl, nofun⟩
      · rcases ih answer tail with
          ⟨left, first, same, unfinished⟩ |
            ⟨earlier, second, value, rfl, first, last⟩
        · exact .inl ⟨left, first.cons, same, unfinished⟩
        · exact .inr ⟨_ :: earlier, second, value, rfl, first.cons, last⟩

variable {wrap : α → β}

theorem of_map {program : Program Op Resp ε α} {rest : Program Op Resp ε β}
    (walked : Path (program >>= fun value => done (wrap value)) history rest) :
    ∃ left, Path program history left ∧
      rest = left >>= fun value => done (wrap value) := by
  rcases walked.of_bind with
    ⟨left, first, same, _⟩ | ⟨earlier, later, value, rfl, first, last⟩
  · exact ⟨left, first, same⟩
  · obtain ⟨rfl, rfl⟩ := last.of_done
    exact ⟨done value, by simpa using first, rfl⟩

theorem of_map_call {program : Program Op Resp ε α} {op : Op}
    {resume : Resp op → Program Op Resp ε β}
    (walked : Path (program >>= fun value => done (wrap value)) history
      (call op resume)) : ∃ inner, Path program history (call op inner) := by
  obtain ⟨left, path, same⟩ := walked.of_map
  cases left with
  | done value => cases same
  | raise error => cases same
  | call op inner =>
      cases same
      exact ⟨inner, path⟩

theorem of_map_done {program : Program Op Resp ε α} {result : β}
    (walked : Path (program >>= fun value => done (wrap value)) history
      (done result)) :
    ∃ value, result = wrap value ∧ Path program history (done value) := by
  obtain ⟨left, path, same⟩ := walked.of_map
  cases left with
  | done value =>
      cases same
      exact ⟨value, rfl, path⟩
  | raise error => cases same
  | call op inner => cases same

theorem of_map_finished {program : Program Op Resp ε α}
    {rest : Program Op Resp ε β}
    (walked : Path (program >>= fun value => done (wrap value)) history rest)
    (finished : rest.Finished) :
    ∃ left, Path program history left ∧ left.Finished := by
  obtain ⟨left, path, same⟩ := walked.of_map
  refine ⟨left, path, ?_⟩
  subst same
  cases left with
  | done value => trivial
  | raise error => trivial
  | call op inner => exact finished

theorem raises {allowed : ε → Prop} {program : Program Op Resp ε α}
    (walked : Path program history rest) (raises : program.Raises allowed) :
    rest.Raises allowed := by
  induction walked with
  | start => exact raises
  | extend _ answer ih => exact ih answer

theorem issues {allowed : Op → Prop} {program : Program Op Resp ε α}
    (walked : Path program history rest) (issues : program.Issues allowed) :
    rest.Issues allowed := by
  induction walked with
  | start => exact issues
  | extend _ answer ih => exact ih.2 answer

end Path

/-- Run the program with no other program in between. -/
def run {σ : Type} (execute : σ → (op : Op) → Resp op × σ) :
    Program Op Resp ε α → σ → Except ε α × σ
  | done value, store => (.ok value, store)
  | raise error, store => (.error error, store)
  | call op resume, store =>
      (resume (execute store op).1).run execute (execute store op).2

section Run

variable {σ : Type} (execute : σ → (op : Op) → Resp op × σ)

@[simp] theorem run_done (value : α) (store : σ) :
    (done value : Program Op Resp ε α).run execute store = (.ok value, store) :=
  rfl

@[simp] theorem run_raise (error : ε) (store : σ) :
    (raise error : Program Op Resp ε α).run execute store =
      (.error error, store) := rfl

@[simp] theorem run_call (op : Op) (resume : Resp op → Program Op Resp ε α)
    (store : σ) :
    (call op resume).run execute store =
      (resume (execute store op).1).run execute (execute store op).2 := rfl

theorem run_bind (program : Program Op Resp ε α)
    (next : α → Program Op Resp ε β) (store : σ) :
    (program >>= next).run execute store =
      match program.run execute store with
      | (.ok value, after) => (next value).run execute after
      | (.error error, after) => (.error error, after) := by
  induction program generalizing store with
  | done value => rfl
  | raise error => rfl
  | call op resume ih => exact ih _ _

theorem run_preserves {holds : σ → Prop} {allowed : Op → Prop}
    (preserved : ∀ store op, holds store → allowed op →
      holds (execute store op).2)
    {program : Program Op Resp ε α} (issues : program.Issues allowed)
    {store : σ} (initially : holds store) :
    holds (program.run execute store).2 := by
  induction program generalizing store with
  | done value => exact initially
  | raise error => exact initially
  | call op resume ih =>
      exact ih _ (issues.2 _)
        (preserved store op initially issues.1)

end Run

end Program

end Interleaving

namespace Interleaving

namespace Program

variable {Op Op' : Type} {Resp : Op → Type} {Resp' : Op' → Type}
  {ε ε' α β κ : Type}

/-- The program over other operations, answers and exceptions. -/
def translate (embed : Op → Op') (read : ∀ op, Resp' (embed op) → Resp op)
    (wrap : ε → ε') : Program Op Resp ε α → Program Op' Resp' ε' α
  | done value => done value
  | raise error => raise (wrap error)
  | call op resume => call (embed op) fun answer =>
      (resume (read op answer)).translate embed read wrap

/-- `program.Respects allowed learn ensures known`: with what it knows,
extended by what every answer teaches it, the program issues allowed
operations only, and what it returns fits what it knows then. -/
def Respects (allowed : κ → Op → Prop) (learn : κ → Event Op Resp → κ)
    (ensures : κ → α → Prop) (known : κ) : Program Op Resp ε α → Prop
  | done value => ensures known value
  | raise _ => True
  | call op resume =>
      allowed known op ∧
        ∀ answer, (resume answer).Respects allowed learn ensures
          (learn known ⟨op, answer⟩)

namespace Respects

variable {allowed : κ → Op → Prop} {learn : κ → Event Op Resp → κ}
  {known : κ}

variable {ensures : κ → β → Prop} {program : Program Op Resp ε α}

theorem bind {next : α → Program Op Resp ε β}
    (first : program.Respects allowed learn (fun known value =>
      (next value).Respects allowed learn ensures known) known) :
    (program >>= next).Respects allowed learn ensures known := by
  induction program generalizing known with
  | done value => exact first
  | raise error => trivial
  | call op resume ih =>
      exact ⟨first.1, fun answer =>
        ih answer (first.2 answer)⟩

theorem perform {op : Op} {next : Resp op → Program Op Resp ε β}
    (first : allowed known op)
    (rest : ∀ answer, (next answer).Respects allowed learn ensures
      (learn known ⟨op, answer⟩)) :
    (Program.perform op >>= next).Respects allowed learn ensures known :=
  ⟨first, rest⟩

theorem lift {outcome : Except ε α} {next : α → Program Op Resp ε β}
    (rest : ∀ value, outcome = .ok value →
      (next value).Respects allowed learn ensures known) :
    (Program.lift outcome >>= next).Respects allowed learn ensures
      known := by
  cases outcome with
  | ok value => exact rest value rfl
  | error error => trivial

theorem weaken {stronger ensures : κ → α → Prop}
    (respects : program.Respects allowed learn stronger known)
    (implies : ∀ known value, stronger known value → ensures known value) :
    program.Respects allowed learn ensures known := by
  induction program generalizing known with
  | done value => exact implies _ _ respects
  | raise error => trivial
  | call op resume ih =>
      exact ⟨respects.1, fun answer =>
        ih answer (respects.2 answer)⟩

theorem of_issues {always : Op → Prop} (issues : program.Issues always)
    (implies : ∀ known op, always op → allowed known op) (known : κ) :
    program.Respects allowed learn (fun _ _ => True) known := by
  induction program generalizing known with
  | done value => trivial
  | raise error => trivial
  | call op resume ih =>
      exact ⟨implies known op issues.1, fun answer =>
        ih answer (issues.2 answer) _⟩

theorem translate {allowed' : κ → Op' → Prop}
    {learn' : κ → Event Op' Resp' → κ} {ensures : κ → α → Prop}
    {embed : Op → Op'} {read : ∀ op, Resp' (embed op) → Resp op}
    {wrap : ε → ε'}
    (allows : ∀ known op, allowed known op → allowed' known (embed op))
    (learns : ∀ known op answer, learn' known ⟨embed op, answer⟩ =
      learn known ⟨op, read op answer⟩)
    (respects : program.Respects allowed learn ensures known) :
    (program.translate embed read wrap).Respects allowed' learn' ensures
      known := by
  induction program generalizing known with
  | done value => exact respects
  | raise error => trivial
  | call op resume ih =>
      refine ⟨allows known op respects.1, fun answer => ?_⟩
      rw [learns]
      exact ih _ (respects.2 _)

end Respects

theorem Path.respects {allowed : κ → Op → Prop}
    {learn : κ → Event Op Resp → κ} {ensures : κ → α → Prop} {known : κ}
    {program rest : Program Op Resp ε α} {history : List (Event Op Resp)}
    (walked : Path program history rest)
    (respects : program.Respects allowed learn ensures known) :
    rest.Respects allowed learn ensures (history.foldl learn known) := by
  induction walked with
  | start => exact respects
  | extend _ answer ih =>
      rw [List.foldl_append]
      exact ih.2 answer

theorem Path.respected {allowed : κ → Op → Prop}
    {learn : κ → Event Op Resp → κ} {ensures : κ → α → Prop} {known : κ}
    {program rest : Program Op Resp ε α} {history : List (Event Op Resp)}
    (walked : Path program history rest)
    (respects : program.Respects allowed learn ensures known) :
    ∀ event ∈ history, ∃ earlier, earlier ++ [event] <+: history ∧
      allowed (earlier.foldl learn known) event.op := by
  induction walked with
  | start => simp
  | extend walked answer ih =>
      intro event member
      rcases List.mem_append.mp member with before | last
      · obtain ⟨earlier, inside, permitted⟩ :=
          ih event before
        exact ⟨earlier, inside.trans (List.prefix_append _ _), permitted⟩
      · cases List.mem_singleton.mp last
        exact ⟨_, List.prefix_rfl, (walked.respects respects).1⟩

/-- Knowledge that remembers every answer. -/
def remember (known : List (Event Op Resp)) (event : Event Op Resp) :
    List (Event Op Resp) :=
  known ++ [event]

theorem foldl_recall (known history : List (Event Op Resp)) :
    history.foldl remember known = known ++ history := by
  induction history generalizing known with
  | nil => simp
  | cons event history ih =>
      rw [List.foldl_cons, ih, remember, List.append_assoc]
      rfl

end Program

end Interleaving
