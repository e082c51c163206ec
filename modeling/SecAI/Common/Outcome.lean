/-
Module: SecAI.Common.Outcome
Purpose: What a sequence of checks that may raise has established once it
  succeeds, when nothing but allowed exceptions leaves it, and when two of
  them return the same and raise errors of one kind.
Trusted boundary: none
Main exports:
  Outcome.bind_eq_ok, Outcome.Confined, Outcome.ReachedIn, Outcome.Alike
-/
import Mathlib.Data.List.Forall2

namespace Outcome

variable {ε α β : Type}

variable {first : Except ε α} {next : α → Except ε β}

theorem bind_eq_ok {result : β} :
    (first >>= next) = .ok result ↔
      ∃ value, first = .ok value ∧ next value = .ok result := by
  cases first with
  | ok value =>
      constructor
      · intro done
        exact ⟨value, rfl, done⟩
      · rintro ⟨other, same, done⟩
        cases same
        exact done
  | error error =>
      constructor
      · intro done
        cases done
      · rintro ⟨other, same, _⟩
        cases same

theorem ok_bind (value : α) (next : α → Except ε β) :
    (Except.ok value >>= next) = next value := rfl

variable {outcome : Except ε α}

theorem eq_ok_of_isOk (returns : outcome.isOk = true) :
    ∃ value, outcome = .ok value := by
  cases outcome with
  | ok value => exact ⟨value, rfl⟩
  | error error => cases returns

/-- An outcome that is an exception. -/
def Refused (outcome : Except ε α) : Prop := ∀ value, outcome ≠ .ok value

theorem Refused.error (error : ε) : Refused (.error error : Except ε α) :=
  nofun

theorem refused_or {condition : Prop} [Decidable condition]
    {refusal rest : Except ε α} {result : α} (refused : Refused refusal)
    (done : (if condition then refusal else rest) = .ok result) :
    ¬condition ∧ rest = .ok result := by
  split at done
  · exact (refused result done).elim
  · next passed => exact ⟨passed, done⟩

theorem bind_raises {error : ε} (raised : (first >>= next) = .error error) :
    first = .error error ∨
      ∃ value, first = .ok value ∧ next value = .error error := by
  cases first with
  | ok value => exact .inr ⟨value, rfl, raised⟩
  | error other =>
      cases raised
      exact .inl rfl

theorem raised_or {condition : Prop} [Decidable condition]
    {refusal rest : Except ε α} {error : ε} (other : refusal ≠ .error error)
    (raised : (if condition then refusal else rest) = .error error) :
    ¬condition ∧ rest = .error error := by
  split at raised
  · exact (other raised).elim
  · next passed => exact ⟨passed, raised⟩

theorem forM_eq_ok {check : α → Except ε Unit} :
    ∀ {items : List α}, items.forM check = .ok () →
      ∀ item ∈ items, check item = .ok ()
  | [], _, _, member => absurd member List.not_mem_nil
  | first :: rest, done, item, member => by
      have inOrder : (check first >>= fun _ => rest.forM check) = .ok () := done
      obtain ⟨_, head, tail⟩ := bind_eq_ok.mp inOrder
      rcases List.mem_cons.mp member with rfl | later
      · exact head
      · exact forM_eq_ok tail item later

/-- What one step of a fold preserves, the fold preserves; what holds may
speak of the items that have been folded. -/
theorem foldlM_invariant {step : β → α → Except ε β}
    (holds : List α → β → Prop)
    (preserved : ∀ earlier state item next, holds earlier state →
      step state item = .ok next → holds (earlier ++ [item]) next) :
    ∀ {items earlier : List α} {state result : β}, holds earlier state →
      items.foldlM step state = .ok result → holds (earlier ++ items) result
  | [], earlier, state, result, initially, done => by
      cases done
      rw [List.append_nil]
      exact initially
  | item :: rest, earlier, state, result, initially, done => by
      rw [List.foldlM_cons] at done
      obtain ⟨next, head, tail⟩ := bind_eq_ok.mp done
      rw [List.append_cons]
      exact foldlM_invariant holds preserved
        (preserved _ _ _ _ initially head) tail

theorem foldlM_collects {γ : Type} {step : List γ → α → Except ε (List γ)}
    (adds : α → γ → Prop)
    (one : ∀ collected item next, step collected item = .ok next →
      ∃ added, next = collected ++ [added] ∧ adds item added) :
    ∀ {items : List α} {collected result : List γ},
      items.foldlM step collected = .ok result →
      ∃ added, result = collected ++ added ∧ List.Forall₂ adds items added
  | [], collected, result, done => by
      cases done
      exact ⟨[], (List.append_nil _).symm, .nil⟩
  | item :: rest, collected, result, done => by
      rw [List.foldlM_cons] at done
      obtain ⟨next, head, tail⟩ := bind_eq_ok.mp done
      obtain ⟨first, rfl, added⟩ := one _ _ _ head
      obtain ⟨others, rfl, all⟩ := foldlM_collects adds one tail
      exact ⟨first :: others, by simp, .cons added all⟩

theorem related_of_mem {γ : Type} {related : α → γ → Prop} {items : List α}
    {results : List γ} (all : List.Forall₂ related items results) {item : α}
    (member : item ∈ items) : ∃ result ∈ results, related item result := by
  induction all with
  | nil => exact absurd member List.not_mem_nil
  | cons head tail ih =>
      rcases List.mem_cons.mp member with rfl | later
      · exact ⟨_, List.mem_cons_self, head⟩
      · obtain ⟨result, inTail, same⟩ := ih later
        exact ⟨result, List.mem_cons_of_mem _ inTail, same⟩

variable {f : α → Except ε β}

theorem mapM_mem :
    ∀ {items : List α} {results : List β}, items.mapM f = .ok results →
      ∀ result ∈ results, ∃ item ∈ items, f item = .ok result
  | [], results, done, result, member => by
      cases done
      exact absurd member List.not_mem_nil
  | first :: rest, results, done, result, member => by
      rw [List.mapM_cons] at done
      obtain ⟨value, head, more⟩ := bind_eq_ok.mp done
      obtain ⟨others, tail, whole⟩ := bind_eq_ok.mp more
      cases whole
      rcases List.mem_cons.mp member with rfl | later
      · exact ⟨first, List.mem_cons_self, head⟩
      · obtain ⟨item, inRest, found⟩ := mapM_mem tail result later
        exact ⟨item, List.mem_cons_of_mem _ inRest, found⟩

/-- A checked map succeeds with the results of its items. -/
theorem mapM_eq_ok :
    ∀ {items : List α} {results : List β}, items.mapM f = .ok results ↔
      List.Forall₂ (fun item result => f item = .ok result) items results
  | [], results => by
      rw [List.mapM_nil]
      constructor
      · intro done
        cases done
        exact .nil
      · intro all
        cases all
        rfl
  | first :: rest, results => by
      rw [List.mapM_cons, bind_eq_ok]
      constructor
      · rintro ⟨value, head, more⟩
        obtain ⟨others, tail, whole⟩ := bind_eq_ok.mp more
        cases whole
        exact .cons head (mapM_eq_ok.mp tail)
      · intro all
        cases all with
        | @cons _ value _ others head tail =>
            exact ⟨value, head, bind_eq_ok.mpr ⟨others, mapM_eq_ok.mpr tail, rfl⟩⟩

theorem mapM_of_forall {result : α → β} {items : List α}
    (all : ∀ item ∈ items, f item = .ok (result item)) :
    items.mapM f = .ok (items.map result) := by
  rw [mapM_eq_ok, List.forall₂_map_right_iff, List.forall₂_same]
  exact all

theorem forM_of_forall {check : α → Except ε Unit} :
    ∀ {items : List α}, (∀ item ∈ items, check item = .ok ()) →
      items.forM check = .ok ()
  | [], _ => rfl
  | first :: rest, all => by
      refine bind_eq_ok.mpr ?_
      exact ⟨(), all first List.mem_cons_self,
        forM_of_forall fun item later => all item (List.mem_cons_of_mem _ later)⟩

/-- A computation whose results are `good` and whose exceptions are
`allowed`. -/
def Meets (good : α → Prop) (allowed : ε → Prop) : Except ε α → Prop
  | .ok value => good value
  | .error error => allowed error

section Meets

variable {good : α → Prop} {better : β → Prop} {allowed wider : ε → Prop}

theorem Meets.of_error {error : ε} (meets : Meets good allowed outcome)
    (raises : outcome = .error error) : allowed error := by
  subst raises
  exact meets

theorem Meets.weaken {weaker : α → Prop} (meets : Meets good allowed outcome)
    (goods : ∀ value, good value →
      weaker value) (alloweds : ∀ error, allowed error → wider error) :
    Meets weaker wider outcome := by
  cases outcome with
  | ok value => exact goods value meets
  | error error => exact alloweds error meets

theorem Meets.bind (meets : Meets good allowed first)
    (later : ∀ value, good value → Meets better allowed (next value)) :
    Meets better allowed (first >>= next) := by
  cases first with
  | ok value => exact later value meets
  | error error => exact meets

end Meets

end Outcome

namespace Outcome

variable {ε α β : Type} {allowed : ε → Prop}

/-- Whatever the computation raises is allowed. -/
def Confined (allowed : ε → Prop) (computation : Except ε α) : Prop :=
  ∀ raised, computation = .error raised → allowed raised

theorem confined_ok (value : α) :
    Confined allowed (.ok value : Except ε α) := nofun

theorem confined_error_iff {raised : ε} :
    Confined allowed (.error raised : Except ε α) ↔ allowed raised := by
  constructor
  · intro confined
    exact confined raised rfl
  · intro isAllowed other same
    cases same
    exact isAllowed

variable {first : Except ε α} {next : α → Except ε β}

/-- A sequence is confined if its first part is, and what follows what the first
part returns. -/
theorem confined_bind_iff :
    Confined allowed (first >>= next) ↔
      Confined allowed first ∧
        ∀ value, first = .ok value → Confined allowed (next value) := by
  cases first with
  | error raised =>
      constructor
      · intro confined
        exact ⟨fun other same => confined other (by cases same; rfl), nofun⟩
      · rintro ⟨confined, -⟩ other same
        exact confined other (by cases same; rfl)
  | ok value =>
      constructor
      · intro confined
        refine ⟨nofun, ?_⟩
        intro other same
        cases same
        exact confined
      · rintro ⟨-, later⟩
        exact later value rfl

theorem Confined.bind_iff (confined : Confined allowed first) :
    Confined allowed (first >>= next) ↔
      ∀ value, first = .ok value → Confined allowed (next value) := by
  rw [confined_bind_iff, and_iff_right confined]

theorem Confined.bind (confined : Confined allowed first)
    (later : ∀ value, first = .ok value → Confined allowed (next value)) :
    Confined allowed (first >>= next) := confined.bind_iff.mpr later

theorem confined_guard_iff {condition : Prop} [Decidable condition] {error : ε}
    {rest : Except ε α} (isAllowed : allowed error) :
    Confined allowed (if condition then .error error else rest) ↔
      (¬condition → Confined allowed rest) := by
  by_cases holds : condition
  case pos =>
      rw [if_pos holds]
      exact iff_of_true (confined_error_iff.mpr isAllowed)
        fun passed => absurd holds passed
  case neg =>
      rw [if_neg holds]
      exact ⟨fun confined _ => confined, fun confined => confined holds⟩

theorem Confined.guard {condition : Prop} [Decidable condition] {error : ε}
    {rest : Except ε α} (isAllowed : allowed error)
    (passed : ¬condition → Confined allowed rest) :
    Confined allowed (if condition then .error error else rest) :=
  (confined_guard_iff isAllowed).mpr passed

/-- The property holds for each item behind items for which a step
succeeds. -/
def ReachedIn (items : List α) (step : α → Except ε β) (property : α → Prop) :
    Prop :=
  ∀ before item after, items = before ++ item :: after →
    (∀ earlier ∈ before, (step earlier).isOk = true) → property item

variable {step : α → Except ε β} {property : α → Prop}

theorem reachedIn_nil : ReachedIn [] step property := by
  intro before item after split
  cases before <;> cases split

theorem reachedIn_cons_iff {first : α} {rest : List α} :
    ReachedIn (first :: rest) step property ↔ property first ∧
      ((step first).isOk = true → ReachedIn rest step property) := by
  constructor
  case mp =>
    intro reached
    refine ⟨reached [] first rest rfl nofun, ?_⟩
    intro succeeds before item after split allOk
    refine reached (first :: before) item after ?_ ?_
    · rw [split, List.cons_append]
    · exact List.forall_mem_cons.mpr ⟨succeeds, allOk⟩
  case mpr =>
    rintro ⟨holds, later⟩ before item after split allOk
    cases before with
    | nil =>
        cases split
        exact holds
    | cons head tail =>
        cases split
        obtain ⟨succeeds, others⟩ := List.forall_mem_cons.mp allOk
        exact later succeeds tail item after rfl others

variable {items : List α}

theorem ReachedIn.of_forall (all : ∀ item ∈ items, property item) :
    ReachedIn items step property := by
  rintro before item after rfl -
  exact all item (List.mem_append_right _ List.mem_cons_self)

theorem confined_mapM_iff :
    Confined allowed (items.mapM step) ↔
      ReachedIn items step fun item => Confined allowed (step item) := by
  induction items with
  | nil => exact iff_of_true (confined_ok _) reachedIn_nil
  | cons first rest ih =>
      rw [List.mapM_cons, confined_bind_iff, reachedIn_cons_iff,
        ← ih]
      refine and_congr_right fun _ => ?_
      cases succeeds : step first with
      | error raised => exact iff_of_true nofun nofun
      | ok value =>
          constructor
          · intro later _
            have confined := later value rfl
            rw [confined_bind_iff] at confined
            exact confined.1
          · rintro later other -
            exact (later rfl).bind fun values _ => confined_ok _

theorem Confined.mapM (each : ∀ item ∈ items, Confined allowed (step item)) :
    Confined allowed (items.mapM step) :=
  confined_mapM_iff.mpr (ReachedIn.of_forall each)

theorem Confined.foldlM {step : β → α → Except ε β}
    (each : ∀ state item, Confined allowed (step state item)) :
    ∀ state, Confined allowed (items.foldlM step state) := by
  induction items with
  | nil => exact fun _ => confined_ok _
  | cons first rest ih =>
      intro state
      rw [List.foldlM_cons]
      exact (each state first).bind fun next _ => ih next

end Outcome

namespace Outcome

variable {ε κ α β : Type} {kind : ε → κ}

/-- Both return the same value, or raise errors of one kind. -/
def Alike (kind : ε → κ) (one other : Except ε α) : Prop :=
  one.mapError kind = other.mapError kind

theorem Alike.refl (one : Except ε α) : Alike kind one one := rfl

variable {one other : Except ε α}

theorem Alike.symm (alike : Alike kind one other) :
    Alike kind other one := Eq.symm alike

theorem Alike.trans {third : Except ε α} (first : Alike kind one other)
    (second : Alike kind other third) :
    Alike kind one third := Eq.trans first second

theorem Alike.of_eq (same : one = other) :
    Alike kind one other := congrArg _ same

theorem Alike.error {one other : ε} (same : kind one = kind other) :
    Alike kind (.error one : Except ε α) (.error other) :=
  congrArg Except.error same

theorem Alike.ok_left {value : α} (alike : Alike kind (.ok value) other) :
    other = .ok value := by
  cases other with
  | error raised => cases alike
  | ok found =>
      cases alike
      rfl

theorem Alike.eq_ok_iff (alike : Alike kind one other) {value : α} :
    one = .ok value ↔ other = .ok value := by
  constructor
  · rintro rfl
    exact alike.ok_left
  · rintro rfl
    exact alike.symm.ok_left

theorem Alike.bind {next later : α → Except ε β}
    (alike : Alike kind one other) (after : ∀ value, one = .ok value →
      Alike kind (next value) (later value)) :
    Alike kind (one >>= next) (other >>= later) := by
  cases one with
  | error raised =>
      cases other with
      | error thrown =>
          have same : kind raised = kind thrown := Except.error.inj alike
          exact Alike.error same
      | ok value => cases alike
  | ok value =>
      cases alike.ok_left
      exact after value rfl

theorem Alike.map (alike : Alike kind one other) (change : α → β) :
    Alike kind (one.map change) (other.map change) := by
  cases one with
  | error raised =>
      cases other with
      | error thrown =>
          have same : kind raised = kind thrown := Except.error.inj alike
          exact Alike.error same
      | ok value => cases alike
  | ok value =>
      cases alike.ok_left
      exact Alike.refl _

theorem Alike.guard {condition : Prop} [Decidable condition]
    {refusal thrown : Except ε α}
    (refused : condition → Alike kind refusal thrown)
    (passed : ¬condition → Alike kind one other) :
    Alike kind (if condition then refusal else one)
      (if condition then thrown else other) := by
  by_cases holds : condition
  · rw [if_pos holds, if_pos holds]
    exact refused holds
  · rw [if_neg holds, if_neg holds]
    exact passed holds

theorem Alike.mapM {step other : α → Except ε β} {items : List α}
    (each : ∀ item ∈ items, Alike kind (step item) (other item)) :
    Alike kind (items.mapM step) (items.mapM other) := by
  induction items with
  | nil => exact Alike.refl _
  | cons first rest ih =>
      obtain ⟨head, tail⟩ := List.forall_mem_cons.mp each
      rw [List.mapM_cons, List.mapM_cons]
      exact head.bind fun value _ =>
        (ih tail).bind fun values _ => Alike.refl _

theorem Alike.foldlM {step other : β → α → Except ε β} {items : List α}
    (each : ∀ state item, Alike kind (step state item) (other state item)) :
    ∀ state, Alike kind (items.foldlM step state) (items.foldlM other state) := by
  induction items with
  | nil => exact fun _ => Alike.refl _
  | cons first rest ih =>
      intro state
      rw [List.foldlM_cons, List.foldlM_cons]
      exact (each state first).bind fun next _ => ih next

/-- Of computations that are alike, one is confined to a kind of errors where
the other is. -/
theorem Alike.confined_iff {allowed : κ → Prop}
    (alike : Alike kind one other) :
    Confined (fun raised => allowed (kind raised)) one ↔
      Confined (fun raised => allowed (kind raised)) other := by
  cases one with
  | error raised =>
      cases other with
      | error thrown =>
          have same : kind raised = kind thrown := Except.error.inj alike
          rw [confined_error_iff, confined_error_iff, same]
      | ok value => cases alike
  | ok value => rw [alike.ok_left]

end Outcome
