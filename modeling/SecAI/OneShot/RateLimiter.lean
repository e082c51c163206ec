/-
Module: SecAI.OneShot.RateLimiter
Purpose: The limit on the exchanges of device codes: what is allowed under a
  key in a minute.
Trusted boundary: a call holds the lock from its first read to its last write
Main exports:
  allow, rateLimiter, limiter_is_sliding_window
-/
import SecAI.Interleaving.Machine
import SecAI.Text.Numerals
import Mathlib.Logic.Function.Basic

namespace SecAI.OneShot.RateLimiter

open Interleaving
open SecAI.Text

/-- The arguments of `allow`. -/
structure Call where
  key : List CodePoint
  /-- In microseconds; none of a time without a zone. -/
  receivedAt : Option Int

/-- `self._attempts`; a key that is not there has an empty deque. -/
abbrev Attempts := List CodePoint → List Int

/-- `key[:128] if key else "unknown"`. -/
def safeKey (key : List CodePoint) : List CodePoint :=
  if key = [] then points "unknown".toList else key.take 128

/-- `timedelta(minutes=1)`. -/
def minute : Int := 60000000

/-- What `allow` does to the deque of a key. -/
def allowAt (maximum : Nat) (attempts : List Int) (receivedAt : Int) :
    Bool × List Int :=
  let oldest := receivedAt - minute
  let attempts := attempts.dropWhile fun time => decide (time ≤ oldest)
  if maximum ≤ attempts.length then (false, attempts)
  else (true, attempts ++ [receivedAt])

/-- `InMemoryExchangeRateLimiter.allow`; no answer stands for a `ValueError`. -/
def allow (maximum : Nat) (attempts : Attempts) (call : Call) :
    Option Bool × Attempts :=
  match call.receivedAt with
  | none => (none, attempts)
  | some receivedAt =>
      let key := safeKey call.key
      let (answer, remaining) := allowAt maximum (attempts key) receivedAt
      (some answer, Function.update attempts key remaining)

def rateLimiter (maximum : Nat) : Machine Attempts Call (Option Bool) where
  step attempts call := some (allow maximum attempts call)

def unused : Attempts := fun _ => []

/-- A call in a run. -/
abbrev CallMoment := Moment Attempts Call (Option Bool)

def times (trace : List CallMoment) : List Int :=
  trace.filterMap (·.label.receivedAt)

def under (key : List CodePoint) (trace : List CallMoment) : List CallMoment :=
  trace.filter fun moment => decide (safeKey moment.label.key = key)

def allowedTimes (key : List CodePoint) (trace : List CallMoment) : List Int :=
  times (trace.filter fun moment => decide (safeKey moment.label.key = key ∧
    moment.answer = some true))

def inMinute (last : Int) (all : List Int) : List Int :=
  all.filter fun time => decide (last - minute < time ∧ time ≤ last)

section Runs

variable {maximum : Nat} {attempts before final : Attempts}
  {trace : List CallMoment} {key : List CodePoint}

theorem times_append (first second : List CallMoment) :
    times (first ++ second) = times first ++ times second :=
  List.filterMap_append

theorem allowedTimes_append (first second : List CallMoment) :
    allowedTimes key (first ++ second) =
      allowedTimes key first ++ allowedTimes key second := by
  rw [allowedTimes, List.filter_append, times_append]
  rfl

/-- The attempts of a key are its allowed times, without some that are too old
for every call to come. -/
def Remembers (key : List CodePoint) (trace : List CallMoment)
    (attempts : List Int) : Prop :=
  ∃ old, allowedTimes key trace = old ++ attempts ∧
    ∀ now, (∀ time ∈ times trace, time ≤ now) →
      ∀ time ∈ old, time ≤ now - minute

theorem allowedTimes_sublist (key : List CodePoint)
    (trace : List CallMoment) :
    (allowedTimes key trace).Sublist (times trace) :=
  List.filter_sublist.filterMap _

/-- What is left of ordered attempts is what lies in the minute. -/
theorem dropWhile_eq_inMinute {now : Int} {old attempts : List Int}
    (ordered : (old ++ attempts).Pairwise (· ≤ ·))
    (known : ∀ time ∈ old ++ attempts, time ≤ now)
    (tooOld : ∀ time ∈ old, time ≤ now - minute) :
    attempts.dropWhile (fun time => decide (time ≤ now - minute)) =
      inMinute now (old ++ attempts) := by
  induction old with
  | cons time old ih =>
      have late := tooOld time List.mem_cons_self
      rw [ih (List.pairwise_cons.mp ordered).2
        (fun other member => known other (List.mem_cons_of_mem _ member))
        (fun other member => tooOld other (List.mem_cons_of_mem _ member)),
        inMinute, inMinute, List.cons_append, List.filter_cons_of_neg]
      rw [decide_eq_true_eq]
      omega
  | nil =>
      induction attempts with
      | nil => rfl
      | cons time attempts ih =>
          obtain ⟨least, ordered⟩ := List.pairwise_cons.mp ordered
          have inTime := known time List.mem_cons_self
          by_cases late : time ≤ now - minute
          · rw [List.dropWhile_cons, if_pos (decide_eq_true late),
              ih ordered fun other member =>
                known other (List.mem_cons_of_mem _ member)]
            rw [inMinute, inMinute, List.nil_append, List.nil_append,
              List.filter_cons_of_neg]
            rw [decide_eq_true_eq]
            omega
          · rw [List.dropWhile_cons, if_neg (by simpa using late), inMinute,
              List.nil_append, eq_comm, List.filter_eq_self]
            intro other member
            have later : time ≤ other := by
              rcases List.mem_cons.mp member with rfl | behind
              · exact Int.le_refl _
              · exact least other behind
            have inTime := known other member
            rw [decide_eq_true_eq]
            omega

variable {recent : List Int} {receivedAt : Int}

theorem allowAt_remembers (ordered : (times trace).Pairwise (· ≤ ·))
    (known : ∀ time ∈ times trace, time ≤ receivedAt)
    (remembers : Remembers key trace recent) :
    (allowAt maximum recent receivedAt).1 =
      decide ((inMinute receivedAt (allowedTimes key trace)).length <
        maximum) := by
  obtain ⟨old, isAllowed, tooOld⟩ := remembers
  have sublist := allowedTimes_sublist key trace
  rw [isAllowed] at sublist ⊢
  rw [← dropWhile_eq_inMinute (ordered.sublist sublist)
    (fun time member => known time (sublist.subset member))
    (tooOld receivedAt known), allowAt]
  split
  · next full => exact (decide_eq_false (Nat.not_lt.mpr full)).symm
  · next room => exact (decide_eq_true (Nat.lt_of_not_le room)).symm

/-- The invariant of the runs whose times do not decrease: every key is
remembered, and no minute holds more than the maximum. -/
structure IsLimited (maximum : Nat) (trace : List CallMoment)
    (attempts : Attempts) : Prop where
  remembers : ∀ key, Remembers key trace (attempts key)
  few : ∀ key last, (inMinute last (allowedTimes key trace)).length ≤ maximum

/-- The minute up to a call holds the most times of those that have the call
in them. -/
theorem length_inMinute_le {last now : Int} {all : List Int}
    (known : ∀ time ∈ all, time ≤ now) (within : now ≤ last) :
    (inMinute last all).length ≤ (inMinute now all).length := by
  rw [inMinute, inMinute, ← List.countP_eq_length_filter,
    ← List.countP_eq_length_filter]
  apply List.countP_mono_left
  intro time member inLast
  have inTime := known time member
  rw [decide_eq_true_eq] at inLast ⊢
  omega

variable {moment : CallMoment}

theorem Remembers.purged (isNow : moment.label.receivedAt = some receivedAt)
    (remembers : Remembers key trace recent) :
    Remembers key (trace ++ [moment]) ((recent.dropWhile fun time =>
      decide (time ≤ receivedAt - minute)) ++ allowedTimes key [moment]) := by
  obtain ⟨old, isAllowed, tooOld⟩ := remembers
  refine ⟨old ++ recent.takeWhile fun time =>
    decide (time ≤ receivedAt - minute), ?_, ?_⟩
  · rw [allowedTimes_append, List.append_assoc, ← List.append_assoc _ _
      (allowedTimes key [moment]), List.takeWhile_append_dropWhile, isAllowed,
      List.append_assoc]
  · intro now later time member
    rw [times_append, List.forall_mem_append] at later
    rcases List.mem_append.mp member with earlier | dropped
    · exact tooOld now later.1 time earlier
    · have isLate := List.mem_takeWhile_imp dropped
      rw [decide_eq_true_eq] at isLate
      have notBefore := later.2 receivedAt
        (List.mem_filterMap.mpr ⟨moment, List.mem_singleton_self _, isNow⟩)
      omega

theorem Remembers.kept (none : allowedTimes key [moment] = [])
    (remembers : Remembers key trace recent) :
    Remembers key (trace ++ [moment]) recent := by
  obtain ⟨old, isAllowed, tooOld⟩ := remembers
  refine ⟨old, ?_, fun now later => tooOld now fun time member => ?_⟩
  · rw [allowedTimes_append, none, List.append_nil, isAllowed]
  · rw [times_append] at later
    exact later time (List.mem_append_left _ member)

theorem allowedTimes_singleton :
    allowedTimes key [moment] =
      if safeKey moment.label.key = key ∧ moment.answer = some true then
        moment.label.receivedAt.toList else [] := by
  rw [allowedTimes, List.filter_singleton]
  by_cases both : safeKey moment.label.key = key ∧ moment.answer = some true
  · rw [if_pos both, decide_eq_true both, times, cond_true]
    cases found : moment.label.receivedAt <;> simp [found]
  · rw [if_neg both, decide_eq_false both]
    rfl

/-- A call that is allowed is the last attempt of its key. -/
theorem allowAt_snd (attempts : List Int) (receivedAt : Int) :
    (allowAt maximum attempts receivedAt).2 =
      (attempts.dropWhile fun time => decide (time ≤ receivedAt - minute)) ++
        if (allowAt maximum attempts receivedAt).1 = true then [receivedAt]
        else [] := by
  unfold allowAt
  dsimp only
  split
  · exact (List.append_nil _).symm
  · rfl

variable {call : Call} {answer : Option Bool} {after : Attempts}

/-- What a call under a key is answered, and what it leaves behind. -/
theorem allow_eq (isNow : call.receivedAt = some receivedAt)
    (made : allow maximum before call = (answer, after)) :
    answer = some (allowAt maximum (before (safeKey call.key)) receivedAt).1 ∧
      after = Function.update before (safeKey call.key)
        (allowAt maximum (before (safeKey call.key)) receivedAt).2 := by
  rw [allow, isNow] at made
  obtain ⟨isAnswer, isAfter⟩ := Prod.mk.inj made
  exact ⟨isAnswer.symm, isAfter.symm⟩

theorem allow_invalid (invalid : call.receivedAt = none)
    (made : allow maximum before call = (answer, after)) :
    answer = none ∧ after = before := by
  rw [allow, invalid] at made
  obtain ⟨isAnswer, isAfter⟩ := Prod.mk.inj made
  exact ⟨isAnswer.symm, isAfter.symm⟩

theorem Remembers.step (made : allow maximum before call = (answer, after))
    (remembers : Remembers key trace (before key)) :
    Remembers key (trace ++ [⟨before, call, answer, after⟩]) (after key) := by
  cases isNow : call.receivedAt with
  | none =>
      obtain ⟨rfl, rfl⟩ := allow_invalid isNow made
      apply remembers.kept
      rw [allowedTimes_singleton, if_neg fun both => nomatch both.2]
  | some receivedAt =>
      obtain ⟨isAnswer, isAfter⟩ := allow_eq isNow made
      by_cases own : safeKey call.key = key
      case pos =>
        subst own
        have added : allowedTimes (safeKey call.key)
            [⟨before, call, answer, after⟩] =
            if (allowAt maximum (before (safeKey call.key)) receivedAt).1 = true
            then [receivedAt] else [] := by
          rw [allowedTimes_singleton, isAnswer, isNow]
          simp only [true_and, Option.some.injEq, Option.toList_some]
        have purged : Remembers (safeKey call.key)
            (trace ++ [⟨before, call, answer, after⟩]) _ :=
          remembers.purged isNow
        rw [added, ← allowAt_snd] at purged
        rw [isAfter, Function.update_self, ← isAfter]
        exact purged
      case neg =>
        rw [isAfter, Function.update_of_ne (Ne.symm own), ← isAfter]
        apply remembers.kept
        rw [allowedTimes_singleton, if_neg fun both => own both.1]

/-- The calls so far are not after the last one. -/
theorem times_le (isNow : moment.label.receivedAt = some receivedAt)
    (ordered : (times (trace ++ [moment])).Pairwise (· ≤ ·)) :
    (times trace).Pairwise (· ≤ ·) ∧
      ∀ time ∈ times trace, time ≤ receivedAt := by
  rw [times_append, List.pairwise_append] at ordered
  exact ⟨ordered.1, fun time member => ordered.2.2 time member receivedAt
    (List.mem_filterMap.mpr ⟨moment, List.mem_singleton_self _, isNow⟩)⟩

/-- A call is allowed when the minute up to it has room under its key. -/
theorem IsLimited.answers (limited : IsLimited maximum trace before)
    (made : allow maximum before call = (answer, after))
    (isNow : call.receivedAt = some receivedAt)
    (ordered : (times (trace ++ [⟨before, call, answer, after⟩])).Pairwise
      (· ≤ ·)) :
    answer = some (decide ((inMinute receivedAt
      (allowedTimes (safeKey call.key) trace)).length < maximum)) := by
  obtain ⟨earlier, known⟩ := times_le (by exact isNow) ordered
  rw [(allow_eq isNow made).1,
    allowAt_remembers earlier known (limited.remembers _)]

theorem IsLimited.step (limited : IsLimited maximum trace before)
    (made : allow maximum before call = (answer, after))
    (ordered : (times (trace ++ [⟨before, call, answer, after⟩])).Pairwise
      (· ≤ ·)) :
    IsLimited maximum (trace ++ [⟨before, call, answer, after⟩]) after := by
  constructor
  case remembers => exact fun key => (limited.remembers key).step made
  case few =>
    intro key last
    have few := limited.few key
    rw [allowedTimes_append, allowedTimes_singleton, inMinute,
      List.filter_append, List.length_append]
    dsimp only
    split
    · next both =>
        obtain ⟨rfl, rfl⟩ := both
        cases isNow : call.receivedAt with
        | none =>
            cases (allow_invalid isNow made).1
        | some receivedAt =>
            have room := limited.answers made isNow ordered
            rw [Option.some.injEq, eq_comm, decide_eq_true_eq] at room
            obtain ⟨-, known⟩ := times_le (by exact isNow) ordered
            have sublist := allowedTimes_sublist (safeKey call.key) trace
            rw [Option.toList_some, List.filter_singleton]
            by_cases within : last - minute < receivedAt ∧ receivedAt ≤ last
            · have fewer : (inMinute last _).length ≤ _ := length_inMinute_le
                (fun time member => known time (sublist.subset member))
                within.2
              rw [decide_eq_true within, cond_true, List.length_singleton]
              exact Nat.lt_of_le_of_lt fewer room
            · rw [decide_eq_false within, cond_false]
              exact few last
    · exact few last

/-- The answers under a key and its deque, after one more call. -/
def answerAt (maximum : Nat) (reached : List (Option Bool) × List Int) :
    Option Int → List (Option Bool) × List Int
  | none => (reached.1 ++ [none], reached.2)
  | some receivedAt =>
      let (answer, remaining) := allowAt maximum reached.2 receivedAt
      (reached.1 ++ [some answer], remaining)

/-- The answers under a key are made from the times of its own calls. -/
theorem answers_eq_foldl
    (run : (rateLimiter maximum).Run Machine.unguarded unused trace final)
    (key : List CodePoint) :
    ((under key trace).map (·.answer), final key) =
      ((under key trace).map (·.label.receivedAt)).foldl (answerAt maximum)
        ([], []) := by
  refine run.traced (fun trace attempts => ((under key trace).map (·.answer),
    attempts key) = ((under key trace).map (·.label.receivedAt)).foldl
      (answerAt maximum) ([], [])) rfl ?_
  intro earlier before call answer after reached _ made
  have made : allow maximum before call = (answer, after) := Option.some.inj made
  rw [under, List.filter_append, List.filter_singleton]
  by_cases own : safeKey call.key = key
  · rw [decide_eq_true own, cond_true, List.map_append, List.map_append,
      List.foldl_append]
    change (_, after key) = answerAt maximum (List.foldl _ _ ((under key
      earlier).map (·.label.receivedAt))) call.receivedAt
    rw [← reached]
    cases isNow : call.receivedAt with
    | none =>
        obtain ⟨rfl, rfl⟩ := allow_invalid isNow made
        rfl
    | some receivedAt =>
        obtain ⟨rfl, rfl⟩ := allow_eq isNow made
        rw [own, Function.update_self]
        rfl
  · have same : after key = before key := by
      cases isNow : call.receivedAt with
      | none => rw [(allow_invalid isNow made).2]
      | some receivedAt =>
          rw [(allow_eq isNow made).2, Function.update_of_ne (Ne.symm own)]
    rw [decide_eq_false own, cond_false, List.append_nil, same]
    exact reached

/-- In a run whose times do not decrease no minute holds more allowed calls of
a key than the maximum, and a call is allowed exactly when the minute up to it
has room; the answers under a key do not depend on the other calls. Keys are
meant as `safeKey` makes them. -/
theorem limiter_is_sliding_window
    (run : (rateLimiter maximum).Run Machine.unguarded unused trace final)
    (ordered : (times trace).Pairwise (· ≤ ·)) :
    (∀ key last, (inMinute last (allowedTimes key trace)).length ≤ maximum) ∧
    (∀ earlier moment later receivedAt, trace = earlier ++ moment :: later →
      moment.label.receivedAt = some receivedAt →
      moment.answer = some (decide ((inMinute receivedAt (allowedTimes
        (safeKey moment.label.key) earlier)).length < maximum))) ∧
    ∀ key other otherFinal,
      (rateLimiter maximum).Run Machine.unguarded unused other otherFinal →
      (under key other).map (·.label.receivedAt) =
        (under key trace).map (·.label.receivedAt) →
      (under key other).map (·.answer) = (under key trace).map (·.answer) := by
  have limited : ∀ {trace final}, (rateLimiter maximum).Run Machine.unguarded
      unused trace final → (times trace).Pairwise (· ≤ ·) →
      IsLimited maximum trace final := by
    intro trace final run
    refine run.traced (fun trace attempts => (times trace).Pairwise (· ≤ ·) →
      IsLimited maximum trace attempts) ?_ ?_
    · exact fun _ => ⟨fun _ => ⟨[], rfl, fun _ _ => List.forall_mem_nil _⟩,
        fun _ _ => Nat.zero_le _⟩
    · intro earlier before call answer after reached _ made ordered
      refine (reached ?_).step (Option.some.inj made) ordered
      rw [times_append, List.pairwise_append] at ordered
      exact ordered.1
  refine ⟨(limited run ordered).few, ?_, ?_⟩
  · rintro earlier ⟨before, call, answer, after⟩ later receivedAt rfl isNow
    obtain ⟨reached, -, made, -⟩ := run.around
    rw [List.append_cons, times_append, List.pairwise_append] at ordered
    refine (limited reached ?_).answers (Option.some.inj made) isNow ordered.1
    rw [times_append, List.pairwise_append] at ordered
    exact ordered.1.1
  · intro key other otherFinal otherRun same
    have one := answers_eq_foldl run key
    have two := answers_eq_foldl otherRun key
    rw [same, ← one] at two
    exact congrArg Prod.fst two

end Runs

def exampleCalls : List Call := [
  ⟨points "192.0.2.10".toList, some 0⟩,
  ⟨points "192.0.2.11".toList, some 1⟩,
  ⟨points "192.0.2.10".toList, some 2⟩]

theorem second_call_is_refused : ∃ trace final,
    (rateLimiter 1).Run Machine.unguarded unused trace final ∧
    trace.map (·.answer) = [some true, some true, some false] ∧
    ∀ key last, (inMinute last (allowedTimes key trace)).length ≤ 1 := by
  have carried : ((rateLimiter 1).replay Machine.unguarded unused
      exampleCalls).map (fun run => (run.1.map (·.answer), times run.1)) =
        some ([some true, some true, some false], [0, 1, 2]) := by
    decide +kernel
  obtain ⟨trace, final, run, seen⟩ := Machine.exists_run_of_replay carried
  obtain ⟨answers, isTimes⟩ := Prod.mk.inj seen
  exact ⟨trace, final, run, answers,
    (limiter_is_sliding_window run (by rw [isTimes]; decide)).1⟩

/-- An empty key counts as `unknown`: a call is refused under a key that has
not been used. -/
theorem unused_key_is_refused : ∃ trace final,
    (rateLimiter 1).Run Machine.unguarded unused trace final ∧
    (times trace).Pairwise (· ≤ ·) ∧
    ∃ moment ∈ trace, moment.answer = some false ∧
      ∀ other ∈ trace, other.answer = some true →
        other.label.key ≠ moment.label.key := by
  have carried : ((rateLimiter 1).replay Machine.unguarded unused
      [⟨[], some 0⟩, ⟨points "unknown".toList, some 1⟩]).map (fun run =>
        (times run.1, run.1.any fun moment =>
          decide (moment.answer = some false) && run.1.all fun other =>
            decide (other.answer = some true → other.label.key ≠
              moment.label.key))) = some ([0, 1], true) := by
    decide +kernel
  obtain ⟨trace, final, run, seen⟩ := Machine.exists_run_of_replay carried
  obtain ⟨isTimes, refused⟩ := Prod.mk.inj seen
  simp only [List.any_eq_true, Bool.and_eq_true, decide_eq_true_eq,
    List.all_eq_true] at refused
  exact ⟨trace, final, run, by rw [isTimes]; decide, refused⟩

end SecAI.OneShot.RateLimiter
