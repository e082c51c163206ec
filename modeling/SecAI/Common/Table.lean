/-
Module: SecAI.Common.Table
Purpose: Tables as ordered row lists with keyed lookup and conditional update.
Trusted boundary: none
Main exports:
  Table.lookup, Table.updateWhere, Table.lookup_updateWhere
-/
import Mathlib.Data.List.Basic

namespace Table

variable {α κ : Type} [DecidableEq κ]

/-- The first row with the given key. -/
def lookup (key : α → κ) (wanted : κ) (rows : List α) : Option α :=
  rows.find? fun row => decide (key row = wanted)

/-- `UPDATE rows SET change WHERE condition`. -/
def updateWhere (condition : α → Bool) (change : α → α) (rows : List α) :
    List α :=
  rows.map fun row => if condition row then change row else row

/-- `ORDER BY key LIMIT 1`: the earliest of the smallest rows. -/
def first (smaller : α → α → Bool) : List α → Option α
  | [] => none
  | head :: tail =>
      match first smaller tail with
      | none => some head
      | some other => if smaller other head then some other else some head

variable {key : α → κ} {wanted : κ} {rows : List α} {row : α}

theorem lookup_key (found : lookup key wanted rows = some row) :
    key row = wanted := by
  simpa using List.find?_some found

theorem lookup_mem (found : lookup key wanted rows = some row) : row ∈ rows :=
  List.mem_of_find?_eq_some found

theorem lookup_isSome_of_mem (member : row ∈ rows) :
    ∃ found, lookup key (key row) rows = some found := by
  have found : (lookup key (key row) rows).isSome := by
    rw [lookup, List.find?_isSome]
    exact ⟨row, member, by simp⟩
  exact Option.isSome_iff_exists.mp found

variable {change : α → α}

theorem lookup_updateWhere (condition : α → Bool)
    (keeps : ∀ row, condition row = true → key (change row) = key row)
    (wanted : κ) (rows : List α) :
    lookup key wanted (updateWhere condition change rows) =
      (lookup key wanted rows).map fun row =>
        if condition row then change row else row := by
  induction rows with
  | nil => rfl
  | cons head tail ih =>
      have sameKey : key (if condition head then change head else head) =
          key head := by
        split
        · next met => exact keeps head met
        · rfl
      simp only [lookup, updateWhere, List.map_cons, List.find?_cons,
        sameKey] at ih ⊢
      split
      · rfl
      · exact ih

theorem lookup_append (key : α → κ) (wanted : κ) (first second : List α) :
    lookup key wanted (first ++ second) =
      (lookup key wanted first).or (lookup key wanted second) := by
  simp [lookup, List.find?_append]

theorem lookup_append_of_some {first : List α}
    (found : lookup key wanted first = some row) (second : List α) :
    lookup key wanted (first ++ second) = some row := by
  simp [lookup_append, found]

theorem lookup_eq_of_mem (distinct : (rows.map key).Nodup)
    (member : row ∈ rows) : lookup key (key row) rows = some row := by
  induction rows with
  | nil => simp at member
  | cons head tail ih =>
      rw [List.map_cons, List.nodup_cons] at distinct
      rcases List.mem_cons.mp member with rfl | inTail
      · simp [lookup]
      · have different : key head ≠ key row := by
          intro same
          exact distinct.1 (same ▸ List.mem_map_of_mem inTail)
        have later := ih distinct.2 inTail
        rw [lookup] at later ⊢
        rw [List.find?_cons_of_neg (by simpa using different)]
        exact later

theorem countP_key_le_one
    (distinct : rows.Pairwise fun first second => key first ≠ key second)
    (wanted : κ) :
    rows.countP (fun row => decide (key row = wanted)) ≤ 1 := by
  induction distinct with
  | nil => exact Nat.zero_le _
  | @cons head tail apart _ ih =>
      rw [List.countP_cons]
      by_cases same : key head = wanted
      · have absent : tail.countP
            (fun row => decide (key row = wanted)) = 0 := by
          rw [List.countP_eq_zero]
          intro row member
          have different := apart row member
          simpa [← same] using different.symm
        simp [absent, same]
      · simpa [same] using ih

variable {condition : α → Bool}

theorem mem_updateWhere :
    row ∈ updateWhere condition change rows ↔
      ∃ old ∈ rows, (if condition old then change old else old) = row := by
  simp [updateWhere]

theorem map_updateWhere {β : Type} {field : α → β}
    (keeps : ∀ row, field (change row) = field row) (rows : List α) :
    (updateWhere condition change rows).map field = rows.map field := by
  simp only [updateWhere, List.map_map]
  apply List.map_congr_left
  intro row _
  simp only [Function.comp_apply]
  split
  · exact keeps row
  · rfl

theorem filter_updateWhere {test : α → Bool}
    (keeps : ∀ row, test (change row) = test row) (rows : List α) :
    (updateWhere condition change rows).filter test =
      updateWhere condition change (rows.filter test) := by
  induction rows with
  | nil => rfl
  | cons head tail ih =>
      have sameTest : test (if condition head then change head else head) =
          test head := by
        split
        · exact keeps head
        · rfl
      simp only [updateWhere, List.map_cons, List.filter_cons, sameTest]
        at ih ⊢
      split
      · simp [ih]
      · exact ih

theorem lookup_filter_of_some {test : α → Bool}
    (found : lookup key wanted rows = some row) (passes : test row = true) :
    lookup key wanted (rows.filter test) = some row := by
  obtain ⟨matched, earlier, later, rfl, missed⟩ :=
    List.find?_eq_some_iff_append.mp found
  rw [List.filter_append, List.filter_cons_of_pos passes, lookup_append,
    lookup, List.find?_eq_none.mpr]
  · rw [Option.none_or, lookup]
    exact List.find?_cons_of_pos matched
  · intro other member
    simpa using missed other (List.mem_filter.mp member).1

theorem lookup_map {β : Type} {key : β → κ} (change : α → β) (wanted : κ)
    (rows : List α) :
    lookup key wanted (rows.map change) =
      (lookup (fun row => key (change row)) wanted rows).map change := by
  rw [lookup, List.find?_map, lookup]
  rfl

end Table
