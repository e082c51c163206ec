/-
Module: SecAI.Common.Gathered
Purpose: Rows under distinct keys that are gathered from items one by one: the
  first item of a key makes its row, the later ones change it.
Trusted boundary: none
Main exports:
  Gathered.Rule, Gathered.gather, mem_gather_iff, length_gather
-/
import Mathlib.Data.List.Dedup
import Mathlib.Data.List.Induction
import Mathlib.Data.Finset.Card

namespace Gathered

variable {α β κ : Type} [DecidableEq κ]

/-- How the items of a key make and change the row of the key. -/
structure Rule (α β κ : Type) where
  itemKey : α → κ
  rowKey : β → κ
  create : α → β
  change : β → α → β
  create_key : ∀ item, rowKey (create item) = itemKey item
  change_key : ∀ row item, rowKey row = itemKey item →
    rowKey (change row item) = rowKey row

variable (rule : Rule α β κ)

/-- One item on top of the rows so far. -/
def put (rows : List β) (item : α) : List β :=
  if rule.itemKey item ∈ rows.map rule.rowKey then
    rows.map fun row =>
      if rule.rowKey row = rule.itemKey item then rule.change row item else row
  else rows ++ [rule.create item]

def gather (items : List α) : List β := items.foldl (put rule) []

/-- The row that the items of one key make, if there are any. -/
def rowOf : List α → List β
  | [] => []
  | first :: rest => [rest.foldl rule.change (rule.create first)]

def ofKey (key : κ) (items : List α) : List α :=
  items.filter fun item => decide (rule.itemKey item = key)

variable {rule} {rows : List β} {items : List α} {row : β} {key : κ}

theorem gather_append_singleton (items : List α) (item : α) :
    gather rule (items ++ [item]) = put rule (gather rule items) item := by
  rw [gather, List.foldl_append]
  rfl

theorem map_key_put (item : α) :
    (put rule rows item).map rule.rowKey =
      if rule.itemKey item ∈ rows.map rule.rowKey then rows.map rule.rowKey
      else rows.map rule.rowKey ++ [rule.itemKey item] := by
  rw [put]
  split
  · rw [List.map_map]
    apply List.map_congr_left
    intro row _
    rw [Function.comp_apply]
    split
    · next same => exact rule.change_key row item same
    · rfl
  · rw [List.map_append, List.map_singleton, rule.create_key]

theorem mem_gather_keys :
    key ∈ (gather rule items).map rule.rowKey ↔
      key ∈ items.map rule.itemKey := by
  induction items using List.reverseRecOn with
  | nil => exact Iff.rfl
  | append_singleton items item ih =>
      rw [gather_append_singleton, map_key_put, List.map_append,
        List.mem_append, ← ih, List.map_singleton,
        List.mem_singleton]
      split
      · next known =>
          constructor
          · exact Or.inl
          · rintro (earlier | rfl)
            · exact earlier
            · exact known
      · rw [List.mem_append, List.mem_singleton]

theorem nodup_gather_keys : ((gather rule items).map rule.rowKey).Nodup := by
  induction items using List.reverseRecOn with
  | nil => exact List.nodup_nil
  | append_singleton items item ih =>
      rw [gather_append_singleton, map_key_put]
      split
      · exact ih
      rename_i absent
      apply ih.append (List.nodup_singleton _)
      intro other known isItem
      rw [List.mem_singleton.mp isItem] at known
      exact absent known

/-- There are as many rows as there are keys. -/
theorem length_gather :
    (gather rule items).length = (items.map rule.itemKey).dedup.length := by
  rw [← List.length_map rule.rowKey]
  apply List.Perm.length_eq
  rw [List.perm_ext_iff_of_nodup nodup_gather_keys (List.nodup_dedup _)]
  intro key
  rw [mem_gather_keys, List.mem_dedup]

omit [DecidableEq κ] in
theorem rowOf_append_singleton (group : List α) (item : α) :
    rowOf rule (group ++ [item]) =
      if group = [] then [rule.create item]
      else (rowOf rule group).map fun row => rule.change row item := by
  cases group with
  | nil => rfl
  | cons first rest => simp [rowOf, List.foldl_append]

theorem filter_put (item : α) :
    (put rule rows item).filter (fun row => decide (rule.rowKey row = key)) =
      if rule.itemKey item = key then
        if key ∈ rows.map rule.rowKey then
          (rows.filter fun row => decide (rule.rowKey row = key)).map
            fun row => rule.change row item
        else [rule.create item]
      else rows.filter fun row => decide (rule.rowKey row = key) := by
  rw [put]
  by_cases known : rule.itemKey item ∈ rows.map rule.rowKey
  · have keeps : ((fun row => decide (rule.rowKey row = key)) ∘ fun row =>
        if rule.rowKey row = rule.itemKey item then rule.change row item
        else row) = fun row => decide (rule.rowKey row = key) := by
      funext row
      rw [Function.comp_apply]
      split
      · next same => rw [rule.change_key row item same]
      · rfl
    rw [if_pos known, List.filter_map, keeps]
    by_cases same : rule.itemKey item = key
    · rw [if_pos same, if_pos (same ▸ known)]
      apply List.map_congr_left
      intro row member
      rw [if_pos ((of_decide_eq_true (List.mem_filter.mp member).2).trans
        same.symm)]
    · rw [if_neg same]
      apply (List.map_congr_left _).trans (List.map_id _)
      intro row member
      have isKey := of_decide_eq_true (List.mem_filter.mp member).2
      exact if_neg fun equal => same (equal.symm.trans isKey)
  · rw [if_neg known, List.filter_append]
    by_cases same : rule.itemKey item = key
    · subst same
      have none : (rows.filter fun row =>
          decide (rule.rowKey row = rule.itemKey item)) = [] := by
        rw [List.filter_eq_nil_iff]
        intro row member isKey
        exact known (List.mem_map.mpr ⟨row, member, of_decide_eq_true isKey⟩)
      rw [if_pos rfl, if_neg known, none, List.nil_append]
      simp [rule.create_key]
    · rw [if_neg same]
      simp [rule.create_key, same]

/-- The row of a key is made of the items of the key alone. -/
theorem filter_gather :
    (gather rule items).filter (fun row => decide (rule.rowKey row = key)) =
      rowOf rule (ofKey rule key items) := by
  induction items using List.reverseRecOn with
  | nil => rfl
  | append_singleton items item ih =>
      rw [gather_append_singleton, filter_put, ih]
      have parts : ofKey rule key (items ++ [item]) = ofKey rule key items ++
          if rule.itemKey item = key then [item] else [] := by
        rw [ofKey, List.filter_append, List.filter_cons, List.filter_nil]
        simp only [decide_eq_true_eq]
        rfl
      rw [parts]
      by_cases same : rule.itemKey item = key
      · have nonempty : key ∈ (gather rule items).map rule.rowKey ↔
            ofKey rule key items ≠ [] := by
          rw [mem_gather_keys, List.mem_map, ofKey, Ne, List.filter_eq_nil_iff]
          simp
        rw [if_pos same, if_pos same, rowOf_append_singleton]
        simp only [nonempty, ite_not]
      · rw [if_neg same, if_neg same, List.append_nil]

theorem mem_gather_iff :
    row ∈ gather rule items ↔
      ∃ first rest, ofKey rule (rule.rowKey row) items = first :: rest ∧
        row = rest.foldl rule.change (rule.create first) := by
  have found : row ∈ gather rule items ↔
      row ∈ rowOf rule (ofKey rule (rule.rowKey row) items) := by
    rw [← filter_gather, List.mem_filter, decide_eq_true_eq]
    exact (and_iff_left rfl).symm
  rw [found]
  cases ofKey rule (rule.rowKey row) items with
  | nil => simp [rowOf]
  | cons first rest => simp [rowOf]

theorem mem_ofKey {item : α} :
    item ∈ ofKey rule key items ↔ item ∈ items ∧ rule.itemKey item = key := by
  rw [ofKey, List.mem_filter, decide_eq_true_eq]

/-- Items with distinct keys make a row each. -/
theorem gather_of_nodup (distinct : (items.map rule.itemKey).Nodup) :
    gather rule items = items.map rule.create := by
  induction items using List.reverseRecOn with
  | nil => rfl
  | append_singleton items item ih =>
      rw [List.map_append, List.map_singleton, List.nodup_append] at distinct
      obtain ⟨earlier, -, apart⟩ := distinct
      rw [gather_append_singleton, put, if_neg, ih earlier,
        List.map_append, List.map_singleton]
      intro known
      exact apart _ (mem_gather_keys.mp known) _ (List.mem_singleton_self _) rfl

/-- The number of distinct keys depends on which keys there are. -/
theorem length_dedup_congr {keys others : List κ}
    (same : ∀ key, key ∈ keys ↔ key ∈ others) :
    keys.dedup.length = others.dedup.length := by
  apply List.Perm.length_eq
  rw [List.perm_ext_iff_of_nodup (List.nodup_dedup _) (List.nodup_dedup _)]
  intro key
  rw [List.mem_dedup, List.mem_dedup]
  exact same key

/-- A coarse key has as many values as a fine key when it is as fine on the
items. -/
theorem length_dedup_eq_iff {μ : Type} [DecidableEq μ] {coarse : α → κ}
    {fine : α → μ} {items : List α}
    (determines : ∀ first ∈ items, ∀ second ∈ items,
      fine first = fine second → coarse first = coarse second) :
    (items.map coarse).dedup.length = (items.map fine).dedup.length ↔
      ∀ first ∈ items, ∀ second ∈ items,
        coarse first = coarse second → fine first = fine second := by
  set both := (items.map fun item => (coarse item, fine item)).toFinset
    with isBoth
  have coarses : both.image Prod.fst = (items.map coarse).toFinset := by
    ext value
    simp [isBoth]
  have fines : both.image Prod.snd = (items.map fine).toFinset := by
    ext value
    simp [isBoth]
  have fineCard : (both.image Prod.snd).card = both.card := by
    apply Finset.card_image_of_injOn
    intro first inFirst second inSecond same
    simp only [isBoth, List.coe_toFinset, Set.mem_ofPred_eq, List.mem_map]
      at inFirst inSecond
    obtain ⟨one, member, rfl⟩ := inFirst
    obtain ⟨other, otherMember, rfl⟩ := inSecond
    exact Prod.ext (determines one member other otherMember same) same
  rw [← List.card_toFinset, ← List.card_toFinset, ← coarses, ← fines,
    fineCard, Finset.card_image_iff]
  constructor
  · intro injective first member second otherMember same
    have whole : ∀ item ∈ items,
        (coarse item, fine item) ∈ (both : Set (κ × μ)) := by
      intro item isItem
      simp only [isBoth, List.coe_toFinset, Set.mem_ofPred_eq]
      exact List.mem_map_of_mem isItem
    exact congrArg Prod.snd
      (injective (whole first member) (whole second otherMember) same)
  · intro fineOf first inFirst second inSecond same
    simp only [isBoth, List.coe_toFinset, Set.mem_ofPred_eq, List.mem_map]
      at inFirst inSecond
    obtain ⟨one, member, rfl⟩ := inFirst
    obtain ⟨other, otherMember, rfl⟩ := inSecond
    exact Prod.ext same (fineOf one member other otherMember same)

end Gathered
