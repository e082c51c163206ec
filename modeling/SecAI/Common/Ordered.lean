/-
Module: SecAI.Common.Ordered
Purpose: Lists sorted by a key, as `sorted` returns them.
Trusted boundary: none
Main exports:
  sortedBy, sortedSet, sortedBy_of_pairwise, sortedBy_of_perm
-/
import Mathlib.Data.List.Sort
import Mathlib.Data.List.Dedup

namespace Ordered

variable {α κ : Type} [LinearOrder κ]

/-- `sorted(items, key=key)`; the sort is stable. -/
def sortedBy (key : α → κ) (items : List α) : List α :=
  items.insertionSort fun first second => key first ≤ key second

/-- `sorted(set(items))`. -/
def sortedSet (items : List κ) : List κ := sortedBy id items.dedup

theorem sortedBy_perm (key : α → κ) (items : List α) :
    (sortedBy key items).Perm items :=
  List.perm_insertionSort _ items

variable {key : α → κ} {items : List α}

@[simp] theorem mem_sortedBy {item : α} :
    item ∈ sortedBy key items ↔ item ∈ items :=
  (sortedBy_perm key items).mem_iff

@[simp] theorem mem_sortedSet {items : List κ} {item : κ} :
    item ∈ sortedSet items ↔ item ∈ items := by
  simp [sortedSet]

theorem sortedBy_pairwise (key : α → κ) (items : List α) :
    (sortedBy key items).Pairwise fun first second => key first ≤ key second := by
  have total : Std.Total fun first second : α => key first ≤ key second :=
    ⟨fun first second => le_total (key first) (key second)⟩
  have transitive : IsTrans α fun first second => key first ≤ key second :=
    ⟨fun _ _ _ below above => le_trans below above⟩
  exact List.pairwise_insertionSort _ items

theorem nodup_sortedSet (items : List κ) : (sortedSet items).Nodup :=
  (sortedBy_perm id items.dedup).nodup_iff.mpr items.nodup_dedup

theorem sortedSet_ascending (items : List κ) :
    (sortedSet items).Pairwise fun first second => first < second := by
  have ordered := sortedBy_pairwise id items.dedup
  have distinct : (sortedSet items).Pairwise (· ≠ ·) := nodup_sortedSet items
  exact (ordered.and distinct).imp fun both => lt_of_le_of_ne both.1 both.2

theorem sortedBy_of_pairwise
    (ordered : items.Pairwise fun first second => key first ≤ key second) :
    sortedBy key items = items :=
  List.Pairwise.insertionSort_eq ordered

/-- Items with distinct keys are sorted the same, in whatever order they
arrive. -/
theorem sortedBy_of_perm {others : List α} (same : items.Perm others)
    (distinct : (items.map key).Nodup) :
    sortedBy key items = sortedBy key others := by
  have together : (sortedBy key items).Perm (sortedBy key others) :=
    (sortedBy_perm key items).trans
      (same.trans (sortedBy_perm key others).symm)
  refine together.eq_of_pairwise ?_ (sortedBy_pairwise key items)
    (sortedBy_pairwise key others)
  intro first second inFirst inSecond below above
  have firstItem : first ∈ items := mem_sortedBy.mp inFirst
  have secondItem : second ∈ items :=
    same.mem_iff.mpr (mem_sortedBy.mp inSecond)
  exact List.inj_on_of_nodup_map distinct firstItem secondItem
    (le_antisymm below above)

/-- What a sorted set is depends on its members. -/
theorem sortedSet_congr {items others : List κ}
    (same : ∀ item, item ∈ items ↔ item ∈ others) :
    sortedSet items = sortedSet others := by
  apply sortedBy_of_perm
  · rw [List.perm_ext_iff_of_nodup items.nodup_dedup others.nodup_dedup]
    intro item
    rw [List.mem_dedup, List.mem_dedup]
    exact same item
  · rw [List.map_id]
    exact items.nodup_dedup

end Ordered
