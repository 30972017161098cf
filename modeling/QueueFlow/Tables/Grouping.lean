import Mathlib.Algebra.BigOperators.Group.List.Basic
import Mathlib.Data.Rat.Floor

/-!
# GROUP BY

Rows grouped by a key. Listing the groups one after the other lists every row once, so sums and
averages over all rows are those over the groups.
-/

namespace QueueFlow.Tables

variable {α κ : Type} [DecidableEq κ] {keyOf : α → κ} {keys : List κ} {rows : List α}

def group (keyOf : α → κ) (rows : List α) (k : κ) : List α :=
  rows.filter fun row => keyOf row = k

@[simp] theorem mem_group {k : κ} {row : α} :
    row ∈ group keyOf rows k ↔ row ∈ rows ∧ keyOf row = k := by
  simp [group]

theorem group_filter_ne {k other : κ} (differs : other ≠ k) :
    group keyOf (rows.filter fun row => ¬ keyOf row = k) other = group keyOf rows other := by
  rw [group, List.filter_filter]
  refine List.filter_congr fun row _ => ?_
  by_cases same : keyOf row = other <;> simp [same, differs]

/-- The groups partition the rows. -/
theorem flatMap_group_perm (distinct : keys.Nodup) (covered : ∀ row ∈ rows, keyOf row ∈ keys) :
    (keys.flatMap (group keyOf rows)).Perm rows := by
  induction keys generalizing rows with
  | nil =>
      have empty : rows = [] :=
        List.eq_nil_iff_forall_not_mem.mpr fun row member => List.not_mem_nil (covered row member)
      rw [empty]
      rfl
  | cons k keys ih =>
      obtain ⟨fresh, distinct⟩ := List.nodup_cons.mp distinct
      let others := rows.filter fun row => ¬ keyOf row = k
      have partition : (keys.flatMap (group keyOf others)).Perm others := by
        refine ih distinct fun row member => ?_
        obtain ⟨there, differs⟩ := List.mem_filter.mp member
        exact (List.mem_cons.mp (covered row there)).resolve_left (by simpa using differs)
      have groups : keys.flatMap (group keyOf others) = keys.flatMap (group keyOf rows) :=
        List.flatMap_congr fun other member =>
          group_filter_ne fun same => fresh (same ▸ member)
      rw [groups] at partition
      rw [List.flatMap_cons]
      refine (partition.append_left (group keyOf rows k)).trans ?_
      simpa [group, others] using List.filter_append_perm (fun row => decide (keyOf row = k)) rows

theorem sum_group_length (distinct : keys.Nodup) (covered : ∀ row ∈ rows, keyOf row ∈ keys) :
    (keys.map fun k => (group keyOf rows k).length).sum = rows.length := by
  rw [← (flatMap_group_perm distinct covered).length_eq, List.length_flatMap]

theorem sum_group_filterMap {β : Type} [AddCommMonoid β] (column : α → Option β)
    (distinct : keys.Nodup) (covered : ∀ row ∈ rows, keyOf row ∈ keys) :
    (keys.map fun k => ((group keyOf rows k).filterMap column).sum).sum =
      (rows.filterMap column).sum := by
  rw [← ((flatMap_group_perm distinct covered).filterMap column).sum_eq, List.filterMap_flatMap,
    List.flatMap, List.sum_flatten, List.map_map]
  rfl

/-! ## Weighted means -/

def weightedMean (weighted : List (Rat × Nat)) : Rat :=
  (weighted.map fun entry => entry.1 * (entry.2 : Rat)).sum / (weighted.map Prod.snd).sum

/-- The mean of all values is the mean of the groups' means, weighted by their sizes. -/
theorem weightedMean_groups {column : α → Option Rat} {mean : κ → Rat} (distinct : keys.Nodup)
    (covered : ∀ row ∈ rows, keyOf row ∈ keys) (present : ∀ row ∈ rows, (column row).isSome)
    (means : ∀ k ∈ keys, mean k * (group keyOf rows k).length =
      ((group keyOf rows k).filterMap column).sum) :
    weightedMean (keys.map fun k => (mean k, (group keyOf rows k).length)) =
      (rows.filterMap column).sum / (rows.filterMap column).length := by
  have counted : (rows.filterMap column).length = rows.length := by
    rw [List.length_filterMap_eq_countP, List.countP_eq_length]
    exact present
  have weighted : keys.map (fun k => mean k * ((group keyOf rows k).length : Rat)) =
      keys.map fun k => ((group keyOf rows k).filterMap column).sum :=
    List.map_congr_left means
  have values : ((keys.map fun k => (mean k, (group keyOf rows k).length)).map
      fun entry => entry.1 * (entry.2 : Rat)).sum = (rows.filterMap column).sum := by
    rw [List.map_map, ← sum_group_filterMap column distinct covered, ← weighted]
    rfl
  have weights : ((keys.map fun k => (mean k, (group keyOf rows k).length)).map Prod.snd).sum =
      rows.length := by
    rw [List.map_map, ← sum_group_length distinct covered]
    rfl
  rw [weightedMean, values, weights, counted]

end QueueFlow.Tables
