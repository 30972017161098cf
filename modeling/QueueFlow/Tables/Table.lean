import Mathlib.Data.List.Nodup

namespace QueueFlow.Tables

class Keyed (α : Type) (κ : outParam Type) where
  key : α → κ

export Keyed (key)

/-- A table in insertion order; no two rows share a primary key. -/
structure Table (α : Type) {κ : Type} [Keyed α κ] where
  rows : List α
  distinct : (rows.map key).Nodup

namespace Table

variable {α κ : Type} [Keyed α κ] [DecidableEq κ]

def empty : Table α := ⟨[], List.nodup_nil⟩

def get? (table : Table α) (k : κ) : Option α := table.rows.find? fun row => key row = k

private theorem map_key_replace (row : α) (rows : List α) :
    (rows.map fun old => if key old = key row then row else old).map key = rows.map key := by
  rw [List.map_map]
  apply List.map_congr_left
  intro old _
  by_cases same : key old = key row <;> simp [same]

/-- Writes a row version: in place when its key is there, at the end otherwise. -/
def put (table : Table α) (row : α) : Table α :=
  if present : key row ∈ table.rows.map key then
    ⟨table.rows.map fun old => if key old = key row then row else old, by
      rw [map_key_replace]; exact table.distinct⟩
  else
    ⟨table.rows ++ [row], by
      simpa [List.nodup_append, table.distinct] using fun old member same =>
        present (List.mem_map.mpr ⟨old, member, same⟩)⟩

def drop (table : Table α) (k : κ) : Table α :=
  ⟨table.rows.filter fun row => key row ≠ k,
    table.distinct.sublist (List.filter_sublist.map _)⟩

@[simp] theorem get?_empty (k : κ) : (empty : Table α).get? k = none := rfl

theorem get?_eq_some {table : Table α} {k : κ} {row : α} :
    table.get? k = some row ↔ row ∈ table.rows ∧ key row = k := by
  constructor
  · intro found
    exact ⟨List.mem_of_find?_eq_some found, by simpa using List.find?_some found⟩
  · rintro ⟨member, rfl⟩
    cases found : table.get? (key row) with
    | none => simpa using List.find?_eq_none.mp found row member
    | some other =>
        have sameKey : key other = key row := by simpa using List.find?_some found
        exact congrArg some (List.inj_on_of_nodup_map table.distinct
          (List.mem_of_find?_eq_some found) member sameKey)

theorem get?_eq_none {table : Table α} {k : κ} :
    table.get? k = none ↔ ∀ row ∈ table.rows, key row ≠ k := by
  simp [get?]

theorem key_of_get? {table : Table α} {k : κ} {row : α} (found : table.get? k = some row) :
    key row = k := (get?_eq_some.mp found).2

theorem mem_of_get? {table : Table α} {k : κ} {row : α} (found : table.get? k = some row) :
    row ∈ table.rows := (get?_eq_some.mp found).1

theorem get?_of_mem {table : Table α} {row : α} (member : row ∈ table.rows) :
    table.get? (key row) = some row := get?_eq_some.mpr ⟨member, rfl⟩

theorem mem_put {table : Table α} {row other : α} :
    other ∈ (table.put row).rows ↔ other = row ∨ (other ∈ table.rows ∧ key other ≠ key row) := by
  unfold put
  split
  · rename_i present
    obtain ⟨old, member, same⟩ := List.mem_map.mp present
    simp only [List.mem_map]
    constructor
    · rintro ⟨before, there, rfl⟩
      by_cases hit : key before = key row
      · simp [hit]
      · simp [hit, there]
    · rintro (rfl | ⟨there, differs⟩)
      · exact ⟨old, member, by simp [same]⟩
      · exact ⟨other, there, by simp [differs]⟩
  · rename_i absent
    simp only [List.mem_append, List.mem_singleton]
    constructor
    · rintro (there | rfl)
      · exact .inr ⟨there, fun same => absent (same ▸ List.mem_map_of_mem there)⟩
      · exact .inl rfl
    · rintro (rfl | ⟨there, _⟩)
      · exact .inr rfl
      · exact .inl there

@[simp] theorem get?_put (table : Table α) (row : α) (k : κ) :
    (table.put row).get? k = if key row = k then some row else table.get? k := by
  split
  · rename_i same
    exact get?_eq_some.mpr ⟨mem_put.mpr (.inl rfl), same⟩
  · rename_i differs
    cases found : table.get? k with
    | some other =>
        obtain ⟨member, rfl⟩ := get?_eq_some.mp found
        exact get?_eq_some.mpr ⟨mem_put.mpr (.inr ⟨member, Ne.symm differs⟩), rfl⟩
    | none =>
        rw [get?_eq_none] at found ⊢
        intro other member
        rcases mem_put.mp member with rfl | ⟨there, _⟩
        · exact differs
        · exact found other there

theorem rows_put_of_absent {table : Table α} {row : α} (absent : table.get? (key row) = none) :
    (table.put row).rows = table.rows ++ [row] := by
  rw [put, dif_neg]
  intro present
  obtain ⟨old, member, same⟩ := List.mem_map.mp present
  exact get?_eq_none.mp absent old member same

theorem filter_put {table : Table α} {row : α} {p : α → Bool} (new : p row = false)
    (old : ∀ before, table.get? (key row) = some before → p before = false) :
    (table.put row).rows.filter p = table.rows.filter p := by
  unfold put
  split
  · rw [List.filter_map, ← List.filter_congr (p := p) (q := p ∘ _)]
    · refine (List.map_congr_left fun other member => ?_).trans (List.map_id _)
      obtain ⟨there, passes⟩ := List.mem_filter.mp member
      rw [if_neg]
      · rfl
      · intro same
        rw [old other (get?_eq_some.mpr ⟨there, same⟩)] at passes
        cases passes
    · intro other member
      by_cases same : key other = key row
      · simp [same, new, old other (get?_eq_some.mpr ⟨member, same⟩)]
      · simp [same]
  · simp [new]

theorem mem_drop {table : Table α} {k : κ} {row : α} :
    row ∈ (table.drop k).rows ↔ row ∈ table.rows ∧ key row ≠ k := by
  simp [drop]

@[simp] theorem get?_drop (table : Table α) (dropped k : κ) :
    (table.drop dropped).get? k = if dropped = k then none else table.get? k := by
  split
  · rename_i same
    exact get?_eq_none.mpr fun row member => same ▸ (mem_drop.mp member).2
  · rename_i differs
    cases found : table.get? k with
    | some row =>
        obtain ⟨member, rfl⟩ := get?_eq_some.mp found
        exact get?_eq_some.mpr ⟨mem_drop.mpr ⟨member, Ne.symm differs⟩, rfl⟩
    | none =>
        rw [get?_eq_none] at found ⊢
        exact fun row member => found row (mem_drop.mp member).1

end Table

end QueueFlow.Tables
