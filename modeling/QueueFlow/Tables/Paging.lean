import Mathlib.Data.List.Flatten
import Mathlib.Data.List.Nodup
import Mathlib.Data.List.Perm.Basic
import Mathlib.Data.List.Sort
import Mathlib.Order.Basic

/-!
# LIMIT and OFFSET

Pages of rows that are ordered by one column. Every page is cut out of an order of its own: rows
that agree in the column may change places from one query to the next.
-/

namespace QueueFlow.Tables

variable {α β τ : Type} [LinearOrder τ] {time : α → τ} {rows listing other : List α}
  {listings : Nat → List α} {n k place : Nat}

/-- An order of the rows that ORDER BY allows. -/
structure OrderedBy (time : α → τ) (rows listing : List α) : Prop where
  perm : listing.Perm rows
  sorted : listing.Pairwise fun a b => time a ≤ time b

def page (n k : Nat) (listing : List α) : List α := (listing.drop (k * n)).take n

def sortedColumn (time : α → τ) (rows : List α) : List τ :=
  (rows.map time).insertionSort (· ≤ ·)

/-- No value of the column occurs on both sides of this place. -/
def CleanCut (time : α → τ) (rows : List α) (place : Nat) : Prop :=
  ((sortedColumn time rows).take place).Disjoint ((sortedColumn time rows).drop place)

/-- Page by page, up to the first empty one, every row is answered once. -/
def PagedThrough (rows : List β) (pages : Nat → List β) : Prop :=
  ∃ last, pages last = [] ∧ (∀ k < last, pages k ≠ []) ∧ ((List.range last).flatMap pages).Perm rows

theorem orderedBy_insertionSort :
    OrderedBy time rows (rows.insertionSort fun a b => time a ≤ time b) := by
  have : Std.Total fun a b => time a ≤ time b := ⟨fun a b => le_total _ _⟩
  have : IsTrans α fun a b => time a ≤ time b := ⟨fun _ _ _ => le_trans⟩
  exact ⟨List.perm_insertionSort _ _, List.pairwise_insertionSort _ _⟩

theorem OrderedBy.column (ordered : OrderedBy time rows listing) :
    listing.map time = sortedColumn time rows := by
  have sorted : (listing.map time).Pairwise (· ≤ ·) := List.pairwise_map.mpr ordered.sorted
  refine List.Perm.eq_of_pairwise (fun a b _ _ => le_antisymm) sorted
    (List.pairwise_insertionSort _ _) ?_
  exact (ordered.perm.map time).trans (List.perm_insertionSort _ _).symm

/-! ## Clean cuts -/

theorem OrderedBy.take_eq_filter (ordered : OrderedBy time rows listing)
    (clean : CleanCut time rows place) : listing.take place =
      listing.filter fun row => time row ∈ (sortedColumn time rows).take place := by
  have before : ∀ row ∈ listing.take place, time row ∈ (sortedColumn time rows).take place := by
    intro row member
    rw [← ordered.column, ← List.map_take]
    exact List.mem_map_of_mem member
  have after : ∀ row ∈ listing.drop place, time row ∉ (sortedColumn time rows).take place := by
    intro row member early
    have late : time row ∈ (sortedColumn time rows).drop place := by
      rw [← ordered.column, ← List.map_drop]
      exact List.mem_map_of_mem member
    exact clean early late
  conv_rhs => rw [← List.take_append_drop place listing, List.filter_append]
  rw [List.filter_eq_self.mpr, List.filter_eq_nil_iff.mpr, List.append_nil]
  · simpa using after
  · simpa using before

theorem take_perm (one : OrderedBy time rows listing) (two : OrderedBy time rows other)
    (clean : CleanCut time rows place) : (listing.take place).Perm (other.take place) := by
  rw [one.take_eq_filter clean, two.take_eq_filter clean]
  exact (one.perm.trans two.perm.symm).filter _

theorem take_page : listing.take (k * n) ++ page n k listing = listing.take ((k + 1) * n) := by
  rw [page, Nat.succ_mul, List.take_add]

/-- Between clean cuts every order has the same rows. -/
theorem page_perm (one : OrderedBy time rows listing) (two : OrderedBy time rows other)
    (first : CleanCut time rows (k * n)) (last : CleanCut time rows ((k + 1) * n)) :
    (page n k listing).Perm (page n k other) := by
  have whole := take_perm one two last
  rw [← take_page, ← take_page] at whole
  exact (List.perm_append_left_iff _).mp
    (whole.trans ((take_perm one two first).symm.append_right _))

theorem flatMap_pages (last : Nat) :
    (List.range last).flatMap (fun k => page n k listing) = listing.take (last * n) := by
  induction last with
  | zero => simp
  | succ last ih => rw [List.range_succ, List.flatMap_append, ih, List.flatMap_singleton, take_page]

theorem page_eq_nil (positive : 0 < n) : page n k listing = [] ↔ listing.length ≤ k * n := by
  rw [page, List.take_eq_nil_iff, List.drop_eq_nil_iff]
  simp [positive.ne']

theorem pagedThrough (positive : 0 < n) (ordered : ∀ k, OrderedBy time rows (listings k))
    (clean : ∀ k, CleanCut time rows (k * n)) :
    PagedThrough rows fun k => page n k (listings k) := by
  have ends : ∃ k, page n k (listings k) = [] := by
    refine ⟨rows.length, (page_eq_nil positive).mpr ?_⟩
    rw [(ordered _).perm.length_eq]
    exact Nat.le_mul_of_pos_right _ positive
  refine ⟨Nat.find ends, Nat.find_spec ends, fun k => Nat.find_min ends, ?_⟩
  have far : rows.length ≤ Nat.find ends * n := by
    rw [← (ordered _).perm.length_eq, ← page_eq_nil positive]
    exact Nat.find_spec ends
  have same := List.Perm.flatMap_left (List.range (Nat.find ends)) fun k _ =>
    page_perm (n := n) (ordered k) (ordered 0) (clean k) (clean (k + 1))
  rw [flatMap_pages, List.take_of_length_le (by rwa [(ordered 0).perm.length_eq])] at same
  exact same.trans (ordered 0).perm

/-! ## Torn pages -/

theorem exists_tie (ordered : OrderedBy time rows listing) (torn : ¬ CleanCut time rows place) :
    ∃ first x y last, listing = first ++ x :: y :: last ∧ place = first.length + 1 ∧
      time x = time y := by
  obtain ⟨value, early, late⟩ : ∃ value, value ∈ (sortedColumn time rows).take place ∧
      value ∈ (sortedColumn time rows).drop place := by
    by_contra none
    exact torn fun value early late => none ⟨value, early, late⟩
  rw [← ordered.column, ← List.map_take] at early
  rw [← ordered.column, ← List.map_drop] at late
  obtain ⟨before, front, rfl⟩ := List.mem_map.mp early
  obtain ⟨after, back, same⟩ := List.mem_map.mp late
  obtain ⟨first, x, shape⟩ :=
    (List.eq_nil_or_concat' (listing.take place)).resolve_left (List.ne_nil_of_mem front)
  obtain ⟨y, last, rest⟩ := List.exists_cons_of_ne_nil (List.ne_nil_of_mem back)
  have whole : listing = first ++ x :: y :: last := by
    rw [← List.take_append_drop place listing, shape, rest, List.append_assoc]
    rfl
  have inside : place ≤ listing.length := by
    by_contra beyond
    rw [List.drop_eq_nil_of_le (not_le.mp beyond).le] at back
    exact List.not_mem_nil back
  have sorted := ordered.sorted
  rw [whole, List.pairwise_append, List.pairwise_cons, List.pairwise_cons] at sorted
  obtain ⟨_, ⟨fromX, fromY, _⟩, across⟩ := sorted
  refine ⟨first, x, y, last, whole, ?_, (fromX y List.mem_cons_self).antisymm ?_⟩
  · rw [← List.length_take_of_le inside, shape, List.length_append, List.length_singleton]
  · rw [shape] at front
    rw [rest] at back
    have low : time before ≤ time x := by
      rcases List.mem_append.mp front with member | member
      · exact across before member x List.mem_cons_self
      · rw [List.mem_singleton.mp member]
    have high : time y ≤ time after := by
      rcases List.mem_cons.mp back with rfl | member
      · rfl
      · exact fromY after member
    exact high.trans (same.le.trans low)

theorem OrderedBy.swap {first last : List α} {x y : α}
    (ordered : OrderedBy time rows (first ++ x :: y :: last)) (tie : time x = time y) :
    OrderedBy time rows (first ++ y :: x :: last) := by
  refine ⟨((List.Perm.swap x y last).append_left first).trans ordered.perm, ?_⟩
  have sorted := ordered.sorted
  simp only [List.pairwise_append, List.pairwise_cons, List.mem_cons] at sorted ⊢
  obtain ⟨before, ⟨fromX, fromY, after⟩, across⟩ := sorted
  refine ⟨before, ⟨?_, fun b member => fromX b (.inr member), after⟩, ?_⟩
  · rintro b (rfl | member)
    · exact tie.ge
    · exact fromY b member
  · rintro a member b (rfl | rfl | rest)
    · exact across a member _ (.inr (.inl rfl))
    · exact across a member _ (.inl rfl)
    · exact across a member b (.inr (.inr rest))

/-- Without a clean cut a row may come at the end of one page and at the start of the next. -/
theorem exists_torn (positive : 0 < n) (distinct : rows.Nodup)
    (torn : ¬ CleanCut time rows (k * n)) :
    ∃ listings : Nat → List α, (∀ j, OrderedBy time rows (listings j)) ∧
      ¬ PagedThrough rows fun j => page n j (listings j) := by
  obtain ⟨first, x, y, last, whole, boundary, tie⟩ := exists_tie orderedBy_insertionSort torn
  have ordered : OrderedBy time rows (first ++ x :: y :: last) := whole ▸ orderedBy_insertionSort
  obtain ⟨k, rfl⟩ : ∃ before, k = before + 1 := by
    refine Nat.exists_eq_succ_of_ne_zero ?_
    rintro rfl
    simp at boundary
  let listings (j : Nat) : List α :=
    if j = k + 1 then first ++ y :: x :: last else first ++ x :: y :: last
  have here : x ∈ page n k (listings k) := by
    refine List.mem_of_getElem? (i := n - 1) ?_
    have place : k * n + (n - 1) = first.length := by rw [Nat.succ_mul] at boundary; omega
    rw [page, List.getElem?_take_of_lt (by omega), List.getElem?_drop, place]
    simp [listings]
  have again : x ∈ page n (k + 1) (listings (k + 1)) := by
    refine List.mem_of_getElem? (i := 0) ?_
    rw [page, List.getElem?_take_of_lt positive, List.getElem?_drop, boundary]
    simp [listings]
  refine ⟨listings, fun j => ?_, fun ⟨stop, ends, full, perm⟩ => ?_⟩
  · unfold listings
    split
    · exact ordered.swap tie
    · exact ordered
  · have reached : k + 1 < stop := by
      by_contra early
      have size : (listings stop).length = first.length + 2 + last.length := by
        unfold listings
        split <;> simp <;> omega
      rw [page_eq_nil positive, size] at ends
      have within : stop * n ≤ (k + 1) * n := Nat.mul_le_mul_right n (not_lt.mp early)
      omega
    have nodup := (List.nodup_flatMap.mp (perm.nodup_iff.mpr distinct)).2
    have apart := List.pairwise_iff_getElem.mp nodup k (k + 1) (by simp; omega) (by simpa)
      (Nat.lt_succ_self k)
    simp only [List.getElem_range] at apart
    exact apart here again

end QueueFlow.Tables
