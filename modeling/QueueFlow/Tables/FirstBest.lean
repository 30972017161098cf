import Mathlib.Data.List.Basic
import Mathlib.Data.List.Induction
import Mathlib.Data.Nat.Basic
import Mathlib.Order.Basic

/-!
# The first best of a list

The loop that keeps the best option so far and replaces it only by a better one, and the loop that
returns at the first match.
-/

namespace QueueFlow.Tables

variable {α β : Type} {score : α → Nat} {options : List α} {best other option : α}
  {found : Option α} {high : Nat}

def FirstBest (score : α → Nat) (options : List α) (best : α) : Prop :=
  ∃ before after, options = before ++ best :: after ∧
    (∀ option ∈ before, score option < score best) ∧ ∀ option ∈ after, score option ≤ score best

/-- One turn of the loop over the best option so far and its score. -/
def improve (score : α → Nat) (sofar : Option α × Nat) (option : α) : Option α × Nat :=
  if score option > sofar.2 then (some option, score option) else sofar

theorem FirstBest.max (first : FirstBest score options best) :
    ∀ option ∈ options, score option ≤ score best := by
  obtain ⟨before, after, rfl, below, rest⟩ := first
  intro option member
  rcases List.mem_append.mp member with member | member
  · exact (below option member).le
  · rcases List.mem_cons.mp member with rfl | member
    · exact le_rfl
    · exact rest option member

theorem firstBest_concat (first : FirstBest score options best) (le : score option ≤ score best) :
    FirstBest score (options ++ [option]) best := by
  obtain ⟨before, after, rfl, below, rest⟩ := first
  refine ⟨before, after ++ [option], by simp, below, fun other member => ?_⟩
  rcases List.mem_append.mp member with member | member
  · exact rest other member
  · rwa [List.mem_singleton.mp member]

theorem firstBest_head {rest : List α} (zero : ∀ option ∈ best :: rest, score option = 0) :
    FirstBest score (best :: rest) best := by
  refine ⟨[], rest, rfl, by simp, fun option member => ?_⟩
  rw [zero option (List.mem_cons_of_mem _ member)]
  exact Nat.zero_le _

theorem firstBest_unique (one : FirstBest score options best)
    (two : FirstBest score options other) : best = other := by
  obtain ⟨before, after, rfl, below, rest⟩ := one
  obtain ⟨before', after', same, below', rest'⟩ := two
  rcases List.append_eq_append_iff.mp same with ⟨middle, rfl, tail⟩ | ⟨middle, rfl, tail⟩
  · cases middle with
    | nil =>
        cases tail
        rfl
    | cons head middle =>
        cases tail
        exact absurd (rest other (by simp)) (not_le.mpr (below' best (by simp)))
  · cases middle with
    | nil =>
        cases tail
        rfl
    | cons head middle =>
        cases tail
        exact absurd (rest' best (by simp)) (not_le.mpr (below other (by simp)))

theorem firstBest_congr {score' : α → Nat}
    (same : ∀ option ∈ options, score option = score' option)
    (first : FirstBest score options best) : FirstBest score' options best := by
  obtain ⟨before, after, rfl, below, rest⟩ := first
  have here : score best = score' best := same best (by simp)
  refine ⟨before, after, rfl, fun option member => ?_, fun option member => ?_⟩
  · rw [← here, ← same option (by simp [member])]
    exact below option member
  · rw [← here, ← same option (by simp [member])]
    exact rest option member

theorem firstBest_map {f : α → β} {score : β → Nat} {best : β} :
    FirstBest score (options.map f) best ↔
      ∃ option, FirstBest (score ∘ f) options option ∧ f option = best := by
  constructor
  · rintro ⟨before, after, split, below, rest⟩
    obtain ⟨before, tail, rfl, rfl, tailed⟩ := List.map_eq_append_iff.mp split
    obtain ⟨option, after, rfl, rfl, rfl⟩ := List.map_eq_cons_iff.mp tailed
    exact ⟨option, ⟨before, after, rfl, by simpa using below, by simpa using rest⟩, rfl⟩
  · rintro ⟨option, ⟨before, after, rfl, below, rest⟩, rfl⟩
    exact ⟨before.map f, after.map f, by simp, by simpa using below, by simpa using rest⟩

/-- The loop finds the first best option, unless every score is zero. -/
theorem loop_firstBest (score : α → Nat) (options : List α) :
    (options.foldl (improve score) (none, 0) = (none, 0) ∧ ∀ option ∈ options, score option = 0) ∨
    ∃ best, options.foldl (improve score) (none, 0) = (some best, score best) ∧
      FirstBest score options best ∧ 0 < score best := by
  induction options using List.reverseRecOn with
  | nil => exact .inl ⟨rfl, by simp⟩
  | append_singleton options option ih =>
      rw [List.foldl_append, List.foldl_cons, List.foldl_nil]
      rcases ih with ⟨state, zero⟩ | ⟨best, state, first, positive⟩
      · rw [state]
        by_cases better : score option > 0
        · refine .inr ⟨option, if_pos better, ⟨options, [], rfl, ?_, by simp⟩, better⟩
          exact fun other member => by rwa [zero other member]
        · refine .inl ⟨if_neg better, fun other member => ?_⟩
          rcases List.mem_append.mp member with member | member
          · exact zero other member
          · rw [List.mem_singleton.mp member]
            exact Nat.eq_zero_of_not_pos better
      · rw [state]
        by_cases better : score option > score best
        · refine .inr ⟨option, if_pos better, ⟨options, [], rfl, ?_, by simp⟩,
            positive.trans better⟩
          exact fun other member => (first.max other member).trans_lt better
        · exact .inr ⟨best, if_neg better, firstBest_concat first (not_lt.mp better), positive⟩

/-! ## The first match -/

/-- The first match of `p` is a match of `q` when nothing before the first match of `q` is one. -/
theorem find?_meets_iff {p q : α → Bool} (implies : ∀ option ∈ options, q option → p option)
    (met : ∃ option ∈ options, q option) :
    (∃ option ∈ options.find? p, q option) ↔
      ∀ option ∈ options.takeWhile (fun option => !q option), p option = false := by
  induction options with
  | nil => simp at met
  | cons option options ih =>
      cases meets : q option with
      | true =>
          have matched : p option = true := implies option List.mem_cons_self meets
          simp [matched, meets]
      | false =>
          have later : ∃ option ∈ options, q option := by simpa [meets] using met
          have ih := ih (fun other member => implies other (List.mem_cons_of_mem _ member)) later
          cases matched : p option with
          | true => simp [matched, meets]
          | false => simpa [matched, meets] using ih

end QueueFlow.Tables
