import QueueFlow.App.AnalyticsService
import QueueFlow.Concurrency.Alone

/-!
# Summaries

A summary over one database, with the throughput before it is rounded, and how the summaries of
adjacent windows add up.
-/

namespace QueueFlow.Reading
open QueueFlow.App QueueFlow.Concurrency QueueFlow.Data QueueFlow.Tables QueueFlow.Transactions
open Database (waitSeconds serviceSeconds average secondsBetween)

variable {ι : Type} [DecidableEq ι] {env : Nat → Env} {i : ι} {tick : Nat} {db : Database}
  {locationId : UUID} {fromDt mid toDt : Time}

def hoursBetween (fromDt toDt : Time) : Rat := secondsBetween fromDt toDt / 3600

/-- `throughput_per_hour` before it is rounded. -/
def throughput (completed : Nat) (fromDt toDt : Time) : Rat :=
  completed / max (hoursBetween fromDt toDt) 1

def summaryOf (db : Database) (locationId : UUID) (fromDt toDt : Time) : KpiData :=
  let counts := db.kpiCounts locationId fromDt toDt
  let tickets := db.createdIn locationId fromDt toDt
  { totalTickets := counts.total
    completedTickets := counts.completed
    canceledTickets := counts.canceled
    noShowTickets := counts.noShow
    avgWaitSeconds := nonZero (average (tickets.filterMap waitSeconds))
    p95WaitSeconds := nonZero (Database.percentileCont (95 / 100) (tickets.filterMap waitSeconds))
    avgServiceSeconds := nonZero (average (tickets.filterMap serviceSeconds))
    throughputPerHour := roundCents (throughput counts.completed fromDt toDt) }

theorem answers_kpiSummary :
    Answers engine env i db (kpiSummary locationId fromDt toDt) tick
      (.returned (summaryOf db locationId fromDt toDt)) := by
  refine answers_query rfl ?_
  refine answers_query rfl ?_
  refine answers_query rfl ?_
  exact answers_ret _

/-! ## Adjacent windows -/

theorem createdIn_adjacent (first : fromDt ≤ mid) (last : mid ≤ toDt) :
    (db.createdIn locationId fromDt mid ++ db.createdIn locationId mid toDt).Perm
      (db.createdIn locationId fromDt toDt) := by
  have early : (db.createdIn locationId fromDt toDt).filter (fun ticket => ticket.createdAt < mid) =
      db.createdIn locationId fromDt mid := by
    rw [Database.createdIn, List.filter_filter]
    refine List.filter_congr fun ticket _ => ?_
    rw [← Bool.decide_and, decide_eq_decide]
    refine ⟨fun ⟨before, here, since, _⟩ => ⟨here, since, before⟩, ?_⟩
    exact fun ⟨here, since, before⟩ => ⟨before, here, since, before.trans_le last⟩
  have late : (db.createdIn locationId fromDt toDt).filter (fun ticket => !ticket.createdAt < mid) =
      db.createdIn locationId mid toDt := by
    rw [Database.createdIn, List.filter_filter]
    refine List.filter_congr fun ticket _ => ?_
    rw [← decide_not, ← Bool.decide_and, decide_eq_decide, not_lt]
    refine ⟨fun ⟨since, here, _, before⟩ => ⟨here, since, before⟩, ?_⟩
    exact fun ⟨here, since, before⟩ => ⟨since, here, first.trans since, before⟩
  rw [← early, ← late]
  exact List.filter_append_perm _ _

theorem counted_adjacent (first : fromDt ≤ mid) (last : mid ≤ toDt) (p : Ticket → Bool) :
    ((db.createdIn locationId fromDt toDt).filter p).length =
      ((db.createdIn locationId fromDt mid).filter p).length +
        ((db.createdIn locationId mid toDt).filter p).length := by
  rw [← ((createdIn_adjacent first last).filter p).length_eq, List.filter_append,
    List.length_append]

theorem throughput_mul_hours (completed : Nat) :
    throughput completed fromDt toDt * max (hoursBetween fromDt toDt) 1 = completed := by
  have positive : max (hoursBetween fromDt toDt) 1 ≠ 0 :=
    (lt_of_lt_of_le one_pos (le_max_right _ _)).ne'
  exact div_mul_cancel₀ _ positive

/-- The throughput of a summary before it was rounded, times the length of its window. -/
structure RateOver (fromDt toDt : Time) (length : Rat) (summary : KpiData) : Prop where
  rounded : summary.throughputPerHour =
    roundCents (throughput summary.completedTickets fromDt toDt)
  completed : throughput summary.completedTickets fromDt toDt * length = summary.completedTickets

/-- How the summary of a window follows from those of its two parts, for this length of a window in
hours. -/
structure SummariesCompose (length : Time → Time → Rat) (fromDt mid toDt : Time)
    (whole left right : KpiData) : Prop where
  total : whole.totalTickets = left.totalTickets + right.totalTickets
  completed : whole.completedTickets = left.completedTickets + right.completedTickets
  canceled : whole.canceledTickets = left.canceledTickets + right.canceledTickets
  noShow : whole.noShowTickets = left.noShowTickets + right.noShowTickets
  wholeRate : RateOver fromDt toDt (length fromDt toDt) whole
  leftRate : RateOver fromDt mid (length fromDt mid) left
  rightRate : RateOver mid toDt (length mid toDt) right
  mean : throughput whole.completedTickets fromDt toDt * length fromDt toDt =
    throughput left.completedTickets fromDt mid * length fromDt mid +
      throughput right.completedTickets mid toDt * length mid toDt

/-- The code counts a window shorter than an hour as one hour. -/
def countedHours (fromDt toDt : Time) : Rat := max (hoursBetween fromDt toDt) 1

theorem rateOver_summaryOf : RateOver fromDt toDt (countedHours fromDt toDt)
    (summaryOf db locationId fromDt toDt) :=
  ⟨rfl, throughput_mul_hours _⟩

theorem summaries_compose (i : ι) (env : Nat → Env) (tick : Nat) (db : Database)
    (locationId : UUID) (first : fromDt < mid) (last : mid < toDt) :
    (∀ since until_, Answers engine env i db (kpiSummary locationId since until_) tick
      (.returned (summaryOf db locationId since until_))) ∧
    SummariesCompose countedHours fromDt mid toDt (summaryOf db locationId fromDt toDt)
      (summaryOf db locationId fromDt mid) (summaryOf db locationId mid toDt) := by
  have counted (p : Ticket → Bool) :
      ((db.createdIn locationId fromDt toDt).filter p).length =
        ((db.createdIn locationId fromDt mid).filter p).length +
          ((db.createdIn locationId mid toDt).filter p).length :=
    counted_adjacent first.le last.le p
  have completed : (summaryOf db locationId fromDt toDt).completedTickets =
      (summaryOf db locationId fromDt mid).completedTickets +
        (summaryOf db locationId mid toDt).completedTickets := counted _
  refine ⟨fun _ _ => answers_kpiSummary, ?_⟩
  constructor
  · have total := counted fun _ => true
    rwa [List.filter_true, List.filter_true, List.filter_true] at total
  · exact completed
  · exact counted _
  · exact counted _
  · exact rateOver_summaryOf
  · exact rateOver_summaryOf
  · exact rateOver_summaryOf
  · rw [rateOver_summaryOf.completed, rateOver_summaryOf.completed, rateOver_summaryOf.completed,
      completed, Nat.cast_add]

def shortVisit : Database := office ⟨[{ waitingTicket 2 1 5 with status := .completed }], by decide⟩

theorem summaries_compose_shortVisit :
    (∀ since until_, Answers engine steadyEnv 0 shortVisit (kpiSummary 10 since until_) 0
      (.returned (summaryOf shortVisit 10 since until_))) ∧
    SummariesCompose countedHours 0 (minutes 10) (minutes 30)
      (summaryOf shortVisit 10 0 (minutes 30)) (summaryOf shortVisit 10 0 (minutes 10))
      (summaryOf shortVisit 10 (minutes 10) (minutes 30)) :=
  summaries_compose 0 steadyEnv 0 shortVisit 10 (by decide) (by decide)

/-- The throughput over half an hour is not twice the tickets completed in it. -/
theorem short_throughput_clamped : 0 < minutes 10 ∧ minutes 10 < minutes 30 ∧
    (∀ since until_, Answers engine steadyEnv 0 shortVisit (kpiSummary 10 since until_) 0
      (.returned (summaryOf shortVisit 10 since until_))) ∧
    ¬ SummariesCompose hoursBetween 0 (minutes 10) (minutes 30)
      (summaryOf shortVisit 10 0 (minutes 30)) (summaryOf shortVisit 10 0 (minutes 10))
      (summaryOf shortVisit 10 (minutes 10) (minutes 30)) := by
  refine ⟨by decide, by decide, fun _ _ => answers_kpiSummary, fun composes => ?_⟩
  have rate := composes.wholeRate.completed
  revert rate
  decide +kernel

end QueueFlow.Reading
