import QueueFlow.Reading.Summary
import QueueFlow.Tables.Grouping
import Mathlib.Algebra.BigOperators.Ring.Finset
import Mathlib.Data.List.Dedup

/-!
# Time series

The buckets of a time series are a GROUP BY of the tickets that its metric reads, so they add up to
the numbers of the summary over the same window.
-/

namespace QueueFlow.Reading
open QueueFlow.App QueueFlow.Concurrency QueueFlow.Data QueueFlow.Tables QueueFlow.Transactions
open Database (waitSeconds serviceSeconds average secondsBetween)

variable {ι : Type} [DecidableEq ι] {env : Nat → Env} {i : ι} {tick : Nat} {db : Database}
  {locationId : UUID} {fromDt toDt : Time} {metric : Metric} {unit : TimeUnit}
  {tickets : List Ticket}

/-- The extra filter of a metric. -/
def Reads : Metric → Ticket → Bool
  | .waitTime, ticket => ticket.calledAt.isSome
  | .serviceTime, ticket => ticket.completedAt.isSome ∧ ticket.serviceStartedAt.isSome
  | .throughput, ticket => ticket.status = .completed
  | .queueLength, _ => true

def contributing (db : Database) (locationId : UUID) (fromDt toDt : Time) (metric : Metric) :
    List Ticket :=
  (db.createdIn locationId fromDt toDt).filter (Reads metric)

def bucketOf (unit : TimeUnit) (ticket : Ticket) : Time := dateTrunc unit ticket.createdAt

def bucketStarts (unit : TimeUnit) (tickets : List Ticket) : List Time :=
  (tickets.map (bucketOf unit)).dedup.insertionSort (· ≤ ·)

def bucketValue (metric : Metric) (tickets : List Ticket) : Rat :=
  let value := match metric with
    | .waitTime => average (tickets.filterMap waitSeconds)
    | .serviceTime => average (tickets.filterMap serviceSeconds)
    | .throughput | .queueLength => some (tickets.length : Rat)
  value.getD 0

def ticketsOf (db : Database) (locationId : UUID) (fromDt toDt : Time) (metric : Metric)
    (unit : TimeUnit) (bucket : Bucket) : List Ticket :=
  group (bucketOf unit) (contributing db locationId fromDt toDt metric) bucket.start

theorem timeseries_eq : db.timeseries locationId fromDt toDt metric unit =
    (bucketStarts unit (contributing db locationId fromDt toDt metric)).map fun start =>
      ⟨start, bucketValue metric
        (group (bucketOf unit) (contributing db locationId fromDt toDt metric) start)⟩ := by
  cases metric <;> rfl

/-! ## The buckets -/

theorem bucketStarts_perm :
    (bucketStarts unit tickets).Perm (tickets.map (bucketOf unit)).dedup :=
  List.perm_insertionSort _ _

theorem bucketStarts_nodup : (bucketStarts unit tickets).Nodup :=
  bucketStarts_perm.nodup_iff.mpr (List.nodup_dedup _)

theorem mem_bucketStarts {start : Time} :
    start ∈ bucketStarts unit tickets ↔ ∃ ticket ∈ tickets, bucketOf unit ticket = start := by
  rw [bucketStarts_perm.mem_iff, List.mem_dedup, List.mem_map]

theorem bucketStarts_covered :
    ∀ ticket ∈ tickets, bucketOf unit ticket ∈ bucketStarts unit tickets :=
  fun ticket member => mem_bucketStarts.mpr ⟨ticket, member, rfl⟩

theorem bucketStarts_ascending : (bucketStarts unit tickets).Pairwise (· < ·) := by
  have sorted : (bucketStarts unit tickets).Pairwise (· ≤ ·) := List.pairwise_insertionSort _ _
  exact (sorted.and bucketStarts_nodup).imp fun ⟨le, ne⟩ => lt_of_le_of_ne le ne

/-- The buckets of a series share out the tickets that contribute to it. -/
theorem series_partition :
    ((db.timeseries locationId fromDt toDt metric unit).flatMap
      (ticketsOf db locationId fromDt toDt metric unit)).Perm
        (contributing db locationId fromDt toDt metric) := by
  rw [timeseries_eq, List.flatMap_map]
  exact flatMap_group_perm bucketStarts_nodup bucketStarts_covered

/-! ## Averages -/

theorem average_mul_length (values : List Rat) :
    (average values).getD 0 * values.length = values.sum := by
  unfold average
  split
  · rename_i empty
    simp [empty]
  · rename_i nonempty
    have positive : (values.length : Rat) ≠ 0 := by simpa using nonempty
    exact div_mul_cancel₀ _ positive

theorem mem_nonZero_average {values : List Rat} {mean : Rat}
    (shown : mean ∈ nonZero (average values)) : mean = values.sum / values.length := by
  have found := (Option.filter_eq_some_iff.mp shown).1
  unfold average at found
  split at found
  · cases found
  · exact (Option.some.inj found).symm

theorem filterMap_contributing {column : Ticket → Option Rat}
    (read : ∀ ticket, Reads metric ticket = (column ticket).isSome) :
    (contributing db locationId fromDt toDt metric).filterMap column =
      (db.createdIn locationId fromDt toDt).filterMap column := by
  rw [contributing, List.filterMap_filter]
  refine List.filterMap_congr fun ticket _ => ?_
  rw [read]
  cases column ticket <;> rfl

theorem reads_waitTime (ticket : Ticket) :
    Reads .waitTime ticket = (waitSeconds ticket).isSome := by
  simp [Reads, waitSeconds]

theorem reads_serviceTime (ticket : Ticket) :
    Reads .serviceTime ticket = (serviceSeconds ticket).isSome := by
  rw [Reads, serviceSeconds]
  cases ticket.serviceStartedAt <;> cases ticket.completedAt <;> simp

theorem mean_of_series {column : Ticket → Option Rat} {mean : Rat}
    (read : ∀ ticket, Reads metric ticket = (column ticket).isSome)
    (measures : ∀ tickets, bucketValue metric tickets = (average (tickets.filterMap column)).getD 0)
    (shown : mean ∈
      nonZero (average ((db.createdIn locationId fromDt toDt).filterMap column))) :
    mean = weightedMean ((db.timeseries locationId fromDt toDt metric unit).map fun bucket =>
      (bucket.value, (ticketsOf db locationId fromDt toDt metric unit bucket).length)) := by
  have present : ∀ ticket ∈ contributing db locationId fromDt toDt metric,
      (column ticket).isSome := by
    intro ticket member
    rw [← read]
    exact (List.mem_filter.mp member).2
  rw [timeseries_eq, List.map_map, mem_nonZero_average shown, ← filterMap_contributing read]
  refine (weightedMean_groups bucketStarts_nodup bucketStarts_covered present fun start _ => ?_).symm
  have counted : ((group (bucketOf unit) (contributing db locationId fromDt toDt metric)
      start).filterMap column).length =
      (group (bucketOf unit) (contributing db locationId fromDt toDt metric) start).length := by
    rw [List.length_filterMap_eq_countP, List.countP_eq_length]
    exact fun ticket member => present ticket (mem_group.mp member).1
  change bucketValue metric _ * _ = _
  rw [measures, ← counted, average_mul_length]

theorem count_of_series
    (counts : ∀ tickets, bucketValue metric tickets = (tickets.length : Rat)) :
    ((db.timeseries locationId fromDt toDt metric unit).map Bucket.value).sum =
      ((contributing db locationId fromDt toDt metric).length : Rat) := by
  have whole : ((bucketStarts unit (contributing db locationId fromDt toDt metric)).map fun start =>
      (group (bucketOf unit) (contributing db locationId fromDt toDt metric) start).length).sum =
        (contributing db locationId fromDt toDt metric).length :=
    sum_group_length bucketStarts_nodup bucketStarts_covered
  rw [← whole, timeseries_eq, List.map_map, Nat.cast_list_sum, List.map_map]
  exact congrArg List.sum (List.map_congr_left fun start _ => counts _)

/-! ## The series and the summary -/

structure SeriesAgree (db : Database) (locationId : UUID) (fromDt toDt : Time) (unit : TimeUnit)
    (summary : KpiData) (series : String → List Bucket) : Prop where
  completed : ((series "throughput").map Bucket.value).sum = summary.completedTickets
  total : ((series "queue_length").map Bucket.value).sum = summary.totalTickets
  wait : ∀ mean ∈ summary.avgWaitSeconds,
    mean = weightedMean ((series "wait_time").map fun bucket =>
      (bucket.value, (ticketsOf db locationId fromDt toDt .waitTime unit bucket).length))
  service : ∀ mean ∈ summary.avgServiceSeconds,
    mean = weightedMean ((series "service_time").map fun bucket =>
      (bucket.value, (ticketsOf db locationId fromDt toDt .serviceTime unit bucket).length))
  partition : ∀ metric ∈ validMetrics, ((series metric).flatMap
    (ticketsOf db locationId fromDt toDt (metricNamed metric) unit)).Perm
      (contributing db locationId fromDt toDt (metricNamed metric))

theorem answers_timeseries {interval : String} {text : String}
    (named : unitNamed (truncUnit interval) = some unit) :
    Answers engine env i db (timeseries locationId fromDt toDt text interval) tick
      (.returned (db.timeseries locationId fromDt toDt (metricNamed text) unit)) := by
  rw [timeseries, named]
  change Answers engine env i db (query _) tick _
  rw [← Program.bind_ret (query _)]
  exact answers_query rfl (answers_ret _)

theorem unitNamed_of_valid {interval : String} (valid : interval ∈ validIntervals) :
    ∃ unit, unitNamed (truncUnit interval) = some unit := by
  have named : ∀ interval ∈ validIntervals, (unitNamed (truncUnit interval)).isSome := by
    decide +kernel
  exact Option.isSome_iff_exists.mp (named interval valid)

/-- Every series of a window agrees with its summary. -/
theorem series_agree (i : ι) (env : Nat → Env) (tick : Nat) (db : Database) (locationId : UUID)
    (fromDt toDt : Time) {interval : String} (valid : interval ∈ validIntervals) :
    ∃ unit,
      Answers engine env i db (kpiSummary locationId fromDt toDt) tick
        (.returned (summaryOf db locationId fromDt toDt)) ∧
      (∀ metric, Answers engine env i db (timeseries locationId fromDt toDt metric interval) tick
        (.returned (db.timeseries locationId fromDt toDt (metricNamed metric) unit))) ∧
      SeriesAgree db locationId fromDt toDt unit (summaryOf db locationId fromDt toDt)
        fun metric => db.timeseries locationId fromDt toDt (metricNamed metric) unit := by
  obtain ⟨unit, named⟩ := unitNamed_of_valid valid
  refine ⟨unit, answers_kpiSummary, fun metric => answers_timeseries named, ?_⟩
  constructor
  · exact count_of_series fun _ => rfl
  · refine (count_of_series fun _ => rfl).trans ?_
    have whole : contributing db locationId fromDt toDt .queueLength =
        db.createdIn locationId fromDt toDt := List.filter_true _
    exact congrArg (fun tickets : List Ticket => (tickets.length : Rat)) whole
  · exact fun mean shown => mean_of_series reads_waitTime (fun _ => rfl) shown
  · exact fun mean shown => mean_of_series reads_serviceTime (fun _ => rfl) shown
  · exact fun metric _ => series_partition

theorem series_agree_shortVisit : ∃ unit,
    Answers engine steadyEnv 0 shortVisit (kpiSummary 10 0 (hours 1)) 0
      (.returned (summaryOf shortVisit 10 0 (hours 1))) ∧
    (∀ metric, Answers engine steadyEnv 0 shortVisit
      (timeseries 10 0 (hours 1) metric "15 minutes") 0
      (.returned (shortVisit.timeseries 10 0 (hours 1) (metricNamed metric) unit))) ∧
    SeriesAgree shortVisit 10 0 (hours 1) unit (summaryOf shortVisit 10 0 (hours 1))
      fun metric => shortVisit.timeseries 10 0 (hours 1) (metricNamed metric) unit :=
  series_agree 0 steadyEnv 0 shortVisit 10 0 (hours 1) (by decide)

end QueueFlow.Reading
