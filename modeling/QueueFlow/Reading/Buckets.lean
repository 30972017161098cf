import QueueFlow.Reading.Series

/-!
# The width of the buckets

`timeseries` passes only the unit of the interval on, so a bucket is as wide as that unit. For
"15 minutes" this is one minute.
-/

namespace QueueFlow.Reading
open QueueFlow.App QueueFlow.Concurrency QueueFlow.Data QueueFlow.Tables QueueFlow.Transactions

variable {ι : Type} [DecidableEq ι] {env : Nat → Env} {i : ι} {tick : Nat} {db : Database}
  {locationId : UUID} {fromDt toDt : Time} {metric : Metric} {unit : TimeUnit} {width : Time}
  {ticket : Ticket} {bucket : Bucket}

/-- The accepted intervals and the widths they ask for. -/
def widths : List (String × Time) :=
  [("1 hour", hours 1), ("15 minutes", minutes 15), ("1 day", hours 24)]

theorem widths_intervals : widths.map Prod.fst = validIntervals := rfl

/-- A series over slots of this width that are counted from midnight UTC. -/
structure HasWidth (db : Database) (locationId : UUID) (fromDt toDt : Time) (metric : Metric)
    (unit : TimeUnit) (width : Time) (data : List Bucket) : Prop where
  slots : ∀ a ∈ contributing db locationId fromDt toDt metric,
    ∀ b ∈ contributing db locationId fromDt toDt metric,
      (∃ bucket ∈ data, a ∈ ticketsOf db locationId fromDt toDt metric unit bucket ∧
        b ∈ ticketsOf db locationId fromDt toDt metric unit bucket) ↔
      a.createdAt / width = b.createdAt / width
  starts : ∀ bucket ∈ data, width ∣ bucket.start
  ascending : data.Pairwise fun first second => first.start < second.start
  once : ∀ a ∈ contributing db locationId fromDt toDt metric,
    ∃! bucket, bucket ∈ data ∧ a ∈ ticketsOf db locationId fromDt toDt metric unit bucket

theorem mem_ticketsOf : ticket ∈ ticketsOf db locationId fromDt toDt metric unit bucket ↔
    ticket ∈ contributing db locationId fromDt toDt metric ∧
      bucketOf unit ticket = bucket.start := mem_group

theorem mem_starts {start : Time} :
    (∃ bucket ∈ db.timeseries locationId fromDt toDt metric unit, bucket.start = start) ↔
      ∃ ticket ∈ contributing db locationId fromDt toDt metric, bucketOf unit ticket = start := by
  rw [timeseries_eq, ← mem_bucketStarts]
  simp

theorem series_ascending : (db.timeseries locationId fromDt toDt metric unit).Pairwise
    fun first second => first.start < second.start := by
  rw [timeseries_eq, List.pairwise_map]
  exact bucketStarts_ascending

theorem series_once (member : ticket ∈ contributing db locationId fromDt toDt metric) :
    ∃! bucket, bucket ∈ db.timeseries locationId fromDt toDt metric unit ∧
      ticket ∈ ticketsOf db locationId fromDt toDt metric unit bucket := by
  obtain ⟨bucket, there, start⟩ := mem_starts.mpr ⟨ticket, member, rfl⟩
  refine ⟨bucket, ⟨there, mem_ticketsOf.mpr ⟨member, start.symm⟩⟩, fun other ⟨also, holds⟩ => ?_⟩
  have same : other.start = bucket.start := (mem_ticketsOf.mp holds).2.symm.trans start.symm
  rw [timeseries_eq] at there also
  obtain ⟨_, _, rfl⟩ := List.mem_map.mp there
  obtain ⟨_, _, rfl⟩ := List.mem_map.mp also
  cases same
  rfl

/-! ## Aligned buckets -/

theorem length_pos (unit : TimeUnit) : 0 < unit.length := by cases unit <;> decide

theorem slot_of_dvd (finer : unit.length ≤ width) {time : Time}
    (aligned : width ∣ dateTrunc unit time) : dateTrunc unit time = time / width * width := by
  have below : dateTrunc unit time ≤ time := Nat.div_mul_le_self _ _
  have above : time < dateTrunc unit time + width :=
    (Nat.lt_div_mul_add (length_pos unit)).trans_le (Nat.add_le_add_left finer _)
  obtain ⟨slot, same⟩ := aligned
  rw [same] at below above ⊢
  have quotient : time / width = slot :=
    Nat.div_eq_of_lt_le (by rwa [Nat.mul_comm]) (by rwa [Nat.succ_mul, Nat.mul_comm])
  rw [quotient, Nat.mul_comm]

theorem hasWidth_iff (finer : unit.length ≤ width) :
    HasWidth db locationId fromDt toDt metric unit width
      (db.timeseries locationId fromDt toDt metric unit) ↔
    ∀ ticket ∈ contributing db locationId fromDt toDt metric,
      bucketOf unit ticket = ticket.createdAt / width * width := by
  constructor
  · intro wide ticket member
    obtain ⟨bucket, there, start⟩ := mem_starts.mpr ⟨ticket, member, rfl⟩
    have aligned := wide.starts bucket there
    rw [start] at aligned
    exact slot_of_dvd finer aligned
  · intro slots
    have positive : 0 < width := (length_pos unit).trans_le finer
    constructor
    · intro a left b right
      have same : a.createdAt / width = b.createdAt / width ↔
          bucketOf unit a = bucketOf unit b := by
        rw [slots a left, slots b right, Nat.mul_left_inj positive.ne']
      rw [same]
      constructor
      · rintro ⟨bucket, _, first, second⟩
        exact (mem_ticketsOf.mp first).2.trans (mem_ticketsOf.mp second).2.symm
      · intro together
        obtain ⟨bucket, there, start⟩ := mem_starts.mpr ⟨a, left, rfl⟩
        exact ⟨bucket, there, mem_ticketsOf.mpr ⟨left, start.symm⟩,
          mem_ticketsOf.mpr ⟨right, together.symm.trans start.symm⟩⟩
    · intro bucket there
      obtain ⟨ticket, member, start⟩ := mem_starts.mp ⟨bucket, there, rfl⟩
      rw [← start, slots ticket member]
      exact Nat.dvd_mul_left _ _
    · exact series_ascending
    · exact fun ticket member => series_once member

/-! ## The accepted intervals -/

theorem slot_of_minute (time : Nat) :
    dateTrunc .minute time = time / minutes 15 * minutes 15 ↔ time % minutes 15 < minutes 1 := by
  have arithmetic : time / 60000000 * 60000000 = time / 900000000 * 900000000 ↔
      time % 900000000 < 60000000 := by omega
  exact arithmetic

theorem unit_of_width {interval : String} (accepted : (interval, width) ∈ widths) :
    ∃ unit, unitNamed (truncUnit interval) = some unit ∧
      (interval = "15 minutes" ∧ unit = .minute ∧ width = minutes 15 ∨
        interval ≠ "15 minutes" ∧ width = unit.length) := by
  simp only [widths, List.mem_cons, Prod.mk.injEq, List.not_mem_nil, or_false] at accepted
  rcases accepted with ⟨rfl, rfl⟩ | ⟨rfl, rfl⟩ | ⟨rfl, rfl⟩
  · exact ⟨.hour, by decide +kernel, .inr ⟨by decide, rfl⟩⟩
  · exact ⟨.minute, by decide +kernel, .inl ⟨rfl, rfl, rfl⟩⟩
  · exact ⟨.day, by decide +kernel, .inr ⟨by decide, rfl⟩⟩

theorem answers_getTimeseries {loc : Location} {actor : TokenPayload} {interval text : String}
    (found : db.locations.get? locationId = some loc)
    (tenant : actor.tenantId.isText loc.tenantId = true) (metric : text ∈ validMetrics)
    (valid : interval ∈ validIntervals) (named : unitNamed (truncUnit interval) = some unit) :
    Answers engine env i db (getTimeseries locationId fromDt toDt text interval actor) tick
      (.returned ⟨locationId, text, interval,
        db.timeseries locationId fromDt toDt (metricNamed text) unit⟩) := by
  simp only [getTimeseries, checkLocationTenant, requireOneOf, metric, valid, if_true,
    Program.bind_eq, Program.pure_eq, Program.bind_assoc, Program.ret_bind, timeseries, named]
  refine answers_query rfl ?_
  simp only [Query.eval, found, tenant, if_true, Program.ret_bind]
  exact answers_query rfl (answers_ret _)

/-- Over "15 minutes" the buckets have their width exactly for tickets that were created in the
first minute of a slot. -/
theorem buckets_have_width (i : ι) (env : Nat → Env) (tick : Nat) {interval text : String}
    {loc : Location} {actor : TokenPayload} (fromDt toDt : Time)
    (found : db.locations.get? locationId = some loc)
    (tenant : actor.tenantId.isText loc.tenantId = true) (metric : text ∈ validMetrics)
    (accepted : (interval, width) ∈ widths) :
    ∃ unit,
      Answers engine env i db (getTimeseries locationId fromDt toDt text interval actor) tick
        (.returned ⟨locationId, text, interval,
          db.timeseries locationId fromDt toDt (metricNamed text) unit⟩) ∧
      (HasWidth db locationId fromDt toDt (metricNamed text) unit width
          (db.timeseries locationId fromDt toDt (metricNamed text) unit) ↔
        (interval = "15 minutes" →
          ∀ ticket ∈ contributing db locationId fromDt toDt (metricNamed text),
            ticket.createdAt % minutes 15 < minutes 1)) := by
  have valid : interval ∈ validIntervals :=
    widths_intervals ▸ List.mem_map.mpr ⟨_, accepted, rfl⟩
  obtain ⟨unit, named, sorts⟩ := unit_of_width accepted
  refine ⟨unit, answers_getTimeseries found tenant metric valid named, ?_⟩
  rcases sorts with ⟨quarter, rfl, rfl⟩ | ⟨other, rfl⟩
  · rw [hasWidth_iff (by decide)]
    simp only [quarter, forall_const, bucketOf, slot_of_minute]
  · rw [hasWidth_iff le_rfl]
    exact iff_of_true (fun _ _ => rfl) fun quarter => (other quarter).elim

theorem office_hall (tickets : Table Ticket) :
    (office tickets).locations.get? 10 = some ⟨10, 1, "Hall", none, "UTC", true⟩ := rfl

def quarterHour : Database :=
  office ⟨[waitingTicket 2 1 5, { waitingTicket 3 2 5 with createdAt := minutes 5 }], by decide⟩

theorem buckets_have_width_quarterHour : ∃ unit,
    Answers engine steadyEnv 0 quarterHour
      (getTimeseries 10 0 (hours 1) "queue_length" "1 hour" clerk) 0
      (.returned ⟨10, "queue_length", "1 hour",
        quarterHour.timeseries 10 0 (hours 1) (metricNamed "queue_length") unit⟩) ∧
    (HasWidth quarterHour 10 0 (hours 1) (metricNamed "queue_length") unit (hours 1)
        (quarterHour.timeseries 10 0 (hours 1) (metricNamed "queue_length") unit) ↔
      ("1 hour" = "15 minutes" →
        ∀ ticket ∈ contributing quarterHour 10 0 (hours 1) (metricNamed "queue_length"),
          ticket.createdAt % minutes 15 < minutes 1)) :=
  buckets_have_width 0 steadyEnv 0 0 (hours 1) (office_hall _) (by decide) (by decide)
    (by decide)

/-- They come in two buckets of a series of "15 minutes", and the second one starts no quarter. -/
theorem quarter_hour_split :
    Answers engine steadyEnv 0 quarterHour
      (getTimeseries 10 0 (hours 1) "queue_length" "15 minutes" clerk) 0
      (.returned ⟨10, "queue_length", "15 minutes",
        quarterHour.timeseries 10 0 (hours 1) .queueLength .minute⟩) ∧
    ¬ HasWidth quarterHour 10 0 (hours 1) .queueLength .minute (minutes 15)
      (quarterHour.timeseries 10 0 (hours 1) .queueLength .minute) := by
  constructor
  · exact answers_getTimeseries (office_hall _) (by decide) (by decide) (by decide)
      (by decide +kernel)
  · rw [hasWidth_iff (by decide)]
    decide +kernel

end QueueFlow.Reading
