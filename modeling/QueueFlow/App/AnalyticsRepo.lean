import QueueFlow.App.TicketRepo

/-!
# Analytics queries

`repositories/analytics_repo.py` with exact numbers: the source answers with floats.
-/

namespace QueueFlow.App
open QueueFlow.Data QueueFlow.Transactions

structure KpiData where
  totalTickets : Nat
  completedTickets : Nat
  canceledTickets : Nat
  noShowTickets : Nat
  avgWaitSeconds : Option Rat
  p95WaitSeconds : Option Rat
  avgServiceSeconds : Option Rat
  throughputPerHour : Rat
  deriving DecidableEq

/-- `float(value) if value else None`. -/
def nonZero (value : Option Rat) : Option Rat := value.filter (· ≠ 0)

/-- `round(value, 2)`, which rounds a tie to the even digit. -/
def roundCents (value : Rat) : Rat :=
  let low := (value * 100).floor
  let rest := value * 100 - low
  let cents := if rest < 1 / 2 ∨ (rest = 1 / 2 ∧ low % 2 = 0) then low else low + 1
  cents / 100

def kpiSummary (locationId : UUID) (fromDt toDt : Time) : Handler KpiData := do
  let counts ← query (.kpiCounts locationId fromDt toDt)
  let wait ← query (.kpiWait locationId fromDt toDt)
  let service ← query (.kpiService locationId fromDt toDt)
  let durationHours := max (Database.secondsBetween fromDt toDt / 3600) 1
  return {
    totalTickets := counts.total
    completedTickets := counts.completed
    canceledTickets := counts.canceled
    noShowTickets := counts.noShow
    avgWaitSeconds := nonZero wait.1
    p95WaitSeconds := nonZero wait.2
    avgServiceSeconds := nonZero service
    throughputPerHour := roundCents (counts.completed / durationHours) }

/-! ## Time series -/

/-- `str.isspace` for one character. -/
def isSpace (char : Char) : Bool :=
  let code := char.toNat
  (9 ≤ code && code ≤ 13) || (28 ≤ code && code ≤ 32) || code ∈ [0x85, 0xa0, 0x1680] ||
    (0x2000 ≤ code && code ≤ 0x200a) || code ∈ [0x2028, 0x2029, 0x202f, 0x205f, 0x3000]

/-- `text.split()`. -/
def splitWords (text : String) : List String :=
  ((text.toList.splitOnP isSpace).filter (· ≠ [])).map String.ofList

/-- The first argument of `date_trunc`: the second word, if there is one. -/
def truncUnit (interval : String) : String :=
  match splitWords interval with
  | _ :: unit :: _ => unit
  | _ => interval

/-- The units that Postgres knows by these names; no caller passes another. -/
def unitNamed (text : String) : Option TimeUnit :=
  if text ∈ ["hour", "hours"] then some .hour
  else if text ∈ ["minute", "minutes"] then some .minute
  else if text ∈ ["day", "days"] then some .day
  else none

def metricNamed (text : String) : Metric :=
  if text = "wait_time" then .waitTime
  else if text = "service_time" then .serviceTime
  else if text = "throughput" then .throughput
  else .queueLength

def timeseries (locationId : UUID) (fromDt toDt : Time) (metric interval : String) :
    Handler (List Bucket) :=
  match unitNamed (truncUnit interval) with
  | none => .raise (.database (.unknownUnit (truncUnit interval)))
  | some unit => query (.timeseries locationId fromDt toDt (metricNamed metric) unit)

end QueueFlow.App
