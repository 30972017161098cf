import QueueFlow.App.AnalyticsRepo

/-!
# The analytics service

`services/analytics_service.py`. Each method checks the location's tenant before its arguments.
-/

namespace QueueFlow.App
open QueueFlow.Data QueueFlow.Transactions

structure KpiSummary where
  locationId : UUID
  fromDt : Time
  toDt : Time
  data : KpiData
  deriving DecidableEq

structure TimeSeriesResponse where
  locationId : UUID
  metric : String
  interval : String
  data : List Bucket

def validMetrics : List String := ["wait_time", "service_time", "queue_length", "throughput"]

def validIntervals : List String := ["1 hour", "15 minutes", "1 day"]

def checkLocationTenant (locationId : UUID) (actor : TokenPayload) : Handler Unit := do
  match ← query (.location locationId) with
  | none => .raise (.http 404 "Location not found")
  | some loc =>
      if actor.tenantId.isText loc.tenantId then return ()
      else .raise (.http 403 "Tenant mismatch")

def getSummary (locationId : UUID) (fromDt toDt : Time) (actor : TokenPayload) :
    Handler KpiSummary := do
  checkLocationTenant locationId actor
  if toDt ≤ fromDt then .raise (.http 422 "from must be before to")
  else return ⟨locationId, fromDt, toDt, ← kpiSummary locationId fromDt toDt⟩

/-- The source formats a set, whose order is arbitrary; here it is that of `options`. -/
def requireOneOf (parameter text : String) (options : List String) : Handler Unit :=
  if text ∈ options then return ()
  else
    let listed := ", ".intercalate (options.map fun option => s!"'{option}'")
    .raise (.http 422 (parameter ++ " must be one of \x7b" ++ listed ++ "\x7d"))

def getTimeseries (locationId : UUID) (fromDt toDt : Time) (metric interval : String)
    (actor : TokenPayload) : Handler TimeSeriesResponse := do
  checkLocationTenant locationId actor
  requireOneOf "metric" metric validMetrics
  requireOneOf "interval" interval validIntervals
  return ⟨locationId, metric, interval, ← timeseries locationId fromDt toDt metric interval⟩

end QueueFlow.App
