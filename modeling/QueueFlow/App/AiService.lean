import QueueFlow.App.AnalyticsRepo
import QueueFlow.App.SignageService
import QueueFlow.Tables.FirstBest
import Mathlib.Data.List.Infix
import Mathlib.Data.Rat.Floor

/-!
# Suggestions, predictions and insights

`services/ai_service.py` with exact numbers. `lower` stands for `str.lower`, `findWords` for
`re.findall(r"\w+", text)`, and `complete` for the chat model: its stripped reply to a request and
the names of the services, or `none` if there is no key or the call fails.
-/

namespace QueueFlow.App
open QueueFlow.Data QueueFlow.Tables QueueFlow.Transactions

variable (lower : String → String) (findWords : String → List String)

structure ServiceOption where
  id : UUID
  name : String
  category : Option String
  deriving DecidableEq

structure SuggestServiceResponse where
  suggestedServiceId : Option UUID
  suggestedServiceName : Option String
  confidence : Rat
  deriving DecidableEq

/-- `kw in q`. -/
def occursIn (keyword text : String) : Bool := keyword.toList <:+: text.toList

def keywordsOf (service : ServiceOption) : List String :=
  let name := lower service.name
  name :: findWords name ++ [lower (service.category.getD "")]

/-- The dictionary `keywords`, the latest assignment first. -/
def keywords (services : List ServiceOption) : List (String × List String) :=
  services.foldl
    (fun dict service => (lower service.name, keywordsOf lower findWords service) :: dict) []

def keywordScore (text : String) (keywords : List String) : Nat :=
  ((keywords.filter (· ≠ "")).map fun keyword =>
    if occursIn keyword text then 2 else if occursIn keyword text then 1 else 0).sum

/-- `keywords.get(s["name"].lower(), [])`, scored. -/
def serviceScore (services : List ServiceOption) (text : String) (service : ServiceOption) : Nat :=
  keywordScore text (((keywords lower findWords services).lookup (lower service.name)).getD [])

/-- `none` stands for the IndexError over an empty list. -/
def heuristicSuggestService (text : String) (services : List ServiceOption) :
    Option SuggestServiceResponse :=
  let score := serviceScore lower findWords services (lower text)
  match services.foldl (improve score) (none, 0) with
  | (some best, bestScore) =>
      some ⟨some best.id, some best.name, min (85 / 100) (5 / 10 + bestScore * (1 / 10))⟩
  | (none, _) => services.head?.map fun first => ⟨some first.id, some first.name, 3 / 10⟩

def getServices (tenantId locationId : UUID) : Handler (List ServiceOption) := do
  let rows ← query (.servicesFor tenantId locationId)
  return rows.map fun row => ⟨row.id, row.name, row.category⟩

variable (complete : String → List String → Option String)

def aiSuggestService (text : String) (services : List ServiceOption) :
    Option SuggestServiceResponse := do
  let content ← complete text (services.map ServiceOption.name)
  let named ← services.find? fun service => occursIn (lower service.name) (lower content)
  return ⟨some named.id, some named.name, 9 / 10⟩

def suggestService (tenantId locationId : UUID) (text : String) :
    Handler SuggestServiceResponse := do
  let services ← getServices tenantId locationId
  if services = [] then return ⟨none, none, 0⟩
  else
    match aiSuggestService lower complete text services with
    | some suggestion => return suggestion
    | none =>
        match heuristicSuggestService lower findWords text services with
        | some suggestion => return suggestion
        | none => .raise .indexError

/-! ## Predictions -/

structure WaitPrediction where
  predictedWaitMinutes : Rat
  waitingCount : Nat
  confidence : Rat
  deriving DecidableEq

def predictWaitTime (locationId : UUID) : Handler WaitPrediction := do
  let data ← signageSnapshot locationId
  if ∃ avgWait ∈ data.avgWaitSeconds, 0 < avgWait then
    -- `avg_wait` is a Decimal, and Python does not multiply it by the float 0.4
    .raise .typeError
  else
    let estPerTicketMin : Rat := 5
    return {
      predictedWaitMinutes := roundTenths (max 0 (data.waitingCount * estPerTicketMin))
      waitingCount := data.waitingCount
      confidence := if (nonZero data.avgWaitSeconds).isSome then 7 / 10 else 5 / 10 }

/-! ## Insights -/

structure Insights where
  insights : List String
  kpi : KpiData
  summary : String
  deriving DecidableEq

/-- `f"{value:.{digits}f}"`, which rounds a tie to the even digit. -/
def fixed (digits : Nat) (value : Rat) : String :=
  let low := (value * 10 ^ digits).floor
  let rest := value * 10 ^ digits - low
  let scaled := if rest < 1 / 2 ∨ (rest = 1 / 2 ∧ low % 2 = 0) then low else low + 1
  let sign := if value < 0 then "-" else ""
  let whole := toString (scaled.natAbs / 10 ^ digits)
  let decimals := toString (scaled.natAbs % 10 ^ digits)
  if digits = 0 then sign ++ whole
  else
    let zeros := String.ofList (List.replicate (digits - decimals.length) '0')
    sign ++ whole ++ "." ++ zeros ++ decimals

def insightsOf (kpi : KpiData) : List String :=
  let completionRate : Rat := kpi.completedTickets / kpi.totalTickets * 100
  let counts := s!"({kpi.completedTickets}/{kpi.totalTickets} tickets)"
  let insights :=
    (if 0 < kpi.totalTickets then
      [s!"Completion rate: {fixed 0 completionRate}% {counts}"] else []) ++
    (if 0 < kpi.throughputPerHour then
      [s!"Throughput: ~{fixed 0 kpi.throughputPerHour} customers/hour"] else []) ++
    (kpi.avgWaitSeconds.map fun wait => s!"Average wait: {fixed 1 (wait / 60)} minutes").toList ++
    (kpi.p95WaitSeconds.map fun wait =>
      s!"95th percentile wait: {fixed 1 (wait / 60)} minutes").toList ++
    (if 10 < kpi.throughputPerHour ∧ ∃ wait ∈ kpi.avgWaitSeconds, 600 < wait then
      ["Consider adding a counter during peak hours"] else [])
  if insights = [] then ["Not enough data for insights yet"] else insights

def getInsights (locationId : UUID) (fromDt toDt : Time) : Handler Insights := do
  let kpi ← kpiSummary locationId fromDt toDt
  let insights := insightsOf kpi
  return ⟨insights, kpi, " | ".intercalate (insights.take 3)⟩

end QueueFlow.App
