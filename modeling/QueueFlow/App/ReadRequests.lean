import QueueFlow.App.AiService
import QueueFlow.App.AnalyticsService
import QueueFlow.App.ReadApi

/-!
# Read requests

The endpoints with a token that only read, with the inputs that the framework hands to them.
-/

namespace QueueFlow.App
open QueueFlow.Data QueueFlow.Transactions

/-- `Query(default=50, le=200)`. -/
structure PageLimit where
  value : Int
  le : value ≤ 200

inductive ReadRequest where
  | listTickets (locationId : UUID) (serviceId : Option UUID) (ticketStatus : Option String)
      (limit : PageLimit) (offset : Int)
  | getTicket (ticketId : UUID)
  | predictWait (locationId : UUID)
  | getInsights (locationId : UUID) (fromDt toDt : Time)
  | suggestService (locationId : UUID) (text : String)
  | getSummary (locationId : UUID) (fromDt toDt : Time)
  | getTimeseries (locationId : UUID) (metric interval : String) (fromDt toDt : Time)

inductive ReadResponse where
  | tickets (reads : List TicketRead)
  | ticket (read : TicketWithEvents)
  | wait (prediction : WaitPrediction)
  | insights (insights : Insights)
  | suggestion (suggestion : SuggestServiceResponse)
  | summary (summary : KpiSummary)
  | timeseries (series : TimeSeriesResponse)

structure Assistant where
  lower : String → String
  findWords : String → List String
  complete : String → List String → Option String

/-- Only three of the handlers are told who asks. -/
def respond (assistant : Assistant) (actor : TokenPayload) : ReadRequest → Handler ReadResponse
  | .listTickets locationId serviceId ticketStatus limit offset =>
      .tickets <$> listTickets locationId serviceId ticketStatus limit.value offset
  | .getTicket ticketId => .ticket <$> getTicket ticketId
  | .predictWait locationId => .wait <$> predictWaitTime locationId
  | .getInsights locationId fromDt toDt => .insights <$> getInsights locationId fromDt toDt
  | .suggestService locationId text => do
      let tenantId ← parse actor.tenantId
      .suggestion <$> suggestService assistant.lower assistant.findWords assistant.complete tenantId
        locationId text
  | .getSummary locationId fromDt toDt => .summary <$> getSummary locationId fromDt toDt actor
  | .getTimeseries locationId metric interval fromDt toDt =>
      .timeseries <$> getTimeseries locationId fromDt toDt metric interval actor

end QueueFlow.App
