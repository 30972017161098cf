import QueueFlow.App.TicketRepo
import Mathlib.Data.Rat.Floor

/-!
# Signage

`services/signage_service.py` and `signage_snapshot` of `repositories/ticket_repo.py`, for the
displays in a hall.
-/

namespace QueueFlow.App
open QueueFlow.Data QueueFlow.Transactions

structure SignageTicketEntry where
  id : UUID
  displayNumber : String
  status : TicketStatus
  counterName : Option String
  serviceName : Option String
  calledAt : Option Time
  deriving DecidableEq

structure SignageSnapshot where
  locationId : UUID
  locationName : String
  nowServing : List SignageTicketEntry
  recentlyCalled : List SignageTicketEntry
  waitingCount : Nat
  avgWaitMinutes : Option Rat
  snapshotAt : Time
  deriving DecidableEq

/-- `round(value, 1)`, which rounds a tie to the even digit. -/
def roundTenths (value : Rat) : Rat :=
  let low := (value * 10).floor
  let rest := value * 10 - low
  let tenths := if rest < 1 / 2 ∨ (rest = 1 / 2 ∧ low % 2 = 0) then low else low + 1
  (tenths : Rat) / 10

def toEntry (services : List Service) (counters : List Counter) (ticket : Ticket) :
    SignageTicketEntry :=
  let service := ticket.serviceId.bind fun id => services.find? fun service => service.id = id
  let counter := ticket.assignedCounterId.bind fun id =>
    counters.find? fun counter => counter.id = id
  { id := ticket.id
    displayNumber := displayNumber ticket service
    status := ticket.status
    counterName := counter.map Counter.name
    serviceName := service.map Service.name
    calledAt := ticket.calledAt }

/-- One of the two lists. Each `selectinload` sends a SELECT of its own after the tickets' one. -/
def shownTickets (locationId : UUID) (status : TicketStatus) (limit : Nat) :
    Handler (List SignageTicketEntry) := do
  let tickets ← query (.latestWithStatus locationId status limit)
  let services ← query (.services (tickets.filterMap Ticket.serviceId))
  let counters ← query (.counters (tickets.filterMap Ticket.assignedCounterId))
  return tickets.map (toEntry services counters)

/-- The dictionary of `signage_snapshot`, each ticket as the entry that a display shows. -/
structure SignageData where
  inService : List SignageTicketEntry
  recentlyCalled : List SignageTicketEntry
  waitingCount : Nat
  avgWaitSeconds : Option Rat

def signageSnapshot (locationId : UUID) : Handler SignageData := do
  let twoHoursAgo ← (fun env : Env => env.now - hours 2) <$> Program.observe
  let inService ← shownTickets locationId .inService 5
  let recentlyCalled ← shownTickets locationId .called 10
  let waitingCount ← query (.waitingCount locationId)
  let avgWait ← query (.recentAverageWait locationId twoHoursAgo)
  return ⟨inService, recentlyCalled, waitingCount, avgWait⟩

def getSnapshot (locationId : UUID) (locationName : String) : Handler SignageSnapshot := do
  let data ← signageSnapshot locationId
  let env ← Program.observe
  return {
    locationId := locationId
    locationName := locationName
    nowServing := data.inService
    recentlyCalled := data.recentlyCalled
    waitingCount := data.waitingCount
    -- an average of zero is falsy, too
    avgWaitMinutes :=
      (data.avgWaitSeconds.filter (· ≠ 0)).map fun seconds => roundTenths (seconds / 60)
    snapshotAt := env.now }

end QueueFlow.App
