import QueueFlow.App.TicketRepo

/-!
# Reading tickets

The two GET endpoints of `api/v1/tickets.py`. Neither loads the service of a ticket.
-/

namespace QueueFlow.App
open QueueFlow.Data QueueFlow.Transactions

structure TicketEventRead where
  id : UUID
  ticketId : UUID
  eventType : EventType
  actorUserId : Option UUID
  payload : Option Payload
  occurredAt : Time
  deriving DecidableEq

structure TicketWithEvents where
  read : TicketRead
  events : List TicketEventRead
  deriving DecidableEq

def TicketEventRead.modelValidate (event : TicketEvent) : TicketEventRead :=
  ⟨event.id, event.ticketId, event.eventType, event.actorUserId, event.payload, event.occurredAt⟩

/-- An empty `status` filters nothing. -/
def listTickets (locationId : UUID) (serviceId : Option UUID) (ticketStatus : Option String)
    (limit offset : Int) : Handler (List TicketRead) := do
  let tickets ← query
    (.listByLocation locationId (ticketStatus.filter (· ≠ "")) serviceId limit offset)
  return tickets.map TicketRead.modelValidate

def getTicket (ticketId : UUID) : Handler TicketWithEvents := do
  match ← query (.ticket ticketId) with
  | none => .raise (.http 404 "Ticket not found")
  | some ticket =>
      let events ← query (.events ticketId)
      return ⟨.modelValidate ticket, events.map .modelValidate⟩

end QueueFlow.App
