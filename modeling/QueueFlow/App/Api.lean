import QueueFlow.App.AdminService
import QueueFlow.App.Tasks
import QueueFlow.App.TicketService

/-!
# Requests

Every endpoint and task that writes, with the inputs that the framework hands to it.
-/

namespace QueueFlow.App
open QueueFlow.Data QueueFlow.Transactions

inductive Request where
  | createTicket (data : TicketCreate) (actor : TokenPayload) (idempotencyKey : Option String)
  | kioskCreateTicket (body : KioskTicketCreate) (idempotencyKey : Option String)
  | callNext (counterId : UUID) (body : CallNextBody) (actor : TokenPayload)
      (idempotencyKey : Option String)
  | startService (ticketId : UUID) (actor : TokenPayload) (idempotencyKey : Option String)
  | completeTicket (ticketId : UUID) (actor : TokenPayload) (idempotencyKey : Option String)
  | holdTicket (ticketId : UUID) (actor : TokenPayload)
  | cancelTicket (ticketId : UUID) (actor : TokenPayload)
  | noShow (ticketId : UUID) (actor : TokenPayload)
  | transferTicket (ticketId : UUID) (data : TicketTransfer) (actor : TokenPayload)
  | autoNoShowCalledTickets
  | cleanupIdempotencyKeys
  | createTenant (data : TenantCreate) (actor : TokenPayload)
  | updateTenant (tenantId : UUID) (data : TenantUpdate) (actor : TokenPayload)
  | createLocation (data : LocationCreate) (actor : TokenPayload)
  | updateLocation (locationId : UUID) (data : LocationUpdate) (actor : TokenPayload)
  | createService (data : ServiceCreate) (actor : TokenPayload)
  | updateService (serviceId : UUID) (data : ServiceUpdate) (actor : TokenPayload)
  | createCounter (data : CounterCreate) (actor : TokenPayload)
  | updateCounter (counterId : UUID) (data : CounterUpdate) (actor : TokenPayload)
  | createChannel (data : ChannelCreate) (actor : TokenPayload)
  | createUser (data : UserCreate) (actor : TokenPayload)
  | assignRole (userId : UUID) (data : RoleAssignment) (actor : TokenPayload)

inductive Response where
  | ticket (read : TicketRead)
  | called (read : Option TicketRead)
  | counted (count : Nat)
  | record (row : Row)
  | noContent
  deriving DecidableEq

/-- A ticket endpoint answers with the ticket its service returned, no relationship loaded. -/
def readTicket (ticket : Ticket) : Response := .ticket (.modelValidate ticket)

def program (hexdigest : PyDict → String) : Request → Handler Response
  | .createTicket data actor key => readTicket <$> createTicket hexdigest data actor key
  | .kioskCreateTicket body key => readTicket <$> kioskCreateTicket hexdigest body key
  | .callNext counterId body actor key => .called <$> callNext hexdigest counterId body actor key
  | .startService ticketId actor key => readTicket <$> startService hexdigest ticketId actor key
  | .completeTicket ticketId actor key => readTicket <$> completeTicket hexdigest ticketId actor key
  | .holdTicket ticketId actor => readTicket <$> holdTicket ticketId actor
  | .cancelTicket ticketId actor => readTicket <$> cancelTicket ticketId actor
  | .noShow ticketId actor => readTicket <$> noShow ticketId actor
  | .transferTicket ticketId data actor => readTicket <$> transferTicket ticketId data actor
  | .autoNoShowCalledTickets => .counted <$> autoNoShowCalledTickets
  | .cleanupIdempotencyKeys => .counted <$> cleanupIdempotencyKeys
  | .createTenant data actor => .record <$> createTenant data actor
  | .updateTenant tenantId data actor => .record <$> updateTenant tenantId data actor
  | .createLocation data actor => .record <$> createLocation data actor
  | .updateLocation locationId data actor => .record <$> updateLocation locationId data actor
  | .createService data actor => .record <$> createService data actor
  | .updateService serviceId data actor => .record <$> updateService serviceId data actor
  | .createCounter data actor => .record <$> createCounter data actor
  | .updateCounter counterId data actor => .record <$> updateCounter counterId data actor
  | .createChannel data actor => .record <$> createChannel data actor
  | .createUser data actor => .record <$> createUser data actor
  | .assignRole userId data actor => (fun _ => .noContent) <$> assignRole userId data actor

end QueueFlow.App
