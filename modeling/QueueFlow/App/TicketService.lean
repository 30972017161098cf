import QueueFlow.App.TicketRepo

/-!
# Ticket operations

`services/ticket_service.py`, `api/v1/kiosk.py` and the call-next endpoint of
`api/v1/counters.py`.
-/

namespace QueueFlow.App
open QueueFlow.Data QueueFlow.Transactions

variable (hexdigest : PyDict → String)

def checkTenant (tenantId : UUID) (actor : TokenPayload) : Handler Unit :=
  if actor.tenantId.isText tenantId then return ()
  else .raise (.http 403 "Tenant mismatch")

/-- A missing client and a failing publish both go unnoticed. -/
def publishSignage (locationId : UUID) : Handler Unit := do
  let env ← Program.observe
  if env.redis then Program.publish locationId

def saveKey (tenantId : Handler UUID) (idempotencyKey : Option String) (body : PyDict)
    (ticket : Ticket) : Handler Unit :=
  match given idempotencyKey with
  | none => return ()
  | some key => do
      saveIdempotencyKey hexdigest (← tenantId) key body ticket.id
      Program.commit

/-! ## Creation -/

/-- The ticket of an earlier request with this key; the request hash is not looked at. -/
def createdBefore (tenantId : UUID) (key : String) : Handler (Option Ticket) := do
  match ← getIdempotencyKey tenantId key with
  | none => return none
  | some existing =>
      match existing.resourceId with
      | none => return none
      | some resourceId => query (.ticket resourceId)

/-- The INSERTs of a new ticket and its CREATED event, the commit and the refresh. -/
def storeTicket (new : NewTicket) (actorUserId : Handler (Option UUID)) : Handler Ticket := do
  let ticket ← command (.insertTicket new)
  let actorUserId ← actorUserId
  command (.insertEvent
    { ticketId := ticket.id
      eventType := .created
      actorUserId := actorUserId })
  Program.commit
  refresh ticket

def createNew (data : TicketCreate) (actor : TokenPayload) (idempotencyKey : Option String) :
    Handler Ticket := do
  let number ← query (.nextNumber data.locationId)
  let tenantId ← parse actor.tenantId
  let ticket ← storeTicket
    { tenantId := tenantId
      locationId := data.locationId
      serviceId := data.serviceId
      channelId := data.channelId
      number := number
      status := .waiting
      priority := data.priority
      notes := data.notes }
    (some <$> parse actor.sub)
  saveKey hexdigest (parse actor.tenantId) idempotencyKey data.body ticket
  publishSignage ticket.locationId
  return ticket

def createTicket (data : TicketCreate) (actor : TokenPayload) (idempotencyKey : Option String) :
    Handler Ticket := do
  requireRole actor writeRoles
  match given idempotencyKey with
  | none => createNew hexdigest data actor idempotencyKey
  | some key =>
      match ← createdBefore (← parse actor.tenantId) key with
      | some ticket => return ticket
      | none => createNew hexdigest data actor idempotencyKey

def kioskCreateNew (body : KioskTicketCreate) (tenantId : UUID) (idempotencyKey : Option String) :
    Handler Ticket := do
  let number ← query (.nextNumber body.locationId)
  let ticket ← storeTicket
    { tenantId := tenantId
      locationId := body.locationId
      serviceId := body.serviceId
      channelId := none
      number := number
      status := .waiting
      priority := 5
      notes := none }
    (return none)
  saveKey hexdigest (return tenantId) idempotencyKey body.body ticket
  publishSignage body.locationId
  return ticket

def kioskCreateTicket (body : KioskTicketCreate) (idempotencyKey : Option String) :
    Handler Ticket := do
  match ← query (.location body.locationId) with
  | none => .raise (.http 404 "Location not found")
  | some loc =>
      match given idempotencyKey with
      | none => kioskCreateNew hexdigest body loc.tenantId idempotencyKey
      | some key =>
          match ← createdBefore loc.tenantId key with
          | some ticket => return ticket
          | none => kioskCreateNew hexdigest body loc.tenantId idempotencyKey

/-! ## Changes of status -/

def asConflict : Failure → Failure
  | .invalidTransition fromStatus toStatus =>
      .http 409 s!"Transition '{fromStatus.text}' → '{toStatus.text}' is not allowed"
  | failure => failure

/-- Read the ticket without a lock, check its tenant, and transition it. -/
def changeStatus (ticketId : UUID) (actor : TokenPayload) (target : TicketStatus)
    (payload : Option Payload := none) : Handler Ticket := do
  let ticket ← getOr404 ticketId
  checkTenant ticket.tenantId actor
  let userId ← parse actor.sub
  (transitionStatus ticket target (some userId) payload).mapRaise asConflict

/-- The body that `hold_ticket`, `cancel_ticket` and `no_show` share. -/
def simpleChange (ticketId : UUID) (actor : TokenPayload) (target : TicketStatus) :
    Handler Ticket := do
  requireRole actor writeRoles
  let ticket ← changeStatus ticketId actor target
  Program.commit
  publishSignage ticket.locationId
  return ticket

def holdTicket (ticketId : UUID) (actor : TokenPayload) : Handler Ticket :=
  simpleChange ticketId actor .hold

def cancelTicket (ticketId : UUID) (actor : TokenPayload) : Handler Ticket :=
  simpleChange ticketId actor .canceled

def noShow (ticketId : UUID) (actor : TokenPayload) : Handler Ticket :=
  simpleChange ticketId actor .noShow

/-- The key check of `start_service` and `complete_ticket`. -/
def changedBefore (tenantId : UUID) (key : String) (ticketId : UUID) :
    Handler (Option Ticket) := do
  match ← getIdempotencyKey tenantId key with
  | none => return none
  | some existing =>
      if existing.requestHash ≠ hashBody hexdigest (ticketBody ticketId) then
        .raise (.http 409 "Idempotency key reused with different request")
      else match existing.resourceId with
        | none => return none
        | some resourceId => query (.ticket resourceId)

/-- A keyed change of status: `episode` opens or closes the interaction in its transaction. -/
def keyedChangeNew (ticketId : UUID) (actor : TokenPayload) (idempotencyKey : Option String)
    (target : TicketStatus) (episode : Ticket → Handler Unit) : Handler Ticket := do
  let ticket ← changeStatus ticketId actor target
  episode ticket
  Program.commit
  let ticket ← refresh ticket
  saveKey hexdigest (parse actor.tenantId) idempotencyKey (ticketBody ticketId) ticket
  publishSignage ticket.locationId
  return ticket

def keyedChange (ticketId : UUID) (actor : TokenPayload) (idempotencyKey : Option String)
    (target : TicketStatus) (episode : Ticket → Handler Unit) : Handler Ticket := do
  requireRole actor writeRoles
  match given idempotencyKey with
  | none => keyedChangeNew hexdigest ticketId actor idempotencyKey target episode
  | some key =>
      match ← changedBefore hexdigest (← parse actor.tenantId) key ticketId with
      | some ticket => return ticket
      | none => keyedChangeNew hexdigest ticketId actor idempotencyKey target episode

def openInteraction (ticket : Ticket) : Handler Unit := do
  let env ← Program.observe
  command (.insertInteraction ticket.id ticket.assignedCounterId env.now)

def closeInteraction (ticket : Ticket) : Handler Unit := do
  let env ← Program.observe
  command (.closeInteractions ticket.id env.now "completed")

def startService (ticketId : UUID) (actor : TokenPayload) (idempotencyKey : Option String) :
    Handler Ticket :=
  keyedChange hexdigest ticketId actor idempotencyKey .inService openInteraction

def completeTicket (ticketId : UUID) (actor : TokenPayload) (idempotencyKey : Option String) :
    Handler Ticket :=
  keyedChange hexdigest ticketId actor idempotencyKey .completed closeInteraction

def transferTicket (ticketId : UUID) (data : TicketTransfer) (actor : TokenPayload) :
    Handler Ticket := do
  requireRole actor writeRoles
  let ticket ← changeStatus ticketId actor .transferred
    (some (.transfer data.targetServiceId data.targetLocationId))
  -- back to the queue, at the new service and location
  let ticket ← command (.updateTicket ticket.id
    { status := .waiting
      serviceId := some data.targetServiceId
      locationId := some (data.targetLocationId.getD ticket.locationId)
      assignedCounterId := some none })
  let userId ← parse actor.sub
  let env ← Program.observe
  command (.insertEvent
    { ticketId := ticket.id
      eventType := .waiting
      actorUserId := some userId
      occurredAt := some env.now })
  Program.commit
  publishSignage ticket.locationId
  return ticket

/-! ## Call next -/

/-- The key check of call-next; `some` is the answer to a replay. -/
def calledBefore (tenantId : UUID) (key : String) (body : CallNextBody) :
    Handler (Option (Ticket × Option Service)) := do
  match ← getIdempotencyKey tenantId key with
  | none => return none
  | some existing =>
      match existing.resourceId with
      | none => return none
      | some resourceId =>
          if existing.requestHash = hashBody hexdigest body.body then ticketWithService resourceId
          else .raise (.http 409 "Idempotency key reused with different request body")

def callNextNew (locationId counterId tenantId : UUID) (body : CallNextBody)
    (actor : TokenPayload) (idempotencyKey : Option String) : Handler (Option TicketRead) := do
  let userId ← parse actor.sub
  let called ← callNextTicket locationId counterId body.serviceId (some userId)
  Program.commit
  match called with
  | none => return none
  | some (ticket, service) =>
      saveKey hexdigest (return tenantId) idempotencyKey body.body ticket
      publishSignage ticket.locationId
      return some (.modelValidate ticket service)

def requireStaff (actor : TokenPayload) : Handler Unit :=
  if actor.hasRole [.admin, .manager, .staff] then return ()
  else .raise (.http 403 "Requires staff role or above")

def callNext (counterId : UUID) (body : CallNextBody) (actor : TokenPayload)
    (idempotencyKey : Option String) : Handler (Option TicketRead) := do
  requireStaff actor
  match ← query (.counter counterId) with
  | none => .raise (.http 404 "Counter not found")
  | some counter =>
      match ← query (.location counter.locationId) with
      | none => .raise .attributeError
      | some location =>
          checkTenant location.tenantId actor
          let tenantId ← parse actor.tenantId
          match given idempotencyKey with
          | none =>
              callNextNew hexdigest counter.locationId counterId tenantId body actor idempotencyKey
          | some key =>
              match ← calledBefore hexdigest tenantId key body with
              | some (ticket, service) => return some (.modelValidate ticket service)
              | none =>
              callNextNew hexdigest counter.locationId counterId tenantId body actor idempotencyKey

end QueueFlow.App
