import QueueFlow.Data.Statements
import QueueFlow.Transactions.Program

/-!
# Repositories

`repositories/base_repo.py`, `repositories/ticket_repo.py` and the pure helpers that handlers share.
-/

namespace QueueFlow.App
open QueueFlow.Data QueueFlow.Transactions

abbrev Message := UUID

abbrev Handler (α : Type) := Program Stmt Stmt.Res Failure Message Env α

def query (query : Query) : Handler query.Res := Program.perform (Stmt.read query)
def command (command : Command) : Handler command.Res := Program.perform (Stmt.write command)

/-- `UUID(text)`. -/
def parse (text : UuidText) : Handler UUID :=
  match text.parse with
  | some id => return id
  | none => .raise .valueError

/-! ## Roles -/

def writeRoles : List RoleName := [.admin, .manager, .staff]

/-- The source formats a set of roles, whose order is arbitrary; here it is that of `roles`. -/
def requireRole (actor : TokenPayload) (roles : List RoleName) : Handler Unit :=
  if actor.hasRole roles then return ()
  else
    let names := ", ".intercalate (roles.map fun role => s!"'{role.text}'")
    .raise (.http 403 s!"Requires one of roles: [{names}]")

/-! ## Answers -/

/-- `f"{number:04d}"`. -/
def zeroPadded (number : Nat) : String :=
  let digits := toString number
  String.ofList (List.replicate (4 - digits.length) '0') ++ digits

/-- `service` is the related row if the handler has loaded it. -/
def displayNumber (ticket : Ticket) (service : Option Service) : String :=
  let prefixText := match service with
    | some service => if service.prefixText = "" then "T" else service.prefixText
    | none => "T"
  s!"{prefixText}-{zeroPadded ticket.number}"

structure TicketRead where
  ticket : Ticket
  displayNumber : String
  deriving DecidableEq

def TicketRead.modelValidate (ticket : Ticket) (service : Option Service := none) : TicketRead :=
  ⟨ticket, App.displayNumber ticket service⟩

/-! ## Tickets -/

def getOr404 (ticketId : UUID) : Handler Ticket := do
  match ← query (.ticket ticketId) with
  | some ticket => return ticket
  | none => .raise (.http 404 s!"Ticket {ticketId} not found")

def refresh (ticket : Ticket) : Handler Ticket := do
  match ← query (.ticket ticket.id) with
  | some ticket => return ticket
  | none => .raise .couldNotRefresh

def transition (current target : TicketStatus) : Handler Unit :=
  if target ∈ validTransitions current then return ()
  else .raise (.invalidTransition current target)

def transitionUpdate (target : TicketStatus) (now : Time) : TicketUpdate where
  status := target
  serviceStartedAt := if target = .inService then some now else none
  completedAt := if target ∈ TicketStatus.terminal then some now else none

def transitionStatus (ticket : Ticket) (target : TicketStatus) (actorUserId : Option UUID)
    (payload : Option Payload := none) : Handler Ticket := do
  transition ticket.status target
  let env ← Program.observe
  let updated ← command (.updateTicket ticket.id (transitionUpdate target env.now))
  command (.insertEvent
    { ticketId := ticket.id
      eventType := eventTypeFor ticket.status target
      fromStatus := some ticket.status
      actorUserId := actorUserId
      payload := payload
      occurredAt := some env.now })
  return updated

/-- The rows of the snapshot in order, until one of them can be locked and still waits. -/
def firstCalled (locationId : UUID) (serviceId : Option UUID) (counterId : UUID) :
    List Ticket → Handler (Option Ticket)
  | [] => return none
  | ticket :: rest => do
      match ← Program.perform (Stmt.callTicket ticket.id locationId serviceId counterId) with
      | some called => return some called
      | none => firstCalled locationId serviceId counterId rest

/-- The statement `_CALL_NEXT_CTE`: its answer is the row that the CTE `updated` returns. -/
def callNextCte (locationId counterId : UUID) (serviceId actorUserId : Option UUID) :
    Handler (Option Ticket) := do
  let candidates ← query (.waitingTickets locationId serviceId)
  match ← firstCalled locationId serviceId counterId candidates with
  | none => return none
  | some called =>
      command (.insertEvent
        { ticketId := called.id
          eventType := .called
          fromStatus := some .waiting
          actorUserId := actorUserId
          payload := some (.counter counterId) })
      return some called

/-- A ticket with its service, as `selectinload(Ticket.service)` fetches them. -/
def ticketWithService (ticketId : UUID) : Handler (Option (Ticket × Option Service)) := do
  match ← query (.ticket ticketId) with
  | none => return none
  | some ticket =>
      match ticket.serviceId with
      | none => return some (ticket, none)
      | some serviceId => return some (ticket, ← query (.service serviceId))

def callNextTicket (locationId counterId : UUID) (serviceId actorUserId : Option UUID) :
    Handler (Option (Ticket × Option Service)) := do
  match ← callNextCte locationId counterId serviceId actorUserId with
  | none => return none
  | some called => ticketWithService called.id

/-! ## Idempotency -/

/-- An empty header counts as no key. -/
def given (idempotencyKey : Option String) : Option String := idempotencyKey.filter (· ≠ "")

/-- `hexdigest` is the hex digest of the JSON text of a dictionary whose keys are sorted. -/
def hashBody (hexdigest : PyDict → String) (body : PyDict) : String :=
  hexdigest (body.insertionSort fun a b => a.1 ≤ b.1)

def getIdempotencyKey (tenantId : UUID) (key : String) : Handler (Option IdempotencyKey) := do
  let env ← Program.observe
  query (.idempotencyKey tenantId key env.now)

def saveIdempotencyKey (hexdigest : PyDict → String) (tenantId : UUID) (key : String)
    (requestBody : PyDict) (resourceId : UUID) : Handler Unit := do
  let env ← Program.observe
  command (.insertIdempotencyKey
    { tenantId := tenantId
      key := key
      requestHash := hashBody hexdigest requestBody
      resourceId := some resourceId
      createdAt := env.now
      expiresAt := env.now + hours 24 })

end QueueFlow.App
