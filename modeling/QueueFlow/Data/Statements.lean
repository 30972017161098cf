import QueueFlow.Data.Queries
import QueueFlow.Data.Schemas
import QueueFlow.Transactions.Engine

/-!
# The SQL statements

What each statement of the code does to the rows it sees. `updateTicket` runs the status trigger;
the other checks are the constraints of migration `0001`. An INSERT or UPDATE answers with the new
row version, which covers the `flush` and the `refresh` in the same transaction.
-/

namespace QueueFlow.Data
open QueueFlow.Tables QueueFlow.Transactions

/-- What the surroundings decide at each step: the clock, the next fresh UUID, the order in which
the database returns equal rows, and whether Redis accepts a publish. -/
structure Env where
  now : Time
  uuid : UUID
  order : UUID → Nat
  redis : Bool

inductive DbError where
  | foreignKey (column : String)
  | unique (columns : String)
  | check (constraint : String)
  | tooLong (column : String)
  | outOfRange (column : String)
  | raised (message : String)
  | notSerializable (column : String)
  | negativeLimit
  | unknownUnit (unit : String)
  | syntaxError
  | staleData
  deriving DecidableEq

inductive Failure where
  | http (statusCode : Nat) (detail : String)
  | invalidTransition (fromStatus toStatus : TicketStatus)
  | valueError
  | attributeError
  | typeError
  | indexError
  | couldNotRefresh
  | database (error : DbError)
  deriving DecidableEq

/-- Only an `HTTPException` chooses its status code. -/
def Failure.statusCode : Failure → Nat
  | .http code _ => code
  | _ => 500

def require {α : Type} (checks : List (Bool × DbError)) (value : α) : Except DbError α :=
  match checks.find? fun check => !check.1 with
  | some (_, error) => .error error
  | none => .ok value

theorem require_eq_ok {α : Type} {checks : List (Bool × DbError)} {value result : α} :
    require checks value = .ok result ↔
      (∀ check ∈ checks, check.1 = true) ∧ value = result := by
  unfold require
  split
  · rename_i error found
    have failed := List.find?_some found
    refine iff_of_false nofun fun ⟨passed, _⟩ => ?_
    have := passed _ (List.mem_of_find?_eq_some found)
    simp_all
  · rename_i found
    simp only [List.find?_eq_none, Bool.not_eq_true', Bool.not_eq_false] at found
    simp only [Except.ok.injEq, iff_and_self]
    exact fun _ => found

theorem require_eq_error {α : Type} {checks : List (Bool × DbError)} {value : α}
    {error : DbError} (rejected : require checks value = .error error) :
    ∃ check ∈ checks, check.1 = false := by
  unfold require at rejected
  split at rejected
  · rename_i found
    exact ⟨_, List.mem_of_find?_eq_some found, by simpa using List.find?_some found⟩
  · cases rejected

/-! ## Queries -/

inductive Query where
  | tenant (id : UUID)
  | location (id : UUID)
  | service (id : UUID)
  | counter (id : UUID)
  | ticket (id : UUID)
  | idempotencyKey (tenantId : UUID) (key : String) (now : Time)
  | nextNumber (locationId : UUID)
  | waitingTickets (locationId : UUID) (serviceId : Option UUID)
  | stuckTickets (cutoff : Time)
  | listByLocation (locationId : UUID) (status : Option String) (serviceId : Option UUID)
      (limit offset : Int)
  | events (ticketId : UUID)
  | latestWithStatus (locationId : UUID) (status : TicketStatus) (limit : Nat)
  | waitingCount (locationId : UUID)
  | recentAverageWait (locationId : UUID) (since : Time)
  | kpiCounts (locationId : UUID) (fromDt toDt : Time)
  | kpiWait (locationId : UUID) (fromDt toDt : Time)
  | kpiService (locationId : UUID) (fromDt toDt : Time)
  | timeseries (locationId : UUID) (fromDt toDt : Time) (metric : Metric) (unit : TimeUnit)
  | servicesFor (tenantId locationId : UUID)
  | services (ids : List UUID)
  | counters (ids : List UUID)

abbrev Query.Res : Query → Type
  | .tenant _ => Option Tenant
  | .location _ => Option Location
  | .service _ => Option Service
  | .counter _ => Option Counter
  | .ticket _ => Option Ticket
  | .idempotencyKey _ _ _ => Option IdempotencyKey
  | .nextNumber _ => Nat
  | .waitingTickets _ _ | .stuckTickets _ | .listByLocation _ _ _ _ _
  | .latestWithStatus _ _ _ => List Ticket
  | .events _ => List TicketEvent
  | .waitingCount _ => Nat
  | .recentAverageWait _ _ => Option Rat
  | .kpiCounts _ _ _ => KpiCounts
  | .kpiWait _ _ _ => Option Rat × Option Rat
  | .kpiService _ _ _ => Option Rat
  | .timeseries _ _ _ _ _ => List Bucket
  | .servicesFor _ _ | .services _ => List Service
  | .counters _ => List Counter

def Query.eval (db : Database) (order : UUID → Nat) : (query : Query) → query.Res
  | .tenant id => db.tenants.get? id
  | .location id => db.locations.get? id
  | .service id => db.services.get? id
  | .counter id => db.counters.get? id
  | .ticket id => db.tickets.get? id
  | .idempotencyKey tenantId k now => db.findIdempotencyKey tenantId k now
  | .nextNumber locationId => db.nextNumber locationId
  | .waitingTickets locationId serviceId => db.waitingTickets order locationId serviceId
  | .stuckTickets cutoff => db.stuckTickets cutoff
  | .listByLocation locationId status serviceId limit offset =>
      db.listByLocation order locationId status serviceId limit.toNat offset.toNat
  | .events ticketId => db.eventsInOrder order ticketId
  | .latestWithStatus locationId status limit => db.latestWithStatus order locationId status limit
  | .waitingCount locationId => db.waitingCount locationId
  | .recentAverageWait locationId since => db.recentAverageWait locationId since
  | .kpiCounts locationId fromDt toDt => db.kpiCounts locationId fromDt toDt
  | .kpiWait locationId fromDt toDt =>
      let waits := (db.createdIn locationId fromDt toDt).filterMap Database.waitSeconds
      (Database.average waits, Database.percentileCont (95 / 100) waits)
  | .kpiService locationId fromDt toDt =>
      Database.average ((db.createdIn locationId fromDt toDt).filterMap Database.serviceSeconds)
  | .timeseries locationId fromDt toDt metric unit =>
      db.timeseries locationId fromDt toDt metric unit
  | .servicesFor tenantId locationId => db.servicesFor tenantId locationId
  | .services ids => db.services.rows.filter fun service => service.id ∈ ids
  | .counters ids => db.counters.rows.filter fun counter => counter.id ∈ ids

/-- Postgres rejects a negative LIMIT or OFFSET. -/
def Query.fault : Query → Option DbError
  | .listByLocation _ _ _ limit offset =>
      if limit < 0 ∨ offset < 0 then some .negativeLimit else none
  | _ => none

/-! ## Commands on tickets -/

structure NewTicket where
  tenantId : UUID
  locationId : UUID
  serviceId : Option UUID
  channelId : Option UUID
  number : Nat
  status : TicketStatus
  priority : Nat
  notes : Option String

/-- The SET clause of an UPDATE of `tickets`: columns that are `none` are not assigned. -/
structure TicketUpdate where
  status : TicketStatus
  serviceId : Option UUID := none
  locationId : Option UUID := none
  assignedCounterId : Option (Option UUID) := none
  calledAt : Option Time := none
  serviceStartedAt : Option Time := none
  completedAt : Option Time := none

/-- `onupdate=func.now()` sets `updated_at` in every UPDATE. -/
def TicketUpdate.apply (set : TicketUpdate) (now : Time) (row : Ticket) : Ticket :=
  { row with
    status := set.status
    serviceId := set.serviceId <|> row.serviceId
    locationId := set.locationId.getD row.locationId
    assignedCounterId := set.assignedCounterId.getD row.assignedCounterId
    calledAt := set.calledAt <|> row.calledAt
    serviceStartedAt := set.serviceStartedAt <|> row.serviceStartedAt
    completedAt := set.completedAt <|> row.completedAt
    updatedAt := now }

structure NewEvent where
  ticketId : UUID
  eventType : EventType
  fromStatus : Option TicketStatus := none
  actorUserId : Option UUID := none
  payload : Option Payload := none
  /-- `none` leaves the column to its default, `now()`. -/
  occurredAt : Option Time := none

structure NewIdempotencyKey where
  tenantId : UUID
  key : String
  requestHash : String
  resourceId : Option UUID
  createdAt : Time
  expiresAt : Time

/-! ## Commands of the admin service -/

structure AuditEntry where
  tenantId : Option UUID
  actorUserId : Option UUID
  action : String
  objectType : String
  objectId : UUID
  before : Option PyDict := none
  after : Option PyDict := none

inductive NewRecord where
  | tenant (data : TenantCreate)
  | location (data : LocationCreate)
  | service (data : ServiceCreate)
  | counter (data : CounterCreate)
  | channel (data : ChannelCreate)
  | user (data : UserCreate)
  | userRole (userId : UUID) (data : RoleAssignment)
  | audit (entry : AuditEntry)

inductive RecordUpdate where
  | tenant (id : UUID) (set : TenantUpdate)
  | location (id : UUID) (set : LocationUpdate)
  | service (id : UUID) (set : ServiceUpdate)
  | counter (id : UUID) (set : CounterUpdate)

def NewRecord.row (id : UUID) : NewRecord → Row
  | .tenant data => .tenant ⟨id, data.name.text, data.slug.text, true⟩
  | .location data =>
      .location ⟨id, data.tenantId, data.name.text, data.address, data.timezone, true⟩
  | .service data => .service ⟨id, data.tenantId, data.locationId, data.name.text,
      data.prefixText.text, data.category, true, data.avgServiceMinutes⟩
  | .counter data => .counter ⟨id, data.locationId, data.name.text, data.counterType, true⟩
  | .channel data => .channel ⟨id, data.tenantId, data.name.text, true⟩
  | .user data => .user ⟨id, data.tenantId, data.email, data.displayName.text, "active"⟩
  | .userRole userId data => .userRole ⟨userId, data.roleId, data.locationId⟩
  | .audit entry => .audit ⟨id, entry.tenantId, entry.actorUserId, entry.action, entry.objectType,
      entry.objectId, entry.before, entry.after⟩

def NewRecord.entries : NewRecord → List Lock
  | .tenant data => [.tenantName data.name.text, .tenantSlug data.slug.text]
  | .user data => [.userEmail data.tenantId data.email]
  | _ => []

def RecordUpdate.entries : RecordUpdate → List Lock
  | .tenant _ set => (set.name.map fun name => Lock.tenantName name.text).toList
  | _ => []

def RecordUpdate.lock : RecordUpdate → Lock
  | .tenant id _ => .tenant id
  | .location id _ => .location id
  | .service id _ => .service id
  | .counter id _ => .counter id

namespace Database
variable (db : Database)

def hasTenant (id : UUID) : Bool := (db.tenants.get? id).isSome
def hasLocation (id : UUID) : Bool := (db.locations.get? id).isSome
def hasService (id : UUID) : Bool := (db.services.get? id).isSome
def hasChannel (id : UUID) : Bool := (db.channels.get? id).isSome
def hasCounter (id : UUID) : Bool := (db.counters.get? id).isSome
def hasRole (id : UUID) : Bool := (db.roles.get? id).isSome
def hasUser (id : UUID) : Bool := (db.users.get? id).isSome
def hasTicket (id : UUID) : Bool := (db.tickets.get? id).isSome

end Database

def fits (limit : Nat) (text : Option String) : Bool := text.all fun text => text.length ≤ limit

/-- `INTEGER` is a signed 32-bit column. -/
def inInteger (value : Int) : Bool := -2 ^ 31 ≤ value && value < 2 ^ 31

/-- `json.dumps` raises TypeError on a UUID object. -/
def PyDict.serializable (dict : PyDict) : Bool :=
  dict.all fun entry => match entry.2 with
    | .uuid _ => false
    | _ => true

def NewRecord.checks (db : Database) (id : UUID) (new : NewRecord) : List (Bool × DbError) :=
  ((db.row (new.row id).lock).isNone, .unique "id") :: match new with
    | .tenant data =>
        [(db.tenants.rows.all (·.name ≠ data.name.text), .unique "name"),
          (db.tenants.rows.all (·.slug ≠ data.slug.text), .unique "slug")]
    | .location data =>
        [(fits 500 data.address, .tooLong "address"),
          (fits 64 (some data.timezone), .tooLong "timezone"),
          (db.hasTenant data.tenantId, .foreignKey "tenant_id")]
    | .service data =>
        [(fits 100 data.category, .tooLong "category"),
          (inInteger data.avgServiceMinutes, .outOfRange "avg_service_minutes"),
          (db.hasTenant data.tenantId, .foreignKey "tenant_id"),
          (data.locationId.all db.hasLocation, .foreignKey "location_id")]
    | .counter data =>
        [(fits 50 (some data.counterType), .tooLong "counter_type"),
          (db.hasLocation data.locationId, .foreignKey "location_id")]
    | .channel data => [(db.hasTenant data.tenantId, .foreignKey "tenant_id")]
    | .user data =>
        [(fits 320 (some data.email), .tooLong "email"),
          (db.users.rows.all fun user => user.tenantId ≠ data.tenantId || user.email ≠ data.email,
            .unique "tenant_id, email"),
          (db.hasTenant data.tenantId, .foreignKey "tenant_id")]
    | .userRole userId data =>
        [(db.hasUser userId, .foreignKey "user_id"),
          (db.hasRole data.roleId, .foreignKey "role_id"),
          (data.locationId.all db.hasLocation, .foreignKey "location_id")]
    | .audit entry =>
        [(entry.before.all PyDict.serializable, .notSerializable "before_json"),
          (entry.after.all PyDict.serializable, .notSerializable "after_json"),
          (entry.tenantId.all db.hasTenant, .foreignKey "tenant_id"),
          (entry.actorUserId.all db.hasUser, .foreignKey "actor_user_id")]

def TenantUpdate.apply (set : TenantUpdate) (row : Tenant) : Tenant :=
  { row with
    name := (set.name.map Bounded.text).getD row.name
    active := set.active.getD row.active }

def LocationUpdate.apply (set : LocationUpdate) (row : Location) : Location :=
  { row with
    name := set.name.getD row.name
    address := set.address <|> row.address
    timezone := set.timezone.getD row.timezone
    active := set.active.getD row.active }

def ServiceUpdate.apply (set : ServiceUpdate) (row : Service) : Service :=
  { row with
    name := set.name.getD row.name
    prefixText := set.prefixText.getD row.prefixText
    category := set.category <|> row.category
    avgServiceMinutes := set.avgServiceMinutes.getD row.avgServiceMinutes
    active := set.active.getD row.active }

def CounterUpdate.apply (set : CounterUpdate) (row : Counter) : Counter :=
  { row with
    name := set.name.getD row.name
    counterType := set.counterType.getD row.counterType
    active := set.active.getD row.active }

def RecordUpdate.checks (db : Database) : RecordUpdate → List (Bool × DbError)
  | .tenant id set =>
      [(db.tenants.rows.all fun row => row.id = id || some row.name ≠ set.name.map Bounded.text,
        .unique "name")]
  | .location _ set =>
      [(fits 255 set.name, .tooLong "name"), (fits 500 set.address, .tooLong "address"),
        (fits 64 set.timezone, .tooLong "timezone")]
  | .service _ set =>
      [(fits 255 set.name, .tooLong "name"), (fits 10 set.prefixText, .tooLong "prefix"),
        (fits 100 set.category, .tooLong "category"),
        (set.avgServiceMinutes.all inInteger, .outOfRange "avg_service_minutes")]
  | .counter _ set =>
      [(fits 100 set.name, .tooLong "name"), (fits 50 set.counterType, .tooLong "counter_type")]

/-- The row version an UPDATE writes, or none when its row is missing. -/
def RecordUpdate.row (db : Database) : RecordUpdate → Option Row
  | .tenant id set => (db.tenants.get? id).map fun row => .tenant (set.apply row)
  | .location id set => (db.locations.get? id).map fun row => .location (set.apply row)
  | .service id set => (db.services.get? id).map fun row => .service (set.apply row)
  | .counter id set => (db.counters.get? id).map fun row => .counter (set.apply row)

/-! ## Commands -/

inductive Command where
  | insertTicket (new : NewTicket)
  | updateTicket (id : UUID) (set : TicketUpdate)
  | insertEvent (new : NewEvent)
  | insertInteraction (ticketId : UUID) (counterId : Option UUID) (startedAt : Time)
  | closeInteractions (ticketId : UUID) (endedAt : Time) (outcome : String)
  | insertIdempotencyKey (new : NewIdempotencyKey)
  | deleteExpiredKeys (now : Time)
  | insertRecord (new : NewRecord)
  | updateRecord (update : RecordUpdate)

abbrev Command.Res : Command → Type
  | .insertTicket _ | .updateTicket _ _ => Ticket
  | .insertEvent _ | .insertInteraction _ _ _ | .closeInteractions _ _ _
  | .insertIdempotencyKey _ => Unit
  | .deleteExpiredKeys _ => Nat
  | .insertRecord _ | .updateRecord _ => Row

namespace Database

def openInteractions (db : Database) (ticketId : UUID) : List Interaction :=
  db.interactions.rows.filter fun row => row.ticketId = ticketId ∧ row.endedAt = none

def expiredKeys (db : Database) (now : Time) : List IdempotencyKey :=
  db.idempotencyKeys.rows.filter fun row => row.expiresAt < now

/-- One row of an UPDATE of `tickets`: the trigger first, then the foreign keys. -/
def updatedTicket (db : Database) (set : TicketUpdate) (now : Time) (row : Ticket) :
    Except DbError Ticket :=
  match checkTicketStatusTransition row.status set.status with
  | some message => .error (.raised message)
  | none => require
      [(set.serviceId.all db.hasService, .foreignKey "service_id"),
        (set.locationId.all db.hasLocation, .foreignKey "location_id"),
        ((set.assignedCounterId.bind id).all db.hasCounter, .foreignKey "assigned_counter_id")]
      (set.apply now row)

end Database

def NewTicket.row (new : NewTicket) (id : UUID) (now : Time) : Ticket where
  id := id
  tenantId := new.tenantId
  locationId := new.locationId
  serviceId := new.serviceId
  channelId := new.channelId
  assignedCounterId := none
  number := new.number
  status := new.status
  priority := new.priority
  notes := new.notes
  createdAt := now
  updatedAt := now
  calledAt := none
  serviceStartedAt := none
  completedAt := none

def NewTicket.checks (db : Database) (id : UUID) (new : NewTicket) : List (Bool × DbError) :=
  [(!db.hasTicket id, .unique "id"),
    (1 ≤ new.priority && new.priority ≤ 10, .check "ck_tickets_priority_range"),
    (db.hasTenant new.tenantId, .foreignKey "tenant_id"),
    (db.hasLocation new.locationId, .foreignKey "location_id"),
    (new.serviceId.all db.hasService, .foreignKey "service_id"),
    (new.channelId.all db.hasChannel, .foreignKey "channel_id")]

def NewEvent.row (new : NewEvent) (id : UUID) (now : Time) : TicketEvent :=
  ⟨id, new.ticketId, new.eventType, new.fromStatus, new.actorUserId, new.payload,
    new.occurredAt.getD now⟩

def NewEvent.checks (db : Database) (id : UUID) (new : NewEvent) : List (Bool × DbError) :=
  [((db.ticketEvents.get? id).isNone, .unique "id"),
    (db.hasTicket new.ticketId, .foreignKey "ticket_id"),
    (new.actorUserId.all db.hasUser, .foreignKey "actor_user_id")]

def NewIdempotencyKey.row (new : NewIdempotencyKey) : IdempotencyKey :=
  ⟨new.key, new.tenantId, new.requestHash, new.resourceId, new.createdAt, new.expiresAt⟩

def NewIdempotencyKey.checks (db : Database) (new : NewIdempotencyKey) : List (Bool × DbError) :=
  [(fits 255 (some new.key), .tooLong "key"),
    ((db.idempotencyKeys.get? (new.tenantId, new.key)).isNone, .unique "tenant_id, key"),
    (db.hasTenant new.tenantId, .foreignKey "tenant_id")]

def Command.run (db : Database) (id : UUID) (now : Time) :
    (command : Command) → Except DbError (command.Res × List Write)
  | .insertTicket new =>
      require (new.checks db id) (new.row id now, [.insert (.ticket (new.row id now))])
  | .updateTicket ticketId set =>
      match db.tickets.get? ticketId with
      | none => .error .staleData
      | some row => (db.updatedTicket set now row).map fun row => (row, [.update (.ticket row)])
  | .insertEvent new => require (new.checks db id) ((), [.insert (.event (new.row id now))])
  | .insertInteraction ticketId counterId startedAt => require
      [((db.interactions.get? id).isNone, .unique "id"),
        (db.hasTicket ticketId, .foreignKey "ticket_id"),
        (counterId.all db.hasCounter, .foreignKey "counter_id")]
      ((), [.insert (.interaction ⟨id, ticketId, counterId, some startedAt, none, none⟩)])
  | .closeInteractions ticketId endedAt outcome =>
      .ok ((), (db.openInteractions ticketId).map fun row =>
        .update (.interaction { row with endedAt := some endedAt, outcome := some outcome }))
  | .insertIdempotencyKey new =>
      require (new.checks db) ((), [.insert (.idempotencyKey new.row)])
  | .deleteExpiredKeys now =>
      let expired := db.expiredKeys now
      .ok (expired.length, expired.map fun row => .dropKey row.tenantId row.key)
  | .insertRecord new => require (new.checks db id) (new.row id, [.insert (new.row id)])
  | .updateRecord update =>
      match update.row db with
      | none => .error .staleData
      | some row => require (update.checks db) (row, [.update row])

/-- The locks a command waits for: of the rows it writes and the unique index entries it makes. -/
def Command.needs (db : Database) (id : UUID) : Command → List Lock
  | .insertTicket _ => [.ticket id]
  | .updateTicket ticketId _ => [.ticket ticketId]
  | .insertEvent _ => [.event id]
  | .insertInteraction _ _ _ => [.interaction id]
  | .closeInteractions ticketId _ _ =>
      (db.openInteractions ticketId).map fun row => .interaction row.id
  | .insertIdempotencyKey new => [.idempotencyKey new.tenantId new.key]
  | .deleteExpiredKeys now =>
      (db.expiredKeys now).map fun row => .idempotencyKey row.tenantId row.key
  | .insertRecord new => (new.row id).lock :: new.entries
  | .updateRecord update => update.lock :: update.entries

/-! ## Statements -/

/-- `callTicket` is what `_CALL_NEXT_CTE` does to one row of its sorted snapshot: FOR UPDATE SKIP
LOCKED, the WHERE clause once more on the locked row, and the UPDATE of that row. -/
inductive Stmt where
  | read (query : Query)
  | callTicket (id locationId : UUID) (serviceId : Option UUID) (counterId : UUID)
  | write (command : Command)

abbrev Stmt.Res : Stmt → Type
  | .read query => query.Res
  | .callTicket _ _ _ _ => Option Ticket
  | .write command => command.Res

def Stmt.ticketUpdate? : Stmt → Option (UUID × TicketUpdate)
  | .write (.updateTicket id set) => some (id, set)
  | _ => none

/-- The row of the snapshot that is tried, and the queue it is tried for. -/
def Stmt.call? : Stmt → Option (UUID × UUID × Option UUID)
  | .callTicket id locationId serviceId _ => some (id, locationId, serviceId)
  | _ => none

/-- The SET clause of `_CALL_NEXT_CTE`. -/
def callUpdate (counterId : UUID) (now : Time) : TicketUpdate :=
  { status := .called, calledAt := some now, assignedCounterId := some (some counterId) }

def Stmt.needs : Stmt → Context Database Lock Env → List Lock
  | .write command, context => command.needs context.view context.env.uuid
  | _, _ => []

/-- `now()` is the time at which the transaction began. -/
def Stmt.exec : (stmt : Stmt) → Context Database Lock Env → Outcome Write Lock Failure stmt.Res
  | .read query, context =>
      match query.fault with
      | some error => .fail (.database error)
      | none => .done (query.eval context.view context.env.order) [] []
  | .callTicket id locationId serviceId counterId, context =>
      if context.busy (.ticket id) then .done (none : Option Ticket) [] []
      else match context.view.tickets.get? id with
        | none => .done (none : Option Ticket) [] []
        | some row =>
            if row.waitsFor locationId serviceId then
              match context.view.updatedTicket (callUpdate counterId context.began.now)
                  context.began.now row with
              | .error error => .fail (.database error)
              | .ok row => .done (some row) [.update (.ticket row)] [.ticket id]
            else .done (none : Option Ticket) [] [.ticket id]
  | .write command, context =>
      match command.run context.view context.env.uuid context.began.now with
      | .error error => .fail (.database error)
      | .ok (value, writes) => .done value writes []

end QueueFlow.Data
