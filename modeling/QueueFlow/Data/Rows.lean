import QueueFlow.Data.Status
import QueueFlow.Tables.Table

/-!
# The tables

Rows of the schema as migrations `0001` and `0002` create it. Identifiers are numbers standing for
UUIDs and times are microseconds; columns that no modelled function reads or returns are left out.
-/

namespace QueueFlow.Data
open QueueFlow.Tables

abbrev UUID := Nat
abbrev Time := Nat

def minutes (n : Nat) : Time := n * 60 * 1000000
def hours (n : Nat) : Time := minutes (n * 60)

/-- The values that occur in the dictionaries the code hashes or stores as JSON; `uuidText id` is
the string `str(id)`. -/
inductive PyValue where
  | none
  | int (value : Int)
  | bool (value : Bool)
  | str (value : String)
  | uuid (value : UUID)
  | uuidText (value : UUID)
  deriving DecidableEq

abbrev PyDict := List (String × PyValue)

structure Tenant where
  id : UUID
  name : String
  slug : String
  active : Bool
  deriving DecidableEq

structure Location where
  id : UUID
  tenantId : UUID
  name : String
  address : Option String
  timezone : String
  active : Bool
  deriving DecidableEq

structure Service where
  id : UUID
  tenantId : UUID
  locationId : Option UUID
  name : String
  prefixText : String
  category : Option String
  active : Bool
  avgServiceMinutes : Int
  deriving DecidableEq

structure Counter where
  id : UUID
  locationId : UUID
  name : String
  counterType : String
  active : Bool
  deriving DecidableEq

structure Channel where
  id : UUID
  tenantId : UUID
  name : String
  active : Bool
  deriving DecidableEq

structure Role where
  id : UUID
  tenantId : UUID
  name : String
  deriving DecidableEq

structure User where
  id : UUID
  tenantId : UUID
  email : String
  displayName : String
  status : String
  deriving DecidableEq

structure UserRole where
  userId : UUID
  roleId : UUID
  locationId : Option UUID
  deriving DecidableEq

structure Ticket where
  id : UUID
  tenantId : UUID
  locationId : UUID
  serviceId : Option UUID
  channelId : Option UUID
  assignedCounterId : Option UUID
  number : Nat
  status : TicketStatus
  priority : Nat
  notes : Option String
  createdAt : Time
  updatedAt : Time
  calledAt : Option Time
  serviceStartedAt : Option Time
  completedAt : Option Time
  deriving DecidableEq

inductive Payload where
  | counter (counterId : UUID)
  | transfer (targetServiceId : UUID) (targetLocationId : Option UUID)
  | reason (text : String)
  deriving DecidableEq

structure TicketEvent where
  id : UUID
  ticketId : UUID
  eventType : EventType
  fromStatus : Option TicketStatus
  actorUserId : Option UUID
  payload : Option Payload
  occurredAt : Time
  deriving DecidableEq

structure Interaction where
  id : UUID
  ticketId : UUID
  counterId : Option UUID
  startedAt : Option Time
  endedAt : Option Time
  outcome : Option String
  deriving DecidableEq

/-- The stored response is left out: a replay answers with the ticket that `resourceId` names. -/
structure IdempotencyKey where
  key : String
  tenantId : UUID
  requestHash : String
  resourceId : Option UUID
  createdAt : Time
  expiresAt : Time
  deriving DecidableEq

structure AuditLog where
  id : UUID
  tenantId : Option UUID
  actorUserId : Option UUID
  action : String
  objectType : String
  objectId : UUID
  before : Option PyDict
  after : Option PyDict
  deriving DecidableEq

instance : Keyed Tenant UUID := ⟨Tenant.id⟩
instance : Keyed Location UUID := ⟨Location.id⟩
instance : Keyed Service UUID := ⟨Service.id⟩
instance : Keyed Counter UUID := ⟨Counter.id⟩
instance : Keyed Channel UUID := ⟨Channel.id⟩
instance : Keyed Role UUID := ⟨Role.id⟩
instance : Keyed User UUID := ⟨User.id⟩
instance : Keyed UserRole (UUID × UUID) := ⟨fun row => (row.userId, row.roleId)⟩
instance : Keyed Ticket UUID := ⟨Ticket.id⟩
instance : Keyed TicketEvent UUID := ⟨TicketEvent.id⟩
instance : Keyed Interaction UUID := ⟨Interaction.id⟩
/-- The key of the unique constraint `uq_idempotency_tenant_key`. -/
instance : Keyed IdempotencyKey (UUID × String) := ⟨fun row => (row.tenantId, row.key)⟩
instance : Keyed AuditLog UUID := ⟨AuditLog.id⟩

@[simp] theorem key_tenant (row : Tenant) : key row = row.id := rfl
@[simp] theorem key_location (row : Location) : key row = row.id := rfl
@[simp] theorem key_service (row : Service) : key row = row.id := rfl
@[simp] theorem key_counter (row : Counter) : key row = row.id := rfl
@[simp] theorem key_channel (row : Channel) : key row = row.id := rfl
@[simp] theorem key_role (row : Role) : key row = row.id := rfl
@[simp] theorem key_user (row : User) : key row = row.id := rfl
@[simp] theorem key_userRole (row : UserRole) : key row = (row.userId, row.roleId) := rfl
@[simp] theorem key_ticket (row : Ticket) : key row = row.id := rfl
@[simp] theorem key_ticketEvent (row : TicketEvent) : key row = row.id := rfl
@[simp] theorem key_interaction (row : Interaction) : key row = row.id := rfl
@[simp] theorem key_idempotencyKey (row : IdempotencyKey) :
    key row = (row.tenantId, row.key) := rfl
@[simp] theorem key_auditLog (row : AuditLog) : key row = row.id := rfl

structure Database where
  tenants : Table Tenant
  locations : Table Location
  services : Table Service
  counters : Table Counter
  channels : Table Channel
  roles : Table Role
  users : Table User
  userRoles : Table UserRole
  tickets : Table Ticket
  ticketEvents : Table TicketEvent
  interactions : Table Interaction
  idempotencyKeys : Table IdempotencyKey
  auditLog : Table AuditLog

def Database.empty : Database where
  tenants := .empty
  locations := .empty
  services := .empty
  counters := .empty
  channels := .empty
  roles := .empty
  users := .empty
  userRoles := .empty
  tickets := .empty
  ticketEvents := .empty
  interactions := .empty
  idempotencyKeys := .empty
  auditLog := .empty

inductive Row where
  | tenant (row : Tenant)
  | location (row : Location)
  | service (row : Service)
  | counter (row : Counter)
  | channel (row : Channel)
  | role (row : Role)
  | user (row : User)
  | userRole (row : UserRole)
  | ticket (row : Ticket)
  | event (row : TicketEvent)
  | interaction (row : Interaction)
  | idempotencyKey (row : IdempotencyKey)
  | audit (row : AuditLog)
  deriving DecidableEq

/-- What can be locked: a row by its key, or an entry of another unique index. -/
inductive Lock where
  | tenant (id : UUID)
  | location (id : UUID)
  | service (id : UUID)
  | counter (id : UUID)
  | channel (id : UUID)
  | role (id : UUID)
  | user (id : UUID)
  | userRole (userId roleId : UUID)
  | ticket (id : UUID)
  | event (id : UUID)
  | interaction (id : UUID)
  | idempotencyKey (tenantId : UUID) (key : String)
  | audit (id : UUID)
  | tenantName (name : String)
  | tenantSlug (slug : String)
  | roleName (tenantId : UUID) (name : String)
  | userEmail (tenantId : UUID) (email : String)
  deriving DecidableEq

def Lock.isRecord : Lock → Bool
  | .tenant _ | .location _ | .service _ | .counter _ | .channel _ | .user _ | .userRole _ _
  | .audit _ => true
  | _ => false

def Row.id : Row → UUID
  | .tenant row => row.id
  | .location row => row.id
  | .service row => row.id
  | .counter row => row.id
  | .channel row => row.id
  | .role row => row.id
  | .user row => row.id
  | .userRole row => row.userId
  | .ticket row => row.id
  | .event row => row.id
  | .interaction row => row.id
  | .idempotencyKey row => row.tenantId
  | .audit row => row.id

def Row.lock : Row → Lock
  | .tenant row => .tenant row.id
  | .location row => .location row.id
  | .service row => .service row.id
  | .counter row => .counter row.id
  | .channel row => .channel row.id
  | .role row => .role row.id
  | .user row => .user row.id
  | .userRole row => .userRole row.userId row.roleId
  | .ticket row => .ticket row.id
  | .event row => .event row.id
  | .interaction row => .interaction row.id
  | .idempotencyKey row => .idempotencyKey row.tenantId row.key
  | .audit row => .audit row.id

namespace Database

def put (db : Database) : Row → Database
  | .tenant row => { db with tenants := db.tenants.put row }
  | .location row => { db with locations := db.locations.put row }
  | .service row => { db with services := db.services.put row }
  | .counter row => { db with counters := db.counters.put row }
  | .channel row => { db with channels := db.channels.put row }
  | .role row => { db with roles := db.roles.put row }
  | .user row => { db with users := db.users.put row }
  | .userRole row => { db with userRoles := db.userRoles.put row }
  | .ticket row => { db with tickets := db.tickets.put row }
  | .event row => { db with ticketEvents := db.ticketEvents.put row }
  | .interaction row => { db with interactions := db.interactions.put row }
  | .idempotencyKey row => { db with idempotencyKeys := db.idempotencyKeys.put row }
  | .audit row => { db with auditLog := db.auditLog.put row }

/-- The committed version of the row a lock guards. -/
def row (db : Database) : Lock → Option Row
  | .tenant id => (db.tenants.get? id).map .tenant
  | .location id => (db.locations.get? id).map .location
  | .service id => (db.services.get? id).map .service
  | .counter id => (db.counters.get? id).map .counter
  | .channel id => (db.channels.get? id).map .channel
  | .role id => (db.roles.get? id).map .role
  | .user id => (db.users.get? id).map .user
  | .userRole userId roleId => (db.userRoles.get? (userId, roleId)).map .userRole
  | .ticket id => (db.tickets.get? id).map .ticket
  | .event id => (db.ticketEvents.get? id).map .event
  | .interaction id => (db.interactions.get? id).map .interaction
  | .idempotencyKey tenantId k => (db.idempotencyKeys.get? (tenantId, k)).map .idempotencyKey
  | .audit id => (db.auditLog.get? id).map .audit
  | .tenantName _ | .tenantSlug _ | .roleName _ _ | .userEmail _ _ => none

end Database

/-- Row versions written by a statement, and the deletions of the cleanup job. -/
inductive Write where
  | insert (row : Row)
  | update (row : Row)
  | dropKey (tenantId : UUID) (key : String)
  deriving DecidableEq

def Write.lock : Write → Lock
  | .insert row | .update row => row.lock
  | .dropKey tenantId k => .idempotencyKey tenantId k

def Write.value : Write → Option Row
  | .insert row | .update row => some row
  | .dropKey _ _ => none

def Database.apply (db : Database) : Write → Database
  | .insert row | .update row => db.put row
  | .dropKey tenantId k => { db with idempotencyKeys := db.idempotencyKeys.drop (tenantId, k) }

theorem row_put (db : Database) (row : Row) (lock : Lock) :
    (db.put row).row lock = if row.lock = lock then some row else db.row lock := by
  cases row <;> cases lock <;> simp [Database.put, Database.row, Row.lock] <;> split <;> simp_all

theorem row_apply (db : Database) (write : Write) (lock : Lock) :
    (db.apply write).row lock = if write.lock = lock then write.value else db.row lock := by
  cases write with
  | insert row => exact row_put db row lock
  | update row => exact row_put db row lock
  | dropKey tenantId k =>
      cases lock <;> simp [Database.apply, Database.row, Write.lock, Write.value]
      split <;> simp_all

end QueueFlow.Data
