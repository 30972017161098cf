import QueueFlow.Data.Rows
import Mathlib.Data.List.Sort
import Mathlib.Data.Rat.Floor

/-!
# The SELECT statements

Each query of `repositories/` as a function of the rows it reads. Where SQL leaves the order of
equal rows open, `order` stands for the order the database happens to pick.
-/

namespace QueueFlow.Data

/-! ## The waiting queue -/

def Ticket.waitsFor (locationId : UUID) (serviceId : Option UUID) (ticket : Ticket) : Prop :=
  ticket.locationId = locationId ∧ ticket.status = .waiting ∧
    (serviceId = none ∨ ticket.serviceId = serviceId)

instance (locationId : UUID) (serviceId : Option UUID) (ticket : Ticket) :
    Decidable (ticket.waitsFor locationId serviceId) :=
  inferInstanceAs (Decidable (_ ∧ _ ∧ _))

/-- `ORDER BY priority ASC, created_at ASC`. -/
def Ticket.before (a b : Ticket) : Prop :=
  a.priority < b.priority ∨ (a.priority = b.priority ∧ a.createdAt < b.createdAt)

instance (a b : Ticket) : Decidable (a.before b) :=
  inferInstanceAs (Decidable (_ ∨ _))

def callOrder (order : UUID → Nat) (a b : Ticket) : Prop :=
  a.before b ∨ (¬ b.before a ∧ order a.id ≤ order b.id)

instance (order : UUID → Nat) (a b : Ticket) : Decidable (callOrder order a b) :=
  inferInstanceAs (Decidable (_ ∨ _))

namespace Database

def waitingTickets (db : Database) (order : UUID → Nat) (locationId : UUID)
    (serviceId : Option UUID) : List Ticket :=
  (db.tickets.rows.filter fun ticket => ticket.waitsFor locationId serviceId).insertionSort
    (callOrder order)

/-- `SELECT COALESCE(MAX(number), 0) + 1`. -/
def nextNumber (db : Database) (locationId : UUID) : Nat :=
  ((db.tickets.rows.filter fun ticket => ticket.locationId = locationId).map
    Ticket.number).foldr max 0 + 1

def findIdempotencyKey (db : Database) (tenantId : UUID) (key : String) (now : Time) :
    Option IdempotencyKey :=
  (db.idempotencyKeys.get? (tenantId, key)).filter fun record => now < record.expiresAt

/-- The tickets that `auto_no_show_called_tickets` selects. -/
def stuckTickets (db : Database) (cutoff : Time) : List Ticket :=
  db.tickets.rows.filter fun ticket =>
    ticket.status = .called ∧ ∃ calledAt ∈ ticket.calledAt, calledAt < cutoff

/-! ## Lists, signage and analytics -/

def createdOrder (order : UUID → Nat) (a b : Ticket) : Prop :=
  a.createdAt < b.createdAt ∨ (a.createdAt = b.createdAt ∧ order a.id ≤ order b.id)

instance (order : UUID → Nat) (a b : Ticket) : Decidable (createdOrder order a b) :=
  inferInstanceAs (Decidable (_ ∨ _))

def listByLocation (db : Database) (order : UUID → Nat) (locationId : UUID)
    (status : Option String) (serviceId : Option UUID) (limit offset : Nat) : List Ticket :=
  (((db.tickets.rows.filter fun ticket =>
    ticket.locationId = locationId ∧ (∀ text ∈ status, ticket.status.text = text) ∧
      (∀ id ∈ serviceId, ticket.serviceId = some id)).insertionSort
    (createdOrder order)).drop offset).take limit

def eventsOf (db : Database) (ticketId : UUID) : List TicketEvent :=
  db.ticketEvents.rows.filter fun event => event.ticketId = ticketId

/-- `Ticket.events`, which SQLAlchemy orders by `occurred_at`. -/
def eventsInOrder (db : Database) (order : UUID → Nat) (ticketId : UUID) : List TicketEvent :=
  (db.eventsOf ticketId).insertionSort fun a b =>
    a.occurredAt < b.occurredAt ∨ (a.occurredAt = b.occurredAt ∧ order a.id ≤ order b.id)

/-- `ORDER BY called_at DESC`, which puts nulls first. -/
def calledDescending (order : UUID → Nat) (a b : Ticket) : Prop :=
  match a.calledAt, b.calledAt with
  | none, none => order a.id ≤ order b.id
  | none, some _ => True
  | some _, none => False
  | some x, some y => y < x ∨ (x = y ∧ order a.id ≤ order b.id)

instance (order : UUID → Nat) (a b : Ticket) : Decidable (calledDescending order a b) := by
  unfold calledDescending
  split <;> infer_instance

def latestWithStatus (db : Database) (order : UUID → Nat) (locationId : UUID)
    (status : TicketStatus) (limit : Nat) : List Ticket :=
  ((db.tickets.rows.filter fun ticket =>
    ticket.locationId = locationId ∧ ticket.status = status).insertionSort
      (calledDescending order)).take limit

def waitingCount (db : Database) (locationId : UUID) : Nat :=
  (db.tickets.rows.filter fun ticket =>
    ticket.locationId = locationId ∧ ticket.status = .waiting).length

/-- `EXTRACT(EPOCH FROM later) - EXTRACT(EPOCH FROM earlier)`, in seconds. -/
def secondsBetween (earlier later : Time) : Rat := ((later : Rat) - (earlier : Rat)) / 1000000

def average (values : List Rat) : Option Rat :=
  if values = [] then none else some (values.sum / values.length)

def waitSeconds (ticket : Ticket) : Option Rat :=
  ticket.calledAt.map (secondsBetween ticket.createdAt)

def serviceSeconds (ticket : Ticket) : Option Rat :=
  match ticket.serviceStartedAt, ticket.completedAt with
  | some started, some completed => some (secondsBetween started completed)
  | _, _ => none

def recentAverageWait (db : Database) (locationId : UUID) (since : Time) : Option Rat :=
  average ((db.tickets.rows.filter fun ticket =>
    ticket.locationId = locationId ∧ ∃ calledAt ∈ ticket.calledAt, since ≤ calledAt).filterMap
      waitSeconds)

def createdIn (db : Database) (locationId : UUID) (fromDt toDt : Time) : List Ticket :=
  db.tickets.rows.filter fun ticket =>
    ticket.locationId = locationId ∧ fromDt ≤ ticket.createdAt ∧ ticket.createdAt < toDt

def percentileCont (fraction : Rat) (values : List Rat) : Option Rat :=
  let sorted := values.insertionSort (· ≤ ·)
  let position := fraction * ((values.length : Rat) - 1)
  let low := position.floor.toNat
  match sorted[low]?, sorted[position.ceil.toNat]? with
  | some below, some above => some (below + (position - low) * (above - below))
  | _, _ => none

end Database

structure KpiCounts where
  total : Nat
  completed : Nat
  canceled : Nat
  noShow : Nat

def Database.kpiCounts (db : Database) (locationId : UUID) (fromDt toDt : Time) : KpiCounts :=
  let tickets := db.createdIn locationId fromDt toDt
  let having status := (tickets.filter fun ticket => ticket.status = status).length
  ⟨tickets.length, having .completed, having .canceled, having .noShow⟩

/-- The truncation unit of `date_trunc`, in microseconds. -/
inductive TimeUnit where
  | hour | minute | day
  deriving DecidableEq

def TimeUnit.length : TimeUnit → Time
  | .hour => hours 1
  | .minute => minutes 1
  | .day => hours 24

def dateTrunc (unit : TimeUnit) (time : Time) : Time := time / unit.length * unit.length

inductive Metric where
  | waitTime | serviceTime | throughput | queueLength
  deriving DecidableEq

structure Bucket where
  start : Time
  value : Rat

namespace Database

/-- The rows that a metric's extra filter leaves, grouped by `bucket` in ascending order. -/
def timeseries (db : Database) (locationId : UUID) (fromDt toDt : Time) (metric : Metric)
    (unit : TimeUnit) : List Bucket :=
  let tickets := (db.createdIn locationId fromDt toDt).filter fun ticket => match metric with
    | .waitTime => ticket.calledAt.isSome
    | .serviceTime => ticket.completedAt.isSome ∧ ticket.serviceStartedAt.isSome
    | .throughput => ticket.status = .completed
    | .queueLength => True
  let buckets := ((tickets.map fun ticket => dateTrunc unit ticket.createdAt).dedup).insertionSort
    (· ≤ ·)
  buckets.map fun start =>
    let group := tickets.filter fun ticket => dateTrunc unit ticket.createdAt = start
    let value := match metric with
      | .waitTime => average (group.filterMap waitSeconds)
      | .serviceTime => average (group.filterMap serviceSeconds)
      | .throughput | .queueLength => some (group.length : Rat)
    ⟨start, value.getD 0⟩

def servicesFor (db : Database) (tenantId locationId : UUID) : List Service :=
  db.services.rows.filter fun service =>
    service.tenantId = tenantId ∧ service.active ∧
      (service.locationId = none ∨ service.locationId = some locationId)

end Database

end QueueFlow.Data
