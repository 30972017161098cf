import QueueFlow.App.Api
import QueueFlow.Data.References
import QueueFlow.Transactions.Obedience

/-!
# The conduct of a request

What each request does by itself, whatever the database answers: the statements it sends and the
writes it commits, in the light of what it has read before.
-/

namespace QueueFlow.App
open QueueFlow.Data QueueFlow.Tables QueueFlow.Transactions

abbrev Act := Action Stmt Stmt.Res Write Message

/-- The session asked `q` and got `answer`. -/
def Asked (past : List Act) (q : Query) (answer : q.Res) : Prop :=
  (.performed (.read q) answer [] : Act) ∈ past

/-- The session asked `q` with nothing written in its transaction, and got `answer`. -/
def Saw (past : List Act) (q : Query) (answer : q.Res) : Prop :=
  ∃ earlier later, past = earlier ++ .performed (.read q) answer [] :: later ∧
    pendingOf earlier = []

/-- The session came to a row of its snapshot and could not call it. -/
def Skipped (past : List Act) (id locationId : UUID) (serviceId : Option UUID)
    (counterId : UUID) : Prop :=
  (.performed (.callTicket id locationId serviceId counterId) (none : Option Ticket) [] : Act) ∈ past

def commitsOf (past : List Act) : List (List Write) :=
  past.filterMap fun action => match action with
    | .committed writes => some writes
    | _ => none

/-- `past'` continues `past` without a commit. -/
structure Later (past past' : List Act) : Prop where
  continues : past <+: past'
  commits : commitsOf past' = commitsOf past

/-- `past'` continues `past` without a commit and without a write. -/
structure Idle (past past' : List Act) : Prop extends Later past past' where
  pending : pendingOf past' = pendingOf past

section
variable {past past' past'' : List Act}

theorem Later.sub (later : Later past past') : past ⊆ past' := later.continues.subset

theorem Later.refl : Later past past := ⟨List.prefix_rfl, rfl⟩

theorem Later.trans (first : Later past past') (second : Later past' past'') :
    Later past past'' :=
  ⟨first.continues.trans second.continues, second.commits.trans first.commits⟩

theorem Idle.then (first : Idle past past') (second : Idle past' past'') : Idle past past'' :=
  ⟨first.toLater.trans second.toLater, second.pending.trans first.pending⟩

theorem Saw.asked {q : Query} {answer : q.Res} (saw : Saw past q answer) :
    Asked past q answer := by
  obtain ⟨earlier, later, rfl, _⟩ := saw
  simp [Asked]

theorem Saw.continues {q : Query} {answer : q.Res} (saw : Saw past q answer)
    (continues : past <+: past') : Saw past' q answer := by
  obtain ⟨earlier, onward, rfl, unwritten⟩ := saw
  obtain ⟨more, rfl⟩ := continues
  exact ⟨earlier, onward ++ more, by simp, unwritten⟩

theorem Saw.later {q : Query} {answer : q.Res} (saw : Saw past q answer)
    (later : Later past past') : Saw past' q answer := saw.continues later.continues

theorem saw_read {q : Query} {answer : q.Res} (unwritten : pendingOf past = []) :
    Saw (past ++ [.performed (.read q) answer []]) q answer := ⟨past, [], rfl, unwritten⟩

theorem later_performed {stmt : Stmt} {value : stmt.Res} {writes : List Write} :
    Later past (past ++ [.performed stmt value writes]) :=
  ⟨List.prefix_append _ _, by simp [commitsOf]⟩

theorem idle_read {q : Query} {answer : q.Res} :
    Idle past (past ++ [.performed (.read q) answer []]) :=
  ⟨later_performed, by simp [Action.pending]⟩

theorem later_published {msg : Message} : Later past (past ++ [.published msg]) :=
  ⟨List.prefix_append _ _, by simp [commitsOf]⟩

@[simp] theorem commitsOf_committed {writes : List Write} :
    commitsOf (past ++ [.committed writes]) = commitsOf past ++ [writes] := by
  simp [commitsOf]

@[simp] theorem commitsOf_nil : commitsOf [] = [] := rfl

theorem mem_commitsOf {writes : List Write} :
    writes ∈ commitsOf past ↔ (.committed writes : Act) ∈ past := by
  simp only [commitsOf, List.mem_filterMap]
  constructor
  · rintro ⟨action, member, eq⟩
    split at eq
    · cases eq
      exact member
    · cases eq
  · exact fun member => ⟨_, member, rfl⟩

theorem pendingOf_of_open {more : List Act} (uncommitted : commitsOf (past ++ more) = []) :
    pendingOf past <+: pendingOf (past ++ more) := by
  induction more using List.reverseRecOn with
  | nil => simp
  | append_singleton more action ih =>
      rw [← List.append_assoc] at uncommitted ⊢
      rw [pendingOf_concat]
      cases action with
      | committed writes =>
          rw [commitsOf_committed] at uncommitted
          exact (List.append_ne_nil_of_right_ne_nil _ (by simp) uncommitted).elim
      | published msg => exact ih (by simpa [commitsOf] using uncommitted)
      | performed stmt value writes =>
          exact (ih (by simpa [commitsOf] using uncommitted)).trans (List.prefix_append _ _)

theorem mem_pendingOf_of_open {stmt : Stmt} {value : stmt.Res} {writes : List Write}
    {write : Write} (uncommitted : commitsOf past = [])
    (performed : (.performed stmt value writes : Act) ∈ past) (member : write ∈ writes) :
    write ∈ pendingOf past := by
  induction past using List.reverseRecOn with
  | nil => cases performed
  | append_singleton past action ih =>
      rw [pendingOf_concat]
      cases action with
      | committed writes => simp at uncommitted
      | published msg =>
          refine ih (by simpa [commitsOf] using uncommitted) ?_
          simpa using performed
      | performed other answer new =>
          rcases List.mem_append.mp performed with earlier | last
          · exact List.mem_append_left _ (ih (by simpa [commitsOf] using uncommitted) earlier)
          · cases List.mem_singleton.mp last
            exact List.mem_append_right _ member

end

/-! ## What a request is allowed to do -/

namespace Request

def key : Request → Option String
  | .createTicket _ _ key | .kioskCreateTicket _ key | .callNext _ _ _ key
  | .startService _ _ key | .completeTicket _ _ key => given key
  | _ => none

def actor : Request → Option TokenPayload
  | .createTicket _ actor _ | .callNext _ _ actor _ | .startService _ actor _
  | .completeTicket _ actor _ | .holdTicket _ actor | .cancelTicket _ actor | .noShow _ actor
  | .transferTicket _ _ actor | .createTenant _ actor | .updateTenant _ _ actor
  | .createLocation _ actor | .updateLocation _ _ actor | .createService _ actor
  | .updateService _ _ actor | .createCounter _ actor | .updateCounter _ _ actor
  | .createChannel _ actor | .createUser _ actor | .assignRole _ _ actor => some actor
  | .kioskCreateTicket _ _ | .autoNoShowCalledTickets | .cleanupIdempotencyKeys => none

def ticketId : Request → Option UUID
  | .startService ticketId _ _ | .completeTicket ticketId _ _ | .holdTicket ticketId _
  | .cancelTicket ticketId _ | .noShow ticketId _ | .transferTicket ticketId _ _ => some ticketId
  | _ => none

def body : Request → PyDict
  | .createTicket data _ _ => data.body
  | .kioskCreateTicket body _ => body.body
  | .callNext _ body _ _ => body.body
  | .startService ticketId _ _ | .completeTicket ticketId _ _ => ticketBody ticketId
  | _ => []

def refs : Request → RefKind → Option Lock
  | .createTicket data _ _, .location => some (.location data.locationId)
  | .createTicket data _ _, .service => data.serviceId.map .service
  | .createTicket data _ _, .channel => data.channelId.map .channel
  | .kioskCreateTicket body _, .location => some (.location body.locationId)
  | .kioskCreateTicket body _, .service => body.serviceId.map .service
  | .transferTicket _ data _, .location => data.targetLocationId.map .location
  | .transferTicket _ data _, .service => some (.service data.targetServiceId)
  | _, _ => none

def passes (request : Request) (tenantId : UUID) : Prop :=
  ∃ actor ∈ request.actor, actor.tenantId.isText tenantId = true

def ownsTicket (request : Request) (past : List Act) (ticketId : UUID) : Prop :=
  ∃ ticket, Saw past (.ticket ticketId) (some ticket) ∧ request.passes ticket.tenantId

def ownsCounter (request : Request) (past : List Act) (counterId locationId : UUID) : Prop :=
  ∃ counter location, Saw past (.counter counterId) (some counter) ∧
    counter.locationId = locationId ∧ Saw past (.location locationId) (some location) ∧
    request.passes location.tenantId

def tenantIs (request : Request) (past : List Act) (tenantId : UUID) : Prop :=
  match request with
  | .createTicket _ actor _ | .callNext _ _ actor _ | .startService _ actor _
  | .completeTicket _ actor _ => actor.tenantId.parse = some tenantId
  | .kioskCreateTicket body _ =>
      ∃ location, Saw past (.location body.locationId) (some location) ∧
        location.tenantId = tenantId
  | _ => False

def queueIs (request : Request) (past : List Act) (locationId : UUID) (serviceId : Option UUID) :
    Prop :=
  match request with
  | .callNext counterId body _ _ => serviceId = body.serviceId ∧
      ∃ counter, Asked past (.counter counterId) (some counter) ∧ counter.locationId = locationId
  | _ => False

def writesStatus (request : Request) (status : TicketStatus) : Prop :=
  match request with
  | .callNext _ _ _ _ => status = .called
  | .startService _ _ _ => status = .inService
  | .completeTicket _ _ _ => status = .completed
  | .holdTicket _ _ => status = .hold
  | .cancelTicket _ _ => status = .canceled
  | .noShow _ _ | .autoNoShowCalledTickets => status = .noShow
  | .transferTicket _ _ _ => status = .transferred ∨ status = .waiting
  | _ => False

def opensAt : Request → Option UUID
  | .createTicket data _ _ => some data.locationId
  | .kioskCreateTicket body _ => some body.locationId
  | _ => none

/-- Only the CTE of call-next writes CALLED. -/
def changesTo (request : Request) (status : TicketStatus) : Prop :=
  status ≠ .called ∧ request.writesStatus status

def isAdmin : Request → Prop
  | .createTicket _ _ _ | .kioskCreateTicket _ _ | .callNext _ _ _ _ | .startService _ _ _
  | .completeTicket _ _ _ | .holdTicket _ _ | .cancelTicket _ _ | .noShow _ _
  | .transferTicket _ _ _ | .autoNoShowCalledTickets | .cleanupIdempotencyKeys => False
  | _ => True

def sends (env : Nat → Env) (request : Request) : Command → Prop
  | .insertTicket new => request.opensAt = some new.locationId ∧ new.status = .waiting
  | .updateTicket _ set => request.changesTo set.status ∧ set.Stamps env
  | .insertEvent new => new.eventType = .created ∨ new.eventType = .called → new.occurredAt = none
  | .deleteExpiredKeys _ => request = .cleanupIdempotencyKeys
  | .insertRecord _ | .updateRecord _ => request.isAdmin
  | _ => True

/-- A request looks up its key, and takes its number, before it writes. -/
def reads (env : Nat → Env) (request : Request) (past : List Act) : Query → Prop
  | .idempotencyKey tenantId key now => request.tenantIs past tenantId ∧ request.key = some key ∧
      (∃ tick, now = (env tick).now) ∧ pendingOf past = []
  | .nextNumber _ => pendingOf past = []
  | .waitingTickets locationId serviceId => request.queueIs past locationId serviceId
  | _ => True

def calls (request : Request) (past : List Act) (id locationId : UUID) (serviceId : Option UUID)
    (counterId : UUID) : Prop :=
  commitsOf past = [] ∧ request.queueIs past locationId serviceId ∧ ∃ before candidate rest,
    Asked past (.waitingTickets locationId serviceId) (before ++ candidate :: rest) ∧
      candidate.id = id ∧ ∀ ticket ∈ before, Skipped past ticket.id locationId serviceId counterId

def missed (request : Request) (past : List Act) : Prop :=
  request.key = none ∨ ∃ (earlier : List Act) (tenantId : UUID) (key : String) (now : Time)
    (answer : Option IdempotencyKey) (later : List Act),
    past = earlier ++ .performed (.read (.idempotencyKey tenantId key now)) answer [] :: later ∧
      ∀ record ∈ answer, ∀ resourceId ∈ record.resourceId, Asked later (.ticket resourceId) none

structure Opens (request : Request) (past : List Act) (locationId : UUID) (row : Ticket)
    (event : TicketEvent) : Prop where
  first : commitsOf past = []
  status : row.status = .waiting
  location : row.locationId = locationId
  refs : ∀ kind, row.ref kind = request.refs kind
  tenant : request.tenantIs past row.tenantId
  number : Asked past (.nextNumber locationId) row.number
  ticketId : event.ticketId = row.id
  eventType : event.eventType = .created
  fromStatus : event.fromStatus = none
  missed : request.missed past

structure CallsTicket (request : Request) (past : List Act) (counterId : UUID) (row : Ticket)
    (event : TicketEvent) : Prop where
  first : commitsOf past = []
  status : row.status = .called
  counter : row.assignedCounterId = some counterId
  place : request.ownsCounter past counterId row.locationId
  ticketId : event.ticketId = row.id
  eventType : event.eventType = .called
  fromStatus : event.fromStatus = some .waiting
  missed : request.missed past

def findsNone (request : Request) (past : List Act) (counterId : UUID) : Prop :=
  ∃ locationId serviceId candidates, request.queueIs past locationId serviceId ∧
    Asked past (.waitingTickets locationId serviceId) candidates ∧
      ∀ ticket ∈ candidates, Skipped past ticket.id locationId serviceId counterId

structure SavesKey (hexdigest : PyDict → String) (env : Nat → Env) (request : Request)
    (past : List Act) (record : IdempotencyKey) : Prop where
  resource : ∃ first row write, commitsOf past = [first] ∧ write ∈ first ∧
    write.value = some (.ticket row) ∧ record.resourceId = some row.id
  tenant : request.tenantIs past record.tenantId
  key : request.key = some record.key
  hash : record.requestHash = hashBody hexdigest request.body
  lifetime : ∃ tick, record.expiresAt = (env tick).now + hours 24

/-- One change of status with its event, which carries the time that the change stamps. -/
structure Changes (target : TicketStatus) (row : Ticket) (event : TicketEvent) : Prop where
  status : row.status = target
  ticketId : event.ticketId = row.id
  eventType : event.eventType = .ofStatus target
  started : target = .inService → row.serviceStartedAt = some event.occurredAt
  completed : target ∈ TicketStatus.terminal → row.completedAt = some event.occurredAt

def IsEpisode (ticketId : UUID) (writes : List Write) : Prop :=
  ∀ write ∈ writes, ∃ row, write.value = some (.interaction row) ∧ row.ticketId = ticketId

def mayChange (request : Request) (ticketId : UUID) : Prop :=
  request.ticketId = some ticketId ∧ ∃ actor ∈ request.actor, actor.hasRole writeRoles = true

def signs (request : Request) (event : TicketEvent) : Prop :=
  ∃ actor ∈ request.actor, ∃ userId, actor.sub.parse = some userId ∧ event.actorUserId = some userId

def transitions (request : Request) (past : List Act) (target : TicketStatus)
    (event : TicketEvent) : Prop :=
  ∃ ticket, Saw past (.ticket event.ticketId) (some ticket) ∧ request.passes ticket.tenantId ∧
    event.fromStatus = some ticket.status ∧ target ∈ validTransitions ticket.status ∧
      request.mayChange event.ticketId ∧ request.signs event

/-- Start opens one interaction, complete closes what is open, and nobody else does either. -/
def episodeOf (request : Request) (past : List Act) (ticketId : UUID) (writes : List Write) :
    Prop :=
  match request with
  | .startService _ _ _ => ∃ row, writes = [.insert (.interaction row)] ∧ row.endedAt = none
  | .completeTicket _ _ _ => ∃ endedAt,
      (.performed (.write (.closeInteractions ticketId endedAt "completed")) () writes : Act) ∈ past
  | _ => writes = []

def commitsChange (request : Request) (past : List Act) (target : TicketStatus)
    (writes : List Write) : Prop :=
  ∃ row event episode, writes = .update (.ticket row) :: .insert (.event event) :: episode ∧
    commitsOf past = [] ∧ request.transitions past target event ∧ Changes target row event ∧
      IsEpisode row.id episode ∧ request.episodeOf past row.id episode

theorem transitions.ownsTicket {request : Request} {past : List Act} {target : TicketStatus}
    {row : Ticket} {event : TicketEvent} (transitions : request.transitions past target event)
    (changes : Changes target row event) : request.ownsTicket past row.id := by
  obtain ⟨ticket, saw, passes, _⟩ := transitions
  rw [changes.ticketId] at saw
  exact ⟨ticket, saw, passes⟩

def commitsKey (hexdigest : PyDict → String) (env : Nat → Env) (request : Request)
    (past : List Act) (writes : List Write) : Prop :=
  ∃ record, writes = [.insert (.idempotencyKey record)] ∧ SavesKey hexdigest env request past record

def commitsCreation (hexdigest : PyDict → String) (env : Nat → Env) (request : Request)
    (past : List Act) (locationId : UUID) (writes : List Write) : Prop :=
  (∃ row event, writes = [.insert (.ticket row), .insert (.event event)] ∧
    Opens request past locationId row event) ∨ commitsKey hexdigest env request past writes

def commitsCall (hexdigest : PyDict → String) (env : Nat → Env) (request : Request)
    (past : List Act) (counterId : UUID) (writes : List Write) : Prop :=
  (writes = [] ∧ commitsOf past = [] ∧ request.findsNone past counterId) ∨
    (∃ row event, writes = [.update (.ticket row), .insert (.event event)] ∧
      CallsTicket request past counterId row event) ∨ commitsKey hexdigest env request past writes

structure Requeues (request : Request) (past : List Act) (row requeued : Ticket) : Prop where
  id : requeued.id = row.id
  sent : ∃ set, (.performed (.write (.updateTicket row.id set)) requeued
      [.update (.ticket requeued)] : Act) ∈ past ∧
    set.serviceId = requeued.serviceId ∧ set.locationId = some requeued.locationId
  location : requeued.ref .location = (request.refs .location <|> row.ref .location)
  service : requeued.ref .service = request.refs .service
  counter : requeued.ref .counter = none

def commitsTransfer (request : Request) (past : List Act) (writes : List Write) : Prop :=
  ∃ row event requeued requeueEvent,
    writes = [.update (.ticket row), .insert (.event event), .update (.ticket requeued),
      .insert (.event requeueEvent)] ∧
    commitsOf past = [] ∧ request.transitions past .transferred event ∧
    Changes .transferred row event ∧ Changes .waiting requeued requeueEvent ∧
    Requeues request past row requeued

def commitsNoShows (past : List Act) (writes : List Write) : Prop :=
  ∃ (rows : List Ticket) (events : List TicketEvent),
    writes = rows.map (fun row => .update (.ticket row)) ++
      events.map (fun event => .insert (.event event)) ∧
    (∀ row ∈ rows, row.status = .noShow) ∧ (∀ event ∈ events, event.eventType = .noShow) ∧
    (rows.map Ticket.id).Perm (events.map TicketEvent.ticketId) ∧
    commitsOf past = [] ∧ (rows.map Ticket.id).Nodup

end Request

def Request.inserts (request : Request) : Write → Prop
  | .insert (.service row) => ∃ data actor, request = .createService data actor ∧
      row.tenantId = data.tenantId ∧ row.locationId = data.locationId
  | .insert (.userRole row) => ∃ userId data actor, request = .assignRole userId data actor ∧
      row = ⟨userId, data.roleId, data.locationId⟩
  | _ => True

def OnlyRecords (request : Request) (writes : List Write) : Prop :=
  ∀ write ∈ writes, write.lock.isRecord = true ∧ request.inserts write

def Request.commits (hexdigest : PyDict → String) (env : Nat → Env) (request : Request)
    (past : List Act) (writes : List Write) : Prop :=
  match request with
  | .createTicket data _ _ => request.commitsCreation hexdigest env past data.locationId writes
  | .kioskCreateTicket body _ => request.commitsCreation hexdigest env past body.locationId writes
  | .callNext counterId _ _ _ => request.commitsCall hexdigest env past counterId writes
  | .startService _ _ _ =>
      request.commitsChange past .inService writes ∨ request.commitsKey hexdigest env past writes
  | .completeTicket _ _ _ =>
      request.commitsChange past .completed writes ∨ request.commitsKey hexdigest env past writes
  | .holdTicket _ _ => request.commitsChange past .hold writes
  | .cancelTicket _ _ => request.commitsChange past .canceled writes
  | .noShow _ _ => request.commitsChange past .noShow writes
  | .transferTicket _ _ _ => request.commitsTransfer past writes
  | .autoNoShowCalledTickets => commitsNoShows past writes
  | .cleanupIdempotencyKeys => ∀ write ∈ writes, ∃ tenantId key, write = .dropKey tenantId key
  | _ => OnlyRecords request writes

def Request.allows (hexdigest : PyDict → String) (env : Nat → Env) (request : Request)
    (past : List Act) : Act → Prop
  | .performed (.read q) _ _ => request.reads env past q
  | .performed (.callTicket id locationId serviceId counterId) _ _ =>
      request.calls past id locationId serviceId counterId
  | .performed (.write command) _ _ => request.sends env command
  | .committed writes => request.commits hexdigest env past writes
  | .published _ => True

/-- How call-next ends: with the ticket it called, with none, or with the ticket of a replay. The
second way to end with none would need the called row to be gone. -/
def Request.returns (request : Request) (past : List Act) (response : Response) : Prop :=
  match request with
  | .callNext counterId _ _ _ => match response with
      | .called none => (commitsOf past = [[]] ∧ request.findsNone past counterId) ∨
          ∃ row event, commitsOf past = [[.update (.ticket row), .insert (.event event)]] ∧
            Asked past (.ticket row.id) none
      | .called (some read) => commitsOf past = [] ∨
          ∃ row event rest, commitsOf past =
            [.update (.ticket row), .insert (.event event)] :: rest ∧ read.ticket.id = row.id
      | _ => False
  | _ => True

end QueueFlow.App
