import QueueFlow.Concurrency.EventLog
import QueueFlow.Conduct.Sending
import QueueFlow.Tenancy.Links

/-!
# Clients without a write role

Clients that are not logged in, and actors whose roles may not write, can only queue up: every
handler but the kiosk's turns them away before its first statement.
-/

namespace QueueFlow.Tenancy
open QueueFlow.App QueueFlow.Data QueueFlow.Tables QueueFlow.Transactions QueueFlow.Concurrency

/-- Nobody is logged in at the kiosk. -/
def IsVisitor (request : Request) : Prop :=
  (∃ body key, request = .kioskCreateTicket body key) ∨
    ∃ actor ∈ request.actor, actor.hasRole writeRoles = false

def IsNewTicket (before after : Database) (id : UUID) : Prop :=
  before.tickets.get? id = none ∧ (after.tickets.get? id).isSome = true

def QueuesUp (before after : Database) : Row → Prop
  | .ticket row => row.status = .waiting ∧ row.priority = 5 ∧ row.channelId = none ∧
      row.notes = none ∧ row.assignedCounterId = none ∧
      (∃ location ∈ before.locations.get? row.locationId, location.tenantId = row.tenantId) ∧
      ∃ event, after.eventsOf row.id = [event] ∧ event.eventType = .created ∧
        event.actorUserId = none
  | .event event => IsNewTicket before after event.ticketId
  | .idempotencyKey record => ∀ id ∈ record.resourceId, IsNewTicket before after id
  | _ => False

/-- All rows are kept, and the rows added are those of new tickets in the queue. -/
structure OnlyQueues (before after : Database) : Prop where
  kept : ∀ lock row, before.row lock = some row → after.row lock = some row
  roles : after.roles = before.roles
  added : ∀ lock row, before.row lock = none → after.row lock = some row →
    QueuesUp before after row

/-! ## Handlers that turn a visitor away -/

def TurnsAway {α : Type} (handler : Handler α) : Prop := ∃ error, handler = .raise error

theorem TurnsAway.bind {α β : Type} {handler : Handler α} (turned : TurnsAway handler)
    (next : α → Handler β) : TurnsAway (handler.bind next) := by
  obtain ⟨error, rfl⟩ := turned
  exact ⟨error, rfl⟩

section
variable {actor : TokenPayload}

theorem hasRole_of_visitor (visitor : actor.hasRole writeRoles = false) {roles : List RoleName}
    (among : roles ⊆ writeRoles) : actor.hasRole roles = false := by
  simp only [TokenPayload.hasRole, List.any_eq_false, decide_eq_true_eq] at visitor ⊢
  exact fun role member has => visitor role member (among has)

theorem turnsAway_guard {condition : Bool} (failure : Failure) (fails : condition = false) :
    TurnsAway (if condition then return () else .raise failure : Handler Unit) :=
  ⟨failure, by simp [fails]⟩

theorem requireRole_turnsAway (visitor : actor.hasRole writeRoles = false) :
    TurnsAway (requireRole actor writeRoles) := turnsAway_guard _ visitor

theorem requireStaff_turnsAway (visitor : actor.hasRole writeRoles = false) :
    TurnsAway (requireStaff actor) := turnsAway_guard _ visitor

theorem requireManager_turnsAway (visitor : actor.hasRole writeRoles = false) :
    TurnsAway (requireManager actor) :=
  turnsAway_guard _ (hasRole_of_visitor visitor (by simp [writeRoles]))

theorem requireAdmin_turnsAway (visitor : actor.hasRole writeRoles = false) :
    TurnsAway (requireAdmin actor) :=
  turnsAway_guard _ (hasRole_of_visitor visitor (by simp [writeRoles]))

theorem program_turnsAway (hexdigest : PyDict → String) {request : Request}
    (acts : request.actor = some actor) (visitor : actor.hasRole writeRoles = false) :
    TurnsAway (program hexdigest request) := by
  have changes := requireRole_turnsAway visitor
  have manages := requireManager_turnsAway visitor
  have administers := requireAdmin_turnsAway visitor
  cases request with
  | kioskCreateTicket | autoNoShowCalledTickets | cleanupIdempotencyKeys => cases acts
  | callNext => cases acts; exact ((requireStaff_turnsAway visitor).bind _).bind _
  | createTicket | startService | completeTicket | holdTicket | cancelTicket | noShow
  | transferTicket => cases acts; exact (changes.bind _).bind _
  | createTenant | updateTenant | createUser | assignRole =>
      cases acts; exact (administers.bind _).bind _
  | createLocation | updateLocation | createService | updateService | createCounter
  | updateCounter | createChannel => cases acts; exact (manages.bind _).bind _

end

/-! ## The kiosk -/

def Stmt.queuesUp : Stmt → Prop
  | .read _ | .write (.insertIdempotencyKey _) => True
  | .write (.insertTicket new) => new.priority = 5 ∧ new.channelId = none ∧ new.notes = none
  | .write (.insertEvent new) => new.actorUserId = none
  | _ => False

theorem lenient_queuesUp : Lenient Stmt.queuesUp := ⟨fun _ => trivial, fun _ => trivial⟩

theorem queuesUp_kioskCreateTicket {hexdigest : PyDict → String} {body : KioskTicketCreate}
    {key : Option String} : (kioskCreateTicket hexdigest body key).Sends Stmt.queuesUp :=
  lenient_queuesUp.kioskCreateTicket (fun _ priority channel notes => ⟨priority, channel, notes⟩)
    fun _ unsigned => unsigned

def SentByVisitor (request : Request) (stmt : Stmt) : Prop :=
  (∃ body key, request = .kioskCreateTicket body key) ∧ Stmt.queuesUp stmt

theorem program_sentByVisitor (hexdigest : PyDict → String) {request : Request}
    (visitor : IsVisitor request) :
    (program hexdigest request).Sends (SentByVisitor request) := by
  rcases visitor with ⟨body, key, rfl⟩ | ⟨actor, acts, visitor⟩
  · have queues : (program hexdigest (.kioskCreateTicket body key)).Sends Stmt.queuesUp :=
      sends_bind queuesUp_kioskCreateTicket fun _ => trivial
    exact sends_mono (fun stmt fine => ⟨⟨body, key, rfl⟩, fine⟩) queues
  · obtain ⟨error, turned⟩ := program_turnsAway hexdigest acts visitor
    rw [turned]
    trivial

def Row.isQueued : Row → Prop
  | .ticket row => row.priority = 5 ∧ row.channelId = none ∧ row.notes = none ∧
      row.assignedCounterId = none
  | .event event => event.actorUserId = none
  | .idempotencyKey _ => True
  | _ => False

theorem insert_of_queuesUp {stmt : Stmt} {context : Context Database Lock Env} {write : Write}
    (queues : Stmt.queuesUp stmt) (makes : stmt.Makes context write) :
    ∃ row, write = .insert row ∧ Row.isQueued row := by
  cases makes with
  | insertTicket new => exact ⟨_, rfl, queues.1, queues.2.1, queues.2.2, rfl⟩
  | insertEvent new => exact ⟨_, rfl, queues⟩
  | insertIdempotencyKey new => exact ⟨_, rfl, trivial⟩
  | _ => exact queues.elim

theorem roles_of_queued {writes : List Write} {db : Database}
    (queued : ∀ write ∈ writes, ∃ row, write = .insert row ∧ Row.isQueued row) :
    (engine.applyAll db writes).roles = db.roles := by
  induction writes generalizing db with
  | nil => rfl
  | cons write writes ih =>
      obtain ⟨first, rest⟩ := List.forall_mem_cons.mp queued
      obtain ⟨row, rfl, isQueued⟩ := first
      refine (ih rest).trans ?_
      cases row <;> first | rfl | exact isQueued.elim

/-! ## Runs of visitors -/

section
variable {ι : Type} [DecidableEq ι] {hexdigest : PyDict → String} {env : Nat → Env}
  {requests : ι → Request} {db : Database} {w : AppWorld ι}
  (reach : Reachable engine env (initial hexdigest requests db) w)
  (visitors : ∀ i, IsVisitor (requests i))
include reach visitors

theorem written_by_visitor {n : Nat} {i : ι} {stmt : Stmt} {value : stmt.Res} {writes : List Write}
    (located : w.state.log[n]? = some ⟨i, .performed stmt value writes⟩) {write : Write}
    (member : write ∈ writes) : (∃ body key, requests i = .kioskCreateTicket body key) ∧
      ∃ row, write = .insert row ∧ Row.isQueued row := by
  have sends : ∀ i program, (initial hexdigest requests db).session i = .running program →
      program.Sends (SentByVisitor (requests i)) := by
    rintro i _ ⟨⟩
    exact program_sentByVisitor hexdigest (visitors i)
  have sent := reach.sent sends located
  obtain ⟨context, locks, ran, _⟩ := (reaches_provenance reach).answered located
  exact ⟨sent.1, insert_of_queuesUp sent.2 (makes_of_exec ran.exec member)⟩

theorem committed_by_visitor {write : Write} (member : write ∈ committedWrites w.state.log) :
    ∃ n i writes body key, CommitAt w.state.log n i writes ∧ write ∈ writes ∧
      requests i = .kioskCreateTicket body key ∧ ∃ row, write = .insert row ∧ Row.isQueued row := by
  obtain ⟨n, i, writes, commit, written⟩ := mem_committedWrites_at member
  obtain ⟨m, stmt, value, performed, _, located, made⟩ :=
    (reaches_provenance reach).performed_of_committed commit written
  obtain ⟨⟨body, key, kiosk⟩, queued⟩ := written_by_visitor reach visitors located made
  exact ⟨n, i, writes, body, key, commit, written, kiosk, queued⟩

theorem visitors_insert : ∀ write ∈ committedWrites w.state.log, ∃ row, write = .insert row := by
  intro write member
  obtain ⟨_, _, _, _, _, _, _, _, row, rfl, _⟩ := committed_by_visitor reach visitors member
  exact ⟨row, rfl⟩

theorem queued_of_inserted {row : Row} (member : .insert row ∈ committedWrites w.state.log) :
    Row.isQueued row := by
  obtain ⟨_, _, _, _, _, _, _, _, other, same, queued⟩ := committed_by_visitor reach visitors member
  cases same
  exact queued

theorem new_of_inserted {row : Ticket}
    (member : .insert (.ticket row) ∈ committedWrites w.state.log) :
    IsNewTicket db w.state.store row.id := by
  obtain ⟨absent, found⟩ := row_inserted (reaches_serial reach).history
    (visitors_insert reach visitors) member
  rw [← (reaches_serial reach).replay] at found
  exact ⟨Option.map_eq_none_iff.mp absent, by rw [get?_of_row found]; rfl⟩

theorem visitor_opens {n : Nat} {i : ι} {writes : List Write} {row : Ticket}
    (commit : CommitAt w.state.log n i writes) (member : .insert (.ticket row) ∈ writes)
    {body : KioskTicketCreate} {key : Option String}
    (kiosk : requests i = .kioskCreateTicket body key) : row.status = .waiting ∧
      ∃ location ∈ db.locations.get? row.locationId, location.tenantId = row.tenantId := by
  obtain ⟨locationId, event, opensAt, _, opens⟩ := commits_insert (commits_at reach commit) member
  have tenant := opens.tenant
  rw [kiosk] at opensAt tenant
  cases opensAt
  obtain ⟨location, saw, owns⟩ := tenant
  obtain ⟨m, order, _, _, read⟩ := asked_view reach saw.asked
  have stored : (viewAt engine db i (w.state.log.take m)).row (.location body.locationId) =
      db.row (.location body.locationId) := by
    refine view_unwritten reach (fun q j stmt value writes located write made locked => ?_) i m
    obtain ⟨_, row, rfl, queued⟩ := written_by_visitor reach visitors located made
    cases row <;> first | cases locked | exact queued
  have here : (some location).map Row.location =
      (db.locations.get? body.locationId).map Row.location :=
    (congrArg (Option.map Row.location) read).trans stored
  refine ⟨opens.status, location, ?_, owns⟩
  rw [opens.location]
  exact (Option.map_injective (fun _ _ same => Row.location.inj same) here).symm

theorem visitor_logs {row : Ticket} (member : .insert (.ticket row) ∈ committedWrites w.state.log)
    (orphans : db.eventsOf row.id = []) : ∃ event, w.state.store.eventsOf row.id = [event] ∧
      event.eventType = .created ∧ event.actorUserId = none := by
  have absent := (new_of_inserted reach visitors member).1
  have types : (loggedEvents w.state.log row.id).map TicketEvent.eventType = [.created] := by
    rw [show (loggedEvents w.state.log row.id).map TicketEvent.eventType = _ from
      logged_eq reach row.id, loggedAs_of_absent (reaches_serial reach).history absent]
    have once := length_ticketVersions_inserts (reaches_serial reach).history
      (visitors_insert reach visitors) row.id
    have version : row ∈ ticketVersions row.id (committedWrites w.state.log) :=
      mem_ticketVersions.mpr ⟨rfl, .inl member⟩
    cases versions : ticketVersions row.id (committedWrites w.state.log) with
    | nil =>
        rw [versions] at version
        cases version
    | cons first rest =>
        rw [versions] at once
        cases rest with
        | nil => rfl
        | cons second rest => exact (Nat.not_succ_le_zero _ (Nat.le_of_succ_le_succ once)).elim
  obtain ⟨event, logged, created⟩ := List.map_eq_singleton_iff.mp types
  refine ⟨event, by rw [final_events reach, orphans, logged, List.nil_append], created, ?_⟩
  have listed : event ∈ loggedEvents w.state.log row.id := by simp [logged]
  obtain ⟨write, written, stored⟩ := List.mem_filterMap.mp listed
  obtain ⟨_, rfl⟩ := event?_eq_some.mp stored
  exact queued_of_inserted reach visitors written

theorem visitors_only_queue (intact : ∀ event ∈ db.ticketEvents.rows, db.hasTicket event.ticketId) :
    OnlyQueues db w.state.store where
  kept lock row found := by
    rw [(reaches_serial reach).replay]
    exact row_kept_of_inserts (reaches_serial reach).history (visitors_insert reach visitors) found
  roles := by
    rw [(reaches_serial reach).replay]
    refine roles_of_queued fun write member => ?_
    obtain ⟨row, rfl⟩ := visitors_insert reach visitors write member
    exact ⟨row, rfl, queued_of_inserted reach visitors member⟩
  added lock row absent found := by
    rw [(reaches_serial reach).replay] at found
    rcases row_applyAll_cases engine_rowed db (committedWrites w.state.log) lock with
      same | ⟨write, member, locked, made⟩
    · rw [same, absent] at found
      cases found
    · obtain ⟨n, i, writes, body, key, commit, written, kiosk, row, rfl, queued⟩ :=
        committed_by_visitor reach visitors member
      rw [made] at found
      cases found
      cases row with
      | ticket row =>
          obtain ⟨waits, tenant⟩ := visitor_opens reach visitors commit written kiosk
          have orphans : db.eventsOf row.id = [] := by
            refine List.filter_eq_nil_iff.mpr fun event stored mine => ?_
            have has := intact event stored
            rw [of_decide_eq_true mine, Database.hasTicket,
              (new_of_inserted reach visitors member).1] at has
            cases has
          exact ⟨waits, queued.1, queued.2.1, queued.2.2.1, queued.2.2.2, tenant,
            visitor_logs reach visitors member orphans⟩
      | event event =>
          have commits := commits_at reach commit
          rw [kiosk] at commits
          rcases commits with ⟨row, other, rfl, opens⟩ | ⟨record, rfl, _⟩
          · simp only [List.mem_cons, Write.insert.injEq, Row.event.injEq, reduceCtorEq,
              List.not_mem_nil, or_false, false_or] at written
            rw [QueuesUp, written, opens.ticketId]
            refine new_of_inserted reach visitors ?_
            exact mem_committedWrites.mpr ⟨i, _, List.mem_of_getElem? commit, List.mem_cons_self⟩
          · simp at written
      | idempotencyKey record =>
          rintro id named
          obtain ⟨first, row, earlier, commits, inside, same, resource⟩ :=
            (commits_key (commits_at reach commit) written).resource
          rw [resource] at named
          cases named
          have past : first ∈ commitsOf (pastOf i (w.state.log.take n)) := by simp [commits]
          have logged := List.mem_of_mem_take (mem_pastOf.mp (mem_commitsOf.mp past))
          have stored : earlier ∈ committedWrites w.state.log :=
            mem_committedWrites.mpr ⟨i, first, logged, inside⟩
          obtain ⟨other, rfl⟩ := visitors_insert reach visitors earlier stored
          cases same
          exact new_of_inserted reach visitors stored
      | _ => exact queued.elim

end

def viewer : TokenPayload := ⟨.canonical 41, .canonical 1, [.viewer]⟩

def guests : Nat → Request
  | 0 => .cancelTicket 2 viewer
  | 1 | 2 => .kioskCreateTicket { locationId := 10, serviceId := some 20 } (some "k")
  | _ => .updateLocation 10 { active := some false } viewer

def guestsStart : AppWorld Nat := initial textDigest guests crowdedOffice

theorem guests_are_visitors (i : Nat) : IsVisitor (guests i) := by
  match i with
  | 0 => exact .inr ⟨viewer, rfl, rfl⟩
  | 1 | 2 => exact .inl ⟨_, _, rfl⟩
  | _ + 3 => exact .inr ⟨viewer, rfl, rfl⟩

theorem visitors_only_queue_guests : OnlyQueues crowdedOffice
    (guestsStart.after engine steadyEnv (runs 0 ++ runs 1 ++ runs 2 ++ runs 3)).state.store :=
  visitors_only_queue (reachable_after _) guests_are_visitors (by decide)

end QueueFlow.Tenancy
