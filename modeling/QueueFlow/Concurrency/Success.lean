import QueueFlow.Concurrency.Keyed
import QueueFlow.Data.Order

/-!
# Operations that succeed

What is enough for call-next, start and complete to go through when nobody else is at work.
-/

namespace QueueFlow.Concurrency
open QueueFlow.App QueueFlow.Data QueueFlow.Tables QueueFlow.Transactions

/-! ## Statements -/

section
variable {db : Database} {id fresh : UUID} {now : Time} {row : Ticket} {set : TicketUpdate}

theorem updatedTicket_ok (allowed : set.status ∈ validTransitions row.status)
    (service : set.serviceId = none) (location : set.locationId = none)
    (counter : ∀ id, set.assignedCounterId = some (some id) → db.hasCounter id = true) :
    db.updatedTicket set now row = .ok (set.apply now row) := by
  have passes := (trigger_passes_iff row.status set.status).mpr (.inr allowed)
  have counters : ((set.assignedCounterId.bind fun id => id).all db.hasCounter) = true := by
    cases assigned : set.assignedCounterId with
    | none => rfl
    | some id =>
        cases id with
        | none => rfl
        | some id => exact counter id assigned
  rw [Database.updatedTicket, passes]
  refine require_eq_ok.mpr ⟨fun check member => ?_, rfl⟩
  simp only [service, location, List.mem_cons, List.not_mem_nil, or_false] at member
  rcases member with rfl | rfl | rfl
  · rfl
  · rfl
  · exact counters

theorem run_updateTicket_ok (found : db.tickets.get? id = some row)
    (allowed : set.status ∈ validTransitions row.status) (stays : set.Stays) :
    (Command.updateTicket id set).run db fresh now =
      .ok (set.apply now row, [.update (.ticket (set.apply now row))]) := by
  have updated : db.updatedTicket set now row = .ok (set.apply now row) :=
    updatedTicket_ok allowed stays.1 stays.2.1 fun id assigned => by simp [stays.2.2] at assigned
  simp [Command.run, found, updated, Except.map]

theorem run_insertEvent_ok {new : NewEvent} (absent : db.ticketEvents.get? fresh = none)
    (ticket : db.hasTicket new.ticketId = true)
    (user : ∀ userId ∈ new.actorUserId, db.hasUser userId = true) :
    (Command.insertEvent new).run db fresh now =
      .ok ((), [.insert (.event (new.row fresh now))]) := by
  refine require_eq_ok.mpr ⟨fun check member => ?_, rfl⟩
  simp only [NewEvent.checks, List.mem_cons, List.not_mem_nil, or_false] at member
  rcases member with rfl | rfl | rfl
  · simp [absent]
  · exact ticket
  · exact (Option.all_eq_true _ _).mpr user

theorem run_insertInteraction_ok {ticketId : UUID} {counterId : Option UUID} {startedAt : Time}
    (absent : db.interactions.get? fresh = none) (ticket : db.hasTicket ticketId = true)
    (counter : ∀ id ∈ counterId, db.hasCounter id = true) :
    (Command.insertInteraction ticketId counterId startedAt).run db fresh now = .ok ((),
      [.insert (.interaction ⟨fresh, ticketId, counterId, some startedAt, none, none⟩)]) := by
  refine require_eq_ok.mpr ⟨fun check member => ?_, rfl⟩
  simp only [List.mem_cons, List.not_mem_nil, or_false] at member
  rcases member with rfl | rfl | rfl
  · simp [absent]
  · exact ticket
  · exact (Option.all_eq_true _ _).mpr counter

end

/-! ## Rules -/

section
variable {ι : Type} [DecidableEq ι] {env : Nat → Env} {i : ι} {β : Type}
  {Q : Session Stmt Stmt.Res Failure Message Env β → Database → List Message → Prop}
  {db : Database} {pending : List Write} {tick : Nat}

theorem ends_write {c : Command} {next : c.Res → Handler β} {value : Time → c.Res}
    {new : Time → List Write}
    (succeeds : ∀ now, c.run (engine.applyAll db pending) (env tick).uuid now =
      .ok (value now, new now))
    (rest : ∀ now, Ends engine env i Q (next (value now)) db (pending ++ new now) (tick + 1)) :
    Ends engine env i Q ((command c).bind next) db pending tick := by
  refine ends_perform (fun context error sees exec => ?_)
    fun context answer writes locks sees exec => ?_
  · have exec : (Stmt.write c).exec context = .fail error := exec
    rw [Stmt.exec, sees.view, sees.env, succeeds] at exec
    cases exec
  · have exec : (Stmt.write c).exec context = .done answer writes locks := exec
    rw [Stmt.exec, sees.view, sees.env, succeeds] at exec
    cases exec
    exact rest _

theorem ends_callTicket_ok {id locationId counterId : UUID} {serviceId : Option UUID} {row : Ticket}
    {next : Option Ticket → Handler β} (found : db.tickets.get? id = some row)
    (waits : row.waitsFor locationId serviceId) (counter : db.hasCounter counterId = true)
    (rest : ∀ now, Ends engine env i Q (next (some ((callUpdate counterId now).apply now row))) db
      [.update (.ticket ((callUpdate counterId now).apply now row))] (tick + 1)) :
    Ends engine env i Q
      ((Program.perform (Stmt.callTicket id locationId serviceId counterId)).bind next) db []
      tick := by
  have updated (now : Time) : db.updatedTicket (callUpdate counterId now) now row =
      .ok ((callUpdate counterId now).apply now row) := by
    refine updatedTicket_ok ?_ rfl rfl ?_
    · rw [waits.2.1]
      simp [callUpdate, validTransitions]
    · rintro _ ⟨⟩
      exact counter
  have calls (context : Context Database Lock Env) (sees : context.Over db (env tick)) :
      (Stmt.callTicket id locationId serviceId counterId).exec context =
        .done (some ((callUpdate counterId context.began.now).apply context.began.now row))
          [.update (.ticket ((callUpdate counterId context.began.now).apply context.began.now row))]
          [.ticket id] := by
    simp [Stmt.exec, sees.free, sees.view, found, waits, updated]
  refine ends_perform (fun context error sees exec => ?_)
    fun context value new locks sees exec => ?_
  · have exec : (Stmt.callTicket id locationId serviceId counterId).exec context =
      .fail error := exec
    rw [calls context sees] at exec
    cases exec
  · have exec : (Stmt.callTicket id locationId serviceId counterId).exec context =
      .done value new locks := exec
    rw [calls context sees] at exec
    cases exec
    exact rest _

theorem ends_silent_ok {α : Type} {program : Handler α} {next : α → Handler β} {value : α}
    (passes : program = .ret value)
    (rest : Ends engine env i Q (next value) db pending tick) :
    Ends engine env i Q (program.bind next) db pending tick := by
  rw [passes]
  exact rest

structure Touches (db after : Database) (new : Ticket) : Prop where
  ticket : after.tickets.get? new.id = some new
  others : ∀ id, id ≠ new.id → after.tickets.get? id = db.tickets.get? id
  records : ∀ lock : Lock, lock.isRecord = true → after.row lock = db.row lock

theorem touches_applyAll {new : Ticket} {rest : List Write}
    (plain : ∀ write ∈ rest, write.lock.isRecord = false ∧ ∀ id, write.lock ≠ .ticket id) :
    Touches db (engine.applyAll db (.update (.ticket new) :: rest)) new where
  ticket := get?_of_written_once db (.inr rfl) fun write member => (plain write member).2 _
  others id other := by
    refine get?_of_unlocked db fun write member => ?_
    rcases List.mem_cons.mp member with rfl | member
    · simpa [Write.lock, Row.lock] using other.symm
    · exact (plain write member).2 id
  records lock isRecord := by
    refine row_applyAll_of_unlocked engine_rowed db fun write member => ?_
    rcases List.mem_cons.mp member with rfl | member
    · rintro rfl
      cases isRecord
    · rintro rfl
      exact absurd isRecord (by simp [engine, (plain write member).1])

theorem touches_logged {new : Ticket} (event : TicketEvent) :
    Touches db (engine.applyAll db [.update (.ticket new), .insert (.event event)]) new :=
  touches_applyAll (by simp [Write.lock, Row.lock, Lock.isRecord])

theorem Touches.hasTicket {after : Database} {new : Ticket} (touches : Touches db after new) :
    after.hasTicket new.id = true := by
  rw [Database.hasTicket, touches.ticket]
  rfl

/-- No event and no interaction has an identifier that is yet to be drawn. -/
def Undrawn (env : Nat → Env) (db : Database) : Prop :=
  ∀ tick, db.ticketEvents.get? (env tick).uuid = none ∧ db.interactions.get? (env tick).uuid = none

structure IsClerk (db : Database) (tenantId : UUID) (actor : TokenPayload) : Prop where
  role : actor.hasRole writeRoles = true
  tenant : actor.tenantId = .canonical tenantId
  user : ∃ userId ∈ actor.sub.parse, db.hasUser userId = true

instance (db : Database) (tenantId : UUID) (actor : TokenPayload) :
    Decidable (IsClerk db tenantId actor) :=
  decidable_of_iff (actor.hasRole writeRoles = true ∧ actor.tenantId = .canonical tenantId ∧
      ∃ userId ∈ actor.sub.parse, db.hasUser userId = true)
    ⟨fun ⟨role, tenant, user⟩ => ⟨role, tenant, user⟩,
      fun clerk => ⟨clerk.role, clerk.tenant, clerk.user⟩⟩

variable {actor : TokenPayload} {row : Ticket} {target : TicketStatus}

theorem ends_changeStatus_ok {next : Ticket → Handler β} (fresh : Undrawn env db)
    (clerk : IsClerk db row.tenantId actor) (found : db.tickets.get? row.id = some row)
    (valid : target ∈ validTransitions row.status)
    (rest : ∀ stamp now event tick,
      Ends engine env i Q (next ((transitionUpdate target stamp).apply now row)) db
        [.update (.ticket ((transitionUpdate target stamp).apply now row)), .insert (.event event)]
        tick) :
    Ends engine env i Q ((changeStatus row.id actor target).bind next) db [] tick := by
  obtain ⟨userId, parsed, known⟩ := clerk.user
  simp only [changeStatus, getOr404, transitionStatus, Program.bind_eq, Program.pure_eq,
    Program.bind_assoc, Program.mapRaise_bind, Program.mapRaise_observe]
  refine ends_query rfl ?_
  simp only [Query.eval, Engine.applyAll_nil, found, Program.ret_bind]
  have passes : checkTenant row.tenantId actor = .ret () :=
    checkTenant_ret (by simp [clerk.tenant, UuidText.isText])
  have parses : parse actor.sub = .ret userId := parse_ret parsed
  have steps : (transition row.status target).mapRaise asConflict = .ret () := by
    simp [transition, valid, Program.pure_eq]
  refine ends_silent_ok passes (ends_silent_ok parses (ends_silent_ok steps (ends_observe ?_)))
  refine ends_write (fun now => run_updateTicket_ok found valid ⟨rfl, rfl, rfl⟩) fun now => ?_
  refine ends_write (fun later => run_insertEvent_ok ?_ ?_ ?_) fun later => ?_
  · exact (fresh _).1
  · exact (touches_applyAll (by simp)).hasTicket
  · rintro _ ⟨⟩
    exact known
  · exact rest _ now _ _

/-! ## Operations -/

variable {hexdigest : PyDict → String} {counter : Counter} {location : Location}
  {episode : Ticket → Handler Unit}

def Brings (db : Database) (row : Ticket) (status : TicketStatus) (after : Database) : Prop :=
  ∃ new, new.id = row.id ∧ new.tenantId = row.tenantId ∧ new.status = status ∧ Touches db after new

theorem ends_keyedChange_ok (fresh : Undrawn env db) (clerk : IsClerk db row.tenantId actor)
    (found : db.tickets.get? row.id = some row) (valid : target ∈ validTransitions row.status)
    (writes : ∀ stamp now event tick {next : Unit → Handler Response},
      (∀ tick episode, (∀ write ∈ episode, write.lock.isRecord = false ∧
          ∀ id, write.lock ≠ .ticket id) →
        Ends engine env i (fun _ store _ => Brings db row target store) (next ()) db
          (.update (.ticket ((transitionUpdate target stamp).apply now row)) ::
            .insert (.event event) :: episode) tick) →
      Ends engine env i (fun _ store _ => Brings db row target store)
        ((episode ((transitionUpdate target stamp).apply now row)).bind next) db
        [.update (.ticket ((transitionUpdate target stamp).apply now row)),
          .insert (.event event)] tick) :
    Ends engine env i (fun _ store _ => Brings db row target store)
      (readTicket <$> keyedChange hexdigest row.id actor none target episode) db [] tick := by
  simp only [keyedChange, keyedChangeNew, given, Option.filter_none, Program.map_eq,
    Program.bind_eq, Program.pure_eq, Program.bind_assoc, requireRole_ret clerk.role,
    Program.ret_bind]
  refine ends_changeStatus_ok fresh clerk found valid fun stamp now event tick => ?_
  refine writes stamp now event tick fun tick episode plain => ends_commit ?_
  have touches : Touches db (engine.applyAll db
      (.update (.ticket ((transitionUpdate target stamp).apply now row)) ::
        .insert (.event event) :: episode)) ((transitionUpdate target stamp).apply now row) :=
    touches_applyAll
      (List.forall_mem_cons.mpr ⟨by simp [Write.lock, Row.lock, Lock.isRecord], plain⟩)
  refine ends_refresh touches.ticket fun tick => ?_
  simp only [saveKey, given, Option.filter_none, Program.pure_eq, Program.ret_bind]
  exact ends_publishSignage fun _ =>
    ⟨(transitionUpdate target stamp).apply now row, rfl, rfl, rfl, touches⟩

theorem ends_startService_ok (hexdigest : PyDict → String) (i : ι) (tick : Nat)
    (fresh : Undrawn env db) (clerk : IsClerk db row.tenantId actor)
    (found : db.tickets.get? row.id = some row) (called : row.status = .called)
    (assigned : ∀ id ∈ row.assignedCounterId, db.hasCounter id = true) :
    Ends engine env i (fun _ store _ => Brings db row .inService store)
      (program hexdigest (.startService row.id actor none)) db [] tick := by
  refine ends_keyedChange_ok fresh clerk found (by simp [called, validTransitions])
    fun stamp now event tick next onward => ?_
  simp only [openInteraction, Program.bind_eq]
  refine ends_observe (ends_write (fun now => run_insertInteraction_ok (fresh _).2 ?_ assigned)
    fun now => onward _ _ ?_)
  · exact (touches_logged event).hasTicket
  · simp [Write.lock, Row.lock, Lock.isRecord]

theorem ends_completeTicket_ok (hexdigest : PyDict → String) (i : ι) (tick : Nat)
    (fresh : Undrawn env db) (clerk : IsClerk db row.tenantId actor)
    (found : db.tickets.get? row.id = some row) (serving : row.status = .inService) :
    Ends engine env i (fun _ store _ => Brings db row .completed store)
      (program hexdigest (.completeTicket row.id actor none)) db [] tick := by
  refine ends_keyedChange_ok fresh clerk found (by simp [serving, validTransitions])
    fun stamp now event tick next onward => ?_
  simp only [closeInteraction, Program.bind_eq]
  refine ends_observe (ends_write (fun now => rfl) fun now => onward _ _ ?_)
  · simp [Write.lock, Row.lock, Lock.isRecord]

/-- The queue is empty, or the ticket that nobody precedes is called and shown. -/
def CallsFirst (db : Database) (locationId counterId : UUID) (serviceId : Option UUID)
    (session : Session Stmt Stmt.Res Failure Message Env Response) (after : Database) : Prop :=
  (session = .returned (.called none) ∧ after = db ∧
    ∀ row ∈ db.tickets.rows, ¬ row.waitsFor locationId serviceId) ∨
  ∃ row ∈ db.tickets.rows, row.waitsFor locationId serviceId ∧
    (∀ other ∈ db.tickets.rows, other.waitsFor locationId serviceId → ¬ other.before row) ∧
    ∃ now service, session = .returned
        (.called (some (.modelValidate ((callUpdate counterId now).apply now row) service))) ∧
      Touches db after ((callUpdate counterId now).apply now row)

theorem ends_callNext_first (hexdigest : PyDict → String) (i : ι) (tick : Nat) {counterId : UUID}
    {serviceId : Option UUID} (fresh : Undrawn env db)
    (desk : db.counters.get? counterId = some counter)
    (place : db.locations.get? counter.locationId = some location)
    (clerk : IsClerk db location.tenantId actor) :
    Ends engine env i
      (fun session store _ => CallsFirst db counter.locationId counterId serviceId session store)
      (program hexdigest (.callNext counterId ⟨serviceId⟩ actor none)) db [] tick := by
  obtain ⟨userId, parsed, known⟩ := clerk.user
  have passes : checkTenant location.tenantId actor = .ret () :=
    checkTenant_ret (by simp [clerk.tenant, UuidText.isText])
  have staff : requireStaff actor = .ret () := requireStaff_ret clerk.role
  have tenant : parse actor.tenantId = .ret location.tenantId :=
    parse_ret (by simp [clerk.tenant, UuidText.parse])
  simp only [program, callNext, Program.map_eq, Program.bind_eq, Program.pure_eq,
    Program.bind_assoc, staff, Program.ret_bind]
  refine ends_query rfl ?_
  simp only [Query.eval, Engine.applyAll_nil, desk, Program.bind_assoc]
  refine ends_query rfl ?_
  simp only [Query.eval, Engine.applyAll_nil, place, Program.bind_assoc, passes, Program.ret_bind,
    tenant, given, Option.filter_none, callNextNew, callNextTicket, callNextCte, Program.bind_eq,
    Program.pure_eq, parse_ret (Option.mem_def.mp parsed)]
  refine ends_query rfl ?_
  simp only [Query.eval, Engine.applyAll_nil]
  have listed {row : Ticket} : row ∈ db.waitingTickets (env (tick + 1 + 1)).order counter.locationId
      serviceId ↔ row ∈ db.tickets.rows ∧ row.waitsFor counter.locationId serviceId :=
    mem_waitingTickets
  cases candidates : db.waitingTickets (env (tick + 1 + 1)).order counter.locationId serviceId with
  | nil =>
      simp only [firstCalled, Program.pure_eq, Program.ret_bind]
      refine ends_commit (ends_ret (.inl ⟨rfl, rfl, fun row member waits => ?_⟩))
      have impossible := listed.mpr ⟨member, waits⟩
      simp [candidates] at impossible
  | cons row rest =>
      have found : row ∈ db.tickets.rows ∧ row.waitsFor counter.locationId serviceId :=
        listed.mp (by simp [candidates])
      have first (other : Ticket) (member : other ∈ db.tickets.rows)
          (waits : other.waitsFor counter.locationId serviceId) : ¬ other.before row := by
        intro better
        have snapshot : db.waitingTickets (env (tick + 1 + 1)).order counter.locationId serviceId =
            [] ++ row :: rest := candidates
        cases mem_before_of_before snapshot (listed.mpr ⟨member, waits⟩) better
      have desk : db.hasCounter counterId = true := by simp [Database.hasCounter, desk]
      simp only [firstCalled, Program.bind_eq, Program.pure_eq, Program.bind_assoc]
      refine ends_callTicket_ok (Table.get?_of_mem found.1) found.2 desk fun now => ?_
      simp only [Program.ret_bind, Program.bind_assoc]
      refine ends_write (fun later => run_insertEvent_ok (fresh _).1 ?_ ?_) fun later => ?_
      · exact (touches_applyAll (by simp)).hasTicket
      · rintro _ ⟨⟩
        exact known
      refine ends_ticketWithService (fun missing => ?_) fun ticket there service tick => ?_
      · exact absurd ((touches_logged _).ticket.symm.trans missing) (by simp)
      · obtain rfl : (callUpdate counterId now).apply now row = ticket :=
          Option.some.inj ((touches_logged _).ticket.symm.trans there)
        refine ends_commit ?_
        simp only [saveKey, given, Option.filter_none, Program.pure_eq, Program.ret_bind,
          Program.bind_assoc]
        exact ends_publishSignage fun _ =>
          .inr ⟨row, found.1, found.2, first, now, service, rfl, touches_logged _⟩

theorem ends_callNext_ok (hexdigest : PyDict → String) (i : ι) (tick : Nat) {counterId : UUID}
    (fresh : Undrawn env db)
    (desk : db.counters.get? counterId = some counter)
    (place : db.locations.get? counter.locationId = some location)
    (clerk : IsClerk db location.tenantId actor) :
    Ends engine env i (fun _ store _ =>
        store = db ∧ (∀ row ∈ db.tickets.rows, ¬ row.waitsFor counter.locationId none) ∨
        ∃ row ∈ db.tickets.rows, row.waitsFor counter.locationId none ∧ ∃ now,
          Touches db store ((callUpdate counterId now).apply now row))
      (program hexdigest (.callNext counterId {} actor none)) db [] tick := by
  refine (ends_callNext_first hexdigest i tick fresh desk place clerk).mono ?_
  rintro session after sent (⟨_, unchanged, nobody⟩ | ⟨row, member, waits, _, now, _, _, touches⟩)
  · exact .inl ⟨unchanged, nobody⟩
  · exact .inr ⟨row, member, waits, now, touches⟩

end

end QueueFlow.Concurrency
