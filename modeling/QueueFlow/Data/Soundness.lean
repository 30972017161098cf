import QueueFlow.Data.Execution

/-!
# What a write does to the row it meets

Every INSERT meets no row; every UPDATE meets the row it replaces and leaves the columns alone that
tie the row to others. For a ticket the trigger lets the status change to the new one, and only a
requeue moves it.
-/

namespace QueueFlow.Data
open QueueFlow.Tables QueueFlow.Transactions

structure Ticket.Becomes (row new : Ticket) : Prop where
  id : new.id = row.id
  tenantId : new.tenantId = row.tenantId
  channelId : new.channelId = row.channelId
  number : new.number = row.number
  priority : new.priority = row.priority
  notes : new.notes = row.notes
  createdAt : new.createdAt = row.createdAt
  allowed : new.status = row.status ∨ new.status ∈ validTransitions row.status
  called : new.status = .called → row.status = .waiting
  place : new.status ≠ .waiting →
    new.locationId = row.locationId ∧ new.serviceId = row.serviceId
  counter : new.status ≠ .waiting → new.status ≠ .called →
    new.assignedCounterId = row.assignedCounterId

def Sound (old : Option Row) : Write → Prop
  | .insert _ => old = none
  | .update (.ticket new) => ∃ row, old = some (.ticket row) ∧ row.Becomes new
  | .update (.location new) => ∃ row, old = some (.location row) ∧ new.tenantId = row.tenantId
  | .update (.service new) => ∃ row, old = some (.service row) ∧ new.tenantId = row.tenantId ∧
      new.locationId = row.locationId
  | .update (.counter new) => ∃ row, old = some (.counter row) ∧ new.locationId = row.locationId
  | .update (.interaction new) =>
      ∃ row, old = some (.interaction row) ∧ new.ticketId = row.ticketId
  | .update (.tenant _) | .dropKey _ _ => True
  | .update _ => False

theorem ticket_of_lock {write : Write} {id : UUID} (locked : write.lock = .ticket id) :
    ∃ row : Ticket, row.id = id ∧
      (write = .insert (.ticket row) ∨ write = .update (.ticket row)) := by
  cases write with
  | insert row =>
      cases row with
      | ticket row => exact ⟨row, by simpa [Write.lock, Row.lock] using locked, .inl rfl⟩
      | _ => cases locked
  | update row =>
      cases row with
      | ticket row => exact ⟨row, by simpa [Write.lock, Row.lock] using locked, .inr rfl⟩
      | _ => cases locked
  | dropKey tenantId key => cases locked

def TicketUpdate.Stays (set : TicketUpdate) : Prop :=
  set.serviceId = none ∧ set.locationId = none ∧ set.assignedCounterId = none

/-- What an UPDATE of the code assigns besides the status: a requeue clears the counter, and each
timestamp comes with its status and from the clock. -/
structure TicketUpdate.Stamps (env : Nat → Env) (set : TicketUpdate) : Prop where
  stays : set.status ≠ .waiting → set.Stays
  requeued : set.status = .waiting → set.assignedCounterId = some none
  called : set.calledAt = none
  started : set.serviceStartedAt.isSome ↔ set.status = .inService
  completed : set.completedAt.isSome ↔ set.status ∈ TicketStatus.terminal
  startedClock : ∀ time ∈ set.serviceStartedAt, ∃ tick, time = (env tick).now
  completedClock : ∀ time ∈ set.completedAt, ∃ tick, time = (env tick).now

/-- Only the CTE of call-next writes CALLED, and only a requeue moves a ticket. -/
def Stmt.Proper : Stmt → Prop
  | .write (.updateTicket _ set) => set.status ≠ .called ∧ (set.status ≠ .waiting → set.Stays)
  | _ => True

theorem row_ticket {db : Database} {id : UUID} {row : Ticket}
    (found : db.tickets.get? id = some row) : db.row (.ticket id) = some (.ticket row) := by
  simp [Database.row, found]

theorem hasUser_eq (db : Database) (id : UUID) : db.hasUser id = (db.row (.user id)).isSome := by
  simp [Database.hasUser, Database.row]

theorem hasTenant_eq (db : Database) (id : UUID) :
    db.hasTenant id = (db.row (.tenant id)).isSome := by
  simp [Database.hasTenant, Database.row]

theorem hasService_eq (db : Database) (id : UUID) :
    db.hasService id = (db.row (.service id)).isSome := by
  simp [Database.hasService, Database.row]

theorem hasLocation_eq (db : Database) (id : UUID) :
    db.hasLocation id = (db.row (.location id)).isSome := by
  simp [Database.hasLocation, Database.row]

theorem get?_of_row {db : Database} {id : UUID} {row : Ticket}
    (found : db.row (.ticket id) = some (.ticket row)) : db.tickets.get? id = some row := by
  obtain ⟨other, located, same⟩ := Option.map_eq_some_iff.mp found
  cases same
  exact located

private theorem becomes_apply {set : TicketUpdate} {now : Time} {row : Ticket}
    (allowed : set.status = row.status ∨ set.status ∈ validTransitions row.status)
    (called : set.status = .called → row.status = .waiting)
    (place : set.status ≠ .waiting → set.serviceId = none ∧ set.locationId = none)
    (counter : set.status ≠ .waiting → set.status ≠ .called → set.assignedCounterId = none) :
    row.Becomes (set.apply now row) where
  id := rfl
  tenantId := rfl
  channelId := rfl
  number := rfl
  priority := rfl
  notes := rfl
  createdAt := rfl
  allowed := allowed
  called := called
  place moved := by
    obtain ⟨service, location⟩ := place moved
    simp [TicketUpdate.apply, service, location]
  counter moved called := by simp [TicketUpdate.apply, counter moved called]

theorem checked_single {Ok : Option Row → Write → Prop} {db : Database} {write : Write}
    (ok : Ok (db.row write.lock) write) : Checked engine Database.row Ok db [write] :=
  ⟨ok, trivial⟩

theorem checked_all {Ok : Option Row → Write → Prop} {writes : List Write}
    (ok : ∀ write ∈ writes, ∀ old, Ok old write) (db : Database) :
    Checked engine Database.row Ok db writes := by
  induction writes generalizing db with
  | nil => trivial
  | cons write writes ih =>
      exact ⟨ok write List.mem_cons_self _,
        ih (fun later member => ok later (List.mem_cons_of_mem _ member)) _⟩

theorem sound_record {db : Database} {update : RecordUpdate} {new : Row}
    (found : update.row db = some new) : Sound (db.row new.lock) (.update new) := by
  rw [key_of_updateRow found]
  cases update with
  | tenant id set =>
      obtain ⟨row, _, rfl⟩ := Option.map_eq_some_iff.mp found
      trivial
  | location id set =>
      obtain ⟨row, located, rfl⟩ := Option.map_eq_some_iff.mp found
      exact ⟨row, by simp [RecordUpdate.lock, Database.row, located], rfl⟩
  | service id set =>
      obtain ⟨row, located, rfl⟩ := Option.map_eq_some_iff.mp found
      exact ⟨row, by simp [RecordUpdate.lock, Database.row, located], rfl, rfl⟩
  | counter id set =>
      obtain ⟨row, located, rfl⟩ := Option.map_eq_some_iff.mp found
      exact ⟨row, by simp [RecordUpdate.lock, Database.row, located], rfl⟩

private theorem checked_closed {db : Database} (ticketId : UUID) {endedAt : Time}
    {outcome : String} (rows : List Interaction)
    (listed : ∀ row ∈ rows, row.ticketId = ticketId ∧
      ∃ old, db.row (.interaction row.id) = some (.interaction old) ∧ old.ticketId = ticketId) :
    Checked engine Database.row Sound db (rows.map fun row => .update (.interaction
      { row with endedAt := some endedAt, outcome := some outcome })) := by
  induction rows generalizing db with
  | nil => trivial
  | cons row rows ih =>
      obtain ⟨mine, old, found, same⟩ := listed row List.mem_cons_self
      refine ⟨⟨old, found, mine.trans same.symm⟩, ih fun other member => ?_⟩
      obtain ⟨theirs, before, located, kept⟩ := listed other (List.mem_cons_of_mem _ member)
      refine ⟨theirs, ?_⟩
      rw [show engine.apply = Database.apply from rfl, row_apply]
      split
      · exact ⟨_, rfl, mine⟩
      · exact ⟨before, located, kept⟩

theorem checked_run {command : Command} {db : Database} {id : UUID} {now : Time}
    {value : command.Res} {writes : List Write} (proper : (Stmt.write command).Proper)
    (ran : command.run db id now = .ok (value, writes)) :
    Checked engine Database.row Sound db writes := by
  cases command with
  | insertTicket new =>
      obtain ⟨_, rfl, checks⟩ := run_insertTicket ran
      have absent : (!db.hasTicket id) = true := checks _ (List.mem_cons_self ..)
      refine checked_single ?_
      simpa [Sound, Write.lock, Row.lock, NewTicket.row, Database.row, Database.hasTicket] using
        absent
  | updateTicket ticketId set =>
      obtain ⟨row, found, updated, rfl, rfl⟩ := run_updateTicket ran
      obtain ⟨_, allowed, _⟩ := updatedTicket_eq_ok updated
      have key : row.id = ticketId := Table.key_of_get? found
      have stays : set.status ≠ .waiting → set.Stays := proper.2
      refine checked_single ⟨row, ?_, becomes_apply allowed (fun called => (proper.1 called).elim)
        (fun moved => ⟨(stays moved).1, (stays moved).2.1⟩) fun moved _ => (stays moved).2.2⟩
      rw [show (Write.update (.ticket (set.apply now row))).lock = .ticket ticketId from
        congrArg Lock.ticket key]
      exact row_ticket found
  | insertEvent new =>
      obtain ⟨rfl, checks⟩ := run_insertEvent ran
      have absent : (db.ticketEvents.get? id).isNone = true := checks _ (List.mem_cons_self ..)
      refine checked_single ?_
      simpa [Sound, Write.lock, Row.lock, NewEvent.row, Database.row] using absent
  | insertInteraction ticketId counterId startedAt =>
      obtain ⟨rfl, absent, _⟩ := run_insertInteraction ran
      refine checked_single ?_
      simpa [Sound, Write.lock, Row.lock, Database.row] using absent
  | closeInteractions ticketId endedAt outcome =>
      cases ran
      refine checked_closed ticketId _ fun row member => ?_
      obtain ⟨stored, mine⟩ : row ∈ db.interactions.rows ∧ row.ticketId = ticketId ∧ _ := by
        simpa [Database.openInteractions] using member
      have found : db.interactions.get? row.id = some row := Table.get?_of_mem stored
      exact ⟨mine.1, row, by simp [Database.row, found], mine.1⟩
  | insertIdempotencyKey new =>
      obtain ⟨rfl, checks⟩ := run_insertIdempotencyKey ran
      have absent : (db.idempotencyKeys.get? (new.tenantId, new.key)).isNone = true :=
        checks _ (List.mem_cons_of_mem _ (List.mem_cons_self ..))
      refine checked_single ?_
      simpa [Sound, Write.lock, Row.lock, NewIdempotencyKey.row, Database.row] using absent
  | deleteExpiredKeys now =>
      cases ran
      refine checked_all (fun write member old => ?_) db
      obtain ⟨row, _, rfl⟩ := List.mem_map.mp member
      trivial
  | insertRecord new =>
      obtain ⟨_, rfl, checks⟩ := run_insertRecord ran
      have absent : (db.row (new.row id).lock).isNone = true := checks _ (List.mem_cons_self ..)
      refine checked_single ?_
      simpa [Sound, Write.lock] using absent
  | updateRecord update =>
      obtain ⟨found, rfl⟩ := run_updateRecord ran
      exact checked_single (sound_record found)

theorem checked_exec {stmt : Stmt} {context : Context Database Lock Env} {value : stmt.Res}
    {writes : List Write} {locks : List Lock} (proper : stmt.Proper)
    (exec : stmt.exec context = .done value writes locks) :
    Checked engine Database.row Sound context.view writes := by
  cases stmt with
  | read q =>
      obtain ⟨_, rfl, _⟩ := exec_read exec
      trivial
  | callTicket id locationId serviceId counterId =>
      rcases exec_callTicket exec with ⟨_, rfl, _⟩ | ⟨row, _, found, waits, _, _, rfl⟩
      · trivial
      · have key : row.id = id := Table.key_of_get? found
        have waiting : row.status = .waiting := waits.2.1
        refine checked_single ⟨row, ?_, becomes_apply (.inr ?_) (fun _ => waiting)
          (fun _ => ⟨rfl, rfl⟩) fun _ called => (called rfl).elim⟩
        · rw [show (Write.update (.ticket ((callUpdate counterId context.began.now).apply
            context.began.now row))).lock = .ticket id from congrArg Lock.ticket key]
          exact row_ticket found
        · rw [waiting]
          simp [callUpdate, validTransitions]
  | write command => exact checked_run proper (exec_write exec).1

/-! ## Which statement makes which write -/

inductive Stmt.Makes (context : Context Database Lock Env) : Stmt → Write → Prop where
  | callTicket {id locationId : UUID} {serviceId : Option UUID} {counterId : UUID} {row : Ticket}
      (found : context.view.tickets.get? id = some row)
      (waits : row.waitsFor locationId serviceId) :
      Makes context (.callTicket id locationId serviceId counterId)
        (.update (.ticket ((callUpdate counterId context.began.now).apply context.began.now row)))
  | insertTicket (new : NewTicket) : Makes context (.write (.insertTicket new))
      (.insert (.ticket (new.row context.env.uuid context.began.now)))
  | updateTicket {id : UUID} {row : Ticket} (set : TicketUpdate)
      (found : context.view.tickets.get? id = some row) :
      Makes context (.write (.updateTicket id set))
        (.update (.ticket (set.apply context.began.now row)))
  | insertEvent (new : NewEvent) : Makes context (.write (.insertEvent new))
      (.insert (.event (new.row context.env.uuid context.began.now)))
  | insertInteraction {ticketId : UUID} {counterId : Option UUID} {startedAt : Time}
      (row : Interaction) : Makes context (.write (.insertInteraction ticketId counterId startedAt))
      (.insert (.interaction row))
  | closeInteraction {ticketId : UUID} {endedAt : Time} {outcome : String} (row : Interaction) :
      Makes context (.write (.closeInteractions ticketId endedAt outcome))
        (.update (.interaction row))
  | insertIdempotencyKey (new : NewIdempotencyKey) :
      Makes context (.write (.insertIdempotencyKey new)) (.insert (.idempotencyKey new.row))
  | deleteExpiredKey {now : Time} (row : IdempotencyKey) :
      Makes context (.write (.deleteExpiredKeys now)) (.dropKey row.tenantId row.key)
  | insertRecord (new : NewRecord) : Makes context (.write (.insertRecord new))
      (.insert (new.row context.env.uuid))
  | updateRecord {update : RecordUpdate} {row : Row} (found : update.row context.view = some row) :
      Makes context (.write (.updateRecord update)) (.update row)

section
variable {stmt : Stmt} {context : Context Database Lock Env} {value : stmt.Res}
  {writes : List Write} {locks : List Lock} {write : Write} {row : Ticket}

theorem makes_of_exec (exec : stmt.exec context = .done value writes locks)
    (member : write ∈ writes) : stmt.Makes context write := by
  cases stmt with
  | read q =>
      obtain ⟨_, rfl, _⟩ := exec_read exec
      cases member
  | callTicket id locationId serviceId counterId =>
      rcases exec_callTicket exec with ⟨_, rfl, _⟩ | ⟨old, _, found, waits, _, _, rfl⟩
      · cases member
      · cases List.mem_singleton.mp member
        exact .callTicket found waits
  | write command =>
      obtain ⟨ran, _⟩ := exec_write exec
      cases command with
      | insertTicket new =>
          obtain ⟨_, rfl, _⟩ := run_insertTicket ran
          cases List.mem_singleton.mp member
          exact .insertTicket new
      | updateTicket ticketId set =>
          obtain ⟨old, found, _, rfl, rfl⟩ := run_updateTicket ran
          cases List.mem_singleton.mp member
          exact .updateTicket set found
      | insertEvent new =>
          obtain ⟨rfl, _⟩ := run_insertEvent ran
          cases List.mem_singleton.mp member
          exact .insertEvent new
      | insertInteraction ticketId counterId startedAt =>
          obtain ⟨rfl, _⟩ := run_insertInteraction ran
          cases List.mem_singleton.mp member
          exact .insertInteraction _
      | closeInteractions ticketId endedAt outcome =>
          cases ran
          obtain ⟨row, _, rfl⟩ := List.mem_map.mp member
          exact .closeInteraction _
      | insertIdempotencyKey new =>
          obtain ⟨rfl, _⟩ := run_insertIdempotencyKey ran
          cases List.mem_singleton.mp member
          exact .insertIdempotencyKey new
      | deleteExpiredKeys now =>
          cases ran
          obtain ⟨row, _, rfl⟩ := List.mem_map.mp member
          exact .deleteExpiredKey row
      | insertRecord new =>
          obtain ⟨_, rfl, _⟩ := run_insertRecord ran
          cases List.mem_singleton.mp member
          exact .insertRecord new
      | updateRecord update =>
          obtain ⟨found, rfl⟩ := run_updateRecord ran
          cases List.mem_singleton.mp member
          exact .updateRecord found

theorem insert_exec (exec : stmt.exec context = .done value writes locks)
    (member : .insert (.ticket row) ∈ writes) :
    ∃ new, stmt = .write (.insertTicket new) ∧
      row = new.row context.env.uuid context.began.now := by
  generalize same : Write.insert (.ticket row) = write at member
  cases makes_of_exec exec member with
  | insertTicket new =>
      cases same
      exact ⟨new, rfl, rfl⟩
  | insertRecord new => cases new <;> cases same
  | _ => cases same

theorem event_exec {event : TicketEvent} (exec : stmt.exec context = .done value writes locks)
    (member : .insert (.event event) ∈ writes) : ∃ new, stmt = .write (.insertEvent new) ∧
      event = new.row context.env.uuid context.began.now := by
  generalize same : Write.insert (.event event) = write at member
  cases makes_of_exec exec member with
  | insertEvent new =>
      cases same
      exact ⟨new, rfl, rfl⟩
  | insertRecord new => cases new <;> cases same
  | _ => cases same

theorem update_exec (exec : stmt.exec context = .done value writes locks)
    (member : .update (.ticket row) ∈ writes) :
    writes = [.update (.ticket row)] ∧
      ∃ old, context.view.tickets.get? row.id = some old ∧
        ((∃ locationId serviceId counterId,
          (.performed stmt value writes : Action Stmt Stmt.Res Write UUID) =
            .performed (.callTicket row.id locationId serviceId counterId) (some row) writes ∧
          old.waitsFor locationId serviceId ∧ row.status = .called) ∨
        ∃ set, stmt = .write (.updateTicket row.id set) ∧
          row = set.apply context.began.now old) := by
  generalize same : Write.update (.ticket row) = write at member
  cases makes_of_exec exec member with
  | @callTicket id locationId serviceId counterId old found waits =>
      have key : old.id = id := Table.key_of_get? found
      cases same
      subst key
      rcases exec_callTicket exec with ⟨_, rfl, _⟩ | ⟨other, _, located, _, _, rfl, rfl⟩
      · cases member
      · cases found.symm.trans located
        exact ⟨rfl, old, found, .inl ⟨locationId, serviceId, counterId, rfl, waits, rfl⟩⟩
  | @updateTicket id old set found =>
      have key : old.id = id := Table.key_of_get? found
      cases same
      subst key
      obtain ⟨other, located, _, rfl, rfl⟩ := run_updateTicket (exec_write exec).1
      cases found.symm.trans located
      exact ⟨rfl, old, found, .inr ⟨set, rfl, rfl⟩⟩
  | @updateRecord update other found =>
      cases same
      have locked := key_of_updateRow found
      cases update <;> cases locked
  | _ => cases same

theorem checked_tickets {Ok : Option Row → Write → Prop}
    (exec : stmt.exec context = .done value writes locks)
    (elsewhere : ∀ old write, (∀ id, write.lock ≠ .ticket id) → Ok old write)
    (inserted : ∀ new, stmt = .write (.insertTicket new) →
      Ok none (.insert (.ticket (new.row context.env.uuid context.began.now))))
    (called : ∀ id locationId serviceId counterId row,
      stmt = .callTicket id locationId serviceId counterId → context.busy (.ticket id) = false →
      context.view.tickets.get? id = some row → row.waitsFor locationId serviceId →
        Ok (some (.ticket row)) (.update (.ticket
          ((callUpdate counterId context.began.now).apply context.began.now row))))
    (updated : ∀ id set row, stmt = .write (.updateTicket id set) →
      context.view.tickets.get? id = some row →
      (set.status = row.status ∨ set.status ∈ validTransitions row.status) →
        Ok (some (.ticket row)) (.update (.ticket (set.apply context.began.now row)))) :
    Checked engine Database.row Ok context.view writes := by
  by_cases any : ∃ write ∈ writes, ∃ id, write.lock = .ticket id
  · obtain ⟨write, member, id, locked⟩ := any
    obtain ⟨row, rfl, rfl | rfl⟩ := ticket_of_lock locked
    · obtain ⟨new, rfl, rfl⟩ := insert_exec exec member
      obtain ⟨_, rfl, checks⟩ := run_insertTicket (exec_write exec).1
      have absent : (!context.view.hasTicket context.env.uuid) = true :=
        checks _ (List.mem_cons_self ..)
      have unmet : context.view.row (.ticket context.env.uuid) = none := by
        simpa [Database.row, Database.hasTicket] using absent
      refine checked_single ?_
      rw [show (Write.insert (.ticket (new.row context.env.uuid context.began.now))).lock =
        .ticket context.env.uuid from rfl, unmet]
      exact inserted new rfl
    · obtain ⟨rfl, old, found, calls | ⟨set, rfl, same⟩⟩ := update_exec exec member
      · obtain ⟨locationId, serviceId, counterId, performed, waits, _⟩ := calls
        cases performed
        rcases exec_callTicket exec with ⟨_, impossible, _⟩ | ⟨other, free, located, _, _, made, _⟩
        · cases impossible
        · cases found.symm.trans located
          refine checked_single ?_
          rw [show (Write.update (.ticket row)).lock = .ticket row.id from rfl, row_ticket found]
          have := called _ _ _ _ _ rfl free found waits
          rwa [← Option.some.inj made] at this
      · refine checked_single ?_
        obtain ⟨other, located, ok, _⟩ := run_updateTicket (exec_write exec).1
        cases found.symm.trans located
        rw [show (Write.update (.ticket row)).lock = .ticket row.id from rfl, row_ticket found]
        have := updated row.id set old rfl found (updatedTicket_eq_ok ok).2.1
        rwa [← same] at this
  · refine checked_all (fun write member old => elsewhere old write fun id locked => ?_) _
    exact any ⟨write, member, id, locked⟩

theorem called_exec (proper : stmt.Proper) (exec : stmt.exec context = .done value writes locks)
    (member : .update (.ticket row) ∈ writes) (called : row.status = .called) :
    ∃ locationId serviceId counterId,
      (.performed stmt value writes : Action Stmt Stmt.Res Write UUID) =
        .performed (.callTicket row.id locationId serviceId counterId) (some row) writes := by
  obtain ⟨_, old, _, ⟨locationId, serviceId, counterId, same, _⟩ | ⟨set, rfl, rfl⟩⟩ :=
    update_exec exec member
  · exact ⟨locationId, serviceId, counterId, same⟩
  · exact (proper.1 called).elim

/-- Only the statements of the admin service write its rows. -/
theorem record_exec (exec : stmt.exec context = .done value writes locks) (member : write ∈ writes)
    (isRecord : write.lock.isRecord = true) :
    (∃ new, stmt = .write (.insertRecord new)) ∨
      ∃ update, stmt = .write (.updateRecord update) := by
  cases makes_of_exec exec member with
  | insertRecord new => exact .inl ⟨new, rfl⟩
  | updateRecord found => exact .inr ⟨_, rfl⟩
  | _ => cases isRecord

end

def Versioned (env : Nat → Env) (old : Option Row) : Write → Prop
  | .insert (.ticket row) => row.status = .waiting ∧
      ∃ (new : NewTicket) (id : UUID) (tick : Nat), row = new.row id (env tick).now
  | .update (.ticket new) => ∃ (row : Ticket) (tick : Nat), old = some (.ticket row) ∧
      ((row.status = .waiting ∧ ∃ counterId,
          new = (callUpdate counterId (env tick).now).apply (env tick).now row) ∨
        ∃ set : TicketUpdate, set.Stamps env ∧ set.status ≠ .called ∧
          (set.status = row.status ∨ set.status ∈ validTransitions row.status) ∧
          new = set.apply (env tick).now row)
  | _ => True

/-- Only the INSERT and the UPDATE of a ticket wait for its lock. -/
theorem ticket_needs (command : Command) {db : Database} {fresh id : UUID}
    (needed : .ticket id ∈ command.needs db fresh) :
    (∃ new, command = .insertTicket new) ∨ ∃ set, command = .updateTicket id set := by
  cases command with
  | insertTicket new => exact .inl ⟨new, rfl⟩
  | updateTicket ticketId set =>
      simp only [Command.needs, List.mem_singleton, Lock.ticket.injEq] at needed
      exact .inr ⟨set, by rw [needed]⟩
  | insertRecord new => cases new <;> simp [Command.needs, NewRecord.row, Row.lock,
      NewRecord.entries] at needed
  | updateRecord update => cases update <;> simp [Command.needs, RecordUpdate.lock,
      RecordUpdate.entries] at needed
  | _ => simp [Command.needs] at needed

end QueueFlow.Data
