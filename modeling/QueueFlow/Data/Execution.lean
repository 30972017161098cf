import QueueFlow.Data.Statements
import QueueFlow.Transactions.Provenance
import QueueFlow.Transactions.RowHistory

/-!
# Executing statements

The statements of the code as an engine of row-locking transactions, and what an execution that
does not fail has read and written.
-/

namespace QueueFlow.Data
open QueueFlow.Tables QueueFlow.Transactions

/-! ## Inversion -/

variable {context : Context Database Lock Env} {writes : List Write} {locks : List Lock}

theorem exec_read {q : Query} {value : q.Res}
    (exec : (Stmt.read q).exec context = .done value writes locks) :
    value = q.eval context.view context.env.order ∧ writes = [] ∧ locks = [] := by
  simp only [Stmt.exec] at exec
  split at exec
  · cases exec
  · cases exec
    exact ⟨rfl, rfl, rfl⟩

theorem exec_write {command : Command} {value : command.Res}
    (exec : (Stmt.write command).exec context = .done value writes locks) :
    command.run context.view context.env.uuid context.began.now = .ok (value, writes) ∧
      locks = [] := by
  simp only [Stmt.exec] at exec
  split at exec
  · cases exec
  · rename_i ran
    cases exec
    exact ⟨ran, rfl⟩

theorem updatedTicket_eq_ok {db : Database} {set : TicketUpdate} {now : Time}
    {row updated : Ticket} (ok : db.updatedTicket set now row = .ok updated) :
    updated = set.apply now row ∧
      (set.status = row.status ∨ set.status ∈ validTransitions row.status) ∧
      (∀ id ∈ set.serviceId, db.hasService id) ∧ (∀ id ∈ set.locationId, db.hasLocation id) ∧
      ∀ id, set.assignedCounterId = some (some id) → db.hasCounter id := by
  unfold Database.updatedTicket at ok
  split at ok
  · cases ok
  · rename_i passes
    obtain ⟨checks, rfl⟩ := require_eq_ok.mp ok
    refine ⟨rfl, ?_, ?_, ?_, ?_⟩
    · rcases (trigger_passes_iff _ _).mp passes with same | valid
      · exact .inl same.symm
      · exact .inr valid
    · intro id given
      have := checks _ (List.mem_cons_self ..)
      simpa [Option.mem_def.mp given] using this
    · intro id given
      have := checks _ (List.mem_cons_of_mem _ (List.mem_cons_self ..))
      simpa [Option.mem_def.mp given] using this
    · intro id given
      have := checks _ (List.mem_cons_of_mem _ (List.mem_cons_of_mem _ (List.mem_cons_self ..)))
      simpa [given] using this

theorem exec_callTicket {id locationId : UUID} {serviceId : Option UUID} {counterId : UUID}
    {value : Option Ticket}
    (exec : (Stmt.callTicket id locationId serviceId counterId).exec context =
      .done value writes locks) :
    (value = none ∧ writes = [] ∧ (context.busy (.ticket id) = true ∨
      ∀ row, context.view.tickets.get? id = some row → ¬ row.waitsFor locationId serviceId)) ∨
    ∃ row, context.busy (.ticket id) = false ∧ context.view.tickets.get? id = some row ∧
      row.waitsFor locationId serviceId ∧ context.view.hasCounter counterId ∧
      value = some ((callUpdate counterId context.began.now).apply context.began.now row) ∧
      writes = [.update (.ticket
        ((callUpdate counterId context.began.now).apply context.began.now row))] := by
  simp only [Stmt.exec] at exec
  split at exec
  · rename_i busy
    cases exec
    exact .inl ⟨rfl, rfl, .inl busy⟩
  · rename_i free
    split at exec
    · rename_i missing
      cases exec
      exact .inl ⟨rfl, rfl, .inr fun row found => by simp [missing] at found⟩
    · rename_i row found
      split at exec
      · rename_i waits
        split at exec
        · cases exec
        · rename_i updated ok
          cases exec
          obtain ⟨rfl, _, _, _, counter⟩ := updatedTicket_eq_ok ok
          exact .inr ⟨row, by simpa using free, found, waits, counter counterId rfl, rfl, rfl⟩
      · rename_i skips
        cases exec
        refine .inl ⟨rfl, rfl, .inr fun other located => ?_⟩
        rw [found] at located
        cases located
        exact skips

theorem locks_callTicket {id locationId : UUID} {serviceId : Option UUID} {counterId : UUID}
    {value : Option Ticket}
    (exec : (Stmt.callTicket id locationId serviceId counterId).exec context =
      .done value writes locks) :
    (locks = [] ∨ (locks = [.ticket id] ∧ context.busy (.ticket id) = false)) ∧
      (writes ≠ [] → locks = [.ticket id]) := by
  simp only [Stmt.exec] at exec
  split at exec
  · cases exec
    simp
  · rename_i free
    have free : context.busy (.ticket id) = false := by simpa using free
    split at exec
    · cases exec
      simp
    · split at exec
      · split at exec
        · cases exec
        · cases exec
          simp [free]
      · cases exec
        simp [free]

section
variable {db : Database} {id : UUID} {now : Time}

theorem run_insertTicket {new : NewTicket} {value : Ticket}
    (ran : (Command.insertTicket new).run db id now = .ok (value, writes)) :
    value = new.row id now ∧ writes = [.insert (.ticket (new.row id now))] ∧
      ∀ check ∈ new.checks db id, check.1 = true := by
  obtain ⟨checks, same⟩ := require_eq_ok.mp ran
  cases same
  exact ⟨rfl, rfl, checks⟩

theorem run_updateTicket {ticketId : UUID} {set : TicketUpdate} {value : Ticket}
    (ran : (Command.updateTicket ticketId set).run db id now = .ok (value, writes)) :
    ∃ row, db.tickets.get? ticketId = some row ∧ db.updatedTicket set now row = .ok value ∧
      value = set.apply now row ∧ writes = [.update (.ticket value)] := by
  simp only [Command.run] at ran
  split at ran
  · cases ran
  · rename_i row found
    cases updated : db.updatedTicket set now row with
    | error error =>
        rw [updated] at ran
        cases ran
    | ok new =>
        rw [updated] at ran
        cases ran
        exact ⟨row, found, updated, (updatedTicket_eq_ok updated).1, rfl⟩

theorem run_insertEvent {new : NewEvent} {value : Unit}
    (ran : (Command.insertEvent new).run db id now = .ok (value, writes)) :
    writes = [.insert (.event (new.row id now))] ∧
      ∀ check ∈ new.checks db id, check.1 = true := by
  obtain ⟨checks, same⟩ := require_eq_ok.mp ran
  cases same
  exact ⟨rfl, checks⟩

theorem run_insertInteraction {ticketId : UUID} {counterId : Option UUID} {startedAt : Time}
    {value : Unit}
    (ran : (Command.insertInteraction ticketId counterId startedAt).run db id now =
      .ok (value, writes)) :
    writes = [.insert (.interaction ⟨id, ticketId, counterId, some startedAt, none, none⟩)] ∧
      db.interactions.get? id = none ∧ db.hasTicket ticketId = true ∧
      ∀ counter ∈ counterId, db.hasCounter counter = true := by
  obtain ⟨checks, same⟩ := require_eq_ok.mp ran
  cases same
  simp only [List.mem_cons, List.not_mem_nil, or_false, forall_eq_or_imp, forall_eq] at checks
  refine ⟨rfl, by simpa using checks.1, checks.2.1, fun counter given => ?_⟩
  simpa [Option.mem_def.mp given] using checks.2.2

theorem run_insertIdempotencyKey {new : NewIdempotencyKey} {value : Unit}
    (ran : (Command.insertIdempotencyKey new).run db id now = .ok (value, writes)) :
    writes = [.insert (.idempotencyKey new.row)] ∧
      ∀ check ∈ new.checks db, check.1 = true := by
  obtain ⟨checks, same⟩ := require_eq_ok.mp ran
  cases same
  exact ⟨rfl, checks⟩

theorem run_insertRecord {new : NewRecord} {value : Row}
    (ran : (Command.insertRecord new).run db id now = .ok (value, writes)) :
    value = new.row id ∧ writes = [.insert (new.row id)] ∧
      ∀ check ∈ new.checks db id, check.1 = true := by
  obtain ⟨checks, same⟩ := require_eq_ok.mp ran
  cases same
  exact ⟨rfl, rfl, checks⟩

theorem run_updateRecord {update : RecordUpdate} {value : Row}
    (ran : (Command.updateRecord update).run db id now = .ok (value, writes)) :
    update.row db = some value ∧ writes = [.update value] := by
  simp only [Command.run] at ran
  split at ran
  · cases ran
  · rename_i row found
    obtain ⟨_, same⟩ := require_eq_ok.mp ran
    cases same
    exact ⟨found, rfl⟩

end

/-! ## The engine -/

theorem key_of_updateRow {db : Database} {update : RecordUpdate} {row : Row}
    (found : update.row db = some row) : row.lock = update.lock := by
  cases update <;>
    obtain ⟨old, located, rfl⟩ := Option.map_eq_some_iff.mp found <;>
    exact congrArg _ (Table.key_of_get? located)

theorem lock_mem_needs {command : Command} {db : Database} {id : UUID} {now : Time}
    {value : command.Res} (ran : command.run db id now = .ok (value, writes)) :
    ∀ write ∈ writes, write.lock ∈ command.needs db id := by
  cases command with
  | insertTicket new =>
      obtain ⟨_, rfl, _⟩ := run_insertTicket ran
      simp [Write.lock, Row.lock, Command.needs, NewTicket.row]
  | updateTicket ticketId set =>
      obtain ⟨row, found, _, rfl, rfl⟩ := run_updateTicket ran
      have same : row.id = ticketId := Table.key_of_get? found
      simp [Write.lock, Row.lock, Command.needs, TicketUpdate.apply, same]
  | insertEvent new =>
      obtain ⟨rfl, _⟩ := run_insertEvent ran
      simp [Write.lock, Row.lock, Command.needs, NewEvent.row]
  | insertInteraction ticketId counterId startedAt =>
      obtain ⟨rfl, _⟩ := run_insertInteraction ran
      simp [Write.lock, Row.lock, Command.needs]
  | closeInteractions ticketId endedAt outcome =>
      cases ran
      intro write member
      obtain ⟨row, listed, rfl⟩ := List.mem_map.mp member
      exact List.mem_map.mpr ⟨row, listed, rfl⟩
  | insertIdempotencyKey new =>
      obtain ⟨rfl, _⟩ := run_insertIdempotencyKey ran
      simp [Write.lock, Row.lock, Command.needs, NewIdempotencyKey.row]
  | deleteExpiredKeys now =>
      cases ran
      intro write member
      obtain ⟨row, listed, rfl⟩ := List.mem_map.mp member
      exact List.mem_map.mpr ⟨row, listed, rfl⟩
  | insertRecord new =>
      obtain ⟨_, rfl, _⟩ := run_insertRecord ran
      simp [Write.lock, Command.needs]
  | updateRecord update =>
      obtain ⟨found, rfl⟩ := run_updateRecord ran
      simp [Write.lock, Command.needs, key_of_updateRow found]

def engine : Engine Database Write Lock Stmt Stmt.Res Failure Env where
  apply := Database.apply
  lockOf := Write.lock
  needs := Stmt.needs
  exec := Stmt.exec
  locked stmt context value writes locks exec write member := by
    cases stmt with
    | read q =>
        obtain ⟨_, rfl, _⟩ := exec_read exec
        simp at member
    | callTicket id locationId serviceId counterId =>
        have held := (locks_callTicket exec).2 (List.ne_nil_of_mem member)
        rcases exec_callTicket exec with ⟨_, rfl, _⟩ | ⟨row, _, found, _, _, _, rfl⟩
        · simp at member
        · have same : row.id = id := Table.key_of_get? found
          simp only [List.mem_singleton] at member
          subst member
          simp [held, Write.lock, Row.lock, TicketUpdate.apply, same]
    | write command =>
        exact List.mem_append_left _ (lock_mem_needs (exec_write exec).1 write member)
  free stmt context value writes locks exec lock member := by
    cases stmt with
    | read q =>
        obtain ⟨_, _, rfl⟩ := exec_read exec
        simp at member
    | callTicket id locationId serviceId counterId =>
        rcases (locks_callTicket exec).1 with rfl | ⟨rfl, free⟩
        · simp at member
        · simp only [List.mem_singleton] at member
          subst member
          exact free
    | write command =>
        obtain ⟨_, rfl⟩ := exec_write exec
        simp at member

theorem engine_rowed : Rowed engine Database.row Write.value := ⟨row_apply⟩

end QueueFlow.Data
