import QueueFlow.Concurrency.Alone
import QueueFlow.Conduct.Shapes

/-!
# What one commit does to a ticket

When nobody else is at work a commit leaves a ticket as it is, creates it, calls it, changes its
status, or transfers it, which puts it back into a queue.
-/

namespace QueueFlow.Concurrency
open QueueFlow.App QueueFlow.Data QueueFlow.Tables QueueFlow.Transactions

variable {hexdigest : PyDict → String} {env : Nat → Env} {request : Request} {db store : Database}
  {past : List Act} {writes : List Write} {id : UUID} {row new : Ticket}

inductive TicketStep (env : Nat → Env) (store : Database) : Option Ticket → Ticket → Prop where
  | kept (row : Ticket) : TicketStep env store (some row) row
  | created (new : NewTicket) (id : UUID) (tick : Nat) (waits : new.status = .waiting) :
      TicketStep env store none (new.row id (env tick).now)
  | called (row : Ticket) (counterId : UUID) (tick : Nat) (waits : row.status = .waiting)
      (counter : store.hasCounter counterId = true) : TicketStep env store (some row)
        ((callUpdate counterId (env tick).now).apply (env tick).now row)
  | changed (row : Ticket) (set : TicketUpdate) (tick : Nat) (stamps : set.Stamps env)
      (target : set.status ∈ [.inService, .hold, .completed, .canceled, .noShow])
      (allowed : set.status = row.status ∨ set.status ∈ validTransitions row.status) :
      TicketStep env store (some row) (set.apply (env tick).now row)
  | transferred (row : Ticket) (set requeue : TicketUpdate) (tick tick' : Nat)
      (serving : row.status = .inService) (stamps : set.Stamps env)
      (stamps' : requeue.Stamps env) (leaves : set.status = .transferred)
      (waits : requeue.status = .waiting) : TicketStep env store (some row)
        (requeue.apply (env tick').now (set.apply (env tick).now row))

theorem update_versioned (old : Option Row) (row : Ticket)
    (ok : Sound old (.update (.ticket row)) ∧ Versioned env old (.update (.ticket row))) :
    ∃ before, old = some (.ticket before) ∧
      Versioned env (some (.ticket before)) (.update (.ticket row)) := by
  obtain ⟨⟨before, rfl, _⟩, versioned⟩ := ok
  exact ⟨before, rfl, versioned⟩

theorem update_of_versioned (versioned : Versioned env (some (.ticket row)) (.update (.ticket new)))
    (uncalled : new.status ≠ .called) : ∃ (set : TicketUpdate) (tick : Nat), set.Stamps env ∧
      (set.status = row.status ∨ set.status ∈ validTransitions row.status) ∧
      new = set.apply (env tick).now row := by
  obtain ⟨_, tick, ⟨⟩, ⟨_, counterId, rfl⟩ | ⟨set, stamps, _, allowed, rfl⟩⟩ := versioned
  · exact (uncalled rfl).elim
  · exact ⟨set, tick, stamps, allowed, rfl⟩

theorem Serving.calls_counter (serving : Serving hexdigest env request db past store writes)
    (updated : .update (.ticket new) ∈ writes) (called : new.status = .called) :
    ∃ counterId, new.assignedCounterId = some counterId ∧ store.hasCounter counterId = true := by
  have status := commits_update serving.commits updated
  have commits := serving.commits
  rw [called] at status
  cases request with
  | callNext counterId body actor key =>
      obtain ⟨event, _, calls⟩ := update_of_call commits updated
      obtain ⟨counter, _, saw, _⟩ := calls.place
      obtain ⟨order, answered⟩ := serving.saw calls.first saw
      refine ⟨counterId, calls.counter, ?_⟩
      rw [Database.hasCounter, ← show some counter = store.counters.get? counterId from answered]
      rfl
  | transferTicket ticketId data actor =>
      rcases status with impossible | impossible <;> cases impossible
  | _ => cases status

/-- A step to another status is one UPDATE, unless it ends in the queue or at a counter. -/
theorem updated_of_step {old new : Ticket} (step : TicketStep env store (some old) new)
    (moved : new.status ≠ old.status)
    (known : new.status ∈ [.inService, .hold, .completed, .canceled, .noShow]) :
    ∃ (set : TicketUpdate) (tick : Nat), set.Stamps env ∧ new = set.apply (env tick).now old := by
  cases step with
  | kept => exact (moved rfl).elim
  | called =>
      change TicketStatus.called ∈ _ at known
      simp at known
  | changed _ set tick stamps => exact ⟨set, tick, stamps, rfl⟩
  | transferred _ set requeue _ _ _ _ _ _ waits =>
      change requeue.status ∈ _ at known
      simp [waits] at known

theorem step_once (serving : Serving hexdigest env request db past store writes)
    (other : ∀ ticketId data actor, request ≠ .transferTicket ticketId data actor)
    (once : (ticketVersions id writes).length ≤ 1)
    (found : (engine.applyAll store writes).tickets.get? id = some new) :
    TicketStep env store (store.tickets.get? id) new := by
  have key : new.id = id := Table.key_of_get? found
  subst key
  rcases written_once_cases (R := fun old new => Versioned env (some (.ticket old))
      (.update (.ticket new))) (fun _ _ ok => ok.1) update_versioned
      (serving.sound.and serving.versioned) once found with
    kept | inserted | ⟨old, located, updated, versioned⟩
  · rw [kept]
    exact .kept new
  · obtain ⟨_, waits, created, id, tick, rfl⟩ := serving.versioned.of_mem inserted
    obtain ⟨locationId, event, _, shape, _⟩ := commits_insert serving.commits inserted
    have absent : store.tickets.get? (created.row id (env tick).now).id = none := by
      have sound := serving.sound
      rw [shape] at sound
      exact Option.map_eq_none_iff.mp sound.1
    rw [absent]
    exact .created created id tick waits
  · rw [located]
    by_cases called : new.status = .called
    · obtain ⟨counterId, assigned, counter⟩ := serving.calls_counter updated called
      obtain ⟨_, tick, ⟨⟩, ⟨waits, named, rfl⟩ | ⟨set, _, uncalled, _, rfl⟩⟩ := versioned
      · cases assigned
        exact .called old _ tick waits counter
      · exact (uncalled called).elim
    · obtain ⟨set, tick, stamps, allowed, rfl⟩ := update_of_versioned versioned called
      refine .changed old set tick stamps ?_ allowed
      exact changes_status (commits_update serving.commits updated) other called

theorem step_transfer {ticketId : UUID} {data : TicketTransfer} {actor : TokenPayload}
    (serving : Serving hexdigest env (.transferTicket ticketId data actor) db past store writes)
    (found : (engine.applyAll store writes).tickets.get? id = some new) :
    TicketStep env store (store.tickets.get? id) new := by
  obtain ⟨row, event, requeued, requeueEvent, shape, _, _, changes, requeueing, requeues⟩ :=
    serving.commits
  have moves := serving.transfers (show .update (.ticket row) ∈ writes by simp [shape])
  simp only [transferred, Option.ite_none_right_eq_some, Option.some.injEq] at moves
  obtain ⟨⟨⟨_, _, old, there, _, valid⟩, _⟩, rfl⟩ := moves
  have versions : ticketVersions id writes = if row.id = id then [row, requeued] else [] := by
    by_cases same : row.id = id <;>
      simp [shape, ticketVersions, List.filterMap_cons, Write.ticket?, requeues.id, same]
  rw [get?_applyAll, versions] at found
  by_cases mine : row.id = id
  · subst mine
    have chain : ((store.tickets.get? row.id).toList ++ ticketVersions row.id writes).IsChain
        fun old new => Versioned env (some (.ticket old)) (.update (.ticket new)) :=
      isChain_versions (fun _ _ ok => ok.1) update_versioned
        (serving.sound.and serving.versioned)
    rw [versions, if_pos rfl, Option.mem_def.mp there] at chain
    obtain ⟨first, onward⟩ := List.isChain_cons_cons.mp chain
    obtain ⟨last, _⟩ := List.isChain_cons_cons.mp onward
    obtain rfl : requeued = new := by simpa [List.getLast?_append] using found
    obtain ⟨set, tick, stamps, _, rfl⟩ := update_of_versioned first (by simp [changes.status])
    obtain ⟨requeue, tick', stamps', _, rfl⟩ :=
      update_of_versioned last (by simp [requeueing.status])
    rw [Option.mem_def.mp there]
    refine .transferred old set requeue tick tick' ?_ stamps stamps' changes.status
      requeueing.status
    generalize old.status = status at valid
    cases status <;> simp_all [validTransitions]
  · rw [if_neg mine, List.append_nil] at found
    cases kept : store.tickets.get? id with
    | none => simp [kept] at found
    | some old =>
        obtain rfl : old = new := by simpa [kept] using found
        exact .kept old

theorem step_serving (serving : Serving hexdigest env request db past store writes)
    (found : (engine.applyAll store writes).tickets.get? id = some new) :
    TicketStep env store (store.tickets.get? id) new := by
  by_cases transfers : ∃ ticketId data actor, request = .transferTicket ticketId data actor
  · obtain ⟨ticketId, data, actor, rfl⟩ := transfers
    exact step_transfer serving found
  · have other (ticketId : UUID) (data : TicketTransfer) (actor : TokenPayload) :
        request ≠ .transferTicket ticketId data actor :=
      fun same => transfers ⟨ticketId, data, actor, same⟩
    rcases commits_tickets serving.commits other with untouched | ⟨_, once⟩
    · rw [get?_of_unlocked store fun write listed => untouched write listed _] at found
      rw [found]
      exact .kept new
    · exact step_once serving other (once id) found

end QueueFlow.Concurrency
