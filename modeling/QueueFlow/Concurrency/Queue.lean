import QueueFlow.Concurrency.DoubleCall
import QueueFlow.Concurrency.EventLog
import QueueFlow.Data.Order

/-!
# Requests for one queue

Any number of call-next requests for one queue, with nobody else writing. A ticket that a request
passes over is taken by another one.
-/

namespace QueueFlow.Concurrency
open QueueFlow.App QueueFlow.Data QueueFlow.Tables QueueFlow.Transactions

variable {ι : Type} [DecidableEq ι] {hexdigest : PyDict → String} {env : Nat → Env}
  {requests : ι → Request} {db : Database} {w : AppWorld ι} {locationId : UUID}
  {serviceId : Option UUID}

structure Drains (requests : ι → Request) (db : Database) (locationId : UUID)
    (serviceId : Option UUID) : Prop where
  calls : ∀ i, ∃ counterId body actor key counter,
    requests i = .callNext counterId body actor key ∧ body.serviceId = serviceId ∧
      db.counters.get? counterId = some counter ∧ counter.locationId = locationId

def Called (requests : ι → Request) (log : List (Entry ι)) (id : UUID) : Prop :=
  ∃ n i, CalledAt requests log n i id

def AllCommitted (w : AppWorld ι) : Prop := ∀ i, commitsOf (pastOf i w.state.log) ≠ []

section
variable (drains : Drains requests db locationId serviceId)
  (reach : Reachable engine env (initial hexdigest requests db) w)

include drains

section
omit [DecidableEq ι]

theorem Drains.not_admin (i : ι) : ¬ (requests i).isAdmin := by
  obtain ⟨counterId, body, actor, key, counter, request, _⟩ := drains.calls i
  rw [request]
  exact id

theorem Drains.opensNothing (i : ι) : (requests i).opensAt = none := by
  obtain ⟨counterId, body, actor, key, counter, request, _⟩ := drains.calls i
  rw [request]
  rfl

theorem Drains.changesNothing (i : ι) (status : TicketStatus) :
    ¬ (requests i).changesTo status := by
  obtain ⟨counterId, body, actor, key, counter, request, _⟩ := drains.calls i
  rw [request]
  exact fun ⟨other, same⟩ => other same

theorem Drains.not_requeued {log : List (Entry ι)} {k : Nat} {j : ι} {id : UUID} :
    ¬ RequeuedAt requests log k j id := by
  rintro ⟨⟨ticketId, data, actor, transfer⟩, _⟩
  obtain ⟨counterId, body, actor, key, counter, request, _⟩ := drains.calls j
  rw [transfer] at request
  cases request

end

include reach

theorem Drains.commit_cases {n : Nat} {i : ι} {writes : List Write}
    (commit : CommitAt w.state.log n i writes) :
    writes = [] ∨ (∃ row event, writes = [.update (.ticket row), .insert (.event event)] ∧
      row.status = .called ∧ event.ticketId = row.id ∧ event.fromStatus = some .waiting ∧
      (∀ counterId body actor key, requests i = .callNext counterId body actor key →
        row.assignedCounterId = some counterId) ∧ CalledAt requests w.state.log n i row.id) ∨
    ∃ record, writes = [.insert (.idempotencyKey record)] := by
  obtain ⟨counterId, body, actor, key, counter, request, _⟩ := drains.calls i
  have commits := commits_at reach commit
  rw [request] at commits
  rcases commits with ⟨rfl, _⟩ | ⟨row, event, rfl, calls⟩ | ⟨record, rfl, _⟩
  · exact .inl rfl
  · refine .inr (.inl ⟨row, event, rfl, calls.status, calls.ticketId, calls.fromStatus, ?_,
      calledAt_of_commit reach request commit⟩)
    intro other _ _ _ same
    rw [request] at same
    cases same
    exact calls.counter
  · exact .inr (.inr ⟨record, rfl⟩)

theorem Drains.called_of_committed {p : Nat} {id : UUID} {row : Ticket}
    (member : row ∈ ticketVersions id (committedWrites (w.state.log.take p))) :
    row.status = .called ∧ Called requests w.state.log id := by
  obtain ⟨rfl, written⟩ := mem_ticketVersions.mp member
  have located {write : Write} (written : write ∈ committedWrites (w.state.log.take p)) :
      ∃ n i writes, CommitAt w.state.log n i writes ∧ write ∈ writes := by
    obtain ⟨i, writes, logged, member⟩ := mem_committedWrites.mp written
    obtain ⟨n, _, found⟩ := mem_take.mp logged
    exact ⟨n, i, writes, found, member⟩
  rcases written with inserted | updated
  · obtain ⟨n, i, writes, commit, written⟩ := located inserted
    obtain ⟨location, _, opens, _⟩ := commits_insert (commits_at reach commit) written
    rw [drains.opensNothing i] at opens
    cases opens
  · obtain ⟨n, i, writes, commit, written⟩ := located updated
    rcases drains.commit_cases reach commit with rfl | call | ⟨record, rfl⟩
    · cases written
    · obtain ⟨other, event, rfl, status, _, _, _, called⟩ := call
      have same : row = other := by simpa using written
      rw [same]
      exact ⟨status, n, i, called⟩
    · simp at written

variable (committed : AllCommitted w)

include committed

theorem Drains.called_of_performed {q : Nat} {i : ι} {id location counterId : UUID}
    {service : Option UUID} {row : Ticket} {writes : List Write}
    (located : w.state.log[q]? =
      some ⟨i, .performed (.callTicket id location service counterId) (some row) writes⟩) :
    ∃ n, CalledAt requests w.state.log n i id := by
  have calls : (requests i).calls (pastOf i (w.state.log.take q)) id location service counterId :=
    (reaches_conduct reach).1 q _ located
  cases commits : commitsOf (pastOf i w.state.log) with
  | nil => exact (committed i commits).elim
  | cons first rest =>
      obtain ⟨n, commit, uncommitted⟩ := first_commit commits
      have later : q < n := by
        rcases Nat.lt_trichotomy q n with before | rfl | after
        · exact before
        · cases located.symm.trans commit
        · have seen : (.committed first : Act) ∈ pastOf i (w.state.log.take q) :=
            mem_pastOf.mpr (mem_take.mpr ⟨n, after, commit⟩)
          rw [← mem_commitsOf, calls.1] at seen
          cases seen
      obtain ⟨counter, body, actor, key, _, request, _⟩ := drains.calls i
      exact ⟨n, ⟨⟨counter, body, actor, key, request⟩, mem_calledTickets.mpr ⟨_, _, _, _, _,
        mem_pastOf.mpr (mem_take.mpr ⟨q, later, located⟩)⟩, uncommitted, first, commit⟩⟩

theorem Drains.called_of_pending {p : Nat} {i : ι} {id : UUID} {row : Ticket}
    (member : row ∈ ticketVersions id (pendingOf (pastOf i (w.state.log.take p)))) :
    row.status = .called ∧ Called requests w.state.log id := by
  obtain ⟨rfl, written⟩ := mem_ticketVersions.mp member
  have performed {write : Write} (written : write ∈ pendingOf (pastOf i (w.state.log.take p))) :
      ∃ q stmt value writes context locks,
        w.state.log[q]? = some ⟨i, .performed stmt value writes⟩ ∧
        Ran engine env db i (w.state.log.take q) stmt value writes context locks ∧
        write ∈ writes := by
    obtain ⟨stmt, value, writes, past, member⟩ := mem_pendingOf written
    obtain ⟨q, _, located⟩ := mem_take.mp (mem_pastOf.mp past)
    obtain ⟨context, locks, ran, _⟩ := (reaches_provenance reach).answered located
    exact ⟨q, stmt, value, writes, context, locks, located, ran, member⟩
  rcases written with inserted | updated
  · obtain ⟨q, stmt, value, writes, context, locks, located, ran, member⟩ := performed inserted
    obtain ⟨new, rfl, _⟩ := insert_exec ran.exec member
    have opens : (requests i).opensAt = some new.locationId ∧ _ :=
      (reaches_conduct reach).1 q _ located
    rw [drains.opensNothing i] at opens
    cases opens.1
  · obtain ⟨q, stmt, value, writes, context, locks, located, ran, member⟩ := performed updated
    obtain ⟨_, old, _, ⟨location, service, counter, same, _, status⟩ | ⟨set, rfl, _⟩⟩ :=
      update_exec ran.exec member
    · rw [same] at located
      obtain ⟨n, called⟩ := drains.called_of_performed reach committed located
      exact ⟨status, n, i, called⟩
    · exact (drains.changesNothing i _ ((reaches_conduct reach).1 q _ located).1).elim

theorem Drains.view_ticket (i : ι) (p : Nat) (id : UUID) :
    (viewAt engine db i (w.state.log.take p)).tickets.get? id = db.tickets.get? id ∨
      ((∃ row, (viewAt engine db i (w.state.log.take p)).tickets.get? id = some row ∧
        row.status = .called) ∧ Called requests w.state.log id) := by
  have seen := get?_applyAll (storeAt engine db (w.state.log.take p))
    (pendingOf (pastOf i (w.state.log.take p))) id
  have stored := get?_applyAll db (committedWrites (w.state.log.take p)) id
  rw [viewAt, seen]
  cases pending : (ticketVersions id (pendingOf (pastOf i (w.state.log.take p)))).getLast? with
  | some row =>
      refine .inr ⟨⟨row, ?_, ?_⟩, ?_⟩
      · simp [List.getLast?_append, pending]
      · exact (drains.called_of_pending reach committed (List.mem_of_getLast? pending)).1
      · exact (drains.called_of_pending reach committed (List.mem_of_getLast? pending)).2
  | none =>
      rw [List.getLast?_eq_none_iff.mp pending, List.append_nil, storeAt, stored]
      cases versions : (ticketVersions id (committedWrites (w.state.log.take p))).getLast? with
      | some row =>
          have called := drains.called_of_committed reach (List.mem_of_getLast? versions)
          refine .inr ⟨⟨row, ?_, called.1⟩, called.2⟩
          simp [List.getLast?_append, versions]
      | none =>
          rw [List.getLast?_eq_none_iff.mp versions, List.append_nil]
          refine .inl ?_
          cases db.tickets.get? id <;> rfl

/-! ## What a request that passes over a ticket has seen -/

omit committed in
theorem Drains.queue {i : ι} {p : Nat} {location : UUID} {service : Option UUID}
    (queue : (requests i).queueIs (pastOf i (w.state.log.take p)) location service) :
    location = locationId ∧ service = serviceId := by
  obtain ⟨counterId, body, actor, key, counter, request, same, known, placed⟩ := drains.calls i
  rw [request] at queue
  obtain ⟨service_eq, other, asked, location_eq⟩ := queue
  obtain ⟨q, order, _, _, read⟩ := asked_view reach asked
  have stored := view_record reach drains.not_admin i q (.counter counterId) rfl
  have read : some other = (viewAt engine db i (w.state.log.take q)).counters.get? counterId := read
  have unchanged : (some other).map Row.counter = (some counter).map Row.counter := by
    rw [read, ← known]
    exact stored
  have same_counter : other = counter := by simpa using unchanged
  exact ⟨by rw [← location_eq, same_counter, placed], by rw [service_eq, same]⟩

/-- Whoever holds the lock of a waiting ticket has called it, or found it called. -/
theorem Drains.called_of_took {j : ι} {p : Nat} {ticket : Ticket}
    (waiting : ticket ∈ db.tickets.rows) (waits : ticket.waitsFor locationId serviceId)
    (took : Took engine env db j (.ticket ticket.id) (w.state.log.take p)) :
    Called requests w.state.log ticket.id := by
  obtain ⟨q, stmt, value, writes, context, locks, place, ran, member⟩ := took
  have inside : q < p := by
    have := (List.getElem?_eq_some_iff.mp place).1
    rw [List.length_take] at this
    omega
  have located : w.state.log[q]? = some ⟨j, .performed stmt value writes⟩ := by
    rwa [List.getElem?_take_of_lt inside] at place
  rw [List.take_take, Nat.min_eq_left inside.le] at ran
  have allowed := (reaches_conduct reach).1 q _ located
  cases stmt with
  | read query =>
      obtain ⟨_, _, rfl⟩ := exec_read ran.exec
      simp [engine, Stmt.needs] at member
  | write command =>
      obtain ⟨_, rfl⟩ := exec_write ran.exec
      rw [List.append_nil] at member
      rcases ticket_needs command member with ⟨new, rfl⟩ | ⟨set, rfl⟩
      · have opens : (requests j).opensAt = some new.locationId := allowed.1
        rw [drains.opensNothing j] at opens
        cases opens
      · exact (drains.changesNothing j _ allowed.1).elim
  | callTicket id location service counter =>
      have member : Lock.ticket ticket.id ∈ locks := by
        simpa [engine, Stmt.needs] using member
      rcases (locks_callTicket ran.exec).1 with rfl | ⟨rfl, free⟩
      · cases member
      · have same : ticket.id = id := by simpa using member
        subst same
        rcases exec_callTicket ran.exec with ⟨_, _, busy | gone⟩ | ⟨row, _, _, _, _, rfl, _⟩
        · rw [free] at busy
          cases busy
        · obtain ⟨rfl, rfl⟩ := drains.queue reach allowed.2.1
          rw [ran.view] at gone
          rcases drains.view_ticket reach committed j q ticket.id with unchanged | ⟨_, called⟩
          · rw [unchanged] at gone
            exact (gone ticket (Table.get?_of_mem waiting) waits).elim
          · exact called
        · obtain ⟨n, called⟩ := drains.called_of_performed reach committed located
          exact ⟨n, j, called⟩

theorem Drains.called_of_skipped {i : ι} {p : Nat} {counterId : UUID} {ticket : Ticket}
    (waiting : ticket ∈ db.tickets.rows) (waits : ticket.waitsFor locationId serviceId)
    (skipped : Skipped (pastOf i (w.state.log.take p)) ticket.id locationId serviceId counterId) :
    Called requests w.state.log ticket.id := by
  obtain ⟨q, _, located⟩ := mem_take.mp (mem_pastOf.mp skipped)
  obtain ⟨context, locks, ran, holders⟩ := (reaches_provenance reach).answered located
  rcases exec_callTicket ran.exec with ⟨_, _, busy | gone⟩ | ⟨row, _, _, _, _, impossible, _⟩
  · obtain ⟨j, _, took⟩ := holders _ busy
    exact drains.called_of_took reach committed waiting waits took
  · rw [ran.view] at gone
    rcases drains.view_ticket reach committed i q ticket.id with unchanged | ⟨_, called⟩
    · rw [unchanged] at gone
      exact (gone ticket (Table.get?_of_mem waiting) waits).elim
    · exact called
  · cases impossible

/-- A waiting ticket was in the snapshot, unless it had been called before. -/
theorem Drains.listed_or_called {i : ι} {p : Nat} {candidates : List Ticket}
    (asked : Asked (pastOf i (w.state.log.take p)) (.waitingTickets locationId serviceId)
      candidates) : ∃ (view : Database) (order : UUID → Nat),
    candidates = view.waitingTickets order locationId serviceId ∧
      (∀ ticket ∈ db.tickets.rows, ticket.waitsFor locationId serviceId →
        ticket ∈ candidates ∨ Called requests w.state.log ticket.id) ∧
      ∀ ticket ∈ candidates, ticket ∈ db.tickets.rows := by
  obtain ⟨q, order, _, _, snapshot⟩ := asked_view reach asked
  refine ⟨viewAt engine db i (w.state.log.take q), order, snapshot, ?_, ?_⟩
  · intro ticket waiting waits
    rcases drains.view_ticket reach committed i q ticket.id with unchanged | ⟨_, called⟩
    · have found := unchanged.trans (Table.get?_of_mem waiting)
      rw [snapshot]
      exact .inl (mem_waitingTickets.mpr ⟨Table.mem_of_get? found, waits⟩)
    · exact .inr called
  · intro ticket member
    rw [snapshot] at member
    obtain ⟨present, waits⟩ := mem_waitingTickets.mp member
    have found := Table.get?_of_mem present
    rcases drains.view_ticket reach committed i q ticket.id with unchanged | ⟨⟨row, seen, status⟩, _⟩
    · exact Table.mem_of_get? (unchanged.symm.trans found)
    · cases found.symm.trans seen
      rw [waits.2.1] at status
      cases status

theorem Drains.all_called_of_findsNone {i : ι} {p : Nat} {counterId : UUID}
    (none_found : (requests i).findsNone (pastOf i (w.state.log.take p)) counterId)
    {ticket : Ticket}
    (waiting : ticket ∈ db.tickets.rows) (waits : ticket.waitsFor locationId serviceId) :
    Called requests w.state.log ticket.id := by
  obtain ⟨location, service, candidates, queue, asked, skipped⟩ := none_found
  obtain ⟨rfl, rfl⟩ := drains.queue reach queue
  obtain ⟨view, order, rfl, listed, _⟩ := drains.listed_or_called reach committed asked
  rcases listed ticket waiting waits with member | called
  · exact drains.called_of_skipped reach committed waiting waits (skipped ticket member)
  · exact called

/-- A called ticket was waiting, and every better one is called as well. -/
theorem Drains.better_called {n : Nat} {i : ι} {id : UUID}
    (called : CalledAt requests w.state.log n i id) :
    ∃ taken ∈ db.tickets.rows, taken.id = id ∧ taken.waitsFor locationId serviceId ∧
      ∀ ticket ∈ db.tickets.rows, ticket.waitsFor locationId serviceId → ticket.before taken →
        Called requests w.state.log ticket.id := by
  obtain ⟨location, service, counter, row, writes, performed⟩ :=
    mem_calledTickets.mp called.answered
  obtain ⟨q, _, located⟩ := mem_take.mp (mem_pastOf.mp performed)
  obtain ⟨_, queue, front, taken, back, asked, same, skipped⟩ :=
    (reaches_conduct reach).1 q _ located
  obtain ⟨rfl, rfl⟩ := drains.queue reach queue
  obtain ⟨view, order, snapshot, listed, present⟩ := drains.listed_or_called reach committed asked
  have member : taken ∈ front ++ taken :: back := by simp
  have waits := (mem_waitingTickets.mp (snapshot ▸ member)).2
  refine ⟨taken, present taken member, same, waits, fun ticket waiting waits better => ?_⟩
  rcases listed ticket waiting waits with inside | called
  · rw [snapshot] at inside
    have early := mem_before_of_before snapshot.symm inside better
    exact drains.called_of_skipped reach committed waiting waits (skipped ticket early)
  · exact called

end

end QueueFlow.Concurrency
