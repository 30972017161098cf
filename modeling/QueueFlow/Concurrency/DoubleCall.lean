import QueueFlow.Concurrency.Setting
import QueueFlow.Conduct.Shapes

/-!
# No ticket is called twice

A called ticket stays out of the queue until a transfer puts it back, so two calls of one ticket
have the commit of a transfer between them.
-/

namespace QueueFlow.Concurrency
open QueueFlow.App QueueFlow.Data QueueFlow.Tables QueueFlow.Transactions

variable {ι : Type} [DecidableEq ι] {hexdigest : PyDict → String} {env : Nat → Env}
  {requests : ι → Request} {db : Database} {w : AppWorld ι}

def calledTickets (past : List Act) : List UUID :=
  past.filterMap fun action => match action with
    | .performed (.callTicket id _ _ _) (some _) _ => some id
    | _ => none

theorem mem_calledTickets {past : List Act} {id : UUID} :
    id ∈ calledTickets past ↔ ∃ locationId serviceId counterId row writes,
      (.performed (.callTicket id locationId serviceId counterId) (some row) writes : Act) ∈
        past := by
  simp only [calledTickets, List.mem_filterMap]
  constructor
  · rintro ⟨action, member, same⟩
    split at same
    · cases same
      exact ⟨_, _, _, _, _, member⟩
    · cases same
  · rintro ⟨locationId, serviceId, counterId, row, writes, member⟩
    exact ⟨_, member, rfl⟩

/-- Session `i` executed a call-next whose statement returned ticket `id`, and committed it at
position `n`. -/
structure CalledAt (requests : ι → Request) (log : List (Entry ι)) (n : Nat) (i : ι) (id : UUID) :
    Prop where
  request : ∃ counterId body actor key, requests i = .callNext counterId body actor key
  answered : id ∈ calledTickets (pastOf i (log.take n))
  uncommitted : commitsOf (pastOf i (log.take n)) = []
  commit : ∃ writes, CommitAt log n i writes

/-- Session `j` transferred ticket `id` back to the queue, and committed that at position `k`. -/
structure RequeuedAt (requests : ι → Request) (log : List (Entry ι)) (k : Nat) (j : ι)
    (id : UUID) : Prop where
  request : ∃ ticketId data actor, requests j = .transferTicket ticketId data actor
  commit : ∃ writes row, CommitAt log k j writes ∧ .update (.ticket row) ∈ writes ∧ row.id = id ∧
    row.status = .waiting

/-! ## The shape of a call -/

theorem update_of_answered (reach : Reachable engine env (initial hexdigest requests db) w)
    {n : Nat} {i : ι} {id : UUID} (answered : id ∈ calledTickets (pastOf i (w.state.log.take n)))
    (uncommitted : commitsOf (pastOf i (w.state.log.take n)) = []) :
    ∃ row : Ticket, row.id = id ∧ row.status = .called ∧
      .update (.ticket row) ∈ pendingOf (pastOf i (w.state.log.take n)) := by
  obtain ⟨locationId, serviceId, counterId, row, writes, performed⟩ := mem_calledTickets.mp answered
  obtain ⟨m, _, located⟩ := mem_take.mp (mem_pastOf.mp performed)
  obtain ⟨context, locks, ran, _⟩ := (reaches_provenance reach).answered located
  rcases exec_callTicket ran.exec with ⟨impossible, _⟩ | ⟨old, _, read, _, _, same, rfl⟩
  · cases impossible
  · exact ⟨(callUpdate counterId context.began.now).apply context.began.now old,
      Table.key_of_get? read, rfl, mem_pendingOf_of_open uncommitted performed (by simp)⟩

theorem CalledAt.shape (reach : Reachable engine env (initial hexdigest requests db) w)
    {n : Nat} {i : ι} {id : UUID} (called : CalledAt requests w.state.log n i id) :
    ∃ row event, CommitAt w.state.log n i [.update (.ticket row), .insert (.event event)] ∧
      row.id = id ∧ row.status = .called := by
  obtain ⟨writes, commit⟩ := called.commit
  obtain ⟨row, rfl, status, pending⟩ :=
    update_of_answered reach called.answered called.uncommitted
  rw [← (reaches_provenance reach).committed_eq commit] at pending
  obtain ⟨counterId, body, actor, key, request⟩ := called.request
  have commits := commits_at reach commit
  rw [request] at commits
  obtain ⟨event, rfl, _⟩ := update_of_call commits pending
  exact ⟨row, event, commit, rfl, status⟩

theorem calledAt_of_commit (reach : Reachable engine env (initial hexdigest requests db) w)
    {n : Nat} {i : ι} {counterId : UUID} {body : CallNextBody} {actor : TokenPayload}
    {key : Option String} {row : Ticket} {event : TicketEvent}
    (request : requests i = .callNext counterId body actor key)
    (commit : CommitAt w.state.log n i [.update (.ticket row), .insert (.event event)]) :
    CalledAt requests w.state.log n i row.id := by
  have commits := commits_at reach commit
  rw [request] at commits
  have written : .update (.ticket row) ∈ [Write.update (.ticket row), .insert (.event event)] :=
    List.mem_cons_self
  obtain ⟨_, _, calls⟩ := update_of_call commits written
  obtain ⟨m, stmt, value, writes, before, located, member⟩ :=
    (reaches_provenance reach).performed_of_committed commit written
  obtain ⟨context, locks, ran, _⟩ := (reaches_provenance reach).answered located
  have proper : stmt.Proper := proper_of_allows ((reaches_conduct reach).1 m _ located)
  obtain ⟨locationId, serviceId, counter, action⟩ :=
    called_exec proper ran.exec member calls.status
  rw [action] at located
  exact {
    request := ⟨counterId, body, actor, key, request⟩
    answered := mem_calledTickets.mpr ⟨locationId, serviceId, counter, row, _,
      mem_pastOf.mpr (mem_take.mpr ⟨m, before, located⟩)⟩
    uncommitted := calls.first
    commit := ⟨_, commit⟩ }

theorem calledAt_of_returned (reach : Reachable engine env (initial hexdigest requests db) w)
    {i : ι} {counterId : UUID} {body : CallNextBody} {actor : TokenPayload} {key : Option String}
    {read : TicketRead} (request : requests i = .callNext counterId body actor key)
    (returned : w.session i = .returned (.called (some read))) :
    commitsOf (pastOf i w.state.log) = [] ∨
      ∃ n, CalledAt requests w.state.log n i read.ticket.id := by
  have follows := (reaches_conduct reach).2 i
  rw [returned, request] at follows
  obtain ⟨_, nothing | ⟨row, event, rest, commits, same⟩⟩ := follows
  · exact .inl nothing
  · obtain ⟨n, commit, uncommitted⟩ := first_commit commits
    rw [same]
    exact .inr ⟨n, calledAt_of_commit reach request commit⟩

/-! ## Out of the queue -/

def OutOfQueue (old : Option Row) : Prop :=
  ∃ row, old = some (.ticket row) ∧ row.status ≠ .waiting

theorem outOfQueue_of_calledAt (reach : Reachable engine env (initial hexdigest requests db) w)
    {n : Nat} {i : ι} {id : UUID} (called : CalledAt requests w.state.log n i id) :
    OutOfQueue ((storeAt engine db (w.state.log.take (n + 1))).row (.ticket id)) := by
  obtain ⟨row, event, commit, rfl, status⟩ := called.shape reach
  rw [storeAt_commit commit]
  simp only [Engine.applyAll_cons, Engine.applyAll_nil]
  refine ⟨row, ?_, by simp [status]⟩
  rw [engine_rowed.apply, engine_rowed.apply]
  simp [engine, Write.lock, Row.lock, Write.value]

theorem waiting_of_calledAt (reach : Reachable engine env (initial hexdigest requests db) w)
    {n : Nat} {i : ι} {id : UUID} (called : CalledAt requests w.state.log n i id) :
    ∃ old, (storeAt engine db (w.state.log.take n)).row (.ticket id) = some (.ticket old) ∧
      old.status = .waiting := by
  obtain ⟨row, event, commit, rfl, status⟩ := called.shape reach
  obtain ⟨⟨old, found, becomes⟩, _⟩ := (reaches_serial reach).checked_commit commit
  exact ⟨old, found, becomes.called status⟩

theorem transfer_of_writesStatus {request : Request} (writes : request.writesStatus .waiting) :
    ∃ ticketId data actor, request = .transferTicket ticketId data actor := by
  cases request with
  | transferTicket ticketId data actor => exact ⟨ticketId, data, actor, rfl⟩
  | _ => simp [Request.writesStatus] at writes

/-- Only a transfer puts a ticket back. -/
theorem OutOfQueue.stays (reach : Reachable engine env (initial hexdigest requests db) w)
    {m n : Nat} {id : UUID} (ordered : m ≤ n)
    (out : OutOfQueue ((storeAt engine db (w.state.log.take m)).row (.ticket id)))
    (undisturbed : ∀ k j, m ≤ k → k < n → ¬ RequeuedAt requests w.state.log k j id) :
    OutOfQueue ((storeAt engine db (w.state.log.take n)).row (.ticket id)) := by
  rw [storeAt_stretch ordered]
  refine checked_preserves engine_rowed ((reaches_serial reach).checked_stretch ordered) ?_ out
  rintro write member locked _ ⟨old, rfl, _⟩ sound
  obtain ⟨row, same, rfl | rfl⟩ := ticket_of_lock locked
  · cases sound
  · refine ⟨row, rfl, fun waiting => ?_⟩
    obtain ⟨k, j, writes, low, high, commit, written⟩ := mem_committedWrites_stretch member
    have shape := commits_update (commits_at reach commit) written
    rw [waiting] at shape
    exact undisturbed k j low high
      ⟨transfer_of_writesStatus shape, writes, row, commit, written, same, waiting⟩

theorem not_called_again (reach : Reachable engine env (initial hexdigest requests db) w)
    {m n : Nat} {i j : ι} {id : UUID} (ordered : m < n)
    (first : CalledAt requests w.state.log m i id)
    (undisturbed : ∀ k l, m < k → k < n → ¬ RequeuedAt requests w.state.log k l id) :
    ¬ CalledAt requests w.state.log n j id := by
  intro second
  obtain ⟨row, found, out⟩ := (outOfQueue_of_calledAt reach first).stays reach ordered undisturbed
  obtain ⟨old, located, waiting⟩ := waiting_of_calledAt reach second
  rw [found] at located
  cases located
  exact out waiting

theorem no_double_call (reach : Reachable engine env (initial hexdigest requests db) w)
    {m n : Nat} {i j : ι} {id : UUID} (ordered : m < n)
    (first : CalledAt requests w.state.log m i id)
    (second : CalledAt requests w.state.log n j id) :
    ∃ k l, m < k ∧ k < n ∧ RequeuedAt requests w.state.log k l id := by
  by_contra absent
  refine not_called_again reach ordered first ?_ second
  exact fun k l low high requeued => absent ⟨k, l, low, high, requeued⟩

theorem no_double_call_rounds :
    ∃ k l, 12 < k ∧ k < 32 ∧ RequeuedAt rounds roundsWorld.state.log k l 1001 := by
  have first : CalledAt rounds roundsWorld.state.log 12 1 1001 :=
    ⟨⟨30, {}, clerk, none, rfl⟩, by decide +kernel, by decide +kernel,
      exists_commitAt.mpr (by decide +kernel)⟩
  have second : CalledAt rounds roundsWorld.state.log 32 4 1001 :=
    ⟨⟨31, {}, clerk, none, rfl⟩, by decide +kernel, by decide +kernel,
      exists_commitAt.mpr (by decide +kernel)⟩
  exact no_double_call rounds_reachable (by decide) first second

end QueueFlow.Concurrency
