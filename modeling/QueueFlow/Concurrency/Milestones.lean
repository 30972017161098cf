import QueueFlow.Concurrency.Lifecycle
import QueueFlow.Tenancy.Settling

/-!
# Milestones

Five code paths write the timestamps and the counter of a ticket. Whatever they overwrite, a ticket
has the columns that its status calls for.
-/

namespace QueueFlow.Concurrency
open QueueFlow.App QueueFlow.Data QueueFlow.Tables QueueFlow.Transactions

variable {ι : Type} [DecidableEq ι] {hexdigest : PyDict → String} {env : Nat → Env}
  {requests : ι → Request} {db : Database} {w : AppWorld ι}

structure Milestones (ticket : Ticket) : Prop where
  completed : ticket.completedAt.isSome ↔ ticket.status ∈ TicketStatus.terminal
  called : ticket.status ∈ [TicketStatus.called, .inService, .hold, .completed] →
    ticket.calledAt.isSome ∧ ticket.assignedCounterId.isSome
  started : ticket.status ∈ [TicketStatus.inService, .hold, .completed] →
    ticket.serviceStartedAt.isSome

structure MilestonesPresent (db : Database) : Prop where
  milestones : ∀ ticket ∈ db.tickets.rows, Milestones ticket
  counter : ∀ ticket ∈ db.tickets.rows, ∀ id ∈ ticket.assignedCounterId,
    ∃ counter ∈ db.counters.get? id, counter.locationId = ticket.locationId

/-! ## One row -/

section
variable {old new : TicketStatus}

theorem called_before (allowed : Allowed old new) (differs : new ≠ .called)
    (serves : new ∈ [TicketStatus.called, .inService, .hold, .completed]) :
    old ∈ [TicketStatus.called, .inService, .hold, .completed] := by
  rcases allowed with rfl | valid
  · exact serves
  · cases old <;> cases new <;> simp_all [validTransitions]

theorem started_before (allowed : Allowed old new) (differs : new ≠ .inService)
    (serves : new ∈ [TicketStatus.inService, .hold, .completed]) :
    old ∈ [TicketStatus.inService, .hold, .completed] := by
  rcases allowed with rfl | valid
  · exact serves
  · cases old <;> cases new <;> simp_all [validTransitions]

end

section
variable {set : TicketUpdate} {now : Time} {row : Ticket}

theorem milestones_new (new : NewTicket) (id : UUID) (waits : new.status = .waiting) :
    Milestones (new.row id now) where
  completed := by simp [NewTicket.row, waits, TicketStatus.terminal]
  called := by simp [NewTicket.row, waits]
  started := by simp [NewTicket.row, waits]

theorem milestones_call (counterId : UUID) (waits : row.status = .waiting)
    (before : Milestones row) : Milestones ((callUpdate counterId now).apply now row) where
  completed := by
    have unset : row.completedAt.isSome = false := by
      have := before.completed
      rw [waits] at this
      simpa [TicketStatus.terminal] using this
    simpa [callUpdate, TicketUpdate.apply, TicketStatus.terminal] using unset
  called _ := by simp [callUpdate, TicketUpdate.apply]
  started := by simp [callUpdate, TicketUpdate.apply]

theorem milestones_update (stamps : set.Stamps env) (differs : set.status ≠ .called)
    (allowed : Allowed row.status set.status) (before : Milestones row) :
    Milestones (set.apply now row) where
  completed := by
    by_cases ends : set.status ∈ TicketStatus.terminal
    · obtain ⟨time, stamped⟩ := Option.isSome_iff_exists.mp (stamps.completed.mpr ends)
      simp [TicketUpdate.apply, stamped, ends]
    · have unset : set.completedAt = none := by simpa using mt stamps.completed.mp ends
      have open_ : row.completedAt = none := by
        simpa using
          mt before.completed.mp fun terminal => ends (terminal_of_allowed allowed terminal)
      simp [TicketUpdate.apply, unset, open_, ends]
  called serves := by
    have moved : set.status ≠ .waiting := by
      intro same
      simp [TicketUpdate.apply, same] at serves
    obtain ⟨calledAt, counter⟩ := before.called (called_before allowed differs serves)
    have stays := (stamps.stays moved).2.2
    simp [TicketUpdate.apply, stamps.called, stays, calledAt, counter]
  started serves := by
    by_cases starts : set.status = .inService
    · obtain ⟨time, stamped⟩ := Option.isSome_iff_exists.mp (stamps.started.mpr starts)
      simp [TicketUpdate.apply, stamped]
    · have unset : set.serviceStartedAt = none := by simpa using mt stamps.started.mp starts
      have since := before.started (started_before allowed starts serves)
      simp [TicketUpdate.apply, unset, since]

end

/-! ## Every row -/

theorem checked_milestones {request : Request} {past : List Act} {stmt : Stmt}
    {context : Context Database Lock Env} {value : stmt.Res} {writes : List Write}
    {locks : List Lock} (exec : stmt.exec context = .done value writes locks)
    (allowed : request.allows hexdigest env past (.performed stmt value writes)) :
    Checked engine Database.row (Keeps Milestones) context.view writes := by
  refine checked_tickets exec (fun old write other => keeps_of_other old other) ?_ ?_ ?_
  · rintro new rfl
    exact milestones_new new _ allowed.2
  · rintro id locationId serviceId counterId row _ _ _ waits
    exact ⟨row, rfl, milestones_call counterId waits.2.1⟩
  · rintro id set row rfl _ valid
    exact ⟨row, rfl, milestones_update allowed.2 allowed.1.1 valid⟩

theorem milestones_stay (base : ∀ ticket ∈ db.tickets.rows, Milestones ticket)
    (reach : Reachable engine env (initial hexdigest requests db) w) :
    ∀ ticket ∈ w.state.store.tickets.rows, Milestones ticket := by
  have serial : Serial engine Database.row (Keeps Milestones) db w.state := by
    refine reach.serial engine_rowed fun w i stmt next value writes locks before _ running exec => ?_
    have follows := (reaches_conduct before).2 i
    rw [running] at follows
    exact checked_milestones exec (follows _ _ _ _ exec).1
  rw [serial.replay]
  exact kept_of_keeps serial.history base

/-! ## The counter -/

def Placed (db : Database) : Prop :=
  ∀ id row, db.tickets.get? id = some row → ∀ counterId ∈ row.assignedCounterId,
    db.owner (.counter counterId) = some row.locationId

def Places (db : Database) : Write → Prop
  | .insert (.ticket row) => row.assignedCounterId = none
  | .update (.ticket row) =>
      (row.status = .waiting → row.assignedCounterId = none) ∧
      (row.status = .called → ∀ counterId ∈ row.assignedCounterId,
        db.owner (.counter counterId) = some row.locationId)
  | _ => True

theorem placed_apply {write : Write} (sound : Sound (db.row write.lock) write)
    (places : Places db write) (placed : Placed db) : Placed (db.apply write) := by
  intro id row found counterId assigned
  refine owner_apply sound ?_
  rw [get?_apply] at found
  cases made : write.ticket? id with
  | none =>
      rw [made] at found
      exact placed id row found counterId assigned
  | some new =>
      rw [made] at found
      cases found
      obtain ⟨rfl, rfl | rfl⟩ := ticket?_eq_some.mp made
      · rw [places] at assigned
        cases assigned
      · obtain ⟨old, located, becomes⟩ := sound
        by_cases waits : row.status = .waiting
        · rw [places.1 waits] at assigned
          cases assigned
        · by_cases called : row.status = .called
          · exact places.2 called counterId assigned
          · rw [becomes.counter waits called] at assigned
            rw [(becomes.place waits).1]
            exact placed row.id old (get?_of_row located) counterId assigned

theorem places_apply {write later : Write} (sound : Sound (db.row write.lock) write)
    (places : Places db later) : Places (db.apply write) later := by
  cases later with
  | insert row =>
      cases row with
      | ticket row => exact places
      | _ => trivial
  | update row =>
      cases row with
      | ticket row =>
          exact ⟨places.1, fun called counterId assigned =>
            owner_apply sound (places.2 called counterId assigned)⟩
      | _ => trivial
  | dropKey tenantId key => trivial

theorem placed_applyAll {writes : List Write}
    (checked : Checked engine Database.row Sound db writes)
    (places : ∀ write ∈ writes, Places db write) (placed : Placed db) :
    Placed (engine.applyAll db writes) := by
  induction writes generalizing db with
  | nil => exact placed
  | cons write writes ih =>
      obtain ⟨sound, rest⟩ := checked
      refine ih rest (fun later member => ?_)
        (placed_apply sound (places write List.mem_cons_self) placed)
      exact places_apply sound (places later (List.mem_cons_of_mem _ member))

theorem requeued_of_commits {request : Request} {past : List Act} {writes : List Write}
    {row : Ticket} (commits : request.commits hexdigest env past writes)
    (member : .update (.ticket row) ∈ writes) (waits : row.status = .waiting) :
    row.assignedCounterId = none := by
  have status := commits_update commits member
  rw [waits] at status
  cases request with
  | transferTicket ticketId data actor =>
      obtain ⟨first, event, requeued, requeueEvent, rfl, _, _, changes, _, requeues⟩ := commits
      simp only [List.mem_cons, Write.update.injEq, Row.ticket.injEq, reduceCtorEq,
        List.not_mem_nil, or_false, false_or] at member
      rcases member with rfl | rfl
      · rw [changes.status] at waits
        cases waits
      · exact Option.map_eq_none_iff.mp requeues.counter
  | _ => cases status

theorem called_of_commits (reach : Reachable engine env (initial hexdigest requests db) w) {i : ι}
    {writes : List Write} {row : Ticket}
    (commits : (requests i).commits hexdigest env (pastOf i w.state.log) writes)
    (member : .update (.ticket row) ∈ writes) (called : row.status = .called) :
    ∀ counterId ∈ row.assignedCounterId,
      w.state.store.owner (.counter counterId) = some row.locationId := by
  have status := commits_update commits member
  rw [called] at status
  generalize is : requests i = request at commits status
  cases request with
  | callNext counterId body actor key =>
      obtain ⟨event, _, calls⟩ := update_of_call commits member
      intro other assigned
      rw [calls.counter] at assigned
      cases assigned
      obtain ⟨counter, location, saw, here, _⟩ := calls.place
      rw [← here]
      exact Tenancy.owner_of_saw_counter reach saw
  | transferTicket ticketId data actor =>
      rcases status with impossible | impossible <;> cases impossible
  | _ => cases status

theorem places_commits (reach : Reachable engine env (initial hexdigest requests db) w) {i : ι}
    {writes : List Write}
    (commits : (requests i).commits hexdigest env (pastOf i w.state.log) writes) :
    ∀ write ∈ writes, Places w.state.store write := by
  intro write member
  cases write with
  | insert row =>
      cases row with
      | ticket row =>
          obtain ⟨locationId, event, _, _, opens⟩ := commits_insert commits member
          have unassigned : row.ref .counter = none := by
            rw [opens.refs .counter]
            cases requests i <;> rfl
          exact Option.map_eq_none_iff.mp unassigned
      | _ => trivial
  | update row =>
      cases row with
      | ticket row =>
          exact ⟨requeued_of_commits commits member, called_of_commits reach commits member⟩
      | _ => trivial
  | dropKey tenantId key => trivial

theorem placed_stays (base : Placed db)
    (reach : Reachable engine env (initial hexdigest requests db) w) : Placed w.state.store := by
  refine reach.moves (motive := fun w => Placed w.state.store) base ?_
  intro w i program session state before placed running moved _
  cases moved with
  | committed next =>
      have follows := (reaches_conduct before).2 i
      rw [running] at follows
      exact placed_applyAll ((reaches_serial before).pending i) (places_commits before follows.1)
        placed
  | _ => exact placed

theorem placed_iff : Placed db ↔ ∀ ticket ∈ db.tickets.rows, ∀ id ∈ ticket.assignedCounterId,
    ∃ counter ∈ db.counters.get? id, counter.locationId = ticket.locationId := by
  have owner (id locationId : UUID) : db.owner (.counter id) = some locationId ↔
      ∃ counter ∈ db.counters.get? id, counter.locationId = locationId := by
    cases found : db.counters.get? id <;> simp [Database.owner, Database.row, Row.owner, found]
  simp only [← owner]
  constructor
  · exact fun placed ticket member => placed ticket.id ticket (Table.get?_of_mem member)
  · exact fun placed id row found => placed row (Table.mem_of_get? found)

/-- Milestones are present in every committed state. -/
theorem milestones_present (base : MilestonesPresent db)
    (reach : Reachable engine env (initial hexdigest requests db) w) :
    MilestonesPresent w.state.store where
  milestones := milestones_stay base.milestones reach
  counter := placed_iff.mp (placed_stays (placed_iff.mpr base.counter) reach)

theorem milestones_present_rounds : MilestonesPresent roundsWorld.state.store := by
  refine milestones_present ⟨?_, ?_⟩ rounds_reachable <;>
    exact fun ticket member => absurd member List.not_mem_nil

end QueueFlow.Concurrency
