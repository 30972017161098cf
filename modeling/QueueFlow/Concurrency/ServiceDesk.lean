import QueueFlow.Concurrency.Invariants
import QueueFlow.Desk.ServiceDesk
import QueueFlow.Tenancy.Settling

/-!
# The queues as a service desk

Whatever the interleaving, the committed tickets move as the visitors of a service desk do, one
commit after the other.
-/

namespace QueueFlow.Concurrency
open QueueFlow.App QueueFlow.Data QueueFlow.Tables QueueFlow.Transactions
open QueueFlow.Desk (desk Phase Visit)

variable {ι : Type} [DecidableEq ι] {hexdigest : PyDict → String} {env : Nat → Env}
  {requests : ι → Request} {db store : Database} {w : AppWorld ι} {row new : Ticket} {phase : Phase}
  {write : Write} {writes : List Write}

abbrev DeskStep : Type := Desk.Step UUID UUID UUID UUID

/-! ## What the tables say of the visitors -/

def phaseOf : TicketStatus → Option Phase
  | .waiting => some .waiting
  | .called => some .called
  | .inService => some .served
  | .hold => some .held
  | .completed => some (.gone .completed)
  | .canceled => some (.gone .canceled)
  | .noShow => some (.gone .noShow)
  | .created | .transferred => none

def visitOf (ticket : Ticket) : Option (Visit UUID UUID UUID) :=
  (phaseOf ticket.status).map fun phase =>
    ⟨ticket.locationId, ticket.serviceId, phase, ticket.assignedCounterId⟩

def floorOf (db : Database) (id : UUID) : Option (Visit UUID UUID UUID) :=
  (db.tickets.get? id).bind visitOf

/-- What a request asks of the desk. The hall of a call is the location of its counter. -/
def orders (store : Database) : Request → DeskStep → Prop
  | .createTicket data _ _, .arrive _ hall queue => hall = data.locationId ∧ queue = data.serviceId
  | .kioskCreateTicket body _, .arrive _ hall queue =>
      hall = body.locationId ∧ queue = body.serviceId
  | .callNext counterId body _ _, .call _ counter hall only =>
      counter = counterId ∧ store.owner (.counter counterId) = some hall ∧ only = body.serviceId
  | .startService ticketId _ _, .proceed id phase => id = ticketId ∧ phase = .served
  | .completeTicket ticketId _ _, .proceed id phase => id = ticketId ∧ phase = .gone .completed
  | .holdTicket ticketId _, .proceed id phase => id = ticketId ∧ phase = .held
  | .cancelTicket ticketId _, .proceed id phase => id = ticketId ∧ phase = .gone .canceled
  | .noShow ticketId _, .proceed id phase => id = ticketId ∧ phase = .gone .noShow
  | .transferTicket ticketId data _, .requeue id hall queue =>
      id = ticketId ∧ hall = data.targetLocationId ∧ queue = some data.targetServiceId
  | .autoNoShowCalledTickets, .proceed _ phase => phase = .gone .noShow
  | _, _ => False

/-! ## One write -/

theorem phaseOf_settled {status : TicketStatus} (notCreated : status ≠ .created)
    (notTransferred : status ≠ .transferred) : ∃ phase, phaseOf status = some phase := by
  cases status with
  | created => exact (notCreated rfl).elim
  | transferred => exact (notTransferred rfl).elim
  | _ => exact ⟨_, rfl⟩

theorem leadsTo_of_valid {old status : TicketStatus} {before : Phase}
    (was : phaseOf old = some before) (becomes : phaseOf status = some phase)
    (valid : status ∈ validTransitions old) (queued : status ≠ .waiting)
    (called : status ≠ .called) : before.leadsTo phase = true := by
  cases old <;> cases was <;> simp only [validTransitions, List.mem_cons, List.not_mem_nil,
    or_false] at valid <;> rcases valid with rfl | rfl | rfl | rfl | rfl <;> cases becomes <;>
    first | rfl | exact absurd rfl queued | exact absurd rfl called

theorem floorOf_ticket (made : write.ticket? new.id = some new) :
    floorOf (db.apply write) = Function.update (floorOf db) new.id (visitOf new) := by
  funext id
  rw [floorOf, get?_apply]
  by_cases same : id = new.id
  · subst same
    rw [made, Function.update_self]
    rfl
  · have other : write.ticket? id = none := by
      obtain ⟨_, rfl | rfl⟩ := ticket?_eq_some.mp made <;> simp [Write.ticket?, Ne.symm same]
    rw [other, Function.update_of_ne same]
    rfl

theorem floorOf_untouched (untouched : ∀ id, write.ticket? id = none) :
    floorOf (db.apply write) = floorOf db := by
  funext id
  rw [floorOf, get?_apply, untouched]
  rfl

theorem visitOf_eq (known : phaseOf row.status = some phase) :
    visitOf row = some ⟨row.locationId, row.serviceId, phase, row.assignedCounterId⟩ := by
  rw [visitOf, known]
  rfl

/-- An UPDATE is one step of the desk, or none when it leaves the status as it was. -/
theorem steps_of_update (found : db.tickets.get? new.id = some row)
    (settled : row.status ≠ .created ∧ row.status ≠ .transferred) (becomes : row.Becomes new)
    (known : phaseOf new.status = some phase) (queued : new.status ≠ .waiting)
    (called : new.status ≠ .called) : ∃ steps : List DeskStep,
      desk.run (floorOf db) steps = some (floorOf (db.apply (.update (.ticket new)))) ∧
      ∀ step ∈ steps, step = .proceed new.id phase := by
  obtain ⟨before, was⟩ := phaseOf_settled settled.1 settled.2
  have here : floorOf db new.id =
      some ⟨row.locationId, row.serviceId, before, row.assignedCounterId⟩ := by
    rw [floorOf, found, Option.bind_some, visitOf_eq was]
  have there : visitOf new =
      some ⟨row.locationId, row.serviceId, phase, row.assignedCounterId⟩ := by
    rw [visitOf_eq known, (becomes.place queued).1, (becomes.place queued).2,
      becomes.counter queued called]
  have made : (Write.update (.ticket new)).ticket? new.id = some new := by simp [Write.ticket?]
  rw [floorOf_ticket made]
  rcases becomes.allowed with same | valid
  · refine ⟨[], ?_, by simp⟩
    rw [same, was] at known
    cases known
    rw [there, ← here, Function.update_eq_self]
    rfl
  · refine ⟨[.proceed new.id phase], ?_, by simp⟩
    rw [there]
    apply Desk.perform_eq
    change Desk.Step.goOn (.proceed new.id phase) (floorOf db new.id) = _
    rw [here]
    exact if_pos (leadsTo_of_valid was known valid queued called)

/-! ## One commit -/

def SetsPhase (phase : Phase) (write : Write) : Prop :=
  (∀ id, write.ticket? id = none) ∨ ∃ new, write = .update (.ticket new) ∧
    phaseOf new.status = some phase ∧ new.status ≠ .waiting ∧ new.status ≠ .called

theorem settled_update (settled : Settled db) (known : phaseOf new.status = some phase) :
    Settled (db.apply (.update (.ticket new))) := by
  intro ticket member
  have found := Table.get?_of_mem member
  rw [get?_apply] at found
  by_cases same : new.id = ticket.id
  · obtain rfl : new = ticket := by simpa [Write.ticket?, same] using found
    constructor
    · intro impossible
      rw [impossible] at known
      cases known
    · intro impossible
      rw [impossible] at known
      cases known
  · have stored : db.tickets.get? ticket.id = some ticket := by
      simpa [Write.ticket?, same] using found
    exact settled ticket (Table.mem_of_get? stored)

theorem settled_untouched (settled : Settled db) (untouched : ∀ id, write.ticket? id = none) :
    Settled (db.apply write) := by
  intro ticket member
  have found := Table.get?_of_mem member
  rw [get?_apply, untouched] at found
  exact settled ticket (Table.mem_of_get? found)

theorem steps_of_writes (settled : Settled db)
    (checked : Checked engine Database.row Sound db writes)
    (shape : ∀ write ∈ writes, SetsPhase phase write) : ∃ steps : List DeskStep,
      desk.run (floorOf db) steps = some (floorOf (engine.applyAll db writes)) ∧
      ∀ step ∈ steps, ∃ new, .update (.ticket new) ∈ writes ∧ step = .proceed new.id phase := by
  induction writes generalizing db with
  | nil => exact ⟨[], rfl, by simp⟩
  | cons write writes ih =>
      obtain ⟨sound, checked⟩ := checked
      have rest := fun other member => shape other (List.mem_cons_of_mem write member)
      rcases shape write List.mem_cons_self with untouched | ⟨new, rfl, known, queued, called⟩
      · obtain ⟨steps, runs, named⟩ := ih (settled_untouched settled untouched) checked rest
        refine ⟨steps, ?_, fun step member => ?_⟩
        · rw [← floorOf_untouched untouched]
          exact runs
        · obtain ⟨new, listed, same⟩ := named step member
          exact ⟨new, List.mem_cons_of_mem _ listed, same⟩
      · obtain ⟨row, found, becomes⟩ := sound
        have found : db.tickets.get? new.id = some row := get?_of_row found
        have before := settled row (Table.mem_of_get? found)
        obtain ⟨first, runsFirst, namedFirst⟩ :=
          steps_of_update found before becomes known queued called
        obtain ⟨steps, runs, named⟩ := ih (settled_update settled known) checked rest
        refine ⟨first ++ steps, ?_, fun step member => ?_⟩
        · rw [Machine.run_append, runsFirst]
          exact runs
        · rcases List.mem_append.mp member with here | later
          · exact ⟨new, List.mem_cons_self, namedFirst step here⟩
          · obtain ⟨other, listed, same⟩ := named step later
            exact ⟨other, List.mem_cons_of_mem _ listed, same⟩

theorem floorOf_applyAll (untouched : ∀ write ∈ writes, ∀ id, write.ticket? id = none) :
    floorOf (engine.applyAll db writes) = floorOf db := by
  induction writes generalizing db with
  | nil => rfl
  | cons write writes ih =>
      rw [Engine.applyAll_cons,
        ih fun other member => untouched other (List.mem_cons_of_mem _ member)]
      exact floorOf_untouched (untouched write List.mem_cons_self)

theorem step_of_insert {event : TicketEvent} (absent : db.tickets.get? new.id = none)
    (waits : new.status = .waiting) (nobody : new.assignedCounterId = none) :
    desk.run (floorOf db) [.arrive new.id new.locationId new.serviceId] =
      some (floorOf (engine.applyAll db [.insert (.ticket new), .insert (.event event)])) := by
  have made : (Write.insert (.ticket new)).ticket? new.id = some new := by simp [Write.ticket?]
  have known : phaseOf new.status = some .waiting := by rw [waits]; rfl
  have here : floorOf db new.id = none := by rw [floorOf, absent]; rfl
  change _ = some (floorOf ((db.apply (.insert (.ticket new))).apply (.insert (.event event))))
  rw [floorOf_untouched fun id => rfl, floorOf_ticket made, visitOf_eq known, nobody]
  apply Desk.perform_eq
  change Desk.Step.goOn (.arrive new.id new.locationId new.serviceId) (floorOf db new.id) = _
  rw [here]
  rfl

theorem step_of_call {event : TicketEvent} {counterId : UUID} {only : Option UUID}
    (found : db.tickets.get? new.id = some row) (becomes : row.Becomes new)
    (status : new.status = .called) (counter : new.assignedCounterId = some counterId)
    (fits : only = none ∨ new.serviceId = only) :
    desk.run (floorOf db) [.call new.id counterId new.locationId only] =
      some (floorOf (engine.applyAll db [.update (.ticket new), .insert (.event event)])) := by
  have made : (Write.update (.ticket new)).ticket? new.id = some new := by simp [Write.ticket?]
  have place := becomes.place (by simp [status])
  have was : phaseOf row.status = some .waiting := by rw [becomes.called status]; rfl
  have known : phaseOf new.status = some .called := by rw [status]; rfl
  have here : floorOf db new.id =
      some ⟨new.locationId, new.serviceId, .waiting, row.assignedCounterId⟩ := by
    rw [floorOf, found, Option.bind_some, visitOf_eq was, place.1, place.2]
  change _ = some (floorOf ((db.apply (.update (.ticket new))).apply (.insert (.event event))))
  rw [floorOf_untouched fun id => rfl, floorOf_ticket made, visitOf_eq known, counter]
  apply Desk.perform_eq
  change Desk.Step.goOn (.call new.id counterId new.locationId only) (floorOf db new.id) = _
  rw [here]
  exact if_pos ⟨rfl, rfl, fits⟩

theorem step_of_transfer {first requeued : Ticket} {event requeueEvent : TicketEvent}
    {hall : Option UUID} (settled : Settled db)
    (found : db.tickets.get? first.id = some row) (leaves : row.Becomes first)
    (status : first.status = .transferred) (same : requeued.id = first.id)
    (waits : requeued.status = .waiting) (nobody : requeued.assignedCounterId = none)
    (place : requeued.locationId = hall.getD first.locationId) :
    desk.run (floorOf db) [.requeue first.id hall requeued.serviceId] =
      some (floorOf (engine.applyAll db [.update (.ticket first), .insert (.event event),
        .update (.ticket requeued), .insert (.event requeueEvent)])) := by
  have made : (Write.update (.ticket first)).ticket? first.id = some first := by
    simp [Write.ticket?]
  have again : (Write.update (.ticket requeued)).ticket? requeued.id = some requeued := by
    simp [Write.ticket?]
  have serving : row.status = .inService := by
    have settled := settled row (Table.mem_of_get? found)
    have allowed := leaves.allowed
    rw [status] at allowed
    rcases allowed with unchanged | valid
    · exact absurd unchanged.symm settled.2
    · cases old : row.status <;> rw [old] at valid <;> simp [validTransitions] at valid
  have was : phaseOf row.status = some .served := by rw [serving]; rfl
  have known : phaseOf requeued.status = some .waiting := by rw [waits]; rfl
  have here : floorOf db first.id =
      some ⟨first.locationId, first.serviceId, .served, row.assignedCounterId⟩ := by
    have kept := leaves.place (by simp [status])
    rw [floorOf, found, Option.bind_some, visitOf_eq was, kept.1, kept.2]
  change _ = some (floorOf ((((db.apply (.update (.ticket first))).apply
    (.insert (.event event))).apply (.update (.ticket requeued))).apply
      (.insert (.event requeueEvent))))
  rw [floorOf_untouched fun id => rfl, floorOf_ticket again, floorOf_untouched fun id => rfl,
    floorOf_ticket made, same, Function.update_idem, visitOf_eq known, nobody, place]
  apply Desk.perform_eq
  change Desk.Step.goOn (.requeue first.id hall requeued.serviceId) (floorOf db first.id) = _
  rw [here]
  simp [Desk.Step.goOn]

/-! ## Every commit -/

/-- The counter that calls a ticket is at the ticket's location, and calls only what it may. -/
theorem call_fits (reach : Reachable engine env (initial hexdigest requests db) w) {n : Nat} {i : ι}
    {counterId : UUID} {body : CallNextBody} {actor : TokenPayload} {key : Option String}
    {event : TicketEvent} (request : requests i = .callNext counterId body actor key)
    (commit : CommitAt w.state.log n i [.update (.ticket new), .insert (.event event)])
    (calls : (requests i).CallsTicket (pastOf i (w.state.log.take n)) counterId new event) :
    w.state.store.owner (.counter counterId) = some new.locationId ∧
      (body.serviceId = none ∨ new.serviceId = body.serviceId) := by
  constructor
  · obtain ⟨counter, _, saw, here, _⟩ := calls.place
    have sooner : pastOf i (w.state.log.take n) <+: pastOf i w.state.log := by
      rw [← List.take_append_drop n w.state.log, pastOf_append, List.take_append_drop]
      exact List.prefix_append _ _
    rw [← here]
    exact Tenancy.owner_of_saw_counter reach (saw.continues sooner)
  · obtain ⟨m, stmt, value, writes, before, located, member⟩ :=
      (reaches_provenance reach).performed_of_committed commit List.mem_cons_self
    obtain ⟨context, locks, ran, _⟩ := (reaches_provenance reach).answered located
    have allowed := (reaches_conduct reach).1 m _ located
    have proper : stmt.Proper := proper_of_allows allowed
    obtain ⟨rfl, old, found, ⟨locationId, serviceId, counter, action, waits, _⟩ | other⟩ :=
      update_exec ran.exec member
    · rw [action, request] at allowed
      obtain ⟨_, ⟨same, _⟩, _⟩ := allowed
      obtain ⟨⟨row, there, becomes⟩, _⟩ := checked_exec proper ran.exec
      have kept := (becomes.place (by simp [calls.status])).2
      have one : row = old := by
        have located := get?_of_row there
        rw [found] at located
        exact (Option.some.inj located).symm
      rw [kept, one, ← same]
      exact waits.2.2
    · obtain ⟨set, rfl, rfl⟩ := other
      exact absurd calls.status proper.1

theorem untouched_of_records {request : Request} (only : OnlyRecords request writes) :
    ∀ write ∈ writes, ∀ id, write.ticket? id = none := by
  intro write member id
  refine ticket?_eq_none.mpr fun locked => ?_
  have isRecord := (only write member).1
  rw [locked] at isRecord
  cases isRecord

theorem untouched_of_episode {ticketId : UUID} (episodic : Request.IsEpisode ticketId writes) :
    ∀ write ∈ writes, ∀ id, write.ticket? id = none := by
  intro write member id
  obtain ⟨interaction, same, _⟩ := episodic write member
  cases write with
  | insert row =>
      cases same
      rfl
  | update row =>
      cases same
      rfl
  | dropKey tenantId key => rfl

/-- The phase to which a request that changes a status takes its ticket. -/
theorem orders_of_change {request : Request} {target : TicketStatus}
    (changes : request.changesTo target)
    (stays : ∀ ticketId data actor, request ≠ .transferTicket ticketId data actor)
    {id : UUID} (names : request.ticketId = some id) : ∃ phase, phaseOf target = some phase ∧
      target ≠ .waiting ∧ orders store request (.proceed id phase) := by
  obtain ⟨uncalled, status⟩ := changes
  cases request with
  | startService | completeTicket | holdTicket | cancelTicket | noShow =>
      cases names
      obtain rfl : target = _ := status
      exact ⟨_, rfl, nofun, rfl, rfl⟩
  | transferTicket ticketId data actor => exact (stays ticketId data actor rfl).elim
  | _ => cases names

/-- The writes are steps of the desk that the request asks for, and only a first commit has any. -/
def IsTurn (store : Database) (request : Request) (past : List Act) (db : Database)
    (writes : List Write) : Prop :=
  ∃ steps : List DeskStep,
    desk.run (floorOf db) steps = some (floorOf (engine.applyAll db writes)) ∧
      (∀ step ∈ steps, orders store request step) ∧ (steps ≠ [] → commitsOf past = [])

section
variable {request : Request} {past : List Act}

theorem isTurn_untouched (untouched : ∀ write ∈ writes, ∀ id, write.ticket? id = none) :
    IsTurn store request past db writes :=
  ⟨[], by rw [floorOf_applyAll untouched]; rfl, by simp, by simp⟩

theorem isTurn_creation {locationId : UUID} {event : TicketEvent}
    (checked : Checked engine Database.row Sound db
      [.insert (.ticket row), .insert (.event event)])
    (place : request.opensAt = some locationId) (opens : request.Opens past locationId row event) :
    IsTurn store request past db [.insert (.ticket row), .insert (.event event)] := by
  have absent : db.tickets.get? row.id = none := Option.map_eq_none_iff.mp checked.1
  have nobody : row.assignedCounterId = none := by
    have refs := opens.refs .counter
    cases request <;> cases place <;> exact Option.map_eq_none_iff.mp refs
  refine ⟨_, step_of_insert absent opens.status nobody, ?_, fun _ => opens.first⟩
  intro step member
  cases List.mem_singleton.mp member
  have service := opens.refs .service
  have location := opens.location
  cases request <;> cases place
  · exact ⟨location, Option.map_injective (fun _ _ same => Lock.service.inj same) service⟩
  · exact ⟨location, Option.map_injective (fun _ _ same => Lock.service.inj same) service⟩

theorem isTurn_change {target : TicketStatus} (settled : Settled db)
    (checked : Checked engine Database.row Sound db writes)
    (changes : request.commitsChange past target writes) (status : request.changesTo target)
    (stays : ∀ ticketId data actor, request ≠ .transferTicket ticketId data actor) :
    IsTurn store request past db writes := by
  obtain ⟨row, event, episode, rfl, first, transitions, changed, episodic, _⟩ := changes
  obtain ⟨_, _, _, _, _, ⟨names, _⟩, _⟩ := transitions
  rw [changed.ticketId] at names
  obtain ⟨phase, known, queued, ordered⟩ : ∃ phase, phaseOf target = some phase ∧
      target ≠ .waiting ∧ orders store request (.proceed row.id phase) :=
    orders_of_change status stays names
  have shape : ∀ write ∈ .update (.ticket row) :: .insert (.event event) :: episode,
      SetsPhase phase write := by
    intro write member
    rcases List.mem_cons.mp member with rfl | rest
    · exact .inr ⟨row, rfl, changed.status ▸ known, changed.status ▸ queued,
        changed.status ▸ status.1⟩
    · rcases List.mem_cons.mp rest with rfl | inside
      · exact .inl fun id => rfl
      · exact .inl (untouched_of_episode episodic write inside)
  obtain ⟨steps, runs, named⟩ := steps_of_writes settled checked shape
  refine ⟨steps, runs, fun step member => ?_, fun _ => first⟩
  obtain ⟨new, listed, rfl⟩ := named step member
  obtain rfl : new = row := by
    rcases List.mem_cons.mp listed with same | rest
    · cases same
      rfl
    · rcases List.mem_cons.mp rest with impossible | inside
      · cases impossible
      · have untouched := untouched_of_episode episodic _ inside new.id
        simp [Write.ticket?] at untouched
  exact ordered

theorem isTurn_transfer {ticketId : UUID} {data : TicketTransfer} {actor : TokenPayload}
    (settled : Settled db) (checked : Checked engine Database.row Sound db writes)
    (is : request = .transferTicket ticketId data actor)
    (moves : request.commitsTransfer past writes) : IsTurn store request past db writes := by
  obtain ⟨row, event, requeued, requeueEvent, rfl, first, transitions, changed, waits,
    requeues⟩ := moves
  obtain ⟨⟨old, found, becomes⟩, _⟩ := checked
  obtain ⟨_, _, _, _, _, ⟨names, _⟩, _⟩ := transitions
  rw [changed.ticketId, is] at names
  have location := requeues.location
  have service := requeues.service
  have nobody : requeued.assignedCounterId = none := Option.map_eq_none_iff.mp requeues.counter
  rw [is] at location service
  have queue : requeued.serviceId = some data.targetServiceId :=
    Option.map_injective (fun _ _ same => Lock.service.inj same) service
  have hall : requeued.locationId = data.targetLocationId.getD row.locationId := by
    simpa [Ticket.ref, Request.refs] using location
  refine ⟨_, step_of_transfer settled (get?_of_row found) becomes changed.status requeues.id
    waits.status nobody hall, fun step member => ?_, fun _ => first⟩
  cases List.mem_singleton.mp member
  rw [is]
  exact ⟨(Option.some.inj names).symm, rfl, queue⟩

theorem isTurn_noShows (settled : Settled db)
    (checked : Checked engine Database.row Sound db writes)
    (closes : Request.commitsNoShows past writes) :
    IsTurn store .autoNoShowCalledTickets past db writes := by
  obtain ⟨rows, events, rfl, marked, _, _, first, _⟩ := closes
  have shape : ∀ write ∈ rows.map (fun row => Write.update (.ticket row)) ++
      events.map (fun event => Write.insert (.event event)),
      SetsPhase (.gone .noShow) write := by
    intro write member
    rcases List.mem_append.mp member with updated | logged
    · obtain ⟨row, listed, rfl⟩ := List.mem_map.mp updated
      have status := marked row listed
      exact .inr ⟨row, rfl, by rw [status]; rfl, by simp [status], by simp [status]⟩
    · obtain ⟨event, _, rfl⟩ := List.mem_map.mp logged
      exact .inl fun id => rfl
  obtain ⟨steps, runs, named⟩ := steps_of_writes settled checked shape
  refine ⟨steps, runs, fun step member => ?_, fun _ => first⟩
  obtain ⟨new, _, rfl⟩ := named step member
  rfl

end

theorem isTurn_call (reach : Reachable engine env (initial hexdigest requests db) w) {n : Nat}
    {i : ι} {event : TicketEvent}
    (commit : CommitAt w.state.log n i [.update (.ticket row), .insert (.event event)])
    (status : (requests i).writesStatus .called) :
    IsTurn w.state.store (requests i) (pastOf i (w.state.log.take n))
      (storeAt engine db (w.state.log.take n)) [.update (.ticket row), .insert (.event event)] := by
  have commits := commits_at reach commit
  obtain ⟨⟨old, found, becomes⟩, _⟩ := (reaches_serial reach).checked_commit commit
  cases request : requests i with
  | callNext counterId body actor key =>
      rw [request] at commits
      obtain ⟨_, same, calls⟩ := update_of_call commits List.mem_cons_self
      cases same
      obtain ⟨owner, fits⟩ := call_fits reach request commit (request ▸ calls)
      refine ⟨_, step_of_call (get?_of_row found) becomes calls.status calls.counter fits,
        fun step member => ?_, fun _ => calls.first⟩
      cases List.mem_singleton.mp member
      exact ⟨rfl, owner, rfl⟩
  | transferTicket ticketId data actor =>
      rw [request] at status
      rcases status with impossible | impossible <;> cases impossible
  | _ =>
      rw [request] at status
      cases status

theorem turn_of_commit (reach : Reachable engine env (initial hexdigest requests db) w) {n : Nat}
    {i : ι} (settled : Settled (storeAt engine db (w.state.log.take n)))
    (commit : CommitAt w.state.log n i writes) :
    IsTurn w.state.store (requests i) (pastOf i (w.state.log.take n))
      (storeAt engine db (w.state.log.take n)) writes := by
  have checked := (reaches_serial reach).checked_commit commit
  cases shape_of_commits (commits_at reach commit) with
  | creation place opens => exact isTurn_creation checked place opens
  | nothing => exact isTurn_untouched (by simp)
  | call status _ => exact isTurn_call reach commit status
  | key =>
      refine isTurn_untouched fun write member id => ?_
      cases List.mem_singleton.mp member
      rfl
  | change changes status stays => exact isTurn_change settled checked changes status stays
  | transfer is moves => exact isTurn_transfer settled checked is moves
  | noShows is closes => exact is ▸ isTurn_noShows settled checked closes
  | cleanup _ drops =>
      refine isTurn_untouched fun write member id => ?_
      obtain ⟨tenantId, key, rfl⟩ := drops write member
      rfl
  | records only => exact isTurn_untouched (untouched_of_records only)

theorem uncommitted_of_none {log : List (Entry ι)} {i : ι} (first : commitsOf (pastOf i log) = []) :
    i ∉ committers log := by
  intro member
  obtain ⟨writes, inLog⟩ := mem_committers.mp member
  have committed := mem_commitsOf.mpr (mem_pastOf.mpr inLog)
  rw [first] at committed
  cases committed

/-- In every interleaving the commits are turns at a service desk, one after the other. Each turn is
what its request asks for, a request has one turn at most that does anything, and the tickets are
where the desk has its visitors. -/
theorem desk_refined (settled : Settled db)
    (reach : Reachable engine env (initial hexdigest requests db) w) :
    ∃ turns : List (ι × List DeskStep),
      Explains desk (fun i => orders w.state.store (requests i)) (floorOf db)
        (floorOf w.state.store) (committers w.state.log) turns := by
  have simulates (n : Nat) (i : ι) (writes : List Write)
      (commit : CommitAt w.state.log n i writes) : ∃ steps : List DeskStep,
        desk.run (floorOf (storeAt engine db (w.state.log.take n))) steps = some
          (floorOf (engine.applyAll (storeAt engine db (w.state.log.take n)) writes)) ∧
        (∀ step ∈ steps, orders w.state.store (requests i) step) ∧
        (steps ≠ [] → i ∉ committers (w.state.log.take n)) := by
    obtain ⟨steps, runs, asked, first⟩ :=
      turn_of_commit reach (settled_always settled reach n) commit
    exact ⟨steps, runs, asked, fun acts => uncommitted_of_none (first acts)⟩
  have explained := explains_log floorOf simulates w.state.log.length
  rwa [List.take_length, ← (reaches_provenance reach).replay] at explained

theorem desk_refined_rounds : ∃ turns : List (Nat × List DeskStep),
    Explains desk (fun i => orders roundsWorld.state.store (rounds i)) (floorOf (office .empty))
      (floorOf roundsWorld.state.store) (committers roundsWorld.state.log) turns :=
  desk_refined (by rintro _ ⟨⟩) rounds_reachable

end QueueFlow.Concurrency
