import QueueFlow.Concurrency.Alone
import QueueFlow.Conduct.Shapes

/-!
# The chain of statuses in the event log

Each event names the status that the event before it has established. The second event of a transfer
and the events of the auto-no-show task leave it out.
-/

namespace QueueFlow.Concurrency
open QueueFlow.App QueueFlow.Data QueueFlow.Tables QueueFlow.Transactions

variable {ι : Type} [DecidableEq ι] {hexdigest : PyDict → String} {env : Nat → Env}
  {requests : ι → Request} {request : Request} {db store : Database} {past : List Act}
  {writes : List Write} {id : UUID} {i : ι}

/-! ## What the events tell -/

def established : EventType → Option TicketStatus
  | .created | .waiting => some .waiting
  | .called => some .called
  | .inService => some .inService
  | .hold => some .hold
  | .transferred => some .transferred
  | .completed => some .completed
  | .canceled => some .canceled
  | .noShow => some .noShow
  | .noteAdded => none

def Tells : Option TicketStatus → List TicketEvent → Option TicketStatus → Prop
  | first, [], last => first = last
  | first, event :: events, last =>
      event.fromStatus = first ∧ Tells (established event.eventType) events last

instance Tells.decidable : ∀ first events last, Decidable (Tells first events last)
  | first, [], last => inferInstanceAs (Decidable (first = last))
  | first, event :: events, last =>
      have := Tells.decidable (established event.eventType) events last
      inferInstanceAs (Decidable (event.fromStatus = first ∧ _))

def statusOf (db : Database) (id : UUID) : Option TicketStatus :=
  (db.tickets.get? id).map Ticket.status

/-- The events of every ticket tell how it came to its status, from nothing. -/
def StatusChain (db : Database) : Prop := ∀ id, Tells none (db.eventsOf id) (statusOf db id)

theorem tells_append {first middle last : Option TicketStatus} {events more : List TicketEvent}
    (tells : Tells first events middle) (onward : Tells middle more last) :
    Tells first (events ++ more) last := by
  induction events generalizing first with
  | nil =>
      cases tells
      exact onward
  | cons event events ih => exact ⟨tells.1, ih tells.2⟩

/-! ## The writes of a commit -/

def Explains (store : Database) (writes : List Write) (id : UUID) : Prop :=
  Tells (statusOf store id) (writes.filterMap (Write.event? id))
    (statusOf (engine.applyAll store writes) id)

theorem explains_append {more : List Write} (first : Explains store writes id)
    (later : Explains (engine.applyAll store writes) more id) :
    Explains store (writes ++ more) id := by
  rw [Explains, List.filterMap_append, Engine.applyAll_append]
  exact tells_append first later

theorem explains_other
    (other : ∀ write ∈ writes, write.ticket? id = none ∧ write.event? id = none) :
    Explains store writes id := by
  have unlocked (write : Write) (member : write ∈ writes) : write.lock ≠ .ticket id :=
    ticket?_eq_none.mp (other write member).1
  rw [Explains, List.filterMap_eq_nil_iff.mpr fun write member => (other write member).2]
  exact congrArg (Option.map Ticket.status) (get?_of_unlocked store unlocked).symm

theorem explains_pair {write : Write} {row : Ticket} {event : TicketEvent}
    (written : write = .insert (.ticket row) ∨ write = .update (.ticket row))
    (ticketId : event.ticketId = row.id) (fromStatus : event.fromStatus = statusOf store row.id)
    (establishes : established event.eventType = some row.status) :
    Explains store [write, .insert (.event event)] id := by
  by_cases mine : row.id = id
  · subst mine
    have made : write.ticket? row.id = some row := ticket?_eq_some.mpr ⟨rfl, written⟩
    have silent : write.event? row.id = none := by rcases written with rfl | rfl <;> rfl
    have becomes : statusOf (engine.applyAll store [write, .insert (.event event)]) row.id =
        some row.status := by
      rw [statusOf, get?_applyAll]
      have versions : ticketVersions row.id [write, .insert (.event event)] = [row] := by
        rw [ticketVersions, List.filterMap_cons, made]
        rfl
      simp [versions, List.getLast?_append]
    have stored : [write, .insert (.event event)].filterMap (Write.event? row.id) = [event] := by
      rw [List.filterMap_cons, silent]
      simp [Write.event?, ticketId]
    rw [Explains, becomes, stored]
    exact ⟨fromStatus, establishes⟩
  · refine explains_other fun other member => ?_
    simp only [List.mem_cons, List.not_mem_nil, or_false] at member
    rcases member with rfl | rfl
    · rcases written with rfl | rfl <;> simp [Write.ticket?, Write.event?, mine]
    · simp [Write.ticket?, Write.event?, ticketId, mine]

theorem established_ofStatus {status : TicketStatus} (later : status ≠ .created) :
    established (.ofStatus status) = some status := by
  cases status <;> first | rfl | exact (later rfl).elim

theorem explains_creation {locationId : UUID} {row : Ticket} {event : TicketEvent}
    (fresh : store.row (.ticket row.id) = none)
    (opens : request.Opens past locationId row event) :
    Explains store [.insert (.ticket row), .insert (.event event)] id := by
  have absent : store.tickets.get? row.id = none := Option.map_eq_none_iff.mp fresh
  refine explains_pair (.inl rfl) opens.ticketId ?_ ?_
  · rw [opens.fromStatus, statusOf, absent]
    rfl
  · rw [opens.eventType, opens.status]
    rfl

theorem explains_call {counterId : UUID} {row old : Ticket} {event : TicketEvent}
    (found : store.row (.ticket row.id) = some (.ticket old)) (becomes : old.Becomes row)
    (calls : request.CallsTicket past counterId row event) :
    Explains store [.update (.ticket row), .insert (.event event)] id := by
  have located : store.tickets.get? row.id = some old := get?_of_row found
  refine explains_pair (.inr rfl) calls.ticketId ?_ ?_
  · rw [calls.fromStatus, statusOf, located, Option.map_some, becomes.called calls.status]
  · rw [calls.eventType, calls.status]
    rfl

theorem explains_change {target : TicketStatus}
    (serving : Serving hexdigest env request db past store writes)
    (commits : request.commitsChange past target writes) : Explains store writes id := by
  obtain ⟨row, event, episode, rfl, first, transitions, changes, episodic, _⟩ := commits
  obtain ⟨ticket, saw, _, fromStatus, valid, _⟩ := transitions
  have found := serving.saw_ticket first saw
  have later : target ≠ .created := fun same =>
    created_not_mem_validTransitions _ (same ▸ valid)
  have pair : Explains store [.update (.ticket row), .insert (.event event)] id := by
    refine explains_pair (.inr rfl) changes.ticketId ?_ ?_
    · rw [fromStatus, statusOf, ← changes.ticketId, found]
      rfl
    · rw [changes.eventType, changes.status, established_ofStatus later]
  refine explains_append pair (explains_other fun write member => ?_)
  obtain ⟨interaction, written, _⟩ := episodic write member
  cases write <;> cases written <;> exact ⟨rfl, rfl⟩

theorem explains_commit (serving : Serving hexdigest env request db past store writes)
    (stays : transferred db request = none) (manual : request ≠ .autoNoShowCalledTickets) :
    Explains store writes id := by
  have sound := serving.sound
  cases shape_of_commits serving.commits with
  | creation _ opens => exact explains_creation sound.1 opens
  | nothing => exact explains_other (by simp)
  | call _ calls =>
      obtain ⟨old, found, becomes⟩ := sound.1
      exact explains_call found becomes calls
  | key => exact explains_other (by simp [Write.ticket?, Write.event?])
  | change changes => exact explains_change serving changes
  | transfer is moves =>
      obtain ⟨row, event, requeued, requeueEvent, rfl, first, _⟩ := moves
      obtain rfl := serving.first first
      subst is
      have moved : transferred store (.transferTicket _ _ _) = some row.id :=
        serving.transfers List.mem_cons_self
      rw [stays] at moved
      cases moved
  | noShows is => exact (manual is).elim
  | cleanup _ drops =>
      refine explains_other fun write member => ?_
      obtain ⟨tenantId, key, rfl⟩ := drops write member
      exact ⟨rfl, rfl⟩
  | records only =>
      exact explains_other fun write member =>
        (silent_of_isRecord (only write member).1).imp_right And.left

/-! ## The runs -/

def stuck (db : Database) (now : Time) : Request → List Ticket
  | .autoNoShowCalledTickets => db.stuckTickets (now - minutes 5)
  | _ => []

theorem alone_idle (task : requests i = .autoNoShowCalledTickets)
    (idle : db.stuckTickets ((env 0).now - minutes 5) = []) :
    (alone hexdigest env requests db i).state.store = db := by
  have running : (initial hexdigest requests db).session i =
      .running (program hexdigest .autoNoShowCalledTickets) := by
    rw [← task]
    rfl
  have answers : Answers engine env i db (program hexdigest .autoNoShowCalledTickets) 0
      (.returned (.counted 0)) := by
    simp only [program, autoNoShowCalledTickets, Program.map_eq, Program.bind_eq,
      Program.observe_bind]
    refine answers_observe (answers_query rfl ?_)
    rw [Query.eval, idle]
    exact answers_commit (answers_ret _)
  obtain ⟨_, _, _, kept, _⟩ := serve_of_ends running (fun _ => rfl) rfl answers
  exact kept

/-- The request logs no event without the status before it. -/
def LogsFromStatus (env : Nat → Env) (db : Database) (tick : Nat) (request : Request) : Prop :=
  transferred db request = none ∧ stuck db (env tick).now request = []

instance (env : Nat → Env) (db : Database) (tick : Nat) (request : Request) :
    Decidable (LogsFromStatus env db tick request) :=
  inferInstanceAs (Decidable (_ = none ∧ _ = []))

theorem statusChain_alone (chain : StatusChain db) (logs : LogsFromStatus env db 0 (requests i)) :
    StatusChain (alone hexdigest env requests db i).state.store := by
  obtain ⟨stays, idle⟩ := logs
  by_cases task : requests i = .autoNoShowCalledTickets
  · rw [task] at idle
    rwa [alone_idle task idle]
  · refine alone_keeps chain fun past store writes serving before id => ?_
    rw [eventsOf_applyAll serving.sound]
    exact tells_append (before id) (explains_commit serving stays task)

theorem status_chain_complete (base : StatusChain db) {order : List ι}
    (serves : (initial hexdigest requests db).Serves engine env
      (fun w i => LogsFromStatus env w.state.store w.state.tick (requests i)) order) :
    StatusChain ((initial hexdigest requests db).serveAll engine env order).state.store := by
  have step (i : ι) (store : Database) (tick : Nat) (chain : StatusChain store)
      (logs : LogsFromStatus env store tick (requests i)) :
      StatusChain
        (alone hexdigest (fun later => env (tick + later)) requests store i).state.store :=
    statusChain_alone chain logs
  exact sequential_keeps (fun store _ => StatusChain store) (LogsFromStatus env) base serves step

def oneVisit : Nat → Request
  | 0 => .createTicket (visit 10 (some 20)) clerk none
  | 1 => .callNext 30 {} clerk none
  | 2 => .startService 1001 clerk none
  | 3 => .autoNoShowCalledTickets
  | _ => .completeTicket 1001 clerk none

def oneVisitStart : AppWorld Nat := initial textDigest oneVisit (office .empty)

theorem statusChain_office : StatusChain (office .empty) := fun _ => rfl

theorem status_chain_complete_oneVisit :
    StatusChain (oneVisitStart.serveAll engine steadyEnv [0, 1, 2, 3, 4]).state.store :=
  status_chain_complete statusChain_office (by decide +kernel)

theorem statusChain_calledOffice : StatusChain calledOffice := by
  intro id
  by_cases mine : id = 2
  · subst mine
    decide
  · have others : calledOffice.eventsOf id = [] := by
      simp [calledOffice, Database.eventsOf, Ne.symm mine]
    have absent : calledOffice.tickets.get? id = none :=
      Table.get?_eq_none.mpr fun row member => by
        obtain rfl := List.mem_singleton.mp member
        exact Ne.symm mine
    rw [statusOf, others, absent]
    rfl

/-- The event that puts a transferred ticket back into the queue has no `from_status`. -/
theorem requeue_breaks_chain : StatusChain calledOffice ∧
    ¬ StatusChain (sentBackStart.serveAll engine steadyEnv [0, 1]).state.store :=
  ⟨statusChain_calledOffice, fun chain => absurd (chain 2) (by decide +kernel)⟩

end QueueFlow.Concurrency
