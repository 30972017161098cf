import QueueFlow.Conduct.Rules
import QueueFlow.Data.History
import QueueFlow.Transactions.Atomicity

/-!
# Requests without a key are all or nothing

Every handler writes, commits once, and then only refreshes the ticket that it has just committed
and publishes a message, for which Redis may be down.
-/

namespace QueueFlow.App
open QueueFlow.Data QueueFlow.Tables QueueFlow.Transactions

def FitsTickets (committed : List Write) : (stmt : Stmt) → stmt.Res → Prop
  | .read (.ticket id), answer =>
      (∃ row : Ticket, row.id = id ∧
        (.insert (.ticket row) ∈ committed ∨ .update (.ticket row) ∈ committed)) → answer ≠ none
  | _, _ => True

theorem fitsTickets {stmt : Stmt} {context : Context Database Lock Env} {value : stmt.Res}
    {writes : List Write} {locks : List Lock} {db : Database} {committed others : List Write}
    (exec : stmt.exec context = .done value writes locks)
    (view : context.view = engine.applyAll db others) (sub : committed ⊆ others) :
    FitsTickets committed stmt value := by
  cases stmt with
  | read q =>
      cases q with
      | ticket id =>
          rintro ⟨row, rfl, written⟩ missing
          obtain ⟨answered, _⟩ := exec_read exec
          obtain ⟨ticket, found⟩ := get?_of_written db (written.imp (sub ·) (sub ·))
          rw [answered, view] at missing
          rw [show Query.eval _ _ (.ticket row.id) = _ from found] at missing
          cases missing
      | _ => trivial
  | _ => trivial

abbrev Atomic (env : Nat → Env) {α : Type} (program : Handler α) (pending : List Write) : Prop :=
  AllOrNothing engine env FitsTickets program pending

abbrev Settled (env : Nat → Env) {α : Type} (committed : List Write) (program : Handler α) : Prop :=
  Finishes engine env FitsTickets committed program

section
variable {env : Nat → Env} {α β : Type} {pending committed : List Write}

/-! ## After the commit -/

theorem settled_refresh {ticket : Ticket} {next : Ticket → Handler β}
    (written : ∃ row : Ticket, row.id = ticket.id ∧
      (.insert (.ticket row) ∈ committed ∨ .update (.ticket row) ∈ committed))
    (rest : ∀ row, Settled env committed (next row)) :
    Settled env committed ((refresh ticket).bind next) := by
  simp only [refresh, Program.bind_eq, Program.pure_eq, Program.bind_assoc]
  refine ⟨fun context error => ?_, fun value fits => ?_⟩
  · rintro ⟨⟩
  · cases value with
    | none => exact (fits written rfl).elim
    | some row => exact rest row

theorem settled_publishSignage {locationId : UUID} {next : Unit → Handler β}
    (rest : Settled env committed (next ())) :
    Settled env committed ((publishSignage locationId).bind next) := by
  simp only [publishSignage, Program.bind_eq, Program.pure_eq, Program.bind_assoc]
  intro tick
  simp only [Program.ret_bind]
  split
  · exact rest
  · exact rest

theorem saveKey_unkeyed {hexdigest : PyDict → String} {tenantId : Handler UUID}
    {idempotencyKey : Option String} {body : PyDict} {ticket : Ticket}
    (unkeyed : given idempotencyKey = none) :
    saveKey hexdigest tenantId idempotencyKey body ticket = .ret () := by
  rw [saveKey, unkeyed]
  rfl

/-! ## Before the commit -/

theorem atomic_silent {program : Handler α} {next : α → Handler β} (silent : Silent program)
    (rest : ∀ value, Atomic env (next value) pending) :
    Atomic env (program.bind next) pending := by
  rcases silent with ⟨value, rfl⟩ | ⟨error, rfl⟩
  · exact rest value
  · trivial

theorem atomic_query {q : Query} {next : q.Res → Handler β}
    (rest : ∀ answer, Atomic env (next answer) pending) :
    Atomic env ((query q).bind next) pending := by
  intro context value writes locks exec
  have exec : (Stmt.read q).exec context = .done value writes locks := exec
  obtain ⟨_, rfl, _⟩ := exec_read exec
  simpa using rest value

theorem atomic_command {c : Command} {next : c.Res → Handler β}
    (rest : ∀ value writes, Atomic env (next value) (pending ++ writes)) :
    Atomic env ((command c).bind next) pending :=
  fun _ value writes _ _ => rest value writes

theorem atomic_updateTicket {id : UUID} {set : TicketUpdate} {next : Ticket → Handler β}
    (rest : ∀ row, Atomic env (next row) (pending ++ [.update (.ticket row)])) :
    Atomic env ((command (.updateTicket id set)).bind next) pending := by
  intro context value writes locks exec
  obtain ⟨row, _, _, rfl, rfl⟩ := run_updateTicket (exec_write exec).1
  exact rest _

theorem atomic_insertTicket {new : NewTicket} {next : Ticket → Handler β}
    (rest : ∀ row, Atomic env (next row) (pending ++ [.insert (.ticket row)])) :
    Atomic env ((command (.insertTicket new)).bind next) pending := by
  intro context value writes locks exec
  obtain ⟨rfl, rfl, _⟩ := run_insertTicket (exec_write exec).1
  exact rest _

theorem atomic_observe {next : Env → Handler β} (rest : ∀ env', Atomic env (next env') pending) :
    Atomic env (Program.observe.bind next) pending := fun _ => rest _

theorem atomic_commit {next : Unit → Handler β} (rest : Settled env pending (next ())) :
    Atomic env (Program.commit.bind next) pending := rest

theorem atomic_transitionStatus {ticket : Ticket} {target : TicketStatus}
    {actorUserId : Option UUID} {payload : Option Payload} {next : Ticket → Handler β}
    (rest : ∀ row writes, .update (.ticket row) ∈ writes →
      Atomic env (next row) (pending ++ writes)) :
    Atomic env ((transitionStatus ticket target actorUserId payload).bind next) pending := by
  simp only [transitionStatus, Program.bind_eq, Program.pure_eq, Program.bind_assoc]
  refine atomic_silent (silent_transition _ _) fun _ => atomic_observe fun env' => ?_
  refine atomic_updateTicket fun row => atomic_command fun _ writes => ?_
  rw [List.append_assoc]
  exact rest row _ (by simp)

theorem atomic_changeStatus {ticketId : UUID} {actor : TokenPayload} {target : TicketStatus}
    {payload : Option Payload} {next : Ticket → Handler β}
    (rest : ∀ row writes, .update (.ticket row) ∈ writes →
      Atomic env (next row) (pending ++ writes)) :
    Atomic env ((changeStatus ticketId actor target payload).bind next) pending := by
  simp only [changeStatus, getOr404, Program.bind_eq, Program.pure_eq, Program.bind_assoc]
  refine atomic_query fun found => ?_
  cases found with
  | none => trivial
  | some ticket =>
      simp only [Program.ret_bind]
      refine atomic_silent (silent_checkTenant _ _) fun _ => ?_
      refine atomic_silent (silent_parse _) fun userId => allOrNothing_mapRaise.mpr ?_
      exact atomic_transitionStatus rest

/-! ## Handlers -/

theorem atomic_storeTicket {new : NewTicket} {actorUserId : Handler (Option UUID)}
    {next : Ticket → Handler β} (silent : Silent actorUserId)
    (rest : ∀ ticket committed, Settled env committed (next ticket)) :
    Atomic env ((storeTicket new actorUserId).bind next) pending := by
  simp only [storeTicket, Program.bind_eq, Program.bind_assoc]
  refine atomic_insertTicket fun row => atomic_silent silent fun userId => ?_
  refine atomic_command fun _ writes => atomic_commit ?_
  refine settled_refresh ⟨row, rfl, .inl ?_⟩ fun ticket => rest ticket _
  simp

theorem atomic_createTicket {hexdigest : PyDict → String} {data : TicketCreate}
    {actor : TokenPayload} {key : Option String} (unkeyed : given key = none)
    {next : Ticket → Handler β} (ends : ∀ ticket committed, Settled env committed (next ticket)) :
    Atomic env ((createTicket hexdigest data actor key).bind next) [] := by
  simp only [createTicket, unkeyed, createNew, saveKey_unkeyed unkeyed, Program.bind_eq,
    Program.pure_eq, Program.bind_assoc, Program.ret_bind]
  refine atomic_silent (silent_requireRole _ _) fun _ => atomic_query fun number => ?_
  refine atomic_silent (silent_parse _) fun tenantId => ?_
  refine atomic_storeTicket (silent_map (silent_parse _) _) fun ticket committed => ?_
  exact settled_publishSignage (ends ticket committed)

theorem atomic_kioskCreateTicket {hexdigest : PyDict → String} {body : KioskTicketCreate}
    {key : Option String} (unkeyed : given key = none)
    {next : Ticket → Handler β} (ends : ∀ ticket committed, Settled env committed (next ticket)) :
    Atomic env ((kioskCreateTicket hexdigest body key).bind next) [] := by
  simp only [kioskCreateTicket, unkeyed, kioskCreateNew, saveKey_unkeyed unkeyed, Program.bind_eq,
    Program.pure_eq, Program.bind_assoc, Program.ret_bind]
  refine atomic_query fun found => ?_
  cases found with
  | none => trivial
  | some location =>
      simp only [Program.bind_assoc, Program.ret_bind]
      refine atomic_query fun number => ?_
      refine atomic_storeTicket (silent_ret _) fun ticket committed => ?_
      exact settled_publishSignage (ends ticket committed)

theorem atomic_simpleChange {ticketId : UUID} {actor : TokenPayload} {target : TicketStatus}
    {next : Ticket → Handler β} (ends : ∀ ticket committed, Settled env committed (next ticket)) :
    Atomic env ((simpleChange ticketId actor target).bind next) [] := by
  simp only [simpleChange, Program.bind_eq, Program.pure_eq, Program.bind_assoc, Program.ret_bind]
  refine atomic_silent (silent_requireRole _ _) fun _ => ?_
  refine atomic_changeStatus fun row writes _ => atomic_commit ?_
  exact settled_publishSignage (ends row _)

theorem atomic_keyedChange {hexdigest : PyDict → String} {ticketId : UUID} {actor : TokenPayload}
    {key : Option String} {target : TicketStatus} {episode : Ticket → Handler Unit}
    (unkeyed : given key = none)
    (writes : ∀ ticket (next : Unit → Handler β) pending,
      (∀ writes, Atomic env (next ()) (pending ++ writes)) →
        Atomic env ((episode ticket).bind next) pending)
    {next : Ticket → Handler β} (ends : ∀ ticket committed, Settled env committed (next ticket)) :
    Atomic env ((keyedChange hexdigest ticketId actor key target episode).bind next) [] := by
  simp only [keyedChange, unkeyed, keyedChangeNew, saveKey_unkeyed unkeyed, Program.bind_eq,
    Program.pure_eq, Program.bind_assoc, Program.ret_bind]
  refine atomic_silent (silent_requireRole _ _) fun _ => ?_
  refine atomic_changeStatus fun row changed member => ?_
  refine writes row _ _ fun episode => atomic_commit ?_
  refine settled_refresh ⟨row, rfl, .inr ?_⟩ fun ticket => settled_publishSignage (ends ticket _)
  simp [member]

theorem atomic_transferTicket {ticketId : UUID} {data : TicketTransfer} {actor : TokenPayload}
    {next : Ticket → Handler β} (ends : ∀ ticket committed, Settled env committed (next ticket)) :
    Atomic env ((transferTicket ticketId data actor).bind next) [] := by
  simp only [transferTicket, Program.bind_eq, Program.pure_eq, Program.bind_assoc,
    Program.ret_bind]
  refine atomic_silent (silent_requireRole _ _) fun _ => ?_
  refine atomic_changeStatus fun row writes _ => atomic_updateTicket fun requeued => ?_
  refine atomic_silent (silent_parse _) fun userId => atomic_observe fun env' => ?_
  exact atomic_command fun _ writes => atomic_commit (settled_publishSignage (ends requeued _))

theorem atomic_firstCalled {locationId counterId : UUID} {serviceId : Option UUID}
    {candidates : List Ticket} {next : Option Ticket → Handler β}
    (rest : ∀ called writes, Atomic env (next called) (pending ++ writes)) :
    Atomic env ((firstCalled locationId serviceId counterId candidates).bind next) pending := by
  induction candidates generalizing pending with
  | nil => simpa [firstCalled] using rest none []
  | cons candidate candidates ih =>
      simp only [firstCalled, Program.bind_eq, Program.pure_eq, Program.bind_assoc]
      intro context value writes locks exec
      cases value with
      | none => exact ih fun called more => by simpa using rest called (writes ++ more)
      | some row => exact rest (some row) writes

theorem atomic_ticketWithService {ticketId : UUID}
    {next : Option (Ticket × Option Service) → Handler β}
    (rest : ∀ found, Atomic env (next found) pending) :
    Atomic env ((ticketWithService ticketId).bind next) pending := by
  simp only [ticketWithService, Program.bind_eq, Program.pure_eq, Program.bind_assoc]
  refine atomic_query fun found => ?_
  cases found with
  | none => exact rest none
  | some ticket =>
      dsimp only
      cases ticket.serviceId with
      | none => exact rest _
      | some serviceId =>
          simp only [Program.bind_assoc]
          exact atomic_query fun service => rest _

theorem atomic_callNext {hexdigest : PyDict → String} {counterId : UUID} {body : CallNextBody}
    {actor : TokenPayload} {key : Option String} (unkeyed : given key = none)
    {next : Option TicketRead → Handler β}
    (ends : ∀ read committed, Settled env committed (next read)) :
    Atomic env ((callNext hexdigest counterId body actor key).bind next) [] := by
  simp only [callNext, unkeyed, callNextNew, callNextTicket, callNextCte, saveKey_unkeyed unkeyed,
    Program.bind_eq, Program.pure_eq, Program.bind_assoc, Program.ret_bind]
  refine atomic_silent (silent_requireStaff _) fun _ => atomic_query fun counter => ?_
  cases counter with
  | none => trivial
  | some counter =>
      simp only [Program.bind_assoc]
      refine atomic_query fun location => ?_
      cases location with
      | none => trivial
      | some location =>
          simp only [Program.bind_assoc]
          refine atomic_silent (silent_checkTenant _ _) fun _ => ?_
          refine atomic_silent (silent_parse _) fun tenantId => ?_
          refine atomic_silent (silent_parse _) fun userId => atomic_query fun candidates => ?_
          refine atomic_firstCalled fun called writes => ?_
          cases called with
          | none => exact atomic_commit (ends none _)
          | some row =>
              simp only [Program.bind_assoc]
              refine atomic_command fun _ event => atomic_ticketWithService fun found => ?_
              refine atomic_commit ?_
              cases found with
              | none => exact ends none _
              | some found =>
                  simp only [Program.bind_assoc]
                  exact settled_publishSignage (ends _ _)

theorem atomic_forM {γ : Type} {items : List γ} {body : γ → Handler PUnit}
    {next : PUnit → Handler β}
    (each : ∀ item (next : PUnit → Handler β) pending,
      (∀ writes, Atomic env (next ⟨⟩) (pending ++ writes)) →
        Atomic env ((body item).bind next) pending)
    (rest : ∀ writes, Atomic env (next ⟨⟩) (pending ++ writes)) :
    Atomic env ((items.forM body).bind next) pending := by
  induction items generalizing pending with
  | nil => simpa using rest []
  | cons item items ih =>
      simp only [List.forM, Program.bind_eq, Program.bind_assoc]
      exact each item _ _ fun writes => ih fun more => by simpa using rest (writes ++ more)

theorem atomic_stampCompletion {tickets : List Ticket} {next : List (UUID × Time) → Handler β}
    (rest : ∀ stamps, Atomic env (next stamps) pending) :
    Atomic env ((stampCompletion tickets).bind next) pending := by
  induction tickets generalizing next with
  | nil => exact rest []
  | cons ticket tickets ih =>
      simp only [stampCompletion, Program.bind_eq, Program.pure_eq, Program.bind_assoc]
      exact atomic_observe fun env' => ih fun stamps => rest _

theorem atomic_autoNoShow {next : Nat → Handler β}
    (ends : ∀ count committed, Settled env committed (next count)) :
    Atomic env (autoNoShowCalledTickets.bind next) [] := by
  simp only [autoNoShowCalledTickets, Program.bind_eq, Program.pure_eq, Program.bind_assoc,
    Program.ret_bind]
  refine atomic_observe fun env' => atomic_query fun stuck => ?_
  refine atomic_stampCompletion fun stamps => atomic_forM ?_ fun updates => ?_
  · intro stamp next pending rest
    simp only [Program.bind_assoc]
    exact atomic_command fun _ writes => rest writes
  · refine atomic_forM ?_ fun events => atomic_commit (ends _ _)
    exact fun ticket next pending rest => atomic_command fun _ writes => rest writes

theorem program_atomic (hexdigest : PyDict → String) {request : Request}
    (unkeyed : request.key = none) (operational : ¬ request.isAdmin) :
    Atomic env (program hexdigest request) [] := by
  have read (ticket : Ticket) (committed : List Write) :
      Settled env committed (.ret (readTicket ticket)) := trivial
  cases request with
  | createTicket data actor key =>
      rw [program, Program.map_eq]
      exact atomic_createTicket unkeyed read
  | kioskCreateTicket body key =>
      rw [program, Program.map_eq]
      exact atomic_kioskCreateTicket unkeyed read
  | callNext counterId body actor key =>
      rw [program, Program.map_eq]
      exact atomic_callNext unkeyed fun _ _ => trivial
  | startService ticketId actor key =>
      rw [program, startService, Program.map_eq]
      refine atomic_keyedChange unkeyed (fun ticket next pending rest => ?_) read
      simp only [openInteraction, Program.bind_eq, Program.bind_assoc]
      exact atomic_observe fun env' => atomic_command fun _ writes => rest writes
  | completeTicket ticketId actor key =>
      rw [program, completeTicket, Program.map_eq]
      refine atomic_keyedChange unkeyed (fun ticket next pending rest => ?_) read
      simp only [closeInteraction, Program.bind_eq, Program.bind_assoc]
      exact atomic_observe fun env' => atomic_command fun _ writes => rest writes
  | holdTicket ticketId actor =>
      rw [program, Program.map_eq]
      exact atomic_simpleChange read
  | cancelTicket ticketId actor =>
      rw [program, Program.map_eq]
      exact atomic_simpleChange read
  | noShow ticketId actor =>
      rw [program, Program.map_eq]
      exact atomic_simpleChange read
  | transferTicket ticketId data actor =>
      rw [program, Program.map_eq]
      exact atomic_transferTicket read
  | autoNoShowCalledTickets =>
      rw [program, Program.map_eq]
      exact atomic_autoNoShow fun _ _ => trivial
  | cleanupIdempotencyKeys =>
      rw [program, Program.map_eq]
      simp only [cleanupIdempotencyKeys, Program.bind_eq, Program.bind_assoc]
      exact atomic_observe fun env' => atomic_command fun _ writes => atomic_commit trivial
  | _ => exact (operational trivial).elim

end

end QueueFlow.App
