import QueueFlow.App.TicketCard
import QueueFlow.Concurrency.Alone
import QueueFlow.Concurrency.Invariants
import QueueFlow.Concurrency.SentRuns
import QueueFlow.Concurrency.Success

/-!
# The buttons of the ticket card

Nobody gets to see a ticket on its way from one status to another, and in every other status the
buttons that its card shows lead where they promise. Only Call promises more than it does: its
statement is refused as it is sent, and with the parameters bound it calls whoever is first.
-/

namespace QueueFlow.Concurrency
open QueueFlow.App QueueFlow.Data QueueFlow.Tables QueueFlow.Transactions

variable {ι : Type} [DecidableEq ι] {hexdigest : PyDict → String} {env : Nat → Env}
  {requests : ι → Request} {db : Database} {w : AppWorld ι}

/-! ## Pressing a button -/

section
variable {i : ι} {tick : Nat} {row : Ticket} {actor : TokenPayload} {target : TicketStatus}

/-- The answer is the ticket with its new status, which is also what is stored, and nothing happens
to any other ticket. -/
def Answered (db : Database) (row : Ticket) (target : TicketStatus)
    (session : Session Stmt Stmt.Res Failure Message Env Response) (after : Database) : Prop :=
  ∃ new, session = .returned (readTicket new) ∧ new.id = row.id ∧ new.status = target ∧
    Touches db after new

theorem ends_simpleChange_ok (fresh : Undrawn env db) (clerk : IsClerk db row.tenantId actor)
    (found : db.tickets.get? row.id = some row) (valid : target ∈ validTransitions row.status) :
    Ends engine env i (fun session after _ => Answered db row target session after)
      (readTicket <$> simpleChange row.id actor target) db [] tick := by
  simp only [simpleChange, Program.map_eq, Program.bind_eq, Program.pure_eq, Program.bind_assoc,
    requireRole_ret clerk.role, Program.ret_bind]
  refine ends_changeStatus_ok fresh clerk found valid fun stamp now event tick => ends_commit ?_
  exact ends_publishSignage fun _ =>
    ⟨(transitionUpdate target stamp).apply now row, rfl, rfl, rfl, touches_logged event⟩

/-- Start and complete, whose episode writes interactions only. -/
theorem ends_keyedChange_answered {episode : Ticket → Handler Unit} (fresh : Undrawn env db)
    (clerk : IsClerk db row.tenantId actor) (found : db.tickets.get? row.id = some row)
    (valid : target ∈ validTransitions row.status)
    (writes : ∀ new event tick {next : Unit → Handler Response}, new.id = row.id →
      new.assignedCounterId = row.assignedCounterId →
      (∀ tick episode, (∀ write ∈ episode, write.lock.isRecord = false ∧
          ∀ id, write.lock ≠ .ticket id) →
        Ends engine env i (fun session after _ => Answered db row target session after) (next ()) db
          (.update (.ticket new) :: .insert (.event event) :: episode) tick) →
      Ends engine env i (fun session after _ => Answered db row target session after)
        ((episode new).bind next) db [.update (.ticket new), .insert (.event event)] tick) :
    Ends engine env i (fun session after _ => Answered db row target session after)
      (readTicket <$> keyedChange hexdigest row.id actor none target episode) db [] tick := by
  simp only [keyedChange, keyedChangeNew, given, Option.filter_none, Program.map_eq,
    Program.bind_eq, Program.pure_eq, Program.bind_assoc, requireRole_ret clerk.role,
    Program.ret_bind]
  refine ends_changeStatus_ok fresh clerk found valid fun stamp now event tick => ?_
  refine writes _ event tick rfl rfl fun tick episode plain => ends_commit ?_
  have touches : Touches db (engine.applyAll db
      (.update (.ticket ((transitionUpdate target stamp).apply now row)) ::
        .insert (.event event) :: episode)) ((transitionUpdate target stamp).apply now row) :=
    touches_applyAll
      (List.forall_mem_cons.mpr ⟨by simp [Write.lock, Row.lock, Lock.isRecord], plain⟩)
  refine ends_refresh touches.ticket fun tick => ?_
  simp only [saveKey, given, Option.filter_none, Program.pure_eq, Program.ret_bind]
  exact ends_publishSignage fun _ => ⟨_, rfl, rfl, rfl, touches⟩

theorem ends_start_answered (fresh : Undrawn env db) (clerk : IsClerk db row.tenantId actor)
    (found : db.tickets.get? row.id = some row) (called : row.status = .called)
    (assigned : ∀ id ∈ row.assignedCounterId, db.hasCounter id = true) :
    Ends engine env i (fun session after _ => Answered db row .inService session after)
      (program hexdigest (.startService row.id actor none)) db [] tick := by
  refine ends_keyedChange_answered fresh clerk found (by simp [called, validTransitions])
    fun new event tick next same counter onward => ?_
  simp only [openInteraction, Program.bind_eq]
  refine ends_observe (ends_write (fun now => run_insertInteraction_ok (fresh _).2 ?_ ?_)
    fun now => onward _ _ ?_)
  · exact (touches_logged event).hasTicket
  · rw [counter]
    exact assigned
  · simp [Write.lock, Row.lock, Lock.isRecord]

theorem ends_complete_answered (fresh : Undrawn env db) (clerk : IsClerk db row.tenantId actor)
    (found : db.tickets.get? row.id = some row) (serving : row.status = .inService) :
    Ends engine env i (fun session after _ => Answered db row .completed session after)
      (program hexdigest (.completeTicket row.id actor none)) db [] tick := by
  refine ends_keyedChange_answered fresh clerk found (by simp [serving, validTransitions])
    fun new event tick next _ _ onward => ?_
  simp only [closeInteraction, Program.bind_eq]
  refine ends_observe (ends_write (fun now => rfl) fun now => onward _ _ ?_)
  simp [Write.lock, Row.lock, Lock.isRecord]

/-- In a settled database every button but Call leads to its status. -/
theorem ends_button {counterId : Option UUID} {button : CardButton} {request : Request}
    (fresh : Undrawn env db) (clerk : IsClerk db row.tenantId actor)
    (found : db.tickets.get? row.id = some row) (settled : row.status ≠ .transferred)
    (assigned : ∀ id ∈ row.assignedCounterId, db.hasCounter id = true)
    (shown : button ∈ cardButtons row.status counterId) (changes : button ≠ .call)
    (sends : button.request row.id counterId actor = some request) :
    Ends engine env i (fun session after _ => Answered db row button.target session after)
      (program hexdigest request) db [] tick := by
  cases button with
  | call => exact (changes rfl).elim
  | start =>
      cases sends
      have called : row.status = .called := by simpa [cardButtons] using shown
      exact ends_start_answered fresh clerk found called assigned
  | complete =>
      cases sends
      have serving : row.status = .inService := by simpa [cardButtons] using shown
      exact ends_complete_answered fresh clerk found serving
  | hold =>
      cases sends
      have serving : row.status = .inService := by simpa [cardButtons] using shown
      have valid : CardButton.hold.target ∈ validTransitions row.status := by
        simp [serving, validTransitions, CardButton.target]
      exact ends_simpleChange_ok fresh clerk found valid
  | noShow =>
      cases sends
      have called : row.status = .called := by simpa [cardButtons] using shown
      have valid : CardButton.noShow.target ∈ validTransitions row.status := by
        simp [called, validTransitions, CardButton.target]
      exact ends_simpleChange_ok fresh clerk found valid
  | cancel =>
      cases sends
      refine ends_simpleChange_ok fresh clerk found ?_
      cases status : row.status with
      | transferred => exact (settled status).elim
      | completed | canceled | noShow => simp [cardButtons, status] at shown
      | _ => simp [validTransitions, CardButton.target]

end

/-! ## Buttons on a reachable store -/

theorem hasCounter_assigned (valid : db.Valid) {ticket : Ticket}
    (stored : ticket ∈ db.tickets.rows) :
    ∀ id ∈ ticket.assignedCounterId, db.hasCounter id = true :=
  (present_ticket.mp (present_of_ticket valid.intact (Table.get?_of_mem stored))).2.2.2.2

/-- Nobody else is at work while this request is served. -/
def pressed (hexdigest : PyDict → String) (env : Nat → Env) (request : Request) (db : Database) :
    AppWorld Unit :=
  alone hexdigest env (fun _ => request) db ()

theorem pressed_ends {later : Nat → Env} {request : Request}
    {Q : Session Stmt Stmt.Res Failure Message Env Response → Database → Prop}
    (ends : Ends engine later () (fun session after _ => Q session after)
      (program hexdigest request) db [] 0) :
    Q ((pressed hexdigest later request db).session ())
      (pressed hexdigest later request db).state.store := by
  obtain ⟨_, _, holds⟩ := serve_of_ends (w := initial hexdigest (fun _ : Unit => request) db) rfl
    (fun _ => rfl) rfl ends
  exact holds

section
variable {ticket : Ticket} {counterId : Option UUID} {button : CardButton} {request : Request}
  {actor : TokenPayload} {later : Nat → Env}

/-- Whatever requests have run and however they were interleaved: a clerk of the ticket's tenant who
presses a button of its card, while nobody else is at work, gets the ticket in the button's status,
as it is stored then. -/
theorem shown_buttons_work (valid : db.Valid) (settled : Settled db)
    (reach : Reachable engine env (initial hexdigest requests db) w)
    (stored : ticket ∈ w.state.store.tickets.rows)
    (shown : button ∈ cardButtons ticket.status counterId) (changes : button ≠ .call)
    (sends : button.request ticket.id counterId actor = some request)
    (clerk : IsClerk w.state.store ticket.tenantId actor) (fresh : Undrawn later w.state.store) :
    Answered w.state.store ticket button.target
      ((pressed hexdigest later request w.state.store).session ())
      (pressed hexdigest later request w.state.store).state.store := by
  have store : storeAt engine db (w.state.log.take w.state.log.length) = w.state.store := by
    rw [List.take_length, storeAt, (reaches_serial reach).replay]
  have rests : Settled w.state.store := store ▸ settled_always settled reach _
  have assigned := hasCounter_assigned (constraints_always valid reach).1 stored
  exact pressed_ends (ends_button fresh clerk (Table.get?_of_mem stored) (rests ticket stored).2
    assigned shown changes sends)

/-- The card would let a TRANSFERRED ticket be canceled, and the service would not. -/
example : .cancel ∈ cardButtons .transferred none ∧
    CardButton.cancel.target ∉ validTransitions .transferred := by decide

/-- Nobody else is at work, and the statements run as they are sent. -/
def pressedSent (hexdigest : PyDict → String) (env : Nat → Env) (request : Request)
    (db : Database) : AppWorld Unit :=
  (initial hexdigest (fun _ => request) db).serve sentEngine env ()

theorem ends_sent_query {β : Type} {i : Unit} {tick : Nat} {q : Query} {next : q.Res → Handler β}
    {Q : Session Stmt Stmt.Res Failure Message Env β → Database → List Message → Prop}
    (fault : q.fault = none) (sent : (Stmt.read q).refused = false)
    (rest : Ends sentEngine later i Q (next (q.eval db (later tick).order)) db [] (tick + 1)) :
    Ends sentEngine later i Q ((query q).bind next) db [] tick := by
  have exec (context : Context Database Lock Env) : sentEngine.exec (.read q) context =
      .done (q.eval context.view context.env.order) [] [] := by
    rw [sentEngine, Engine.exec_refusing sent]
    simp [engine, Stmt.exec, fault]
  refine ends_perform (fun context error sees failed => ?_)
    fun context value new locks sees done => ?_
  · rw [exec] at failed
    cases failed
  · rw [exec, sees.view, sees.env] at done
    cases done
    exact rest

theorem ends_refused {β : Type} {i : Unit} {tick : Nat} {stmt : Stmt}
    {next : stmt.Res → Handler β}
    {Q : Session Stmt Stmt.Res Failure Message Env β → Database → List Message → Prop}
    (refused : stmt.refused = true) (holds : Q (.raised (.database .syntaxError)) db []) :
    Ends sentEngine later i Q ((Program.perform stmt).bind next) db [] tick := by
  have exec (context : Context Database Lock Env) :
      sentEngine.exec stmt context = .fail (.database .syntaxError) := by
    simp [sentEngine, Engine.refusing, refused]
  refine ends_perform (fun context error sees failed => ?_)
    fun context value new locks sees done => ?_
  · rw [exec] at failed
    cases failed
    exact holds
  · rw [exec] at done
    cases done

theorem ends_callNext_refused {id : UUID} {counter : Counter} {location : Location}
    (desk : db.counters.get? id = some counter)
    (place : db.locations.get? counter.locationId = some location)
    (clerk : IsClerk db location.tenantId actor) :
    Ends sentEngine later ()
      (fun session after _ => session = .raised (.database .syntaxError) ∧ after = db)
      (program hexdigest (.callNext id {} actor none)) db [] 0 := by
  obtain ⟨userId, parsed, _⟩ := clerk.user
  have passes : checkTenant location.tenantId actor = .ret () :=
    checkTenant_ret (by simp [clerk.tenant, UuidText.isText])
  have staff : requireStaff actor = .ret () := requireStaff_ret clerk.role
  have tenant : parse actor.tenantId = .ret location.tenantId :=
    parse_ret (by simp [clerk.tenant, UuidText.parse])
  simp only [program, callNext, Program.map_eq, Program.bind_eq, Program.pure_eq,
    Program.bind_assoc, staff, Program.ret_bind]
  refine ends_sent_query rfl rfl ?_
  simp only [Query.eval, desk, Program.bind_assoc]
  refine ends_sent_query rfl rfl ?_
  simp only [Query.eval, place, Program.bind_assoc, passes, Program.ret_bind, tenant, given,
    Option.filter_none, callNextNew, callNextTicket, callNextCte, Program.bind_eq, Program.pure_eq,
    parse_ret (Option.mem_def.mp parsed)]
  exact ends_refused (refused_waitingTickets _ _) ⟨rfl, rfl⟩

/-- As it is sent, the statement of Call is refused, and nothing happens. With its parameters bound
it calls the ticket that nobody at the counter's location precedes, whatever its service, and not
the one on the card if another precedes it. -/
theorem call_button_first {id : UUID} {counter : Counter} {location : Location}
    (stored : ticket ∈ db.tickets.rows) (shown : .call ∈ cardButtons ticket.status (some id))
    (sends : CardButton.call.request ticket.id (some id) actor = some request)
    (desk : db.counters.get? id = some counter) (here : ticket.locationId = counter.locationId)
    (place : db.locations.get? counter.locationId = some location)
    (clerk : IsClerk db location.tenantId actor) (fresh : Undrawn later db) :
    ((pressedSent hexdigest later request db).session () = .raised (.database .syntaxError) ∧
      (pressedSent hexdigest later request db).state.store = db) ∧
    CallsFirst db counter.locationId id none ((pressed hexdigest later request db).session ())
        (pressed hexdigest later request db).state.store ∧
      (pressed hexdigest later request db).session () ≠ .returned (.called none) ∧
      ((∃ other ∈ db.tickets.rows, other.waitsFor counter.locationId none ∧ other.before ticket) →
        (pressed hexdigest later request db).state.store.tickets.get? ticket.id = some ticket) := by
  have waits : ticket.waitsFor counter.locationId none := by
    have status : ticket.status = .waiting := by simpa [cardButtons] using shown
    exact ⟨here, status, .inl rfl⟩
  cases sends
  have calls : CallsFirst db counter.locationId id none
      ((pressed hexdigest later (.callNext id {} actor none) db).session ())
      (pressed hexdigest later (.callNext id {} actor none) db).state.store :=
    pressed_ends (ends_callNext_first hexdigest () 0 fresh desk place clerk)
  refine ⟨?_, calls, ?_, ?_⟩
  · obtain ⟨_, _, refused⟩ := serve_of_ends
      (w := initial hexdigest (fun _ : Unit => .callNext id {} actor none) db) rfl (fun _ => rfl)
      rfl (ends_callNext_refused desk place clerk)
    exact refused
  · rcases calls with ⟨_, _, nobody⟩ | ⟨row, _, _, _, now, service, answer, _⟩
    · exact (nobody ticket stored waits).elim
    · rw [answer]
      simp
  · rintro ⟨other, member, there, precedes⟩
    rcases calls with ⟨_, _, nobody⟩ | ⟨row, called, _, first, now, service, _, touches⟩
    · exact (nobody ticket stored waits).elim
    · have differs : ticket.id ≠ ((callUpdate id now).apply now row).id := by
        intro same
        have found : db.tickets.get? ticket.id = some row := same ▸ Table.get?_of_mem called
        rw [Option.some.inj ((Table.get?_of_mem stored).symm.trans found)] at precedes
        exact first other member there precedes
      rw [touches.others _ differs]
      exact Table.get?_of_mem stored

end

/-! ## After the rounds, and in a crowded office -/

def laterEnv (tick : Nat) : Env := steadyEnv (1000 + tick)

theorem undrawn_laterEnv (events : ∀ row ∈ db.ticketEvents.rows, row.id < 2000)
    (interactions : ∀ row ∈ db.interactions.rows, row.id < 2000) : Undrawn laterEnv db := by
  intro tick
  have late : 2000 ≤ (laterEnv tick).uuid := by
    show (2000 : Nat) ≤ 1000 + (1000 + tick)
    omega
  refine ⟨Table.get?_eq_none.mpr fun row member => ?_, Table.get?_eq_none.mpr fun row member => ?_⟩
  · exact Nat.ne_of_lt (Nat.lt_of_lt_of_le (events row member) late)
  · exact Nat.ne_of_lt (Nat.lt_of_lt_of_le (interactions row member) late)

theorem shown_buttons_work_start : ∃ ticket ∈ roundsWorld.state.store.tickets.rows,
    ticket.status = .called ∧ Answered roundsWorld.state.store ticket .inService
      ((pressed textDigest laterEnv (.startService ticket.id clerk none)
        roundsWorld.state.store).session ())
      (pressed textDigest laterEnv (.startService ticket.id clerk none)
        roundsWorld.state.store).state.store := by
  obtain ⟨ticket, member, called, ours⟩ : ∃ ticket ∈ roundsWorld.state.store.tickets.rows,
      ticket.status = .called ∧ IsClerk roundsWorld.state.store ticket.tenantId clerk := by
    decide +kernel
  have shown : CardButton.start ∈ cardButtons ticket.status none := by simp [called, cardButtons]
  exact ⟨ticket, member, called, shown_buttons_work (by decide +kernel) (by rintro _ ⟨⟩)
    rounds_reachable member shown (by decide) rfl ours
    (undrawn_laterEnv (by decide +kernel) (by decide +kernel))⟩

/-- The card of ticket 2 would call ticket 3, which has the better priority. -/
theorem call_button_first_other :
    ((pressedSent textDigest laterEnv (.callNext 30 {} clerk none) crowdedOffice).session () =
        .raised (.database .syntaxError) ∧
      (pressedSent textDigest laterEnv (.callNext 30 {} clerk none) crowdedOffice).state.store =
        crowdedOffice) ∧
    CallsFirst crowdedOffice 10 30 none
      ((pressed textDigest laterEnv (.callNext 30 {} clerk none) crowdedOffice).session ())
      (pressed textDigest laterEnv (.callNext 30 {} clerk none) crowdedOffice).state.store ∧
    (pressed textDigest laterEnv (.callNext 30 {} clerk none) crowdedOffice).session () ≠
      .returned (.called none) ∧
    ((∃ other ∈ crowdedOffice.tickets.rows, other.waitsFor 10 none ∧
        other.before (waitingTicket 2 1 5)) →
      (pressed textDigest laterEnv (.callNext 30 {} clerk none)
        crowdedOffice).state.store.tickets.get? 2 = some (waitingTicket 2 1 5)) := by
  have desk : crowdedOffice.counters.get? 30 = some ⟨30, 10, "Desk 1", "standard", true⟩ := by
    decide
  have place : crowdedOffice.locations.get? 10 = some ⟨10, 1, "Hall", none, "UTC", true⟩ := by
    decide
  have stored : waitingTicket 2 1 5 ∈ crowdedOffice.tickets.rows := by decide
  exact call_button_first stored (by decide) rfl desk rfl place (by decide)
    (undrawn_laterEnv (by decide) (by decide))

end QueueFlow.Concurrency
