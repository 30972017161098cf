import QueueFlow.Conduct.Rules
import QueueFlow.Data.History

/-!
# What a request answers with

The ticket in an answer is one that the request has read from committed rows, or one that it has
committed itself.
-/

namespace QueueFlow.App
open QueueFlow.Data QueueFlow.Tables QueueFlow.Transactions

def Response.ticket? : Response → Option Ticket
  | .ticket read => some read.ticket
  | .called read => read.map TicketRead.ticket
  | _ => none

/-- The session read the ticket when it had nothing pending, or committed just what it had pending
then; or the ticket is the last version of it that some commit of the session wrote. -/
def Genuine (past : List Act) (ticket : Ticket) : Prop :=
  (∃ earlier later,
    past = earlier ++ .performed (.read (.ticket ticket.id)) (some ticket) [] :: later ∧
      (pendingOf earlier = [] ∨ .committed (pendingOf earlier) ∈ past)) ∨
  ∃ writes, .committed writes ∈ past ∧ ticket ∈ (ticketVersions ticket.id writes).getLast?

section
variable {past past' : List Act} {ticket : Ticket}

theorem Genuine.continues (genuine : Genuine past ticket) (continues : past <+: past') :
    Genuine past' ticket := by
  rcases genuine with ⟨earlier, later, rfl, committed⟩ | ⟨writes, committed, last⟩
  · obtain ⟨more, rfl⟩ := continues
    refine .inl ⟨earlier, later ++ more, by simp, ?_⟩
    rcases committed with clean | committed
    · exact .inl clean
    · exact .inr (List.mem_append_left _ committed)
  · exact .inr ⟨writes, continues.subset committed, last⟩

theorem genuine_read (unwritten : pendingOf past = []) :
    Genuine (past ++ [.performed (.read (.ticket ticket.id)) (some ticket) []]) ticket :=
  .inl ⟨past, [], rfl, .inl unwritten⟩

theorem genuine_written {writes : List Write}
    (last : ticket ∈ (ticketVersions ticket.id writes).getLast?) :
    Genuine (past ++ [.committed writes]) ticket := .inr ⟨writes, by simp, last⟩

end

variable {env : Nat → Env} {hexdigest : PyDict → String} {α β : Type}
  {Q : β → List Act → List Write → Prop} {past : List Act} {pending : List Write}

/-- What holds of the value that a handler returns, whatever the database answers. -/
abbrev Tells (env : Nat → Env) (Q : α → List Act → List Write → Prop) (handler : Handler α)
    (past : List Act) (pending : List Write) : Prop :=
  Obeys engine env (fun _ _ => True) Q handler past pending

abbrev Shows (env : Nat → Env) (shown : α → Option Ticket) (handler : Handler α)
    (past : List Act) (pending : List Write) : Prop :=
  Tells env (fun answer past _ => ∀ ticket ∈ shown answer, Genuine past ticket) handler past pending

/-! ## Rules -/

theorem tells_silent {program : Handler α} {next : α → Handler β} (silent : Silent program)
    (rest : ∀ value, Tells env Q (next value) past pending) :
    Tells env Q (program.bind next) past pending := by
  rcases silent with ⟨value, rfl⟩ | ⟨error, rfl⟩
  · exact rest value
  · trivial

theorem tells_query {q : Query} {next : q.Res → Handler β}
    (rest : ∀ db order, Tells env Q (next (q.eval db order))
      (past ++ [.performed (.read q) (q.eval db order) []]) pending) :
    Tells env Q ((query q).bind next) past pending := by
  intro context value writes locks exec
  obtain ⟨rfl, rfl, rfl⟩ := exec_read exec
  exact ⟨trivial, by simpa using rest _ _⟩

/-- The answer to a query that is not about a ticket does not matter. -/
theorem tells_ask {q : Query} {next : q.Res → Handler β} (unwritten : pendingOf past = [])
    (rest : ∀ answer past', pendingOf past' = [] → Tells env Q (next answer) past' pending) :
    Tells env Q ((query q).bind next) past pending :=
  tells_query fun _ _ => rest _ _ (by simp [Action.pending, unwritten])

theorem tells_observe {next : Env → Handler β}
    (rest : ∀ tick, Tells env Q (next (env tick)) past pending) :
    Tells env Q (Program.observe.bind next) past pending := rest

theorem tells_commit {next : Unit → Handler β}
    (rest : Tells env Q (next ()) (past ++ [.committed pending]) []) :
    Tells env Q (Program.commit.bind next) past pending := ⟨trivial, rest⟩

theorem tells_insertTicket {new : NewTicket} {next : Ticket → Handler β}
    (rest : ∀ row past', Tells env Q (next row) past' (pending ++ [.insert (.ticket row)])) :
    Tells env Q ((command (.insertTicket new)).bind next) past pending := by
  intro context value writes locks exec
  obtain ⟨ran, rfl⟩ := exec_write exec
  obtain ⟨rfl, rfl, _⟩ := run_insertTicket ran
  exact ⟨trivial, rest _ _⟩

theorem tells_updateTicket {id : UUID} {set : TicketUpdate} {next : Ticket → Handler β}
    (rest : ∀ row past', Tells env Q (next row) past' (pending ++ [.update (.ticket row)])) :
    Tells env Q ((command (.updateTicket id set)).bind next) past pending := by
  intro context value writes locks exec
  have exec : (Stmt.write (.updateTicket id set)).exec context = .done value writes locks := exec
  obtain ⟨ran, rfl⟩ := exec_write exec
  obtain ⟨row, _, _, rfl, rfl⟩ := run_updateTicket ran
  exact ⟨trivial, rest _ _⟩

theorem tells_insertEvent {new : NewEvent} {next : Unit → Handler β}
    (rest : ∀ event past', pendingOf past' = pendingOf past ++ [.insert (.event event)] →
      Tells env Q (next ()) past' (pending ++ [.insert (.event event)])) :
    Tells env Q ((command (.insertEvent new)).bind next) past pending := by
  intro context value writes locks exec
  obtain ⟨ran, rfl⟩ := exec_write exec
  obtain ⟨rfl, _⟩ := run_insertEvent ran
  exact ⟨trivial, rest _ _ (by simp [Action.pending])⟩

/-- Once the answer is genuine, it does not matter what else the handler does before it returns. -/
theorem shows_then {handler : Handler α} {shown : β → Option Ticket} {answer : β}
    (genuine : ∀ ticket ∈ shown answer, Genuine past ticket) :
    Shows env shown (handler.bind fun _ => .ret answer) past pending := by
  refine obeys_then fun value later pending' continues ticket shows => ?_
  exact (genuine ticket shows).continues continues

theorem shows_ticket {handler : Handler α} {answer : Ticket} (genuine : Genuine past answer) :
    Shows env some (handler.bind fun _ => .ret answer) past pending := by
  refine shows_then ?_
  rintro _ ⟨⟩
  exact genuine

theorem tells_lookup {ticketId : UUID} {next : Option Ticket → Handler β}
    (unwritten : pendingOf past = [])
    (rest : ∀ found past', pendingOf past' = [] → (∀ ticket ∈ found, Genuine past' ticket) →
      Tells env Q (next found) past' pending) :
    Tells env Q ((query (.ticket ticketId)).bind next) past pending := by
  refine tells_query fun db order => rest _ _ (by simp [Action.pending, unwritten]) ?_
  intro ticket found
  have same : ticket.id = ticketId := Table.key_of_get? found
  subst same
  rw [show (Query.ticket ticket.id).eval db order = some ticket from found]
  exact genuine_read unwritten

theorem tells_refresh {ticket : Ticket} {next : Ticket → Handler β}
    (unwritten : pendingOf past = [])
    (rest : ∀ row past', Genuine past' row → Tells env Q (next row) past' pending) :
    Tells env Q ((refresh ticket).bind next) past pending := by
  simp only [refresh, Program.bind_eq, Program.pure_eq, Program.bind_assoc]
  refine tells_lookup unwritten fun found past' _ genuine => ?_
  cases found with
  | none => trivial
  | some row => exact rest row past' (genuine row rfl)

theorem tells_getOr404 {ticketId : UUID} {next : Ticket → Handler β}
    (unwritten : pendingOf past = [])
    (rest : ∀ row past', Tells env Q (next row) past' pending) :
    Tells env Q ((getOr404 ticketId).bind next) past pending := by
  simp only [getOr404, Program.bind_eq, Program.pure_eq, Program.bind_assoc]
  refine tells_lookup unwritten fun found past' _ _ => ?_
  cases found with
  | none => trivial
  | some row => exact rest row past'

theorem tells_createdBefore {tenantId : UUID} {key : String} {next : Option Ticket → Handler β}
    (unwritten : pendingOf past = [])
    (rest : ∀ found past', pendingOf past' = [] → (∀ ticket ∈ found, Genuine past' ticket) →
      Tells env Q (next found) past' pending) :
    Tells env Q ((createdBefore tenantId key).bind next) past pending := by
  simp only [createdBefore, getIdempotencyKey, Program.bind_eq, Program.pure_eq,
    Program.bind_assoc]
  refine tells_observe fun tick => tells_ask unwritten fun record past₁ clean₁ => ?_
  cases record with
  | none => exact rest none past₁ clean₁ (by simp)
  | some existing =>
      dsimp only
      cases existing.resourceId with
      | none => exact rest none past₁ clean₁ (by simp)
      | some resourceId => exact tells_lookup clean₁ rest

theorem tells_changedBefore {tenantId : UUID} {key : String} {ticketId : UUID}
    {next : Option Ticket → Handler β} (unwritten : pendingOf past = [])
    (rest : ∀ found past', pendingOf past' = [] → (∀ ticket ∈ found, Genuine past' ticket) →
      Tells env Q (next found) past' pending) :
    Tells env Q ((changedBefore hexdigest tenantId key ticketId).bind next) past pending := by
  simp only [changedBefore, getIdempotencyKey, Program.bind_eq, Program.pure_eq,
    Program.bind_assoc]
  refine tells_observe fun tick => tells_ask unwritten fun record past₁ clean₁ => ?_
  cases record with
  | none => exact rest none past₁ clean₁ (by simp)
  | some existing =>
      dsimp only
      split
      · trivial
      · cases existing.resourceId with
        | none => exact rest none past₁ clean₁ (by simp)
        | some resourceId => exact tells_lookup clean₁ rest

theorem tells_changeStatus {ticketId : UUID} {actor : TokenPayload} {target : TicketStatus}
    {payload : Option Payload} {next : Ticket → Handler β} (unwritten : pendingOf past = [])
    (rest : ∀ row event past', Tells env Q (next row) past'
      (pending ++ [.update (.ticket row), .insert (.event event)])) :
    Tells env Q ((changeStatus ticketId actor target payload).bind next) past pending := by
  simp only [changeStatus, Program.bind_eq, Program.bind_assoc]
  refine tells_getOr404 unwritten fun ticket past₁ => ?_
  refine tells_silent (silent_checkTenant _ _) fun _ => ?_
  refine tells_silent (silent_parse _) fun userId => ?_
  refine obeys_bind.mpr (obeys_mapRaise.mpr (obeys_bind.mp ?_))
  simp only [transitionStatus, Program.bind_eq, Program.pure_eq, Program.bind_assoc]
  refine tells_silent (silent_transition _ _) fun _ => tells_observe fun tick => ?_
  refine tells_updateTicket fun row past₂ => tells_insertEvent fun event past₃ _ => ?_
  simpa using rest row event past₃

/-! ## Handlers -/

theorem tells_storeTicket {new : NewTicket} {actorUserId : Handler (Option UUID)}
    {next : Ticket → Handler β} (silent : Silent actorUserId)
    (rest : ∀ ticket past', Genuine past' ticket → Tells env Q (next ticket) past' []) :
    Tells env Q ((storeTicket new actorUserId).bind next) past pending := by
  simp only [storeTicket, Program.bind_eq, Program.bind_assoc]
  refine tells_insertTicket fun row past₁ => tells_silent silent fun userId => ?_
  refine tells_insertEvent fun event past₂ _ => tells_commit ?_
  exact tells_refresh (by simp [Action.pending]) rest

theorem shows_createNew {data : TicketCreate} {actor : TokenPayload} {key : Option String} :
    Shows env some (createNew hexdigest data actor key) past pending := by
  simp only [createNew, Program.bind_eq, Program.pure_eq]
  refine tells_query fun db order => tells_silent (silent_parse _) fun tenantId => ?_
  refine tells_storeTicket (silent_map (silent_parse _) _) fun ticket past' genuine => ?_
  rw [← Program.bind_assoc]
  exact shows_ticket genuine

theorem shows_createTicket {data : TicketCreate} {actor : TokenPayload} {key : Option String} :
    Shows env some (createTicket hexdigest data actor key) [] [] := by
  simp only [createTicket, Program.bind_eq]
  refine tells_silent (silent_requireRole _ _) fun _ => ?_
  split
  · exact shows_createNew
  · refine tells_silent (silent_parse _) fun tenantId => ?_
    refine tells_createdBefore rfl fun found past' _ genuine => ?_
    cases found with
    | some ticket => exact genuine
    | none => exact shows_createNew

theorem shows_kioskCreateNew {body : KioskTicketCreate} {tenantId : UUID} {key : Option String} :
    Shows env some (kioskCreateNew hexdigest body tenantId key) past pending := by
  simp only [kioskCreateNew, Program.bind_eq, Program.pure_eq]
  refine tells_query fun db order => ?_
  refine tells_storeTicket (silent_ret _) fun ticket past' genuine => ?_
  rw [← Program.bind_assoc]
  exact shows_ticket genuine

theorem shows_kioskCreateTicket {body : KioskTicketCreate} {key : Option String} :
    Shows env some (kioskCreateTicket hexdigest body key) [] [] := by
  simp only [kioskCreateTicket, Program.bind_eq]
  refine tells_ask rfl fun location past₁ clean₁ => ?_
  cases location with
  | none => trivial
  | some location =>
      dsimp only
      split
      · exact shows_kioskCreateNew
      · refine tells_createdBefore clean₁ fun found past' _ genuine => ?_
        cases found with
        | some ticket => exact genuine
        | none => exact shows_kioskCreateNew

theorem shows_simpleChange {ticketId : UUID} {actor : TokenPayload} {target : TicketStatus} :
    Shows env some (simpleChange ticketId actor target) [] [] := by
  simp only [simpleChange, Program.bind_eq]
  refine tells_silent (silent_requireRole _ _) fun _ => ?_
  refine tells_changeStatus rfl fun row event past₁ => tells_commit ?_
  exact shows_ticket (genuine_written (by simp [ticketVersions_cons, Write.ticket?]))

theorem shows_keyedChangeNew {ticketId : UUID} {actor : TokenPayload} {key : Option String}
    {target : TicketStatus} {episode : Ticket → Handler Unit} (unwritten : pendingOf past = []) :
    Shows env some (keyedChangeNew hexdigest ticketId actor key target episode) past pending := by
  simp only [keyedChangeNew, Program.bind_eq, Program.pure_eq]
  refine tells_changeStatus unwritten fun row event past₁ => ?_
  refine obeys_then fun _ past₂ pending₂ _ => tells_commit ?_
  refine tells_refresh (by simp [Action.pending]) fun ticket past₃ genuine => ?_
  rw [← Program.bind_assoc]
  exact shows_ticket genuine

theorem shows_keyedChange {ticketId : UUID} {actor : TokenPayload} {key : Option String}
    {target : TicketStatus} {episode : Ticket → Handler Unit} :
    Shows env some (keyedChange hexdigest ticketId actor key target episode) [] [] := by
  simp only [keyedChange, Program.bind_eq]
  refine tells_silent (silent_requireRole _ _) fun _ => ?_
  split
  · exact shows_keyedChangeNew rfl
  · refine tells_silent (silent_parse _) fun tenantId => ?_
    refine tells_changedBefore rfl fun found past' clean genuine => ?_
    cases found with
    | some ticket => exact genuine
    | none => exact shows_keyedChangeNew clean

theorem shows_transferTicket {ticketId : UUID} {data : TicketTransfer} {actor : TokenPayload} :
    Shows env some (transferTicket ticketId data actor) [] [] := by
  simp only [transferTicket, Program.bind_eq, Program.pure_eq]
  refine tells_silent (silent_requireRole _ _) fun _ => ?_
  refine tells_changeStatus rfl fun first event past₁ => ?_
  refine tells_updateTicket fun row past₂ => tells_silent (silent_parse _) fun userId => ?_
  refine tells_observe fun tick => tells_insertEvent fun event' past₃ _ => tells_commit ?_
  refine shows_ticket (genuine_written ?_)
  by_cases same : first.id = row.id <;> simp [ticketVersions_cons, Write.ticket?, same]

/-! ## Call next -/

theorem tells_firstCalled {locationId counterId : UUID} {serviceId : Option UUID}
    {candidates : List Ticket} {next : Option Ticket → Handler β} (unwritten : pendingOf past = [])
    (nothing : ∀ past', Tells env Q (next none) past' [])
    (called : ∀ row past', pendingOf past' = [.update (.ticket row)] →
      Tells env Q (next (some row)) past' [.update (.ticket row)]) :
    Tells env Q ((firstCalled locationId serviceId counterId candidates).bind next) past [] := by
  induction candidates generalizing past with
  | nil => exact nothing past
  | cons candidate candidates ih =>
      simp only [firstCalled, Program.bind_eq, Program.pure_eq, Program.bind_assoc]
      intro context value writes locks exec
      refine ⟨trivial, ?_⟩
      rcases exec_callTicket exec with ⟨rfl, rfl, _⟩ | ⟨row, _, _, _, _, rfl, rfl⟩
      · exact ih (by simp [Action.pending, unwritten])
      · exact called _ _ (by simp [Action.pending, unwritten])

/-- What is read of the called ticket is what the transaction then commits. -/
theorem tells_ticketWithService {ticketId : UUID}
    {next : Option (Ticket × Option Service) → Handler β} (kept : pendingOf past = pending)
    (rest : ∀ found past', pendingOf past' = pending →
      (∀ ticket service, found = some (ticket, service) → ∃ earlier later, past' =
          earlier ++ .performed (.read (.ticket ticket.id)) (some ticket) [] :: later ∧
            pendingOf earlier = pending) →
      Tells env Q (next found) past' pending) :
    Tells env Q ((ticketWithService ticketId).bind next) past pending := by
  simp only [ticketWithService, Program.bind_eq, Program.pure_eq, Program.bind_assoc]
  refine tells_query fun db order => ?_
  simp only [Query.eval]
  cases found : db.tickets.get? ticketId with
  | none => exact rest none _ (by simp [Action.pending, kept]) (by simp)
  | some ticket =>
      obtain rfl : ticket.id = ticketId := Table.key_of_get? found
      dsimp only
      cases ticket.serviceId with
      | none =>
          refine rest (some (ticket, none)) _ (by simp [Action.pending, kept]) ?_
          rintro _ _ ⟨⟩
          exact ⟨past, [], rfl, kept⟩
      | some serviceId =>
          simp only [Program.bind_assoc]
          refine tells_query fun db' order' => rest (some (ticket, _)) _ ?_ ?_
          · simp only [pendingOf_concat, Action.pending, List.append_nil, kept]
          rintro _ _ ⟨⟩
          exact ⟨past, [_], List.append_assoc _ _ _, kept⟩

theorem shows_callNextNew {locationId counterId tenantId : UUID} {body : CallNextBody}
    {actor : TokenPayload} {key : Option String} (unwritten : pendingOf past = []) :
    Shows env (Option.map TicketRead.ticket)
      (callNextNew hexdigest locationId counterId tenantId body actor key) past [] := by
  simp only [callNextNew, callNextTicket, callNextCte, Program.bind_eq, Program.pure_eq,
    Program.bind_assoc]
  refine tells_silent (silent_parse _) fun userId => ?_
  refine tells_ask unwritten fun candidates past₁ clean₁ => ?_
  refine tells_firstCalled clean₁ (fun past₂ => ?_) fun row past₂ called => ?_
  · exact tells_commit (by rintro _ ⟨⟩)
  · simp only [Program.bind_assoc]
    refine tells_insertEvent fun event past₃ logged => ?_
    rw [called] at logged
    refine tells_ticketWithService logged fun found past₄ _ seen => tells_commit ?_
    cases found with
    | none => rintro _ ⟨⟩
    | some found =>
        obtain ⟨ticket, service⟩ := found
        obtain ⟨earlier, later, rfl, same⟩ := seen ticket service rfl
        dsimp only
        rw [← Program.bind_assoc]
        refine shows_then ?_
        rintro _ ⟨⟩
        exact .inl ⟨earlier, _, by rw [List.append_assoc]; rfl, .inr (by simp [same])⟩

theorem tells_calledBefore {tenantId : UUID} {key : String} {body : CallNextBody}
    {next : Option (Ticket × Option Service) → Handler β} (unwritten : pendingOf past = [])
    (rest : ∀ found past', pendingOf past' = [] → (∀ ticket service,
        found = some (ticket, service) → Genuine past' ticket) →
      Tells env Q (next found) past' []) :
    Tells env Q ((calledBefore hexdigest tenantId key body).bind next) past [] := by
  simp only [calledBefore, getIdempotencyKey, Program.bind_eq, Program.pure_eq,
    Program.bind_assoc]
  refine tells_observe fun tick => tells_ask unwritten fun record past₁ clean₁ => ?_
  cases record with
  | none => exact rest none past₁ clean₁ (by simp)
  | some existing =>
      dsimp only
      cases existing.resourceId with
      | none => exact rest none past₁ clean₁ (by simp)
      | some resourceId =>
          dsimp only
          split
          · refine tells_ticketWithService clean₁ fun found past₂ clean₂ seen => ?_
            refine rest found past₂ clean₂ fun ticket service is => ?_
            obtain ⟨earlier, later, rfl, clean⟩ := seen ticket service is
            exact .inl ⟨earlier, later, rfl, .inl clean⟩
          · trivial

theorem shows_callNext {counterId : UUID} {body : CallNextBody} {actor : TokenPayload}
    {key : Option String} :
    Shows env (Option.map TicketRead.ticket) (callNext hexdigest counterId body actor key)
      [] [] := by
  simp only [callNext, Program.bind_eq]
  refine tells_silent (silent_requireStaff _) fun _ => ?_
  refine tells_ask rfl fun counter past₁ clean₁ => ?_
  cases counter with
  | none => trivial
  | some counter =>
      refine tells_ask clean₁ fun location past₂ clean₂ => ?_
      cases location with
      | none => trivial
      | some location =>
          refine tells_silent (silent_checkTenant _ _) fun _ => ?_
          refine tells_silent (silent_parse _) fun tenantId => ?_
          split
          · exact shows_callNextNew clean₂
          · refine tells_calledBefore clean₂ fun found past₃ clean₃ genuine => ?_
            cases found with
            | none => exact shows_callNextNew clean₃
            | some found =>
                rintro _ ⟨⟩
                exact genuine _ _ rfl

/-! ## Every request -/

theorem shows_map {shown : β → Option Ticket} {handler : Handler α} {answer : α → β}
    (shows : Shows env (fun value => shown (answer value)) handler [] []) :
    Shows env shown (answer <$> handler) [] [] := by
  rw [Program.map_eq]
  exact obeys_bind.mpr shows

theorem shows_nothing {handler : Handler α} : Shows env (fun _ => none) handler [] [] := by
  refine obeys_mono (obeys_of_forall (fun _ _ => trivial) handler [] []) fun _ _ _ _ => ?_
  rintro _ ⟨⟩

theorem shows_program (hexdigest : PyDict → String) (request : Request) :
    Shows env Response.ticket? (program hexdigest request) [] [] := by
  cases request with
  | createTicket data actor key => exact shows_map shows_createTicket
  | kioskCreateTicket body key => exact shows_map shows_kioskCreateTicket
  | callNext counterId body actor key => exact shows_map shows_callNext
  | startService ticketId actor key => exact shows_map shows_keyedChange
  | completeTicket ticketId actor key => exact shows_map shows_keyedChange
  | holdTicket ticketId actor => exact shows_map shows_simpleChange
  | cancelTicket ticketId actor => exact shows_map shows_simpleChange
  | noShow ticketId actor => exact shows_map shows_simpleChange
  | transferTicket ticketId data actor => exact shows_map shows_transferTicket
  | _ => exact shows_map shows_nothing

end QueueFlow.App
