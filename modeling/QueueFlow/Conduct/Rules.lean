import QueueFlow.Conduct.Allowed

/-!
# Rules of conduct

A handler complies with the conduct of its request: one rule for each statement and each helper.
-/

namespace QueueFlow.App
open QueueFlow.Data QueueFlow.Tables QueueFlow.Transactions

abbrev Complies {α : Type} (hexdigest : PyDict → String) (env : Nat → Env) (request : Request)
    (Q : α → List Act → List Write → Prop) (program : Handler α) (past : List Act)
    (pending : List Write) : Prop :=
  Obeys engine env (request.allows hexdigest env) Q program past pending

variable {hexdigest : PyDict → String} {env : Nat → Env} {request : Request} {α β : Type}
  {Q : β → List Act → List Write → Prop}
  {past : List Act} {pending : List Write}

/-! ## Statements -/

theorem Asked.later {past past' : List Act} {q : Query} {answer : q.Res}
    (asked : Asked past q answer) (later : Later past past') : Asked past' q answer :=
  later.sub asked

theorem complies_read {q : Query} {next : q.Res → Handler β} (allowed : request.reads env past q)
    (rest : ∀ db order, Complies hexdigest env request Q (next (q.eval db order))
      (past ++ [.performed (.read q) (q.eval db order) []]) pending) :
    Complies hexdigest env request Q ((query q).bind next) past pending := by
  intro context value writes locks exec
  obtain ⟨rfl, rfl, rfl⟩ := exec_read exec
  exact ⟨allowed, by simpa using rest _ _⟩

theorem complies_query {q : Query} {next : q.Res → Handler β} (allowed : request.reads env past q)
    (rest : ∀ db order past', Idle past past' → Asked past' q (q.eval db order) →
      Complies hexdigest env request Q (next (q.eval db order)) past' pending) :
    Complies hexdigest env request Q ((query q).bind next) past pending :=
  complies_read allowed fun _ _ => rest _ _ _ idle_read (by simp [Asked])

theorem complies_see {q : Query} {next : q.Res → Handler β} (allowed : request.reads env past q)
    (unwritten : pendingOf past = [])
    (rest : ∀ db order past', Idle past past' → Saw past' q (q.eval db order) →
      Complies hexdigest env request Q (next (q.eval db order)) past' pending) :
    Complies hexdigest env request Q ((query q).bind next) past pending :=
  complies_read allowed fun _ _ => rest _ _ _ idle_read (saw_read unwritten)

theorem complies_insertTicket {new : NewTicket} {next : Ticket → Handler β}
    (allowed : request.opensAt = some new.locationId) (waits : new.status = .waiting)
    (rest : ∀ id now past', Later past past' →
      Complies hexdigest env request Q (next (new.row id now)) past'
      (pending ++ [.insert (.ticket (new.row id now))])) :
    Complies hexdigest env request Q ((command (.insertTicket new)).bind next) past pending := by
  intro context value writes locks exec
  obtain ⟨ran, rfl⟩ := exec_write exec
  obtain ⟨rfl, rfl, _⟩ := run_insertTicket ran
  exact ⟨⟨allowed, waits⟩, rest _ _ _ later_performed⟩

theorem complies_updateTicket {id : UUID} {set : TicketUpdate} {next : Ticket → Handler β}
    (allowed : request.changesTo set.status) (stamps : set.Stamps env)
    (rest : ∀ row now past', Later past past' → row.id = id →
      (.performed (.write (.updateTicket id set)) (set.apply now row)
        [.update (.ticket (set.apply now row))] : Act) ∈ past' →
      Complies hexdigest env request Q (next (set.apply now row)) past'
        (pending ++ [.update (.ticket (set.apply now row))])) :
    Complies hexdigest env request Q ((command (.updateTicket id set)).bind next) past pending := by
  intro context value writes locks exec
  have exec : (Stmt.write (.updateTicket id set)).exec context = .done value writes locks := exec
  obtain ⟨ran, rfl⟩ := exec_write exec
  obtain ⟨row, found, _, rfl, rfl⟩ := run_updateTicket ran
  exact ⟨⟨allowed, stamps⟩, rest _ _ _ later_performed (Table.key_of_get? found) (by simp)⟩

theorem complies_insertEvent {new : NewEvent} {next : Unit → Handler β}
    (timed : new.eventType = .created ∨ new.eventType = .called → new.occurredAt = none)
    (rest : ∀ id now past', Later past past' → Complies hexdigest env request Q (next ()) past'
      (pending ++ [.insert (.event (new.row id now))])) :
    Complies hexdigest env request Q ((command (.insertEvent new)).bind next) past pending := by
  intro context value writes locks exec
  obtain ⟨ran, rfl⟩ := exec_write exec
  obtain ⟨rfl, _⟩ := run_insertEvent ran
  exact ⟨timed, rest _ _ _ later_performed⟩

theorem complies_insertInteraction {ticketId : UUID} {counterId : Option UUID} {startedAt : Time}
    {next : Unit → Handler β}
    (rest : ∀ row past', Later past past' → row.ticketId = ticketId → row.endedAt = none →
      Complies hexdigest env request Q (next ()) past'
        (pending ++ [.insert (.interaction row)])) :
    Complies hexdigest env request Q
      ((command (.insertInteraction ticketId counterId startedAt)).bind next) past pending := by
  intro context value writes locks exec
  obtain ⟨ran, rfl⟩ := exec_write exec
  obtain ⟨rfl, _⟩ := run_insertInteraction ran
  exact ⟨trivial, rest _ _ later_performed rfl rfl⟩

theorem complies_closeInteractions {ticketId : UUID} {endedAt : Time} {outcome : String}
    {next : Unit → Handler β}
    (rest : ∀ writes past', Later past past' → Request.IsEpisode ticketId writes →
      (.performed (.write (.closeInteractions ticketId endedAt outcome)) () writes : Act) ∈ past' →
      Complies hexdigest env request Q (next ()) past' (pending ++ writes)) :
    Complies hexdigest env request Q
      ((command (.closeInteractions ticketId endedAt outcome)).bind next) past pending := by
  intro context value writes locks exec
  have exec : (Stmt.write (.closeInteractions ticketId endedAt outcome)).exec context =
      .done value writes locks := exec
  obtain ⟨ran, rfl⟩ := exec_write exec
  cases ran
  refine ⟨trivial, rest _ _ later_performed (fun write member => ?_) (by simp)⟩
  obtain ⟨row, listed, rfl⟩ := List.mem_map.mp member
  exact ⟨_, rfl, (by simpa using (List.mem_filter.mp listed).2 : row.ticketId = ticketId ∧ _).1⟩

theorem complies_insertIdempotencyKey {new : NewIdempotencyKey} {next : Unit → Handler β}
    (rest : ∀ past', Later past past' → Complies hexdigest env request Q (next ()) past'
      (pending ++ [.insert (.idempotencyKey new.row)])) :
    Complies hexdigest env request Q ((command (.insertIdempotencyKey new)).bind next) past
      pending := by
  intro context value writes locks exec
  obtain ⟨ran, rfl⟩ := exec_write exec
  obtain ⟨rfl, _⟩ := run_insertIdempotencyKey ran
  exact ⟨trivial, rest _ later_performed⟩

theorem complies_insertRecord {new : NewRecord} {next : Row → Handler β} (admin : request.isAdmin)
    (rest : ∀ id past', Later past past' →
      Complies hexdigest env request Q (next (new.row id)) past'
      (pending ++ [.insert (new.row id)])) :
    Complies hexdigest env request Q ((command (.insertRecord new)).bind next) past pending := by
  intro context value writes locks exec
  obtain ⟨ran, rfl⟩ := exec_write exec
  obtain ⟨rfl, rfl, _⟩ := run_insertRecord ran
  exact ⟨admin, rest _ _ later_performed⟩

theorem complies_updateRecord {update : RecordUpdate} {next : Row → Handler β}
    (admin : request.isAdmin)
    (rest : ∀ row past', Later past past' → row.lock = update.lock →
      Complies hexdigest env request Q (next row) past' (pending ++ [.update row])) :
    Complies hexdigest env request Q ((command (.updateRecord update)).bind next) past pending := by
  intro context value writes locks exec
  obtain ⟨ran, rfl⟩ := exec_write exec
  obtain ⟨found, rfl⟩ := run_updateRecord ran
  exact ⟨admin, rest _ _ later_performed (key_of_updateRow found)⟩

theorem complies_commit
    {next : Unit → Handler β} (allowed : request.commits hexdigest env past pending)
    (rest : ∀ past', past <+: past' → commitsOf past' = commitsOf past ++ [pending] →
      Complies hexdigest env request Q (next ()) past' []) :
    Complies hexdigest env request Q (Program.commit.bind next) past pending :=
  ⟨allowed, rest _ (List.prefix_append _ _) commitsOf_committed⟩

theorem complies_observe {next : Env → Handler β}
    (rest : ∀ tick, Complies hexdigest env request Q (next (env tick)) past pending) :
    Complies hexdigest env request Q (Program.observe.bind next) past pending := rest

/-! ## Helpers that send nothing -/

def Silent (program : Handler α) : Prop :=
  (∃ value, program = .ret value) ∨ ∃ error, program = .raise error

theorem complies_silent {program : Handler α} {next : α → Handler β} (silent : Silent program)
    (rest : ∀ value, program = .ret value →
      Complies hexdigest env request Q (next value) past pending) :
    Complies hexdigest env request Q (program.bind next) past pending := by
  rcases silent with ⟨value, rfl⟩ | ⟨error, rfl⟩
  · exact rest value rfl
  · trivial

theorem silent_ret (value : α) : Silent (.ret value : Handler α) := .inl ⟨value, rfl⟩

theorem silent_map {program : Handler α} (silent : Silent program) (f : α → β) :
    Silent (f <$> program) := by
  rcases silent with ⟨value, rfl⟩ | ⟨error, rfl⟩
  · exact .inl ⟨f value, rfl⟩
  · exact .inr ⟨error, rfl⟩

theorem silent_mapRaise {program : Handler α} {f : Failure → Failure} (silent : Silent program) :
    Silent (program.mapRaise f) := by
  rcases silent with ⟨value, rfl⟩ | ⟨error, rfl⟩
  · exact .inl ⟨value, rfl⟩
  · exact .inr ⟨f error, rfl⟩

theorem silent_parse (text : UuidText) : Silent (parse text) := by
  unfold parse
  split
  · exact .inl ⟨_, rfl⟩
  · exact .inr ⟨_, rfl⟩

theorem silent_auditTenant (actor : TokenPayload) : Silent (auditTenant actor) := by
  unfold auditTenant
  split
  · exact silent_ret _
  · exact silent_map (silent_parse _) _

theorem parse_eq_ret {text : UuidText} {id : UUID} (parsed : parse text = .ret id) :
    text.parse = some id := by
  unfold parse at parsed
  split at parsed
  · rename_i found
    cases parsed
    exact found
  · cases parsed

theorem silent_guard (condition : Prop) [Decidable condition] (failure : Failure) :
    Silent (if condition then return () else .raise failure : Handler Unit) := by
  split
  · exact .inl ⟨(), rfl⟩
  · exact .inr ⟨failure, rfl⟩

theorem silent_requireRole (actor : TokenPayload) (roles : List RoleName) :
    Silent (requireRole actor roles) := silent_guard _ _

theorem silent_requireStaff (actor : TokenPayload) : Silent (requireStaff actor) :=
  silent_guard _ _

theorem silent_requireAdmin (actor : TokenPayload) : Silent (requireAdmin actor) :=
  silent_guard _ _

theorem silent_requireManager (actor : TokenPayload) : Silent (requireManager actor) :=
  silent_guard _ _

theorem silent_checkTenant (tenantId : UUID) (actor : TokenPayload) :
    Silent (checkTenant tenantId actor) := silent_guard _ _

theorem requireRole_eq_ret {actor : TokenPayload} {roles : List RoleName} {value : Unit}
    (passed : requireRole actor roles = .ret value) : actor.hasRole roles = true := by
  unfold requireRole at passed
  split at passed
  · assumption
  · cases passed

theorem checkTenant_eq_ret {tenantId : UUID} {actor : TokenPayload} {value : Unit}
    (passed : checkTenant tenantId actor = .ret value) :
    actor.tenantId.isText tenantId = true := by
  unfold checkTenant at passed
  split at passed
  · assumption
  · cases passed

theorem requireRole_ret {actor : TokenPayload} {roles : List RoleName}
    (role : actor.hasRole roles = true) : requireRole actor roles = .ret () := if_pos role

theorem requireRole_raise {actor : TokenPayload} {roles : List RoleName}
    (role : actor.hasRole roles = false) :
    ∃ failure, requireRole actor roles = .raise failure :=
  ⟨_, by simp only [requireRole, role, Bool.false_eq_true, if_false]; rfl⟩

theorem requireStaff_ret {actor : TokenPayload} (role : actor.hasRole writeRoles = true) :
    requireStaff actor = .ret () := if_pos role

theorem requireStaff_raise {actor : TokenPayload} (role : actor.hasRole writeRoles = false) :
    requireStaff actor = .raise (.http 403 "Requires staff role or above") :=
  if_neg (by simpa [writeRoles] using role)

theorem checkTenant_ret {tenantId : UUID} {actor : TokenPayload}
    (mine : actor.tenantId.isText tenantId = true) : checkTenant tenantId actor = .ret () :=
  if_pos mine

theorem checkTenant_raise {tenantId : UUID} {actor : TokenPayload}
    (foreign : actor.tenantId.isText tenantId = false) :
    checkTenant tenantId actor = .raise (.http 403 "Tenant mismatch") := if_neg (by simp [foreign])

theorem parse_ret {text : UuidText} {id : UUID} (parsed : text.parse = some id) :
    parse text = .ret id := by
  rw [parse, parsed]
  rfl

theorem silent_transition (current target : TicketStatus) : Silent (transition current target) :=
  silent_guard _ _

/-! ## Shared helpers -/

theorem complies_getOr404 {ticketId : UUID} {next : Ticket → Handler β}
    (unwritten : pendingOf past = [])
    (rest : ∀ row past', Later past past' → row.id = ticketId →
      Saw past' (.ticket ticketId) (some row) →
        Complies hexdigest env request Q (next row) past' pending) :
    Complies hexdigest env request Q ((getOr404 ticketId).bind next) past pending := by
  simp only [getOr404, Program.bind_eq, Program.pure_eq, Program.bind_assoc]
  refine complies_see trivial unwritten fun db order past' later saw => ?_
  simp only [Query.eval] at saw ⊢
  cases found : db.tickets.get? ticketId with
  | none => trivial
  | some row =>
      rw [found] at saw
      exact rest row past' later.toLater (Table.key_of_get? found) saw

theorem complies_refresh {ticket : Ticket} {next : Ticket → Handler β}
    (rest : ∀ row past', Later past past' → row.id = ticket.id →
      Complies hexdigest env request Q (next row) past' pending) :
    Complies hexdigest env request Q ((refresh ticket).bind next) past pending := by
  simp only [refresh, Program.bind_eq, Program.pure_eq, Program.bind_assoc]
  refine complies_query trivial fun db order past' later _ => ?_
  simp only [Query.eval]
  cases found : db.tickets.get? ticket.id with
  | none => trivial
  | some row => exact rest row past' later.toLater (Table.key_of_get? found)

theorem complies_publishSignage {locationId : UUID} {next : Unit → Handler β}
    (rest : ∀ past', Later past past' → Complies hexdigest env request Q (next ()) past' pending) :
    Complies hexdigest env request Q ((publishSignage locationId).bind next) past pending := by
  simp only [publishSignage, Program.bind_eq, Program.pure_eq, Program.bind_assoc]
  refine complies_observe fun tick => ?_
  split
  · exact ⟨trivial, rest _ later_published⟩
  · exact rest _ .refl

theorem silent_eq_ret {condition : Prop} [Decidable condition] {failure : Failure} {value : Unit}
    (passed : (if condition then return () else .raise failure : Handler Unit) = .ret value) :
    condition := by
  by_contra fails
  rw [if_neg fails] at passed
  cases passed

theorem stamps_transition {target : TicketStatus} (requeued : target ≠ .waiting) (tick : Nat) :
    (transitionUpdate target (env tick).now).Stamps env where
  stays _ := ⟨rfl, rfl, rfl⟩
  requeued same := (requeued same).elim
  called := rfl
  started := by
    by_cases serves : target = .inService <;> simp [transitionUpdate, serves]
  completed := by
    by_cases ends : target ∈ TicketStatus.terminal <;> simp [transitionUpdate, ends]
  startedClock time stamped := by
    refine ⟨tick, ?_⟩
    by_cases serves : target = .inService
    · simpa [transitionUpdate, serves, eq_comm] using stamped
    · simp [transitionUpdate, serves] at stamped
  completedClock time stamped := by
    refine ⟨tick, ?_⟩
    by_cases ends : target ∈ TicketStatus.terminal
    · simpa [transitionUpdate, ends, eq_comm] using stamped
    · simp [transitionUpdate, ends] at stamped

theorem complies_transitionStatus {ticket : Ticket} {target : TicketStatus}
    {actorUserId : Option UUID} {payload : Option Payload} {next : Ticket → Handler β}
    (allowed : request.changesTo target) (requeued : target ≠ .waiting)
    (rest : ∀ row event past', Later past past' → row.id = ticket.id →
      Request.Changes target row event → event.fromStatus = some ticket.status →
        event.actorUserId = actorUserId → target ∈ validTransitions ticket.status →
          Complies hexdigest env request Q (next row) past'
          (pending ++ [.update (.ticket row), .insert (.event event)])) :
    Complies hexdigest env request Q
      ((transitionStatus ticket target actorUserId payload).bind next) past pending := by
  simp only [transitionStatus, Program.bind_eq, Program.pure_eq, Program.bind_assoc]
  refine complies_silent (silent_transition _ _) fun _ passed => ?_
  have valid : target ∈ validTransitions ticket.status := silent_eq_ret passed
  refine complies_observe fun tick => ?_
  refine complies_updateTicket allowed (stamps_transition requeued tick)
    fun row now past₁ later₁ same _ => ?_
  refine complies_insertEvent ?_ fun id now' past₂ later₂ => ?_
  · rw [eventTypeFor_eq]
    rintro (created | called)
    · have same : target = .created := by cases target <;> first | rfl | cases created
      exact (created_not_mem_validTransitions _ (same ▸ valid)).elim
    · have same : target = .called := by cases target <;> first | rfl | cases called
      exact (allowed.1 same).elim
  rw [List.append_assoc]
  refine rest _ _ past₂ (later₁.trans later₂) same ⟨rfl, ?_, ?_, fun starts => ?_, fun ends => ?_⟩
    rfl rfl valid
  · simp [NewEvent.row, TicketUpdate.apply, same]
  · simp [NewEvent.row]
  · simp [NewEvent.row, TicketUpdate.apply, transitionUpdate, starts]
  · simp [NewEvent.row, TicketUpdate.apply, transitionUpdate, ends]

theorem complies_changeStatus {ticketId : UUID} {actor : TokenPayload} {target : TicketStatus}
    {payload : Option Payload} {next : Ticket → Handler β} (allowed : request.changesTo target)
    (requeued : target ≠ .waiting) (acts : request.actor = some actor)
    (mayChange : request.mayChange ticketId) (unwritten : pendingOf past = [])
    (rest : ∀ row event past', Later past past' → row.id = ticketId →
      request.transitions past' target event → Request.Changes target row event →
        Complies hexdigest env request Q (next row) past'
          (pending ++ [.update (.ticket row), .insert (.event event)])) :
    Complies hexdigest env request Q ((changeStatus ticketId actor target payload).bind next) past
      pending := by
  simp only [changeStatus, Program.bind_eq, Program.bind_assoc]
  refine complies_getOr404 unwritten fun ticket past₁ later₁ found saw => ?_
  refine complies_silent (silent_checkTenant _ _) fun _ passed => ?_
  refine complies_silent (silent_parse _) fun userId parsed => ?_
  refine obeys_bind.mpr (obeys_mapRaise.mpr (obeys_bind.mp ?_))
  refine complies_transitionStatus allowed requeued
    fun row event past₂ later₂ same changes from_ signed valid => ?_
  refine rest row event past₂ (later₁.trans later₂) (same.trans found)
    ⟨ticket, ?_, ⟨actor, acts, checkTenant_eq_ret passed⟩, from_, valid, ?_,
      actor, acts, userId, parse_eq_ret parsed, signed⟩ changes
  · rw [changes.ticketId, same, found]
    exact saw.later later₂
  · rw [changes.ticketId, same, found]
    exact mayChange

/-! ## Keys -/

theorem Later.missed {past past' : List Act} (later : Later past past')
    (missed : request.missed past) : request.missed past' := by
  rcases missed with unkeyed | ⟨earlier, tenantId, key, now, answer, onward, rfl, nothing⟩
  · exact .inl unkeyed
  · obtain ⟨more, rfl⟩ := later.continues
    refine .inr ⟨earlier, tenantId, key, now, answer, onward ++ more, by simp, ?_⟩
    intro record found resourceId names
    exact List.mem_append_left _ (nothing record found resourceId names)

theorem Later.tenantIs {past past' : List Act} {tenantId : UUID} (later : Later past past')
    (tenant : request.tenantIs past tenantId) : request.tenantIs past' tenantId := by
  cases request with
  | kioskCreateTicket body key =>
      obtain ⟨location, saw, same⟩ := tenant
      exact ⟨location, saw.later later, same⟩
  | _ => exact tenant

theorem missed_of_lookup {tenantId : UUID} {key : String} {now : Time}
    {answer : Option IdempotencyKey} {later : List Act}
    (nothing : ∀ record ∈ answer, ∀ resourceId ∈ record.resourceId,
      Asked later (.ticket resourceId) none) :
    request.missed (past ++ .performed (.read (.idempotencyKey tenantId key now)) answer [] ::
      later) :=
  .inr ⟨past, tenantId, key, now, answer, later, rfl, nothing⟩

theorem complies_createdBefore {tenantId : UUID} {key : String}
    {next : Option Ticket → Handler β} (tenant : request.tenantIs past tenantId)
    (keyed : request.key = some key) (unwritten : pendingOf past = [])
    (rest : ∀ found past', Idle past past' → (found = none → request.missed past') →
      Complies hexdigest env request Q (next found) past' pending) :
    Complies hexdigest env request Q ((createdBefore tenantId key).bind next) past pending := by
  simp only [createdBefore, getIdempotencyKey, Program.bind_eq, Program.pure_eq,
    Program.bind_assoc]
  refine complies_observe fun tick => ?_
  refine complies_read ⟨tenant, keyed, ⟨tick, rfl⟩, unwritten⟩ fun db order => ?_
  cases record : db.findIdempotencyKey tenantId key (env tick).now with
  | none =>
      simp only [Query.eval, record]
      exact rest none _ idle_read fun _ => missed_of_lookup nofun
  | some existing =>
      simp only [Query.eval, record]
      cases resource : existing.resourceId with
      | none =>
          refine rest none _ idle_read fun _ => missed_of_lookup ?_
          rintro _ ⟨⟩ resourceId names
          simp [resource] at names
      | some resourceId =>
          refine complies_read trivial fun db' order' => ?_
          refine rest _ _ (idle_read.then idle_read) fun nothing => ?_
          rw [nothing, List.append_assoc]
          refine missed_of_lookup ?_
          rintro _ ⟨⟩ other names
          cases resource.symm.trans names
          simp [Asked]

theorem complies_changedBefore {tenantId ticketId : UUID}
    {key : String} {next : Option Ticket → Handler β} (tenant : request.tenantIs past tenantId)
    (keyed : request.key = some key) (unwritten : pendingOf past = [])
    (rest : ∀ found past', Idle past past' →
      Complies hexdigest env request Q (next found) past' pending) :
    Complies hexdigest env request Q ((changedBefore hexdigest tenantId key ticketId).bind next) past
      pending := by
  simp only [changedBefore, getIdempotencyKey, Program.bind_eq, Program.pure_eq,
    Program.bind_assoc]
  refine complies_observe fun tick => ?_
  refine complies_query ⟨tenant, keyed, ⟨tick, rfl⟩, unwritten⟩ fun db order past₁ later₁ asked => ?_
  cases record : db.findIdempotencyKey tenantId key (env tick).now with
  | none =>
      simp only [Query.eval, record]
      exact rest none past₁ later₁
  | some existing =>
      simp only [Query.eval, record]
      split
      · trivial
      · cases existing.resourceId with
        | none => exact rest none past₁ later₁
        | some resourceId =>
            exact complies_query trivial fun db' order' past₂ later₂ _ =>
              rest _ past₂ (later₁.then later₂)

theorem complies_saveKey {tenantId : Handler UUID}
    {idempotencyKey : Option String} {body : PyDict} {ticket : Ticket} {next : Unit → Handler β}
    (silent : Silent tenantId) (keyed : request.key = given idempotencyKey)
    (hashed : request.body = body)
    (tenant : ∀ id, tenantId = .ret id → request.tenantIs past id)
    (written : ∃ first row write, commitsOf past = [first] ∧ write ∈ first ∧
      write.value = some (.ticket row) ∧ row.id = ticket.id)
    (allowed : ∀ record past', Request.SavesKey hexdigest env request past' record →
      request.commits hexdigest env past' [.insert (.idempotencyKey record)])
    (rest : ∀ record past', past <+: past' → commitsOf past' = commitsOf past ∨
      commitsOf past' = commitsOf past ++ [[.insert (.idempotencyKey record)]] →
        Complies hexdigest env request Q (next ()) past' []) :
    Complies hexdigest env request Q
      ((saveKey hexdigest tenantId idempotencyKey body ticket).bind next) past
      [] := by
  unfold saveKey
  split
  · exact rest ⟨"", 0, "", none, 0, 0⟩ past List.prefix_rfl (.inl rfl)
  · rename_i key given_eq
    simp only [saveIdempotencyKey, Program.bind_eq, Program.bind_assoc]
    refine complies_silent silent fun id parsed => ?_
    refine complies_observe fun tick => ?_
    refine complies_insertIdempotencyKey fun past₁ later₁ => ?_
    obtain ⟨first, row, write, only, member, value, same⟩ := written
    refine complies_commit (allowed _ past₁ ⟨?_, ?_, ?_, ?_, ⟨tick, rfl⟩⟩) ?_
    · exact ⟨first, row, write, later₁.commits.trans only, member, value, by
        simp [NewIdempotencyKey.row, same]⟩
    · exact later₁.tenantIs (tenant id parsed)
    · exact keyed.trans given_eq
    · rw [hashed]
      rfl
    · intro past₂ onward commits
      exact rest _ past₂ (later₁.continues.trans onward)
        (.inr (by rw [commits, later₁.commits]; rfl))

end QueueFlow.App
