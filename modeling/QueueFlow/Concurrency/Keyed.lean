import QueueFlow.Concurrency.KeyBinding

/-!
# A keyed request alone

All that a request with a key can do when nobody else is at work: nothing, or its effect in one
transaction and the record of its key in a second one, which may fail.
-/

namespace QueueFlow.Concurrency
open QueueFlow.App QueueFlow.Data QueueFlow.Tables QueueFlow.Transactions

/-! ## Statements -/

section
variable {ι : Type} [DecidableEq ι] {env : Nat → Env} {i : ι} {α β : Type}
  {Q : Session Stmt Stmt.Res Failure Message Env β → Database → List Message → Prop}
  {db : Database} {pending : List Write} {tick : Nat}

theorem ends_silent {program : Handler α} {next : α → Handler β}
    (refused : ∀ error, Q (.raised error) db []) (silent : Silent program)
    (rest : ∀ value, program = .ret value → Ends engine env i Q (next value) db pending tick) :
    Ends engine env i Q (program.bind next) db pending tick := by
  rcases silent with ⟨value, rfl⟩ | ⟨error, rfl⟩
  · exact rest value rfl
  · exact ends_raise (refused error)

theorem ends_query {q : Query} {next : q.Res → Handler β} (fault : q.fault = none)
    (rest : Ends engine env i Q
      (next (q.eval (engine.applyAll db pending) (env tick).order)) db pending (tick + 1)) :
    Ends engine env i Q ((query q).bind next) db pending tick := by
  refine ends_perform (fun context error sees exec => ?_)
    fun context value new locks sees exec => ?_
  · have exec : (Stmt.read q).exec context = .fail error := exec
    rw [Stmt.exec, fault] at exec
    cases exec
  · have exec : (Stmt.read q).exec context = .done value new locks := exec
    obtain ⟨rfl, rfl, rfl⟩ := exec_read exec
    rw [sees.view, sees.env, List.append_nil]
    exact rest

theorem ends_command {c : Command} {next : c.Res → Handler β}
    (failed : ∀ id now error, c.run (engine.applyAll db pending) id now = .error error →
      Q (.raised (.database error)) db [])
    (done : ∀ id now value new, c.run (engine.applyAll db pending) id now = .ok (value, new) →
      Ends engine env i Q (next value) db (pending ++ new) (tick + 1)) :
    Ends engine env i Q ((command c).bind next) db pending tick := by
  refine ends_perform (fun context error sees exec => ?_)
    fun context value new locks sees exec => ?_
  · have exec : (Stmt.write c).exec context = .fail error := exec
    rw [Stmt.exec] at exec
    split at exec
    · rename_i problem ran
      cases exec
      exact failed _ _ problem (sees.view ▸ ran)
    · cases exec
  · have exec : (Stmt.write c).exec context = .done value new locks := exec
    exact done _ _ value new (sees.view ▸ (exec_write exec).1)

theorem ends_insertTicket {new : NewTicket} {next : Ticket → Handler β}
    (refused : ∀ error, Q (.raised error) db [])
    (rest : ∀ id now, Ends engine env i Q (next (new.row id now)) db
      (pending ++ [.insert (.ticket (new.row id now))]) (tick + 1)) :
    Ends engine env i Q ((command (.insertTicket new)).bind next) db pending tick := by
  refine ends_command (fun _ _ _ _ => refused _) fun id now value writes ran => ?_
  obtain ⟨rfl, rfl, _⟩ := run_insertTicket ran
  exact rest id now

theorem ends_updateTicket {id : UUID} {set : TicketUpdate} {next : Ticket → Handler β}
    (refused : ∀ error, Q (.raised error) db [])
    (rest : ∀ row, row.status = set.status →
      Ends engine env i Q (next row) db (pending ++ [.update (.ticket row)]) (tick + 1)) :
    Ends engine env i Q ((command (.updateTicket id set)).bind next) db pending tick := by
  refine ends_command (fun _ _ _ _ => refused _) fun fresh now value writes ran => ?_
  obtain ⟨row, _, _, rfl, rfl⟩ := run_updateTicket ran
  exact rest _ rfl

theorem ends_insertEvent {new : NewEvent} {next : Unit → Handler β}
    (refused : ∀ error, Q (.raised error) db [])
    (rest : ∀ event, Ends engine env i Q (next ()) db (pending ++ [.insert (.event event)])
      (tick + 1)) :
    Ends engine env i Q ((command (.insertEvent new)).bind next) db pending tick := by
  refine ends_command (fun _ _ _ _ => refused _) fun id now value writes ran => ?_
  obtain ⟨rfl, _⟩ := run_insertEvent ran
  exact rest _

theorem ends_callTicket {id locationId : UUID} {serviceId : Option UUID} {counterId : UUID}
    {next : Option Ticket → Handler β} (refused : ∀ error, Q (.raised error) db [])
    (skipped : Ends engine env i Q (next none) db pending (tick + 1))
    (called : ∀ row, Ends engine env i Q (next (some row)) db (pending ++ [.update (.ticket row)])
      (tick + 1)) :
    Ends engine env i Q
      ((Program.perform (Stmt.callTicket id locationId serviceId counterId)).bind next) db pending
      tick := by
  refine ends_perform (fun _ _ _ _ => refused _) fun context value new locks sees exec => ?_
  have exec : (Stmt.callTicket id locationId serviceId counterId).exec context =
      .done value new locks := exec
  rcases exec_callTicket exec with ⟨rfl, rfl, _⟩ | ⟨row, _, _, _, _, rfl, rfl⟩
  · rwa [List.append_nil]
  · exact called _

theorem ends_changeStatus {ticketId : UUID} {actor : TokenPayload} {target : TicketStatus}
    {payload : Option Payload} {next : Ticket → Handler β}
    (refused : ∀ error, Q (.raised error) db [])
    (rest : ∀ row event tick, row.status = target → Ends engine env i Q (next row) db
      [.update (.ticket row), .insert (.event event)] tick) :
    Ends engine env i Q ((changeStatus ticketId actor target payload).bind next) db [] tick := by
  simp only [changeStatus, getOr404, transitionStatus, Program.bind_eq, Program.pure_eq,
    Program.bind_assoc, Program.mapRaise_bind, Program.mapRaise_observe]
  refine ends_query rfl ?_
  rw [Query.eval]
  cases (engine.applyAll db []).tickets.get? ticketId with
  | none => exact ends_raise (refused _)
  | some ticket =>
      simp only [Program.ret_bind]
      refine ends_silent refused (silent_checkTenant _ _) fun _ _ => ?_
      refine ends_silent refused (silent_parse _) fun userId _ => ?_
      refine ends_silent refused (silent_mapRaise (silent_transition _ _)) fun _ _ => ?_
      refine ends_observe ?_
      refine ends_updateTicket refused fun row status => ?_
      exact ends_insertEvent refused fun event => rest row event _ status

theorem ends_publishSignage {locationId : UUID} {value : β}
    (ends : ∀ sent, Q (.returned value) db sent) :
    Ends engine env i Q ((publishSignage locationId).bind fun _ => .ret value) db pending tick := by
  simp only [publishSignage, Program.bind_eq, Program.pure_eq, Program.bind_assoc]
  refine ends_observe ?_
  simp only [Program.ret_bind]
  split
  · exact ends_publish (ends_ret (ends _))
  · exact ends_ret (ends _)

end

/-! ## Ends of a keyed request -/

def Misses (db : Database) (tenantId : UUID) (key : String) (now : Time) : Prop :=
  ∀ record ∈ db.findIdempotencyKey tenantId key now, ∀ id ∈ record.resourceId,
    db.tickets.get? id = none

/-- The request was let through to its effect, which has written this ticket, and is to store this
record. -/
structure Effects (hexdigest : PyDict → String) (env : Nat → Env) (request : Request)
    (db : Database) (tick : Nat) (effect : List Write) (ticket : Ticket)
    (new : NewIdempotencyKey) : Prop where
  admitted : ¬ turnedAway db request
  key : request.key = some new.key
  tenant : keyTenant db request = some new.tenantId
  misses : Misses db new.tenantId new.key (env (tick + lookupDelay request)).now
  hash : new.requestHash = hashBody hexdigest request.body
  resource : new.resourceId = some ticket.id
  plain : ∀ write ∈ effect, write.lock.isRecord = false
  unkeyed : ∀ write ∈ effect, ∀ tenantId key, write.lock ≠ .idempotencyKey tenantId key
  found : (engine.applyAll db effect).tickets.get? ticket.id = some ticket

inductive KeyedEnd (hexdigest : PyDict → String) (env : Nat → Env) (request : Request)
    (db : Database) (tick : Nat) :
    Session Stmt Stmt.Res Failure Message Env Response → Database → Prop where
  | refused (error : Failure) : KeyedEnd hexdigest env request db tick (.raised error) db
  | idle (response : Response) : KeyedEnd hexdigest env request db tick (.returned response) db
  /-- The effect is committed, and then the record is rejected. -/
  | unsaved {effect : List Write} {ticket : Ticket} {new : NewIdempotencyKey}
      (effects : Effects hexdigest env request db tick effect ticket new)
      (rejected : ∃ check ∈ new.checks (engine.applyAll db effect), check.1 = false)
      (error : Failure) :
      KeyedEnd hexdigest env request db tick (.raised error) (engine.applyAll db effect)
  | saved {effect : List Write} {ticket : Ticket} {new : NewIdempotencyKey} {response : Response}
      (effects : Effects hexdigest env request db tick effect ticket new)
      (accepted : ∀ check ∈ new.checks (engine.applyAll db effect), check.1 = true)
      (answers : ticketOf response = some ticket) :
      KeyedEnd hexdigest env request db tick (.returned response)
        (engine.applyAll db (effect ++ [.insert (.idempotencyKey new.row)]))

section
variable {ι : Type} [DecidableEq ι] {env : Nat → Env} {i : ι} {α β : Type}
  {Q : Session Stmt Stmt.Res Failure Message Env β → Database → List Message → Prop}
  {db : Database} {tick : Nat} {tenantId : UUID} {key : String}

theorem ends_lookup {next : Option IdempotencyKey → Handler β}
    (rest : Ends engine env i Q (next (db.findIdempotencyKey tenantId key (env tick).now)) db []
      (tick + 2)) :
    Ends engine env i Q ((getIdempotencyKey tenantId key).bind next) db [] tick := by
  simp only [getIdempotencyKey, Program.bind_eq, Program.bind_assoc]
  exact ends_observe (ends_query rfl rest)

theorem misses_of_none {now : Time} (missing : db.findIdempotencyKey tenantId key now = none) :
    Misses db tenantId key now := by
  intro record found
  rw [missing] at found
  cases found

theorem misses_of_some {now : Time} {record : IdempotencyKey}
    (found : db.findIdempotencyKey tenantId key now = some record)
    (gone : ∀ id ∈ record.resourceId, db.tickets.get? id = none) :
    Misses db tenantId key now := by
  intro other located
  rw [found] at located
  cases located
  exact gone

theorem ends_createdBefore {next : Option Ticket → Handler β}
    (hit : ∀ ticket tick, Ends engine env i Q (next (some ticket)) db [] tick)
    (miss : Misses db tenantId key (env tick).now →
      ∀ tick, Ends engine env i Q (next none) db [] tick) :
    Ends engine env i Q ((createdBefore tenantId key).bind next) db [] tick := by
  simp only [createdBefore, Program.bind_eq, Program.pure_eq, Program.bind_assoc]
  refine ends_lookup ?_
  cases found : db.findIdempotencyKey tenantId key (env tick).now with
  | none => exact miss (misses_of_none found) _
  | some record =>
      dsimp only
      cases named : record.resourceId with
      | none => exact miss (misses_of_some found (by simp [named])) _
      | some resourceId =>
          refine ends_query rfl ?_
          rw [Query.eval, Engine.applyAll_nil]
          cases there : db.tickets.get? resourceId with
          | none => exact miss (misses_of_some found (by simpa [named] using there)) _
          | some ticket => exact hit ticket _

theorem ends_changedBefore {hexdigest : PyDict → String} {ticketId : UUID}
    {next : Option Ticket → Handler β} (refused : ∀ error, Q (.raised error) db [])
    (hit : ∀ ticket tick, Ends engine env i Q (next (some ticket)) db [] tick)
    (miss : Misses db tenantId key (env tick).now →
      ∀ tick, Ends engine env i Q (next none) db [] tick) :
    Ends engine env i Q ((changedBefore hexdigest tenantId key ticketId).bind next) db [] tick := by
  simp only [changedBefore, Program.bind_eq, Program.pure_eq, Program.bind_assoc]
  refine ends_lookup ?_
  cases found : db.findIdempotencyKey tenantId key (env tick).now with
  | none => exact miss (misses_of_none found) _
  | some record =>
      dsimp only
      split
      · exact ends_raise (refused _)
      · cases named : record.resourceId with
        | none => exact miss (misses_of_some found (by simp [named])) _
        | some resourceId =>
            refine ends_query rfl ?_
            rw [Query.eval, Engine.applyAll_nil]
            cases there : db.tickets.get? resourceId with
            | none => exact miss (misses_of_some found (by simpa [named] using there)) _
            | some ticket => exact hit ticket _

theorem ends_ticketWithService {pending : List Write} {ticketId : UUID}
    {next : Option (Ticket × Option Service) → Handler β}
    (missing : (engine.applyAll db pending).tickets.get? ticketId = none →
      ∀ tick, Ends engine env i Q (next none) db pending tick)
    (found : ∀ ticket, (engine.applyAll db pending).tickets.get? ticketId = some ticket →
      ∀ service tick, Ends engine env i Q (next (some (ticket, service))) db pending tick) :
    Ends engine env i Q ((ticketWithService ticketId).bind next) db pending tick := by
  simp only [ticketWithService, Program.bind_eq, Program.pure_eq, Program.bind_assoc]
  refine ends_query rfl ?_
  rw [Query.eval]
  cases there : (engine.applyAll db pending).tickets.get? ticketId with
  | none => exact missing there _
  | some ticket =>
      cases named : ticket.serviceId with
      | none => simpa only [named, Program.ret_bind] using found ticket there none _
      | some serviceId =>
          simp only [named, Program.bind_assoc]
          exact ends_query rfl (found ticket there _ _)

theorem ends_calledBefore {hexdigest : PyDict → String} {body : CallNextBody}
    {next : Option (Ticket × Option Service) → Handler β}
    (refused : ∀ error, Q (.raised error) db [])
    (hit : ∀ found tick, Ends engine env i Q (next (some found)) db [] tick)
    (miss : Misses db tenantId key (env tick).now →
      ∀ tick, Ends engine env i Q (next none) db [] tick) :
    Ends engine env i Q ((calledBefore hexdigest tenantId key body).bind next) db [] tick := by
  simp only [calledBefore, Program.bind_eq, Program.pure_eq, Program.bind_assoc]
  refine ends_lookup ?_
  cases found : db.findIdempotencyKey tenantId key (env tick).now with
  | none => exact miss (misses_of_none found) _
  | some record =>
      cases named : record.resourceId with
      | none =>
          simpa only [named, Program.ret_bind] using
            miss (misses_of_some found (by simp [named])) _
      | some resourceId =>
          simp only [named]
          split
          · refine ends_ticketWithService (fun gone => ?_) fun ticket _ service => hit _
            exact miss (misses_of_some found (by simpa [named] using gone))
          · exact ends_raise (refused _)

theorem ends_refresh {ticket row : Ticket} {next : Ticket → Handler β}
    (found : db.tickets.get? ticket.id = some row)
    (rest : ∀ tick, Ends engine env i Q (next row) db [] tick) :
    Ends engine env i Q ((refresh ticket).bind next) db [] tick := by
  simp only [refresh, Program.bind_eq, Program.pure_eq, Program.bind_assoc]
  refine ends_query rfl ?_
  rw [Query.eval, Engine.applyAll_nil, found]
  exact rest _

theorem ends_storeTicket {new : NewTicket} {actorUserId : Handler (Option UUID)}
    {next : Ticket → Handler β} (refused : ∀ error, Q (.raised error) db [])
    (silent : Silent actorUserId)
    (rest : ∀ row event tick, row.locationId = new.locationId → Ends engine env i Q (next row)
      (engine.applyAll db [.insert (.ticket row), .insert (.event event)]) [] tick) :
    Ends engine env i Q ((storeTicket new actorUserId).bind next) db [] tick := by
  simp only [storeTicket, Program.bind_eq, Program.bind_assoc]
  refine ends_insertTicket refused fun id now => ?_
  refine ends_silent refused silent fun userId _ => ?_
  refine ends_insertEvent refused fun event => ends_commit ?_
  have found : (engine.applyAll db [.insert (.ticket (new.row id now)),
      .insert (.event event)]).tickets.get? (new.row id now).id = some (new.row id now) :=
    get?_of_written_once db (.inl rfl) (by simp [Write.lock, Row.lock])
  exact ends_refresh found fun tick => rest _ event tick rfl

theorem ends_firstCalled {locationId counterId : UUID} {serviceId : Option UUID}
    {candidates : List Ticket} {pending : List Write} {next : Option Ticket → Handler β}
    (refused : ∀ error, Q (.raised error) db [])
    (idle : ∀ tick, Ends engine env i Q (next none) db pending tick)
    (called : ∀ row tick, Ends engine env i Q (next (some row)) db
      (pending ++ [.update (.ticket row)]) tick) :
    Ends engine env i Q ((firstCalled locationId serviceId counterId candidates).bind next) db
      pending tick := by
  induction candidates generalizing tick with
  | nil => exact idle tick
  | cons candidate candidates ih =>
      simp only [firstCalled, Program.bind_eq, Program.bind_assoc]
      exact ends_callTicket refused ih fun row => called row _

end

/-! ## The handlers -/

section
variable {ι : Type} [DecidableEq ι] {hexdigest : PyDict → String} {env : Nat → Env} {i : ι}
  {request : Request} {db : Database} {start tick : Nat} {tenantId : UUID} {key : String}

abbrev EndsKeyed (hexdigest : PyDict → String) (env : Nat → Env) (i : ι) (request : Request)
    (db : Database) (start : Nat) (program : Handler Response) (store : Database) (tick : Nat) :
    Prop :=
  Ends engine env i (fun session after _ => KeyedEnd hexdigest env request db start session after)
    program store [] tick

theorem ends_saved {effect : List Write} {ticket : Ticket} {tenant : Handler UUID}
    {idempotencyKey : Option String} {body : PyDict} {locationId : UUID} {response : Response}
    (parsed : tenant = .ret tenantId) (keyed : given idempotencyKey = some key)
    (effects : ∀ now, Effects hexdigest env request db start effect ticket
      ⟨tenantId, key, hashBody hexdigest body, some ticket.id, now, now + hours 24⟩)
    (answers : ticketOf response = some ticket) :
    EndsKeyed hexdigest env i request db start
      ((saveKey hexdigest tenant idempotencyKey body ticket).bind fun _ =>
        (publishSignage locationId).bind fun _ => .ret response)
      (engine.applyAll db effect) tick := by
  subst parsed
  simp only [saveKey, keyed, saveIdempotencyKey, Program.bind_eq, Program.bind_assoc,
    Program.ret_bind]
  refine ends_observe (ends_command (fun id now error ran => ?_) fun id now value new ran => ?_)
  · exact .unsaved (effects _) (require_eq_error ran) _
  · rw [Engine.applyAll_nil] at ran
    obtain ⟨rfl, accepted⟩ := run_insertIdempotencyKey ran
    refine ends_commit (ends_publishSignage fun sent => ?_)
    rw [List.nil_append, ← Engine.applyAll_append]
    exact .saved (effects _) accepted answers

theorem effects_creation {row : Ticket} {event : TicketEvent} {hash : String} {now expires : Time}
    (admitted : ¬ turnedAway db request) (keyed : request.key = some key)
    (tenant : keyTenant db request = some tenantId)
    (misses : Misses db tenantId key (env (start + lookupDelay request)).now)
    (same : hash = hashBody hexdigest request.body) :
    Effects hexdigest env request db start [.insert (.ticket row), .insert (.event event)] row
      ⟨tenantId, key, hash, some row.id, now, expires⟩ where
  admitted := admitted
  key := keyed
  tenant := tenant
  misses := misses
  hash := same
  resource := rfl
  plain := by simp [Write.lock, Row.lock, Lock.isRecord]
  unkeyed := by simp [Write.lock, Row.lock]
  found := get?_of_written_once db (.inl rfl) (by simp [Write.lock, Row.lock])

theorem ends_createTicket {data : TicketCreate} {actor : TokenPayload}
    {idempotencyKey : Option String} (keyed : given idempotencyKey = some key) :
    EndsKeyed hexdigest env i (.createTicket data actor idempotencyKey) db start
      (program hexdigest (.createTicket data actor idempotencyKey)) db start := by
  simp only [program, createTicket, keyed, Program.map_eq, Program.bind_eq, Program.pure_eq,
    Program.bind_assoc]
  refine ends_silent .refused (silent_requireRole _ _) fun _ passed => ?_
  refine ends_silent .refused (silent_parse _) fun tenantId parsed => ?_
  refine ends_createdBefore (fun ticket tick => ends_ret (.idle _)) fun misses tick => ?_
  simp only [createNew, Program.bind_eq, Program.pure_eq, Program.bind_assoc]
  refine ends_query rfl ?_
  rw [parsed, Program.ret_bind]
  refine ends_storeTicket .refused (silent_map (silent_parse _) _) fun row event tick _ => ?_
  refine ends_saved rfl keyed (fun now => ?_) rfl
  exact effects_creation (by simp [turnedAway, requireRole_eq_ret passed]) keyed
    (parse_eq_ret parsed) misses rfl

theorem ends_kioskCreateTicket {body : KioskTicketCreate} {idempotencyKey : Option String}
    (keyed : given idempotencyKey = some key) :
    EndsKeyed hexdigest env i (.kioskCreateTicket body idempotencyKey) db start
      (program hexdigest (.kioskCreateTicket body idempotencyKey)) db start := by
  simp only [program, kioskCreateTicket, Program.map_eq, Program.bind_eq, Program.pure_eq,
    Program.bind_assoc]
  refine ends_query rfl ?_
  rw [Query.eval, Engine.applyAll_nil]
  cases found : db.locations.get? body.locationId with
  | none => exact ends_raise (.refused _)
  | some location =>
      simp only [keyed, Program.bind_assoc]
      refine ends_createdBefore (fun ticket tick => ends_ret (.idle _)) fun misses tick => ?_
      simp only [kioskCreateNew, Program.bind_eq, Program.pure_eq, Program.bind_assoc]
      refine ends_query rfl ?_
      refine ends_storeTicket .refused (silent_ret _) fun row event tick _ => ?_
      refine ends_saved rfl keyed (fun now => ?_) rfl
      exact effects_creation id keyed (by simp [keyTenant, found]) misses rfl

def EndsEpisode (env : Nat → Env) (i : ι) (episode : Ticket → Handler Unit) : Prop :=
  ∀ (Q : Session Stmt Stmt.Res Failure Message Env Response → Database → List Message → Prop)
    (db : Database) (pending : List Write) (tick : Nat) (ticket : Ticket)
    (next : Unit → Handler Response), (∀ error, Q (.raised error) db []) →
    (∀ writes tick, (∀ write ∈ writes, ∃ row, write.value = some (.interaction row)) →
      Ends engine env i Q (next ()) db (pending ++ writes) tick) →
    Ends engine env i Q ((episode ticket).bind next) db pending tick

theorem endsEpisode_open : EndsEpisode env i openInteraction := by
  intro Q db pending tick ticket next refused rest
  simp only [openInteraction, Program.bind_eq, Program.bind_assoc]
  refine ends_observe (ends_command (fun _ _ _ _ => refused _) fun id now value new ran => ?_)
  obtain ⟨rfl, _⟩ := run_insertInteraction ran
  exact rest _ _ (by simp [Write.value])

theorem endsEpisode_close : EndsEpisode env i closeInteraction := by
  intro Q db pending tick ticket next refused rest
  simp only [closeInteraction, Program.bind_eq, Program.bind_assoc]
  refine ends_observe (ends_command (fun _ _ _ _ => refused _) fun id now value new ran => ?_)
  cases ran
  refine rest _ _ fun write member => ?_
  obtain ⟨row, _, rfl⟩ := List.mem_map.mp member
  exact ⟨_, rfl⟩

theorem lock_of_interaction {write : Write} {lock : Lock}
    (written : ∃ row, write.value = some (.interaction row))
    (other : ∀ id, lock ≠ .interaction id) :
    write.lock ≠ lock := by
  obtain ⟨row, value⟩ := written
  cases write <;> cases value <;> exact (other _).symm

theorem ends_keyedChange {ticketId : UUID} {actor : TokenPayload} {idempotencyKey : Option String}
    {target : TicketStatus} {episode : Ticket → Handler Unit} (episodic : EndsEpisode env i episode)
    (keyed : given idempotencyKey = some key)
    (effects : ∀ tenantId effect ticket now, actor.hasRole writeRoles = true →
      actor.tenantId.parse = some tenantId → Misses db tenantId key (env start).now →
      (∀ write ∈ effect, write.lock.isRecord = false) →
      (∀ write ∈ effect, ∀ tenantId key, write.lock ≠ .idempotencyKey tenantId key) →
      (engine.applyAll db effect).tickets.get? ticket.id = some ticket →
      Effects hexdigest env request db start effect ticket ⟨tenantId, key,
        hashBody hexdigest (ticketBody ticketId), some ticket.id, now, now + hours 24⟩) :
    EndsKeyed hexdigest env i request db start
      (readTicket <$> keyedChange hexdigest ticketId actor idempotencyKey target episode) db
      start := by
  simp only [keyedChange, keyed, Program.map_eq, Program.bind_eq, Program.pure_eq,
    Program.bind_assoc]
  refine ends_silent .refused (silent_requireRole _ _) fun _ passed => ?_
  refine ends_silent .refused (silent_parse _) fun tenantId parsed => ?_
  refine ends_changedBefore .refused (fun ticket tick => ends_ret (.idle _)) fun misses tick => ?_
  simp only [keyedChangeNew, Program.bind_eq, Program.pure_eq, Program.bind_assoc]
  refine ends_changeStatus .refused fun row event tick _ => ?_
  refine episodic _ _ _ _ _ _ .refused fun writes tick written => ends_commit ?_
  have plain {lock : Lock} (other : ∀ id, lock ≠ .interaction id) :
      ∀ write ∈ writes, write.lock ≠ lock := fun write member =>
    lock_of_interaction (written write member) other
  have found : (engine.applyAll db ([.update (.ticket row), .insert (.event event)] ++
      writes)).tickets.get? row.id = some row := by
    refine get?_of_written_once db (.inr rfl) (List.forall_mem_cons.mpr ⟨?_, plain (by simp)⟩)
    simp [Write.lock, Row.lock]
  refine ends_refresh found fun tick => ?_
  rw [parsed]
  refine ends_saved rfl keyed (fun now => ?_) rfl
  have changed {write : Write}
      (member : write ∈ [Write.update (.ticket row), .insert (.event event)] ++ writes) :
      write.lock = .ticket row.id ∨ write.lock = .event event.id ∨ write ∈ writes := by
    simp only [List.cons_append, List.nil_append, List.mem_cons] at member
    exact member.imp (congrArg Write.lock ·) (Or.imp_left (congrArg Write.lock ·))
  refine effects _ _ _ now (requireRole_eq_ret passed) (parse_eq_ret parsed) misses ?_ ?_ found
  · intro write member
    rcases changed member with same | same | episode
    · rw [same]
      rfl
    · rw [same]
      rfl
    · cases recorded : write.lock.isRecord with
      | false => rfl
      | true =>
          have other (id : UUID) : write.lock ≠ .interaction id := fun same => by
            simp [same, Lock.isRecord] at recorded
          exact (plain other write episode rfl).elim
  · intro write member tenantId key
    rcases changed member with same | same | episode
    · simp [same]
    · simp [same]
    · exact plain (by simp) write episode

theorem ends_callNext {counterId : UUID} {body : CallNextBody} {actor : TokenPayload}
    {idempotencyKey : Option String} (keyed : given idempotencyKey = some key) :
    EndsKeyed hexdigest env i (.callNext counterId body actor idempotencyKey) db start
      (program hexdigest (.callNext counterId body actor idempotencyKey)) db start := by
  simp only [program, callNext, Program.map_eq, Program.bind_eq, Program.pure_eq,
    Program.bind_assoc]
  refine ends_silent .refused (silent_requireStaff _) fun _ staff => ?_
  refine ends_query rfl ?_
  rw [Query.eval, Engine.applyAll_nil]
  cases desk : db.counters.get? counterId with
  | none => exact ends_raise (.refused _)
  | some counter =>
      simp only [Program.bind_assoc]
      refine ends_query rfl ?_
      rw [Query.eval, Engine.applyAll_nil]
      cases place : db.locations.get? counter.locationId with
      | none => exact ends_raise (.refused _)
      | some location =>
          simp only [Program.bind_assoc]
          refine ends_silent .refused (silent_checkTenant _ _) fun _ mine => ?_
          refine ends_silent .refused (silent_parse _) fun tenantId parsed => ?_
          simp only [keyed, Program.bind_assoc]
          refine ends_calledBefore .refused (fun found tick => ends_ret (.idle _))
            fun misses tick => ?_
          have role : actor.hasRole writeRoles = true := silent_eq_ret staff
          have admitted : ¬ turnedAway db (.callNext counterId body actor idempotencyKey) := by
            simp [turnedAway, role, desk, place, checkTenant_eq_ret mine]
          simp only [callNextNew, callNextTicket, callNextCte, Program.bind_eq, Program.pure_eq,
            Program.bind_assoc]
          refine ends_silent .refused (silent_parse _) fun userId _ => ?_
          refine ends_query rfl ?_
          refine ends_firstCalled .refused (fun tick => ?_) fun row tick => ?_
          · exact ends_commit (ends_ret (.idle _))
          · simp only [Program.bind_assoc]
            refine ends_insertEvent .refused fun event => ?_
            have found : (engine.applyAll db [.update (.ticket row),
                .insert (.event event)]).tickets.get? row.id = some row :=
              get?_of_written_once db (.inr rfl) (by simp [Write.lock, Row.lock])
            refine ends_ticketWithService (fun missing => ?_) fun ticket there service tick => ?_
            · exact absurd (found.symm.trans missing) (by simp)
            · obtain rfl : row = ticket := Option.some.inj (found.symm.trans there)
              refine ends_commit ?_
              simp only [Program.bind_assoc]
              refine ends_saved rfl keyed (fun now => ?_) rfl
              exact ⟨admitted, keyed, parse_eq_ret parsed, misses, rfl, rfl,
                by simp [Write.lock, Row.lock, Lock.isRecord], by simp [Write.lock, Row.lock],
                found⟩

/-- Every request with a key ends in one of these ways. -/
theorem keyed_ends (hexdigest : PyDict → String) (env : Nat → Env) (i : ι) (db : Database)
    (start : Nat) (keyed : request.key = some key) :
    EndsKeyed hexdigest env i request db start (program hexdigest request) db start := by
  cases request with
  | createTicket data actor idempotencyKey => exact ends_createTicket keyed
  | kioskCreateTicket body idempotencyKey => exact ends_kioskCreateTicket keyed
  | callNext counterId body actor idempotencyKey => exact ends_callNext keyed
  | startService ticketId actor idempotencyKey =>
      refine ends_keyedChange endsEpisode_open keyed
        fun _ _ _ _ role tenant misses plain unkeyed found => ?_
      exact ⟨by simp [turnedAway, role], keyed, tenant, misses, rfl, rfl, plain, unkeyed, found⟩
  | completeTicket ticketId actor idempotencyKey =>
      refine ends_keyedChange endsEpisode_close keyed
        fun _ _ _ _ role tenant misses plain unkeyed found => ?_
      exact ⟨by simp [turnedAway, role], keyed, tenant, misses, rfl, rfl, plain, unkeyed, found⟩
  | _ => cases keyed

end

end QueueFlow.Concurrency
