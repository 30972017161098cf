import QueueFlow.Concurrency.Alone
import QueueFlow.Conduct.Shapes
import QueueFlow.Data.History

/-!
# What a key is bound to

All keyed requests of a tenant share one table of keys. A creation answers with whatever ticket the
record names; call-next, start-service and complete compare the hash of their body, which leaves out
the operation and the counter.
-/

namespace QueueFlow.Concurrency
open QueueFlow.App QueueFlow.Data QueueFlow.Tables QueueFlow.Transactions

def ticketOf : Response → Option Ticket
  | .ticket read => some read.ticket
  | .called read => read.map TicketRead.ticket
  | _ => none

/-! ## Replays -/

section
variable {ι : Type} [DecidableEq ι] {hexdigest : PyDict → String} {env : Nat → Env} {α β : Type}
  {i : ι} {db : Database} {tick : Nat} {tenantId : UUID} {key : String} {record : IdempotencyKey}
  {ticket : Ticket}

def Replays (env : Nat → Env) (i : ι) (db : Database) (program : Handler Response) (tick : Nat)
    (ticket : Ticket) : Prop :=
  ∃ response, ticketOf response = some ticket ∧
    Answers engine env i db program tick (.returned response)

def Refuses (env : Nat → Env) (i : ι) (db : Database) (program : Handler α) (tick : Nat) : Prop :=
  ∃ error, Answers engine env i db program tick (.raised error)

theorem replays_query {q : Query} {next : q.Res → Handler Response} (fault : q.fault = none)
    (rest : Replays env i db (next (q.eval db (env tick).order)) (tick + 1) ticket) :
    Replays env i db ((query q).bind next) tick ticket :=
  rest.imp fun _ answers => ⟨answers.1, answers_query fault answers.2⟩

theorem refuses_query {q : Query} {next : q.Res → Handler α} (fault : q.fault = none)
    (rest : Refuses env i db (next (q.eval db (env tick).order)) (tick + 1)) :
    Refuses env i db ((query q).bind next) tick :=
  rest.imp fun _ answers => answers_query fault answers

theorem refuses_raise (failure : Failure) :
    Refuses env i db (.raise failure : Handler α) tick := ⟨failure, answers_raise failure⟩

structure Stored (env : Nat → Env) (db : Database) (tenantId : UUID) (key : String) (tick : Nat)
    (record : IdempotencyKey) (ticket : Ticket) : Prop where
  found : db.findIdempotencyKey tenantId key (env tick).now = some record
  resource : record.resourceId = some ticket.id
  ticket : db.tickets.get? ticket.id = some ticket

theorem answers_lookup {next : Option IdempotencyKey → Handler α}
    {session : Session Stmt Stmt.Res Failure Message Env α}
    (stored : Stored env db tenantId key tick record ticket)
    (rest : Answers engine env i db (next (some record)) (tick + 2) session) :
    Answers engine env i db ((getIdempotencyKey tenantId key).bind next) tick session := by
  simp only [getIdempotencyKey, Program.bind_eq, Program.bind_assoc]
  refine answers_observe (answers_query rfl ?_)
  simpa only [Query.eval, stored.found] using rest

theorem answers_createdBefore {next : Option Ticket → Handler α}
    {session : Session Stmt Stmt.Res Failure Message Env α}
    (stored : Stored env db tenantId key tick record ticket)
    (rest : Answers engine env i db (next (some ticket)) (tick + 3) session) :
    Answers engine env i db ((createdBefore tenantId key).bind next) tick session := by
  simp only [createdBefore, Program.bind_eq, Program.bind_assoc]
  refine answers_lookup stored ?_
  simp only [stored.resource]
  refine answers_query rfl ?_
  simpa only [Query.eval, stored.ticket] using rest

theorem answers_changedBefore {ticketId : UUID} {next : Option Ticket → Handler α}
    {session : Session Stmt Stmt.Res Failure Message Env α}
    (stored : Stored env db tenantId key tick record ticket)
    (same : record.requestHash = hashBody hexdigest (ticketBody ticketId))
    (rest : Answers engine env i db (next (some ticket)) (tick + 3) session) :
    Answers engine env i db ((changedBefore hexdigest tenantId key ticketId).bind next) tick
      session := by
  simp only [changedBefore, Program.bind_eq, Program.bind_assoc]
  refine answers_lookup stored ?_
  simp only [same, ne_eq, not_true_eq_false, if_false, stored.resource]
  refine answers_query rfl ?_
  simpa only [Query.eval, stored.ticket] using rest

theorem refuses_changedBefore {ticketId : UUID} {next : Option Ticket → Handler α}
    (stored : Stored env db tenantId key tick record ticket)
    (differs : record.requestHash ≠ hashBody hexdigest (ticketBody ticketId)) :
    Refuses env i db ((changedBefore hexdigest tenantId key ticketId).bind next) tick := by
  simp only [changedBefore, Program.bind_eq, Program.bind_assoc]
  refine ⟨.http 409 "Idempotency key reused with different request", answers_lookup stored ?_⟩
  simp only [ne_eq, differs, not_false_eq_true, if_true, Program.raise_bind]
  exact answers_raise _

theorem replays_calledBefore {body : CallNextBody}
    {next : Option (Ticket × Option Service) → Handler Response}
    (stored : Stored env db tenantId key tick record ticket)
    (same : record.requestHash = hashBody hexdigest body.body)
    (rest : ∀ service tick, Replays env i db (next (some (ticket, service))) tick ticket) :
    Replays env i db ((calledBefore hexdigest tenantId key body).bind next) tick ticket := by
  simp only [calledBefore, ticketWithService, Program.bind_eq, Program.pure_eq,
    Program.bind_assoc]
  cases named : ticket.serviceId with
  | none =>
      obtain ⟨response, shows, answers⟩ := rest none (tick + 3)
      refine ⟨response, shows, answers_lookup stored ?_⟩
      simp only [stored.resource, same, if_true, Program.bind_assoc]
      refine answers_query rfl ?_
      simpa only [Query.eval, stored.ticket, named, Program.ret_bind] using answers
  | some serviceId =>
      obtain ⟨response, shows, answers⟩ := rest (db.services.get? serviceId) (tick + 4)
      refine ⟨response, shows, answers_lookup stored ?_⟩
      simp only [stored.resource, same, if_true, Program.bind_assoc]
      refine answers_query rfl ?_
      simp only [Query.eval, stored.ticket, named, Program.bind_assoc]
      exact answers_query rfl answers

theorem refuses_calledBefore {body : CallNextBody}
    {next : Option (Ticket × Option Service) → Handler α}
    (stored : Stored env db tenantId key tick record ticket)
    (differs : record.requestHash ≠ hashBody hexdigest body.body) :
    Refuses env i db ((calledBefore hexdigest tenantId key body).bind next) tick := by
  simp only [calledBefore, Program.bind_eq, Program.bind_assoc]
  refine ⟨.http 409 "Idempotency key reused with different request body",
    answers_lookup stored ?_⟩
  simp only [stored.resource, differs, if_false, Program.raise_bind]
  exact answers_raise _

/-! ## Requests -/

def keyTenant (db : Database) : Request → Option UUID
  | .createTicket _ actor _ | .callNext _ _ actor _ | .startService _ actor _
  | .completeTicket _ actor _ => actor.tenantId.parse
  | .kioskCreateTicket body _ => (db.locations.get? body.locationId).map Location.tenantId
  | _ => none

def lookupDelay : Request → Nat
  | .kioskCreateTicket _ _ => 1
  | .callNext _ _ _ _ => 2
  | _ => 0

def turnedAway (db : Database) : Request → Prop
  | .createTicket _ actor _ | .startService _ actor _ | .completeTicket _ actor _ =>
      actor.hasRole writeRoles = false
  | .callNext counterId _ actor _ => actor.hasRole writeRoles = false ∨
      ¬ ∃ counter ∈ db.counters.get? counterId,
        ∃ location ∈ db.locations.get? counter.locationId,
          actor.tenantId.isText location.tenantId = true
  | _ => False

def comparesBody : Request → Prop
  | .callNext _ _ _ _ | .startService _ _ _ | .completeTicket _ _ _ => True
  | _ => False

theorem refuses_bind {program : Handler α} {next : α → Handler β} {failure : Failure}
    (raises : program = .raise failure) : Refuses env i db (program.bind next) tick := by
  subst raises
  exact ⟨failure, answers_raise failure⟩

theorem replays_createTicket {data : TicketCreate} {actor : TokenPayload}
    {idempotencyKey : Option String} (keyed : given idempotencyKey = some key)
    (tenant : actor.tenantId.parse = some tenantId) (role : actor.hasRole writeRoles = true)
    (stored : Stored env db tenantId key tick record ticket) :
    Replays env i db (program hexdigest (.createTicket data actor idempotencyKey)) tick ticket := by
  simp only [program, createTicket, Program.map_eq, Program.bind_eq, Program.bind_assoc,
    requireRole_ret role, Program.ret_bind, keyed, parse_ret tenant]
  exact ⟨_, rfl, answers_createdBefore stored (answers_ret _)⟩

theorem replays_kiosk {body : KioskTicketCreate} {idempotencyKey : Option String}
    {location : Location} (keyed : given idempotencyKey = some key)
    (found : db.locations.get? body.locationId = some location)
    (stored : Stored env db location.tenantId key (tick + 1) record ticket) :
    Replays env i db (program hexdigest (.kioskCreateTicket body idempotencyKey)) tick ticket := by
  simp only [program, kioskCreateTicket, Program.map_eq, Program.bind_eq, Program.bind_assoc]
  refine ⟨readTicket ticket, rfl, answers_query rfl ?_⟩
  simp only [Query.eval, found, keyed, Program.bind_assoc]
  exact answers_createdBefore stored (answers_ret _)

theorem keyedChange_lookup {ticketId : UUID} {actor : TokenPayload}
    {idempotencyKey : Option String} {target : TicketStatus} {episode : Ticket → Handler Unit}
    (keyed : given idempotencyKey = some key) (tenant : actor.tenantId.parse = some tenantId)
    (stored : Stored env db tenantId key tick record ticket) :
    Refuses env i db
        (readTicket <$> keyedChange hexdigest ticketId actor idempotencyKey target episode) tick ∧
      (actor.hasRole writeRoles = false ∨
        record.requestHash ≠ hashBody hexdigest (ticketBody ticketId)) ∨
    Replays env i db
        (readTicket <$> keyedChange hexdigest ticketId actor idempotencyKey target episode) tick
        ticket ∧
      ¬ (actor.hasRole writeRoles = false ∨
        record.requestHash ≠ hashBody hexdigest (ticketBody ticketId)) := by
  simp only [keyedChange, Program.map_eq, Program.bind_eq, Program.bind_assoc]
  cases role : actor.hasRole writeRoles with
  | false =>
      obtain ⟨failure, raises⟩ := requireRole_raise role
      exact .inl ⟨refuses_bind raises, .inl rfl⟩
  | true =>
      simp only [requireRole_ret role, Program.ret_bind, keyed, parse_ret tenant,
        Program.bind_assoc]
      by_cases same : record.requestHash = hashBody hexdigest (ticketBody ticketId)
      · exact .inr ⟨⟨_, rfl, answers_changedBefore stored same (answers_ret _)⟩, by simp [same]⟩
      · exact .inl ⟨refuses_changedBefore stored same, .inr same⟩

theorem callNext_lookup {counterId : UUID} {body : CallNextBody} {actor : TokenPayload}
    {idempotencyKey : Option String} (keyed : given idempotencyKey = some key)
    (tenant : actor.tenantId.parse = some tenantId)
    (stored : Stored env db tenantId key (tick + 2) record ticket) :
    Refuses env i db (program hexdigest (.callNext counterId body actor idempotencyKey)) tick ∧
      (turnedAway db (.callNext counterId body actor idempotencyKey) ∨
        record.requestHash ≠ hashBody hexdigest body.body) ∨
    Replays env i db (program hexdigest (.callNext counterId body actor idempotencyKey)) tick
        ticket ∧
      ¬ (turnedAway db (.callNext counterId body actor idempotencyKey) ∨
        record.requestHash ≠ hashBody hexdigest body.body) := by
  simp only [program, callNext, turnedAway, Program.map_eq, Program.bind_eq, Program.bind_assoc]
  cases role : actor.hasRole writeRoles with
  | false => exact .inl ⟨refuses_bind (requireStaff_raise role), .inl (.inl rfl)⟩
  | true =>
      simp only [requireStaff_ret role, Program.ret_bind]
      cases desk : db.counters.get? counterId with
      | none =>
          refine .inl ⟨refuses_query rfl ?_, by simp⟩
          simp only [Query.eval, desk, Program.raise_bind]
          exact refuses_raise _
      | some counter =>
          cases place : db.locations.get? counter.locationId with
          | none =>
              refine .inl ⟨refuses_query rfl ?_, by simp [place]⟩
              simp only [Query.eval, desk, Program.bind_assoc]
              refine refuses_query rfl ?_
              simp only [Query.eval, place, Program.raise_bind]
              exact refuses_raise _
          | some location =>
              cases mine : actor.tenantId.isText location.tenantId with
              | false =>
                  refine .inl ⟨refuses_query rfl ?_, by simp [place, mine]⟩
                  simp only [Query.eval, desk, Program.bind_assoc]
                  refine refuses_query rfl ?_
                  simp only [Query.eval, place, Program.bind_assoc]
                  exact refuses_bind (checkTenant_raise mine)
              | true =>
                  by_cases same : record.requestHash = hashBody hexdigest body.body
                  · refine .inr ⟨replays_query rfl ?_, by simp [place, mine, same]⟩
                    simp only [Query.eval, desk, Program.bind_assoc]
                    refine replays_query rfl ?_
                    simp only [Query.eval, place, checkTenant_ret mine, Program.ret_bind,
                      Program.bind_assoc, parse_ret tenant, keyed]
                    exact replays_calledBefore stored same fun service tick =>
                      ⟨_, rfl, answers_ret _⟩
                  · refine .inl ⟨refuses_query rfl ?_, .inr same⟩
                    simp only [Query.eval, desk, Program.bind_assoc]
                    refine refuses_query rfl ?_
                    simp only [Query.eval, place, checkTenant_ret mine, Program.ret_bind,
                      Program.bind_assoc, parse_ret tenant, keyed]
                    exact refuses_calledBefore stored same

/-- With a record under its key, a request is refused exactly in these cases. -/
theorem lookup_decides (i : ι) {request : Request} (keyed : request.key = some key)
    (tenant : keyTenant db request = some tenantId)
    (stored : Stored env db tenantId key (tick + lookupDelay request) record ticket) :
    Refuses env i db (program hexdigest request) tick ∧ (turnedAway db request ∨
        (comparesBody request ∧ record.requestHash ≠ hashBody hexdigest request.body)) ∨
    Replays env i db (program hexdigest request) tick ticket ∧ ¬ (turnedAway db request ∨
        (comparesBody request ∧ record.requestHash ≠ hashBody hexdigest request.body)) := by
  cases request with
  | createTicket data actor idempotencyKey =>
      cases role : actor.hasRole writeRoles with
      | false =>
          refine .inl ⟨?_, .inl role⟩
          obtain ⟨failure, raises⟩ := requireRole_raise role
          simp only [program, createTicket, Program.map_eq, Program.bind_eq, Program.bind_assoc]
          exact refuses_bind raises
      | true =>
          exact .inr ⟨replays_createTicket keyed tenant role stored,
            by simp [turnedAway, comparesBody, role]⟩
  | kioskCreateTicket body idempotencyKey =>
      obtain ⟨location, found, rfl⟩ := Option.map_eq_some_iff.mp tenant
      exact .inr ⟨replays_kiosk keyed found stored, by simp [turnedAway, comparesBody]⟩
  | callNext counterId body actor idempotencyKey =>
      simpa only [comparesBody, true_and, Request.body] using callNext_lookup keyed tenant stored
  | startService ticketId actor idempotencyKey =>
      simp only [comparesBody, true_and, Request.body, turnedAway]
      exact keyedChange_lookup keyed tenant stored
  | completeTicket ticketId actor idempotencyKey =>
      simp only [comparesBody, true_and, Request.body, turnedAway]
      exact keyedChange_lookup keyed tenant stored
  | _ => cases keyed

end

/-! ## Conflicts -/

/-- What a keyed request asks for: its operation, path parameter and body. -/
inductive Deed where
  | createTicket (data : TicketCreate)
  | kioskCreateTicket (body : KioskTicketCreate)
  | callNext (counterId : UUID) (body : CallNextBody)
  | startService (ticketId : UUID)
  | completeTicket (ticketId : UUID)

def deed : Request → Option Deed
  | .createTicket data _ _ => some (.createTicket data)
  | .kioskCreateTicket body _ => some (.kioskCreateTicket body)
  | .callNext counterId body _ _ => some (.callNext counterId body)
  | .startService ticketId _ _ => some (.startService ticketId)
  | .completeTicket ticketId _ _ => some (.completeTicket ticketId)
  | _ => none

variable {ι : Type} [DecidableEq ι] {hexdigest : PyDict → String} {env : Nat → Env}
  {requests : ι → Request} {db : Database} {w : AppWorld ι} {r s : ι} {record : IdempotencyKey}

/-- The key of request `r` is taken by the unexpired record of a different request `s`. -/
structure Conflict (env : Nat → Env) (requests : ι → Request) (w : AppWorld ι) (r s : ι)
    (record : IdempotencyKey) : Prop where
  stored : ∃ n writes, CommitAt w.state.log n s writes ∧ .insert (.idempotencyKey record) ∈ writes
  present : w.state.store.idempotencyKeys.get? (record.tenantId, record.key) = some record
  key : (requests r).key = some record.key
  tenant : keyTenant w.state.store (requests r) = some record.tenantId
  unexpired : (env (w.state.tick + lookupDelay (requests r))).now < record.expiresAt
  differs : deed (requests s) ≠ deed (requests r)

def Refused (env : Nat → Env) (w : AppWorld ι) (r : ι) : Prop :=
  (∃ error, (w.serve engine env r).session r = .raised error) ∧
    (w.serve engine env r).state.store = w.state.store

theorem stored_of_committed (reach : Reachable engine env (initial hexdigest requests db) w)
    {n : Nat} {writes : List Write} (commit : CommitAt w.state.log n s writes)
    (member : .insert (.idempotencyKey record) ∈ writes)
    (present : w.state.store.idempotencyKeys.get? (record.tenantId, record.key) = some record)
    {tick : Nat} (unexpired : (env tick).now < record.expiresAt) :
    ∃ ticket, Stored env w.state.store record.tenantId record.key tick record ticket ∧
      record.requestHash = hashBody hexdigest (requests s).body := by
  have saves := commits_key (commits_at reach commit) member
  obtain ⟨first, row, write, commits, written, value, resource⟩ := saves.resource
  have earlier : (.committed first : Act) ∈ pastOf s (w.state.log.take n) :=
    mem_commitsOf.mp (commits ▸ List.mem_singleton_self first)
  obtain ⟨m, _, logged⟩ := mem_take.mp (mem_pastOf.mp earlier)
  have put : write ∈ committedWrites w.state.log :=
    mem_committedWrites.mpr ⟨s, first, List.mem_of_getElem? logged, written⟩
  have either : .insert (.ticket row) ∈ committedWrites w.state.log ∨
      .update (.ticket row) ∈ committedWrites w.state.log := by
    cases write with
    | insert other => cases value; exact .inl put
    | update other => cases value; exact .inr put
    | dropKey tenantId key => cases value
  obtain ⟨ticket, there⟩ := get?_of_written db either
  have same : ticket.id = row.id := Table.key_of_get? there
  have here : w.state.store.tickets.get? ticket.id = some ticket := by
    rw [(reaches_provenance reach).replay, same]
    exact there
  refine ⟨ticket, ⟨?_, by rw [resource, same], here⟩, saves.hash⟩
  rw [Database.findIdempotencyKey, present, Option.filter_some]
  simp [unexpired]

/-- In a sequential run a conflict is refused exactly when the request is turned away before its
lookup, or compares the hash of its body and that differs. -/
theorem conflict_refused_iff {order : List ι} (fresh : r ∉ order)
    (sequential : w = (initial hexdigest requests db).serveAll engine env order)
    (conflict : Conflict env requests w r s record) :
    Refused env w r ↔ turnedAway w.state.store (requests r) ∨ (comparesBody (requests r) ∧
      hashBody hexdigest (requests s).body ≠ hashBody hexdigest (requests r).body) := by
  have reach : Reachable engine env (initial hexdigest requests db) w :=
    sequential ▸ serveAll_reaches.reachable
  have between : Between _ w := sequential ▸
    (between_start db (initial hexdigest requests db).session).serveAll order
  obtain ⟨running, closed⟩ : w.session r = .running (program hexdigest (requests r)) ∧
      w.state.tx r = .closed := by
    obtain ⟨session, tx⟩ := serveAll_other (E := engine) (w := initial hexdigest requests db) fresh
    rw [sequential]
    exact ⟨session, tx⟩
  obtain ⟨n, writes, commit, member⟩ := conflict.stored
  obtain ⟨ticket, stored, hash⟩ :=
    stored_of_committed reach commit member conflict.present conflict.unexpired
  rw [← hash, Refused]
  rcases lookup_decides r conflict.key conflict.tenant stored with
    ⟨⟨error, refuses⟩, holds⟩ | ⟨⟨response, _, replays⟩, fails⟩
  · obtain ⟨_, _, ended, kept, _⟩ := serve_of_ends running between.quiet closed refuses
    exact iff_of_true ⟨⟨error, ended⟩, kept⟩ holds
  · obtain ⟨_, _, ended, _⟩ := serve_of_ends running between.quiet closed replays
    refine iff_of_false ?_ fails
    rintro ⟨⟨error, raised⟩, _⟩
    rw [ended] at raised
    cases raised

/-! ## One key for two deeds -/

def sameKey : Fin 3 → Request
  | 0 => .startService 2 clerk (some "k-1")
  | 1 => .completeTicket 2 clerk (some "k-1")
  | 2 => .completeTicket 3 clerk (some "k-1")

def startedWorld : AppWorld (Fin 3) :=
  (initial textDigest sameKey calledDesk).serveAll engine steadyEnv ((List.finRange 3).take 1)

def startRecord : IdempotencyKey where
  key := "k-1"
  tenantId := 1
  requestHash := hashBody textDigest (ticketBody 2)
  resourceId := some 2
  createdAt := hours 1
  expiresAt := hours 25

theorem startRecord_committed :
    CommitAt startedWorld.state.log 8 0 [.insert (.idempotencyKey startRecord)] :=
  commitAt_eq_some.mp (by decide +kernel)

theorem conflict_refused_otherTicket : Refused steadyEnv startedWorld 2 := by
  have conflict : Conflict steadyEnv sameKey startedWorld 2 0 startRecord :=
    ⟨⟨_, _, startRecord_committed, List.mem_singleton_self _⟩, by decide +kernel, rfl,
      by decide +kernel, by decide +kernel, by simp [deed, sameKey]⟩
  have fresh : (2 : Fin 3) ∉ [0] := by decide
  exact (conflict_refused_iff fresh rfl conflict).mpr (.inr ⟨trivial, by decide +kernel⟩)

/-- The second request completes nothing, and is answered as if it had. -/
theorem complete_answered_by_start :
    Conflict steadyEnv sameKey startedWorld 1 0 startRecord ∧
    ¬ Refused steadyEnv startedWorld 1 ∧
    ((startedWorld.serve engine steadyEnv 1).session 1).hasReturned = true ∧
    ((startedWorld.serve engine steadyEnv 1).state.store.tickets.get? 2).map Ticket.status =
      some .inService := by
  have returned : ((startedWorld.serve engine steadyEnv 1).session 1).hasReturned = true := by
    decide +kernel
  refine ⟨⟨⟨_, _, startRecord_committed, List.mem_singleton_self _⟩, by decide +kernel, rfl,
    by decide +kernel, by decide +kernel, by simp [deed, sameKey]⟩, ?_, returned,
    by decide +kernel⟩
  rintro ⟨⟨error, raised⟩, _⟩
  rw [raised] at returned
  cases returned

end QueueFlow.Concurrency
