import QueueFlow.Concurrency.Setting
import QueueFlow.Transactions.Alone
import QueueFlow.Transactions.Ends

/-!
# One request after the other

What a request that is served alone has read is the store in which it began, until its first commit.
-/

namespace QueueFlow.Concurrency
open QueueFlow.App QueueFlow.Data QueueFlow.Tables QueueFlow.Transactions

variable {ι : Type} [DecidableEq ι] {hexdigest : PyDict → String} {env : Nat → Env}
  {requests : ι → Request} {db : Database} {i : ι}

def alone (hexdigest : PyDict → String) (env : Nat → Env) (requests : ι → Request) (db : Database)
    (i : ι) : AppWorld ι :=
  (initial hexdigest requests db).serve engine env i

theorem alone_reaches : Reaches engine env (fun _ j => j = i) (initial hexdigest requests db)
    (alone hexdigest env requests db i) := serve_reaches

theorem alone_reachable : Reachable engine env (initial hexdigest requests db)
    (alone hexdigest env requests db i) := alone_reaches.reachable

theorem alone_owner : ∀ entry ∈ (alone hexdigest env requests db i).state.log, entry.owner = i :=
  owner_eq alone_reaches

theorem answers_query {α : Type} {tick : Nat} {q : Query} {next : q.Res → Handler α}
    {session : Session Stmt Stmt.Res Failure Message Env α} (fault : q.fault = none)
    (rest : Answers engine env i db (next (q.eval db (env tick).order)) (tick + 1) session) :
    Answers engine env i db ((query q).bind next) tick session := by
  refine answers_read (fun context view now => ?_) rest
  simp [engine, Stmt.exec, fault, view, now]

theorem reaches_versioned {w : AppWorld ι}
    (reach : Reachable engine env (initial hexdigest requests db) w) :
    Serial engine Database.row (Versioned env) db w.state := by
  refine reach.serial engine_rowed fun w i stmt next value writes locks before _ running exec => ?_
  obtain ⟨tick, began⟩ := before.began_env i
  have follows := (reaches_conduct before).2 i
  rw [running] at follows
  have allowed := (follows _ _ _ _ exec).1
  refine checked_tickets exec (fun old write other => ?_) ?_ ?_ ?_
  · cases write with
    | insert row =>
        cases row with
        | ticket row => exact (other row.id rfl).elim
        | _ => trivial
    | update row =>
        cases row with
        | ticket row => exact (other row.id rfl).elim
        | _ => trivial
    | dropKey tenantId key => trivial
  · rintro new rfl
    exact ⟨allowed.2, new, _, tick, by rw [began]⟩
  · rintro id locationId serviceId counterId row _ _ _ waits
    exact ⟨row, tick, rfl, .inl ⟨waits.2.1, counterId, by rw [began]⟩⟩
  · rintro id set row rfl _ valid
    exact ⟨row, tick, rfl, .inr ⟨set, allowed.2, allowed.1.1, valid, by rw [began]⟩⟩

theorem dropKey_cleanup {w : AppWorld ι}
    (reach : Reachable engine env (initial hexdigest requests db) w) {n : Nat}
    {writes : List Write} (commit : CommitAt w.state.log n i writes) {tenantId : UUID}
    {key : String} (member : .dropKey tenantId key ∈ writes) :
    requests i = .cleanupIdempotencyKeys := by
  obtain ⟨q, stmt, value, performed, _, located, made⟩ :=
    (reaches_provenance reach).performed_of_committed commit member
  obtain ⟨context, locks, ran, _⟩ := (reaches_provenance reach).answered located
  have allowed := (reaches_conduct reach).1 q _ located
  generalize same : Write.dropKey tenantId key = write at made
  cases makes_of_exec ran.exec made with
  | deleteExpiredKey row => exact allowed
  | insertRecord new => cases new <;> cases same
  | _ => cases same

/-- A request over `db` that commits `writes` on top of `store`, after what it has done in `past`.
-/
structure Serving (hexdigest : PyDict → String) (env : Nat → Env) (request : Request)
    (db : Database) (past : List Act) (store : Database) (writes : List Write) : Prop where
  commits : request.commits hexdigest env past writes
  pending : writes = pendingOf past
  sound : Checked engine Database.row Sound store writes
  versioned : Checked engine Database.row (Versioned env) store writes
  dropped : ∀ tenantId key, .dropKey tenantId key ∈ writes → request = .cleanupIdempotencyKeys
  first : commitsOf past = [] → store = db
  ran : commitsOf past = [] → ∀ earlier (stmt : Stmt) value performed later,
    past = earlier ++ .performed stmt value performed :: later → ∃ context locks,
      context.view = engine.applyAll db (pendingOf earlier) ∧
        stmt.exec context = .done value performed locks

theorem alone_serving {n : Nat} {writes : List Write}
    (commit : CommitAt (alone hexdigest env requests db i).state.log n i writes) :
    Serving hexdigest env (requests i) db
      (pastOf i ((alone hexdigest env requests db i).state.log.take n))
      (storeAt engine db ((alone hexdigest env requests db i).state.log.take n)) writes := by
  have uncommitted {m : Nat} (upTo : m ≤ n)
      (first : commitsOf (pastOf i ((alone hexdigest env requests db i).state.log.take n)) = []) :
      storeAt engine db ((alone hexdigest env requests db i).state.log.take m) = db := by
    refine storeAt_uncommitted (i := i) (fun entry member => ?_) fun writes member => ?_
    · exact alone_owner entry (List.take_subset _ _ member)
    · have earlier : (.committed writes : Act) ∈
          pastOf i ((alone hexdigest env requests db i).state.log.take n) := by
        obtain ⟨k, before, located⟩ := mem_take.mp (mem_pastOf.mp member)
        exact mem_pastOf.mpr (mem_take.mpr ⟨k, by omega, located⟩)
      rw [← mem_commitsOf, first] at earlier
      cases earlier
  constructor
  · exact commits_at alone_reachable commit
  · exact (reaches_provenance alone_reachable).committed_eq commit
  · exact (reaches_serial alone_reachable).checked_commit commit
  · exact (reaches_versioned alone_reachable).checked_commit commit
  · exact fun tenantId key member => dropKey_cleanup alone_reachable commit member
  · exact uncommitted le_rfl
  · intro first earlier stmt value performed later split
    obtain ⟨p, located, before, _⟩ := split_pastOf split
    have inside : p < n := by
      by_contra outside
      simp [outside] at located
    rw [List.getElem?_take_of_lt inside] at located
    rw [List.take_take, Nat.min_eq_left (Nat.le_of_lt inside)] at before
    obtain ⟨context, locks, ran, _⟩ := (reaches_provenance alone_reachable).answered located
    refine ⟨context, locks, ?_, ran.exec⟩
    rw [ran.view, viewAt, before, uncommitted (Nat.le_of_lt inside) first]

/-- What the code and the foreign keys check before a ticket gets the status `target`. -/
def Passes (db : Database) (ticketId : UUID) (actor : TokenPayload) (target : TicketStatus) :
    Prop :=
  actor.hasRole writeRoles = true ∧ (∃ userId ∈ actor.sub.parse, db.hasUser userId = true) ∧
    ∃ ticket ∈ db.tickets.get? ticketId,
      actor.tenantId.isText ticket.tenantId = true ∧ target ∈ validTransitions ticket.status

instance (db : Database) (ticketId : UUID) (actor : TokenPayload) (target : TicketStatus) :
    Decidable (Passes db ticketId actor target) :=
  inferInstanceAs (Decidable (_ ∧ (∃ userId ∈ actor.sub.parse, _) ∧
    ∃ ticket ∈ db.tickets.get? ticketId, _))

def transferred (db : Database) : Request → Option UUID
  | .transferTicket ticketId data actor =>
      if Passes db ticketId actor .transferred ∧ db.hasService data.targetServiceId = true ∧
        data.targetLocationId.all db.hasLocation = true then some ticketId else none
  | _ => none

namespace Serving

variable {request : Request} {past : List Act} {store : Database} {writes : List Write}

/-- What the request saw is so in the store. -/
theorem saw (serving : Serving hexdigest env request db past store writes)
    (first : commitsOf past = []) {q : Query} {answer : q.Res} (saw : Saw past q answer) :
    ∃ order, answer = q.eval store order := by
  obtain ⟨earlier, later, split, unwritten⟩ := saw
  obtain ⟨context, locks, view, exec⟩ := serving.ran first _ _ _ _ _ split
  refine ⟨context.env.order, ?_⟩
  rw [(exec_read exec).1, view, unwritten, serving.first first]
  rfl

theorem saw_ticket (serving : Serving hexdigest env request db past store writes)
    (first : commitsOf past = []) {id : UUID} {ticket : Option Ticket}
    (saw : Saw past (.ticket id) ticket) : store.tickets.get? id = ticket := by
  obtain ⟨order, answered⟩ := serving.saw first saw
  exact answered.symm

/-- What has been executed was executed on the store, with some of the writes on top. -/
theorem executed (serving : Serving hexdigest env request db past store writes)
    (first : commitsOf past = []) {stmt : Stmt} {value : stmt.Res} {performed : List Write}
    (member : (.performed stmt value performed : Act) ∈ past) : ∃ context locks earlier,
      context.view = engine.applyAll store earlier ∧ earlier <+: writes ∧
        stmt.exec context = .done value performed locks := by
  obtain ⟨earlier, later, split⟩ := List.append_of_mem member
  obtain ⟨context, locks, view, exec⟩ := serving.ran first _ _ _ _ _ split
  refine ⟨context, locks, pendingOf earlier, serving.first first ▸ view, ?_, exec⟩
  rw [split] at first
  rw [serving.pending, split]
  exact pendingOf_of_open first

theorem view_of_unlocked {context : Context Database Lock Env} {earlier : List Write} {lock : Lock}
    (view : context.view = engine.applyAll store earlier) (sub : earlier ⊆ writes)
    (unlocked : ∀ write ∈ writes, write.lock ≠ lock) : context.view.row lock = store.row lock := by
  rw [view]
  exact row_applyAll_of_unlocked engine_rowed store fun write member => unlocked write (sub member)

theorem unlocked_of_plain {lock : Lock} (plain : ∀ write ∈ writes, write.lock.isRecord = false)
    (isRecord : lock.isRecord = true) : ∀ write ∈ writes, write.lock ≠ lock := by
  rintro write member rfl
  simp [plain write member] at isRecord

theorem plain_of_change {target : TicketStatus}
    (change : request.commitsChange past target writes) :
    ∀ write ∈ writes, write.lock.isRecord = false := by
  obtain ⟨row, event, episode, rfl, _, _, _, episodic, _⟩ := change
  intro write member
  rcases List.mem_cons.mp member with rfl | member
  · rfl
  rcases List.mem_cons.mp member with rfl | member
  · rfl
  obtain ⟨interaction, written, _⟩ := episodic write member
  cases write <;> cases written <;> rfl

theorem plain_of_transfer (transfer : request.commitsTransfer past writes) :
    ∀ write ∈ writes, write.lock.isRecord = false := by
  obtain ⟨row, event, requeued, requeueEvent, rfl, _⟩ := transfer
  simp [Write.lock, Row.lock, Lock.isRecord]

theorem logged_user (serving : Serving hexdigest env request db past store writes)
    (first : commitsOf past = []) {event : TicketEvent} {userId : UUID}
    (logged : .insert (.event event) ∈ writes) (signed : event.actorUserId = some userId)
    (plain : ∀ write ∈ writes, write.lock.isRecord = false) : store.hasUser userId = true := by
  obtain ⟨stmt, value, performed, member, made⟩ := mem_pendingOf (serving.pending ▸ logged)
  obtain ⟨context, locks, earlier, view, before, exec⟩ := serving.executed first member
  obtain ⟨new, rfl, same⟩ := event_exec exec made
  obtain ⟨ran, _⟩ := exec_write exec
  obtain ⟨_, checks⟩ := run_insertEvent ran
  have user : new.actorUserId = some userId := signed ▸ congrArg TicketEvent.actorUserId same.symm
  simp only [NewEvent.checks, user, List.forall_mem_cons, Option.all_some] at checks
  obtain ⟨_, _, known, _⟩ := checks
  rwa [hasUser_eq,
    view_of_unlocked view before.subset (unlocked_of_plain plain rfl), ← hasUser_eq] at known

theorem passes (serving : Serving hexdigest env request db past store writes)
    (first : commitsOf past = []) {target : TicketStatus} {event : TicketEvent}
    {actor : TokenPayload} (acts : request.actor = some actor)
    (transitions : request.transitions past target event)
    (logged : .insert (.event event) ∈ writes)
    (plain : ∀ write ∈ writes, write.lock.isRecord = false) :
    Passes store event.ticketId actor target := by
  obtain ⟨ticket, saw, ⟨owner, owns, passed⟩, _, valid, ⟨_, clerk, changes, role⟩,
    signer, signs, userId, parsed, signed⟩ := transitions
  obtain rfl : actor = owner := Option.some.inj (acts.symm.trans owns)
  obtain rfl : actor = clerk := Option.some.inj (acts.symm.trans changes)
  obtain rfl : actor = signer := Option.some.inj (acts.symm.trans signs)
  exact ⟨role, ⟨userId, parsed, serving.logged_user first logged signed plain⟩, ticket,
    serving.saw_ticket first saw, passed, valid⟩

theorem passes_change (serving : Serving hexdigest env request db past store writes)
    {target : TicketStatus} {actor : TokenPayload} {row : Ticket}
    (acts : request.actor = some actor) (change : request.commitsChange past target writes)
    (updated : .update (.ticket row) ∈ writes) :
    request.ticketId = some row.id ∧ Passes store row.id actor target := by
  have plain := plain_of_change change
  obtain ⟨changed, event, episode, rfl, first, transitions, changes, episodic, _⟩ := change
  have same : row = changed := by
    simp only [List.mem_cons, Write.update.injEq, Row.ticket.injEq, reduceCtorEq,
      false_or] at updated
    rcases updated with same | inside
    · exact same
    · obtain ⟨interaction, impossible, _⟩ := episodic _ inside
      cases impossible
  subst same
  have passes := serving.passes first acts transitions (by simp) plain
  obtain ⟨_, _, _, _, _, ⟨named, _⟩, _⟩ := transitions
  rw [changes.ticketId] at passes named
  exact ⟨named, passes⟩

theorem transfers {ticketId : UUID} {data : TicketTransfer} {actor : TokenPayload}
    (serving : Serving hexdigest env (.transferTicket ticketId data actor) db past store writes)
    {row : Ticket} (updated : .update (.ticket row) ∈ writes) :
    transferred store (.transferTicket ticketId data actor) = some row.id := by
  have plain := plain_of_transfer serving.commits
  obtain ⟨changed, event, requeued, requeueEvent, rfl, first, transitions, changes, _, requeues⟩ :=
    serving.commits
  have same : row.id = changed.id := by
    have either : row = changed ∨ row = requeued := by simpa using updated
    rcases either with rfl | rfl
    · rfl
    · exact requeues.id
  have passes := serving.passes first rfl transitions (by simp) plain
  obtain ⟨_, _, _, _, _, ⟨named, _⟩, _⟩ := transitions
  rw [changes.ticketId, ← same] at passes named
  obtain rfl : ticketId = row.id := Option.some.inj named
  obtain ⟨set, sent, service, location⟩ := requeues.sent
  obtain ⟨context, locks, earlier, view, before, exec⟩ := serving.executed first sent
  obtain ⟨ran, _⟩ := exec_write exec
  obtain ⟨old, _, ok, _⟩ := run_updateTicket ran
  obtain ⟨_, _, hasService, hasLocation, _⟩ := updatedTicket_eq_ok ok
  have known {lock : Lock} (isRecord : lock.isRecord = true) :
      context.view.row lock = store.row lock :=
    view_of_unlocked view before.subset (unlocked_of_plain plain isRecord)
  have serviceId : requeued.serviceId = some data.targetServiceId := by
    simpa [Ticket.ref, Request.refs] using requeues.service
  have target (id : UUID) (given : data.targetLocationId = some id) : requeued.locationId = id := by
    simpa [Ticket.ref, Request.refs, given] using requeues.location
  refine if_pos ⟨passes, ?_, ?_⟩
  · rw [hasService_eq, ← known rfl, ← hasService_eq]
    exact hasService _ (service.trans serviceId)
  · rw [Option.all_eq_true]
    intro id given
    rw [hasLocation_eq, ← known rfl, ← hasLocation_eq]
    exact hasLocation _ (location.trans (congrArg some (target id given)))

end Serving

theorem alone_keeps_at {Inv : Database → Prop} (base : Inv db)
    (step : ∀ n writes, CommitAt (alone hexdigest env requests db i).state.log n i writes →
      Inv (storeAt engine db ((alone hexdigest env requests db i).state.log.take n)) →
        Inv (engine.applyAll
          (storeAt engine db ((alone hexdigest env requests db i).state.log.take n)) writes)) :
    Inv (alone hexdigest env requests db i).state.store := by
  rw [(reaches_provenance alone_reachable).replay]
  suffices all : ∀ n, Inv (storeAt engine db
      ((alone hexdigest env requests db i).state.log.take n)) by
    simpa using all (alone hexdigest env requests db i).state.log.length
  intro n
  induction n with
  | zero => exact base
  | succ n ih =>
      cases located : (alone hexdigest env requests db i).state.log[n]? with
      | none =>
          have past : (alone hexdigest env requests db i).state.log.length ≤ n :=
            List.getElem?_eq_none_iff.mp located
          rwa [List.take_of_length_le (Nat.le_succ_of_le past),
            ← List.take_of_length_le past]
      | some entry =>
          obtain ⟨owner, action⟩ := entry
          obtain rfl : owner = i := alone_owner _ (List.mem_of_getElem? located)
          cases action with
          | committed writes =>
              rw [storeAt_commit located]
              exact step n writes located ih
          | _ =>
              obtain ⟨inside, found⟩ := List.getElem?_eq_some_iff.mp located
              rw [List.take_succ_eq_append_getElem inside, storeAt_append, found]
              simpa using ih

theorem alone_keeps {Inv : Database → Prop} (base : Inv db)
    (step : ∀ past store writes, Serving hexdigest env (requests i) db past store writes →
      Inv store → Inv (engine.applyAll store writes)) :
    Inv (alone hexdigest env requests db i).state.store :=
  alone_keeps_at base fun _ _ commit => step _ _ _ (alone_serving commit)

variable (env) in
/-- A request that is served has ended before, or does what it does alone, with the clock moved. -/
theorem serve_of_between {w : AppWorld ι}
    (between : Between (fun i => .running (program hexdigest (requests i))) w) (i : ι) :
    w.serve engine env i = w ∨ ((w.serve engine env i).session i =
        (alone hexdigest (fun later => env (w.state.tick + later)) requests w.state.store
          i).session i ∧
      State.Continues i w.state (w.serve engine env i).state
        (alone hexdigest (fun later => env (w.state.tick + later)) requests w.state.store i).state) := by
  rcases between.serve_cases engine env i with idle | ⟨current, running, fresh, closed⟩
  · exact .inl idle
  · exact .inr (serve_continues between.quiet running closed fresh fun _ _ => rfl)

theorem serve_keeps {w : AppWorld ι} {Inv : Database → Prop}
    (between : Between (fun i => .running (program hexdigest (requests i))) w)
    (base : Inv w.state.store)
    (step : ∀ env past store writes,
      Serving hexdigest env (requests i) w.state.store past store writes →
        Inv store → Inv (engine.applyAll store writes)) :
    Inv (w.serve engine env i).state.store := by
  rcases serve_of_between env between i with idle | ⟨_, continues⟩
  · rwa [idle]
  · rw [continues.store]
    exact alone_keeps base (step _)

theorem serveAll_steps {Inv : Database → Prop} (base : Inv db)
    (step : ∀ env request db past store writes,
      Serving hexdigest env request db past store writes → Inv store →
        Inv (engine.applyAll store writes)) (order : List ι) :
    Inv ((initial hexdigest requests db).serveAll engine env order).state.store := by
  induction order using List.reverseRecOn with
  | nil => exact base
  | append_singleton order i ih =>
      rw [serveAll_append]
      have between : Between _ ((initial hexdigest requests db).serveAll engine env order) :=
        (between_start db (initial hexdigest requests db).session).serveAll order
      exact serve_keeps between ih fun env past store writes serving =>
        step env _ _ past store writes serving

theorem alone_congr {env' : Nat → Env}
    (agree : ∀ tick < (alone hexdigest env requests db i).state.tick, env tick = env' tick) :
    (alone hexdigest env requests db i).state.store =
        (alone hexdigest env' requests db i).state.store ∧
      (alone hexdigest env requests db i).state.log =
        (alone hexdigest env' requests db i).state.log := by
  have running : (initial hexdigest requests db).session i =
      .running (program hexdigest (requests i)) := rfl
  have continues : State.Continues i (initial hexdigest requests db).state
      (alone hexdigest env requests db i).state (alone hexdigest env' requests db i).state := by
    refine (serve_continues (fun _ => rfl) running rfl running fun tick before => ?_).2
    rw [show (initial hexdigest requests db).state.tick = 0 from rfl, Nat.zero_add] at before ⊢
    exact agree tick before
  exact ⟨continues.store, continues.log⟩

theorem alone_store_congr {env' : Nat → Env}
    (agree : ∀ tick < (alone hexdigest env requests db i).state.tick, env tick = env' tick) :
    (alone hexdigest env requests db i).state.store =
      (alone hexdigest env' requests db i).state.store := (alone_congr agree).1

theorem serve_alone (hexdigest : PyDict → String) (env : Nat → Env) (requests : ι → Request)
    (db : Database) (order : List ι) (i : ι) :
    let w := (initial hexdigest requests db).serveAll engine env order
    w.serve engine env i = w ∨ ((w.serve engine env i).session i =
        (alone hexdigest (fun later => env (w.state.tick + later)) requests w.state.store i).session i ∧
      State.Continues i w.state (w.serve engine env i).state
        (alone hexdigest (fun later => env (w.state.tick + later)) requests w.state.store i).state) := by
  exact serve_of_between env ((between_start db _).serveAll order) i

/-- In a sequential run each request is served alone, with the clock where the last one left it. -/
theorem sequential_keeps (Inv : Database → Nat → Prop) (ok : Database → Nat → Request → Prop)
    {order : List ι} (base : Inv db 0)
    (serves : (initial hexdigest requests db).Serves engine env
      (fun w i => ok w.state.store w.state.tick (requests i)) order)
    (step : ∀ i store tick, Inv store tick → ok store tick (requests i) →
      Inv (alone hexdigest (fun later => env (tick + later)) requests store i).state.store
        (tick + (alone hexdigest (fun later => env (tick + later)) requests store i).state.tick)) :
    Inv ((initial hexdigest requests db).serveAll engine env order).state.store
      ((initial hexdigest requests db).serveAll engine env order).state.tick := by
  refine serveAll_keeps (fun w => Inv w.state.store w.state.tick)
    (between_start db fun i => .running (program hexdigest (requests i))) base serves ?_
  intro w i program between inv meets running fresh closed
  have fresh : (initial hexdigest requests db).session i = .running program := fresh
  obtain ⟨_, continues⟩ := serve_continues between.quiet running closed fresh fun _ _ => rfl
  rw [continues.store, continues.tick]
  exact step i _ _ inv meets

end QueueFlow.Concurrency
