import QueueFlow.Concurrency.Errors
import QueueFlow.Concurrency.KeyCommits
import QueueFlow.Concurrency.QueueNumbers
import QueueFlow.Concurrency.StatusChain
import QueueFlow.Concurrency.Steps
import QueueFlow.Conduct.Publishing
import Mathlib.Data.Finset.Dedup

/-!
# Notices to the boards

An operation publishes one message, to the location where its ticket is in the end. That is the one
board whose contents it changes, unless it moves the ticket or its key cannot be stored. The task
that closes stuck tickets publishes nothing.
-/

namespace QueueFlow.Concurrency
open QueueFlow.App QueueFlow.Data QueueFlow.Tables QueueFlow.Transactions

/-! ## Boards -/

structure Board where
  waiting : Nat
  inService : Finset UUID
  called : Finset UUID
  deriving DecidableEq

def ticketsWith (db : Database) (locationId : UUID) (status : TicketStatus) : Finset UUID :=
  ((db.tickets.rows.filter fun ticket =>
    ticket.locationId = locationId ∧ ticket.status = status).map Ticket.id).toFinset

def board (db : Database) (locationId : UUID) : Board where
  waiting := db.waitingCount locationId
  inService := ticketsWith db locationId .inService
  called := ticketsWith db locationId .called

theorem nodup_rows (table : Table Ticket) : table.rows.Nodup := List.Nodup.of_map _ table.distinct

/-- Only the tickets at a location that have not been put aside are on its board. -/
theorem board_congr {db after : Database} {locationId : UUID}
    (same : ∀ ticket : Ticket, ticket.locationId = locationId →
      (ticket ∈ after.tickets.rows ↔ ticket ∈ db.tickets.rows)) :
    board after locationId = board db locationId := by
  have rows (status : TicketStatus) :
      (after.tickets.rows.filter fun ticket =>
        ticket.locationId = locationId ∧ ticket.status = status).Perm
      (db.tickets.rows.filter fun ticket =>
        ticket.locationId = locationId ∧ ticket.status = status) := by
    refine (List.perm_ext_iff_of_nodup ((nodup_rows _).filter _) ((nodup_rows _).filter _)).mpr
      fun ticket => ?_
    simp only [List.mem_filter, decide_eq_true_eq]
    exact and_congr_left fun shown => same ticket shown.1
  have tickets (status : TicketStatus) :
      ticketsWith after locationId status = ticketsWith db locationId status :=
    List.toFinset_eq_of_perm _ _ ((rows status).map _)
  rw [board, board, tickets, tickets, Database.waitingCount, Database.waitingCount,
    (rows .waiting).length_eq]

/-! ## What a request says -/

def Told (db : Database) (session : Session Stmt Stmt.Res Failure Message Env Response)
    (after : Database) (sent : List Message) : Prop :=
  session.hasRaised = false → ∃ writes, after = engine.applyAll db writes ∧
    ∀ row : Ticket, (.insert (.ticket row) ∈ writes ∨ .update (.ticket row) ∈ writes) →
      row.status ≠ .transferred → row.locationId ∈ sent

section
variable {ι : Type} [DecidableEq ι] {hexdigest : PyDict → String} {env : Nat → Env} {i : ι}
  {db : Database} {tick : Nat} {response : Response} {sent : List Message}

abbrev EndsTold (env : Nat → Env) (i : ι) (db : Database) (program : Handler Response)
    (store : Database) (tick : Nat) : Prop :=
  Ends engine env i (Told db) program store [] tick

theorem told_raised {after : Database} (error : Failure) : Told db (.raised error) after sent :=
  fun unraised => by cases unraised

theorem told_unchanged : Told db (.returned response) db sent :=
  fun _ => ⟨[], rfl, by simp⟩

theorem placed_of_written {row : Ticket} {write : Write} {rest : List Write}
    (written : write = .insert (.ticket row) ∨ write = .update (.ticket row))
    (plain : ∀ write ∈ rest, ∀ ticket, write.value ≠ some (.ticket ticket)) :
    ∀ ticket : Ticket, (.insert (.ticket ticket) ∈ write :: rest ∨
      .update (.ticket ticket) ∈ write :: rest) → ticket.status ≠ .transferred →
        ticket.locationId = row.locationId := by
  intro ticket either _
  have once {write' : Write} (made : write'.value = some (.ticket ticket))
      (member : write' ∈ write :: rest) : ticket = row := by
    rcases List.mem_cons.mp member with rfl | member
    · rcases written with rfl | rfl <;> cases made <;> rfl
    · exact (plain _ member ticket made).elim
  rcases either with member | member
  · rw [once rfl member]
  · rw [once rfl member]

variable (redis : ∀ tick, (env tick).redis = true)
include redis

theorem ends_announce {effect : List Write} {locationId : UUID}
    (placed : ∀ row : Ticket, (.insert (.ticket row) ∈ effect ∨ .update (.ticket row) ∈ effect) →
      row.status ≠ .transferred → row.locationId = locationId) :
    EndsTold env i db ((publishSignage locationId).bind fun _ => .ret response)
      (engine.applyAll db effect) tick := by
  simp only [publishSignage, Program.bind_eq, Program.pure_eq, Program.bind_assoc]
  refine ends_observe ?_
  simp only [redis, if_true, Program.ret_bind]
  refine ends_publish (ends_ret fun _ => ⟨effect, rfl, fun row written shown => ?_⟩)
  simp [placed row written shown]

theorem ends_saveKey {effect : List Write} {ticket : Ticket} {tenant : Handler UUID}
    {key : Option String} {body : PyDict} {locationId : UUID} (silent : Silent tenant)
    (placed : ∀ row : Ticket, (.insert (.ticket row) ∈ effect ∨ .update (.ticket row) ∈ effect) →
      row.status ≠ .transferred → row.locationId = locationId) :
    EndsTold env i db ((saveKey hexdigest tenant key body ticket).bind fun _ =>
      (publishSignage locationId).bind fun _ => .ret response)
        (engine.applyAll db effect) tick := by
  cases keyed : given key with
  | none =>
      simp only [saveKey, keyed, Program.pure_eq, Program.ret_bind]
      exact ends_announce redis placed
  | some key =>
      simp only [saveKey, keyed, saveIdempotencyKey, Program.bind_eq, Program.bind_assoc]
      refine ends_silent told_raised silent fun tenantId _ => ends_observe ?_
      refine ends_command (fun _ _ _ _ => told_raised _) fun id now value new ran => ?_
      rw [Engine.applyAll_nil] at ran
      obtain ⟨rfl, _⟩ := run_insertIdempotencyKey ran
      refine ends_commit ?_
      rw [List.nil_append, ← Engine.applyAll_append]
      refine ends_announce redis fun row written => placed row ?_
      simpa using written

theorem told_createNew {data : TicketCreate} {actor : TokenPayload} {key : Option String} :
    EndsTold env i db ((createNew hexdigest data actor key).bind fun ticket =>
      .ret (readTicket ticket)) db tick := by
  simp only [createNew, Program.bind_eq, Program.pure_eq, Program.bind_assoc, Program.ret_bind]
  refine ends_query rfl ?_
  refine ends_silent told_raised (silent_parse _) fun tenantId _ => ?_
  refine ends_storeTicket told_raised (silent_map (silent_parse _) _) fun row event tick _ => ?_
  exact ends_saveKey redis (silent_parse _) (placed_of_written (.inl rfl) (by simp [Write.value]))

theorem told_createTicket {data : TicketCreate} {actor : TokenPayload} {key : Option String} :
    EndsTold env i db (program hexdigest (.createTicket data actor key)) db tick := by
  simp only [program, createTicket, Program.map_eq, Program.bind_eq, Program.pure_eq,
    Program.bind_assoc]
  refine ends_silent told_raised (silent_requireRole _ _) fun _ _ => ?_
  cases given key with
  | none => exact told_createNew redis
  | some key =>
      simp only [Program.bind_assoc]
      refine ends_silent told_raised (silent_parse _) fun tenantId _ => ?_
      refine ends_createdBefore (fun ticket tick => ends_ret told_unchanged) fun misses tick => ?_
      exact told_createNew redis

theorem told_kioskCreateTicket {body : KioskTicketCreate} {key : Option String} :
    EndsTold env i db (program hexdigest (.kioskCreateTicket body key)) db tick := by
  have new (tenantId : UUID) (tick : Nat) : EndsTold env i db
      ((kioskCreateNew hexdigest body tenantId key).bind fun ticket => .ret (readTicket ticket)) db
      tick := by
    simp only [kioskCreateNew, Program.bind_eq, Program.pure_eq, Program.bind_assoc,
      Program.ret_bind]
    refine ends_query rfl ?_
    refine ends_storeTicket told_raised (silent_ret _) fun row event tick place => ?_
    rw [← show row.locationId = body.locationId from place]
    exact ends_saveKey redis (silent_ret _) (placed_of_written (.inl rfl) (by simp [Write.value]))
  simp only [program, kioskCreateTicket, Program.map_eq, Program.bind_eq, Program.pure_eq,
    Program.bind_assoc]
  refine ends_query rfl ?_
  rw [Query.eval, Engine.applyAll_nil]
  cases db.locations.get? body.locationId with
  | none => exact ends_raise (told_raised _)
  | some location =>
      cases given key with
      | none => exact new _ _
      | some key =>
          simp only [Program.bind_assoc]
          refine ends_createdBefore (fun ticket tick => ends_ret told_unchanged)
            fun misses tick => ?_
          exact new _ _

theorem told_simpleChange {ticketId : UUID} {actor : TokenPayload} {target : TicketStatus} :
    EndsTold env i db (readTicket <$> simpleChange ticketId actor target) db tick := by
  simp only [simpleChange, Program.map_eq, Program.bind_eq, Program.pure_eq, Program.bind_assoc,
    Program.ret_bind]
  refine ends_silent told_raised (silent_requireRole _ _) fun _ _ => ?_
  refine ends_changeStatus told_raised fun row event tick _ => ends_commit ?_
  exact ends_announce redis (placed_of_written (.inr rfl) (by simp [Write.value]))

theorem told_keyedChange {ticketId : UUID} {actor : TokenPayload} {key : Option String}
    {target : TicketStatus} {episode : Ticket → Handler Unit}
    (episodic : EndsEpisode env i episode) :
    EndsTold env i db (readTicket <$> keyedChange hexdigest ticketId actor key target episode) db
      tick := by
  have new (tick : Nat) : EndsTold env i db
      ((keyedChangeNew hexdigest ticketId actor key target episode).bind fun ticket =>
        .ret (readTicket ticket)) db tick := by
    simp only [keyedChangeNew, Program.bind_eq, Program.pure_eq, Program.bind_assoc,
      Program.ret_bind]
    refine ends_changeStatus told_raised fun row event tick _ => ?_
    refine episodic _ _ _ _ _ _ told_raised fun writes tick written => ends_commit ?_
    have plain : ∀ write ∈ Write.insert (.event event) :: writes, ∀ ticket,
        write.value ≠ some (.ticket ticket) := by
      refine List.forall_mem_cons.mpr ⟨by simp [Write.value], fun write member ticket made => ?_⟩
      obtain ⟨interaction, value⟩ := written write member
      cases value.symm.trans made
    have found : (engine.applyAll db ([.update (.ticket row), .insert (.event event)] ++
        writes)).tickets.get? row.id = some row := by
      refine get?_of_written_once db (.inr rfl) fun write member locked => ?_
      obtain ⟨ticket, _, rfl | rfl⟩ := ticket_of_lock locked <;> exact plain _ member ticket rfl
    refine ends_refresh found fun tick => ?_
    exact ends_saveKey redis (silent_parse _) (placed_of_written (.inr rfl) plain)
  simp only [keyedChange, Program.map_eq, Program.bind_eq, Program.pure_eq, Program.bind_assoc]
  refine ends_silent told_raised (silent_requireRole _ _) fun _ _ => ?_
  cases given key with
  | none => exact new _
  | some key =>
      simp only [Program.bind_assoc]
      refine ends_silent told_raised (silent_parse _) fun tenantId _ => ?_
      refine ends_changedBefore told_raised (fun ticket tick => ends_ret told_unchanged)
        fun misses tick => ?_
      exact new _

theorem told_transferTicket {ticketId : UUID} {data : TicketTransfer} {actor : TokenPayload} :
    EndsTold env i db (program hexdigest (.transferTicket ticketId data actor)) db tick := by
  simp only [program, transferTicket, Program.map_eq, Program.bind_eq, Program.pure_eq,
    Program.bind_assoc, Program.ret_bind]
  refine ends_silent told_raised (silent_requireRole _ _) fun _ _ => ?_
  refine ends_changeStatus told_raised fun row event tick leaves => ?_
  refine ends_updateTicket told_raised fun requeued _ => ?_
  refine ends_silent told_raised (silent_parse _) fun userId _ => ends_observe ?_
  refine ends_insertEvent told_raised fun requeueEvent => ends_commit ?_
  refine ends_announce redis fun ticket written shown => ?_
  have either : ticket = row ∨ ticket = requeued := by simpa using written
  rcases either with rfl | rfl
  · exact (shown leaves).elim
  · rfl

theorem told_callNext {counterId : UUID} {body : CallNextBody} {actor : TokenPayload}
    {key : Option String} :
    EndsTold env i db (program hexdigest (.callNext counterId body actor key)) db tick := by
  have new (locationId tenantId : UUID) (tick : Nat) : EndsTold env i db
      ((callNextNew hexdigest locationId counterId tenantId body actor key).bind fun read =>
        .ret (.called read)) db tick := by
    simp only [callNextNew, callNextTicket, callNextCte, Program.bind_eq, Program.pure_eq,
      Program.bind_assoc]
    refine ends_silent told_raised (silent_parse _) fun userId _ => ends_query rfl ?_
    refine ends_firstCalled told_raised (fun tick => ?_) fun row tick => ?_
    · exact ends_commit (ends_ret told_unchanged)
    · simp only [Program.bind_assoc]
      refine ends_insertEvent told_raised fun event => ?_
      have found : (engine.applyAll db [.update (.ticket row),
          .insert (.event event)]).tickets.get? row.id = some row :=
        get?_of_written_once db (.inr rfl) (by simp [Write.lock, Row.lock])
      refine ends_ticketWithService (fun missing => ?_) fun ticket there service tick => ?_
      · exact absurd (found.symm.trans missing) (by simp)
      · obtain rfl : row = ticket := Option.some.inj (found.symm.trans there)
        refine ends_commit ?_
        simp only [Program.bind_assoc, Program.ret_bind]
        exact ends_saveKey redis (silent_ret _)
          (placed_of_written (.inr rfl) (by simp [Write.value]))
  simp only [program, callNext, Program.map_eq, Program.bind_eq, Program.pure_eq,
    Program.bind_assoc]
  refine ends_silent told_raised (silent_requireStaff _) fun _ _ => ends_query rfl ?_
  rw [Query.eval, Engine.applyAll_nil]
  cases db.counters.get? counterId with
  | none => exact ends_raise (told_raised _)
  | some counter =>
      simp only [Program.bind_assoc]
      refine ends_query rfl ?_
      rw [Query.eval, Engine.applyAll_nil]
      cases db.locations.get? counter.locationId with
      | none => exact ends_raise (told_raised _)
      | some location =>
          simp only [Program.bind_assoc]
          refine ends_silent told_raised (silent_checkTenant _ _) fun _ _ => ?_
          refine ends_silent told_raised (silent_parse _) fun tenantId _ => ?_
          cases given key with
          | none => exact new _ _ _
          | some key =>
              simp only [Program.bind_assoc]
              refine ends_calledBefore told_raised (fun found tick => ends_ret told_unchanged)
                fun misses tick => ?_
              exact new _ _ _

theorem program_told (hexdigest : PyDict → String) {request : Request}
    (announces : request.announces) : EndsTold env i db (program hexdigest request) db tick := by
  cases request with
  | createTicket data actor key => exact told_createTicket redis
  | kioskCreateTicket body key => exact told_kioskCreateTicket redis
  | callNext counterId body actor key => exact told_callNext redis
  | startService ticketId actor key => exact told_keyedChange redis endsEpisode_open
  | completeTicket ticketId actor key => exact told_keyedChange redis endsEpisode_close
  | holdTicket | cancelTicket | noShow => exact told_simpleChange redis
  | transferTicket ticketId data actor => exact told_transferTicket redis
  | _ => exact announces.elim

end

/-! ## Tickets that stay where they are -/

section
variable {ι : Type} [DecidableEq ι] {hexdigest : PyDict → String} {env : Nat → Env}
  {requests : ι → Request} {request : Request} {db store : Database} {past : List Act}
  {writes : List Write} {i : ι}

def StaysInPlace (db : Database) (request : Request) : Prop :=
  ∀ id ∈ transferred db request, ∀ ticket ∈ db.tickets.get? id,
    ∀ target ∈ Request.target request, target = ticket.locationId

instance (db : Database) (request : Request) : Decidable (StaysInPlace db request) :=
  inferInstanceAs (Decidable (∀ id ∈ transferred db request, ∀ ticket ∈ db.tickets.get? id,
    ∀ target ∈ Request.target request, _))

def KeepsPlace (db store : Database) : Prop :=
  ∀ old ∈ db.tickets.rows, ∃ new ∈ store.tickets.get? old.id, new.locationId = old.locationId

theorem keepsPlace_commit (serving : Serving hexdigest env request db past store writes)
    (stays : StaysInPlace db request) (keeps : KeepsPlace db store) :
    KeepsPlace db (engine.applyAll store writes) := by
  intro old member
  obtain ⟨row, found, place⟩ := keeps old member
  obtain ⟨new, located, same⟩ := column_kept (fun _ _ becomes => becomes.id) serving.sound found
  have key : row.id = old.id := Table.key_of_get? found
  refine ⟨new, located, Eq.trans ?_ place⟩
  have there : new ∈ (engine.applyAll store writes).tickets.rows := Table.mem_of_get? located
  by_cases transfers : ∃ ticketId data actor, request = .transferTicket ticketId data actor
  · obtain ⟨ticketId, data, actor, rfl⟩ := transfers
    obtain ⟨_, _, _, _, _, first, _⟩ := serving.commits
    obtain rfl := serving.first first
    obtain ⟨before, moved, moves, found', _, id, _, place', others⟩ := transfer_moves serving
    rcases others new there with rfl | ⟨kept, _⟩
    · obtain rfl : before = row := by
        rw [← id, same, key] at found'
        exact Option.some.inj (found'.symm.trans found)
      cases target : data.targetLocationId with
      | none => simpa [target] using place'
      | some locationId =>
          rw [target, Option.getD_some] at place'
          exact place'.trans (stays _ moves before (key ▸ found) locationId target)
    · have listed := Table.get?_of_mem kept
      rw [key_ticket, same, key, Option.mem_def.mp found] at listed
      rw [Option.some.inj listed]
  · have other (ticketId : UUID) (data : TicketTransfer) (actor : TokenPayload) :
        request ≠ .transferTicket ticketId data actor :=
      fun same => transfers ⟨ticketId, data, actor, same⟩
    rcases change_stays serving other there with inserted | ⟨before, kept, stays⟩
    · obtain ⟨_, _, _, rfl, _⟩ := commits_insert serving.commits inserted
      have absent : store.tickets.get? new.id = none := Option.map_eq_none_iff.mp serving.sound.1
      rw [same, key, Option.mem_def.mp found] at absent
      cases absent
    · have listed := Table.get?_of_mem kept
      rw [key_ticket, ← stays.id, same, key, Option.mem_def.mp found] at listed
      rw [Option.some.inj listed, stays.place]

theorem untransferred_commit (serving : Serving hexdigest env request db past store writes)
    (old : ∀ ticket ∈ store.tickets.rows, ticket.status = .transferred → ticket ∈ db.tickets.rows) :
    ∀ ticket ∈ (engine.applyAll store writes).tickets.rows, ticket.status = .transferred →
      ticket ∈ db.tickets.rows := by
  intro ticket member leaves
  have step := step_serving serving (Table.get?_of_mem member)
  generalize before : store.tickets.get? (key ticket) = row at step
  cases step with
  | kept => exact old _ (Table.mem_of_get? before) leaves
  | created new id tick waits => simp [NewTicket.row, waits] at leaves
  | called => simp [TicketUpdate.apply, callUpdate] at leaves
  | changed row set tick stamps target =>
      rw [show set.status = .transferred from leaves] at target
      simp at target
  | transferred row set requeue tick tick' serving stamps stamps' left waits =>
      cases waits.symm.trans leaves

/-! ## One request alone -/

structure Heard (env : Nat → Env) (db : Database) (tick : Nat) (request : Request) : Prop where
  stays : StaysInPlace db request
  idle : stuck db (env tick).now request = []
  stores : ∀ key ∈ request.key, Storable env db tick request key

instance (env : Nat → Env) (db : Database) (tick : Nat) (request : Request) :
    Decidable (Heard env db tick request) :=
  decidable_of_iff (StaysInPlace db request ∧ stuck db (env tick).now request = [] ∧
      ∀ key ∈ request.key, Storable env db tick request key)
    ⟨fun ⟨stays, idle, stores⟩ => ⟨stays, idle, stores⟩,
      fun heard => ⟨heard.stays, heard.idle, heard.stores⟩⟩

omit [DecidableEq ι] in
theorem alone_between : Between (fun i => .running (program hexdigest (requests i)))
    (initial hexdigest requests db) := between_start db _

theorem board_unannounced (quiet : ¬ (requests i).announces)
    (idle : stuck db (env 0).now (requests i) = []) (locationId : UUID) :
    board (alone hexdigest env requests db i).state.store locationId = board db locationId := by
  by_cases task : requests i = .autoNoShowCalledTickets
  · rw [task] at idle
    rw [alone_idle task idle]
  · have step (id : UUID) (past : List Act) (store : Database) (writes : List Write)
        (serving : Serving hexdigest env (requests i) db past store writes)
        (same : store.tickets.get? id = db.tickets.get? id) :
        (engine.applyAll store writes).tickets.get? id = db.tickets.get? id := by
      refine (get?_of_unlocked store fun write member locked => ?_).trans same
      obtain ⟨ticket, _, rfl | rfl⟩ := ticket_of_lock locked
      · obtain ⟨_, _, opens, _⟩ := commits_insert serving.commits member
        generalize requests i = request at quiet opens
        cases request with
        | createTicket | kioskCreateTicket => exact quiet trivial
        | _ => cases opens
      · have written := commits_update serving.commits member
        generalize requests i = request at quiet task written
        cases request with
        | autoNoShowCalledTickets => exact task rfl
        | callNext | startService | completeTicket | holdTicket | cancelTicket | noShow
          | transferTicket => exact quiet trivial
        | _ => exact written
    have same (id : UUID) : (alone hexdigest env requests db i).state.store.tickets.get? id =
        db.tickets.get? id := by
      refine alone_keeps ?_ (step id)
      rfl
    refine board_congr fun ticket _ => ⟨fun member => ?_, fun member => ?_⟩
    · exact Table.mem_of_get? ((same ticket.id).symm.trans (Table.get?_of_mem member))
    · exact Table.mem_of_get? ((same ticket.id).trans (Table.get?_of_mem member))

theorem alone_raised (announces : (requests i).announces)
    (stores : ∀ key ∈ (requests i).key, Storable env db 0 (requests i) key)
    (raised : ((alone hexdigest env requests db i).session i).hasRaised = true) :
    (alone hexdigest env requests db i).state.store = db := by
  obtain ⟨error, raised⟩ := hasRaised_iff.mp raised
  cases named : (requests i).key with
  | none =>
      have operational : ¬ (requests i).isAdmin := by
        generalize requests i = request at announces
        intro admin
        cases request <;> first | exact announces | exact admin
      have unseen := unseen_of_raised alone_reachable named operational raised
      have kept := leavesNoTrace_of_unseen alone_reachable unseen
      rw [(reaches_provenance alone_reachable).replay]
      exact storeAt_uncommitted alone_owner fun writes member => kept.commits writes
        (mem_pastOf.mp member)
  | some key =>
      rcases serve_keyed env alone_between named with unchanged | ends
      · exact unchanged
      · exact (ends.unharmed_iff named).mpr (.inl (stores key named)) error raised

/-- A board that changes is told. -/
theorem alone_told (redis : ∀ tick, (env tick).redis = true) (announces : (requests i).announces)
    (stays : StaysInPlace db (requests i))
    (unraised : ((alone hexdigest env requests db i).session i).hasRaised = false)
    {locationId : UUID}
    (untold : locationId ∉ messages (alone hexdigest env requests db i).state.log) :
    board (alone hexdigest env requests db i).state.store locationId = board db locationId := by
  have running : (initial hexdigest requests db).session i =
      .running (program hexdigest (requests i)) := rfl
  obtain ⟨sent, logged, told⟩ := serve_of_ends running (fun _ => rfl) rfl
    (program_told redis hexdigest announces)
  obtain ⟨writes, after, placed⟩ := told unraised
  have sent_ : messages (alone hexdigest env requests db i).state.log = sent := logged
  rw [sent_] at untold
  have keeps : KeepsPlace db (alone hexdigest env requests db i).state.store :=
    alone_keeps (fun old member => ⟨old, Table.get?_of_mem member, rfl⟩)
      fun past store writes serving keeps => keepsPlace_commit serving stays keeps
  have settled : ∀ ticket ∈ (alone hexdigest env requests db i).state.store.tickets.rows,
      ticket.status = .transferred → ticket ∈ db.tickets.rows :=
    alone_keeps (fun ticket member _ => member)
      fun past store writes serving => untransferred_commit serving
  have stayed {ticket : Ticket} (here : ticket.locationId = locationId)
      (member : ticket ∈ (alone hexdigest env requests db i).state.store.tickets.rows) :
      ticket ∈ db.tickets.rows := by
    have found := Table.get?_of_mem member
    rw [show (alone hexdigest env requests db i).state.store = engine.applyAll db writes from after,
      get?_applyAll] at found
    rcases List.mem_append.mp (List.mem_of_getLast? found) with old | written
    · exact Table.mem_of_get? (Option.mem_toList.mp old)
    · by_contra new
      have leaves : ticket.status ≠ .transferred := fun leaves => new (settled _ member leaves)
      exact untold (here ▸ placed ticket (mem_ticketVersions.mp written).2 leaves)
  refine board_congr fun ticket here => ⟨stayed here, fun member => ?_⟩
  obtain ⟨now, found, place⟩ := keeps ticket member
  have old : now ∈ db.tickets.rows := stayed (place.trans here) (Table.mem_of_get? found)
  have same : now = ticket := by
    have listed := Table.get?_of_mem old
    rw [key_ticket, show now.id = ticket.id from Table.key_of_get? found] at listed
    exact Option.some.inj (listed.symm.trans (Table.get?_of_mem member))
  exact same ▸ Table.mem_of_get? found

/-- The message comes after all commits. -/
theorem alone_last (announces : (requests i).announces) {n p : Nat} {writes : List Write}
    {locationId : UUID}
    (commit : CommitAt (alone hexdigest env requests db i).state.log n i writes)
    (published : (alone hexdigest env requests db i).state.log[p]? =
      some ⟨i, .published locationId⟩) : n < p := by
  have follows (j : ι) : ((initial hexdigest requests db).session j).Follows engine env
      (fun past action => (requests j).announces → CommitsUnannounced past action)
      (fun _ _ _ => True) [] [] := by
    by_cases announces : (requests j).announces
    · exact obeys_weaken (obeys_of_publishesLast (fun _ => List.not_mem_nil)
        (program_publishesLast hexdigest announces)) fun _ _ allowed _ => allowed
    · exact obeys_of_forall (fun _ _ told => (announces told).elim) _ _ _
  have reach : Reachable engine env (initial hexdigest requests db)
      (alone hexdigest env requests db i) := alone_reachable
  obtain ⟨justified, _⟩ := reach.obeys follows
  by_contra later
  have different : n ≠ p := by
    rintro rfl
    cases commit.symm.trans published
  have silent := justified n _ commit announces locationId
  exact silent (mem_pastOf.mpr (mem_take.mpr ⟨p, by omega, published⟩))

theorem alone_notifies (redis : ∀ tick, (env tick).redis = true)
    (heard : Heard env db 0 (requests i)) {locationId : UUID}
    (changed : board (alone hexdigest env requests db i).state.store locationId ≠
      board db locationId) :
    ∃ p, (alone hexdigest env requests db i).state.log[p]? = some ⟨i, .published locationId⟩ ∧
      ∀ n writes, CommitAt (alone hexdigest env requests db i).state.log n i writes → n < p := by
  by_cases announces : (requests i).announces
  · have unraised : ((alone hexdigest env requests db i).session i).hasRaised = false := by
      by_contra raised
      exact changed (by rw [alone_raised announces heard.stores (by simpa using raised)])
    have told : locationId ∈ messages (alone hexdigest env requests db i).state.log := by
      by_contra untold
      exact changed (alone_told redis announces heard.stays unraised untold)
    obtain ⟨⟨owner, action⟩, member, published⟩ := List.mem_filterMap.mp told
    obtain rfl : owner = i := alone_owner _ member
    obtain ⟨p, located⟩ := List.getElem?_of_mem member
    cases action with
    | published message =>
        cases published
        exact ⟨p, located, fun n writes commit => alone_last announces commit located⟩
    | _ => cases published
  · exact (changed (board_unannounced announces heard.idle locationId)).elim

/-! ## The runs -/

/-- If the request that is served next changes a board, then it has published to it when it ends,
after its last commit. -/
def Notifies (env : Nat → Env) (w : AppWorld ι) (i : ι) : Prop :=
  ∀ locationId,
    board (w.serve engine env i).state.store locationId ≠ board w.state.store locationId →
      ∃ p, w.state.log.length ≤ p ∧
        (w.serve engine env i).state.log[p]? = some ⟨i, .published locationId⟩ ∧
        ∀ n writes, CommitAt (w.serve engine env i).state.log n i writes → n < p

theorem boards_notified {order : List ι} (redis : ∀ tick, (env tick).redis = true)
    (heard : (initial hexdigest requests db).Serves engine env
      (fun w i => Heard env w.state.store w.state.tick (requests i)) order) :
    (initial hexdigest requests db).Serves engine env (Notifies env) order := by
  refine heard.weaken (between_start db _) fun w i between heard locationId changed => ?_
  rcases serve_of_between env between i with idle | ⟨_, continues⟩
  · exact (changed (by rw [idle])).elim
  have heard : Heard (fun later => env (w.state.tick + later)) w.state.store 0 (requests i) :=
    ⟨heard.stays, heard.idle, fun key named => by
      obtain ⟨fits, tenant, unexpired, names⟩ := heard.stores key named
      exact ⟨fits, tenant, by simpa using unexpired, names⟩⟩
  rw [continues.store] at changed
  obtain ⟨p, published, last⟩ := alone_notifies (fun _ => redis _) heard changed
  have logged := continues.log
  refine ⟨w.state.log.length + p, Nat.le_add_right _ _, ?_, fun n writes commit => ?_⟩
  · rw [logged, List.getElem?_append_right (Nat.le_add_right _ _), Nat.add_sub_cancel_left]
    exact published
  · rw [CommitAt, logged] at commit
    by_cases earlier : n < w.state.log.length
    · omega
    · rw [List.getElem?_append_right (by omega)] at commit
      have := last _ _ commit
      omega

end

def listeningEnv (tick : Nat) : Env := { steadyEnv tick with redis := true }

theorem boards_notified_moves :
    (initial textDigest (moves none) twoHalls).Serves engine listeningEnv
    (Notifies listeningEnv) [0, 1, 2, 3, 4] :=
  boards_notified (fun _ => rfl) (by decide +kernel)

def movedAway : AppWorld Nat :=
  (initial textDigest (moves (some 11)) twoHalls).serveAll engine listeningEnv [0, 1, 2, 3]

/-- The transfer to the annex changes the board of the hall, which hears nothing of it. -/
theorem transfer_unheard : ¬ Notifies listeningEnv movedAway 4 := by
  intro notifies
  obtain ⟨p, later, published, _⟩ := notifies 10 (by decide +kernel)
  have heard : messages ((movedAway.serve engine listeningEnv 4).state.log.drop
      movedAway.state.log.length) = [11] := by decide +kernel
  have told := mem_messages_drop published later
  rw [heard] at told
  simp at told

end QueueFlow.Concurrency
