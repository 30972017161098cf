import QueueFlow.Concurrency.KeyCommits
import QueueFlow.Tenancy.References

/-!
# Stable replays

Until it expires, the record of a keyed request stays as it is, and so does all that decides about a
replay: the ticket, and the places that the request names.
-/

namespace QueueFlow.Concurrency
open QueueFlow.App QueueFlow.Data QueueFlow.Tables QueueFlow.Transactions QueueFlow.Tenancy

variable {ι : Type} [DecidableEq ι] {hexdigest : PyDict → String} {env : Nat → Env}
  {requests : ι → Request} {request : Request} {db : Database} {writes : List Write}
  {w : AppWorld ι} {i j : ι} {ticket : Ticket} {record : IdempotencyKey} {tick : Nat}

/-! ## Admission -/

theorem keyTenant_kept {tenantId : UUID} (sound : Checked engine Database.row Sound db writes)
    (tenant : keyTenant db request = some tenantId) :
    keyTenant (engine.applyAll db writes) request = some tenantId := by
  cases request with
  | kioskCreateTicket body key =>
      obtain ⟨location, found, rfl⟩ := Option.map_eq_some_iff.mp tenant
      have owned := owner_applyAll sound (owner_location found)
      obtain ⟨other, located, same⟩ := owner_location_iff.mp owned
      exact Option.map_eq_some_iff.mpr ⟨other, located, same⟩
  | _ => exact tenant

theorem admitted_kept (sound : Checked engine Database.row Sound db writes)
    (admitted : ¬ turnedAway db request) : ¬ turnedAway (engine.applyAll db writes) request := by
  cases request with
  | callNext counterId body actor key =>
      simp only [turnedAway, not_or, not_not] at admitted ⊢
      obtain ⟨role, counter, found, location, placed, mine⟩ := admitted
      have owned : db.tenantOf (.counter counterId) = some location.tenantId :=
        tenantOf_counter_iff.mpr ⟨counter, found, location, placed, rfl⟩
      obtain ⟨desk, there, place, around, same⟩ :=
        tenantOf_counter_iff.mp (tenantOf_applyAll sound owned)
      exact ⟨role, desk, there, place, around, same ▸ mine⟩
  | _ => exact admitted

/-! ## The record -/

structure Replayable (request : Request) (record : IdempotencyKey) (ticket : Ticket)
    (db : Database) : Prop where
  admitted : ¬ turnedAway db request
  tenant : keyTenant db request = some record.tenantId
  present : db.row (.idempotencyKey record.tenantId record.key) = some (.idempotencyKey record)
  ticket : ∃ row, db.tickets.get? ticket.id = some row ∧ row.number = ticket.number

theorem Replayable.applyAll (replayable : Replayable request record ticket db)
    (sound : Checked engine Database.row Sound db writes)
    (undropped : .dropKey record.tenantId record.key ∉ writes) :
    Replayable request record ticket (engine.applyAll db writes) where
  admitted := admitted_kept sound replayable.admitted
  tenant := keyTenant_kept sound replayable.tenant
  present := by
    refine checked_preserves engine_rowed
      (K := fun old => old = some (.idempotencyKey record)) sound
      ?_ replayable.present
    rintro write member locked _ rfl sound
    cases write with
    | insert row => cases sound
    | update row =>
        cases row with
        | idempotencyKey row => exact sound.elim
        | _ => cases locked
    | dropKey tenantId key =>
        cases locked
        exact (undropped member).elim
  ticket := by
    obtain ⟨row, found, same⟩ := replayable.ticket
    obtain ⟨new, located, kept⟩ := column_kept (fun _ _ becomes => becomes.number) sound found
    exact ⟨new, located, kept.trans same⟩

theorem ends_cleanup (i : ι) (db : Database) (tick : Nat) :
    Ends engine env i (fun session after _ => session =
        .returned (.counted (db.expiredKeys (env tick).now).length) ∧
        after = engine.applyAll db ((db.expiredKeys (env tick).now).map
          fun row => .dropKey row.tenantId row.key))
      (program hexdigest .cleanupIdempotencyKeys) db [] tick := by
  simp only [program, cleanupIdempotencyKeys, Program.map_eq, Program.bind_eq, Program.pure_eq,
    Program.bind_assoc]
  refine ends_observe (ends_command (fun id now error ran => ?_) fun id now value new ran => ?_)
  · cases ran
  · cases ran
    exact ends_commit (ends_ret ⟨rfl, rfl⟩)

theorem Replayable.serve (replayable : Replayable request record ticket w.state.store)
    (between : Between (fun i => .running (program hexdigest (requests i))) w)
    (unexpired : (env w.state.tick).now < record.expiresAt) :
    Replayable request record ticket (w.serve engine env i).state.store := by
  by_cases cleans : requests i = .cleanupIdempotencyKeys
  · rcases between.serve_cases engine env i with idle | ⟨current, running, fresh, closed⟩
    · rwa [idle]
    cases fresh
    rw [cleans] at running
    obtain ⟨_, _, _, after⟩ := serve_of_ends running between.quiet closed (ends_cleanup i _ _)
    rw [after]
    refine replayable.applyAll (checked_all (fun write member old => ?_) _) fun dropped => ?_
    · obtain ⟨row, _, rfl⟩ := List.mem_map.mp member
      trivial
    · obtain ⟨row, expired, same⟩ := List.mem_map.mp dropped
      obtain ⟨stored, expired⟩ := List.mem_filter.mp expired
      obtain ⟨other, found, kept⟩ := Option.map_eq_some_iff.mp replayable.present
      cases kept
      have located : w.state.store.idempotencyKeys.get? (row.tenantId, row.key) = some row :=
        Table.get?_of_mem stored
      injection same with tenant key
      rw [tenant, key, found] at located
      cases located
      exact Nat.lt_asymm unexpired (by simpa using expired)
  · refine serve_keeps between replayable fun env past store writes serving kept => ?_
    exact kept.applyAll serving.sound fun member => cleans (serving.dropped _ _ member)

theorem Replayable.serveAll {order : List ι}
    (replayable : Replayable request record ticket w.state.store)
    (between : Between (fun i => .running (program hexdigest (requests i))) w)
    (unexpired : ∀ tick, w.state.tick ≤ tick → tick ≤ (w.serveAll engine env order).state.tick →
      (env tick).now < record.expiresAt) :
    Replayable request record ticket (w.serveAll engine env order).state.store := by
  have serves : w.Serves engine env (fun v _ => w.state.tick ≤ v.state.tick ∧
      v.state.tick ≤ (w.serveAll engine env order).state.tick) order :=
    serves_between between le_rfl le_rfl
  refine serveAll_keeps (fun w => Replayable request record ticket w.state.store) between replayable
    serves fun w i program between kept ticks _ _ _ => ?_
  exact kept.serve between (unexpired _ ticks.1 ticks.2)

/-! ## The request and its replay -/

/-- The request, served next, returns the ticket and stores the record. -/
structure Executed (env : Nat → Env) (w : AppWorld ι) (i : ι) (ticket : Ticket)
    (record : IdempotencyKey) : Prop where
  returned : ∃ response, (w.serve engine env i).session i = .returned response ∧
    ticketOf response = some ticket
  absent : w.state.store.idempotencyKeys.get? (record.tenantId, record.key) = none
  stored : (w.serve engine env i).state.store.idempotencyKeys.get?
    (record.tenantId, record.key) = some record

/-- The request, served next, returns the same ticket, changes no table and publishes nothing. -/
structure Replayed (env : Nat → Env) (w : AppWorld ι) (i : ι) (ticket : Ticket) : Prop where
  returned : ∃ response again, (w.serve engine env i).session i = .returned response ∧
    ticketOf response = some again ∧ again.id = ticket.id ∧ again.number = ticket.number
  unchanged : (w.serve engine env i).state.store = w.state.store
  silent : messages (w.serve engine env i).state.log = messages w.state.log

theorem Executed.saved {key : String} (executed : Executed env w i ticket record)
    (between : Between (fun i => .running (program hexdigest (requests i))) w)
    (keyed : (requests i).key = some key) :
    record.key = key ∧ record.requestHash = hashBody hexdigest (requests i).body ∧
      record.resourceId = some ticket.id ∧
      Replayable (requests i) record ticket (w.serve engine env i).state.store := by
  obtain ⟨⟨response, returned, shows⟩, absent, stored⟩ := executed
  have admitted (before : ¬ turnedAway w.state.store (requests i)) :
      ¬ turnedAway (w.serve engine env i).state.store (requests i) :=
    serve_keeps between before fun _ _ _ _ serving => admitted_kept serving.sound
  have tenant {tenantId : UUID} (before : keyTenant w.state.store (requests i) = some tenantId) :
      keyTenant (w.serve engine env i).state.store (requests i) = some tenantId := by
    have step (env : Nat → Env) (past : List Act) (store : Database) (writes : List Write)
        (serving : Serving hexdigest env (requests i) w.state.store past store writes)
        (kept : keyTenant store (requests i) = some tenantId) :
        keyTenant (engine.applyAll store writes) (requests i) = some tenantId :=
      keyTenant_kept serving.sound kept
    refine serve_keeps between ?_ step
    exact before
  rcases serve_keyed env between keyed with unchanged | ends
  · rw [unchanged, absent] at stored
    cases stored
  rw [returned] at ends
  generalize (w.serve engine env i).state.store = after at ends stored admitted tenant ⊢
  cases ends with
  | idle =>
      rw [absent] at stored
      cases stored
  | @saved effect shown new _ effects accepted answers =>
      obtain rfl : shown = ticket := Option.some.inj (answers.symm.trans shows)
      have same : new.row = record := by
        have present := congrArg (Option.map Row.idempotencyKey) stored
        change (engine.applyAll _ _).row (.idempotencyKey record.tenantId record.key) = _ at present
        rw [Engine.applyAll_append, Engine.applyAll_cons, Engine.applyAll_nil,
          engine_rowed.apply] at present
        split at present
        · cases present
          rfl
        · have kept := row_applyAll_of_unlocked engine_rowed w.state.store
            fun write member => effects.unkeyed write member record.tenantId record.key
          rw [kept] at present
          simp [Database.row, absent] at present
      subst same
      refine ⟨Option.some.inj (effects.key.symm.trans keyed), effects.hash, effects.resource,
        admitted effects.admitted, tenant effects.tenant,
        congrArg (Option.map Row.idempotencyKey) stored, shown, ?_, rfl⟩
      rw [Engine.applyAll_append, get?_of_unlocked _ (by simp [Write.lock, Row.lock])]
      exact effects.found

theorem Replayable.replayed (replayable : Replayable (requests j) record ticket w.state.store)
    (quiet : w.state.Quiet) (fresh : w.session j = .running (program hexdigest (requests j)))
    (closed : w.state.tx j = .closed) (named : (requests j).key = some record.key)
    (hash : record.requestHash = hashBody hexdigest (requests j).body)
    (resource : record.resourceId = some ticket.id)
    (unexpired : (env (w.state.tick + lookupDelay (requests j))).now < record.expiresAt) :
    Replayed env w j ticket := by
  obtain ⟨again, found, number⟩ := replayable.ticket
  have id : again.id = ticket.id := Table.key_of_get? found
  have stored : Stored env w.state.store record.tenantId record.key
      (w.state.tick + lookupDelay (requests j)) record again := by
    obtain ⟨other, located, same⟩ := Option.map_eq_some_iff.mp replayable.present
    cases same
    refine ⟨?_, id ▸ resource, id ▸ found⟩
    rw [Database.findIdempotencyKey, located, Option.filter_some]
    simp [unexpired]
  rcases lookup_decides j named replayable.tenant stored with
    ⟨_, turned | ⟨_, differs⟩⟩ | ⟨⟨response, shows, replays⟩, _⟩
  · exact (replayable.admitted turned).elim
  · exact (differs hash).elim
  · obtain ⟨sent, logged, returned, unchanged, rfl⟩ := serve_of_ends fresh quiet closed replays
    exact ⟨⟨response, again, returned, shows, id, number⟩, unchanged, by simpa using logged⟩

/-- Whatever happens in between, the repetition of an executed request replays it until its record
expires. -/
theorem replay_stable {first between : List ι} (keyed : (requests i).key ≠ none)
    (same : requests j = requests i) (fresh : j ∉ first ++ i :: between)
    (executed : Executed env ((initial hexdigest requests db).serveAll engine env first) i ticket
      record)
    (unexpired : ∀ tick,
      ((initial hexdigest requests db).serveAll engine env (first ++ [i])).state.tick ≤ tick →
      tick ≤ ((initial hexdigest requests db).serveAll engine env
        (first ++ i :: between)).state.tick + lookupDelay (requests i) →
      (env tick).now < record.expiresAt) :
    Replayed env ((initial hexdigest requests db).serveAll engine env (first ++ i :: between)) j
      ticket := by
  obtain ⟨key, named⟩ := Option.ne_none_iff_exists'.mp keyed
  have before : Between (initial hexdigest requests db).session
      ((initial hexdigest requests db).serveAll engine env first) :=
    (between_start db _).serveAll first
  obtain ⟨waiting, closed⟩ :
      ((initial hexdigest requests db).serveAll engine env (first ++ i :: between)).session j =
          (initial hexdigest requests db).session j ∧
        ((initial hexdigest requests db).serveAll engine env (first ++ i :: between)).state.tx j =
          (initial hexdigest requests db).state.tx j := serveAll_other fresh
  obtain ⟨rfl, hash, resource, base⟩ := executed.saved before named
  simp only [serveAll_append] at unexpired waiting closed ⊢
  have served : Between (initial hexdigest requests db).session
      (((initial hexdigest requests db).serveAll engine env first).serve engine env i) :=
    before.serve i
  have after : Between (initial hexdigest requests db).session
      ((((initial hexdigest requests db).serveAll engine env first).serve engine env i).serveAll
        engine env between) := served.serveAll between
  have kept := base.serveAll served fun tick lower upper =>
    unexpired tick lower (Nat.le_add_right_of_le upper)
  have last := unexpired _ (Nat.le_add_right_of_le (serveAll_tick_le served)) le_rfl
  rw [← same] at named hash kept last
  exact kept.replayed after.quiet waiting closed named hash resource last

def calledTwice : Nat → Request
  | 0 => .createTicket (visit 10 (some 20)) clerk none
  | 2 => .startService 3 clerk none
  | 3 => .cleanupIdempotencyKeys
  | _ => .callNext 30 {} clerk (some "k-1")

def calledTwiceStart : AppWorld Nat := initial textDigest calledTwice crowdedOffice

def firstCalledTicket : Ticket :=
  { waitingTicket 3 2 1 with
    status := .called
    assignedCounterId := some 30
    calledAt := some (hours 1)
    updatedAt := hours 1 }

def callRecord : IdempotencyKey where
  key := "k-1"
  tenantId := 1
  requestHash := hashBody textDigest (Request.body (calledTwice 1))
  resourceId := some 3
  createdAt := hours 1
  expiresAt := hours 25

theorem callRecord_executed : Executed steadyEnv (calledTwiceStart.serveAll engine steadyEnv [0]) 1
    firstCalledTicket callRecord where
  returned := by
    have answered : ((((calledTwiceStart.serveAll engine steadyEnv [0]).serve engine steadyEnv
        1).session 1).answer?.bind ticketOf) = some firstCalledTicket := by decide +kernel
    obtain ⟨response, answered, shows⟩ := Option.bind_eq_some_iff.mp answered
    exact ⟨response, answer?_eq_some.mp answered, shows⟩
  absent := by decide +kernel
  stored := by decide +kernel

theorem replay_stable_calledTwice :
    Replayed steadyEnv (calledTwiceStart.serveAll engine steadyEnv ([0] ++ 1 :: [2, 3])) 4
      firstCalledTicket :=
  replay_stable (by decide) rfl (by decide) callRecord_executed
    fun _ _ _ => (by decide : hours 1 < hours 25)

end QueueFlow.Concurrency
