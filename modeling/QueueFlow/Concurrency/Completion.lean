import QueueFlow.Concurrency.QueueNumbers
import QueueFlow.Concurrency.SentRuns
import QueueFlow.Concurrency.Steps
import QueueFlow.Concurrency.Success
import Mathlib.Data.Finset.Card
import Mathlib.Data.Finset.Lattice.Fold

/-!
# Tickets that can be completed

Staff can bring a ticket that is called or in service to its end. A ticket on hold stays there or is
canceled: no operation requeues it. A waiting ticket is never called, as the statements are sent;
with the parameters bound it can be completed, however long the queue before it is.
-/

namespace QueueFlow.Concurrency
open QueueFlow.App QueueFlow.Data QueueFlow.Tables QueueFlow.Transactions

/-! ## Fresh identifiers -/

section
variable {ι : Type} [DecidableEq ι] {hexdigest : PyDict → String} {env : Nat → Env}
  {requests : ι → Request} {db : Database} {i : ι} {w : AppWorld ι}

theorem insert_uuid {stmt : Stmt} {context : Context Database Lock Env} {value : stmt.Res}
    {writes : List Write} {locks : List Lock} {row : Row} {id : UUID}
    (exec : stmt.exec context = .done value writes locks) (member : .insert row ∈ writes)
    (locked : row.lock = .event id ∨ row.lock = .interaction id) : context.env.uuid = id := by
  generalize made : Write.insert row = write at member
  cases makes_of_exec exec member with
  | insertEvent new =>
      cases made
      simpa [NewEvent.row, Row.lock] using locked
  | insertInteraction interaction =>
      obtain ⟨rfl, _⟩ := run_insertInteraction (exec_write exec).1
      cases made
      cases List.mem_singleton.mp member
      simpa [Row.lock] using locked
  | insertRecord new =>
      cases made
      cases new <;> simp [NewRecord.row, Row.lock] at locked
  | insertTicket | insertIdempotencyKey =>
      cases made
      simp [Row.lock] at locked
  | _ => cases made

theorem alone_tick_pos : 0 < (alone hexdigest env requests db i).state.tick := by
  have running : (initial hexdigest requests db).session i =
      .running (program hexdigest (requests i)) := rfl
  rw [alone, serve_eq running]
  have quiet : (initial hexdigest requests db).state.Quiet := fun _ => rfl
  exact finish_tick (quiet.heldBy i) _

theorem row_fresh {lock : Lock} {id : UUID} (locked : lock = .event id ∨ lock = .interaction id)
    (undrawn : ∀ tick < (alone hexdigest env requests db i).state.tick, (env tick).uuid ≠ id)
    (absent : db.row lock = none) :
    (alone hexdigest env requests db i).state.store.row lock = none := by
  have positive : 0 < (alone hexdigest env requests db i).state.tick := alone_tick_pos
  generalize last : (alone hexdigest env requests db i).state.tick = end_ at undrawn positive
  -- a clock that stops before the request ends
  have same : (alone hexdigest env requests db i).state.store =
      (alone hexdigest (fun tick => env (min tick (end_ - 1))) requests db i).state.store :=
    alone_store_congr fun tick before => by
      rw [last] at before
      rw [Nat.min_eq_left (by omega)]
  rw [same]
  have reach : Reachable engine (fun tick => env (min tick (end_ - 1)))
    (initial hexdigest requests db) (alone hexdigest _ requests db i) := alone_reachable
  have serial := reaches_serial reach
  rw [serial.replay]
  refine checked_preserves engine_rowed (K := fun old => old = none) serial.history ?_ absent
  rintro write member rfl _ rfl sound
  cases write with
  | insert row =>
      obtain ⟨n, j, writes, commit, written⟩ := mem_committedWrites_at member
      obtain ⟨m, stmt, value, performed, _, located, made⟩ :=
        (reaches_provenance reach).performed_of_committed commit written
      obtain ⟨context, locks, ran, _⟩ := (reaches_provenance reach).answered located
      obtain ⟨tick, clock⟩ := ran.clock
      have drawn := insert_uuid ran.exec made locked
      rw [clock] at drawn
      exact (undrawn _ (by omega) drawn).elim
  | update row =>
      cases row with
      | event row => exact sound.elim
      | interaction row =>
          obtain ⟨_, impossible, _⟩ := sound
          cases impossible
      | _ => rcases locked with locked | locked <;> cases locked
  | dropKey tenantId key => rcases locked with locked | locked <;> cases locked

theorem fresh_alone (hexdigest : PyDict → String) (requests : ι → Request) (i : ι)
    (injective : Function.Injective fun tick => (env tick).uuid)
    (fresh : Undrawn env db) :
    Undrawn (fun later => env ((alone hexdigest env requests db i).state.tick + later))
      (alone hexdigest env requests db i).state.store := by
  intro later
  have undrawn : ∀ tick < (alone hexdigest env requests db i).state.tick, (env tick).uuid ≠
      (env ((alone hexdigest env requests db i).state.tick + later)).uuid := by
    intro tick before same
    have : tick = (alone hexdigest env requests db i).state.tick + later := injective same
    omega
  obtain ⟨event, interaction⟩ := fresh ((alone hexdigest env requests db i).state.tick + later)
  constructor
  · exact Option.map_eq_none_iff.mp
      (row_fresh (.inl rfl) undrawn (Option.map_eq_none_iff.mpr event))
  · exact Option.map_eq_none_iff.mp
      (row_fresh (.inr rfl) undrawn (Option.map_eq_none_iff.mpr interaction))

end

/-! ## One request after the other -/

section
variable {hexdigest : PyDict → String} {env : Nat → Env} {requests : Nat → Request} {db : Database}

def turns (E : Engine Database Write Lock Stmt Stmt.Res Failure Env) (hexdigest : PyDict → String)
    (env : Nat → Env) (requests : Nat → Request) (db : Database) (n : Nat) : AppWorld Nat :=
  (initial hexdigest requests db).serveAll E env (List.range n)

def clockAfter (hexdigest : PyDict → String) (env : Nat → Env) (requests : Nat → Request)
    (db : Database) (n later : Nat) : Env :=
  env ((turns engine hexdigest env requests db n).state.tick + later)

theorem turns_succ (hexdigest : PyDict → String) (env : Nat → Env) (requests : Nat → Request)
    (db : Database) (n : Nat) :
    let served := alone hexdigest (clockAfter hexdigest env requests db n) requests
      (turns engine hexdigest env requests db n).state.store n
    (turns engine hexdigest env requests db (n + 1)).state.store = served.state.store ∧
      (turns engine hexdigest env requests db (n + 1)).state.tick =
        (turns engine hexdigest env requests db n).state.tick + served.state.tick := by
  intro served
  have waiting : n ∉ List.range n := by simp
  obtain ⟨session, closed⟩ : (turns engine hexdigest env requests db n).session n =
      (initial hexdigest requests db).session n ∧
      (turns engine hexdigest env requests db n).state.tx n =
        (initial hexdigest requests db).state.tx n :=
    serveAll_other waiting
  have between : Between _ (turns engine hexdigest env requests db n) :=
    (between_start db (initial hexdigest requests db).session).serveAll (List.range n)
  have start : (initial hexdigest requests
      (turns engine hexdigest env requests db n).state.store).session n =
        .running (program hexdigest (requests n)) := rfl
  have clock : ∀ tick, (turns engine hexdigest env requests db n).state.tick + tick <
      ((turns engine hexdigest env requests db n).serve engine env n).state.tick →
        env ((turns engine hexdigest env requests db n).state.tick + tick) =
          clockAfter hexdigest env requests db n tick := fun _ _ => rfl
  obtain ⟨_, continues⟩ := serve_continues between.quiet (session.trans rfl) (closed.trans rfl)
    start clock
  have onward : turns engine hexdigest env requests db (n + 1) =
      (turns engine hexdigest env requests db n).serve engine env n := by
    rw [turns, List.range_succ, serveAll_append]
    rfl
  rw [onward]
  exact ⟨continues.store, continues.tick⟩

theorem turns_ends {n : Nat} {P : Database → Prop}
    (ends : Ends engine (clockAfter hexdigest env requests db n) n (fun _ store _ => P store)
      (program hexdigest (requests n)) (turns engine hexdigest env requests db n).state.store [] 0) :
    P (turns engine hexdigest env requests db (n + 1)).state.store := by
  rw [(turns_succ hexdigest env requests db n).1]
  have running : (initial hexdigest requests
      (turns engine hexdigest env requests db n).state.store).session n =
        .running (program hexdigest (requests n)) := rfl
  obtain ⟨_, _, holds⟩ := serve_of_ends running (fun _ => rfl) rfl ends
  exact holds

theorem fresh_turns (injective : Function.Injective fun tick => (env tick).uuid)
    (fresh : Undrawn env db) (n : Nat) :
    Undrawn (clockAfter hexdigest env requests db n)
      (turns engine hexdigest env requests db n).state.store := by
  induction n with
  | zero =>
      have clock : clockAfter hexdigest env requests db 0 = env := by
        funext later
        exact congrArg env (Nat.zero_add later)
      rw [clock]
      exact fresh
  | succ n ih =>
      obtain ⟨store, tick⟩ := turns_succ hexdigest env requests db n
      have distinct : Function.Injective fun tick =>
          (clockAfter hexdigest env requests db n tick).uuid := by
        intro a b same
        have := injective same
        omega
      have later := fresh_alone hexdigest requests n distinct ih
      rw [store]
      intro more
      have still := later more
      simp only [clockAfter] at still
      rw [← Nat.add_assoc, ← tick] at still
      exact still

end

/-! ## The way on -/

section
variable (hexdigest : PyDict → String) {env : Nat → Env} {requests : Nat → Request}
  {db after : Database} {id tenantId locationId counterId : UUID} {actor : TokenPayload}
  {ahead : Finset UUID} {row new : Ticket}

structure Staffed (db : Database) (tenantId locationId counterId : UUID) (actor : TokenPayload) :
    Prop where
  counter : ∃ counter ∈ db.counters.get? counterId, counter.locationId = locationId
  location : ∃ location ∈ db.locations.get? locationId, location.tenantId = tenantId
  clerk : IsClerk db tenantId actor

instance (db : Database) (tenantId locationId counterId : UUID) (actor : TokenPayload) :
    Decidable (Staffed db tenantId locationId counterId actor) :=
  decidable_of_iff ((∃ counter ∈ db.counters.get? counterId, counter.locationId = locationId) ∧
      (∃ location ∈ db.locations.get? locationId, location.tenantId = tenantId) ∧
      IsClerk db tenantId actor)
    ⟨fun ⟨counter, location, clerk⟩ => ⟨counter, location, clerk⟩,
      fun staffed => ⟨staffed.counter, staffed.location, staffed.clerk⟩⟩

theorem IsClerk.of_records (clerk : IsClerk db tenantId actor)
    (same : ∀ lock : Lock, lock.isRecord = true → after.row lock = db.row lock) :
    IsClerk after tenantId actor := by
  obtain ⟨userId, parsed, known⟩ := clerk.user
  refine ⟨clerk.role, clerk.tenant, userId, parsed, ?_⟩
  rw [hasUser_eq, same (.user userId) rfl, ← hasUser_eq]
  exact known

theorem Staffed.of_records (staffed : Staffed db tenantId locationId counterId actor)
    (same : ∀ lock : Lock, lock.isRecord = true → after.row lock = db.row lock) :
    Staffed after tenantId locationId counterId actor := by
  have counters : after.counters.get? counterId = db.counters.get? counterId :=
    Option.map_injective (fun _ _ equal => Row.counter.inj equal) (same (.counter counterId) rfl)
  have locations : after.locations.get? locationId = db.locations.get? locationId :=
    Option.map_injective (fun _ _ equal => Row.location.inj equal) (same (.location locationId) rfl)
  exact ⟨counters ▸ staffed.counter, locations ▸ staffed.location, staffed.clerk.of_records same⟩

structure Queued (db : Database) (id tenantId locationId : UUID) (ahead : Finset UUID) : Prop where
  ticket : ∃ ticket ∈ db.tickets.get? id, ticket.tenantId = tenantId ∧
    ticket.waitsFor locationId none
  all : ∀ row ∈ db.tickets.rows, row.waitsFor locationId none → row.id ∈ ahead

def AtCounter (db : Database) (id tenantId : UUID) : Prop :=
  ∃ ticket ∈ db.tickets.get? id, ticket.tenantId = tenantId ∧ ticket.status = .called ∧
    ∀ counterId ∈ ticket.assignedCounterId, db.hasCounter counterId = true

theorem atCounter_of_records (called : AtCounter db id tenantId)
    (there : after.tickets.get? id = db.tickets.get? id)
    (same : ∀ lock : Lock, lock.isRecord = true → after.row lock = db.row lock) :
    AtCounter after id tenantId := by
  obtain ⟨ticket, found, mine, status, counter⟩ := called
  refine ⟨ticket, there ▸ found, mine, status, fun counterId assigned => ?_⟩
  have counters : after.counters.get? counterId = db.counters.get? counterId :=
    Option.map_injective (fun _ _ equal => Row.counter.inj equal) (same (.counter counterId) rfl)
  rw [Database.hasCounter, counters]
  exact counter counterId assigned

/-- A call takes the ticket, or another one that was ahead of it. -/
theorem queued_called {now : Time} (queued : Queued db id tenantId locationId ahead)
    (desk : db.hasCounter counterId = true)
    (touches : Touches db after ((callUpdate counterId now).apply now row))
    (there : row ∈ db.tickets.rows) :
    AtCounter after id tenantId ∨ Queued after id tenantId locationId (ahead.erase row.id) := by
  obtain ⟨ticket, found, mine, waits⟩ := queued.ticket
  have counters : after.counters.get? counterId = db.counters.get? counterId :=
    Option.map_injective (fun _ _ equal => Row.counter.inj equal)
      (touches.records (.counter counterId) rfl)
  by_cases same : row.id = id
  · subst same
    obtain rfl : row = ticket := Option.some.inj ((Table.get?_of_mem there).symm.trans found)
    refine .inl ⟨_, touches.ticket, mine, rfl, ?_⟩
    rintro _ ⟨⟩
    rw [Database.hasCounter, counters]
    exact desk
  · refine .inr ⟨⟨ticket, (touches.others id (Ne.symm same)).trans found, mine, waits⟩, ?_⟩
    intro other member waiting
    have listed := Table.get?_of_mem member
    by_cases called : other.id = row.id
    · obtain rfl : other = _ := Option.some.inj (listed.symm.trans (called ▸ touches.ticket))
      cases waiting.2.1
    · have stored : db.tickets.get? other.id = some other :=
        (touches.others other.id called).symm.trans listed
      exact Finset.mem_erase.mpr ⟨called, queued.all other (Table.mem_of_get? stored) waiting⟩

theorem atCounter_called {now : Time} (called : AtCounter db id tenantId)
    (waits : row.waitsFor locationId none) (there : row ∈ db.tickets.rows)
    (touches : Touches db after ((callUpdate counterId now).apply now row)) :
    AtCounter after id tenantId := by
  have other : id ≠ row.id := by
    rintro rfl
    obtain ⟨ticket, found, _, status, _⟩ := called
    obtain rfl : row = ticket := Option.some.inj ((Table.get?_of_mem there).symm.trans found)
    cases waits.2.1.symm.trans status
  exact atCounter_of_records called (touches.others id other) touches.records

def Stands (db : Database) (id tenantId : UUID) (status : TicketStatus) : Prop :=
  ∃ ticket ∈ db.tickets.get? id, ticket.tenantId = tenantId ∧ ticket.status = status

theorem stands_of_brings {status : TicketStatus} (brings : Brings db row status after) :
    Stands after row.id row.tenantId status := by
  obtain ⟨new, same, mine, gets, touches⟩ := brings
  exact ⟨new, same ▸ touches.ticket, mine, gets⟩

variable (injective : Function.Injective fun tick => (env tick).uuid) (fresh : Undrawn env db)
include injective fresh

/-- After `k` calls the ticket is called, or `k` tickets less are ahead of it. -/
theorem calls_onward {n : Nat} (calls : ∀ i < n, requests i = .callNext counterId {} actor none)
    (staffed : Staffed db tenantId locationId counterId actor)
    (queued : Queued db id tenantId locationId ahead) :
    ∀ k ≤ n,
      Staffed (turns engine hexdigest env requests db k).state.store tenantId locationId counterId
        actor ∧
      (AtCounter (turns engine hexdigest env requests db k).state.store id tenantId ∨
        ∃ ahead', ahead'.card + k ≤ ahead.card ∧
          Queued (turns engine hexdigest env requests db k).state.store id tenantId locationId
            ahead') := by
  intro k within
  induction k with
  | zero => exact ⟨staffed, .inr ⟨ahead, le_rfl, queued⟩⟩
  | succ k ih =>
      obtain ⟨staffed, stage⟩ := ih (by omega)
      obtain ⟨counter, desk, rfl⟩ := staffed.counter
      obtain ⟨location, place, rfl⟩ := staffed.location
      have ends := ends_callNext_ok hexdigest k 0 (fresh_turns injective fresh k) desk place
        staffed.clerk
      rw [← calls k within] at ends
      have desk :
        (turns engine hexdigest env requests db k).state.store.hasCounter counterId = true := by
        simp [Database.hasCounter, Option.mem_def.mp desk]
      rcases turns_ends ends with ⟨same, none⟩ | ⟨row, there, waits, now, touches⟩
      · rw [same]
        refine ⟨staffed, .inl ?_⟩
        rcases stage with called | ⟨_, _, queued⟩
        · exact called
        · obtain ⟨ticket, found, _, waits⟩ := queued.ticket
          exact (none ticket (Table.mem_of_get? found) waits).elim
      · refine ⟨staffed.of_records touches.records, ?_⟩
        rcases stage with called | ⟨ahead', fewer, queued⟩
        · exact .inl (atCounter_called called waits there touches)
        · rcases queued_called queued desk touches there with called | queued'
          · exact .inl called
          · refine .inr ⟨_, ?_, queued'⟩
            have listed := queued.all row there waits
            have := Finset.card_erase_lt_of_mem listed
            omega

theorem start_turns {k : Nat} (starts : requests k = .startService id actor none)
    (clerk : IsClerk (turns engine hexdigest env requests db k).state.store tenantId actor)
    (called : AtCounter (turns engine hexdigest env requests db k).state.store id tenantId) :
    IsClerk (turns engine hexdigest env requests db (k + 1)).state.store tenantId actor ∧
      Stands (turns engine hexdigest env requests db (k + 1)).state.store id tenantId
        .inService := by
  obtain ⟨ticket, found, rfl, status, counter⟩ := called
  obtain rfl : ticket.id = id := Table.key_of_get? found
  have ends := ends_startService_ok hexdigest k 0 (fresh_turns injective fresh k) clerk found status
    counter
  rw [← starts] at ends
  have brings := turns_ends ends
  refine ⟨?_, stands_of_brings brings⟩
  obtain ⟨_, _, _, _, touches⟩ := brings
  exact clerk.of_records touches.records

theorem complete_turns {k : Nat} (completes : requests k = .completeTicket id actor none)
    (clerk : IsClerk (turns engine hexdigest env requests db k).state.store tenantId actor)
    (serving :
      Stands (turns engine hexdigest env requests db k).state.store id tenantId .inService) :
    Stands (turns engine hexdigest env requests db (k + 1)).state.store id tenantId .completed := by
  obtain ⟨ticket, found, rfl, status⟩ := serving
  obtain rfl : ticket.id = id := Table.key_of_get? found
  have ends :=
    ends_completeTicket_ok hexdigest k 0 (fresh_turns injective fresh k) clerk found status
  rw [← completes] at ends
  exact stands_of_brings (turns_ends ends)

end

/-! ## Called or in service -/

section
variable {E : Engine Database Write Lock Stmt Stmt.Res Failure Env} {hexdigest : PyDict → String}
  {db : Database} {id tenantId locationId counterId : UUID} {actor : TokenPayload} {row : Ticket}
  {requests : Nat → Request} {n : Nat}

def ByStaff (tenantId : UUID) (request : Request) : Prop :=
  ∃ actor ∈ request.actor, actor.hasRole writeRoles = true ∧ actor.tenantId = .canonical tenantId

/-- One after the other the requests complete the ticket, whatever the time and the fresh
identifiers are. -/
def Completes (E : Engine Database Write Lock Stmt Stmt.Res Failure Env)
    (hexdigest : PyDict → String) (db : Database) (id : UUID) (requests : Nat → Request)
    (n : Nat) : Prop :=
  ∀ env : Nat → Env, Function.Injective (fun tick => (env tick).uuid) → Undrawn env db →
    ∃ ticket ∈ (turns E hexdigest env requests db n).state.store.tickets.get? id,
      ticket.status = .completed

def CanComplete (E : Engine Database Write Lock Stmt Stmt.Res Failure Env)
    (hexdigest : PyDict → String) (db : Database) (tenantId id : UUID) : Prop :=
  ∃ (requests : Nat → Request) (n : Nat), (∀ i < n, ByStaff tenantId (requests i)) ∧
    Completes E hexdigest db id requests n

def plan (counterId id : UUID) (actor : TokenPayload) (calls i : Nat) : Request :=
  if i < calls then .callNext counterId {} actor none
  else if i = calls then .startService id actor none
  else .completeTicket id actor none

theorem byStaff_plan (clerk : IsClerk db tenantId actor) (calls i : Nat) :
    ByStaff tenantId (plan counterId id actor calls i) := by
  refine ⟨actor, ?_, clerk.role, clerk.tenant⟩
  unfold plan
  split
  · rfl
  · split <;> rfl

theorem completes_called {env : Nat → Env} {calls : Nat}
    (injective : Function.Injective fun tick => (env tick).uuid) (fresh : Undrawn env db)
    (clerk : IsClerk (turns engine hexdigest env (plan counterId id actor calls) db
      calls).state.store tenantId actor)
    (called : AtCounter (turns engine hexdigest env (plan counterId id actor calls) db
      calls).state.store id tenantId) :
    ∃ ticket ∈ (turns engine hexdigest env (plan counterId id actor calls) db
      (calls + 2)).state.store.tickets.get? id, ticket.status = .completed := by
  obtain ⟨clerk, serving⟩ := start_turns hexdigest injective fresh (by simp [plan]) clerk called
  obtain ⟨ticket, found, _, status⟩ :=
    complete_turns hexdigest injective fresh (by simp [plan]) clerk serving
  exact ⟨ticket, found, status⟩

theorem completes_plan (clerk : IsClerk db row.tenantId actor) (member : row ∈ db.tickets.rows)
    (called : row.status = .called)
    (counter : ∀ id ∈ row.assignedCounterId, db.hasCounter id = true) :
    Completes engine hexdigest db row.id (plan 0 row.id actor 0) (0 + 2) :=
  fun _ injective fresh => completes_called injective fresh clerk
    ⟨row, Table.get?_of_mem member, rfl, called, counter⟩

theorem completes_serving (clerk : IsClerk db row.tenantId actor) (member : row ∈ db.tickets.rows)
    (serving : row.status = .inService) :
    Completes engine hexdigest db row.id (fun _ => .completeTicket row.id actor none) 1 := by
  intro env injective fresh
  obtain ⟨ticket, found, _, status⟩ : Stands (turns engine hexdigest env
      (fun _ => .completeTicket row.id actor none) db (0 + 1)).state.store row.id row.tenantId
        .completed :=
    complete_turns hexdigest injective fresh rfl clerk ⟨row, Table.get?_of_mem member, rfl, serving⟩
  exact ⟨ticket, found, status⟩

theorem turns_sent {env : Nat → Env} (others : ∀ i < n, isCallNext (requests i) = false) :
    turns sentEngine hexdigest env requests db n = turns engine hexdigest env requests db n := by
  induction n with
  | zero => rfl
  | succ n ih =>
      have before := ih fun i earlier => others i (Nat.lt_succ_of_lt earlier)
      have reach : Reaches sentEngine env (fun _ j => j ∈ List.range n)
          (initial hexdigest requests db) (turns sentEngine hexdigest env requests db n) :=
        serveAll_reaches
      simp only [turns, List.range_succ, serveAll_append] at before reach ⊢
      rw [← before]
      exact serve_sent reach (others n (Nat.lt_succ_self n))

theorem Completes.sent (completes : Completes engine hexdigest db id requests n)
    (others : ∀ i < n, isCallNext (requests i) = false) :
    Completes sentEngine hexdigest db id requests n := by
  intro env injective fresh
  rw [turns_sent others]
  exact completes env injective fresh

end

/-! ## As the statements are sent -/

section
variable {ι : Type} [DecidableEq ι] {E : Engine Database Write Lock Stmt Stmt.Res Failure Env}
  {hexdigest : PyDict → String} {env : Nat → Env} {requests : ι → Request} {db : Database}
  {ok : AppWorld ι → ι → Prop} {w : AppWorld ι} {id tenantId : UUID} {row : Ticket}

theorem exists_fresh (db : Database) :
    ∃ env : Nat → Env, Function.Injective (fun tick => (env tick).uuid) ∧ Undrawn env db := by
  let used : List Nat := db.ticketEvents.rows.map TicketEvent.id ++
    db.interactions.rows.map Interaction.id
  let last : Nat := used.toFinset.sup fun drawn => drawn
  have below (drawn : Nat) (listed : drawn ∈ used) (tick : Nat) : drawn ≠ last + 1 + tick := by
    have : drawn ≤ last := Finset.le_sup (f := fun drawn => drawn) (List.mem_toFinset.mpr listed)
    omega
  refine ⟨fun tick => ⟨0, last + 1 + tick, fun _ => 0, false⟩,
    fun a b same => Nat.add_left_cancel same, fun tick => ⟨?_, ?_⟩⟩
  · exact Table.get?_eq_none.mpr fun row member =>
      below row.id (List.mem_append_left _ (List.mem_map_of_mem member)) tick
  · exact Table.get?_eq_none.mpr fun row member =>
      below row.id (List.mem_append_right _ (List.mem_map_of_mem member)) tick

/-- From these statuses every way to COMPLETED leads through CALLED. -/
def Uncalled (ticket : Ticket) : Prop :=
  ticket.status ∉ [TicketStatus.called, .inService, .completed]

theorem uncalled_valid {old new : TicketStatus} (valid : new = old ∨ new ∈ validTransitions old)
    (before : old ∉ [TicketStatus.called, .inService, .completed]) (other : new ≠ .called) :
    new ∉ [TicketStatus.called, .inService, .completed] := by
  rcases valid with rfl | valid
  · exact before
  · cases old <;> simp_all [validTransitions] <;> rcases valid with rfl | rfl <;> simp_all

theorem uncalled_stays (reach : Reaches sentEngine env ok (initial hexdigest requests db) w)
    (found : db.tickets.get? id = some row) (uncalled : Uncalled row) (ticket : Ticket)
    (later : w.state.store.tickets.get? id = some ticket) : Uncalled ticket := by
  have serial : Serial engine Database.row (Keeps Uncalled) db w.state :=
    sent_keeps reach (fun new id now waits => by simp [Uncalled, NewTicket.row, waits])
      fun set now row other _ valid before => uncalled_valid valid before other
  refine kept_at_of_keeps serial.history (fun old located => ?_) ticket (serial.replay ▸ later)
  obtain rfl : row = old := Option.some.inj (found.symm.trans located)
  exact uncalled

theorem not_canComplete_of_uncalled (found : db.tickets.get? id = some row)
    (uncalled : Uncalled row) : ¬ CanComplete sentEngine hexdigest db tenantId id := by
  rintro ⟨requests, n, _, completes⟩
  obtain ⟨env, injective, fresh⟩ := exists_fresh db
  obtain ⟨ticket, located, completed⟩ := completes env injective fresh
  have reach : Reaches sentEngine env (fun _ j => j ∈ List.range n)
      (initial hexdigest requests db) (turns sentEngine hexdigest env requests db n) :=
    serveAll_reaches
  exact uncalled_stays reach found uncalled ticket located (by simp [completed])

theorem hasCounter_applyAll {store : Database} {writes : List Write}
    (there : store.hasCounter id = true) : (engine.applyAll store writes).hasCounter id = true := by
  have located (db : Database) : db.hasCounter id = (db.row (.counter id)).isSome := by
    simp [Database.hasCounter, Database.row]
  rw [located] at there ⊢
  rcases row_applyAll_cases engine_rowed store writes (.counter id) with
    same | ⟨write, _, locked, made⟩
  · rwa [same]
  · rw [made]
    cases write with
    | dropKey tenantId key => cases locked
    | _ => rfl

/-- No ticket gets a counter that was not there at first. -/
theorem assigned_stays (reach : Reaches sentEngine env ok (initial hexdigest requests db) w)
    (base : ∀ ticket ∈ db.tickets.rows, ∀ id ∈ ticket.assignedCounterId, db.hasCounter id = true) :
    ∀ ticket ∈ w.state.store.tickets.rows, ∀ id ∈ ticket.assignedCounterId,
      w.state.store.hasCounter id = true := by
  have serial : Serial engine Database.row
      (Keeps fun ticket => ∀ id ∈ ticket.assignedCounterId, db.hasCounter id = true) db
        w.state := by
    refine sent_keeps reach (fun new id now _ => by rintro _ ⟨⟩) ?_
    intro set now row other stamps valid kept
    by_cases waits : set.status = .waiting
    · rw [TicketUpdate.apply, stamps.requeued waits]
      rintro _ ⟨⟩
    · rw [TicketUpdate.apply, (stamps.stays waits).2.2]
      exact kept
  rw [serial.replay]
  exact fun ticket member id assigned =>
    hasCounter_applyAll (kept_of_keeps serial.history base ticket member id assigned)

/-- Whatever has happened, an open ticket at a location with staff can be completed if and only if
it has been called and not put aside since. -/
theorem completes_iff_called {order : List ι} {counterId : UUID} {actor : TokenPayload}
    {ticket : Ticket}
    (base : ∀ ticket ∈ db.tickets.rows, ∀ id ∈ ticket.assignedCounterId, db.hasCounter id = true)
    (member : ticket ∈
      ((initial hexdigest requests db).serveAll sentEngine env order).state.store.tickets.rows)
    (isOpen : Ticket.isOpen ticket)
    (staffed : Staffed ((initial hexdigest requests db).serveAll sentEngine env order).state.store
      ticket.tenantId ticket.locationId counterId actor) :
    CanComplete sentEngine hexdigest
        ((initial hexdigest requests db).serveAll sentEngine env order).state.store
        ticket.tenantId ticket.id ↔
      ticket.status = .called ∨ ticket.status = .inService := by
  have reach : Reaches sentEngine env (fun _ j => j ∈ order) (initial hexdigest requests db)
      ((initial hexdigest requests db).serveAll sentEngine env order) := serveAll_reaches
  have counter := assigned_stays reach base ticket member
  generalize ((initial hexdigest requests db).serveAll sentEngine env order).state.store = store
    at member staffed counter
  constructor
  · intro completes
    by_contra other
    refine not_canComplete_of_uncalled (Table.get?_of_mem member) ?_ completes
    have unfinished : ticket.status ≠ .completed := by
      rintro completed
      simp [Ticket.isOpen, completed, TicketStatus.terminal] at isOpen
    simpa [Uncalled, unfinished] using other
  · rintro (called | serving)
    · exact ⟨_, _, fun i _ => byStaff_plan staffed.clerk 0 i,
        (completes_plan staffed.clerk member called counter).sent fun i _ => by
          unfold plan
          split <;> [simp at *; (split <;> rfl)]⟩
    · exact ⟨_, _, fun _ _ => ⟨actor, rfl, staffed.clerk.role, staffed.clerk.tenant⟩,
        (completes_serving staffed.clerk member serving).sent fun _ _ => rfl⟩

end

/-! ## With the parameters bound -/

section
variable {hexdigest : PyDict → String} {db : Database} {counterId : UUID} {actor : TokenPayload}
  {row : Ticket}

theorem canComplete_waiting (staffed : Staffed db row.tenantId row.locationId counterId actor)
    (member : row ∈ db.tickets.rows) (waits : row.status = .waiting) :
    CanComplete engine hexdigest db row.tenantId row.id := by
  let ahead : Finset UUID := (db.tickets.rows.map Ticket.id).toFinset
  refine ⟨plan counterId row.id actor ahead.card, ahead.card + 2,
    fun i _ => byStaff_plan staffed.clerk _ i, fun env injective fresh => ?_⟩
  have queued : Queued db row.id row.tenantId row.locationId ahead := by
    refine ⟨⟨row, Table.get?_of_mem member, rfl, rfl, waits, .inl rfl⟩, fun other there _ => ?_⟩
    exact List.mem_toFinset.mpr (List.mem_map_of_mem there)
  have calls : ∀ i < ahead.card,
      plan counterId row.id actor ahead.card i = .callNext counterId {} actor none :=
    fun i before => if_pos before
  obtain ⟨staffed, stage⟩ :=
    calls_onward hexdigest injective fresh calls staffed queued ahead.card le_rfl
  refine completes_called injective fresh staffed.clerk ?_
  rcases stage with called | ⟨none, fewer, queued⟩
  · exact called
  · obtain ⟨ticket, found, _, waits⟩ := queued.ticket
    have listed := queued.all ticket (Table.mem_of_get? found) waits
    have := Finset.card_pos.mpr ⟨_, listed⟩
    omega

end

section
variable {ι : Type} [DecidableEq ι] {hexdigest : PyDict → String} {env : Nat → Env}
  {requests : ι → Request} {request : Request} {db store : Database} {past : List Act}
  {writes : List Write} {id : UUID} {row new : Ticket}

def SetAside (db : Database) (id : UUID) : Prop :=
  ∃ ticket ∈ db.tickets.get? id, ticket.status = .hold ∨ ticket.status = .canceled

theorem setAside_step (step : TicketStep env store (some row) new)
    (aside : row.status = .hold ∨ row.status = .canceled) :
    new.status = .hold ∨ new.status = .canceled := by
  cases step with
  | kept => exact aside
  | called _ _ _ waits => simp [waits] at aside
  | changed _ set _ _ target allowed =>
      change set.status = .hold ∨ set.status = .canceled
      rcases aside with held | canceled
      · rw [held] at allowed
        rcases allowed with same | onward
        · exact .inl same
        · simp only [validTransitions, List.mem_cons, List.not_mem_nil, or_false] at onward
          rcases onward with waiting | canceled
          · simp [waiting] at target
          · exact .inr canceled
      · rw [canceled] at allowed
        exact .inr (by simpa [validTransitions] using allowed)
  | transferred _ _ _ _ _ serving => simp [serving] at aside

theorem setAside_commit (serving : Serving hexdigest env request db past store writes)
    (aside : SetAside store id) : SetAside (engine.applyAll store writes) id := by
  obtain ⟨row, found, status⟩ := aside
  obtain ⟨new, located, _⟩ := column_kept (fun _ _ becomes => becomes.id) serving.sound found
  have step := step_serving serving located
  rw [Option.mem_def.mp found] at step
  exact ⟨new, located, setAside_step step status⟩

theorem setAside_stays (aside : SetAside db id) (order : List ι) :
    SetAside ((initial hexdigest requests db).serveAll engine env order).state.store id :=
  serveAll_steps aside (fun _ _ _ _ _ _ serving => setAside_commit serving) order

theorem not_canComplete_of_held {tenantId : UUID} (found : store.tickets.get? id = some row)
    (held : row.status = .hold) : ¬ CanComplete engine hexdigest store tenantId id := by
  rintro ⟨requests, n, _, completes⟩
  obtain ⟨env, injective, fresh⟩ := exists_fresh store
  obtain ⟨ticket, located, completed⟩ := completes env injective fresh
  obtain ⟨other, there, aside⟩ :
    SetAside (turns engine hexdigest env requests store n).state.store id :=
    setAside_stays ⟨row, found, .inl held⟩ _
  obtain rfl : ticket = other := Option.some.inj (located.symm.trans there)
  simp [completed] at aside

structure WellKept (db : Database) (ticket : Ticket) : Prop where
  counter : ∀ id ∈ ticket.assignedCounterId, db.hasCounter id = true
  status : ticket.status ≠ .created ∧ ticket.status ≠ .transferred

theorem wellKept_commit (serving : Serving hexdigest env request db past store writes)
    (kept : ∀ ticket ∈ store.tickets.rows, WellKept store ticket) :
    ∀ ticket ∈ (engine.applyAll store writes).tickets.rows,
      WellKept (engine.applyAll store writes) ticket := by
  intro new member
  have step := step_serving serving (Table.get?_of_mem member)
  suffices kept : WellKept store new from
    ⟨fun id assigned => hasCounter_applyAll (kept.counter id assigned), kept.status⟩
  generalize before : store.tickets.get? (key new) = old at step
  cases step with
  | kept => exact kept _ (Table.mem_of_get? before)
  | created new id tick waits =>
      refine ⟨?_, by simp [NewTicket.row, waits]⟩
      rintro _ ⟨⟩
  | called row counterId tick waits counter =>
      refine ⟨?_, by simp [callUpdate, TicketUpdate.apply]⟩
      rintro _ ⟨⟩
      exact counter
  | changed row set tick stamps target allowed =>
      have stays := (stamps.stays fun waits => by simp [waits] at target).2.2
      refine ⟨?_, ?_⟩
      · rw [TicketUpdate.apply, stays]
        exact (kept row (Table.mem_of_get? before)).counter
      · change set.status ≠ .created ∧ set.status ≠ .transferred
        constructor <;> intro same <;> simp [same] at target
  | transferred row set requeue tick tick' serving stamps stamps' leaves waits =>
      refine ⟨?_, ?_⟩
      · rw [TicketUpdate.apply, stamps'.requeued waits]
        rintro _ ⟨⟩
      · change requeue.status ≠ .created ∧ requeue.status ≠ .transferred
        simp [waits]

/-- Whatever has happened, an open ticket at a location with staff can be completed unless it is on
hold. -/
theorem bound_completes_unless_held {order : List ι} {counterId : UUID} {actor : TokenPayload}
    {ticket : Ticket} (base : ∀ ticket ∈ db.tickets.rows, WellKept db ticket)
    (member : ticket ∈
      ((initial hexdigest requests db).serveAll engine env order).state.store.tickets.rows)
    (isOpen : Ticket.isOpen ticket)
    (staffed : Staffed ((initial hexdigest requests db).serveAll engine env order).state.store
      ticket.tenantId ticket.locationId counterId actor) :
    CanComplete engine hexdigest
        ((initial hexdigest requests db).serveAll engine env order).state.store
        ticket.tenantId ticket.id ↔
      ticket.status ≠ .hold := by
  have kept : ∀ ticket ∈
      ((initial hexdigest requests db).serveAll engine env order).state.store.tickets.rows,
        WellKept ((initial hexdigest requests db).serveAll engine env order).state.store ticket :=
    serveAll_steps base (fun _ _ _ _ _ _ serving => wellKept_commit serving) order
  obtain ⟨counter, status⟩ := kept ticket member
  generalize ((initial hexdigest requests db).serveAll engine env order).state.store = store
    at member staffed counter kept
  constructor
  · exact fun completes held =>
      not_canComplete_of_held (Table.get?_of_mem member) held completes
  · intro other
    cases stage : ticket.status with
    | waiting => exact canComplete_waiting staffed member stage
    | called =>
        exact ⟨_, _, fun i _ => byStaff_plan staffed.clerk 0 i,
          completes_plan staffed.clerk member stage counter⟩
    | inService =>
        exact ⟨_, _, fun _ _ => ⟨actor, rfl, staffed.clerk.role, staffed.clerk.tenant⟩,
          completes_serving staffed.clerk member stage⟩
    | hold => exact (other stage).elim
    | created => exact (status.1 stage).elim
    | transferred => exact (status.2 stage).elim
    | completed | canceled | noShow =>
        simp [Ticket.isOpen, stage, TicketStatus.terminal] at isOpen

end

/-! ## A ticket that waits and one on hold -/

def stuckVisits : Nat → Request
  | 0 => .createTicket (visit 10 (some 20)) clerk none
  | 1 => .startService 2 clerk none
  | _ => .holdTicket 2 clerk

def stuckWorld (order : List Nat) : AppWorld Nat :=
  (initial textDigest stuckVisits calledOffice).serveAll sentEngine steadyEnv order

theorem completes_iff_called_visitor :
    CanComplete sentEngine textDigest (stuckWorld [0]).state.store 1 2 ↔
      calledTicket.status = .called ∨ calledTicket.status = .inService := by
  have member : calledTicket ∈ (stuckWorld [0]).state.store.tickets.rows := by decide +kernel
  have staffed : Staffed (stuckWorld [0]).state.store calledTicket.tenantId
    calledTicket.locationId 30 clerk := by decide +kernel
  exact completes_iff_called (by decide) member (by decide) staffed

def Stuck (db : Database) (status : TicketStatus) : Prop :=
  ∃ ticket ∈ db.tickets.rows, ticket.status = status ∧ Ticket.isOpen ticket ∧
    Staffed db ticket.tenantId ticket.locationId 30 clerk ∧
    ¬ CanComplete sentEngine textDigest db ticket.tenantId ticket.id

theorem stuck_before_and_after :
    Stuck (stuckWorld [0, 1, 2]).state.store .waiting ∧
      Stuck (stuckWorld [0, 1, 2]).state.store .hold := by
  have run : ∀ status ∈ [TicketStatus.waiting, .hold],
      ∃ ticket ∈ (stuckWorld [0, 1, 2]).state.store.tickets.rows, ticket.status = status ∧
        Staffed (stuckWorld [0, 1, 2]).state.store ticket.tenantId ticket.locationId 30 clerk := by
    decide +kernel
  have stuck : ∀ status ∈ [TicketStatus.waiting, .hold],
      Stuck (stuckWorld [0, 1, 2]).state.store status := by
    intro status listed
    obtain ⟨ticket, member, rfl, staffed⟩ := run status listed
    have uncalled : Uncalled ticket ∧ Ticket.isOpen ticket := by
      rcases List.mem_pair.mp listed with waits | held
      · simp [Uncalled, Ticket.isOpen, waits, TicketStatus.terminal]
      · simp [Uncalled, Ticket.isOpen, held, TicketStatus.terminal]
    exact ⟨ticket, member, rfl, uncalled.2, staffed,
      not_canComplete_of_uncalled (Table.get?_of_mem member) uncalled.1⟩
  exact ⟨stuck _ (by simp), stuck _ (by simp)⟩

def heldVisit : Nat → Request
  | 0 => .createTicket (visit 10 (some 20)) clerk none
  | 1 => .callNext 30 {} clerk none
  | 2 => .startService 1001 clerk none
  | _ => .holdTicket 1001 clerk

def heldVisitWorld (order : List Nat) : AppWorld Nat :=
  (initial textDigest heldVisit (office .empty)).serveAll engine steadyEnv order

def calledVisitor : Ticket :=
  (callUpdate 30 (hours 1)).apply (hours 1)
    { waitingTicket 1001 1 5 with createdAt := hours 1, updatedAt := hours 1 }

theorem bound_completes_unless_held_called :
    CanComplete engine textDigest (heldVisitWorld [0, 1]).state.store 1 1001 ↔
      calledVisitor.status ≠ .hold := by
  have member : calledVisitor ∈ (heldVisitWorld [0, 1]).state.store.tickets.rows := by
    decide +kernel
  have staffed : Staffed (heldVisitWorld [0, 1]).state.store calledVisitor.tenantId
    calledVisitor.locationId 30 clerk := by decide +kernel
  exact bound_completes_unless_held (fun _ none => absurd none List.not_mem_nil) member (by decide)
    staffed

end QueueFlow.Concurrency
