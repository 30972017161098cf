import QueueFlow.Concurrency.SentRuns
import QueueFlow.Conduct.Shapes
import QueueFlow.Data.History
import QueueFlow.Transactions.Clock

/-!
# When a ticket is called

`now()` is the start of the transaction, but the CTE of call-next sees what was committed before the
CTE began. If it ran, a call-next that began before a ticket was created could call that ticket.
-/

namespace QueueFlow.Concurrency
open QueueFlow.App QueueFlow.Data QueueFlow.Tables QueueFlow.Transactions

variable {ι : Type} [DecidableEq ι] {hexdigest : PyDict → String} {env : Nat → Env}
  {requests : ι → Request} {db : Database} {ok : AppWorld ι → ι → Prop} {w : AppWorld ι} {i : ι}

/-! ## Causal times -/

structure CausalTimes (db : Database) : Prop where
  called : ∀ ticket ∈ db.tickets.rows, ∀ calledAt ∈ ticket.calledAt, ticket.createdAt ≤ calledAt
  waits : ∀ ticket ∈ db.tickets.rows, ∀ seconds ∈ Database.waitSeconds ticket, 0 ≤ seconds
  events : ∀ created ∈ db.ticketEvents.rows, ∀ called ∈ db.ticketEvents.rows,
    created.ticketId = called.ticketId → created.eventType = .created → called.eventType = .called →
      created.occurredAt ≤ called.occurredAt

/-- The CREATED event is not later than the creation of its ticket, and the CALLED events are. -/
def EventFits (event : TicketEvent) (ticket : Ticket) : Prop :=
  (event.eventType = .created → event.occurredAt ≤ ticket.createdAt) ∧
  (event.eventType = .called → ticket.createdAt ≤ event.occurredAt)

def EventsFit (db : Database) : Prop :=
  ∀ event ∈ db.ticketEvents.rows, ∃ ticket, db.tickets.get? event.ticketId = some ticket ∧
    EventFits event ticket

def CalledLater (ticket : Ticket) : Prop :=
  ∀ calledAt ∈ ticket.calledAt, ticket.createdAt ≤ calledAt

structure Timely (now : Time) (db : Database) : Prop where
  created : ∀ ticket ∈ db.tickets.rows, ticket.createdAt ≤ now
  called : ∀ ticket ∈ db.tickets.rows, CalledLater ticket
  events : EventsFit db

theorem causalTimes (called : ∀ ticket ∈ db.tickets.rows, CalledLater ticket)
    (events : EventsFit db) : CausalTimes db where
  called := called
  waits ticket member seconds waited := by
    obtain ⟨calledAt, calls, rfl⟩ := Option.map_eq_some_iff.mp waited
    have ordered : (ticket.createdAt : Rat) ≤ calledAt :=
      Nat.cast_le.mpr (called ticket member calledAt calls)
    exact div_nonneg (sub_nonneg.mpr ordered) (by norm_num)
  events created first call second same isCreated isCalled := by
    obtain ⟨ticket, found, fits⟩ := events created first
    obtain ⟨other, found', fits'⟩ := events call second
    rw [same, found'] at found
    cases found
    exact Nat.le_trans (fits.1 isCreated) (fits'.2 isCalled)

/-! ## Requests that create and call -/

def Queues : Request → Prop
  | .createTicket _ _ _ | .kioskCreateTicket _ _ | .callNext _ _ _ _ => True
  | _ => False

def insertedId : Write → Option UUID
  | .insert (.ticket row) => some row.id
  | _ => none

/-- If session `i` is about to call a ticket, then whoever created it had begun when `i` began. -/
def CreatorBeganFirst (w : AppWorld ι) (i : ι) : Prop :=
  match w.session i with
  | .running (.performs (.callTicket id locationId serviceId _) _) =>
      w.state.busy i (.ticket id) = false →
        ∀ row ∈ (w.state.view engine i).tickets.get? id, row.waitsFor locationId serviceId →
          ∀ entry ∈ w.state.log, (∃ write ∈ entry.writes, insertedId write = some id) →
            Begun entry.owner (beforeBegin i w.state.log)
  | _ => True

theorem creatorBeganFirst_iff (w : AppWorld ι) (i : ι) :
    (∀ stmt ∈ (w.session i).stmt?, ∀ call ∈ stmt.call?,
      w.state.busy i (.ticket call.1) = false →
        ∀ row ∈ (w.state.view engine i).tickets.get? call.1, row.waitsFor call.2.1 call.2.2 →
          ∀ entry ∈ w.state.log, (∃ write ∈ entry.writes, insertedId write = some call.1) →
            Begun entry.owner (beforeBegin i w.state.log)) ↔ CreatorBeganFirst w i :=
  forall_call_iff (fun id locationId serviceId => w.state.busy i (.ticket id) = false →
    ∀ row ∈ (w.state.view engine i).tickets.get? id, row.waitsFor locationId serviceId →
      ∀ entry ∈ w.state.log, (∃ write ∈ entry.writes, insertedId write = some id) →
        Begun entry.owner (beforeBegin i w.state.log)) _

instance (w : AppWorld ι) (i : ι) : Decidable (CreatorBeganFirst w i) :=
  decidable_of_iff _ (creatorBeganFirst_iff w i)

def Stamped (now : Time) : Write → Prop
  | .insert (.ticket row) => row.createdAt = now
  | .insert (.event event) =>
      event.eventType = .created ∨ event.eventType = .called → event.occurredAt = now
  | .update (.ticket row) => row.status = .called → row.calledAt = some now
  | _ => True

theorem stamped_exec {request : Request} {past : List Act} {stmt : Stmt}
    {context : Context Database Lock Env} {value : stmt.Res} {writes : List Write}
    {locks : List Lock} (exec : stmt.exec context = .done value writes locks)
    (allowed : request.allows hexdigest env past (.performed stmt value writes)) :
    ∀ write ∈ writes, Stamped context.began.now write := by
  intro write member
  cases makes_of_exec exec member with
  | callTicket found waits => exact fun _ => rfl
  | insertTicket new => exact rfl
  | updateTicket set found => exact fun called => (allowed.1.1 called).elim
  | insertEvent new =>
      intro kind
      have untimed : new.occurredAt = none := allowed kind
      simp [NewEvent.row, untimed]
  | insertRecord new => cases new <;> trivial
  | @updateRecord update row found =>
      have locked := key_of_updateRow found
      cases row with
      | ticket row => cases update <;> cases locked
      | _ => trivial
  | _ => trivial

theorem reaches_clocked (reach : Reaches engine env ok (initial hexdigest requests db) w)
    (monotone : Monotone fun tick => (env tick).now) :
    ∃ began, Clocked env Env.now Stamped began w := by
  refine reach.clocked monotone fun w i stmt next value writes locks before _ running exec => ?_
  have follows := (reaches_conduct before).2 i
  rw [running] at follows
  exact stamped_exec exec (follows _ _ _ _ exec).1

theorem uncommitted_of_commitsOf {log : List (Entry ι)} (none_ : commitsOf (pastOf i log) = []) :
    Uncommitted i log := by
  intro writes member
  have committed := mem_commitsOf.mpr (mem_pastOf.mpr member)
  rw [none_] at committed
  cases committed

theorem created_before_call (reach : Reaches engine env ok (initial hexdigest requests db) w)
    (monotone : Monotone fun tick => (env tick).now)
    (base : ∀ ticket ∈ db.tickets.rows, ticket.createdAt ≤ (env 0).now)
    {id locationId counterId : UUID} {serviceId : Option UUID}
    {next : Option Ticket → Handler Response}
    (running :
      w.session i = .running (.performs (.callTicket id locationId serviceId counterId) next))
    (calls : (requests i).calls (pastOf i w.state.log) id locationId serviceId counterId)
    (first : ∀ entry ∈ w.state.log, (∃ write ∈ entry.writes, insertedId write = some id) →
      Begun entry.owner (beforeBegin i w.state.log))
    {row : Ticket} (found : (w.state.view engine i).tickets.get? id = some row) :
    row.createdAt ≤ (w.state.context engine env i).began.now := by
  obtain ⟨began, clocked⟩ := reaches_clocked reach monotone
  obtain ⟨uncommitted, _, _, _, _, asked, _⟩ := calls
  have begun : Begun i w.state.log := ⟨_, mem_pastOf.mp asked, by simp [Event.isStatementOf]⟩
  obtain ⟨opened, open_, now⟩ :=
    (clocked.opened i _ running (uncommitted_of_commitsOf uncommitted)).1 begun
  have start : (w.state.context engine env i).began.now = began i := by
    simpa [State.context, open_] using now
  rw [start]
  have view : w.state.view engine i =
      engine.applyAll db (committedWrites w.state.log ++ (w.state.tx i).writes) := by
    rw [State.view, (reaches_provenance reach).replay, storeAt, Engine.applyAll_append]
  have serial := reaches_serial reach
  have checked : Checked engine Database.row Sound db
      (committedWrites w.state.log ++ (w.state.tx i).writes) :=
    checked_append.mpr ⟨serial.history, serial.replay ▸ serial.pending i⟩
  rw [view] at found
  rcases createdAt_origin checked found with ⟨old, there, same⟩ | ⟨new, member, named, same⟩
  · rw [← same]
    exact (base old (Table.mem_of_get? there)).trans (clocked.since i begun)
  · rw [← same]
    rcases List.mem_append.mp member with committed | pending
    · obtain ⟨n, j, writes, commit, written⟩ := mem_committedWrites_at committed
      have opens := commits_insert (commits_at reach commit) written
      obtain ⟨_, _, _, _, opens⟩ := opens
      have created : new.createdAt = began j :=
        clocked.committed n _ commit writes rfl (uncommitted_of_commitsOf opens.first) _ written
      have earlier :=
        first _ (List.mem_of_getElem? commit) ⟨_, written, by simp [insertedId, named]⟩
      rw [created]
      exact clocked.order i j begun earlier
    · obtain ⟨other, open', stamped⟩ := clocked.pending i _ pending
      cases open_.symm.trans open'
      have created : new.createdAt = opened.now := stamped
      rw [created, now]

/-! ## What a run keeps -/

theorem called_later
    (reach : Reaches engine env CreatorBeganFirst (initial hexdigest requests db) w)
    (monotone : Monotone fun tick => (env tick).now) (base : Timely (env 0).now db) :
    Serial engine Database.row (Keeps CalledLater) db w.state := by
  refine reach.serial engine_rowed fun w i stmt next value writes locks before meets running exec => ?_
  have follows := (reaches_conduct before).2 i
  rw [running] at follows
  have allowed := (follows _ _ _ _ exec).1
  refine checked_tickets exec (fun old write other => keeps_of_other old other) ?_ ?_ ?_
  · rintro new rfl
    rintro calledAt ⟨⟩
  · rintro id locationId serviceId counterId row rfl free found waits
    rw [CreatorBeganFirst, running] at meets
    have ordered := created_before_call before monotone base.created running allowed
      (meets free row found waits) found
    refine ⟨row, rfl, fun _ => ?_⟩
    rintro calledAt ⟨⟩
    exact ordered
  · rintro id set row rfl _ _
    refine ⟨row, rfl, fun before calledAt called => before calledAt ?_⟩
    simpa [TicketUpdate.apply, allowed.2.called] using called

theorem eventsFit_applyAll {writes : List Write}
    (checked : Checked engine Database.row Sound db writes) (fit : EventsFit db)
    (new : ∀ event, .insert (.event event) ∈ writes → ∃ ticket,
      (engine.applyAll db writes).tickets.get? event.ticketId = some ticket ∧
        EventFits event ticket) :
    EventsFit (engine.applyAll db writes) := by
  intro event member
  have mine : event ∈ (engine.applyAll db writes).eventsOf event.ticketId :=
    List.mem_filter.mpr ⟨member, by simp⟩
  rw [eventsOf_applyAll checked] at mine
  rcases List.mem_append.mp mine with old | logged
  · obtain ⟨ticket, found, fits⟩ := fit event (List.mem_filter.mp old).1
    obtain ⟨later, located, same⟩ :=
      column_kept (fun _ _ becomes => becomes.createdAt) checked found
    refine ⟨later, located, ?_⟩
    rwa [EventFits, same]
  · obtain ⟨write, written, stored⟩ := List.mem_filterMap.mp logged
    obtain ⟨_, rfl⟩ := event?_eq_some.mp stored
    exact new event written

/-- The writes of one transaction carry one time. -/
theorem stamped_pending {began : ι → Time} (clocked : Clocked env Env.now Stamped began w) :
    ∃ now, ∀ write ∈ (w.state.tx i).writes, Stamped now write := by
  cases open_ : (w.state.tx i).began with
  | none =>
      refine ⟨0, fun write member => ?_⟩
      obtain ⟨_, impossible, _⟩ := clocked.pending i write member
      rw [open_] at impossible
      cases impossible
  | some env =>
      refine ⟨env.now, fun write member => ?_⟩
      obtain ⟨other, same, stamped⟩ := clocked.pending i write member
      cases open_.symm.trans same
      exact stamped

theorem eventFits_commit {request : Request} {past : List Act} {writes : List Write} {now : Time}
    (queues : Queues request) (commits : request.commits hexdigest env past writes)
    (stamped : ∀ write ∈ writes, Stamped now write)
    (later : ∀ ticket ∈ (engine.applyAll db writes).tickets.rows, CalledLater ticket) :
    ∀ event, .insert (.event event) ∈ writes → ∃ ticket,
      (engine.applyAll db writes).tickets.get? event.ticketId = some ticket ∧
        EventFits event ticket := by
  have creation {locationId : UUID}
      (created : request.commitsCreation hexdigest env past locationId writes) :
      ∀ event, .insert (.event event) ∈ writes → ∃ ticket,
        (engine.applyAll db writes).tickets.get? event.ticketId = some ticket ∧
          EventFits event ticket := by
    intro other member
    rcases created with ⟨row, event, rfl, opens⟩ | ⟨record, rfl, _⟩
    · simp only [List.mem_cons, Write.insert.injEq, Row.event.injEq, reduceCtorEq,
        List.not_mem_nil, or_false, false_or] at member
      subst member
      have created : row.createdAt = now := stamped _ List.mem_cons_self
      have occurred : other.occurredAt = now :=
        stamped (.insert (.event other)) (by simp) (.inl opens.eventType)
      refine ⟨row, by simp [engine, Database.apply, Database.put, opens.ticketId], ?_⟩
      simp [EventFits, created, occurred]
    · simp at member
  cases request with
  | createTicket data actor key => exact creation commits
  | kioskCreateTicket body key => exact creation commits
  | callNext counterId body actor key =>
      intro other member
      rcases commits with ⟨rfl, _⟩ | ⟨row, event, rfl, calls⟩ | ⟨record, rfl, _⟩
      · cases member
      · simp only [List.mem_cons, Write.insert.injEq, Row.event.injEq, reduceCtorEq,
          List.not_mem_nil, or_false, false_or] at member
        subst member
        have called : row.calledAt = some now := stamped _ List.mem_cons_self calls.status
        have occurred : other.occurredAt = now :=
          stamped (.insert (.event other)) (by simp) (.inr calls.eventType)
        have found :
          (engine.applyAll db [.update (.ticket row), .insert (.event other)]).tickets.get?
            other.ticketId = some row := by
          simp [engine, Database.apply, Database.put, calls.ticketId]
        refine ⟨row, found, fun isCreated => ?_, fun _ => ?_⟩
        · rw [calls.eventType] at isCreated
          cases isCreated
        · rw [occurred]
          exact later row (Table.mem_of_get? found) now called
      · simp at member
  | _ => exact queues.elim

theorem eventsFit_stay
    (reach : Reaches engine env CreatorBeganFirst (initial hexdigest requests db) w)
    (monotone : Monotone fun tick => (env tick).now) (base : Timely (env 0).now db)
    (queues : ∀ i, Queues (requests i)) : EventsFit w.state.store := by
  refine reach.moves (motive := fun w => EventsFit w.state.store) base.events ?_
  intro w i program session state before fit running moved _
  cases moved with
  | committed rest =>
      have follows := (reaches_conduct before).2 i
      rw [running] at follows
      obtain ⟨began, clocked⟩ := reaches_clocked before monotone
      have serial := called_later before monotone base
      refine eventsFit_applyAll ((reaches_serial before).pending i) fit ?_
      obtain ⟨now, stamped⟩ := stamped_pending clocked
      refine eventFits_commit (queues i) follows.1 stamped ?_
      exact kept_of_keeps (serial.pending i)
        (serial.replay ▸ kept_of_keeps serial.history base.called)
  | _ => exact fit

/-- With the parameters bound. -/
theorem bound_never_called_before_created
    (reach : Reaches engine env CreatorBeganFirst (initial hexdigest requests db) w)
    (monotone : Monotone fun tick => (env tick).now) (base : Timely (env 0).now db)
    (queues : ∀ i, Queues (requests i)) : CausalTimes w.state.store := by
  have serial := called_later reach monotone base
  refine causalTimes ?_ (eventsFit_stay reach monotone base queues)
  rw [serial.replay]
  exact kept_of_keeps serial.history base.called

theorem creatorBeganFirst_of_unrefused (unrefused : Unrefused w i) : CreatorBeganFirst w i := by
  unfold CreatorBeganFirst
  split
  · rename_i id locationId serviceId counterId next running
    have sent := unrefused (.callTicket id locationId serviceId counterId)
      (by simp [running, Session.stmt?])
    simp at sent
  · trivial

/-- As the statements are sent. -/
theorem never_called_before_created
    (reach : Reachable sentEngine env (initial hexdigest requests db) w)
    (monotone : Monotone fun tick => (env tick).now) (base : Timely (env 0).now db)
    (queues : ∀ i, Queues (requests i)) : CausalTimes w.state.store := by
  obtain ⟨mirror, mirrors, onward⟩ := sent_mirrored reach
  rw [← mirrors.state]
  exact bound_never_called_before_created
    (onward.weaken fun _ _ unrefused => creatorBeganFirst_of_unrefused unrefused) monotone base queues

/-! ## A call that began first -/

theorem tickingEnv_monotone : Monotone fun tick => (tickingEnv tick).now :=
  fun _ _ ordered => Nat.add_le_add_left ordered _

def arrival : Fin 2 → Request
  | 0 => .callNext 30 {} clerk none
  | 1 => .createTicket (visit 10 (some 20)) clerk none

theorem calledOffice_timely (tick : Nat) : Timely (tickingEnv tick).now calledOffice := by
  have later : hours 1 ≤ (tickingEnv tick).now := Nat.le_add_right _ _
  refine ⟨?_, ?_, ?_⟩
  · rintro ticket member
    obtain rfl := List.mem_singleton.mp member
    exact Nat.le_trans (by decide) later
  · rintro ticket member calledAt called
    obtain rfl := List.mem_singleton.mp member
    cases called
    decide
  · rintro event member
    rcases List.mem_cons.mp member with rfl | member
    · exact ⟨calledTicket, by decide, fun _ => by decide, nofun⟩
    · obtain rfl := List.mem_singleton.mp member
      exact ⟨calledTicket, by decide, nofun, fun _ => by decide⟩

theorem never_called_before_created_arrival :
    CausalTimes ((initial textDigest arrival calledOffice).after sentEngine tickingEnv
      (.run 0 :: runs 1 ++ runs 0)).state.store :=
  never_called_before_created (reachable_after _) tickingEnv_monotone (calledOffice_timely 0) fun
    | 0 => trivial
    | 1 => trivial

def arrivalStart : AppWorld (Fin 2) := initial textDigest arrival (office .empty)

theorem office_timely (now : Time) : Timely now (office .empty) where
  created _ member := absurd member List.not_mem_nil
  called _ member := absurd member List.not_mem_nil
  events _ member := absurd member List.not_mem_nil

theorem bound_never_called_before_created_arrival :
    CausalTimes (arrivalStart.after engine tickingEnv (runs 1 ++ runs 0)).state.store :=
  bound_never_called_before_created (reaches_after (by decide +kernel)) tickingEnv_monotone
    (office_timely _) fun
      | 0 => trivial
      | 1 => trivial

/-- The call looks up its counter, the ticket is created, and then the CTE finds it, if it runs. -/
theorem called_before_created : ∃ w, Reachable engine tickingEnv arrivalStart w ∧
    ¬ CausalTimes w.state.store :=
  ⟨arrivalStart.after engine tickingEnv ([.run 0] ++ runs 1 ++ runs 0), reachable_after _,
    fun causal => absurd causal.called (by decide +kernel)⟩

end QueueFlow.Concurrency
