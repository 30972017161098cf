import QueueFlow.Concurrency.Lifecycle
import QueueFlow.Conduct.Logging

/-!
# The event log

Every commit logs one event for each INSERT and each UPDATE of a ticket. The trigger lets an UPDATE
pass that leaves the status as it is, so the log tells the changes of status exactly as long as no
such UPDATE runs.
-/

namespace QueueFlow.Concurrency
open QueueFlow.App QueueFlow.Data QueueFlow.Tables QueueFlow.Transactions

variable {ι : Type} [DecidableEq ι] {hexdigest : PyDict → String} {env : Nat → Env}
  {requests : ι → Request} {db : Database} {w : AppWorld ι}

/-! ## What the log should say -/

def loggedEvents (log : List (Entry ι)) (id : UUID) : List TicketEvent :=
  (committedWrites log).filterMap (Write.event? id)

/-- The values that differ from the one before them. -/
def changes : List TicketStatus → List TicketStatus
  | old :: new :: rest =>
      if new = old then changes (new :: rest) else new :: changes (new :: rest)
  | _ => []

/-- A ticket that was there before the run has its CREATED event from then. -/
def exactEvents (db : Database) (log : List (Entry ι)) (id : UUID) : List EventType :=
  let changed := (changes (statusHistory db log id)).map EventType.ofStatus
  if (db.tickets.get? id).isSome ∨ statusHistory db log id = [] then changed
  else .created :: changed

def LogExact (db : Database) (log : List (Entry ι)) (id : UUID) : Prop :=
  (loggedEvents log id).map TicketEvent.eventType = exactEvents db log id

instance (db : Database) (log : List (Entry ι)) (id : UUID) : Decidable (LogExact db log id) :=
  inferInstanceAs (Decidable (_ = _))

theorem changes_of_isChain {history : List TicketStatus}
    (differ : history.IsChain fun old new => old ≠ new) : changes history = history.tail := by
  induction history with
  | nil => rfl
  | cons first rest ih =>
      cases rest with
      | nil => rfl
      | cons second rest =>
          obtain ⟨different, onward⟩ := List.isChain_cons_cons.mp differ
          rw [changes, if_neg different.symm, ih onward]
          rfl

/-! ## Runs that only write new statuses -/

def Fresh (old : Option Row) : Write → Prop
  | .update (.ticket new) => ∀ row, old = some (.ticket row) → row.status ≠ new.status
  | _ => True

/-- The next step of session `i` is not the UPDATE of a ticket that has the new status already. -/
def WritesNewStatus (w : AppWorld ι) (i : ι) : Prop :=
  match w.session i with
  | .running (.performs (.write (.updateTicket ticketId set)) _) =>
      ∀ row ∈ (w.state.view engine i).tickets.get? ticketId, row.status ≠ set.status
  | _ => True

omit [DecidableEq ι] in
theorem writesNewStatus_iff (w : AppWorld ι) (i : ι) :
    (∀ stmt ∈ (w.session i).stmt?, ∀ update ∈ stmt.ticketUpdate?,
      ∀ row ∈ (w.state.view engine i).tickets.get? update.1, row.status ≠ update.2.status) ↔
      WritesNewStatus w i :=
  forall_ticketUpdate_iff (fun id set =>
    ∀ row ∈ (w.state.view engine i).tickets.get? id, row.status ≠ set.status) _

instance (w : AppWorld ι) (i : ι) : Decidable (WritesNewStatus w i) :=
  decidable_of_iff _ (writesNewStatus_iff w i)

theorem checked_fresh {stmt : Stmt} {context : Context Database Lock Env} {value : stmt.Res}
    {writes : List Write} {locks : List Lock} (exec : stmt.exec context = .done value writes locks)
    (fresh : ∀ ticketId set row, stmt = .write (.updateTicket ticketId set) →
      context.view.tickets.get? ticketId = some row → row.status ≠ set.status) :
    Checked engine Database.row Fresh context.view writes := by
  refine checked_tickets exec ?_ (fun _ _ => trivial) ?_ ?_
  · intro old write elsewhere
    cases write with
    | update row =>
        cases row with
        | ticket row => exact (elsewhere row.id rfl).elim
        | _ => trivial
    | _ => trivial
  · rintro id locationId serviceId counterId row _ _ _ waits _ ⟨⟩
    rw [waits.2.1]
    nofun
  · rintro id set row same found _ _ ⟨⟩
    exact fresh id set row same found

theorem reaches_fresh (reach : Reaches engine env WritesNewStatus
    (initial hexdigest requests db) w) : Serial engine Database.row Fresh db w.state := by
  refine reach.serial engine_rowed fun _ i stmt _ _ _ _ before meets running exec =>
    checked_fresh exec ?_
  rintro ticketId set row rfl found
  rw [WritesNewStatus, running] at meets
  exact meets row found

theorem fresh_history (reach : Reaches engine env WritesNewStatus
    (initial hexdigest requests db) w) (id : UUID) :
    (statusHistory db w.state.log id).IsChain fun old new => old ≠ new := by
  have sound := (reaches_serial (reach.weaken fun _ _ _ => trivial)).history
  have fresh := (reaches_fresh reach).history
  refine List.isChain_map_of_isChain Ticket.status (fun _ _ differ => differ)
    (isChain_versions (R := fun old new => old.status ≠ new.status) ?_ ?_ (sound.and fresh))
  · exact fun old row ok => ok.1
  · rintro old row ⟨⟨before, rfl, _⟩, fresh⟩
    exact ⟨before, rfl, fresh before rfl⟩

/-! ## The log -/

theorem logged_eq (reach : Reachable engine env (initial hexdigest requests db) w) (id : UUID) :
    Logs id (committedWrites w.state.log) := by
  have each : ∀ entry ∈ w.state.log, Logs id entry.writes := by
    rintro ⟨owner, action⟩ member
    cases action with
    | committed writes =>
        obtain ⟨n, inside, found⟩ := List.getElem_of_mem member
        have commit : CommitAt w.state.log n owner writes :=
          List.getElem?_eq_some_iff.mpr ⟨inside, found⟩
        exact logs_commits (commits_at reach commit)
    | _ => rfl
  generalize w.state.log = log at each
  induction log with
  | nil => rfl
  | cons entry log ih =>
      refine logs_append (each entry List.mem_cons_self) (ih ?_)
      exact fun other member => each other (List.mem_cons_of_mem _ member)

theorem final_events (reach : Reachable engine env (initial hexdigest requests db) w) (id : UUID) :
    w.state.store.eventsOf id = db.eventsOf id ++ loggedEvents w.state.log id := by
  rw [(reaches_serial reach).replay]
  exact eventsOf_applyAll (reaches_serial reach).history

theorem event_log_exact (reach : Reaches engine env WritesNewStatus
    (initial hexdigest requests db) w) (id : UUID) : LogExact db w.state.log id := by
  have anyway := reach.reachable
  have logged : (loggedEvents w.state.log id).map TicketEvent.eventType = _ := logged_eq anyway id
  have sound := (reaches_serial anyway).history
  have exact_changes := changes_of_isChain (fresh_history reach id)
  rw [LogExact, logged, exactEvents, exact_changes]
  cases present : db.tickets.get? id with
  | some row =>
      rw [loggedAs_of_present sound present]
      simp [statusHistory, present]
  | none =>
      rw [loggedAs_of_absent sound present]
      cases versions : ticketVersions id (committedWrites w.state.log) with
      | nil => simp [statusHistory, present, versions]
      | cons first later => simp [statusHistory, present, versions]

theorem rounds_write_new_statuses :
    Reaches engine steadyEnv WritesNewStatus roundsStart roundsWorld :=
  reaches_after (by decide +kernel)

theorem event_log_exact_rounds : LogExact (office .empty) roundsWorld.state.log 1001 :=
  event_log_exact rounds_write_new_statuses 1001

def starts : Nat → Request
  | 0 => .createTicket (visit 10 (some 20)) clerk none
  | 1 => .callNext 30 {} clerk none
  | _ => .startService 1001 clerk none

def startsStart : AppWorld Nat := initial textDigest starts (office .empty)

/-- Both have read the ticket before the first of them commits. -/
theorem second_start_logged : ∃ w, Reachable engine steadyEnv startsStart w ∧
    (loggedEvents w.state.log 1001).map TicketEvent.eventType =
      [.created, .called, .inService, .inService] ∧
    ¬ LogExact (office .empty) w.state.log 1001 :=
  ⟨startsStart.after engine steadyEnv
      (runs 0 ++ runs 1 ++ [.run 2, .run 3] ++ runs 2 ++ runs 3), reachable_after _,
    by decide +kernel, by decide +kernel⟩

end QueueFlow.Concurrency
