import QueueFlow.App.AnalyticsRepo
import QueueFlow.Conduct.Logging
import QueueFlow.Concurrency.CallTimes
import QueueFlow.Concurrency.StatusChain
import QueueFlow.Concurrency.Timestamps

/-!
# What the metrics measure

The metrics subtract columns of the ticket row. A second call overwrites the time of the first one,
and a ticket that was held or transferred keeps the start of its service until it is ended.
-/

namespace QueueFlow.Concurrency
open QueueFlow.App QueueFlow.Data QueueFlow.Tables QueueFlow.Transactions

variable {ι : Type} [DecidableEq ι] {hexdigest : PyDict → String} {env : Nat → Env}
  {requests : ι → Request} {request : Request} {db store : Database} {past : List Act}
  {writes : List Write} {i : ι} {lo hi now : Time} {row old new : Ticket} {event : TicketEvent}

/-- Of the tickets that `kpiSummary` reads: until its call a ticket only waited, and until its end
its service was not interrupted. -/
structure IntervalsMeasured (db : Database) (locationId : UUID) (fromDt toDt : Time) : Prop where
  wait : ∀ ticket ∈ db.createdIn locationId fromDt toDt, ∀ calledAt ∈ ticket.calledAt,
    ∀ event ∈ db.eventsOf ticket.id, event.eventType = .inService →
      ¬ (ticket.createdAt ≤ event.occurredAt ∧ event.occurredAt < calledAt)
  service : ∀ ticket ∈ db.createdIn locationId fromDt toDt,
    ∀ startedAt ∈ ticket.serviceStartedAt, ∀ completedAt ∈ ticket.completedAt,
      ∀ event ∈ db.eventsOf ticket.id, event.eventType ≠ .noteAdded →
        ¬ (startedAt < event.occurredAt ∧ event.occurredAt < completedAt)

instance (db : Database) (locationId : UUID) (fromDt toDt : Time) :
    Decidable (IntervalsMeasured db locationId fromDt toDt) :=
  decidable_of_iff ((∀ ticket ∈ db.createdIn locationId fromDt toDt, ∀ calledAt ∈ ticket.calledAt,
      ∀ event ∈ db.eventsOf ticket.id, event.eventType = .inService →
        ¬ (ticket.createdAt ≤ event.occurredAt ∧ event.occurredAt < calledAt)) ∧
    ∀ ticket ∈ db.createdIn locationId fromDt toDt,
      ∀ startedAt ∈ ticket.serviceStartedAt, ∀ completedAt ∈ ticket.completedAt,
        ∀ event ∈ db.eventsOf ticket.id, event.eventType ≠ .noteAdded →
          ¬ (startedAt < event.occurredAt ∧ event.occurredAt < completedAt))
    ⟨fun ⟨wait, service⟩ => ⟨wait, service⟩, fun measured => ⟨measured.wait, measured.service⟩⟩

/-- A ticket whose service has started is not called, and only ended while it is in service. -/
def KeepsIntervals (old new : Ticket) : Prop :=
  old.serviceStartedAt.isSome → new.status ≠ .called ∧
    (new.status ∈ TicketStatus.terminal → old.status = .inService)

instance (old new : Ticket) : Decidable (KeepsIntervals old new) :=
  inferInstanceAs (Decidable (_ → _ ∧ (_ → _)))

/-! ## One ticket -/

structure Paced (now : Time) (ticket : Ticket) : Prop where
  calledPast : ∀ time ∈ ticket.calledAt, time ≤ now
  startedPast : ∀ time ∈ ticket.serviceStartedAt, time ≤ now
  called : ticket.status = .called → ticket.serviceStartedAt = none
  serving : ticket.status = .inService → ticket.serviceStartedAt.isSome
  unfinished : ticket.status ∉ TicketStatus.terminal → ticket.completedAt = none

structure Agrees (now : Time) (event : TicketEvent) (ticket : Ticket) : Prop where
  started : event.eventType = .inService → ticket.serviceStartedAt.isSome
  called : event.eventType = .inService → ∀ time ∈ ticket.calledAt, time ≤ event.occurredAt
  serving : ticket.status = .inService → ∀ time ∈ ticket.serviceStartedAt, event.occurredAt ≤ time
  whole : ∀ startedAt ∈ ticket.serviceStartedAt, ∀ completedAt ∈ ticket.completedAt,
    event.occurredAt ≤ startedAt ∨ completedAt ≤ event.occurredAt
  unstarted : ticket.serviceStartedAt = none → ticket.status ∉ TicketStatus.terminal →
    event.occurredAt ≤ now

theorem Paced.later (paced : Paced lo row) (ordered : lo ≤ hi) : Paced hi row :=
  { paced with
    calledPast := fun time member => (paced.calledPast time member).trans ordered
    startedPast := fun time member => (paced.startedPast time member).trans ordered }

theorem Agrees.later (agrees : Agrees lo event row) (ordered : lo ≤ hi) : Agrees hi event row :=
  { agrees with unstarted := fun since open_ => (agrees.unstarted since open_).trans ordered }

theorem times_of_stamps {set : TicketUpdate} (now : Time) (row : Ticket) (stamps : set.Stamps env) :
    (set.apply now row).calledAt = row.calledAt ∧
    (set.status ≠ .inService → (set.apply now row).serviceStartedAt = row.serviceStartedAt) ∧
    (set.status ∉ TicketStatus.terminal → (set.apply now row).completedAt = row.completedAt) := by
  refine ⟨by simp [TicketUpdate.apply, stamps.called], fun stays => ?_, fun lasts => ?_⟩
  · have unset : set.serviceStartedAt = none := by simpa using mt stamps.started.mp stays
    simp [TicketUpdate.apply, unset]
  · have unset : set.completedAt = none := by simpa using mt stamps.completed.mp lasts
    simp [TicketUpdate.apply, unset]

theorem starts_of_stamps {set : TicketUpdate} (now : Time) (row : Ticket) (stamps : set.Stamps env)
    (starts : set.status = .inService) :
    ∃ tick, (set.apply now row).serviceStartedAt = some (env tick).now := by
  obtain ⟨time, stamped⟩ := Option.isSome_iff_exists.mp (stamps.started.mpr starts)
  obtain ⟨tick, rfl⟩ := stamps.startedClock time stamped
  exact ⟨tick, by simp [TicketUpdate.apply, stamped]⟩

section
variable (clock : ∀ tick, lo ≤ (env tick).now ∧ (env tick).now ≤ hi)
include clock

theorem paced_update {set : TicketUpdate} (stamps : set.Stamps env) (paced : Paced lo row)
    (uncalled : set.status ≠ .called)
    (allowed : set.status = row.status ∨ set.status ∈ validTransitions row.status) :
    Paced hi (set.apply now row) := by
  obtain ⟨called, started, completed⟩ := times_of_stamps now row stamps
  have later : lo ≤ hi := (clock 0).1.trans (clock 0).2
  constructor
  · rw [called]
    exact fun time member => (paced.calledPast time member).trans later
  · by_cases starts : set.status = .inService
    · obtain ⟨tick, stamped⟩ := starts_of_stamps now row stamps starts
      rw [stamped]
      rintro time ⟨⟩
      exact (clock tick).2
    · rw [started starts]
      exact fun time member => (paced.startedPast time member).trans later
  · exact fun called => (uncalled called).elim
  · intro starts
    obtain ⟨tick, stamped⟩ := starts_of_stamps now row stamps starts
    simp [stamped]
  · intro lasts
    rw [completed lasts]
    exact paced.unfinished fun terminal => lasts (terminal_of_allowed allowed terminal)

theorem paced_step (step : TicketStep env store (some old) new) (paced : Paced lo old)
    (keeps : KeepsIntervals old new) : Paced hi new := by
  have later : lo ≤ hi := (clock 0).1.trans (clock 0).2
  cases step with
  | kept => exact paced.later later
  | called row counterId tick waits counter =>
      have unstarted : old.serviceStartedAt = none := by
        by_contra started
        exact (keeps (Option.isSome_iff_ne_none.mpr started)).1 rfl
      have unfinished := paced.unfinished (by simp [waits, TicketStatus.terminal])
      constructor
      · rintro time ⟨⟩
        exact (clock tick).2
      · simp [callUpdate, TicketUpdate.apply, unstarted]
      · exact fun _ => by simp [callUpdate, TicketUpdate.apply, unstarted]
      · simp [callUpdate, TicketUpdate.apply]
      · simp [callUpdate, TicketUpdate.apply, unfinished]
  | changed row set tick stamps target allowed =>
      refine paced_update clock stamps paced (fun called => ?_) allowed
      rw [called] at target
      simp at target
  | transferred row set requeue tick tick' serving stamps stamps' leaves waits =>
      have lasts : old.completedAt = none :=
        paced.unfinished (by simp [serving, TicketStatus.terminal])
      obtain ⟨called, started, completed⟩ :=
        times_of_stamps (env tick).now old stamps
      obtain ⟨called', started', completed'⟩ :=
        times_of_stamps (env tick').now (set.apply (env tick).now old) stamps'
      constructor
      · rw [called', called]
        exact fun time member => (paced.calledPast time member).trans later
      · rw [started' (by simp [waits]), started (by simp [leaves])]
        exact fun time member => (paced.startedPast time member).trans later
      · simp [TicketUpdate.apply, waits]
      · simp [TicketUpdate.apply, waits]
      · rw [completed' (by simp [waits, TicketStatus.terminal]),
          completed (by simp [leaves, TicketStatus.terminal])]
        exact fun _ => lasts

theorem agrees_update {set : TicketUpdate} (stamps : set.Stamps env) (paced : Paced lo row)
    (agrees : Agrees lo event row)
    (allowed : set.status = row.status ∨ set.status ∈ validTransitions row.status)
    (keeps : KeepsIntervals row (set.apply now row)) : Agrees hi event (set.apply now row) := by
  obtain ⟨called, started, completed⟩ := times_of_stamps now row stamps
  have lasts (open_ : set.status ∉ TicketStatus.terminal) :
      row.status ∉ TicketStatus.terminal := fun terminal =>
    open_ (terminal_of_allowed allowed terminal)
  by_cases starts : set.status = .inService
  · obtain ⟨tick, stamped⟩ := starts_of_stamps now row stamps starts
    have open_ : set.status ∉ TicketStatus.terminal := by simp [starts, TicketStatus.terminal]
    have before : event.occurredAt ≤ (env tick).now := by
      cases since : row.serviceStartedAt with
      | none => exact (agrees.unstarted since (lasts open_)).trans (clock tick).1
      | some time =>
          refine ((agrees.serving ?_ time since).trans (paced.startedPast time since)).trans
            (clock tick).1
          rcases allowed with same | valid
          · exact same.symm.trans starts
          · rw [starts] at valid
            have called : row.status = .called := by
              generalize row.status = status at valid
              cases status <;> simp_all [validTransitions]
            rw [paced.called called] at since
            cases since
    constructor
    · exact fun _ => by simp [stamped]
    · rw [called]
      exact agrees.called
    · rw [stamped]
      rintro _ time ⟨⟩
      exact before
    · rw [completed open_, paced.unfinished (lasts open_)]
      simp
    · simp [stamped]
  · have started := started starts
    constructor
    · rw [started]
      exact agrees.started
    · rw [called]
      exact agrees.called
    · exact fun serving => (starts serving).elim
    · by_cases ends : set.status ∈ TicketStatus.terminal
      · rw [started]
        intro startedAt since completedAt _
        have serving := (keeps (by rw [Option.mem_def.mp since]; rfl)).2 ends
        exact .inl (agrees.serving serving startedAt since)
      · rw [completed ends, paced.unfinished (lasts ends)]
        simp
    · rw [started]
      intro unstarted open_
      exact (agrees.unstarted unstarted (lasts open_)).trans ((clock 0).1.trans (clock 0).2)

theorem agrees_step (step : TicketStep env store (some old) new) (paced : Paced lo old)
    (agrees : Agrees lo event old) (keeps : KeepsIntervals old new) : Agrees hi event new := by
  have later : lo ≤ hi := (clock 0).1.trans (clock 0).2
  cases step with
  | kept => exact agrees.later later
  | called row counterId tick waits counter =>
      have unstarted : old.serviceStartedAt = none := by
        by_contra started
        exact (keeps (Option.isSome_iff_ne_none.mpr started)).1 rfl
      have other : event.eventType ≠ .inService := fun serving => by
        simpa [unstarted] using agrees.started serving
      have before := agrees.unstarted unstarted (by simp [waits, TicketStatus.terminal])
      constructor
      · exact fun serving => (other serving).elim
      · exact fun serving => (other serving).elim
      · simp [callUpdate, TicketUpdate.apply]
      · simp [callUpdate, TicketUpdate.apply, unstarted]
      · exact fun _ _ => before.trans later
  | changed row set tick stamps target allowed =>
      exact agrees_update clock stamps paced agrees allowed keeps
  | transferred row set requeue tick tick' serving stamps stamps' leaves waits =>
      have since := paced.serving serving
      have lasts : old.completedAt = none :=
        paced.unfinished (by simp [serving, TicketStatus.terminal])
      obtain ⟨called, started, completed⟩ :=
        times_of_stamps (env tick).now old stamps
      obtain ⟨called', started', completed'⟩ :=
        times_of_stamps (env tick').now (set.apply (env tick).now old) stamps'
      have started := (started' (by simp [waits])).trans (started (by simp [leaves]))
      constructor
      · rw [started]
        exact agrees.started
      · rw [called', called]
        exact agrees.called
      · simp [TicketUpdate.apply, waits]
      · rw [completed' (by simp [waits, TicketStatus.terminal]),
          completed (by simp [leaves, TicketStatus.terminal]), lasts]
        simp
      · intro unstarted
        rw [← started, unstarted] at since
        cases since

end

theorem agrees_logged (paced : Paced hi new)
    (timely : new.serviceStartedAt = none → new.status ∉ TicketStatus.terminal →
      event.occurredAt ≤ hi)
    (starts : event.eventType = .inService → new.serviceStartedAt = some event.occurredAt ∧
      ∀ time ∈ new.calledAt, time ≤ event.occurredAt)
    (serving : new.status = .inService → event.eventType = .inService)
    (ends : new.status ∈ TicketStatus.terminal → new.serviceStartedAt.isSome →
      new.completedAt = some event.occurredAt) : Agrees hi event new where
  started kind := by rw [(starts kind).1]; rfl
  called kind := (starts kind).2
  serving status := by
    rw [(starts (serving status)).1]
    rintro time ⟨⟩
    exact Nat.le_refl _
  whole startedAt since completedAt until_ := by
    by_cases terminal : new.status ∈ TicketStatus.terminal
    · have completed := ends terminal (by rw [Option.mem_def.mp since]; rfl)
      rw [completed] at until_
      cases until_
      exact .inr (Nat.le_refl _)
    · rw [paced.unfinished terminal] at until_
      cases until_
  unstarted := timely

/-! ## All tickets -/

structure Measured (now : Time) (db : Database) : Prop where
  tickets : ∀ ticket ∈ db.tickets.rows, Paced now ticket
  events : ∀ event ∈ db.ticketEvents.rows, event.eventType ≠ .noteAdded →
    ∃ ticket, db.tickets.get? event.ticketId = some ticket ∧ Agrees now event ticket

theorem Measured.intervals (measured : Measured now db) (locationId : UUID)
    (fromDt toDt : Time) : IntervalsMeasured db locationId fromDt toDt := by
  have agrees {ticket : Ticket} (counted : ticket ∈ db.createdIn locationId fromDt toDt)
      {event : TicketEvent} (logged : event ∈ db.eventsOf ticket.id)
      (status : event.eventType ≠ .noteAdded) : Agrees now event ticket := by
    obtain ⟨member, mine⟩ := List.mem_filter.mp logged
    obtain ⟨other, found, agrees⟩ := measured.events event member status
    have there : db.tickets.get? ticket.id = some ticket :=
      Table.get?_of_mem (List.mem_filter.mp counted).1
    rw [of_decide_eq_true mine, there] at found
    cases found
    exact agrees
  constructor
  · rintro ticket counted calledAt called event logged serves ⟨_, before⟩
    have after := (agrees counted logged (by simp [serves])).called serves calledAt called
    exact Nat.not_le_of_gt before after
  · rintro ticket counted startedAt since completedAt until_ event logged status ⟨after, before⟩
    rcases (agrees counted logged status).whole startedAt since completedAt until_ with
      earlier | later
    · exact Nat.not_le_of_gt after earlier
    · exact Nat.not_le_of_gt before later

def updatedTicket : Write → Option Ticket
  | .update (.ticket row) => some row
  | _ => none

def KeptBy (store : Database) (write : Write) : Prop :=
  ∀ new ∈ updatedTicket write, ∀ old ∈ store.tickets.get? new.id, KeepsIntervals old new

instance (store : Database) (write : Write) : Decidable (KeptBy store write) :=
  inferInstanceAs (Decidable (∀ new ∈ updatedTicket write, _))

theorem kept_or_updated {id : UUID} (serving : Serving hexdigest env request db past store writes)
    (there : store.tickets.get? id = some old)
    (found : (engine.applyAll store writes).tickets.get? id = some new) :
    new = old ∨ .update (.ticket new) ∈ writes := by
  rw [get?_applyAll, there] at found
  cases versions : ticketVersions id writes with
  | nil =>
      rw [versions] at found
      cases found
      exact .inl rfl
  | cons first rest =>
      rw [versions, List.getLast?_append,
        List.getLast?_eq_some_getLast (List.cons_ne_nil first rest), Option.some_or] at found
      have last : new ∈ ticketVersions id writes := by
        rw [versions, ← Option.some.inj found]
        exact List.getLast_mem _
      obtain ⟨same, inserted | updated⟩ := mem_ticketVersions.mp last
      · obtain ⟨_, event, _, shape, _⟩ := commits_insert serving.commits inserted
        have sound := serving.sound
        rw [shape] at sound
        have absent : store.tickets.get? new.id = none := Option.map_eq_none_iff.mp sound.1
        rw [same, there] at absent
        cases absent
      · exact .inr updated

theorem found_of_written (serving : Serving hexdigest env request db past store writes)
    (other : ∀ ticketId data actor, request ≠ .transferTicket ticketId data actor)
    (written : .insert (.ticket row) ∈ writes ∨ .update (.ticket row) ∈ writes) :
    (engine.applyAll store writes).tickets.get? row.id = some row := by
  have member : row ∈ ticketVersions row.id writes := mem_ticketVersions.mpr ⟨rfl, written⟩
  rcases commits_tickets serving.commits other with untouched | ⟨_, once⟩
  · rcases written with inserted | updated
    · exact (untouched _ inserted row.id rfl).elim
    · exact (untouched _ updated row.id rfl).elim
  · have once := once row.id
    rw [get?_applyAll]
    cases versions : ticketVersions row.id writes with
    | nil =>
        rw [versions] at member
        cases member
    | cons first rest =>
        rw [versions] at member once
        obtain rfl : rest = [] :=
          List.length_eq_zero_iff.mp (Nat.le_zero.mp (Nat.le_of_succ_le_succ once))
        obtain rfl := List.mem_singleton.mp member
        simp [List.getLast?_append]

section
variable (clock : ∀ tick, lo ≤ (env tick).now ∧ (env tick).now ≤ hi)
  (serving : Serving hexdigest env request db past store writes)
  (keeps : ∀ write ∈ writes, KeptBy store write)
  (base : ∀ ticket ∈ store.tickets.rows, Paced lo ticket)
include clock serving keeps base

theorem paced_commit {id : UUID}
    (found : (engine.applyAll store writes).tickets.get? id = some new) : Paced hi new := by
  have step := step_serving serving found
  cases there : store.tickets.get? id with
  | none =>
      rw [there] at step
      cases step with
      | created created id tick waits =>
          exact ⟨nofun, nofun, fun _ => rfl, by simp [NewTicket.row, waits], fun _ => rfl⟩
  | some old =>
      have paced := base old (Table.mem_of_get? there)
      rcases kept_or_updated serving there found with rfl | updated
      · exact paced.later ((clock 0).1.trans (clock 0).2)
      · rw [there] at step
        have same : new.id = id := Table.key_of_get? found
        exact paced_step clock step paced (keeps _ updated new rfl old (same ▸ there))

theorem agrees_commit {id : UUID} (there : store.tickets.get? id = some old)
    (found : (engine.applyAll store writes).tickets.get? id = some new)
    (agrees : Agrees lo event old) : Agrees hi event new := by
  have step := step_serving serving found
  rw [there] at step
  rcases kept_or_updated serving there found with rfl | updated
  · exact agrees.later ((clock 0).1.trans (clock 0).2)
  · have same : new.id = id := Table.key_of_get? found
    exact agrees_step clock step (base old (Table.mem_of_get? there)) agrees
      (keeps _ updated new rfl old (same ▸ there))

theorem logged_change {target : TicketStatus} (change : request.commitsChange past target writes)
    (known : target ∈ [.inService, .hold, .completed, .canceled, .noShow])
    (other : ∀ ticketId data actor, request ≠ .transferTicket ticketId data actor)
    (logged : .insert (.event event) ∈ writes) :
    ∃ new, (engine.applyAll store writes).tickets.get? event.ticketId = some new ∧
      Agrees hi event new := by
  obtain ⟨row, only, episode, shape, first, transitions, changes, episodic, _⟩ := change
  obtain ⟨old, saw, _, _, valid, _⟩ := transitions
  have there := serving.saw_ticket first saw
  have found : (engine.applyAll store writes).tickets.get? row.id = some row :=
    found_of_written serving other (.inr (by simp [shape]))
  have paced := paced_commit clock serving keeps base found
  have pacedOld := base old (Table.mem_of_get? there)
  have step := step_serving serving found
  rw [← changes.ticketId, there] at step
  obtain rfl : event = only := event_of_change episodic (shape ▸ logged)
  refine ⟨row, changes.ticketId ▸ found, ?_⟩
  obtain rfl : row.status = target := changes.status
  have moved : row.status ≠ old.status := fun same =>
    not_mem_validTransitions_self _ (same ▸ valid)
  obtain ⟨set, tick, stamps, rfl⟩ := updated_of_step step moved known
  obtain ⟨called, started, _⟩ := times_of_stamps (env tick).now old stamps
  refine agrees_logged paced (fun since open_ => ?_) (fun kind => ?_) (fun serves => ?_) ?_
  · have held : set.status = .hold := by
      have idle : set.status ≠ .inService := fun serves => by
        simp [changes.started serves] at since
      change set.status ∈ _ at known
      change set.status ∉ _ at open_
      generalize set.status = status at known open_ idle
      cases status <;> simp_all [TicketStatus.terminal]
    have valid : .hold ∈ validTransitions old.status := held ▸ valid
    have isSet := pacedOld.serving (inService_of_hold valid)
    rw [← started (by simp [held]), since] at isSet
    cases isSet
  · have serves : set.status = .inService := by
      rw [changes.eventType] at kind
      change EventType.ofStatus set.status = _ at kind
      generalize set.status = status at kind
      cases status <;> first | rfl | cases kind
    refine ⟨changes.started serves, fun time before => ?_⟩
    obtain ⟨tick', stamped⟩ := starts_of_stamps (env tick).now old stamps serves
    have occurs : event.occurredAt = (env tick').now :=
      Option.some.inj ((changes.started serves).symm.trans stamped)
    rw [called] at before
    rw [occurs]
    exact (pacedOld.calledPast time before).trans (clock tick').1
  · rw [changes.eventType, serves]
    rfl
  · exact fun ends _ => changes.completed ends

theorem logged_transfer {ticketId : UUID} {data : TicketTransfer} {actor : TokenPayload}
    (transfers : request = .transferTicket ticketId data actor)
    (logged : .insert (.event event) ∈ writes) :
    ∃ new, (engine.applyAll store writes).tickets.get? event.ticketId = some new ∧
      Agrees hi event new := by
  subst transfers
  obtain ⟨row, left, requeued, back, shape, first, transitions, changes, requeueing, requeues⟩ :=
    serving.commits
  obtain ⟨old, saw, _, _, valid, _⟩ := transitions
  have there := serving.saw_ticket first saw
  rw [changes.ticketId] at there
  have found : (engine.applyAll store writes).tickets.get? row.id = some requeued := by
    rw [get?_applyAll, shape]
    simp [ticketVersions, List.filterMap_cons, Write.ticket?, requeues.id, List.getLast?_append]
  have paced := paced_commit clock serving keeps base found
  have step := step_serving serving found
  rw [there] at step
  have since : requeued.serviceStartedAt.isSome := by
    have waiting := requeueing.status
    cases step with
    | kept =>
        rw [waiting] at valid
        simp [validTransitions] at valid
    | called => cases waiting
    | changed _ set tick stamps target =>
        have waiting : set.status = .waiting := waiting
        simp [waiting] at target
    | transferred _ set requeue tick tick' serves stamps stamps' leaves waits =>
        rw [(times_of_stamps _ _ stamps').2.1 (by simp [waits]),
          (times_of_stamps _ _ stamps).2.1 (by simp [leaves])]
        exact (base old (Table.mem_of_get? there)).serving serves
  have kinds : event.ticketId = row.id ∧ event.eventType ≠ .inService := by
    rw [shape] at logged
    simp only [List.mem_cons, Write.insert.injEq, Row.event.injEq, reduceCtorEq,
      List.not_mem_nil, or_false, false_or] at logged
    rcases logged with rfl | rfl
    · exact ⟨changes.ticketId, by simp [changes.eventType, EventType.ofStatus]⟩
    · exact ⟨requeueing.ticketId.trans requeues.id,
        by simp [requeueing.eventType, EventType.ofStatus]⟩
  refine ⟨requeued, kinds.1 ▸ found, agrees_logged paced (fun unstarted => ?_)
    (fun serves => (kinds.2 serves).elim) ?_ ?_⟩
  · rw [unstarted] at since
    cases since
  · simp [requeueing.status]
  · simp [requeueing.status, TicketStatus.terminal]

theorem logged_noShows (task : request = .autoNoShowCalledTickets)
    (logged : .insert (.event event) ∈ writes) :
    ∃ new, (engine.applyAll store writes).tickets.get? event.ticketId = some new ∧
      Agrees hi event new := by
  subst task
  obtain ⟨rows, events, shape, marked, kinds, matched, _⟩ := serving.commits
  have listed : event ∈ events := by
    rw [shape] at logged
    simpa using logged
  obtain ⟨row, member, same⟩ := List.mem_map.mp
    (matched.mem_iff.mpr (List.mem_map_of_mem listed))
  have updated : .update (.ticket row) ∈ writes := by simp [shape, member]
  have status := marked row member
  have found := found_of_written serving (by simp) (.inr updated)
  have paced := paced_commit clock serving keeps base found
  have step := step_serving serving found
  -- a ticket whose service had started would have been in service, and the trigger forbids that
  have unstarted : row.serviceStartedAt = none := by
    cases there : store.tickets.get? row.id with
    | none =>
        rw [there] at step
        cases step
        rfl
    | some old =>
        rw [there] at step
        have keeps := keeps _ updated row rfl old there
        rw [KeepsIntervals, status] at keeps
        have idle : old.status ≠ .inService → row.serviceStartedAt = old.serviceStartedAt →
            row.serviceStartedAt = none := by
          intro idle same
          by_contra since
          rw [same] at since
          exact idle ((keeps (Option.isSome_iff_ne_none.mpr since)).2 (by decide))
        cases step with
        | kept => exact idle (by simp [status]) rfl
        | called => cases status
        | changed _ set tick stamps target allowed =>
            have sets : set.status = .noShow := status
            refine idle (fun serves => ?_) ((times_of_stamps _ _ stamps).2.1 (by simp [sets]))
            rw [sets, serves] at allowed
            simp [validTransitions] at allowed
        | transferred _ set requeue _ _ _ _ _ _ waits =>
            have sets : requeue.status = .noShow := status
            simp [waits] at sets
  refine ⟨row, same ▸ found, agrees_logged paced (fun _ open_ => ?_) (fun serves => ?_) ?_ ?_⟩
  · exact (open_ (by simp [status, TicketStatus.terminal])).elim
  · rw [kinds event listed] at serves
    cases serves
  · simp [status]
  · simp [unstarted]

theorem logged_queue (untouched : new.status = .waiting ∨ new.status = .called)
    (kind : event.eventType = .created ∨ event.eventType = .called)
    (stamped : ∃ tick, Stamped (env tick).now (.insert (.event event)))
    (found : (engine.applyAll store writes).tickets.get? event.ticketId = some new) :
    Agrees hi event new := by
  obtain ⟨tick, stamped⟩ := stamped
  have occurs : event.occurredAt = (env tick).now := stamped kind
  refine agrees_logged (paced_commit clock serving keeps base found)
    (fun _ _ => occurs ▸ (clock tick).2) (fun serves => ?_) (fun serves => ?_) fun ends => ?_
  · rcases kind with kind | kind <;> rw [kind] at serves <;> cases serves
  · rcases untouched with status | status <;> rw [status] at serves <;> cases serves
  · rcases untouched with status | status <;> simp [status, TicketStatus.terminal] at ends

/-- Every event of a first commit agrees with its ticket. -/
theorem logged_agrees (stamped : ∀ write ∈ writes, ∃ tick, Stamped (env tick).now write)
    (logged : .insert (.event event) ∈ writes) :
    ∃ new, (engine.applyAll store writes).tickets.get? event.ticketId = some new ∧
      Agrees hi event new := by
  cases shape_of_commits serving.commits with
  | @creation locationId row only place opens =>
      obtain rfl : event = only := by simpa using logged
      have found := found_of_written serving (by rintro _ _ _ rfl; cases place)
        (.inl List.mem_cons_self)
      rw [← opens.ticketId] at found
      exact ⟨row, found, logged_queue clock serving keeps base (.inl opens.status)
        (.inl opens.eventType) (stamped _ logged) found⟩
  | @call counterId row only status calls =>
      obtain rfl : event = only := by simpa using logged
      have found := found_of_written serving (by rintro _ _ _ rfl; cases status <;> contradiction)
        (.inr List.mem_cons_self)
      rw [← calls.ticketId] at found
      exact ⟨row, found, logged_queue clock serving keeps base (.inr calls.status)
        (.inr calls.eventType) (stamped _ logged) found⟩
  | change changes status stays =>
      exact logged_change clock serving keeps base changes (changes_status status.2 stays status.1)
        stays logged
  | transfer is => exact logged_transfer clock serving keeps base is logged
  | noShows is => exact logged_noShows clock serving keeps base is logged
  | cleanup _ drops =>
      obtain ⟨_, _, impossible⟩ := drops _ logged
      cases impossible
  | records only => cases (only _ logged).1
  | nothing | key => simp at logged

end

theorem measured_commit (clock : ∀ tick, lo ≤ (env tick).now ∧ (env tick).now ≤ hi)
    (serving : Serving hexdigest env request db past store writes)
    (keeps : ∀ write ∈ writes, KeptBy store write)
    (stamped : ∀ write ∈ writes, ∃ tick, Stamped (env tick).now write)
    (base : Measured lo db) (before : Measured hi store) :
    Measured hi (engine.applyAll store writes) := by
  rcases commits_first serving.commits with first | quiet
  · obtain rfl := serving.first first
    constructor
    · intro new member
      exact paced_commit clock serving keeps base.tickets (Table.get?_of_mem member)
    · intro event member status
      have mine : event ∈ (engine.applyAll store writes).eventsOf event.ticketId :=
        List.mem_filter.mpr ⟨member, by simp⟩
      rw [eventsOf_applyAll serving.sound] at mine
      rcases List.mem_append.mp mine with earlier | logged
      · obtain ⟨old, there, agrees⟩ := base.events event (List.mem_filter.mp earlier).1 status
        obtain ⟨new, found, _⟩ :=
          column_kept (fun _ _ becomes => becomes.createdAt) serving.sound there
        exact ⟨new, found, agrees_commit clock serving keeps base.tickets there found agrees⟩
      · obtain ⟨write, written, stored⟩ := List.mem_filterMap.mp logged
        obtain ⟨_, rfl⟩ := event?_eq_some.mp stored
        exact logged_agrees clock serving keeps base.tickets stamped written
  · have tickets (id : UUID) :
        (engine.applyAll store writes).tickets.get? id = store.tickets.get? id :=
      get?_of_unlocked store fun write member => ticket?_eq_none.mp (quiet write member id).1
    constructor
    · intro ticket member
      have found : (engine.applyAll store writes).tickets.get? ticket.id = some ticket :=
        Table.get?_of_mem member
      rw [tickets] at found
      exact before.tickets ticket (Table.mem_of_get? found)
    · intro event member status
      have mine : event ∈ (engine.applyAll store writes).eventsOf event.ticketId :=
        List.mem_filter.mpr ⟨member, by simp⟩
      rw [eventsOf_applyAll serving.sound, List.filterMap_eq_nil_iff.mpr
        fun write member => (quiet write member _).2, List.append_nil] at mine
      rw [tickets]
      exact before.events event (List.mem_filter.mp mine).1 status

/-! ## The runs -/

def KeptSince (db : Database) (before : List (Entry ι)) (entry : Entry ι) : Prop :=
  ∀ write ∈ committedWrites [entry], KeptBy (storeAt engine db before) write

instance (before : List (Entry ι)) (entry : Entry ι) : Decidable (KeptSince db before entry) :=
  inferInstanceAs (Decidable (∀ write ∈ committedWrites [entry], _))

omit [DecidableEq ι] in
theorem keptSince_append {first before : List (Entry ι)} {entry : Entry ι}
    (kept : KeptSince db (first ++ before) entry) :
    KeptSince (storeAt engine db first) before entry := by
  rw [KeptSince, storeAt_append] at kept
  exact kept

theorem reaches_stamped {w : AppWorld ι}
    (reach : Reachable engine env (initial hexdigest requests db) w) :
    Serial engine Database.row (fun _ write => ∃ tick, Stamped (env tick).now write) db
      w.state := by
  refine reach.serial engine_rowed fun w i stmt next value writes locks before _ running exec => ?_
  obtain ⟨tick, began⟩ := before.began_env i
  have follows := (reaches_conduct before).2 i
  rw [running] at follows
  refine checked_all (fun write member _ => ⟨tick, ?_⟩) _
  rw [← began]
  exact stamped_exec exec (follows _ _ _ _ exec).1 write member

theorem measured_alone (monotone : Monotone fun tick => (env tick).now)
    (keeps : Throughout (KeptSince db) (alone hexdigest env requests db i).state.log)
    (base : Measured (env 0).now db) :
    Measured (env (alone hexdigest env requests db i).state.tick).now
      (alone hexdigest env requests db i).state.store := by
  generalize last : (alone hexdigest env requests db i).state.tick = end_
  -- a clock that stands still at the end of the request
  obtain ⟨sameStore, sameLog⟩ : (alone hexdigest env requests db i).state.store =
        (alone hexdigest (fun tick => env (min tick end_)) requests db i).state.store ∧
      (alone hexdigest env requests db i).state.log =
        (alone hexdigest (fun tick => env (min tick end_)) requests db i).state.log :=
    alone_congr fun tick before => by rw [Nat.min_eq_left (last ▸ before.le)]
  rw [sameStore]
  rw [sameLog] at keeps
  have clock (tick : Nat) : (env 0).now ≤ (env (min tick end_)).now ∧
      (env (min tick end_)).now ≤ (env end_).now :=
    ⟨monotone (Nat.zero_le _), monotone (Nat.min_le_right _ _)⟩
  have ordered : (env 0).now ≤ (env end_).now := monotone (Nat.zero_le _)
  have start : Measured (env end_).now db :=
    ⟨fun ticket member => (base.tickets ticket member).later ordered,
      fun event member status =>
        (base.events event member status).imp fun _ found => ⟨found.1, found.2.later ordered⟩⟩
  refine alone_keeps_at start fun n writes commit before => ?_
  refine measured_commit clock (alone_serving commit) ?_ ?_ base before
  · simpa [KeptSince] using keeps n _ commit
  · intro write member
    obtain ⟨_, stamped⟩ :=
      ((reaches_stamped alone_reachable).checked_commit commit).of_mem member
    exact stamped

theorem measured_run (monotone : Monotone fun tick => (env tick).now)
    (base : Measured (env 0).now db) (order : List ι)
    (keeps : Throughout (KeptSince db)
      ((initial hexdigest requests db).serveAll engine env order).state.log) :
    Measured (env ((initial hexdigest requests db).serveAll engine env order).state.tick).now
      ((initial hexdigest requests db).serveAll engine env order).state.store := by
  induction order using List.reverseRecOn with
  | nil => exact base
  | append_singleton order i ih =>
      rw [serveAll_append] at keeps ⊢
      change Throughout _ (World.serve engine env _ i).state.log at keeps
      change Measured (env (World.serve engine env _ i).state.tick).now
        (World.serve engine env _ i).state.store
      rcases serve_alone hexdigest env requests db order i with served | ⟨_, continues⟩
      · rw [served] at keeps ⊢
        exact ih keeps
      · rw [continues.log] at keeps
        obtain ⟨earlier, later⟩ := throughout_append.mp keeps
        have before := ih earlier
        have reach : Reaches engine env (fun _ j => j ∈ order) (initial hexdigest requests db)
            ((initial hexdigest requests db).serveAll engine env order) := serveAll_reaches
        rw [continues.store, continues.tick]
        refine measured_alone (fun _ _ later => monotone (Nat.add_le_add_left later _)) ?_ before
        rw [(reaches_provenance reach).replay]
        rw [(reaches_provenance reach).replay] at later
        exact fun n entry located => keptSince_append (later n entry located)

/-- In a run in which no commit calls or breaks off what was served before, the metrics measure what
they are named after. -/
theorem kpi_intervals_measured (monotone : Monotone fun tick => (env tick).now)
    (base : Measured (env 0).now db) {order : List ι}
    (keeps : Throughout (KeptSince db)
      ((initial hexdigest requests db).serveAll engine env order).state.log)
    (locationId : UUID) (fromDt toDt : Time) :
    IntervalsMeasured ((initial hexdigest requests db).serveAll engine env order).state.store
      locationId fromDt toDt :=
  (measured_run monotone base order keeps).intervals locationId fromDt toDt

theorem kpi_intervals_measured_oneVisit :
    IntervalsMeasured (oneVisitStart.serveAll engine tickingEnv [0, 1, 2, 3, 4]).state.store 10 0
      (hours 2) :=
  kpi_intervals_measured tickingEnv_monotone
    ⟨fun _ member => absurd member List.not_mem_nil, fun _ member => absurd member List.not_mem_nil⟩
    (by decide +kernel) 10 0 (hours 2)

def putAside : Nat → Request
  | 0 => .startService 2 clerk none
  | 1 => .holdTicket 2 clerk
  | _ => .cancelTicket 2 clerk

/-- The cancellation counts the hold before it as service. -/
theorem intervals_mismeasured : StrictMono (fun tick => (tickingEnv tick).now) ∧
    IntervalsMeasured calledOffice 10 0 (hours 2) ∧
    ¬ IntervalsMeasured ((initial textDigest putAside calledOffice).serveAll engine tickingEnv
      [0, 1, 2]).state.store 10 0 (hours 2) :=
  ⟨tickingEnv_increasing, by decide, by decide +kernel⟩

end QueueFlow.Concurrency
