import QueueFlow.Concurrency.Alone
import QueueFlow.Conduct.Shapes
import QueueFlow.Data.History

/-!
# Open interactions

A start opens an interaction, and only a completion closes it. A cancellation or a transfer leaves
it open on a ticket that is no longer served.
-/

namespace QueueFlow.Concurrency
open QueueFlow.App QueueFlow.Data QueueFlow.Tables QueueFlow.Transactions

variable {ι : Type} [DecidableEq ι] {hexdigest : PyDict → String} {env : Nat → Env}
  {requests : ι → Request} {db store : Database} {writes : List Write} {i : ι}

def Served (status : TicketStatus) : Prop := status = .inService ∨ status = .hold

structure OneEpisode (db : Database) : Prop where
  single : ∀ row ∈ db.interactions.rows, ∀ other ∈ db.interactions.rows, row.endedAt = none →
    other.endedAt = none → row.ticketId = other.ticketId → row = other
  served : ∀ row ∈ db.interactions.rows, row.endedAt = none →
    ∃ ticket, db.tickets.get? row.ticketId = some ticket ∧ Served ticket.status

def brokenOff (db : Database) : Request → Option UUID
  | .cancelTicket ticketId actor =>
      if Passes db ticketId actor .canceled then some ticketId else none
  | request => transferred db request

/-- No interaction is open on a ticket that the request cancels or transfers. -/
def LeavesNoEpisode (db : Database) (request : Request) : Prop :=
  ∀ ticketId ∈ brokenOff db request, db.openInteractions ticketId = []

instance (db : Database) (request : Request) : Decidable (LeavesNoEpisode db request) :=
  inferInstanceAs (Decidable (∀ ticketId ∈ brokenOff db request, _))

/-! ## The interactions -/

theorem interactions_of_other (db : Database)
    (other : ∀ write ∈ writes, ∀ id, write.lock ≠ .interaction id) :
    (engine.applyAll db writes).interactions = db.interactions := by
  induction writes generalizing db with
  | nil => rfl
  | cons write writes ih =>
      rw [Engine.applyAll_cons, ih _ fun later member =>
        other later (List.mem_cons_of_mem _ member)]
      have here := other write List.mem_cons_self
      cases write with
      | insert row =>
          cases row with
          | interaction row => exact (here row.id rfl).elim
          | _ => rfl
      | update row =>
          cases row with
          | interaction row => exact (here row.id rfl).elim
          | _ => rfl
      | dropKey tenantId key => rfl

def closing (endedAt : Time) (row : Interaction) : Write :=
  .update (.interaction { row with endedAt := some endedAt, outcome := some "completed" })

theorem open_of_closed {endedAt : Time} {rows : List Interaction} {row : Interaction}
    (member : row ∈ (engine.applyAll db (rows.map (closing endedAt))).interactions.rows)
    (isOpen : row.endedAt = none) : row ∈ db.interactions.rows ∧ row ∉ rows := by
  induction rows generalizing db with
  | nil => exact ⟨member, List.not_mem_nil⟩
  | cons first rows ih =>
      obtain ⟨there, later⟩ := ih member
      rcases Table.mem_put.mp there with rfl | ⟨before, differs⟩
      · cases isOpen
      · refine ⟨before, fun listed => ?_⟩
        rcases List.mem_cons.mp listed with rfl | listed
        · exact differs rfl
        · exact later listed

/-! ## The tickets -/

theorem served_of_valid {old new : TicketStatus} (served : Served old)
    (valid : new ∈ validTransitions old)
    (stays : new ∉ [.completed, .transferred, .canceled, .waiting]) : Served new := by
  rcases served with rfl | rfl <;> cases new <;> simp_all [validTransitions, Served]

theorem served_kept {id : UUID} {ticket : Ticket}
    (checked : Checked engine Database.row Sound db writes)
    (found : db.tickets.get? id = some ticket) (served : Served ticket.status)
    (stays : ∀ row, .update (.ticket row) ∈ writes → row.id = id →
      row.status ∉ [.completed, .transferred, .canceled, .waiting]) :
    ∃ row, (engine.applyAll db writes).tickets.get? id = some row ∧ Served row.status := by
  have kept : ∃ row, (engine.applyAll db writes).row (.ticket id) = some (.ticket row) ∧
      Served row.status := by
    refine checked_preserves engine_rowed
      (K := fun old => ∃ row, old = some (.ticket row) ∧ Served row.status) checked ?_
      ⟨ticket, row_ticket found, served⟩
    rintro write member locked old ⟨before, rfl, served⟩ sound
    obtain ⟨row, same, rfl | rfl⟩ := ticket_of_lock locked
    · cases sound
    · obtain ⟨_, ⟨⟩, becomes⟩ := sound
      refine ⟨row, rfl, ?_⟩
      rcases becomes.allowed with unchanged | valid
      · rwa [unchanged]
      · exact served_of_valid served valid (stays row member same)
  obtain ⟨row, located, served⟩ := kept
  exact ⟨row, get?_of_row located, served⟩

theorem OneEpisode.untouched (inv : OneEpisode store)
    (checked : Checked engine Database.row Sound store writes)
    (other : ∀ write ∈ writes, ∀ id, write.lock ≠ .interaction id)
    (stays : ∀ row ∈ store.interactions.rows, row.endedAt = none →
      ∀ new, .update (.ticket new) ∈ writes → new.id = row.ticketId →
        new.status ∉ [.completed, .transferred, .canceled, .waiting]) :
    OneEpisode (engine.applyAll store writes) := by
  have same := interactions_of_other store other
  constructor
  · rw [same]
    exact inv.single
  · rw [same]
    intro row member isOpen
    obtain ⟨ticket, found, served⟩ := inv.served row member isOpen
    exact served_kept checked found served (stays row member isOpen)

/-! ## The commits -/

section
variable {request : Request} {past : List Act}

theorem OneEpisode.start {ticketId : UUID} {actor : TokenPayload} {key : Option String}
    (inv : OneEpisode store)
    (serving : Serving hexdigest env (.startService ticketId actor key) db past store writes)
    (change : (Request.startService ticketId actor key).commitsChange past .inService writes) :
    OneEpisode (engine.applyAll store writes) := by
  have passes {row : Ticket} (updated : .update (.ticket row) ∈ writes) :=
    serving.passes_change rfl change updated
  obtain ⟨row, event, _, rfl, _, _, changes, episodic, opened, rfl, isOpen⟩ := change
  obtain ⟨_, value, mine⟩ := episodic _ (List.mem_singleton_self _)
  cases value
  obtain ⟨_, _, _, ticket, found, _, valid⟩ := passes List.mem_cons_self
  have closed (other : Interaction) (member : other ∈ store.interactions.rows)
      (unended : other.endedAt = none) : other.ticketId ≠ row.id := by
    intro same
    obtain ⟨current, located, served⟩ := inv.served other member unended
    rw [same, found] at located
    cases located
    rcases served with status | status <;> simp [status, validTransitions] at valid
  have rows : (engine.applyAll store [.update (.ticket row), .insert (.event event),
      .insert (.interaction opened)]).interactions = store.interactions.put opened := rfl
  have here : (engine.applyAll store [.update (.ticket row), .insert (.event event),
      .insert (.interaction opened)]).tickets.get? row.id = some row := by
    simp [engine, Database.apply, Database.put]
  constructor
  · rw [rows]
    intro one member two member' unended unended' same
    rcases Table.mem_put.mp member with rfl | ⟨old, _⟩
    · rcases Table.mem_put.mp member' with rfl | ⟨old', _⟩
      · rfl
      · exact (closed two old' unended' (same.symm.trans mine)).elim
    · rcases Table.mem_put.mp member' with rfl | ⟨old', _⟩
      · exact (closed one old unended (same.trans mine)).elim
      · exact inv.single one old two old' unended unended' same
  · rw [rows]
    intro one member unended
    rcases Table.mem_put.mp member with rfl | ⟨old, _⟩
    · exact ⟨row, mine ▸ here, .inl changes.status⟩
    · obtain ⟨current, located, served⟩ := inv.served one old unended
      refine served_kept serving.sound located served fun new updated same => ?_
      obtain rfl : new = row := by simpa using updated
      exact (closed one old unended same.symm).elim

theorem closes_open {ticketId : UUID} {actor : TokenPayload} {key : Option String}
    (serving : Serving hexdigest env (.completeTicket ticketId actor key) db past store writes)
    (change : (Request.completeTicket ticketId actor key).commitsChange past .completed writes) :
    ∃ row event endedAt, row.id = ticketId ∧
      writes = [.update (.ticket row), .insert (.event event)] ++
        (store.openInteractions ticketId).map (closing endedAt) := by
  obtain ⟨row, event, episode, rfl, first, transitions, changes, _, endedAt, closes⟩ := change
  obtain ⟨_, _, _, _, _, ⟨named, _⟩, _⟩ := transitions
  have named : row.id = ticketId := changes.ticketId.symm.trans (Option.some.inj named).symm
  refine ⟨row, event, endedAt, named, ?_⟩
  obtain ⟨earlier, later, split⟩ := List.append_of_mem closes
  obtain ⟨context, locks, view, exec⟩ := serving.ran first _ _ _ _ _ split
  obtain ⟨ran, _⟩ := exec_write exec
  have ahead : pendingOf earlier ++ episode <+:
      [.update (.ticket row), .insert (.event event)] ++ episode := by
    rw [split, List.append_cons] at first
    have onward := pendingOf_of_open first
    rw [List.append_assoc, List.singleton_append, ← split, ← serving.pending,
      pendingOf_concat] at onward
    exact onward
  have before : pendingOf earlier <+: [.update (.ticket row), .insert (.event event)] := by
    refine List.prefix_of_prefix_length_le ((List.prefix_append _ _).trans ahead)
      (List.prefix_append _ _) ?_
    have short := ahead.length_le
    simp only [List.length_append] at short
    exact Nat.le_of_add_le_add_right short
  have same : context.view.interactions = store.interactions := by
    rw [view, serving.first first]
    refine interactions_of_other db fun write member id => ?_
    have inside := before.subset member
    simp only [List.mem_cons, List.not_mem_nil, or_false] at inside
    rcases inside with rfl | rfl <;> simp [Write.lock, Row.lock]
  have closed : context.view.openInteractions ticketId = store.openInteractions ticketId := by
    rw [Database.openInteractions, same, Database.openInteractions]
  cases ran
  rw [named, closed]
  rfl

theorem OneEpisode.complete {ticketId : UUID} {actor : TokenPayload} {key : Option String}
    (inv : OneEpisode store)
    (serving : Serving hexdigest env (.completeTicket ticketId actor key) db past store writes)
    (change : (Request.completeTicket ticketId actor key).commitsChange past .completed writes) :
    OneEpisode (engine.applyAll store writes) := by
  obtain ⟨row, event, endedAt, named, shape⟩ := closes_open serving change
  have onward (other : Interaction)
      (member : other ∈ (engine.applyAll store writes).interactions.rows)
      (unended : other.endedAt = none) :
      other ∈ store.interactions.rows ∧ other.ticketId ≠ ticketId := by
    rw [shape, Engine.applyAll_append] at member
    obtain ⟨old, kept⟩ := open_of_closed member unended
    refine ⟨old, fun same => kept ?_⟩
    exact List.mem_filter.mpr ⟨old, by simp [same, unended]⟩
  constructor
  · intro one member two member' unended unended' same
    exact inv.single one (onward one member unended).1 two (onward two member' unended').1 unended
      unended' same
  · intro one member unended
    obtain ⟨old, elsewhere⟩ := onward one member unended
    obtain ⟨current, located, served⟩ := inv.served one old unended
    refine served_kept serving.sound located served fun new updated same => ?_
    rw [shape] at updated
    obtain rfl : new = row := by simpa [closing] using updated
    exact (elsewhere (same.symm.trans named)).elim

theorem OneEpisode.aside (inv : OneEpisode store)
    (serving : Serving hexdigest env request db past store writes)
    (other : ∀ ticketId actor key, request ≠ .startService ticketId actor key ∧
      request ≠ .completeTicket ticketId actor key)
    (stays : ∀ row ∈ store.interactions.rows, row.endedAt = none →
      ∀ new, .update (.ticket new) ∈ writes → new.id = row.ticketId →
        new.status ∉ [.completed, .transferred, .canceled, .waiting]) :
    OneEpisode (engine.applyAll store writes) := by
  refine inv.untouched serving.sound (fun write member id locked => ?_) stays
  obtain ⟨ticketId, actor, key, starts | completes⟩ :=
    commits_interaction serving.commits member locked
  · exact (other ticketId actor key).1 starts
  · exact (other ticketId actor key).2 completes

theorem LeavesNoEpisode.closed {ticketId : UUID} (leaves : LeavesNoEpisode db request)
    (breaks : brokenOff db request = some ticketId) {row : Interaction}
    (member : row ∈ db.interactions.rows) (isOpen : row.endedAt = none) :
    row.ticketId ≠ ticketId := by
  intro same
  have listed : row ∈ db.openInteractions ticketId :=
    List.mem_filter.mpr ⟨member, by simp [same, isOpen]⟩
  rw [leaves ticketId breaks] at listed
  cases listed

theorem oneEpisode_commit (leaves : LeavesNoEpisode db request) (inv : OneEpisode store)
    (serving : Serving hexdigest env request db past store writes) :
    OneEpisode (engine.applyAll store writes) := by
  have commits := serving.commits
  have writesStatus {new : Ticket} (updated : .update (.ticket new) ∈ writes) :=
    commits_update commits updated
  cases request with
  | startService ticketId actor key =>
      rcases commits with change | ⟨record, rfl, _⟩
      · exact inv.start serving change
      · refine inv.untouched serving.sound ?_ (by simp)
        simp [Write.lock, Row.lock]
  | completeTicket ticketId actor key =>
      rcases commits with change | ⟨record, rfl, _⟩
      · exact inv.complete serving change
      · refine inv.untouched serving.sound ?_ (by simp)
        simp [Write.lock, Row.lock]
  | cancelTicket ticketId actor =>
      refine inv.aside serving (by simp) fun row member isOpen new updated same => ?_
      obtain ⟨named, passes⟩ := serving.passes_change rfl commits updated
      obtain rfl : ticketId = new.id := Option.some.inj named
      obtain ⟨_, _, _, _, first, _⟩ := commits
      obtain rfl := serving.first first
      exact (leaves.closed (if_pos passes) member isOpen same.symm).elim
  | transferTicket ticketId data actor =>
      refine inv.aside serving (by simp) fun row member isOpen new updated same => ?_
      have breaks := serving.transfers updated
      obtain ⟨_, _, _, _, _, first, _⟩ := commits
      obtain rfl := serving.first first
      exact (leaves.closed breaks member isOpen same.symm).elim
  | _ =>
      refine inv.aside serving (by simp) fun row member isOpen new updated same => ?_
      have status := writesStatus updated
      simp only [Request.writesStatus] at status
      try simp [status]

end

/-! ## What a completion closes -/

def ClosesOne (before after : Database) (ticketId : UUID) : Prop :=
  ∀ row ∈ before.interactions.rows, row ∉ after.interactions.rows →
    before.openInteractions ticketId = [row]

theorem kept_of_closing {endedAt : Time} {rows : List Interaction} {row : Interaction}
    (member : row ∈ db.interactions.rows) (differs : ∀ other ∈ rows, row.id ≠ other.id) :
    row ∈ (engine.applyAll db (rows.map (closing endedAt))).interactions.rows := by
  induction rows generalizing db with
  | nil => exact member
  | cons first rows ih =>
      refine ih (Table.mem_put.mpr (.inr ⟨member, ?_⟩))
        fun other later => differs other (List.mem_cons_of_mem _ later)
      exact differs first List.mem_cons_self

theorem OneEpisode.openInteractions_eq (inv : OneEpisode db) {ticketId : UUID} {row : Interaction}
    (member : row ∈ db.openInteractions ticketId) : db.openInteractions ticketId = [row] := by
  have only (other : Interaction) (listed : other ∈ db.openInteractions ticketId) :
    other = row := by
    obtain ⟨there, mine⟩ := List.mem_filter.mp listed
    obtain ⟨here, its⟩ := List.mem_filter.mp member
    simp only [decide_eq_true_eq] at mine its
    exact inv.single other there row here mine.2 its.2 (mine.1.trans its.1.symm)
  have distinct : (db.openInteractions ticketId).Nodup := db.interactions.distinct.of_map.filter _
  have replicated := List.eq_replicate_of_mem only
  rw [replicated] at distinct member ⊢
  have short := List.nodup_replicate.mp distinct
  have long := List.length_pos_of_mem member
  rw [List.length_replicate] at long
  rw [Nat.le_antisymm short long]
  rfl

theorem closesOne_alone {ticketId : UUID} {actor : TokenPayload} {key : Option String}
    (inv : OneEpisode db) (completes : requests i = .completeTicket ticketId actor key) :
    ClosesOne db (alone hexdigest env requests db i).state.store ticketId := by
  suffices step : ∀ past store writes, Serving hexdigest env (requests i) db past store writes →
      ClosesOne db store ticketId → ClosesOne db (engine.applyAll store writes) ticketId from
    alone_keeps (fun row member gone => (gone member).elim) step
  intro past store writes serving closes
  rw [completes] at serving
  rcases serving.commits with change | ⟨record, rfl, _⟩
  · obtain ⟨row, event, endedAt, _, shape⟩ := closes_open serving change
    obtain ⟨_, _, _, _, first, _⟩ := change
    intro other member gone
    rw [shape, serving.first first, Engine.applyAll_append] at gone
    by_cases listed : other ∈ db.openInteractions ticketId
    · exact inv.openInteractions_eq listed
    · refine (gone (kept_of_closing member fun mine inside same => listed ?_)).elim
      obtain ⟨there, _⟩ := List.mem_filter.mp inside
      rwa [List.inj_on_of_nodup_map db.interactions.distinct member there same]
  · intro other member gone
    exact closes other member gone

theorem interactions_follow_lifecycle (base : OneEpisode db) {order : List ι}
    (serves : (initial hexdigest requests db).Serves engine env
      (fun w i => LeavesNoEpisode w.state.store (requests i)) order) :
    let w := (initial hexdigest requests db).serveAll engine env order
    OneEpisode w.state.store ∧ ∀ i ticketId actor key,
      requests i = .completeTicket ticketId actor key →
        ClosesOne w.state.store (w.serve engine env i).state.store ticketId := by
  intro w
  have inv : OneEpisode w.state.store := by
    have step (i : ι) (store : Database) (tick : Nat) (inv : OneEpisode store)
        (leaves : LeavesNoEpisode store (requests i)) :
        OneEpisode
          (alone hexdigest (fun later => env (tick + later)) requests store i).state.store :=
      alone_keeps inv fun past later writes serving before =>
        oneEpisode_commit leaves before serving
    exact sequential_keeps (fun store _ => OneEpisode store)
      (fun store _ request => LeavesNoEpisode store request) base serves step
  refine ⟨inv, fun i ticketId actor key completes => ?_⟩
  rcases serve_alone hexdigest env requests db order i with same | ⟨_, continues⟩
  · rw [same]
    exact fun row member gone => (gone member).elim
  · rw [continues.store]
    exact closesOne_alone inv completes

/-! ## Two visits to a counter -/

def visits : Nat → Request
  | 0 => .createTicket (visit 10 (some 20)) clerk none
  | 1 => .callNext 30 {} clerk none
  | 2 => .transferTicket 1001 { targetServiceId := 20 } clerk
  | 3 => .callNext 31 {} clerk none
  | 4 => .startService 1001 clerk none
  | _ => .completeTicket 1001 clerk none

def visitsStart : AppWorld Nat := initial textDigest visits (office .empty)

theorem interactions_follow_lifecycle_visits :
    let w := visitsStart.serveAll engine steadyEnv [0, 1, 2, 3, 4]
    OneEpisode w.state.store ∧ ∀ i ticketId actor key,
      visits i = .completeTicket ticketId actor key →
        ClosesOne w.state.store (w.serve engine steadyEnv i).state.store ticketId := by
  refine interactions_follow_lifecycle ⟨?_, ?_⟩ (by decide +kernel)
  · exact fun row member => absurd member List.not_mem_nil
  · exact fun row member => absurd member List.not_mem_nil

/-- A ticket that is transferred during its service waits with the interaction still open. -/
theorem waits_with_open_interaction : OneEpisode calledOffice ∧
    ¬ OneEpisode (sentBackStart.serveAll engine steadyEnv [0, 1]).state.store := by
  refine ⟨⟨fun row member => absurd member List.not_mem_nil,
    fun row member => absurd member List.not_mem_nil⟩, fun inv => ?_⟩
  have waits : ∃ row ∈
      (sentBackStart.serveAll engine steadyEnv [0, 1]).state.store.interactions.rows,
        row.endedAt = none ∧
          ((sentBackStart.serveAll engine steadyEnv [0, 1]).state.store.tickets.get?
            row.ticketId).map Ticket.status = some .waiting := by decide +kernel
  obtain ⟨row, member, isOpen, status⟩ := waits
  obtain ⟨ticket, found, served⟩ := inv.served row member isOpen
  rw [found] at status
  rcases served with served | served <;> simp [served] at status

end QueueFlow.Concurrency
