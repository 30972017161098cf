import QueueFlow.Concurrency.SentRuns
import QueueFlow.Data.History
import QueueFlow.Tenancy.References

/-!
# Writes and tenants

A ticket operation leaves the tickets of other tenants alone, with their events and interactions.
Call-next would not if its statement ran, unless every ticket is at a location of its own tenant.
-/

namespace QueueFlow.Tenancy
open QueueFlow.App QueueFlow.Data QueueFlow.Tables QueueFlow.Transactions QueueFlow.Concurrency

def interactionsOf (db : Database) (ticketId : UUID) : List Interaction :=
  db.interactions.rows.filter fun row => row.ticketId = ticketId

structure KeepsForeign (tenantId : UUID) (before after : Database) : Prop where
  tickets : (after.tickets.rows.filter fun row => row.tenantId ≠ tenantId) =
    before.tickets.rows.filter fun row => row.tenantId ≠ tenantId
  events : ∀ ticket ∈ before.tickets.rows, ticket.tenantId ≠ tenantId →
    after.eventsOf ticket.id = before.eventsOf ticket.id
  interactions : ∀ ticket ∈ before.tickets.rows, ticket.tenantId ≠ tenantId →
    interactionsOf after ticket.id = interactionsOf before ticket.id

variable {ι : Type} [DecidableEq ι] {hexdigest : PyDict → String} {env : Nat → Env}
  {requests : ι → Request} {db : Database} {ok : AppWorld ι → ι → Prop} {w : AppWorld ι} {i : ι}
  {tenantId id : UUID} {write : Write} {writes : List Write}

theorem KeepsForeign.refl (db : Database) : KeepsForeign tenantId db db :=
  ⟨rfl, fun _ _ _ => rfl, fun _ _ _ => rfl⟩

theorem KeepsForeign.trans {before middle after : Database}
    (first : KeepsForeign tenantId before middle) (last : KeepsForeign tenantId middle after) :
    KeepsForeign tenantId before after := by
  have still (ticket : Ticket) (member : ticket ∈ before.tickets.rows)
      (foreign : ticket.tenantId ≠ tenantId) : ticket ∈ middle.tickets.rows := by
    have listed : ticket ∈ before.tickets.rows.filter fun row => row.tenantId ≠ tenantId :=
      List.mem_filter.mpr ⟨member, by simpa using foreign⟩
    rw [← first.tickets] at listed
    exact (List.mem_filter.mp listed).1
  refine ⟨last.tickets.trans first.tickets, fun ticket member foreign => ?_,
    fun ticket member foreign => ?_⟩
  · exact (last.events ticket (still ticket member foreign) foreign).trans
      (first.events ticket member foreign)
  · exact (last.interactions ticket (still ticket member foreign) foreign).trans
      (first.interactions ticket member foreign)

/-! ## Writes about one ticket -/

def IsAbout (id tenantId : UUID) : Row → Prop
  | .ticket row => row.id = id ∧ row.tenantId = tenantId
  | .event row => row.ticketId = id
  | .interaction row => row.ticketId = id
  | _ => True

def IsOwn (db : Database) (id tenantId : UUID) : Prop :=
  ∀ ticket, db.tickets.get? id = some ticket → ticket.tenantId = tenantId

theorem isOwn_of_row {old : Ticket} (found : db.row (.ticket id) = some (.ticket old))
    (mine : old.tenantId = tenantId) : IsOwn db id tenantId := by
  intro ticket present
  cases (get?_of_row found).symm.trans present
  exact mine

theorem keepsForeign_put {row : Row} (own : IsOwn db id tenantId) (about : IsAbout id tenantId row)
    (same : ∀ old, db.row row.lock = some old → IsAbout id tenantId old) :
    KeepsForeign tenantId db (db.put row) := by
  have other {ticket : Ticket} (member : ticket ∈ db.tickets.rows)
      (foreign : ticket.tenantId ≠ tenantId) : id ≠ ticket.id := by
    rintro rfl
    exact foreign (own ticket (Table.get?_of_mem member))
  cases row with
  | ticket row =>
      refine ⟨Table.filter_put (by simp [about.2]) fun old found => ?_, fun _ _ _ => rfl,
        fun _ _ _ => rfl⟩
      have mine := same (.ticket old) (row_ticket found)
      simp [mine.2]
  | event row =>
      refine ⟨rfl, fun ticket member foreign => ?_, fun _ _ _ => rfl⟩
      have about : row.ticketId = id := about
      refine Table.filter_put (by simp [about, other member foreign]) fun old found => ?_
      have mine : old.ticketId = id := same (.event old) (by
        simpa [Database.row, Row.lock] using found)
      simp [mine, other member foreign]
  | interaction row =>
      refine ⟨rfl, fun _ _ _ => rfl, fun ticket member foreign => ?_⟩
      have about : row.ticketId = id := about
      refine Table.filter_put (by simp [about, other member foreign]) fun old found => ?_
      have mine : old.ticketId = id := same (.interaction old) (by
        simpa [Database.row, Row.lock] using found)
      simp [mine, other member foreign]
  | _ => exact ⟨rfl, fun _ _ _ => rfl, fun _ _ _ => rfl⟩

theorem keepsForeign_apply (sound : Sound (db.row write.lock) write) (own : IsOwn db id tenantId)
    (about : ∀ row, write.value = some row → IsAbout id tenantId row) :
    KeepsForeign tenantId db (db.apply write) := by
  cases write with
  | dropKey tenant key => exact ⟨rfl, fun _ _ _ => rfl, fun _ _ _ => rfl⟩
  | insert row =>
      refine keepsForeign_put own (about row rfl) fun old found => ?_
      have absent : db.row row.lock = none := sound
      rw [absent] at found
      cases found
  | update row =>
      refine keepsForeign_put own (about row rfl) fun old found => ?_
      have about := about row rfl
      change db.row (Write.update row).lock = some old at found
      rw [found] at sound
      cases row with
      | ticket row =>
          obtain ⟨_, ⟨⟩, becomes⟩ := sound
          exact ⟨becomes.id.symm.trans about.1, becomes.tenantId.symm.trans about.2⟩
      | interaction row =>
          obtain ⟨_, ⟨⟩, kept⟩ := sound
          exact kept.symm.trans about
      | event row => exact sound.elim
      | location row =>
          obtain ⟨_, ⟨⟩, _⟩ := sound
          trivial
      | service row =>
          obtain ⟨_, ⟨⟩, _⟩ := sound
          trivial
      | counter row =>
          obtain ⟨_, ⟨⟩, _⟩ := sound
          trivial
      | tenant row =>
          obtain ⟨other, _, rfl⟩ := Option.map_eq_some_iff.mp found
          trivial
      | _ => exact sound.elim

theorem isOwn_apply (own : IsOwn db id tenantId)
    (about : ∀ row, write.value = some row → IsAbout id tenantId row) :
    IsOwn (db.apply write) id tenantId := by
  intro ticket found
  rw [get?_apply] at found
  cases made : write.ticket? id with
  | none => exact own ticket (by simpa [made] using found)
  | some row =>
      have same : row = ticket := by simpa [made] using found
      subst same
      obtain ⟨_, rfl | rfl⟩ := ticket?_eq_some.mp made
      · exact (about _ rfl).2
      · exact (about _ rfl).2

theorem keepsForeign_applyAll (id : UUID) (checked : Checked engine Database.row Sound db writes)
    (own : IsOwn db id tenantId)
    (about : ∀ write ∈ writes, ∀ row, write.value = some row → IsAbout id tenantId row) :
    KeepsForeign tenantId db (engine.applyAll db writes) := by
  induction writes generalizing db with
  | nil => exact .refl db
  | cons write writes ih =>
      have here := about write List.mem_cons_self
      exact (keepsForeign_apply checked.1 own here).trans (ih checked.2 (isOwn_apply own here)
        fun later member => about later (List.mem_cons_of_mem _ member))

/-! ## The operations -/

def OperatesFor (request : Request) (tenantId : UUID) : Prop :=
  match request with
  | .createTicket _ actor _ | .callNext _ _ actor _ | .startService _ actor _
  | .completeTicket _ actor _ | .holdTicket _ actor | .cancelTicket _ actor | .noShow _ actor
  | .transferTicket _ _ actor => actor.tenantId.parse = some tenantId
  | _ => False

theorem tenant_of_passes {request : Request} {other : UUID}
    (operates : OperatesFor request tenantId) (passes : request.passes other) :
    other = tenantId := by
  obtain ⟨actor, acts, same⟩ := passes
  have parsed : actor.tenantId.parse = some tenantId := by
    cases request <;> first | exact operates.elim | (cases acts; exact operates)
  exact Option.some.inj ((UuidText.parse_of_isText same).symm.trans parsed)

theorem tenantIs_of_operates {request : Request} {past : List Act} {locationId other : UUID}
    (operates : OperatesFor request tenantId) (place : request.opensAt = some locationId)
    (tenant : request.tenantIs past other) : other = tenantId := by
  cases request with
  | createTicket => exact Option.some.inj (tenant.symm.trans operates)
  | kioskCreateTicket => exact operates.elim
  | _ => cases place

theorem unplaced_of_called {request : Request} (called : request.writesStatus .called) :
    request.refs .location = none := by
  cases request with
  | transferTicket => rcases called with impossible | impossible <;> cases impossible
  | _ => first | rfl | cases called

section
variable (reach : Reaches engine env ok (initial hexdigest requests db) w)
  (checked : Checked engine Database.row Sound w.state.store writes)
  (operates : OperatesFor (requests i) tenantId)
include reach checked operates

theorem keepsForeign_change {target : TicketStatus}
    (commits : (requests i).commitsChange (pastOf i w.state.log) target writes) :
    KeepsForeign tenantId w.state.store (engine.applyAll w.state.store writes) := by
  obtain ⟨row, event, episode, rfl, _, transitions, changes, episodic, _⟩ := commits
  have owns := transitions.ownsTicket changes
  obtain ⟨⟨old, found, becomes⟩, _⟩ := id checked
  have mine : old.tenantId = tenantId :=
    tenant_of_passes operates (tenant_of_ownsTicket reach owns (get?_of_row found))
  refine keepsForeign_applyAll row.id checked (isOwn_of_row found mine) ?_
  refine List.forall_mem_cons.mpr ⟨?_, List.forall_mem_cons.mpr ⟨?_, ?_⟩⟩
  · rintro _ ⟨⟩
    exact ⟨rfl, becomes.tenantId.trans mine⟩
  · rintro _ ⟨⟩
    exact changes.ticketId
  · intro write member other value
    obtain ⟨interaction, same, about⟩ := episodic write member
    rw [same] at value
    cases value
    exact about

theorem keepsForeign_transfer
    (commits : (requests i).commitsTransfer (pastOf i w.state.log) writes) :
    KeepsForeign tenantId w.state.store (engine.applyAll w.state.store writes) := by
  obtain ⟨row, event, requeued, requeueEvent, rfl, _, transitions, changes, requeueing, requeues⟩ :=
    commits
  have owns := transitions.ownsTicket changes
  obtain ⟨⟨old, found, becomes⟩, _, ⟨again, foundAgain, becomesAgain⟩, _⟩ := id checked
  have mine : old.tenantId = tenantId :=
    tenant_of_passes operates (tenant_of_ownsTicket reach owns (get?_of_row found))
  have same : again = row := by
    simpa [engine, row_apply, Write.lock, Row.lock, Write.value, requeues.id, eq_comm] using
      foundAgain
  subst same
  refine keepsForeign_applyAll again.id checked (isOwn_of_row found mine) ?_
  simp only [List.forall_mem_cons, List.not_mem_nil, false_implies, implies_true, and_true]
  refine ⟨?_, ?_, ?_, ?_⟩
  · rintro _ ⟨⟩
    exact ⟨rfl, becomes.tenantId.trans mine⟩
  · rintro _ ⟨⟩
    exact changes.ticketId
  · rintro _ ⟨⟩
    exact ⟨requeues.id, becomesAgain.tenantId.trans (becomes.tenantId.trans mine)⟩
  · rintro _ ⟨⟩
    exact requeueing.ticketId.trans requeues.id

theorem keepsForeign_call {counterId : UUID} {row : Ticket} {event : TicketEvent}
    (shape : writes = [.update (.ticket row), .insert (.event event)])
    (atHome : Consistent (.ticket .location) w.state.store)
    (calls : (requests i).CallsTicket (pastOf i w.state.log) counterId row event) :
    KeepsForeign tenantId w.state.store (engine.applyAll w.state.store writes) := by
  subst shape
  obtain ⟨⟨old, found, becomes⟩, _⟩ := id checked
  obtain ⟨counter, location, _, _, saw, passes⟩ := calls.place
  have home : w.state.store.owner (.location old.locationId) = some old.tenantId :=
    atHome _ _ found (.location old.locationId) rfl
  have requeued : row.status ≠ .waiting := by simp [calls.status]
  rw [← (becomes.place requeued).1, owner_of_saw_location reach saw] at home
  have mine : old.tenantId = tenantId :=
    (Option.some.inj home).symm.trans (tenant_of_passes operates passes)
  refine keepsForeign_applyAll row.id checked (isOwn_of_row found mine) ?_
  refine List.forall_mem_cons.mpr ⟨?_, List.forall_mem_singleton.mpr ?_⟩
  · rintro _ ⟨⟩
    exact ⟨rfl, becomes.tenantId.trans mine⟩
  · rintro _ ⟨⟩
    exact calls.ticketId

omit reach in
theorem keepsForeign_creation {locationId : UUID} {row : Ticket} {event : TicketEvent}
    (shape : writes = [.insert (.ticket row), .insert (.event event)])
    (place : (requests i).opensAt = some locationId)
    (opens : (requests i).Opens (pastOf i w.state.log) locationId row event) :
    KeepsForeign tenantId w.state.store (engine.applyAll w.state.store writes) := by
  subst shape
  refine keepsForeign_applyAll row.id checked ?_ ?_
  · intro ticket present
    have absent : w.state.store.tickets.get? row.id = none := Option.map_eq_none_iff.mp checked.1
    rw [absent] at present
    cases present
  · refine List.forall_mem_cons.mpr ⟨?_, List.forall_mem_singleton.mpr ?_⟩
    · rintro _ ⟨⟩
      exact ⟨rfl, tenantIs_of_operates operates place opens.tenant⟩
    · rintro _ ⟨⟩
      exact opens.ticketId

theorem keepsForeign_commits
    (atHome : ∀ row, .update (.ticket row) ∈ writes → row.status = .called →
      Consistent (.ticket .location) w.state.store)
    (commits : (requests i).commits hexdigest env (pastOf i w.state.log) writes) :
    KeepsForeign tenantId w.state.store (engine.applyAll w.state.store writes) := by
  cases shape_of_commits commits with
  | creation place opens => exact keepsForeign_creation checked operates rfl place opens
  | nothing => exact .refl _
  | call status calls =>
      exact keepsForeign_call reach checked operates rfl
        (atHome _ List.mem_cons_self calls.status) calls
  | key => exact ⟨rfl, fun _ _ _ => rfl, fun _ _ _ => rfl⟩
  | change changes => exact keepsForeign_change reach checked operates changes
  | transfer _ moves => exact keepsForeign_transfer reach checked operates moves
  | noShows is =>
      rw [is] at operates
      exact operates.elim
  | cleanup is =>
      rw [is] at operates
      exact operates.elim
  | records _ admin =>
      generalize requests i = request at operates admin
      cases request <;> first | exact operates.elim | exact admin.elim

end

instance (tenantId : UUID) (before after : Database) :
    Decidable (KeepsForeign tenantId before after) :=
  decidable_of_iff (_ ∧ _ ∧ _) ⟨fun ⟨h₁, h₂, h₃⟩ => KeepsForeign.mk h₁ h₂ h₃,
    fun kept => ⟨kept.tickets, kept.events, kept.interactions⟩⟩

/-! ## As the statements are sent -/

theorem foreign_tickets_kept (reach : Reachable sentEngine env (initial hexdigest requests db) w)
    (operates : OperatesFor (requests i) tenantId) :
    KeepsForeign tenantId w.state.store (w.serve sentEngine env i).state.store := by
  have served : Reaches sentEngine env (fun _ j => j = i) w (w.serve sentEngine env i) :=
    serve_reaches
  refine served.moves (motive := fun w' => KeepsForeign tenantId w.state.store w'.state.store)
    (.refl _) ?_
  intro w' j program session state onward kept running moved meets
  cases moved with
  | committed next =>
      obtain rfl : j = i := meets nofun
      have before : Reachable sentEngine env (initial hexdigest requests db) w' :=
        reach.trans (onward.weaken fun _ _ _ => trivial)
      have commits : (requests j).commits hexdigest env (pastOf j w'.state.log)
          (w'.state.tx j).writes := (sent_conduct before running).1
      have checked := (sent_serial before).pending j
      refine kept.trans ?_
      obtain ⟨mirror, mirrors, onward⟩ := sent_mirrored before
      rw [← mirrors.state] at commits checked
      have same : (w'.state.committed sentEngine j).store =
          engine.applyAll mirror.state.store (mirror.state.tx j).writes := by
        rw [mirrors.state]
        rfl
      rw [same, ← mirrors.state]
      refine keepsForeign_commits onward checked operates (fun row updated called => ?_) commits
      rw [mirrors.state] at updated
      exact (uncalled_pending before running updated called).elim
  | _ => exact kept

def countyClerk : TokenPayload := ⟨.canonical 41, .canonical 2, [.staff]⟩

/-- Tenant 2 puts a ticket into the queue of tenant 1, by a creation or by a transfer, and the desk
of tenant 1 calls. -/
def intrusion : Fin 3 → Request
  | 0 => .createTicket (visit 10 none) countyClerk none
  | 1 => .transferTicket 2 { targetServiceId := 21, targetLocationId := some 10 } countyClerk
  | 2 => .callNext 30 {} clerk none

def intrusionStart : AppWorld (Fin 3) := initial textDigest intrusion
  { twoTenants with
    tickets := ⟨[{ waitingTicket 2 1 5 with
      tenantId := 2, locationId := 11, status := .inService }], by decide⟩ }

theorem foreign_tickets_kept_intrusion :
    let before := intrusionStart.after sentEngine steadyEnv (runs 0)
    KeepsForeign 1 before.state.store (before.serve sentEngine steadyEnv 2).state.store :=
  foreign_tickets_kept (reachable_after (runs 0)) rfl

/-! ## With the parameters bound -/

def TicketsAtHome (db : Database) : Prop :=
  ∀ ticket ∈ db.tickets.rows, ∃ location ∈ db.locations.get? ticket.locationId,
    location.tenantId = ticket.tenantId

instance (db : Database) : Decidable (TicketsAtHome db) :=
  inferInstanceAs (Decidable (∀ ticket ∈ db.tickets.rows, _))

theorem consistent_location_iff : Consistent (.ticket .location) db ↔ TicketsAtHome db := by
  rw [consistent_ticket_iff]
  refine forall₂_congr fun row _ => ?_
  simp [Ticket.ref, Database.tenantOf, owner_location_iff]

theorem bound_foreign_tickets_kept (home : TicketsAtHome db)
    (reach : Reaches engine env (Respects [.ticket .location] requests)
      (initial hexdigest requests db) w) (operates : OperatesFor (requests i) tenantId) :
    KeepsForeign tenantId w.state.store (w.serve engine env i).state.store := by
  have consistent : Consistent (.ticket .location) w.state.store := by
    refine consistent_reaches (fun counter => by simp at counter) ?_ reach _ (by simp)
    simpa using consistent_location_iff.mpr home
  have served : Reaches engine env (fun _ j => j = i) w (w.serve engine env i) := serve_reaches
  suffices KeepsForeign tenantId w.state.store (w.serve engine env i).state.store ∧
      ((requests i).refs .location = none →
        Consistent (.ticket .location) (w.serve engine env i).state.store) from this.1
  refine served.moves (motive := fun w' => KeepsForeign tenantId w.state.store w'.state.store ∧
    ((requests i).refs .location = none → Consistent (.ticket .location) w'.state.store))
    ⟨.refl _, fun _ => consistent⟩ ?_
  intro w' j program session state onward ⟨kept, atHome⟩ running moved meets
  cases moved with
  | committed next =>
      obtain rfl : j = i := meets nofun
      have before : Reachable engine env (initial hexdigest requests db) w' :=
        (reach.weaken fun _ _ _ => trivial).trans (onward.weaken fun _ _ _ => trivial)
      have follows := (reaches_conduct before).2 j
      rw [running] at follows
      have commits : (requests j).commits hexdigest env (pastOf j w'.state.log)
          (w'.state.tx j).writes := follows.1
      have checked := (reaches_serial before).pending j
      have calls (row : Ticket) (updated : .update (.ticket row) ∈ (w'.state.tx j).writes)
          (called : row.status = .called) : Consistent (.ticket .location) w'.state.store :=
        atHome (unplaced_of_called (called ▸ commits_update commits updated))
      refine ⟨kept.trans (keepsForeign_commits before checked operates calls commits), ?_⟩
      intro unplaced
      refine consistent_applyAll checked (atHome unplaced) (settles_commits before commits checked
        (fun counter => by cases counter) (atHome unplaced) fun lock names => ?_)
      rw [unplaced] at names
      cases names
  | _ => exact ⟨kept, atHome⟩

/-- Both tenants create a ticket at home, and the desk of tenant 1 calls. -/
def neighbours : Fin 3 → Request
  | 0 => .createTicket (visit 11 (some 21)) countyClerk none
  | 1 => .createTicket (visit 10 (some 20)) clerk none
  | 2 => .callNext 30 {} clerk none

def neighboursStart : AppWorld (Fin 3) := initial textDigest neighbours twoTenants

theorem neighbours_reaches :
    Reaches engine steadyEnv (Respects [.ticket .location] neighbours) neighboursStart
      (neighboursStart.after engine steadyEnv (runs 0 ++ runs 1)) :=
  reaches_after (by decide +kernel)

theorem bound_foreign_tickets_kept_neighbours :
    let before := neighboursStart.after engine steadyEnv (runs 0 ++ runs 1)
    KeepsForeign 1 before.state.store (before.serve engine steadyEnv 2).state.store :=
  bound_foreign_tickets_kept (by decide +kernel) neighbours_reaches rfl

/-- Bound, the statement calls the ticket of the other tenant. -/
theorem foreign_ticket_called : TicketsAtHome intrusionStart.state.store ∧ ∀ i : Fin 3, i ≠ 2 →
    ¬ KeepsForeign 1 (intrusionStart.serve engine steadyEnv i).state.store
      ((intrusionStart.serve engine steadyEnv i).serve engine steadyEnv 2).state.store := by
  decide +kernel

end QueueFlow.Tenancy
