import QueueFlow.Conduct.Shapes
import QueueFlow.Tenancy.Links

/-!
# Keeping links within a tenant

Foreign keys do not look at tenants, and neither do `create_ticket`, the kiosk, `transfer_ticket`,
`create_service` and `assign_role` look at the tenants of the ids they are given. A request that is
given ids of one tenant commits nothing that links two.
-/

namespace QueueFlow.Tenancy
open QueueFlow.App QueueFlow.Data QueueFlow.Tables QueueFlow.Transactions QueueFlow.Concurrency

variable {ι : Type} [DecidableEq ι] {hexdigest : PyDict → String} {env : Nat → Env}
  {requests : ι → Request} {db : Database} {ok : AppWorld ι → ι → Prop} {w : AppWorld ι} {i : ι}
  {link : Link} {kind : RefKind}

/-! ## What a session saw is still so -/

theorem saw_store (reach : Reaches engine env ok (initial hexdigest requests db) w) {q : Query}
    {answer : q.Res} (saw : Saw (pastOf i w.state.log) q answer) :
    ∃ m order, answer = q.eval (storeAt engine db (w.state.log.take m)) order := by
  obtain ⟨earlier, later, split, unwritten⟩ := saw
  obtain ⟨m, located, before, _⟩ := split_pastOf split
  obtain ⟨context, locks, ran, _⟩ := (reaches_provenance reach).answered located
  have exec : (Stmt.read q).exec context = .done answer [] locks := ran.exec
  have answered := (exec_read exec).1
  rw [ran.view, viewAt, before, unwritten, Engine.applyAll_nil] at answered
  exact ⟨m, context.env.order, answered⟩

theorem owner_stays (reach : Reaches engine env ok (initial hexdigest requests db) w) {m : Nat}
    {lock : Lock} {tenantId : UUID}
    (owned : (storeAt engine db (w.state.log.take m)).owner lock = some tenantId) :
    w.state.store.owner lock = some tenantId := by
  have history := (reaches_serial reach).history
  rw [(reaches_provenance reach).replay, ← List.take_append_drop m w.state.log, storeAt_append]
  rw [← List.take_append_drop m w.state.log, committedWrites_append] at history
  exact owner_applyAll (checked_append.mp history).2 owned

theorem owner_of_saw_location (reach : Reaches engine env ok (initial hexdigest requests db) w)
    {id : UUID} {row : Location} (saw : Saw (pastOf i w.state.log) (.location id) (some row)) :
    w.state.store.owner (.location id) = some row.tenantId := by
  obtain ⟨m, order, answered⟩ := saw_store reach saw
  exact owner_stays reach (owner_location answered.symm)

theorem owner_of_saw_counter (reach : Reaches engine env ok (initial hexdigest requests db) w)
    {id : UUID} {row : Counter} (saw : Saw (pastOf i w.state.log) (.counter id) (some row)) :
    w.state.store.owner (.counter id) = some row.locationId := by
  obtain ⟨m, order, answered⟩ := saw_store reach saw
  exact owner_stays reach (owner_counter answered.symm)

theorem owner_of_saw_ticket (reach : Reaches engine env ok (initial hexdigest requests db) w)
    {id : UUID} {row : Ticket} (saw : Saw (pastOf i w.state.log) (.ticket id) (some row)) :
    w.state.store.owner (.ticket id) = some row.tenantId := by
  obtain ⟨m, order, answered⟩ := saw_store reach saw
  exact owner_stays reach (owner_ticket answered.symm)

theorem tenant_of_ownsTicket (reach : Reaches engine env ok (initial hexdigest requests db) w)
    {id : UUID} (owns : (requests i).ownsTicket (pastOf i w.state.log) id) {row : Ticket}
    (found : w.state.store.tickets.get? id = some row) : (requests i).passes row.tenantId := by
  obtain ⟨ticket, saw, passes⟩ := owns
  have seen := owner_of_saw_ticket reach saw
  rw [owner_ticket found] at seen
  rwa [Option.some.inj seen]

/-! ## The condition on requests -/

def tenantIn (db : Database) : Request → Option UUID
  | .createTicket _ actor _ | .transferTicket _ _ actor => actor.tenantId.parse
  | .kioskCreateTicket body _ => db.owner (.location body.locationId)
  | _ => none

/-- The ids that a request is given for a link belong to one tenant. -/
def respects (db : Database) (request : Request) : Link → Prop
  | .ticket kind => ∀ lock ∈ request.refs kind, db.tenantOf lock = tenantIn db request
  | .service => match request with
      | .createService data _ =>
          ∀ id ∈ data.locationId, db.owner (.location id) = some data.tenantId
      | _ => True
  | .userRole => match request with
      | .assignRole userId data _ => Linked db .userRole
          (.userRole ⟨userId, data.roleId, data.locationId⟩)
      | _ => True

def Respects (links : List Link) (requests : ι → Request) (w : AppWorld ι) (j : ι) : Prop :=
  match w.session j with
  | .running (.commits _) => ∀ link ∈ links, respects w.state.store (requests j) link
  | _ => True

/-! ## Commits that keep the links -/

section
variable {request : Request} {past : List Act} {writes : List Write}

theorem tenantIn_of_passes {tenantId ticketId : UUID} {data : TicketTransfer}
    {actor : TokenPayload}
    (passes : Request.passes (.transferTicket ticketId data actor) tenantId) :
    tenantIn db (.transferTicket ticketId data actor) = some tenantId := by
  obtain ⟨other, acts, same⟩ := passes
  cases acts
  exact UuidText.parse_of_isText same

theorem settles_change {target : TicketStatus} (commits : request.commitsChange past target writes)
    (requeued : target ≠ .waiting) (called : target ≠ .called) :
    ∀ write ∈ writes, Settles link db write := by
  obtain ⟨row, event, episode, rfl, _, _, changes, episodic, _⟩ := commits
  have status := changes.status
  refine List.forall_mem_cons.mpr ⟨?_, List.forall_mem_cons.mpr ⟨settles_event, ?_⟩⟩
  · exact settles_update (keeps_ticket (by rwa [status]) fun _ => by rwa [status])
  · intro write member
    obtain ⟨interaction, value, _⟩ := episodic write member
    exact settles_interaction value

theorem settles_creation {locationId : UUID} {row : Ticket} {event : TicketEvent}
    (opens : request.Opens past locationId row event)
    (tenant : ∀ tenantId, request.tenantIs past tenantId → tenantIn db request = some tenantId)
    (respect : respects db request link) :
    ∀ write ∈ [.insert (.ticket row), .insert (.event event)], Settles link db write := by
  refine List.forall_mem_cons.mpr ⟨?_, List.forall_mem_singleton.mpr settles_event⟩
  rintro _ ⟨⟩
  refine .inl ?_
  cases link with
  | ticket kind =>
      intro lock refers
      rw [opens.refs] at refers
      rw [respect lock refers, tenant _ opens.tenant]
  | service => trivial
  | userRole => trivial

theorem settles_noShows (commits : Request.commitsNoShows past writes) :
    ∀ write ∈ writes, Settles link db write := by
  obtain ⟨rows, events, rfl, marked, _⟩ := commits
  intro write member
  rcases List.mem_append.mp member with updated | logged
  · obtain ⟨row, listed, rfl⟩ := List.mem_map.mp updated
    have status := marked row listed
    exact settles_update (keeps_ticket (by simp [status]) fun _ => by simp [status])
  · obtain ⟨event, _, rfl⟩ := List.mem_map.mp logged
    exact settles_event

theorem settles_records (only : OnlyRecords request writes) (respect : respects db request link) :
    ∀ write ∈ writes, Settles link db write := by
  intro write member
  obtain ⟨isRecord, inserts⟩ := only write member
  cases write with
  | dropKey tenantId key => cases isRecord
  | update row => exact settles_update (keeps_record rfl isRecord)
  | insert row =>
      rintro _ ⟨⟩
      refine .inl ?_
      cases row with
      | service row =>
          obtain ⟨data, actor, rfl, tenant, location⟩ := inserts
          cases link with
          | service =>
              intro id refers
              rw [location] at refers
              rw [tenant]
              exact respect id refers
          | ticket kind => trivial
          | userRole => trivial
      | userRole row =>
          obtain ⟨userId, data, actor, rfl, rfl⟩ := inserts
          cases link with
          | userRole => exact respect
          | ticket kind => trivial
          | service => trivial
      | ticket row => cases isRecord
      | _ => cases link <;> trivial

variable (reach : Reaches engine env ok (initial hexdigest requests db) w)
include reach

theorem tenantIn_of_tenantIs {locationId tenantId : UUID}
    (place : (requests i).opensAt = some locationId)
    (tenant : (requests i).tenantIs (pastOf i w.state.log) tenantId) :
    tenantIn w.state.store (requests i) = some tenantId := by
  cases is : requests i with
  | createTicket data actor key =>
      rw [is] at tenant
      exact tenant
  | kioskCreateTicket body key =>
      rw [is] at tenant
      obtain ⟨location, saw, rfl⟩ := tenant
      exact owner_of_saw_location reach saw
  | _ =>
      rw [is] at place
      cases place

theorem settles_call {counterId : UUID} {row : Ticket} {event : TicketEvent}
    (calls : (requests i).CallsTicket (pastOf i w.state.log) counterId row event)
    (checked : Checked engine Database.row Sound w.state.store
      [.update (.ticket row), .insert (.event event)])
    (atHome : link = .ticket .counter → Consistent (.ticket .location) w.state.store) :
    ∀ write ∈ [.update (.ticket row), .insert (.event event)],
      Settles link w.state.store write := by
  refine List.forall_mem_cons.mpr ⟨?_, List.forall_mem_singleton.mpr settles_event⟩
  have requeued : row.status ≠ .waiting := by simp [calls.status]
  by_cases counter : link = .ticket .counter
  · subst counter
    rintro _ ⟨⟩
    refine .inl fun lock refers => ?_
    obtain ⟨⟨old, found, becomes⟩, _⟩ := checked
    obtain ⟨desk, location, sawDesk, here, _⟩ := calls.place
    have sameLock : lock = .counter counterId := by
      simpa [Ticket.ref, calls.counter, eq_comm] using refers
    have home := atHome rfl _ _ found (.location old.locationId) rfl
    rw [sameLock, Database.tenantOf, owner_of_saw_counter reach sawDesk, Option.bind_some, here,
      becomes.tenantId, (becomes.place requeued).1]
    exact home
  · exact settles_update (keeps_ticket requeued fun same => (counter same).elim)

theorem settles_transfer {ticketId : UUID} {data : TicketTransfer} {actor : TokenPayload}
    (is : requests i = .transferTicket ticketId data actor)
    (commits : (requests i).commitsTransfer (pastOf i w.state.log) writes)
    (checked : Checked engine Database.row Sound w.state.store writes)
    (consistent : Consistent link w.state.store)
    (respect : respects w.state.store (requests i) link) :
    ∀ write ∈ writes, Settles link w.state.store write := by
  obtain ⟨row, event, requeued, requeueEvent, rfl, _, transitions, changes, _, requeues⟩ := commits
  have owns := transitions.ownsTicket changes
  have moved : row.status ≠ .waiting := by simp [changes.status]
  have notCalled : row.status ≠ .called := by simp [changes.status]
  simp only [List.forall_mem_cons, List.not_mem_nil, false_implies, implies_true, and_true]
  refine ⟨settles_update (keeps_ticket moved fun _ => notCalled), settles_event, ?_, settles_event⟩
  obtain ⟨⟨old, found, becomes⟩, _, ⟨again, located, becomesAgain⟩, _⟩ := checked
  have same : again = row := by
    simpa [engine, row_apply, Write.lock, Row.lock, Write.value, requeues.id, eq_comm] using located
  subst same
  rintro _ ⟨⟩
  refine .inl ?_
  cases link with
  | service => trivial
  | userRole => trivial
  | ticket kind =>
      have passes := tenant_of_ownsTicket reach owns (get?_of_row found)
      rw [is] at passes
      have named : ∀ lock ∈ (requests i).refs kind,
          w.state.store.tenantOf lock = some old.tenantId := by
        intro lock refers
        rw [respect lock refers, is, tenantIn_of_passes passes]
      have kept : ∀ lock ∈ again.ref kind, w.state.store.tenantOf lock = some old.tenantId := by
        intro lock refers
        rw [ref_of_becomes becomes moved fun _ => notCalled] at refers
        exact consistent _ _ found lock refers
      intro lock refers
      rw [becomesAgain.tenantId, becomes.tenantId]
      cases kind with
      | location =>
          rw [requeues.location] at refers
          cases target : (requests i).refs .location with
          | none => exact kept lock (by simpa [target] using refers)
          | some chosen => exact named lock (by simpa [target] using refers)
      | service =>
          rw [requeues.service] at refers
          exact named lock refers
      | channel => exact kept lock (by simpa [Ticket.ref, becomesAgain.channelId] using refers)
      | counter =>
          rw [requeues.counter] at refers
          cases refers

theorem settles_commits
    (commits : (requests i).commits hexdigest env (pastOf i w.state.log) writes)
    (checked : Checked engine Database.row Sound w.state.store writes)
    (atHome : link = .ticket .counter → Consistent (.ticket .location) w.state.store)
    (consistent : Consistent link w.state.store)
    (respect : respects w.state.store (requests i) link) :
    ∀ write ∈ writes, Settles link w.state.store write := by
  cases shape_of_commits commits with
  | creation place opens =>
      exact settles_creation opens (fun _ => tenantIn_of_tenantIs reach place) respect
  | nothing => simp
  | call _ calls => exact settles_call reach calls checked atHome
  | key => exact List.forall_mem_singleton.mpr settles_key
  | change changes status stays =>
      have known := changes_status status.2 stays status.1
      exact settles_change changes (fun same => by simp [same] at known) status.1
  | transfer is moves => exact settles_transfer reach is moves checked consistent respect
  | noShows _ closes => exact settles_noShows closes
  | cleanup _ drops =>
      intro write member
      obtain ⟨tenantId, key, rfl⟩ := drops write member
      rintro row ⟨⟩
  | records only => exact settles_records only respect

end

theorem consistent_reaches {links : List Link}
    (closed : .ticket .counter ∈ links → .ticket .location ∈ links)
    (base : ∀ link ∈ links, Consistent link db)
    (reach : Reaches engine env (Respects links requests) (initial hexdigest requests db) w) :
    ∀ link ∈ links, Consistent link w.state.store := by
  refine reach.moves (motive := fun w => ∀ link ∈ links, Consistent link w.state.store) base ?_
  intro w j program session state before consistent running moved meets
  cases moved with
  | committed next =>
      have meets := meets nofun
      rw [Respects, running] at meets
      have follows := (reaches_conduct before).2 j
      rw [running] at follows
      have commits : (requests j).commits hexdigest env (pastOf j w.state.log)
          (w.state.tx j).writes := follows.1
      have checked := (reaches_serial before).pending j
      intro link member
      refine consistent_applyAll checked (consistent link member) ?_
      refine settles_commits before commits checked (fun counter => ?_) (consistent link member)
        (meets link member)
      exact consistent _ (closed (counter ▸ member))
  | _ => exact consistent

end QueueFlow.Tenancy
