import QueueFlow.Concurrency.Alone
import QueueFlow.Concurrency.Numbering

/-!
# Numbers in a queue

A transfer takes the number of its ticket along. The tickets that are in a queue keep different
numbers as long as no transfer goes to a location where a ticket with this number already is.
-/

namespace QueueFlow.Concurrency
open QueueFlow.App QueueFlow.Data QueueFlow.Tables QueueFlow.Transactions

variable {ι : Type} [DecidableEq ι] {hexdigest : PyDict → String} {env : Nat → Env}
  {requests : ι → Request} {request : Request} {db store : Database} {past : List Act}
  {writes : List Write} {row : Ticket}

def Ticket.isOpen (ticket : Ticket) : Prop := ticket.status ∉ TicketStatus.terminal

instance (ticket : Ticket) : Decidable (Ticket.isOpen ticket) := inferInstanceAs (Decidable (¬ _))

/-- No two tickets that are not over have one number at one location. -/
def DistinctNumbers (db : Database) : Prop :=
  ∀ a ∈ db.tickets.rows, ∀ b ∈ db.tickets.rows, Ticket.isOpen a → Ticket.isOpen b →
    a.locationId = b.locationId → a.number = b.number → a.id = b.id

instance (db : Database) : Decidable (DistinctNumbers db) :=
  inferInstanceAs (Decidable (∀ a ∈ db.tickets.rows, ∀ b ∈ db.tickets.rows, _))

def Request.target : Request → Option UUID
  | .transferTicket _ data _ => data.targetLocationId
  | _ => none

/-- A transfer to another location finds no open ticket there with the number of its own. -/
def FindsNumberFree (db : Database) (request : Request) : Prop :=
  ∀ id ∈ transferred db request, ∀ ticket ∈ db.tickets.get? id,
    ∀ target ∈ Request.target request, target ≠ ticket.locationId →
      ∀ other ∈ db.tickets.rows, other.locationId = target → other.number = ticket.number →
        ¬ Ticket.isOpen other

instance (db : Database) (request : Request) : Decidable (FindsNumberFree db request) :=
  inferInstanceAs (Decidable (∀ id ∈ transferred db request, ∀ ticket ∈ db.tickets.get? id,
    ∀ target ∈ Request.target request, _ → ∀ other ∈ db.tickets.rows, _))

/-! ## One commit -/

structure StaysInQueue (before after : Ticket) : Prop where
  id : after.id = before.id
  number : after.number = before.number
  place : after.locationId = before.locationId
  wasOpen : Ticket.isOpen after → Ticket.isOpen before

theorem StaysInQueue.refl (ticket : Ticket) : StaysInQueue ticket ticket :=
  ⟨rfl, rfl, rfl, fun isOpen => isOpen⟩

theorem staysInQueue_of_becomes {before after : Ticket} (becomes : before.Becomes after)
    (stays : after.locationId = before.locationId) : StaysInQueue before after where
  id := becomes.id
  number := becomes.number
  place := stays
  wasOpen still := fun terminal => still (terminal_of_allowed becomes.allowed terminal)

/-- All tickets but `moved` stay, and `moved` has a number of its own where it is now. -/
theorem distinct_of_stays {after : Database} (distinct : DistinctNumbers db) (moved : Ticket)
    (stays : ∀ ticket ∈ after.tickets.rows, ticket = moved ∨
      ∃ before ∈ db.tickets.rows, before.id ≠ moved.id ∧ StaysInQueue before ticket)
    (alone : ∀ other ∈ db.tickets.rows, other.id ≠ moved.id → Ticket.isOpen other →
      other.locationId = moved.locationId → other.number ≠ moved.number) :
    DistinctNumbers after := by
  have apart {ticket before : Ticket} (member : before ∈ db.tickets.rows)
      (different : before.id ≠ moved.id) (stays : StaysInQueue before ticket)
      (isOpen : Ticket.isOpen ticket) (here : ticket.locationId = moved.locationId) :
      ticket.number ≠ moved.number := by
    rw [stays.number]
    exact alone before member different (stays.wasOpen isOpen) (stays.place.symm.trans here)
  intro a inA b inB openA openB here same
  rcases stays a inA with rfl | ⟨beforeA, memberA, differentA, staysA⟩ <;>
    rcases stays b inB with rfl | ⟨beforeB, memberB, differentB, staysB⟩
  · rfl
  · exact (apart memberB differentB staysB openB here.symm same.symm).elim
  · exact (apart memberA differentA staysA openA here same).elim
  · rw [staysA.id, staysB.id]
    exact distinct beforeA memberA beforeB memberB (staysA.wasOpen openA) (staysB.wasOpen openB)
      (staysA.place.symm.trans (here.trans staysB.place))
      (staysA.number.symm.trans (same.trans staysB.number))

theorem distinct_of_all_stay {after : Database} (distinct : DistinctNumbers db)
    (stays : ∀ ticket ∈ after.tickets.rows, ∃ before ∈ db.tickets.rows, StaysInQueue before ticket) :
    DistinctNumbers after := by
  intro a inA b inB openA openB here same
  obtain ⟨beforeA, memberA, staysA⟩ := stays a inA
  obtain ⟨beforeB, memberB, staysB⟩ := stays b inB
  rw [staysA.id, staysB.id]
  exact distinct beforeA memberA beforeB memberB (staysA.wasOpen openA) (staysB.wasOpen openB)
    (staysA.place.symm.trans (here.trans staysB.place))
    (staysA.number.symm.trans (same.trans staysB.number))

theorem distinct_creation {locationId : UUID} {event : TicketEvent}
    (serving : Serving hexdigest env request db past store writes)
    (distinct : DistinctNumbers store)
    (shape : writes = [.insert (.ticket row), .insert (.event event)])
    (opens : request.Opens past locationId row event) :
    DistinctNumbers (engine.applyAll store writes) := by
  subst shape
  have inserts : ∀ write ∈ [Write.insert (.ticket row), .insert (.event event)],
      ∃ row, write = .insert row := by simp
  have fresh : ∀ other ∈ store.tickets.rows, other.locationId = row.locationId →
      other.number ≠ row.number := by
    intro other member here
    obtain ⟨context, locks, earlier, view, before, exec⟩ :=
      serving.executed opens.first opens.number
    obtain ⟨later, split⟩ := before
    have checked : Checked engine Database.row Sound store earlier :=
      (checked_append.mp (split ▸ serving.sound)).1
    have still : context.view.row (.ticket other.id) = some (.ticket other) := by
      rw [view]
      exact row_kept_of_inserts checked
        (fun write listed => inserts write (split ▸ List.mem_append_left _ listed))
        (row_ticket (Table.get?_of_mem member))
    have below := number_lt_nextNumber (Table.mem_of_get? (get?_of_row still))
      (here.trans opens.location)
    rw [show row.number = context.view.nextNumber locationId from (exec_read exec).1]
    exact Nat.ne_of_lt below
  refine distinct_of_stays distinct row (fun ticket member => ?_)
    fun other member _ _ here => fresh other member here
  have absent : store.tickets.get? row.id = none := Option.map_eq_none_iff.mp serving.sound.1
  rcases written_once_cases (fun _ _ sound => sound) (fun _ _ sound => sound) serving.sound
    (length_ticketVersions_cons _ rfl) (Table.get?_of_mem member) with
    kept | inserted | ⟨old, _, updated, _⟩
  · refine .inr ⟨ticket, Table.mem_of_get? kept, fun same => ?_, StaysInQueue.refl ticket⟩
    have kept : store.tickets.get? ticket.id = some ticket := kept
    rw [same, absent] at kept
    cases kept
  · exact .inl (by simpa using inserted)
  · simp at updated

theorem change_stays (serving : Serving hexdigest env request db past store writes)
    (other : ∀ ticketId data actor, request ≠ .transferTicket ticketId data actor) {ticket : Ticket}
    (member : ticket ∈ (engine.applyAll store writes).tickets.rows) :
    .insert (.ticket ticket) ∈ writes ∨
      ∃ before ∈ store.tickets.rows, StaysInQueue before ticket := by
  have found := Table.get?_of_mem member
  rcases commits_tickets serving.commits other with untouched | ⟨_, once⟩
  · rw [get?_of_unlocked store fun write listed => untouched write listed _] at found
    exact .inr ⟨ticket, Table.mem_of_get? found, StaysInQueue.refl ticket⟩
  · rcases written_once_cases (fun _ _ sound => sound) (fun _ _ sound => sound) serving.sound
      (once _) found with kept | inserted | ⟨old, located, updated, becomes⟩
    · exact .inr ⟨ticket, Table.mem_of_get? kept, StaysInQueue.refl ticket⟩
    · exact .inl inserted
    · refine .inr ⟨old, Table.mem_of_get? located, staysInQueue_of_becomes becomes ?_⟩
      refine (becomes.place fun requeued => ?_).1
      have status := commits_update serving.commits updated
      rw [requeued] at status
      cases request with
      | transferTicket ticketId data actor => exact other ticketId data actor rfl
      | _ => cases status

theorem distinct_change (serving : Serving hexdigest env request db past store writes)
    (other : ∀ ticketId data actor, request ≠ .transferTicket ticketId data actor)
    (distinct : DistinctNumbers store) : DistinctNumbers (engine.applyAll store writes) := by
  by_cases creates : ∃ row, .insert (.ticket row) ∈ writes
  · obtain ⟨row, inserted⟩ := creates
    obtain ⟨locationId, event, _, shape, opens⟩ := commits_insert serving.commits inserted
    exact distinct_creation serving distinct shape opens
  · refine distinct_of_all_stay distinct fun ticket member => ?_
    exact (change_stays serving other member).resolve_left fun inserted => creates ⟨_, inserted⟩

theorem transfer_moves {ticketId : UUID} {data : TicketTransfer} {actor : TokenPayload}
    (serving : Serving hexdigest env (.transferTicket ticketId data actor) db past store writes) :
    ∃ old moved, transferred store (.transferTicket ticketId data actor) = some old.id ∧
      store.tickets.get? old.id = some old ∧ Ticket.isOpen old ∧ moved.id = old.id ∧
      moved.number = old.number ∧ moved.locationId = data.targetLocationId.getD old.locationId ∧
      ∀ ticket ∈ (engine.applyAll store writes).tickets.rows, ticket = moved ∨
        ticket ∈ store.tickets.rows ∧ ticket.id ≠ moved.id := by
  obtain ⟨row, event, requeued, requeueEvent, shape, _, _, changes, _, requeues⟩ := serving.commits
  have moves := serving.transfers (show .update (.ticket row) ∈ writes by simp [shape])
  have passing := moves
  simp only [transferred, Option.ite_none_right_eq_some, Option.some.injEq] at passing
  obtain ⟨⟨⟨_, _, old, found, _, valid⟩, _⟩, rfl⟩ := passing
  have key : old.id = row.id := Table.key_of_get? found
  have versions (id : UUID) : ticketVersions id writes =
      if row.id = id then [row, requeued] else [] := by
    by_cases same : row.id = id <;>
      simp [shape, ticketVersions, List.filterMap_cons, Write.ticket?, requeues.id, same]
  have chain : ((store.tickets.get? row.id).toList ++ ticketVersions row.id writes).IsChain
      Ticket.Becomes :=
        isChain_versions (fun _ _ sound => sound) (fun _ _ sound => sound) serving.sound
  rw [versions, if_pos rfl, Option.mem_def.mp found] at chain
  obtain ⟨first, onward⟩ := List.isChain_cons_cons.mp chain
  obtain ⟨last, _⟩ := List.isChain_cons_cons.mp onward
  refine ⟨old, requeued, key ▸ moves, key ▸ found, ?_, last.id.trans first.id,
    last.number.trans first.number, ?_, fun ticket member => ?_⟩
  · rw [Ticket.isOpen, terminal_iff]
    exact List.ne_nil_of_mem valid
  · have place : row.locationId = old.locationId := (first.place (by simp [changes.status])).1
    have location := requeues.location
    cases target : data.targetLocationId <;>
      simpa [Ticket.ref, Request.refs, target, place] using location
  · have there := Table.get?_of_mem member
    rw [get?_applyAll, versions] at there
    by_cases same : row.id = ticket.id
    · exact .inl (by simpa [same, List.getLast?_append] using there.symm)
    · rw [key_ticket, if_neg same, List.append_nil] at there
      refine .inr ⟨Table.mem_of_get? (Option.mem_toList.mp (List.mem_of_getLast? there)), ?_⟩
      exact fun mine => same (mine.trans last.id).symm

theorem distinct_transfer {ticketId : UUID} {data : TicketTransfer} {actor : TokenPayload}
    (serving : Serving hexdigest env (.transferTicket ticketId data actor) db past store writes)
    (finds : FindsNumberFree db (.transferTicket ticketId data actor))
    (distinct : DistinctNumbers store) : DistinctNumbers (engine.applyAll store writes) := by
  obtain ⟨_, _, _, _, _, first, _⟩ := serving.commits
  obtain rfl := serving.first first
  obtain ⟨old, moved, moves, found, isOpen, same, number, place, others⟩ := transfer_moves serving
  refine distinct_of_stays distinct moved (fun ticket member => ?_)
    fun other member different openOther here equal => ?_
  · rcases others ticket member with rfl | ⟨stored, different⟩
    · exact .inl rfl
    · exact .inr ⟨ticket, stored, different, StaysInQueue.refl ticket⟩
  · have inQueue (back : moved.locationId = old.locationId) : False :=
      different ((distinct other member old (Table.mem_of_get? found) openOther isOpen
        (here.trans back) (equal.trans number)).trans same.symm)
    cases target : data.targetLocationId with
    | none => exact inQueue (by simpa [target] using place)
    | some locationId =>
        have there : moved.locationId = locationId := by simpa [target] using place
        by_cases back : locationId = old.locationId
        · exact inQueue (there.trans back)
        · exact finds old.id moves old found locationId target back other member
            (here.trans there) (equal.trans number) openOther

/-! ## The runs -/

theorem numbers_stay_distinct (base : DistinctNumbers db) {order : List ι}
    (serves : (initial hexdigest requests db).Serves engine env
      (fun w i => FindsNumberFree w.state.store (requests i)) order) :
    DistinctNumbers ((initial hexdigest requests db).serveAll engine env order).state.store := by
  refine sequential_keeps (fun store _ => DistinctNumbers store)
    (fun store _ request => FindsNumberFree store request) base serves ?_
  intro i store tick distinct finds
  refine alone_keeps distinct fun past later writes serving before => ?_
  generalize requests i = request at finds serving
  by_cases transfers : ∃ ticketId data actor, request = .transferTicket ticketId data actor
  · obtain ⟨ticketId, data, actor, rfl⟩ := transfers
    exact distinct_transfer serving finds before
  · exact distinct_change serving
      (fun ticketId data actor same => transfers ⟨ticketId, data, actor, same⟩) before

def twoHalls : Database :=
  { office .empty with
    locations := ⟨[⟨10, 1, "Hall", none, "UTC", true⟩, ⟨11, 1, "Annex", none, "UTC", true⟩],
      by decide⟩ }

def moves (targetLocationId : Option UUID) : Nat → Request
  | 0 => .createTicket (visit 10 (some 20)) clerk none
  | 1 => .kioskCreateTicket { locationId := 11 } none
  | 2 => .callNext 30 {} clerk none
  | 3 => .startService 1001 clerk none
  | _ => .transferTicket 1001 { targetServiceId := 20, targetLocationId := targetLocationId } clerk

def movesWorld (targetLocationId : Option UUID) : AppWorld Nat :=
  (initial textDigest (moves targetLocationId) twoHalls).serveAll engine steadyEnv [0, 1, 2, 3, 4]

theorem numbers_stay_distinct_moves : DistinctNumbers (movesWorld none).state.store :=
  numbers_stay_distinct (fun _ member => absurd member List.not_mem_nil) (by decide +kernel)

def movesOver : Nat → Request
  | 0 => .kioskCreateTicket { locationId := 11 } none
  | 1 => .startService 2 clerk none
  | _ => .transferTicket 2 { targetServiceId := 20, targetLocationId := some 11 } clerk

theorem number_moves_along :
    DistinctNumbers { twoHalls with tickets := calledOffice.tickets } ∧
      ¬ DistinctNumbers ((initial textDigest movesOver
        { twoHalls with tickets := calledOffice.tickets }).serveAll engine steadyEnv
          [0, 1, 2]).state.store :=
  ⟨by decide, by decide +kernel⟩

end QueueFlow.Concurrency
