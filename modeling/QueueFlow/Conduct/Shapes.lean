import QueueFlow.Conduct.Allowed
import QueueFlow.Data.History

/-!
# Reading the writes of a commit

Which request can have committed a given write to a ticket, and with what else.
-/

namespace QueueFlow.App
open QueueFlow.Data QueueFlow.Tables QueueFlow.Transactions

variable {hexdigest : PyDict → String} {env : Nat → Env} {request : Request} {past : List Act}
  {writes : List Write}
  {row : Ticket}

/-- The ways to commit, shared by the requests. -/
inductive Request.Shape (hexdigest : PyDict → String) (env : Nat → Env) (request : Request)
    (past : List Act) : List Write → Prop
  | creation {locationId : UUID} {row : Ticket} {event : TicketEvent}
      (place : request.opensAt = some locationId)
      (opens : request.Opens past locationId row event) :
      Shape hexdigest env request past [.insert (.ticket row), .insert (.event event)]
  | nothing {counterId : UUID} (first : commitsOf past = [])
      (empty : request.findsNone past counterId) : Shape hexdigest env request past []
  | call {counterId : UUID} {row : Ticket} {event : TicketEvent}
      (status : request.writesStatus .called)
      (calls : request.CallsTicket past counterId row event) :
      Shape hexdigest env request past [.update (.ticket row), .insert (.event event)]
  | key {record : IdempotencyKey} (saves : request.SavesKey hexdigest env past record) :
      Shape hexdigest env request past [.insert (.idempotencyKey record)]
  | change {target : TicketStatus} {writes : List Write}
      (changes : request.commitsChange past target writes) (status : request.changesTo target)
      (stays : ∀ ticketId data actor, request ≠ .transferTicket ticketId data actor) :
      Shape hexdigest env request past writes
  | transfer {ticketId : UUID} {data : TicketTransfer} {actor : TokenPayload} {writes : List Write}
      (is : request = .transferTicket ticketId data actor)
      (moves : request.commitsTransfer past writes) : Shape hexdigest env request past writes
  | noShows {writes : List Write} (is : request = .autoNoShowCalledTickets)
      (closes : Request.commitsNoShows past writes) : Shape hexdigest env request past writes
  | cleanup {writes : List Write} (is : request = .cleanupIdempotencyKeys)
      (drops : ∀ write ∈ writes, ∃ tenantId key, write = .dropKey tenantId key) :
      Shape hexdigest env request past writes
  | records {writes : List Write} (only : OnlyRecords request writes) (admin : request.isAdmin) :
      Shape hexdigest env request past writes

theorem shape_of_creation {locationId : UUID} (place : request.opensAt = some locationId)
    (commits : request.commitsCreation hexdigest env past locationId writes) :
    request.Shape hexdigest env past writes := by
  rcases commits with ⟨row, event, rfl, opens⟩ | ⟨record, rfl, saves⟩
  · exact .creation place opens
  · exact .key saves

theorem shape_of_commits (commits : request.commits hexdigest env past writes) :
    request.Shape hexdigest env past writes := by
  cases request with
  | createTicket data actor key => exact shape_of_creation rfl commits
  | kioskCreateTicket body key => exact shape_of_creation rfl commits
  | callNext counterId body actor key =>
      rcases commits with ⟨rfl, first, empty⟩ | ⟨row, event, rfl, calls⟩ | ⟨record, rfl, saves⟩
      · exact .nothing first empty
      · exact .call rfl calls
      · exact .key saves
  | startService | completeTicket =>
      rcases commits with changes | ⟨record, rfl, saves⟩
      · exact .change changes ⟨nofun, rfl⟩ nofun
      · exact .key saves
  | holdTicket | cancelTicket | noShow => exact .change commits ⟨nofun, rfl⟩ nofun
  | transferTicket => exact .transfer rfl commits
  | autoNoShowCalledTickets => exact .noShows rfl commits
  | cleanupIdempotencyKeys => exact .cleanup rfl commits
  | _ => exact .records commits trivial

theorem changes_status {status : TicketStatus} (written : request.writesStatus status)
    (other : ∀ ticketId data actor, request ≠ .transferTicket ticketId data actor)
    (uncalled : status ≠ .called) :
    status ∈ [.inService, .hold, .completed, .canceled, .noShow] := by
  cases request with
  | callNext counterId body actor key => exact (uncalled written).elim
  | transferTicket ticketId data actor => exact (other ticketId data actor rfl).elim
  | startService | completeTicket | holdTicket | cancelTicket | noShow | autoNoShowCalledTickets =>
      rw [show status = _ from written]
      decide
  | _ => cases written

private theorem ticket_of_episode {episode : List Write} {ticketId : UUID}
    (episodic : Request.IsEpisode ticketId episode) {write : Write} (member : write ∈ episode) :
    write.value ≠ some (.ticket row) := by
  obtain ⟨interaction, same, _⟩ := episodic write member
  simp [same]

private theorem ticket_of_records (row : Ticket) (only : OnlyRecords request writes) {write : Write}
    (member : write ∈ writes) : write.lock ≠ .ticket row.id := by
  intro same
  have := (only write member).1
  rw [same] at this
  cases this

theorem event_of_change {event only : TicketEvent} {episode : List Write} {ticketId : UUID}
    (episodic : Request.IsEpisode ticketId episode)
    (member : .insert (.event event) ∈
      .update (.ticket row) :: .insert (.event only) :: episode) : event = only := by
  simp only [List.mem_cons, Write.insert.injEq, Row.event.injEq, reduceCtorEq, false_or] at member
  rcases member with same | inside
  · exact same
  · obtain ⟨interaction, impossible, _⟩ := episodic _ inside
    cases impossible

theorem update_of_call {counterId : UUID}
    (commits : request.commitsCall hexdigest env past counterId writes)
    (member : .update (.ticket row) ∈ writes) :
    ∃ event, writes = [.update (.ticket row), .insert (.event event)] ∧
      request.CallsTicket past counterId row event := by
  rcases commits with ⟨rfl, _⟩ | ⟨called, event, rfl, calls⟩ | ⟨record, rfl, _⟩
  · simp at member
  · simp only [List.mem_cons, Write.update.injEq, Row.ticket.injEq, reduceCtorEq,
      List.not_mem_nil, or_false] at member
    subst member
    exact ⟨event, rfl, calls⟩
  · simp at member

theorem commits_update (commits : request.commits hexdigest env past writes)
    (member : .update (.ticket row) ∈ writes) : request.writesStatus row.status := by
  cases shape_of_commits commits with
  | call status calls =>
      simp only [List.mem_cons, Write.update.injEq, Row.ticket.injEq, reduceCtorEq,
        List.not_mem_nil, or_false] at member
      subst member
      rwa [calls.status]
  | change changes status =>
      obtain ⟨changed, event, episode, rfl, _, _, changes, episodic, _⟩ := changes
      simp only [List.mem_cons, Write.update.injEq, Row.ticket.injEq, reduceCtorEq, false_or]
        at member
      rcases member with rfl | inside
      · rw [changes.status]
        exact status.2
      · exact (ticket_of_episode episodic inside rfl).elim
  | transfer is moves =>
      obtain ⟨first, event, requeued, requeueEvent, rfl, _, _, changes, requeues, _⟩ := moves
      subst is
      simp only [List.mem_cons, Write.update.injEq, Row.ticket.injEq, reduceCtorEq,
        List.not_mem_nil, or_false, false_or] at member
      rcases member with rfl | rfl
      · exact .inl changes.status
      · exact .inr requeues.status
  | noShows is closes =>
      obtain ⟨rows, events, rfl, marked, _⟩ := closes
      subst is
      rcases List.mem_append.mp member with updated | logged
      · obtain ⟨other, listed, same⟩ := List.mem_map.mp updated
        cases same
        exact marked _ listed
      · obtain ⟨event, _, impossible⟩ := List.mem_map.mp logged
        cases impossible
  | cleanup _ drops =>
      obtain ⟨tenantId, key, impossible⟩ := drops _ member
      cases impossible
  | records only => exact (ticket_of_records row only member rfl).elim
  | creation | nothing | key => simp at member

theorem commits_insert (commits : request.commits hexdigest env past writes)
    (member : .insert (.ticket row) ∈ writes) :
    ∃ locationId event, request.opensAt = some locationId ∧
      writes = [.insert (.ticket row), .insert (.event event)] ∧
      request.Opens past locationId row event := by
  cases shape_of_commits commits with
  | creation place opens =>
      simp only [List.mem_cons, Write.insert.injEq, Row.ticket.injEq, reduceCtorEq,
        List.not_mem_nil, or_false] at member
      subst member
      exact ⟨_, _, place, rfl, opens⟩
  | change changes =>
      obtain ⟨changed, event, episode, rfl, _, _, _, episodic, _⟩ := changes
      simp only [List.mem_cons, Write.insert.injEq, reduceCtorEq, false_or] at member
      exact (ticket_of_episode episodic member rfl).elim
  | transfer _ moves =>
      obtain ⟨first, event, requeued, requeueEvent, rfl, _⟩ := moves
      simp at member
  | noShows _ closes =>
      obtain ⟨rows, events, rfl, _⟩ := closes
      simp at member
  | cleanup _ drops =>
      obtain ⟨tenantId, key, impossible⟩ := drops _ member
      cases impossible
  | records only => exact (ticket_of_records row only member rfl).elim
  | nothing | call | key => simp at member

theorem commits_key {record : IdempotencyKey} (commits : request.commits hexdigest env past writes)
    (member : .insert (.idempotencyKey record) ∈ writes) :
    request.SavesKey hexdigest env past record := by
  cases shape_of_commits commits with
  | key saves =>
      simp only [List.mem_singleton, Write.insert.injEq, Row.idempotencyKey.injEq] at member
      exact member ▸ saves
  | change changes =>
      obtain ⟨row, event, episode, rfl, _, _, _, episodic, _⟩ := changes
      simp only [List.mem_cons, Write.insert.injEq, reduceCtorEq, false_or] at member
      obtain ⟨interaction, same, _⟩ := episodic _ member
      cases same
  | transfer _ moves =>
      obtain ⟨row, event, requeued, requeueEvent, rfl, _⟩ := moves
      simp at member
  | noShows _ closes =>
      obtain ⟨rows, events, rfl, _⟩ := closes
      simp at member
  | cleanup _ drops =>
      obtain ⟨tenantId, k, same⟩ := drops _ member
      cases same
  | records only => cases (only _ member).1
  | creation | nothing | call => simp at member

theorem commits_interaction {write : Write} {id : UUID}
    (commits : request.commits hexdigest env past writes) (member : write ∈ writes)
    (locked : write.lock = .interaction id) : ∃ ticketId actor key,
      request = .startService ticketId actor key ∨
        request = .completeTicket ticketId actor key := by
  cases shape_of_commits commits with
  | change changes =>
      obtain ⟨row, event, episode, rfl, _, _, _, _, opened⟩ := changes
      cases request with
      | startService ticketId actor key => exact ⟨ticketId, actor, key, .inl rfl⟩
      | completeTicket ticketId actor key => exact ⟨ticketId, actor, key, .inr rfl⟩
      | _ =>
          obtain rfl : episode = [] := opened
          simp only [List.mem_cons, List.not_mem_nil, or_false] at member
          rcases member with rfl | rfl <;> cases locked
  | transfer _ moves =>
      obtain ⟨row, event, requeued, requeueEvent, rfl, _⟩ := moves
      simp only [List.mem_cons, List.not_mem_nil, or_false] at member
      rcases member with rfl | rfl | rfl | rfl <;> cases locked
  | noShows _ closes =>
      obtain ⟨rows, events, rfl, _⟩ := closes
      rcases List.mem_append.mp member with updated | logged
      · obtain ⟨row, _, rfl⟩ := List.mem_map.mp updated
        cases locked
      · obtain ⟨event, _, rfl⟩ := List.mem_map.mp logged
        cases locked
  | cleanup _ drops =>
      obtain ⟨tenantId, k, rfl⟩ := drops _ member
      cases locked
  | records only =>
      have isRecord := (only _ member).1
      rw [locked] at isRecord
      cases isRecord
  | nothing => cases member
  | creation | call | key =>
      simp only [List.mem_cons, List.not_mem_nil, or_false] at member
      rcases member with rfl | rfl <;> cases locked

/-- A request writes tickets and events in its first commit only. -/
theorem commits_first (commits : request.commits hexdigest env past writes) :
    commitsOf past = [] ∨ ∀ write ∈ writes, ∀ id,
      write.ticket? id = none ∧ write.event? id = none := by
  cases shape_of_commits commits with
  | creation _ opens => exact .inl opens.first
  | nothing first => exact .inl first
  | call _ calls => exact .inl calls.first
  | key => exact .inr (by simp [Write.ticket?, Write.event?])
  | change changes =>
      obtain ⟨_, _, _, _, first, _⟩ := changes
      exact .inl first
  | transfer _ moves =>
      obtain ⟨_, _, _, _, _, first, _⟩ := moves
      exact .inl first
  | noShows _ closes =>
      obtain ⟨_, _, _, _, _, _, first, _⟩ := closes
      exact .inl first
  | cleanup _ drops =>
      refine .inr fun write member id => ?_
      obtain ⟨tenantId, key, rfl⟩ := drops write member
      exact ⟨rfl, rfl⟩
  | records only =>
      refine .inr fun write member id => ?_
      exact (silent_of_isRecord (only write member).1).imp_right And.left

/-- Other requests than transfers write a ticket at most once, in their first commit. -/
theorem commits_tickets (commits : request.commits hexdigest env past writes)
    (stays : ∀ ticketId data actor, request ≠ .transferTicket ticketId data actor) :
    (∀ write ∈ writes, ∀ id, write.lock ≠ .ticket id) ∨
      commitsOf past = [] ∧ ∀ id, (ticketVersions id writes).length ≤ 1 := by
  cases shape_of_commits commits with
  | creation _ opens => exact .inr ⟨opens.first, fun id => length_ticketVersions_cons _ rfl⟩
  | nothing => exact .inl (by simp)
  | call _ calls => exact .inr ⟨calls.first, fun id => length_ticketVersions_cons _ rfl⟩
  | key => exact .inl (by simp [Write.lock, Row.lock])
  | change changes =>
      obtain ⟨row, event, episode, rfl, first, _, _, episodic, _⟩ := changes
      refine .inr ⟨first, fun id => ?_⟩
      have quiet : ticketVersions id episode = [] := by
        refine List.filterMap_eq_nil_iff.mpr fun write member => ticket?_eq_none.mpr ?_
        intro locked
        obtain ⟨ticket, _, rfl | rfl⟩ := ticket_of_lock locked
        · exact ticket_of_episode episodic member rfl
        · exact ticket_of_episode episodic member rfl
      refine length_ticketVersions_cons _ ?_
      rw [ticketVersions_cons, quiet]
      rfl
  | transfer is => exact (stays _ _ _ is).elim
  | noShows _ closes =>
      obtain ⟨rows, events, rfl, _, _, _, first, distinct⟩ := closes
      refine .inr ⟨first, fun id => ?_⟩
      have quiet : ticketVersions id (events.map fun event => .insert (.event event)) = [] := by
        simp [ticketVersions, List.filterMap_eq_nil_iff, Write.ticket?]
      rw [ticketVersions_append, quiet, List.append_nil]
      exact length_ticketVersions_updates distinct
  | cleanup _ drops =>
      refine .inl fun write member id => ?_
      obtain ⟨tenantId, key, rfl⟩ := drops write member
      simp [Write.lock]
  | records only =>
      refine .inl fun write member id locked => ?_
      have isRecord := (only write member).1
      rw [locked] at isRecord
      cases isRecord

end QueueFlow.App
