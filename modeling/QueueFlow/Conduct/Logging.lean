import QueueFlow.Conduct.Shapes

/-!
# What every commit logs

One CREATED event for an inserted ticket, and for each UPDATE of a ticket one event that names the
new status.
-/

namespace QueueFlow.App
open QueueFlow.Data QueueFlow.Tables QueueFlow.Transactions

variable {hexdigest : PyDict → String} {env : Nat → Env} {request : Request} {past : List Act}
  {writes : List Write} {id : UUID}

def Logs (id : UUID) (writes : List Write) : Prop :=
  (writes.filterMap (Write.event? id)).map TicketEvent.eventType =
    writes.filterMap (Write.loggedAs id)

theorem logs_append {first last : List Write} (logsFirst : Logs id first)
    (logsLast : Logs id last) : Logs id (first ++ last) := by
  simp only [Logs, List.filterMap_append, List.map_append] at *
  rw [logsFirst, logsLast]

theorem logs_of_other
    (other : ∀ write ∈ writes, write.event? id = none ∧ write.loggedAs id = none) :
    Logs id writes := by
  unfold Logs
  rw [List.filterMap_eq_nil_iff.mpr fun write member => (other write member).1,
    List.filterMap_eq_nil_iff.mpr fun write member => (other write member).2]
  rfl

theorem logs_pair {write : Write} {event : TicketEvent} (row : Ticket)
    (logged : write.loggedAs id = if row.id = id then some event.eventType else none)
    (silent : write.event? id = none) (ticketId : event.ticketId = row.id) :
    Logs id [write, .insert (.event event)] := by
  have stored : Write.event? id (.insert (.event event)) =
      if row.id = id then some event else none := by rw [Write.event?, ticketId]
  have idle : Write.loggedAs id (.insert (.event event)) = none := rfl
  by_cases mine : row.id = id <;>
    simp [Logs, logged, silent, stored, idle, mine]

theorem logs_changes {target : TicketStatus} {row : Ticket} {event : TicketEvent}
    (changes : Request.Changes target row event) :
    Logs id [.update (.ticket row), .insert (.event event)] := by
  refine logs_pair row ?_ rfl changes.ticketId
  simp [Write.loggedAs, changes.eventType, changes.status]

theorem logs_change {target : TicketStatus}
    (commits : request.commitsChange past target writes) : Logs id writes := by
  obtain ⟨row, event, episode, rfl, _, _, changes, episodic, _⟩ := commits
  have quiet : Logs id episode := by
    refine logs_of_other fun write member => ?_
    obtain ⟨interaction, same, _⟩ := episodic write member
    cases write with
    | insert row => cases same; exact ⟨rfl, rfl⟩
    | update row => cases same; exact ⟨rfl, rfl⟩
    | dropKey tenantId key => cases same
  exact logs_append (logs_changes changes) quiet

theorem loggedAs_noShows {rows : List Ticket} (marked : ∀ row ∈ rows, row.status = .noShow) :
    (rows.map fun row => Write.update (.ticket row)).filterMap (Write.loggedAs id) =
      List.replicate ((rows.map Ticket.id).count id) .noShow := by
  induction rows with
  | nil => rfl
  | cons row rows ih =>
      have status := marked row List.mem_cons_self
      have later := ih fun other member => marked other (List.mem_cons_of_mem _ member)
      rw [List.map_cons, List.filterMap_cons, List.map_cons, List.count_cons, later]
      by_cases mine : row.id = id <;>
        simp [Write.loggedAs, mine, status, EventType.ofStatus, List.replicate_succ]

theorem events_noShows {events : List TicketEvent}
    (logged : ∀ event ∈ events, event.eventType = .noShow) :
    ((events.map fun event => Write.insert (.event event)).filterMap (Write.event? id)).map
      TicketEvent.eventType =
        List.replicate ((events.map TicketEvent.ticketId).count id) .noShow := by
  induction events with
  | nil => rfl
  | cons event events ih =>
      have type := logged event List.mem_cons_self
      have later := ih fun other member => logged other (List.mem_cons_of_mem _ member)
      rw [List.map_cons, List.filterMap_cons, List.map_cons, List.count_cons]
      by_cases mine : event.ticketId = id
      · simpa [Write.event?, mine, type, List.replicate_succ] using later
      · simpa [Write.event?, mine] using later

/-- The flush sends all UPDATEs first, but there is one event for each of them. -/
theorem logs_noShows (commits : Request.commitsNoShows past writes) : Logs id writes := by
  obtain ⟨rows, events, rfl, marked, logged, matched, _⟩ := commits
  have quiet :
    (rows.map fun row => Write.update (.ticket row)).filterMap (Write.event? id) = [] := by
    simp [List.filterMap_eq_nil_iff, Write.event?]
  have idle : (events.map fun event => Write.insert (.event event)).filterMap
      (Write.loggedAs id) = [] := by
    simp [List.filterMap_eq_nil_iff, Write.loggedAs]
  rw [Logs, List.filterMap_append, List.filterMap_append, quiet, idle, List.nil_append,
    List.append_nil, loggedAs_noShows marked, events_noShows logged, matched.count_eq]

theorem logs_commits (commits : request.commits hexdigest env past writes) : Logs id writes := by
  cases shape_of_commits commits with
  | creation _ opens =>
      exact logs_pair _ (by simp [Write.loggedAs, opens.eventType]) rfl opens.ticketId
  | nothing | key => rfl
  | call _ calls =>
      refine logs_pair _ ?_ rfl calls.ticketId
      simp [Write.loggedAs, calls.eventType, calls.status, EventType.ofStatus]
  | change changes => exact logs_change changes
  | transfer _ moves =>
      obtain ⟨row, event, requeued, requeueEvent, rfl, _, _, changes, requeues, _⟩ := moves
      have first : Logs id [.update (.ticket row), .insert (.event event)] := logs_changes changes
      exact logs_append first (logs_changes requeues)
  | noShows _ closes => exact logs_noShows closes
  | cleanup _ drops =>
      refine logs_of_other fun write member => ?_
      obtain ⟨tenantId, key, rfl⟩ := drops write member
      exact ⟨rfl, rfl⟩
  | records only =>
      exact logs_of_other fun write member => (silent_of_isRecord (only write member).1).2

end QueueFlow.App
