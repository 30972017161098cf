import QueueFlow.Concurrency.Queue
import Mathlib.Data.Fintype.Card
import Mathlib.Data.List.Chain

/-!
# Draining a queue

No request for a queue comes back empty-handed, or with a worse ticket, while a better one is left.
-/

namespace QueueFlow.Concurrency
open QueueFlow.App QueueFlow.Data QueueFlow.Tables QueueFlow.Transactions

variable {ι : Type} [DecidableEq ι] {hexdigest : PyDict → String} {env : Nat → Env}
  {requests : ι → Request} {db : Database} {w : AppWorld ι} {locationId : UUID}
  {serviceId : Option UUID}

/-! ## One call for one ticket -/

section
variable (drains : Drains requests db locationId serviceId)
  (reach : Reachable engine env (initial hexdigest requests db) w) (committed : AllCommitted w)
include drains reach committed

omit committed in
theorem Drains.calledAt_unique {m n : Nat} {i j : ι} {id : UUID}
    (first : CalledAt requests w.state.log m i id)
    (second : CalledAt requests w.state.log n j id) : m = n ∧ i = j := by
  have same : m = n := by
    rcases Nat.lt_trichotomy m n with before | same | after
    · exact (not_called_again reach before first (fun _ _ _ _ => drains.not_requeued) second).elim
    · exact same
    · exact (not_called_again reach after second (fun _ _ _ _ => drains.not_requeued) first).elim
  subst same
  obtain ⟨_, commit⟩ := first.commit
  obtain ⟨_, commit'⟩ := second.commit
  cases commit.symm.trans commit'
  exact ⟨rfl, rfl⟩

omit drains committed in
theorem calledAt_session_unique {m n : Nat} {i : ι} {id other : UUID}
    (first : CalledAt requests w.state.log m i id)
    (second : CalledAt requests w.state.log n i other) : id = other := by
  have earliest {m n : Nat} {id other : UUID} (first : CalledAt requests w.state.log m i id)
      (second : CalledAt requests w.state.log n i other) : ¬ m < n := by
    intro before
    obtain ⟨writes, commit⟩ := first.commit
    have seen : (.committed writes : Act) ∈ pastOf i (w.state.log.take n) :=
      mem_pastOf.mpr (mem_take.mpr ⟨m, before, commit⟩)
    rw [← mem_commitsOf, second.uncommitted] at seen
    cases seen
  have same : m = n := Nat.le_antisymm (Nat.not_lt.mp (earliest second first))
    (Nat.not_lt.mp (earliest first second))
  subst same
  obtain ⟨row, event, commit, rfl, _⟩ := first.shape reach
  obtain ⟨row', event', commit', rfl, _⟩ := second.shape reach
  cases commit.symm.trans commit'
  rfl

omit committed in
theorem Drains.versions_called {n : Nat} {i : ι} {row : Ticket} {event : TicketEvent}
    (commit : CommitAt w.state.log n i [.update (.ticket row), .insert (.event event)]) :
    ticketVersions row.id (committedWrites w.state.log) = [row] := by
  have whole := w.state.log.take_length
  have statuses : ∀ version ∈ ticketVersions row.id (committedWrites w.state.log),
      version.status = .called := by
    intro version member
    rw [← whole] at member
    exact (drains.called_of_committed reach member).1
  have member : row ∈ ticketVersions row.id (committedWrites w.state.log) :=
    mem_ticketVersions.mpr ⟨rfl, .inr (mem_committedWrites.mpr
      ⟨i, _, List.mem_of_getElem? commit, List.mem_cons_self⟩)⟩
  have chain : ((db.tickets.get? row.id).toList ++
      ticketVersions row.id (committedWrites w.state.log)).IsChain Ticket.Becomes :=
    isChain_versions (fun _ _ sound => sound) (fun _ _ sound => sound)
      (reaches_serial reach).history
  have onward := chain.right_of_append
  generalize ticketVersions row.id (committedWrites w.state.log) = versions at *
  match versions with
  | [] => cases member
  | [only] => rw [List.mem_singleton.mp member]
  | first :: second :: rest =>
      have becomes := (List.isChain_cons_cons.mp onward).1
      have waiting := becomes.called (statuses second (by simp))
      rw [statuses first (by simp)] at waiting
      cases waiting

omit committed in
theorem Drains.final_row {n : Nat} {i : ι} {row : Ticket} {event : TicketEvent}
    (commit : CommitAt w.state.log n i [.update (.ticket row), .insert (.event event)]) :
    w.state.store.tickets.get? row.id = some row := by
  rw [(reaches_serial reach).replay, get?_applyAll, drains.versions_called reach commit]
  simp

omit committed in
theorem Drains.called_of_logged {id : UUID} {event : TicketEvent}
    (logged : event ∈ loggedEvents w.state.log id) : Called requests w.state.log id := by
  obtain ⟨write, member, stored⟩ := List.mem_filterMap.mp logged
  obtain ⟨n, i, writes, commit, written⟩ := mem_committedWrites_at member
  rcases drains.commit_cases reach commit with rfl | call | ⟨record, rfl⟩
  · cases written
  · obtain ⟨row, other, rfl, _, named, _, _, called⟩ := call
    simp only [List.mem_cons, List.not_mem_nil, or_false] at written
    rcases written with rfl | rfl
    · cases stored
    · simp only [Write.event?] at stored
      split at stored
      · rename_i same
        rw [← same, named]
        exact ⟨n, i, called⟩
      · cases stored
  · simp only [List.mem_singleton] at written
    subst written
    cases stored

theorem Drains.one_event {n : Nat} {i : ι} {row : Ticket} {event : TicketEvent}
    (commit : CommitAt w.state.log n i [.update (.ticket row), .insert (.event event)])
    (called : CalledAt requests w.state.log n i row.id) (status : row.status = .called)
    (named : event.ticketId = row.id) :
    loggedEvents w.state.log row.id = [event] ∧ event.eventType = .called := by
  have member : event ∈ loggedEvents w.state.log row.id :=
    List.mem_filterMap.mpr ⟨.insert (.event event), mem_committedWrites.mpr
      ⟨i, _, List.mem_of_getElem? commit, by simp⟩, by simp [Write.event?, named]⟩
  have types : (loggedEvents w.state.log row.id).map TicketEvent.eventType = [.called] := by
    obtain ⟨taken, present, same, _⟩ := drains.better_called reach committed called
    have found : db.tickets.get? row.id = some taken := same ▸ Table.get?_of_mem present
    have logged : (loggedEvents w.state.log row.id).map TicketEvent.eventType =
        (committedWrites w.state.log).filterMap (Write.loggedAs row.id) := logged_eq reach row.id
    rw [logged, loggedAs_of_present (reaches_serial reach).history found,
      drains.versions_called reach commit]
    simp [status, EventType.ofStatus]
  obtain ⟨only, logged, called⟩ := List.map_eq_singleton_iff.mp types
  rw [logged] at member
  cases List.mem_singleton.mp member
  exact ⟨logged, called⟩

/-! ## Answers -/

omit drains reach committed in
def answer (log : List (Entry ι)) (i : ι) : Option UUID := (calledTickets (pastOf i log)).head?

theorem Drains.answer_eq_some {i : ι} {id : UUID} :
    answer w.state.log i = some id ↔ ∃ n, CalledAt requests w.state.log n i id := by
  have executed {id : UUID} (member : id ∈ calledTickets (pastOf i w.state.log)) :
      ∃ n, CalledAt requests w.state.log n i id := by
    obtain ⟨location, service, counter, row, writes, performed⟩ := mem_calledTickets.mp member
    obtain ⟨q, located⟩ := List.mem_iff_getElem?.mp (mem_pastOf.mp performed)
    exact drains.called_of_performed reach committed located
  constructor
  · exact fun answered => executed (List.mem_of_head? answered)
  · rintro ⟨n, called⟩
    have member : id ∈ calledTickets (pastOf i w.state.log) := by
      rw [← List.take_append_drop n w.state.log, pastOf_append, calledTickets,
        List.filterMap_append]
      exact List.mem_append_left _ called.answered
    unfold answer
    cases answers : (calledTickets (pastOf i w.state.log)).head? with
    | none => rw [List.head?_eq_none_iff.mp answers] at member; cases member
    | some other =>
        obtain ⟨m, earlier⟩ := executed (List.mem_of_head? answers)
        rw [calledAt_session_unique reach called earlier]

theorem Drains.called_iff {id : UUID} :
    Called requests w.state.log id ↔ ∃ i, answer w.state.log i = some id := by
  constructor
  · rintro ⟨n, i, called⟩
    exact ⟨i, (drains.answer_eq_some reach committed).mpr ⟨n, called⟩⟩
  · rintro ⟨i, answered⟩
    obtain ⟨n, called⟩ := (drains.answer_eq_some reach committed).mp answered
    exact ⟨n, i, called⟩

theorem Drains.findsNone_of_answer {i : ι} (nothing : answer w.state.log i = none) :
    ∃ p counterId, (requests i).findsNone (pastOf i (w.state.log.take p)) counterId := by
  obtain ⟨counterId, body, actor, key, counter, request, _⟩ := drains.calls i
  cases commits : commitsOf (pastOf i w.state.log) with
  | nil => exact (committed i commits).elim
  | cons first rest =>
      obtain ⟨n, commit, uncommitted⟩ := first_commit commits
      have allowed := commits_at reach commit
      rw [request] at allowed ⊢
      rcases allowed with ⟨_, _, none_found⟩ | ⟨row, event, rfl, calls⟩ | ⟨record, rfl, saves⟩
      · exact ⟨n, counterId, none_found⟩
      · have called := calledAt_of_commit reach request commit
        rw [(drains.answer_eq_some reach committed).mpr ⟨n, called⟩] at nothing
        cases nothing
      · obtain ⟨first, _, _, only, _⟩ := saves.resource
        rw [uncommitted] at only
        cases only

theorem Drains.not_missing {i : ι} {ticket : Ticket} (present : ticket ∈ db.tickets.rows) :
    ¬ Asked (pastOf i w.state.log) (.ticket ticket.id) none := by
  intro asked
  rw [← w.state.log.take_length] at asked
  obtain ⟨m, order, _, _, missing⟩ := asked_view reach asked
  have missing : none = (viewAt engine db i (w.state.log.take m)).tickets.get? ticket.id := missing
  have found : db.tickets.get? ticket.id = some ticket := Table.get?_of_mem present
  rcases drains.view_ticket reach committed i m ticket.id with unchanged | ⟨⟨row, seen, _⟩, _⟩
  · cases missing.trans (unchanged.trans found)
  · cases missing.trans seen

theorem Drains.response_eq {i : ι} {response : Response}
    (returned : w.session i = .returned response) :
    ∃ read, response = .called read ∧
      read.map (fun read => read.ticket.id) = answer w.state.log i := by
  obtain ⟨counterId, body, actor, key, counter, request, _⟩ := drains.calls i
  have follows := (reaches_conduct reach).2 i
  rw [returned, request] at follows
  obtain ⟨_, ends⟩ := follows
  cases response with
  | called read =>
      refine ⟨read, rfl, ?_⟩
      cases read with
      | some read =>
          rcases calledAt_of_returned reach request returned with nothing | ⟨n, called⟩
          · exact (committed i nothing).elim
          · exact ((drains.answer_eq_some reach committed).mpr ⟨n, called⟩).symm
      | none =>
          cases answered : answer w.state.log i with
          | none => rfl
          | some id =>
              obtain ⟨n, called⟩ := (drains.answer_eq_some reach committed).mp answered
              obtain ⟨taken, present, rfl, _⟩ := drains.better_called reach committed called
              obtain ⟨row, event, commit, same, _⟩ := called.shape reach
              have logged : [Write.update (.ticket row), .insert (.event event)] ∈
                  commitsOf (pastOf i w.state.log) :=
                mem_commitsOf.mpr (mem_pastOf.mpr (List.mem_of_getElem? commit))
              rcases ends with ⟨only, _⟩ | ⟨row', event', only, asked⟩
              · rw [only] at logged
                simp at logged
              · rw [only] at logged
                have same' : row = row' := by
                  have := List.mem_singleton.mp logged
                  cases this
                  rfl
                rw [← same', same] at asked
                exact (drains.not_missing reach committed present asked).elim
  | _ => exact ends.elim

end

/-! ## The queue after the run -/

def queueOf (db : Database) (locationId : UUID) (serviceId : Option UUID) : List Ticket :=
  db.tickets.rows.filter fun ticket => ticket.waitsFor locationId serviceId

theorem mem_queueOf {ticket : Ticket} : ticket ∈ queueOf db locationId serviceId ↔
    ticket ∈ db.tickets.rows ∧ ticket.waitsFor locationId serviceId := by
  simp [queueOf]

structure CallRecorded
    (requests : ι → Request) (db store : Database) (i : ι) (id : UUID) : Prop where
  row : ∃ row, store.tickets.get? id = some row ∧ row.status = .called ∧
    ∀ counterId body actor key, requests i = .callNext counterId body actor key →
      row.assignedCounterId = some counterId
  event : ∃ event, store.eventsOf id = db.eventsOf id ++ [event] ∧ event.eventType = .called ∧
    event.fromStatus = some .waiting

structure Drained [Fintype ι] (requests : ι → Request) (db : Database) (w : AppWorld ι)
    (queue : List Ticket) : Prop where
  responses : ∀ i response, w.session i = .returned response → ∃ read,
    response = .called read ∧ read.map (fun read => read.ticket.id) = answer w.state.log i
  count : (Finset.univ.filter fun i => (answer w.state.log i).isSome).card =
    min (Fintype.card ι) queue.length
  distinct : ∀ i j id, answer w.state.log i = some id → answer w.state.log j = some id → i = j
  first : ∀ i id, answer w.state.log i = some id → ∃ taken ∈ queue, taken.id = id ∧
    ∀ ticket ∈ queue, ticket.before taken → ∃ j, answer w.state.log j = some ticket.id
  recorded : ∀ i id, answer w.state.log i = some id →
    CallRecorded requests db w.state.store i id
  others : ∀ id, (∀ i, answer w.state.log i ≠ some id) →
    w.state.store.tickets.get? id = db.tickets.get? id ∧
      w.state.store.eventsOf id = db.eventsOf id

section
variable (drains : Drains requests db locationId serviceId)
  (reach : Reachable engine env (initial hexdigest requests db) w) (committed : AllCommitted w)
include drains reach committed

theorem Drains.distinct {i j : ι} {id : UUID} (first : answer w.state.log i = some id)
    (second : answer w.state.log j = some id) : i = j := by
  obtain ⟨m, called⟩ := (drains.answer_eq_some reach committed).mp first
  obtain ⟨n, called'⟩ := (drains.answer_eq_some reach committed).mp second
  exact (drains.calledAt_unique reach called called').2

theorem Drains.first {i : ι} {id : UUID} (answered : answer w.state.log i = some id) :
    ∃ taken ∈ queueOf db locationId serviceId, taken.id = id ∧
      ∀ ticket ∈ queueOf db locationId serviceId, ticket.before taken →
        ∃ j, answer w.state.log j = some ticket.id := by
  obtain ⟨n, called⟩ := (drains.answer_eq_some reach committed).mp answered
  obtain ⟨taken, present, same, waits, better⟩ := drains.better_called reach committed called
  refine ⟨taken, mem_queueOf.mpr ⟨present, waits⟩, same, fun ticket member sooner => ?_⟩
  obtain ⟨waiting, waits⟩ := mem_queueOf.mp member
  exact (drains.called_iff reach committed).mp (better ticket waiting waits sooner)

/-- Either every request gets a ticket, or every ticket is taken. -/
theorem Drains.count [Fintype ι] :
    (Finset.univ.filter fun i => (answer w.state.log i).isSome).card =
      min (Fintype.card ι) (queueOf db locationId serviceId).length := by
  set answered := Finset.univ.filter fun i => (answer w.state.log i).isSome
  set ids := ((queueOf db locationId serviceId).map Ticket.id).toFinset
  have size : ids.card = (queueOf db locationId serviceId).length := by
    rw [List.toFinset_card_of_nodup, List.length_map]
    exact db.tickets.distinct.sublist (List.filter_sublist.map _)
  have given {i : ι} (member : i ∈ answered) :
      answer w.state.log i = some ((answer w.state.log i).getD 0) := by
    obtain ⟨id, some⟩ := Option.isSome_iff_exists.mp (Finset.mem_filter.mp member).2
    rw [some]
    rfl
  have few : answered.card ≤ ids.card := by
    refine Finset.card_le_card_of_injOn (fun i => (answer w.state.log i).getD 0) ?_ ?_
    · intro i member
      obtain ⟨taken, waiting, same, _⟩ := drains.first reach committed (given member)
      exact List.mem_toFinset.mpr (List.mem_map.mpr ⟨taken, waiting, same⟩)
    · intro i member j member' same
      have same : (answer w.state.log i).getD 0 = (answer w.state.log j).getD 0 := same
      exact drains.distinct reach committed (given member) (same ▸ given member')
  by_cases everyone : ∀ i, i ∈ answered
  · have whole : answered = Finset.univ := Finset.eq_univ_iff_forall.mpr everyone
    rw [← size, min_eq_left]
    · rw [whole, Finset.card_univ]
    · rwa [whole, Finset.card_univ] at few
  · obtain ⟨i, unanswered⟩ := not_forall.mp everyone
    have nothing : answer w.state.log i = none := by
      simpa [answered] using unanswered
    obtain ⟨p, counterId, none_found⟩ := drains.findsNone_of_answer reach committed nothing
    have many : ids.card ≤ answered.card := by
      refine Finset.card_le_card_of_surjOn (fun i => (answer w.state.log i).getD 0) ?_
      intro id member
      obtain ⟨ticket, waiting, rfl⟩ := List.mem_map.mp (List.mem_toFinset.mp member)
      obtain ⟨present, waits⟩ := mem_queueOf.mp waiting
      obtain ⟨j, taken⟩ := (drains.called_iff reach committed).mp
        (drains.all_called_of_findsNone reach committed none_found present waits)
      exact ⟨j, by simp [answered, taken], by simp [taken]⟩
    have bounded := Finset.card_le_univ answered
    rw [← size, min_eq_right (many.trans bounded)]
    exact Nat.le_antisymm few many

theorem Drains.recorded {i : ι} {id : UUID} (answered : answer w.state.log i = some id) :
    CallRecorded requests db w.state.store i id := by
  obtain ⟨n, called⟩ := (drains.answer_eq_some reach committed).mp answered
  obtain ⟨row, event, commit, rfl, _⟩ := called.shape reach
  rcases drains.commit_cases reach commit with nothing | call | ⟨record, key⟩
  · cases nothing
  · obtain ⟨row', event', same, status, named, fromStatus, counter, _⟩ := call
    cases same
    obtain ⟨one, type⟩ := drains.one_event reach committed commit called status named
    refine ⟨⟨row, drains.final_row reach commit, status, counter⟩, event, ?_, type, fromStatus⟩
    rw [final_events reach, one]
  · cases key

theorem Drains.others {id : UUID} (untouched : ∀ i, answer w.state.log i ≠ some id) :
    w.state.store.tickets.get? id = db.tickets.get? id ∧
      w.state.store.eventsOf id = db.eventsOf id := by
  have never : ¬ Called requests w.state.log id := fun called => by
    obtain ⟨i, answered⟩ := (drains.called_iff reach committed).mp called
    exact untouched i answered
  constructor
  · have versions : ticketVersions id (committedWrites w.state.log) = [] := by
      rw [List.eq_nil_iff_forall_not_mem]
      intro row member
      rw [← w.state.log.take_length] at member
      exact never (drains.called_of_committed reach member).2
    rw [(reaches_serial reach).replay, get?_applyAll, versions]
    cases db.tickets.get? id <;> rfl
  · rw [final_events reach, List.append_right_eq_self, List.eq_nil_iff_forall_not_mem]
    exact fun event logged => never (drains.called_of_logged reach logged)

theorem call_next_drains [Fintype ι] :
    Drained requests db w (queueOf db locationId serviceId) where
  responses _ _ returned := drains.response_eq reach committed returned
  count := drains.count reach committed
  distinct _ _ _ := drains.distinct reach committed
  first _ _ := drains.first reach committed
  recorded _ _ := drains.recorded reach committed
  others _ := drains.others reach committed

end

def rush (i : Fin 3) : Request := .callNext (if i = 0 then 30 else 31) {} clerk none

def rushStart : AppWorld (Fin 3) := initial textDigest rush crowdedOffice

def rushWorld : AppWorld (Fin 3) :=
  rushStart.after engine steadyEnv (List.replicate 20 [.run 0, .run 1, .run 2]).flatten

theorem rush_reachable : Reachable engine steadyEnv rushStart rushWorld := reachable_after _

theorem call_next_drains_rush :
    Drained rush crowdedOffice rushWorld (queueOf crowdedOffice 10 none) := by
  have drains : Drains rush crowdedOffice 10 none :=
    ⟨fun i => ⟨if i = 0 then 30 else 31, {}, clerk, none,
      if i = 0 then ⟨30, 10, "Desk 1", "standard", true⟩ else ⟨31, 10, "Desk 2", "standard", true⟩,
      rfl, rfl, by revert i; decide, by revert i; decide⟩⟩
  have committed : AllCommitted rushWorld := by
    unfold AllCommitted
    decide +kernel
  exact call_next_drains drains rush_reachable committed

example : List.ofFn (answer rushWorld.state.log) = [some 3, some 2, none] := by decide +kernel

end QueueFlow.Concurrency
