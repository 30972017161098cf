import QueueFlow.Conduct.Rules
import QueueFlow.Transactions.LockOrder
import Mathlib.Data.Prod.Lex

/-!
# The order in which requests lock

Within a transaction, tickets are locked by ascending id, and then interactions, audit rows and role
assignments. Nobody waits for the row of a new event.
-/

namespace QueueFlow.App
open QueueFlow.Data QueueFlow.Tables QueueFlow.Transactions

/-- Nobody but its own transaction asks for a new event. -/
def Contended (lock : Lock) : Prop := ∀ id, lock ≠ .event id

def lockRank : Lock → ℕ ×ₗ ℕ
  | .ticket id => toLex (0, id)
  | .interaction _ => toLex (1, 0)
  | .audit _ => toLex (2, 0)
  | .userRole _ _ => toLex (3, 0)
  | _ => toLex (0, 0)

abbrev Ascending {α : Type} (handler : Handler α) (held : Set Lock) : Prop :=
  handler.Ascends engine Contended lockRank held

variable {hexdigest : PyDict → String} {α β : Type} {held : Set Lock}

/-! ## Statements -/

theorem ascending_perform {stmt : Stmt} {next : stmt.Res → Handler β}
    (order : ∀ context, ∀ lock ∈ stmt.needs context, Contended lock →
      lock ∈ held ∨ ∀ other ∈ held, lockRank other < lockRank lock)
    (rest : ∀ context value writes locks, stmt.exec context = .done value writes locks →
      Ascending (next value)
        (held ∪ {lock | Contended lock ∧ lock ∈ stmt.needs context ++ locks})) :
    Ascending ((Program.perform stmt).bind next) held :=
  fun context => ⟨order context, rest context⟩

theorem ascending_query {q : Query} {next : q.Res → Handler β}
    (rest : ∀ db order, Ascending (next (q.eval db order)) held) :
    Ascending ((query q).bind next) held := by
  refine ascending_perform (fun context lock needed => by cases needed) ?_
  intro context value writes locks exec
  obtain ⟨rfl, _, rfl⟩ := exec_read exec
  have same : held ∪ {lock | Contended lock ∧ lock ∈ (Stmt.read q).needs context ++ []} = held := by
    ext lock
    simp [Stmt.needs]
  rw [same]
  exact rest _ _

theorem ascending_command {c : Command} {next : c.Res → Handler β}
    (order : ∀ db id, ∀ lock ∈ c.needs db id, Contended lock →
      lock ∈ held ∨ ∀ other ∈ held, lockRank other < lockRank lock)
    (rest : ∀ db id now value writes, c.run db id now = .ok (value, writes) →
      Ascending (next value) (held ∪ {lock | Contended lock ∧ lock ∈ c.needs db id})) :
    Ascending ((command c).bind next) held := by
  refine ascending_perform (fun context => order context.view context.env.uuid) ?_
  intro context value writes locks exec
  obtain ⟨ran, rfl⟩ := exec_write exec
  rw [List.append_nil]
  exact rest _ _ _ _ _ ran

/-- The first locks of a transaction come in any order. -/
theorem ascending_first {c : Command} {next : c.Res → Handler β}
    (rest : ∀ value held, Ascending (next value) held) :
    Ascending ((command c).bind next) ∅ :=
  ascending_command (fun _ _ _ _ _ => .inr fun _ none => none.elim)
    fun _ _ _ value _ _ => rest value _

theorem ascending_insertEvent {new : NewEvent} {next : Unit → Handler β}
    (rest : Ascending (next ()) held) :
    Ascending ((command (.insertEvent new)).bind next) held := by
  have fresh (id : UUID) : ¬ Contended (.event id) := fun contended => contended id rfl
  refine ascending_command ?_ fun db id now value writes ran => ?_
  · intro db id lock needed contended
    cases List.mem_singleton.mp needed
    exact (fresh id contended).elim
  · have same : held ∪ {lock | Contended lock ∧ lock ∈ (Command.insertEvent new).needs db id} =
        held := by
      ext lock
      simp only [Command.needs, List.mem_singleton, Set.mem_union, Set.mem_ofPred_eq,
        or_iff_left_iff_imp]
      rintro ⟨contended, rfl⟩
      exact (fresh id contended).elim
    rw [same]
    exact rest

theorem contended_ticket (id : UUID) : Contended (.ticket id) := nofun

theorem ascending_updateTicket {id : UUID} {set : TicketUpdate} {next : Ticket → Handler β}
    (order : .ticket id ∈ held ∨ ∀ other ∈ held, lockRank other < lockRank (.ticket id))
    (rest : ∀ row : Ticket, row.id = id → Ascending (next row) (insert (.ticket id) held)) :
    Ascending ((command (.updateTicket id set)).bind next) held := by
  refine ascending_command ?_ fun db fresh now value writes ran => ?_
  · intro db fresh lock needed _
    cases List.mem_singleton.mp needed
    exact order
  · obtain ⟨row, found, _, rfl, _⟩ := run_updateTicket ran
    have same : held ∪ {lock | Contended lock ∧
        lock ∈ (Command.updateTicket id set).needs db fresh} = insert (.ticket id) held := by
      ext lock
      simp only [Command.needs, List.mem_singleton, Set.mem_union, Set.mem_ofPred_eq,
        Set.mem_insert_iff]
      constructor
      · rintro (already | ⟨_, rfl⟩)
        · exact .inr already
        · exact .inl rfl
      · rintro (rfl | already)
        · exact .inr ⟨contended_ticket id, rfl⟩
        · exact .inl already
    rw [same]
    exact rest _ (Table.key_of_get? found)

theorem ascending_silent {handler : Handler α} {next : α → Handler β} (silent : Silent handler)
    (rest : ∀ value, Ascending (next value) held) : Ascending (handler.bind next) held := by
  rcases silent with ⟨value, rfl⟩ | ⟨error, rfl⟩
  · exact rest value
  · trivial

theorem ascending_publishSignage {locationId : UUID} {next : Unit → Handler β}
    (rest : Ascending (next ()) held) :
    Ascending ((publishSignage locationId).bind next) held := by
  intro env
  show Ascending ((if env.redis = true then Program.publish locationId else pure ()).bind next) held
  split
  · exact rest
  · exact rest

/-! ## Parts of a request -/

/-- `next` goes on in order, whatever the handler answers, with the same locks held. -/
def Unlocking (handler : Handler α) : Prop :=
  ∀ (held : Set Lock) (next : α → Handler Response), (∀ value, Ascending (next value) held) →
    Ascending (handler.bind next) held

theorem unlocking_silent {handler : Handler α} (silent : Silent handler) : Unlocking handler :=
  fun _ _ rest => ascending_silent silent rest

theorem unlocking_query (q : Query) : Unlocking (query q) :=
  fun _ _ rest => ascending_query fun _ _ => rest _

theorem unlocking_bind {first : Handler α} {last : α → Handler β} (unlocks : Unlocking first)
    (onward : ∀ value, Unlocking (last value)) : Unlocking (first.bind last) := by
  intro held next rest
  rw [Program.bind_assoc]
  exact unlocks held _ fun value => onward value held next rest

theorem unlocking_refresh {ticket : Ticket} : Unlocking (refresh ticket) := by
  refine unlocking_bind (unlocking_query _) fun found => ?_
  cases found with
  | none => exact unlocking_silent (.inr ⟨_, rfl⟩)
  | some ticket => exact unlocking_silent (silent_ret ticket)

theorem unlocking_lookup {tenantId : UUID} {key : String} :
    Unlocking (getIdempotencyKey tenantId key) :=
  fun held next rest env => unlocking_query (.idempotencyKey tenantId key env.now) held next rest

theorem unlocking_createdBefore {tenantId : UUID} {key : String} :
    Unlocking (createdBefore tenantId key) := by
  refine unlocking_bind unlocking_lookup fun found => ?_
  cases found with
  | none => exact unlocking_silent (silent_ret none)
  | some existing =>
      dsimp only
      split
      · exact unlocking_silent (silent_ret none)
      · exact unlocking_query _

theorem unlocking_changedBefore {tenantId : UUID} {key : String} {ticketId : UUID} :
    Unlocking (changedBefore hexdigest tenantId key ticketId) := by
  refine unlocking_bind unlocking_lookup fun found => ?_
  cases found with
  | none => exact unlocking_silent (silent_ret none)
  | some existing =>
      dsimp only
      split
      · exact unlocking_silent (.inr ⟨_, rfl⟩)
      · split
        · exact unlocking_silent (silent_ret none)
        · exact unlocking_query _

theorem unlocking_ticketWithService {ticketId : UUID} : Unlocking (ticketWithService ticketId) := by
  refine unlocking_bind (unlocking_query _) fun found => ?_
  cases found with
  | none => exact unlocking_silent (silent_ret none)
  | some ticket =>
      dsimp only
      split
      · exact unlocking_silent (silent_ret _)
      · exact unlocking_bind (unlocking_query _) fun service => unlocking_silent (silent_ret _)

theorem unlocking_calledBefore {tenantId : UUID} {key : String} {body : CallNextBody} :
    Unlocking (calledBefore hexdigest tenantId key body) := by
  refine unlocking_bind unlocking_lookup fun found => ?_
  cases found with
  | none => exact unlocking_silent (silent_ret none)
  | some existing =>
      dsimp only
      split
      · exact unlocking_silent (silent_ret none)
      · split
        · exact unlocking_ticketWithService
        · exact unlocking_silent (.inr ⟨_, rfl⟩)

theorem ascending_saveKey {tenantId : Handler UUID} {key : Option String} {body : PyDict}
    {ticket : Ticket} {next : Unit → Handler β} (silent : Silent tenantId)
    (rest : Ascending (next ()) ∅) :
    Ascending ((saveKey hexdigest tenantId key body ticket).bind next) ∅ := by
  unfold saveKey
  split
  · exact rest
  · simp only [Program.bind_eq, Program.bind_assoc]
    refine ascending_silent silent fun id => ?_
    simp only [saveIdempotencyKey, Program.bind_eq, Program.bind_assoc]
    intro env
    exact ascending_first fun _ _ => rest

theorem ascending_storeTicket {new : NewTicket} {actorUserId : Handler (Option UUID)}
    {next : Ticket → Handler Response} (silent : Silent actorUserId)
    (rest : ∀ ticket, Ascending (next ticket) ∅) :
    Ascending ((storeTicket new actorUserId).bind next) ∅ := by
  simp only [storeTicket, Program.bind_eq, Program.bind_assoc]
  refine ascending_first fun ticket held => ?_
  refine ascending_silent silent fun userId => ?_
  refine ascending_insertEvent ?_
  exact unlocking_refresh ∅ next rest

/-! ## Ticket requests -/

section
variable {actor : TokenPayload} {key : Option String}

theorem ascending_createNew {data : TicketCreate} {next : Ticket → Handler Response}
    (rest : ∀ ticket, Ascending (next ticket) ∅) :
    Ascending ((createNew hexdigest data actor key).bind next) ∅ := by
  simp only [createNew, Program.bind_eq, Program.bind_assoc]
  refine ascending_query fun db order => ?_
  refine ascending_silent (silent_parse _) fun tenantId => ?_
  refine ascending_storeTicket (silent_map (silent_parse _) _) fun ticket => ?_
  refine ascending_saveKey (silent_parse _) ?_
  exact ascending_publishSignage (rest ticket)

theorem ascending_createTicket {data : TicketCreate} {next : Ticket → Handler Response}
    (rest : ∀ ticket, Ascending (next ticket) ∅) :
    Ascending ((createTicket hexdigest data actor key).bind next) ∅ := by
  simp only [createTicket, Program.bind_eq, Program.bind_assoc]
  refine ascending_silent (silent_requireRole _ _) fun _ => ?_
  split
  · exact ascending_createNew rest
  · simp only [Program.bind_assoc]
    refine ascending_silent (silent_parse _) fun tenantId => ?_
    refine unlocking_createdBefore ∅ _ fun found => ?_
    cases found with
    | none => exact ascending_createNew rest
    | some ticket => exact rest ticket

theorem ascending_kioskCreateNew {body : KioskTicketCreate} {tenantId : UUID}
    {next : Ticket → Handler Response} (rest : ∀ ticket, Ascending (next ticket) ∅) :
    Ascending ((kioskCreateNew hexdigest body tenantId key).bind next) ∅ := by
  simp only [kioskCreateNew, Program.bind_eq, Program.bind_assoc]
  refine ascending_query fun db order => ?_
  refine ascending_storeTicket (silent_ret none) fun ticket => ?_
  refine ascending_saveKey (silent_ret tenantId) ?_
  exact ascending_publishSignage (rest ticket)

theorem ascending_kioskCreateTicket {body : KioskTicketCreate} {next : Ticket → Handler Response}
    (rest : ∀ ticket, Ascending (next ticket) ∅) :
    Ascending ((kioskCreateTicket hexdigest body key).bind next) ∅ := by
  simp only [kioskCreateTicket, Program.bind_eq, Program.bind_assoc]
  refine ascending_query fun db order => ?_
  split
  · trivial
  · split
    · exact ascending_kioskCreateNew rest
    · simp only [Program.bind_assoc]
      refine unlocking_createdBefore ∅ _ fun found => ?_
      cases found with
      | none => exact ascending_kioskCreateNew rest
      | some ticket => exact rest ticket

/-- A change of status locks its ticket and nothing else. -/
theorem ascending_changeStatus {ticketId : UUID} {target : TicketStatus}
    {payload : Option Payload} {next : Ticket → Handler β}
    (rest : ∀ ticket : Ticket, ticket.id = ticketId →
      Ascending (next ticket) {.ticket ticketId}) :
    Ascending ((changeStatus ticketId actor target payload).bind next) ∅ := by
  simp only [changeStatus, getOr404, Program.bind_eq, Program.bind_assoc]
  refine ascending_query fun db order => ?_
  split
  · rename_i ticket found
    have same : ticket.id = ticketId := Table.key_of_get? found
    simp only [Program.pure_eq, Program.ret_bind]
    refine ascending_silent (silent_checkTenant _ _) fun _ => ?_
    refine ascending_silent (silent_parse _) fun userId => ?_
    rw [Ascending, ascends_mapRaise]
    simp only [transitionStatus, Program.bind_eq, Program.bind_assoc]
    refine ascending_silent (silent_transition _ _) fun _ => fun env => ?_
    refine ascending_updateTicket (.inr fun _ none => none.elim) fun row named => ?_
    refine ascending_insertEvent ?_
    rw [insert_empty_eq, same]
    exact rest row (named.trans same)
  · trivial

theorem ascending_simpleChange {ticketId : UUID} {target : TicketStatus}
    {next : Ticket → Handler β} (rest : ∀ ticket, Ascending (next ticket) ∅) :
    Ascending ((simpleChange ticketId actor target).bind next) ∅ := by
  simp only [simpleChange, Program.bind_eq, Program.bind_assoc]
  refine ascending_silent (silent_requireRole _ _) fun _ => ?_
  refine ascending_changeStatus fun ticket _ => ?_
  show Ascending _ ∅
  exact ascending_publishSignage (rest ticket)

/-- Interactions are locked after the ticket. -/
theorem ascending_interactions {c : Command} {id : UUID} {next : c.Res → Handler β}
    (interactions : ∀ db fresh, ∀ lock ∈ c.needs db fresh, ∃ row, lock = .interaction row)
    (rest : ∀ value held, Ascending (next value) held) :
    Ascending ((command c).bind next) {.ticket id} := by
  refine ascending_command ?_ fun _ _ _ value _ _ => rest value _
  intro db fresh lock needed _
  obtain ⟨row, rfl⟩ := interactions db fresh lock needed
  refine .inr fun other member => ?_
  rw [Set.mem_singleton_iff.mp member]
  exact Prod.Lex.toLex_lt_toLex.mpr (.inl Nat.zero_lt_one)

theorem ascending_openInteraction {ticket : Ticket} {id : UUID} {next : Unit → Handler β}
    (rest : ∀ held, Ascending (next ()) held) :
    Ascending ((openInteraction ticket).bind next) {.ticket id} := by
  intro env
  refine ascending_interactions (fun db fresh lock needed => ?_) fun _ => rest
  exact ⟨fresh, List.mem_singleton.mp needed⟩

theorem ascending_closeInteraction {ticket : Ticket} {id : UUID} {next : Unit → Handler β}
    (rest : ∀ held, Ascending (next ()) held) :
    Ascending ((closeInteraction ticket).bind next) {.ticket id} := by
  intro env
  refine ascending_interactions (fun db fresh lock needed => ?_) fun _ => rest
  obtain ⟨row, _, rfl⟩ := List.mem_map.mp needed
  exact ⟨row.id, rfl⟩

theorem ascending_keyedChange {ticketId : UUID} {target : TicketStatus}
    {episode : Ticket → Handler Unit} {next : Ticket → Handler Response}
    (episodic : ∀ ticket (onward : Unit → Handler Response),
      (∀ held, Ascending (onward ()) held) →
        Ascending ((episode ticket).bind onward) {.ticket ticketId})
    (rest : ∀ ticket, Ascending (next ticket) ∅) :
    Ascending ((keyedChange hexdigest ticketId actor key target episode).bind next) ∅ := by
  have changes : Ascending
      ((keyedChangeNew hexdigest ticketId actor key target episode).bind next) ∅ := by
    simp only [keyedChangeNew, Program.bind_eq, Program.bind_assoc]
    refine ascending_changeStatus fun ticket _ => episodic ticket _ fun held => ?_
    show Ascending _ ∅
    refine unlocking_refresh ∅ _ fun ticket => ?_
    refine ascending_saveKey (silent_parse _) ?_
    exact ascending_publishSignage (rest ticket)
  simp only [keyedChange, Program.bind_eq, Program.bind_assoc]
  refine ascending_silent (silent_requireRole _ _) fun _ => ?_
  split
  · exact changes
  · simp only [Program.bind_assoc]
    refine ascending_silent (silent_parse _) fun tenantId => ?_
    refine unlocking_changedBefore ∅ _ fun found => ?_
    cases found with
    | none => exact changes
    | some ticket => exact rest ticket

/-- The second UPDATE of a transfer is of the ticket that it has locked. -/
theorem ascending_transferTicket {ticketId : UUID} {data : TicketTransfer}
    {next : Ticket → Handler β} (rest : ∀ ticket, Ascending (next ticket) ∅) :
    Ascending ((transferTicket ticketId data actor).bind next) ∅ := by
  simp only [transferTicket, Program.bind_eq, Program.bind_assoc]
  refine ascending_silent (silent_requireRole _ _) fun _ => ?_
  refine ascending_changeStatus fun ticket same => ?_
  refine ascending_updateTicket (.inl (same ▸ rfl)) fun row _ => ?_
  refine ascending_silent (silent_parse _) fun userId => fun env => ?_
  refine ascending_insertEvent ?_
  show Ascending _ ∅
  exact ascending_publishSignage (rest row)

/-- SKIP LOCKED waits for nothing, so the rows of the snapshot may be locked in any order. -/
theorem ascending_firstCalled {locationId counterId : UUID} {serviceId : Option UUID}
    {candidates : List Ticket} {next : Option Ticket → Handler β}
    (rest : ∀ called held, Ascending (next called) held) :
    Ascending ((firstCalled locationId serviceId counterId candidates).bind next) held := by
  induction candidates generalizing held with
  | nil => exact rest none held
  | cons candidate candidates ih =>
      simp only [firstCalled, Program.bind_eq, Program.bind_assoc]
      refine ascending_perform (fun context lock needed => by cases needed) ?_
      intro context called writes locks exec
      cases called with
      | none => exact ih
      | some row => exact rest _ _

theorem ascending_callNextNew {locationId counterId tenantId : UUID} {body : CallNextBody}
    {next : Option TicketRead → Handler Response} (rest : ∀ read, Ascending (next read) ∅) :
    Ascending ((callNextNew hexdigest locationId counterId tenantId body actor key).bind next)
      ∅ := by
  simp only [callNextNew, callNextTicket, callNextCte, Program.bind_eq, Program.bind_assoc]
  refine ascending_silent (silent_parse _) fun userId => ?_
  refine ascending_query fun db order => ?_
  refine ascending_firstCalled fun called held => ?_
  cases called with
  | none => exact rest none
  | some row =>
      simp only [Program.bind_assoc]
      refine ascending_insertEvent ?_
      refine unlocking_ticketWithService held _ fun called => ?_
      cases called with
      | none => exact rest none
      | some found =>
          show Ascending _ ∅
          simp only [Program.bind_assoc]
          refine ascending_saveKey (silent_ret tenantId) ?_
          exact ascending_publishSignage (rest _)

theorem ascending_callNext {counterId : UUID} {body : CallNextBody}
    {next : Option TicketRead → Handler Response} (rest : ∀ read, Ascending (next read) ∅) :
    Ascending ((callNext hexdigest counterId body actor key).bind next) ∅ := by
  simp only [callNext, Program.bind_eq, Program.bind_assoc]
  refine ascending_silent (silent_requireStaff _) fun _ => ?_
  refine ascending_query fun db order => ?_
  split
  · trivial
  · simp only [Program.bind_assoc]
    refine ascending_query fun db order => ?_
    split
    · trivial
    · simp only [Program.bind_assoc]
      refine ascending_silent (silent_checkTenant _ _) fun _ => ?_
      refine ascending_silent (silent_parse _) fun tenantId => ?_
      split
      · exact ascending_callNextNew rest
      · simp only [Program.bind_assoc]
        refine unlocking_calledBefore ∅ _ fun found => ?_
        cases found with
        | none => exact ascending_callNextNew rest
        | some called => exact rest _

end

/-! ## Tasks -/

theorem ascending_stampCompletion {tickets : List Ticket} {next : List (UUID × Time) → Handler β}
    (rest : ∀ stamps, stamps.map Prod.fst = tickets.map Ticket.id → Ascending (next stamps) held) :
    Ascending ((stampCompletion tickets).bind next) held := by
  induction tickets generalizing next with
  | nil => exact rest [] rfl
  | cons ticket tickets ih =>
      simp only [stampCompletion, Program.bind_eq, Program.pure_eq, Program.bind_assoc]
      intro env
      refine ih fun stamps same => ?_
      exact rest _ (by simp [same])

/-- The UPDATEs of the task go up through the ids. -/
theorem ascending_markNoShows {stamps : List (UUID × Time)} {next : PUnit → Handler β}
    (sorted : (stamps.map Prod.fst).Pairwise (· < ·))
    (below : ∀ other ∈ held, ∀ stamp ∈ stamps, lockRank other < lockRank (.ticket stamp.1))
    (rest : ∀ held, Ascending (next ⟨⟩) held) :
    Ascending ((stamps.forM fun stamp => do
      let _ ← command (.updateTicket stamp.1 { status := .noShow, completedAt := some stamp.2 })
      return ⟨⟩).bind next) held := by
  induction stamps generalizing held with
  | nil => exact rest held
  | cons stamp stamps ih =>
      obtain ⟨least, sorted⟩ := List.pairwise_cons.mp sorted
      simp only [List.forM, Program.bind_eq, Program.pure_eq, Program.bind_assoc]
      refine ascending_updateTicket (.inr fun other member =>
        below other member stamp List.mem_cons_self) fun row _ => ?_
      refine ih sorted fun other member later among => ?_
      rcases Set.mem_insert_iff.mp member with rfl | already
      · have less := least later.1 (List.mem_map_of_mem among)
        exact Prod.Lex.toLex_lt_toLex.mpr (.inr ⟨rfl, less⟩)
      · exact below other already later (List.mem_cons_of_mem _ among)

theorem ascending_logNoShows {tickets : List Ticket} {next : PUnit → Handler β}
    (rest : Ascending (next ⟨⟩) held) :
    Ascending ((tickets.forM fun ticket => command (.insertEvent
      { ticketId := ticket.id
        eventType := .noShow
        payload := some (.reason "auto_no_show") })).bind next) held := by
  induction tickets with
  | nil => exact rest
  | cons ticket tickets ih =>
      simp only [List.forM, Program.bind_eq, Program.bind_assoc]
      exact ascending_insertEvent ih

theorem pairwise_lt_insertionSort {stamps : List (UUID × Time)}
    (distinct : (stamps.map Prod.fst).Nodup) :
    ((stamps.insertionSort fun a b => a.1 ≤ b.1).map Prod.fst).Pairwise (· < ·) := by
  have same := (List.perm_insertionSort (fun a b : UUID × Time => a.1 ≤ b.1) stamps).map Prod.fst
  have sorted := List.pairwise_insertionSort (fun a b : UUID × Time => a.1 ≤ b.1) stamps
  have ordered : ((stamps.insertionSort fun a b => a.1 ≤ b.1).map Prod.fst).Pairwise (· ≤ ·) :=
    List.pairwise_map.mpr sorted
  refine (ordered.and (same.nodup_iff.mpr distinct)).imp fun both => ?_
  exact Nat.lt_of_le_of_ne both.1 both.2

theorem ascending_autoNoShow {next : Nat → Handler β} (rest : ∀ count, Ascending (next count) ∅) :
    Ascending (autoNoShowCalledTickets.bind next) ∅ := by
  simp only [autoNoShowCalledTickets, Program.bind_eq, Program.bind_assoc]
  intro env
  refine ascending_query fun db order => ?_
  refine ascending_stampCompletion fun stamps same => ?_
  have distinct : (stamps.map Prod.fst).Nodup := by
    rw [same]
    exact db.tickets.distinct.sublist (List.filter_sublist.map _)
  refine ascending_markNoShows (pairwise_lt_insertionSort distinct)
    (fun other none => none.elim) fun held => ?_
  refine ascending_logNoShows ?_
  exact rest _

theorem ascending_cleanup {next : Nat → Handler β} (rest : ∀ count, Ascending (next count) ∅) :
    Ascending (cleanupIdempotencyKeys.bind next) ∅ := by
  simp only [cleanupIdempotencyKeys, Program.bind_eq, Program.bind_assoc]
  intro env
  exact ascending_first fun count _ => rest count

/-! ## The admin service -/

section
variable {actor : TokenPayload}

/-- The audit row comes after everything but a role assignment. -/
theorem ascending_audit {action objectType : String} {objectId : UUID}
    {before after : Option PyDict} {next : Unit → Handler β}
    (below : ∀ other ∈ held, lockRank other < toLex (2, 0))
    (rest : ∀ id, Ascending (next ()) (insert (.audit id) held)) :
    Ascending ((audit actor action objectType objectId before after).bind next) held := by
  simp only [audit, Program.bind_eq, Program.bind_assoc]
  refine ascending_silent (silent_auditTenant actor) fun tenantId => ?_
  refine ascending_silent (silent_parse _) fun userId => ?_
  refine ascending_command ?_ fun db id now value writes ran => ?_
  · intro db id lock needed _
    cases List.mem_singleton.mp needed
    exact .inr below
  · have same (entry : AuditEntry) : held ∪ {lock | Contended lock ∧
        lock ∈ (Command.insertRecord (.audit entry)).needs db id} = insert (.audit id) held := by
      ext lock
      simp only [Command.needs, NewRecord.entries, NewRecord.row, Row.lock, List.mem_singleton,
        Set.mem_union, Set.mem_ofPred_eq, Set.mem_insert_iff]
      constructor
      · rintro (already | ⟨_, rfl⟩)
        · exact .inr already
        · exact .inl rfl
      · rintro (rfl | already)
        · exact .inr ⟨fun _ same => (by cases same), rfl⟩
        · exact .inl already
    rw [same]
    exact rest id

/-- A transaction that begins with a row of the admin service, other than a role assignment. -/
theorem ascending_record {c : Command} {next : c.Res → Handler β}
    (low : ∀ db id, ∀ lock ∈ c.needs db id, lockRank lock < toLex (2, 0))
    (rest : ∀ value held, (∀ other ∈ held, lockRank other < toLex (2, 0)) →
      Ascending (next value) held) :
    Ascending ((command c).bind next) ∅ := by
  refine ascending_command (fun _ _ _ _ _ => .inr fun _ none => none.elim) ?_
  intro db id now value writes ran
  refine rest value _ fun other member => ?_
  rcases member with none | taken
  · exact none.elim
  · exact low db id other taken.2

theorem lt_audit {n : Nat} : toLex (0, n) < (toLex (2, 0) : ℕ ×ₗ ℕ) :=
  Prod.Lex.toLex_lt_toLex.mpr (.inl Nat.zero_lt_two)

theorem ascending_createUnaudited {new : NewRecord} {next : Row → Handler β}
    (rest : ∀ row, Ascending (next row) ∅) :
    Ascending ((createUnaudited new actor).bind next) ∅ := by
  simp only [createUnaudited, Program.bind_eq, Program.bind_assoc]
  refine ascending_silent (silent_requireManager _) fun _ => ?_
  exact ascending_first fun row _ => rest row

theorem ascending_updateRecord {unchanged : Bool} {row : Row} {update : RecordUpdate}
    {next : Row → Handler β}
    (low : ∀ lock ∈ update.lock :: update.entries, lockRank lock < toLex (2, 0))
    (rest : ∀ row held, (∀ other ∈ held, lockRank other < toLex (2, 0)) →
      Ascending (next row) held) :
    Ascending ((updateRecord unchanged row update).bind next) ∅ := by
  unfold updateRecord
  split
  · exact rest row ∅ fun other none => none.elim
  · exact ascending_record (fun _ _ => low) rest

theorem ascending_createTenant {data : TenantCreate} {next : Row → Handler β}
    (rest : ∀ row, Ascending (next row) ∅) :
    Ascending ((createTenant data actor).bind next) ∅ := by
  simp only [createTenant, createRecord, Program.bind_eq, Program.bind_assoc]
  refine ascending_silent (silent_requireAdmin _) fun _ => ?_
  refine ascending_record (fun db id lock needed => ?_) fun row held below => ?_
  · simp only [Command.needs, NewRecord.entries, List.mem_cons, List.not_mem_nil,
      or_false] at needed
    rcases needed with rfl | rfl | rfl <;> exact lt_audit
  · exact ascending_audit below fun id => rest row

/-- An UPDATE of the unique name would also wait for the key-share locks of the foreign keys. -/
theorem ascending_updateTenant {tenantId : UUID} {data : TenantUpdate} {next : Row → Handler β}
    (unnamed : data.name = none) (rest : ∀ row, Ascending (next row) ∅) :
    Ascending ((updateTenant tenantId data actor).bind next) ∅ := by
  simp only [updateTenant, Program.bind_eq, Program.bind_assoc]
  refine ascending_silent (silent_requireAdmin _) fun _ => ?_
  refine ascending_query fun db order => ?_
  split
  · trivial
  · rename_i tenant found
    simp only [Program.bind_assoc]
    refine ascending_updateRecord (fun lock needed => ?_) fun row held below => ?_
    · have same : lock = .tenant tenantId := by
        simpa [RecordUpdate.lock, RecordUpdate.entries, changedTenant, unnamed] using needed
      rw [same]
      exact lt_audit
    · exact ascending_audit below fun id => rest row

theorem ascending_createLocation {data : LocationCreate} {next : Row → Handler β}
    (rest : ∀ row, Ascending (next row) ∅) :
    Ascending ((createLocation data actor).bind next) ∅ := by
  simp only [createLocation, createRecord, Program.bind_eq, Program.bind_assoc]
  refine ascending_silent (silent_requireManager _) fun _ => ?_
  refine ascending_record (fun db id lock needed => ?_) fun row held below => ?_
  · rw [List.mem_singleton.mp needed]
    exact lt_audit
  · exact ascending_audit below fun id => rest row

theorem rank_update (update : RecordUpdate) : lockRank update.lock < toLex (2, 0) := by
  cases update <;> exact lt_audit

theorem ascending_updateUnaudited {α : Type} {load : Handler (Option α)} {missing : Failure}
    {row : α → Row} {unchanged : α → Prop} [DecidablePred unchanged] {update : α → RecordUpdate}
    {next : Row → Handler Response} (unlocks : Unlocking load)
    (unnamed : ∀ loaded, (update loaded).entries = []) (rest : ∀ row, Ascending (next row) ∅) :
    Ascending ((updateUnaudited load missing row unchanged update actor).bind next) ∅ := by
  simp only [updateUnaudited, Program.bind_eq, Program.bind_assoc]
  refine ascending_silent (silent_requireManager _) fun _ => unlocks _ _ fun found => ?_
  cases found with
  | none => trivial
  | some loaded =>
      simp only [Program.bind_assoc]
      refine ascending_updateRecord (fun lock needed => ?_) fun row _ _ => rest row
      rw [unnamed, List.mem_singleton] at needed
      exact needed ▸ rank_update _

theorem ascending_createUser {data : UserCreate} {next : Row → Handler β}
    (rest : ∀ row, Ascending (next row) ∅) :
    Ascending ((createUser data actor).bind next) ∅ := by
  simp only [createUser, createRecord, Program.bind_eq, Program.bind_assoc]
  refine ascending_silent (silent_requireAdmin _) fun _ => ?_
  refine ascending_record (fun db id lock needed => ?_) fun row held below => ?_
  · simp only [Command.needs, NewRecord.entries, List.mem_cons, List.not_mem_nil,
      or_false] at needed
    rcases needed with rfl | rfl <;> exact lt_audit
  · exact ascending_audit below fun id => rest row

theorem ascending_assignRole {userId : UUID} {data : RoleAssignment} {next : Unit → Handler β}
    (rest : Ascending (next ()) ∅) :
    Ascending ((assignRole userId data actor).bind next) ∅ := by
  simp only [assignRole, createRecord, Program.bind_eq, Program.bind_assoc]
  refine ascending_silent (silent_requireAdmin _) fun _ => ?_
  refine ascending_audit (fun other none => none.elim) fun id => ?_
  refine ascending_command ?_ fun db id now value writes ran => rest
  intro db fresh lock needed _
  rw [List.mem_singleton.mp needed, insert_empty_eq]
  refine .inr fun other member => ?_
  rw [Set.mem_singleton_iff.mp member]
  exact Prod.Lex.toLex_lt_toLex.mpr (.inl (Nat.lt_succ_self 2))

end

/-! ## All requests -/

def Request.renames : Request → Bool
  | .updateTenant _ data _ => data.name.isSome
  | _ => false

theorem program_ascends (hexdigest : PyDict → String) {request : Request}
    (named : request.renames = false) : Ascending (program hexdigest request) ∅ := by
  have answered {γ : Type} (f : γ → Response) (value : γ) :
      Ascending (Program.ret (f value) : Handler Response) ∅ := trivial
  cases request with
  | createTicket data actor key => exact ascending_createTicket (answered readTicket)
  | kioskCreateTicket body key => exact ascending_kioskCreateTicket (answered readTicket)
  | callNext counterId body actor key => exact ascending_callNext (answered .called)
  | startService ticketId actor key =>
      exact ascending_keyedChange (fun _ _ => ascending_openInteraction) (answered readTicket)
  | completeTicket ticketId actor key =>
      exact ascending_keyedChange (fun _ _ => ascending_closeInteraction) (answered readTicket)
  | holdTicket ticketId actor => exact ascending_simpleChange (answered readTicket)
  | cancelTicket ticketId actor => exact ascending_simpleChange (answered readTicket)
  | noShow ticketId actor => exact ascending_simpleChange (answered readTicket)
  | transferTicket ticketId data actor => exact ascending_transferTicket (answered readTicket)
  | autoNoShowCalledTickets => exact ascending_autoNoShow (answered .counted)
  | cleanupIdempotencyKeys => exact ascending_cleanup (answered .counted)
  | createTenant data actor => exact ascending_createTenant (answered .record)
  | updateTenant tenantId data actor =>
      exact ascending_updateTenant (by simpa [Request.renames] using named) (answered .record)
  | createLocation data actor => exact ascending_createLocation (answered .record)
  | updateLocation locationId data actor =>
      exact ascending_updateUnaudited (unlocking_query _) (fun _ => rfl) (answered .record)
  | createService data actor => exact ascending_createUnaudited (answered .record)
  | updateService serviceId data actor =>
      exact ascending_updateUnaudited (unlocking_query _) (fun _ => rfl) (answered .record)
  | createCounter data actor => exact ascending_createUnaudited (answered .record)
  | updateCounter counterId data actor =>
      exact ascending_updateUnaudited (unlocking_query _) (fun _ => rfl) (answered .record)
  | createChannel data actor => exact ascending_createUnaudited (answered .record)
  | createUser data actor => exact ascending_createUser (answered .record)
  | assignRole userId data actor => exact ascending_assignRole trivial

end QueueFlow.App
