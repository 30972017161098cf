import QueueFlow.Concurrency.Setting
import QueueFlow.Conduct.Shapes
import QueueFlow.Data.History
import Mathlib.Data.Fintype.Basic
import Mathlib.Data.List.MinMax

/-!
# Ticket numbers

A creation takes one more than the greatest number it sees. The numbers of a location stay distinct
as long as no other creation there commits between that SELECT and the commit.
-/

namespace QueueFlow.Concurrency
open QueueFlow.App QueueFlow.Data QueueFlow.Tables QueueFlow.Transactions

variable {ι : Type} [DecidableEq ι] {hexdigest : PyDict → String} {env : Nat → Env}
  {requests : ι → Request} {db : Database} {w : AppWorld ι} {locationId : UUID}

def OnlyCreates (requests : ι → Request) : Prop := ∀ i, (requests i).opensAt ≠ none

def UniqueNumbers (db : Database) (locationId : UUID) : Prop :=
  ∀ a ∈ db.tickets.rows, ∀ b ∈ db.tickets.rows, a.locationId = locationId →
    b.locationId = locationId → a.number = b.number → a = b

instance (db : Database) (locationId : UUID) : Decidable (UniqueNumbers db locationId) :=
  inferInstanceAs (Decidable (∀ a ∈ db.tickets.rows, ∀ b ∈ db.tickets.rows, _))

def insertedAt : Write → Option UUID
  | .insert (.ticket row) => some row.locationId
  | _ => none

def isNumberOf (i : ι) (entry : Entry ι) : Bool :=
  entry.owner = i && match entry.action with
    | .performed (.read (.nextNumber _)) _ _ => true
    | _ => false

def sinceNumber (i : ι) (log : List (Entry ι)) : List (Entry ι) :=
  log.dropWhile fun entry => !isNumberOf i entry

/-- If session `j` is about to commit a ticket, then nobody has committed one at that location since
`j` took its number. -/
def NumberIsCurrent (w : AppWorld ι) (j : ι) : Prop :=
  match w.session j with
  | .running (.commits _) => ∀ write ∈ (w.state.tx j).writes, ∀ location ∈ insertedAt write,
      ∀ entry ∈ sinceNumber j w.state.log, ∀ other ∈ entry.writes,
        insertedAt other ≠ some location
  | _ => True

theorem numberIsCurrent_iff (w : AppWorld ι) (j : ι) :
    ((w.session j).isCommitting = true → ∀ write ∈ (w.state.tx j).writes,
      ∀ location ∈ insertedAt write, ∀ entry ∈ sinceNumber j w.state.log,
        ∀ other ∈ entry.writes, insertedAt other ≠ some location) ↔ NumberIsCurrent w j :=
  isCommitting_imp_iff _ (w.session j)

instance (w : AppWorld ι) (j : ι) : Decidable (NumberIsCurrent w j) :=
  decidable_of_iff _ (numberIsCurrent_iff w j)

theorem number_lt_nextNumber {ticket : Ticket} (member : ticket ∈ db.tickets.rows)
    (here : ticket.locationId = locationId) : ticket.number < db.nextNumber locationId := by
  have listed : ticket ∈ db.tickets.rows.filter (·.locationId = locationId) := by
    simpa [here] using member
  have bound := List.le_max_of_le' 0 (List.mem_map_of_mem (f := Ticket.number) listed) le_rfl
  exact Nat.lt_succ_of_le bound

private theorem creation_cases {request : Request} {past : List Act} {writes : List Write}
    (commits : request.commitsCreation hexdigest env past locationId writes) :
    (∃ row event, writes = [.insert (.ticket row), .insert (.event event)] ∧
      request.Opens past row.locationId row event) ∨
    ∃ record, writes = [.insert (.idempotencyKey record)] := by
  rcases commits with ⟨row, event, rfl, opens⟩ | ⟨record, rfl, saves⟩
  · exact .inl ⟨row, event, rfl, opens.location ▸ opens⟩
  · exact .inr ⟨record, rfl⟩

section
variable (creates : OnlyCreates requests)
include creates

omit [DecidableEq ι] in
theorem OnlyCreates.commit_cases {i : ι} {past : List Act} {writes : List Write}
    (commits : (requests i).commits hexdigest env past writes) :
    (∃ row event, writes = [.insert (.ticket row), .insert (.event event)] ∧
      (requests i).Opens past row.locationId row event) ∨
    ∃ record, writes = [.insert (.idempotencyKey record)] := by
  have opens := creates i
  generalize requests i = request at commits opens ⊢
  cases request with
  | createTicket data actor key => exact creation_cases commits
  | kioskCreateTicket body key => exact creation_cases commits
  | _ => exact (opens rfl).elim

variable (reach : Reachable engine env (initial hexdigest requests db) w)
include reach

theorem OnlyCreates.inserted_since {m : Nat} {ticket : Ticket}
    (member : ticket ∈ w.state.store.tickets.rows) :
    ticket ∈ (storeAt engine db (w.state.log.take m)).tickets.rows ∨
      ∃ entry ∈ w.state.log.drop m, .insert (.ticket ticket) ∈ entry.writes := by
  have found := Table.get?_of_mem member
  rw [(reaches_provenance reach).replay, ← List.take_append_drop m w.state.log, storeAt_append,
    get?_applyAll] at found
  rcases List.mem_append.mp (List.mem_of_getLast? found) with earlier | since
  · exact .inl (Table.mem_of_get? (Option.mem_toList.mp earlier))
  · refine .inr ?_
    obtain ⟨_, inserted | updated⟩ := mem_ticketVersions.mp since
    · obtain ⟨i, writes, logged, written⟩ := mem_committedWrites.mp inserted
      exact ⟨_, logged, written⟩
    · obtain ⟨i, writes, logged, written⟩ := mem_committedWrites.mp updated
      obtain ⟨n, commit⟩ := List.mem_iff_getElem?.mp (List.mem_of_mem_drop logged)
      rcases creates.commit_cases (commits_at reach commit) with
        ⟨row, event, rfl, _⟩ | ⟨record, rfl⟩
      · simp at written
      · simp at written

/-- The number of a new ticket is greater than all numbers of its location, if it is current. -/
theorem OnlyCreates.number_fresh {j : ι} {row : Ticket} {event : TicketEvent}
    (opens : (requests j).Opens (pastOf j w.state.log) row.locationId row event)
    (current : ∀ entry ∈ sinceNumber j w.state.log, ∀ other ∈ entry.writes,
      insertedAt other ≠ some row.locationId)
    {ticket : Ticket} (member : ticket ∈ w.state.store.tickets.rows)
    (here : ticket.locationId = row.locationId) : ticket.number < row.number := by
  have asked := opens.number
  rw [← w.state.log.take_length] at asked
  obtain ⟨m, order, _, located, number⟩ := asked_view reach asked
  have unwritten : pendingOf (pastOf j (w.state.log.take m)) = [] :=
    (reaches_conduct reach).1 m _ located
  have number : row.number =
    (viewAt engine db j (w.state.log.take m)).nextNumber row.locationId := number
  rw [viewAt, unwritten, Engine.applyAll_nil] at number
  rw [number]
  rcases creates.inserted_since reach (m := m) member with earlier | ⟨entry, since, inserted⟩
  · exact number_lt_nextNumber earlier here
  · have late : entry ∈ sinceNumber j w.state.log :=
      mem_dropWhile_of_drop located (by simp [isNumberOf]) since
    exact (current entry late _ inserted (by simp [insertedAt, here])).elim

end

theorem UniqueNumbers.insert {row : Ticket} (unique : UniqueNumbers db locationId)
    (absent : db.tickets.get? row.id = none)
    (fresh : ∀ ticket ∈ db.tickets.rows, ticket.locationId = row.locationId →
      ticket.number < row.number) : UniqueNumbers (db.put (.ticket row)) locationId := by
  have rows : (db.put (.ticket row)).tickets.rows = db.tickets.rows ++ [row] :=
    Table.rows_put_of_absent absent
  intro a inA b inB hereA hereB same
  rw [rows] at inA inB
  simp only [List.mem_append, List.mem_singleton] at inA inB
  rcases inA with oldA | rfl <;> rcases inB with oldB | rfl
  · exact unique a oldA b oldB hereA hereB same
  · have := fresh a oldA (hereA.trans hereB.symm)
    omega
  · have := fresh b oldB (hereB.trans hereA.symm)
    omega
  · rfl

theorem numbers_unique (creates : OnlyCreates requests) (unique : UniqueNumbers db locationId)
    (reach : Reaches engine env NumberIsCurrent (initial hexdigest requests db) w) :
    UniqueNumbers w.state.store locationId := by
  refine reach.moves (motive := fun w => UniqueNumbers w.state.store locationId) unique ?_
  intro w j program session state before unique running moved meets
  have reach := before.reachable
  cases moved with
  | returned value => exact unique
  | raised error => exact unique
  | failed exec => exact unique
  | crashed program => exact unique
  | observed next => exact unique
  | performed ready exec => exact unique
  | published msg next => exact unique
  | committed next =>
      have meets := meets nofun
      have follows := (reaches_conduct reach).2 j
      rw [running] at follows
      have commits :
        (requests j).commits hexdigest env (pastOf j w.state.log) (w.state.tx j).writes :=
        follows.1
      have checked := (reaches_serial reach).pending j
      change UniqueNumbers (engine.applyAll w.state.store (w.state.tx j).writes) locationId
      rw [NumberIsCurrent, running] at meets
      rcases creates.commit_cases commits with ⟨row, event, pending, opens⟩ | ⟨record, pending⟩
      · rw [pending] at checked meets ⊢
        have absent : w.state.store.tickets.get? row.id = none :=
          Option.map_eq_none_iff.mp checked.1
        have current := meets (.insert (.ticket row)) (by simp) row.locationId rfl
        exact unique.insert absent fun ticket member here =>
          creates.number_fresh reach opens current member here
      · rw [pending]
        exact unique

def walkIns : Fin 2 → Request
  | 0 => .createTicket (visit 10 (some 20)) clerk none
  | 1 => .kioskCreateTicket { locationId := 10 } none

def walkInsStart : AppWorld (Fin 2) := initial textDigest walkIns (office .empty)

def walkInsWorld : AppWorld (Fin 2) :=
  walkInsStart.after engine steadyEnv ((List.finRange 2).flatMap runs)

theorem walkIns_reaches : Reaches engine steadyEnv NumberIsCurrent walkInsStart walkInsWorld :=
  reaches_after (by decide +kernel)

theorem numbers_unique_walkIns : UniqueNumbers walkInsWorld.state.store 10 :=
  numbers_unique (fun i => by unfold walkIns; split <;> decide) (by decide) walkIns_reaches

/-- Both take their number before either commits. -/
theorem number_given_twice : ∃ w, Reachable engine steadyEnv walkInsStart w ∧
    ¬ UniqueNumbers w.state.store 10 :=
  ⟨_, reachable_after (List.replicate 20 [.run 0, .run 1]).flatten, by decide +kernel⟩

end QueueFlow.Concurrency
