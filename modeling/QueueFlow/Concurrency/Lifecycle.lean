import QueueFlow.Concurrency.Setting
import QueueFlow.Conduct.Shapes
import QueueFlow.Data.History

/-!
# The life of a ticket

Whatever stale row a handler has looked at, the row of a ticket moves along the transitions of the
state machine only.
-/

namespace QueueFlow.Concurrency
open QueueFlow.App QueueFlow.Data QueueFlow.Tables QueueFlow.Transactions

variable {ι : Type} [DecidableEq ι] {hexdigest : PyDict → String} {env : Nat → Env}
  {requests : ι → Request} {db : Database} {w : AppWorld ι}

/-- The status values that the row of ticket `id` goes through in committed transactions. -/
def statusHistory (db : Database) (log : List (Entry ι)) (id : UUID) : List TicketStatus :=
  ((db.tickets.get? id).toList ++ ticketVersions id (committedWrites log)).map Ticket.status

def Allowed (old new : TicketStatus) : Prop := new = old ∨ new ∈ validTransitions old

structure Lawful (db : Database) (state : State ι Database Write Lock Stmt Stmt.Res Message Env)
    (id : UUID) : Prop where
  current : (state.store.tickets.get? id).map Ticket.status =
    (statusHistory db state.log id).getLast?
  begins : db.tickets.get? id = none → ∀ first ∈ (statusHistory db state.log id).head?,
    first = .waiting
  changes : (statusHistory db state.log id).IsChain Allowed
  ends : ∀ before status after, statusHistory db state.log id = before ++ status :: after →
    status ∈ TicketStatus.terminal → ∀ later ∈ after, later = status

private theorem update_sound {old : Option Row} {row : Ticket}
    (sound : Sound old (.update (.ticket row))) : old ≠ none := by
  obtain ⟨before, rfl, _⟩ := sound
  simp

theorem becomes_history (reach : Reachable engine env (initial hexdigest requests db) w)
    (id : UUID) : ((db.tickets.get? id).toList ++
      ticketVersions id (committedWrites w.state.log)).IsChain Ticket.Becomes :=
  isChain_versions (fun _ _ sound => sound) (fun _ _ sound => sound) (reaches_serial reach).history

theorem allowed_history (reach : Reachable engine env (initial hexdigest requests db) w)
    (id : UUID) : (statusHistory db w.state.log id).IsChain Allowed :=
  List.isChain_map_of_isChain _ (fun _ _ becomes => becomes.allowed) (becomes_history reach id)

theorem terminal_stays {status : TicketStatus} (terminal : status ∈ TicketStatus.terminal)
    {after : List TicketStatus} (allowed : (status :: after).IsChain Allowed) :
    ∀ later ∈ after, later = status := by
  induction after with
  | nil => simp
  | cons next rest ih =>
      obtain ⟨step, onward⟩ := List.isChain_cons_cons.mp allowed
      rcases step with rfl | valid
      · intro later member
        rcases List.mem_cons.mp member with rfl | inside
        · rfl
        · exact ih onward later inside
      · rw [(terminal_iff status).mp terminal] at valid
        cases valid

theorem waiting_of_head (reach : Reachable engine env (initial hexdigest requests db) w)
    {id : UUID} (absent : db.tickets.get? id = none) {first : TicketStatus}
    (head : first ∈ (statusHistory db w.state.log id).head?) : first = .waiting := by
  simp only [statusHistory, absent, Option.toList_none, List.nil_append, List.head?_map] at head
  obtain ⟨row, earliest, rfl⟩ := Option.map_eq_some_iff.mp head
  have inserted := head_versions (fun _ _ => update_sound) (reaches_serial reach).history absent
    row earliest
  obtain ⟨n, i, writes, commit, member⟩ := mem_committedWrites_at inserted
  obtain ⟨locationId, event, _, _, opens⟩ := commits_insert (commits_at reach commit) member
  exact opens.status

theorem lifecycle_safety (reach : Reachable engine env (initial hexdigest requests db) w)
    (id : UUID) : Lawful db w.state id where
  current := by
    rw [(reaches_serial reach).replay, get?_applyAll, statusHistory, List.getLast?_map]
  begins absent _ head := waiting_of_head reach absent head
  changes := allowed_history reach id
  ends before status after split terminal := by
    have chain := allowed_history reach id
    rw [split] at chain
    exact terminal_stays terminal chain.right_of_append

theorem lifecycle_safety_rounds : Lawful (office .empty) roundsWorld.state 1001 :=
  lifecycle_safety rounds_reachable 1001

example : statusHistory (office .empty) roundsWorld.state.log 1001 =
    [.waiting, .called, .inService, .transferred, .waiting, .called] := by decide +kernel

end QueueFlow.Concurrency
