import QueueFlow.Data.Queries

/-!
# The order of the queue

`_CALL_NEXT_CTE` sorts the waiting tickets by priority and age, with ties in any order.
-/

namespace QueueFlow.Data
open QueueFlow.Tables

theorem Ticket.before_asymm {a b : Ticket} (first : a.before b) : ¬ b.before a := by
  simp only [Ticket.before, Time] at *
  omega

theorem Ticket.before_irrefl (a : Ticket) : ¬ a.before a := by
  simp only [Ticket.before, Time]
  omega

instance (order : UUID → Nat) : Std.Total (callOrder order) where
  total a b := by
    simp only [callOrder, Ticket.before, Time]
    omega

instance (order : UUID → Nat) : IsTrans Ticket (callOrder order) where
  trans a b c first second := by
    simp only [callOrder, Ticket.before, Time] at *
    omega

variable {db : Database} {order : UUID → Nat} {locationId : UUID} {serviceId : Option UUID}
  {ticket : Ticket}

theorem mem_waitingTickets : ticket ∈ db.waitingTickets order locationId serviceId ↔
    ticket ∈ db.tickets.rows ∧ ticket.waitsFor locationId serviceId := by
  simp [Database.waitingTickets]

theorem pairwise_waitingTickets :
    (db.waitingTickets order locationId serviceId).Pairwise (callOrder order) :=
  List.pairwise_insertionSort (callOrder order) _

theorem mem_before_of_before {front back : List Ticket} {called : Ticket}
    (snapshot : db.waitingTickets order locationId serviceId = front ++ called :: back)
    (member : ticket ∈ db.waitingTickets order locationId serviceId)
    (better : ticket.before called) : ticket ∈ front := by
  have sorted : (db.waitingTickets order locationId serviceId).Pairwise (callOrder order) :=
    pairwise_waitingTickets
  rw [snapshot] at sorted member
  have after := (List.pairwise_cons.mp (List.pairwise_append.mp sorted).2.1).1
  rcases List.mem_append.mp member with early | late
  · exact early
  · rcases List.mem_cons.mp late with rfl | behind
    · exact (ticket.before_irrefl better).elim
    · rcases after ticket behind with worse | ⟨tied, _⟩
      · exact (Ticket.before_asymm better worse).elim
      · exact (tied better).elim

end QueueFlow.Data
