import QueueFlow.App.TicketRepo

/-!
# Worker tasks

`workers/tasks.py`, without the retries that celery schedules when a task raises.
-/

namespace QueueFlow.App
open QueueFlow.Data QueueFlow.Transactions

def stampCompletion : List Ticket → Handler (List (UUID × Time))
  | [] => return []
  | ticket :: rest => do
      let env ← Program.observe
      let stamps ← stampCompletion rest
      return (ticket.id, env.now) :: stamps

/-- The flush sends the UPDATEs in primary key order, then the INSERTs in the order of the loop. -/
def autoNoShowCalledTickets : Handler Nat := do
  let env ← Program.observe
  let stuck ← query (.stuckTickets (env.now - minutes 5))
  let stamps ← stampCompletion stuck
  (stamps.insertionSort fun a b => a.1 ≤ b.1).forM fun stamp => do
    let _ ← command (.updateTicket stamp.1 { status := .noShow, completedAt := some stamp.2 })
  stuck.forM fun ticket => command (.insertEvent
    { ticketId := ticket.id
      eventType := .noShow
      payload := some (.reason "auto_no_show") })
  Program.commit
  return stuck.length

def cleanupIdempotencyKeys : Handler Nat := do
  let env ← Program.observe
  let deleted ← command (.deleteExpiredKeys env.now)
  Program.commit
  return deleted

end QueueFlow.App
