import QueueFlow.Concurrency.Setting
import QueueFlow.Conduct.Atomic
import QueueFlow.Transactions.Sequential

/-!
# Requests that end in an error

Without an idempotency key a request commits once, and cannot fail any more when it has. Whatever
goes wrong before takes all of its flushes with it.
-/

namespace QueueFlow.Concurrency
open QueueFlow.App QueueFlow.Data QueueFlow.Tables QueueFlow.Transactions

variable {ι : Type} [DecidableEq ι] {hexdigest : PyDict → String} {env : Nat → Env}
  {requests : ι → Request} {db : Database} {w : AppWorld ι} {i : ι}

/-- The tables hold what the other sessions have committed, and session `i` has sent no message. -/
structure LeavesNoTrace (db : Database) (w : AppWorld ι) (i : ι) : Prop where
  store : w.state.store = storeAt engine db (w.state.log.filter fun entry => entry.owner ≠ i)
  commits : ∀ writes, ⟨i, .committed writes⟩ ∉ w.state.log
  messages : ∀ msg, ⟨i, .published msg⟩ ∉ w.state.log

theorem committedWrites_others {log : List (Entry ι)}
    (silent : ∀ writes, (⟨i, .committed writes⟩ : Entry ι) ∉ log) :
    committedWrites (log.filter fun entry => entry.owner ≠ i) = committedWrites log := by
  induction log with
  | nil => rfl
  | cons entry log ih =>
      have later := ih fun writes member => silent writes (List.mem_cons_of_mem _ member)
      obtain ⟨owner, action⟩ := entry
      by_cases mine : owner = i
      · subst mine
        have idle : Event.writes (⟨owner, action⟩ : Entry ι) = [] := by
          cases action with
          | committed writes => exact (silent writes List.mem_cons_self).elim
          | _ => rfl
        simpa [committedWrites, idle] using later
      · simpa [committedWrites, mine] using later

theorem leavesNoTrace_of_unseen (reach : Reachable engine env (initial hexdigest requests db) w)
    (unseen : Unseen (pastOf i w.state.log)) : LeavesNoTrace db w i := by
  have commits (writes : List Write) : (⟨i, .committed writes⟩ : Entry ι) ∉ w.state.log := by
    intro member
    obtain ⟨stmt, value, written, impossible⟩ := unseen _ (mem_pastOf.mpr member)
    cases impossible
  refine ⟨?_, commits, fun msg member => ?_⟩
  · rw [(reaches_provenance reach).replay, storeAt, storeAt, committedWrites_others commits]
  · obtain ⟨stmt, value, written, impossible⟩ := unseen _ (mem_pastOf.mpr member)
    cases impossible

theorem unseen_of_raised (reach : Reachable engine env (initial hexdigest requests db) w)
    (unkeyed : (requests i).key = none) (operational : ¬ (requests i).isAdmin) {error : Failure}
    (raised : w.session i = .raised error) : Unseen (pastOf i w.state.log) := by
  have stands : (w.session i).Stands engine env FitsTickets (pastOf i w.state.log)
      (w.state.tx i).writes := by
    refine reach.stands (fun _ _ _ _ _ _ _ exec view sub => fitsTickets exec view sub) ?_ ?_
    · rintro program ⟨⟩
      exact program_atomic hexdigest unkeyed operational
    · intro error impossible
      cases impossible
  rwa [raised] at stands

/-- A request without a key that ends in an error leaves no trace, and one that has committed does
not end in an error, whether Redis is there or not. -/
theorem unkeyed_all_or_nothing (reach : Reachable engine env (initial hexdigest requests db) w)
    (unkeyed : (requests i).key = none) (operational : ¬ (requests i).isAdmin) :
    (∀ error, w.session i = .raised error → LeavesNoTrace db w i) ∧
      ∀ n writes, CommitAt w.state.log n i writes → ∀ error, w.session i ≠ .raised error := by
  have traceless {error : Failure} (raised : w.session i = .raised error) : LeavesNoTrace db w i :=
    leavesNoTrace_of_unseen reach (unseen_of_raised reach unkeyed operational raised)
  constructor
  · exact fun error raised => traceless raised
  · intro n writes commit error raised
    exact (traceless raised).commits writes (List.mem_of_getElem? commit)

/-! ## A transfer whose second UPDATE fails -/

def servedTicket : Ticket :=
  { waitingTicket 2 1 5 with
    status := .inService
    assignedCounterId := some 30
    calledAt := some 0
    serviceStartedAt := some 0 }

/-- Service 99 does not exist, which only the foreign key finds out. -/
def lostTransfer (_ : Fin 1) : Request :=
  .transferTicket 2 { targetServiceId := 99, targetLocationId := some 10 } clerk

def lostTransferWorld : AppWorld (Fin 1) :=
  (initial textDigest lostTransfer (office ⟨[servedTicket], by decide⟩)).after engine steadyEnv
    (runs 0)

theorem lostTransfer_raised : ∃ error, lostTransferWorld.session 0 = .raised error :=
  hasRaised_iff.mp (by decide +kernel)

theorem unkeyed_all_or_nothing_lostTransfer :
    LeavesNoTrace (office ⟨[servedTicket], by decide⟩) lostTransferWorld 0 := by
  obtain ⟨error, raised⟩ := lostTransfer_raised
  exact (unkeyed_all_or_nothing (reachable_after _) rfl id).1 error raised

example : (pastOf 0 lostTransferWorld.state.log).length = 3 := by decide +kernel

end QueueFlow.Concurrency
