import QueueFlow.Conduct.Answers
import QueueFlow.Concurrency.Setting
import QueueFlow.Transactions.Sequential

/-!
# Honest answers

Nobody is shown a ticket that was never there: what an answer shows was committed just before or
just after something that the request itself did.
-/

namespace QueueFlow.Concurrency
open QueueFlow.App QueueFlow.Data QueueFlow.Tables QueueFlow.Transactions

variable {ι : Type} [DecidableEq ι] {hexdigest : PyDict → String} {env : Nat → Env}
  {requests : ι → Request} {db : Database} {w : AppWorld ι} {i : ι} {ticket : Ticket}

theorem stored_of_last {store : Database} {writes : List Write}
    (last : ticket ∈ (ticketVersions ticket.id writes).getLast?) :
    ticket ∈ (engine.applyAll store writes).tickets.rows := by
  refine Table.mem_of_get? (k := ticket.id) ?_
  rw [get?_applyAll, List.getLast?_append, Option.or_eq_some_iff]
  exact .inl last

theorem stored_or_last {store : Database} {writes : List Write}
    (found : (engine.applyAll store writes).tickets.get? ticket.id = some ticket) :
    ticket ∈ store.tickets.rows ∨ ticket ∈ (ticketVersions ticket.id writes).getLast? := by
  rw [get?_applyAll, List.getLast?_append, Option.or_eq_some_iff] at found
  rcases found with last | ⟨_, stored⟩
  · exact .inr last
  · refine .inl (Table.mem_of_get? (k := ticket.id) ?_)
    cases located : store.tickets.get? ticket.id with
    | none => simp [located] at stored
    | some row => simpa [located] using stored

/-- The ticket in the answer of any request, however it was interleaved with others, was a committed
row right before or right after one of the request's own actions. -/
theorem answers_genuine (reach : Reachable engine env (initial hexdigest requests db) w)
    {response : Response} (answered : w.session i = .returned response)
    (shown : ticket ∈ response.ticket?) :
    ∃ k action, w.state.log[k]? = some ⟨i, action⟩ ∧
      (ticket ∈ (storeAt engine db (w.state.log.take k)).tickets.rows ∨
        ticket ∈ (storeAt engine db (w.state.log.take (k + 1))).tickets.rows) := by
  have follows := (reach.obeys fun i => shows_program hexdigest (requests i)).2 i
  rw [answered] at follows
  obtain ⟨_, genuine⟩ := follows
  have committed (writes : List Write) (own : .committed writes ∈ pastOf i w.state.log)
      (last : ticket ∈ (ticketVersions ticket.id writes).getLast?) :
      ∃ k action, w.state.log[k]? = some ⟨i, action⟩ ∧
        (ticket ∈ (storeAt engine db (w.state.log.take k)).tickets.rows ∨
          ticket ∈ (storeAt engine db (w.state.log.take (k + 1))).tickets.rows) := by
    obtain ⟨k, inside, located⟩ := List.getElem_of_mem (mem_pastOf.mp own)
    have located := List.getElem?_eq_some_iff.mpr ⟨inside, located⟩
    refine ⟨k, _, located, .inr ?_⟩
    rw [storeAt_commit located]
    exact stored_of_last last
  rcases genuine ticket shown with ⟨earlier, later, split, clean⟩ | ⟨writes, own, last⟩
  · obtain ⟨k, located, before, _⟩ := split_pastOf split
    obtain ⟨context, locks, ran, _⟩ := (reaches_provenance reach).answered located
    have exec : (Stmt.read (.ticket ticket.id)).exec context = .done (some ticket) [] locks :=
      ran.exec
    have read := (exec_read exec).1
    rw [ran.view, viewAt, before] at read
    rcases stored_or_last read.symm with stored | last
    · exact ⟨k, _, located, .inl stored⟩
    · rcases clean with clean | own
      · simp [clean] at last
      · exact committed _ own last
  · exact committed writes own last

theorem answers_genuine_called : ∃ response ticket, roundsWorld.session 1 = .returned response ∧
    ticket ∈ response.ticket? ∧ ∃ k action, roundsWorld.state.log[k]? = some ⟨1, action⟩ ∧
      (ticket ∈ (storeAt engine (office .empty) (roundsWorld.state.log.take k)).tickets.rows ∨
        ticket ∈
          (storeAt engine (office .empty) (roundsWorld.state.log.take (k + 1))).tickets.rows) := by
  have shown : ((roundsWorld.session 1).answer?.bind Response.ticket?).isSome = true := by
    decide +kernel
  obtain ⟨ticket, shown⟩ := Option.isSome_iff_exists.mp shown
  obtain ⟨response, answered, shown⟩ := Option.bind_eq_some_iff.mp shown
  have answered := answer?_eq_some.mp answered
  exact ⟨response, ticket, answered, shown, answers_genuine rounds_reachable answered shown⟩

end QueueFlow.Concurrency
