import QueueFlow.Concurrency.Steps
import Mathlib.Data.List.ReduceOption

/-!
# Timestamps

The timestamps of a ticket describe its current pass through the queue, until a transfer puts it
back there with the times of the last one.
-/

namespace QueueFlow.Concurrency
open QueueFlow.App QueueFlow.Data QueueFlow.Tables QueueFlow.Transactions

variable {ι : Type} [DecidableEq ι] {hexdigest : PyDict → String} {env : Nat → Env}
  {requests : ι → Request} {request : Request} {db store : Database} {past : List Act}
  {writes : List Write} {i : ι} {lo hi : Time} {row new : Ticket}

/-- The times that are set, in the order in which a pass through the queue sets them. -/
def times (ticket : Ticket) : List Time :=
  [some ticket.createdAt, ticket.calledAt, ticket.serviceStartedAt, ticket.completedAt].reduceOption

structure CurrentPass (ticket : Ticket) : Prop where
  waiting : ticket.status = .waiting → ticket.calledAt = none ∧ ticket.serviceStartedAt = none ∧
    ticket.assignedCounterId = none
  called : ticket.status = .called → ticket.serviceStartedAt = none
  ordered : (times ticket).Pairwise (· ≤ ·)

instance (ticket : Ticket) : Decidable (CurrentPass ticket) :=
  decidable_of_iff ((ticket.status = .waiting → ticket.calledAt = none ∧
      ticket.serviceStartedAt = none ∧ ticket.assignedCounterId = none) ∧
    (ticket.status = .called → ticket.serviceStartedAt = none) ∧ (times ticket).Pairwise (· ≤ ·))
    ⟨fun ⟨waiting, called, ordered⟩ => ⟨waiting, called, ordered⟩,
      fun pass => ⟨pass.waiting, pass.called, pass.ordered⟩⟩

/-- The times are those of the current pass, and none of them lies in the future. -/
structure Timed (now : Time) (ticket : Ticket) : Prop extends CurrentPass ticket where
  past : ∀ time ∈ times ticket, time ≤ now
  unfinished : ticket.status ∉ TicketStatus.terminal → ticket.completedAt = none

theorem Timed.later (timed : Timed lo row) (ordered : lo ≤ hi) : Timed hi row :=
  { timed with past := fun time member => (timed.past time member).trans ordered }

/-! ## One row -/

theorem timed_new {new : NewTicket} {id : UUID} {now : Time} (before : now ≤ hi) :
    Timed hi (new.row id now) where
  waiting _ := ⟨rfl, rfl, rfl⟩
  called _ := rfl
  ordered := by simp [times, NewTicket.row]
  past := by simpa [times, NewTicket.row] using before
  unfinished _ := rfl

theorem timed_call {counterId : UUID} {now : Time} (timed : Timed lo row)
    (waits : row.status = .waiting) (after : lo ≤ now) (before : now ≤ hi) :
    Timed hi ((callUpdate counterId now).apply now row) := by
  obtain ⟨uncalled, unstarted, _⟩ := timed.waiting waits
  have unfinished := timed.unfinished (by simp [waits, TicketStatus.terminal])
  have created : row.createdAt ≤ now := (timed.past _ (by simp [times])).trans after
  constructor
  · constructor
    · intro impossible
      cases impossible
    · exact fun _ => unstarted
    · simpa [times, callUpdate, TicketUpdate.apply, uncalled, unstarted, unfinished] using created
  · simpa [times, callUpdate, TicketUpdate.apply, uncalled, unstarted, unfinished] using
      ⟨created.trans before, before⟩
  · exact fun _ => unfinished

theorem Timed.concat {now : Time} {earlier : List Time} (timed : Timed lo row) (after : lo ≤ now)
    (before : now ≤ hi) (sub : earlier.Sublist (times row)) :
    (earlier ++ [now]).Pairwise (· ≤ ·) ∧ ∀ time ∈ earlier ++ [now], time ≤ hi := by
  have past (time : Time) (member : time ∈ earlier) : time ≤ now :=
    (timed.past time (sub.subset member)).trans after
  constructor
  · rw [List.pairwise_append]
    refine ⟨timed.ordered.sublist sub, List.pairwise_singleton _ _,
      fun time member other last => ?_⟩
    cases List.mem_singleton.mp last
    exact past time member
  · intro time member
    rcases List.mem_append.mp member with earlier | last
    · exact (past time earlier).trans before
    · cases List.mem_singleton.mp last
      exact before

/-- An UPDATE adds at most one time, which comes last. -/
theorem times_update {set : TicketUpdate} {now : Time} (timed : Timed lo row)
    (stamps : set.Stamps env)
    (allowed : set.status = row.status ∨ set.status ∈ validTransitions row.status) :
    times (set.apply now row) = times row ∨ ∃ earlier tick, earlier.Sublist (times row) ∧
      times (set.apply now row) = earlier ++ [(env tick).now] := by
  have uncalled := stamps.called
  by_cases starts : set.status = .inService
  · obtain ⟨time, started⟩ := Option.isSome_iff_exists.mp (stamps.started.mpr starts)
    obtain ⟨tick, rfl⟩ := stamps.startedClock time started
    have open_ : set.completedAt = none := by
      simpa [starts, TicketStatus.terminal] using mt stamps.completed.mp
    have unfinished : row.completedAt = none := by
      refine timed.unfinished fun terminal => ?_
      simpa [starts, TicketStatus.terminal] using terminal_of_allowed allowed terminal
    refine .inr ⟨[some row.createdAt, row.calledAt].reduceOption, tick, ?_, ?_⟩
    · exact List.Sublist.filterMap _ (List.prefix_append [_, _] [_, _]).sublist
    · cases called : row.calledAt <;>
        simp [times, TicketUpdate.apply, uncalled, started, open_, unfinished, called]
  · have unstarted : set.serviceStartedAt = none := by simpa using mt stamps.started.mp starts
    by_cases ends : set.status ∈ TicketStatus.terminal
    · obtain ⟨time, completed⟩ := Option.isSome_iff_exists.mp (stamps.completed.mpr ends)
      obtain ⟨tick, rfl⟩ := stamps.completedClock time completed
      refine .inr ⟨[some row.createdAt, row.calledAt, row.serviceStartedAt].reduceOption, tick, ?_, ?_⟩
      · exact List.Sublist.filterMap _ (List.prefix_append [_, _, _] [_]).sublist
      · cases called : row.calledAt <;> cases began : row.serviceStartedAt <;>
          simp [times, TicketUpdate.apply, uncalled, unstarted, completed, called, began]
    · have open_ : set.completedAt = none := by simpa using mt stamps.completed.mp ends
      refine .inl ?_
      simp [times, TicketUpdate.apply, uncalled, unstarted, open_]

theorem timed_update {set : TicketUpdate} {now : Time} (timed : Timed lo row)
    (stamps : set.Stamps env) (clock : ∀ tick, lo ≤ (env tick).now ∧ (env tick).now ≤ hi)
    (allowed : set.status = row.status ∨ set.status ∈ validTransitions row.status)
    (stays : set.status ≠ .waiting ∧ set.status ≠ .called) : Timed hi (set.apply now row) := by
  have ordered : (times (set.apply now row)).Pairwise (· ≤ ·) ∧
      ∀ time ∈ times (set.apply now row), time ≤ hi := by
    rcases times_update timed stamps allowed with same | ⟨earlier, tick, sub, last⟩
    · rw [same]
      obtain ⟨after, before⟩ := clock 0
      exact ⟨timed.ordered, (timed.later (after.trans before)).past⟩
    · rw [last]
      exact timed.concat (clock tick).1 (clock tick).2 sub
  refine ⟨⟨fun waits => (stays.1 waits).elim, fun called => (stays.2 called).elim, ordered.1⟩,
    ordered.2, fun unfinished => ?_⟩
  have open_ : set.completedAt = none := by simpa using mt stamps.completed.mp unfinished
  have before : row.completedAt = none :=
     timed.unfinished fun terminal => unfinished (terminal_of_allowed allowed terminal)
  simp [TicketUpdate.apply, open_, before]

/-! ## The runs -/

theorem timed_commit (clock : ∀ tick, lo ≤ (env tick).now ∧ (env tick).now ≤ hi)
    (stays : transferred db request = none) (base : ∀ ticket ∈ db.tickets.rows, Timed lo ticket)
    (serving : Serving hexdigest env request db past store writes)
    (before : ∀ ticket ∈ store.tickets.rows, Timed hi ticket) :
    ∀ ticket ∈ (engine.applyAll store writes).tickets.rows, Timed hi ticket := by
  intro new member
  have found := Table.get?_of_mem member
  have other (ticketId : UUID) (data : TicketTransfer) (actor : TokenPayload) :
      request ≠ .transferTicket ticketId data actor := by
    rintro rfl
    obtain ⟨row, event, requeued, requeueEvent, written, first, _⟩ := serving.commits
    obtain rfl := serving.first first
    have updated : .update (.ticket row) ∈ writes := by simp [written]
    have moves := serving.transfers updated
    rw [stays] at moves
    cases moves
  rcases commits_tickets serving.commits other with untouched | ⟨first, once⟩
  · rw [get?_of_unlocked store fun write listed => untouched write listed _] at found
    exact before new (Table.mem_of_get? found)
  · obtain rfl := serving.first first
    rcases written_once_cases (R := fun old new => Versioned env (some (.ticket old))
        (.update (.ticket new))) (fun _ _ ok => ok.1) update_versioned
        (serving.sound.and serving.versioned) (once _) found with
      kept | inserted | ⟨old, located, updated, row, tick, same, made⟩
    · exact before new (Table.mem_of_get? kept)
    · obtain ⟨_, _, created, id, tick, rfl⟩ := serving.versioned.of_mem inserted
      exact timed_new (clock tick).2
    · cases same
      have timed := base old (Table.mem_of_get? located)
      rcases made with ⟨waits, counterId, rfl⟩ | ⟨set, stamps, uncalled, allowed, rfl⟩
      · exact timed_call timed waits (clock tick).1 (clock tick).2
      · refine timed_update timed stamps clock allowed ⟨fun requeued => ?_, uncalled⟩
        have status : request.writesStatus set.status := commits_update serving.commits updated
        rw [requeued] at status
        cases request with
        | transferTicket ticketId data actor => exact other ticketId data actor rfl
        | _ => cases status

theorem timed_alone (monotone : Monotone fun tick => (env tick).now)
    (stays : transferred db (requests i) = none)
    (base : ∀ ticket ∈ db.tickets.rows, Timed (env 0).now ticket) :
    ∀ ticket ∈ (alone hexdigest env requests db i).state.store.tickets.rows,
      Timed (env (alone hexdigest env requests db i).state.tick).now ticket := by
  generalize last : (alone hexdigest env requests db i).state.tick = end_
  -- a clock that stands still at the end of the request
  have same : (alone hexdigest env requests db i).state.store =
      (alone hexdigest (fun tick => env (min tick end_)) requests db i).state.store :=
    alone_store_congr fun tick before => by rw [Nat.min_eq_left (last ▸ before.le)]
  rw [same]
  have clock (tick : Nat) : (env 0).now ≤ (env (min tick end_)).now ∧
      (env (min tick end_)).now ≤ (env end_).now :=
    ⟨monotone (Nat.zero_le _), monotone (Nat.min_le_right _ _)⟩
  have start : ∀ ticket ∈ db.tickets.rows, Timed (env end_).now ticket :=
    fun ticket member => (base ticket member).later (monotone (Nat.zero_le _))
  exact alone_keeps start fun past store writes serving before =>
    timed_commit clock stays base serving before

theorem timestamps_describe_current_pass (increasing : StrictMono fun tick => (env tick).now)
    (base : ∀ ticket ∈ db.tickets.rows, Timed (env 0).now ticket) {order : List ι}
    (serves : (initial hexdigest requests db).Serves engine env
      (fun w i => transferred w.state.store (requests i) = none) order) :
    ∀ ticket ∈ ((initial hexdigest requests db).serveAll engine env order).state.store.tickets.rows,
      CurrentPass ticket := by
  suffices timed : ∀ ticket ∈
      ((initial hexdigest requests db).serveAll engine env order).state.store.tickets.rows,
        Timed (env ((initial hexdigest requests db).serveAll engine env order).state.tick).now
          ticket from
    fun ticket member => (timed ticket member).toCurrentPass
  have step (i : ι) (store : Database) (tick : Nat)
      (timed : ∀ ticket ∈ store.tickets.rows, Timed (env tick).now ticket)
      (stays : transferred store (requests i) = none) :
      ∀ ticket ∈
        (alone hexdigest (fun later => env (tick + later)) requests store i).state.store.tickets.rows,
        Timed (env (tick +
          (alone hexdigest (fun later => env (tick + later)) requests store i).state.tick)).now
            ticket :=
    timed_alone (fun _ _ ordered => increasing.monotone (Nat.add_le_add_left ordered tick)) stays timed
  exact sequential_keeps
    (fun store tick => ∀ ticket ∈ store.tickets.rows, Timed (env tick).now ticket)
    (fun store _ request => transferred store request = none) base serves step

def interrupted : Nat → Request
  | 0 => .createTicket (visit 10 (some 20)) clerk none
  | 1 => .callNext 30 {} clerk none
  | 2 => .startService 1001 clerk none
  | 3 => .holdTicket 1001 clerk
  | _ => .cancelTicket 1001 clerk

def interruptedStart : AppWorld Nat := initial textDigest interrupted (office .empty)

def interruptedWorld : AppWorld Nat :=
  interruptedStart.serveAll engine tickingEnv [0, 1, 2, 3, 4]

theorem timestamps_describe_current_pass_interrupted :
    interruptedWorld.state.store.tickets.rows.map Ticket.status = [.canceled] ∧
      ∀ ticket ∈ interruptedWorld.state.store.tickets.rows, CurrentPass ticket :=
  ⟨by decide +kernel, timestamps_describe_current_pass tickingEnv_increasing
    (fun _ member => absurd member List.not_mem_nil) (by decide +kernel)⟩

/-- A ticket that is sent back to the queue still shows when it was called and served. -/
theorem last_pass_shows : StrictMono (fun tick => (tickingEnv tick).now) ∧
    (∀ ticket ∈ calledOffice.tickets.rows, CurrentPass ticket) ∧
    ¬ ∀ ticket ∈ (sentBackStart.serveAll engine tickingEnv [0, 1]).state.store.tickets.rows,
      CurrentPass ticket :=
  ⟨tickingEnv_increasing, by decide, by decide +kernel⟩

end QueueFlow.Concurrency
