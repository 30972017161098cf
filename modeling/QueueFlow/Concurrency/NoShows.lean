import QueueFlow.Concurrency.Setting
import QueueFlow.Data.History

/-!
# Tickets that nobody came for

`auto_no_show_called_tickets` selects the stuck tickets without a lock and later updates them by id.
The trigger lets NO_SHOW pass on a ticket that has been started, sent back and called anew in the
meantime.
-/

namespace QueueFlow.Concurrency
open QueueFlow.App QueueFlow.Data QueueFlow.Tables QueueFlow.Transactions

/-! ## The task by itself -/

/-- The task selects first, and then updates each ticket that it has found once. -/
def ClosesListed (past : List Act) : Act → Prop
  | .performed (.write (.updateTicket id _)) _ _ => ∃ cutoff answer rest,
      past = .performed (.read (.stuckTickets cutoff)) answer [] :: rest ∧
        (∃ ticket ∈ answer, ticket.id = id) ∧ ∀ write ∈ pendingOf past, write.lock ≠ .ticket id
  | _ => True

section
variable {env : Nat → Env} {past : List Act} {pending : List Write} {cutoff : Time}
  {answer : List Ticket} {β : Type} {next : PUnit → Handler β}

theorem stuckTickets_distinct (db : Database) (cutoff : Time) :
    ((db.stuckTickets cutoff).map Ticket.id).Nodup :=
  db.tickets.distinct.sublist (List.filter_sublist.map _)

theorem closes_markNoShows {stamps : List (UUID × Time)} (rest : List Act)
    (first : past = .performed (.read (.stuckTickets cutoff)) answer [] :: rest)
    (listed : ∀ stamp ∈ stamps, ∃ ticket ∈ answer, ticket.id = stamp.1)
    (distinct : (stamps.map Prod.fst).Nodup)
    (untouched : ∀ stamp ∈ stamps, ∀ write ∈ pendingOf past, write.lock ≠ .ticket stamp.1)
    (onward : ∀ past pending, Obeys engine env ClosesListed (fun _ _ _ => True) (next ⟨⟩) past
      pending) :
    Obeys engine env ClosesListed (fun _ _ _ => True) ((stamps.forM fun stamp => do
      let _ ← command (.updateTicket stamp.1 { status := .noShow, completedAt := some stamp.2 })
      return ⟨⟩).bind next) past pending := by
  induction stamps generalizing past pending rest with
  | nil => exact onward past pending
  | cons stamp stamps ih =>
      simp only [List.forM, Program.bind_eq, Program.pure_eq, Program.bind_assoc]
      obtain ⟨fresh, distinct⟩ := List.nodup_cons.mp distinct
      intro context value writes locks exec
      refine ⟨⟨cutoff, answer, rest, first, listed stamp List.mem_cons_self,
        untouched stamp List.mem_cons_self⟩, ?_⟩
      obtain ⟨row, found, _, rfl, rfl⟩ := run_updateTicket (exec_write exec).1
      refine ih (rest ++ [_]) (by rw [first]; rfl)
        (fun other member => listed other (List.mem_cons_of_mem _ member)) distinct ?_
      intro other member write written
      rw [pendingOf_concat] at written
      rcases List.mem_append.mp written with earlier | new
      · exact untouched other (List.mem_cons_of_mem _ member) write earlier
      · cases List.mem_singleton.mp new
        have same : row.id = stamp.1 := Table.key_of_get? found
        simp only [Write.lock, Row.lock, TicketUpdate.apply, same, ne_eq, Lock.ticket.injEq]
        intro equal
        exact fresh (equal ▸ List.mem_map_of_mem member)

theorem closes_logNoShows {tickets : List Ticket}
    (onward : ∀ past pending, Obeys engine env ClosesListed (fun _ _ _ => True) (next ⟨⟩) past
      pending) :
    Obeys engine env ClosesListed (fun _ _ _ => True) ((tickets.forM fun ticket =>
      command (.insertEvent
        { ticketId := ticket.id
          eventType := .noShow
          payload := some (.reason "auto_no_show") })).bind next) past pending := by
  induction tickets generalizing past pending with
  | nil => exact onward past pending
  | cons ticket tickets ih => exact fun context value writes locks exec => ⟨trivial, ih⟩

theorem autoNoShow_closesListed :
    Obeys engine env ClosesListed (fun _ _ _ => True) autoNoShowCalledTickets [] [] := by
  simp only [autoNoShowCalledTickets, Program.bind_eq]
  intro tick context value writes locks exec
  have exec : (Stmt.read (.stuckTickets ((env tick).now - minutes 5))).exec context =
      .done value writes locks := exec
  obtain ⟨rfl, rfl, _⟩ := exec_read exec
  refine ⟨trivial, obeys_stampCompletion fun stamps stamped _ => ?_⟩
  have sorted := List.perm_insertionSort (fun a b => a.1 ≤ b.1) stamps
  have ids : (stamps.map Prod.fst).Nodup := by
    rw [stamped]
    exact stuckTickets_distinct _ _
  refine closes_markNoShows [] rfl ?_ ((sorted.map _).nodup_iff.mpr ids)
    (fun _ _ write written => absurd written List.not_mem_nil) fun _ _ => ?_
  · intro stamp member
    have listed : stamp.1 ∈ stamps.map Prod.fst := List.mem_map_of_mem (sorted.mem_iff.mp member)
    rw [stamped] at listed
    exact List.mem_map.mp listed
  · exact closes_logNoShows fun _ _ => ⟨trivial, trivial⟩

end

/-! ## What the task overwrites -/

variable {ι : Type} [DecidableEq ι] {hexdigest : PyDict → String} {env : Nat → Env}
  {requests : ι → Request} {db : Database} {w : AppWorld ι}

def cutoffOf : List Act → Option Time
  | .performed (.read (.stuckTickets cutoff)) _ _ :: _ => some cutoff
  | _ => none

def updatedTicketId : Act → Option UUID
  | .performed (.write (.updateTicket id _)) _ _ => some id
  | _ => none

/-- If the entry is an UPDATE of the task, then the row version that it overwrites is stuck. -/
def OverwritesStuck (requests : ι → Request) (db : Database) (before : List (Entry ι))
    (entry : Entry ι) : Prop :=
  match requests entry.owner with
  | .autoNoShowCalledTickets => ∀ id ∈ updatedTicketId entry.action,
      ∃ cutoff ∈ cutoffOf (pastOf entry.owner before),
        ∃ row ∈ (viewAt engine db entry.owner before).tickets.get? id,
          row.status = .called ∧ ∃ calledAt ∈ row.calledAt, calledAt < cutoff
  | _ => True

instance (before : List (Entry ι)) (entry : Entry ι) :
    Decidable (OverwritesStuck requests db before entry) := by
  unfold OverwritesStuck
  split <;> infer_instance

def isSelectOf (i : ι) (entry : Entry ι) : Bool :=
  entry.owner = i && match entry.action with
    | .performed (.read (.stuckTickets _)) _ _ => true
    | _ => false

def sinceSelect (i : ι) (log : List (Entry ι)) : List (Entry ι) :=
  log.dropWhile fun entry => !isSelectOf i entry

/-- If session `i` is about to update a ticket, then nobody has committed a write of that ticket
since `i` selected it as stuck. -/
def Undisturbed (w : AppWorld ι) (i : ι) : Prop :=
  match w.session i with
  | .running (.performs (.write (.updateTicket id _)) _) =>
      ∀ write ∈ committedWrites (sinceSelect i w.state.log), write.lock ≠ .ticket id
  | _ => True

theorem undisturbed_iff (w : AppWorld ι) (i : ι) :
    (∀ stmt ∈ (w.session i).stmt?, ∀ update ∈ stmt.ticketUpdate?,
      ∀ write ∈ committedWrites (sinceSelect i w.state.log), write.lock ≠ .ticket update.1) ↔
      Undisturbed w i :=
  forall_ticketUpdate_iff (fun id _ =>
    ∀ write ∈ committedWrites (sinceSelect i w.state.log), write.lock ≠ .ticket id) _

instance (w : AppWorld ι) (i : ι) : Decidable (Undisturbed w i) :=
  decidable_of_iff _ (undisturbed_iff w i)

def closes (request : Request) (past : List Act) (action : Act) : Prop :=
  match request with
  | .autoNoShowCalledTickets => ClosesListed past action
  | _ => True

theorem program_closes (hexdigest : PyDict → String) (request : Request) :
    Obeys engine env (closes request) (fun _ _ _ => True) (program hexdigest request) [] [] := by
  cases request with
  | autoNoShowCalledTickets =>
      rw [program, Program.map_eq]
      exact obeys_bind.mpr (obeys_mono autoNoShow_closesListed fun _ _ _ _ => trivial)
  | _ => exact obeys_of_forall (fun _ _ => trivial) _ _ _

theorem reaches_closes (reach : Reachable engine env (initial hexdigest requests db) w) (i : ι) :
    (w.session i).Follows engine env (closes (requests i)) (fun _ _ _ => True)
      (pastOf i w.state.log) (w.state.tx i).writes :=
  (reach.obeys (Q := fun _ _ _ _ => True) fun i => program_closes hexdigest (requests i)).2 i

theorem overwrites_stuck (reach : Reachable engine env (initial hexdigest requests db) w) {i : ι}
    {id : UUID} {cutoff : Time} {answer : List Ticket} {rest : List Act} {ticket : Ticket}
    (first : pastOf i w.state.log = .performed (.read (.stuckTickets cutoff)) answer [] :: rest)
    (listed : ticket ∈ answer) (same : ticket.id = id)
    (untouched : ∀ write ∈ pendingOf (pastOf i w.state.log), write.lock ≠ .ticket id)
    (undisturbed : ∀ write ∈ committedWrites (sinceSelect i w.state.log), write.lock ≠ .ticket id) :
    ∃ row ∈ (viewAt engine db i w.state.log).tickets.get? id,
      row.status = .called ∧ ∃ calledAt ∈ row.calledAt, calledAt < cutoff := by
  have opening : pastOf i w.state.log =
      [] ++ .performed (.read (.stuckTickets cutoff)) answer [] :: rest := first
  obtain ⟨p, located, before, _⟩ := split_pastOf opening
  obtain ⟨context, locks, ran, _⟩ := (reaches_provenance reach).answered located
  have exec : (Stmt.read (.stuckTickets cutoff)).exec context = .done answer [] locks := ran.exec
  have answered := (exec_read exec).1
  rw [ran.view, viewAt, before, pendingOf_nil, Engine.applyAll_nil] at answered
  subst answered
  obtain ⟨member, stuck⟩ := List.mem_filter.mp listed
  have kept : (viewAt engine db i w.state.log).tickets.get? id =
      (storeAt engine db (w.state.log.take p)).tickets.get? id := by
    rw [viewAt, get?_of_unlocked _ untouched]
    nth_rewrite 1 [← List.take_append_drop p w.state.log]
    rw [storeAt_append]
    refine get?_of_unlocked _ fun write written => undisturbed write ?_
    obtain ⟨j, writes, logged, inside⟩ := mem_committedWrites.mp written
    refine mem_committedWrites.mpr ⟨j, writes, ?_, inside⟩
    exact mem_dropWhile_of_drop located (by simp [isSelectOf]) logged
  refine ⟨ticket, ?_, by simpa using stuck⟩
  rw [kept, ← same]
  exact Table.get?_of_mem member

/-- In undisturbed runs the task overwrites stuck tickets only. -/
theorem closes_stuck_only
    (reach : Reaches engine env Undisturbed (initial hexdigest requests db) w) :
    Throughout (OverwritesStuck requests db) w.state.log := by
  refine reach.moves (motive := fun w => Throughout (OverwritesStuck requests db) w.state.log)
    throughout_nil ?_
  intro w i program session state before sofar running moved meets
  have silent (action : Act) (other : updatedTicketId action = none) :
      OverwritesStuck requests db w.state.log ⟨i, action⟩ := by
    unfold OverwritesStuck
    split
    · intro id updated
      rw [other] at updated
      cases updated
    · trivial
  cases moved with
  | @performed stmt next value writes locks ready exec =>
      refine throughout_concat sofar ?_
      cases stmt with
      | write command =>
          cases command with
          | updateTicket id set =>
              have follows := reaches_closes before.reachable i
              rw [running] at follows
              have closing := (follows _ _ _ _ exec).1
              have undisturbed := meets nofun
              rw [Undisturbed, running] at undisturbed
              unfold OverwritesStuck
              split
              · rename_i task
                rw [show requests i = .autoNoShowCalledTickets from task] at closing
                obtain ⟨cutoff, answer, rest, first, ⟨ticket, listed, same⟩, untouched⟩ := closing
                rintro _ ⟨⟩
                refine ⟨cutoff, by simp [first, cutoffOf], ?_⟩
                exact overwrites_stuck before.reachable first listed same untouched undisturbed
              · trivial
          | _ => exact silent _ rfl
      | _ => exact silent _ rfl
  | committed next => exact throughout_concat sofar (silent _ rfl)
  | published msg next => exact throughout_concat sofar (silent _ rfl)
  | _ => exact sofar

/-! ## A ticket that is served after all -/

def forgottenTicket (id : UUID) : Ticket :=
  { waitingTicket id 1 5 with
    status := .called, assignedCounterId := some 30, calledAt := some 0 }

/-- The task, and a clerk who serves the forgotten ticket after all and sends it back to the queue.
-/
def lateVisitor : Fin 3 → Request
  | 0 => .autoNoShowCalledTickets
  | 1 => .startService 2 clerk none
  | 2 => .transferTicket 2 { targetServiceId := 20 } clerk

def lateVisitorStart : AppWorld (Fin 3) :=
  initial textDigest lateVisitor (office ⟨[forgottenTicket 2, forgottenTicket 3], by decide⟩)

theorem closes_stuck_only_alone : Throughout
    (OverwritesStuck lateVisitor (office ⟨[forgottenTicket 2, forgottenTicket 3], by decide⟩))
    (lateVisitorStart.after engine steadyEnv (runs 0)).state.log :=
  closes_stuck_only (reaches_after (by decide +kernel))

theorem requeued_ticket_closed : ∃ w, Reachable engine steadyEnv lateVisitorStart w ∧
    ¬ Throughout
      (OverwritesStuck lateVisitor (office ⟨[forgottenTicket 2, forgottenTicket 3], by decide⟩))
      w.state.log ∧
    (w.state.store.tickets.get? 2).map Ticket.status = some .noShow :=
  ⟨lateVisitorStart.after engine steadyEnv ([.run 0, .run 0] ++ runs 1 ++ runs 2 ++ runs 0),
    reachable_after _, by decide +kernel, by decide +kernel⟩

end QueueFlow.Concurrency
