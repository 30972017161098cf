import QueueFlow.Concurrency.Setting
import QueueFlow.Conduct.Shapes
import QueueFlow.Data.Admission

/-!
# What always holds of the tables

The constraints of the schema hold in every reachable store, and in what every open transaction sees
of it. A ticket is CREATED never, and TRANSFERRED only inside the transaction that transfers it.
-/

namespace QueueFlow.Concurrency
open QueueFlow.App QueueFlow.Data QueueFlow.Tables QueueFlow.Transactions

variable {ι : Type} [DecidableEq ι] {hexdigest : PyDict → String} {env : Nat → Env}
  {requests : ι → Request} {db : Database} {w : AppWorld ι}

/-! ## Constraints -/

/-- However requests are interleaved and whichever of them crash: no foreign key ever dangles, no
two tenants share a name or a slug, no two roles of a tenant a name and no two users of one an
address. -/
theorem constraints_always (valid : db.Valid)
    (reach : Reachable engine env (initial hexdigest requests db) w) :
    w.state.store.Valid ∧ ∀ i, (w.state.view engine i).Valid := by
  have guarded : schema.Guarded engine Database.row Write.value w.state :=
    Reaches.guarded engine_rowed valid.intact reach
      fun w i stmt value writes locks intact exec => admitsAll_exec intact exec
  exact ⟨valid_of_intact guarded.store, fun i => valid_of_intact (guarded.views i)⟩

theorem constraints_always_rounds :
    roundsWorld.state.store.Valid ∧ ∀ i, (roundsWorld.state.view engine i).Valid :=
  constraints_always (by decide +kernel) rounds_reachable

/-! ## Transient statuses -/

def Settled (db : Database) : Prop :=
  ∀ ticket ∈ db.tickets.rows, ticket.status ≠ .created ∧ ticket.status ≠ .transferred

theorem settled_of_member {status : TicketStatus}
    (member : status ∈ [.inService, .hold, .completed, .canceled, .noShow]) :
    status ≠ .created ∧ status ≠ .transferred := by
  constructor
  · rintro rfl
    simp at member
  · rintro rfl
    simp at member

/-- Whatever a request does to a ticket before it commits, the last version is settled. -/
theorem settled_of_commits {request : Request} {past : List Act} {writes : List Write} {id : UUID}
    {row : Ticket} (commits : request.commits hexdigest env past writes)
    (last : row ∈ (ticketVersions id writes).getLast?) :
    row.status ≠ .created ∧ row.status ≠ .transferred := by
  obtain ⟨_, inserted | updated⟩ := mem_ticketVersions.mp (List.mem_of_mem_getLast? last)
  · obtain ⟨locationId, event, _, _, opens⟩ := commits_insert commits inserted
    simp [opens.status]
  · cases shape_of_commits commits with
    | call status calls =>
        have same : row.status = .called := by
          have listed := mem_ticketVersions.mp (List.mem_of_mem_getLast? last)
          simp only [List.mem_cons, Write.insert.injEq, Write.update.injEq, Row.ticket.injEq,
            reduceCtorEq, List.not_mem_nil, or_false, false_or] at listed
          rw [listed.2, calls.status]
        simp [same]
    | transfer is moves =>
        obtain ⟨first, event, requeued, requeueEvent, rfl, _, _, _, requeues, same⟩ := moves
        have final : row = requeued := by
          by_cases mine : first.id = id
          · have again : requeued.id = id := same.id.trans mine
            simp only [ticketVersions_cons, Write.ticket?, mine, again, if_true, ticketVersions_nil,
              Option.toList_some, Option.toList_none, List.nil_append, List.append_nil,
              List.singleton_append, Option.mem_def, List.getLast?_cons_cons,
              List.getLast?_singleton, Option.some.injEq] at last
            exact last.symm
          · have other : requeued.id ≠ id := fun again => mine (same.id.symm.trans again)
            simp [ticketVersions_cons, Write.ticket?, mine, other] at last
        simp [final, requeues.status]
    | change changes status stays =>
        have written := commits_update commits updated
        by_cases called : row.status = .called
        · simp [called]
        · exact settled_of_member (changes_status written stays called)
    | noShows is closes =>
        have written := commits_update commits updated
        subst is
        have same : row.status = .noShow := written
        simp [same]
    | cleanup _ drops =>
        obtain ⟨tenantId, key, impossible⟩ := drops _ updated
        cases impossible
    | records only =>
        cases (only _ updated).1
    | _ => simp at updated

theorem settled_committed {n : Nat} {i : ι} {writes : List Write}
    (reach : Reachable engine env (initial hexdigest requests db) w)
    (commit : CommitAt w.state.log n i writes) {store : Database} (settled : Settled store) :
    Settled (engine.applyAll store writes) := by
  intro ticket member
  have found : ((store.tickets.get? ticket.id).toList ++
      ticketVersions ticket.id writes).getLast? = some ticket :=
    (get?_applyAll store writes ticket.id).symm.trans (Table.get?_of_mem member)
  rw [List.getLast?_append, Option.or_eq_some_iff] at found
  rcases found with last | ⟨_, old⟩
  · exact settled_of_commits (commits_at reach commit) last
  · have stored : ticket ∈ store.tickets.rows := by
      cases located : store.tickets.get? ticket.id with
      | none => simp [located] at old
      | some row =>
          obtain rfl : row = ticket := by simpa [located] using old
          exact Table.mem_of_get? located
    exact settled ticket stored

/-- Whatever requests run and however they are interleaved, what is committed is settled. -/
theorem settled_always (settled : Settled db)
    (reach : Reachable engine env (initial hexdigest requests db) w) (n : Nat) :
    Settled (storeAt engine db (w.state.log.take n)) := by
  refine storeAt_keeps settled (fun _ _ _ commit before => ?_) n
  exact settled_committed reach commit before

theorem settled_always_rounds :
    Settled (storeAt engine (office .empty) (roundsWorld.state.log.take 12)) :=
  settled_always (by rintro _ ⟨⟩) rounds_reachable 12

end QueueFlow.Concurrency
