import QueueFlow.Concurrency.Setting
import QueueFlow.Data.History
import QueueFlow.Data.SentSql

/-!
# Runs of the statements as they are sent

Every call-next that comes to its statement fails there, and nothing else changes. So what holds of
all runs over `engine`, crashes included, holds of the runs over `sentEngine`.
-/

namespace QueueFlow.Concurrency
open QueueFlow.App QueueFlow.Data QueueFlow.Tables QueueFlow.Transactions

variable {ι : Type} [DecidableEq ι] {hexdigest : PyDict → String} {env : Nat → Env}
  {requests : ι → Request} {db : Database} {ok : AppWorld ι → ι → Prop} {w : AppWorld ι} {i : ι}

/-- The session is not about to send the statement of call-next. -/
abbrev Unrefused (w : AppWorld ι) (i : ι) : Prop := (w.session i).Accepted Stmt.refused

/-- A run of the code as it is sent has the tables and the log of a run with bound parameters in
which the call-nexts crash. -/
theorem sent_mirrored (reach : Reaches sentEngine env ok (initial hexdigest requests db) w) :
    ∃ mirror, w.Mirrors (.database .syntaxError) mirror ∧
      Reaches engine env Unrefused (initial hexdigest requests db) mirror := by
  obtain ⟨mirror, mirrors, onward⟩ : ∃ mirror, w.Mirrors (.database .syntaxError) mirror ∧
      Reaches engine env (fun w i => True ∧ Unrefused w i) (initial hexdigest requests db) mirror :=
    reach.mirrored fun _ _ _ _ _ => trivial
  exact ⟨mirror, mirrors, onward.weaken fun _ _ meets => meets.2⟩

theorem sent_conduct (reach : Reaches sentEngine env ok (initial hexdigest requests db) w)
    {program : Handler Response} (running : w.session i = .running program) :
    Obeys engine env ((requests i).allows hexdigest env)
      (fun response past _ => (requests i).returns past response) program (pastOf i w.state.log)
      (w.state.tx i).writes := by
  obtain ⟨mirror, mirrors, onward⟩ := sent_mirrored reach
  have follows := (reaches_conduct onward).2 i
  rwa [mirrors.running running, mirrors.state] at follows

theorem sent_serial (reach : Reaches sentEngine env ok (initial hexdigest requests db) w) :
    Serial engine Database.row Sound db w.state := by
  obtain ⟨mirror, mirrors, onward⟩ := sent_mirrored reach
  exact mirrors.state ▸ reaches_serial onward

/-! ## Nothing is called -/

theorem uncalled_performed (reach : Reaches sentEngine env ok (initial hexdigest requests db) w)
    {stmt : Stmt} {value : stmt.Res} {writes : List Write} {row : Ticket}
    (logged : ⟨i, .performed stmt value writes⟩ ∈ w.state.log)
    (updated : .update (.ticket row) ∈ writes) : row.status ≠ .called := by
  have sent : stmt.refused = false := accepted_of_logged reach logged
  obtain ⟨mirror, mirrors, onward⟩ := sent_mirrored reach
  rw [← mirrors.state] at logged
  obtain ⟨n, located⟩ := List.mem_iff_getElem?.mp logged
  have allowed := (reaches_conduct onward).1 n _ located
  obtain ⟨context, locks, ran, _⟩ := (reaches_provenance onward).answered located
  generalize same : Write.update (.ticket row) = write at updated
  cases makes_of_exec ran.exec updated with
  | callTicket => simp at sent
  | updateTicket set found =>
      cases same
      exact allowed.1.1
  | @updateRecord update row found =>
      cases same
      have locked := key_of_updateRow found
      cases update <;> cases locked
  | _ => cases same

theorem uncalled_pending (reach : Reaches sentEngine env ok (initial hexdigest requests db) w)
    {program : Handler Response} (running : w.session i = .running program) {row : Ticket}
    (updated : .update (.ticket row) ∈ (w.state.tx i).writes) : row.status ≠ .called := by
  rw [reach.provenance.pending i _ running] at updated
  obtain ⟨stmt, value, performed, past, written⟩ := mem_pendingOf updated
  exact uncalled_performed reach (mem_pastOf.mp past) written

/-- Every UPDATE of a ticket is one of `transition_status`, the requeue or the task. -/
theorem sent_keeps {K : Ticket → Prop}
    (reach : Reaches sentEngine env ok (initial hexdigest requests db) w)
    (inserted : ∀ (new : NewTicket) id now, new.status = .waiting → K (new.row id now))
    (updated : ∀ (set : TicketUpdate) now row, set.status ≠ .called → set.Stamps env →
      (set.status = row.status ∨ set.status ∈ validTransitions row.status) →
        K row → K (set.apply now row)) :
    Serial engine Database.row (Keeps K) db w.state := by
  obtain ⟨mirror, mirrors, onward⟩ := sent_mirrored reach
  rw [← mirrors.state]
  refine onward.serial engine_rowed
    fun w i stmt next value writes locks before unrefused running exec => ?_
  have follows := (reaches_conduct before).2 i
  rw [running] at follows
  have allowed := (follows _ _ _ _ exec).1
  refine checked_tickets exec (fun old write other => keeps_of_other old other) ?_ ?_ ?_
  · rintro new rfl
    exact inserted new _ _ allowed.2
  · rintro id locationId serviceId counterId row rfl _ _ _
    have sent := unrefused (.callTicket id locationId serviceId counterId)
      (by simp [running, Session.stmt?])
    simp at sent
  · rintro id set row rfl _ valid
    exact ⟨row, rfl, updated set _ row allowed.1.1 allowed.2 valid⟩

/-- A run of the code as it is sent looks to the database like a run with bound parameters, and in
it no ticket is called: who is at a counter has been there from the start. -/
theorem sent_runs_call_nobody
    (reach : Reachable sentEngine env (initial hexdigest requests db) w) :
    (∃ mirror : AppWorld ι, Reachable engine env (initial hexdigest requests db) mirror ∧
      mirror.state = w.state ∧ ∀ i, mirror.session i = w.session i ∨
        (w.session i = .raised (.database .syntaxError) ∧ mirror.session i = .crashed)) ∧
    ∀ ticket ∈ w.state.store.tickets.rows, ticket.status = .called → ticket ∈ db.tickets.rows := by
  constructor
  · obtain ⟨mirror, mirrors, onward⟩ := sent_mirrored reach
    exact ⟨mirror, onward.reachable, mirrors.state, mirrors.session⟩
  · have serial : Serial engine Database.row
        (Keeps fun ticket => ticket.status = .called → ticket ∈ db.tickets.rows) db w.state := by
      refine sent_keeps reach (fun new id now waits called => ?_) ?_
      · cases waits.symm.trans called
      · exact fun set now row other _ _ _ called => (other called).elim
    rw [serial.replay]
    exact kept_of_keeps serial.history fun ticket member _ => member

theorem sent_runs_call_nobody_rounds :
    let w := (initial textDigest rounds calledOffice).after sentEngine steadyEnv (runs 0 ++ runs 1)
    (∃ mirror : AppWorld Nat,
      Reachable engine steadyEnv (initial textDigest rounds calledOffice) mirror ∧
      mirror.state = w.state ∧ ∀ i, mirror.session i = w.session i ∨
        (w.session i = .raised (.database .syntaxError) ∧ mirror.session i = .crashed)) ∧
    ∀ ticket ∈ w.state.store.tickets.rows, ticket.status = .called →
      ticket ∈ calledOffice.tickets.rows :=
  sent_runs_call_nobody (reachable_after (runs 0 ++ runs 1))

/-! ## Other requests -/

def isCallNext : Request → Bool
  | .callNext _ _ _ _ => true
  | _ => false

/-- What a refused statement needs to run where it is not refused. -/
theorem forbidden_refused {request : Request} (other : isCallNext request = false)
    (past : List Act) (stmt : Stmt) (refused : stmt.refused = true) :
    ∃ context value writes locks, engine.exec stmt context = .done value writes locks ∧
      ¬ request.allows hexdigest env past (.performed stmt value writes) := by
  have nothing {locationId : UUID} {serviceId : Option UUID} :
      ¬ request.queueIs past locationId serviceId := by
    cases request <;> first | exact id | cases other
  let context : Context Database Lock Env :=
    ⟨.empty, fun _ => true, ⟨0, 0, fun _ => 0, false⟩, ⟨0, 0, fun _ => 0, false⟩⟩
  rcases refused_iff.mp refused with ⟨locationId, serviceId, rfl⟩ | ⟨id, locationId, serviceId,
    counterId, rfl⟩
  · exact ⟨context, _, [], [], rfl, nothing⟩
  · exact ⟨context, none, [], [], rfl, fun calls => nothing calls.2.1⟩

theorem serve_sent (reach : Reaches sentEngine env ok (initial hexdigest requests db) w)
    (other : isCallNext (requests i) = false) :
    w.serve sentEngine env i = w.serve engine env i := by
  cases running : w.session i with
  | running program =>
      rw [serve_eq running, serve_eq running, sentEngine,
        finish_refusing (sent_conduct reach running) (forbidden_refused other)]
  | _ => simp [World.serve, running]

end QueueFlow.Concurrency
