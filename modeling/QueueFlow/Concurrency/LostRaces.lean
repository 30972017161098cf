import QueueFlow.Concurrency.Setting
import QueueFlow.Conduct.Sending
import QueueFlow.Transactions.Raising
import QueueFlow.Transactions.Sequential

/-!
# Lost races

The check of a transition runs on the row that a request has read, and only its own refusal becomes
a conflict. When the row has changed by the time of the UPDATE, no request ends in a conflict.
-/

namespace QueueFlow.Concurrency
open QueueFlow.App QueueFlow.Data QueueFlow.Tables QueueFlow.Transactions

/-- The requests that transition one ticket, and the task that does so by itself. -/
def IsLifecycle : Request → Prop
  | .startService _ _ _ | .completeTicket _ _ _ | .holdTicket _ _ | .cancelTicket _ _
  | .noShow _ _ | .transferTicket _ _ _ | .autoNoShowCalledTickets => True
  | _ => False

def UpdatesTicket : Stmt → Prop
  | .write (.updateTicket _ _) => True
  | _ => False

def IsInternal (error : Failure) : Prop := error.statusCode = 500

/-! ## Handlers -/

section
variable {α β : Type} {hexdigest : PyDict → String}

theorem internal_of_fail {stmt : Stmt} {context : Context Database Lock Env} {error : Failure}
    (failed : engine.exec stmt context = .fail error) : IsInternal error := by
  have failed : stmt.exec context = .fail error := failed
  cases stmt with
  | read q =>
      rw [Stmt.exec] at failed
      split at failed
      · cases failed
        rfl
      · cases failed
  | callTicket id locationId serviceId counterId =>
      rw [Stmt.exec] at failed
      repeat' split at failed
      all_goals first | (cases failed; done) | (cases failed; rfl)
  | write command =>
      rw [Stmt.exec] at failed
      split at failed
      · cases failed
        rfl
      · cases failed

theorem raises_query (q : Query) : (query q).Raises IsInternal := fun _ => trivial

theorem raises_command (command : Command) : (App.command command).Raises IsInternal :=
  fun _ => trivial

theorem raises_observe : (Program.observe : Handler Env).Raises IsInternal := fun _ => trivial

theorem raises_parse (text : UuidText) : (parse text).Raises IsInternal := by
  unfold parse
  split
  · trivial
  · rfl

theorem raises_refresh (ticket : Ticket) : (refresh ticket).Raises IsInternal := by
  intro found
  cases found with
  | none => rfl
  | some row => trivial

theorem raises_publishSignage (locationId : UUID) :
    (publishSignage locationId).Raises IsInternal := by
  intro env
  simp only [Program.ret_bind]
  split <;> trivial

theorem raises_saveKey {tenantId : Handler UUID} {key : Option String} {body : PyDict}
    {ticket : Ticket} (tenant : tenantId.Raises IsInternal) :
    (saveKey hexdigest tenantId key body ticket).Raises IsInternal := by
  unfold saveKey
  split
  · trivial
  · exact raises_bind tenant fun _ => fun _ _ => trivial

theorem after_silent {program : Handler α} {next : α → Handler β} (silent : Silent program)
    (rest : ∀ value, (next value).RaisesAfter UpdatesTicket IsInternal) :
    (program.bind next).RaisesAfter UpdatesTicket IsInternal := by
  rcases silent with ⟨value, rfl⟩ | ⟨error, rfl⟩
  · exact rest value
  · trivial

theorem after_query {q : Query} {next : q.Res → Handler β}
    (rest : ∀ answer, (next answer).RaisesAfter UpdatesTicket IsInternal) :
    ((query q).bind next).RaisesAfter UpdatesTicket IsInternal :=
  ⟨fun impossible => impossible.elim, rest⟩

theorem after_changeStatus (ticketId : UUID) (actor : TokenPayload) (target : TicketStatus)
    (payload : Option Payload) :
    (changeStatus ticketId actor target payload).RaisesAfter UpdatesTicket IsInternal := by
  simp only [changeStatus, getOr404, transitionStatus, Program.bind_eq, Program.pure_eq,
    Program.bind_assoc, Program.mapRaise_bind, Program.mapRaise_observe]
  refine after_query fun found => ?_
  cases found with
  | none => trivial
  | some ticket =>
      simp only [Program.ret_bind]
      refine after_silent (silent_checkTenant _ _) fun _ => ?_
      refine after_silent (silent_parse _) fun userId => ?_
      refine after_silent (silent_mapRaise (silent_transition _ _)) fun _ => fun env => ?_
      exact ⟨fun _ _ _ => trivial, fun _ => ⟨fun _ _ => trivial, fun _ => trivial⟩⟩

theorem after_simpleChange (ticketId : UUID) (actor : TokenPayload) (target : TicketStatus) :
    (simpleChange ticketId actor target).RaisesAfter UpdatesTicket IsInternal := by
  refine after_silent (silent_requireRole _ _) fun _ => ?_
  refine raisesAfter_then (after_changeStatus _ _ _ _) fun ticket => ?_
  refine raises_bind trivial fun _ => ?_
  exact raises_bind (raises_publishSignage _) fun _ => trivial

theorem after_changedBefore {tenantId : UUID} {key : String} {ticketId : UUID}
    {next : Option Ticket → Handler β}
    (rest : ∀ found, (next found).RaisesAfter UpdatesTicket IsInternal) :
    ((changedBefore hexdigest tenantId key ticketId).bind next).RaisesAfter UpdatesTicket
      IsInternal := by
  refine fun env => after_query fun found => ?_
  cases found with
  | none => exact rest none
  | some existing =>
      simp only [Program.ret_bind]
      split
      · trivial
      · split
        · exact rest none
        · exact after_query rest

theorem after_keyedChange {ticketId : UUID} {actor : TokenPayload} {key : Option String}
    {target : TicketStatus} {episode : Ticket → Handler Unit}
    (raises : ∀ ticket, (episode ticket).Raises IsInternal) :
    (keyedChange hexdigest ticketId actor key target episode).RaisesAfter UpdatesTicket
      IsInternal := by
  have new : (keyedChangeNew hexdigest ticketId actor key target episode).RaisesAfter UpdatesTicket
      IsInternal := by
    refine raisesAfter_then (after_changeStatus _ _ _ _) fun ticket => ?_
    refine raises_bind (raises ticket) fun _ => ?_
    refine raises_bind trivial fun _ => ?_
    refine raises_bind (raises_refresh ticket) fun ticket => ?_
    refine raises_bind (raises_saveKey (raises_parse _)) fun _ => ?_
    exact raises_bind (raises_publishSignage _) fun _ => trivial
  refine after_silent (silent_requireRole _ _) fun _ => ?_
  split
  · exact new
  · refine after_silent (silent_parse _) fun tenantId => ?_
    refine after_changedBefore fun found => ?_
    cases found with
    | none => exact new
    | some ticket => trivial

theorem after_transferTicket (ticketId : UUID) (data : TicketTransfer) (actor : TokenPayload) :
    (transferTicket ticketId data actor).RaisesAfter UpdatesTicket IsInternal := by
  refine after_silent (silent_requireRole _ _) fun _ => ?_
  refine raisesAfter_then (after_changeStatus _ _ _ _) fun ticket => ?_
  refine raises_bind (raises_command _) fun ticket => ?_
  refine raises_bind (raises_parse _) fun userId => ?_
  refine raises_bind raises_observe fun env => ?_
  refine raises_bind (raises_command _) fun _ => ?_
  refine raises_bind trivial fun _ => ?_
  exact raises_bind (raises_publishSignage _) fun _ => trivial

theorem raises_stampCompletion (tickets : List Ticket) :
    (stampCompletion tickets).Raises IsInternal := by
  induction tickets with
  | nil => trivial
  | cons ticket tickets ih =>
      exact raises_bind raises_observe fun env => raises_bind ih fun _ => trivial

theorem raises_forM {values : List α} {body : α → Handler PUnit}
    (each : ∀ value, (body value).Raises IsInternal) : (values.forM body).Raises IsInternal := by
  induction values with
  | nil => trivial
  | cons value values ih => exact raises_bind (each value) fun _ => ih

theorem raises_autoNoShow : autoNoShowCalledTickets.Raises IsInternal := by
  refine raises_bind raises_observe fun env => ?_
  refine raises_bind (raises_query _) fun stuck => ?_
  refine raises_bind (raises_stampCompletion stuck) fun stamps => ?_
  refine raises_bind (raises_forM fun stamp => ?_) fun _ => ?_
  · exact raises_bind (raises_command _) fun _ => trivial
  refine raises_bind (raises_forM fun ticket => raises_command _) fun _ => ?_
  exact raises_bind trivial fun _ => trivial

theorem after_program {request : Request} (lifecycle : IsLifecycle request) :
    (program hexdigest request).RaisesAfter UpdatesTicket IsInternal := by
  cases request with
  | startService ticketId actor key =>
      refine raisesAfter_then (after_keyedChange fun ticket => ?_) fun _ => trivial
      exact fun env _ => trivial
  | completeTicket ticketId actor key =>
      refine raisesAfter_then (after_keyedChange fun ticket => ?_) fun _ => trivial
      exact fun env _ => trivial
  | holdTicket ticketId actor => exact raisesAfter_then (after_simpleChange _ _ _) fun _ => trivial
  | cancelTicket ticketId actor =>
      exact raisesAfter_then (after_simpleChange _ _ _) fun _ => trivial
  | noShow ticketId actor => exact raisesAfter_then (after_simpleChange _ _ _) fun _ => trivial
  | transferTicket ticketId data actor =>
      exact raisesAfter_then (after_transferTicket _ _ _) fun _ => trivial
  | autoNoShowCalledTickets =>
      exact raisesAfter_then (raisesAfter_of_raises raises_autoNoShow) fun _ => trivial
  | _ => exact lifecycle.elim

end

/-! ## Runs -/

section
variable {ι : Type} [DecidableEq ι] {hexdigest : PyDict → String} {env : Nat → Env}
  {requests : ι → Request} {db : Database} {w w' : AppWorld ι} {i : ι}

/-- The next statement of session `i` is an UPDATE, and the ticket that it meets is a committed one
whose status must not change to the target. -/
def LosesRace (w : AppWorld ι) (i : ι) : Prop :=
  ∃ update ∈ (w.session i).stmt?.bind Stmt.ticketUpdate?,
    ∃ row ∈ w.state.store.tickets.get? update.1,
      (w.state.view engine i).tickets.get? update.1 = some row ∧
        update.2.status ∉ validTransitions row.status

instance (w : AppWorld ι) (i : ι) : Decidable (LosesRace w i) :=
  inferInstanceAs (Decidable (∃ update ∈ (w.session i).stmt?.bind Stmt.ticketUpdate?,
    ∃ row ∈ w.state.store.tickets.get? update.1, _))

/-- A request that loses a race never ends in a conflict: it succeeds, or it is a server error. -/
theorem lost_race_unreported (reach : Reachable engine env (initial hexdigest requests db) w)
    (lifecycle : IsLifecycle (requests i)) (lost : LosesRace w i)
    (later : Reachable engine env w w') :
    ∀ error, w'.session i = .raised error → error.statusCode = 500 := by
  obtain ⟨update, sends, row, committed, meets, disallowed⟩ := lost
  obtain ⟨stmt, next, updates⟩ := Option.bind_eq_some_iff.mp sends
  have marked : UpdatesTicket stmt := by
    cases stmt with
    | write command =>
        cases command with
        | updateTicket id set => trivial
        | _ => cases updates
    | _ => cases updates
  have after : (w.session i).RaisesAfter UpdatesTicket IsInternal :=
    reach.raisesAfter (after_program lifecycle)
  have raises := later.raises_of_marked (fun _ _ _ => internal_of_fail) next marked after
  intro error raised
  rw [raised] at raises
  exact raises

/-- The trigger rejects the UPDATE unless the ticket has the target status already. -/
theorem lost_race_rejected {id : UUID} {set : TicketUpdate} {row : Ticket}
    (sends : (w.session i).stmt? = some (.write (.updateTicket id set)))
    (meets : (w.state.view engine i).tickets.get? id = some row)
    (disallowed : set.status ∉ validTransitions row.status) (differs : row.status ≠ set.status)
    (step : w.step engine env (.run i) = some w') :
    ∃ message, checkTicketStatusTransition row.status set.status = some message ∧
      w'.session i = .raised (.database (.raised message)) := by
  have rejected : checkTicketStatusTransition row.status set.status ≠ none := fun passes =>
    ((trigger_passes_iff _ _).mp passes).elim differs disallowed
  obtain ⟨message, raises⟩ := Option.ne_none_iff_exists'.mp rejected
  have fails : engine.exec (.write (.updateTicket id set)) (w.state.context engine env i) =
      .fail (.database (.raised message)) := by
    have meets : (w.state.context engine env i).view.tickets.get? id = some row := meets
    change (Stmt.write (.updateTicket id set)).exec (w.state.context engine env i) = _
    simp [Stmt.exec, Command.run, meets, Database.updatedTicket, raises, Except.map]
  refine ⟨message, raises, ?_⟩
  cases current : w.session i with
  | running program =>
      rw [current] at sends
      cases program with
      | performs stmt next =>
          cases sends
          simp only [World.step, current, advance, fails] at step
          split at step
          · cases step
          · cases step
            simp
      | _ => cases sends
  | _ =>
      rw [current] at sends
      cases sends

end

/-! ## Two cancellations and a no-show -/

def failedWith (session : Session Stmt Stmt.Res Failure Message Env Response) : Option Nat :=
  match session with
  | .raised error => some error.statusCode
  | _ => none

def changesOfMind : Nat → Request
  | 1 => .noShow 2 clerk
  | _ => .cancelTicket 2 clerk

def changesOfMindStart : AppWorld Nat :=
  initial textDigest changesOfMind (office ⟨[waitingTicket 2 1 9], by decide⟩)

def overtakenBy (i : Nat) : AppWorld Nat :=
  changesOfMindStart.after engine steadyEnv ([.run 0, .run 0] ++ runs i)

theorem overtakenBy_reachable (i : Nat) :
    Reachable engine steadyEnv changesOfMindStart (overtakenBy i) := reachable_after _

theorem lost_race_unreported_cancel : LosesRace (overtakenBy 1) 0 ∧
    ∀ error, ((overtakenBy 1).after engine steadyEnv (runs 0)).session 0 = .raised error →
      error.statusCode = 500 := by
  have lost : LosesRace (overtakenBy 1) 0 := by decide +kernel
  exact ⟨lost, lost_race_unreported (overtakenBy_reachable 1) trivial lost (reachable_after _)⟩

theorem lost_races_no_conflict :
    (LosesRace (overtakenBy 1) 0 ∧ failedWith
      (((overtakenBy 1).after engine steadyEnv (runs 0)).session 0) = some 500) ∧
    LosesRace (overtakenBy 2) 0 ∧
      (((overtakenBy 2).after engine steadyEnv (runs 0)).session 0).hasReturned = true := by
  decide +kernel

end QueueFlow.Concurrency
