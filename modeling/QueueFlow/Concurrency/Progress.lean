import QueueFlow.Concurrency.Setting
import QueueFlow.Conduct.Locking
import QueueFlow.Transactions.Finishing

/-!
# Nobody waits for ever

Requests wait for each other's rows, but never in a circle: as long as one of them runs, one of them
can go on, and every run can be finished. Renaming a tenant is left out here: only an UPDATE of a
unique name would conflict with the key-share locks of the foreign keys, which the engine does not
have.
-/

namespace QueueFlow.Concurrency
open QueueFlow.App QueueFlow.Data QueueFlow.Transactions

variable {ι : Type} [DecidableEq ι] {hexdigest : PyDict → String} {env : Nat → Env}
  {requests : ι → Request} {db : Database} {w : AppWorld ι}

/-- Only the INSERT of an event waits for its row. -/
theorem event_needs {stmt : Stmt} {context : Context Database Lock Env} {id : UUID}
    (needed : .event id ∈ stmt.needs context) : id = context.env.uuid := by
  cases stmt with
  | write command =>
      cases command with
      | insertEvent new => simpa [Stmt.needs, Command.needs] using needed
      | insertRecord new => cases new <;> simp [Stmt.needs, Command.needs, NewRecord.row, Row.lock,
          NewRecord.entries] at needed
      | updateRecord update => cases update <;> simp [Stmt.needs, Command.needs, RecordUpdate.lock,
          RecordUpdate.entries] at needed
      | _ => simp [Stmt.needs, Command.needs] at needed
  | _ => cases needed

theorem event_taken {stmt : Stmt} {context : Context Database Lock Env} {value : stmt.Res}
    {writes : List Write} {locks : List Lock} {id : UUID}
    (exec : stmt.exec context = .done value writes locks)
    (taken : .event id ∈ stmt.needs context ++ locks) : id = context.env.uuid := by
  rcases List.mem_append.mp taken with needed | free
  · exact event_needs needed
  · cases stmt with
    | read q =>
        obtain ⟨_, _, rfl⟩ := exec_read exec
        cases free
    | callTicket ticketId locationId serviceId counterId =>
        rcases (locks_callTicket exec).1 with rfl | ⟨rfl, _⟩
        · cases free
        · cases List.mem_singleton.mp free
    | write command =>
        obtain ⟨_, rfl⟩ := exec_write exec
        cases free

def EventsDrawn (env : Nat → Env) (w : AppWorld ι) : Prop :=
  ∀ id j, w.state.locks (.event id) = some j → ∃ tick < w.state.tick, (env tick).uuid = id

theorem events_drawn (reach : Reachable engine env (initial hexdigest requests db) w) :
    EventsDrawn env w := by
  refine reach.moves (motive := EventsDrawn env) (fun id j held => by cases held) ?_
  intro w i program session state before drawn running moved _ id j
  have kept (still : w.state.locks (.event id) = some j) :
      ∃ tick < w.state.tick + 1, (env tick).uuid = id := by
    obtain ⟨tick, earlier, same⟩ := drawn id j still
    exact ⟨tick, Nat.lt_succ_of_lt earlier, same⟩
  cases moved with
  | performed ready exec =>
      intro held
      rcases acquire_eq_some.mp held with ⟨taken, _⟩ | ⟨_, still⟩
      · exact ⟨w.state.tick, Nat.lt_succ_self _, (event_taken exec taken).symm⟩
      · exact kept still
  | observed next => exact kept
  | published msg next => exact kept
  | _ => exact fun held => kept (release_eq_some.mp held).1

/-- UUIDs do not repeat, so a statement never waits for the row of an event. -/
theorem contended_of_awaits (injective : Function.Injective fun tick => (env tick).uuid)
    (reach : Reachable engine env (initial hexdigest requests db) w) {i : ι} {lock : Lock}
    (awaits : w.Awaits engine env i lock) : Contended lock := by
  obtain ⟨stmt, next, running, needed, busy⟩ := awaits
  rintro id rfl
  have now : id = (env w.state.tick).uuid := event_needs needed
  have held : w.state.locks (.event id) ≠ none := by
    intro unheld
    simp [State.busy, unheld] at busy
  obtain ⟨j, held⟩ := Option.ne_none_iff_exists'.mp held
  obtain ⟨tick, earlier, same⟩ := events_drawn reach id j held
  have twice : tick = w.state.tick := injective (same.trans now)
  exact absurd earlier (twice ▸ Nat.lt_irrefl _)

omit [DecidableEq ι] in
theorem initial_inOrder (named : ∀ i, (requests i).renames = false) :
    (initial hexdigest requests db).InOrder engine Contended lockRank where
  holders lock i held := by cases held
  ascends := by
    rintro i _ ⟨⟩
    have nothing : (initial hexdigest requests db).state.heldBy Contended i = ∅ := by
      ext lock
      simp [State.heldBy, initial, State.start]
    rw [nothing]
    exact program_ascends hexdigest (named i)
  finite := by simp [initial, State.start]

/-! ## Two clerks at one ticket -/

def bothHold (_ : Bool) : Request := .holdTicket 2 clerk

def bothHoldStart : AppWorld Bool := initial textDigest bothHold
  (office ⟨[{ waitingTicket 2 1 6 with status := .inService }], by decide⟩)

def secondWaits : AppWorld Bool := bothHoldStart.after engine steadyEnv
  (List.replicate 3 (.run false) ++ List.replicate 2 (.run true))

theorem steadyEnv_injective : Function.Injective fun tick => (steadyEnv tick).uuid :=
  fun _ _ same => Nat.add_left_cancel same

/-! ## Runs end -/

section
variable (injective : Function.Injective fun tick => (env tick).uuid)
  (named : ∀ i, (requests i).renames = false)
include injective named

/-- However the steps of the requests were interleaved and whichever of them have crashed: if one of
them still runs, then one of them can take its next step now. -/
theorem no_deadlock (reach : Reachable engine env (initial hexdigest requests db) w) {i : ι}
    (running : ¬ (w.session i).Ended) : ∃ j next, w.step engine env (.run j) = some next := by
  obtain ⟨program, running⟩ : ∃ program, w.session i = .running program := by
    simpa [Session.Ended] using running
  have inOrder := reach.inOrder (initial_inOrder named)
  exact inOrder.progress (fun j lock => contended_of_awaits injective reach) running

/-- Every run of finitely many requests is finite, and from wherever it has come it can be run until
all requests have their answers, without another crash. -/
theorem every_request_ends [Finite ι]
    (reach : Reachable engine env (initial hexdigest requests db) w) :
    (∃ last, Reachable engine env w last ∧ last.Over ∧
      ∀ i, last.session i = .crashed → w.session i = .crashed) ∧
    ¬ ∃ run : Nat → AppWorld ι, run 0 = w ∧ ∀ n, World.Next engine env (run (n + 1)) (run n) := by
  have kept (w : AppWorld ι) (i : ι) (next : AppWorld ι)
      (before : Reachable engine env (initial hexdigest requests db) w)
      (step : w.step engine env (.run i) = some next) :
      Reachable engine env (initial hexdigest requests db) next := .run i before trivial step
  have progress (w : AppWorld ι)
      (before : Reachable engine env (initial hexdigest requests db) w) (goesOn : ¬ w.Over) :
      ∃ i next, w.step engine env (.run i) = some next := by
    obtain ⟨i, running⟩ := not_forall.mp goesOn
    exact no_deadlock injective named before running
  constructor
  · exact exists_over kept progress reach
  · rintro ⟨run, _, steps⟩
    exact no_endless_run run steps

end

theorem no_deadlock_secondWaits : (secondWaits.step engine steadyEnv (.run true)).isNone = true ∧
    ∃ j next, secondWaits.step engine steadyEnv (.run j) = some next :=
  ⟨by decide +kernel, no_deadlock steadyEnv_injective (fun _ => rfl) (reachable_after _)
    (i := true) (not_ended_of_stmt (by decide +kernel))⟩

theorem every_request_ends_secondWaits :
    (∃ last, Reachable engine steadyEnv secondWaits last ∧ last.Over ∧
      ∀ i, last.session i = .crashed → secondWaits.session i = .crashed) ∧
    ¬ ∃ run : Nat → AppWorld Bool, run 0 = secondWaits ∧
      ∀ n, World.Next engine steadyEnv (run (n + 1)) (run n) :=
  every_request_ends steadyEnv_injective (fun _ => rfl) (reachable_after _)

end QueueFlow.Concurrency
