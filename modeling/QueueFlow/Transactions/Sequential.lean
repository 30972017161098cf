import QueueFlow.Transactions.World

/-!
# Sequential runs

`World.serve` runs one session alone to its end, and `World.serveAll` one session after the other.
Such a run is a run of the machine in which nobody has to wait.
-/

namespace QueueFlow.Transactions

variable {ι Store Write Lock Stmt Err Msg Env α : Type} {Res : Stmt → Type} [DecidableEq ι]
  [DecidableEq Lock] (E : Engine Store Write Lock Stmt Res Err Env) (env : Nat → Env)

/-- Session `i` alone, until it ends or has to wait for a lock. -/
def finish (i : ι) : Program Stmt Res Err Msg Env α → State ι Store Write Lock Stmt Res Msg Env →
    Session Stmt Res Err Msg Env α × State ι Store Write Lock Stmt Res Msg Env
  | .ret value, state => (.returned value, state.rolledBack i)
  | .raise error, state => (.raised error, state.rolledBack i)
  | .performs stmt next, state =>
      let context := state.context E env i
      if (E.needs stmt context).any context.busy then (.running (.performs stmt next), state)
      else match E.exec stmt context with
        | .fail error => (.raised error, state.rolledBack i)
        | .done value writes locks => finish i (next value)
            (state.performed env i stmt value writes (E.needs stmt context ++ locks))
  | .observes next, state => finish i (next (env state.tick)) state.ticked
  | .commits next, state => finish i next (state.committed E i)
  | .publishes msg next, state => finish i next (state.published i msg)

def Session.hasReturned : Session Stmt Res Err Msg Env α → Bool
  | .returned _ => true
  | _ => false

def Session.hasRaised : Session Stmt Res Err Msg Env α → Bool
  | .raised _ => true
  | _ => false

def Session.answer? : Session Stmt Res Err Msg Env α → Option α
  | .returned value => some value
  | _ => none

def World.serve (w : World ι Store Write Lock Stmt Res Err Msg Env α) (i : ι) :
    World ι Store Write Lock Stmt Res Err Msg Env α :=
  match w.session i with
  | .running program =>
      let ended := finish E env i program w.state
      ⟨ended.2, Function.update w.session i ended.1⟩
  | _ => w

def World.serveAll (w : World ι Store Write Lock Stmt Res Err Msg Env α) (order : List ι) :
    World ι Store Write Lock Stmt Res Err Msg Env α :=
  order.foldl (World.serve E env) w

variable {E env} {w : World ι Store Write Lock Stmt Res Err Msg Env α} {i : ι}

omit [DecidableEq ι] [DecidableEq Lock] in
theorem hasRaised_iff {session : Session Stmt Res Err Msg Env α} :
    session.hasRaised = true ↔ ∃ error, session = .raised error := by
  cases session <;> simp [Session.hasRaised]

omit [DecidableEq ι] [DecidableEq Lock] in
theorem answer?_eq_some {session : Session Stmt Res Err Msg Env α} {value : α} :
    session.answer? = some value ↔ session = .returned value := by
  cases session <;> simp [Session.answer?]

theorem serve_eq {program : Program Stmt Res Err Msg Env α}
    (running : w.session i = .running program) :
    w.serve E env i = ⟨(finish E env i program w.state).2,
      Function.update w.session i (finish E env i program w.state).1⟩ := by
  rw [World.serve, running]

theorem serveAll_append (first last : List ι) :
    w.serveAll E env (first ++ last) = (w.serveAll E env first).serveAll E env last :=
  List.foldl_append

section
variable {session : ι → Session Stmt Res Err Msg Env α} {program : Program Stmt Res Err Msg Env α}
  {state state' : State ι Store Write Lock Stmt Res Msg Env}

private theorem reaches_advance {next : Session Stmt Res Err Msg Env α}
    (running : session i = .running program)
    (moved : advance E env state i program = some (next, state')) :
    Reaches E env (fun _ j => j = i) ⟨state, session⟩ ⟨state', Function.update session i next⟩ := by
  refine .run i .refl rfl ?_
  simp only [World.step, running, moved, Option.map_some]

private theorem reaches_onward {rest : Program Stmt Res Err Msg Env α}
    (running : session i = .running program)
    (moved : advance E env state i program = some (.running rest, state'))
    (onward : ∀ session : ι → Session Stmt Res Err Msg Env α, session i = .running rest →
      Reaches E env (fun _ j => j = i) ⟨state', session⟩ ⟨(finish E env i rest state').2,
        Function.update session i (finish E env i rest state').1⟩) :
    Reaches E env (fun _ j => j = i) ⟨state, session⟩ ⟨(finish E env i rest state').2,
      Function.update session i (finish E env i rest state').1⟩ := by
  have later := onward (Function.update session i (.running rest)) (by simp)
  rw [Function.update_idem] at later
  exact (reaches_advance running moved).trans later

theorem finish_reaches (running : session i = .running program) :
    Reaches E env (fun _ j => j = i) ⟨state, session⟩ ⟨(finish E env i program state).2,
      Function.update session i (finish E env i program state).1⟩ := by
  induction program generalizing session state with
  | ret value => exact reaches_advance running rfl
  | raise error => exact reaches_advance running rfl
  | observes next ih =>
      rw [finish]
      exact reaches_onward running rfl fun _ alive => ih _ alive
  | commits next ih =>
      rw [finish]
      exact reaches_onward running rfl fun _ alive => ih alive
  | publishes msg next ih =>
      rw [finish]
      exact reaches_onward running rfl fun _ alive => ih alive
  | performs stmt next ih =>
      rw [finish]
      split
      · rw [← running, Function.update_eq_self]
        exact .refl
      · rename_i free
        split
        · rename_i error failed
          exact reaches_advance running (by rw [advance, if_neg free, failed])
        · rename_i value writes locks done
          exact reaches_onward running (by rw [advance, if_neg free, done]) fun _ alive => ih _ alive

end

theorem serve_reaches : Reaches E env (fun _ j => j = i) w (w.serve E env i) := by
  cases session : w.session i with
  | running program =>
      rw [serve_eq session]
      exact finish_reaches session
  | returned value => simpa [World.serve, session] using Reaches.refl
  | raised error => simpa [World.serve, session] using Reaches.refl
  | crashed => simpa [World.serve, session] using Reaches.refl

theorem serveAll_reaches {order : List ι} :
    Reaches E env (fun _ j => j ∈ order) w (w.serveAll E env order) := by
  induction order generalizing w with
  | nil => exact .refl
  | cons i order ih =>
      have first : Reaches E env (fun _ j => j ∈ i :: order) w (w.serve E env i) :=
        serve_reaches.weaken fun _ j same => by simp [same]
      exact first.trans (ih.weaken fun _ j later => List.mem_cons_of_mem _ later)

/-! ## Other sessions -/

theorem finish_other {j : ι} (other : j ≠ i) (program : Program Stmt Res Err Msg Env α)
    (state : State ι Store Write Lock Stmt Res Msg Env) :
    (finish E env i program state).2.tx j = state.tx j := by
  induction program generalizing state with
  | ret value => simp [finish, State.rolledBack, State.closed, other]
  | raise error => simp [finish, State.rolledBack, State.closed, other]
  | observes next ih => exact ih _ _
  | commits next ih =>
      rw [finish, ih]
      simp [State.committed, State.closed, other]
  | publishes msg next ih => exact ih _
  | performs stmt next ih =>
      rw [finish]
      split
      · rfl
      · split
        · simp [State.rolledBack, State.closed, other]
        · rw [ih]
          simp [State.performed, other]

theorem serve_other (w : World ι Store Write Lock Stmt Res Err Msg Env α) {j : ι}
    (other : j ≠ i) : (w.serve E env i).session j = w.session j ∧
      (w.serve E env i).state.tx j = w.state.tx j := by
  cases session : w.session i with
  | running program =>
      rw [serve_eq session]
      exact ⟨Function.update_of_ne other _ _, finish_other other _ _⟩
  | returned value => simp [World.serve, session]
  | raised error => simp [World.serve, session]
  | crashed => simp [World.serve, session]

theorem serveAll_other {order : List ι} {j : ι} (later : j ∉ order) :
    (w.serveAll E env order).session j = w.session j ∧
      (w.serveAll E env order).state.tx j = w.state.tx j := by
  induction order generalizing w with
  | nil => exact ⟨rfl, rfl⟩
  | cons i order ih =>
      simp only [List.mem_cons, not_or] at later
      obtain ⟨session, tx⟩ := ih (w := w.serve E env i) later.2
      obtain ⟨session', tx'⟩ : (w.serve E env i).session j = w.session j ∧
          (w.serve E env i).state.tx j = w.state.tx j := serve_other w later.1
      exact ⟨session.trans session', tx.trans tx'⟩

/-! ## Nobody waits -/

def State.HeldBy (i : ι) (state : State ι Store Write Lock Stmt Res Msg Env) : Prop :=
  ∀ lock j, state.locks lock = some j → j = i

def State.Quiet (state : State ι Store Write Lock Stmt Res Msg Env) : Prop :=
  ∀ lock, state.locks lock = none

omit [DecidableEq Lock] in
private theorem quiet_closed {state : State ι Store Write Lock Stmt Res Msg Env}
    (held : state.HeldBy i) (store : Store) : (state.closed i store).Quiet := by
  intro lock
  simp only [State.closed, State.release]
  split
  · rfl
  · rename_i other
    cases taken : state.locks lock with
    | none => rfl
    | some j => exact (other (by rw [taken, held lock j taken])).elim

section
variable {state : State ι Store Write Lock Stmt Res Msg Env}

omit [DecidableEq Lock] in
theorem State.HeldBy.free (held : state.HeldBy i) (lock : Lock) : state.busy i lock = false := by
  unfold State.busy
  split
  · rfl
  · rename_i owner taken
    simp [held lock owner taken]

theorem State.HeldBy.performed (held : state.HeldBy i) {stmt : Stmt} {value : Res stmt}
    {writes : List Write} {locks : List Lock} :
    (state.performed env i stmt value writes locks).HeldBy i := by
  intro lock j taken
  simp only [State.performed, State.acquire] at taken
  split at taken
  · exact (Option.some.inj taken).symm
  · exact held lock j taken

omit [DecidableEq Lock] in
theorem State.HeldBy.committed (held : state.HeldBy i) : (state.committed E i).HeldBy i := by
  intro lock j taken
  simp only [State.committed, State.closed, State.release] at taken
  split at taken
  · cases taken
  · exact held lock j taken

omit [DecidableEq ι] [DecidableEq Lock] in
theorem State.Quiet.heldBy (quiet : state.Quiet) (i : ι) : state.HeldBy i := by
  intro lock j taken
  rw [quiet lock] at taken
  cases taken

end

theorem finish_ends {program : Program Stmt Res Err Msg Env α}
    {state : State ι Store Write Lock Stmt Res Msg Env} (held : state.HeldBy i) :
    (∀ rest, (finish E env i program state).1 ≠ .running rest) ∧
      (finish E env i program state).2.Quiet := by
  induction program generalizing state with
  | ret value => exact ⟨fun rest => by simp [finish], quiet_closed held _⟩
  | raise error => exact ⟨fun rest => by simp [finish], quiet_closed held _⟩
  | observes next ih => exact ih _ held
  | commits next ih => exact ih held.committed
  | publishes msg next ih => exact ih held
  | performs stmt next ih =>
      rw [finish]
      split
      · rename_i waits
        obtain ⟨lock, _, busy⟩ := List.any_eq_true.mp waits
        rw [show (state.context E env i).busy lock = state.busy i lock from rfl, held.free] at busy
        cases busy
      · split
        · exact ⟨fun rest => by simp, quiet_closed held _⟩
        · exact ih _ held.performed

theorem serve_quiet (quiet : w.state.Quiet) : (w.serve E env i).state.Quiet := by
  cases session : w.session i with
  | running program =>
      rw [serve_eq session]
      exact (finish_ends (quiet.heldBy i)).2
  | returned value => simpa [World.serve, session] using quiet
  | raised error => simpa [World.serve, session] using quiet
  | crashed => simpa [World.serve, session] using quiet

theorem serve_ends (quiet : w.state.Quiet) :
    ∀ rest, (w.serve E env i).session i ≠ .running rest := by
  intro rest
  cases session : w.session i with
  | running program =>
      rw [serve_eq session]
      have ends : (finish E env i program w.state).1 ≠ .running rest :=
        (finish_ends (quiet.heldBy i)).1 rest
      simpa using ends
  | returned value => simp [World.serve, session]
  | raised error => simp [World.serve, session]
  | crashed => simp [World.serve, session]

end QueueFlow.Transactions
