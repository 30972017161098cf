import QueueFlow.Transactions.Log
import QueueFlow.Transactions.Sequential

/-!
# How a session that runs alone ends

`Ends` says where a program ends up over a store that nobody else writes: one rule for each kind of
step. `Answers` is the case of a program that only reads.
-/

namespace QueueFlow.Transactions

variable {ι Store Write Lock Stmt Err Msg Env α : Type} {Res : Stmt → Type} [DecidableEq ι]
  [DecidableEq Lock] {E : Engine Store Write Lock Stmt Res Err Env} {env : Nat → Env} {i : ι}
  {store : Store} {writes : List Write} {tick : Nat}

structure State.Solo (i : ι) (store : Store) (writes : List Write) (tick : Nat)
    (state : State ι Store Write Lock Stmt Res Msg Env) : Prop where
  store : state.store = store
  writes : (state.tx i).writes = writes
  tick : state.tick = tick
  held : state.HeldBy i

/-- From there the program ends with a session, a store and messages that satisfy `Q`. -/
def Ends (E : Engine Store Write Lock Stmt Res Err Env) (env : Nat → Env) (i : ι)
    (Q : Session Stmt Res Err Msg Env α → Store → List Msg → Prop)
    (program : Program Stmt Res Err Msg Env α) (store : Store) (writes : List Write)
    (tick : Nat) : Prop :=
  ∀ state : State ι Store Write Lock Stmt Res Msg Env, state.Solo i store writes tick →
    ∃ sent, messages (finish E env i program state).2.log = messages state.log ++ sent ∧
      Q (finish E env i program state).1 (finish E env i program state).2.store sent

/-- What a statement sees of a store that nobody else writes. -/
structure Context.Over (view : Store) (env : Env) (context : Context Store Lock Env) : Prop where
  view : context.view = view
  env : context.env = env
  free : ∀ lock, context.busy lock = false

section
variable {Q : Session Stmt Res Err Msg Env α → Store → List Msg → Prop}

theorem Ends.mono {Q' : Session Stmt Res Err Msg Env α → Store → List Msg → Prop}
    {program : Program Stmt Res Err Msg Env α} (ends : Ends E env i Q program store writes tick)
    (implies : ∀ session after sent, Q session after sent → Q' session after sent) :
    Ends E env i Q' program store writes tick := by
  intro state solo
  obtain ⟨sent, logged, holds⟩ := ends state solo
  exact ⟨sent, logged, implies _ _ _ holds⟩

theorem ends_ret {value : α} (holds : Q (.returned value) store []) :
    Ends E env i Q (.ret value) store writes tick :=
  fun _ solo => ⟨[], (List.append_nil _).symm, solo.store ▸ holds⟩

theorem ends_raise {error : Err} (holds : Q (.raised error) store []) :
    Ends E env i Q (.raise error) store writes tick :=
  fun _ solo => ⟨[], (List.append_nil _).symm, solo.store ▸ holds⟩

theorem ends_observe {next : Env → Program Stmt Res Err Msg Env α}
    (rest : Ends E env i Q (next (env tick)) store writes (tick + 1)) :
    Ends E env i Q (.observes next) store writes tick := by
  intro state solo
  have held : state.ticked.HeldBy i := solo.held
  rw [finish, solo.tick]
  exact rest state.ticked ⟨solo.store, solo.writes, congrArg (· + 1) solo.tick, held⟩

theorem ends_commit {next : Program Stmt Res Err Msg Env α}
    (rest : Ends E env i Q next (E.applyAll store writes) [] (tick + 1)) :
    Ends E env i Q (.commits next) store writes tick := by
  intro state solo
  have later : (state.committed E i).Solo i (E.applyAll store writes) [] (tick + 1) :=
    ⟨by simp [State.committed, State.closed, State.view, solo.writes, solo.store],
      by simp [State.committed, State.closed, Tx.closed], congrArg (· + 1) solo.tick,
      solo.held.committed⟩
  obtain ⟨sent, logged, ends⟩ := rest _ later
  exact ⟨sent, by simpa [finish, State.committed] using logged, ends⟩

theorem ends_publish {msg : Msg} {next : Program Stmt Res Err Msg Env α}
    (rest : Ends E env i (fun session store sent => Q session store (msg :: sent)) next store writes
      (tick + 1)) :
    Ends E env i Q (.publishes msg next) store writes tick := by
  intro state solo
  have held : (state.published i msg).HeldBy i := solo.held
  obtain ⟨sent, logged, ends⟩ :=
    rest (state.published i msg) ⟨solo.store, solo.writes, congrArg (· + 1) solo.tick, held⟩
  exact ⟨msg :: sent, by simpa [finish, State.published] using logged, ends⟩

theorem ends_perform {stmt : Stmt} {next : Res stmt → Program Stmt Res Err Msg Env α}
    (failed : ∀ (context : Context Store Lock Env) error,
      context.Over (E.applyAll store writes) (env tick) →
      E.exec stmt context = .fail error → Q (.raised error) store [])
    (done : ∀ (context : Context Store Lock Env) value new locks,
      context.Over (E.applyAll store writes) (env tick) →
      E.exec stmt context = .done value new locks →
        Ends E env i Q (next value) store (writes ++ new) (tick + 1)) :
    Ends E env i Q (.performs stmt next) store writes tick := by
  intro state solo
  have sees : (state.context E env i).Over (E.applyAll store writes) (env tick) :=
    ⟨by simp [State.context, State.view, solo.writes, solo.store],
      by simp [State.context, solo.tick], solo.held.free⟩
  have ready : (E.needs stmt (state.context E env i)).any (state.context E env i).busy = false :=
    List.any_eq_false.mpr fun lock _ => by simp [sees.free]
  simp only [finish, ready, Bool.false_eq_true, if_false]
  cases exec : E.exec stmt (state.context E env i) with
  | fail error => exact ⟨[], (List.append_nil _).symm, solo.store ▸ failed _ error sees exec⟩
  | done value new locks =>
      have later : (state.performed env i stmt value new
          (E.needs stmt (state.context E env i) ++ locks)).Solo i store (writes ++ new)
            (tick + 1) :=
        ⟨solo.store, by simp [State.performed, solo.writes], congrArg (· + 1) solo.tick,
          solo.held.performed⟩
      obtain ⟨sent, logged, ends⟩ := done _ value new locks sees exec _ later
      exact ⟨sent, by simpa [State.performed] using logged, ends⟩

theorem serve_of_ends {w : World ι Store Write Lock Stmt Res Err Msg Env α}
    {program : Program Stmt Res Err Msg Env α} (running : w.session i = .running program)
    (quiet : w.state.Quiet) (closed : w.state.tx i = .closed)
    (ends : Ends E env i Q program w.state.store [] w.state.tick) :
    ∃ sent, messages (w.serve E env i).state.log = messages w.state.log ++ sent ∧
      Q ((w.serve E env i).session i) (w.serve E env i).state.store sent := by
  rw [serve_eq running]
  simpa using ends w.state ⟨rfl, by rw [closed]; rfl, rfl, quiet.heldBy i⟩

end

/-! ## Reading alone -/

def Answers (E : Engine Store Write Lock Stmt Res Err Env) (env : Nat → Env) (i : ι)
    (store : Store) (program : Program Stmt Res Err Msg Env α) (tick : Nat)
    (session : Session Stmt Res Err Msg Env α) : Prop :=
  Ends E env i (fun ended after sent => ended = session ∧ after = store ∧ sent = []) program store
    [] tick

section
variable {session : Session Stmt Res Err Msg Env α}

theorem answers_ret (value : α) :
    Answers E env i store (.ret value : Program Stmt Res Err Msg Env α) tick (.returned value) :=
  ends_ret ⟨rfl, rfl, rfl⟩

theorem answers_raise (error : Err) :
    Answers E env i store (.raise error : Program Stmt Res Err Msg Env α) tick (.raised error) :=
  ends_raise ⟨rfl, rfl, rfl⟩

theorem answers_observe {next : Env → Program Stmt Res Err Msg Env α}
    (rest : Answers E env i store (next (env tick)) (tick + 1) session) :
    Answers E env i store (.observes next) tick session := ends_observe rest

theorem answers_read {stmt : Stmt} {next : Res stmt → Program Stmt Res Err Msg Env α}
    {value : Res stmt} (reads : ∀ context : Context Store Lock Env, context.view = store →
      context.env = env tick → E.exec stmt context = .done value [] [])
    (rest : Answers E env i store (next value) (tick + 1) session) :
    Answers E env i store (.performs stmt next) tick session := by
  refine ends_perform (fun context error sees exec => ?_)
    fun context answer new locks sees exec => ?_
  · rw [reads context sees.view sees.env] at exec
    cases exec
  · rw [reads context sees.view sees.env] at exec
    cases exec
    exact rest

theorem answers_commit {next : Program Stmt Res Err Msg Env α}
    (rest : Answers E env i store next (tick + 1) session) :
    Answers E env i store (.commits next) tick session := ends_commit rest

end

end QueueFlow.Transactions
