import QueueFlow.Transactions.Obedience
import QueueFlow.Transactions.Provenance
import QueueFlow.Transactions.Sequential

/-!
# Statements that the database refuses

A session whose statement is refused ends with an error, and nothing else happens. So to everybody
else it has crashed, and whatever holds of all runs with crashes holds of the runs with refusals.
-/

namespace QueueFlow.Transactions

variable {ι Store Write Lock Stmt Err Msg Env α : Type} {Res : Stmt → Type}

/-- The engine that fails on some statements before it waits for a lock. -/
def Engine.refusing (E : Engine Store Write Lock Stmt Res Err Env) (refused : Stmt → Bool)
    (error : Err) : Engine Store Write Lock Stmt Res Err Env where
  apply := E.apply
  lockOf := E.lockOf
  needs stmt context := if refused stmt then [] else E.needs stmt context
  exec stmt context := if refused stmt then .fail error else E.exec stmt context
  locked stmt context value writes locks exec := by
    split at exec
    · cases exec
    · rename_i sent
      simpa [sent] using E.locked stmt context value writes locks exec
  free stmt context value writes locks exec := by
    split at exec
    · cases exec
    · exact E.free stmt context value writes locks exec

section
variable {E : Engine Store Write Lock Stmt Res Err Env} {refused : Stmt → Bool} {error : Err}
  {stmt : Stmt} {context : Context Store Lock Env}

@[simp] theorem Engine.applyAll_refusing (store : Store) (writes : List Write) :
    (E.refusing refused error).applyAll store writes = E.applyAll store writes := rfl

@[simp] theorem Engine.needs_refusing (sent : refused stmt = false) :
    (E.refusing refused error).needs stmt context = E.needs stmt context := by
  simp [Engine.refusing, sent]

@[simp] theorem Engine.exec_refusing (sent : refused stmt = false) :
    (E.refusing refused error).exec stmt context = E.exec stmt context := by
  simp [Engine.refusing, sent]

theorem Engine.refused_of_done {value : Res stmt} {writes : List Write} {locks : List Lock}
    (exec : (E.refusing refused error).exec stmt context = .done value writes locks) :
    refused stmt = false := by
  by_contra sent
  have out : refused stmt = true := by simpa using sent
  simp [Engine.refusing, out] at exec

end

/-- The session is not about to send a refused statement. -/
def Session.Accepted (refused : Stmt → Bool) (session : Session Stmt Res Err Msg Env α) : Prop :=
  ∀ stmt ∈ session.stmt?, refused stmt = false

/-- `mirror` is where `w` is, but sessions that were refused in `w` have crashed in `mirror`. -/
structure World.Mirrors (error : Err) (w mirror : World ι Store Write Lock Stmt Res Err Msg Env α) :
    Prop where
  state : mirror.state = w.state
  session : ∀ i, mirror.session i = w.session i ∨
    (w.session i = .raised error ∧ mirror.session i = .crashed)

theorem World.Mirrors.running {error : Err}
    {w mirror : World ι Store Write Lock Stmt Res Err Msg Env α} (mirrors : w.Mirrors error mirror)
    {i : ι} {program : Program Stmt Res Err Msg Env α} (running : w.session i = .running program) :
    mirror.session i = .running program := by
  rcases mirrors.session i with same | ⟨ended, _⟩
  · exact same.trans running
  · cases running.symm.trans ended

theorem mirrors_update [DecidableEq ι] {error : Err}
    {w mirror : World ι Store Write Lock Stmt Res Err Msg Env α} (mirrors : w.Mirrors error mirror)
    {state : State ι Store Write Lock Stmt Res Msg Env} {i : ι}
    {session session' : Session Stmt Res Err Msg Env α}
    (same : session' = session ∨ (session = .raised error ∧ session' = .crashed)) :
    World.Mirrors error (⟨state, Function.update w.session i session⟩ : World ι Store Write Lock
        Stmt Res Err Msg Env α) ⟨state, Function.update mirror.session i session'⟩ where
  state := rfl
  session j := by
    by_cases mine : j = i
    · subst mine
      simpa using same
    · simpa [mine] using mirrors.session j

variable [DecidableEq ι] [DecidableEq Lock] {E : Engine Store Write Lock Stmt Res Err Env}
  {env : Nat → Env} {refused : Stmt → Bool} {error : Err}
  {state : State ι Store Write Lock Stmt Res Msg Env} {i : ι}
  {ok ok' : World ι Store Write Lock Stmt Res Err Msg Env α → ι → Prop}
  {start w mirror : World ι Store Write Lock Stmt Res Err Msg Env α}

/-! ## One step -/

theorem advance_accepted {program : Program Stmt Res Err Msg Env α}
    (accepted : (Session.running program).Accepted refused) :
    advance (E.refusing refused error) env state i program = advance E env state i program := by
  cases program with
  | performs stmt next =>
      have sent : refused stmt = false := accepted stmt rfl
      have same : state.context (E.refusing refused error) env i = state.context E env i := rfl
      simp only [advance, same, Engine.needs_refusing sent, Engine.exec_refusing sent]
  | _ => rfl

theorem advance_refused {stmt : Stmt} {next : Res stmt → Program Stmt Res Err Msg Env α}
    (out : refused stmt = true) :
    advance (E.refusing refused error) env state i (.performs stmt next) =
      some (.raised error, state.rolledBack i) := by
  simp [advance, Engine.refusing, out]

/-! ## Runs -/

theorem mirrors_crash {next : World ι Store Write Lock Stmt Res Err Msg Env α}
    (mirrors : w.Mirrors error mirror)
    (step : w.step (E.refusing refused error) env (.crash i) = some next) :
    ∃ next', next.Mirrors error next' ∧ mirror.step E env (.crash i) = some next' := by
  obtain ⟨state, session⟩ := mirror
  obtain rfl : state = w.state := mirrors.state
  obtain ⟨program, running, rfl⟩ := World.step_crash step
  have alive : session i = .running program := mirrors.running running
  exact ⟨_, mirrors_update mirrors (.inl rfl), by simp [World.step, alive]⟩

/-- A refusal is mirrored by a crash, and every other step by itself. -/
theorem mirrors_run {next : World ι Store Write Lock Stmt Res Err Msg Env α}
    (mirrors : w.Mirrors error mirror)
    (step : w.step (E.refusing refused error) env (.run i) = some next) :
    ∃ next', next.Mirrors error next' ∧
      (((mirror.session i).Accepted refused ∧ mirror.step E env (.run i) = some next') ∨
        mirror.step E env (.crash i) = some next') := by
  obtain ⟨state, session⟩ := mirror
  obtain rfl : state = w.state := mirrors.state
  simp only [World.step] at step
  split at step
  · rename_i program running
    have alive : session i = .running program := mirrors.running running
    obtain ⟨⟨later, after⟩, moved, rfl⟩ := Option.map_eq_some_iff.mp step
    by_cases accepted : (Session.running program).Accepted refused
    · rw [advance_accepted accepted] at moved
      have here : (session i).Accepted refused := alive ▸ accepted
      exact ⟨_, mirrors_update mirrors (.inl rfl), .inl ⟨here, by simp [World.step, alive, moved]⟩⟩
    · obtain ⟨stmt, sends, out⟩ : ∃ stmt ∈ (Session.running program).stmt?,
          refused stmt = true := by simpa [Session.Accepted] using accepted
      cases program with
      | performs other next =>
          cases sends
          rw [advance_refused out] at moved
          cases moved
          exact ⟨_, mirrors_update mirrors (.inr ⟨rfl, rfl⟩), .inr (by simp [World.step, alive])⟩
      | _ => cases sends
  · cases step

/-- Every run with refusals is a run in which nothing is refused and some sessions crash. -/
theorem Reaches.mirrored (reach : Reaches (E.refusing refused error) env ok start w)
    (kept : ∀ w mirror i, World.Mirrors error w mirror → ok w i → ok' mirror i) :
    ∃ mirror, w.Mirrors error mirror ∧
      Reaches E env (fun w i => ok' w i ∧ (w.session i).Accepted refused) start mirror := by
  induction reach with
  | refl => exact ⟨start, ⟨rfl, fun _ => .inl rfl⟩, .refl⟩
  | run i _ meets step ih =>
      obtain ⟨mirror, mirrors, onward⟩ := ih
      obtain ⟨next, same, ⟨accepted, run⟩ | crash⟩ := mirrors_run mirrors step
      · exact ⟨next, same, .run i onward ⟨kept _ _ i mirrors meets, accepted⟩ run⟩
      · exact ⟨next, same, .crash i onward crash⟩
  | crash i _ step ih =>
      obtain ⟨mirror, mirrors, onward⟩ := ih
      obtain ⟨next, same, crash⟩ := mirrors_crash mirrors step
      exact ⟨next, same, .crash i onward crash⟩

theorem accepted_of_logged {store : Store} {session : ι → Session Stmt Res Err Msg Env α}
    (reach : Reaches (E.refusing refused error) env ok ⟨.start store, session⟩ w) {stmt : Stmt}
    {value : Res stmt} {writes : List Write}
    (logged : ⟨i, .performed stmt value writes⟩ ∈ w.state.log) : refused stmt = false := by
  obtain ⟨n, located⟩ := List.mem_iff_getElem?.mp logged
  obtain ⟨context, locks, ran, _⟩ := reach.provenance.answered located
  exact Engine.refused_of_done ran.exec

/-! ## Programs that send nothing refused -/

/-- A program that may perform no refused statement sends none. -/
theorem finish_refusing {P : List (Action Stmt Res Write Msg) → Action Stmt Res Write Msg → Prop}
    {Q : α → List (Action Stmt Res Write Msg) → List Write → Prop}
    {program : Program Stmt Res Err Msg Env α} {past : List (Action Stmt Res Write Msg)}
    {pending : List Write} (obeys : Obeys E env P Q program past pending)
    (forbidden : ∀ past stmt, refused stmt = true → ∃ context value writes locks,
      E.exec stmt context = .done value writes locks ∧ ¬ P past (.performed stmt value writes)) :
    finish (E.refusing refused error) env i program state = finish E env i program state := by
  induction program generalizing state past pending with
  | ret value => rfl
  | raise error => rfl
  | observes next ih => exact ih _ (obeys _)
  | commits next ih => exact ih obeys.2
  | publishes msg next ih => exact ih obeys.2
  | performs stmt next ih =>
      have sent : refused stmt = false := by
        by_contra out
        obtain ⟨context, value, writes, locks, exec, never⟩ :=
          forbidden past stmt (by simpa using out)
        exact never (obeys context value writes locks exec).1
      have same : state.context (E.refusing refused error) env i = state.context E env i := rfl
      simp only [finish, same, Engine.needs_refusing sent, Engine.exec_refusing sent]
      split
      · rfl
      · cases exec : E.exec stmt (state.context E env i) with
        | fail error => rfl
        | done value writes locks => exact ih value (obeys _ value writes locks exec).2

end QueueFlow.Transactions
