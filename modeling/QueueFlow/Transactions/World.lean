import QueueFlow.Transactions.Engine
import Mathlib.Logic.Function.Basic

namespace QueueFlow.Transactions

/-- A session keeps the answer it ended with; a crash may end it between any two steps. -/
inductive Session (Stmt : Type) (Res : Stmt → Type) (Err Msg Env α : Type) : Type where
  | running (program : Program Stmt Res Err Msg Env α)
  | returned (value : α)
  | raised (error : Err)
  | crashed

def Session.stmt? {Stmt Err Msg Env α : Type} {Res : Stmt → Type} :
    Session Stmt Res Err Msg Env α → Option Stmt
  | .running (.performs stmt _) => some stmt
  | _ => none

def Session.isCommitting {Stmt Err Msg Env α : Type} {Res : Stmt → Type} :
    Session Stmt Res Err Msg Env α → Bool
  | .running (.commits _) => true
  | _ => false

inductive Label (ι : Type) where
  | run (i : ι)
  | crash (i : ι)

structure World (ι Store Write Lock Stmt : Type) (Res : Stmt → Type) (Err Msg Env α : Type) where
  state : State ι Store Write Lock Stmt Res Msg Env
  session : ι → Session Stmt Res Err Msg Env α

section
variable {ι Store Write Lock Stmt Err Msg Env α : Type} {Res : Stmt → Type} [DecidableEq ι]
  [DecidableEq Lock] (E : Engine Store Write Lock Stmt Res Err Env) (env : Nat → Env)

/-- One step of session `i`; a statement that has to wait for a lock gives none. -/
def advance (state : State ι Store Write Lock Stmt Res Msg Env) (i : ι) :
    Program Stmt Res Err Msg Env α →
      Option (Session Stmt Res Err Msg Env α × State ι Store Write Lock Stmt Res Msg Env)
  | .ret value => some (.returned value, state.rolledBack i)
  | .raise error => some (.raised error, state.rolledBack i)
  | .performs stmt next =>
      let context := state.context E env i
      if (E.needs stmt context).any context.busy then none
      else match E.exec stmt context with
        | .fail error => some (.raised error, state.rolledBack i)
        | .done value writes locks =>
            some (.running (next value),
              state.performed env i stmt value writes (E.needs stmt context ++ locks))
  | .observes next => some (.running (next (env state.tick)), state.ticked)
  | .commits next => some (.running next, state.committed E i)
  | .publishes msg next => some (.running next, state.published i msg)

def World.step (w : World ι Store Write Lock Stmt Res Err Msg Env α) :
    Label ι → Option (World ι Store Write Lock Stmt Res Err Msg Env α)
  | .run i =>
      match w.session i with
      | .running program => (advance E env w.state i program).map fun (session, state) =>
          ⟨state, Function.update w.session i session⟩
      | _ => none
  | .crash i =>
      match w.session i with
      | .running _ => some ⟨w.state.rolledBack i, Function.update w.session i .crashed⟩
      | _ => none

/-- A schedule of steps; a step that cannot be taken now is skipped. -/
def World.after : World ι Store Write Lock Stmt Res Err Msg Env α → List (Label ι) →
    World ι Store Write Lock Stmt Res Err Msg Env α
  | w, [] => w
  | w, label :: labels => World.after ((w.step E env label).getD w) labels

/-- What one step of session `i` can do, a crash included. -/
inductive Move (state : State ι Store Write Lock Stmt Res Msg Env) (i : ι) :
    Program Stmt Res Err Msg Env α → Session Stmt Res Err Msg Env α →
      State ι Store Write Lock Stmt Res Msg Env → Prop where
  | returned (value : α) : Move state i (.ret value) (.returned value) (state.rolledBack i)
  | raised (error : Err) : Move state i (.raise error) (.raised error) (state.rolledBack i)
  | performed {stmt : Stmt} {next : Res stmt → Program Stmt Res Err Msg Env α} {value : Res stmt}
      {writes : List Write} {locks : List Lock}
      (ready : ∀ lock ∈ E.needs stmt (state.context E env i), state.busy i lock = false)
      (exec : E.exec stmt (state.context E env i) = .done value writes locks) :
      Move state i (.performs stmt next) (.running (next value))
        (state.performed env i stmt value writes
          (E.needs stmt (state.context E env i) ++ locks))
  | failed {stmt : Stmt} {next : Res stmt → Program Stmt Res Err Msg Env α} {error : Err}
      (exec : E.exec stmt (state.context E env i) = .fail error) :
      Move state i (.performs stmt next) (.raised error) (state.rolledBack i)
  | observed (next : Env → Program Stmt Res Err Msg Env α) :
      Move state i (.observes next) (.running (next (env state.tick))) state.ticked
  | committed (next : Program Stmt Res Err Msg Env α) :
      Move state i (.commits next) (.running next) (state.committed E i)
  | published (msg : Msg) (next : Program Stmt Res Err Msg Env α) :
      Move state i (.publishes msg next) (.running next) (state.published i msg)
  | crashed (program : Program Stmt Res Err Msg Env α) :
      Move state i program .crashed (state.rolledBack i)

/-- The worlds reached from `start` by runs whose steps, crashes apart, all satisfy `ok`. -/
inductive Reaches (ok : World ι Store Write Lock Stmt Res Err Msg Env α → ι → Prop)
    (start : World ι Store Write Lock Stmt Res Err Msg Env α) :
    World ι Store Write Lock Stmt Res Err Msg Env α → Prop where
  | refl : Reaches ok start start
  | run {w next : World ι Store Write Lock Stmt Res Err Msg Env α} (i : ι)
      (reach : Reaches ok start w) (meets : ok w i) (step : w.step E env (.run i) = some next) :
      Reaches ok start next
  | crash {w next : World ι Store Write Lock Stmt Res Err Msg Env α} (i : ι)
      (reach : Reaches ok start w) (step : w.step E env (.crash i) = some next) :
      Reaches ok start next

variable {E env}

theorem move_of_advance {state next : State ι Store Write Lock Stmt Res Msg Env} {i : ι}
    {program : Program Stmt Res Err Msg Env α} {session : Session Stmt Res Err Msg Env α}
    (h : advance E env state i program = some (session, next)) :
    Move E env state i program session next := by
  cases program with
  | performs stmt rest =>
      simp only [advance] at h
      split at h
      · cases h
      · rename_i waits
        have ready : ∀ lock ∈ E.needs stmt (state.context E env i), state.busy i lock = false := by
          intro lock member
          by_contra busy
          exact waits (List.any_eq_true.mpr ⟨lock, member, by simpa [State.context] using busy⟩)
        split at h
        · rename_i exec
          cases h
          exact .failed exec
        · rename_i exec
          cases h
          exact .performed ready exec
  | _ => cases h; constructor

theorem World.step_run {w next : World ι Store Write Lock Stmt Res Err Msg Env α} {i : ι}
    (step : w.step E env (.run i) = some next) :
    ∃ program session state, w.session i = .running program ∧
      Move E env w.state i program session state ∧
      next = ⟨state, Function.update w.session i session⟩ := by
  simp only [World.step] at step
  split at step
  · rename_i program running
    obtain ⟨⟨session, state⟩, moved, rfl⟩ := Option.map_eq_some_iff.mp step
    exact ⟨program, session, state, running, move_of_advance moved, rfl⟩
  · cases step

theorem World.step_crash {w next : World ι Store Write Lock Stmt Res Err Msg Env α} {i : ι}
    (step : w.step E env (.crash i) = some next) :
    ∃ program, w.session i = .running program ∧
      next = ⟨w.state.rolledBack i, Function.update w.session i .crashed⟩ := by
  simp only [World.step] at step
  split at step
  · rename_i program running
    cases step
    exact ⟨program, running, rfl⟩
  · cases step

variable {ok : World ι Store Write Lock Stmt Res Err Msg Env α → ι → Prop}
  {start w : World ι Store Write Lock Stmt Res Err Msg Env α}

/-- Induction over a run, one case per step taken. -/
theorem Reaches.moves {motive : World ι Store Write Lock Stmt Res Err Msg Env α → Prop}
    (reach : Reaches E env ok start w) (base : motive start)
    (move : ∀ w i program session state, Reaches E env ok start w → motive w →
      w.session i = .running program → Move E env w.state i program session state →
      (session ≠ .crashed → ok w i) → motive ⟨state, Function.update w.session i session⟩) :
    motive w := by
  induction reach with
  | refl => exact base
  | run i reach meets step ih =>
      obtain ⟨program, session, state, running, moved, rfl⟩ := World.step_run step
      exact move _ i program session state reach ih running moved fun _ => meets
  | crash i reach step ih =>
      obtain ⟨program, running, rfl⟩ := World.step_crash step
      exact move _ i program _ _ reach ih running (.crashed program) fun alive => (alive rfl).elim

theorem Reaches.trans {middle : World ι Store Write Lock Stmt Res Err Msg Env α}
    (first : Reaches E env ok start middle) (last : Reaches E env ok middle w) :
    Reaches E env ok start w := by
  induction last with
  | refl => exact first
  | run i _ meets step ih => exact .run i ih meets step
  | crash i _ step ih => exact .crash i ih step

theorem Reaches.weaken {weaker : World ι Store Write Lock Stmt Res Err Msg Env α → ι → Prop}
    (reach : Reaches E env ok start w) (implies : ∀ w i, ok w i → weaker w i) :
    Reaches E env weaker start w := by
  induction reach with
  | refl => exact .refl
  | run i _ meets step ih => exact .run i ih (implies _ _ meets) step
  | crash i _ step ih => exact .crash i ih step

abbrev Reachable (E : Engine Store Write Lock Stmt Res Err Env) (env : Nat → Env)
    (start w : World ι Store Write Lock Stmt Res Err Msg Env α) : Prop :=
  Reaches E env (fun _ _ => True) start w

theorem Reaches.reachable (reach : Reaches E env ok start w) : Reachable E env start w :=
  reach.weaken fun _ _ _ => trivial

def World.meets (E : Engine Store Write Lock Stmt Res Err Env) (env : Nat → Env)
    (ok : World ι Store Write Lock Stmt Res Err Msg Env α → ι → Prop)
    [∀ w i, Decidable (ok w i)] :
    World ι Store Write Lock Stmt Res Err Msg Env α → List (Label ι) → Bool
  | _, [] => true
  | w, label :: labels =>
      (match label with
        | .run i => decide (ok w i)
        | .crash _ => true) && World.meets E env ok ((w.step E env label).getD w) labels

theorem reaches_after [∀ w i, Decidable (ok w i)] {labels : List (Label ι)}
    (meets : start.meets E env ok labels = true) :
    Reaches E env ok start (start.after E env labels) := by
  suffices ∀ w : World ι Store Write Lock Stmt Res Err Msg Env α, Reaches E env ok start w →
      w.meets E env ok labels = true → Reaches E env ok start (w.after E env labels) from
    this start .refl meets
  clear meets
  induction labels with
  | nil => exact fun w reach _ => reach
  | cons label labels ih =>
      intro w reach meets
      obtain ⟨here, later⟩ := Bool.and_eq_true_iff.mp meets
      refine ih _ ?_ later
      cases taken : w.step E env label with
      | none => exact reach
      | some next =>
          cases label with
          | run i => exact .run i reach (of_decide_eq_true here) taken
          | crash i => exact .crash i reach taken

theorem reachable_after (labels : List (Label ι)) :
    Reachable E env start (start.after E env labels) := by
  refine reaches_after ?_
  suffices ∀ w : World ι Store Write Lock Stmt Res Err Msg Env α,
      w.meets E env (fun _ _ => True) labels = true from this start
  induction labels with
  | nil => exact fun w => rfl
  | cons label labels ih =>
      intro w
      cases label with
      | run i => simpa [World.meets] using ih _
      | crash i => simpa [World.meets] using ih _

end

end QueueFlow.Transactions
