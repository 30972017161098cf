import QueueFlow.Transactions.Obedience
import QueueFlow.Transactions.Sequential

/-!
# Two stores that a program cannot tell apart

A session that runs alone ends in the same way over two stores in which all its statements do the
same, and leaves them alike.
-/

namespace QueueFlow.Transactions

variable {ι Store Write Lock Stmt Err Msg Env α β : Type} {Res : Stmt → Type}
  {E : Engine Store Write Lock Stmt Res Err Env} {env : Nat → Env} {i : ι}
  {ok : Stmt → Prop} {R : Store → Store → Prop}

/-- Writes keep stores alike, and these statements do the same over them. -/
structure Blind (E : Engine Store Write Lock Stmt Res Err Env) (R : Store → Store → Prop)
    (ok : Stmt → Prop) : Prop where
  apply : ∀ write {store store' : Store}, R store store' →
    R (E.apply store write) (E.apply store' write)
  exec : ∀ {stmt}, ok stmt → ∀ {context context' : Context Store Lock Env},
    R context.view context'.view → context.busy = context'.busy →
    context.began = context'.began → context.env = context'.env →
      E.exec stmt context = E.exec stmt context'

theorem Blind.applyAll (blind : Blind E R ok) {store store' : Store} (alike : R store store')
    (writes : List Write) : R (E.applyAll store writes) (E.applyAll store' writes) := by
  induction writes generalizing store store' with
  | nil => exact alike
  | cons write writes ih => exact ih (blind.apply write alike)

/-- Session `i` is alone in both states, at the same point of its transaction. -/
structure State.Alike (R : Store → Store → Prop) (i : ι)
    (state state' : State ι Store Write Lock Stmt Res Msg Env) : Prop where
  stores : R state.store state'.store
  tx : state.tx i = state'.tx i
  tick : state.tick = state'.tick
  held : state.HeldBy i
  held' : state'.HeldBy i

variable {state state' : State ι Store Write Lock Stmt Res Msg Env}

theorem State.Alike.view (alike : State.Alike R i state state') (blind : Blind E R ok) :
    R (state.view E i) (state'.view E i) := by
  rw [State.view, State.view, alike.tx]
  exact blind.applyAll alike.stores _

variable [DecidableEq ι]

theorem State.Alike.exec (alike : State.Alike R i state state') (blind : Blind E R ok) {stmt : Stmt}
    (fine : ok stmt) :
    E.exec stmt (state.context E env i) = E.exec stmt (state'.context E env i) := by
  refine blind.exec fine (alike.view blind) ?_ ?_ ?_
  · funext lock
    exact (alike.held.free lock).trans (alike.held'.free lock).symm
  · simp only [State.context, alike.tx, alike.tick]
  · simp only [State.context, alike.tick]

variable [DecidableEq Lock]

def EndsAlike (E : Engine Store Write Lock Stmt Res Err Env) (env : Nat → Env)
    (R : Store → Store → Prop) (i : ι) (program : Program Stmt Res Err Msg Env α)
    (state state' : State ι Store Write Lock Stmt Res Msg Env) : Prop :=
  (finish E env i program state).1 = (finish E env i program state').1 ∧
    R (finish E env i program state).2.store (finish E env i program state').2.store

theorem endsAlike_perform {stmt : Stmt} {next : Res stmt → Program Stmt Res Err Msg Env α}
    (alike : State.Alike R i state state') (blind : Blind E R ok) (fine : ok stmt)
    (rest : ∀ value writes locks, E.exec stmt (state.context E env i) = .done value writes locks →
      ∀ later later', State.Alike R i later later' →
        EndsAlike E env R i (next value) later later') :
    EndsAlike E env R i (.performs stmt next) state state' := by
  have ready {state : State ι Store Write Lock Stmt Res Msg Env} (held : state.HeldBy i) :
      (E.needs stmt (state.context E env i)).any (state.context E env i).busy = false :=
    List.any_eq_false.mpr fun lock _ => by simp [State.context, held.free]
  simp only [EndsAlike, finish, ready alike.held, ready alike.held', ← alike.exec blind fine,
    Bool.false_eq_true, if_false]
  cases exec : E.exec stmt (state.context E env i) with
  | fail error => exact ⟨rfl, alike.stores⟩
  | done value writes locks =>
      exact rest value writes locks exec _ _ ⟨alike.stores,
        by simp [State.performed, alike.tx, alike.tick], congrArg (· + 1) alike.tick,
        alike.held.performed, alike.held'.performed⟩

theorem endsAlike_of_sends {program : Program Stmt Res Err Msg Env α} (blind : Blind E R ok)
    (sends : program.Sends ok) (alike : State.Alike R i state state') :
    EndsAlike E env R i program state state' := by
  induction program generalizing state state' with
  | ret value => exact ⟨rfl, alike.stores⟩
  | raise error => exact ⟨rfl, alike.stores⟩
  | performs stmt next ih =>
      exact endsAlike_perform alike blind sends.1 fun value _ _ _ _ _ later =>
        ih value (sends.2 value) later
  | observes next ih =>
      have later : State.Alike R i state.ticked state'.ticked :=
        ⟨alike.stores, alike.tx, congrArg (· + 1) alike.tick, alike.held, alike.held'⟩
      rw [EndsAlike, finish, finish, ← alike.tick]
      exact ih _ (sends _) later
  | commits next ih =>
      have later : State.Alike R i (state.committed E i) (state'.committed E i) :=
        ⟨alike.view blind, by simp [State.committed, State.closed],
          congrArg (· + 1) alike.tick, alike.held.committed, alike.held'.committed⟩
      exact ih sends later
  | publishes msg next ih =>
      have later : State.Alike R i (state.published i msg) (state'.published i msg) :=
        ⟨alike.stores, alike.tx, congrArg (· + 1) alike.tick, alike.held, alike.held'⟩
      exact ih sends later

end QueueFlow.Transactions
