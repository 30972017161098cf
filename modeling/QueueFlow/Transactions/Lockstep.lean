import QueueFlow.Transactions.Ends
import Mathlib.Data.List.Forall2

/-!
# Two programs side by side

`Together` says that two programs that run alone end in the same way, up to a relation on stores and
one on writes: one rule for each kind of step. They may be at different ticks, as long as the
surroundings that are still ahead of them are the same.
-/

namespace QueueFlow.Transactions

variable {ι Store Write Lock Stmt Err Msg Env α β : Type} {Res : Stmt → Type}
  {E : Engine Store Write Lock Stmt Res Err Env} {env env' : Nat → Env} {i : ι}
  {R : Store → Store → Prop} {W : Write → Write → Prop}

def batches (log : List (Event ι Stmt Res Write Msg)) : List (List Write) :=
  log.filterMap fun event => match event.action with
    | .committed writes => some writes
    | _ => none

@[simp] theorem batches_append (first last : List (Event ι Stmt Res Write Msg)) :
    batches (first ++ last) = batches first ++ batches last := List.filterMap_append

@[simp] theorem batches_committed (i : ι) (writes : List Write) :
    batches [(⟨i, .committed writes⟩ : Event ι Stmt Res Write Msg)] = [writes] := rfl

@[simp] theorem batches_performed (i : ι) (stmt : Stmt) (value : Res stmt) (writes : List Write) :
    batches [(⟨i, .performed stmt value writes⟩ : Event ι Stmt Res Write Msg)] = [] := rfl

@[simp] theorem batches_published (i : ι) (msg : Msg) :
    batches [(⟨i, .published msg⟩ : Event ι Stmt Res Write Msg)] = [] := rfl

structure SameLog (W : Write → Write → Prop) (log log' : List (Event ι Stmt Res Write Msg)) :
    Prop where
  batches : List.Forall₂ (List.Forall₂ W) (batches log) (batches log')
  messages : messages log = messages log'

/-- Session `i` is alone in both states, over these stores and with these writes pending, and has
the same surroundings ahead. -/
structure State.Abreast (env env' : Nat → Env) (W : Write → Write → Prop) (i : ι)
    (store : Store) (writes : List Write) (store' : Store) (writes' : List Write)
    (state state' : State ι Store Write Lock Stmt Res Msg Env) : Prop where
  solo : state.Solo i store writes state.tick
  solo' : state'.Solo i store' writes' state'.tick
  began : (state.tx i).began = (state'.tx i).began
  ahead : ∀ n, env (state.tick + n) = env' (state'.tick + n)
  logs : SameLog W state.log state'.log

structure SameEnd (R : Store → Store → Prop) (W : Write → Write → Prop)
    (ended ended' : Session Stmt Res Err Msg Env α × State ι Store Write Lock Stmt Res Msg Env) :
    Prop where
  session : ended.1 = ended'.1
  stores : R ended.2.store ended'.2.store
  logs : SameLog W ended.2.log ended'.2.log

section
variable {store store' : Store} {writes writes' : List Write}
  {state state' : State ι Store Write Lock Stmt Res Msg Env}

theorem State.Abreast.env_eq
    (abreast : State.Abreast env env' W i store writes store' writes' state state') :
    env state.tick = env' state'.tick := by
  simpa using abreast.ahead 0

theorem State.Abreast.later
    (abreast : State.Abreast env env' W i store writes store' writes' state state') (n : Nat) :
    env (state.tick + 1 + n) = env' (state'.tick + 1 + n) := by
  simpa [Nat.add_assoc] using abreast.ahead (1 + n)

theorem SameLog.performed {log log' : List (Event ι Stmt Res Write Msg)} {stmt stmt' : Stmt}
    {value : Res stmt} {value' : Res stmt'} {new new' : List Write} (logs : SameLog W log log') :
    SameLog W (log ++ [⟨i, .performed stmt value new⟩])
      (log' ++ [⟨i, .performed stmt' value' new'⟩]) :=
  ⟨by simpa using logs.batches, by simp [logs.messages]⟩

variable [DecidableEq ι] [DecidableEq Lock]

def Together (E : Engine Store Write Lock Stmt Res Err Env) (env env' : Nat → Env)
    (R : Store → Store → Prop) (W : Write → Write → Prop) (i : ι)
    (program program' : Program Stmt Res Err Msg Env α) (store : Store) (writes : List Write)
    (store' : Store) (writes' : List Write) : Prop :=
  ∀ state state' : State ι Store Write Lock Stmt Res Msg Env,
    State.Abreast env env' W i store writes store' writes' state state' →
      SameEnd R W (finish E env i program state) (finish E env' i program' state')

theorem together_ret {value : α} (stores : R store store') :
    Together E env env' R W i (.ret value : Program Stmt Res Err Msg Env α) (.ret value) store
      writes store' writes' :=
  fun _ _ abreast => ⟨rfl, abreast.solo.store ▸ abreast.solo'.store ▸ stores, abreast.logs⟩

theorem together_observe {next next' : Env → Program Stmt Res Err Msg Env α}
    (rest : ∀ surroundings, Together E env env' R W i (next surroundings) (next' surroundings)
      store writes store' writes') :
    Together E env env' R W i (.observes next) (.observes next') store writes store' writes' := by
  intro state state' abreast
  rw [finish, finish, ← abreast.env_eq]
  exact rest _ _ _ ⟨⟨abreast.solo.store, abreast.solo.writes, rfl, abreast.solo.held⟩,
    ⟨abreast.solo'.store, abreast.solo'.writes, rfl, abreast.solo'.held⟩, abreast.began,
    abreast.later, abreast.logs⟩

theorem together_commit {program program' : Program Stmt Res Err Msg Env α}
    (same : List.Forall₂ W writes writes')
    (rest : Together E env env' R W i program program' (E.applyAll store writes) []
      (E.applyAll store' writes') []) :
    Together E env env' R W i (.commits program) (.commits program') store writes store'
      writes' := by
  intro state state' abreast
  have closed {store : Store} {writes : List Write}
      {state : State ι Store Write Lock Stmt Res Msg Env}
      (solo : state.Solo i store writes state.tick) :
      (state.committed E i).Solo i (E.applyAll store writes) [] (state.tick + 1) :=
    ⟨by simp [State.committed, State.closed, State.view, solo.writes, solo.store],
      by simp [State.committed, State.closed, Tx.closed], rfl, solo.held.committed⟩
  refine rest _ _ ⟨closed abreast.solo, closed abreast.solo', ?_, abreast.later, ?_, ?_⟩
  · simp [State.committed, State.closed, Tx.closed]
  · simp only [State.committed, batches_append, batches_committed, abreast.solo.writes,
      abreast.solo'.writes]
    exact List.rel_append abreast.logs.batches (.cons same .nil)
  · simp [State.committed, abreast.logs.messages]

theorem together_publish {msg : Msg} {program program' : Program Stmt Res Err Msg Env α}
    (rest : Together E env env' R W i program program' store writes store' writes') :
    Together E env env' R W i (.publishes msg program) (.publishes msg program') store writes store'
      writes' := by
  intro state state' abreast
  refine rest _ _ ⟨⟨abreast.solo.store, abreast.solo.writes, rfl, abreast.solo.held⟩,
    ⟨abreast.solo'.store, abreast.solo'.writes, rfl, abreast.solo'.held⟩, abreast.began,
    abreast.later, ?_, ?_⟩
  · simpa [State.published] using abreast.logs.batches
  · simp [State.published, abreast.logs.messages]

structure Context.Abreast (view view' : Store) (context context' : Context Store Lock Env) :
    Prop where
  view : context.view = view
  view' : context'.view = view'
  began : context.began = context'.began
  env : context.env = context'.env
  free : ∀ lock, context.busy lock = false
  free' : ∀ lock, context'.busy lock = false

theorem together_perform {stmt stmt' : Stmt} {next : Res stmt → Program Stmt Res Err Msg Env α}
    {next' : Res stmt' → Program Stmt Res Err Msg Env α}
    (rest : ∀ context context',
      Context.Abreast (E.applyAll store writes) (E.applyAll store' writes') context context' →
      (R store store' ∧ ∃ error, E.exec stmt context = .fail error ∧
        E.exec stmt' context' = .fail error) ∨
      ∃ value new locks value' new' locks', E.exec stmt context = .done value new locks ∧
        E.exec stmt' context' = .done value' new' locks' ∧
        Together E env env' R W i (next value) (next' value') store (writes ++ new) store'
          (writes' ++ new')) :
    Together E env env' R W i (.performs stmt next) (.performs stmt' next') store writes store'
      writes' := by
  intro state state' abreast
  have ready {stmt : Stmt} {env : Nat → Env}
      {state : State ι Store Write Lock Stmt Res Msg Env} (held : state.HeldBy i) :
      (E.needs stmt (state.context E env i)).any (state.context E env i).busy = false :=
    List.any_eq_false.mpr fun lock _ => by simp [State.context, held.free]
  have same : Context.Abreast (E.applyAll store writes) (E.applyAll store' writes')
      (state.context E env i) (state'.context E env' i) :=
    ⟨by simp [State.context, State.view, abreast.solo.writes, abreast.solo.store],
      by simp [State.context, State.view, abreast.solo'.writes, abreast.solo'.store],
      by simp only [State.context, abreast.began, abreast.env_eq], abreast.env_eq,
      abreast.solo.held.free, abreast.solo'.held.free⟩
  simp only [finish, ready abreast.solo.held, ready abreast.solo'.held, Bool.false_eq_true,
    if_false]
  rcases rest _ _ same with ⟨stores, error, failed, failed'⟩ |
    ⟨value, new, locks, value', new', locks', done, done', onward⟩
  · rw [failed, failed']
    exact ⟨rfl, abreast.solo.store ▸ abreast.solo'.store ▸ stores, abreast.logs⟩
  · rw [done, done']
    refine onward _ _ ⟨⟨abreast.solo.store, ?_, rfl, abreast.solo.held.performed⟩,
      ⟨abreast.solo'.store, ?_, rfl, abreast.solo'.held.performed⟩, ?_, abreast.later,
      abreast.logs.performed⟩
    · simp [State.performed, abreast.solo.writes]
    · simp [State.performed, abreast.solo'.writes]
    · simp [State.performed, abreast.began, abreast.env_eq]

end

end QueueFlow.Transactions
