import QueueFlow.Transactions.Provenance
import QueueFlow.Transactions.Sequential

/-!
# One session alone

In a world where nothing is locked, a session that is served does what it would do over the same
store in a new world, with the clock moved. So a sequential run is a sequence of such runs.
-/

namespace QueueFlow.Transactions

variable {ι Store Write Lock Stmt Err Msg Env α : Type} {Res : Stmt → Type} [DecidableEq ι]
  [DecidableEq Lock] {E : Engine Store Write Lock Stmt Res Err Env} {env env' : Nat → Env} {i : ι}

/-- `state` is where `alone` is, after all that has happened in `base`. -/
structure State.Continues (i : ι) (base state alone : State ι Store Write Lock Stmt Res Msg Env) :
    Prop where
  store : state.store = alone.store
  locks : state.locks = alone.locks
  tx : state.tx i = alone.tx i
  tick : state.tick = base.tick + alone.tick
  log : state.log = base.log ++ alone.log

section
variable {base state alone : State ι Store Write Lock Stmt Res Msg Env}

theorem finish_tick (held : state.HeldBy i) (program : Program Stmt Res Err Msg Env α) :
    state.tick < (finish E env i program state).2.tick := by
  induction program generalizing state with
  | ret value => exact Nat.lt_succ_self _
  | raise error => exact Nat.lt_succ_self _
  | observes next ih =>
      have ticked : state.ticked.HeldBy i := held
      have later := ih (env state.tick) ticked
      exact Nat.lt_of_succ_lt later
  | commits next ih => exact Nat.lt_of_succ_lt (ih held.committed)
  | publishes msg next ih =>
      have published : (state.published i msg).HeldBy i := held
      have later := ih published
      exact Nat.lt_of_succ_lt later
  | performs stmt next ih =>
      rw [finish]
      split
      · rename_i waits
        obtain ⟨lock, _, busy⟩ := List.any_eq_true.mp waits
        rw [show (state.context E env i).busy lock = state.busy i lock from rfl, held.free] at busy
        cases busy
      · split
        · exact Nat.lt_succ_self _
        · exact Nat.lt_of_succ_lt (ih _ held.performed)

omit [DecidableEq Lock] in
theorem State.Continues.context (continues : State.Continues i base state alone)
    (clock : env state.tick = env' alone.tick) :
    state.context E env i = alone.context E env' i := by
  have busy : state.busy i = alone.busy i := by
    funext lock
    simp only [State.busy, continues.locks]
  simp only [State.context, State.view, continues.store, continues.tx, clock, busy]

omit [DecidableEq Lock] in
theorem State.Continues.closed
    (continues : State.Continues i base state alone) {store store' : Store}
    (same : store = store') :
    State.Continues i base (state.closed i store) (alone.closed i store') where
  store := same
  locks := by simp only [State.closed, continues.locks]
  tx := by simp [State.closed]
  tick := by simp only [State.closed, continues.tick, Nat.add_assoc]
  log := continues.log

theorem State.Continues.clock (continues : State.Continues i base state alone)
    (held : state.HeldBy i) {program : Program Stmt Res Err Msg Env α}
    (agree : ∀ tick, base.tick + tick < (finish E env i program state).2.tick →
      env (base.tick + tick) = env' tick) :
    env state.tick = env' alone.tick := by
  rw [continues.tick]
  exact agree alone.tick (continues.tick ▸ finish_tick held program)

/-- Only the ticks that the session uses matter. -/
theorem finish_continues (held : state.HeldBy i) (continues : State.Continues i base state alone)
    (program : Program Stmt Res Err Msg Env α)
    (agree : ∀ tick, base.tick + tick < (finish E env i program state).2.tick →
      env (base.tick + tick) = env' tick) :
    (finish E env i program state).1 = (finish E env' i program alone).1 ∧
      State.Continues i base (finish E env i program state).2
        (finish E env' i program alone).2 := by
  induction program generalizing state alone with
  | ret value => exact ⟨rfl, continues.closed continues.store⟩
  | raise error => exact ⟨rfl, continues.closed continues.store⟩
  | observes next ih =>
      have clock := continues.clock held agree
      simp only [finish, ← clock] at agree ⊢
      have ticked : state.ticked.HeldBy i := held
      have onward : State.Continues i base state.ticked alone.ticked :=
        ⟨continues.store, continues.locks, continues.tx,
          by simp only [State.ticked, continues.tick, Nat.add_assoc], continues.log⟩
      exact ih _ ticked onward agree
  | commits next ih =>
      have view : state.view E i = alone.view E i := by
        simp only [State.view, continues.store, continues.tx]
      have closed := continues.closed view
      have onward : State.Continues i base (state.committed E i) (alone.committed E i) :=
        ⟨closed.store, closed.locks, closed.tx, closed.tick,
          by simp [State.committed, continues.log, continues.tx]⟩
      exact ih held.committed onward agree
  | publishes msg next ih =>
      have published : (state.published i msg).HeldBy i := held
      have onward : State.Continues i base (state.published i msg) (alone.published i msg) :=
        ⟨continues.store, continues.locks, continues.tx,
          by simp only [State.published, continues.tick, Nat.add_assoc],
          by simp only [State.published, continues.log, List.append_assoc]⟩
      exact ih published onward agree
  | performs stmt next ih =>
      have clock := continues.clock held agree
      have context := continues.context (E := E) clock
      have free (lock : Lock) : (state.context E env i).busy lock = false := held.free lock
      have ready :
        (E.needs stmt (state.context E env i)).any (state.context E env i).busy = false :=
        List.any_eq_false.mpr fun lock _ => by simp [free]
      simp only [finish, ← context, ready, Bool.false_eq_true, if_false] at agree ⊢
      cases exec : E.exec stmt (state.context E env i) with
      | fail error => exact ⟨rfl, continues.closed continues.store⟩
      | done value writes locks =>
          simp only [exec] at agree ⊢
          refine ih value held.performed ⟨continues.store, ?_, ?_, ?_, ?_⟩ agree
          · simp only [State.performed, continues.locks]
          · simp [State.performed, continues.tx, clock]
          · simp only [State.performed, continues.tick, Nat.add_assoc]
          · simp only [State.performed, continues.log, List.append_assoc]

end

variable {w : World ι Store Write Lock Stmt Res Err Msg Env α}
  {session : ι → Session Stmt Res Err Msg Env α}

theorem serve_continues {program : Program Stmt Res Err Msg Env α} (quiet : w.state.Quiet)
    (running : w.session i = .running program) (closed : w.state.tx i = .closed)
    (fresh : session i = .running program)
    (agree : ∀ tick, w.state.tick + tick < (w.serve E env i).state.tick →
      env (w.state.tick + tick) = env' tick) :
    (w.serve E env i).session i =
        ((⟨.start w.state.store, session⟩ : World ι Store Write Lock Stmt Res Err Msg Env α).serve
          E env' i).session i ∧
      State.Continues i w.state (w.serve E env i).state
        ((⟨.start w.state.store, session⟩ : World ι Store Write Lock Stmt Res Err Msg Env α).serve
          E env' i).state := by
  have start : State.Continues i w.state w.state (.start w.state.store) :=
    ⟨rfl, funext quiet, closed, rfl, (List.append_nil _).symm⟩
  rw [serve_eq running] at agree ⊢
  rw [serve_eq fresh]
  simpa using finish_continues (quiet.heldBy i) start program agree

/-! ## One session after the other -/

/-- Each session meets `ok` in the world in which it is served. -/
def World.Serves (E : Engine Store Write Lock Stmt Res Err Env) (env : Nat → Env)
    (ok : World ι Store Write Lock Stmt Res Err Msg Env α → ι → Prop) :
    World ι Store Write Lock Stmt Res Err Msg Env α → List ι → Prop
  | _, [] => True
  | w, i :: order => ok w i ∧ World.Serves E env ok (w.serve E env i) order

instance World.decidableServes
    {ok : World ι Store Write Lock Stmt Res Err Msg Env α → ι → Prop} [∀ w i, Decidable (ok w i)] :
    ∀ (w : World ι Store Write Lock Stmt Res Err Msg Env α) (order : List ι),
      Decidable (w.Serves E env ok order)
  | _, [] => inferInstanceAs (Decidable True)
  | w, i :: order =>
      have : Decidable ((w.serve E env i).Serves E env ok order) :=
        World.decidableServes (w.serve E env i) order
      inferInstanceAs (Decidable (ok w i ∧ (w.serve E env i).Serves E env ok order))

structure Between (session : ι → Session Stmt Res Err Msg Env α)
    (w : World ι Store Write Lock Stmt Res Err Msg Env α) : Prop where
  quiet : w.state.Quiet
  sessions : ∀ i, (w.session i = session i ∧ w.state.tx i = .closed) ∨
    ∀ program, w.session i ≠ .running program

omit [DecidableEq ι] [DecidableEq Lock] in
theorem between_start (store : Store) (session : ι → Session Stmt Res Err Msg Env α) :
    Between session
      (⟨.start store, session⟩ : World ι Store Write Lock Stmt Res Err Msg Env α) where
  quiet _ := rfl
  sessions _ := .inl ⟨rfl, rfl⟩

theorem Between.serve (between : Between session w) (i : ι) :
    Between session (w.serve E env i) where
  quiet := serve_quiet between.quiet
  sessions j := by
    by_cases same : j = i
    · subst same
      exact .inr (serve_ends between.quiet)
    · obtain ⟨sessions, tx⟩ : (w.serve E env i).session j = w.session j ∧
          (w.serve E env i).state.tx j = w.state.tx j := serve_other w same
      rw [sessions, tx]
      exact between.sessions j

theorem Between.serveAll (between : Between session w) (order : List ι) :
    Between session (w.serveAll E env order) := by
  induction order generalizing w with
  | nil => exact between
  | cons i order ih => exact ih (between.serve i)

theorem World.Serves.weaken {ok ok' : World ι Store Write Lock Stmt Res Err Msg Env α → ι → Prop}
    {order : List ι} (between : Between session w) (serves : w.Serves E env ok order)
    (weaker : ∀ (w : World ι Store Write Lock Stmt Res Err Msg Env α) i, Between session w →
      ok w i → ok' w i) : w.Serves E env ok' order := by
  induction order generalizing w with
  | nil => trivial
  | cons i order ih => exact ⟨weaker w i between serves.1, ih (between.serve i) serves.2⟩

omit [DecidableEq ι] [DecidableEq Lock] in
theorem Between.fresh (between : Between session w) {program : Program Stmt Res Err Msg Env α}
    (running : w.session i = .running program) :
    session i = .running program ∧ w.state.tx i = .closed := by
  rcases between.sessions i with ⟨same, closed⟩ | ended
  · exact ⟨same ▸ running, closed⟩
  · exact (ended program running).elim

variable (E env) in
/-- A session that is served has ended before, or begins. -/
theorem Between.serve_cases (between : Between session w) (i : ι) :
    w.serve E env i = w ∨ ∃ program, w.session i = .running program ∧
      session i = .running program ∧ w.state.tx i = .closed := by
  cases running : w.session i with
  | running program => exact .inr ⟨program, rfl, between.fresh running⟩
  | _ => exact .inl (by simp [World.serve, running])

theorem serve_waiting {order : List ι} (new : i ∉ order)
    (waiting : ∀ j ∈ i :: order, ∃ program, w.session j = .running program) :
    ∀ j ∈ order, ∃ program, (w.serve E env i).session j = .running program := by
  intro j later
  have other : j ≠ i := fun same => new (same ▸ later)
  obtain ⟨program, running⟩ := waiting j (List.mem_cons_of_mem i later)
  obtain ⟨session, _⟩ : (w.serve E env i).session j = w.session j ∧
      (w.serve E env i).state.tx j = w.state.tx j := serve_other w other
  exact ⟨program, session.trans running⟩

theorem serves_trivial {order : List ι} : w.Serves E env (fun _ _ => True) order := by
  induction order generalizing w with
  | nil => trivial
  | cons i order ih => exact ⟨trivial, ih⟩

theorem World.Serves.imp {ok ok' : World ι Store Write Lock Stmt Res Err Msg Env α → ι → Prop}
    {order : List ι} (serves : w.Serves E env ok order) (distinct : order.Nodup)
    (between : Between session w) (waiting : ∀ i ∈ order, ∃ program, w.session i = .running program)
    (step : ∀ (w : World ι Store Write Lock Stmt Res Err Msg Env α), ∀ i ∈ order, ∀ program,
      Between session w → w.session i = .running program → ok w i → ok' w i) :
    w.Serves E env ok' order := by
  induction order generalizing w with
  | nil => trivial
  | cons i order ih =>
      obtain ⟨new, distinct⟩ := List.nodup_cons.mp distinct
      obtain ⟨program, running⟩ := waiting i List.mem_cons_self
      refine ⟨step w i List.mem_cons_self program between running serves.1,
        ih serves.2 distinct (between.serve i) (serve_waiting new waiting) fun w j later => ?_⟩
      exact step w j (List.mem_cons_of_mem i later)

theorem serves_congr {ok ok' : World ι Store Write Lock Stmt Res Err Msg Env α → ι → Prop}
    {order : List ι} (distinct : order.Nodup) (between : Between session w)
    (waiting : ∀ i ∈ order, ∃ program, w.session i = .running program)
    (same : ∀ (w : World ι Store Write Lock Stmt Res Err Msg Env α), ∀ i ∈ order, ∀ program,
      Between session w → w.session i = .running program → (ok w i ↔ ok' w i)) :
    w.Serves E env ok order ↔ w.Serves E env ok' order := by
  constructor
  · exact fun serves => serves.imp distinct between waiting
      fun w i member program between running => (same w i member program between running).mp
  · exact fun serves => serves.imp distinct between waiting
      fun w i member program between running => (same w i member program between running).mpr

theorem serves_and {ok ok' : World ι Store Write Lock Stmt Res Err Msg Env α → ι → Prop}
    {order : List ι} : w.Serves E env (fun w i => ok w i ∧ ok' w i) order ↔
      w.Serves E env ok order ∧ w.Serves E env ok' order := by
  induction order generalizing w with
  | nil => exact (and_self_iff).symm
  | cons i order ih =>
      rw [World.Serves, World.Serves, World.Serves, ih]
      exact and_and_and_comm

/-- A session ends as it does when it is served. -/
theorem serves_session (P : ι → Session Stmt Res Err Msg Env α → Prop) {order : List ι}
    (distinct : order.Nodup) :
    w.Serves E env (fun w i => P i ((w.serve E env i).session i)) order ↔
      ∀ i ∈ order, P i ((w.serveAll E env order).session i) := by
  induction order generalizing w with
  | nil => exact iff_of_true trivial (by simp)
  | cons i order ih =>
      obtain ⟨new, distinct⟩ := List.nodup_cons.mp distinct
      have kept : (w.serveAll E env (i :: order)).session i = (w.serve E env i).session i :=
        (serveAll_other new).1
      rw [World.Serves, ih distinct, List.forall_mem_cons, kept]
      exact Iff.rfl

theorem serve_tick_le (between : Between session w) :
    w.state.tick ≤ (w.serve E env i).state.tick := by
  cases running : w.session i with
  | running program =>
      rw [serve_eq running]
      exact Nat.le_of_lt (finish_tick (between.quiet.heldBy i) program)
  | _ => simp [World.serve, running]

theorem serveAll_tick_le {order : List ι} (between : Between session w) :
    w.state.tick ≤ (w.serveAll E env order).state.tick := by
  induction order generalizing w with
  | nil => exact Nat.le_refl _
  | cons i order ih => exact Nat.le_trans (serve_tick_le between) (ih (between.serve i))

theorem serves_between {order : List ι} {first last : Nat} (between : Between session w)
    (lower : first ≤ w.state.tick) (upper : (w.serveAll E env order).state.tick ≤ last) :
    w.Serves E env (fun v _ => first ≤ v.state.tick ∧ v.state.tick ≤ last) order := by
  induction order generalizing w with
  | nil => trivial
  | cons i order ih =>
      refine ⟨⟨lower, Nat.le_trans (serveAll_tick_le between) upper⟩, ?_⟩
      exact ih (between.serve i) (Nat.le_trans lower (serve_tick_le between)) upper

theorem serveAll_keeps (Inv : World ι Store Write Lock Stmt Res Err Msg Env α → Prop)
    {ok : World ι Store Write Lock Stmt Res Err Msg Env α → ι → Prop} {order : List ι}
    (between : Between session w) (base : Inv w) (serves : w.Serves E env ok order)
    (step : ∀ (w : World ι Store Write Lock Stmt Res Err Msg Env α) i program, Between session w →
      Inv w → ok w i → w.session i = .running program → session i = .running program →
      w.state.tx i = .closed → Inv (w.serve E env i)) :
    Inv (w.serveAll E env order) := by
  induction order generalizing w with
  | nil => exact base
  | cons i order ih =>
      refine ih (between.serve i) ?_ serves.2
      rcases between.serve_cases E env i with idle | ⟨program, running, fresh, closed⟩
      · rwa [idle]
      · exact step w i program between base serves.1 running fresh closed

/-! ## The start of a transaction -/

theorem Reaches.began_env {ok : World ι Store Write Lock Stmt Res Err Msg Env α → ι → Prop}
    {start : Store} (reach : Reaches E env ok ⟨.start start, session⟩ w) (j : ι) :
    ∃ tick, (w.state.context E env j).began = env tick := by
  have opened : ∀ j, ∀ began ∈ (w.state.tx j).began, ∃ tick, began = env tick := by
    refine reach.moves (motive := fun w => ∀ j, ∀ began ∈ (w.state.tx j).began,
      ∃ tick, began = env tick) (fun j began impossible => by cases impossible) ?_
    intro w i program next state _ known _ moved _ j began member
    have ended (store : Store) (member : began ∈ ((w.state.closed i store).tx j).began) :
        ∃ tick, began = env tick := by
      by_cases same : j = i
      · subst same
        simp [State.closed, Tx.closed] at member
      · exact known j began (by simpa [State.closed, same] using member)
    cases moved with
    | performed ready exec =>
        by_cases same : j = i
        · subst same
          have began_ : (w.state.tx j).began.getD (env w.state.tick) = began := by
            simpa [State.performed] using member
          cases earlier : (w.state.tx j).began with
          | none => exact ⟨w.state.tick, by simpa [earlier] using began_.symm⟩
          | some first =>
              obtain rfl : first = began := by simpa [earlier] using began_
              exact known j first earlier
        · exact known j began (by simpa [State.performed, same] using member)
    | observed next => exact known j began member
    | published msg next => exact known j began member
    | committed next => exact ended (w.state.view E i) member
    | _ => exact ended w.state.store member
  cases began : (w.state.tx j).began with
  | none => exact ⟨w.state.tick, by simp [State.context, began]⟩
  | some first =>
      obtain ⟨tick, rfl⟩ := opened j first began
      exact ⟨tick, by simp [State.context, began]⟩

/-! ## The log of one session -/

theorem owner_eq {start : Store}
    (reach : Reaches E env (fun _ j => j = i) ⟨.start start, session⟩ w) :
    ∀ entry ∈ w.state.log, entry.owner = i := by
  refine reach.moves (motive := fun w => ∀ entry ∈ w.state.log, entry.owner = i)
    (by simp [State.start]) ?_
  intro w j program next state _ owned _ moved mine
  have logged (action : Action Stmt Res Write Msg) (mine : j = i) :
      ∀ entry ∈ w.state.log ++ [⟨j, action⟩], entry.owner = i := by
    intro entry member
    rcases List.mem_append.mp member with earlier | new
    · exact owned entry earlier
    · cases List.mem_singleton.mp new
      exact mine
  cases moved with
  | performed ready exec => exact logged _ (mine (by simp))
  | committed rest => exact logged _ (mine (by simp))
  | published msg rest => exact logged _ (mine (by simp))
  | _ => exact owned

omit [DecidableEq Lock] in
theorem storeAt_uncommitted {log : List (Event ι Stmt Res Write Msg)} {start : Store}
    (owned : ∀ entry ∈ log, entry.owner = i)
    (uncommitted : ∀ writes, .committed writes ∉ pastOf i log) : storeAt E start log = start := by
  have nothing : committedWrites log = [] := by
    rw [List.eq_nil_iff_forall_not_mem]
    intro write member
    obtain ⟨j, writes, logged, _⟩ := mem_committedWrites.mp member
    obtain rfl := owned _ logged
    exact uncommitted writes (mem_pastOf.mpr logged)
  rw [storeAt, nothing, Engine.applyAll_nil]

end QueueFlow.Transactions
