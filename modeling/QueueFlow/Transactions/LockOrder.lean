import QueueFlow.Transactions.World
import Mathlib.Data.Set.Finite.Lemmas
import Mathlib.Order.Defs.LinearOrder

/-!
# Locks in order

Programs that take their locks in the order of a rank, and why no circle of sessions waits then.
Locks that nobody has to wait for need no rank: only the `contended` ones count.
-/

namespace QueueFlow.Transactions

variable {ι Store Write Lock Stmt Err Msg Env α β ρ : Type} {Res : Stmt → Type}
  [LinearOrder ρ] {E : Engine Store Write Lock Stmt Res Err Env}
  {env : Nat → Env} {contended : Lock → Prop} {rank : Lock → ρ}

/-- Along every answer the database could give, a contended lock that a statement waits for is held
already or ranks above every contended lock that is `held`. -/
def Program.Ascends (E : Engine Store Write Lock Stmt Res Err Env) (contended : Lock → Prop)
    (rank : Lock → ρ) : Program Stmt Res Err Msg Env α → Set Lock → Prop
  | .ret _, _ => True
  | .raise _, _ => True
  | .performs stmt next, held => ∀ context,
      (∀ lock ∈ E.needs stmt context, contended lock →
        lock ∈ held ∨ ∀ other ∈ held, rank other < rank lock) ∧
      ∀ value writes locks, E.exec stmt context = .done value writes locks →
        (next value).Ascends E contended rank
          (held ∪ {lock | contended lock ∧ lock ∈ E.needs stmt context ++ locks})
  | .observes next, held => ∀ env, (next env).Ascends E contended rank held
  | .commits next, _ => next.Ascends E contended rank ∅
  | .publishes _ next, held => next.Ascends E contended rank held

theorem ascends_mapRaise {f : Err → Err} {program : Program Stmt Res Err Msg Env α}
    {rest : α → Program Stmt Res Err Msg Env β} {held : Set Lock} :
    ((program.mapRaise f).bind rest).Ascends E contended rank held ↔
      (program.bind rest).Ascends E contended rank held := by
  induction program generalizing held with
  | ret value => rfl
  | raise error => rfl
  | performs stmt next ih => simp only [Program.mapRaise, Program.bind, Program.Ascends, ih]
  | observes next ih => simp only [Program.mapRaise, Program.bind, Program.Ascends, ih]
  | commits next ih => simp only [Program.mapRaise, Program.bind, Program.Ascends, ih]
  | publishes msg next ih => simp only [Program.mapRaise, Program.bind, Program.Ascends, ih]

/-! ## What a run keeps -/

def State.heldBy (contended : Lock → Prop) (state : State ι Store Write Lock Stmt Res Msg Env)
    (i : ι) : Set Lock :=
  {lock | contended lock ∧ state.locks lock = some i}

/-- Only running sessions hold locks, finitely many, and each of them goes on in order. -/
structure World.InOrder (E : Engine Store Write Lock Stmt Res Err Env) (contended : Lock → Prop)
    (rank : Lock → ρ) (w : World ι Store Write Lock Stmt Res Err Msg Env α) : Prop where
  holders : ∀ lock i, w.state.locks lock = some i → ∃ program, w.session i = .running program
  ascends : ∀ i program, w.session i = .running program →
    program.Ascends E contended rank (w.state.heldBy contended i)
  finite : {lock | w.state.locks lock ≠ none}.Finite

section
variable {state : State ι Store Write Lock Stmt Res Msg Env} {i j : ι} {taken : List Lock}

variable [DecidableEq Lock] in
theorem acquire_eq_some {lock : Lock} : State.acquire i taken state.locks lock = some j ↔
    (lock ∈ taken ∧ i = j) ∨ (lock ∉ taken ∧ state.locks lock = some j) := by
  unfold State.acquire
  split
  · rename_i member
    simp [member]
  · rename_i other
    simp [other]

variable [DecidableEq ι]

theorem release_eq_some {lock : Lock} : State.release i state.locks lock = some j ↔
    state.locks lock = some j ∧ i ≠ j := by
  unfold State.release
  split
  · rename_i mine
    simp [mine]
  · rename_i other
    constructor
    · intro held
      refine ⟨held, ?_⟩
      rintro rfl
      exact other held
    · exact fun held => held.1

theorem not_busy_of_held {lock : Lock} (free : state.busy i lock = false)
    (held : state.locks lock = some j) : j = i := by
  simpa [State.busy, held] using free

theorem heldBy_closed_self (store : Store) :
    (state.closed i store).heldBy contended i = ∅ := by
  ext lock
  simp [State.heldBy, State.closed, release_eq_some]

theorem heldBy_closed_other (store : Store) (other : j ≠ i) :
    (state.closed i store).heldBy contended j = state.heldBy contended j := by
  ext lock
  simp only [State.heldBy, State.closed, release_eq_some, Set.mem_ofPred_eq]
  exact ⟨fun held => ⟨held.1, held.2.1⟩, fun held => ⟨held.1, held.2, other.symm⟩⟩

variable [DecidableEq Lock]

theorem heldBy_performed_self {stmt : Stmt} {value : Res stmt} {writes : List Write} :
    (state.performed env i stmt value writes taken).heldBy contended i =
      state.heldBy contended i ∪ {lock | contended lock ∧ lock ∈ taken} := by
  ext lock
  simp only [State.heldBy, State.performed, acquire_eq_some, Set.mem_ofPred_eq, Set.mem_union]
  by_cases member : lock ∈ taken
  · simp only [member, not_true_eq_false, false_and, or_false, and_true]
    exact ⟨Or.inr, fun either => either.elim And.left id⟩
  · simp [member]

theorem heldBy_performed_other {stmt : Stmt} {value : Res stmt} {writes : List Write}
    (free : ∀ lock ∈ taken, state.busy i lock = false) (other : j ≠ i) :
    (state.performed env i stmt value writes taken).heldBy contended j =
      state.heldBy contended j := by
  ext lock
  simp only [State.heldBy, State.performed, acquire_eq_some, Set.mem_ofPred_eq]
  by_cases member : lock ∈ taken
  · have unheld : state.locks lock ≠ some j := fun held =>
      other (not_busy_of_held (free lock member) held)
    simp [member, unheld, other.symm]
  · simp [member]

end

variable [DecidableEq ι] in
/-- The locks of a statement that went through were free. -/
theorem free_of_done {state : State ι Store Write Lock Stmt Res Msg Env} {i : ι} {stmt : Stmt}
    {value : Res stmt} {writes : List Write} {locks : List Lock}
    (ready : ∀ lock ∈ E.needs stmt (state.context E env i), state.busy i lock = false)
    (exec : E.exec stmt (state.context E env i) = .done value writes locks) :
    ∀ lock ∈ E.needs stmt (state.context E env i) ++ locks, state.busy i lock = false := by
  intro lock member
  rcases List.mem_append.mp member with needed | taken
  · exact ready lock needed
  · exact E.free _ _ _ _ _ exec lock taken

section
variable [DecidableEq ι] [DecidableEq Lock]
  {start w : World ι Store Write Lock Stmt Res Err Msg Env α}
  {state : State ι Store Write Lock Stmt Res Msg Env} {i : ι}
  {program : Program Stmt Res Err Msg Env α} {session : Session Stmt Res Err Msg Env α}

/-- A step leaves what the other sessions hold, and keeps the locks finite in number. -/
theorem heldBy_move (move : Move E env w.state i program session state) {j : ι} (other : j ≠ i) :
    state.heldBy contended j = w.state.heldBy contended j := by
  cases move with
  | performed ready exec => exact heldBy_performed_other (free_of_done ready exec) other
  | observed next => rfl
  | published msg next => rfl
  | committed next => exact heldBy_closed_other (w.state.view E i) other
  | _ => exact heldBy_closed_other w.state.store other

theorem finite_move (move : Move E env w.state i program session state)
    (finite : {lock | w.state.locks lock ≠ none}.Finite) :
    {lock | state.locks lock ≠ none}.Finite := by
  have released : {lock | State.release i w.state.locks lock ≠ none}.Finite := by
    refine finite.subset fun lock held => ?_
    simp only [State.release, Set.mem_ofPred_eq] at held ⊢
    split at held
    · exact (held rfl).elim
    · exact held
  cases move with
  | @performed stmt _ _ _ locks ready exec =>
      refine (finite.union
        (E.needs stmt (w.state.context E env i) ++ locks).finite_toSet).subset fun lock held => ?_
      simp only [State.performed, State.acquire, Set.mem_ofPred_eq] at held
      split at held
      · rename_i member
        exact .inr member
      · exact .inl held
  | observed next => exact finite
  | published msg next => exact finite
  | _ => exact released

theorem holders_move (move : Move E env w.state i program session state)
    (running : w.session i = .running program)
    (holders : ∀ lock j, w.state.locks lock = some j → ∃ program, w.session j = .running program)
    (lock : Lock) (j : ι) (held : state.locks lock = some j) :
    ∃ program, Function.update w.session i session j = .running program := by
  by_cases mine : j = i
  · subst mine
    rw [Function.update_self]
    cases move with
    | performed ready exec => exact ⟨_, rfl⟩
    | observed next => exact ⟨_, rfl⟩
    | published msg next => exact ⟨_, rfl⟩
    | _ => exact ((release_eq_some.mp held).2 rfl).elim
  · rw [Function.update_of_ne mine]
    have before : lock ∈ w.state.heldBy (fun _ => True) j := by
      rw [← heldBy_move move mine]
      exact ⟨trivial, held⟩
    exact holders lock j before.2

theorem World.InOrder.move (inOrder : w.InOrder E contended rank)
    (running : w.session i = .running program)
    (move : Move E env w.state i program session state) :
    (⟨state, Function.update w.session i session⟩ :
      World ι Store Write Lock Stmt Res Err Msg Env α).InOrder E contended rank where
  holders := holders_move move running inOrder.holders
  finite := finite_move move inOrder.finite
  ascends := by
    intro j rest (resumed : Function.update w.session i session j = .running rest)
    show rest.Ascends E contended rank (state.heldBy contended j)
    by_cases mine : j = i
    · subst mine
      rw [Function.update_self] at resumed
      subst resumed
      have onward := inOrder.ascends j program running
      cases move with
      | performed ready exec =>
          rw [heldBy_performed_self]
          exact (onward _).2 _ _ _ exec
      | observed next => exact onward _
      | committed next =>
          have released : (w.state.committed E j).heldBy contended j = ∅ :=
            heldBy_closed_self (w.state.view E j)
          rw [released]
          exact onward
      | published msg next => exact onward
    · rw [Function.update_of_ne mine] at resumed
      rw [heldBy_move move mine]
      exact inOrder.ascends j rest resumed

theorem Reaches.inOrder {ok : World ι Store Write Lock Stmt Res Err Msg Env α → ι → Prop}
    (reach : Reaches E env ok start w) (begins : start.InOrder E contended rank) :
    w.InOrder E contended rank := by
  refine reach.moves begins fun w i program session state _ ih running moved _ => ?_
  exact ih.move running moved

/-! ## Progress -/

/-- The session is about to send a statement that has to wait for this lock. -/
def World.Awaits (E : Engine Store Write Lock Stmt Res Err Env) (env : Nat → Env)
    (w : World ι Store Write Lock Stmt Res Err Msg Env α) (i : ι) (lock : Lock) : Prop :=
  ∃ stmt next, w.session i = .running (.performs stmt next) ∧
    lock ∈ E.needs stmt (w.state.context E env i) ∧ w.state.busy i lock = true

theorem exists_awaits (running : w.session i = .running program)
    (stuck : w.step E env (.run i) = none) : ∃ lock, w.Awaits E env i lock := by
  simp only [World.step, running, Option.map_eq_none_iff] at stuck
  cases program with
  | performs stmt next =>
      simp only [advance] at stuck
      split at stuck
      · rename_i waits
        obtain ⟨lock, needed, busy⟩ := List.any_eq_true.mp waits
        exact ⟨lock, stmt, next, running, needed, busy⟩
      · split at stuck <;> cases stuck
  | _ => cases stuck

/-- As long as somebody runs, somebody can take a step. -/
theorem World.InOrder.progress (inOrder : w.InOrder E contended rank)
    (contends : ∀ i lock, w.Awaits E env i lock → contended lock)
    (running : w.session i = .running program) :
    ∃ j next, w.step E env (.run j) = some next := by
  by_contra! stuck
  have waits (j : ι) {program : Program Stmt Res Err Msg Env α}
      (running : w.session j = .running program) : ∃ lock, w.Awaits E env j lock :=
    exists_awaits running (Option.eq_none_iff_forall_ne_some.mpr (stuck j))
  let awaited : Set Lock := {lock | ∃ j, w.Awaits E env j lock}
  have finite : awaited.Finite := by
    refine inOrder.finite.subset ?_
    rintro lock ⟨j, stmt, next, _, _, busy⟩ (unheld : w.state.locks lock = none)
    simp [State.busy, unheld] at busy
  have nonempty : awaited.Nonempty := (waits i running).imp fun lock awaits => ⟨i, awaits⟩
  -- whoever holds the highest of these locks waits for a higher one
  obtain ⟨top, ⟨j, awaits⟩, highest⟩ := awaited.exists_max_image rank finite nonempty
  obtain ⟨holder, held⟩ : ∃ holder, w.state.locks top = some holder := by
    obtain ⟨stmt, next, _, _, busy⟩ := awaits
    refine Option.ne_none_iff_exists'.mp fun unheld => ?_
    simp [State.busy, unheld] at busy
  obtain ⟨rest, resumed⟩ := inOrder.holders top holder held
  obtain ⟨lock, onward⟩ := waits holder resumed
  obtain ⟨stmt, next, sends, needed, busy⟩ := onward
  have contended := contends holder lock ⟨stmt, next, sends, needed, busy⟩
  rcases (inOrder.ascends holder _ sends _).1 lock needed contended with mine | above
  · simp [State.busy, mine.2] at busy
  · have higher : rank top < rank lock := above top ⟨contends j top awaits, held⟩
    have bounded : rank lock ≤ rank top := highest lock ⟨holder, stmt, next, sends, needed, busy⟩
    exact absurd higher (not_lt.mpr bounded)

end

end QueueFlow.Transactions
