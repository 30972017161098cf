import QueueFlow.Transactions.Log
import QueueFlow.Transactions.World

/-!
# Provenance

The log explains the run: the store is the replay of the committed writes, every answer was
computed from the view that the log determines at that point, every commit consists of the writes
performed before it, and every lock was taken by a logged statement.
-/

namespace QueueFlow.Transactions

variable {ι Store Write Lock Stmt Err Msg Env α : Type} {Res : Stmt → Type} [DecidableEq ι]
  (E : Engine Store Write Lock Stmt Res Err Env) (env : Nat → Env)
  (start : Store)

def storeAt (log : List (Event ι Stmt Res Write Msg)) : Store :=
  E.applyAll start (committedWrites log)

def viewAt (i : ι) (log : List (Event ι Stmt Res Write Msg)) : Store :=
  E.applyAll (storeAt E start log) (pendingOf (pastOf i log))

structure Ran (i : ι) (before : List (Event ι Stmt Res Write Msg)) (stmt : Stmt) (value : Res stmt)
    (writes : List Write) (context : Context Store Lock Env) (locks : List Lock) : Prop where
  view : context.view = viewAt E start i before
  clock : ∃ tick, context.env = env tick
  exec : E.exec stmt context = .done value writes locks

def Took (i : ι) (lock : Lock) (log : List (Event ι Stmt Res Write Msg)) : Prop :=
  ∃ n stmt value writes context locks, log[n]? = some ⟨i, .performed stmt value writes⟩ ∧
    Ran E env start i (log.take n) stmt value writes context locks ∧
    lock ∈ E.needs stmt context ++ locks

def Accounted (before : List (Event ι Stmt Res Write Msg)) (event : Event ι Stmt Res Write Msg) :
    Prop :=
  match event.action with
  | .performed stmt value writes => ∃ context locks,
      Ran E env start event.owner before stmt value writes context locks ∧
        ∀ lock, context.busy lock = true → ∃ j, j ≠ event.owner ∧ Took E env start j lock before
  | .committed writes => writes = pendingOf (pastOf event.owner before)
  | .published _ => True

structure Provenance (w : World ι Store Write Lock Stmt Res Err Msg Env α) : Prop where
  replay : w.state.store = storeAt E start w.state.log
  pending : ∀ i program, w.session i = .running program →
    (w.state.tx i).writes = pendingOf (pastOf i w.state.log)
  accounted : Throughout (Accounted E env start) w.state.log
  held : ∀ lock i, w.state.locks lock = some i → Took E env start i lock w.state.log

variable {E env start} {i : ι} {lock : Lock} {log : List (Event ι Stmt Res Write Msg)}

theorem Took.append (took : Took E env start i lock log)
    (more : List (Event ι Stmt Res Write Msg)) : Took E env start i lock (log ++ more) := by
  obtain ⟨n, stmt, value, writes, context, locks, located, ran, member⟩ := took
  have inside : n < log.length := (List.getElem?_eq_some_iff.mp located).1
  refine ⟨n, stmt, value, writes, context, locks, ?_, ?_, member⟩
  · rwa [List.getElem?_append_left inside]
  · rwa [List.take_append_of_le_length (Nat.le_of_lt inside)]

omit [DecidableEq ι] in
theorem storeAt_append (first last : List (Event ι Stmt Res Write Msg)) :
    storeAt E start (first ++ last) =
      E.applyAll (storeAt E start first) (committedWrites last) := by
  simp [storeAt, Engine.applyAll_append]

variable {w : World ι Store Write Lock Stmt Res Err Msg Env α}
  {program : Program Stmt Res Err Msg Env α}

private theorem provenance_ended (known : Provenance E env start w) (i : ι)
    {next : Session Stmt Res Err Msg Env α} (ended : ∀ program, next ≠ .running program) :
    Provenance E env start ⟨w.state.rolledBack i, Function.update w.session i next⟩ where
  replay := known.replay
  pending j program running := by
    by_cases same : j = i
    · subst same
      simp only [Function.update_self] at running
      exact (ended program running).elim
    · have running : w.session j = .running program := by simpa [same] using running
      simpa [State.rolledBack, State.closed, same] using known.pending j program running
  accounted := known.accounted
  held lock j taken := by
    simp only [State.rolledBack, State.closed, State.release] at taken
    split at taken
    · cases taken
    · exact known.held lock j taken

private theorem ran_of_performs (known : Provenance E env start w)
    {stmt : Stmt} {rest : Res stmt → Program Stmt Res Err Msg Env α} {value : Res stmt}
    {writes : List Write} {locks : List Lock}
    (running : w.session i = .running (.performs stmt rest))
    (exec : E.exec stmt (w.state.context E env i) = .done value writes locks) :
    Ran E env start i w.state.log stmt value writes (w.state.context E env i) locks where
  view := by
    simp only [State.context, State.view, viewAt, known.replay, known.pending i _ running]
  clock := ⟨w.state.tick, rfl⟩
  exec := exec

private theorem took_of_busy (known : Provenance E env start w)
    (busy : w.state.busy i lock = true) :
    ∃ j, j ≠ i ∧ Took E env start j lock w.state.log := by
  unfold State.busy at busy
  split at busy
  · cases busy
  · rename_i owner held
    exact ⟨owner, by simpa using busy, known.held lock owner held⟩

variable [DecidableEq Lock] in
private theorem provenance_performed (known : Provenance E env start w)
    {stmt : Stmt} {rest : Res stmt → Program Stmt Res Err Msg Env α} {value : Res stmt}
    {writes : List Write} {locks : List Lock}
    (running : w.session i = .running (.performs stmt rest))
    (exec : E.exec stmt (w.state.context E env i) = .done value writes locks) :
    Provenance E env start ⟨w.state.performed env i stmt value writes
      (E.needs stmt (w.state.context E env i) ++ locks),
      Function.update w.session i (.running (rest value))⟩ := by
  have ran := ran_of_performs known running exec
  constructor
  · simpa [State.performed, storeAt] using known.replay
  · intro j program alive
    by_cases same : j = i
    · subst same
      simp [State.performed, Action.pending, known.pending j _ running]
    · have alive : w.session j = .running program := by simpa [same] using alive
      simpa [State.performed, same, pastOf_other (Ne.symm same)] using known.pending j program alive
  · exact throughout_concat known.accounted
      ⟨_, locks, ran, fun lock busy => took_of_busy known busy⟩
  · intro lock j taken
    simp only [State.performed, State.acquire] at taken ⊢
    split at taken
    · rename_i fresh
      cases taken
      exact ⟨w.state.log.length, stmt, value, writes, _, locks, by simp, by simpa using ran, fresh⟩
    · exact (known.held lock j taken).append _

private theorem provenance_committed (known : Provenance E env start w)
    {rest : Program Stmt Res Err Msg Env α} (running : w.session i = .running (.commits rest)) :
    Provenance E env start ⟨w.state.committed E i,
      Function.update w.session i (.running rest)⟩ := by
  have mine := known.pending i _ running
  constructor
  · simp [State.committed, State.closed, State.view, storeAt_append, known.replay]
  · intro j program alive
    by_cases same : j = i
    · subst same
      simp [State.committed, State.closed, Tx.closed, Action.pending]
    · have alive : w.session j = .running program := by simpa [same] using alive
      simpa [State.committed, State.closed, same, pastOf_other (Ne.symm same)] using
        known.pending j program alive
  · exact throughout_concat known.accounted mine
  · intro lock j taken
    simp only [State.committed, State.closed, State.release] at taken ⊢
    split at taken
    · cases taken
    · exact (known.held lock j taken).append _

private theorem provenance_published (known : Provenance E env start w) {msg : Msg}
    {rest : Program Stmt Res Err Msg Env α}
    (running : w.session i = .running (.publishes msg rest)) :
    Provenance E env start ⟨w.state.published i msg,
      Function.update w.session i (.running rest)⟩ := by
  constructor
  · simpa [State.published, storeAt] using known.replay
  · intro j program alive
    by_cases same : j = i
    · subst same
      simp [State.published, Action.pending, known.pending j _ running]
    · have alive : w.session j = .running program := by simpa [same] using alive
      simpa [State.published, same, pastOf_other (Ne.symm same)] using known.pending j program alive
  · exact throughout_concat known.accounted trivial
  · exact fun lock j taken => (known.held lock j taken).append _

variable [DecidableEq Lock] in
theorem Reaches.provenance
    {ok : World ι Store Write Lock Stmt Res Err Msg Env α → ι → Prop}
    {session : ι → Session Stmt Res Err Msg Env α}
    (reach : Reaches E env ok ⟨.start start, session⟩ w) : Provenance E env start w := by
  refine reach.moves (motive := fun w => Provenance E env start w) ?_ ?_
  · exact ⟨rfl, fun i program running => rfl, throughout_nil, fun lock i taken => nomatch taken⟩
  · intro w i program next state before known running moved _
    cases moved with
    | returned value => exact provenance_ended known i fun program => by simp
    | raised error => exact provenance_ended known i fun program => by simp
    | failed exec => exact provenance_ended known i fun program => by simp
    | crashed program => exact provenance_ended known i fun program => by simp
    | performed ready exec => exact provenance_performed known running exec
    | committed rest => exact provenance_committed known running
    | published msg rest => exact provenance_published known running
    | observed rest =>
        refine ⟨known.replay, fun j program alive => ?_, known.accounted, known.held⟩
        by_cases same : j = i
        · subst same
          exact known.pending j _ running
        · have alive : w.session j = .running program := by simpa [same] using alive
          exact known.pending j program alive

/-! ## Reading the log -/

theorem Provenance.answered (known : Provenance E env start w) {n : Nat} {stmt : Stmt}
    {value : Res stmt} {writes : List Write}
    (located : w.state.log[n]? = some ⟨i, .performed stmt value writes⟩) :
    ∃ context locks, Ran E env start i (w.state.log.take n) stmt value writes context locks ∧
      ∀ lock, context.busy lock = true →
        ∃ j, j ≠ i ∧ Took E env start j lock (w.state.log.take n) :=
  known.accounted n _ located

theorem Provenance.committed_eq (known : Provenance E env start w) {n : Nat} {writes : List Write}
    (located : w.state.log[n]? = some ⟨i, .committed writes⟩) :
    writes = pendingOf (pastOf i (w.state.log.take n)) :=
  known.accounted n _ located

theorem Provenance.performed_of_committed (known : Provenance E env start w) {n : Nat}
    {writes : List Write} (located : w.state.log[n]? = some ⟨i, .committed writes⟩) {write : Write}
    (member : write ∈ writes) :
    ∃ m stmt value performed, m < n ∧ w.state.log[m]? = some ⟨i, .performed stmt value performed⟩ ∧
      write ∈ performed := by
  rw [known.committed_eq located] at member
  obtain ⟨stmt, value, performed, past, written⟩ := mem_pendingOf member
  obtain ⟨m, before, found⟩ := mem_take.mp (mem_pastOf.mp past)
  exact ⟨m, stmt, value, performed, before, found, written⟩

end QueueFlow.Transactions
