import QueueFlow.Transactions.Provenance
import Mathlib.Data.List.TakeWhile
import Mathlib.Order.Monotone.Basic

/-!
# Transactions and the clock

`now()` is the time at which a transaction began. On a clock that does not go back, the first
transactions of two sessions began in the order of their first statements, whenever they commit.
-/

namespace QueueFlow.Transactions

variable {ι Store Write Lock Stmt Err Msg Env α τ : Type} {Res : Stmt → Type} [DecidableEq ι]
  [DecidableEq Lock]

section
variable {i j : ι} {log : List (Event ι Stmt Res Write Msg)} {entry : Event ι Stmt Res Write Msg}

def Event.isStatementOf (i : ι) (entry : Event ι Stmt Res Write Msg) : Bool :=
  entry.owner = i && match entry.action with
    | .performed _ _ _ => true
    | _ => false

def Begun (i : ι) (log : List (Event ι Stmt Res Write Msg)) : Prop :=
  ∃ entry ∈ log, entry.isStatementOf i = true

instance (i : ι) (log : List (Event ι Stmt Res Write Msg)) : Decidable (Begun i log) :=
  inferInstanceAs (Decidable (∃ entry ∈ log, _))

def beforeBegin (i : ι) (log : List (Event ι Stmt Res Write Msg)) :
    List (Event ι Stmt Res Write Msg) :=
  log.takeWhile fun entry => !entry.isStatementOf i

def Uncommitted (i : ι) (log : List (Event ι Stmt Res Write Msg)) : Prop :=
  ∀ writes, ⟨i, .committed writes⟩ ∉ log

theorem beforeBegin_of_not_begun (first : ¬ Begun i log) : beforeBegin i log = log := by
  refine List.takeWhile_eq_self_iff.mpr fun entry member => ?_
  simpa using fun statement => first ⟨entry, member, statement⟩

theorem beforeBegin_append (begun : Begun i log) (more : List (Event ι Stmt Res Write Msg)) :
    beforeBegin i (log ++ more) = beforeBegin i log := by
  obtain ⟨entry, member, statement⟩ := begun
  rw [beforeBegin, List.takeWhile_append, if_neg, beforeBegin]
  intro whole
  have all := List.takeWhile_eq_self_iff.mp ((List.takeWhile_prefix _).eq_of_length whole)
  simpa [statement] using all entry member

theorem begun_append {more : List (Event ι Stmt Res Write Msg)} :
    Begun i (log ++ more) ↔ Begun i log ∨ Begun i more := by
  simp only [Begun, List.mem_append]
  constructor
  · rintro ⟨entry, member | member, statement⟩
    · exact .inl ⟨entry, member, statement⟩
    · exact .inr ⟨entry, member, statement⟩
  · rintro (⟨entry, member, statement⟩ | ⟨entry, member, statement⟩)
    · exact ⟨entry, .inl member, statement⟩
    · exact ⟨entry, .inr member, statement⟩

theorem Begun.of_beforeBegin (begun : Begun j (beforeBegin i log)) : Begun j log := by
  obtain ⟨entry, member, statement⟩ := begun
  exact ⟨entry, List.takeWhile_subset _ member, statement⟩

@[simp] theorem begun_performed {stmt : Stmt} {value : Res stmt} {writes : List Write} :
    Begun i [(⟨j, .performed stmt value writes⟩ : Event ι Stmt Res Write Msg)] ↔ j = i := by
  simp [Begun, Event.isStatementOf]

@[simp] theorem not_begun_committed {writes : List Write} :
    ¬ Begun i [(⟨j, .committed writes⟩ : Event ι Stmt Res Write Msg)] := by
  simp [Begun, Event.isStatementOf]

@[simp] theorem not_begun_published {msg : Msg} :
    ¬ Begun i [(⟨j, .published msg⟩ : Event ι Stmt Res Write Msg)] := by
  simp [Begun, Event.isStatementOf]

omit [DecidableEq ι] in
theorem Uncommitted.of_append {more : List (Event ι Stmt Res Write Msg)}
    (uncommitted : Uncommitted i (log ++ more)) : Uncommitted i log :=
  fun writes member => uncommitted writes (List.mem_append_left _ member)

end

variable (E : Engine Store Write Lock Stmt Res Err Env) (env : Nat → Env) [Preorder τ]
  (time : Env → τ) (Stamp : τ → Write → Prop)

/-- `began` tells when the first transaction of each session began: those are in the order of the
log, and the writes of each are stamped with its time. -/
structure Clocked (began : ι → τ) (w : World ι Store Write Lock Stmt Res Err Msg Env α) : Prop where
  opened : ∀ i program, w.session i = .running program → Uncommitted i w.state.log →
    (Begun i w.state.log → ∃ env, (w.state.tx i).began = some env ∧ time env = began i) ∧
    (¬ Begun i w.state.log → (w.state.tx i).began = none)
  pending : ∀ i, ∀ write ∈ (w.state.tx i).writes,
    ∃ env, (w.state.tx i).began = some env ∧ Stamp (time env) write
  since : ∀ i, Begun i w.state.log → time (env 0) ≤ began i
  begun : ∀ i, Begun i w.state.log → began i ≤ time (env w.state.tick)
  order : ∀ i j, Begun i w.state.log → Begun j (beforeBegin i w.state.log) → began j ≤ began i
  committed : Throughout (fun before entry => ∀ writes, entry.action = .committed writes →
    Uncommitted entry.owner before → ∀ write ∈ writes, Stamp (began entry.owner) write) w.state.log

variable {E env time Stamp} {began : ι → τ} {start : Store}
  {w : World ι Store Write Lock Stmt Res Err Msg Env α}
  {i : ι}

omit [DecidableEq Lock] in
private theorem clocked_ended (monotone : Monotone fun tick => time (env tick))
    (clocked : Clocked env time Stamp began w) {next : Session Stmt Res Err Msg Env α}
    (ended : ∀ program, next ≠ .running program) :
    Clocked env time Stamp began ⟨w.state.rolledBack i, Function.update w.session i next⟩ where
  opened j program running uncommitted := by
    by_cases same : j = i
    · subst same
      simp only [Function.update_self] at running
      exact (ended program running).elim
    · have running : w.session j = .running program := by simpa [same] using running
      simpa [State.rolledBack, State.closed, same] using
        clocked.opened j program running uncommitted
  pending j write member := by
    by_cases same : j = i
    · subst same
      simp [State.rolledBack, State.closed, Tx.closed] at member
    · simpa [State.rolledBack, State.closed, same] using
        clocked.pending j write (by simpa [State.rolledBack, State.closed, same] using member)
  since := clocked.since
  begun j begun := (clocked.begun j begun).trans (monotone (Nat.le_succ _))
  order := clocked.order
  committed := clocked.committed

section
variable {j : ι} {stmt : Stmt} {rest : Res stmt → Program Stmt Res Err Msg Env α} {value : Res stmt}
  {writes : List Write} {taken : List Lock}

private theorem begun_after : Begun j (w.state.performed env i stmt value writes taken).log ↔
    i = j ∨ Begun j w.state.log := by
  simp [State.performed, begun_append, or_comm]

private theorem beforeBegin_after (begun : Begun j w.state.log) :
    beforeBegin j (w.state.performed env i stmt value writes taken).log =
      beforeBegin j w.state.log := beforeBegin_append begun _

private theorem stamped_after (clocked : Clocked env time Stamp began w)
    (stamps : ∀ write ∈ writes, Stamp (time ((w.state.tx i).began.getD (env w.state.tick))) write) :
    ∀ write ∈ ((w.state.performed env i stmt value writes taken).tx j).writes,
      ∃ env', ((w.state.performed env i stmt value writes taken).tx j).began = some env' ∧
        Stamp (time env') write := by
  intro write member
  by_cases same : j = i
  · subst same
    simp only [State.performed, Function.update_self, List.mem_append] at member ⊢
    refine ⟨_, rfl, ?_⟩
    rcases member with earlier | new
    · obtain ⟨env', open_, stamped⟩ := clocked.pending j write earlier
      simpa [open_] using stamped
    · exact stamps write new
  · simpa [State.performed, same] using
      clocked.pending j write (by simpa [State.performed, same] using member)

private theorem clocked_again (monotone : Monotone fun tick => time (env tick))
    (clocked : Clocked env time Stamp began w)
    (running : w.session i = .running (.performs stmt rest))
    (stamps : ∀ write ∈ writes, Stamp (time ((w.state.tx i).began.getD (env w.state.tick))) write)
    (begun : Begun i w.state.log) :
    Clocked env time Stamp began ⟨w.state.performed env i stmt value writes taken,
      Function.update w.session i (.running (rest value))⟩ := by
  have still {j : ι} (after : Begun j (w.state.performed env i stmt value writes taken).log) :
      Begun j w.state.log := by
    rcases begun_after.mp after with rfl | old
    · exact begun
    · exact old
  constructor
  · intro j program alive uncommitted
    have before : Uncommitted j w.state.log := Uncommitted.of_append uncommitted
    by_cases same : j = i
    · subst same
      obtain ⟨env', open_, equal⟩ := (clocked.opened j _ running before).1 begun
      refine ⟨fun _ => ⟨env', by simp [State.performed, open_], equal⟩, fun unbegun => ?_⟩
      exact (unbegun (begun_after.mpr (.inl rfl))).elim
    · have alive : w.session j = .running program := by simpa [same] using alive
      simpa [State.performed, same, begun_append, Ne.symm same] using
        clocked.opened j program alive before
  · exact fun j => stamped_after clocked stamps
  · exact fun j after => clocked.since j (still after)
  · exact fun j after => (clocked.begun j (still after)).trans (monotone (Nat.le_succ _))
  · intro j k after earlier
    rw [beforeBegin_after (still after)] at earlier
    exact clocked.order j k (still after) earlier
  · exact throughout_concat clocked.committed (by simp)

/-- The first statement of a session opens its transaction after all those that have begun. -/
private theorem clocked_first (monotone : Monotone fun tick => time (env tick))
    (known : Provenance E env start w) (clocked : Clocked env time Stamp began w)
    (running : w.session i = .running (.performs stmt rest))
    (stamps : ∀ write ∈ writes, Stamp (time ((w.state.tx i).began.getD (env w.state.tick))) write)
    (first : ¬ Begun i w.state.log) :
    Clocked env time Stamp (Function.update began i (time (env w.state.tick)))
      ⟨w.state.performed env i stmt value writes taken,
        Function.update w.session i (.running (rest value))⟩ := by
  have old {j : ι} (other : j ≠ i)
      (after : Begun j (w.state.performed env i stmt value writes taken).log) :
      Begun j w.state.log := (begun_after.mp after).resolve_left (Ne.symm other)
  constructor
  · intro j program alive uncommitted
    have before : Uncommitted j w.state.log := Uncommitted.of_append uncommitted
    by_cases same : j = i
    · subst same
      have unopened := (clocked.opened j _ running before).2 first
      refine ⟨fun _ => ⟨env w.state.tick, by simp [State.performed, unopened], by simp⟩,
        fun unbegun => ?_⟩
      exact (unbegun (begun_after.mpr (.inl rfl))).elim
    · have alive : w.session j = .running program := by simpa [same] using alive
      simpa [State.performed, same, begun_append, Ne.symm same] using
        clocked.opened j program alive before
  · exact fun j => stamped_after clocked stamps
  · intro j after
    by_cases same : j = i
    · subst same
      simpa using monotone (Nat.zero_le w.state.tick)
    · simpa [same] using clocked.since j (old same after)
  · intro j after
    have later : time (env w.state.tick) ≤ time (env (w.state.tick + 1)) := monotone (Nat.le_succ _)
    by_cases same : j = i
    · subst same
      rwa [Function.update_self]
    · rw [Function.update_of_ne same]
      exact (clocked.begun j (old same after)).trans later
  · intro j k after earlier
    by_cases same : j = i
    · subst same
      by_cases mine : k = j
      · subst mine
        exact le_rfl
      · rw [Function.update_self, Function.update_of_ne mine]
        exact clocked.begun k (old mine earlier.of_beforeBegin)
    · rw [beforeBegin_after (old same after)] at earlier
      have other : k ≠ i := by
        rintro rfl
        exact first earlier.of_beforeBegin
      simpa [same, other] using clocked.order j k (old same after) earlier
  · refine throughout_concat ?_ (by simp)
    intro n entry located written same uncommitted write member
    have stamped := clocked.committed n entry located written same uncommitted write member
    have other : entry.owner ≠ i := by
      rintro rfl
      obtain ⟨owner, action⟩ := entry
      cases same
      obtain ⟨m, stmt', value', performed, _, found, _⟩ :=
        known.performed_of_committed located member
      exact first ⟨_, List.mem_of_getElem? found, by simp [Event.isStatementOf]⟩
    rwa [Function.update_of_ne other]

private theorem clocked_performed (monotone : Monotone fun tick => time (env tick))
    (known : Provenance E env start w) (clocked : Clocked env time Stamp began w)
    (running : w.session i = .running (.performs stmt rest))
    (stamps : ∀ write ∈ writes, Stamp (time ((w.state.tx i).began.getD (env w.state.tick))) write) :
    ∃ began, Clocked env time Stamp began ⟨w.state.performed env i stmt value writes taken,
      Function.update w.session i (.running (rest value))⟩ := by
  by_cases begun : Begun i w.state.log
  · exact ⟨began, clocked_again monotone clocked running stamps begun⟩
  · exact ⟨_, clocked_first monotone known clocked running stamps begun⟩

end

omit [DecidableEq Lock] in
private theorem clocked_committed (monotone : Monotone fun tick => time (env tick))
    (known : Provenance E env start w) (clocked : Clocked env time Stamp began w)
    {rest : Program Stmt Res Err Msg Env α} (running : w.session i = .running (.commits rest)) :
    Clocked env time Stamp began ⟨w.state.committed E i,
      Function.update w.session i (.running rest)⟩ where
  opened j program alive uncommitted := by
    by_cases same : j = i
    · subst same
      exact (uncommitted (w.state.tx j).writes (by simp [State.committed])).elim
    · have alive : w.session j = .running program := by simpa [same] using alive
      have before : Uncommitted j w.state.log := Uncommitted.of_append uncommitted
      simpa [State.committed, State.closed, same, begun_append] using
        clocked.opened j program alive before
  pending j write member := by
    by_cases same : j = i
    · subst same
      simp [State.committed, State.closed, Tx.closed] at member
    · simpa [State.committed, State.closed, same] using
        clocked.pending j write (by simpa [State.committed, State.closed, same] using member)
  since j begun := clocked.since j (by simpa [State.committed, begun_append] using begun)
  begun j begun := by
    have old : Begun j w.state.log := by simpa [State.committed, begun_append] using begun
    exact (clocked.begun j old).trans (monotone (Nat.le_succ _))
  order j k begun earlier := by
    have old : Begun j w.state.log := by simpa [State.committed, begun_append] using begun
    rw [show (w.state.committed E i).log = w.state.log ++ _ from rfl, beforeBegin_append old]
      at earlier
    exact clocked.order j k old earlier
  committed := by
    refine throughout_concat clocked.committed ?_
    rintro _ ⟨⟩ uncommitted write member
    obtain ⟨env', open_, stamped⟩ := clocked.pending i write member
    have begun : Begun i w.state.log := by
      rw [known.pending i _ running] at member
      obtain ⟨stmt, value, performed, past, _⟩ := mem_pendingOf member
      exact ⟨_, mem_pastOf.mp past, by simp [Event.isStatementOf]⟩
    obtain ⟨other, open', equal⟩ := (clocked.opened i _ running uncommitted).1 begun
    cases open_.symm.trans open'
    exact equal ▸ stamped

omit [DecidableEq Lock] in
private theorem clocked_published (monotone : Monotone fun tick => time (env tick))
    (clocked : Clocked env time Stamp began w) {msg : Msg}
    {rest : Program Stmt Res Err Msg Env α}
    (running : w.session i = .running (.publishes msg rest)) :
    Clocked env time Stamp began ⟨w.state.published i msg,
      Function.update w.session i (.running rest)⟩ where
  opened j program alive uncommitted := by
    have before : Uncommitted j w.state.log := Uncommitted.of_append uncommitted
    by_cases same : j = i
    · subst same
      simpa [State.published, begun_append] using clocked.opened j _ running before
    · have alive : w.session j = .running program := by simpa [same] using alive
      simpa [State.published, begun_append] using clocked.opened j program alive before
  pending := clocked.pending
  since j begun := clocked.since j (by simpa [State.published, begun_append] using begun)
  begun j begun := by
    have old : Begun j w.state.log := by simpa [State.published, begun_append] using begun
    exact (clocked.begun j old).trans (monotone (Nat.le_succ _))
  order j k begun earlier := by
    have old : Begun j w.state.log := by simpa [State.published, begun_append] using begun
    rw [show (w.state.published i msg).log = w.state.log ++ _ from rfl, beforeBegin_append old]
      at earlier
    exact clocked.order j k old earlier
  committed := throughout_concat clocked.committed (by simp)

theorem Reaches.clocked {ok : World ι Store Write Lock Stmt Res Err Msg Env α → ι → Prop}
    {session : ι → Session Stmt Res Err Msg Env α}
    (reach : Reaches E env ok ⟨.start start, session⟩ w) [Nonempty τ]
    (monotone : Monotone fun tick => time (env tick))
    (stamps : ∀ (w : World ι Store Write Lock Stmt Res Err Msg Env α) i stmt next value writes
      locks, Reaches E env ok ⟨.start start, session⟩ w → ok w i →
      w.session i = .running (.performs stmt next) →
      E.exec stmt (w.state.context E env i) = .done value writes locks →
      ∀ write ∈ writes, Stamp (time (w.state.context E env i).began) write) :
    ∃ began, Clocked env time Stamp began w := by
  refine reach.moves (motive := fun w => ∃ began, Clocked env time Stamp began w) ?_ ?_
  · obtain ⟨any⟩ := ‹Nonempty τ›
    refine ⟨fun _ => any, fun i program running _ => ⟨fun begun => ?_, fun _ => rfl⟩,
      fun i write member => absurd member List.not_mem_nil, fun i begun => ?_,
      fun i begun => ?_, fun i j begun _ => ?_, throughout_nil⟩ <;>
    · obtain ⟨entry, impossible, _⟩ := begun
      exact absurd impossible List.not_mem_nil
  · intro w i program next state before ⟨began, clocked⟩ running moved meets
    cases moved with
    | returned value => exact ⟨began, clocked_ended monotone clocked fun _ => nofun⟩
    | raised error => exact ⟨began, clocked_ended monotone clocked fun _ => nofun⟩
    | failed exec => exact ⟨began, clocked_ended monotone clocked fun _ => nofun⟩
    | crashed program => exact ⟨began, clocked_ended monotone clocked fun _ => nofun⟩
    | performed ready exec =>
        exact clocked_performed monotone before.provenance clocked running
          (stamps _ _ _ _ _ _ _ before (meets nofun) running exec)
    | committed rest => exact ⟨began, clocked_committed monotone before.provenance clocked running⟩
    | published msg rest => exact ⟨began, clocked_published monotone clocked running⟩
    | observed rest =>
        refine ⟨began, fun j program alive uncommitted => ?_, clocked.pending, clocked.since,
          fun j begun => ?_, clocked.order, clocked.committed⟩
        · by_cases same : j = i
          · subst same
            exact clocked.opened j _ running uncommitted
          · have alive : w.session j = .running program := by simpa [same] using alive
            exact clocked.opened j program alive uncommitted
        · exact (clocked.begun j begun).trans (monotone (Nat.le_succ _))

end QueueFlow.Transactions
