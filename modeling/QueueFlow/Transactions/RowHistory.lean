import QueueFlow.Transactions.Provenance

/-!
# Row histories

Every committed write was checked against the very row version it replaces, whatever the
interleaving: a session keeps the lock of each row it writes until it commits, so the row it
looked at is still the last committed one when the write takes effect.
-/

namespace QueueFlow.Transactions

variable {ι Store Write Lock Stmt Err Msg Env α V : Type} {Res : Stmt → Type}

section
variable (E : Engine Store Write Lock Stmt Res Err Env) (row : Store → Lock → V)

variable [DecidableEq Lock] in
/-- The store is a family of rows, one per lock, and a write replaces exactly one of them. -/
structure Rowed (value : Write → V) : Prop where
  apply : ∀ store write lock,
    row (E.apply store write) lock = if E.lockOf write = lock then value write else row store lock

/-- Each write passes its check against the row it meets when the writes are applied in order. -/
def Checked (Ok : V → Write → Prop) : Store → List Write → Prop
  | _, [] => True
  | store, write :: writes =>
      Ok (row store (E.lockOf write)) write ∧ Checked Ok (E.apply store write) writes

variable {E row}

theorem checked_append {Ok : V → Write → Prop} {store : Store} {first last : List Write} :
    Checked E row Ok store (first ++ last) ↔
      Checked E row Ok store first ∧ Checked E row Ok (E.applyAll store first) last := by
  induction first generalizing store with
  | nil => simp [Checked]
  | cons write writes ih => simp [Checked, ih, and_assoc]

theorem checked_true (store : Store) (writes : List Write) :
    Checked E row (fun _ _ => True) store writes := by
  induction writes generalizing store with
  | nil => trivial
  | cons write writes ih => exact ⟨trivial, ih _⟩

theorem Checked.of_mem {Ok : V → Write → Prop} {store : Store} {writes : List Write} {write : Write}
    (checked : Checked E row Ok store writes) (member : write ∈ writes) : ∃ old, Ok old write := by
  induction writes generalizing store with
  | nil => cases member
  | cons first writes ih =>
      rcases List.mem_cons.mp member with rfl | later
      · exact ⟨_, checked.1⟩
      · exact ih checked.2 later

theorem Checked.and {Ok Ok' : V → Write → Prop} {store : Store} {writes : List Write}
    (checked : Checked E row Ok store writes) (checked' : Checked E row Ok' store writes) :
    Checked E row (fun old write => Ok old write ∧ Ok' old write) store writes := by
  induction writes generalizing store with
  | nil => trivial
  | cons write writes ih => exact ⟨⟨checked.1, checked'.1⟩, ih checked.2 checked'.2⟩

variable [DecidableEq Lock] {value : Write → V}

theorem row_applyAll_of_unlocked (rowed : Rowed E row value) {writes : List Write}
    {lock : Lock} (store : Store) (unlocked : ∀ write ∈ writes, E.lockOf write ≠ lock) :
    row (E.applyAll store writes) lock = row store lock := by
  induction writes generalizing store with
  | nil => rfl
  | cons write writes ih =>
      rw [Engine.applyAll_cons, ih _ fun w member => unlocked w (List.mem_cons_of_mem _ member),
        rowed.apply, if_neg (unlocked write List.mem_cons_self)]

theorem row_applyAll_cases (rowed : Rowed E row value) (store : Store) (writes : List Write)
    (lock : Lock) : row (E.applyAll store writes) lock = row store lock ∨
      ∃ write ∈ writes, E.lockOf write = lock ∧
        row (E.applyAll store writes) lock = value write := by
  induction writes generalizing store with
  | nil => exact .inl rfl
  | cons write writes ih =>
      rw [Engine.applyAll_cons]
      rcases ih (E.apply store write) with same | ⟨later, member, locked, made⟩
      · rw [same, rowed.apply]
        split
        · rename_i locked
          exact .inr ⟨write, List.mem_cons_self, locked, rfl⟩
        · exact .inl rfl
      · exact .inr ⟨later, List.mem_cons_of_mem _ member, locked, made⟩

theorem checked_congr (rowed : Rowed E row value) {Ok : V → Write → Prop} {writes : List Write}
    {store other : Store} (same : ∀ write ∈ writes, row store (E.lockOf write) =
      row other (E.lockOf write)) (checked : Checked E row Ok store writes) :
    Checked E row Ok other writes := by
  induction writes generalizing store other with
  | nil => trivial
  | cons write writes ih =>
      refine ⟨same write List.mem_cons_self ▸ checked.1, ih ?_ checked.2⟩
      intro later member
      rw [rowed.apply, rowed.apply, same later (List.mem_cons_of_mem _ member)]

theorem checked_preserves (rowed : Rowed E row value) {Ok : V → Write → Prop} {K : V → Prop}
    {store : Store} {writes : List Write} {lock : Lock} (checked : Checked E row Ok store writes)
    (keeps : ∀ write ∈ writes, E.lockOf write = lock → ∀ old, K old → Ok old write →
      K (value write))
    (base : K (row store lock)) : K (row (E.applyAll store writes) lock) := by
  induction writes generalizing store with
  | nil => exact base
  | cons write writes ih =>
      refine ih checked.2 (fun later member => keeps later (List.mem_cons_of_mem _ member)) ?_
      rw [rowed.apply]
      split
      · rename_i same
        subst same
        exact keeps write List.mem_cons_self rfl _ base checked.1
      · exact base

variable {Ok : V → Write → Prop} {start : Store}

structure Serial (E : Engine Store Write Lock Stmt Res Err Env) (row : Store → Lock → V)
    (Ok : V → Write → Prop) (start : Store)
    (state : State ι Store Write Lock Stmt Res Msg Env) : Prop where
  replay : state.store = E.applyAll start (committedWrites state.log)
  history : Checked E row Ok start (committedWrites state.log)
  pending : ∀ i, Checked E row Ok state.store (state.tx i).writes
  held : ∀ i, ∀ write ∈ (state.tx i).writes, state.locks (E.lockOf write) = some i

variable {state : State ι Store Write Lock Stmt Res Msg Env} {env : Nat → Env}

section
omit [DecidableEq Lock]

theorem serial_start : Serial E row Ok start
    (.start start : State ι Store Write Lock Stmt Res Msg Env) where
  replay := rfl
  history := trivial
  pending _ := trivial
  held _ _ member := by simp [State.start, Tx.closed] at member

theorem serial_ticked (serial : Serial E row Ok start state) :
    Serial E row Ok start state.ticked :=
  ⟨serial.replay, serial.history, serial.pending, serial.held⟩

theorem serial_published (serial : Serial E row Ok start state) (i : ι) (msg : Msg) :
    Serial E row Ok start (state.published i msg) where
  replay := by simpa [State.published] using serial.replay
  history := by simpa [State.published] using serial.history
  pending := serial.pending
  held := serial.held

end

variable [DecidableEq ι]

theorem serial_performed (serial : Serial E row Ok start state) {i : ι} {stmt : Stmt}
    {answer : Res stmt} {writes : List Write} {taken : List Lock}
    (checked : Checked E row Ok (state.view E i) writes)
    (available : ∀ lock ∈ taken, state.busy i lock = false)
    (locked : ∀ write ∈ writes, E.lockOf write ∈ taken) :
    Serial E row Ok start (state.performed env i stmt answer writes taken) where
  replay := by simpa [State.performed] using serial.replay
  history := by simpa [State.performed] using serial.history
  pending j := by
    by_cases same : j = i
    · subst same
      simpa [State.performed, checked_append, State.view] using ⟨serial.pending j, checked⟩
    · simpa [State.performed, same] using serial.pending j
  held j write member := by
    simp only [State.performed, State.acquire]
    by_cases same : j = i
    · subst same
      simp only [State.performed, Function.update_self, List.mem_append] at member
      rcases member with earlier | new
      · rw [serial.held j write earlier, ite_self]
      · rw [if_pos (locked write new)]
    · have mine : state.locks (E.lockOf write) = some j :=
        serial.held j write (by simpa [State.performed, same] using member)
      rw [if_neg, mine]
      intro taken
      have := available _ taken
      simp [State.busy, mine, same] at this

omit [DecidableEq Lock] in
theorem serial_rolledBack (serial : Serial E row Ok start state) (i : ι) :
    Serial E row Ok start (state.rolledBack i) where
  replay := serial.replay
  history := serial.history
  pending j := by
    by_cases same : j = i
    · subst same
      simp [State.rolledBack, State.closed, Tx.closed, Checked]
    · simpa [State.rolledBack, State.closed, same] using serial.pending j
  held j write member := by
    by_cases same : j = i
    · subst same
      simp [State.rolledBack, State.closed, Tx.closed] at member
    · have mine : state.locks (E.lockOf write) = some j :=
        serial.held j write (by simpa [State.rolledBack, State.closed, same] using member)
      simp [State.rolledBack, State.closed, State.release, mine, same]

theorem serial_committed (rowed : Rowed E row value) (serial : Serial E row Ok start state)
    (i : ι) : Serial E row Ok start (state.committed E i) where
  replay := by
    simp [State.committed, State.closed, State.view, Engine.applyAll_append, serial.replay]
  history := by
    simpa [State.committed, checked_append, ← serial.replay] using
      ⟨serial.history, serial.pending i⟩
  pending j := by
    by_cases same : j = i
    · subst same
      simp [State.committed, State.closed, Tx.closed, Checked]
    · have kept : Checked E row Ok (state.view E i) (state.tx j).writes := by
        apply checked_congr rowed _ (serial.pending j)
        intro write member
        refine (row_applyAll_of_unlocked rowed _ fun other member' shared => same ?_).symm
        have mine := serial.held j write member
        rw [← shared, serial.held i other member'] at mine
        exact (Option.some.inj mine).symm
      simpa [State.committed, State.closed, same] using kept
  held j write member := (serial_rolledBack serial i).held j write member

end

variable {E : Engine Store Write Lock Stmt Res Err Env} {env : Nat → Env} {row : Store → Lock → V}
  {value : Write → V} {Ok : V → Write → Prop}
  {ok : World ι Store Write Lock Stmt Res Err Msg Env α → ι → Prop}
  {session : ι → Session Stmt Res Err Msg Env α} {start : Store}
  {w : World ι Store Write Lock Stmt Res Err Msg Env α}

variable [DecidableEq ι] [DecidableEq Lock] in
/-- If every statement checks the rows it overwrites as it sees them, then every committed write
passes the check against the committed row it overwrites. -/
theorem Reaches.serial (rowed : Rowed E row value)
    (reach : Reaches E env ok ⟨.start start, session⟩ w)
    (checks : ∀ (w : World ι Store Write Lock Stmt Res Err Msg Env α) i stmt next value writes
      locks, Reaches E env ok ⟨.start start, session⟩ w → ok w i →
      w.session i = .running (.performs stmt next) →
      E.exec stmt (w.state.context E env i) = .done value writes locks →
      Checked E row Ok (w.state.view E i) writes) :
    Serial E row Ok start w.state := by
  refine reach.moves (motive := fun w => Serial E row Ok start w.state) serial_start ?_
  intro w i program session state before serial running moved meets
  cases moved with
  | returned => exact serial_rolledBack serial i
  | raised => exact serial_rolledBack serial i
  | @performed stmt next value writes locks ready exec =>
      refine serial_performed serial
        (checks w i stmt next value writes locks before (meets nofun) running exec) ?_
        (E.locked _ _ _ _ _ exec)
      intro lock member
      rcases List.mem_append.mp member with needed | extra
      · exact ready lock needed
      · exact E.free _ _ _ _ _ exec lock extra
  | failed => exact serial_rolledBack serial i
  | observed => exact serial_ticked serial
  | committed => exact serial_committed rowed serial i
  | published => exact serial_published serial i _
  | crashed => exact serial_rolledBack serial i

/-! ## Stretches of a log -/

def stretch (m n : Nat) (log : List (Event ι Stmt Res Write Msg)) :
    List (Event ι Stmt Res Write Msg) := (log.take n).drop m

theorem take_append_stretch {m n : Nat} (ordered : m ≤ n)
    (log : List (Event ι Stmt Res Write Msg)) : log.take m ++ stretch m n log = log.take n := by
  have whole := List.take_append_drop m (log.take n)
  rwa [List.take_take, Nat.min_eq_left ordered] at whole

theorem mem_stretch {m n : Nat} {log : List (Event ι Stmt Res Write Msg)}
    {event : Event ι Stmt Res Write Msg} (member : event ∈ stretch m n log) :
    ∃ k, m ≤ k ∧ k < n ∧ log[k]? = some event := by
  obtain ⟨offset, inside, found⟩ := List.getElem_of_mem member
  simp only [stretch, List.length_drop, List.length_take] at inside
  refine ⟨m + offset, Nat.le_add_right _ _, by omega, ?_⟩
  rw [← found]
  simp [stretch]

theorem Serial.checked_stretch {state : State ι Store Write Lock Stmt Res Msg Env}
    (serial : Serial E row Ok start state) {m n : Nat} (ordered : m ≤ n) :
    Checked E row Ok (storeAt E start (state.log.take m))
      (committedWrites (stretch m n state.log)) := by
  have whole := serial.history
  rw [← List.take_append_drop n state.log, ← take_append_stretch ordered, committedWrites_append,
    committedWrites_append] at whole
  exact (checked_append.mp (checked_append.mp whole).1).2

theorem storeAt_stretch {m n : Nat} (ordered : m ≤ n)
    (log : List (Event ι Stmt Res Write Msg)) :
    storeAt E start (log.take n) =
      E.applyAll (storeAt E start (log.take m)) (committedWrites (stretch m n log)) := by
  rw [← take_append_stretch ordered, storeAt_append]

theorem Serial.checked_commit {state : State ι Store Write Lock Stmt Res Msg Env}
    (serial : Serial E row Ok start state) {n : Nat} {i : ι} {writes : List Write}
    (located : state.log[n]? = some ⟨i, .committed writes⟩) :
    Checked E row Ok (storeAt E start (state.log.take n)) writes := by
  have inside : n < state.log.length := (List.getElem?_eq_some_iff.mp located).1
  have here := serial.checked_stretch (Nat.le_succ n)
  have single : stretch n (n + 1) state.log = [⟨i, .committed writes⟩] := by
    have found := (List.getElem?_eq_some_iff.mp located).2
    rw [stretch, List.take_succ_eq_append_getElem inside, List.drop_left' (by simp; omega), found]
  rwa [single, committedWrites_committed] at here

theorem storeAt_commit {log : List (Event ι Stmt Res Write Msg)} {n : Nat} {i : ι}
    {writes : List Write} (located : log[n]? = some ⟨i, .committed writes⟩) :
    storeAt E start (log.take (n + 1)) = E.applyAll (storeAt E start (log.take n)) writes := by
  have inside : n < log.length := (List.getElem?_eq_some_iff.mp located).1
  have found := (List.getElem?_eq_some_iff.mp located).2
  rw [List.take_succ_eq_append_getElem inside, storeAt_append, found, committedWrites_committed]

/-- What the commits keep holds of the store at every point of the log. -/
theorem storeAt_keeps {Inv : Store → Prop} {log : List (Event ι Stmt Res Write Msg)}
    (base : Inv start)
    (kept : ∀ n i writes, log[n]? = some ⟨i, .committed writes⟩ →
      Inv (storeAt E start (log.take n)) → Inv (E.applyAll (storeAt E start (log.take n)) writes))
    (n : Nat) : Inv (storeAt E start (log.take n)) := by
  induction n with
  | zero => exact base
  | succ n ih =>
      by_cases inside : n < log.length
      · obtain ⟨⟨i, action⟩, located⟩ : ∃ event, log[n]? = some event :=
          ⟨_, List.getElem?_eq_getElem inside⟩
        cases action with
        | committed writes =>
            rw [storeAt_commit located]
            exact kept n i writes located ih
        | performed stmt value writes =>
            rw [List.take_add_one, located, storeAt_append]
            exact ih
        | published msg =>
            rw [List.take_add_one, located, storeAt_append]
            exact ih
      · rw [List.take_of_length_le (by omega)]
        rwa [List.take_of_length_le (Nat.le_of_not_lt inside)] at ih

end QueueFlow.Transactions
