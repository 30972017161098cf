import QueueFlow.Transactions.RowHistory

/-!
# Integrity

Unique indexes and foreign keys under READ COMMITTED. A transaction checks a row in its own view,
and whoever enters an index keeps the lock of the entry until the transaction ends. That is enough
for the store, and every view of it, to stay intact.
-/

namespace QueueFlow.Transactions

/-- The unique index entries of a row, and the rows that its foreign keys name. -/
structure Schema (V Lock : Type) where
  entries : V → List Lock
  refs : V → List Lock

variable {ι Store Write Lock Stmt Err Msg Env α V : Type} {Res : Stmt → Type}
  [DecidableEq Lock]

namespace Schema

variable (schema : Schema V Lock) (E : Engine Store Write Lock Stmt Res Err Env)
  (row : Store → Lock → Option V) (value : Write → Option V)

structure Intact (store : Store) : Prop where
  distinct : ∀ lock other old new entry, row store lock = some old → row store other = some new →
    entry ∈ schema.entries old → entry ∈ schema.entries new → lock = other
  closed : ∀ lock old, row store lock = some old → ∀ ref ∈ schema.refs old,
    (row store ref).isSome = true

/-- A row that disappears is one that no foreign key can name. -/
def Lasting (write : Write) : Prop :=
  value write = none → ∀ old, E.lockOf write ∉ schema.refs old

/-- What is checked before a row is written. An index entry that the row did not have is in no other
row that the transaction can see, and locked. -/
structure Admits (taken : List Lock) (view : Store) (write : Write) : Prop where
  lasting : schema.Lasting E value write
  present : ∀ new, value write = some new → ∀ ref ∈ schema.refs new, (row view ref).isSome = true
  unique : ∀ new, value write = some new → ∀ entry ∈ schema.entries new,
    (∃ old, row view (E.lockOf write) = some old ∧ entry ∈ schema.entries old) ∨
      entry ∈ taken ∧ ∀ lock old, row view lock = some old → entry ∉ schema.entries old

/-- Every index entry of the view is in the store's version of its row already, or locked by `i`. -/
def Owned (locks : Lock → Option ι) (i : ι) (store view : Store) : Prop :=
  ∀ lock new entry, row view lock = some new → entry ∈ schema.entries new →
    (∃ old, row store lock = some old ∧ entry ∈ schema.entries old) ∨ locks entry = some i

/-- Each write of a statement is checked in the view that the earlier ones leave. -/
def AdmitsAll (taken : List Lock) (view : Store) (writes : List Write) : Prop :=
  Checked E (fun store _ => store) (schema.Admits E row value taken) view writes

variable {schema E row value}

/-! ## One transaction -/

section
variable {store view : Store} {write : Write} {writes : List Write} {taken : List Lock}
  {locks : Lock → Option ι} {i : ι}

theorem isSome_apply (rowed : Rowed E row value) (lasting : schema.Lasting E value write)
    {old : V} {ref : Lock} (refers : ref ∈ schema.refs old)
    (present : (row view ref).isSome = true) : (row (E.apply view write) ref).isSome = true := by
  rw [rowed.apply]
  split
  · rename_i same
    cases written : value write with
    | none => exact absurd (same ▸ refers) (lasting written old)
    | some new => rfl
  · exact present

theorem isSome_applyAll (rowed : Rowed E row value)
    (lasting : ∀ write ∈ writes, schema.Lasting E value write) {old : V} {ref : Lock}
    (refers : ref ∈ schema.refs old) (present : (row view ref).isSome = true) :
    (row (E.applyAll view writes) ref).isSome = true := by
  induction writes generalizing view with
  | nil => exact present
  | cons write writes ih =>
      rw [List.forall_mem_cons] at lasting
      exact ih lasting.2 (isSome_apply rowed lasting.1 refers present)

omit [DecidableEq Lock] in
/-- A new version has the index entries of the row it replaces, or entries of nobody. -/
theorem distinct_written (intact : schema.Intact row view)
    (admits : schema.Admits E row value taken view write) {lock : Lock} {old new : V} {entry : Lock}
    (written : value write = some new) (found : row view lock = some old)
    (enters : entry ∈ schema.entries new) (entered : entry ∈ schema.entries old) :
    E.lockOf write = lock := by
  rcases admits.unique new written entry enters with ⟨before, replaced, had⟩ | ⟨_, nobody⟩
  · exact intact.distinct _ _ _ _ _ replaced found had entered
  · exact absurd entered (nobody _ _ found)

theorem Intact.apply (rowed : Rowed E row value) (intact : schema.Intact row view)
    (admits : schema.Admits E row value taken view write) :
    schema.Intact row (E.apply view write) where
  distinct lock other old new entry first second enters entered := by
    rw [rowed.apply] at first second
    split at first
    · rename_i mine
      split at second
      · rename_i too
        exact mine.symm.trans too
      · exact mine.symm.trans (distinct_written intact admits first second enters entered)
    · split at second
      · rename_i mine
        exact (distinct_written intact admits second first entered enters).symm.trans mine
      · exact intact.distinct _ _ _ _ _ first second enters entered
  closed lock old found ref refers := by
    rw [rowed.apply] at found
    refine isSome_apply rowed admits.lasting refers ?_
    split at found
    · exact admits.present old found ref refers
    · exact intact.closed lock old found ref refers

theorem Intact.applyAll (rowed : Rowed E row value) (intact : schema.Intact row view)
    (admits : schema.AdmitsAll E row value taken view writes) :
    schema.Intact row (E.applyAll view writes) := by
  induction writes generalizing view with
  | nil => exact intact
  | cons write writes ih => exact ih (intact.apply rowed admits.1) admits.2

theorem Owned.apply (rowed : Rowed E row value) (owned : schema.Owned row locks i store view)
    (admits : schema.Admits E row value taken view write)
    (held : ∀ entry ∈ taken, locks entry = some i) :
    schema.Owned row locks i store (E.apply view write) := by
  intro lock new entry found enters
  rw [rowed.apply] at found
  split at found
  · rename_i mine
    rcases admits.unique new found entry enters with ⟨old, replaced, had⟩ | ⟨inside, _⟩
    · rw [mine] at replaced
      exact owned lock old entry replaced had
    · exact .inr (held entry inside)
  · exact owned lock new entry found enters

theorem Owned.applyAll (rowed : Rowed E row value) (owned : schema.Owned row locks i store view)
    (admits : schema.AdmitsAll E row value taken view writes)
    (held : ∀ entry ∈ taken, locks entry = some i) :
    schema.Owned row locks i store (E.applyAll view writes) := by
  induction writes generalizing view with
  | nil => exact owned
  | cons write writes ih => exact ih (owned.apply rowed admits.1 held) admits.2

omit [DecidableEq Lock] in
theorem lasting_of_admitsAll (admits : schema.AdmitsAll E row value taken view writes) :
    ∀ write ∈ writes, schema.Lasting E value write := by
  intro write member
  obtain ⟨_, checked⟩ := admits.of_mem member
  exact checked.lasting

/-- Rows that enter no unique index, all of whose foreign keys name rows of the view. -/
theorem admitsAll_of_plain (rowed : Rowed E row value)
    (lasting : ∀ write ∈ writes, schema.Lasting E value write)
    (plain : ∀ write ∈ writes, ∀ new, value write = some new → schema.entries new = [] ∧
      ∀ ref ∈ schema.refs new, (row view ref).isSome = true) :
    schema.AdmitsAll E row value taken view writes := by
  induction writes generalizing view with
  | nil => trivial
  | cons write writes ih =>
      rw [List.forall_mem_cons] at lasting plain
      refine ⟨⟨lasting.1, fun new written => (plain.1 new written).2, ?_⟩, ih lasting.2 ?_⟩
      · intro new written entry enters
        simp [(plain.1 new written).1] at enters
      · intro later member new written
        obtain ⟨bare, present⟩ := plain.2 later member new written
        exact ⟨bare, fun ref refers => isSome_apply rowed lasting.1 refers (present ref refers)⟩

end

/-! ## All transactions -/

variable (schema E row value)

structure Guarded (state : State ι Store Write Lock Stmt Res Msg Env) : Prop where
  store : schema.Intact row state.store
  views : ∀ i, schema.Intact row (state.view E i)
  owned : ∀ i, schema.Owned row state.locks i state.store (state.view E i)
  lasting : ∀ i, ∀ write ∈ (state.tx i).writes, schema.Lasting E value write

variable {schema E row value} {state : State ι Store Write Lock Stmt Res Msg Env} {env : Nat → Env}
  {Ok : Option V → Write → Prop} {start : Store}

omit [DecidableEq Lock] in
theorem guarded_start (intact : schema.Intact row start) :
    schema.Guarded E row value (.start start : State ι Store Write Lock Stmt Res Msg Env) where
  store := intact
  views _ := intact
  owned _ _ new _ found enters := .inl ⟨new, found, enters⟩
  lasting _ _ member := by simp [State.start, Tx.closed] at member

variable [DecidableEq ι] in
theorem guarded_performed (rowed : Rowed E row value) (guarded : schema.Guarded E row value state)
    {i : ι} {stmt : Stmt} {answer : Res stmt} {writes : List Write} {taken : List Lock}
    (available : ∀ lock ∈ taken, state.busy i lock = false)
    (admits : schema.AdmitsAll E row value taken (state.view E i) writes) :
    schema.Guarded E row value (state.performed env i stmt answer writes taken) := by
  have own : (state.performed env i stmt answer writes taken).view E i =
      E.applyAll (state.view E i) writes := by
    simp [State.view, State.performed, Engine.applyAll_append]
  have others {j : ι} (other : j ≠ i) :
      (state.performed env i stmt answer writes taken).view E j = state.view E j := by
    simp [State.view, State.performed, other]
  have mine (lock : Lock) (inside : lock ∈ taken) :
      (state.performed env i stmt answer writes taken).locks lock = some i := if_pos inside
  refine ⟨guarded.store, fun j => ?_, fun j => ?_, fun j => ?_⟩
  · by_cases same : j = i
    · subst same
      rw [own]
      exact (guarded.views j).applyAll rowed admits
    · rw [others same]
      exact guarded.views j
  · by_cases same : j = i
    · subst same
      rw [own]
      refine Owned.applyAll rowed (fun lock new entry found enters => ?_) admits mine
      rcases guarded.owned j lock new entry found enters with stored | held
      · exact .inl stored
      · refine .inr ?_
        simp only [State.performed, State.acquire, held, ite_self]
    · rw [others same]
      intro lock new entry found enters
      rcases guarded.owned j lock new entry found enters with stored | held
      · exact .inl stored
      · refine .inr ?_
        simp only [State.performed, State.acquire]
        rw [if_neg, held]
        intro inside
        have free := available entry inside
        simp [State.busy, held, same] at free
  · by_cases same : j = i
    · subst same
      intro write member
      simp only [State.performed, Function.update_self, List.mem_append] at member
      rcases member with earlier | new
      · exact guarded.lasting j write earlier
      · exact lasting_of_admitsAll admits write new
    · simpa [State.performed, same] using guarded.lasting j

omit [DecidableEq Lock] in
variable [DecidableEq ι] in
theorem guarded_rolledBack (guarded : schema.Guarded E row value state) (i : ι) :
    schema.Guarded E row value (state.rolledBack i) := by
  have own : (state.rolledBack i).view E i = state.store := by
    simp [State.view, State.rolledBack, State.closed, Tx.closed]
  have others {j : ι} (other : j ≠ i) : (state.rolledBack i).view E j = state.view E j := by
    simp [State.view, State.rolledBack, State.closed, other]
  refine ⟨guarded.store, fun j => ?_, fun j => ?_, fun j => ?_⟩
  · by_cases same : j = i
    · subst same
      rw [own]
      exact guarded.store
    · rw [others same]
      exact guarded.views j
  · by_cases same : j = i
    · subst same
      rw [own]
      exact fun _ new _ found enters => .inl ⟨new, found, enters⟩
    · rw [others same]
      intro lock new entry found enters
      rcases guarded.owned j lock new entry found enters with stored | held
      · exact .inl stored
      · refine .inr ?_
        simp [State.rolledBack, State.closed, State.release, held, same]
  · by_cases same : j = i
    · subst same
      simp [State.rolledBack, State.closed, Tx.closed]
    · simpa [State.rolledBack, State.closed, same] using guarded.lasting j

/-! ### A commit under an open transaction -/

section
variable {i j : ι} {lock : Lock}

theorem row_applyAll_congr (rowed : Rowed E row value) {store other : Store} {writes : List Write}
    (same : row store lock = row other lock) :
    row (E.applyAll store writes) lock = row (E.applyAll other writes) lock := by
  induction writes generalizing store other with
  | nil => exact same
  | cons write writes ih =>
      refine ih ?_
      rw [rowed.apply, rowed.apply, same]

/-- After a commit of `i`, what `j` sees of a row is what one of the two saw; the other one did not
write it. -/
theorem merged_cases (rowed : Rowed E row value) (serial : Serial E row Ok start state)
    (other : j ≠ i) (lock : Lock) :
    row (E.applyAll (state.view E i) (state.tx j).writes) lock = row (state.view E j) lock ∧
        row (state.view E i) lock = row state.store lock ∨
      row (E.applyAll (state.view E i) (state.tx j).writes) lock = row (state.view E i) lock ∧
        row (state.view E j) lock = row state.store lock := by
  by_cases wrote : ∃ write ∈ (state.tx j).writes, E.lockOf write = lock
  · obtain ⟨write, member, locked⟩ := wrote
    have untouched : row (state.view E i) lock = row state.store lock := by
      refine row_applyAll_of_unlocked rowed _ fun write' member' locked' => ?_
      have mine := serial.held j write member
      have too := serial.held i write' member'
      rw [locked] at mine
      rw [locked', mine] at too
      exact other (Option.some.inj too)
    exact .inl ⟨row_applyAll_congr rowed untouched, untouched⟩
  · push Not at wrote
    exact .inr ⟨row_applyAll_of_unlocked rowed _ wrote, row_applyAll_of_unlocked rowed _ wrote⟩

omit [DecidableEq Lock] in
/-- A row that only `i` wrote and one that only `j` wrote. -/
theorem distinct_across (guarded : schema.Guarded E row value state) (other : j ≠ i)
    {lock' : Lock} {old new : V} {entry : Lock} (first : row (state.view E i) lock = some old)
    (mine : row (state.view E j) lock = row state.store lock)
    (second : row (state.view E j) lock' = some new)
    (theirs : row (state.view E i) lock' = row state.store lock')
    (enters : entry ∈ schema.entries old) (entered : entry ∈ schema.entries new) :
    lock = lock' := by
  rcases guarded.owned i lock old entry first enters with ⟨stored, before, had⟩ | held
  · exact (guarded.views j).distinct _ _ _ _ _ (mine.trans before) second had entered
  · rcases guarded.owned j lock' new entry second entered with ⟨stored, before, had⟩ | held'
    · exact (guarded.views i).distinct _ _ _ _ _ first (theirs.trans before) enters had
    · rw [held] at held'
      exact (other (Option.some.inj held').symm).elim

theorem intact_merged (rowed : Rowed E row value) (guarded : schema.Guarded E row value state)
    (serial : Serial E row Ok start state) (other : j ≠ i) :
    schema.Intact row (E.applyAll (state.view E i) (state.tx j).writes) where
  distinct lock lock' old new entry first second enters entered := by
    rcases merged_cases rowed serial other lock with ⟨same, mine⟩ | ⟨same, mine⟩ <;>
      rcases merged_cases rowed serial other lock' with ⟨same', theirs⟩ | ⟨same', theirs⟩ <;>
      rw [same] at first <;> rw [same'] at second
    · exact (guarded.views j).distinct _ _ _ _ _ first second enters entered
    · exact (distinct_across guarded other second theirs first mine entered enters).symm
    · exact distinct_across guarded other first mine second theirs enters entered
    · exact (guarded.views i).distinct _ _ _ _ _ first second enters entered
  closed lock old found ref refers := by
    rcases merged_cases rowed serial other lock with ⟨same, _⟩ | ⟨same, _⟩ <;> rw [same] at found
    · have present := (guarded.views j).closed lock old found ref refers
      rcases merged_cases rowed serial other ref with ⟨same, _⟩ | ⟨same, stored⟩
      · rwa [same]
      · rw [same]
        rw [stored] at present
        exact isSome_applyAll rowed (guarded.lasting i) refers present
    · exact isSome_applyAll rowed (guarded.lasting j) refers
        ((guarded.views i).closed lock old found ref refers)

variable [DecidableEq ι] in
theorem owned_merged (rowed : Rowed E row value) (guarded : schema.Guarded E row value state)
    (serial : Serial E row Ok start state) (other : j ≠ i) :
    schema.Owned row (State.release i state.locks) j (state.view E i)
      (E.applyAll (state.view E i) (state.tx j).writes) := by
  intro lock new entry found enters
  rcases merged_cases rowed serial other lock with ⟨same, mine⟩ | ⟨same, _⟩ <;> rw [same] at found
  · rcases guarded.owned j lock new entry found enters with ⟨old, stored, had⟩ | held
    · exact .inl ⟨old, mine.trans stored, had⟩
    · refine .inr ?_
      simp [State.release, held, other]
  · exact .inl ⟨new, found, enters⟩

end

variable [DecidableEq ι] in
theorem guarded_committed (rowed : Rowed E row value) (guarded : schema.Guarded E row value state)
    (serial : Serial E row Ok start state) (i : ι) :
    schema.Guarded E row value (state.committed E i) := by
  have own : (state.committed E i).view E i = state.view E i := by
    simp [State.view, State.committed, State.closed, Tx.closed]
  have others {j : ι} (other : j ≠ i) : (state.committed E i).view E j =
      E.applyAll (state.view E i) (state.tx j).writes := by
    simp [State.view, State.committed, State.closed, other]
  refine ⟨guarded.views i, fun j => ?_, fun j => ?_, fun j => ?_⟩
  · by_cases same : j = i
    · subst same
      rw [own]
      exact guarded.views j
    · rw [others same]
      exact intact_merged rowed guarded serial same
  · by_cases same : j = i
    · subst same
      rw [own]
      exact fun _ new _ found enters => .inl ⟨new, found, enters⟩
    · rw [others same]
      exact owned_merged rowed guarded serial same
  · by_cases same : j = i
    · subst same
      simp [State.committed, State.closed, Tx.closed]
    · simpa [State.committed, State.closed, same] using guarded.lasting j

end Schema

variable [DecidableEq ι] {E : Engine Store Write Lock Stmt Res Err Env} {env : Nat → Env}
  {row : Store → Lock → Option V} {value : Write → Option V} {schema : Schema V Lock}
  {ok : World ι Store Write Lock Stmt Res Err Msg Env α → ι → Prop}
  {session : ι → Session Stmt Res Err Msg Env α} {start : Store}
  {w : World ι Store Write Lock Stmt Res Err Msg Env α}

/-- If every statement checks what it writes in an intact view, the store and all views stay intact,
whatever the interleaving. -/
theorem Reaches.guarded (rowed : Rowed E row value) (intact : schema.Intact row start)
    (reach : Reaches E env ok ⟨.start start, session⟩ w)
    (admits : ∀ (w : World ι Store Write Lock Stmt Res Err Msg Env α) i stmt value' writes locks,
      schema.Intact row (w.state.view E i) →
      E.exec stmt (w.state.context E env i) = .done value' writes locks →
      schema.AdmitsAll E row value (E.needs stmt (w.state.context E env i) ++ locks)
        (w.state.view E i) writes) :
    schema.Guarded E row value w.state := by
  refine reach.moves (motive := fun w => schema.Guarded E row value w.state)
    (Schema.guarded_start intact) ?_
  intro w i program session state before guarded running moved meets
  cases moved with
  | returned => exact Schema.guarded_rolledBack guarded i
  | raised => exact Schema.guarded_rolledBack guarded i
  | @performed stmt next value writes locks ready exec =>
      refine Schema.guarded_performed rowed guarded ?_
        (admits w i stmt value writes locks (guarded.views i) exec)
      intro lock member
      rcases List.mem_append.mp member with needed | extra
      · exact ready lock needed
      · exact E.free _ _ _ _ _ exec lock extra
  | failed => exact Schema.guarded_rolledBack guarded i
  | observed => exact ⟨guarded.store, guarded.views, guarded.owned, guarded.lasting⟩
  | committed =>
      have serial : Serial E row (fun _ _ => True) start w.state :=
        before.serial rowed fun _ _ _ _ _ writes _ _ _ _ _ => checked_true _ writes
      exact Schema.guarded_committed rowed guarded serial i
  | published => exact ⟨guarded.store, guarded.views, guarded.owned, guarded.lasting⟩
  | crashed => exact Schema.guarded_rolledBack guarded i

end QueueFlow.Transactions
