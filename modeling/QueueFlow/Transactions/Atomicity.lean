import QueueFlow.Transactions.Provenance

/-!
# All or nothing

A program is all or nothing if its first commit is the point of no return: it publishes nothing
before, and whatever the database answers afterwards, it does not end in an error. Answers after the
commit may be taken to `Fit` the committed writes.
-/

namespace QueueFlow.Transactions

variable {ι Store Write Lock Stmt Err Msg Env α β : Type} {Res : Stmt → Type} [DecidableEq ι]
  (E : Engine Store Write Lock Stmt Res Err Env) (env : Nat → Env)
  (Fit : List Write → (stmt : Stmt) → Res stmt → Prop)

/-- No answer that fits the committed writes leads to an error. -/
def Finishes (committed : List Write) : Program Stmt Res Err Msg Env α → Prop
  | .ret _ => True
  | .raise _ => False
  | .performs stmt next => (∀ context error, E.exec stmt context ≠ .fail error) ∧
      ∀ value, Fit committed stmt value → Finishes committed (next value)
  | .observes next => ∀ tick, Finishes committed (next (env tick))
  | .commits next => Finishes committed next
  | .publishes _ next => Finishes committed next

def AllOrNothing : Program Stmt Res Err Msg Env α → List Write → Prop
  | .ret _, _ => True
  | .raise _, _ => True
  | .performs stmt next, pending => ∀ context value writes locks,
      E.exec stmt context = .done value writes locks → AllOrNothing (next value) (pending ++ writes)
  | .observes next, pending => ∀ tick, AllOrNothing (next (env tick)) pending
  | .commits next, pending => Finishes E env Fit pending next
  | .publishes _ _, _ => False

variable {E env Fit}

theorem finishes_mapRaise {committed : List Write} {f : Err → Err}
    {program : Program Stmt Res Err Msg Env α} {rest : α → Program Stmt Res Err Msg Env β} :
    Finishes E env Fit committed ((program.mapRaise f).bind rest) ↔
      Finishes E env Fit committed (program.bind rest) := by
  induction program with
  | ret value => rfl
  | raise error => rfl
  | performs stmt next ih => simp only [Program.mapRaise, Program.bind, Finishes, ih]
  | observes next ih => simp only [Program.mapRaise, Program.bind, Finishes, ih]
  | commits next ih => simp only [Program.mapRaise, Program.bind, Finishes, ih]
  | publishes msg next ih => simp only [Program.mapRaise, Program.bind, Finishes, ih]

theorem allOrNothing_mapRaise {pending : List Write} {f : Err → Err}
    {program : Program Stmt Res Err Msg Env α} {rest : α → Program Stmt Res Err Msg Env β} :
    AllOrNothing E env Fit ((program.mapRaise f).bind rest) pending ↔
      AllOrNothing E env Fit (program.bind rest) pending := by
  induction program generalizing pending with
  | ret value => rfl
  | raise error => exact Iff.rfl
  | performs stmt next ih => simp only [Program.mapRaise, Program.bind, AllOrNothing, ih]
  | observes next ih => simp only [Program.mapRaise, Program.bind, AllOrNothing, ih]
  | commits next ih => simp only [Program.mapRaise, Program.bind, AllOrNothing, finishes_mapRaise]
  | publishes msg next ih => simp only [Program.mapRaise, Program.bind, AllOrNothing]

/-! ## Runs -/

def Unseen (past : List (Action Stmt Res Write Msg)) : Prop :=
  ∀ action ∈ past, ∃ stmt value writes, action = .performed stmt value writes

/-- Where an all-or-nothing session can be. -/
def Session.Stands (E : Engine Store Write Lock Stmt Res Err Env) (env : Nat → Env)
    (Fit : List Write → (stmt : Stmt) → Res stmt → Prop)
    (past : List (Action Stmt Res Write Msg)) (pending : List Write) :
    Session Stmt Res Err Msg Env α → Prop
  | .running program => (Unseen past ∧ AllOrNothing E env Fit program pending) ∨
      ∃ writes, .committed writes ∈ past ∧ Finishes E env Fit writes program
  | .raised _ => Unseen past
  | _ => True

theorem Unseen.performed {past : List (Action Stmt Res Write Msg)} (unseen : Unseen past)
    (stmt : Stmt) (value : Res stmt) (writes : List Write) :
    Unseen (past ++ [.performed stmt value writes]) := by
  intro action member
  rcases List.mem_append.mp member with earlier | new
  · exact unseen action earlier
  · exact ⟨stmt, value, writes, List.mem_singleton.mp new⟩

variable [DecidableEq Lock] {ok : World ι Store Write Lock Stmt Res Err Msg Env α → ι → Prop}
  {start : Store} {session : ι → Session Stmt Res Err Msg Env α}
  {w : World ι Store Write Lock Stmt Res Err Msg Env α}

/-- The own step of a session that has begun all-or-nothing. -/
private theorem stands_moved {i : ι} {program : Program Stmt Res Err Msg Env α}
    {next : Session Stmt Res Err Msg Env α} {state : State ι Store Write Lock Stmt Res Msg Env}
    (fits : ∀ stmt context value writes locks committed others,
      E.exec stmt context = .done value writes locks → context.view = E.applyAll start others →
        committed ⊆ others → Fit committed stmt value)
    (known : Provenance E env start w)
    (stands : (Session.running program).Stands E env Fit (pastOf i w.state.log)
      (w.state.tx i).writes)
    (moved : Move E env w.state i program next state) :
    next.Stands E env Fit (pastOf i state.log) (state.tx i).writes := by
  cases moved with
  | returned value => trivial
  | crashed => trivial
  | raised error =>
      rcases stands with ⟨unseen, _⟩ | ⟨writes, _, impossible⟩
      · exact unseen
      · exact impossible.elim
  | failed exec =>
      rcases stands with ⟨unseen, _⟩ | ⟨writes, _, never, _⟩
      · exact unseen
      · exact (never _ _ exec).elim
  | @performed stmt rest value writes locks ready exec =>
      have past : pastOf i (w.state.performed env i stmt value writes
          (E.needs stmt (w.state.context E env i) ++ locks)).log =
          pastOf i w.state.log ++ [.performed stmt value writes] := by
        simp [State.performed]
      rw [past]
      rcases stands with ⟨unseen, onward⟩ | ⟨committed, member, _, onward⟩
      · refine .inl ⟨unseen.performed stmt value writes, ?_⟩
        simpa [State.performed] using onward _ _ _ _ exec
      · refine .inr ⟨committed, List.mem_append_left _ member, onward value ?_⟩
        have view : (w.state.context E env i).view = E.applyAll start
            (committedWrites w.state.log ++ (w.state.tx i).writes) := by
          simp [State.context, State.view, known.replay, storeAt, Engine.applyAll_append]
        refine fits _ _ _ _ _ _ _ exec view fun write written => List.mem_append_left _ ?_
        exact mem_committedWrites.mpr ⟨i, committed, mem_pastOf.mp member, written⟩
  | observed rest =>
      rcases stands with ⟨unseen, onward⟩ | ⟨committed, member, onward⟩
      · exact .inl ⟨unseen, onward _⟩
      · exact .inr ⟨committed, member, onward _⟩
  | committed rest =>
      have past : pastOf i (w.state.committed E i).log =
          pastOf i w.state.log ++ [.committed (w.state.tx i).writes] := by
        simp [State.committed]
      rw [past]
      rcases stands with ⟨unseen, onward⟩ | ⟨committed, member, onward⟩
      · exact .inr ⟨_, by simp, onward⟩
      · exact .inr ⟨committed, List.mem_append_left _ member, onward⟩
  | published msg rest =>
      rcases stands with ⟨unseen, impossible⟩ | ⟨committed, member, onward⟩
      · exact impossible.elim
      · refine .inr ⟨committed, ?_, onward⟩
        simpa [State.published] using member

theorem Reaches.stands {i : ι} (reach : Reaches E env ok ⟨.start start, session⟩ w)
    (fits : ∀ stmt context value writes locks committed others,
      E.exec stmt context = .done value writes locks → context.view = E.applyAll start others →
        committed ⊆ others → Fit committed stmt value)
    (program : ∀ program, session i = .running program → AllOrNothing E env Fit program [])
    (alive : ∀ error, session i ≠ .raised error) :
    (w.session i).Stands E env Fit (pastOf i w.state.log) (w.state.tx i).writes := by
  refine reach.moves (motive := fun w => (w.session i).Stands E env Fit (pastOf i w.state.log)
    (w.state.tx i).writes) ?_ ?_
  · cases start : session i with
    | running first =>
        simp only [start]
        exact .inl ⟨fun action member => absurd member List.not_mem_nil, program first start⟩
    | raised error => exact (alive error start).elim
    | _ => simp only [start]; trivial
  · intro w j program next state before stands running moved _
    by_cases mine : j = i
    · subst mine
      rw [running] at stands
      simp only [Function.update_self]
      exact stands_moved fits before.provenance stands moved
    · have session : Function.update w.session j next i = w.session i :=
        Function.update_of_ne (Ne.symm mine) _ _
      have kept : pastOf i state.log = pastOf i w.state.log ∧ state.tx i = w.state.tx i := by
        cases moved <;> simp [State.rolledBack, State.closed, State.performed, State.ticked,
          State.committed, State.published, pastOf_other mine, Ne.symm mine]
      simpa only [session, kept] using stands

end QueueFlow.Transactions
