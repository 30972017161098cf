import QueueFlow.Transactions.Obedience

/-!
# What a program can raise

Which errors a program can end in, from the start or after it has sent a certain kind of statement.
-/

namespace QueueFlow.Transactions

variable {ι Store Write Lock Stmt Err Msg Env α β : Type} {Res : Stmt → Type} [DecidableEq ι]
  [DecidableEq Lock] {E : Engine Store Write Lock Stmt Res Err Env} {env : Nat → Env}
  {marked : Stmt → Prop} {fine : Err → Prop}

/-- All errors that the program could raise by itself are `fine`. -/
def Program.Raises (fine : Err → Prop) : Program Stmt Res Err Msg Env α → Prop
  | .ret _ => True
  | .raise error => fine error
  | .performs _ next => ∀ answer, (next answer).Raises fine
  | .observes next => ∀ env, (next env).Raises fine
  | .commits next => next.Raises fine
  | .publishes _ next => next.Raises fine

/-- All errors that the program could raise after a `marked` statement are `fine`. -/
def Program.RaisesAfter (marked : Stmt → Prop) (fine : Err → Prop) :
    Program Stmt Res Err Msg Env α → Prop
  | .ret _ => True
  | .raise _ => True
  | .performs stmt next => (marked stmt → ∀ answer, (next answer).Raises fine) ∧
      ∀ answer, (next answer).RaisesAfter marked fine
  | .observes next => ∀ env, (next env).RaisesAfter marked fine
  | .commits next => next.RaisesAfter marked fine
  | .publishes _ next => next.RaisesAfter marked fine

section
variable {program : Program Stmt Res Err Msg Env α} {rest : α → Program Stmt Res Err Msg Env β}

theorem raises_bind (first : program.Raises fine) (last : ∀ value, (rest value).Raises fine) :
    (program.bind rest).Raises fine := by
  induction program with
  | ret value => exact last value
  | raise error => exact first
  | performs stmt next ih => exact fun answer => ih answer (first answer)
  | observes next ih => exact fun env => ih env (first env)
  | commits next ih => exact ih first
  | publishes msg next ih => exact ih first

theorem raisesAfter_of_raises (raises : program.Raises fine) : program.RaisesAfter marked fine := by
  induction program with
  | ret value => trivial
  | raise error => trivial
  | performs stmt next ih => exact ⟨fun _ => raises, fun answer => ih answer (raises answer)⟩
  | observes next ih => exact fun env => ih env (raises env)
  | commits next ih => exact ih raises
  | publishes msg next ih => exact ih raises

theorem raisesAfter_then (first : program.RaisesAfter marked fine)
    (last : ∀ value, (rest value).Raises fine) : (program.bind rest).RaisesAfter marked fine := by
  induction program with
  | ret value => exact raisesAfter_of_raises (last value)
  | raise error => trivial
  | performs stmt next ih =>
      exact ⟨fun sent answer => raises_bind (first.1 sent answer) last,
        fun answer => ih answer (first.2 answer)⟩
  | observes next ih => exact fun env => ih env (first env)
  | commits next ih => exact ih first
  | publishes msg next ih => exact ih first

end

/-! ## Runs -/

def Session.Raises (fine : Err → Prop) : Session Stmt Res Err Msg Env α → Prop
  | .running program => program.Raises fine
  | .raised error => fine error
  | _ => True

def Session.RaisesAfter (marked : Stmt → Prop) (fine : Err → Prop) :
    Session Stmt Res Err Msg Env α → Prop
  | .running program => program.RaisesAfter marked fine
  | _ => True

section
variable {ok : World ι Store Write Lock Stmt Res Err Msg Env α → ι → Prop}
  {start w : World ι Store Write Lock Stmt Res Err Msg Env α} {i : ι}

private theorem follows_of_move {P : Session Stmt Res Err Msg Env α → Prop}
    (reach : Reaches E env ok start w) (base : P (start.session i))
    (move : ∀ (state state' : State ι Store Write Lock Stmt Res Msg Env) program session,
      P (.running program) → Move E env state i program session state' → P session) :
    P (w.session i) := by
  refine reach.moves (motive := fun w => P (w.session i)) base ?_
  intro w j program session state _ holds running moved _
  by_cases mine : i = j
  · subst mine
    simpa using move _ _ _ _ (running ▸ holds) moved
  · simpa [mine] using holds

theorem Reaches.raises (reach : Reaches E env ok start w)
    (fails : ∀ stmt context error, E.exec stmt context = .fail error → fine error)
    (raises : (start.session i).Raises fine) : (w.session i).Raises fine := by
  refine follows_of_move reach raises fun state state' program session current moved => ?_
  cases moved with
  | returned value => trivial
  | raised error => exact current
  | performed ready exec => exact current _
  | failed exec => exact fails _ _ _ exec
  | observed next => exact current _
  | committed next => exact current
  | published msg next => exact current
  | crashed => trivial

theorem Reaches.raisesAfter (reach : Reaches E env ok start w)
    (raises : (start.session i).RaisesAfter marked fine) :
    (w.session i).RaisesAfter marked fine := by
  refine follows_of_move reach raises fun state state' program session current moved => ?_
  cases moved with
  | performed ready exec => exact current.2 _
  | observed next => exact current _
  | committed next => exact current
  | published msg next => exact current
  | _ => trivial

/-- A session that is about to send a marked statement ends in no other errors from then on. -/
theorem Reaches.raises_of_marked {stmt : Stmt} (reach : Reaches E env ok start w)
    (fails : ∀ stmt context error, E.exec stmt context = .fail error → fine error)
    (sends : (start.session i).stmt? = some stmt) (isMarked : marked stmt)
    (raises : (start.session i).RaisesAfter marked fine) : (w.session i).Raises fine := by
  refine reach.raises fails ?_
  cases current : start.session i with
  | running program =>
      rw [current] at sends raises
      cases program with
      | performs other next =>
          cases sends
          exact raises.1 isMarked
      | _ => cases sends
  | _ =>
      rw [current] at sends
      cases sends

end

end QueueFlow.Transactions
