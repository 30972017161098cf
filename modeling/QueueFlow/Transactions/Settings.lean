import QueueFlow.Transactions.Obedience

/-!
# Settings of a transaction

`SET LOCAL` before the first statement of a program: each statement carries the settings in force
when it is sent, and the end of a transaction resets them.
-/

namespace QueueFlow.Transactions

variable {ι Setting Store Write Lock Stmt Err Msg Env α : Type} {Res : Stmt → Type} [DecidableEq ι]
  [DecidableEq Lock]

/-- The program in a session whose transaction has `now` and whose later ones will have `reset`. -/
def Program.scoped (now reset : Setting) : Program Stmt Res Err Msg Env α →
    Program (Setting × Stmt) (fun sent => Res sent.2) Err Msg Env α
  | .ret value => .ret value
  | .raise error => .raise error
  | .performs stmt next => .performs (now, stmt) fun answer => (next answer).scoped now reset
  | .observes next => .observes fun env => (next env).scoped now reset
  | .commits next => .commits (next.scoped reset reset)
  | .publishes msg next => .publishes msg (next.scoped now reset)

def Action.isCommit : Action Stmt Res Write Msg → Bool
  | .committed _ => true
  | _ => false

def hasCommitted (past : List (Action Stmt Res Write Msg)) : Bool := past.any Action.isCommit

/-- Statements carry the first settings until there is a commit. -/
def InForce (first reset : Setting)
    (past : List (Action (Setting × Stmt) (fun sent => Res sent.2) Write Msg)) :
    Action (Setting × Stmt) (fun sent => Res sent.2) Write Msg → Prop
  | .performed sent _ _ => sent.1 = if hasCommitted past then reset else first
  | _ => True

variable {E : Engine Store Write Lock (Setting × Stmt) (fun sent => Res sent.2) Err Env}
  {env : Nat → Env} {first reset now : Setting}

@[simp] theorem hasCommitted_concat (past : List (Action Stmt Res Write Msg))
    (action : Action Stmt Res Write Msg) :
    hasCommitted (past ++ [action]) = (hasCommitted past || action.isCommit) := by
  simp [hasCommitted]

omit [DecidableEq Lock] in
theorem obeys_scoped (program : Program Stmt Res Err Msg Env α)
    {past : List (Action (Setting × Stmt) (fun sent => Res sent.2) Write Msg)}
    {pending : List Write} (current : now = if hasCommitted past then reset else first) :
    Obeys E env (InForce first reset) (fun _ _ _ => True) (program.scoped now reset) past
      pending := by
  induction program generalizing now past pending with
  | ret value => trivial
  | raise error => trivial
  | performs stmt next ih =>
      exact fun _ value _ _ _ => ⟨current, ih value (by simpa [Action.isCommit] using current)⟩
  | observes next ih => exact fun tick => ih _ current
  | commits next ih => exact ⟨trivial, ih (by simp [Action.isCommit])⟩
  | publishes msg next ih => exact ⟨trivial, ih (by simpa [Action.isCommit] using current)⟩

variable {ok : World ι Store Write Lock (Setting × Stmt) (fun sent => Res sent.2) Err Msg Env α →
    ι → Prop} {w : World ι Store Write Lock (Setting × Stmt) (fun sent => Res sent.2) Err Msg Env α}
  {start : Store} {programs : ι → Program Stmt Res Err Msg Env α} {settings : ι → Setting}

/-- Whatever the database does, a statement carries what its session has set, or nothing more. -/
theorem Reaches.settings_sent
    (reach : Reaches E env ok
      ⟨.start start, fun i => .running ((programs i).scoped (settings i) reset)⟩ w)
    {n : Nat} {i : ι} {setting : Setting} {stmt : Stmt} {value : Res stmt} {writes : List Write}
    (sent : w.state.log[n]? = some ⟨i, .performed (setting, stmt) value writes⟩) :
    setting = if hasCommitted (pastOf i (w.state.log.take n)) then reset else settings i :=
  (reach.obeys (P := fun i => InForce (settings i) reset) fun i =>
    obeys_scoped (programs i) (by simp [hasCommitted])).1 n _ sent

end QueueFlow.Transactions
