import Mathlib.Tactic.Common

namespace QueueFlow.Transactions

/-- A database client: a tree of statements, each branching on the answer it gets. -/
inductive Program (Stmt : Type) (Res : Stmt → Type) (Err Msg Env α : Type) : Type where
  | ret (value : α)
  | raise (error : Err)
  | performs (stmt : Stmt) (next : Res stmt → Program Stmt Res Err Msg Env α)
  | observes (next : Env → Program Stmt Res Err Msg Env α)
  | commits (next : Program Stmt Res Err Msg Env α)
  | publishes (msg : Msg) (next : Program Stmt Res Err Msg Env α)

namespace Program

variable {Stmt : Type} {Res : Stmt → Type} {Err Msg Env α β γ : Type}

protected def bind : Program Stmt Res Err Msg Env α → (α → Program Stmt Res Err Msg Env β) →
    Program Stmt Res Err Msg Env β
  | .ret value, rest => rest value
  | .raise error, _ => .raise error
  | .performs stmt next, rest => .performs stmt fun answer => (next answer).bind rest
  | .observes next, rest => .observes fun env => (next env).bind rest
  | .commits next, rest => .commits (next.bind rest)
  | .publishes msg next, rest => .publishes msg (next.bind rest)

instance : Monad (Program Stmt Res Err Msg Env) where
  pure := .ret
  bind := Program.bind

def perform (stmt : Stmt) : Program Stmt Res Err Msg Env (Res stmt) := .performs stmt .ret
def observe : Program Stmt Res Err Msg Env Env := .observes .ret
def commit : Program Stmt Res Err Msg Env Unit := .commits (.ret ())
def publish (msg : Msg) : Program Stmt Res Err Msg Env Unit := .publishes msg (.ret ())

/-- Rewrites the errors a program raises by itself; failures of its statements pass unchanged. -/
def mapRaise (f : Err → Err) : Program Stmt Res Err Msg Env α → Program Stmt Res Err Msg Env α
  | .ret value => .ret value
  | .raise error => .raise (f error)
  | .performs stmt next => .performs stmt fun answer => (next answer).mapRaise f
  | .observes next => .observes fun env => (next env).mapRaise f
  | .commits next => .commits (next.mapRaise f)
  | .publishes msg next => .publishes msg (next.mapRaise f)

@[simp] theorem pure_eq (value : α) :
    (pure value : Program Stmt Res Err Msg Env α) = .ret value := rfl

@[simp] theorem bind_eq (program : Program Stmt Res Err Msg Env α)
    (rest : α → Program Stmt Res Err Msg Env β) : program >>= rest = program.bind rest := rfl

@[simp] theorem map_eq (f : α → β) (program : Program Stmt Res Err Msg Env α) :
    f <$> program = program.bind fun value => .ret (f value) := rfl

@[simp] theorem ret_bind (value : α) (rest : α → Program Stmt Res Err Msg Env β) :
    (Program.ret value).bind rest = rest value := rfl

@[simp] theorem raise_bind (error : Err) (rest : α → Program Stmt Res Err Msg Env β) :
    (Program.raise error).bind rest = .raise error := rfl

@[simp] theorem performs_bind (stmt : Stmt) (next : Res stmt → Program Stmt Res Err Msg Env α)
    (rest : α → Program Stmt Res Err Msg Env β) :
    (Program.performs stmt next).bind rest =
      .performs stmt fun answer => (next answer).bind rest := rfl

@[simp] theorem observes_bind (next : Env → Program Stmt Res Err Msg Env α)
    (rest : α → Program Stmt Res Err Msg Env β) :
    (Program.observes next).bind rest = .observes fun env => (next env).bind rest := rfl

@[simp] theorem perform_bind (stmt : Stmt) (rest : Res stmt → Program Stmt Res Err Msg Env β) :
    (perform stmt).bind rest = .performs stmt rest := rfl

@[simp] theorem observe_bind (rest : Env → Program Stmt Res Err Msg Env β) :
    observe.bind rest = .observes rest := rfl

@[simp] theorem commit_bind (rest : Unit → Program Stmt Res Err Msg Env β) :
    commit.bind rest = .commits (rest ()) := rfl

@[simp] theorem publish_bind (msg : Msg) (rest : Unit → Program Stmt Res Err Msg Env β) :
    (publish msg).bind rest = .publishes msg (rest ()) := rfl

@[simp] theorem bind_ret (program : Program Stmt Res Err Msg Env α) :
    program.bind .ret = program := by
  induction program with
  | ret value => rfl
  | raise error => rfl
  | performs stmt next ih => simp only [Program.bind, ih]
  | observes next ih => simp only [Program.bind, ih]
  | commits next ih => simp only [Program.bind, ih]
  | publishes msg next ih => simp only [Program.bind, ih]

@[simp] theorem bind_assoc (program : Program Stmt Res Err Msg Env α)
    (first : α → Program Stmt Res Err Msg Env β) (second : β → Program Stmt Res Err Msg Env γ) :
    (program.bind first).bind second = program.bind fun value => (first value).bind second := by
  induction program with
  | ret value => rfl
  | raise error => rfl
  | performs stmt next ih => simp only [Program.bind, ih]
  | observes next ih => simp only [Program.bind, ih]
  | commits next ih => simp only [Program.bind, ih]
  | publishes msg next ih => simp only [Program.bind, ih]

@[simp] theorem mapRaise_bind (f : Err → Err) (program : Program Stmt Res Err Msg Env α)
    (rest : α → Program Stmt Res Err Msg Env β) :
    (program.bind rest).mapRaise f = (program.mapRaise f).bind fun value =>
      (rest value).mapRaise f := by
  induction program with
  | ret value => rfl
  | raise error => rfl
  | performs stmt next ih => simp only [Program.bind, mapRaise, ih]
  | observes next ih => simp only [Program.bind, mapRaise, ih]
  | commits next ih => simp only [Program.bind, mapRaise, ih]
  | publishes msg next ih => simp only [Program.bind, mapRaise, ih]

@[simp] theorem mapRaise_ret (f : Err → Err) (value : α) :
    (Program.ret value : Program Stmt Res Err Msg Env α).mapRaise f = .ret value := rfl

@[simp] theorem mapRaise_perform (f : Err → Err) (stmt : Stmt) :
    (perform stmt : Program Stmt Res Err Msg Env (Res stmt)).mapRaise f = perform stmt := rfl

@[simp] theorem mapRaise_observe (f : Err → Err) :
    (observe : Program Stmt Res Err Msg Env Env).mapRaise f = observe := rfl

end Program

end QueueFlow.Transactions
