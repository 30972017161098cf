import QueueFlow.Transactions.Program
import Mathlib.Data.List.Basic

namespace QueueFlow.Transactions

/-- What a statement can see: the rows of its READ COMMITTED view, the locks that other
transactions hold, and the surroundings at its own start and at its transaction's start. -/
structure Context (Store Lock Env : Type) where
  view : Store
  busy : Lock → Bool
  began : Env
  env : Env

inductive Outcome (Write Lock Err α : Type) where
  | done (value : α) (writes : List Write) (locks : List Lock)
  | fail (error : Err)

/-- A row-locking database. `needs` are the locks a statement waits for before it looks at any
row; `exec` may take further free locks. Every row it writes is then locked. -/
structure Engine (Store Write Lock Stmt : Type) (Res : Stmt → Type) (Err Env : Type) where
  apply : Store → Write → Store
  lockOf : Write → Lock
  needs : Stmt → Context Store Lock Env → List Lock
  exec : (stmt : Stmt) → Context Store Lock Env → Outcome Write Lock Err (Res stmt)
  locked : ∀ stmt context value writes locks, exec stmt context = .done value writes locks →
    ∀ write ∈ writes, lockOf write ∈ needs stmt context ++ locks
  free : ∀ stmt context value writes locks, exec stmt context = .done value writes locks →
    ∀ lock ∈ locks, context.busy lock = false

inductive Action (Stmt : Type) (Res : Stmt → Type) (Write Msg : Type) where
  | performed (stmt : Stmt) (value : Res stmt) (writes : List Write)
  | committed (writes : List Write)
  | published (msg : Msg)

structure Event (ι Stmt : Type) (Res : Stmt → Type) (Write Msg : Type) where
  owner : ι
  action : Action Stmt Res Write Msg

structure Tx (Write Env : Type) where
  began : Option Env
  writes : List Write

def Tx.closed {Write Env : Type} : Tx Write Env := ⟨none, []⟩

structure State (ι Store Write Lock Stmt : Type) (Res : Stmt → Type) (Msg Env : Type) where
  store : Store
  locks : Lock → Option ι
  tx : ι → Tx Write Env
  tick : Nat
  log : List (Event ι Stmt Res Write Msg)

section
variable {ι Store Write Lock Stmt Err Msg Env : Type} {Res : Stmt → Type}

def Engine.applyAll (E : Engine Store Write Lock Stmt Res Err Env) (store : Store)
    (writes : List Write) : Store :=
  writes.foldl E.apply store

@[simp] theorem Engine.applyAll_nil (E : Engine Store Write Lock Stmt Res Err Env)
    (store : Store) : E.applyAll store [] = store := rfl

@[simp] theorem Engine.applyAll_cons (E : Engine Store Write Lock Stmt Res Err Env)
    (store : Store) (write : Write) (writes : List Write) :
    E.applyAll store (write :: writes) = E.applyAll (E.apply store write) writes := rfl

theorem Engine.applyAll_append (E : Engine Store Write Lock Stmt Res Err Env) (store : Store)
    (first last : List Write) :
    E.applyAll store (first ++ last) = E.applyAll (E.applyAll store first) last := by
  simp only [Engine.applyAll, List.foldl_append]

def State.start (store : Store) : State ι Store Write Lock Stmt Res Msg Env where
  store := store
  locks := fun _ => none
  tx := fun _ => .closed
  tick := 0
  log := []

end

namespace State

variable {ι Store Write Lock Stmt Err Msg Env : Type} {Res : Stmt → Type} [DecidableEq ι]
  [DecidableEq Lock] (E : Engine Store Write Lock Stmt Res Err Env) (env : Nat → Env)
  (state : State ι Store Write Lock Stmt Res Msg Env)

def view (i : ι) : Store := E.applyAll state.store (state.tx i).writes

def busy (i : ι) (lock : Lock) : Bool :=
  match state.locks lock with
  | none => false
  | some owner => owner ≠ i

def context (i : ι) : Context Store Lock Env where
  view := state.view E i
  busy := state.busy i
  began := (state.tx i).began.getD (env state.tick)
  env := env state.tick

def acquire (i : ι) (taken : List Lock) (locks : Lock → Option ι) : Lock → Option ι :=
  fun lock => if lock ∈ taken then some i else locks lock

def release (i : ι) (locks : Lock → Option ι) : Lock → Option ι :=
  fun lock => if locks lock = some i then none else locks lock

def performed (i : ι) (stmt : Stmt) (value : Res stmt) (writes : List Write)
    (taken : List Lock) : State ι Store Write Lock Stmt Res Msg Env where
  store := state.store
  locks := acquire i taken state.locks
  tx := Function.update state.tx i
    ⟨some ((state.tx i).began.getD (env state.tick)), (state.tx i).writes ++ writes⟩
  tick := state.tick + 1
  log := state.log ++ [⟨i, .performed stmt value writes⟩]

def ticked : State ι Store Write Lock Stmt Res Msg Env :=
  { state with tick := state.tick + 1 }

/-- The end of a transaction that leaves `store` behind. -/
def closed (i : ι) (store : Store) : State ι Store Write Lock Stmt Res Msg Env where
  store := store
  locks := release i state.locks
  tx := Function.update state.tx i .closed
  tick := state.tick + 1
  log := state.log

def committed (i : ι) : State ι Store Write Lock Stmt Res Msg Env :=
  { state.closed i (state.view E i) with
    log := state.log ++ [⟨i, .committed (state.tx i).writes⟩] }

def rolledBack (i : ι) : State ι Store Write Lock Stmt Res Msg Env :=
  state.closed i state.store

def published (i : ι) (msg : Msg) : State ι Store Write Lock Stmt Res Msg Env :=
  { state with tick := state.tick + 1, log := state.log ++ [⟨i, .published msg⟩] }

end State

end QueueFlow.Transactions
