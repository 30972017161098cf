import QueueFlow.Transactions.Refinement
import Mathlib.Logic.Function.Basic

/-!
# A service desk

What tickets are for: visitors wait in the queues of a hall, are called to a counter and served
there, may be put on hold or sent back to a queue, and leave.
-/

namespace QueueFlow.Desk
open QueueFlow.Transactions

inductive Outcome where
  | completed | canceled | noShow
  deriving DecidableEq

inductive Phase where
  | waiting | called | served | held
  | gone (outcome : Outcome)
  deriving DecidableEq

/-- The counter is the one that called the visitor. -/
structure Visit (Hall Queue Counter : Type) where
  hall : Hall
  queue : Option Queue
  phase : Phase
  counter : Option Counter
  deriving DecidableEq

/-- A call names the hall of its counter, and the only queue it wants to call from if there is one.
A visitor may be sent to another hall. -/
inductive Step (Id Hall Queue Counter : Type) where
  | arrive (id : Id) (hall : Hall) (queue : Option Queue)
  | call (id : Id) (counter : Counter) (hall : Hall) (only : Option Queue)
  | proceed (id : Id) (phase : Phase)
  | requeue (id : Id) (hall : Option Hall) (queue : Option Queue)
  deriving DecidableEq

/-- How a visit goes on without a queue, and how it ends. -/
def Phase.leadsTo : Phase → Phase → Bool
  | .called, .served | .served, .held | .served, .gone .completed => true
  | .waiting, .gone .noShow | .called, .gone .noShow => true
  | .waiting, .gone .canceled | .called, .gone .canceled | .served, .gone .canceled
  | .held, .gone .canceled => true
  | _, _ => false

variable {Id Hall Queue Counter : Type} [DecidableEq Id] [DecidableEq Hall] [DecidableEq Queue]

def Step.visitor : Step Id Hall Queue Counter → Id
  | .arrive id _ _ | .call id _ _ _ | .proceed id _ | .requeue id _ _ => id

/-- What a step makes of the visit it is about; `none` stands for a step that cannot be taken. -/
def Step.goOn : Step Id Hall Queue Counter → Option (Visit Hall Queue Counter) →
    Option (Visit Hall Queue Counter)
  | .arrive _ hall queue, none => some ⟨hall, queue, .waiting, none⟩
  | .call _ counter hall only, some visit =>
      if visit.phase = .waiting ∧ visit.hall = hall ∧ (only = none ∨ visit.queue = only) then
        some { visit with phase := .called, counter := some counter }
      else none
  | .proceed _ phase, some visit =>
      if visit.phase.leadsTo phase then some { visit with phase := phase } else none
  | .requeue _ hall queue, some visit =>
      if visit.phase = .served then some ⟨hall.getD visit.hall, queue, .waiting, none⟩ else none
  | _, _ => none

/-- A step leaves all other visitors where they are. -/
def desk : Machine (Id → Option (Visit Hall Queue Counter)) (Step Id Hall Queue Counter) where
  perform step floor :=
    (step.goOn (floor step.visitor)).map fun visit =>
      Function.update floor step.visitor (some visit)

theorem perform_eq {step : Step Id Hall Queue Counter}
    {floor : Id → Option (Visit Hall Queue Counter)} {visit : Visit Hall Queue Counter}
    (goes : step.goOn (floor step.visitor) = some visit) :
    desk.run floor [step] = some (Function.update floor step.visitor (some visit)) := by
  simp [desk, goes]

end QueueFlow.Desk
