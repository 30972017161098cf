import Mathlib.Tactic.Common

/-!
# The ticket state machine

`validTransitions`, `transitionEvent` and `eventTypeFor` are `state_machine/ticket_fsm.py`;
`checkTicketStatusTransition` is the trigger of migration `0003`, which the database runs before
every UPDATE of a ticket row.
-/

namespace QueueFlow.Data

inductive TicketStatus where
  | created | waiting | called | inService | hold | transferred | completed | canceled | noShow
  deriving DecidableEq, Repr

def TicketStatus.text : TicketStatus → String
  | .created => "CREATED"
  | .waiting => "WAITING"
  | .called => "CALLED"
  | .inService => "IN_SERVICE"
  | .hold => "HOLD"
  | .transferred => "TRANSFERRED"
  | .completed => "COMPLETED"
  | .canceled => "CANCELED"
  | .noShow => "NO_SHOW"

def TicketStatus.all : List TicketStatus :=
  [.created, .waiting, .called, .inService, .hold, .transferred, .completed, .canceled, .noShow]

def TicketStatus.terminal : List TicketStatus := [.completed, .canceled, .noShow]

inductive EventType where
  | created | waiting | called | inService | hold | transferred | completed | canceled | noShow
  | noteAdded
  deriving DecidableEq, Repr

def EventType.ofStatus : TicketStatus → EventType
  | .created => .created
  | .waiting => .waiting
  | .called => .called
  | .inService => .inService
  | .hold => .hold
  | .transferred => .transferred
  | .completed => .completed
  | .canceled => .canceled
  | .noShow => .noShow

def validTransitions : TicketStatus → List TicketStatus
  | .created => [.waiting, .canceled]
  | .waiting => [.called, .canceled, .noShow]
  | .called => [.inService, .waiting, .noShow, .canceled]
  | .inService => [.completed, .hold, .transferred, .canceled]
  | .hold => [.waiting, .canceled]
  | .transferred => [.waiting]
  | .completed => []
  | .canceled => []
  | .noShow => []

/-- The dictionary `TRANSITION_EVENT` after the loop that adds the cancel and no-show pairs. -/
def transitionEvent : TicketStatus → TicketStatus → Option EventType
  | .created, .waiting => some .waiting
  | .waiting, .called => some .called
  | .called, .inService => some .inService
  | .called, .waiting => some .waiting
  | .inService, .completed => some .completed
  | .inService, .hold => some .hold
  | .inService, .transferred => some .transferred
  | .hold, .waiting => some .waiting
  | .transferred, .waiting => some .waiting
  | current, .canceled => if .canceled ∈ validTransitions current then some .canceled else none
  | current, .noShow => if .noShow ∈ validTransitions current then some .noShow else none
  | _, _ => none

def eventTypeFor (fromStatus toStatus : TicketStatus) : EventType :=
  (transitionEvent fromStatus toStatus).getD (.ofStatus toStatus)

/-- The message the trigger raises, or none when it lets the new row pass. -/
def checkTicketStatusTransition (old new : TicketStatus) : Option String :=
  let invalid := some s!"Invalid transition: {old.text} -> {new.text}"
  if old = new then none
  else match old with
    | .created => if new ∉ [TicketStatus.waiting, .canceled] then invalid else none
    | .waiting => if new ∉ [TicketStatus.called, .canceled, .noShow] then invalid else none
    | .called =>
        if new ∉ [TicketStatus.inService, .waiting, .noShow, .canceled] then invalid else none
    | .inService =>
        if new ∉ [TicketStatus.completed, .hold, .transferred, .canceled] then invalid else none
    | .hold => if new ∉ [TicketStatus.waiting, .canceled] then invalid else none
    | .transferred => if new ≠ .waiting then invalid else none
    | .completed | .canceled | .noShow =>
        some s!"Terminal state {old.text} cannot transition to {new.text}"

/-- The two tables of the state machine agree: the trigger rejects exactly the changes of status
that `validTransitions` lacks. -/
theorem trigger_passes_iff (old new : TicketStatus) :
    checkTicketStatusTransition old new = none ↔ old = new ∨ new ∈ validTransitions old := by
  cases old <;> cases new <;> simp [checkTicketStatusTransition, validTransitions]

@[simp] theorem eventTypeFor_eq (fromStatus toStatus : TicketStatus) :
    eventTypeFor fromStatus toStatus = .ofStatus toStatus := by
  cases fromStatus <;> cases toStatus <;> rfl

theorem terminal_iff (status : TicketStatus) :
    status ∈ TicketStatus.terminal ↔ validTransitions status = [] := by
  cases status <;> simp [TicketStatus.terminal, validTransitions]

theorem terminal_of_allowed {old new : TicketStatus}
    (allowed : new = old ∨ new ∈ validTransitions old) (terminal : old ∈ TicketStatus.terminal) :
    new ∈ TicketStatus.terminal := by
  rcases allowed with rfl | valid
  · exact terminal
  · rw [(terminal_iff old).mp terminal] at valid
    cases valid

theorem not_mem_validTransitions_self (status : TicketStatus) :
    status ∉ validTransitions status := by
  cases status <;> simp [validTransitions]

theorem inService_of_hold {status : TicketStatus} (valid : .hold ∈ validTransitions status) :
    status = .inService := by
  cases status <;> simp_all [validTransitions]

theorem created_not_mem_validTransitions (status : TicketStatus) :
    .created ∉ validTransitions status := by
  cases status <;> simp [validTransitions]

end QueueFlow.Data
