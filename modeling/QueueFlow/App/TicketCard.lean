import QueueFlow.App.Api

/-!
# The operator's ticket card

The buttons that `components/TicketCard.tsx` shows for a ticket, and the requests that
`ticketApi` and `counterApi` of `api/client.ts` send for them. None of them carries a key.
-/

namespace QueueFlow.App
open QueueFlow.Data

inductive CardButton where
  | call | start | complete | hold | noShow | cancel
  deriving DecidableEq

/-- In the order of the card. Call is shown when the operator has selected a counter. -/
def cardButtons (status : TicketStatus) (counterId : Option UUID) : List CardButton :=
  (if status = .waiting ∧ counterId.isSome then [.call] else []) ++
  (if status = .called then [.start] else []) ++
  (if status = .inService then [.complete] else []) ++
  (if status = .inService then [.hold] else []) ++
  (if status = .called then [.noShow] else []) ++
  (if status ∉ [.completed, .canceled, .noShow] then [.cancel] else [])

/-- Call asks for the next ticket of the counter, whatever ticket its card shows. -/
def CardButton.request (ticketId : UUID) (counterId : Option UUID) (actor : TokenPayload) :
    CardButton → Option Request
  | .call => counterId.map fun counterId => .callNext counterId {} actor none
  | .start => some (.startService ticketId actor none)
  | .complete => some (.completeTicket ticketId actor none)
  | .hold => some (.holdTicket ticketId actor)
  | .noShow => some (.noShow ticketId actor)
  | .cancel => some (.cancelTicket ticketId actor)

def CardButton.target : CardButton → TicketStatus
  | .call => .called
  | .start => .inService
  | .complete => .completed
  | .hold => .hold
  | .noShow => .noShow
  | .cancel => .canceled

end QueueFlow.App
