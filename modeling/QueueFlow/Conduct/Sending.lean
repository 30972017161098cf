import QueueFlow.Conduct.Rules

/-!
# What creations send

A creation may always read and store its key; what else it sends is its ticket and the CREATED
event.
-/

namespace QueueFlow.App
open QueueFlow.Data QueueFlow.Transactions

section
variable {α β : Type} {ok : Stmt → Prop} {hexdigest : PyDict → String} {key : Option String}

theorem sends_silent_bind {handler : Handler α} {next : α → Handler β} (silent : Silent handler)
    (rest : ∀ value, handler = .ret value → (next value).Sends ok) :
    (handler.bind next).Sends ok := by
  rcases silent with ⟨value, rfl⟩ | ⟨error, rfl⟩
  · exact rest value rfl
  · trivial

theorem sends_publishSignage {locationId : UUID} : (publishSignage locationId).Sends ok := by
  intro env
  simp only [Program.ret_bind]
  split <;> trivial

structure Lenient (ok : Stmt → Prop) : Prop where
  read : ∀ q, ok (.read q)
  key : ∀ new, ok (.write (.insertIdempotencyKey new))

namespace Lenient
variable (lenient : Lenient ok)
include lenient

theorem createdBefore {tenantId : UUID} {key : String} : (createdBefore tenantId key).Sends ok := by
  refine fun env => ⟨lenient.read _, fun found => ?_⟩
  cases found with
  | none => trivial
  | some existing =>
      simp only [Program.ret_bind]
      split
      · trivial
      · exact ⟨lenient.read _, fun _ => trivial⟩

theorem saveKey {tenantId : Handler UUID} {body : PyDict} {ticket : Ticket}
    (silent : Silent tenantId) : (saveKey hexdigest tenantId key body ticket).Sends ok := by
  unfold App.saveKey
  split
  · trivial
  · exact sends_silent_bind silent fun id _ => fun env => ⟨lenient.key _, fun _ => trivial⟩

theorem storeTicket {new : NewTicket} {actorUserId : Handler (Option UUID)}
    (silent : Silent actorUserId) (creates : ok (.write (.insertTicket new)))
    (logs : ∀ ticketId userId, actorUserId = .ret userId → ok (.write (.insertEvent
      { ticketId := ticketId, eventType := .created, actorUserId := userId }))) :
    (storeTicket new actorUserId).Sends ok := by
  refine sends_bind ⟨creates, fun _ => trivial⟩ fun row => ?_
  refine sends_silent_bind silent fun userId same => ⟨logs row.id userId same, fun _ => ?_⟩
  refine ⟨lenient.read _, fun found => ?_⟩
  cases found <;> trivial

theorem createNew {data : TicketCreate} {actor : TokenPayload}
    (creates : ∀ new : NewTicket, new.priority = data.priority → ok (.write (.insertTicket new)))
    (logs : ∀ new : NewEvent, ok (.write (.insertEvent new))) :
    (createNew hexdigest data actor key).Sends ok := by
  refine sends_bind ⟨lenient.read _, fun _ => trivial⟩ fun number => ?_
  refine sends_silent_bind (silent_parse _) fun tenantId _ => ?_
  refine sends_bind (lenient.storeTicket (silent_map (silent_parse _) _) (creates _ rfl)
    fun _ _ _ => logs _) fun ticket => ?_
  exact sends_bind (lenient.saveKey (silent_parse _)) fun _ =>
    sends_bind sends_publishSignage fun _ => trivial

theorem createTicket {data : TicketCreate} {actor : TokenPayload}
    (creates : ∀ new : NewTicket, new.priority = data.priority → ok (.write (.insertTicket new)))
    (logs : ∀ new : NewEvent, ok (.write (.insertEvent new))) :
    (createTicket hexdigest data actor key).Sends ok := by
  refine sends_silent_bind (silent_requireRole _ _) fun _ _ => ?_
  split
  · exact lenient.createNew creates logs
  · refine sends_silent_bind (silent_parse _) fun tenantId _ => ?_
    refine sends_bind lenient.createdBefore fun found => ?_
    cases found with
    | none => exact lenient.createNew creates logs
    | some ticket => trivial

theorem kioskCreateNew {body : KioskTicketCreate} {tenantId : UUID}
    (creates : ∀ new : NewTicket, new.priority = 5 → new.channelId = none → new.notes = none →
      ok (.write (.insertTicket new)))
    (logs : ∀ new : NewEvent, new.actorUserId = none → ok (.write (.insertEvent new))) :
    (kioskCreateNew hexdigest body tenantId key).Sends ok := by
  refine sends_bind ⟨lenient.read _, fun _ => trivial⟩ fun number => ?_
  refine sends_bind (lenient.storeTicket (silent_ret _) (creates _ rfl rfl rfl) ?_) fun ticket => ?_
  · rintro ticketId _ ⟨⟩
    exact logs _ rfl
  · exact sends_bind (lenient.saveKey (silent_ret _)) fun _ =>
      sends_bind sends_publishSignage fun _ => trivial

theorem kioskCreateTicket {body : KioskTicketCreate}
    (creates : ∀ new : NewTicket, new.priority = 5 → new.channelId = none → new.notes = none →
      ok (.write (.insertTicket new)))
    (logs : ∀ new : NewEvent, new.actorUserId = none → ok (.write (.insertEvent new))) :
    (kioskCreateTicket hexdigest body key).Sends ok := by
  refine ⟨lenient.read _, fun found => ?_⟩
  cases found with
  | none => trivial
  | some location =>
      simp only [Program.ret_bind]
      split
      · exact lenient.kioskCreateNew creates logs
      · refine sends_bind lenient.createdBefore fun found => ?_
        cases found with
        | none => exact lenient.kioskCreateNew creates logs
        | some ticket => trivial

end Lenient

end

end QueueFlow.App
