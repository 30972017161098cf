import QueueFlow.Conduct.Rules

/-!
# The last thing to do

A handler that publishes a message has committed all that it commits, and returns.
-/

namespace QueueFlow.App
open QueueFlow.Data QueueFlow.Transactions

section
variable {α β : Type} {hexdigest : PyDict → String} {key : Option String}

theorem publishesNothing_silent {handler : Handler α} (silent : Silent handler) :
    handler.PublishesNothing := by
  rcases silent with ⟨value, rfl⟩ | ⟨error, rfl⟩ <;> trivial

theorem publishesNothing_query (q : Query) : (query q).PublishesNothing := fun _ => trivial

theorem publishesNothing_command (c : Command) : (command c).PublishesNothing := fun _ => trivial

theorem publishesNothing_commit : (Program.commit : Handler Unit).PublishesNothing := trivial

theorem publishesNothing_observe : (Program.observe : Handler Env).PublishesNothing :=
  fun _ => trivial

theorem publishesNothing_getOr404 {ticketId : UUID} : (getOr404 ticketId).PublishesNothing := by
  refine publishesNothing_bind (publishesNothing_query _) fun found => ?_
  cases found <;> trivial

theorem publishesNothing_lookup {tenantId : UUID} {key : String} :
    (getIdempotencyKey tenantId key).PublishesNothing := fun _ => publishesNothing_query _

theorem publishesNothing_createdBefore {tenantId : UUID} {key : String} :
    (createdBefore tenantId key).PublishesNothing := by
  refine publishesNothing_bind publishesNothing_lookup fun found => ?_
  cases found with
  | none => trivial
  | some existing =>
      dsimp only
      split
      · trivial
      · exact publishesNothing_query _

theorem publishesNothing_changedBefore {tenantId : UUID} {key : String} {ticketId : UUID} :
    (changedBefore hexdigest tenantId key ticketId).PublishesNothing := by
  refine publishesNothing_bind publishesNothing_lookup fun found => ?_
  cases found with
  | none => trivial
  | some existing =>
      dsimp only
      split
      · trivial
      · split
        · trivial
        · exact publishesNothing_query _

theorem publishesNothing_ticketWithService {ticketId : UUID} :
    (ticketWithService ticketId).PublishesNothing := by
  refine publishesNothing_bind (publishesNothing_query _) fun found => ?_
  cases found with
  | none => trivial
  | some ticket =>
      dsimp only
      split
      · trivial
      · exact publishesNothing_bind (publishesNothing_query _) fun _ => trivial

theorem publishesNothing_calledBefore {tenantId : UUID} {key : String} {body : CallNextBody} :
    (calledBefore hexdigest tenantId key body).PublishesNothing := by
  refine publishesNothing_bind publishesNothing_lookup fun found => ?_
  cases found with
  | none => trivial
  | some existing =>
      dsimp only
      split
      · trivial
      · split
        · exact publishesNothing_ticketWithService
        · trivial

theorem publishesNothing_changeStatus
    {ticketId : UUID} {actor : TokenPayload} {target : TicketStatus}
    {payload : Option Payload} : (changeStatus ticketId actor target payload).PublishesNothing := by
  refine publishesNothing_bind publishesNothing_getOr404 fun ticket => ?_
  refine publishesNothing_bind (publishesNothing_silent (silent_checkTenant _ _)) fun _ => ?_
  refine publishesNothing_bind (publishesNothing_silent (silent_parse _)) fun userId => ?_
  refine publishesNothing_mapRaise ?_
  refine publishesNothing_bind (publishesNothing_silent (silent_transition _ _)) fun _ => ?_
  refine publishesNothing_bind publishesNothing_observe fun env => ?_
  refine publishesNothing_bind (publishesNothing_command _) fun row => ?_
  exact publishesNothing_bind (publishesNothing_command _) fun _ => trivial

theorem publishesNothing_firstCalled {locationId counterId : UUID} {serviceId : Option UUID}
    {candidates : List Ticket} :
    (firstCalled locationId serviceId counterId candidates).PublishesNothing := by
  induction candidates with
  | nil => trivial
  | cons candidate candidates ih =>
      intro called
      cases called with
      | none => exact ih
      | some row => trivial

theorem publishesNothing_callNextTicket {locationId counterId : UUID}
    {serviceId actorUserId : Option UUID} :
    (callNextTicket locationId counterId serviceId actorUserId).PublishesNothing := by
  refine publishesNothing_bind ?_ fun called => ?_
  · refine publishesNothing_bind (publishesNothing_query _) fun candidates => ?_
    refine publishesNothing_bind publishesNothing_firstCalled fun called => ?_
    cases called with
    | none => trivial
    | some row => exact publishesNothing_bind (publishesNothing_command _) fun _ => trivial
  · cases called with
    | none => trivial
    | some row => exact publishesNothing_ticketWithService

theorem publishesNothing_refresh {ticket : Ticket} : (refresh ticket).PublishesNothing := by
  refine publishesNothing_bind (publishesNothing_query _) fun found => ?_
  cases found <;> trivial

theorem publishesNothing_saveKey {tenantId : Handler UUID} {body : PyDict} {ticket : Ticket}
    (silent : Silent tenantId) : (saveKey hexdigest tenantId key body ticket).PublishesNothing := by
  unfold saveKey
  split
  · trivial
  · refine publishesNothing_bind (publishesNothing_silent silent) fun id => ?_
    refine publishesNothing_bind ?_ fun _ => publishesNothing_commit
    exact publishesNothing_bind publishesNothing_observe fun env => publishesNothing_command _

theorem publishesNothing_storeTicket {new : NewTicket} {actorUserId : Handler (Option UUID)}
    (silent : Silent actorUserId) : (storeTicket new actorUserId).PublishesNothing := by
  refine publishesNothing_bind (publishesNothing_command _) fun row => ?_
  refine publishesNothing_bind (publishesNothing_silent silent) fun userId => ?_
  refine publishesNothing_bind (publishesNothing_command _) fun _ => ?_
  exact publishesNothing_bind publishesNothing_commit fun _ => publishesNothing_refresh

/-! ## Handlers -/

theorem publishesLast_signage (locationId : UUID) (value : α) :
    ((publishSignage locationId).bind fun _ => .ret value).PublishesLast := by
  intro env
  by_cases redis : env.redis
  · simp only [Program.ret_bind, redis, if_true]
    exact ⟨value, rfl⟩
  · simp only [Program.ret_bind, redis]
    trivial

theorem publishesLast_createNew {data : TicketCreate} {actor : TokenPayload} :
    (createNew hexdigest data actor key).PublishesLast := by
  refine publishesLast_bind (publishesNothing_query _) fun number => ?_
  refine publishesLast_bind (publishesNothing_silent (silent_parse _)) fun tenantId => ?_
  refine publishesLast_bind (publishesNothing_storeTicket (silent_map (silent_parse _) _))
    fun ticket => ?_
  refine publishesLast_bind (publishesNothing_saveKey (silent_parse _)) fun _ => ?_
  exact publishesLast_signage _ _

theorem publishesLast_createTicket {data : TicketCreate} {actor : TokenPayload} :
    (createTicket hexdigest data actor key).PublishesLast := by
  refine publishesLast_bind (publishesNothing_silent (silent_requireRole _ _)) fun _ => ?_
  split
  · exact publishesLast_createNew
  · refine publishesLast_bind (publishesNothing_silent (silent_parse _)) fun tenantId => ?_
    refine publishesLast_bind publishesNothing_createdBefore fun found => ?_
    cases found with
    | none => exact publishesLast_createNew
    | some ticket => trivial

theorem publishesLast_kioskCreateTicket {body : KioskTicketCreate} :
    (kioskCreateTicket hexdigest body key).PublishesLast := by
  have new (tenantId : UUID) : (kioskCreateNew hexdigest body tenantId key).PublishesLast := by
    refine publishesLast_bind (publishesNothing_query _) fun number => ?_
    refine publishesLast_bind (publishesNothing_storeTicket (silent_ret _)) fun ticket => ?_
    refine publishesLast_bind (publishesNothing_saveKey (silent_ret _)) fun _ => ?_
    exact publishesLast_signage _ _
  refine publishesLast_bind (publishesNothing_query _) fun found => ?_
  cases found with
  | none => trivial
  | some location =>
      dsimp only
      split
      · exact new _
      · refine publishesLast_bind publishesNothing_createdBefore fun found => ?_
        cases found with
        | none => exact new _
        | some ticket => trivial

theorem publishesLast_simpleChange {ticketId : UUID} {actor : TokenPayload}
    {target : TicketStatus} : (simpleChange ticketId actor target).PublishesLast := by
  refine publishesLast_bind (publishesNothing_silent (silent_requireRole _ _)) fun _ => ?_
  refine publishesLast_bind publishesNothing_changeStatus fun row => ?_
  exact publishesLast_bind publishesNothing_commit fun _ => publishesLast_signage _ _

theorem publishesLast_keyedChange {ticketId : UUID} {actor : TokenPayload} {target : TicketStatus}
    {episode : Ticket → Handler Unit} (quiet : ∀ ticket, (episode ticket).PublishesNothing) :
    (keyedChange hexdigest ticketId actor key target episode).PublishesLast := by
  have new : (keyedChangeNew hexdigest ticketId actor key target episode).PublishesLast := by
    refine publishesLast_bind publishesNothing_changeStatus fun row => ?_
    refine publishesLast_bind (quiet row) fun _ => ?_
    refine publishesLast_bind publishesNothing_commit fun _ => ?_
    refine publishesLast_bind publishesNothing_refresh fun ticket => ?_
    refine publishesLast_bind (publishesNothing_saveKey (silent_parse _)) fun _ => ?_
    exact publishesLast_signage _ _
  refine publishesLast_bind (publishesNothing_silent (silent_requireRole _ _)) fun _ => ?_
  split
  · exact new
  · refine publishesLast_bind (publishesNothing_silent (silent_parse _)) fun tenantId => ?_
    refine publishesLast_bind publishesNothing_changedBefore fun found => ?_
    cases found with
    | none => exact new
    | some ticket => trivial

theorem publishesLast_transferTicket {ticketId : UUID} {data : TicketTransfer}
    {actor : TokenPayload} : (transferTicket ticketId data actor).PublishesLast := by
  refine publishesLast_bind (publishesNothing_silent (silent_requireRole _ _)) fun _ => ?_
  refine publishesLast_bind publishesNothing_changeStatus fun row => ?_
  refine publishesLast_bind (publishesNothing_command _) fun requeued => ?_
  refine publishesLast_bind (publishesNothing_silent (silent_parse _)) fun userId => ?_
  refine publishesLast_bind publishesNothing_observe fun env => ?_
  refine publishesLast_bind (publishesNothing_command _) fun _ => ?_
  exact publishesLast_bind publishesNothing_commit fun _ => publishesLast_signage _ _

theorem publishesLast_callNext {counterId : UUID} {body : CallNextBody} {actor : TokenPayload} :
    (callNext hexdigest counterId body actor key).PublishesLast := by
  have new (locationId tenantId : UUID) :
      (callNextNew hexdigest locationId counterId tenantId body actor key).PublishesLast := by
    refine publishesLast_bind (publishesNothing_silent (silent_parse _)) fun userId => ?_
    refine publishesLast_bind publishesNothing_callNextTicket fun called => ?_
    refine publishesLast_bind publishesNothing_commit fun _ => ?_
    cases called with
    | none => trivial
    | some called =>
        refine publishesLast_bind (publishesNothing_saveKey (silent_ret _)) fun _ => ?_
        exact publishesLast_signage _ _
  refine publishesLast_bind (publishesNothing_silent (silent_requireStaff _)) fun _ => ?_
  refine publishesLast_bind (publishesNothing_query _) fun found => ?_
  cases found with
  | none => trivial
  | some counter =>
      refine publishesLast_bind (publishesNothing_query _) fun found => ?_
      cases found with
      | none => trivial
      | some location =>
          refine publishesLast_bind (publishesNothing_silent (silent_checkTenant _ _)) fun _ => ?_
          refine publishesLast_bind (publishesNothing_silent (silent_parse _)) fun tenantId => ?_
          split
          · exact new _ _
          · refine publishesLast_bind publishesNothing_calledBefore fun found => ?_
            cases found with
            | none => exact new _ _
            | some replay => trivial

def Request.announces : Request → Prop
  | .createTicket _ _ _ | .kioskCreateTicket _ _ | .callNext _ _ _ _ | .startService _ _ _
  | .completeTicket _ _ _ | .holdTicket _ _ | .cancelTicket _ _ | .noShow _ _
  | .transferTicket _ _ _ => True
  | _ => False

theorem program_publishesLast (hexdigest : PyDict → String) {request : Request}
    (announces : request.announces) : (program hexdigest request).PublishesLast := by
  cases request with
  | createTicket data actor key => exact publishesLast_map publishesLast_createTicket
  | kioskCreateTicket body key => exact publishesLast_map publishesLast_kioskCreateTicket
  | callNext counterId body actor key => exact publishesLast_map publishesLast_callNext
  | startService ticketId actor key =>
      refine publishesLast_map (publishesLast_keyedChange fun ticket => ?_)
      exact publishesNothing_bind publishesNothing_observe fun env => publishesNothing_command _
  | completeTicket ticketId actor key =>
      refine publishesLast_map (publishesLast_keyedChange fun ticket => ?_)
      exact publishesNothing_bind publishesNothing_observe fun env => publishesNothing_command _
  | holdTicket | cancelTicket | noShow => exact publishesLast_map publishesLast_simpleChange
  | transferTicket ticketId data actor => exact publishesLast_map publishesLast_transferTicket
  | _ => exact announces.elim

end

end QueueFlow.App
