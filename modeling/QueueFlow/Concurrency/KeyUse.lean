import QueueFlow.Concurrency.KeyBinding
import QueueFlow.Data.Expiry

/-!
# The keys that a request uses

A request reads and stores the key that it was sent with, under its tenant, and no other. Only the
cleanup looks at all keys.
-/

namespace QueueFlow.Concurrency
open QueueFlow.App QueueFlow.Data QueueFlow.Tables QueueFlow.Transactions

/-! ## Helpers -/

abbrev KeepsTo {α : Type} (K : UUID × String → Prop) (handler : Handler α) : Prop :=
  handler.Sends (Stmt.KeepsTo K)

section
variable {α β : Type} {K : UUID × String → Prop} {hexdigest : PyDict → String}
  {idempotencyKey : Option String} {actor : TokenPayload} {ticketId : UUID}

theorem keepsTo_silent_bind {handler : Handler α} {next : α → Handler β} (silent : Silent handler)
    (rest : ∀ value, handler = .ret value → KeepsTo K (next value)) :
    KeepsTo K (handler.bind next) := by
  rcases silent with ⟨value, rfl⟩ | ⟨error, rfl⟩
  · exact rest value rfl
  · trivial

theorem keepsTo_query {q : Query} (keeps : (Stmt.read q).KeepsTo K) : KeepsTo K (query q) :=
  ⟨keeps, fun _ => trivial⟩

theorem keepsTo_command {c : Command} (keeps : (Stmt.write c).KeepsTo K) : KeepsTo K (command c) :=
  ⟨keeps, fun _ => trivial⟩

theorem keepsTo_observe {next : Env → Handler β} (rest : ∀ env, KeepsTo K (next env)) :
    KeepsTo K (Program.observe.bind next) := rest

theorem keepsTo_commit {next : Unit → Handler β} (rest : KeepsTo K (next ())) :
    KeepsTo K (Program.commit.bind next) := rest

theorem keepsTo_map {handler : Handler α} {f : α → β} (keeps : KeepsTo K handler) :
    KeepsTo K (handler.bind fun value => .ret (f value)) := sends_bind keeps fun _ => trivial

theorem keepsTo_getOr404 : KeepsTo K (getOr404 ticketId) := by
  refine sends_bind (keepsTo_query trivial) fun found => ?_
  cases found <;> trivial

theorem keepsTo_refresh {ticket : Ticket} : KeepsTo K (refresh ticket) := by
  refine sends_bind (keepsTo_query trivial) fun found => ?_
  cases found <;> trivial

theorem keepsTo_publishSignage {locationId : UUID} : KeepsTo K (publishSignage locationId) := by
  refine keepsTo_observe fun env => ?_
  split <;> trivial

theorem keepsTo_transitionStatus {ticket : Ticket} {target : TicketStatus}
    {actorUserId : Option UUID} {payload : Option Payload} :
    KeepsTo K (transitionStatus ticket target actorUserId payload) := by
  refine keepsTo_silent_bind (silent_transition _ _) fun _ _ => ?_
  refine keepsTo_observe fun env => ?_
  exact sends_bind (keepsTo_command trivial) fun row =>
    sends_bind (keepsTo_command trivial) fun _ => trivial

theorem keepsTo_changeStatus {target : TicketStatus} {payload : Option Payload} :
    KeepsTo K (changeStatus ticketId actor target payload) := by
  refine sends_bind keepsTo_getOr404 fun ticket => ?_
  refine keepsTo_silent_bind (silent_checkTenant _ _) fun _ _ => ?_
  refine keepsTo_silent_bind (silent_parse _) fun userId _ => ?_
  exact sends_mapRaise keepsTo_transitionStatus

theorem keepsTo_lookup {tenantId : UUID} {key : String} (mine : K (tenantId, key)) :
    KeepsTo K (getIdempotencyKey tenantId key) :=
  keepsTo_observe fun _ => keepsTo_query mine

theorem keepsTo_ticketWithService : KeepsTo K (ticketWithService ticketId) := by
  refine sends_bind (keepsTo_query trivial) fun found => ?_
  cases found with
  | none => trivial
  | some ticket =>
      dsimp only
      split
      · trivial
      · exact sends_bind (keepsTo_query trivial) fun _ => trivial

theorem keepsTo_createdBefore {tenantId : UUID} {key : String} (mine : K (tenantId, key)) :
    KeepsTo K (createdBefore tenantId key) := by
  refine sends_bind (keepsTo_lookup mine) fun found => ?_
  cases found with
  | none => trivial
  | some existing =>
      dsimp only
      split
      · trivial
      · exact keepsTo_query trivial

theorem keepsTo_changedBefore {tenantId : UUID} {key : String} (mine : K (tenantId, key)) :
    KeepsTo K (changedBefore hexdigest tenantId key ticketId) := by
  refine sends_bind (keepsTo_lookup mine) fun found => ?_
  cases found with
  | none => trivial
  | some existing =>
      dsimp only
      split
      · trivial
      · split
        · trivial
        · exact keepsTo_query trivial

theorem keepsTo_calledBefore {tenantId : UUID} {key : String} {body : CallNextBody}
    (mine : K (tenantId, key)) : KeepsTo K (calledBefore hexdigest tenantId key body) := by
  refine sends_bind (keepsTo_lookup mine) fun found => ?_
  cases found with
  | none => trivial
  | some existing =>
      dsimp only
      split
      · trivial
      · split
        · exact keepsTo_ticketWithService
        · trivial

theorem keepsTo_saveKey {tenantId : Handler UUID} {body : PyDict} {ticket : Ticket}
    (silent : Silent tenantId)
    (mine : ∀ id, tenantId = .ret id → ∀ key, given idempotencyKey = some key → K (id, key)) :
    KeepsTo K (saveKey hexdigest tenantId idempotencyKey body ticket) := by
  unfold saveKey
  split
  · trivial
  · rename_i key keyed
    refine keepsTo_silent_bind silent fun id same => ?_
    refine sends_bind (keepsTo_observe fun env => ?_) fun _ => trivial
    exact keepsTo_command (mine id same key keyed)

/-! ## Ticket operations -/

theorem keepsTo_storeTicket {new : NewTicket} {actorUserId : Handler (Option UUID)}
    (silent : Silent actorUserId) : KeepsTo K (storeTicket new actorUserId) := by
  refine sends_bind (keepsTo_command trivial) fun ticket => ?_
  refine keepsTo_silent_bind silent fun userId _ => ?_
  refine sends_bind (keepsTo_command trivial) fun _ => ?_
  exact keepsTo_commit keepsTo_refresh

theorem keepsTo_createNew {data : TicketCreate}
    (mine : ∀ id ∈ actor.tenantId.parse, ∀ key ∈ given idempotencyKey, K (id, key)) :
    KeepsTo K (createNew hexdigest data actor idempotencyKey) := by
  refine sends_bind (keepsTo_query trivial) fun number => ?_
  refine keepsTo_silent_bind (silent_parse _) fun tenantId _ => ?_
  refine sends_bind (keepsTo_storeTicket (silent_map (silent_parse _) _)) fun ticket => ?_
  refine sends_bind (keepsTo_saveKey (silent_parse _) fun id parsed =>
    mine id (parse_eq_ret parsed))
    fun _ => ?_
  exact sends_bind keepsTo_publishSignage fun _ => trivial

theorem keepsTo_createTicket {data : TicketCreate}
    (mine : ∀ id ∈ actor.tenantId.parse, ∀ key ∈ given idempotencyKey, K (id, key)) :
    KeepsTo K (createTicket hexdigest data actor idempotencyKey) := by
  refine keepsTo_silent_bind (silent_requireRole _ _) fun _ _ => ?_
  split
  · exact keepsTo_createNew mine
  · rename_i key keyed
    refine keepsTo_silent_bind (silent_parse _) fun tenantId parsed => ?_
    refine sends_bind (keepsTo_createdBefore (mine _ (parse_eq_ret parsed) _ keyed)) fun found => ?_
    cases found with
    | none => exact keepsTo_createNew mine
    | some ticket => trivial

theorem keepsTo_kioskCreateNew {body : KioskTicketCreate} {tenantId : UUID}
    (mine : ∀ key ∈ given idempotencyKey, K (tenantId, key)) :
    KeepsTo K (kioskCreateNew hexdigest body tenantId idempotencyKey) := by
  refine sends_bind (keepsTo_query trivial) fun number => ?_
  refine sends_bind (keepsTo_storeTicket (silent_ret _)) fun ticket => ?_
  refine sends_bind (keepsTo_saveKey (silent_ret _) fun id same => ?_) fun _ => ?_
  · cases same
    exact mine
  · exact sends_bind keepsTo_publishSignage fun _ => trivial

theorem keepsTo_simpleChange {target : TicketStatus} :
    KeepsTo K (simpleChange ticketId actor target) := by
  refine keepsTo_silent_bind (silent_requireRole _ _) fun _ _ => ?_
  refine sends_bind keepsTo_changeStatus fun ticket => ?_
  refine keepsTo_commit ?_
  exact sends_bind keepsTo_publishSignage fun _ => trivial

theorem keepsTo_keyedChangeNew {target : TicketStatus} {episode : Ticket → Handler Unit}
    (keeps : ∀ ticket, KeepsTo K (episode ticket))
    (mine : ∀ id ∈ actor.tenantId.parse, ∀ key ∈ given idempotencyKey, K (id, key)) :
    KeepsTo K (keyedChangeNew hexdigest ticketId actor idempotencyKey target episode) := by
  refine sends_bind keepsTo_changeStatus fun ticket => ?_
  refine sends_bind (keeps ticket) fun _ => ?_
  refine keepsTo_commit ?_
  refine sends_bind keepsTo_refresh fun ticket => ?_
  refine sends_bind (keepsTo_saveKey (silent_parse _) fun id parsed =>
    mine id (parse_eq_ret parsed))
    fun _ => ?_
  exact sends_bind keepsTo_publishSignage fun _ => trivial

theorem keepsTo_keyedChange {target : TicketStatus} {episode : Ticket → Handler Unit}
    (keeps : ∀ ticket, KeepsTo K (episode ticket))
    (mine : ∀ id ∈ actor.tenantId.parse, ∀ key ∈ given idempotencyKey, K (id, key)) :
    KeepsTo K (keyedChange hexdigest ticketId actor idempotencyKey target episode) := by
  refine keepsTo_silent_bind (silent_requireRole _ _) fun _ _ => ?_
  split
  · exact keepsTo_keyedChangeNew keeps mine
  · rename_i key keyed
    refine keepsTo_silent_bind (silent_parse _) fun tenantId parsed => ?_
    refine sends_bind (keepsTo_changedBefore (mine _ (parse_eq_ret parsed) _ keyed)) fun found => ?_
    cases found with
    | none => exact keepsTo_keyedChangeNew keeps mine
    | some ticket => trivial

theorem keepsTo_transferTicket {data : TicketTransfer} :
    KeepsTo K (transferTicket ticketId data actor) := by
  refine keepsTo_silent_bind (silent_requireRole _ _) fun _ _ => ?_
  refine sends_bind keepsTo_changeStatus fun ticket => ?_
  refine sends_bind (keepsTo_command trivial) fun row => ?_
  refine keepsTo_silent_bind (silent_parse _) fun userId _ => ?_
  refine keepsTo_observe fun env => ?_
  refine sends_bind (keepsTo_command trivial) fun _ => ?_
  refine keepsTo_commit ?_
  exact sends_bind keepsTo_publishSignage fun _ => trivial

theorem keepsTo_firstCalled {locationId counterId : UUID} {serviceId : Option UUID}
    {candidates : List Ticket} :
    KeepsTo K (firstCalled locationId serviceId counterId candidates) := by
  induction candidates with
  | nil => trivial
  | cons ticket rest ih =>
      refine ⟨trivial, fun called => ?_⟩
      cases called with
      | none => exact ih
      | some row => trivial

theorem keepsTo_callNextNew {locationId counterId tenantId : UUID} {body : CallNextBody}
    (mine : ∀ key ∈ given idempotencyKey, K (tenantId, key)) :
    KeepsTo K (callNextNew hexdigest locationId counterId tenantId body actor idempotencyKey) := by
  refine keepsTo_silent_bind (silent_parse _) fun userId _ => ?_
  refine sends_bind (sends_bind ?_ fun called => ?_) fun called => keepsTo_commit ?_
  · refine sends_bind (keepsTo_query trivial) fun candidates => ?_
    refine sends_bind keepsTo_firstCalled fun called => ?_
    cases called with
    | none => trivial
    | some row => exact sends_bind (keepsTo_command trivial) fun _ => trivial
  · cases called with
    | none => trivial
    | some row => exact keepsTo_ticketWithService
  · cases called with
    | none => trivial
    | some found =>
        refine sends_bind (keepsTo_saveKey (silent_ret _) fun id same => ?_) fun _ => ?_
        · cases same
          exact mine
        · exact sends_bind keepsTo_publishSignage fun _ => trivial

theorem keepsTo_callNext {counterId : UUID} {body : CallNextBody}
    (mine : ∀ id ∈ actor.tenantId.parse, ∀ key ∈ given idempotencyKey, K (id, key)) :
    KeepsTo K (callNext hexdigest counterId body actor idempotencyKey) := by
  refine keepsTo_silent_bind (silent_requireStaff _) fun _ _ => ?_
  refine sends_bind (keepsTo_query trivial) fun counter => ?_
  cases counter with
  | none => trivial
  | some counter =>
      refine sends_bind (keepsTo_query trivial) fun location => ?_
      cases location with
      | none => trivial
      | some location =>
          refine keepsTo_silent_bind (silent_checkTenant _ _) fun _ _ => ?_
          refine keepsTo_silent_bind (silent_parse _) fun tenantId parsed => ?_
          have tenant := mine tenantId (parse_eq_ret parsed)
          split
          · exact keepsTo_callNextNew tenant
          · rename_i key keyed
            refine sends_bind (keepsTo_calledBefore (tenant key keyed)) fun found => ?_
            cases found with
            | none => exact keepsTo_callNextNew tenant
            | some found => trivial

/-! ## Tasks and the admin service -/

theorem keepsTo_forM {items : List α} {handler : α → Handler PUnit}
    (keeps : ∀ item, KeepsTo K (handler item)) : KeepsTo K (items.forM handler) := by
  induction items with
  | nil => trivial
  | cons item items ih => exact sends_bind (keeps item) fun _ => ih

theorem keepsTo_stampCompletion (tickets : List Ticket) :
    KeepsTo K (stampCompletion tickets) := by
  induction tickets with
  | nil => trivial
  | cons ticket tickets ih => exact keepsTo_observe fun env => sends_bind ih fun _ => trivial

theorem keepsTo_autoNoShow : KeepsTo K autoNoShowCalledTickets := by
  refine keepsTo_observe fun env => ?_
  refine sends_bind (keepsTo_query trivial) fun stuck => ?_
  refine sends_bind (keepsTo_stampCompletion stuck) fun stamps => ?_
  refine sends_bind (keepsTo_forM fun stamp => ?_) fun _ => ?_
  · exact sends_bind (keepsTo_command trivial) fun _ => trivial
  refine sends_bind (keepsTo_forM fun ticket => keepsTo_command trivial) fun _ => ?_
  exact keepsTo_commit trivial

theorem keepsTo_audit {action objectType : String} {objectId : UUID}
    {before after : Option PyDict} :
    KeepsTo K (audit actor action objectType objectId before after) := by
  refine keepsTo_silent_bind (silent_auditTenant _) fun tenantId _ => ?_
  refine keepsTo_silent_bind (silent_parse _) fun userId _ => ?_
  exact sends_bind (keepsTo_command trivial) fun _ => trivial

theorem keepsTo_updateRecord {unchanged : Bool} {row : Row} {update : RecordUpdate} :
    KeepsTo K (updateRecord unchanged row update) := by
  unfold updateRecord
  split
  · trivial
  · exact keepsTo_command trivial

/-- The bodies of `create_tenant`, `create_location` and `create_user`. -/
theorem keepsTo_createAudited {new : NewRecord} {guard : Handler Unit} (silent : Silent guard)
    {entry : Row → Handler Unit} (keeps : ∀ row, KeepsTo K (entry row)) :
    KeepsTo K (guard.bind fun _ => (createRecord new).bind fun row =>
      (entry row).bind fun _ => Program.commit.bind fun _ => .ret row) := by
  refine keepsTo_silent_bind silent fun _ _ => ?_
  refine sends_bind (keepsTo_command trivial) fun row => ?_
  exact sends_bind (keeps row) fun _ => keepsTo_commit trivial

theorem keepsTo_createUnaudited {new : NewRecord} : KeepsTo K (createUnaudited new actor) := by
  refine keepsTo_silent_bind (silent_requireManager _) fun _ _ => ?_
  exact sends_bind (keepsTo_command trivial) fun row => keepsTo_commit trivial

end

/-! ## Every request -/

def Request.names (request : Request) (tenant : Option UUID) (entry : UUID × String) : Prop :=
  tenant = some entry.1 ∧ request.key = some entry.2

theorem program_keepsTo (hexdigest : PyDict → String) (db : Database) {request : Request}
    (other : request ≠ .cleanupIdempotencyKeys)
    (placed : ∀ body key, request ≠ .kioskCreateTicket body key) :
    KeepsTo (Request.names request (keyTenant db request)) (program hexdigest request) := by
  cases request with
  | createTicket data actor key =>
      exact keepsTo_map (keepsTo_createTicket fun id tenant key keyed => ⟨tenant, keyed⟩)
  | kioskCreateTicket body key => exact (placed body key rfl).elim
  | callNext counterId body actor key =>
      exact keepsTo_map (keepsTo_callNext fun id tenant key keyed => ⟨tenant, keyed⟩)
  | startService ticketId actor key =>
      refine keepsTo_map (keepsTo_keyedChange (fun ticket => ?_)
        fun id tenant key keyed => ⟨tenant, keyed⟩)
      exact keepsTo_observe fun env => keepsTo_command trivial
  | completeTicket ticketId actor key =>
      refine keepsTo_map (keepsTo_keyedChange (fun ticket => ?_)
        fun id tenant key keyed => ⟨tenant, keyed⟩)
      exact keepsTo_observe fun env => keepsTo_command trivial
  | holdTicket ticketId actor => exact keepsTo_map keepsTo_simpleChange
  | cancelTicket ticketId actor => exact keepsTo_map keepsTo_simpleChange
  | noShow ticketId actor => exact keepsTo_map keepsTo_simpleChange
  | transferTicket ticketId data actor => exact keepsTo_map keepsTo_transferTicket
  | autoNoShowCalledTickets => exact keepsTo_map keepsTo_autoNoShow
  | cleanupIdempotencyKeys => exact (other rfl).elim
  | createTenant data actor =>
      exact keepsTo_map (keepsTo_createAudited (silent_requireAdmin _) fun _ => keepsTo_audit)
  | updateTenant tenantId data actor =>
      refine keepsTo_map (keepsTo_silent_bind (silent_requireAdmin _) fun _ _ => ?_)
      refine sends_bind (keepsTo_query trivial) fun found => ?_
      cases found with
      | none => trivial
      | some tenant =>
          refine sends_bind keepsTo_updateRecord fun row => ?_
          exact sends_bind keepsTo_audit fun _ => keepsTo_commit trivial
  | createLocation data actor =>
      exact keepsTo_map (keepsTo_createAudited (silent_requireManager _) fun _ => keepsTo_audit)
  | updateLocation locationId data actor =>
      refine keepsTo_map (keepsTo_silent_bind (silent_requireManager _) fun _ _ => ?_)
      refine sends_bind (keepsTo_query trivial) fun found => ?_
      cases found with
      | none => trivial
      | some loc => exact sends_bind keepsTo_updateRecord fun row => keepsTo_commit trivial
  | createService data actor => exact keepsTo_map keepsTo_createUnaudited
  | updateService serviceId data actor =>
      refine keepsTo_map (keepsTo_silent_bind (silent_requireManager _) fun _ _ => ?_)
      refine sends_bind (keepsTo_query trivial) fun found => ?_
      cases found with
      | none => trivial
      | some svc => exact sends_bind keepsTo_updateRecord fun row => keepsTo_commit trivial
  | createCounter data actor => exact keepsTo_map keepsTo_createUnaudited
  | updateCounter counterId data actor =>
      refine keepsTo_map (keepsTo_silent_bind (silent_requireManager _) fun _ _ => ?_)
      refine sends_bind (keepsTo_query trivial) fun found => ?_
      cases found with
      | none => trivial
      | some counter => exact sends_bind keepsTo_updateRecord fun row => keepsTo_commit trivial
  | createChannel data actor => exact keepsTo_map keepsTo_createUnaudited
  | createUser data actor =>
      exact keepsTo_map (keepsTo_createAudited (silent_requireAdmin _) fun _ => keepsTo_audit)
  | assignRole userId data actor =>
      refine keepsTo_map (keepsTo_silent_bind (silent_requireAdmin _) fun _ _ => ?_)
      refine sends_bind keepsTo_audit fun _ => ?_
      exact sends_bind (keepsTo_command trivial) fun row => keepsTo_commit trivial

/-! ## A request over two databases -/

variable {ι : Type} [DecidableEq ι] {hexdigest : PyDict → String} {env : Nat → Env} {i : ι}
  {request : Request} {db db' : Database} {times : List Time}

/-- A request ends in the same way over two databases that agree on its key. -/
theorem program_alike (other : request ≠ .cleanupIdempotencyKeys)
    (alike : AlikeOn times (Request.names request (keyTenant db request)) db db') :
    EndsAlike engine env (AlikeOn times (Request.names request (keyTenant db request))) i
      (program hexdigest request)
      (State.start db : State ι Database Write Lock Stmt Stmt.Res Message Env) (.start db') := by
  have start : State.Alike (AlikeOn times (Request.names request (keyTenant db request))) i
      (State.start db : State ι Database Write Lock Stmt Stmt.Res Message Env) (.start db') :=
    ⟨alike, rfl, rfl, State.Quiet.heldBy (fun _ => rfl) i, State.Quiet.heldBy (fun _ => rfl) i⟩
  cases request with
  | kioskCreateTicket body key =>
      -- the tenant is that of the location which the first statement reads
      refine endsAlike_perform start blind_alikeOn trivial
        fun value writes locks exec later later' alike => ?_
      have exec : (Stmt.read (.location body.locationId)).exec _ = .done value writes locks := exec
      have found : value = db.locations.get? body.locationId := (exec_read exec).1
      refine endsAlike_of_sends blind_alikeOn ?_ alike
      cases value with
      | none => trivial
      | some loc =>
          have mine (key' : String) (keyed : key' ∈ given key) :
              Request.names (.kioskCreateTicket body key)
                (keyTenant db (.kioskCreateTicket body key)) (loc.tenantId, key') :=
            ⟨by rw [keyTenant, ← found]; rfl, keyed⟩
          refine keepsTo_map ?_
          simp only [Program.ret_bind]
          split
          · exact keepsTo_kioskCreateNew mine
          · rename_i key' keyed
            refine sends_bind (keepsTo_createdBefore (mine key' keyed)) fun before => ?_
            cases before with
            | none => exact keepsTo_kioskCreateNew mine
            | some ticket => trivial
  | _ => exact endsAlike_of_sends blind_alikeOn (program_keepsTo hexdigest db other nofun) start

end QueueFlow.Concurrency
