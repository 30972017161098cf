import QueueFlow.App.TicketRepo

/-!
# The admin service

`services/admin_service.py`. The update methods assign the fields of the body that are not None;
SQLAlchemy then sends only the columns whose value differs from the one it loaded, and nothing when
there is none.
-/

namespace QueueFlow.App
open QueueFlow.Data QueueFlow.Transactions

def requireAdmin (actor : TokenPayload) : Handler Unit :=
  if actor.hasRole [.admin] then return ()
  else .raise (.http 403 "Requires admin role")

def requireManager (actor : TokenPayload) : Handler Unit :=
  if actor.hasRole [.admin, .manager] then return ()
  else .raise (.http 403 "Requires admin or manager role")

/-- `UUID(actor.tenant_id) if actor.tenant_id else None`. -/
def auditTenant (actor : TokenPayload) : Handler (Option UUID) :=
  if actor.tenantId = .malformed "" then return none else some <$> parse actor.tenantId

def audit (actor : TokenPayload) (action objectType : String) (objectId : UUID)
    (before after : Option PyDict) : Handler Unit := do
  let tenantId ← auditTenant actor
  let userId ← parse actor.sub
  let _ ← command (.insertRecord (.audit
    { tenantId := tenantId
      actorUserId := some userId
      action := action
      objectType := objectType
      objectId := objectId
      before := before
      after := after }))

def createRecord (new : NewRecord) : Handler Row := command (.insertRecord new)

/-- `row` is the loaded row; without a changed column no UPDATE is sent. -/
def updateRecord (unchanged : Bool) (row : Row) (update : RecordUpdate) : Handler Row :=
  if unchanged then return row else command (.updateRecord update)

/-! ## Dumps of bodies for the audit log -/

def optionalString (text : Option String) : PyValue :=
  match text with
  | some text => .str text
  | none => .none

def dumpTenantCreate (data : TenantCreate) : PyDict :=
  [("name", .str data.name.text), ("slug", .str data.slug.text)]

/-- `model_dump()` keeps `tenant_id` a UUID object. -/
def dumpLocationCreate (data : LocationCreate) : PyDict :=
  [("tenant_id", .uuid data.tenantId), ("name", .str data.name.text),
    ("address", optionalString data.address), ("timezone", .str data.timezone)]

/-! ## Changed columns -/

def changed {α : Type} [DecidableEq α] (assigned : Option α) (loaded : α) : Option α :=
  assigned.filter (· ≠ loaded)

def changedTenant (data : TenantUpdate) (loaded : Tenant) : TenantUpdate where
  name := data.name.filter fun name => name.text ≠ loaded.name
  active := changed data.active loaded.active

def changedLocation (data : LocationUpdate) (loaded : Location) : LocationUpdate where
  name := changed data.name loaded.name
  address := data.address.filter fun address => some address ≠ loaded.address
  timezone := changed data.timezone loaded.timezone
  active := changed data.active loaded.active

def changedService (data : ServiceUpdate) (loaded : Service) : ServiceUpdate where
  name := changed data.name loaded.name
  prefixText := changed data.prefixText loaded.prefixText
  category := data.category.filter fun category => some category ≠ loaded.category
  avgServiceMinutes := changed data.avgServiceMinutes loaded.avgServiceMinutes
  active := changed data.active loaded.active

def changedCounter (data : CounterUpdate) (loaded : Counter) : CounterUpdate where
  name := changed data.name loaded.name
  counterType := changed data.counterType loaded.counterType
  active := changed data.active loaded.active

def notFound (model : String) (id : UUID) : Failure := .http 404 s!"{model} {id} not found"

/-! ## Tenants -/

def createTenant (data : TenantCreate) (actor : TokenPayload) : Handler Row := do
  requireAdmin actor
  let tenant ← createRecord (.tenant data)
  audit actor "create" "Tenant" tenant.id none (some (dumpTenantCreate data))
  Program.commit
  return tenant

def updateTenant (tenantId : UUID) (data : TenantUpdate) (actor : TokenPayload) :
    Handler Row := do
  requireAdmin actor
  match ← query (.tenant tenantId) with
  | none => .raise (notFound "Tenant" tenantId)
  | some tenant =>
      let before : PyDict := [("name", .str tenant.name), ("active", .bool tenant.active)]
      let set := changedTenant data tenant
      let updated ← updateRecord (set = {}) (.tenant tenant) (.tenant tenantId set)
      audit actor "update" "Tenant" tenant.id (some before) none
      Program.commit
      return updated

/-! ## Locations, services, counters and channels -/

def createLocation (data : LocationCreate) (actor : TokenPayload) : Handler Row := do
  requireManager actor
  let loc ← createRecord (.location data)
  audit actor "create" "Location" loc.id none (some (dumpLocationCreate data))
  Program.commit
  return loc

/-- `update_location`, `update_service` and `update_counter` differ in the row only. -/
def updateUnaudited {α : Type} (load : Handler (Option α)) (missing : Failure) (row : α → Row)
    (unchanged : α → Prop) [DecidablePred unchanged] (update : α → RecordUpdate)
    (actor : TokenPayload) : Handler Row := do
  requireManager actor
  match ← load with
  | none => .raise missing
  | some loaded =>
      let updated ← updateRecord (unchanged loaded) (row loaded) (update loaded)
      Program.commit
      return updated

def updateLocation (locationId : UUID) (data : LocationUpdate) (actor : TokenPayload) :
    Handler Row :=
  updateUnaudited (query (.location locationId)) (notFound "Location" locationId) .location
    (fun loc => changedLocation data loc = {})
    (fun loc => .location locationId (changedLocation data loc)) actor

/-- `create_service`, `create_counter` and `create_channel` differ in the row only. -/
def createUnaudited (new : NewRecord) (actor : TokenPayload) : Handler Row := do
  requireManager actor
  let row ← createRecord new
  Program.commit
  return row

def createService (data : ServiceCreate) (actor : TokenPayload) : Handler Row :=
  createUnaudited (.service data) actor

def createCounter (data : CounterCreate) (actor : TokenPayload) : Handler Row :=
  createUnaudited (.counter data) actor

def createChannel (data : ChannelCreate) (actor : TokenPayload) : Handler Row :=
  createUnaudited (.channel data) actor

def updateService (serviceId : UUID) (data : ServiceUpdate) (actor : TokenPayload) :
    Handler Row :=
  updateUnaudited (query (.service serviceId)) (notFound "Service" serviceId) .service
    (fun svc => changedService data svc = {})
    (fun svc => .service serviceId (changedService data svc)) actor

def updateCounter (counterId : UUID) (data : CounterUpdate) (actor : TokenPayload) :
    Handler Row :=
  updateUnaudited (query (.counter counterId)) (notFound "Counter" counterId) .counter
    (fun counter => changedCounter data counter = {})
    (fun counter => .counter counterId (changedCounter data counter)) actor

/-! ## Users -/

def createUser (data : UserCreate) (actor : TokenPayload) : Handler Row := do
  requireAdmin actor
  let user ← createRecord (.user data)
  audit actor "create" "User" user.id none none
  Program.commit
  return user

def assignRole (userId : UUID) (data : RoleAssignment) (actor : TokenPayload) :
    Handler Unit := do
  requireAdmin actor
  audit actor "assign_role" "User" userId none none
  let _ ← createRecord (.userRole userId data)
  Program.commit

end QueueFlow.App
