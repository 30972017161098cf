import QueueFlow.Tenancy.Management

/-!
# The audit log

Which operations of the admin service leave their row in the audit log, over any sequence of them.
The row is written in the transaction of the change, so a row that cannot be stored undoes the
change, and a location can never be created.
-/

namespace QueueFlow.Tenancy
open QueueFlow.App QueueFlow.Data QueueFlow.Tables QueueFlow.Transactions QueueFlow.Concurrency

variable {ι : Type} [DecidableEq ι] {hexdigest : PyDict → String} {env : Nat → Env}
  {requests : ι → Request} {db : Database} {i : ι}

/-! ## What the log should hold -/

/-- The action and the type of the object, for the operations that `docs/security.md` lists. -/
def auditedAs : Request → Option (String × String)
  | .createTenant _ _ => some ("create", "Tenant")
  | .updateTenant _ _ _ => some ("update", "Tenant")
  | .createLocation _ _ => some ("create", "Location")
  | .updateLocation _ _ _ => some ("update", "Location")
  | .createUser _ _ => some ("create", "User")
  | .assignRole _ _ _ => some ("assign_role", "User")
  | _ => none

def objectOf : Request → Response → Option UUID
  | .assignRole userId _ _, _ => some userId
  | _, .record row => some row.id
  | _, _ => none

structure Names (entry : Request × Response) (row : AuditLog) : Prop where
  user : ∃ actor ∈ entry.1.actor, ∃ userId ∈ actor.sub.parse, row.actorUserId = some userId
  action : auditedAs entry.1 = some (row.action, row.objectType)
  object : objectOf entry.1 entry.2 = some row.objectId

/-- What an operation has changed, if it succeeded and belongs in the log. -/
def mutation (request : Request)
    (session : Session Stmt Stmt.Res Failure Message Env Response) : Option (Request × Response) :=
  if (auditedAs request).isSome then session.answer?.map (request, ·) else none

def mutations (requests : ι → Request) (w : AppWorld ι) (order : List ι) :
    List (Request × Response) :=
  order.filterMap fun i => mutation (requests i) (w.session i)

def Told (requests : ι → Request) (db : Database) (after : AppWorld ι) (order : List ι) : Prop :=
  ∃ rows, after.state.store.auditLog.rows = db.auditLog.rows ++ rows ∧
    List.Forall₂ Names (mutations requests after order) rows

def MayCreate (db : Database) (id : UUID) (actor : TokenPayload) (roles : List RoleName)
    (new : NewRecord) : Prop :=
  actor.hasRole roles = true ∧ ¬ Rejected (new.checks db id)

def ValidCreate (db : Database) (id : UUID) : Request → Prop
  | .createTenant data actor => MayCreate db id actor [.admin] (.tenant data)
  | .createLocation data actor => MayCreate db id actor [.admin, .manager] (.location data)
  | .createService data actor => MayCreate db id actor [.admin, .manager] (.service data)
  | .createCounter data actor => MayCreate db id actor [.admin, .manager] (.counter data)
  | .createChannel data actor => MayCreate db id actor [.admin, .manager] (.channel data)
  | .createUser data actor => MayCreate db id actor [.admin] (.user data)
  | _ => False

/-- The log tells of every mutation, a failed operation has changed nothing, and no valid creation
has failed. -/
structure AuditComplete (hexdigest : PyDict → String) (env : Nat → Env) (requests : ι → Request)
    (db : Database) (order : List ι) : Prop where
  told : Told requests db ((initial hexdigest requests db).serveAll engine env order) order
  atomic : (initial hexdigest requests db).Serves engine env (fun w i =>
    ((w.serve engine env i).session i).hasRaised = true →
      (w.serve engine env i).state.store = w.state.store) order
  stored : (initial hexdigest requests db).Serves engine env (fun w i =>
    ValidCreate w.state.store (env w.state.tick).uuid (requests i) →
      ((w.serve engine env i).session i).hasReturned = true) order

/-! ## When it does -/

/-- The tenant that the actor's token names is stored, or it names none. -/
def TenantStored (db : Database) (actor : TokenPayload) : Prop :=
  actor.tenantId = .malformed "" ∨ ∃ tenantId ∈ actor.tenantId.parse, db.hasTenant tenantId = true

def Auditable (db : Database) (id : UUID) (actor : TokenPayload) : Prop :=
  db.auditLog.get? id = none ∧ TenantStored db actor ∧
    ∃ userId ∈ actor.sub.parse, db.hasUser userId = true

def AuditStored (env : Nat → Env) (db : Database) (tick : Nat) (actor : TokenPayload)
    (roles : List RoleName) (new : NewRecord) : Prop :=
  MayCreate db (env tick).uuid actor roles new →
    Auditable (db.put (new.row (env tick).uuid)) (env (tick + 1)).uuid actor

def UpdatesLocation (db : Database) (locationId : UUID) (data : LocationUpdate)
    (actor : TokenPayload) : Prop :=
  actor.hasRole [.admin, .manager] = true ∧ ∃ loc ∈ db.locations.get? locationId,
    changedLocation data loc = {} ∨
      ¬ Rejected ((RecordUpdate.location locationId (changedLocation data loc)).checks db)

/-- A tenant or user is created by an actor whose audit row can be stored, no valid location is
created, and no location is updated. -/
def KeepsAudit (env : Nat → Env) (db : Database) (tick : Nat) : Request → Prop
  | .createTenant data actor => AuditStored env db tick actor [.admin] (.tenant data)
  | .createUser data actor => AuditStored env db tick actor [.admin] (.user data)
  | .createLocation data actor =>
      ¬ MayCreate db (env tick).uuid actor [.admin, .manager] (.location data)
  | .updateLocation locationId data actor => ¬ UpdatesLocation db locationId data actor
  | _ => True

instance (db : Database) (id : UUID) (actor : TokenPayload) (roles : List RoleName)
    (new : NewRecord) : Decidable (MayCreate db id actor roles new) :=
  inferInstanceAs (Decidable (_ ∧ _))

instance (db : Database) (actor : TokenPayload) : Decidable (TenantStored db actor) :=
  inferInstanceAs (Decidable (_ ∨ _))

instance (db : Database) (id : UUID) (actor : TokenPayload) : Decidable (Auditable db id actor) :=
  inferInstanceAs (Decidable (_ ∧ _))

instance (env : Nat → Env) (db : Database) (tick : Nat) (actor : TokenPayload)
    (roles : List RoleName) (new : NewRecord) :
    Decidable (AuditStored env db tick actor roles new) :=
  inferInstanceAs (Decidable (_ → _))

instance (db : Database) (locationId : UUID) (data : LocationUpdate) (actor : TokenPayload) :
    Decidable (UpdatesLocation db locationId data actor) :=
  inferInstanceAs (Decidable (_ ∧ _))

instance (env : Nat → Env) (db : Database) (tick : Nat) :
    ∀ request, Decidable (KeepsAudit env db tick request)
  | .createTenant _ actor => inferInstanceAs (Decidable (AuditStored env db tick actor _ _))
  | .createUser _ actor => inferInstanceAs (Decidable (AuditStored env db tick actor _ _))
  | .createLocation _ actor => inferInstanceAs (Decidable (¬ MayCreate db _ actor _ _))
  | .updateLocation id data actor =>
      inferInstanceAs (Decidable (¬ UpdatesLocation db id data actor))
  | .createTicket .. | .kioskCreateTicket .. | .callNext .. | .startService .. | .completeTicket ..
  | .holdTicket .. | .cancelTicket .. | .noShow .. | .transferTicket .. | .autoNoShowCalledTickets
  | .cleanupIdempotencyKeys | .updateTenant .. | .createService .. | .updateService ..
  | .createCounter .. | .updateCounter .. | .createChannel .. | .assignRole .. =>
      inferInstanceAs (Decidable True)

/-! ## Statements -/

section
variable {β : Type} {pending : List Write} {tick : Nat} {actor : TokenPayload}
  {Q : Session Stmt Stmt.Res Failure Message Env β → Database → List Message → Prop}

theorem auditTenant_cases (db : Database) (actor : TokenPayload) :
    (∃ error, auditTenant actor = .raise error ∧ ¬ TenantStored db actor) ∨
      ∃ tenantId, auditTenant actor = .ret tenantId ∧
        (tenantId.all db.hasTenant = true ↔ TenantStored db actor) := by
  unfold TenantStored
  by_cases blank : actor.tenantId = .malformed ""
  · exact .inr ⟨none, by rw [auditTenant, if_pos blank]; rfl, by simp [blank]⟩
  · rw [auditTenant, if_neg blank]
    cases parsed : actor.tenantId.parse with
    | none => exact .inl ⟨_, by rw [parse, parsed]; rfl, by simp [blank]⟩
    | some tenantId => exact .inr ⟨some tenantId, by rw [parse_ret parsed]; rfl, by simp [blank]⟩

/-- The payloads of an audit row hold only values that JSON has. -/
def jsonOnly (before after : Option PyDict) : Bool :=
  before.all PyDict.serializable && after.all PyDict.serializable

theorem rejected_audit {id : UUID} {entry : AuditEntry}
    (json : jsonOnly entry.before entry.after = true) :
    Rejected ((NewRecord.audit entry).checks db id) ↔ ¬ (db.auditLog.get? id = none ∧
      entry.tenantId.all db.hasTenant = true ∧ entry.actorUserId.all db.hasUser = true) := by
  have row : ((db.row ((NewRecord.audit entry).row id).lock).isNone = true) ↔
      db.auditLog.get? id = none := by
    simp [NewRecord.row, Row.lock, Database.row]
  rw [jsonOnly, Bool.and_eq_true] at json
  rw [← row]
  simp only [Rejected, NewRecord.checks, List.exists_mem_cons_iff, List.not_mem_nil, false_and,
    exists_false, or_false, ← Bool.not_eq_true, json.1, json.2]
  tauto

theorem ends_audit {action objectType : String} {objectId : UUID} {before after : Option PyDict}
    {next : Unit → Handler β} (json : jsonOnly before after = true)
    (refused : ¬ Auditable (engine.applyAll db pending) (env tick).uuid actor →
      ∀ error, Q (.raised error) db [])
    (stored : Auditable (engine.applyAll db pending) (env tick).uuid actor →
      ∀ tenantId, ∀ userId ∈ actor.sub.parse, Ends engine env i Q (next ()) db
        (pending ++ [.insert (.audit ⟨(env tick).uuid, tenantId, some userId, action, objectType,
          objectId, before, after⟩)]) (tick + 1)) :
    Ends engine env i Q ((audit actor action objectType objectId before after).bind next) db pending
      tick := by
  simp only [audit, Program.bind_eq, Program.pure_eq, Program.bind_assoc]
  rcases auditTenant_cases (engine.applyAll db pending) actor with
    ⟨error, raises, unknown⟩ | ⟨tenantId, passes, known⟩
  · rw [raises]
    exact ends_raise (refused (fun auditable => unknown auditable.2.1) error)
  rw [passes, Program.ret_bind]
  cases parsed : actor.sub.parse with
  | none =>
      rw [parse, parsed]
      exact ends_raise (refused (fun auditable => by simpa [parsed] using auditable.2.2) _)
  | some userId =>
      rw [parse_ret parsed, Program.ret_bind]
      refine ends_createRecord (fun rejected error => refused ?_ error) fun passed => ?_
      · rintro ⟨absent, tenant, user⟩
        refine (rejected_audit json).mp rejected ⟨absent, known.mpr tenant, ?_⟩
        simpa [parsed] using user
      · obtain ⟨absent, tenant, user⟩ := not_not.mp (mt (rejected_audit json).mpr passed)
        refine stored ⟨absent, known.mp tenant, ?_⟩ tenantId userId parsed
        simpa [parsed] using user

end

/-! ## One operation -/

/-- Every operation that belongs in the log asks for a row, except `update_location`. -/
def asksRow : Request → Bool
  | .updateLocation _ _ _ => false
  | _ => true

/-- The operation leaves these rows in the log: one if it succeeded and asks for one. -/
structure Audits (env : Nat → Env) (db : Database) (tick : Nat) (request : Request)
    (session : Session Stmt Stmt.Res Failure Message Env Response) (after : Database) : Prop where
  atomic : session.hasRaised = true → after = db
  told : ∃ rows, after.auditLog.rows = db.auditLog.rows ++ rows ∧
    List.Forall₂ Names ((mutation request session).toList.filter fun entry => asksRow entry.1) rows
  keeps : KeepsAudit env db tick request ↔
    (ValidCreate db (env tick).uuid request → session.hasReturned = true) ∧
      (asksRow request = false → session.hasReturned = false)

section
variable {tick : Nat} {request : Request} {response : Response} {after : Database}

theorem audits_raised {error : Failure}
    (keeps : KeepsAudit env db tick request ↔ ¬ ValidCreate db (env tick).uuid request) :
    Audits env db tick request (.raised error) db where
  atomic _ := rfl
  told := ⟨[], (List.append_nil _).symm, by simp [mutation, Session.answer?]⟩
  keeps := by simp [keeps, Session.hasReturned]

theorem audits_untold (keeps : KeepsAudit env db tick request ↔ asksRow request = true)
    (untold : auditedAs request = none ∨ asksRow request = false)
    (same : after.auditLog = db.auditLog) :
    Audits env db tick request (.returned response) after where
  atomic raised := by simp [Session.hasRaised] at raised
  told := by
    refine ⟨[], by rw [same, List.append_nil], ?_⟩
    rcases untold with untold | untold
    · simp [mutation, untold]
    · cases audited : (auditedAs request).isSome <;>
        simp [mutation, audited, Session.answer?, untold]
  keeps := by simp [keeps, Session.hasReturned]

theorem audits_told {row : AuditLog} (keeps : KeepsAudit env db tick request)
    (asks : asksRow request = true) (names : Names (request, response) row)
    (put : after.auditLog = db.auditLog.put row) (absent : db.auditLog.get? row.id = none) :
    Audits env db tick request (.returned response) after where
  atomic raised := by simp [Session.hasRaised] at raised
  told := by
    refine ⟨[row], by rw [put]; exact Table.rows_put_of_absent absent, ?_⟩
    simp [mutation, names.action, Session.answer?, asks, names]
  keeps := by simp [keeps, asks, Session.hasReturned]

theorem ends_audited {pending : List Write} {later : Nat} {actor : TokenPayload}
    {action objectType : String} {objectId : UUID} {before dump : Option PyDict}
    (json : jsonOnly before dump = true)
    (kept : (engine.applyAll db pending).auditLog = db.auditLog)
    (refused : ¬ Auditable (engine.applyAll db pending) (env later).uuid actor →
      (KeepsAudit env db tick request ↔ ¬ ValidCreate db (env tick).uuid request))
    (stored : Auditable (engine.applyAll db pending) (env later).uuid actor →
      KeepsAudit env db tick request)
    (asks : asksRow request = true) (acts : request.actor = some actor)
    (audited : auditedAs request = some (action, objectType))
    (object : objectOf request response = some objectId) :
    Ends engine env i (fun session after _ => Audits env db tick request session after)
      ((audit actor action objectType objectId before dump).bind fun _ =>
        Program.commit.bind fun _ => .ret response) db pending later := by
  refine ends_audit json (fun unfit _ => audits_raised (refused unfit))
    fun auditable tenantId userId parsed => ends_commit (ends_ret ?_)
  have names : Names (request, response) ⟨(env later).uuid, tenantId, some userId, action,
      objectType, objectId, before, dump⟩ :=
    ⟨⟨actor, acts, userId, parsed, rfl⟩, audited, object⟩
  refine audits_told (stored auditable) asks names ?_ (kept ▸ auditable.1)
  rw [Engine.applyAll_append, ← kept]
  rfl

theorem ends_created {new : NewRecord} {actor : TokenPayload} {roles : List RoleName}
    {objectType : String} {dump : Option PyDict} (json : jsonOnly none dump = true)
    (valid : ValidCreate db (env tick).uuid request ↔ MayCreate db (env tick).uuid actor roles new)
    (keeps : KeepsAudit env db tick request ↔ AuditStored env db tick actor roles new)
    (asks : asksRow request = true) (acts : request.actor = some actor)
    (audited : auditedAs request = some ("create", objectType))
    (object : ∀ row, objectOf request (.record row) = some row.id)
    (kept : (db.put (new.row (env tick).uuid)).auditLog = db.auditLog) :
    Ends engine env i (fun session after _ => Audits env db tick request session after)
      ((createRecord new).bind fun row =>
        (audit actor "create" objectType row.id none dump).bind fun _ =>
          Program.commit.bind fun _ => .ret (Response.record row)) db [] tick := by
  refine ends_createRecord (fun rejected error => audits_raised ?_) fun passed =>
    ends_audited json kept (fun refused => ?_) (fun auditable => ?_) asks
      acts audited (object _)
  · rw [valid, keeps]
    exact iff_of_true (fun may => absurd rejected may.2) fun may => may.2 rejected
  · rw [valid, keeps]
    exact imp_congr_right fun _ => iff_of_false refused id
  · exact keeps.mpr fun _ => auditable

theorem audits_createUnaudited {new : NewRecord} {actor : TokenPayload}
    (valid : ValidCreate db (env tick).uuid request ↔
      MayCreate db (env tick).uuid actor [.admin, .manager] new)
    (keeps : KeepsAudit env db tick request) (asks : asksRow request = true)
    (untold : auditedAs request = none)
    (kept : (db.put (new.row (env tick).uuid)).auditLog = db.auditLog) :
    Ends engine env i (fun session after _ => Audits env db tick request session after)
      (Response.record <$> createUnaudited new actor) db [] tick := by
  refine ends_createUnaudited (fun role error => audits_raised ?_)
    (fun rejected error => audits_raised ?_) fun _ => ?_
  · rw [valid]
    exact iff_of_true keeps fun may => role may.1
  · rw [valid]
    exact iff_of_true keeps fun may => may.2 rejected
  · exact audits_untold (iff_of_true keeps asks) (.inl untold) kept

theorem audits_updateUnaudited {α : Type} {load : Handler (Option α)} {found : Option α}
    {update : α → RecordUpdate} {new : α → Row} {missing : Failure} {row : α → Row}
    {unchanged : α → Prop} [DecidablePred unchanged] {actor : TokenPayload}
    (loads : Loads env i db load found update new) (keeps : KeepsAudit env db tick request)
    (invalid : ¬ ValidCreate db (env tick).uuid request) (asks : asksRow request = true)
    (untold : auditedAs request = none)
    (kept : ∀ loaded, (db.put (new loaded)).auditLog = db.auditLog) :
    Ends engine env i (fun session after _ => Audits env db tick request session after)
      (Response.record <$> updateUnaudited load missing row unchanged update actor) db [] tick := by
  have raised (error : Failure) : Audits env db tick request (.raised error) db :=
    audits_raised (iff_of_true keeps invalid)
  exact ends_updateUnaudited loads (fun _ => raised) (fun _ => raised) fun _ loaded _ =>
    ⟨fun _ _ => raised, fun _ => audits_untold (iff_of_true keeps asks) (.inl untold) rfl,
      fun _ _ => audits_untold (iff_of_true keeps asks) (.inl untold) (kept loaded)⟩

theorem audits_updateLocation {locationId : UUID} {data : LocationUpdate} {actor : TokenPayload} :
    Ends engine env i
      (fun session after _ => Audits env db tick (.updateLocation locationId data actor) session after)
      (program hexdigest (.updateLocation locationId data actor)) db [] tick := by
  refine ends_updateUnaudited (loads_location locationId data)
    (fun role _ => audits_raised (iff_of_true ?_ id))
    (fun missing _ => audits_raised (iff_of_true ?_ id)) fun role loc found => ?_
  · exact fun updates => role updates.1
  · simp [KeepsAudit, UpdatesLocation, missing]
  have keeps : KeepsAudit env db tick (.updateLocation locationId data actor) ↔
      ¬ (changedLocation data loc = {} ∨ ¬ Rejected ((RecordUpdate.location locationId
        (changedLocation data loc)).checks db)) := by
    simp [KeepsAudit, UpdatesLocation, role, Option.mem_def.mp found]
  constructor
  · intro differs rejected error
    exact audits_raised
      (iff_of_true (keeps.mpr (not_or.mpr ⟨differs, not_not.mpr rejected⟩)) id)
  · intro same
    refine audits_untold (iff_of_false (fun kept => ?_) Bool.false_ne_true) (.inr rfl) rfl
    exact keeps.mp kept (.inl same)
  · intro _ passed
    refine audits_untold (iff_of_false (fun kept => ?_) Bool.false_ne_true) (.inr rfl) rfl
    exact keeps.mp kept (.inr passed)

theorem audits_updateTenant {tenantId : UUID} {data : TenantUpdate} {actor : TokenPayload} :
    Ends engine env i
      (fun session after _ => Audits env db tick (.updateTenant tenantId data actor) session after)
      (program hexdigest (.updateTenant tenantId data actor)) db [] tick := by
  simp only [program, updateTenant, Program.map_eq, Program.bind_eq, Program.pure_eq,
    Program.bind_assoc]
  refine ends_guard (fun role => audits_raised (iff_of_true trivial id)) fun role =>
    ends_query rfl ?_
  rw [Query.eval, Engine.applyAll_nil]
  cases found : db.tenants.get? tenantId with
  | none => exact ends_raise (audits_raised (iff_of_true trivial id))
  | some tenant =>
      have updates : (RecordUpdate.tenant tenantId (changedTenant data tenant)).row db =
          some (.tenant ((changedTenant data tenant).apply tenant)) := by
        simp [RecordUpdate.row, found]
      simp only [Program.bind_assoc]
      refine ends_updateRecord updates (fun _ _ => audits_raised (iff_of_true trivial id))
        (fun _ => ?_) fun _ _ => ?_
      · exact ends_audited rfl rfl (fun _ => iff_of_true trivial id) (fun _ => trivial) rfl rfl
          rfl rfl
      · exact ends_audited rfl rfl (fun _ => iff_of_true trivial id) (fun _ => trivial) rfl rfl
          rfl rfl

theorem audits_assignRole {userId : UUID} {data : RoleAssignment} {actor : TokenPayload} :
    Ends engine env i
      (fun session after _ => Audits env db tick (.assignRole userId data actor) session after)
      (program hexdigest (.assignRole userId data actor)) db [] tick := by
  simp only [program, assignRole, Program.map_eq, Program.bind_eq, Program.bind_assoc]
  refine ends_guard (fun role => audits_raised (iff_of_true trivial id)) fun role =>
    ends_audit rfl (fun _ _ => audits_raised (iff_of_true trivial id))
      fun auditable tenant actorId parsed => ?_
  refine ends_createRecord (fun _ _ => audits_raised (iff_of_true trivial id)) fun _ =>
    ends_commit (ends_ret ?_)
  exact audits_told trivial rfl ⟨⟨actor, rfl, actorId, parsed, rfl⟩, rfl, rfl⟩ rfl auditable.1

theorem audits_program (admin : request.isAdmin) :
    Ends engine env i (fun session after _ => Audits env db tick request session after)
      (program hexdigest request) db [] tick := by
  cases request with
  | createTenant data actor | createUser data actor =>
      simp only [program, createTenant, createUser, Program.map_eq, Program.bind_eq,
        Program.pure_eq, Program.bind_assoc, Program.ret_bind]
      refine ends_guard (fun role => audits_raised ?_) fun _ =>
        ends_created rfl Iff.rfl Iff.rfl rfl rfl rfl (fun _ => rfl) rfl
      exact iff_of_true (fun may => absurd may.1 role) fun may => role may.1
  | createLocation data actor => exact ends_createLocation fun _ => audits_raised Iff.rfl
  | createService data actor => exact audits_createUnaudited Iff.rfl trivial rfl rfl rfl
  | createCounter data actor => exact audits_createUnaudited Iff.rfl trivial rfl rfl rfl
  | createChannel data actor => exact audits_createUnaudited Iff.rfl trivial rfl rfl rfl
  | updateLocation => exact audits_updateLocation
  | updateService serviceId data actor =>
      exact audits_updateUnaudited (loads_service serviceId data) trivial id rfl rfl fun _ => rfl
  | updateCounter counterId data actor =>
      exact audits_updateUnaudited (loads_counter counterId data) trivial id rfl rfl fun _ => rfl
  | updateTenant => exact audits_updateTenant
  | assignRole => exact audits_assignRole
  | _ => exact admin.elim

end

/-! ## A sequence of operations -/

section
variable {order : List ι} {w : AppWorld ι}

theorem audits_serve {current : Handler Response} (admin : (requests i).isAdmin)
    (between : Between (fun i => .running (program hexdigest (requests i))) w)
    (running : w.session i = .running current) :
    Audits env w.state.store w.state.tick (requests i) ((w.serve engine env i).session i)
      (w.serve engine env i).state.store := by
  obtain ⟨fresh, closed⟩ := between.fresh running
  cases fresh
  obtain ⟨_, _, audits⟩ := serve_of_ends running between.quiet closed (audits_program admin)
  exact audits

omit [DecidableEq ι] in
theorem mutations_cons : mutations requests w (i :: order) =
    (mutation (requests i) (w.session i)).toList ++ mutations requests w order := by
  rw [mutations, List.filterMap_cons]
  cases mutation (requests i) (w.session i) <;> rfl

variable (env) in
theorem told_serveAll (distinct : order.Nodup) (admin : ∀ i ∈ order, (requests i).isAdmin)
    (between : Between (fun i => .running (program hexdigest (requests i))) w)
    (waiting : ∀ i ∈ order, ∃ program, w.session i = .running program) :
    ∃ rows, (w.serveAll engine env order).state.store.auditLog.rows =
        w.state.store.auditLog.rows ++ rows ∧
      List.Forall₂ Names ((mutations requests (w.serveAll engine env order) order).filter
        fun entry => asksRow entry.1) rows := by
  induction order generalizing w with
  | nil => exact ⟨[], (List.append_nil _).symm, .nil⟩
  | cons i order ih =>
      obtain ⟨new, distinct⟩ := List.nodup_cons.mp distinct
      obtain ⟨program, running⟩ := waiting i List.mem_cons_self
      obtain ⟨first, grown, names⟩ := (audits_serve (admin i List.mem_cons_self) between running
        : Audits env _ _ _ _ _).told
      obtain ⟨rest, later, others⟩ := ih distinct (fun j member =>
        admin j (List.mem_cons_of_mem i member)) (between.serve i) (serve_waiting new waiting)
      have kept : (w.serveAll engine env (i :: order)).session i =
          (w.serve engine env i).session i := (serveAll_other new).1
      refine ⟨first ++ rest, ?_, ?_⟩
      · rw [← List.append_assoc, ← grown]
        exact later
      · rw [mutations_cons, kept, List.filter_append]
        exact List.rel_append names others

theorem isSome_auditedAs {request : Request} (silent : asksRow request = false) :
    (auditedAs request).isSome = true := by
  cases request with
  | updateLocation locationId data actor => rfl
  | _ => cases silent

theorem mutation_eq_some {request : Request} {entry : Request × Response}
    {session : Session Stmt Stmt.Res Failure Message Env Response} :
    mutation request session = some entry ↔
      (auditedAs request).isSome = true ∧ entry.1 = request ∧ session = .returned entry.2 := by
  obtain ⟨first, second⟩ := entry
  cases audited : (auditedAs request).isSome <;> cases session <;>
    simp [mutation, audited, Session.answer?, eq_comm]

omit [DecidableEq ι] in
theorem asksRow_mutations : (∀ entry ∈ mutations requests w order, asksRow entry.1 = true) ↔
    ∀ i ∈ order, asksRow (requests i) = false → (w.session i).hasReturned = false := by
  simp only [mutations, List.mem_filterMap, mutation_eq_some]
  constructor
  · intro asks i member silent
    cases ended : w.session i with
    | returned response =>
        have asked : asksRow (requests i) = true :=
          asks (requests i, response) ⟨i, member, isSome_auditedAs silent, rfl, ended⟩
        rw [silent] at asked
        cases asked
    | _ => rfl
  · rintro quiet ⟨_, response⟩ ⟨i, member, _, rfl, ended⟩
    by_contra silent
    have never := quiet i member (by simpa using silent)
    rw [ended] at never
    cases never

theorem told_iff (distinct : order.Nodup) (admin : ∀ i ∈ order, (requests i).isAdmin) :
    Told requests db ((initial hexdigest requests db).serveAll engine env order) order ↔
      ∀ i ∈ order, asksRow (requests i) = false →
        (((initial hexdigest requests db).serveAll engine env order).session i).hasReturned =
          false := by
  obtain ⟨rows, grown, names⟩ := told_serveAll env (w := initial hexdigest requests db) distinct
    admin (between_start db _) fun _ _ => ⟨_, rfl⟩
  rw [← asksRow_mutations]
  constructor
  · rintro ⟨told, grown', names'⟩
    obtain rfl : told = rows := List.append_cancel_left (grown'.symm.trans grown)
    exact List.length_filter_eq_length_iff.mp (names.length_eq.trans names'.length_eq.symm)
  · intro asks
    exact ⟨rows, grown, List.filter_eq_self.mpr asks ▸ names⟩

/-- The audit log is complete over a sequence of operations exactly when every operation keeps it so
in the database that it meets. -/
theorem audit_complete_iff (distinct : order.Nodup) (admin : ∀ i ∈ order, (requests i).isAdmin) :
    AuditComplete hexdigest env requests db order ↔
      (initial hexdigest requests db).Serves engine env
        (fun w i => KeepsAudit env w.state.store w.state.tick (requests i)) order := by
  have between : Between _ (initial hexdigest requests db) := between_start db _
  have waiting : ∀ i ∈ order, ∃ program,
      (initial hexdigest requests db).session i = .running program := fun i _ => ⟨_, rfl⟩
  have audits : ∀ (w : AppWorld ι), ∀ i ∈ order, ∀ current,
      Between (fun i => .running (program hexdigest (requests i))) w →
      w.session i = .running current → Audits env w.state.store w.state.tick (requests i)
        ((w.serve engine env i).session i) (w.serve engine env i).state.store :=
    fun w i member current between running => audits_serve (admin i member) between running
  rw [serves_congr distinct between waiting fun w i member program between running =>
    (audits w i member program between running).keeps, serves_and,
      serves_session (fun i session => asksRow (requests i) = false → session.hasReturned = false)
        distinct, ← told_iff distinct admin]
  constructor
  · exact fun complete => ⟨complete.stored, complete.told⟩
  · rintro ⟨stored, told⟩
    refine ⟨told, serves_trivial.imp distinct between waiting ?_, stored⟩
    exact fun w i member program between running _ =>
      (audits w i member program between running).atomic

end

def staffing : Fin 3 → Request
  | 0 => .createTenant ⟨⟨"Borough", by decide, by decide⟩, ⟨"borough", by decide, by decide⟩,
      by decide⟩ admin
  | 1 => .createUser ⟨1, "second@city.example", ⟨"Second clerk", by decide, by decide⟩⟩ admin
  | 2 => .assignRole 40 { roleId := 50 } admin

theorem audit_complete_iff_staffing :
    AuditComplete textDigest steadyEnv staffing twoTenants [0, 1, 2] := by
  refine (audit_complete_iff (by decide) fun i _ => ?_).mpr (by decide +kernel)
  match i with
  | 0 | 1 | 2 => trivial

def building : Fin 2 → Request
  | 0 => .createLocation { tenantId := 1, name := ⟨"Annex", by decide, by decide⟩ } admin
  | 1 => .updateLocation 10 { name := some "Old hall" } admin

theorem locations_untold :
    ¬ AuditComplete textDigest steadyEnv building twoTenants [0] ∧
      ¬ AuditComplete textDigest steadyEnv building twoTenants [1] := by
  constructor
  · intro complete
    have valid : ValidCreate twoTenants (steadyEnv 0).uuid (building 0) :=
      (by decide : MayCreate _ _ _ _ _)
    have failed : (((initial textDigest building twoTenants).serve engine steadyEnv 0).session
        0).hasReturned = false := by decide +kernel
    exact Bool.false_ne_true (failed.symm.trans (complete.stored.1 valid))
  · intro complete
    obtain ⟨rows, grown, names⟩ := complete.told
    have changed : (mutations building ((initial textDigest building twoTenants).serveAll engine
        steadyEnv [1]) [1]).length = 1 := by decide +kernel
    have silent : ((initial textDigest building twoTenants).serveAll engine
        steadyEnv [1]).state.store.auditLog.rows = [] := by decide +kernel
    obtain rfl : rows = [] := (List.append_eq_nil_iff.mp (grown.symm.trans silent)).2
    rw [names.length_eq] at changed
    cases changed

end QueueFlow.Tenancy
