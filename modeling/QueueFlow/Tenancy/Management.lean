import QueueFlow.Concurrency.Keyed
import QueueFlow.Tenancy.References

/-!
# Managers and tenants

The admin service checks the role of its actor and not whose rows it is asked to write. So an
operation stays in the actor's tenant exactly when its row belongs there, or nothing comes of it.
-/

namespace QueueFlow.Tenancy
open QueueFlow.App QueueFlow.Data QueueFlow.Tables QueueFlow.Transactions QueueFlow.Concurrency

variable {ι : Type} [DecidableEq ι] {hexdigest : PyDict → String} {env : Nat → Env}
  {requests : ι → Request} {db : Database} {i : ι} {tenantId : UUID}

structure KeepsOthers (tenantId : UUID) (before after : Database) : Prop where
  kept : ∀ lock row other, before.row lock = some row → before.tenantOf lock = some other →
    other ≠ tenantId → after.row lock = some row
  made : ∀ lock row other, after.row lock = some row → after.tenantOf lock = some other →
    other ≠ tenantId → before.row lock = some row

def Rejected (checks : List (Bool × DbError)) : Prop := ∃ check ∈ checks, check.1 = false

instance (checks : List (Bool × DbError)) : Decidable (Rejected checks) :=
  inferInstanceAs (Decidable (∃ check ∈ checks, check.1 = false))

/-- The only privileged role of the actor is manager. -/
def IsManager (tenantId : UUID) (actor : TokenPayload) : Prop :=
  actor.tenantId.parse = some tenantId ∧ actor.hasRole [.manager] = true ∧
    actor.hasRole [.admin] = false

/-- A create or an update of a location, service, counter or channel by a manager of the tenant. -/
def Manages (tenantId : UUID) : Request → Prop
  | .createLocation _ actor | .updateLocation _ _ actor | .createService _ actor
  | .updateService _ _ actor | .createCounter _ actor | .updateCounter _ _ actor
  | .createChannel _ actor => IsManager tenantId actor
  | _ => False

/-- The row of the operation belongs to the tenant, or the operation is rejected or changes no
column. A created location is always rejected with its audit entry. -/
def StaysHome (tenantId : UUID) (db : Database) (id : UUID) : Request → Prop
  | .createService data _ =>
      data.tenantId = tenantId ∨ Rejected ((NewRecord.service data).checks db id)
  | .createCounter data _ => db.owner (.location data.locationId) = some tenantId ∨
      Rejected ((NewRecord.counter data).checks db id)
  | .createChannel data _ =>
      data.tenantId = tenantId ∨ Rejected ((NewRecord.channel data).checks db id)
  | .updateLocation locationId data _ => ∀ loc ∈ db.locations.get? locationId,
      loc.tenantId = tenantId ∨ changedLocation data loc = {} ∨
        Rejected ((RecordUpdate.location locationId (changedLocation data loc)).checks db)
  | .updateService serviceId data _ => ∀ svc ∈ db.services.get? serviceId,
      svc.tenantId = tenantId ∨ changedService data svc = {} ∨
        Rejected ((RecordUpdate.service serviceId (changedService data svc)).checks db)
  | .updateCounter counterId data _ => ∀ counter ∈ db.counters.get? counterId,
      (∀ other ∈ db.owner (.location counter.locationId), other = tenantId) ∨
        changedCounter data counter = {} ∨
          Rejected ((RecordUpdate.counter counterId (changedCounter data counter)).checks db)
  | _ => True

/-! ## One row -/

theorem KeepsOthers.refl (db : Database) : KeepsOthers tenantId db db :=
  ⟨fun _ _ _ found _ _ => found, fun _ _ _ found _ _ => found⟩

/-- A write keeps the rows of other tenants exactly when its row belongs to this one. -/
theorem keepsOthers_apply {write : Write} {row : Row} (sound : Sound (db.row write.lock) write)
    (value : write.value = some row) (differs : db.row write.lock ≠ some row) :
    KeepsOthers tenantId db (db.apply write) ↔
      ∀ other, (db.apply write).tenantOf write.lock = some other → other = tenantId := by
  have written : (db.apply write).row write.lock = some row := by rw [row_apply, if_pos rfl, value]
  have elsewhere {lock : Lock} (away : write.lock ≠ lock) :
      (db.apply write).row lock = db.row lock := by rw [row_apply, if_neg away]
  constructor
  · intro keeps other owned
    by_contra foreign
    exact differs (keeps.made _ _ _ written owned foreign)
  · intro own
    constructor
    · intro lock old other found owned foreign
      by_cases here : write.lock = lock
      · subst here
        exact (foreign (own other (tenantOf_apply sound owned))).elim
      · rwa [elsewhere here]
    · intro lock new other found owned foreign
      by_cases here : write.lock = lock
      · subst here
        exact (foreign (own other owned)).elim
      · rwa [← elsewhere here]

/-- The operation writes this row, or it is idle and writes nothing. -/
def WritesOne (db : Database) (write : Write) (idle : Prop) (after : Database) : Prop :=
  idle ∧ after = db ∨ ¬ idle ∧ after = db.apply write

theorem keepsOthers_writesOne {write : Write} {row : Row} {idle : Prop} {after : Database}
    (writes : WritesOne db write idle after) (value : write.value = some row)
    (sound : ¬ idle → Sound (db.row write.lock) write)
    (differs : ¬ idle → db.row write.lock ≠ some row) :
    KeepsOthers tenantId db after ↔
      (∀ other, (db.apply write).tenantOf write.lock = some other → other = tenantId) ∨ idle := by
  rcases writes with ⟨idle, rfl⟩ | ⟨busy, rfl⟩
  · exact iff_of_true (.refl _) (.inr idle)
  · rw [keepsOthers_apply (sound busy) value (differs busy)]
    simp [busy]

/-! ## Statements of the admin service -/

section
variable {β : Type} {tick : Nat}
  {Q : Session Stmt Stmt.Res Failure Message Env β → Database → List Message → Prop}

theorem rejected_of_error {checks : List (Bool × DbError)} {α : Type} {value : α} {error : DbError}
    (failed : require checks value = .error error) : Rejected checks := require_eq_error failed

theorem not_rejected_of_ok {checks : List (Bool × DbError)} {α : Type} {value result : α}
    (passed : require checks value = .ok result) : ¬ Rejected checks := by
  rintro ⟨check, member, failed⟩
  rw [(require_eq_ok.mp passed).1 check member] at failed
  cases failed

theorem ends_createRecord {pending : List Write} {new : NewRecord} {next : Row → Handler β}
    (rejected : Rejected (new.checks (engine.applyAll db pending) (env tick).uuid) →
      ∀ error, Q (.raised error) db [])
    (rest : ¬ Rejected (new.checks (engine.applyAll db pending) (env tick).uuid) →
      Ends engine env i Q (next (new.row (env tick).uuid)) db
        (pending ++ [.insert (new.row (env tick).uuid)]) (tick + 1)) :
    Ends engine env i Q ((createRecord new).bind next) db pending tick := by
  refine ends_perform (fun context error sees exec => ?_)
    fun context value writes locks sees exec => ?_
  · have exec : (Stmt.write (.insertRecord new)).exec context = .fail error := exec
    rw [Stmt.exec, sees.view, sees.env] at exec
    split at exec
    · rename_i problem ran
      exact rejected (rejected_of_error ran) error
    · cases exec
  · have exec : (Stmt.write (.insertRecord new)).exec context = .done value writes locks := exec
    have ran := (exec_write exec).1
    rw [sees.view, sees.env] at ran
    obtain ⟨rfl, rfl, _⟩ := run_insertRecord ran
    exact rest (not_rejected_of_ok ran)

theorem ends_updateRecord {update : RecordUpdate} {unchanged : Bool} {row new : Row}
    {next : Row → Handler β} (found : update.row db = some new)
    (rejected : Rejected (update.checks db) → ∀ error, Q (.raised error) db [])
    (same : unchanged = true → Ends engine env i Q (next row) db [] tick)
    (rest : unchanged = false → ¬ Rejected (update.checks db) →
      Ends engine env i Q (next new) db [.update new] (tick + 1)) :
    Ends engine env i Q ((updateRecord unchanged row update).bind next) db [] tick := by
  cases unchanged with
  | true => exact same rfl
  | false =>
      refine ends_command (fun id now error ran => ?_) fun id now value writes ran => ?_
      · rw [Engine.applyAll_nil, Command.run, found] at ran
        exact rejected (rejected_of_error ran) _
      · rw [Engine.applyAll_nil] at ran
        obtain ⟨updated, rfl⟩ := run_updateRecord ran
        cases found.symm.trans updated
        rw [Command.run, found] at ran
        exact rest rfl (not_rejected_of_ok ran)

theorem ends_guard {condition : Prop} [Decidable condition] {failure : Failure}
    {pending : List Write} {next : Unit → Handler β}
    (refused : ¬ condition → Q (.raised failure) db [])
    (rest : condition → Ends engine env i Q (next ()) db pending tick) :
    Ends engine env i Q
      ((if condition then return () else .raise failure : Handler Unit).bind next) db pending
      tick := by
  split
  · rename_i holds
    exact rest holds
  · rename_i fails
    exact ends_raise (refused fails)

end

/-! ## Operations -/

section
variable {actor : TokenPayload} {tick : Nat}
  {Q : Session Stmt Stmt.Res Failure Message Env Response → Database → List Message → Prop}

theorem ends_createUnaudited {new : NewRecord}
    (refused : actor.hasRole [.admin, .manager] ≠ true → ∀ error, Q (.raised error) db [])
    (rejected : Rejected (new.checks db (env tick).uuid) → ∀ error, Q (.raised error) db [])
    (stored : ¬ Rejected (new.checks db (env tick).uuid) →
      Q (.returned (.record (new.row (env tick).uuid))) (db.put (new.row (env tick).uuid)) []) :
    Ends engine env i Q (Response.record <$> createUnaudited new actor) db [] tick := by
  simp only [createUnaudited, Program.map_eq, Program.bind_eq, Program.pure_eq, Program.bind_assoc,
    Program.ret_bind]
  refine ends_guard (fun role => refused role _) fun _ => ?_
  exact ends_createRecord rejected fun passed => ends_commit (ends_ret (stored passed))

structure Updates (Q : Session Stmt Stmt.Res Failure Message Env Response → Database →
    List Message → Prop) (db : Database) (unchanged : Prop) (row new : Row)
    (update : RecordUpdate) : Prop where
  rejected : ¬ unchanged → Rejected (update.checks db) → ∀ error, Q (.raised error) db []
  same : unchanged → Q (.returned (.record row)) db []
  updated : ¬ unchanged → ¬ Rejected (update.checks db) →
    Q (.returned (.record new)) (db.put new) []

theorem Updates.ends {update : RecordUpdate} {unchanged : Prop} [Decidable unchanged]
    {row new : Row} (updates : Updates Q db unchanged row new update)
    (found : update.row db = some new) :
    Ends engine env i Q
      (((updateRecord (decide unchanged) row update).bind fun updated =>
        Program.commit.bind fun _ => pure updated).bind fun value => .ret (Response.record value))
      db [] tick := by
  rw [Program.bind_assoc]
  by_cases same : unchanged
  · rw [updateRecord, if_pos (decide_eq_true same)]
    exact ends_commit (ends_ret (updates.same same))
  · exact ends_updateRecord found (updates.rejected same)
      (fun equal => absurd (of_decide_eq_true equal) same)
      fun _ passed => ends_commit (ends_ret (updates.updated same passed))

/-- The SELECT of an update method answers `found`, and its UPDATE would store `new`. -/
structure Loads {α : Type} (env : Nat → Env) (i : ι) (db : Database) (load : Handler (Option α))
    (found : Option α) (update : α → RecordUpdate) (new : α → Row) : Prop where
  ends : ∀ {Q : Session Stmt Stmt.Res Failure Message Env Response → Database → List Message → Prop}
    {next : Option α → Handler Response} {tick : Nat},
    Ends engine env i Q (next found) db [] (tick + 1) →
      Ends engine env i Q (load.bind next) db [] tick
  row : ∀ loaded ∈ found, (update loaded).row db = some (new loaded)

theorem loads_location (locationId : UUID) (data : LocationUpdate) :
    Loads env i db (query (.location locationId)) (db.locations.get? locationId)
      (fun loc => .location locationId (changedLocation data loc))
      fun loc => .location ((changedLocation data loc).apply loc) where
  ends onward := ends_query rfl onward
  row loc located := by simp [RecordUpdate.row, Option.mem_def.mp located]

theorem loads_service (serviceId : UUID) (data : ServiceUpdate) :
    Loads env i db (query (.service serviceId)) (db.services.get? serviceId)
      (fun svc => .service serviceId (changedService data svc))
      fun svc => .service ((changedService data svc).apply svc) where
  ends onward := ends_query rfl onward
  row svc located := by simp [RecordUpdate.row, Option.mem_def.mp located]

theorem loads_counter (counterId : UUID) (data : CounterUpdate) :
    Loads env i db (query (.counter counterId)) (db.counters.get? counterId)
      (fun counter => .counter counterId (changedCounter data counter))
      fun counter => .counter ((changedCounter data counter).apply counter) where
  ends onward := ends_query rfl onward
  row counter located := by simp [RecordUpdate.row, Option.mem_def.mp located]

section
variable {α : Type} {load : Handler (Option α)} {found : Option α} {update : α → RecordUpdate}
  {new : α → Row} {missing : Failure} {row : α → Row} {unchanged : α → Prop}
  [DecidablePred unchanged]

theorem ends_updateUnaudited (loads : Loads env i db load found update new)
    (refused : actor.hasRole [.admin, .manager] ≠ true → ∀ error, Q (.raised error) db [])
    (absent : found = none → ∀ error, Q (.raised error) db [])
    (present : actor.hasRole [.admin, .manager] = true → ∀ loaded ∈ found,
      Updates Q db (unchanged loaded) (row loaded) (new loaded) (update loaded)) :
    Ends engine env i Q
      (Response.record <$> updateUnaudited load missing row unchanged update actor) db [] tick := by
  simp only [updateUnaudited, Program.map_eq, Program.bind_eq, Program.bind_assoc]
  refine ends_guard (fun role => refused role _) fun role => loads.ends ?_
  cases found with
  | none => exact ends_raise (absent rfl _)
  | some loaded => exact (present role loaded rfl).ends (loads.row loaded rfl)

end

/-- The audit entry of a creation holds a UUID object, so it cannot be stored. -/
theorem ends_createLocation {data : LocationCreate} (raised : ∀ error, Q (.raised error) db []) :
    Ends engine env i Q (Response.record <$> createLocation data actor) db [] tick := by
  simp only [createLocation, Program.map_eq, Program.bind_eq, Program.pure_eq, Program.bind_assoc,
    Program.ret_bind, audit]
  refine ends_guard (fun _ => raised _) fun _ => ends_createRecord (fun _ => raised) fun _ => ?_
  refine ends_silent raised (silent_auditTenant _) fun tenantId _ => ?_
  refine ends_silent raised (silent_parse _) fun userId _ => ?_
  refine ends_command (fun _ _ _ _ => raised _) fun id now value writes ran => ?_
  have stored := (run_insertRecord ran).2.2 (PyDict.serializable (dumpLocationCreate data),
    .notSerializable "after_json") (by simp [NewRecord.checks])
  simp [dumpLocationCreate, PyDict.serializable] at stored

/-! ## What a manager writes -/

theorem alone_of_ends {Q : Session Stmt Stmt.Res Failure Message Env Response → Database →
      List Message → Prop}
    (ends : Ends engine env i Q (program hexdigest (requests i)) db [] 0) :
    ∃ session sent, Q session (alone hexdigest env requests db i).state.store sent := by
  obtain ⟨sent, _, holds⟩ := serve_of_ends (w := initial hexdigest requests db) rfl
    (fun _ => rfl) rfl ends
  exact ⟨_, sent, holds⟩

theorem stays_kept (ends : Ends engine env i (fun _ store _ => store = db)
      (program hexdigest (requests i)) db [] 0) :
    KeepsOthers tenantId db (alone hexdigest env requests db i).state.store := by
  obtain ⟨_, _, kept⟩ := alone_of_ends ends
  rw [kept]
  exact .refl _

theorem hasRole_of_manager (manager : actor.hasRole [.manager] = true) :
    actor.hasRole [.admin, .manager] = true := by
  simp only [TokenPayload.hasRole, List.any_eq_true] at manager ⊢
  obtain ⟨role, held, is⟩ := manager
  exact ⟨role, held, by simp_all⟩

theorem writesOne_updates {update : RecordUpdate} {unchanged : Prop} {row new : Row} :
    Updates (fun _ store _ => WritesOne db (.update new) (unchanged ∨ Rejected (update.checks db))
      store) db unchanged row new update where
  rejected _ rejected _ := .inl ⟨.inr rejected, rfl⟩
  same same := .inl ⟨.inl same, rfl⟩
  updated differs passed := .inr ⟨not_or.mpr ⟨differs, passed⟩, rfl⟩

theorem stays_created {new : NewRecord} (manager : actor.hasRole [.manager] = true)
    (is : program hexdigest (requests i) = Response.record <$> createUnaudited new actor) :
    KeepsOthers tenantId db (alone hexdigest env requests db i).state.store ↔
      (∀ other, (db.put (new.row (env 0).uuid)).tenantOf (new.row (env 0).uuid).lock = some other →
        other = tenantId) ∨ Rejected (new.checks db (env 0).uuid) := by
  have ends : Ends engine env i (fun _ store _ => WritesOne db (.insert (new.row (env 0).uuid))
      (Rejected (new.checks db (env 0).uuid)) store) (program hexdigest (requests i)) db [] 0 := by
    rw [is]
    exact ends_createUnaudited (fun role => absurd (hasRole_of_manager manager) role)
      (fun rejected _ => .inl ⟨rejected, rfl⟩) fun passed => .inr ⟨passed, rfl⟩
  obtain ⟨_, _, writes⟩ := alone_of_ends ends
  have absent (passed : ¬ Rejected (new.checks db (env 0).uuid)) :
      db.row (new.row (env 0).uuid).lock = none := by
    by_contra present
    refine passed ⟨_, List.mem_cons_self, ?_⟩
    simpa [Option.isNone_eq_false_iff, Option.isSome_iff_ne_none] using present
  refine keepsOthers_writesOne writes rfl (fun passed => absent passed) fun passed same => ?_
  have none := (absent passed).symm.trans same
  cases none

theorem stays_updated {update : RecordUpdate} (unchanged : Prop) {new : Row}
    (ends : Ends engine env i (fun _ store _ => WritesOne db (.update new)
      (unchanged ∨ Rejected (update.checks db)) store) (program hexdigest (requests i)) db [] 0)
    (found : update.row db = some new) (differs : db.row new.lock = some new → unchanged) :
    KeepsOthers tenantId db (alone hexdigest env requests db i).state.store ↔
      (∀ other, (db.put new).tenantOf new.lock = some other → other = tenantId) ∨
        unchanged ∨ Rejected (update.checks db) := by
  obtain ⟨_, _, writes⟩ := alone_of_ends ends
  exact keepsOthers_writesOne writes rfl (fun _ => sound_record found)
    fun busy same => busy (.inl (differs same))

theorem stays_updateUnaudited {α : Type} {load : Handler (Option α)} {found : Option α}
    {update : α → RecordUpdate} {new : α → Row} {missing : Failure} {row : α → Row}
    {unchanged : α → Prop} [DecidablePred unchanged] (manager : actor.hasRole [.manager] = true)
    (loads : Loads env i db load found update new)
    (is : program hexdigest (requests i) =
      Response.record <$> updateUnaudited load missing row unchanged update actor)
    (differs : ∀ loaded ∈ found, db.row (new loaded).lock = some (new loaded) → unchanged loaded) :
    KeepsOthers tenantId db (alone hexdigest env requests db i).state.store ↔
      ∀ loaded ∈ found, (∀ other, (db.put (new loaded)).tenantOf (new loaded).lock = some other →
        other = tenantId) ∨ unchanged loaded ∨ Rejected ((update loaded).checks db) := by
  cases found with
  | none =>
      refine iff_of_true (stays_kept ?_) (by simp)
      rw [is]
      refine ends_updateUnaudited loads (fun _ _ => rfl) (fun _ _ => rfl) fun _ loaded located => ?_
      cases located
  | some loaded =>
      refine (stays_updated (unchanged loaded) ?_ (loads.row loaded rfl)
        (differs loaded rfl)).trans (by simp)
      rw [is]
      refine ends_updateUnaudited loads (fun role => absurd (hasRole_of_manager manager) role)
        (fun none => by cases none) fun _ other located => ?_
      cases located
      exact writesOne_updates

/-! ## Changed columns -/

theorem changed_getD {α : Type} [DecidableEq α] {assigned : Option α} {loaded : α} :
    (changed assigned loaded).getD loaded = loaded ↔ changed assigned loaded = none := by
  cases kept : changed assigned loaded with
  | none => simp
  | some value =>
      have differs : value ≠ loaded := by simpa using (Option.mem_filter_iff.mp kept).2
      simp [differs]

theorem or_filter {assigned loaded : Option String} :
    (assigned.filter fun value => !decide (some value = loaded)).or loaded = loaded ↔
      (assigned.filter fun value => !decide (some value = loaded)) = none := by
  cases kept : assigned.filter fun value => !decide (some value = loaded) with
  | none => simp
  | some value =>
      have differs : some value ≠ loaded := by simpa using (Option.mem_filter_iff.mp kept).2
      simp [differs]

/-! ## Whose row it is -/

/-- A manager stays in the tenant exactly when the row of the operation belongs to it, unless the
operation changes nothing. -/
theorem managers_stay (manages : Manages tenantId (requests i)) :
    KeepsOthers tenantId db (alone hexdigest env requests db i).state.store ↔
      StaysHome tenantId db (env 0).uuid (requests i) := by
  cases is : requests i with
  | createLocation data actor =>
      rw [is] at manages
      refine iff_of_true (stays_kept ?_) trivial
      rw [is]
      exact ends_createLocation fun _ => rfl
  | updateLocation locationId data actor =>
      rw [is] at manages
      refine (stays_updateUnaudited manages.2.1 (loads_location locationId data) (by rw [is]; rfl)
        fun loc located same => ?_).trans ?_
      · obtain rfl : loc.id = locationId := Table.key_of_get? located
        cases loc
        simp_all [Row.lock, Database.row, LocationUpdate.apply, changedLocation, changed_getD,
          or_filter]
      · simp [StaysHome, Row.lock, Database.tenantOf, Database.owner, row_put, Row.owner,
          LocationUpdate.apply]
  | createService data actor =>
      rw [is] at manages
      refine (stays_created manages.2.1 (by rw [is]; rfl)).trans ?_
      simp [StaysHome, NewRecord.row, Row.lock, Database.tenantOf, Database.owner, row_put,
        Row.owner]
  | updateService serviceId data actor =>
      rw [is] at manages
      refine (stays_updateUnaudited manages.2.1 (loads_service serviceId data) (by rw [is]; rfl)
        fun svc located same => ?_).trans ?_
      · obtain rfl : svc.id = serviceId := Table.key_of_get? located
        cases svc
        simp_all [Row.lock, Database.row, ServiceUpdate.apply, changedService, changed_getD,
          or_filter]
      · simp [StaysHome, Row.lock, Database.tenantOf, Database.owner, row_put, Row.owner,
          ServiceUpdate.apply]
  | createCounter data actor =>
      rw [is] at manages
      refine (stays_created manages.2.1 (by rw [is]; rfl)).trans ?_
      have located : ¬ Rejected ((NewRecord.counter data).checks db (env 0).uuid) →
          ∃ owner, db.owner (.location data.locationId) = some owner := by
        intro passed
        have known : db.hasLocation data.locationId = true := by
          by_contra missing
          exact passed ⟨(db.hasLocation data.locationId, .foreignKey "location_id"),
            by simp [NewRecord.checks], by simpa using missing⟩
        obtain ⟨loc, found⟩ := Option.isSome_iff_exists.mp known
        exact ⟨loc.tenantId, owner_location found⟩
      have placed : (db.put ((NewRecord.counter data).row (env 0).uuid)).tenantOf
          ((NewRecord.counter data).row (env 0).uuid).lock =
            db.owner (.location data.locationId) := by
        simp [NewRecord.row, Row.lock, Database.tenantOf, Database.owner, row_put, Row.owner]
      rw [placed, StaysHome]
      by_cases rejected : Rejected ((NewRecord.counter data).checks db (env 0).uuid)
      · simp [rejected]
      · obtain ⟨owner, owned⟩ := located rejected
        simp [rejected, owned]
  | updateCounter counterId data actor =>
      rw [is] at manages
      refine (stays_updateUnaudited manages.2.1 (loads_counter counterId data) (by rw [is]; rfl)
        fun counter located same => ?_).trans ?_
      · obtain rfl : counter.id = counterId := Table.key_of_get? located
        cases counter
        simp_all [Row.lock, Database.row, CounterUpdate.apply, changedCounter, changed_getD]
      · simp [StaysHome, Row.lock, Database.tenantOf, Database.owner, row_put, Row.owner,
          CounterUpdate.apply]
  | createChannel data actor =>
      rw [is] at manages
      refine (stays_created manages.2.1 (by rw [is]; rfl)).trans ?_
      simp [StaysHome, NewRecord.row, Row.lock, Database.tenantOf, Database.owner, row_put,
        Row.owner]
  | _ =>
      rw [is] at manages
      exact manages.elim

end

theorem not_keepsOthers {before after : Database} {other : UUID} (lock : Lock)
    (differs : after.row lock ≠ before.row lock) (owned : after.tenantOf lock = some other)
    (foreign : other ≠ tenantId) : ¬ KeepsOthers tenantId before after := by
  intro keeps
  have present : ∃ row, after.row lock = some row := by
    cases found : after.row lock with
    | some row => exact ⟨row, rfl⟩
    | none => cases lock <;> simp [Database.tenantOf, Database.owner, found] at owned
  obtain ⟨row, found⟩ := present
  exact differs (found.trans (keeps.made lock row other found owned foreign).symm)

def manager : TokenPayload := ⟨.canonical 40, .canonical 1, [.manager]⟩

def email (tenantId : UUID) : ChannelCreate := ⟨tenantId, ⟨"E-mail", by decide, by decide⟩⟩

def opensChannel : Unit → Request := fun _ => .createChannel (email 1) manager

theorem managers_stay_email : KeepsOthers 1 twoTenants
    (alone textDigest steadyEnv opensChannel twoTenants ()).state.store := by
  have manages : Manages 1 (opensChannel ()) := ⟨rfl, rfl, rfl⟩
  exact (managers_stay manages).mpr (.inl rfl)

/-- The manager of tenant 1 renames a location of tenant 2, closes its counter, changes the prefix
of its service, and opens a channel for it. -/
def strays : Fin 4 → Request
  | 0 => .updateLocation 11 { name := some "Hall" } manager
  | 1 => .updateCounter 31 { active := some false } manager
  | 2 => .updateService 21 { prefixText := some "P" } manager
  | 3 => .createChannel (email 2) manager

def strayed : Fin 4 → Lock
  | 0 => .location 11
  | 1 => .counter 31
  | 2 => .service 21
  | 3 => .channel (steadyEnv 0).uuid

theorem strays_manage : ∀ i, Manages 1 (strays i)
  | 0 | 1 | 2 | 3 => ⟨rfl, rfl, rfl⟩

theorem managers_stray : (∀ i : Fin 4, Manages 1 (strays i)) ∧ ∀ i : Fin 4,
    ¬ KeepsOthers 1 twoTenants (alone textDigest steadyEnv strays twoTenants i).state.store := by
  have differs : ∀ i : Fin 4,
      let after := (alone textDigest steadyEnv strays twoTenants i).state.store
      after.row (strayed i) ≠ twoTenants.row (strayed i) ∧ after.tenantOf (strayed i) = some 2 := by
    decide +kernel
  exact ⟨strays_manage, fun i =>
    not_keepsOthers (strayed i) (differs i).1 (differs i).2 (by decide)⟩

end QueueFlow.Tenancy
