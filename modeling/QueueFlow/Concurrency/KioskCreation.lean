import QueueFlow.Concurrency.Alone
import QueueFlow.Concurrency.KeyBinding
import QueueFlow.Data.History
import QueueFlow.Transactions.Lockstep

/-!
# Kiosk and staff

The kiosk endpoint repeats the creation of the ticket service by hand. The two do the same, except
for the actor in the event and the hash in the key record.
-/

namespace QueueFlow.Concurrency
open QueueFlow.App QueueFlow.Data QueueFlow.Tables QueueFlow.Transactions

/-! ## Tables that differ in an actor or a hash -/

/-- The row without the actor of an event or the request hash of a key. -/
def unsigned : Row → Row
  | .event row => .event { row with actorUserId := none }
  | .idempotencyKey row => .idempotencyKey { row with requestHash := "" }
  | row => row

def SameTables (db db' : Database) : Prop :=
  ∀ lock, (db.row lock).map unsigned = (db'.row lock).map unsigned

def SameWrite (write write' : Write) : Prop :=
  write = write' ∨ ∃ row row', write = .insert row ∧ write' = .insert row' ∧
    unsigned row = unsigned row'

theorem unsigned_lock (row : Row) : (unsigned row).lock = row.lock := by
  cases row <;> rfl

theorem sameTables_apply {write write' : Write} {db db' : Database} (same : SameWrite write write')
    (tables : SameTables db db') : SameTables (db.apply write) (db'.apply write') := by
  intro lock
  rw [row_apply, row_apply]
  rcases same with rfl | ⟨row, row', rfl, rfl, same⟩
  · split
    · rfl
    · exact tables lock
  · have locks : row.lock = row'.lock := by
      rw [← unsigned_lock row, same, unsigned_lock]
    by_cases here : row'.lock = lock
    · simp [Write.lock, Write.value, locks, here, same]
    · simpa [Write.lock, Write.value, locks, here] using tables lock

theorem sameTables_applyAll {writes writes' : List Write} {db db' : Database}
    (same : List.Forall₂ SameWrite writes writes') (tables : SameTables db db') :
    SameTables (engine.applyAll db writes) (engine.applyAll db' writes') := by
  induction same generalizing db db' with
  | nil => exact tables
  | cons head tail ih => exact ih (sameTables_apply head tables)

theorem SameTables.isSome {db db' : Database} (same : SameTables db db') (lock : Lock) :
    (db.row lock).isSome = (db'.row lock).isSome := by
  simpa using congrArg Option.isSome (same lock)

/-! ## Statements -/

section
variable {ι : Type} [DecidableEq ι] {env env' : Nat → Env} {i : ι} {α : Type} {db db' : Database}
  {pending pending' : List Write}

theorem together_query {q : Query} {value : q.Res} {next next' : q.Res → Handler α}
    (fault : q.fault = none) (left : ∀ order, q.eval db order = value)
    (right : ∀ order, q.eval db' order = value)
    (rest : Together engine env env' SameTables SameWrite i (next value) (next' value) db [] db'
      []) :
    Together engine env env' SameTables SameWrite i ((query q).bind next) ((query q).bind next')
      db [] db' [] := by
  refine together_perform fun context context' same => .inr ?_
  refine ⟨value, [], [], value, [], [], ?_, ?_, rest⟩
  · change (Stmt.read q).exec context = _
    simp [Stmt.exec, fault, same.view, left]
  · change (Stmt.read q).exec context' = _
    simp [Stmt.exec, fault, same.view', right]

theorem together_command {c c' : Command} {next : c.Res → Handler α} {next' : c'.Res → Handler α}
    (tables : SameTables db db')
    (rest : ∀ id now,
      (∃ error, c.run (engine.applyAll db pending) id now = .error error ∧
        c'.run (engine.applyAll db' pending') id now = .error error) ∨
      ∃ value new value' new', c.run (engine.applyAll db pending) id now = .ok (value, new) ∧
        c'.run (engine.applyAll db' pending') id now = .ok (value', new') ∧
        Together engine env env' SameTables SameWrite i (next value) (next' value') db
          (pending ++ new) db' (pending' ++ new')) :
    Together engine env env' SameTables SameWrite i ((command c).bind next)
      ((command c').bind next') db pending db' pending' := by
  refine together_perform fun context context' same => ?_
  have exec : engine.exec (.write c) context = (Stmt.write c).exec context := rfl
  have exec' : engine.exec (.write c') context' = (Stmt.write c').exec context' := rfl
  rw [exec, exec', Stmt.exec, Stmt.exec, same.view, same.view', ← same.began, ← same.env]
  rcases rest context.env.uuid context.began.now with ⟨error, failed, failed'⟩ |
    ⟨value, new, value', new', ran, ran', onward⟩
  · exact .inl ⟨tables, .database error, by rw [failed], by rw [failed']⟩
  · exact .inr ⟨value, new, [], value', new', [], by rw [ran], by rw [ran'], onward⟩

/-! ## From the number on -/

def creation (hexdigest : PyDict → String) (new : NewTicket) (actorUserId : Option UUID)
    (key : Option String) (body : PyDict) (place : Ticket → UUID) : Handler Response :=
  (storeTicket new (.ret actorUserId)).bind fun ticket =>
    (saveKey hexdigest (.ret new.tenantId) key body ticket).bind fun _ =>
      (publishSignage (place ticket)).bind fun _ => .ret (readTicket ticket)

theorem together_require {c c' : Command} {next : c.Res → Handler α} {next' : c'.Res → Handler α}
    {checks checks' : UUID → List (Bool × DbError)} {value : UUID → Time → c.Res × List Write}
    {value' : UUID → Time → c'.Res × List Write}
    (ran : ∀ id now, c.run (engine.applyAll db pending) id now =
      require (checks id) (value id now))
    (ran' : ∀ id now, c'.run (engine.applyAll db' pending') id now =
      require (checks' id) (value' id now))
    (agree : ∀ id, checks id = checks' id) (tables : SameTables db db')
    (rest : ∀ id now, Together engine env env' SameTables SameWrite i (next (value id now).1)
      (next' (value' id now).1) db (pending ++ (value id now).2) db'
      (pending' ++ (value' id now).2)) :
    Together engine env env' SameTables SameWrite i ((command c).bind next)
      ((command c').bind next') db pending db' pending' := by
  refine together_command tables fun id now => ?_
  rw [ran, ran', ← agree, require, require]
  cases (checks id).find? fun check => !check.1 with
  | some failed => exact .inl ⟨failed.2, rfl, rfl⟩
  | none => exact .inr ⟨_, _, _, _, rfl, rfl, rest id now⟩

theorem together_publishSignage {locationId : UUID} {response : Response}
    (tables : SameTables db db') :
    Together engine env env' SameTables SameWrite i
      ((publishSignage locationId).bind fun _ => .ret response)
      ((publishSignage locationId).bind fun _ => .ret response) db pending db' pending' := by
  refine together_observe fun surroundings => ?_
  by_cases up : surroundings.redis = true
  · simp only [Program.ret_bind, up, if_true]
    exact together_publish (together_ret tables)
  · simp only [Program.ret_bind, up]
    exact together_ret tables

theorem together_saveKey {hexdigest : PyDict → String} {tenantId : UUID} {key : Option String}
    {body body' : PyDict} {ticket : Ticket} {locationId : UUID} (tables : SameTables db db') :
    Together engine env env' SameTables SameWrite i
      ((saveKey hexdigest (.ret tenantId) key body ticket).bind fun _ =>
        (publishSignage locationId).bind fun _ => .ret (readTicket ticket))
      ((saveKey hexdigest (.ret tenantId) key body' ticket).bind fun _ =>
        (publishSignage locationId).bind fun _ => .ret (readTicket ticket)) db [] db' [] := by
  unfold saveKey
  cases given key with
  | none => exact together_publishSignage tables
  | some key =>
      simp only [saveIdempotencyKey, Program.bind_eq, Program.bind_assoc, Program.ret_bind]
      refine together_observe fun surroundings => ?_
      refine together_require (fun _ _ => rfl) (fun _ _ => rfl) (fun id => ?_) tables
        fun id now => ?_
      · have tenant : db.hasTenant tenantId = db'.hasTenant tenantId := by
          rw [hasTenant_eq, hasTenant_eq, tables.isSome]
        have free : (db.idempotencyKeys.get? (tenantId, key)).isNone =
            (db'.idempotencyKeys.get? (tenantId, key)).isNone := by
          have stored := tables.isSome (.idempotencyKey tenantId key)
          simp only [Database.row, Option.isSome_map] at stored
          simp [← Option.not_isSome, stored]
        simp [NewIdempotencyKey.checks, tenant, free]
      · have same : List.Forall₂ SameWrite
            [.insert (.idempotencyKey (NewIdempotencyKey.row ⟨tenantId, key,
              hashBody hexdigest body, some ticket.id, surroundings.now,
              surroundings.now + hours 24⟩))]
            [.insert (.idempotencyKey (NewIdempotencyKey.row ⟨tenantId, key,
              hashBody hexdigest body', some ticket.id, surroundings.now,
              surroundings.now + hours 24⟩))] :=
          .cons (.inr ⟨_, _, rfl, rfl, rfl⟩) .nil
        exact together_commit same (together_publishSignage (sameTables_applyAll same tables))

theorem together_creation {hexdigest : PyDict → String} {new : NewTicket} {userId : UUID}
    {key : Option String} {body body' : PyDict} {place place' : Ticket → UUID}
    (known : db.hasUser userId = true)
    (places : ∀ id now, place (new.row id now) = place' (new.row id now)) :
    Together engine env env' SameTables SameWrite i (creation hexdigest new none key body place)
      (creation hexdigest new (some userId) key body' place') db [] db [] := by
  simp only [creation, storeTicket, Program.bind_eq, Program.bind_assoc, Program.ret_bind]
  refine together_require (fun _ _ => rfl) (fun _ _ => rfl) (fun _ => rfl) (fun _ => rfl)
    fun id now => ?_
  simp only [List.nil_append]
  refine together_require (fun _ _ => rfl) (fun _ _ => rfl) (fun eventId => ?_) (fun _ => rfl)
    fun eventId eventNow => ?_
  · have present : (engine.apply db (.insert (.ticket (new.row id now)))).hasUser userId = true :=
      known
    simp [NewEvent.checks, present]
  · have same : List.Forall₂ SameWrite
        [.insert (.ticket (new.row id now)), .insert (.event (NewEvent.row
          { ticketId := (new.row id now).id, eventType := .created } eventId eventNow))]
        [.insert (.ticket (new.row id now)), .insert (.event (NewEvent.row
          { ticketId := (new.row id now).id, eventType := .created, actorUserId := some userId }
          eventId eventNow))] :=
      .cons (.inl rfl) (.cons (.inr ⟨_, _, rfl, rfl, rfl⟩) .nil)
    refine together_commit same ?_
    have stored (rest : List Write) (plain : ∀ write ∈ rest, ∀ id, write.lock ≠ .ticket id) :
        (engine.applyAll db (.insert (.ticket (new.row id now)) :: rest)).tickets.get?
          (new.row id now).id = some (new.row id now) :=
      get?_of_written_once db (.inl rfl) fun write member => plain write member _
    have found (actorUserId : Option UUID) := stored [.insert (.event (NewEvent.row
      { ticketId := (new.row id now).id, eventType := .created, actorUserId := actorUserId }
      eventId eventNow))] (by simp [Write.lock, Row.lock])
    simp only [refresh, Program.bind_eq, Program.bind_assoc]
    refine together_query rfl (fun _ => found none) (fun _ => found (some userId)) ?_
    simp only [Program.pure_eq, Program.ret_bind, places]
    exact together_saveKey (sameTables_applyAll same fun _ => rfl)

/-! ## Up to the number -/

variable {locationId tenantId userId : UUID} {serviceId : Option UUID} {actor : TokenPayload}
  {hexdigest : PyDict → String} {idempotencyKey : Option String}

theorem kioskCreateNew_eq :
    (kioskCreateNew hexdigest ⟨locationId, serviceId⟩ tenantId idempotencyKey).bind
        (fun ticket => .ret (readTicket ticket)) =
      (query (.nextNumber locationId)).bind fun number => creation hexdigest
        ⟨tenantId, locationId, serviceId, none, number, .waiting, 5, none⟩ none idempotencyKey
        (KioskTicketCreate.body ⟨locationId, serviceId⟩) fun _ => locationId := by
  simp [kioskCreateNew, creation]

theorem createNew_eq (tenant : actor.tenantId.parse = some tenantId)
    (user : actor.sub.parse = some userId) :
    (createNew hexdigest (visit locationId serviceId) actor idempotencyKey).bind
        (fun ticket => .ret (readTicket ticket)) =
      (query (.nextNumber locationId)).bind fun number => creation hexdigest
        ⟨tenantId, locationId, serviceId, none, number, .waiting, 5, none⟩ (some userId)
        idempotencyKey (visit locationId serviceId).body Ticket.locationId := by
  simp [createNew, creation, visit, parse_ret tenant, parse_ret user]

def named (existing : Option IdempotencyKey) : Handler (Option Ticket) :=
  match existing with
  | none => return none
  | some existing =>
      match existing.resourceId with
      | none => return none
      | some resourceId => query (.ticket resourceId)

theorem createdBefore_eq (tenantId : UUID) (key : String) : createdBefore tenantId key =
    .observes fun env => (query (.idempotencyKey tenantId key env.now)).bind named := by
  simp only [createdBefore, getIdempotencyKey, Program.bind_eq, Program.observe_bind]
  rfl

theorem together_named {existing : Option IdempotencyKey} {next next' : Option Ticket → Handler α}
    (rest : ∀ found, Together engine env env' SameTables SameWrite i (next found) (next' found) db
      [] db []) :
    Together engine env env' SameTables SameWrite i ((named existing).bind next)
      ((named existing).bind next') db [] db [] := by
  cases existing with
  | none => exact rest none
  | some existing =>
      unfold named
      dsimp only
      split
      · exact rest none
      · exact together_query rfl (fun _ => rfl) (fun _ => rfl) (rest _)

theorem together_new (tenant : actor.tenantId.parse = some tenantId)
    (user : actor.sub.parse = some userId) (known : db.hasUser userId = true) :
    Together engine env env' SameTables SameWrite i
      ((kioskCreateNew hexdigest ⟨locationId, serviceId⟩ tenantId idempotencyKey).bind
        fun ticket => .ret (readTicket ticket))
      ((createNew hexdigest (visit locationId serviceId) actor idempotencyKey).bind
        fun ticket => .ret (readTicket ticket)) db [] db [] := by
  rw [kioskCreateNew_eq, createNew_eq tenant user]
  exact together_query rfl (fun _ => rfl) (fun _ => rfl)
    (together_creation known fun _ _ => rfl)

end

/-! ## The requests -/

/-- The surroundings of a creation by the staff that begins when this one by the kiosk does: the
kiosk looks up the location first. -/
def staffEnv (idempotencyKey : Option String) (env : Nat → Env) (tick : Nat) : Env :=
  if tick = (if (given idempotencyKey).isSome then 1 else 0) then env 0 else env (tick + 1)

/-- A creation by the staff can have any surroundings. -/
theorem staffEnv_surjective (idempotencyKey : Option String) :
    Function.Surjective (staffEnv idempotencyKey) := by
  intro env'
  let first := if (given idempotencyKey).isSome then 1 else 0
  refine ⟨fun tick => if tick = 0 then env' first else env' (tick - 1), funext fun tick => ?_⟩
  by_cases begins : tick = first
  · simp [staffEnv, begins, first]
  · have elsewhere : ¬ tick = if (given idempotencyKey).isSome then 1 else 0 := begins
    simp [staffEnv, elsewhere]

/-- A member of the staff of the tenant, who is known as a user. -/
structure MayCreate (db : Database) (tenantId : UUID) (actor : TokenPayload) : Prop where
  role : actor.hasRole writeRoles = true
  tenant : actor.tenantId.parse = some tenantId
  user : ∃ userId ∈ actor.sub.parse, db.hasUser userId = true

structure SameCreation (kiosk staff : AppWorld Unit) : Prop where
  session : kiosk.session () = staff.session ()
  tables : SameTables kiosk.state.store staff.state.store
  logs : SameLog SameWrite kiosk.state.log staff.state.log

section
variable {ι α : Type} [DecidableEq ι] {env env' : Nat → Env} {i : ι} {db : Database}
  {state state' : State ι Database Write Lock Stmt Stmt.Res Message Env}

def Untouched (i : ι) (db : Database)
    (state : State ι Database Write Lock Stmt Stmt.Res Message Env) : Prop :=
  state.Solo i db [] state.tick

omit [DecidableEq ι] in
theorem untouched_start (i : ι) (db : Database) : Untouched i db (.start db) :=
  ⟨rfl, rfl, rfl, by simp [State.HeldBy, State.start]⟩

omit [DecidableEq ι] in
theorem untouched_ticked (untouched : Untouched i db state) : Untouched i db state.ticked :=
  ⟨untouched.store, untouched.writes, rfl, untouched.held⟩

theorem untouched_performed (env : Nat → Env) (stmt : Stmt) (value : stmt.Res)
    (untouched : Untouched i db state) :
    Untouched i db (state.performed env i stmt value [] []) :=
  ⟨untouched.store, by simp [State.performed, untouched.writes], rfl, untouched.held.performed⟩

theorem finish_query {q : Query} {next : q.Res → Handler α} (fault : q.fault = none)
    (untouched : Untouched i db state) :
    finish engine env i ((query q).bind next) state =
      finish engine env i (next (q.eval db (env state.tick).order))
        (state.performed env i (.read q) (q.eval db (env state.tick).order) [] []) := by
  have view : (state.context engine env i).view = db := by
    simp [State.context, State.view, untouched.writes, untouched.store]
  have exec : engine.exec (.read q) (state.context engine env i) =
      .done (q.eval db (env state.tick).order) [] [] := by
    change (Stmt.read q).exec _ = _
    rw [Stmt.exec, fault, view]
    rfl
  have ready : (engine.needs (.read q) (state.context engine env i)).any
      (state.context engine env i).busy = false := rfl
  simp only [query, Program.perform_bind, finish, ready, exec, Bool.false_eq_true, if_false]
  rfl

theorem abreast_performed {W : Write → Write → Prop} {stmt stmt' : Stmt} {value : stmt.Res}
    {value' : stmt'.Res} (untouched : Untouched i db state) (untouched' : Untouched i db state')
    (began : (state.tx i).began.getD (env state.tick) = (state'.tx i).began.getD (env' state'.tick))
    (ahead : ∀ n, env (state.tick + 1 + n) = env' (state'.tick + 1 + n))
    (logs : SameLog W state.log state'.log) :
    State.Abreast env env' W i db [] db [] (state.performed env i stmt value [] [])
      (state'.performed env' i stmt' value' [] []) :=
  ⟨untouched_performed _ _ _ untouched, untouched_performed _ _ _ untouched',
    by simpa [State.performed] using began, ahead, logs.performed⟩

end

theorem sameCreation_of_sameEnd {hexdigest : PyDict → String} {env env' : Nat → Env} {db : Database}
    {kiosk staff : Request} (ends : SameEnd SameTables SameWrite
      (finish engine env () (program hexdigest kiosk) (.start db))
      (finish engine env' () (program hexdigest staff) (.start db))) :
    SameCreation (alone hexdigest env (fun _ => kiosk) db ())
      (alone hexdigest env' (fun _ => staff) db ()) :=
  ⟨by simpa [alone, World.serve, initial] using ends.session, ends.stores, ends.logs⟩

theorem kiosk_creates_like_staff (hexdigest : PyDict → String) (env : Nat → Env) (db : Database)
    (locationId : UUID) (serviceId : Option UUID) (idempotencyKey : Option String)
    {location : Location} (found : db.locations.get? locationId = some location)
    {actor : TokenPayload} (may : MayCreate db location.tenantId actor) :
    SameCreation
      (alone hexdigest env (fun _ => .kioskCreateTicket ⟨locationId, serviceId⟩ idempotencyKey) db
        ())
      (alone hexdigest (staffEnv idempotencyKey env)
        (fun _ => .createTicket (visit locationId serviceId) actor idempotencyKey) db ()) := by
  obtain ⟨userId, user, known⟩ := may.user
  have start := untouched_start () db
  refine sameCreation_of_sameEnd ?_
  simp only [program, kioskCreateTicket, createTicket, Program.map_eq, Program.bind_eq,
    Program.bind_assoc, requireRole_ret may.role, Program.ret_bind]
  rw [finish_query rfl start]
  simp only [Query.eval, found]
  have located := untouched_performed env (.read (.location locationId)) (some location) start
  cases present : given idempotencyKey with
  | none =>
      simp only
      rw [kioskCreateNew_eq, createNew_eq may.tenant user, finish_query rfl located,
        finish_query rfl start]
      simp only [Query.eval]
      refine together_creation known ?_ _ _ (abreast_performed located start ?_ (fun n => ?_) ?_)
      · exact fun _ _ => rfl
      · simp [State.performed, State.start, staffEnv, present]
      · simp [State.performed, State.start, staffEnv, present]
        congr 1
        omega
      · exact ⟨.nil, rfl⟩
  | some key =>
      simp only [parse_ret may.tenant, Program.ret_bind, createdBefore_eq, Program.observes_bind,
        Program.bind_assoc]
      -- the staff reads its clock at tick 0, and the kiosk at tick 1
      have clocks : staffEnv idempotencyKey env 0 = env 1 := by simp [staffEnv, present]
      simp only [finish]
      rw [finish_query rfl (untouched_ticked located), finish_query rfl (untouched_ticked start)]
      simp only [Query.eval]
      change SameEnd _ _
        (finish _ _ _ ((named (db.findIdempotencyKey location.tenantId key (env 1).now)).bind _) _)
        (finish _ _ _ ((named (db.findIdempotencyKey location.tenantId key
          (staffEnv idempotencyKey env 0).now)).bind _) _)
      rw [clocks]
      refine together_named (fun before => ?_) _ _ (abreast_performed (untouched_ticked located)
        (untouched_ticked start) ?_ (fun n => ?_) ?_)
      · cases before with
        | some ticket => exact together_ret fun _ => rfl
        | none => exact together_new may.tenant user known
      · simp [State.performed, State.ticked, State.start, staffEnv, present]
      · have after : 2 + n ≠ 1 := by omega
        simp [State.performed, State.ticked, State.start, staffEnv, present, after]
        congr 1
        omega
      · exact ⟨.nil, rfl⟩

theorem kiosk_creates_like_staff_permit :
    SameCreation
      (alone textDigest steadyEnv
        (fun _ => .kioskCreateTicket ⟨10, some 20⟩ (some "kiosk-1")) (office .empty) ())
      (alone textDigest (staffEnv (some "kiosk-1") steadyEnv)
        (fun _ => .createTicket (visit 10 (some 20)) clerk (some "kiosk-1")) (office .empty) ()) :=
  kiosk_creates_like_staff textDigest steadyEnv (office .empty) 10 (some 20) (some "kiosk-1")
    rfl ⟨by decide, rfl, 40, rfl, by decide⟩

/-- The event names its actor, who need not be a user of the database. -/
theorem kiosk_creates_unlike_stranger :
    let stranger : TokenPayload := ⟨.canonical 99, .canonical 1, [.staff]⟩
    stranger.hasRole writeRoles = true ∧ stranger.tenantId.parse = some 1 ∧
      ¬ SameCreation
        (alone textDigest steadyEnv (fun _ => .kioskCreateTicket ⟨10, some 20⟩ none)
          (office .empty) ())
        (alone textDigest (staffEnv none steadyEnv)
          (fun _ => .createTicket (visit 10 (some 20)) stranger none) (office .empty) ()) := by
  refine ⟨by decide, rfl, fun same => ?_⟩
  have returned : ((alone textDigest steadyEnv (fun _ => .kioskCreateTicket ⟨10, some 20⟩ none)
      (office .empty) ()).session ()).hasReturned = true := by decide +kernel
  rw [same.session] at returned
  exact absurd returned (by decide +kernel)

end QueueFlow.Concurrency
