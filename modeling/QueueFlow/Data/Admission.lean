import QueueFlow.Data.Constraints
import QueueFlow.Transactions.Integrity

/-!
# Admission

The foreign keys and the unique columns as a schema of the library, and that no statement of the
code gets around it.
-/

namespace QueueFlow.Data
open QueueFlow.Tables QueueFlow.Transactions

def Row.entries : Row → List Lock
  | .tenant row => [.tenantName row.name, .tenantSlug row.slug]
  | .role row => [.roleName row.tenantId row.name]
  | .user row => [.userEmail row.tenantId row.email]
  | _ => []

def schema : Schema Row Lock := ⟨Row.entries, Row.refs⟩

variable {db : Database} {id : UUID} {writes : List Write} {taken : List Lock}

/-! ## The constraints -/

theorem nodup_map_of_keyed {α β κ : Type} [Keyed α κ] {rows : List α} {f : α → β}
    (distinct : (rows.map key).Nodup)
    (injective : ∀ old ∈ rows, ∀ new ∈ rows, f old = f new → key old = key new) :
    (rows.map f).Nodup := by
  refine (List.nodup_map_iff_inj_on (List.Nodup.of_map _ distinct)).mpr ?_
  intro old there new also same
  exact List.inj_on_of_nodup_map distinct there also (injective old there new also same)

theorem lock_of_row {lock : Lock} {row : Row} (found : db.row lock = some row) :
    row.lock = lock := by
  cases lock with
  | tenantName name => cases found
  | tenantSlug slug => cases found
  | roleName tenantId name => cases found
  | userEmail tenantId email => cases found
  | userRole userId roleId =>
      obtain ⟨old, located, rfl⟩ := Option.map_eq_some_iff.mp found
      have same : (old.userId, old.roleId) = (userId, roleId) := Table.key_of_get? located
      cases same
      rfl
  | idempotencyKey tenantId k =>
      obtain ⟨old, located, rfl⟩ := Option.map_eq_some_iff.mp found
      have same : (old.tenantId, old.key) = (tenantId, k) := Table.key_of_get? located
      cases same
      rfl
  | _ =>
      obtain ⟨old, located, rfl⟩ := Option.map_eq_some_iff.mp found
      exact congrArg _ (Table.key_of_get? located)

theorem tenant_row {lock : Lock} {tenant : Tenant} :
    db.row lock = some (.tenant tenant) ↔ lock = .tenant tenant.id ∧ tenant ∈ db.tenants.rows := by
  constructor
  · intro found
    obtain rfl := lock_of_row found
    obtain ⟨old, located, same⟩ := Option.map_eq_some_iff.mp found
    cases same
    exact ⟨rfl, Table.mem_of_get? located⟩
  · rintro ⟨rfl, member⟩
    exact Option.map_eq_some_iff.mpr ⟨tenant, Table.get?_of_mem member, rfl⟩

theorem role_row {lock : Lock} {role : Role} :
    db.row lock = some (.role role) ↔ lock = .role role.id ∧ role ∈ db.roles.rows := by
  constructor
  · intro found
    obtain rfl := lock_of_row found
    obtain ⟨old, located, same⟩ := Option.map_eq_some_iff.mp found
    cases same
    exact ⟨rfl, Table.mem_of_get? located⟩
  · rintro ⟨rfl, member⟩
    exact Option.map_eq_some_iff.mpr ⟨role, Table.get?_of_mem member, rfl⟩

theorem user_row {lock : Lock} {user : User} :
    db.row lock = some (.user user) ↔ lock = .user user.id ∧ user ∈ db.users.rows := by
  constructor
  · intro found
    obtain rfl := lock_of_row found
    obtain ⟨old, located, same⟩ := Option.map_eq_some_iff.mp found
    cases same
    exact ⟨rfl, Table.mem_of_get? located⟩
  · rintro ⟨rfl, member⟩
    exact Option.map_eq_some_iff.mpr ⟨user, Table.get?_of_mem member, rfl⟩

theorem Database.Valid.intact (valid : db.Valid) : schema.Intact Database.row db where
  distinct lock other old new entry first second enters entered := by
    cases old with
    | tenant old =>
        obtain ⟨rfl, there⟩ := tenant_row.mp first
        cases new with
        | tenant new =>
            obtain ⟨rfl, also⟩ := tenant_row.mp second
            simp only [schema, Row.entries, List.mem_cons, List.not_mem_nil, or_false] at enters
            rcases enters with rfl | rfl
            · have same : old.name = new.name := by simpa [schema, Row.entries] using entered
              rw [List.inj_on_of_nodup_map valid.names there also same]
            · have same : old.slug = new.slug := by simpa [schema, Row.entries] using entered
              rw [List.inj_on_of_nodup_map valid.slugs there also same]
        | role new => simp_all [schema, Row.entries]
        | user new => simp_all [schema, Row.entries]
        | _ => simp [schema, Row.entries] at entered
    | role old =>
        obtain ⟨rfl, there⟩ := role_row.mp first
        cases new with
        | role new =>
            obtain ⟨rfl, also⟩ := role_row.mp second
            simp only [schema, Row.entries, List.mem_singleton] at enters
            subst enters
            have same : (old.tenantId, old.name) = (new.tenantId, new.name) := by
              simpa [schema, Row.entries] using entered
            rw [List.inj_on_of_nodup_map valid.roleNames there also same]
        | tenant new => simp_all [schema, Row.entries]
        | user new => simp_all [schema, Row.entries]
        | _ => simp [schema, Row.entries] at entered
    | user old =>
        obtain ⟨rfl, there⟩ := user_row.mp first
        cases new with
        | user new =>
            obtain ⟨rfl, also⟩ := user_row.mp second
            simp only [schema, Row.entries, List.mem_singleton] at enters
            subst enters
            have same : (old.tenantId, old.email) = (new.tenantId, new.email) := by
              simpa [schema, Row.entries] using entered
            rw [List.inj_on_of_nodup_map valid.emails there also same]
        | tenant new => simp_all [schema, Row.entries]
        | role new => simp_all [schema, Row.entries]
        | _ => simp [schema, Row.entries] at entered
    | _ => simp [schema, Row.entries] at enters
  closed lock old found ref refers := by
    refine valid.referenced old (mem_allRows.mpr ?_) ref refers
    rwa [lock_of_row found]

theorem valid_of_intact (intact : schema.Intact Database.row db) : db.Valid where
  referenced row member := intact.closed _ row (mem_allRows.mp member)
  names := by
    refine nodup_map_of_keyed db.tenants.distinct fun old there new also same => ?_
    have locks := intact.distinct _ _ _ _ (.tenantName old.name) (tenant_row.mpr ⟨rfl, there⟩)
      (tenant_row.mpr ⟨rfl, also⟩) (by simp [schema, Row.entries])
      (by simp [schema, Row.entries, same])
    exact Lock.tenant.inj locks
  slugs := by
    refine nodup_map_of_keyed db.tenants.distinct fun old there new also same => ?_
    have locks := intact.distinct _ _ _ _ (.tenantSlug old.slug) (tenant_row.mpr ⟨rfl, there⟩)
      (tenant_row.mpr ⟨rfl, also⟩) (by simp [schema, Row.entries])
      (by simp [schema, Row.entries, same])
    exact Lock.tenant.inj locks
  roleNames := by
    refine nodup_map_of_keyed db.roles.distinct fun old there new also same => ?_
    have locks := intact.distinct _ _ _ _ (.roleName old.tenantId old.name)
      (role_row.mpr ⟨rfl, there⟩) (role_row.mpr ⟨rfl, also⟩) (by simp [schema, Row.entries])
      (by simp [schema, Row.entries, (Prod.mk.inj same).1, (Prod.mk.inj same).2])
    exact Lock.role.inj locks
  emails := by
    refine nodup_map_of_keyed db.users.distinct fun old there new also same => ?_
    have locks := intact.distinct _ _ _ _ (.userEmail old.tenantId old.email)
      (user_row.mpr ⟨rfl, there⟩) (user_row.mpr ⟨rfl, also⟩) (by simp [schema, Row.entries])
      (by simp [schema, Row.entries, (Prod.mk.inj same).1, (Prod.mk.inj same).2])
    exact Lock.user.inj locks

/-! ## The statements -/

theorem hasCounter_eq (db : Database) (id : UUID) :
    db.hasCounter id = (db.row (.counter id)).isSome := by
  simp [Database.hasCounter, Database.row]

theorem hasChannel_eq (db : Database) (id : UUID) :
    db.hasChannel id = (db.row (.channel id)).isSome := by
  simp [Database.hasChannel, Database.row]

theorem hasRole_eq (db : Database) (id : UUID) : db.hasRole id = (db.row (.role id)).isSome := by
  simp [Database.hasRole, Database.row]

theorem hasTicket_eq (db : Database) (id : UUID) :
    db.hasTicket id = (db.row (.ticket id)).isSome := by
  simp [Database.hasTicket, Database.row]

def Present (db : Database) (row : Row) : Prop := ∀ ref ∈ row.refs, (db.row ref).isSome = true

theorem present_ticket {row : Ticket} : Present db (.ticket row) ↔
    db.hasTenant row.tenantId = true ∧ db.hasLocation row.locationId = true ∧
      (∀ id ∈ row.serviceId, db.hasService id = true) ∧
      (∀ id ∈ row.channelId, db.hasChannel id = true) ∧
      ∀ id ∈ row.assignedCounterId, db.hasCounter id = true := by
  simp [Present, Row.refs, or_imp, forall_and, ← hasTenant_eq, ← hasLocation_eq, ← hasService_eq,
    ← hasChannel_eq, ← hasCounter_eq]

theorem present_of_found (intact : schema.Intact Database.row db) {lock : Lock} {row : Row}
    (found : db.row lock = some row) : Present db row := intact.closed lock row found

theorem present_of_ticket (intact : schema.Intact Database.row db) {row : Ticket}
    (found : db.tickets.get? id = some row) : Present db (.ticket row) :=
  present_of_found intact (row_ticket found)

/-- Only keys are ever deleted, and nothing refers to a key. -/
theorem lasting (write : Write) : schema.Lasting engine Write.value write := by
  intro deleted row refers
  cases write with
  | dropKey tenantId k => cases row <;> simp [schema, Row.refs, engine, Write.lock] at refers
  | _ => cases deleted

theorem admitsAll_of_present
    (plain : ∀ write ∈ writes, ∀ row, write.value = some row → row.entries = [] ∧ Present db row) :
    schema.AdmitsAll engine Database.row Write.value taken db writes :=
  Schema.admitsAll_of_plain engine_rowed (fun write _ => lasting write) plain

theorem admitsAll_single {write : Write} {row : Row} (written : write.value = some row)
    (present : Present db row)
    (unique : ∀ entry ∈ row.entries,
      (∃ old, db.row write.lock = some old ∧ entry ∈ old.entries) ∨
        entry ∈ taken ∧ ∀ lock old, db.row lock = some old → entry ∉ old.entries) :
    schema.AdmitsAll engine Database.row Write.value taken db [write] := by
  refine ⟨⟨lasting write, fun new same => ?_, fun new same => ?_⟩, trivial⟩ <;>
    obtain rfl : row = new := Option.some.inj (written.symm.trans same)
  · exact present
  · exact unique

section
variable {now : Time} {context : Context Database Lock Env} {locks : List Lock}

theorem present_update (intact : schema.Intact Database.row db) {set : TicketUpdate}
    {row updated : Ticket} (found : db.tickets.get? id = some row)
    (ok : db.updatedTicket set now row = .ok updated) : Present db (.ticket updated) := by
  obtain ⟨rfl, _, services, locations, counters⟩ := updatedTicket_eq_ok ok
  obtain ⟨tenant, location, service, channel, counter⟩ :=
    present_ticket.mp (present_of_ticket intact found)
  refine present_ticket.mpr ⟨tenant, ?_, ?_, channel, ?_⟩
  · cases moved : set.locationId with
    | none => simpa [TicketUpdate.apply, moved] using location
    | some id => simpa [TicketUpdate.apply, moved] using locations id moved
  · cases moved : set.serviceId with
    | none => simpa [TicketUpdate.apply, moved] using service
    | some id => simpa [TicketUpdate.apply, moved] using services id moved
  · cases moved : set.assignedCounterId with
    | none => simpa [TicketUpdate.apply, moved] using counter
    | some assigned =>
        intro id same
        exact counters id (by simpa [TicketUpdate.apply, moved] using same)

/-- The unique columns of a new row are nobody else's. -/
theorem unique_of_checks {new : NewRecord} (checks : ∀ check ∈ new.checks db id, check.1 = true) :
    ∀ entry ∈ (new.row id).entries, entry ∈ new.entries ∧
      ∀ lock old, db.row lock = some old → entry ∉ old.entries := by
  intro entry enters
  cases new with
  | tenant data =>
      simp only [NewRecord.checks, List.forall_mem_cons, List.all_eq_true,
        decide_eq_true_eq] at checks
      obtain ⟨_, names, slugs, _⟩ := checks
      refine ⟨enters, fun lock old found entered => ?_⟩
      cases old with
      | tenant row =>
          obtain ⟨rfl, member⟩ := tenant_row.mp found
          have name := names row member
          have slug := slugs row member
          simp only [NewRecord.row, Row.entries, List.mem_cons, List.not_mem_nil,
            or_false] at enters
          rcases enters with rfl | rfl
          · simp [Row.entries, name.symm] at entered
          · simp [Row.entries, slug.symm] at entered
      | role row => simp_all [NewRecord.row, Row.entries]
      | user row => simp_all [NewRecord.row, Row.entries]
      | _ => simp [Row.entries] at entered
  | user data =>
      simp only [NewRecord.checks, List.forall_mem_cons, List.all_eq_true] at checks
      obtain ⟨_, _, emails, _⟩ := checks
      refine ⟨enters, fun lock old found entered => ?_⟩
      cases old with
      | user row =>
          obtain ⟨rfl, member⟩ := user_row.mp found
          have email := emails row member
          simp only [NewRecord.row, Row.entries, List.mem_singleton] at enters
          subst enters
          simp only [Row.entries, List.mem_singleton, Lock.userEmail.injEq] at entered
          simp [← entered.1, ← entered.2] at email
      | tenant row => simp_all [NewRecord.row, Row.entries]
      | role row => simp_all [NewRecord.row, Row.entries]
      | _ => simp [Row.entries] at entered
  | _ => simp [NewRecord.row, Row.entries] at enters

theorem present_of_checks {new : NewRecord} (checks : ∀ check ∈ new.checks db id, check.1 = true) :
    Present db (new.row id) := by
  cases new with
  | tenant data => simp [Present, NewRecord.row, Row.refs]
  | location data =>
      simp only [NewRecord.checks, List.forall_mem_cons] at checks
      obtain ⟨_, _, _, tenant, _⟩ := checks
      simpa [Present, NewRecord.row, Row.refs, ← hasTenant_eq] using tenant
  | service data =>
      simp only [NewRecord.checks, List.forall_mem_cons, Option.all_eq_true] at checks
      obtain ⟨_, _, _, tenant, location, _⟩ := checks
      simpa [Present, NewRecord.row, Row.refs, ← hasTenant_eq, ← hasLocation_eq]
        using ⟨tenant, location⟩
  | counter data =>
      simp only [NewRecord.checks, List.forall_mem_cons] at checks
      obtain ⟨_, _, location, _⟩ := checks
      simpa [Present, NewRecord.row, Row.refs, ← hasLocation_eq] using location
  | channel data =>
      simp only [NewRecord.checks, List.forall_mem_cons] at checks
      obtain ⟨_, tenant, _⟩ := checks
      simpa [Present, NewRecord.row, Row.refs, ← hasTenant_eq] using tenant
  | user data =>
      simp only [NewRecord.checks, List.forall_mem_cons] at checks
      obtain ⟨_, _, _, tenant, _⟩ := checks
      simpa [Present, NewRecord.row, Row.refs, ← hasTenant_eq] using tenant
  | userRole userId data =>
      simp only [NewRecord.checks, List.forall_mem_cons, Option.all_eq_true] at checks
      obtain ⟨_, user, role, location, _⟩ := checks
      simpa [Present, NewRecord.row, Row.refs, ← hasUser_eq, ← hasRole_eq, ← hasLocation_eq]
        using ⟨user, role, location⟩
  | audit entry =>
      simp only [NewRecord.checks, List.forall_mem_cons, Option.all_eq_true] at checks
      obtain ⟨_, _, _, tenant, user, _⟩ := checks
      simpa [Present, NewRecord.row, Row.refs, or_imp, forall_and, ← hasTenant_eq,
        ← hasUser_eq] using ⟨tenant, user⟩

/-- An UPDATE of a record changes none of its references, and at most the name of a tenant. -/
theorem admitsAll_updateRecord (intact : schema.Intact Database.row db) {update : RecordUpdate}
    {row : Row} (found : update.row db = some row)
    (checks : ∀ check ∈ update.checks db, check.1 = true) (needs : update.entries ⊆ taken) :
    schema.AdmitsAll engine Database.row Write.value taken db [.update row] := by
  cases update with
  | tenant id set =>
      obtain ⟨old, located, rfl⟩ := Option.map_eq_some_iff.mp found
      have same : old.id = id := Table.key_of_get? located
      refine admitsAll_single rfl (by simp [Present, Row.refs]) fun entry enters => ?_
      have stored : db.row (Write.update (.tenant (set.apply old))).lock = some (.tenant old) :=
        tenant_row.mpr ⟨rfl, Table.mem_of_get? located⟩
      simp only [Row.entries, TenantUpdate.apply, List.mem_cons, List.not_mem_nil,
        or_false] at enters
      rcases enters with rfl | rfl
      · by_cases kept : (set.name.map Bounded.text).getD old.name = old.name
        · exact .inl ⟨_, stored, by simp [Row.entries, kept]⟩
        · cases renamed : set.name with
          | none => simp [renamed] at kept
          | some name =>
              simp only [renamed, Option.map_some, Option.getD_some] at kept
              refine .inr ⟨needs (by simp [RecordUpdate.entries, renamed]), ?_⟩
              intro lock other there
              cases other with
              | tenant other =>
                  obtain ⟨rfl, member⟩ := tenant_row.mp there
                  simp only [RecordUpdate.checks, List.forall_mem_cons, List.all_eq_true,
                    renamed, Option.map_some, Bool.or_eq_true, decide_eq_true_eq] at checks
                  rcases checks.1 other member with mine | differs
                  · have again : other = old := by
                      have here := Table.get?_of_mem member
                      rw [key_tenant, mine, located] at here
                      exact (Option.some.inj here).symm
                    simp [Row.entries, again, kept]
                  · simp only [ne_eq, Option.some.injEq] at differs
                    simp [Row.entries, Ne.symm differs]
              | _ => simp [Row.entries]
      · exact .inl ⟨_, stored, by simp [Row.entries]⟩
  | location id set =>
      obtain ⟨old, located, rfl⟩ := Option.map_eq_some_iff.mp found
      have stored : db.row (.location id) = some (.location old) := by simp [Database.row, located]
      have present : Present db (.location old) := present_of_found intact stored
      exact admitsAll_single rfl present (by simp [Row.entries])
  | service id set =>
      obtain ⟨old, located, rfl⟩ := Option.map_eq_some_iff.mp found
      have stored : db.row (.service id) = some (.service old) := by simp [Database.row, located]
      have present : Present db (.service old) := present_of_found intact stored
      exact admitsAll_single rfl present (by simp [Row.entries])
  | counter id set =>
      obtain ⟨old, located, rfl⟩ := Option.map_eq_some_iff.mp found
      have stored : db.row (.counter id) = some (.counter old) := by simp [Database.row, located]
      have present : Present db (.counter old) := present_of_found intact stored
      exact admitsAll_single rfl present (by simp [Row.entries])

theorem admitsAll_run (intact : schema.Intact Database.row db) {command : Command}
    {value : command.Res} (ran : command.run db id now = .ok (value, writes))
    (needs : command.needs db id ⊆ taken) :
    schema.AdmitsAll engine Database.row Write.value taken db writes := by
  cases command with
  | insertTicket new =>
      obtain ⟨_, rfl, checks⟩ := run_insertTicket ran
      refine admitsAll_single rfl (present_ticket.mpr ?_) (by simp [Row.entries])
      simp only [NewTicket.checks, List.forall_mem_cons, Option.all_eq_true] at checks
      obtain ⟨_, _, tenant, location, service, channel, _⟩ := checks
      exact ⟨tenant, location, service, channel, by simp [NewTicket.row]⟩
  | updateTicket ticketId set =>
      obtain ⟨row, found, ok, _, rfl⟩ := run_updateTicket ran
      exact admitsAll_single rfl (present_update intact found ok) (by simp [Row.entries])
  | insertEvent new =>
      obtain ⟨rfl, checks⟩ := run_insertEvent ran
      refine admitsAll_single rfl ?_ (by simp [Row.entries])
      simp only [NewEvent.checks, List.forall_mem_cons, Option.all_eq_true] at checks
      obtain ⟨_, ticket, actor, _⟩ := checks
      simpa [Present, Row.refs, NewEvent.row, ← hasTicket_eq, ← hasUser_eq] using ⟨ticket, actor⟩
  | insertInteraction ticketId counterId startedAt =>
      obtain ⟨rfl, _, ticket, counter⟩ := run_insertInteraction ran
      refine admitsAll_single rfl ?_ (by simp [Row.entries])
      simpa [Present, Row.refs, ← hasTicket_eq, ← hasCounter_eq] using ⟨ticket, counter⟩
  | closeInteractions ticketId endedAt outcome =>
      cases ran
      refine admitsAll_of_present fun write member row written => ?_
      obtain ⟨old, listed, rfl⟩ := List.mem_map.mp member
      cases written
      have present : Present db (.interaction old) :=
        present_of_found intact (mem_allRows.mp (by
          simpa [Database.allRows] using (List.mem_filter.mp listed).1))
      exact ⟨rfl, present⟩
  | insertIdempotencyKey new =>
      obtain ⟨rfl, checks⟩ := run_insertIdempotencyKey ran
      refine admitsAll_single rfl ?_ (by simp [Row.entries])
      simp only [NewIdempotencyKey.checks, List.forall_mem_cons] at checks
      simpa [Present, Row.refs, NewIdempotencyKey.row, ← hasTenant_eq] using checks.2.2.1
  | deleteExpiredKeys now =>
      cases ran
      refine admitsAll_of_present fun write member row written => ?_
      obtain ⟨old, listed, rfl⟩ := List.mem_map.mp member
      cases written
  | insertRecord new =>
      obtain ⟨_, rfl, checks⟩ := run_insertRecord ran
      refine admitsAll_single rfl (present_of_checks checks) fun entry enters => .inr ?_
      obtain ⟨mine, nobody⟩ := unique_of_checks checks entry enters
      exact ⟨needs (List.mem_cons_of_mem _ mine), nobody⟩
  | updateRecord update =>
      simp only [Command.run] at ran
      split at ran
      · cases ran
      · rename_i row found
        obtain ⟨checks, same⟩ := require_eq_ok.mp ran
        cases same
        exact admitsAll_updateRecord intact found checks
          fun entry enters => needs (List.mem_cons_of_mem _ enters)

theorem admitsAll_exec (intact : schema.Intact Database.row context.view) {stmt : Stmt}
    {value : stmt.Res} (exec : stmt.exec context = .done value writes locks) :
    schema.AdmitsAll engine Database.row Write.value (stmt.needs context ++ locks) context.view
      writes := by
  cases stmt with
  | read query =>
      obtain ⟨_, rfl, _⟩ := exec_read exec
      trivial
  | callTicket ticketId locationId serviceId counterId =>
      rcases exec_callTicket exec with ⟨_, rfl, _⟩ | ⟨row, _, found, _, counter, _, rfl⟩
      · trivial
      · obtain ⟨tenant, location, service, channel, _⟩ :=
          present_ticket.mp (present_of_ticket intact found)
        refine admitsAll_single rfl (present_ticket.mpr ?_) (by simp [Row.entries])
        have stays : ∀ id ∈ ((callUpdate counterId context.began.now).apply context.began.now
            row).serviceId, context.view.hasService id = true := by
          simpa [TicketUpdate.apply, callUpdate] using service
        refine ⟨tenant, location, stays, channel, ?_⟩
        rintro _ ⟨⟩
        exact counter
  | write command =>
      obtain ⟨ran, rfl⟩ := exec_write exec
      exact admitsAll_run intact ran (by simp [Stmt.needs])

end

end QueueFlow.Data
