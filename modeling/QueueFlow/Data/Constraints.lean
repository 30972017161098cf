import QueueFlow.Data.References
import Mathlib.Data.Fintype.EquivFin

/-!
# Constraints

The foreign keys and the unique columns of the schema, and rows that can be added to any tables
without breaking them.
-/

namespace QueueFlow.Data
open QueueFlow.Tables

def Row.refs : Row → List Lock
  | .tenant _ => []
  | .location row => [.tenant row.tenantId]
  | .service row => .tenant row.tenantId :: (row.locationId.map Lock.location).toList
  | .counter row => [.location row.locationId]
  | .channel row => [.tenant row.tenantId]
  | .role row => [.tenant row.tenantId]
  | .user row => [.tenant row.tenantId]
  | .userRole row =>
      .user row.userId :: .role row.roleId :: (row.locationId.map Lock.location).toList
  | .ticket row => .tenant row.tenantId :: .location row.locationId ::
      (row.serviceId.map Lock.service).toList ++ (row.channelId.map Lock.channel).toList ++
        (row.assignedCounterId.map Lock.counter).toList
  | .event row => .ticket row.ticketId :: (row.actorUserId.map Lock.user).toList
  | .interaction row => .ticket row.ticketId :: (row.counterId.map Lock.counter).toList
  | .idempotencyKey row => [.tenant row.tenantId]
  | .audit row =>
      (row.tenantId.map Lock.tenant).toList ++ (row.actorUserId.map Lock.user).toList

namespace Database

def allRows (db : Database) : List Row :=
  db.tenants.rows.map .tenant ++ db.locations.rows.map .location ++
    db.services.rows.map .service ++ db.counters.rows.map .counter ++
    db.channels.rows.map .channel ++ db.roles.rows.map .role ++ db.users.rows.map .user ++
    db.userRoles.rows.map .userRole ++ db.tickets.rows.map .ticket ++
    db.ticketEvents.rows.map .event ++ db.interactions.rows.map .interaction ++
    db.idempotencyKeys.rows.map .idempotencyKey ++ db.auditLog.rows.map .audit

structure Valid (db : Database) : Prop where
  referenced : ∀ row ∈ db.allRows, ∀ ref ∈ row.refs, (db.row ref).isSome = true
  names : (db.tenants.rows.map Tenant.name).Nodup
  slugs : (db.tenants.rows.map Tenant.slug).Nodup
  roleNames : (db.roles.rows.map fun role => (role.tenantId, role.name)).Nodup
  emails : (db.users.rows.map fun user => (user.tenantId, user.email)).Nodup

end Database

section
variable {db : Database} {row : Row}

instance (db : Database) : Decidable db.Valid :=
  decidable_of_iff ((∀ row ∈ db.allRows, ∀ ref ∈ row.refs, (db.row ref).isSome = true) ∧
      (db.tenants.rows.map Tenant.name).Nodup ∧ (db.tenants.rows.map Tenant.slug).Nodup ∧
      (db.roles.rows.map fun role => (role.tenantId, role.name)).Nodup ∧
      (db.users.rows.map fun user => (user.tenantId, user.email)).Nodup)
    ⟨fun ⟨referenced, names, slugs, roleNames, emails⟩ =>
        ⟨referenced, names, slugs, roleNames, emails⟩,
      fun valid => ⟨valid.referenced, valid.names, valid.slugs, valid.roleNames, valid.emails⟩⟩

theorem mem_allRows : row ∈ db.allRows ↔ db.row row.lock = some row := by
  cases row <;> simp [Database.allRows, Database.row, Row.lock, Table.get?_eq_some]

theorem isSome_row_put {lock : Lock} (present : (db.row lock).isSome = true) :
    ((db.put row).row lock).isSome = true := by
  rw [row_put]
  split
  · rfl
  · exact present

theorem referenced_put (valid : db.Valid) (refs : ∀ ref ∈ row.refs, (db.row ref).isSome = true) :
    ∀ other ∈ (db.put row).allRows, ∀ ref ∈ other.refs, ((db.put row).row ref).isSome = true := by
  intro other member ref refers
  refine isSome_row_put ?_
  rw [mem_allRows, row_put] at member
  split at member
  · cases member
    exact refs ref refers
  · exact valid.referenced other (mem_allRows.mpr member) ref refers

/-! ## Adding rows -/

theorem exists_fresh_id (ids : List UUID) : ∃ id, id ∉ ids := by
  obtain ⟨id, fresh⟩ := Infinite.exists_notMem_finset ids.toFinset
  exact ⟨id, by simpa using fresh⟩

theorem exists_fresh_text (texts : List String) : ∃ text, text ∉ texts := by
  obtain ⟨length, fresh⟩ := exists_fresh_id (texts.map String.length)
  refine ⟨String.ofList (List.replicate length 'x'), fun member => fresh ?_⟩
  exact List.mem_map.mpr ⟨_, member, by simp⟩

theorem valid_put_tenant {tenant : Tenant} (valid : db.Valid)
    (absent : db.tenants.get? tenant.id = none)
    (name : tenant.name ∉ db.tenants.rows.map Tenant.name)
    (slug : tenant.slug ∉ db.tenants.rows.map Tenant.slug) : (db.put (.tenant tenant)).Valid := by
  have rows : (db.put (.tenant tenant)).tenants.rows = db.tenants.rows ++ [tenant] :=
    Table.rows_put_of_absent absent
  refine ⟨referenced_put valid (fun _ refers => by cases refers), ?_, ?_, valid.roleNames,
    valid.emails⟩
  · rw [rows, List.map_append, List.nodup_append_comm]
    exact List.nodup_cons.mpr ⟨name, valid.names⟩
  · rw [rows, List.map_append, List.nodup_append_comm]
    exact List.nodup_cons.mpr ⟨slug, valid.slugs⟩

theorem valid_put_location {location : Location} (valid : db.Valid)
    (tenant : db.hasTenant location.tenantId = true) : (db.put (.location location)).Valid := by
  refine ⟨referenced_put valid (fun ref refers => ?_), valid.names, valid.slugs, valid.roleNames,
    valid.emails⟩
  obtain rfl := List.mem_singleton.mp refers
  simpa [Database.row, Database.hasTenant] using tenant

theorem valid_put_service {service : Service} (valid : db.Valid)
    (tenant : db.hasTenant service.tenantId = true)
    (location : ∀ id ∈ service.locationId, db.hasLocation id = true) :
    (db.put (.service service)).Valid := by
  refine ⟨referenced_put valid (fun ref refers => ?_), valid.names, valid.slugs, valid.roleNames,
    valid.emails⟩
  rcases List.mem_cons.mp refers with rfl | refers
  · simpa [Database.row, Database.hasTenant] using tenant
  · obtain ⟨id, named, rfl⟩ := Option.map_eq_some_iff.mp (Option.mem_toList.mp refers)
    simpa [Database.row, Database.hasLocation] using location id named

theorem valid_put_ticket {ticket : Ticket} (valid : db.Valid)
    (refs : ∀ ref ∈ (Row.ticket ticket).refs, (db.row ref).isSome = true) :
    (db.put (.ticket ticket)).Valid :=
  ⟨referenced_put valid refs, valid.names, valid.slugs, valid.roleNames, valid.emails⟩

end

end QueueFlow.Data
