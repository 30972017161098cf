import QueueFlow.Data.Constraints

/-!
# Agreement on the rows of a tenant

Two databases that differ in other tenants' rows only. Into any valid database another tenant can
bring tickets, at any location.
-/

namespace QueueFlow.Tenancy
open QueueFlow.Data QueueFlow.Tables

variable {db db' : Database} {tenantId : UUID}

/-- The same rows of this tenant, in the same order. A counter belongs to its location and an event
to its ticket. -/
structure AgreeOn (tenantId : UUID) (db db' : Database) : Prop where
  locations : db.locations.rows.filter (·.tenantId = tenantId) =
    db'.locations.rows.filter (·.tenantId = tenantId)
  services : db.services.rows.filter (·.tenantId = tenantId) =
    db'.services.rows.filter (·.tenantId = tenantId)
  counters : ∀ location ∈ db.locations.rows, location.tenantId = tenantId →
    db.counters.rows.filter (·.locationId = location.id) =
      db'.counters.rows.filter (·.locationId = location.id)
  channels : db.channels.rows.filter (·.tenantId = tenantId) =
    db'.channels.rows.filter (·.tenantId = tenantId)
  users : db.users.rows.filter (·.tenantId = tenantId) =
    db'.users.rows.filter (·.tenantId = tenantId)
  tickets : db.tickets.rows.filter (·.tenantId = tenantId) =
    db'.tickets.rows.filter (·.tenantId = tenantId)
  events : ∀ ticket ∈ db.tickets.rows, ticket.tenantId = tenantId →
    db.eventsOf ticket.id = db'.eventsOf ticket.id

instance (tenantId : UUID) (db db' : Database) : Decidable (AgreeOn tenantId db db') :=
  decidable_of_iff (_ ∧ _ ∧ _ ∧ _ ∧ _ ∧ _ ∧ _)
    ⟨fun ⟨locations, services, counters, channels, users, tickets, events⟩ =>
      ⟨locations, services, counters, channels, users, tickets, events⟩,
      fun agree => ⟨agree.locations, agree.services, agree.counters, agree.channels, agree.users,
        agree.tickets, agree.events⟩⟩

theorem mem_iff_of_filter {α : Type} {p : α → Prop} [DecidablePred p] {rows rows' : List α}
    (same : rows.filter p = rows'.filter p) {row : α} (own : p row) : row ∈ rows ↔ row ∈ rows' := by
  have member : row ∈ rows.filter p ↔ row ∈ rows'.filter p := by rw [same]
  simpa [own] using member

theorem AgreeOn.refl (tenantId : UUID) (db : Database) : AgreeOn tenantId db db :=
  ⟨rfl, rfl, fun _ _ _ => rfl, rfl, rfl, rfl, fun _ _ _ => rfl⟩

theorem AgreeOn.symm (agree : AgreeOn tenantId db db') : AgreeOn tenantId db' db where
  locations := agree.locations.symm
  services := agree.services.symm
  counters location member own :=
    (agree.counters location ((mem_iff_of_filter agree.locations own).mpr member) own).symm
  channels := agree.channels.symm
  users := agree.users.symm
  tickets := agree.tickets.symm
  events ticket member own :=
    (agree.events ticket ((mem_iff_of_filter agree.tickets own).mpr member) own).symm

theorem AgreeOn.trans {db'' : Database} (first : AgreeOn tenantId db db')
    (second : AgreeOn tenantId db' db'') : AgreeOn tenantId db db'' where
  locations := first.locations.trans second.locations
  services := first.services.trans second.services
  counters location member own := (first.counters location member own).trans
    (second.counters location ((mem_iff_of_filter first.locations own).mp member) own)
  channels := first.channels.trans second.channels
  users := first.users.trans second.users
  tickets := first.tickets.trans second.tickets
  events ticket member own := (first.events ticket member own).trans
    (second.events ticket ((mem_iff_of_filter first.tickets own).mp member) own)

/-! ## Rows of others -/

theorem agreeOn_put_tenant (tenant : Tenant) : AgreeOn tenantId db (db.put (.tenant tenant)) :=
  ⟨rfl, rfl, fun _ _ _ => rfl, rfl, rfl, rfl, fun _ _ _ => rfl⟩

theorem filter_put_foreign {α κ : Type} [Keyed α κ] [DecidableEq κ] {table : Table α} {row : α}
    {owner : α → UUID} (foreign : owner row ≠ tenantId)
    (old : ∀ before ∈ table.get? (key row), owner before ≠ tenantId) :
    table.rows.filter (owner · = tenantId) = (table.put row).rows.filter (owner · = tenantId) :=
  (Table.filter_put (by simpa using foreign) fun before found => by
    simpa using old before found).symm

theorem agreeOn_put_location {location : Location} (foreign : location.tenantId ≠ tenantId)
    (absent : db.locations.get? location.id = none) :
    AgreeOn tenantId db (db.put (.location location)) :=
  ⟨filter_put_foreign foreign (by simp [absent]), rfl, fun _ _ _ => rfl, rfl, rfl, rfl,
    fun _ _ _ => rfl⟩

theorem agreeOn_put_service {service : Service} (foreign : service.tenantId ≠ tenantId)
    (absent : db.services.get? service.id = none) :
    AgreeOn tenantId db (db.put (.service service)) :=
  ⟨rfl, filter_put_foreign foreign (by simp [absent]), fun _ _ _ => rfl, rfl, rfl, rfl,
    fun _ _ _ => rfl⟩

theorem agreeOn_put_ticket {ticket : Ticket} (foreign : ticket.tenantId ≠ tenantId)
    (old : ∀ before ∈ db.tickets.get? ticket.id, before.tenantId ≠ tenantId) :
    AgreeOn tenantId db (db.put (.ticket ticket)) :=
  ⟨rfl, rfl, fun _ _ _ => rfl, rfl, rfl, filter_put_foreign foreign old, fun _ _ _ => rfl⟩

/-! ## Tickets of others -/

structure Extends (tenantId : UUID) (db db' : Database) : Prop where
  valid : db'.Valid
  agree : AgreeOn tenantId db db'
  tickets : db'.tickets = db.tickets

theorem Extends.trans {db'' : Database} (first : Extends tenantId db db')
    (second : Extends tenantId db' db'') : Extends tenantId db db'' :=
  ⟨second.valid, first.agree.trans second.agree, second.tickets.trans first.tickets⟩

theorem exists_tenant (valid : db.Valid) (tenantId : UUID) :
    ∃ db' foreign, foreign ≠ tenantId ∧ Extends tenantId db db' ∧ db'.hasTenant foreign = true := by
  obtain ⟨foreign, fresh⟩ := exists_fresh_id (tenantId :: db.tenants.rows.map Tenant.id)
  obtain ⟨name, newName⟩ := exists_fresh_text (db.tenants.rows.map Tenant.name)
  obtain ⟨slug, newSlug⟩ := exists_fresh_text (db.tenants.rows.map Tenant.slug)
  simp only [List.mem_cons, not_or, List.mem_map, not_exists, not_and] at fresh
  have absent : db.tenants.get? foreign = none :=
    Table.get?_eq_none.mpr fun row member => fresh.2 row member
  refine ⟨db.put (.tenant ⟨foreign, name, slug, true⟩), foreign, fresh.1, ⟨?_, ?_, rfl⟩, ?_⟩
  · exact valid_put_tenant valid absent newName newSlug
  · exact agreeOn_put_tenant _
  · simp [Database.hasTenant, Database.put]

theorem exists_location (valid : db.Valid) {foreign : UUID} (others : foreign ≠ tenantId)
    (tenant : db.hasTenant foreign = true) (locationId : UUID) :
    ∃ db', Extends tenantId db db' ∧ db'.hasTenant foreign = true ∧
      db'.hasLocation locationId = true := by
  cases found : db.locations.get? locationId with
  | some location =>
      refine ⟨db, ⟨valid, .refl _ _, rfl⟩, tenant, ?_⟩
      simp [Database.hasLocation, found]
  | none =>
      refine ⟨db.put (.location ⟨locationId, foreign, "Hall", none, "UTC", true⟩),
        ⟨?_, ?_, rfl⟩, tenant, ?_⟩
      · exact valid_put_location valid tenant
      · exact agreeOn_put_location others found
      · simp [Database.hasLocation, Database.put]

theorem exists_service (valid : db.Valid) {foreign : UUID} (others : foreign ≠ tenantId)
    (tenant : db.hasTenant foreign = true) (serviceId : Option UUID) :
    ∃ db', Extends tenantId db db' ∧ db'.hasTenant foreign = true ∧
      db'.locations = db.locations ∧ ∀ id ∈ serviceId, db'.hasService id = true := by
  cases serviceId with
  | none => exact ⟨db, ⟨valid, .refl _ _, rfl⟩, tenant, rfl, by simp⟩
  | some id =>
      cases found : db.services.get? id with
      | some service =>
          refine ⟨db, ⟨valid, .refl _ _, rfl⟩, tenant, rfl, ?_⟩
          simp [Database.hasService, found]
      | none =>
          refine ⟨db.put (.service ⟨id, foreign, none, "Permits", "P", none, true, 5⟩),
            ⟨?_, ?_, rfl⟩, tenant, rfl, ?_⟩
          · exact valid_put_service valid tenant (by simp)
          · exact agreeOn_put_service others found
          · simp [Database.hasService, Database.put]

structure Arrival where
  locationId : UUID
  serviceId : Option UUID := none
  status : TicketStatus := .waiting
  createdAt : Time := 0
  calledAt : Option Time := none
  serviceStartedAt : Option Time := none
  completedAt : Option Time := none

def Arrival.ticket (arrival : Arrival) (tenantId id : UUID) : Ticket where
  id := id
  tenantId := tenantId
  locationId := arrival.locationId
  serviceId := arrival.serviceId
  channelId := none
  assignedCounterId := none
  number := 1
  status := arrival.status
  priority := 5
  notes := none
  createdAt := arrival.createdAt
  updatedAt := arrival.createdAt
  calledAt := arrival.calledAt
  serviceStartedAt := arrival.serviceStartedAt
  completedAt := arrival.completedAt

structure Admits (foreign : UUID) (arrival : Arrival) (db : Database) : Prop where
  valid : db.Valid
  tenant : db.hasTenant foreign = true
  location : db.hasLocation arrival.locationId = true
  service : ∀ id ∈ arrival.serviceId, db.hasService id = true

/-- Another tenant can bring tickets to any location, for any service. -/
theorem exists_admits (valid : db.Valid) (tenantId : UUID) (arrival : Arrival) :
    ∃ foreign db', foreign ≠ tenantId ∧ Extends tenantId db db' ∧ Admits foreign arrival db' := by
  obtain ⟨first, foreign, others, withTenant, tenant⟩ := exists_tenant valid tenantId
  obtain ⟨second, withLocation, tenant, location⟩ :=
    exists_location withTenant.valid others tenant arrival.locationId
  obtain ⟨third, withService, tenant, same, service⟩ :=
    exists_service withLocation.valid others tenant arrival.serviceId
  refine ⟨foreign, third, others, (withTenant.trans withLocation).trans withService,
    withService.valid, tenant, ?_, service⟩
  rw [Database.hasLocation, same]
  exact location

theorem admits_put {foreign : UUID} {arrival : Arrival} (admits : Admits foreign arrival db)
    (id : UUID) : Admits foreign arrival (db.put (.ticket (arrival.ticket foreign id))) := by
  refine ⟨valid_put_ticket admits.valid fun ref refers => ?_, admits.tenant, admits.location,
    admits.service⟩
  simp only [Row.refs, Arrival.ticket, Option.map_none, Option.toList_none, List.append_nil,
    List.mem_cons, Option.mem_toList, Option.map_eq_some_iff] at refers
  rcases refers with rfl | rfl | ⟨id, named, rfl⟩
  · simpa [Database.row, Database.hasTenant] using admits.tenant
  · simpa [Database.row, Database.hasLocation] using admits.location
  · simpa [Database.row, Database.hasService] using admits.service id named

structure Joined (tenantId foreign : UUID) (arrival : Arrival) (ids : List UUID)
    (db db' : Database) : Prop where
  valid : db'.Valid
  agree : AgreeOn tenantId db db'
  distinct : ids.Nodup
  free : ∀ id ∈ ids, db.tickets.get? id = none
  rows : db'.tickets.rows = db.tickets.rows ++ ids.map (arrival.ticket foreign)

theorem exists_joined {foreign : UUID} {arrival : Arrival} (others : foreign ≠ tenantId)
    (admits : Admits foreign arrival db) (n : Nat) :
    ∃ db' ids, ids.length = n ∧ Joined tenantId foreign arrival ids db db' := by
  induction n generalizing db with
  | zero => exact ⟨db, [], rfl, admits.valid, .refl _ _, .nil, by simp, by simp⟩
  | succ n ih =>
      obtain ⟨id, fresh⟩ := exists_fresh_id (db.tickets.rows.map Ticket.id)
      have absent : db.tickets.get? (arrival.ticket foreign id).id = none := by
        refine Table.get?_eq_none.mpr fun row member same => fresh ?_
        exact List.mem_map.mpr ⟨row, member, same⟩
      obtain ⟨db', ids, length, joined⟩ := ih (admits_put admits id)
      have later : ∀ other ∈ ids, id ≠ other ∧ db.tickets.get? other = none := by
        intro other member
        have missing : (db.tickets.put (arrival.ticket foreign id)).get? other = none :=
          joined.free other member
        rw [Table.get?_put] at missing
        split at missing
        · cases missing
        · rename_i differs
          exact ⟨differs, missing⟩
      refine ⟨db', id :: ids, by simp [length], joined.valid, .trans ?_ joined.agree, ?_, ?_, ?_⟩
      · exact agreeOn_put_ticket others (by simp [absent])
      · exact List.nodup_cons.mpr ⟨fun member => (later id member).1 rfl, joined.distinct⟩
      · simp only [List.mem_cons, forall_eq_or_imp]
        exact ⟨absent, fun other member => (later other member).2⟩
      · have appended : (db.put (.ticket (arrival.ticket foreign id))).tickets.rows =
            db.tickets.rows ++ [arrival.ticket foreign id] := Table.rows_put_of_absent absent
        rw [joined.rows, appended, List.append_assoc]
        rfl

theorem exists_arrivals (valid : db.Valid) (tenantId : UUID) (arrival : Arrival) (n : Nat) :
    ∃ foreign db' ids, ids.length = n ∧ Joined tenantId foreign arrival ids db db' := by
  obtain ⟨foreign, host, others, hosts, admits⟩ := exists_admits valid tenantId arrival
  obtain ⟨db', ids, length, joined⟩ := exists_joined others admits n
  refine ⟨foreign, db', ids, length, joined.valid, hosts.agree.trans joined.agree,
    joined.distinct, ?_, ?_⟩
  · exact hosts.tickets ▸ joined.free
  · rw [joined.rows, hosts.tickets]

end QueueFlow.Tenancy
