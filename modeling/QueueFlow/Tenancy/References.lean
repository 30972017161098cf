import QueueFlow.Tenancy.Settling
import QueueFlow.Transactions.Sequential

/-!
# References between tenants

All references between rows stay within one tenant as long as the ids that requests are given do.
-/

namespace QueueFlow.Tenancy
open QueueFlow.App QueueFlow.Data QueueFlow.Tables QueueFlow.Transactions QueueFlow.Concurrency

variable {ι : Type} [DecidableEq ι] {hexdigest : PyDict → String} {env : Nat → Env}
  {requests : ι → Request} {db : Database} {w : AppWorld ι} {kind : RefKind}

structure References (db : Database) : Prop where
  location : ∀ ticket ∈ db.tickets.rows, ∃ location ∈ db.locations.get? ticket.locationId,
    location.tenantId = ticket.tenantId
  service : ∀ ticket ∈ db.tickets.rows, ∀ id ∈ ticket.serviceId,
    ∃ service ∈ db.services.get? id, service.tenantId = ticket.tenantId
  channel : ∀ ticket ∈ db.tickets.rows, ∀ id ∈ ticket.channelId,
    ∃ channel ∈ db.channels.get? id, channel.tenantId = ticket.tenantId
  counter : ∀ ticket ∈ db.tickets.rows, ∀ id ∈ ticket.assignedCounterId,
    ∃ counter ∈ db.counters.get? id, ∃ location ∈ db.locations.get? counter.locationId,
      location.tenantId = ticket.tenantId
  serviceLocation : ∀ service ∈ db.services.rows, ∀ id ∈ service.locationId,
    ∃ location ∈ db.locations.get? id, location.tenantId = service.tenantId
  userRole : ∀ assigned ∈ db.userRoles.rows, ∃ user ∈ db.users.get? assigned.userId,
    (∃ role ∈ db.roles.get? assigned.roleId, role.tenantId = user.tenantId) ∧
    ∀ id ∈ assigned.locationId, ∃ location ∈ db.locations.get? id,
      location.tenantId = user.tenantId

def Link.all : List Link :=
  [.ticket .location, .ticket .service, .ticket .channel, .ticket .counter, .service, .userRole]

theorem owner_location_iff {id tenantId : UUID} : db.owner (.location id) = some tenantId ↔
    ∃ location ∈ db.locations.get? id, location.tenantId = tenantId := by
  cases found : db.locations.get? id <;> simp [Database.owner, Database.row, Row.owner, found]

theorem owner_service_iff {id tenantId : UUID} : db.owner (.service id) = some tenantId ↔
    ∃ service ∈ db.services.get? id, service.tenantId = tenantId := by
  cases found : db.services.get? id <;> simp [Database.owner, Database.row, Row.owner, found]

theorem owner_channel_iff {id tenantId : UUID} : db.owner (.channel id) = some tenantId ↔
    ∃ channel ∈ db.channels.get? id, channel.tenantId = tenantId := by
  cases found : db.channels.get? id <;> simp [Database.owner, Database.row, Row.owner, found]

theorem owner_user_iff {id tenantId : UUID} : db.owner (.user id) = some tenantId ↔
    ∃ user ∈ db.users.get? id, user.tenantId = tenantId := by
  cases found : db.users.get? id <;> simp [Database.owner, Database.row, Row.owner, found]

theorem owner_ticket_iff {id tenantId : UUID} : db.owner (.ticket id) = some tenantId ↔
    ∃ ticket ∈ db.tickets.get? id, ticket.tenantId = tenantId := by
  cases found : db.tickets.get? id <;> simp [Database.owner, Database.row, Row.owner, found]

theorem tenantOf_counter_iff {id tenantId : UUID} : db.tenantOf (.counter id) = some tenantId ↔
    ∃ counter ∈ db.counters.get? id, ∃ location ∈ db.locations.get? counter.locationId,
      location.tenantId = tenantId := by
  rw [Database.tenantOf, Option.bind_eq_some_iff]
  simp only [owner_location_iff]
  cases found : db.counters.get? id <;> simp [Database.owner, Database.row, Row.owner, found]

theorem consistent_ticket_iff : Consistent (.ticket kind) db ↔
    ∀ row ∈ db.tickets.rows, ∀ lock ∈ row.ref kind, db.tenantOf lock = some row.tenantId := by
  constructor
  · intro consistent row member
    exact consistent (.ticket row.id) (.ticket row) (row_ticket (Table.get?_of_mem member))
  · intro linked lock row found
    cases row with
    | ticket row =>
        cases lock with
        | ticket id => exact linked row (Table.mem_of_get? (get?_of_row found))
        | _ => simp [Database.row] at found
    | _ => trivial

theorem consistent_service_iff : Consistent .service db ↔
    ∀ row ∈ db.services.rows, ∀ id ∈ row.locationId,
      db.owner (.location id) = some row.tenantId := by
  constructor
  · intro consistent row member
    have found : db.services.get? row.id = some row := Table.get?_of_mem member
    exact consistent (.service row.id) (.service row) (by simp [Database.row, found])
  · intro linked lock row found
    cases row with
    | service row =>
        cases lock with
        | service id =>
            obtain ⟨other, located, same⟩ := Option.map_eq_some_iff.mp found
            cases same
            exact linked row (Table.mem_of_get? located)
        | _ => simp [Database.row] at found
    | _ => trivial

theorem consistent_userRole_iff : Consistent .userRole db ↔
    ∀ row ∈ db.userRoles.rows, Linked db .userRole (.userRole row) := by
  constructor
  · intro consistent row member
    have found : db.userRoles.get? (row.userId, row.roleId) = some row := Table.get?_of_mem member
    exact consistent (.userRole row.userId row.roleId) (.userRole row)
      (by simp [Database.row, found])
  · intro linked lock row found
    cases row with
    | userRole row =>
        cases lock with
        | userRole userId roleId =>
            obtain ⟨other, located, same⟩ := Option.map_eq_some_iff.mp found
            cases same
            exact linked row (Table.mem_of_get? located)
        | _ => simp [Database.row] at found
    | _ => trivial

theorem linked_userRole_iff {row : UserRole} : Linked db .userRole (.userRole row) ↔
    ∃ user ∈ db.users.get? row.userId,
      (∃ role ∈ db.roles.get? row.roleId, role.tenantId = user.tenantId) ∧
      ∀ id ∈ row.locationId, ∃ location ∈ db.locations.get? id,
        location.tenantId = user.tenantId := by
  simp only [Linked, Option.mem_def, owner_user_iff, owner_location_iff, Option.map_eq_some_iff]
  constructor
  · rintro ⟨_, ⟨user, found, rfl⟩, role, location⟩
    exact ⟨user, found, role, location⟩
  · rintro ⟨user, found, role, location⟩
    exact ⟨_, ⟨user, found, rfl⟩, role, location⟩

theorem consistent_reference_iff : Consistent (.ticket .location) db ∧
    Consistent (.ticket .service) db ∧ Consistent (.ticket .channel) db ∧
    Consistent (.ticket .counter) db ∧ Consistent .service db ∧ Consistent .userRole db ↔
    References db := by
  have location (row : Ticket) :
    (∀ lock ∈ row.ref .location, db.tenantOf lock = some row.tenantId) ↔
      ∃ location ∈ db.locations.get? row.locationId, location.tenantId = row.tenantId := by
    simp [Ticket.ref, Database.tenantOf, owner_location_iff]
  have service (row : Ticket) : (∀ lock ∈ row.ref .service, db.tenantOf lock = some row.tenantId) ↔
      ∀ id ∈ row.serviceId, ∃ service ∈ db.services.get? id, service.tenantId = row.tenantId := by
    simp [Ticket.ref, Database.tenantOf, owner_service_iff]
  have channel (row : Ticket) : (∀ lock ∈ row.ref .channel, db.tenantOf lock = some row.tenantId) ↔
      ∀ id ∈ row.channelId, ∃ channel ∈ db.channels.get? id, channel.tenantId = row.tenantId := by
    simp [Ticket.ref, Database.tenantOf, owner_channel_iff]
  have counter (row : Ticket) : (∀ lock ∈ row.ref .counter, db.tenantOf lock = some row.tenantId) ↔
      ∀ id ∈ row.assignedCounterId, ∃ counter ∈ db.counters.get? id,
        ∃ location ∈ db.locations.get? counter.locationId, location.tenantId = row.tenantId := by
    simp only [Ticket.ref, Option.mem_def, Option.map_eq_some_iff, forall_exists_index, and_imp,
      forall_apply_eq_imp_iff₂, tenantOf_counter_iff]
  simp only [consistent_ticket_iff, consistent_service_iff, consistent_userRole_iff, location,
    service, channel, counter, owner_location_iff, linked_userRole_iff]
  constructor
  · rintro ⟨location, service, channel, counter, serviceLocation, userRole⟩
    exact ⟨location, service, channel, counter, serviceLocation, userRole⟩
  · intro refs
    exact ⟨refs.location, refs.service, refs.channel, refs.counter, refs.serviceLocation,
      refs.userRole⟩

theorem references_iff : References db ↔ ∀ link ∈ Link.all, Consistent link db := by
  simp only [← consistent_reference_iff, Link.all, List.forall_mem_cons, List.not_mem_nil,
    false_implies, implies_true, and_true]

theorem references_stay (base : References db)
    (reach : Reaches engine env (Respects Link.all requests) (initial hexdigest requests db) w) :
    References w.state.store :=
  references_iff.mpr
    (consistent_reaches (fun _ => by simp [Link.all]) (references_iff.mp base) reach)

instance (db : Database) : Decidable (References db) :=
  decidable_of_iff (_ ∧ _ ∧ _ ∧ _ ∧ _ ∧ _)
    ⟨fun ⟨h₁, h₂, h₃, h₄, h₅, h₆⟩ => References.mk h₁ h₂ h₃ h₄ h₅ h₆,
      fun refs => ⟨refs.location, refs.service, refs.channel, refs.counter, refs.serviceLocation,
        refs.userRole⟩⟩

instance (row : UserRole) : Decidable (Linked db .userRole (.userRole row)) :=
  inferInstanceAs (Decidable (∃ tenantId ∈ db.owner (.user row.userId), _ ∧ _))

instance (request : Request) : (link : Link) → Decidable (respects db request link)
  | .ticket kind => inferInstanceAs (Decidable (∀ lock ∈ request.refs kind, _))
  | .service => by
      unfold respects
      dsimp only
      split <;> infer_instance
  | .userRole => by
      unfold respects
      dsimp only
      split <;> infer_instance

omit [DecidableEq ι] in
theorem respects_iff (links : List Link) (w : AppWorld ι) (j : ι) :
    ((w.session j).isCommitting = true →
      ∀ link ∈ links, respects w.state.store (requests j) link) ↔ Respects links requests w j :=
  isCommitting_imp_iff _ (w.session j)

instance (links : List Link) (w : AppWorld ι) (j : ι) : Decidable (Respects links requests w j) :=
  decidable_of_iff _ (respects_iff links w j)

def admin : TokenPayload := ⟨.canonical 40, .canonical 1, [.admin]⟩

def twoTenants : Database :=
  { Database.empty with
    tenants := ⟨[⟨1, "City", "city", true⟩, ⟨2, "County", "county", true⟩], by decide⟩
    locations := ⟨[⟨10, 1, "Hall", none, "UTC", true⟩, ⟨11, 2, "Court", none, "UTC", true⟩],
      by decide⟩
    services := ⟨[⟨20, 1, some 10, "Permits", "P", none, true, 5⟩,
      ⟨21, 2, some 11, "Deeds", "D", none, true, 5⟩], by decide⟩
    counters := ⟨[⟨30, 10, "Desk 1", "standard", true⟩, ⟨31, 11, "Desk 2", "standard", true⟩],
      by decide⟩
    roles := ⟨[⟨50, 1, "staff"⟩, ⟨51, 2, "staff"⟩], by decide⟩
    users := ⟨[⟨40, 1, "clerk@city.example", "Clerk", "active"⟩,
      ⟨41, 2, "clerk@county.example", "Clerk", "active"⟩], by decide⟩
    tickets := ⟨[{ waitingTicket 2 1 5 with status := .inService }], by decide⟩ }

def visas (locationId : UUID) : ServiceCreate where
  tenantId := 1
  locationId := some locationId
  name := ⟨"Visas", by decide, by decide⟩
  prefixText := ⟨"V", by decide, by decide⟩

def openingDay : Nat → Request
  | 0 => .createService (visas 10) admin
  | 1 => .assignRole 40 { roleId := 50, locationId := some 10 } admin
  | 2 => .transferTicket 2 { targetServiceId := 20, targetLocationId := some 10 } clerk
  | 3 => .callNext 30 {} clerk none
  | _ => .createTicket (visit 10 (some 20)) clerk none

def openingDayStart : AppWorld Nat := initial textDigest openingDay twoTenants

def openingDayWorld : AppWorld Nat :=
  openingDayStart.after engine steadyEnv (runs 0 ++ runs 1 ++ runs 2 ++ runs 3 ++ runs 4)

theorem openingDay_reaches :
    Reaches engine steadyEnv (Respects Link.all openingDay) openingDayStart openingDayWorld :=
  reaches_after (by decide +kernel)

theorem references_stay_openingDay : References openingDayWorld.state.store :=
  references_stay (by decide +kernel) openingDay_reaches

def crossing : Fin 5 → Request
  | 0 => .createTicket (visit 11 (some 20)) clerk none
  | 1 => .kioskCreateTicket { locationId := 10, serviceId := some 21 } none
  | 2 => .transferTicket 2 { targetServiceId := 21 } clerk
  | 3 => .createService (visas 11) admin
  | 4 => .assignRole 40 { roleId := 51 } admin

def crossed (i : Fin 5) : AppWorld (Fin 5) :=
  (initial textDigest crossing twoTenants).serve engine steadyEnv i

theorem references_cross : References twoTenants ∧
    ∀ i, ((crossed i).session i).hasReturned = true ∧ ¬ References (crossed i).state.store := by
  decide +kernel

end QueueFlow.Tenancy
