import QueueFlow.Data.Soundness

/-!
# References and tenants

Which tenant a row belongs to, and that no write moves a row to another one. The foreign keys of a
ticket say nothing about tenants.
-/

namespace QueueFlow.Data
open QueueFlow.Tables QueueFlow.Transactions

/-- The tenant of a row, or the location of a counter. -/
def Row.owner : Row → Option UUID
  | .location row => some row.tenantId
  | .service row => some row.tenantId
  | .channel row => some row.tenantId
  | .user row => some row.tenantId
  | .ticket row => some row.tenantId
  | .counter row => some row.locationId
  | _ => none

namespace Database

def owner (db : Database) (lock : Lock) : Option UUID := (db.row lock).bind Row.owner

/-- A counter belongs to the tenant of its location. -/
def tenantOf (db : Database) : Lock → Option UUID
  | .counter id => (db.owner (.counter id)).bind fun locationId => db.owner (.location locationId)
  | lock => db.owner lock

end Database

inductive RefKind where
  | location | service | channel | counter

def Ticket.ref (row : Ticket) : RefKind → Option Lock
  | .location => some (.location row.locationId)
  | .service => row.serviceId.map .service
  | .channel => row.channelId.map .channel
  | .counter => row.assignedCounterId.map .counter

section
variable {db : Database} {write : Write} {writes : List Write} {lock : Lock} {tenantId : UUID}

theorem owner_apply (sound : Sound (db.row write.lock) write)
    (owned : db.owner lock = some tenantId) : (db.apply write).owner lock = some tenantId := by
  obtain ⟨old, found, owns⟩ := Option.bind_eq_some_iff.mp owned
  rw [Database.owner, row_apply]
  split
  · rename_i same
    subst same
    rw [found] at sound
    cases write with
    | insert row => cases sound
    | update row =>
        cases row with
        | ticket new =>
            obtain ⟨row, same, becomes⟩ := sound
            cases same
            simpa [Write.value, Row.owner, becomes.tenantId] using owns
        | location new =>
            obtain ⟨row, same, kept⟩ := sound
            cases same
            simpa [Write.value, Row.owner, kept] using owns
        | service new =>
            obtain ⟨row, same, kept, _⟩ := sound
            cases same
            simpa [Write.value, Row.owner, kept] using owns
        | counter new =>
            obtain ⟨row, same, kept⟩ := sound
            cases same
            simpa [Write.value, Row.owner, kept] using owns
        | interaction new =>
            obtain ⟨row, same, _⟩ := sound
            cases same
            cases owns
        | tenant new =>
            obtain ⟨row, _, rfl⟩ := Option.map_eq_some_iff.mp found
            cases owns
        | _ => exact sound.elim
    | dropKey tenant key =>
        obtain ⟨row, _, rfl⟩ := Option.map_eq_some_iff.mp found
        cases owns
  · exact owned

theorem tenantOf_apply (sound : Sound (db.row write.lock) write)
    (owned : db.tenantOf lock = some tenantId) :
    (db.apply write).tenantOf lock = some tenantId := by
  cases lock with
  | counter id =>
      obtain ⟨locationId, located, owns⟩ := Option.bind_eq_some_iff.mp owned
      exact Option.bind_eq_some_iff.mpr
        ⟨locationId, owner_apply sound located, owner_apply sound owns⟩
  | _ => exact owner_apply sound owned

theorem kept_of_checked {K : Database → Prop}
    (step : ∀ db write, Sound (db.row write.lock) write → K db → K (db.apply write))
    (checked : Checked engine Database.row Sound db writes) (base : K db) :
    K (engine.applyAll db writes) := by
  induction writes generalizing db with
  | nil => exact base
  | cons write writes ih => exact ih checked.2 (step db write checked.1 base)

theorem owner_applyAll (checked : Checked engine Database.row Sound db writes)
    (owned : db.owner lock = some tenantId) :
    (engine.applyAll db writes).owner lock = some tenantId :=
  kept_of_checked (K := fun db => db.owner lock = some tenantId)
    (fun _ _ sound owned => owner_apply sound owned) checked owned

theorem tenantOf_applyAll (checked : Checked engine Database.row Sound db writes)
    (owned : db.tenantOf lock = some tenantId) :
    (engine.applyAll db writes).tenantOf lock = some tenantId :=
  kept_of_checked (K := fun db => db.tenantOf lock = some tenantId)
    (fun _ _ sound owned => tenantOf_apply sound owned) checked owned

theorem owner_location {id : UUID} {row : Location} (found : db.locations.get? id = some row) :
    db.owner (.location id) = some row.tenantId := by
  simp [Database.owner, Database.row, found, Row.owner]

theorem owner_counter {id : UUID} {row : Counter} (found : db.counters.get? id = some row) :
    db.owner (.counter id) = some row.locationId := by
  simp [Database.owner, Database.row, found, Row.owner]

theorem owner_ticket {id : UUID} {row : Ticket} (found : db.tickets.get? id = some row) :
    db.owner (.ticket id) = some row.tenantId := by
  simp [Database.owner, Database.row, found, Row.owner]

end

end QueueFlow.Data
