import QueueFlow.Concurrency.Setting

/-!
# Links between rows

The foreign keys that should stay within one tenant, and what keeps them there through a list of
writes: each row that is written is linked within its tenant, or has the links of the row it
replaces.
-/

namespace QueueFlow.Tenancy
open QueueFlow.App QueueFlow.Data QueueFlow.Tables QueueFlow.Transactions QueueFlow.Concurrency

inductive Link where
  | ticket (kind : RefKind)
  | service
  | userRole

def Linked (db : Database) : Link → Row → Prop
  | .ticket kind, .ticket row => ∀ lock ∈ row.ref kind, db.tenantOf lock = some row.tenantId
  | .service, .service row => ∀ id ∈ row.locationId, db.owner (.location id) = some row.tenantId
  | .userRole, .userRole row => ∃ tenantId ∈ db.owner (.user row.userId),
      (db.roles.get? row.roleId).map Role.tenantId = some tenantId ∧
      ∀ id ∈ row.locationId, db.owner (.location id) = some tenantId
  | _, _ => True

def Consistent (link : Link) (db : Database) : Prop :=
  ∀ lock row, db.row lock = some row → Linked db link row

def Keeps (link : Link) (row : Row) : Prop :=
  ∀ db old, Sound (some old) (.update row) → Linked db link old → Linked db link row

def Settles (link : Link) (db : Database) (write : Write) : Prop :=
  ∀ row, write.value = some row → Linked db link row ∨ (write = .update row ∧ Keeps link row)

variable {db : Database} {write : Write} {writes : List Write} {link : Link} {kind : RefKind}
  {row : Row}

theorem role_apply {id : UUID} {role : Role} (sound : Sound (db.row write.lock) write)
    (found : db.roles.get? id = some role) : (db.apply write).roles.get? id = some role := by
  have stored : db.row (.role id) = some (.role role) :=
    Option.map_eq_some_iff.mpr ⟨role, found, rfl⟩
  have kept : (db.apply write).row (.role id) = some (.role role) := by
    rw [row_apply]
    split
    · rename_i locked
      rw [locked, stored] at sound
      cases write with
      | insert row => cases sound
      | update row =>
          cases row with
          | role row => exact sound.elim
          | _ => cases locked
      | dropKey tenantId key => cases locked
    · exact stored
  obtain ⟨row, located, same⟩ := Option.map_eq_some_iff.mp kept
  cases same
  exact located

theorem linked_apply (sound : Sound (db.row write.lock) write) (linked : Linked db link row) :
    Linked (db.apply write) link row := by
  cases link with
  | ticket kind =>
      cases row with
      | ticket row => exact fun lock refers => tenantOf_apply sound (linked lock refers)
      | _ => trivial
  | service =>
      cases row with
      | service row => exact fun id refers => owner_apply sound (linked id refers)
      | _ => trivial
  | userRole =>
      cases row with
      | userRole row =>
          obtain ⟨tenantId, user, role, location⟩ := linked
          obtain ⟨named, found, owns⟩ := Option.map_eq_some_iff.mp role
          exact ⟨tenantId, owner_apply sound user,
            Option.map_eq_some_iff.mpr ⟨named, role_apply sound found, owns⟩,
            fun id refers => owner_apply sound (location id refers)⟩
      | _ => trivial

theorem settles_apply {other : Write} (sound : Sound (db.row write.lock) write)
    (settles : Settles link db other) : Settles link (db.apply write) other := by
  intro row value
  rcases settles row value with linked | keeps
  · exact .inl (linked_apply sound linked)
  · exact .inr keeps

theorem consistent_apply (sound : Sound (db.row write.lock) write)
    (consistent : Consistent link db) (settles : Settles link db write) :
    Consistent link (db.apply write) := by
  intro lock row found
  rw [row_apply] at found
  split at found
  · rcases settles row found with linked | ⟨rfl, keeps⟩
    · exact linked_apply sound linked
    · cases old : db.row (Write.update row).lock with
      | none =>
          rw [old] at sound
          refine linked_apply (old.symm ▸ sound) ?_
          cases row with
          | ticket row => obtain ⟨_, impossible, _⟩ := sound; cases impossible
          | service row => obtain ⟨_, impossible, _⟩ := sound; cases impossible
          | userRole row => exact sound.elim
          | _ => cases link <;> trivial
      | some before =>
          have linked := consistent _ before old
          refine linked_apply sound (keeps db before ?_ linked)
          rwa [old] at sound
  · exact linked_apply sound (consistent lock row found)

theorem consistent_applyAll (checked : Checked engine Database.row Sound db writes)
    (consistent : Consistent link db) (settled : ∀ write ∈ writes, Settles link db write) :
    Consistent link (engine.applyAll db writes) := by
  induction writes generalizing db with
  | nil => exact consistent
  | cons write writes ih =>
      obtain ⟨sound, rest⟩ := checked
      refine ih rest (consistent_apply sound consistent (settled write List.mem_cons_self)) ?_
      exact fun later member => settles_apply sound (settled later (List.mem_cons_of_mem _ member))

/-! ## Rows that keep their links -/

theorem ref_of_becomes {old new : Ticket} (becomes : old.Becomes new)
    (requeued : new.status ≠ .waiting) (called : kind = .counter → new.status ≠ .called) :
    new.ref kind = old.ref kind := by
  cases kind with
  | location => simp only [Ticket.ref, (becomes.place requeued).1]
  | service => simp only [Ticket.ref, (becomes.place requeued).2]
  | channel => simp only [Ticket.ref, becomes.channelId]
  | counter => simp only [Ticket.ref, becomes.counter requeued (called rfl)]

theorem keeps_ticket {new : Ticket} (requeued : new.status ≠ .waiting)
    (called : link = .ticket .counter → new.status ≠ .called) : Keeps link (.ticket new) := by
  intro db old sound linked
  obtain ⟨row, same, becomes⟩ := sound
  cases same
  cases link with
  | ticket kind =>
      intro lock refers
      rw [ref_of_becomes becomes requeued fun same => called (by rw [same])] at refers
      rw [becomes.tenantId]
      exact linked lock refers
  | service => trivial
  | userRole => trivial

theorem keeps_record {lock : Lock} (record : row.lock = lock) (isRecord : lock.isRecord = true) :
    Keeps link row := by
  intro db old sound linked
  cases row with
  | service new =>
      obtain ⟨row, same, tenant, location⟩ := sound
      cases same
      cases link with
      | service =>
          intro id refers
          rw [location] at refers
          rw [tenant]
          exact linked id refers
      | ticket kind => trivial
      | userRole => trivial
  | userRole new => exact sound.elim
  | ticket new =>
      subst record
      cases isRecord
  | _ => cases link <;> trivial

theorem settles_update (keeps : Keeps link row) : Settles link db (.update row) := by
  rintro _ ⟨⟩
  exact .inr ⟨rfl, keeps⟩

theorem settles_event {event : TicketEvent} : Settles link db (.insert (.event event)) := by
  rintro _ ⟨⟩
  cases link <;> exact .inl trivial

theorem settles_interaction {interaction : Interaction}
    (value : write.value = some (.interaction interaction)) : Settles link db write := by
  intro row same
  rw [value] at same
  cases same
  cases link <;> exact .inl trivial

theorem settles_key {record : IdempotencyKey} :
    Settles link db (.insert (.idempotencyKey record)) := by
  rintro _ ⟨⟩
  cases link <;> exact .inl trivial

end QueueFlow.Tenancy
