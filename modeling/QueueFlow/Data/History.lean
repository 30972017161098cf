import QueueFlow.Data.Soundness
import Mathlib.Data.List.Chain

/-!
# The versions of one ticket

A list of writes gives each ticket a sequence of row versions; checks on the writes are relations
between neighbours in that sequence.
-/

namespace QueueFlow.Data
open QueueFlow.Tables QueueFlow.Transactions

def Write.ticket? (id : UUID) : Write → Option Ticket
  | .insert (.ticket row) | .update (.ticket row) => if row.id = id then some row else none
  | _ => none

def ticketVersions (id : UUID) (writes : List Write) : List Ticket :=
  writes.filterMap (Write.ticket? id)

variable {db : Database} {write : Write} {writes : List Write} {id : UUID} {row : Ticket}

@[simp] theorem ticketVersions_nil : ticketVersions id [] = [] := rfl

@[simp] theorem ticketVersions_append (first last : List Write) :
    ticketVersions id (first ++ last) = ticketVersions id first ++ ticketVersions id last :=
  List.filterMap_append

theorem ticketVersions_cons (write : Write) (writes : List Write) :
    ticketVersions id (write :: writes) =
      (write.ticket? id).toList ++ ticketVersions id writes := by
  cases made : write.ticket? id <;> simp [ticketVersions, made]

theorem length_ticketVersions_cons (write : Write) (rest : ticketVersions id writes = []) :
    (ticketVersions id (write :: writes)).length ≤ 1 := by
  rw [ticketVersions_cons, rest, List.append_nil]
  exact Option.length_toList_le

theorem ticket?_eq_some : write.ticket? id = some row ↔
    row.id = id ∧ (write = .insert (.ticket row) ∨ write = .update (.ticket row)) := by
  constructor
  · intro made
    unfold Write.ticket? at made
    split at made
    · split at made
      · cases made
        exact ⟨by assumption, .inl rfl⟩
      · cases made
    · split at made
      · cases made
        exact ⟨by assumption, .inr rfl⟩
      · cases made
    · cases made
  · rintro ⟨same, rfl | rfl⟩ <;> simp [Write.ticket?, same]

theorem ticket?_eq_none : write.ticket? id = none ↔ write.lock ≠ .ticket id := by
  constructor
  · intro absent locked
    obtain ⟨row, made⟩ := ticket_of_lock locked
    rw [ticket?_eq_some.mpr made] at absent
    cases absent
  · intro unlocked
    cases made : write.ticket? id with
    | none => rfl
    | some row =>
        obtain ⟨rfl, rfl | rfl⟩ := ticket?_eq_some.mp made <;> exact (unlocked rfl).elim

theorem mem_ticketVersions : row ∈ ticketVersions id writes ↔
    row.id = id ∧ (.insert (.ticket row) ∈ writes ∨ .update (.ticket row) ∈ writes) := by
  simp only [ticketVersions, List.mem_filterMap, ticket?_eq_some]
  constructor
  · rintro ⟨write, member, same, rfl | rfl⟩
    · exact ⟨same, .inl member⟩
    · exact ⟨same, .inr member⟩
  · rintro ⟨same, member | member⟩
    · exact ⟨_, member, same, .inl rfl⟩
    · exact ⟨_, member, same, .inr rfl⟩

theorem get?_apply (db : Database) (write : Write) (id : UUID) :
    (db.apply write).tickets.get? id = (write.ticket? id <|> db.tickets.get? id) := by
  cases made : write.ticket? id with
  | none =>
      have kept := row_apply db write (.ticket id)
      rw [if_neg (ticket?_eq_none.mp made)] at kept
      exact Option.map_injective (fun _ _ same => Row.ticket.inj same) kept
  | some row =>
      obtain ⟨rfl, rfl | rfl⟩ := ticket?_eq_some.mp made <;> simp [Database.apply, Database.put]

theorem length_ticketVersions_updates {rows : List Ticket}
    (distinct : (rows.map Ticket.id).Nodup) :
    (ticketVersions id (rows.map fun row => .update (.ticket row))).length ≤ 1 := by
  induction rows with
  | nil => simp
  | cons row rows ih =>
      obtain ⟨fresh, distinct⟩ := List.nodup_cons.mp distinct
      rw [List.map_cons]
      by_cases mine : row.id = id
      · have others : ticketVersions id (rows.map fun row => .update (.ticket row)) = [] := by
          refine List.filterMap_eq_nil_iff.mpr fun write member => ?_
          obtain ⟨other, listed, rfl⟩ := List.mem_map.mp member
          refine if_neg fun same => fresh ?_
          rw [mine, ← same]
          exact List.mem_map_of_mem listed
        exact length_ticketVersions_cons _ others
      · rw [ticketVersions_cons]
        simpa [Write.ticket?, mine] using ih distinct

theorem get?_applyAll (db : Database) (writes : List Write) (id : UUID) :
    (engine.applyAll db writes).tickets.get? id =
      ((db.tickets.get? id).toList ++ ticketVersions id writes).getLast? := by
  induction writes generalizing db with
  | nil => cases h : db.tickets.get? id <;> simp [h]
  | cons write writes ih =>
      rw [Engine.applyAll_cons, ih]
      change (((db.apply write).tickets.get? id).toList ++ _).getLast? = _
      rw [get?_apply]
      cases made : write.ticket? id with
      | none => simp [ticketVersions, made]
      | some row => simp [ticketVersions, made, List.getLast?_append, List.getLast?_cons]

theorem get?_of_unlocked (db : Database) (unlocked : ∀ write ∈ writes, write.lock ≠ .ticket id) :
    (engine.applyAll db writes).tickets.get? id = db.tickets.get? id := by
  have none_made : ticketVersions id writes = [] :=
    List.filterMap_eq_nil_iff.mpr fun write member => ticket?_eq_none.mpr (unlocked write member)
  rw [get?_applyAll, none_made]
  cases db.tickets.get? id <;> rfl

theorem get?_of_written (db : Database)
    (written : .insert (.ticket row) ∈ writes ∨ .update (.ticket row) ∈ writes) :
    ∃ ticket, (engine.applyAll db writes).tickets.get? row.id = some ticket := by
  have member : row ∈ ticketVersions row.id writes := mem_ticketVersions.mpr ⟨rfl, written⟩
  rw [get?_applyAll]
  cases versions : ticketVersions row.id writes with
  | nil =>
      rw [versions] at member
      cases member
  | cons first rest => simp [List.getLast?_append, List.getLast?_cons]

theorem get?_of_written_once (db : Database)
    (written : write = .insert (.ticket row) ∨ write = .update (.ticket row))
    (unlocked : ∀ other ∈ writes, other.lock ≠ .ticket row.id) :
    (engine.applyAll db (write :: writes)).tickets.get? row.id = some row := by
  rw [Engine.applyAll_cons, get?_of_unlocked _ unlocked,
    show engine.apply db write = db.apply write from rfl, get?_apply,
    ticket?_eq_some.mpr ⟨rfl, written⟩]
  rfl

section
variable {Ok : Option Row → Write → Prop} {R : Ticket → Ticket → Prop}

/-- What the checks say about a pair of neighbours holds along the whole history of a ticket. -/
theorem isChain_versions (inserts : ∀ old row, Ok old (.insert (.ticket row)) → old = none)
    (updates : ∀ old row, Ok old (.update (.ticket row)) →
      ∃ before, old = some (.ticket before) ∧ R before row)
    (checked : Checked engine Database.row Ok db writes) :
    ((db.tickets.get? id).toList ++ ticketVersions id writes).IsChain R := by
  induction writes generalizing db with
  | nil => cases db.tickets.get? id <;> simp
  | cons write writes ih =>
      obtain ⟨ok, rest⟩ := checked
      have later := ih rest
      change (((db.apply write).tickets.get? id).toList ++ _).IsChain R at later
      rw [get?_apply] at later
      cases made : write.ticket? id with
      | none => simpa [ticketVersions, made] using later
      | some row =>
          have onward : (row :: ticketVersions id writes).IsChain R := by simpa [made] using later
          obtain ⟨rfl, rfl | rfl⟩ := ticket?_eq_some.mp made
          · have absent : db.tickets.get? row.id = none :=
              Option.map_eq_none_iff.mp (inserts _ _ ok)
            simpa [ticketVersions, made, absent] using onward
          · obtain ⟨before, found, related⟩ := updates _ _ ok
            have located : db.tickets.get? row.id = some before := get?_of_row found
            simpa [ticketVersions, made, located] using And.intro related onward

theorem head_versions (updates : ∀ old row, Ok old (.update (.ticket row)) → old ≠ none)
    (checked : Checked engine Database.row Ok db writes) (absent : db.tickets.get? id = none) :
    ∀ first ∈ (ticketVersions id writes).head?, .insert (.ticket first) ∈ writes := by
  induction writes generalizing db with
  | nil => simp
  | cons write writes ih =>
      obtain ⟨ok, rest⟩ := checked
      cases made : write.ticket? id with
      | none =>
          have still : (db.apply write).tickets.get? id = none := by
            rw [get?_apply, made, absent]
            rfl
          intro first head
          refine List.mem_cons_of_mem _ (ih rest still first ?_)
          simpa [ticketVersions, made] using head
      | some row =>
          intro first head
          have same : row = first := by simpa [ticketVersions, made] using head
          subst same
          obtain ⟨rfl, rfl | rfl⟩ := ticket?_eq_some.mp made
          · exact List.mem_cons_self
          · exact (updates _ _ ok
              (by simp [Write.lock, Row.lock, Database.row, engine, absent])).elim

end

theorem written_once_cases {Ok : Option Row → Write → Prop} {R : Ticket → Ticket → Prop}
    (inserts : ∀ old row, Ok old (.insert (.ticket row)) → old = none)
    (updates : ∀ old row, Ok old (.update (.ticket row)) →
      ∃ before, old = some (.ticket before) ∧ R before row)
    (checked : Checked engine Database.row Ok db writes)
    (once : (ticketVersions id writes).length ≤ 1)
    (found : (engine.applyAll db writes).tickets.get? id = some row) :
    db.tickets.get? id = some row ∨ .insert (.ticket row) ∈ writes ∨
      ∃ old, db.tickets.get? id = some old ∧ .update (.ticket row) ∈ writes ∧ R old row := by
  have chain : ((db.tickets.get? id).toList ++ ticketVersions id writes).IsChain R :=
    isChain_versions inserts updates checked
  rw [get?_applyAll] at found
  cases versions : ticketVersions id writes with
  | nil =>
      rw [versions, List.append_nil] at found
      cases there : db.tickets.get? id with
      | none => simp [there] at found
      | some old => exact .inl (by simpa [there] using found)
  | cons first rest =>
      obtain rfl : rest = [] := by
        rw [versions] at once
        exact List.length_eq_zero_iff.mp (Nat.le_zero.mp (Nat.le_of_succ_le_succ once))
      obtain rfl : first = row := by simpa [versions, List.getLast?_append] using found
      have member : first ∈ ticketVersions id writes := by simp [versions]
      obtain ⟨_, inserted | updated⟩ := mem_ticketVersions.mp member
      · exact .inr (.inl inserted)
      · cases there : db.tickets.get? id with
        | none =>
            refine .inr (.inl (head_versions ?_ checked there first (by simp [versions])))
            intro old row ok
            obtain ⟨before, rfl, _⟩ := updates old row ok
            simp
        | some old => exact .inr (.inr ⟨old, rfl, updated, by simpa [there, versions] using chain⟩)

theorem createdAt_origin (checked : Checked engine Database.row Sound db writes)
    (found : (engine.applyAll db writes).tickets.get? id = some row) :
    (∃ old, db.tickets.get? id = some old ∧ old.createdAt = row.createdAt) ∨
      ∃ first, .insert (.ticket first) ∈ writes ∧ first.id = id ∧
        first.createdAt = row.createdAt := by
  induction writes generalizing db with
  | nil => exact .inl ⟨row, found, rfl⟩
  | cons write writes ih =>
      obtain ⟨sound, rest⟩ := checked
      rcases ih rest found with ⟨old, located, same⟩ | ⟨first, member, named, same⟩
      · have located : (db.apply write).tickets.get? id = some old := located
        rw [get?_apply] at located
        cases made : write.ticket? id with
        | none =>
            rw [made] at located
            exact .inl ⟨old, located, same⟩
        | some new =>
            rw [made] at located
            cases located
            obtain ⟨rfl, rfl | rfl⟩ := ticket?_eq_some.mp made
            · exact .inr ⟨old, List.mem_cons_self, rfl, same⟩
            · obtain ⟨before, met, becomes⟩ := sound
              exact .inl ⟨before, get?_of_row met, becomes.createdAt.symm.trans same⟩
      · exact .inr ⟨first, List.mem_cons_of_mem _ member, named, same⟩

theorem column_kept {γ : Type} {column : Ticket → γ}
    (unassigned : ∀ row new : Ticket, row.Becomes new → column new = column row)
    (checked : Checked engine Database.row Sound db writes)
    (found : db.tickets.get? id = some row) :
    ∃ new, (engine.applyAll db writes).tickets.get? id = some new ∧ column new = column row := by
  have kept : ∃ new, (engine.applyAll db writes).row (.ticket id) = some (.ticket new) ∧
      column new = column row := by
    refine checked_preserves engine_rowed
      (K := fun old => ∃ new, old = some (.ticket new) ∧ column new = column row) checked ?_
      ⟨row, row_ticket found, rfl⟩
    rintro write _ locked old ⟨before, rfl, same⟩ sound
    obtain ⟨new, _, rfl | rfl⟩ := ticket_of_lock locked
    · cases sound
    · obtain ⟨_, ⟨⟩, becomes⟩ := sound
      exact ⟨new, rfl, (unassigned _ _ becomes).trans same⟩
  obtain ⟨new, located, same⟩ := kept
  exact ⟨new, get?_of_row located, same⟩

/-! ## What every version keeps -/

def Keeps (K : Ticket → Prop) (old : Option Row) : Write → Prop
  | .insert (.ticket row) => K row
  | .update (.ticket new) => ∃ row, old = some (.ticket row) ∧ (K row → K new)
  | _ => True

theorem keeps_of_other {K : Ticket → Prop} (old : Option Row)
    (other : ∀ id, write.lock ≠ .ticket id) : Keeps K old write := by
  cases write with
  | insert row =>
      cases row with
      | ticket row => exact (other row.id rfl).elim
      | _ => trivial
  | update row =>
      cases row with
      | ticket row => exact (other row.id rfl).elim
      | _ => trivial
  | dropKey tenantId key => trivial

theorem kept_at_of_keeps {K : Ticket → Prop}
    (checked : Checked engine Database.row (Keeps K) db writes)
    (base : ∀ row, db.tickets.get? id = some row → K row) (ticket : Ticket)
    (found : (engine.applyAll db writes).tickets.get? id = some ticket) : K ticket := by
  have kept : ∀ row, (engine.applyAll db writes).row (.ticket id) = some (.ticket row) → K row := by
    refine checked_preserves engine_rowed
      (K := fun old => ∀ row, old = some (.ticket row) → K row) checked ?_
      fun row located => base row (get?_of_row located)
    intro write _ locked old before keeps
    obtain ⟨row, _, rfl | rfl⟩ := ticket_of_lock locked
    · rintro _ ⟨⟩
      exact keeps
    · obtain ⟨first, rfl, kept⟩ := keeps
      rintro _ ⟨⟩
      exact kept (before first rfl)
  exact kept ticket (row_ticket found)

theorem kept_of_keeps {K : Ticket → Prop}
    (checked : Checked engine Database.row (Keeps K) db writes)
    (base : ∀ ticket ∈ db.tickets.rows, K ticket) :
    ∀ ticket ∈ (engine.applyAll db writes).tickets.rows, K ticket :=
  fun ticket member => kept_at_of_keeps checked
    (fun row located => base row (Table.mem_of_get? located)) ticket (Table.get?_of_mem member)

/-! ## INSERTs only -/

section
variable (checked : Checked engine Database.row Sound db writes)
  (inserts : ∀ write ∈ writes, ∃ row, write = .insert row)
include checked inserts

theorem row_kept_of_inserts {lock : Lock} {stored : Row} (found : db.row lock = some stored) :
    (engine.applyAll db writes).row lock = some stored := by
  refine checked_preserves engine_rowed (K := fun old => old = some stored) checked ?_ found
  rintro write member _ old rfl sound
  obtain ⟨row, rfl⟩ := inserts write member
  cases sound

theorem row_inserted {stored : Row} (member : .insert stored ∈ writes) :
    db.row stored.lock = none ∧ (engine.applyAll db writes).row stored.lock = some stored := by
  induction writes generalizing db with
  | nil => cases member
  | cons write writes ih =>
      obtain ⟨sound, rest⟩ := checked
      have later : ∀ write ∈ writes, ∃ row, write = .insert row :=
        fun write member => inserts write (List.mem_cons_of_mem _ member)
      rcases List.mem_cons.mp member with rfl | member
      · refine ⟨sound, row_kept_of_inserts rest later ?_⟩
        exact (row_put db stored stored.lock).trans (if_pos rfl)
      · obtain ⟨absent, found⟩ := ih rest later member
        refine ⟨?_, found⟩
        obtain ⟨row, rfl⟩ := inserts write List.mem_cons_self
        have put : (engine.apply db (.insert row)).row stored.lock = _ := row_put db row stored.lock
        rw [put] at absent
        split at absent
        · cases absent
        · exact absent

theorem length_ticketVersions_inserts (id : UUID) : (ticketVersions id writes).length ≤ 1 := by
  have only : Checked engine Database.row (fun _ write => ∃ row, write = .insert row) db writes :=
    checked_all (fun write member _ => inserts write member) db
  have chain : ((db.tickets.get? id).toList ++ ticketVersions id writes).IsChain
      fun _ _ => False := by
    refine isChain_versions (fun _ _ ok => ok.1) ?_ (checked.and only)
    rintro _ _ ⟨_, row, impossible⟩
    cases impossible
  have alone := chain.right_of_append
  cases versions : ticketVersions id writes with
  | nil => exact Nat.zero_le 1
  | cons first rest =>
      rw [versions] at alone
      cases rest with
      | nil => exact Nat.le_refl 1
      | cons second rest => exact (List.isChain_cons_cons.mp alone).1.elim

end

/-! ## Events -/

def Write.event? (id : UUID) : Write → Option TicketEvent
  | .insert (.event row) => if row.ticketId = id then some row else none
  | _ => none

theorem event?_eq_some {event : TicketEvent} : write.event? id = some event ↔
    event.ticketId = id ∧ write = .insert (.event event) := by
  constructor
  · intro stored
    unfold Write.event? at stored
    split at stored
    · split at stored
      · cases stored
        exact ⟨by assumption, rfl⟩
      · cases stored
    · cases stored
  · rintro ⟨same, rfl⟩
    simp [Write.event?, same]

/-- The event type that a write to ticket `id` calls for. -/
def Write.loggedAs (id : UUID) : Write → Option EventType
  | .insert (.ticket row) => if row.id = id then some .created else none
  | .update (.ticket row) => if row.id = id then some (.ofStatus row.status) else none
  | _ => none

theorem loggedAs_eq_none {write : Write} (other : write.ticket? id = none) :
    write.loggedAs id = none := by
  unfold Write.ticket? at other
  unfold Write.loggedAs
  split <;> simp_all

theorem silent_of_isRecord {write : Write} (isRecord : write.lock.isRecord = true) :
    write.ticket? id = none ∧ write.event? id = none ∧ write.loggedAs id = none := by
  cases write with
  | insert row => cases row <;> first | exact ⟨rfl, rfl, rfl⟩ | cases isRecord
  | update row => cases row <;> first | exact ⟨rfl, rfl, rfl⟩ | cases isRecord
  | dropKey tenantId key => cases isRecord

theorem loggedAs_of_present (checked : Checked engine Database.row Sound db writes)
    {row : Ticket} (present : db.tickets.get? id = some row) :
    writes.filterMap (Write.loggedAs id) =
      (ticketVersions id writes).map fun row => .ofStatus row.status := by
  induction writes generalizing db row with
  | nil => rfl
  | cons write writes ih =>
      obtain ⟨sound, rest⟩ := checked
      have onward := get?_apply db write id
      cases made : write.ticket? id with
      | none =>
          rw [made, present] at onward
          simpa [ticketVersions, made, loggedAs_eq_none made] using ih rest onward
      | some new =>
          rw [made] at onward
          have later := ih rest onward
          obtain ⟨rfl, rfl | rfl⟩ := ticket?_eq_some.mp made
          · have absent : db.tickets.get? new.id = none := Option.map_eq_none_iff.mp sound
            rw [present] at absent
            cases absent
          · simpa [ticketVersions, made, Write.loggedAs] using later

theorem loggedAs_of_absent (checked : Checked engine Database.row Sound db writes)
    (absent : db.tickets.get? id = none) :
    writes.filterMap (Write.loggedAs id) = match ticketVersions id writes with
      | [] => []
      | _ :: later => .created :: later.map fun row => .ofStatus row.status := by
  induction writes generalizing db with
  | nil => rfl
  | cons write writes ih =>
      obtain ⟨sound, rest⟩ := checked
      have onward := get?_apply db write id
      cases made : write.ticket? id with
      | none =>
          rw [made, absent] at onward
          simpa [ticketVersions, made, loggedAs_eq_none made] using ih rest onward
      | some new =>
          rw [made] at onward
          have later := loggedAs_of_present rest onward
          obtain ⟨rfl, rfl | rfl⟩ := ticket?_eq_some.mp made
          · simpa [ticketVersions, made, Write.loggedAs] using later
          · obtain ⟨old, found, _⟩ := sound
            have located : db.tickets.get? new.id = some old := get?_of_row found
            rw [absent] at located
            cases located

theorem eventsOf_applyAll (checked : Checked engine Database.row Sound db writes) :
    (engine.applyAll db writes).eventsOf id =
      db.eventsOf id ++ writes.filterMap (Write.event? id) := by
  induction writes generalizing db with
  | nil => simp
  | cons write writes ih =>
      obtain ⟨sound, rest⟩ := checked
      have onward := ih rest
      rw [Engine.applyAll_cons, onward, List.filterMap_cons]
      have here : (engine.apply db write).eventsOf id =
          db.eventsOf id ++ (write.event? id).toList := by
        cases write with
        | insert row =>
            cases row with
            | event event =>
                have absent : db.ticketEvents.get? (Tables.key event) = none :=
                  Option.map_eq_none_iff.mp sound
                have rows := Table.rows_put_of_absent absent
                by_cases mine : event.ticketId = id <;>
                  simp [engine, Database.apply, Database.put, Database.eventsOf, rows,
                    Write.event?, mine]
            | _ => simp [engine, Database.apply, Database.put, Database.eventsOf, Write.event?]
        | update row =>
            cases row with
            | event event => exact sound.elim
            | _ => simp [engine, Database.apply, Database.put, Database.eventsOf, Write.event?]
        | dropKey tenantId key => simp [engine, Database.apply, Database.eventsOf, Write.event?]
      rw [here]
      cases write.event? id <;> simp

end QueueFlow.Data
