import QueueFlow.Concurrency.Setting

/-!
# What is kept

Nothing that is committed goes away, but for idempotency keys. Events and audit entries stay as they
are and in their order; a ticket keeps what it was created with and every milestone, and an
interaction is closed once.
-/

namespace QueueFlow.Concurrency
open QueueFlow.App QueueFlow.Data QueueFlow.Tables QueueFlow.Transactions

/-! ## Later versions of a row -/

structure KeepsTicket (row new : Ticket) : Prop where
  id : new.id = row.id
  tenantId : new.tenantId = row.tenantId
  channelId : new.channelId = row.channelId
  number : new.number = row.number
  priority : new.priority = row.priority
  notes : new.notes = row.notes
  createdAt : new.createdAt = row.createdAt
  serviceId : row.serviceId.isSome → new.serviceId.isSome
  calledAt : row.calledAt.isSome → new.calledAt.isSome
  serviceStartedAt : row.serviceStartedAt.isSome → new.serviceStartedAt.isSome
  completedAt : row.completedAt.isSome → new.completedAt.isSome

/-- An open interaction may be closed; a closed one stays as it is. -/
def KeepsInteraction (row new : Interaction) : Prop :=
  new = row ∨ (row.endedAt = none ∧ ∃ endedAt outcome,
    new = { row with endedAt := some endedAt, outcome := some outcome })

/-- A record keeps its place; what is not updated at all stays as it is. -/
def Retains : Row → Row → Prop
  | .ticket row, .ticket new => KeepsTicket row new
  | .interaction row, .interaction new => KeepsInteraction row new
  | .tenant row, .tenant new => new.id = row.id ∧ new.slug = row.slug
  | .location row, .location new => new.id = row.id ∧ new.tenantId = row.tenantId
  | .service row, .service new =>
      new.id = row.id ∧ new.tenantId = row.tenantId ∧ new.locationId = row.locationId
  | .counter row, .counter new => new.id = row.id ∧ new.locationId = row.locationId
  | row, new => new = row

/-- A write puts a row where there was none, or a later version where there was one. -/
def Keeping (old : Option Row) : Write → Prop
  | .insert _ => old = none
  | .update (.event _) | .update (.audit _) => False
  | .update new => ∃ row, old = some row ∧ Retains row new
  | .dropKey _ _ => True

section
variable {db : Database} {write : Write} {writes : List Write} {row new : Row}

theorem keeps_refl (row : Row) : Retains row row := by
  cases row with
  | ticket row => exact ⟨rfl, rfl, rfl, rfl, rfl, rfl, rfl, id, id, id, id⟩
  | interaction row => exact .inl rfl
  | tenant row | location row | counter row => exact ⟨rfl, rfl⟩
  | service row => exact ⟨rfl, rfl, rfl⟩
  | _ => rfl

theorem KeepsTicket.trans {first second third : Ticket} (here : KeepsTicket first second)
    (later : KeepsTicket second third) : KeepsTicket first third where
  id := later.id.trans here.id
  tenantId := later.tenantId.trans here.tenantId
  channelId := later.channelId.trans here.channelId
  number := later.number.trans here.number
  priority := later.priority.trans here.priority
  notes := later.notes.trans here.notes
  createdAt := later.createdAt.trans here.createdAt
  serviceId := later.serviceId ∘ here.serviceId
  calledAt := later.calledAt ∘ here.calledAt
  serviceStartedAt := later.serviceStartedAt ∘ here.serviceStartedAt
  completedAt := later.completedAt ∘ here.completedAt

theorem keepsTicket_apply (set : TicketUpdate) (now : Time) (row : Ticket) :
    KeepsTicket row (set.apply now row) := by
  refine ⟨rfl, rfl, rfl, rfl, rfl, rfl, rfl, ?_, ?_, ?_, ?_⟩ <;>
    simp +contextual [TicketUpdate.apply]

theorem KeepsInteraction.trans {first second third : Interaction}
    (here : KeepsInteraction first second) (later : KeepsInteraction second third) :
    KeepsInteraction first third := by
  rcases here with rfl | ⟨opened, endedAt, outcome, rfl⟩
  · exact later
  · rcases later with rfl | ⟨impossible, _⟩
    · exact .inr ⟨opened, endedAt, outcome, rfl⟩
    · cases impossible

theorem keeps_trans {first second third : Row} (here : Retains first second)
    (later : Retains second third) : Retains first third := by
  cases first with
  | ticket row =>
      cases second with
      | ticket =>
          cases third with
          | ticket => exact KeepsTicket.trans here later
          | _ => cases later
      | _ => cases here
  | interaction row =>
      cases second with
      | interaction =>
          cases third with
          | interaction => exact KeepsInteraction.trans here later
          | _ => cases later
      | _ => cases here
  | tenant row | location row | counter row | service row =>
      cases second <;> cases third <;> simp_all [Retains]
  | _ =>
      cases here
      exact later

/-! ## Statements -/

theorem keeping_plain (plain : ∀ write ∈ writes, ∀ new, write ≠ .update new)
    (sound : Checked engine Database.row Sound db writes) :
    Checked engine Database.row Keeping db writes := by
  induction writes generalizing db with
  | nil => trivial
  | cons write writes ih =>
      refine ⟨?_, ih (fun later member => plain later (List.mem_cons_of_mem _ member)) sound.2⟩
      have here := sound.1
      cases write with
      | insert row => exact here
      | update new => exact (plain _ List.mem_cons_self new rfl).elim
      | dropKey => trivial

theorem keeping_closed {endedAt : Time} {outcome : String} (rows : List Interaction)
    (distinct : (rows.map Interaction.id).Nodup)
    (listed : ∀ row ∈ rows, row.endedAt = none ∧
      db.row (.interaction row.id) = some (.interaction row)) :
    Checked engine Database.row Keeping db (rows.map fun row => .update (.interaction
      { row with endedAt := some endedAt, outcome := some outcome })) := by
  induction rows generalizing db with
  | nil => trivial
  | cons row rows ih =>
      rw [List.map_cons, List.nodup_cons] at distinct
      obtain ⟨opened, found⟩ := listed row List.mem_cons_self
      refine ⟨⟨_, found, .inr ⟨opened, _, _, rfl⟩⟩, ih distinct.2 fun other member => ?_⟩
      obtain ⟨opened, found⟩ := listed other (List.mem_cons_of_mem _ member)
      refine ⟨opened, ?_⟩
      rw [show engine.apply = Database.apply from rfl, row_apply, if_neg]
      · exact found
      · intro same
        have same : row.id = other.id := Lock.interaction.inj same
        exact distinct.1 (same ▸ List.mem_map_of_mem member)

theorem keeping_record {update : RecordUpdate} (found : update.row db = some new) :
    Keeping (db.row new.lock) (.update new) := by
  rw [key_of_updateRow found]
  cases update with
  | tenant id set =>
      obtain ⟨row, located, rfl⟩ := Option.map_eq_some_iff.mp found
      exact ⟨.tenant row, by simp [RecordUpdate.lock, Database.row, located], rfl, rfl⟩
  | location id set =>
      obtain ⟨row, located, rfl⟩ := Option.map_eq_some_iff.mp found
      exact ⟨.location row, by simp [RecordUpdate.lock, Database.row, located], rfl, rfl⟩
  | service id set =>
      obtain ⟨row, located, rfl⟩ := Option.map_eq_some_iff.mp found
      exact ⟨.service row, by simp [RecordUpdate.lock, Database.row, located], rfl, rfl, rfl⟩
  | counter id set =>
      obtain ⟨row, located, rfl⟩ := Option.map_eq_some_iff.mp found
      exact ⟨.counter row, by simp [RecordUpdate.lock, Database.row, located], rfl, rfl⟩

theorem keeping_apply {id : UUID} {row : Ticket} (set : TicketUpdate) (now : Time)
    (found : db.tickets.get? id = some row) :
    Checked engine Database.row Keeping db [.update (.ticket (set.apply now row))] := by
  have key : row.id = id := Table.key_of_get? found
  refine checked_single ⟨.ticket row, ?_, keepsTicket_apply set now row⟩
  rw [show (Write.update (.ticket (set.apply now row))).lock = .ticket id from
    congrArg Lock.ticket key]
  exact row_ticket found

theorem keeping_exec {stmt : Stmt} {context : Context Database Lock Env} {value : stmt.Res}
    {locks : List Lock} (proper : stmt.Proper)
    (exec : stmt.exec context = .done value writes locks) :
    Checked engine Database.row Keeping context.view writes := by
  cases stmt with
  | read q =>
      obtain ⟨_, rfl, _⟩ := exec_read exec
      trivial
  | callTicket id locationId serviceId counterId =>
      rcases exec_callTicket exec with ⟨_, rfl, _⟩ | ⟨row, _, found, _, _, _, rfl⟩
      · trivial
      · exact keeping_apply _ _ found
  | write command =>
      cases command with
      | updateTicket id set =>
          obtain ⟨row, found, _, rfl, rfl⟩ := run_updateTicket (exec_write exec).1
          exact keeping_apply _ _ found
      | closeInteractions ticketId endedAt outcome =>
          obtain ⟨ran, _⟩ := exec_write exec
          cases ran
          refine keeping_closed _ (context.view.interactions.distinct.sublist
            (List.filter_sublist.map _)) fun row member => ?_
          obtain ⟨stored, _, opened⟩ : row ∈ context.view.interactions.rows ∧
              row.ticketId = ticketId ∧ row.endedAt = none := by
            simpa [Database.openInteractions] using member
          have found : context.view.interactions.get? row.id = some row := Table.get?_of_mem stored
          exact ⟨opened, by simp [Database.row, found]⟩
      | updateRecord update =>
          obtain ⟨found, rfl⟩ := run_updateRecord (exec_write exec).1
          exact checked_single (keeping_record found)
      | _ =>
          refine keeping_plain (fun write member new same => ?_) (checked_exec proper exec)
          subst same
          cases makes_of_exec exec member

/-! ## Logs -/

theorem put_extends {α : Type} [Keyed α UUID] {table : Table α} {row : α}
    (absent : table.get? (key row) = none) : table.rows <+: (table.put row).rows := by
  rw [Table.rows_put_of_absent absent]
  exact List.prefix_append _ _

theorem logs_apply (keeping : Keeping (db.row write.lock) write) :
    db.ticketEvents.rows <+: (db.apply write).ticketEvents.rows ∧
      db.auditLog.rows <+: (db.apply write).auditLog.rows := by
  cases write with
  | insert row =>
      cases row with
      | event row =>
          have absent : db.ticketEvents.get? row.id = none := by
            simpa [Keeping, Write.lock, Row.lock, Database.row] using keeping
          exact ⟨put_extends absent, List.prefix_rfl⟩
      | audit row =>
          have absent : db.auditLog.get? row.id = none := by
            simpa [Keeping, Write.lock, Row.lock, Database.row] using keeping
          exact ⟨List.prefix_rfl, put_extends absent⟩
      | _ => exact ⟨List.prefix_rfl, List.prefix_rfl⟩
  | update row =>
      cases row with
      | event row | audit row => exact keeping.elim
      | _ => exact ⟨List.prefix_rfl, List.prefix_rfl⟩
  | dropKey => exact ⟨List.prefix_rfl, List.prefix_rfl⟩

theorem logs_applyAll (checked : Checked engine Database.row Keeping db writes) :
    db.ticketEvents.rows <+: (engine.applyAll db writes).ticketEvents.rows ∧
      db.auditLog.rows <+: (engine.applyAll db writes).auditLog.rows := by
  induction writes generalizing db with
  | nil => exact ⟨List.prefix_rfl, List.prefix_rfl⟩
  | cons write writes ih =>
      obtain ⟨events, audit⟩ := logs_apply checked.1
      obtain ⟨later, after⟩ := ih checked.2
      exact ⟨events.trans later, audit.trans after⟩

theorem row_kept {lock : Lock} (stays : ∀ tenantId key, lock ≠ .idempotencyKey tenantId key)
    (checked : Checked engine Database.row Keeping db writes) (found : db.row lock = some row) :
    ∃ later, (engine.applyAll db writes).row lock = some later ∧ Retains row later := by
  refine checked_preserves engine_rowed (K := fun old => ∃ later, old = some later ∧
    Retains row later) checked ?_ ⟨row, found, keeps_refl row⟩
  rintro write _ locked old ⟨before, rfl, sofar⟩ keeping
  cases write with
  | insert => cases keeping
  | update new =>
      have replaced : ∃ row, some before = some row ∧ Retains row new := by
        cases new with
        | event | audit => exact keeping.elim
        | _ => exact keeping
      obtain ⟨_, ⟨⟩, keeps⟩ := replaced
      exact ⟨new, rfl, keeps_trans sofar keeps⟩
  | dropKey tenantId key => exact (stays tenantId key locked.symm).elim

end

/-! ## Runs -/

structure Kept (old new : Database) : Prop where
  rows : ∀ lock row, (∀ tenantId key, lock ≠ .idempotencyKey tenantId key) →
    old.row lock = some row → ∃ later, new.row lock = some later ∧ Retains row later
  events : old.ticketEvents.rows <+: new.ticketEvents.rows
  audit : old.auditLog.rows <+: new.auditLog.rows

section
variable {ι : Type} [DecidableEq ι] {hexdigest : PyDict → String} {env : Nat → Env}
  {requests : ι → Request} {db : Database} {ok : AppWorld ι → ι → Prop} {w : AppWorld ι}

theorem reaches_keeping (reach : Reaches engine env ok (initial hexdigest requests db) w) :
    Serial engine Database.row Keeping db w.state := by
  refine reach.serial engine_rowed fun v i _ _ _ _ _ before _ running exec => ?_
  have follows := (reaches_conduct before).2 i
  rw [running] at follows
  exact keeping_exec (proper_of_allows (follows _ _ _ _ exec).1) exec

/-- Whatever requests run and however they are interleaved, what is committed is kept. -/
theorem nothing_lost (reach : Reaches engine env ok (initial hexdigest requests db) w) {n m : Nat}
    (ordered : n ≤ m) :
    Kept (storeAt engine db (w.state.log.take n)) (storeAt engine db (w.state.log.take m)) := by
  have checked := (reaches_keeping reach).checked_stretch ordered
  rw [storeAt_stretch ordered]
  exact ⟨fun _ _ stays found => row_kept stays checked found, (logs_applyAll checked).1,
    (logs_applyAll checked).2⟩

end

theorem nothing_lost_rounds : Kept
    (storeAt engine (office .empty) (roundsWorld.state.log.take 12)) roundsWorld.state.store := by
  have onward : 12 ≤ roundsWorld.state.log.length := by decide +kernel
  have kept := nothing_lost rounds_reachable onward
  rwa [List.take_length, ← (reaches_provenance rounds_reachable).replay] at kept

end QueueFlow.Concurrency
