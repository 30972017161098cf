import QueueFlow.App.SignageService
import QueueFlow.Concurrency.Errors
import QueueFlow.Concurrency.QueueNumbers
import QueueFlow.Transactions.Readers

/-!
# Snapshots

A snapshot of a hall takes several statements, and each of them sees what is committed when it is
sent. It is that of one state if meanwhile nothing is committed that the display shows.
-/

namespace QueueFlow.Concurrency
open QueueFlow.App QueueFlow.Data QueueFlow.Tables QueueFlow.Transactions

/-! ## What a display shows -/

def ofSignage (locationId : UUID) : Stmt → Prop
  | .read (.latestWithStatus place _ _) | .read (.waitingCount place)
  | .read (.recentAverageWait place _) => place = locationId
  | .read (.services _) | .read (.counters _) => True
  | _ => False

theorem shownTickets_sends (locationId : UUID) (status : TicketStatus) (limit : Nat) :
    (shownTickets locationId status limit).Sends (ofSignage locationId) :=
  ⟨rfl, fun _ => ⟨trivial, fun _ => ⟨trivial, fun _ => trivial⟩⟩⟩

theorem getSnapshot_sends (locationId : UUID) (locationName : String) :
    (getSnapshot locationId locationName).Sends (ofSignage locationId) := by
  refine sends_bind ?_ fun data _ => trivial
  refine sends_bind (fun _ => trivial) fun twoHoursAgo => ?_
  refine sends_bind (shownTickets_sends _ _ _) fun inService => ?_
  refine sends_bind (shownTickets_sends _ _ _) fun recentlyCalled => ?_
  exact ⟨rfl, fun _ => ⟨rfl, fun _ => trivial⟩⟩

structure SameShown (locationId : UUID) (db after : Database) : Prop where
  tickets : after.tickets.rows.filter (fun ticket => ticket.locationId = locationId) =
    db.tickets.rows.filter fun ticket => ticket.locationId = locationId
  services : after.services = db.services
  counters : after.counters = db.counters

variable {locationId : UUID} {db after : Database}

theorem SameShown.filter (same : SameShown locationId db after) (p : Ticket → Prop)
    [DecidablePred p] :
    (after.tickets.rows.filter fun ticket => ticket.locationId = locationId ∧ p ticket) =
      db.tickets.rows.filter fun ticket => ticket.locationId = locationId ∧ p ticket := by
  have filters := congrArg (List.filter fun ticket => p ticket) same.tickets
  simpa only [List.filter_filter, Bool.decide_and, Bool.and_comm] using filters

theorem SameShown.answers (same : SameShown locationId db after) :
    SameAnswers engine (ofSignage locationId) after db := by
  intro stmt shown now
  cases stmt with
  | read q =>
      have answer : q.eval after now.order = q.eval db now.order := by
        cases q with
        | latestWithStatus place status limit =>
            obtain rfl : place = locationId := shown
            simp only [Query.eval, Database.latestWithStatus, same.filter]
        | waitingCount place =>
            obtain rfl : place = locationId := shown
            simp only [Query.eval, Database.waitingCount, same.filter]
        | recentAverageWait place since =>
            obtain rfl : place = locationId := shown
            simp only [Query.eval, Database.recentAverageWait, same.filter]
        | services ids => simp only [Query.eval, same.services]
        | counters ids => simp only [Query.eval, same.counters]
        | _ => exact shown.elim
      simp only [engine, Stmt.exec, answer]
  | _ => exact shown.elim

/-! ## Writes elsewhere -/

def ShownAt (db : Database) (locationId : UUID) : Row → Prop
  | .ticket row => row.locationId = locationId ∨
      ∃ old ∈ db.tickets.get? row.id, old.locationId = locationId
  | .service _ | .counter _ => True
  | _ => False

instance (db : Database) (locationId : UUID) (row : Row) :
    Decidable (ShownAt db locationId row) := by
  cases row with
  | ticket row => exact inferInstanceAs (Decidable (_ ∨ ∃ old ∈ db.tickets.get? row.id, _))
  | service | counter => exact isTrue trivial
  | _ => exact isFalse id

theorem SameShown.refl : SameShown locationId db db := ⟨rfl, rfl, rfl⟩

theorem SameShown.put {row : Row} (same : SameShown locationId db after)
    (elsewhere : ¬ ShownAt after locationId row) : SameShown locationId db (after.put row) := by
  cases row with
  | ticket row =>
      obtain ⟨new, old⟩ := not_or.mp elsewhere
      refine ⟨Eq.trans ?_ same.tickets, same.services, same.counters⟩
      refine Table.filter_put (by simpa using new) fun before found => ?_
      exact decide_eq_false fun here => old ⟨before, found, here⟩
  | service row => exact (elsewhere trivial).elim
  | counter row => exact (elsewhere trivial).elim
  | _ => exact ⟨same.tickets, same.services, same.counters⟩

theorem shownAt_put {row other : Row} (elsewhere : ¬ ShownAt db locationId row)
    (shown : ShownAt (db.put row) locationId other) : ShownAt db locationId other := by
  cases other with
  | ticket other =>
      refine shown.imp_right fun ⟨old, found, here⟩ => ?_
      have written := row_put db row (.ticket other.id)
      rw [row_ticket found] at written
      split at written
      · cases written
        exact (elsewhere (.inl here)).elim
      · exact ⟨old, get?_of_row written.symm, here⟩
  | _ => exact shown

theorem SameShown.applyAll {writes : List Write} (same : SameShown locationId db after)
    (elsewhere : ∀ write ∈ writes, ∀ row ∈ write.value, ¬ ShownAt after locationId row) :
    SameShown locationId db (engine.applyAll after writes) := by
  induction writes generalizing after with
  | nil => exact same
  | cons write writes ih =>
      have now := elsewhere write List.mem_cons_self
      have later := fun other member => elsewhere other (List.mem_cons_of_mem _ member)
      have put {row : Row} (hidden : ¬ ShownAt after locationId row) :
          SameShown locationId db (engine.applyAll (after.put row) writes) :=
        ih (same.put hidden) fun other member row written shown =>
          later other member row written (shownAt_put hidden shown)
      cases write with
      | insert row => exact put (now row rfl)
      | update row => exact put (now row rfl)
      | dropKey tenantId key => exact ih ⟨same.tickets, same.services, same.counters⟩ later

/-! ## What a snapshot is made of -/

section
variable {α : Type} {P : Database → Prop} {times : List Env} {value : α}

theorem seen_observe {next : Env → Handler α}
    (looks : LooksAt engine P (Program.observe.bind next) times (.ret value)) :
    ∃ now later, LooksAt engine P (next now) later (.ret value) := by
  rcases looks.front with impossible | ⟨store, now, later, program, _, here, onward⟩
  · cases impossible
  · cases here
    exact ⟨now, later, onward⟩

theorem seen_query {q : Query} {next : q.Res → Handler α}
    (looks : LooksAt engine P ((query q).bind next) times (.ret value)) :
    ∃ (store : Database) (now : Env) (later : List Env), P store ∧
      LooksAt engine P (next (q.eval store now.order)) later (.ret value) := by
  rcases looks.front with impossible | ⟨store, now, later, program, holds, here, onward⟩
  · cases impossible
  · refine ⟨store, now, later, holds, ?_⟩
    cases fault : q.fault with
    | none =>
        have answered : look engine store now ((query q).bind next) =
            some (next (q.eval store now.order)) := by
          simp [look, query, engine, Stmt.exec, fault]
        cases answered.symm.trans here
        exact onward
    | some error => simp [look, query, engine, Stmt.exec, fault] at here

theorem seen_ret {result : α}
    (looks : LooksAt engine P (.ret result : Handler α) times (.ret value)) :
    result = value := by
  rcases looks.front with same | ⟨_, _, _, _, _, impossible, _⟩
  · cases same
    rfl
  · cases impossible

theorem mem_latestWithStatus {order : UUID → Nat} {status : TicketStatus} {limit : Nat}
    {ticket : Ticket} (selected : ticket ∈ db.latestWithStatus order locationId status limit) :
    ticket ∈ db.tickets.rows ∧ ticket.locationId = locationId ∧ ticket.status = status := by
  obtain ⟨there, passes⟩ := List.mem_filter.mp
    ((List.mem_insertionSort _).mp (List.mem_of_mem_take selected))
  exact ⟨there, of_decide_eq_true passes⟩

theorem seen_shownTickets {status : TicketStatus} {limit : Nat}
    {next : List SignageTicketEntry → Handler α}
    (looks : LooksAt engine P ((shownTickets locationId status limit).bind next) times
      (.ret value)) :
    ∃ entries later, LooksAt engine P (next entries) later (.ret value) ∧
      ∀ entry ∈ entries, ∃ db after counters, P db ∧ P after ∧ ∃ ticket ∈ db.tickets.rows,
        ticket.status = status ∧ ∃ ids : List UUID, (∀ id ∈ ticket.serviceId, id ∈ ids) ∧
          entry = toEntry (after.services.rows.filter fun service => service.id ∈ ids) counters
            ticket := by
  simp only [shownTickets, Program.bind_eq, Program.pure_eq, Program.bind_assoc,
    Program.ret_bind] at looks
  obtain ⟨db, now, _, holds, looks⟩ := seen_query looks
  obtain ⟨after, _, _, holdsAfter, looks⟩ := seen_query looks
  obtain ⟨_, _, _, _, looks⟩ := seen_query looks
  refine ⟨_, _, looks, fun entry listed => ?_⟩
  obtain ⟨ticket, selected, rfl⟩ := List.mem_map.mp listed
  obtain ⟨there, _, status⟩ := mem_latestWithStatus selected
  exact ⟨db, after, _, holds, holdsAfter, ticket, there, status, _,
    fun id refers => List.mem_filterMap.mpr ⟨ticket, selected, refers⟩, rfl⟩

theorem seen_getSnapshot {locationName : String} {snapshot : SignageSnapshot}
    (looks : LooksAt engine P (getSnapshot locationId locationName) times (.ret snapshot)) :
    ∀ status entries, (status = .inService ∧ entries = snapshot.nowServing) ∨
        (status = .called ∧ entries = snapshot.recentlyCalled) →
      ∀ entry ∈ entries, ∃ db after counters, P db ∧ P after ∧ ∃ ticket ∈ db.tickets.rows,
        ticket.status = status ∧ ∃ ids : List UUID, (∀ id ∈ ticket.serviceId, id ∈ ids) ∧
          entry = toEntry (after.services.rows.filter fun service => service.id ∈ ids) counters
            ticket := by
  simp only [getSnapshot, signageSnapshot, Program.map_eq, Program.bind_eq, Program.pure_eq,
    Program.bind_assoc, Program.ret_bind] at looks
  obtain ⟨_, _, looks⟩ := seen_observe looks
  obtain ⟨inService, _, looks, serving⟩ := seen_shownTickets looks
  obtain ⟨recentlyCalled, _, looks, called⟩ := seen_shownTickets looks
  obtain ⟨_, _, _, _, looks⟩ := seen_query looks
  obtain ⟨_, _, _, _, looks⟩ := seen_query looks
  obtain ⟨_, later, looks⟩ := seen_observe looks
  obtain rfl := seen_ret looks
  rintro status entries (⟨rfl, rfl⟩ | ⟨rfl, rfl⟩)
  · exact serving
  · exact called

end

/-! ## The run -/

section
variable {ι : Type} [DecidableEq ι] {env : Nat → Env} {start v w : AppWorld ι}

/-- If the session commits now, then nothing that a display at the location shows. -/
def LeavesDisplay (locationId : UUID) (w : AppWorld ι) (i : ι) : Prop :=
  (w.session i).isCommitting = true → ∀ write ∈ (w.state.tx i).writes, ∀ row ∈ write.value,
    ¬ ShownAt w.state.store locationId row

instance (locationId : UUID) (w : AppWorld ι) (i : ι) : Decidable (LeavesDisplay locationId w i) :=
  inferInstanceAs (Decidable (_ = true → ∀ write ∈ _, ∀ row ∈ Write.value write, _))

theorem sameShown_of_reaches (reach : Reaches engine env (LeavesDisplay locationId) start w) :
    SameShown locationId start.state.store w.state.store := by
  refine reach.moves
    (motive := fun w => SameShown locationId start.state.store w.state.store) .refl ?_
  intro w i program next state _ same running moved meets
  cases moved with
  | committed rest =>
      refine same.applyAll fun write member => meets (by simp) ?_ write member
      rw [running]
      rfl
  | _ => exact same

/-- A snapshot that no commit disturbs is that of each state it has run through. -/
theorem snapshot_point_in_time {locationName : String} {times : List Env}
    {snapshot : SignageSnapshot}
    (beside :
      Beside engine env (LeavesDisplay locationId) (getSnapshot locationId locationName) start
      w times (.ret snapshot))
    (between : Reaches engine env (LeavesDisplay locationId) start v) :
    lookAll engine v.state.store times (getSnapshot locationId locationName) =
      some (.ret snapshot) := by
  refine beside.looksAt.lookAll (getSnapshot_sends _ _) fun store ⟨u, reach, _, here⟩ => ?_
  subst here
  exact (sameShown_of_reaches reach).answers.trans fun stmt shown now =>
    ((sameShown_of_reaches between).answers stmt shown now).symm

end

/-! ## A snapshot in two parts -/

def answerOf {α : Type} : Handler α → Option α
  | .ret value => some value
  | _ => none

theorem answerOf_eq_some {α : Type} {program : Handler α} {value : α} :
    answerOf program = some value ↔ program = .ret value := by
  cases program <;> simp [answerOf]

/-- Four steps of a reader in the hall, a run, and the six other steps. -/
def brokenSnapshot (start w : AppWorld Nat) : Option SignageSnapshot :=
  ((lookAll engine start.state.store (List.replicate 4 (steadyEnv 0))
    (getSnapshot 10 "Hall")).bind
      (lookAll engine w.state.store (List.replicate 6 (steadyEnv 0)))).bind answerOf

theorem brokenSnapshot_parts {start w : AppWorld Nat} {snapshot : SignageSnapshot}
    (looked : brokenSnapshot start w = some snapshot) :
    ∃ rest, lookAll engine start.state.store (List.replicate 4 (steadyEnv 0))
        (getSnapshot 10 "Hall") = some rest ∧
      lookAll engine w.state.store (List.replicate 6 (steadyEnv 0)) rest =
        some (.ret snapshot) := by
  obtain ⟨program, looked, answered⟩ := Option.bind_eq_some_iff.mp looked
  obtain rfl := answerOf_eq_some.mp answered
  exact Option.bind_eq_some_iff.mp looked

theorem beside_brokenSnapshot {ok : AppWorld Nat → Nat → Prop} {start w : AppWorld Nat}
    {snapshot : SignageSnapshot} (reach : Reaches engine steadyEnv ok start w)
    (looked : brokenSnapshot start w = some snapshot) :
    Beside engine steadyEnv ok (getSnapshot 10 "Hall") start w
      (List.replicate 4 (steadyEnv 0) ++ List.replicate 6 (steadyEnv 0)) (.ret snapshot) := by
  obtain ⟨rest, first, last⟩ := brokenSnapshot_parts looked
  have begun : Beside engine steadyEnv ok (getSnapshot 10 "Hall") start start
    (List.replicate 4 (steadyEnv 0)) rest := Beside.start.lookAll first
  exact (begun.run reach).lookAll last

/-- The hall has a ticket, and the annex gets one during the snapshot. -/
def annexStart : AppWorld Nat :=
  (initial textDigest (moves none) twoHalls).after engine steadyEnv (runs 0)

def annexWorld : AppWorld Nat := annexStart.after engine steadyEnv (runs 1)

theorem snapshot_point_in_time_annex : ∃ snapshot,
    lookAll engine annexStart.state.store
      (List.replicate 4 (steadyEnv 0) ++ List.replicate 6 (steadyEnv 0)) (getSnapshot 10 "Hall") =
        some (.ret snapshot) := by
  obtain ⟨snapshot, looked⟩ : ∃ snapshot, brokenSnapshot annexStart annexWorld = some snapshot :=
    Option.isSome_iff_exists.mp (by decide +kernel)
  have elsewhere : Reaches engine steadyEnv (LeavesDisplay 10) annexStart annexWorld :=
    reaches_after (by decide +kernel)
  exact ⟨snapshot, snapshot_point_in_time (beside_brokenSnapshot elsewhere looked) .refl⟩

def servedWorld (n : Nat) : AppWorld Nat :=
  sentBackStart.after engine steadyEnv ((runs 0).take n)

/-- The ticket is at the desk in each state of the run, and each of them has it in its snapshot, but
the display shows it nowhere. -/
theorem ticket_shown_nowhere : ∃ snapshot,
    Beside engine steadyEnv (fun _ _ => True) (getSnapshot 10 "Hall") sentBackStart (servedWorld 20)
      (List.replicate 4 (steadyEnv 0) ++ List.replicate 6 (steadyEnv 0)) (.ret snapshot) ∧
    snapshot.nowServing = [] ∧ snapshot.recentlyCalled = [] ∧ ∀ n,
      ((servedWorld n).state.store.tickets.get? 2).map Ticket.status ∈
        [some .called, some .inService] ∧
      lookAll engine (servedWorld n).state.store
        (List.replicate 4 (steadyEnv 0) ++ List.replicate 6 (steadyEnv 0))
        (getSnapshot 10 "Hall") ≠ some (.ret snapshot) := by
  have lists : (brokenSnapshot sentBackStart (servedWorld 20)).map
      (fun snapshot => (snapshot.nowServing, snapshot.recentlyCalled)) = some ([], []) := by
    decide +kernel
  obtain ⟨snapshot, looked, empty⟩ := Option.map_eq_some_iff.mp lists
  obtain ⟨serving, called⟩ := Prod.mk.inj empty
  refine ⟨snapshot, beside_brokenSnapshot (reachable_after _) looked, serving, called, fun n => ?_⟩
  have within : ∀ k ≤ 20, ((servedWorld k).state.store.tickets.get? 2).map Ticket.status ∈
        [some .called, some .inService] ∧
      ((lookAll engine (servedWorld k).state.store
        (List.replicate 4 (steadyEnv 0) ++ List.replicate 6 (steadyEnv 0))
        (getSnapshot 10 "Hall")).bind answerOf).map
          (fun snapshot => (snapshot.nowServing, snapshot.recentlyCalled)) ≠ some ([], []) := by
    decide +kernel
  have same : servedWorld n = servedWorld (min n 20) := by
    rw [servedWorld, List.take_eq_take_min]
    rfl
  rw [same]
  obtain ⟨there, differs⟩ := within (min n 20) (Nat.min_le_right n 20)
  refine ⟨there, fun single => differs ?_⟩
  rw [single]
  exact congrArg some empty

end QueueFlow.Concurrency
