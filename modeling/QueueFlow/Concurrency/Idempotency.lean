import QueueFlow.Concurrency.Setting
import QueueFlow.Conduct.Shapes
import QueueFlow.Data.History
import Mathlib.Data.Fintype.Basic

/-!
# Requests with one idempotency key

The lookup of a key, the commit of the effect and the commit of the key's record are three separate
steps. The key works as long as every request looks it up after the record of whoever came before.
-/

namespace QueueFlow.Concurrency
open QueueFlow.App QueueFlow.Data QueueFlow.Tables QueueFlow.Transactions

variable {ι : Type} [DecidableEq ι] {hexdigest : PyDict → String} {env : Nat → Env}
  {requests : ι → Request} {db : Database} {w : AppWorld ι} {tenantId : UUID} {key : String}

/-- All requests are of one kind, with the same tenant, key, path and body. -/
inductive Repeats (requests : ι → Request) (db : Database) (tenantId : UUID) (key : String) : Prop
  | createTicket (data : TicketCreate)
      (same : ∀ i, ∃ actor, requests i = .createTicket data actor (some key) ∧
        actor.tenantId.parse = some tenantId)
  | kioskCreateTicket (body : KioskTicketCreate)
      (same : ∀ i, requests i = .kioskCreateTicket body (some key))
      (tenant : ∀ loc ∈ db.locations.get? body.locationId, loc.tenantId = tenantId)
  | callNext (counterId : UUID) (body : CallNextBody)
      (same : ∀ i, ∃ actor, requests i = .callNext counterId body actor (some key) ∧
        actor.tenantId.parse = some tenantId)

/-! ## What the log shows of a key -/

def isEffect : Write → Bool
  | .insert (.ticket _) => true
  | .update (.ticket row) => row.status = .called
  | _ => false

def effects (log : List (Entry ι)) : List Write := (committedWrites log).filter isEffect

def isRecordOf (i : ι) (entry : Entry ι) : Bool :=
  entry.owner = i && entry.writes.any fun write => match write with
    | .insert (.idempotencyKey _) => true
    | _ => false

def isLookupOf (i : ι) (entry : Entry ι) : Bool :=
  entry.owner = i && match entry.action with
    | .performed (.read (.idempotencyKey _ _ _)) _ _ => true
    | _ => false

def beforeLookup (i : ι) (log : List (Entry ι)) : List (Entry ι) :=
  log.takeWhile fun entry => !isLookupOf i entry

/-- If session `j` is about to commit an effect, then each request that has committed one had
stored the key before `j` looked it up. -/
def LooksUpAfterStored (w : AppWorld ι) (j : ι) : Prop :=
  match w.session j with
  | .running (.commits _) => (w.state.tx j).writes.any isEffect = true →
      ∀ i, i ≠ j → (∃ entry ∈ w.state.log, entry.owner = i ∧ entry.writes.any isEffect = true) →
        ∃ entry ∈ beforeLookup j w.state.log, isRecordOf i entry = true
  | _ => True

theorem mem_beforeLookup {log : List (Entry ι)} {j : ι} {entry : Entry ι}
    (member : entry ∈ beforeLookup j log) {p : Nat} {lookup : Entry ι}
    (located : log[p]? = some lookup) (looks : isLookupOf j lookup = true) :
    ∃ k, k < p ∧ log[k]? = some entry := by
  obtain ⟨k, inside, found⟩ := List.getElem_of_mem member
  have early : beforeLookup j log <+: log := List.takeWhile_prefix _
  have place {q : Nat} (inside : q < (beforeLookup j log).length) :
      log[q]? = some (beforeLookup j log)[q] := by
    rw [← List.prefix_iff_getElem?.mp early q inside]
  refine ⟨k, ?_, by rw [place inside, found]⟩
  by_contra late
  have within : p < (beforeLookup j log).length := by omega
  have same : lookup = (beforeLookup j log)[p] := by
    rw [place within] at located
    exact (Option.some.inj located).symm
  have passed := List.all_eq_true.mp List.all_takeWhile _ (List.getElem_mem within)
  rw [← same, looks] at passed
  cases passed

section
variable (repeats : Repeats requests db tenantId key)
include repeats

section
omit [DecidableEq ι]

theorem Repeats.not_admin (i : ι) : ¬ (requests i).isAdmin := by
  cases repeats with
  | createTicket data same =>
      obtain ⟨actor, request, _⟩ := same i
      rw [request]
      exact id
  | kioskCreateTicket body same =>
      rw [same i]
      exact id
  | callNext counterId body same =>
      obtain ⟨actor, request, _⟩ := same i
      rw [request]
      exact id

theorem Repeats.key_eq (named : key ≠ "") (i : ι) : (requests i).key = some key := by
  have kept : given (some key) = some key := by simp [given, named]
  cases repeats with
  | createTicket data same =>
      obtain ⟨actor, request, _⟩ := same i
      rw [request]
      exact kept
  | kioskCreateTicket body same =>
      rw [same i]
      exact kept
  | callNext counterId body same =>
      obtain ⟨actor, request, _⟩ := same i
      rw [request]
      exact kept

/-- The commit of an effect is the first commit, made when the lookup has led to nothing; the only
other commit with a write stores the key. -/
theorem Repeats.commit_cases {i : ι} {past : List Act} {writes : List Write}
    (commits : (requests i).commits hexdigest env past writes) :
    writes = [] ∨ (∃ write row event, writes = [write, .insert (.event event)] ∧
      (write = .insert (.ticket row) ∨ write = .update (.ticket row)) ∧ isEffect write = true ∧
      commitsOf past = [] ∧ (requests i).missed past) ∨
    ∃ record, writes = [.insert (.idempotencyKey record)] ∧
      (requests i).SavesKey hexdigest env past record := by
  have creation (locationId : UUID)
      (commits : (requests i).commitsCreation hexdigest env past locationId writes) :
      writes = [] ∨ (∃ write row event, writes = [write, .insert (.event event)] ∧
        (write = .insert (.ticket row) ∨ write = .update (.ticket row)) ∧ isEffect write = true ∧
        commitsOf past = [] ∧ (requests i).missed past) ∨
      ∃ record, writes = [.insert (.idempotencyKey record)] ∧
        (requests i).SavesKey hexdigest env past record := by
    rcases commits with ⟨row, event, rfl, opens⟩ | ⟨record, rfl, saves⟩
    · exact .inr (.inl ⟨_, row, event, rfl, .inl rfl, rfl, opens.first, opens.missed⟩)
    · exact .inr (.inr ⟨record, rfl, saves⟩)
  cases repeats with
  | createTicket data same =>
      obtain ⟨actor, request, _⟩ := same i
      refine creation data.locationId ?_
      rw [request] at commits ⊢
      exact commits
  | kioskCreateTicket body same =>
      refine creation body.locationId ?_
      rw [same i] at commits ⊢
      exact commits
  | callNext counterId body same =>
      obtain ⟨actor, request, _⟩ := same i
      rw [request] at commits ⊢
      rcases commits with ⟨rfl, _⟩ | ⟨row, event, rfl, calls⟩ | ⟨record, rfl, saves⟩
      · exact .inl rfl
      · exact .inr (.inl ⟨_, row, event, rfl, .inr rfl, by simp [isEffect, calls.status],
          calls.first, calls.missed⟩)
      · exact .inr (.inr ⟨record, rfl, saves⟩)

end

variable (reach : Reachable engine env (initial hexdigest requests db) w)
include reach

theorem Repeats.tenant {i : ι} {p : Nat} {id : UUID}
    (tenant : (requests i).tenantIs (pastOf i (w.state.log.take p)) id) : id = tenantId := by
  cases repeats with
  | createTicket data same =>
      obtain ⟨actor, request, parsed⟩ := same i
      rw [request] at tenant
      exact Option.some.inj (tenant.symm.trans parsed)
  | callNext counterId body same =>
      obtain ⟨actor, request, parsed⟩ := same i
      rw [request] at tenant
      exact Option.some.inj (tenant.symm.trans parsed)
  | kioskCreateTicket body same owner =>
      rw [same i] at tenant
      obtain ⟨loc, saw, rfl⟩ := tenant
      obtain ⟨q, order, _, _, read⟩ := asked_view reach saw.asked
      have operational : ∀ i, ¬ (requests i).isAdmin := fun i => by
        rw [same i]
        exact id
      have stored := view_record reach operational i q (.location body.locationId) rfl
      have read : some loc =
        (viewAt engine db i (w.state.log.take q)).locations.get? body.locationId := read
      have unchanged : (some loc).map Row.location =
          (db.locations.get? body.locationId).map Row.location := by
        rw [read]
        exact stored
      refine owner loc ?_
      cases found : db.locations.get? body.locationId with
      | none => simp [found] at unchanged
      | some other =>
          rw [found] at unchanged
          cases unchanged
          rfl

/-! ## A stored key is found -/

theorem Repeats.record_stays {k p : Nat} {i : ι} {record : IdempotencyKey}
    (commit : CommitAt w.state.log k i [.insert (.idempotencyKey record)]) (later : k < p) :
    (storeAt engine db (w.state.log.take p)).row (.idempotencyKey record.tenantId record.key) =
      some (.idempotencyKey record) := by
  rw [storeAt_stretch (m := k + 1) later]
  refine checked_preserves engine_rowed (K := fun old => old = some (.idempotencyKey record))
    ((reaches_serial reach).checked_stretch later) ?_ ?_
  · rintro write member locked _ rfl sound
    obtain ⟨n, j, writes, _, _, other, written⟩ := mem_committedWrites_stretch member
    rcases repeats.commit_cases (commits_at reach other) with rfl | effect | ⟨again, rfl, _⟩
    · cases written
    · obtain ⟨first, row, event, rfl, rfl | rfl, _⟩ := effect
      · simp only [List.mem_cons, List.not_mem_nil, or_false] at written
        rcases written with rfl | rfl <;> cases locked
      · simp only [List.mem_cons, List.not_mem_nil, or_false] at written
        rcases written with rfl | rfl <;> cases locked
    · cases List.mem_singleton.mp written
      cases sound
  · rw [storeAt_commit commit]
    simp only [Engine.applyAll_cons, Engine.applyAll_nil]
    rw [engine_rowed.apply]
    simp [engine, Write.lock, Row.lock, Write.value]

theorem Repeats.lookup_finds (named : key ≠ "")
    (lifetime : ∀ tick tick', (env tick).now < (env tick').now + hours 24)
    {k p : Nat} {i j : ι} {record : IdempotencyKey} {tenant : UUID} {looked : String} {now : Time}
    {answer : Option IdempotencyKey}
    (commit : CommitAt w.state.log k i [.insert (.idempotencyKey record)]) (later : k < p)
    (located : w.state.log[p]? =
      some ⟨j, .performed (.read (.idempotencyKey tenant looked now)) answer []⟩) :
    answer = some record := by
  obtain ⟨context, locks, ran, _⟩ := (reaches_provenance reach).answered located
  have exec : (Stmt.read (.idempotencyKey tenant looked now)).exec context =
    .done answer [] locks := ran.exec
  have read : answer = context.view.findIdempotencyKey tenant looked now := (exec_read exec).1
  obtain ⟨owner, keyed, ⟨tick, rfl⟩, unwritten⟩ :
      (requests j).reads env (pastOf j (w.state.log.take p)) (.idempotencyKey tenant looked now) :=
    (reaches_conduct reach).1 p _ located
  have saves : (requests i).commitsKey hexdigest env (pastOf i (w.state.log.take k))
      [.insert (.idempotencyKey record)] := by
    rcases repeats.commit_cases (commits_at reach commit) with nothing | effect | stored
    · cases nothing
    · obtain ⟨first, row, event, same, _⟩ := effect
      simp at same
    · exact stored
  obtain ⟨_, same, saves⟩ := saves
  cases same
  obtain ⟨tick', expires⟩ := saves.lifetime
  have sameTenant : tenant = record.tenantId :=
    (repeats.tenant reach owner).trans (repeats.tenant reach saves.tenant).symm
  have sameKey : looked = record.key :=
    Option.some.inj (((keyed.symm.trans (repeats.key_eq named j)).trans
      (repeats.key_eq named i).symm).trans saves.key)
  have view : context.view = storeAt engine db (w.state.log.take p) := by
    rw [ran.view, viewAt, unwritten, Engine.applyAll_nil]
  have stored := repeats.record_stays reach commit later
  have found : context.view.idempotencyKeys.get? (record.tenantId, record.key) = some record := by
    rw [view]
    obtain ⟨row, located, same⟩ := Option.map_eq_some_iff.mp stored
    cases same
    exact located
  rw [read, sameTenant, sameKey, Database.findIdempotencyKey, found]
  simp [expires, lifetime]

omit reach repeats in
theorem ticket_present {m p : Nat} {i j : ι} {row : Ticket} {writes : List Write}
    (commit : CommitAt w.state.log m i writes) (later : m < p)
    (written : .insert (.ticket row) ∈ writes ∨ .update (.ticket row) ∈ writes) :
    (viewAt engine db j (w.state.log.take p)).tickets.get? row.id ≠ none := by
  have logged : (⟨i, .committed writes⟩ : Entry ι) ∈ w.state.log.take p :=
    mem_take.mpr ⟨m, later, commit⟩
  have put {write : Write} (member : write ∈ writes) :
      write ∈ committedWrites (w.state.log.take p) ++ pendingOf (pastOf j (w.state.log.take p)) :=
    List.mem_append_left _ (mem_committedWrites.mpr ⟨i, writes, logged, member⟩)
  obtain ⟨ticket, present⟩ := get?_of_written db (written.imp put put)
  simp [viewAt, storeAt, ← Engine.applyAll_append, present]

/-! ## One effect -/

/-- Whoever has stored the key before the lookup of session `j` keeps it from a second effect. -/
theorem Repeats.effect_excluded (named : key ≠ "")
    (lifetime : ∀ tick tick', (env tick).now < (env tick').now + hours 24)
    {j : ι} (missed : (requests j).missed (pastOf j w.state.log)) {i : ι} {entry : Entry ι}
    (before : entry ∈ beforeLookup j w.state.log) : ¬ isRecordOf i entry = true := by
  intro records
  rcases missed with unkeyed | ⟨earlier, tenant, looked, now, answer, later, split, nothing⟩
  · rw [repeats.key_eq named j] at unkeyed
    cases unkeyed
  obtain ⟨p, located, _, onward⟩ := split_pastOf split
  obtain ⟨k, order, stored⟩ := mem_beforeLookup before located (by simp [isLookupOf])
  obtain ⟨owner, action⟩ := entry
  simp only [isRecordOf, Bool.and_eq_true, decide_eq_true_eq, List.any_eq_true] at records
  obtain ⟨rfl, write, written, isRecord⟩ := records
  cases action with
  | performed stmt value writes => simp [Event.writes] at written
  | published msg => simp [Event.writes] at written
  | committed writes =>
      have commit : CommitAt w.state.log k owner writes := stored
      have written : write ∈ writes := written
      rcases repeats.commit_cases (commits_at reach commit) with rfl | effect | ⟨record, rfl, saves⟩
      · cases written
      · obtain ⟨first, row, event, rfl, rfl | rfl, _⟩ := effect
        · simp only [List.mem_cons, List.not_mem_nil, or_false] at written
          rcases written with rfl | rfl <;> cases isRecord
        · simp only [List.mem_cons, List.not_mem_nil, or_false] at written
          rcases written with rfl | rfl <;> cases isRecord
      · have found := repeats.lookup_finds reach named lifetime commit order located
        obtain ⟨first, row, made, only, inside, value, resource⟩ := saves.resource
        have gone : Asked later (.ticket row.id) none := nothing record found row.id resource
        have seen : (.committed first : Act) ∈ pastOf owner (w.state.log.take k) :=
          mem_commitsOf.mp (by rw [only]; simp)
        obtain ⟨m, sooner, effect⟩ := mem_take.mp (mem_pastOf.mp seen)
        rw [← onward] at gone
        obtain ⟨offset, place⟩ := List.mem_iff_getElem?.mp (mem_pastOf.mp gone)
        rw [List.getElem?_drop] at place
        obtain ⟨context, locks, ran, _⟩ := (reaches_provenance reach).answered place
        have exec : (Stmt.read (.ticket row.id)).exec context = .done none [] locks := ran.exec
        have missing : none = context.view.tickets.get? row.id := (exec_read exec).1
        rw [ran.view] at missing
        refine ticket_present (j := j) effect (by omega) ?_ missing.symm
        cases made with
        | insert other => cases value; exact .inl inside
        | update other => cases value; exact .inr inside
        | dropKey tenantId key => cases value

end

omit [DecidableEq ι] in
theorem effects_concat (log : List (Entry ι)) (entry : Entry ι) :
    effects (log ++ [entry]) = effects log ++ entry.writes.filter isEffect := by
  simp [effects, committedWrites]

theorem at_most_one_effect (repeats : Repeats requests db tenantId key) (named : key ≠ "")
    (lifetime : ∀ tick tick', (env tick).now < (env tick').now + hours 24)
    (reach : Reaches engine env LooksUpAfterStored (initial hexdigest requests db) w) :
    (effects w.state.log).length ≤ 1 := by
  refine reach.moves (motive := fun w => (effects w.state.log).length ≤ 1) (Nat.zero_le _) ?_
  intro w j program session state before once running moved meets
  have reach := before.reachable
  cases moved with
  | returned value => exact once
  | raised error => exact once
  | failed exec => exact once
  | crashed program => exact once
  | observed next => exact once
  | performed ready exec =>
      simpa [State.performed, effects_concat, Event.writes] using once
  | published msg next => simpa [State.published, effects_concat, Event.writes] using once
  | committed next =>
      have meets := meets (by simp)
      have follows := (reaches_conduct reach).2 j
      rw [running] at follows
      have commits :
        (requests j).commits hexdigest env (pastOf j w.state.log) (w.state.tx j).writes :=
        follows.1
      simp only [State.committed, effects_concat, Event.writes, List.length_append]
      rcases repeats.commit_cases commits with nothing | effect | ⟨record, stored, _⟩
      · simpa [nothing] using once
      · obtain ⟨write, row, event, pending, _, effective, first, missed⟩ := effect
        have fresh : effects w.state.log = [] := by
          rw [effects, List.filter_eq_nil_iff]
          intro other member counted
          obtain ⟨n, i, writes, commit, written⟩ := mem_committedWrites_at member
          have differs : i ≠ j := by
            rintro rfl
            have seen : (.committed writes : Act) ∈ pastOf i w.state.log :=
              mem_pastOf.mpr (List.mem_of_getElem? commit)
            rw [← mem_commitsOf, first] at seen
            cases seen
          rw [LooksUpAfterStored, running] at meets
          obtain ⟨entry, early, records⟩ := meets (by simp [pending, effective]) i differs
            ⟨_, List.mem_of_getElem? commit, rfl, List.any_eq_true.mpr ⟨other, written, counted⟩⟩
          exact repeats.effect_excluded reach named lifetime missed early records
        have silent : isEffect (.insert (.event event)) = false := rfl
        simp [fresh, pending, effective, silent]
      · simpa [stored, isEffect] using once

def twiceCreate (_ : Fin 2) : Request :=
  .createTicket (visit 10 (some 20)) clerk (some "k-1")

def twiceKiosk (_ : Fin 2) : Request := .kioskCreateTicket { locationId := 10 } (some "k-1")

def twiceCall (_ : Fin 2) : Request := .callNext 30 {} clerk (some "k-1")

theorem looksUpAfterStored_iff (w : AppWorld ι) (j : ι) :
    ((w.session j).isCommitting = true → (w.state.tx j).writes.any isEffect = true →
      ∀ i, i ≠ j → (∃ entry ∈ w.state.log, entry.owner = i ∧ entry.writes.any isEffect = true) →
        ∃ entry ∈ beforeLookup j w.state.log, isRecordOf i entry = true) ↔
      LooksUpAfterStored w j :=
  isCommitting_imp_iff _ (w.session j)

instance [Fintype ι] (w : AppWorld ι) (j : ι) : Decidable (LooksUpAfterStored w j) :=
  decidable_of_iff _ (looksUpAfterStored_iff w j)

def twiceStart (requests : Fin 2 → Request) (db : Database) : AppWorld (Fin 2) :=
  initial textDigest requests db

def inTurn (requests : Fin 2 → Request) (db : Database) : AppWorld (Fin 2) :=
  (twiceStart requests db).after engine steadyEnv (runs 0 ++ runs 1)

theorem inTurn_reaches :
    Reaches engine steadyEnv LooksUpAfterStored (twiceStart twiceCreate (office .empty))
      (inTurn twiceCreate (office .empty)) :=
  reaches_after (by decide +kernel)

theorem at_most_one_effect_inTurn :
    (effects (inTurn twiceCreate (office .empty)).state.log).length ≤ 1 :=
  have repeats : Repeats twiceCreate (office .empty) 1 "k-1" :=
    .createTicket (visit 10 (some 20)) fun _ => ⟨clerk, rfl, rfl⟩
  at_most_one_effect repeats (by decide)
    (fun _ _ => (by decide : hours 1 < hours 1 + hours 24)) inTurn_reaches

/-- Two creations and two calls whose lookups overlap, and a kiosk request that is retried after a
crash right after its first commit. -/
theorem second_effects :
    (∃ w, Reachable engine steadyEnv (twiceStart twiceCreate (office .empty)) w ∧
      (effects w.state.log).length = 2) ∧
    (∃ w, Reachable engine steadyEnv (twiceStart twiceKiosk (office .empty)) w ∧
      (effects w.state.log).length = 2) ∧
    ∃ w, Reachable engine steadyEnv (twiceStart twiceCall crowdedOffice) w ∧
      (effects w.state.log).length = 2 :=
  ⟨⟨_, reachable_after (List.replicate 20 [.run 0, .run 1]).flatten, by decide +kernel⟩,
    ⟨_, reachable_after (List.replicate 7 (.run 0) ++ .crash 0 :: runs 1), by decide +kernel⟩,
    ⟨_, reachable_after (List.replicate 20 [.run 0, .run 1]).flatten, by decide +kernel⟩⟩

end QueueFlow.Concurrency
