import QueueFlow.Concurrency.Keyed

/-!
# The two commits of a keyed request

The effect is committed before the record of its key. If the record cannot be stored then, the
request ends in an error and its effect stays.
-/

namespace QueueFlow.Concurrency
open QueueFlow.App QueueFlow.Data QueueFlow.Tables QueueFlow.Transactions

variable {ι : Type} [DecidableEq ι] {hexdigest : PyDict → String} {env : Nat → Env}
  {requests : ι → Request} {request : Request} {db : Database} {start tick : Nat} {key : String}
  {w : AppWorld ι} {i : ι}

/-- The key fits into its column, its tenant exists, and a record that is there already has not
expired when it is looked up and names a ticket. -/
structure Storable (env : Nat → Env) (db : Database) (tick : Nat) (request : Request)
    (key : String) : Prop where
  fits : key.length ≤ 255
  tenant : ∀ tenantId ∈ keyTenant db request, db.hasTenant tenantId = true
  unexpired : ∀ tenantId ∈ keyTenant db request,
    ∀ record ∈ db.idempotencyKeys.get? (tenantId, key),
      (env (tick + lookupDelay request)).now < record.expiresAt
  names : ∀ tenantId ∈ keyTenant db request,
    ∀ record ∈ db.idempotencyKeys.get? (tenantId, key),
      ∃ id ∈ record.resourceId, db.hasTicket id = true

instance : Decidable (Storable env db tick request key) :=
  decidable_of_iff (_ ∧ (∀ tenantId ∈ keyTenant db request, _) ∧
      (∀ tenantId ∈ keyTenant db request, ∀ record ∈ db.idempotencyKeys.get? (tenantId, key), _) ∧
      ∀ tenantId ∈ keyTenant db request, ∀ record ∈ db.idempotencyKeys.get? (tenantId, key),
        ∃ id ∈ record.resourceId, _)
    ⟨fun ⟨h₁, h₂, h₃, h₄⟩ => Storable.mk h₁ h₂ h₃ h₄,
      fun storable => ⟨storable.fits, storable.tenant, storable.unexpired, storable.names⟩⟩

section
variable {effect : List Write} {ticket : Ticket} {new : NewIdempotencyKey}

/-- A request that came to its effect has found no record at all. -/
theorem Effects.absent (effects : Effects hexdigest env request db tick effect ticket new)
    (storable : Storable env db tick request new.key) :
    db.idempotencyKeys.get? (new.tenantId, new.key) = none := by
  cases found : db.idempotencyKeys.get? (new.tenantId, new.key) with
  | none => rfl
  | some record =>
      have unexpired := storable.unexpired _ effects.tenant _ found
      have live : db.findIdempotencyKey new.tenantId new.key
          (env (tick + lookupDelay request)).now = some record := by
        simp [Database.findIdempotencyKey, found, unexpired]
      obtain ⟨id, named, there⟩ := storable.names _ effects.tenant _ found
      have gone := effects.misses record live id named
      simp [Database.hasTicket, gone] at there

theorem Effects.storable_iff (effects : Effects hexdigest env request db tick effect ticket new) :
    Storable env db tick request new.key ↔
      ∀ check ∈ new.checks (engine.applyAll db effect), check.1 = true := by
  have kept {lock : Lock} (unlocked : ∀ write ∈ effect, write.lock ≠ lock) :
      (engine.applyAll db effect).row lock = db.row lock :=
    row_applyAll_of_unlocked engine_rowed db unlocked
  have record := kept fun write member => effects.unkeyed write member new.tenantId new.key
  have tenant : (engine.applyAll db effect).hasTenant new.tenantId =
      db.hasTenant new.tenantId := by
    rw [hasTenant_eq, hasTenant_eq, kept]
    intro write member same
    have plain := effects.plain write member
    rw [same] at plain
    cases plain
  simp only [NewIdempotencyKey.checks, List.forall_mem_cons, List.not_mem_nil, false_implies,
    implies_true, and_true, fits, Option.all_some, decide_eq_true_eq, tenant,
    Option.isNone_iff_eq_none]
  constructor
  · intro storable
    have absent := effects.absent storable
    refine ⟨storable.fits, ?_, storable.tenant _ effects.tenant⟩
    simpa [Database.row, absent] using record
  · rintro ⟨short, absent, known⟩
    have absent : db.idempotencyKeys.get? (new.tenantId, new.key) = none := by
      simpa [Database.row, absent] using record.symm
    have same {tenantId : UUID} (owner : tenantId ∈ keyTenant db request) :
        tenantId = new.tenantId := Option.some.inj (owner.symm.trans effects.tenant)
    refine ⟨short, fun tenantId owner => same owner ▸ known, fun tenantId owner record found => ?_,
      fun tenantId owner record found => ?_⟩ <;>
    · rw [same owner, absent] at found
      cases found

end

theorem KeyedEnd.unharmed_iff {session : Session Stmt Stmt.Res Failure Message Env Response}
    {after : Database} (ends : KeyedEnd hexdigest env request db tick session after)
    (named : request.key = some key) :
    (∀ error, session = .raised error → after = db) ↔
      Storable env db tick request key ∨ after = db := by
  cases ends with
  | refused error => exact iff_of_true (fun _ _ => rfl) (.inr rfl)
  | idle response => exact iff_of_true (fun _ _ => rfl) (.inr rfl)
  | unsaved effects rejected error =>
      obtain rfl := Option.some.inj (effects.key.symm.trans named)
      have unstorable : ¬ Storable env db tick request _ := fun storable => by
        obtain ⟨check, listed, fails⟩ := rejected
        rw [effects.storable_iff.mp storable check listed] at fails
        cases fails
      exact ⟨fun unharmed => .inr (unharmed error rfl),
        fun either _ _ => either.resolve_left unstorable⟩
  | saved effects accepted answers =>
      obtain rfl := Option.some.inj (effects.key.symm.trans named)
      refine iff_of_true (fun error impossible => ?_) (.inl (effects.storable_iff.mpr accepted))
      cases impossible

/-- A keyed request that ends in an error, served next, leaves all tables as they are. -/
def Unharmed (env : Nat → Env) (requests : ι → Request) (w : AppWorld ι) (i : ι) : Prop :=
  (requests i).key ≠ none → ∀ error, (w.serve engine env i).session i = .raised error →
    (w.serve engine env i).state.store = w.state.store

def CanStore (env : Nat → Env) (requests : ι → Request) (w : AppWorld ι) (i : ι) : Prop :=
  ∀ key ∈ (requests i).key, Storable env w.state.store w.state.tick (requests i) key

instance (requests : ι → Request) (w : AppWorld ι) (i : ι) :
    Decidable (CanStore env requests w i) :=
  inferInstanceAs (Decidable (∀ key ∈ (requests i).key, _))

theorem serve_keyed (env : Nat → Env)
    (between : Between (fun i => .running (program hexdigest (requests i))) w)
    (named : (requests i).key = some key) :
    (w.serve engine env i).state.store = w.state.store ∨
      KeyedEnd hexdigest env (requests i) w.state.store w.state.tick
        ((w.serve engine env i).session i) (w.serve engine env i).state.store := by
  rcases between.serve_cases engine env i with idle | ⟨current, running, fresh, closed⟩
  · exact .inl (by rw [idle])
  · cases fresh
    obtain ⟨_, _, ends⟩ := serve_of_ends running between.quiet closed
      (keyed_ends hexdigest env i w.state.store w.state.tick named)
    exact .inr ends

/-- A keyed request is all or nothing exactly if it can store its key or changes nothing anyway. -/
theorem unharmed_iff (between : Between (fun i => .running (program hexdigest (requests i))) w)
    (named : (requests i).key = some key) :
    Unharmed env requests w i ↔
      CanStore env requests w i ∨ (w.serve engine env i).state.store = w.state.store := by
  have keyed : (requests i).key ≠ none := by simp [named]
  rcases serve_keyed env between named with unchanged | ends
  · exact iff_of_true (fun _ _ _ => unchanged) (.inr unchanged)
  · rw [Unharmed, CanStore, imp_iff_right keyed, ends.unharmed_iff named, named]
    simp

/-- In a sequential run in which every key can be stored, all keyed requests are all or nothing. -/
theorem keyed_all_or_nothing {order : List ι}
    (stores : (initial hexdigest requests db).Serves engine env (CanStore env requests) order) :
    (initial hexdigest requests db).Serves engine env (Unharmed env requests) order := by
  refine stores.weaken (between_start db _) fun w i between stores => ?_
  cases named : (requests i).key with
  | none => exact fun keyed => (keyed named).elim
  | some key => exact (unharmed_iff between named).mpr (.inl stores)

/-! ## Keys that cannot be stored -/

def keyedVisit : Nat → Request
  | 0 | 1 => .createTicket (visit 10 (some 20)) clerk (some "k-1")
  | _ => .callNext 30 {} clerk (some "k-2")

theorem keyed_all_or_nothing_keyedVisit :
    (initial textDigest keyedVisit (office .empty)).Serves engine steadyEnv
      (Unharmed steadyEnv keyedVisit) [0, 1, 2] :=
  keyed_all_or_nothing (by decide +kernel)

/-- The key that was used a day ago, before its record is cleaned up. -/
def expiredRecord : IdempotencyKey where
  key := "k-1"
  tenantId := 1
  requestHash := hashBody textDigest (visit 10 (some 20)).body
  resourceId := some 2
  createdAt := 0
  expiresAt := hours 1

def expiredOffice : Database :=
  { office ⟨[waitingTicket 2 1 5], by decide⟩ with
    idempotencyKeys := ⟨[expiredRecord], by decide⟩ }

def reusedKey (_ : Fin 1) : Request := .createTicket (visit 10 (some 20)) clerk (some "k-1")

def reusedStart : AppWorld (Fin 1) := initial textDigest reusedKey expiredOffice

theorem reusedKey_raised :
    ∃ error, (reusedStart.serve engine steadyEnv 0).session 0 = .raised error :=
  hasRaised_iff.mp (by decide +kernel)

/-- It ends in an error and leaves a new ticket. -/
theorem error_keeps_effect : ¬ Unharmed steadyEnv reusedKey reusedStart 0 := by
  intro unharmed
  obtain ⟨error, raised⟩ := reusedKey_raised
  have effect : (reusedStart.serve engine steadyEnv 0).state.store.tickets.rows.length = 2 := by
    decide +kernel
  rw [unharmed (by decide) error raised] at effect
  cases effect

end QueueFlow.Concurrency
