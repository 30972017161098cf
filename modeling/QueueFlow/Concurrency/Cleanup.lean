import QueueFlow.Concurrency.KeyUse
import QueueFlow.Concurrency.Replays

/-!
# Runs with additional cleanups

A run in which the cleanup is started more often, beside the same run without these cleanups. Each
request keeps its own clock, so the cleanups do not move the times and identifiers of the others.
-/

namespace QueueFlow.Concurrency
open QueueFlow.App QueueFlow.Data QueueFlow.Tables QueueFlow.Transactions

variable {ι : Type} [DecidableEq ι] {hexdigest : PyDict → String} {clock : ι → Nat → Env}
  {requests : ι → Request} {db db' : Database} {keep : ι → Bool} {order : List ι}
  {times : List Time} {i : ι}

def Request.isCleanup : Request → Bool
  | .cleanupIdempotencyKeys => true
  | _ => false

theorem isCleanup_iff {request : Request} :
    Request.isCleanup request = true ↔ request = .cleanupIdempotencyKeys := by
  cases request <;> simp [Request.isCleanup]

/-! ## Runs -/

/-- One request after the other, each alone with its own clock. -/
def served (hexdigest : PyDict → String) (clock : ι → Nat → Env) (requests : ι → Request)
    (db : Database) (order : List ι) : Database :=
  order.foldl (fun db i => (alone hexdigest (clock i) requests db i).state.store) db

def responses (hexdigest : PyDict → String) (clock : ι → Nat → Env) (requests : ι → Request) :
    Database → List ι → List (ι × Session Stmt Stmt.Res Failure Message Env Response)
  | _, [] => []
  | db, i :: order =>
      let w := alone hexdigest (clock i) requests db i
      let rest := responses hexdigest clock requests w.state.store order
      if Request.isCleanup (requests i) then rest else (i, w.session i) :: rest

def Outlasts (times : List Time) (db : Database) (request : Request) : Prop :=
  ∀ tenantId ∈ keyTenant db request, ∀ key ∈ request.key,
    ∀ record ∈ db.idempotencyKeys.get? (tenantId, key), ∀ time ∈ times, time ≤ record.expiresAt

instance : Decidable (Outlasts times db request) :=
  inferInstanceAs (Decidable (∀ tenantId ∈ keyTenant db request, _))

/-- Whenever the run without the additional cleanups comes to a request, the record of its key is
not expired at any of the earlier additional cleanups. -/
def KeysOutlast (hexdigest : PyDict → String) (clock : ι → Nat → Env) (requests : ι → Request)
    (keep : ι → Bool) : List Time → Database → List ι → Prop
  | _, _, [] => True
  | times, db, i :: order =>
      if keep i then
        Outlasts times db (requests i) ∧ KeysOutlast hexdigest clock requests keep times
        (alone hexdigest (clock i) requests db i).state.store order
      else KeysOutlast hexdigest clock requests keep ((clock i 0).now :: times) db order

instance decidableKeysOutlast : ∀ (times : List Time) (db : Database) (order : List ι),
    Decidable (KeysOutlast hexdigest clock requests keep times db order)
  | _, _, [] => inferInstanceAs (Decidable True)
  | times, db, i :: order =>
      have : Decidable (KeysOutlast hexdigest clock requests keep times
          (alone hexdigest (clock i) requests db i).state.store order) :=
        decidableKeysOutlast _ _ order
      have : Decidable (KeysOutlast hexdigest clock requests keep ((clock i 0).now :: times) db
          order) := decidableKeysOutlast _ _ order
      inferInstanceAs (Decidable (if keep i then Outlasts times db (requests i) ∧ _ else _))

structure Invisible (hexdigest : PyDict → String) (clock : ι → Nat → Env) (requests : ι → Request)
    (keep : ι → Bool) (db : Database) (order : List ι) : Prop where
  responses : responses hexdigest clock requests db order =
    responses hexdigest clock requests db (order.filter keep)
  tickets : (served hexdigest clock requests db order).tickets =
    (served hexdigest clock requests db (order.filter keep)).tickets
  events : (served hexdigest clock requests db order).ticketEvents =
    (served hexdigest clock requests db (order.filter keep)).ticketEvents
  interactions : (served hexdigest clock requests db order).interactions =
    (served hexdigest clock requests db (order.filter keep)).interactions

/-! ## Steps -/

theorem alone_cleanup (cleans : requests i = .cleanupIdempotencyKeys) (env : Nat → Env) :
    Cleaned (env 0).now db (alone hexdigest env requests db i).state.store := by
  have running : (initial hexdigest requests db).session i =
      .running (program hexdigest .cleanupIdempotencyKeys) := by rw [← cleans]; rfl
  obtain ⟨_, _, _, after⟩ := serve_of_ends running (fun _ => rfl) rfl (ends_cleanup i db 0)
  rw [alone, after]
  exact cleaned_expiredKeys (env 0).now db

/-- A request whose key has outlasted the additional cleanups does not notice them. -/
theorem alone_trimmed (other : requests i ≠ .cleanupIdempotencyKeys)
    (trimmed : Trimmed times db db') (outlasts : Outlasts times db (requests i)) (env : Nat → Env) :
    (alone hexdigest env requests db' i).session i = (alone hexdigest env requests db i).session i ∧
      Trimmed times (alone hexdigest env requests db i).state.store
        (alone hexdigest env requests db' i).state.store := by
  have alike : AlikeOn times (Request.names (requests i) (keyTenant db (requests i))) db db' :=
    ⟨trimmed, fun entry named => trimmed.getKey fun record found =>
      outlasts entry.1 named.1 entry.2 named.2 record found⟩
  obtain ⟨same, after⟩ : EndsAlike engine env _ i (program hexdigest (requests i))
      (State.start db : State ι Database Write Lock Stmt Stmt.Res Message Env) (.start db') :=
    program_alike other alike
  have running (db : Database) : (initial hexdigest requests db).session i =
      .running (program hexdigest (requests i)) := rfl
  rw [alone, alone, serve_eq (running db), serve_eq (running db')]
  refine ⟨?_, after.toTrimmed⟩
  simp only [Function.update_self]
  exact same.symm

/-! ## Whole runs -/

theorem responses_trimmed
    (extra : ∀ i, keep i = false → requests i = .cleanupIdempotencyKeys)
    (trimmed : Trimmed times db db')
    (outlast : KeysOutlast hexdigest clock requests keep times db order) :
    responses hexdigest clock requests db' order =
        responses hexdigest clock requests db (order.filter keep) ∧
      ∃ later, Trimmed later (served hexdigest clock requests db (order.filter keep))
        (served hexdigest clock requests db' order) := by
  induction order generalizing db db' times with
  | nil => exact ⟨rfl, times, trimmed⟩
  | cons i order ih =>
      rw [KeysOutlast] at outlast
      by_cases kept : keep i = true
      · rw [if_pos kept] at outlast
        rw [List.filter_cons_of_pos kept]
        simp only [responses]
        by_cases cleans : requests i = .cleanupIdempotencyKeys
        · rw [if_pos (isCleanup_iff.mpr cleans), if_pos (isCleanup_iff.mpr cleans)]
          exact ih (trimmed.cleaned (alone_cleanup cleans _) (alone_cleanup cleans _)) outlast.2
        · obtain ⟨same, after⟩ := alone_trimmed cleans trimmed outlast.1 (clock i)
          obtain ⟨rest, final⟩ := ih after outlast.2
          have other : ¬ Request.isCleanup (requests i) = true := mt isCleanup_iff.mp cleans
          rw [if_neg other, if_neg other, rest, same]
          exact ⟨rfl, final⟩
      · have cleans := extra i (by simpa using kept)
        rw [if_neg kept] at outlast
        rw [List.filter_cons_of_neg kept]
        simp only [responses]
        rw [if_pos (isCleanup_iff.mpr cleans)]
        exact ih (trimmed.cleanedMore (alone_cleanup cleans _)) outlast

/-- Additional cleanups are invisible if no key is used after one of them has found it expired. -/
theorem cleanup_invisible
    (extra : ∀ i, keep i = false → requests i = .cleanupIdempotencyKeys)
    (outlast : KeysOutlast hexdigest clock requests keep [] db order) :
    Invisible hexdigest clock requests keep db order := by
  obtain ⟨same, later, final⟩ := responses_trimmed extra .refl outlast
  have tables {α : Type} (table : Database → α)
      (unkeyed : ∀ db : Database, table db.unkeyed = table db) :
      table (served hexdigest clock requests db order) =
        table (served hexdigest clock requests db (order.filter keep)) :=
    (unkeyed _).symm.trans ((congrArg table final.unkeyed.symm).trans (unkeyed _))
  exact ⟨same, tables _ fun _ => rfl, tables _ fun _ => rfl, tables _ fun _ => rfl⟩

def dayLater (_ : Nat) (tick : Nat) : Env := ⟨hours 2, 1000 + tick, id, false⟩

def repeated (i : Nat) : Request :=
  if i % 2 = 0 then .cleanupIdempotencyKeys
  else .createTicket (visit 10 (some 20)) clerk (some "k-2")

theorem cleanup_invisible_repeated :
    Invisible textDigest dayLater repeated (· % 2 ≠ 0) expiredOffice [0, 1, 2, 3] :=
  cleanup_invisible (fun _ dropped => if_pos (by simpa using dropped)) (by decide +kernel)

def reuse : Nat → Request
  | 0 => .cleanupIdempotencyKeys
  | _ => .createTicket (visit 10 (some 20)) clerk (some "k-1")

/-- Without the cleanup the creation ends in an error. -/
theorem reuse_noticed : ¬ Invisible textDigest dayLater reuse (· ≠ 0) expiredOffice [0, 1] := by
  intro invisible
  have ends := congrArg (List.map fun response => response.2.hasReturned) invisible.responses
  revert ends
  decide +kernel

/-! ## Sequential runs of the machine -/

theorem served_congr {clock' : ι → Nat → Env} (same : ∀ i ∈ order, clock i = clock' i) :
    served hexdigest clock requests db order = served hexdigest clock' requests db order ∧
      responses hexdigest clock requests db order = responses hexdigest clock' requests db order := by
  induction order generalizing db with
  | nil => exact ⟨rfl, rfl⟩
  | cons i order ih =>
      have later : ∀ j ∈ order, clock j = clock' j := fun j member =>
        same j (List.mem_cons_of_mem i member)
      simp only [served, List.foldl_cons, responses, ← same i List.mem_cons_self]
      exact ⟨(ih later).1, by rw [(ih later).2]⟩

theorem serveAll_served {env : Nat → Env} {w : AppWorld ι} (distinct : order.Nodup)
    (between : Between (fun i => .running (program hexdigest (requests i))) w)
    (fresh : ∀ i ∈ order, w.session i = .running (program hexdigest (requests i)) ∧
      w.state.tx i = .closed) :
    ∃ clock, (w.serveAll engine env order).state.store =
        served hexdigest clock requests w.state.store order ∧
      responses hexdigest clock requests w.state.store order =
        (order.filter fun i => !Request.isCleanup (requests i)).map fun i =>
          (i, (w.serveAll engine env order).session i) := by
  induction order generalizing w with
  | nil => exact ⟨fun _ => env, rfl, rfl⟩
  | cons i order ih =>
      obtain ⟨new, distinct⟩ := List.nodup_cons.mp distinct
      obtain ⟨waiting, closed⟩ := fresh i List.mem_cons_self
      have start : (initial hexdigest requests w.state.store).session i =
          .running (program hexdigest (requests i)) := rfl
      have first : (w.serve engine env i).session i = (alone hexdigest
            (fun tick => env (w.state.tick + tick)) requests w.state.store i).session i ∧
          (w.serve engine env i).state.store = (alone hexdigest
            (fun tick => env (w.state.tick + tick)) requests w.state.store i).state.store := by
        obtain ⟨ends, continues⟩ :=
          serve_continues between.quiet waiting closed start fun _ _ => rfl
        exact ⟨ends, continues.store⟩
      obtain ⟨clock, store, answers⟩ := ih distinct (between.serve i) fun j later => by
        have other : j ≠ i := fun same => new (same ▸ later)
        obtain ⟨session, tx⟩ : (w.serve engine env i).session j = w.session j ∧
            (w.serve engine env i).state.tx j = w.state.tx j := serve_other w other
        rw [session, tx]
        exact fresh j (List.mem_cons_of_mem i later)
      have kept : ((w.serve engine env i).serveAll engine env order).session i =
          (w.serve engine env i).session i := (serveAll_other new).1
      refine ⟨Function.update clock i fun tick => env (w.state.tick + tick), ?_⟩
      have others : ∀ j ∈ order, clock j =
          Function.update clock i (fun tick => env (w.state.tick + tick)) j := by
        intro j later
        have other : j ≠ i := fun same => new (same ▸ later)
        exact (Function.update_of_ne other _ _).symm
      rw [(served_congr others).1] at store
      rw [(served_congr others).2] at answers
      simp only [served, List.foldl_cons, responses, Function.update_self, ← first.1, ← first.2]
      refine ⟨store, ?_⟩
      rw [answers]
      cases cleans : Request.isCleanup (requests i) with
      | true => simp [cleans, World.serveAll]
      | false =>
          simp only [cleans, Bool.false_eq_true, if_false, Bool.not_false, List.filter_cons_of_pos,
            List.map_cons]
          rw [show (World.serveAll engine env w (i :: order)).session i =
            (w.serve engine env i).session i from kept]
          rfl

end QueueFlow.Concurrency
