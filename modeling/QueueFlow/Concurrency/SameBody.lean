import QueueFlow.Concurrency.KeyBinding
import QueueFlow.Concurrency.Permanence
import QueueFlow.Conduct.Answers
import QueueFlow.Reading.Hashes

/-!
# Replays and their bodies

A request that compares the hash of its body, and is answered, has met no record of a request with
another body.
-/

namespace QueueFlow.App
open QueueFlow.Data QueueFlow.Tables QueueFlow.Transactions

def Compared (hexdigest : PyDict → String) (key : String) (body : PyDict) (past : List Act) :
    Prop :=
  ∃ (earlier later : List Act) (tenantId : UUID) (now : Time) (found : Option IdempotencyKey),
    past = earlier ++ .performed (.read (.idempotencyKey tenantId key now)) found [] :: later ∧
      pendingOf earlier = [] ∧ ∀ record ∈ found, record.resourceId.isSome →
        record.requestHash = hashBody hexdigest body

section
variable {hexdigest : PyDict → String} {key : String} {body : PyDict} {past past' : List Act}
  {pending : List Write} {env : Nat → Env} {α β : Type}

theorem Compared.continues (compared : Compared hexdigest key body past)
    (continues : past <+: past') : Compared hexdigest key body past' := by
  obtain ⟨earlier, later, tenantId, now, found, rfl, clean, same⟩ := compared
  obtain ⟨more, rfl⟩ := continues
  exact ⟨earlier, later ++ more, tenantId, now, found, by simp, clean, same⟩

theorem compared_rest (handler : Handler α) (compared : Compared hexdigest key body past) :
    Tells env (fun _ past _ => Compared hexdigest key body past) handler past pending :=
  obeys_mono (obeys_continues handler past pending) fun _ _ _ continues =>
    compared.continues continues

/-- What comes after the lookup matters only when the hashes are the same. -/
theorem compared_lookup {tenantId : UUID} {next : Option IdempotencyKey → Handler β}
    (clean : pendingOf past = [])
    (refuses : ∀ record past, record.resourceId.isSome →
      record.requestHash ≠ hashBody hexdigest body →
        Tells env (fun _ past _ => Compared hexdigest key body past) (next (some record)) past
          pending) :
    Tells env (fun _ past _ => Compared hexdigest key body past)
      ((getIdempotencyKey tenantId key).bind next) past pending := by
  simp only [getIdempotencyKey, Program.bind_eq, Program.bind_assoc]
  refine tells_observe fun tick => tells_query fun db order => ?_
  generalize (Query.idempotencyKey tenantId key (env tick).now).eval db order = found
  by_cases same : ∀ record ∈ found, record.resourceId.isSome →
      record.requestHash = hashBody hexdigest body
  · exact compared_rest _ ⟨past, [], tenantId, (env tick).now, found, rfl, clean, same⟩
  · push Not at same
    obtain ⟨record, rfl, present, differs⟩ := same
    exact refuses record _ present differs

theorem compared_keyedChange {ticketId : UUID} {actor : TokenPayload}
    {idempotencyKey : Option String} {target : TicketStatus} {episode : Ticket → Handler Unit}
    (keyed : given idempotencyKey = some key) :
    Tells env (fun _ past _ => Compared hexdigest key (ticketBody ticketId) past)
      (keyedChange hexdigest ticketId actor idempotencyKey target episode) [] [] := by
  simp only [keyedChange, keyed, changedBefore, Program.bind_eq, Program.bind_assoc]
  refine tells_silent (silent_requireRole _ _) fun _ => ?_
  refine tells_silent (silent_parse _) fun tenantId => ?_
  refine compared_lookup rfl fun record past _ differs => ?_
  dsimp only
  rw [if_pos differs]
  trivial

theorem compared_callNext {counterId : UUID} {data : CallNextBody} {actor : TokenPayload}
    {idempotencyKey : Option String} (keyed : given idempotencyKey = some key) :
    Tells env (fun _ past _ => Compared hexdigest key data.body past)
      (callNext hexdigest counterId data actor idempotencyKey) [] [] := by
  simp only [callNext, keyed, calledBefore, Program.bind_eq, Program.bind_assoc]
  refine tells_silent (silent_requireStaff _) fun _ => ?_
  refine tells_ask rfl fun counter past₁ clean₁ => ?_
  cases counter with
  | none => trivial
  | some counter =>
      refine tells_ask clean₁ fun location past₂ clean₂ => ?_
      cases location with
      | none => trivial
      | some location =>
          refine tells_silent (silent_checkTenant _ _) fun _ => ?_
          refine tells_silent (silent_parse _) fun tenantId => ?_
          refine compared_lookup clean₂ fun record past present differs => ?_
          obtain ⟨resourceId, resource⟩ := Option.isSome_iff_exists.mp present
          simp only [resource]
          rw [if_neg differs]
          trivial

end

end QueueFlow.App

namespace QueueFlow.Concurrency
open QueueFlow.App QueueFlow.Data QueueFlow.Reading QueueFlow.Tables QueueFlow.Transactions

variable {ι : Type} [DecidableEq ι] {hexdigest : PyDict → String} {env : Nat → Env}
  {requests : ι → Request} {db : Database} {ok : AppWorld ι → ι → Prop} {w : AppWorld ι} {r : ι}
  {key : String}

theorem compared_program {request : Request} (compares : comparesBody request)
    (keyed : request.key = some key) :
    App.Tells env (fun _ past _ => Compared hexdigest key request.body past)
      (program hexdigest request) [] [] := by
  have mapped {α : Type} {handler : Handler α} {answer : α → Response}
      (tells : App.Tells env (fun _ past _ => Compared hexdigest key request.body past) handler []
        []) :
      App.Tells env (fun _ past _ => Compared hexdigest key request.body past)
        (answer <$> handler) [] [] := by
    rw [Program.map_eq]
    exact obeys_bind.mpr tells
  cases request with
  | callNext => exact mapped (compared_callNext keyed)
  | startService | completeTicket => exact mapped (compared_keyedChange keyed)
  | _ => exact compares.elim

theorem compared_answered (reach : Reachable engine env (initial hexdigest requests db) w)
    (compares : comparesBody (requests r)) (keyed : (requests r).key = some key)
    {response : Response} (answered : w.session r = .returned response) :
    Compared hexdigest key (requests r).body (pastOf r w.state.log) := by
  have tells (i : ι) : App.Tells env
      (fun _ past _ => i = r → Compared hexdigest key (requests r).body past)
      (program hexdigest (requests i)) [] [] := by
    by_cases same : i = r
    · subst same
      exact obeys_mono (compared_program compares keyed) fun _ _ _ compared _ => compared
    · refine obeys_mono (obeys_of_forall (fun _ _ => trivial) _ _ _) fun _ _ _ _ is => ?_
      exact (same is).elim
  have follows := (reach.obeys fun i => tells i).2 r
  rw [answered] at follows
  obtain ⟨_, compared⟩ := follows
  exact compared rfl

theorem keeps_record {record : IdempotencyKey} {row : Row}
    (keeps : Retains row (.idempotencyKey record)) : row = .idempotencyKey record := by
  cases row with
  | idempotencyKey => exact keeps.symm
  | _ => cases keeps

/-- Every record was inserted by a commit. -/
theorem inserted_of_stored (reach : Reaches engine env ok (initial hexdigest requests db) w)
    (unkeyed : ∀ tenantId key, db.row (.idempotencyKey tenantId key) = none) {n : Nat}
    {tenantId : UUID} {record : IdempotencyKey}
    (stored : (storeAt engine db (w.state.log.take n)).row (.idempotencyKey tenantId key) =
      some (.idempotencyKey record)) :
    ∃ m s writes, m < n ∧ CommitAt w.state.log m s writes ∧
      .insert (.idempotencyKey record) ∈ writes := by
  have checked := (reaches_keeping reach).checked_stretch (Nat.zero_le n)
  rw [storeAt_stretch (Nat.zero_le n)] at stored
  have inserted : .insert (.idempotencyKey record) ∈
      committedWrites (stretch 0 n w.state.log) := by
    refine checked_preserves engine_rowed (K := fun old => old = some (.idempotencyKey record) →
      .insert (.idempotencyKey record) ∈ committedWrites (stretch 0 n w.state.log)) checked
      (fun write member _ old sofar keeping made => ?_) (fun present => ?_) stored
    · cases write with
      | insert row =>
          cases made
          exact member
      | update row =>
          cases made
          obtain ⟨before, rfl, keeps⟩ := keeping
          exact sofar (by rw [keeps_record keeps])
      | dropKey => cases made
    · cases (unkeyed tenantId key).symm.trans present
  obtain ⟨m, s, writes, _, before, commit, written⟩ := mem_committedWrites_stretch inserted
  exact ⟨m, s, writes, before, commit, written⟩

/-- Whoever is answered by the record of an earlier request has sent the same body, unless SHA-256
collides. -/
theorem replays_same_body {sha256 : String → String}
    (reach : Reachable engine env (initial (jsonDigest sha256) requests db) w)
    (unkeyed : ∀ tenantId key, db.row (.idempotencyKey tenantId key) = none)
    (fits : ∀ r, Fits (requests r))
    (apart : ∀ r s, sha256 (bodyText (requests r).body) = sha256 (bodyText (requests s).body) →
      bodyText (requests r).body = bodyText (requests s).body)
    (compares : comparesBody (requests r)) (keyed : (requests r).key = some key)
    {response : Response} (answered : w.session r = .returned response) :
    ∃ (n : Nat) (tenantId : UUID) (now : Time) (found : Option IdempotencyKey),
      w.state.log[n]? =
        some ⟨r, .performed (.read (.idempotencyKey tenantId key now)) found []⟩ ∧
      ∀ record ∈ found, ∃ m s writes, m < n ∧ CommitAt w.state.log m s writes ∧
        .insert (.idempotencyKey record) ∈ writes ∧ (requests s).key = some key ∧
        (requests s).body = (requests r).body := by
  obtain ⟨earlier, later, tenantId, now, found, split, clean, same⟩ :=
    compared_answered reach compares keyed answered
  obtain ⟨n, located, before, _⟩ := split_pastOf split
  refine ⟨n, tenantId, now, found, located, fun record met => ?_⟩
  obtain ⟨context, locks, ran, _⟩ := (reaches_provenance reach).answered located
  have exec : (Stmt.read (.idempotencyKey tenantId key now)).exec context =
      .done found [] locks := ran.exec
  have read := (exec_read exec).1
  rw [ran.view, viewAt, before, clean, Engine.applyAll_nil] at read
  have present := (Option.filter_eq_some_iff.mp (read.symm.trans met)).1
  have stored : (storeAt engine db (w.state.log.take n)).row (.idempotencyKey tenantId key) =
      some (.idempotencyKey record) := congrArg (Option.map Row.idempotencyKey) present
  obtain ⟨m, s, writes, earlier, commit, written⟩ := inserted_of_stored reach unkeyed stored
  have saves := commits_key (commits_at reach commit) written
  obtain ⟨_, _, _, _, _, _, resource⟩ := saves.resource
  have hashes := (same record met (by simp [resource])).symm.trans saves.hash
  have bodies := (bodyText_request_iff (fits r) (fits s)).mp (apart r s hashes)
  have named : record.key = key := congrArg Prod.snd (Table.key_of_get? present)
  exact ⟨m, s, writes, earlier, commit, written, named ▸ saves.key, bodies.symm⟩

/-! ## Starting twice -/

def startDigest (text : String) : String :=
  if text = "\x7b\"ticket_id\": \"00000000-0000-0000-0000-000000000002\"\x7d" then
    "d361f6323aac90756d9047a4cd9567194ab2d0373a36413f99700673d598913d"
  else text

def startAgain (_ : Nat) : Request := .startService 2 clerk (some "k-1")

def startAgainStart : AppWorld Nat := initial (jsonDigest startDigest) startAgain calledOffice

def startAgainWorld : AppWorld Nat := startAgainStart.after engine steadyEnv (runs 0 ++ runs 1)

theorem replays_same_body_startAgain : ∃ (n : Nat) (tenantId : UUID) (now : Time)
      (found : Option IdempotencyKey), startAgainWorld.state.log[n]? =
        some ⟨1, .performed (.read (.idempotencyKey tenantId "k-1" now)) found []⟩ ∧
      ∀ record ∈ found, ∃ m s writes, m < n ∧ CommitAt startAgainWorld.state.log m s writes ∧
        .insert (.idempotencyKey record) ∈ writes ∧ (startAgain s).key = some "k-1" ∧
        (startAgain s).body = (startAgain 1).body := by
  have returned : (startAgainWorld.session 1).answer?.isSome = true := by decide +kernel
  obtain ⟨response, answered⟩ := Option.isSome_iff_exists.mp returned
  refine replays_same_body (reachable_after _) (fun _ _ => rfl) (fun _ entry member id text => ?_)
    (fun _ _ _ => rfl) trivial rfl (answer?_eq_some.mp answered)
  cases List.mem_singleton.mp member
  cases text
  decide

end QueueFlow.Concurrency
