import QueueFlow.Conduct.Requests
import QueueFlow.Data.Soundness

/-!
# Concurrent requests

Any number of requests over one database, each session running the program of its request.
-/

namespace QueueFlow.Concurrency
open QueueFlow.App QueueFlow.Data QueueFlow.Tables QueueFlow.Transactions

abbrev AppWorld (ι : Type) : Type :=
  World ι Database Write Lock Stmt Stmt.Res Failure Message Env Response

abbrev Entry (ι : Type) : Type := Event ι Stmt Stmt.Res Write Message

def initial {ι : Type} (hexdigest : PyDict → String) (requests : ι → Request) (db : Database) :
    AppWorld ι :=
  ⟨.start db, fun i => .running (program hexdigest (requests i))⟩

variable {ι : Type} [DecidableEq ι] {hexdigest : PyDict → String} {env : Nat → Env}
  {requests : ι → Request} {db : Database} {ok : AppWorld ι → ι → Prop} {w : AppWorld ι}

theorem reaches_provenance (reach : Reaches engine env ok (initial hexdigest requests db) w) :
    Provenance engine env db w := reach.provenance

theorem reaches_conduct (reach : Reaches engine env ok (initial hexdigest requests db) w) :
    Justified (fun i => (requests i).allows hexdigest env) w.state.log ∧ ∀ i,
      (w.session i).Follows engine env ((requests i).allows hexdigest env)
        (fun response past _ => (requests i).returns past response) (pastOf i w.state.log)
        (w.state.tx i).writes :=
  reach.obeys fun i => program_complies hexdigest (requests i)

theorem proper_of_allows {request : Request} {past : List Act} {stmt : Stmt}
    {value : stmt.Res} {writes : List Write}
    (allowed : request.allows hexdigest env past (.performed stmt value writes)) : stmt.Proper := by
  cases stmt with
  | write command =>
      cases command with
      | updateTicket id set => exact ⟨allowed.1.1, allowed.2.stays⟩
      | _ => trivial
  | _ => trivial

theorem checked_running (reach : Reaches engine env ok (initial hexdigest requests db) w) {i : ι}
    {stmt : Stmt} {next : stmt.Res → Handler Response} {value : stmt.Res} {writes : List Write}
    {locks : List Lock} (running : w.session i = .running (.performs stmt next))
    (exec : stmt.exec (w.state.context engine env i) = .done value writes locks) :
    Checked engine Database.row Sound (w.state.view engine i) writes := by
  have follows := (reaches_conduct reach).2 i
  rw [running] at follows
  exact checked_exec (proper_of_allows (follows _ _ _ _ exec).1) exec

theorem reaches_serial (reach : Reaches engine env ok (initial hexdigest requests db) w) :
    Serial engine Database.row Sound db w.state :=
  reach.serial engine_rowed fun _ _ _ _ _ _ _ before _ running exec =>
    checked_running before running exec

theorem asked_view (reach : Reaches engine env ok (initial hexdigest requests db) w) {i : ι}
    {p : Nat} {q : Query} {answer : q.Res}
    (asked : Asked (pastOf i (w.state.log.take p)) q answer) :
    ∃ m order, m < p ∧ w.state.log[m]? = some ⟨i, .performed (.read q) answer []⟩ ∧
      answer = q.eval (viewAt engine db i (w.state.log.take m)) order := by
  obtain ⟨m, before, located⟩ := mem_take.mp (mem_pastOf.mp asked)
  obtain ⟨context, locks, ran, _⟩ := (reaches_provenance reach).answered located
  have exec : (Stmt.read q).exec context = .done answer [] locks := ran.exec
  have answered := (exec_read exec).1
  rw [ran.view] at answered
  exact ⟨m, context.env.order, before, located, answered⟩

theorem view_unwritten
    (reach : Reaches engine env ok (initial hexdigest requests db) w) {lock : Lock}
    (unwritten : ∀ (q : Nat) (j : ι) (stmt : Stmt) (value : stmt.Res) (writes : List Write),
      w.state.log[q]? = some ⟨j, .performed stmt value writes⟩ →
        ∀ write ∈ writes, write.lock ≠ lock) (i : ι) (p : Nat) :
    (viewAt engine db i (w.state.log.take p)).row lock = db.row lock := by
  rw [viewAt, row_applyAll_of_unlocked engine_rowed, storeAt,
    row_applyAll_of_unlocked engine_rowed]
  · intro write member
    obtain ⟨j, writes, logged, written⟩ := mem_committedWrites.mp member
    obtain ⟨n, _, commit⟩ := mem_take.mp logged
    obtain ⟨q, stmt, value, performed, _, located, made⟩ :=
      (reaches_provenance reach).performed_of_committed commit written
    exact unwritten q j stmt value performed located write made
  · intro write member
    obtain ⟨stmt, value, writes, past, written⟩ := mem_pendingOf member
    obtain ⟨q, _, located⟩ := mem_take.mp (mem_pastOf.mp past)
    exact unwritten q i stmt value writes located write written

theorem view_record (reach : Reaches engine env ok (initial hexdigest requests db) w)
    (operational : ∀ i, ¬ (requests i).isAdmin) (i : ι) (p : Nat) (lock : Lock)
    (isRecord : lock.isRecord = true) :
    (viewAt engine db i (w.state.log.take p)).row lock = db.row lock := by
  refine view_unwritten reach (fun q j stmt value writes located write member => ?_) i p
  rintro rfl
  obtain ⟨context, locks, ran, _⟩ := (reaches_provenance reach).answered located
  have allowed := (reaches_conduct reach).1 q _ located
  rcases record_exec ran.exec member isRecord with ⟨new, rfl⟩ | ⟨update, rfl⟩
  · exact operational j allowed
  · exact operational j allowed

/-! ## Commits -/

/-- Position `n` of the log is a commit of session `i`. -/
def CommitAt (log : List (Entry ι)) (n : Nat) (i : ι) (writes : List Write) : Prop :=
  log[n]? = some ⟨i, .committed writes⟩

/-- The commit at a position, for runs that are computed. -/
def commitAt (log : List (Entry ι)) (n : Nat) : Option (ι × List Write) :=
  match log[n]? with
  | some ⟨i, .committed writes⟩ => some (i, writes)
  | _ => none

omit [DecidableEq ι] in
theorem commitAt_eq_some {log : List (Entry ι)} {n : Nat} {i : ι} {writes : List Write} :
    commitAt log n = some (i, writes) ↔ CommitAt log n i writes := by
  unfold commitAt CommitAt
  split
  · rename_i located
    simp [located]
  · rename_i other
    refine iff_of_false (by simp) fun located => other i writes located

omit [DecidableEq ι] in
theorem exists_commitAt {log : List (Entry ι)} {n : Nat} {i : ι} :
    (∃ writes, CommitAt log n i writes) ↔ (commitAt log n).map Prod.fst = some i := by
  simp [← commitAt_eq_some]

theorem commits_at (reach : Reaches engine env ok (initial hexdigest requests db) w) {n : Nat}
    {i : ι} {writes : List Write} (commit : CommitAt w.state.log n i writes) :
    (requests i).commits hexdigest env (pastOf i (w.state.log.take n)) writes :=
  (reaches_conduct reach).1 n _ commit

theorem first_commit {log : List (Entry ι)} {i : ι} {first : List Write}
    {rest : List (List Write)} (commits : commitsOf (pastOf i log) = first :: rest) :
    ∃ n, CommitAt log n i first ∧ commitsOf (pastOf i (log.take n)) = [] := by
  induction log using List.reverseRecOn generalizing rest with
  | nil => simp at commits
  | append_singleton log entry ih =>
      have later {rest : List (List Write)} (commits : commitsOf (pastOf i log) = first :: rest) :
          ∃ n, CommitAt (log ++ [entry]) n i first ∧
            commitsOf (pastOf i ((log ++ [entry]).take n)) = [] := by
        obtain ⟨n, commit, earliest⟩ := ih commits
        have inside : n < log.length := (List.getElem?_eq_some_iff.mp commit).1
        refine ⟨n, by rw [CommitAt, List.getElem?_append_left inside]; exact commit, ?_⟩
        rwa [List.take_append_of_le_length (Nat.le_of_lt inside)]
      rw [pastOf_append] at commits
      obtain ⟨owner, action⟩ := entry
      by_cases mine : owner = i
      · subst mine
        rw [pastOf_own] at commits
        cases action with
        | performed stmt value writes => exact later (by simpa [commitsOf] using commits)
        | published msg => exact later (by simpa [commitsOf] using commits)
        | committed writes =>
            rw [commitsOf_committed] at commits
            cases before : commitsOf (pastOf owner log) with
            | nil =>
                rw [before] at commits
                cases commits
                exact ⟨log.length, by simp [CommitAt], by simpa using before⟩
            | cons head tail =>
                rw [before] at commits
                cases commits
                exact later before
      · rw [pastOf_other mine] at commits
        exact later (by simpa using commits)

omit [DecidableEq ι] in
theorem mem_committedWrites_at {log : List (Entry ι)} {write : Write}
    (member : write ∈ committedWrites log) :
    ∃ n i writes, CommitAt log n i writes ∧ write ∈ writes := by
  obtain ⟨i, writes, logged, written⟩ := mem_committedWrites.mp member
  obtain ⟨n, inside, found⟩ := List.getElem_of_mem logged
  exact ⟨n, i, writes, List.getElem?_eq_some_iff.mpr ⟨inside, found⟩, written⟩

omit [DecidableEq ι] in
theorem mem_committedWrites_stretch {log : List (Entry ι)} {m n : Nat} {write : Write}
    (member : write ∈ committedWrites (stretch m n log)) :
    ∃ k i writes, m ≤ k ∧ k < n ∧ CommitAt log k i writes ∧ write ∈ writes := by
  obtain ⟨i, writes, logged, written⟩ := mem_committedWrites.mp member
  obtain ⟨k, low, high, located⟩ := mem_stretch logged
  exact ⟨k, i, writes, low, high, located, written⟩

/-! ## Conditions on the next step -/

theorem isCommitting_imp_iff (P : Prop)
    (session : Session Stmt Stmt.Res Failure Message Env Response) :
    (session.isCommitting = true → P) ↔
      match session with
      | .running (.commits _) => P
      | _ => True := by
  cases session with
  | running program => cases program <;> simp [Session.isCommitting]
  | _ => simp [Session.isCommitting]

theorem forall_ticketUpdate_iff (P : UUID → TicketUpdate → Prop)
    (session : Session Stmt Stmt.Res Failure Message Env Response) :
    (∀ stmt ∈ session.stmt?, ∀ update ∈ stmt.ticketUpdate?, P update.1 update.2) ↔
      match session with
      | .running (.performs (.write (.updateTicket id set)) _) => P id set
      | _ => True := by
  cases session with
  | running program =>
      cases program with
      | performs stmt next =>
          cases stmt with
          | write command => cases command <;> simp [Session.stmt?, Stmt.ticketUpdate?]
          | _ => simp [Session.stmt?, Stmt.ticketUpdate?]
      | _ => simp [Session.stmt?]
  | _ => simp [Session.stmt?]

theorem forall_call_iff (P : UUID → UUID → Option UUID → Prop)
    (session : Session Stmt Stmt.Res Failure Message Env Response) :
    (∀ stmt ∈ session.stmt?, ∀ call ∈ stmt.call?, P call.1 call.2.1 call.2.2) ↔
      match session with
      | .running (.performs (.callTicket id locationId serviceId _) _) => P id locationId serviceId
      | _ => True := by
  cases session with
  | running program =>
      cases program with
      | performs stmt next => cases stmt <;> simp [Session.stmt?, Stmt.call?]
      | _ => simp [Session.stmt?]
  | _ => simp [Session.stmt?]

/-! ## An office to run requests in -/

def office (tickets : Table Ticket) : Database :=
  { Database.empty with
    tenants := ⟨[⟨1, "City", "city", true⟩], by decide⟩
    locations := ⟨[⟨10, 1, "Hall", none, "UTC", true⟩], by decide⟩
    services := ⟨[⟨20, 1, some 10, "Permits", "P", none, true, 5⟩], by decide⟩
    counters := ⟨[⟨30, 10, "Desk 1", "standard", true⟩, ⟨31, 10, "Desk 2", "standard", true⟩],
      by decide⟩
    users := ⟨[⟨40, 1, "clerk@city.example", "Clerk", "active"⟩], by decide⟩
    tickets := tickets }

def clerk : TokenPayload := ⟨.canonical 40, .canonical 1, [.staff]⟩

def waitingTicket (id : UUID) (number priority : Nat) : Ticket where
  id := id
  tenantId := 1
  locationId := 10
  serviceId := some 20
  channelId := none
  assignedCounterId := none
  number := number
  status := .waiting
  priority := priority
  notes := none
  createdAt := id
  updatedAt := id
  calledAt := none
  serviceStartedAt := none
  completedAt := none

def crowdedOffice : Database := office ⟨[waitingTicket 2 1 5, waitingTicket 3 2 1], by decide⟩

def calledTicket : Ticket :=
  { waitingTicket 2 1 5 with
    status := .called, assignedCounterId := some 30, calledAt := some (hours 1) }

def calledDesk : Database := office ⟨[calledTicket], by decide⟩

/-- As `seed.py` leaves it: a ticket has been called to desk 1. -/
def calledOffice : Database :=
  { calledDesk with
    ticketEvents := ⟨[⟨50, 2, .created, none, some 40, none, 2⟩,
      ⟨51, 2, .called, some .waiting, some 40, some (.counter 30), hours 1⟩], by decide⟩ }

def steadyEnv (tick : Nat) : Env := ⟨hours 1, 1000 + tick, id, false⟩

def tickingEnv (tick : Nat) : Env := ⟨hours 1 + tick, 1000 + tick, id, false⟩

theorem tickingEnv_increasing : StrictMono fun tick => (tickingEnv tick).now :=
  fun _ _ ordered => Nat.add_lt_add_left ordered _

def valueText : PyValue → String
  | .none => "null"
  | .int value => toString value
  | .bool value => toString value
  | .str value => value
  | .uuid value | .uuidText value => toString value

def textDigest (body : PyDict) : String :=
  String.join (body.map fun entry => entry.1 ++ ":" ++ valueText entry.2 ++ ";")

/-- Step session `i` as often as it can be stepped, for requests of a few statements. -/
def runs {ι : Type} (i : ι) : List (Label ι) := List.replicate 20 (.run i)

def visit (locationId : UUID) (serviceId : Option UUID) : TicketCreate :=
  { locationId := locationId, serviceId := serviceId }

def sentBack : Nat → Request
  | 0 => .startService 2 clerk none
  | _ => .transferTicket 2 { targetServiceId := 20 } clerk

def sentBackStart : AppWorld Nat := initial textDigest sentBack calledOffice

/-- Create, call, start, transfer, call again. -/
def rounds : Nat → Request
  | 0 => .createTicket (visit 10 (some 20)) clerk none
  | 1 => .callNext 30 {} clerk none
  | 2 => .startService 1001 clerk none
  | 3 => .transferTicket 1001 { targetServiceId := 20 } clerk
  | _ => .callNext 31 {} clerk none

def roundsStart : AppWorld Nat := initial textDigest rounds (office .empty)

def roundsWorld : AppWorld Nat :=
  roundsStart.after engine steadyEnv (runs 0 ++ runs 1 ++ runs 2 ++ runs 3 ++ runs 4)

theorem rounds_reachable : Reachable engine steadyEnv roundsStart roundsWorld := reachable_after _

end QueueFlow.Concurrency
