import QueueFlow.Concurrency.CallTimes
import QueueFlow.Concurrency.Numbering
import QueueFlow.Conduct.Sending

/-!
# Numbers and creation times

A ticket is created when its transaction begins, but its number is taken by a later statement. The
numbers follow the creation times as long as they are taken in the order in which the transactions
began.
-/

namespace QueueFlow.Concurrency
open QueueFlow.App QueueFlow.Data QueueFlow.Tables QueueFlow.Transactions

variable {ι : Type} [DecidableEq ι] {hexdigest : PyDict → String} {env : Nat → Env}
  {requests : ι → Request} {db : Database} {ok : AppWorld ι → ι → Prop} {w : AppWorld ι}
  {locationId : UUID}

/-- Of two tickets with the same priority, the one with the smaller number was not created later. -/
def InNumberOrder (db : Database) (locationId : UUID) : Prop :=
  ∀ a ∈ db.tickets.rows, ∀ b ∈ db.tickets.rows, a.locationId = locationId →
    b.locationId = locationId → a.priority = b.priority → a.number < b.number →
      a.createdAt ≤ b.createdAt

instance (db : Database) (locationId : UUID) : Decidable (InNumberOrder db locationId) :=
  inferInstanceAs (Decidable (∀ a ∈ db.tickets.rows, ∀ b ∈ db.tickets.rows, _))

def Request.priority : Request → Nat
  | .createTicket data _ _ => data.priority
  | _ => 5

def Stmt.numberedAt? : Stmt → Option UUID
  | .read (.nextNumber locationId) => some locationId
  | _ => none

def numberTaken (locationId : UUID) (entry : Entry ι) : Option Nat :=
  match entry.action with
  | .performed (.read (.nextNumber place)) number _ => if place = locationId then some number else none
  | _ => none

/-- If session `j` is about to take a number, then whoever has taken a smaller one for the same
priority had begun when `j` began. -/
def TakesNumberInOrder (requests : ι → Request) (w : AppWorld ι) (j : ι) : Prop :=
  ∀ stmt ∈ (w.session j).stmt?, ∀ locationId ∈ Stmt.numberedAt? stmt, ∀ entry ∈ w.state.log,
    ∀ number ∈ numberTaken locationId entry,
      number < (w.state.view engine j).nextNumber locationId →
      Request.priority (requests entry.owner) = Request.priority (requests j) →
        Begun entry.owner (beforeBegin j w.state.log)

instance (requests : ι → Request) (w : AppWorld ι) (j : ι) :
    Decidable (TakesNumberInOrder requests w j) :=
  inferInstanceAs (Decidable (∀ stmt ∈ (w.session j).stmt?,
    ∀ locationId ∈ Stmt.numberedAt? stmt, ∀ entry ∈ w.state.log,
      ∀ number ∈ numberTaken locationId entry, _ → _ → _))

/-! ## The greatest number -/

theorem nextNumber_le {bound : Nat} (below : ∀ ticket ∈ db.tickets.rows,
    ticket.locationId = locationId → ticket.number ≤ bound) :
    db.nextNumber locationId ≤ bound + 1 := by
  refine Nat.succ_le_succ (List.max_le_of_forall_le _ bound fun number member => ?_)
  obtain ⟨ticket, listed, rfl⟩ := List.mem_map.mp member
  obtain ⟨stored, here⟩ := List.mem_filter.mp listed
  exact below ticket stored (of_decide_eq_true here)

theorem nextNumber_mono {after : Database}
    (kept : ∀ ticket ∈ db.tickets.rows, ticket ∈ after.tickets.rows) :
    db.nextNumber locationId ≤ after.nextNumber locationId := by
  obtain ⟨bound, next⟩ : ∃ bound, after.nextNumber locationId = bound + 1 := ⟨_, rfl⟩
  rw [next]
  refine nextNumber_le fun ticket member here => ?_
  have := number_lt_nextNumber (kept ticket member) here
  omega

/-! ## What creations leave in the log -/

def Stmt.prioritizes (priority : Nat) : Stmt → Prop
  | .write (.insertTicket new) => new.priority = priority
  | _ => True

theorem program_prioritizes (hexdigest : PyDict → String) {request : Request}
    (opens : request.opensAt ≠ none) :
    (program hexdigest request).Sends (Stmt.prioritizes (Request.priority request)) := by
  have lenient : Lenient (Stmt.prioritizes (Request.priority request)) :=
    ⟨fun _ => trivial, fun _ => trivial⟩
  cases request with
  | createTicket data actor key =>
      exact sends_bind (lenient.createTicket (fun _ same => same) fun _ => trivial) fun _ => trivial
  | kioskCreateTicket body key =>
      exact sends_bind (lenient.kioskCreateTicket (fun _ same _ _ => same) fun _ _ => trivial)
        fun _ => trivial
  | _ => exact (opens rfl).elim

section
variable (creates : OnlyCreates requests)
  (reach : Reaches engine env ok (initial hexdigest requests db) w)
include creates reach

theorem OnlyCreates.priority_eq {n : Nat} {i : ι} {writes : List Write} {row : Ticket}
    (commit : CommitAt w.state.log n i writes) (member : .insert (.ticket row) ∈ writes) :
    row.priority = Request.priority (requests i) := by
  have sends : ∀ i program, (initial hexdigest requests db).session i = .running program →
      program.Sends (Stmt.prioritizes (Request.priority (requests i))) := by
    rintro i _ ⟨⟩
    exact program_prioritizes hexdigest (creates i)
  obtain ⟨m, stmt, value, performed, _, located, made⟩ :=
    (reaches_provenance reach).performed_of_committed commit member
  obtain ⟨context, locks, ran, _⟩ := (reaches_provenance reach).answered located
  obtain ⟨new, rfl, rfl⟩ := insert_exec ran.exec made
  exact reach.sent sends located

theorem OnlyCreates.inserts (m n : Nat) :
    ∀ write ∈ committedWrites (stretch m n w.state.log), ∃ row, write = .insert row := by
  intro write member
  obtain ⟨k, i, writes, _, _, commit, written⟩ := mem_committedWrites_stretch member
  rcases creates.commit_cases (commits_at reach commit) with ⟨row, event, rfl, _⟩ | ⟨record, rfl⟩
  · simp only [List.mem_cons, List.not_mem_nil, or_false] at written
    rcases written with rfl | rfl <;> exact ⟨_, rfl⟩
  · exact ⟨_, List.mem_singleton.mp written⟩

theorem OnlyCreates.kept {m n : Nat} (ordered : m ≤ n) {ticket : Ticket}
    (member : ticket ∈ (storeAt engine db (w.state.log.take m)).tickets.rows) :
    ticket ∈ (storeAt engine db (w.state.log.take n)).tickets.rows := by
  have found := row_kept_of_inserts ((reaches_serial reach).checked_stretch ordered)
    (creates.inserts reach m n) (row_ticket (Table.get?_of_mem member))
  rw [← storeAt_stretch ordered] at found
  exact Table.mem_of_get? (get?_of_row found)

structure Numbered (db : Database) (log : List (Entry ι)) (ticket : Ticket) (m n : Nat) (i : ι) :
    Prop where
  earlier : m < n
  number : ticket.number = (storeAt engine db (log.take m)).nextNumber ticket.locationId
  taken : ∃ entry, log[m]? = some entry ∧ entry.owner = i ∧
    numberTaken ticket.locationId entry = some ticket.number
  commit : ∃ event, CommitAt log n i [.insert (.ticket ticket), .insert (.event event)]
  first : Uncommitted i (log.take n)

omit creates in
theorem exists_numbered {n : Nat} {i : ι} {writes : List Write} {ticket : Ticket}
    (commit : CommitAt w.state.log n i writes) (member : .insert (.ticket ticket) ∈ writes) :
    ∃ m, Numbered db w.state.log ticket m n i := by
  obtain ⟨place, event, _, rfl, opens⟩ := commits_insert (commits_at reach commit) member
  obtain rfl := opens.location
  obtain ⟨m, order, earlier, located, number⟩ := asked_view reach opens.number
  have unwritten : pendingOf (pastOf i (w.state.log.take m)) = [] :=
    (reaches_conduct reach).1 m _ located
  refine ⟨m, earlier, ?_, ⟨_, located, rfl, ?_⟩,
    ⟨event, commit⟩, uncommitted_of_commitsOf opens.first⟩
  · simpa only [Query.eval, viewAt, unwritten, Engine.applyAll_nil] using number
  · simp [numberTaken]

theorem OnlyCreates.origin {ticket : Ticket} (member : ticket ∈ w.state.store.tickets.rows) :
    ticket ∈ db.tickets.rows ∨ ∃ m n i, Numbered db w.state.log ticket m n i := by
  rcases creates.inserted_since reach.reachable (m := 0) member with earlier | ⟨entry, since, inserted⟩
  · exact .inl earlier
  · obtain ⟨n, located⟩ := List.mem_iff_getElem?.mp since
    obtain ⟨i, action⟩ := entry
    cases action with
    | committed writes =>
        obtain ⟨m, numbered⟩ := exists_numbered reach located inserted
        exact .inr ⟨m, n, i, numbered⟩
    | performed stmt value writes => cases inserted
    | published msg => cases inserted

end

/-! ## The runs -/

def NumbersInOrder (requests : ι → Request) (log : List (Entry ι)) : Prop :=
  Throughout (fun before entry => ∀ locationId, ∀ number ∈ numberTaken locationId entry,
    ∀ earlier ∈ before, ∀ smaller ∈ numberTaken locationId earlier, smaller < number →
      Request.priority (requests earlier.owner) = Request.priority (requests entry.owner) →
        Begun earlier.owner (beforeBegin entry.owner before)) log

theorem numbers_in_order (reach : Reaches engine env (TakesNumberInOrder requests)
    (initial hexdigest requests db) w) : NumbersInOrder requests w.state.log := by
  refine reach.moves (motive := fun w => NumbersInOrder requests w.state.log) throughout_nil ?_
  intro w i program session state before inOrder running moved meets
  cases moved with
  | @performed stmt next value writes locks ready exec =>
      refine throughout_concat inOrder fun locationId number taken earlier member smaller took => ?_
      have meets := meets nofun stmt (by rw [running]; rfl)
      cases stmt with
      | read q =>
          cases q with
          | nextNumber place =>
              simp only [numberTaken, Option.mem_def, Option.ite_none_right_eq_some,
                Option.some.injEq] at taken
              obtain ⟨rfl, rfl⟩ := taken
              intro below
              have exec : (Stmt.read (.nextNumber place)).exec (w.state.context engine env i) =
                .done value writes locks := exec
              rw [(exec_read exec).1] at below
              exact meets place rfl earlier member smaller took below
          | _ => cases taken
      | _ => cases taken
  | committed next =>
      refine throughout_concat inOrder fun _ _ taken => ?_
      cases taken
  | published msg next =>
      refine throughout_concat inOrder fun _ _ taken => ?_
      cases taken
  | _ => exact inOrder

theorem begun_before_mono {i j : ι} {log : List (Entry ι)} {m : Nat}
    (begun : Begun i (beforeBegin j (log.take m))) : Begun i (beforeBegin j log) := by
  by_cases started : Begun j (log.take m)
  · rwa [← List.take_append_drop m log, beforeBegin_append started]
  · obtain ⟨entry, member, statement⟩ := begun
    refine ⟨entry, ?_, statement⟩
    rw [beforeBegin_of_not_begun started] at member
    rw [beforeBegin, ← List.take_append_drop m log, List.takeWhile_append_of_pos]
    · exact List.mem_append_left _ member
    · intro other listed
      simpa using fun statement => started ⟨other, listed, statement⟩

section
variable (creates : OnlyCreates requests)
  (reach : Reaches engine env (TakesNumberInOrder requests) (initial hexdigest requests db) w)
include creates reach

/-- Of two tickets that the run has created, the one with the smaller number took it first. -/
theorem OnlyCreates.took_first {a b : Ticket} {m n m' n' : Nat} {i j : ι}
    (first : Numbered db w.state.log a m n i) (second : Numbered db w.state.log b m' n' j)
    (here : a.locationId = b.locationId) (smaller : a.number < b.number) : m < m' := by
  by_contra late
  have grows : (storeAt engine db (w.state.log.take m')).nextNumber a.locationId ≤
      (storeAt engine db (w.state.log.take m)).nextNumber a.locationId :=
    nextNumber_mono fun ticket member => creates.kept reach (Nat.not_lt.mp late) member
  have number := second.number
  rw [← here] at number
  rw [first.number, number] at smaller
  exact absurd grows (Nat.not_le.mpr smaller)

theorem OnlyCreates.began_first {a b : Ticket} {m n m' n' : Nat} {i j : ι}
    (first : Numbered db w.state.log a m n i) (second : Numbered db w.state.log b m' n' j)
    (here : a.locationId = b.locationId) (equal : a.priority = b.priority)
    (smaller : a.number < b.number) : Begun i (beforeBegin j w.state.log) := by
  obtain ⟨entry, located, rfl, took⟩ := first.taken
  obtain ⟨entry', located', rfl, took'⟩ := second.taken
  obtain ⟨event, commit⟩ := first.commit
  obtain ⟨event', commit'⟩ := second.commit
  have member : entry ∈ w.state.log.take m' :=
    mem_take.mpr ⟨m, creates.took_first reach first second here smaller, located⟩
  rw [here] at took
  refine begun_before_mono (numbers_in_order reach m' entry' located' b.locationId b.number took'
    entry member a.number took smaller ?_)
  rw [← creates.priority_eq reach commit List.mem_cons_self,
    ← creates.priority_eq reach commit' List.mem_cons_self, equal]

end

theorem numbers_follow_creation (creates : OnlyCreates requests)
    (monotone : Monotone fun tick => (env tick).now)
    (older : ∀ ticket ∈ db.tickets.rows, ticket.createdAt ≤ (env 0).now)
    (base : InNumberOrder db locationId)
    (reach : Reaches engine env (TakesNumberInOrder requests) (initial hexdigest requests db) w) :
    InNumberOrder w.state.store locationId := by
  obtain ⟨began, clocked⟩ := reaches_clocked reach monotone
  have begun {ticket : Ticket} {m n : Nat} {i : ι}
      (numbered : Numbered db w.state.log ticket m n i) : Begun i w.state.log := by
    obtain ⟨entry, located, rfl, took⟩ := numbered.taken
    refine ⟨entry, List.mem_of_getElem? located, ?_⟩
    obtain ⟨owner, action⟩ := entry
    cases action with
    | performed stmt value writes => simp [Event.isStatementOf]
    | _ => cases took
  have created {ticket : Ticket} {m n : Nat} {i : ι}
      (numbered : Numbered db w.state.log ticket m n i) : ticket.createdAt = began i := by
    obtain ⟨event, commit⟩ := numbered.commit
    exact clocked.committed n _ commit _ rfl numbered.first _ List.mem_cons_self
  intro a inA b inB hereA hereB equal smaller
  have here := hereA.trans hereB.symm
  rcases creates.origin reach inA with oldA | ⟨m, n, i, newA⟩ <;>
    rcases creates.origin reach inB with oldB | ⟨m', n', j, newB⟩
  · exact base a oldA b oldB hereA hereB equal smaller
  · rw [created newB]
    exact (older a oldA).trans (clocked.since j (begun newB))
  · have still : b ∈ (storeAt engine db (w.state.log.take m)).tickets.rows :=
      creates.kept reach (Nat.zero_le m) oldB
    have below := number_lt_nextNumber still here.symm
    rw [← newA.number] at below
    exact absurd smaller (Nat.lt_asymm below)
  · rw [created newA, created newB]
    exact clocked.order j i (begun newB)
      (creates.began_first reach newA newB here equal smaller)

def overtaking : Fin 2 → Request
  | 0 => .createTicket (visit 10 (some 20)) clerk (some "k")
  | 1 => .kioskCreateTicket { locationId := 10 } none

def overtakingStart : AppWorld (Fin 2) := initial textDigest overtaking (office .empty)

theorem overtaking_creates : OnlyCreates overtaking := fun i => by
  unfold overtaking
  split <;> decide

theorem numbers_follow_creation_overtaking : InNumberOrder
    (overtakingStart.after engine tickingEnv (runs 1 ++ runs 0)).state.store 10 :=
  numbers_follow_creation overtaking_creates tickingEnv_monotone
    (fun _ member => absurd member List.not_mem_nil) (by decide)
    (reaches_after (by decide +kernel))

/-- The keyed creation begins first and takes its number last. -/
theorem smaller_number_created_later : Monotone (fun tick => (tickingEnv tick).now) ∧
    OnlyCreates overtaking ∧ InNumberOrder (office .empty) 10 ∧
    ∃ w, Reachable engine tickingEnv overtakingStart w ∧ ¬ InNumberOrder w.state.store 10 :=
  ⟨tickingEnv_monotone, overtaking_creates, by decide,
    _, reachable_after ([.run 0, .run 0] ++ runs 1 ++ runs 0), by decide +kernel⟩

end QueueFlow.Concurrency
