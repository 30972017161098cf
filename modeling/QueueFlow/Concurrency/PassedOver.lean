import QueueFlow.Concurrency.Invariants
import QueueFlow.Data.Order
import QueueFlow.Transactions.Moments

/-!
# Tickets that call-next passes over

Whatever else is going on, call-next leaves a ticket of its snapshot behind only for one before it,
or when somebody else is at it or it waits no more.
-/

namespace QueueFlow.Concurrency
open QueueFlow.App QueueFlow.Data QueueFlow.Tables QueueFlow.Transactions

variable {hexdigest : PyDict → String} {env : Nat → Env}

/-! ## What a call-next has done when it answers -/

/-- A row that the session has written itself was not there when it looked for it. -/
def Vanished (past : List Act) : Prop :=
  ∃ earlier later row, past = earlier ++ .performed (.read (.ticket row.id)) none [] :: later ∧
    .update (.ticket row) ∈ pendingOf earlier

def FoundRecord (past : List Act) (key : Option String) : Prop :=
  ∃ tenantId name now record, Asked past (.idempotencyKey tenantId name now) (some record) ∧
    given key = some name

/-- After its snapshot the session tried the candidates in order, up to the one in the answer. -/
structure TriesAll (past later : List Act) (locationId : UUID) (serviceId : Option UUID)
    (counterId : UUID) (candidates : List Ticket) (answer : Option TicketRead) : Prop where
  nobody : answer = none → Vanished past ∨
    ∀ ticket ∈ candidates, Skipped later ticket.id locationId serviceId counterId
  called : ∀ read, answer = some read → ∃ front taken back, candidates = front ++ taken :: back ∧
    taken.id = read.ticket.id ∧
      ∀ ticket ∈ front, Skipped later ticket.id locationId serviceId counterId

def Chooses (counterId : UUID) (body : CallNextBody) (key : Option String)
    (answer : Option TicketRead) (past : List Act) : Prop :=
  FoundRecord past key ∨ ∃ counter earlier candidates tried,
    earlier ++ .performed (.read (.waitingTickets counter.locationId body.serviceId))
      candidates [] :: tried <+: past ∧
    Asked earlier (.counter counterId) (some counter) ∧
    TriesAll past tried counter.locationId body.serviceId counterId candidates answer

section
variable {α : Type} {Q : α → List Act → List Write → Prop} {past : List Act} {pending : List Write}

theorem obeys_seen {q : Query} {next : q.Res → Handler α}
    (rest : ∀ answer, (∃ db order, answer = q.eval db order) →
      Obeys engine env (fun _ _ => True) Q (next answer)
        (past ++ [.performed (.read q) answer []]) pending) :
    Obeys engine env (fun _ _ => True) Q ((query q).bind next) past pending := by
  intro context value writes locks exec
  obtain ⟨answered, rfl, _⟩ := exec_read exec
  exact ⟨trivial, by simpa using rest value ⟨_, _, answered⟩⟩

theorem obeys_firstCalled {locationId counterId : UUID} {serviceId : Option UUID}
    {candidates : List Ticket} {next : Option Ticket → Handler α}
    (nobody : ∀ more,
      (∀ ticket ∈ candidates, Skipped more ticket.id locationId serviceId counterId) →
        Obeys engine env (fun _ _ => True) Q (next none) (past ++ more) pending)
    (called : ∀ row front taken back more, candidates = front ++ taken :: back →
      taken.id = row.id →
      (∀ ticket ∈ front, Skipped more ticket.id locationId serviceId counterId) →
      .update (.ticket row) ∈ pendingOf (past ++ more) →
        Obeys engine env (fun _ _ => True) Q (next (some row)) (past ++ more)
          (pending ++ [.update (.ticket row)])) :
    Obeys engine env (fun _ _ => True) Q
      ((firstCalled locationId serviceId counterId candidates).bind next) past pending := by
  induction candidates generalizing past with
  | nil =>
      have none := nobody [] (by simp)
      rw [List.append_nil] at none
      exact none
  | cons candidate candidates ih =>
      simp only [firstCalled, Program.bind_eq, Program.pure_eq, Program.bind_assoc]
      intro context value writes locks exec
      refine ⟨trivial, ?_⟩
      rcases exec_callTicket exec with ⟨rfl, rfl, _⟩ | ⟨row, _, found, _, _, rfl, rfl⟩
      · have failed (more : List Act) : Skipped (.performed (.callTicket candidate.id locationId
            serviceId counterId) (none : Option Ticket) [] :: more) candidate.id locationId
              serviceId counterId := List.mem_cons_self
        rw [List.append_nil]
        refine ih (fun more all => ?_) fun row front taken back more split same skipped held => ?_
        · rw [List.append_assoc]
          refine nobody _ fun ticket member => ?_
          rcases List.mem_cons.mp member with rfl | later
          · exact failed more
          · exact List.mem_cons_of_mem _ (all ticket later)
        · rw [List.append_assoc] at held ⊢
          refine called row (candidate :: front) taken back _ (by rw [split]; rfl) same ?_ held
          intro ticket member
          rcases List.mem_cons.mp member with rfl | later
          · exact failed more
          · exact List.mem_cons_of_mem _ (skipped ticket later)
      · have key : row.id = candidate.id := Table.key_of_get? found
        refine called _ [] candidate candidates _ rfl key.symm (by simp) ?_
        rw [pendingOf_concat]
        exact List.mem_append_right _ List.mem_cons_self

end

theorem obeys_readCalled {past : List Act} {pending : List Write} {id : UUID}
    {next : Option (Ticket × Option Service) → Handler (Option TicketRead)}
    {Q : Option TicketRead → List Act → List Write → Prop}
    (missing : Obeys engine env (fun _ _ => True) Q (next none)
      (past ++ [.performed (.read (.ticket id)) none []]) pending)
    (found : ∀ ticket service more, ticket.id = id →
      Obeys engine env (fun _ _ => True) Q (next (some (ticket, service))) (past ++ more) pending) :
    Obeys engine env (fun _ _ => True) Q ((ticketWithService id).bind next) past pending := by
  simp only [ticketWithService, Program.bind_eq, Program.pure_eq, Program.bind_assoc]
  refine obeys_seen fun answer answered => ?_
  obtain ⟨db, _, answered⟩ := answered
  cases answer with
  | none => exact missing
  | some ticket =>
      have there : db.tickets.get? id = some ticket := answered.symm
      have key : ticket.id = id := Table.key_of_get? there
      dsimp only
      cases ticket.serviceId with
      | none => exact found ticket none _ key
      | some serviceId =>
          simp only [Program.bind_assoc]
          refine obeys_seen fun service _ => ?_
          rw [List.append_assoc]
          exact found ticket service _ key

theorem obeys_chooses {counterId tenantId : UUID} {body : CallNextBody}
    {actor : TokenPayload} {key : Option String} {counter : Counter} {past : List Act}
    {pending : List Write} (known : Asked past (.counter counterId) (some counter)) :
    Obeys engine env (fun _ _ => True) (fun answer past _ => Chooses counterId body key answer past)
      (callNextNew hexdigest counter.locationId counterId tenantId body actor key) past
        pending := by
  simp only [callNextNew, callNextTicket, callNextCte, Program.bind_eq, Program.pure_eq,
    Program.bind_assoc]
  refine obeys_then fun userId earlier pending more => obeys_seen fun candidates _ => ?_
  have chooses {later tried : List Act} {answer : Option TicketRead}
      (more' : earlier ++ [.performed (.read (.waitingTickets counter.locationId
        body.serviceId)) candidates []] ++ tried <+: later)
      (tries : TriesAll later tried counter.locationId body.serviceId counterId candidates answer) :
      Chooses counterId body key answer later :=
    .inr ⟨counter, earlier, candidates, tried, by simpa using more', more.subset known, tries⟩
  refine obeys_firstCalled (fun tried all => ?_) fun row front taken back tried split same skipped
    held => ?_
  · exact ⟨trivial, chooses (List.prefix_append ..) ⟨fun _ => .inr all, by rintro _ ⟨⟩⟩⟩
  · simp only [Program.bind_assoc]
    intro context value writes locks exec
    refine ⟨trivial, ?_⟩
    refine obeys_readCalled ⟨trivial, ?_⟩ fun ticket service onward same' => ⟨trivial, ?_⟩
    · have tries {later : List Act} (vanished : Vanished later) : TriesAll later tried
          counter.locationId body.serviceId counterId candidates none :=
        ⟨fun _ => .inl vanished, by rintro _ ⟨⟩⟩
      refine chooses ?_ (tries ⟨_, _, row, List.append_assoc .., ?_⟩)
      · simp
      · rw [pendingOf_concat]
        exact List.mem_append_left _ held
    · refine obeys_then fun _ _ _ saved => obeys_then fun _ _ _ logged =>
        obeys_then fun _ later _ published => ?_
      have tries : TriesAll later tried counter.locationId body.serviceId counterId candidates
          (some (.modelValidate ticket service)) := {
        nobody := by rintro ⟨⟩
        called := by
          rintro read ⟨⟩
          exact ⟨front, taken, back, split, same.trans same'.symm, skipped⟩ }
      refine chooses (List.IsPrefix.trans ?_ (saved.trans (logged.trans published))) tries
      simp

theorem obeys_callNext_chooses {counterId : UUID} {body : CallNextBody} {actor : TokenPayload}
    {key : Option String} :
    Obeys engine env (fun _ _ => True) (fun answer past _ => Chooses counterId body key answer past)
      (callNext hexdigest counterId body actor key) [] [] := by
  simp only [callNext, Program.bind_eq, Program.pure_eq]
  refine obeys_then fun _ past pending _ => obeys_seen fun counter _ => ?_
  cases counter with
  | none => trivial
  | some counter =>
      refine obeys_seen fun location _ => ?_
      cases location with
      | none => trivial
      | some location =>
          refine obeys_then fun _ _ _ checked =>
            obeys_then fun tenantId past pending parsed => ?_
          have known : Asked past (.counter counterId) (some counter) :=
            (checked.trans parsed).subset (by simp)
          split
          · exact obeys_chooses known
          · rename_i name named
            simp only [calledBefore, getIdempotencyKey, Program.bind_eq, Program.pure_eq,
              Program.bind_assoc]
            intro tick
            refine obeys_seen fun existing _ => ?_
            cases existing with
            | none => exact obeys_chooses (List.mem_append_left _ known)
            | some record =>
                refine obeys_mono (obeys_continues _ _ _) fun answer later _ more => .inl ?_
                exact ⟨tenantId, name, (env tick).now, record, more.subset (by simp), named⟩

theorem program_chooses (request : Request) :
    Obeys engine env (fun _ _ => True) (fun response past _ => ∀ counterId body actor key answer,
      request = .callNext counterId body actor key → response = .called answer →
        Chooses counterId body key answer past) (program hexdigest request) [] [] := by
  cases request with
  | callNext counterId body actor key =>
      refine obeys_bind.mpr (obeys_mono obeys_callNext_chooses fun _ _ _ chooses => ?_)
      rintro _ _ _ _ _ ⟨⟩ ⟨⟩
      exact chooses
  | _ =>
      refine obeys_mono (obeys_of_forall (fun _ _ => trivial) _ _ _) fun _ _ _ _ => ?_
      rintro _ _ _ _ _ ⟨⟩

/-! ## What it met on the way -/

section
variable {ι : Type} [DecidableEq ι] {requests : ι → Request} {db : Database}
  {ok : AppWorld ι → ι → Prop} {seen w : AppWorld ι} {i : ι}

/-- Between `seen` and `w` the session comes to the ticket, and somebody else is at it or it waits
no more. -/
def Unavailable (env : Nat → Env) (ok : AppWorld ι → ι → Prop) (seen w : AppWorld ι) (i : ι)
    (locationId : UUID) (serviceId : Option UUID) (id : UUID) : Prop :=
  ∃ here, Reaches engine env ok seen here ∧ Reaches engine env ok here w ∧
    (here.state.busy i (.ticket id) = true ∨
      ∀ row ∈ (here.state.view engine i).tickets.get? id, ¬ row.waitsFor locationId serviceId)

theorem Reaches.unavailable (onward : Reaches engine env ok seen w) {locationId counterId : UUID}
    {serviceId : Option UUID} {ticket : Ticket}
    (failed : Skipped (pastOf i (w.state.log.drop (seen.state.log.length + 1))) ticket.id locationId
      serviceId counterId) :
    Unavailable env ok seen w i locationId serviceId ticket.id := by
  obtain ⟨n, located⟩ := List.mem_iff_getElem?.mp (mem_pastOf.mp failed)
  rw [List.getElem?_drop] at located
  obtain ⟨here, moment⟩ := onward.moment (by omega) located
  obtain ⟨locks, exec⟩ := moment.exec
  refine ⟨here, moment.reached, moment.onward, ?_⟩
  rcases exec_callTicket exec with ⟨_, _, passed⟩ | ⟨_, _, _, _, _, impossible, _⟩
  · exact passed
  · cases impossible

theorem not_vanished (reach : Reaches engine env ok (initial hexdigest requests db) w) :
    ¬ Vanished (pastOf i w.state.log) := by
  rintro ⟨earlier, later, row, split, written⟩
  obtain ⟨p, located, rfl, _⟩ := split_pastOf split
  obtain ⟨context, locks, ran, _⟩ := (reaches_provenance reach).answered located
  have exec : (Stmt.read (.ticket row.id)).exec context = .done none [] locks := ran.exec
  have answered := (exec_read exec).1
  rw [ran.view] at answered
  obtain ⟨ticket, there⟩ := get?_of_written (storeAt engine db (w.state.log.take p)) (.inr written)
  exact nomatch answered.trans there

/-- The session finds the queue as it is at `seen`, and leaves no ticket behind that should have
come before the one in the answer and that it could have had. -/
structure PassesNobody (env : Nat → Env) (ok : AppWorld ι → ι → Prop) (seen w : AppWorld ι) (i : ι)
    (locationId : UUID) (serviceId : Option UUID) (answer : Option TicketRead) : Prop where
  nobody : answer = none → ∀ ticket ∈ (seen.state.view engine i).tickets.rows,
    ticket.waitsFor locationId serviceId →
      Unavailable env ok seen w i locationId serviceId ticket.id
  called : ∀ read ∈ answer, ∃ taken ∈ (seen.state.view engine i).tickets.rows,
    taken.id = read.ticket.id ∧ taken.waitsFor locationId serviceId ∧
    ∀ ticket ∈ (seen.state.view engine i).tickets.rows, ticket.waitsFor locationId serviceId →
      ticket.before taken → Unavailable env ok seen w i locationId serviceId ticket.id

theorem nobody_passed_over {counterId : UUID} {body : CallNextBody} {actor : TokenPayload}
    {key : Option String} {answer : Option TicketRead}
    (reach : Reaches engine env ok (initial hexdigest requests db) w)
    (request : requests i = .callNext counterId body actor key)
    (returned : w.session i = .returned (.called answer)) :
    FoundRecord (pastOf i w.state.log) key ∨ ∃ counter seen,
      Asked (pastOf i seen.state.log) (.counter counterId) (some counter) ∧
      Reaches engine env ok (initial hexdigest requests db) seen ∧ Reaches engine env ok seen w ∧
      PassesNobody env ok seen w i counter.locationId body.serviceId answer := by
  have follows := (reach.obeys fun i => program_chooses (requests i)).2 i
  rw [returned] at follows
  obtain ⟨_, chosen⟩ := follows
  rcases chosen counterId body actor key answer request rfl with
    found | ⟨counter, earlier, candidates, tried, ⟨rest, split⟩, known, tries⟩
  · exact .inl found
  rw [List.append_assoc, List.cons_append, eq_comm] at split
  obtain ⟨p, located, before, after⟩ := split_pastOf split
  obtain ⟨seen, moment⟩ := reach.moment (Nat.zero_le p) located
  obtain ⟨locks, exec⟩ := moment.exec
  have snapshot : candidates = (seen.state.view engine i).waitingTickets
      (env seen.state.tick).order counter.locationId body.serviceId := by
    have exec : (Stmt.read (.waitingTickets counter.locationId body.serviceId)).exec
      (seen.state.context engine env i) = .done candidates [] locks := exec
    exact (exec_read exec).1
  have here : seen.state.log.length = p := by
    rw [moment.log, List.length_take_of_le]
    exact Nat.le_of_lt (List.getElem?_eq_some_iff.mp located).1
  have skipped {ticket : Ticket}
      (failed : Skipped tried ticket.id counter.locationId body.serviceId counterId) :
      Unavailable env ok seen w i counter.locationId body.serviceId ticket.id := by
    have failed : Skipped (pastOf i (w.state.log.drop (seen.state.log.length + 1))) ticket.id
        counter.locationId body.serviceId counterId := by
      rw [here, after]
      exact List.mem_append_left _ failed
    exact Reaches.unavailable moment.onward failed
  refine .inr ⟨counter, seen, ?_, moment.reached, moment.onward, ?_, ?_⟩
  · rw [moment.log, before]
    exact known
  · intro nobody ticket member waits
    rcases tries.nobody nobody with vanished | all
    · exact (not_vanished reach vanished).elim
    · refine skipped (all ticket ?_)
      rw [snapshot]
      exact mem_waitingTickets.mpr ⟨member, waits⟩
  · intro read told
    obtain ⟨front, taken, back, chain, same, all⟩ := tries.called read told
    rw [snapshot] at chain
    have member := mem_waitingTickets.mp (chain ▸ List.mem_append_right front List.mem_cons_self)
    refine ⟨taken, member.1, same, member.2, fun ticket there waits better => skipped ?_⟩
    exact all ticket (mem_before_of_before chain (mem_waitingTickets.mpr ⟨there, waits⟩) better)

end

def endsCall : Session Stmt Stmt.Res Failure Message Env Response → Bool
  | .returned (.called _) => true
  | _ => false

theorem exists_called {session : Session Stmt Stmt.Res Failure Message Env Response}
    (called : endsCall session = true) : ∃ answer, session = .returned (.called answer) := by
  unfold endsCall at called
  split at called
  · exact ⟨_, rfl⟩
  · cases called

theorem nobody_passed_over_rounds : ∃ answer,
    roundsWorld.session 1 = .returned (.called answer) ∧
    (FoundRecord (pastOf 1 roundsWorld.state.log) none ∨ ∃ counter seen,
      Asked (pastOf 1 seen.state.log) (.counter 30) (some counter) ∧
      Reachable engine steadyEnv roundsStart seen ∧ Reachable engine steadyEnv seen roundsWorld ∧
      PassesNobody steadyEnv (fun _ _ => True) seen roundsWorld 1 counter.locationId none
        answer) := by
  obtain ⟨answer, called⟩ : ∃ answer, roundsWorld.session 1 = .returned (.called answer) :=
    exists_called (by decide +kernel)
  exact ⟨answer, called, nobody_passed_over rounds_reachable rfl called⟩

end QueueFlow.Concurrency
