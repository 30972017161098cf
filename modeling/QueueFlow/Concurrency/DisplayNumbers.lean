import QueueFlow.App.ReadApi
import QueueFlow.Concurrency.Snapshots

/-!
# Display numbers

A display number takes the prefix of the service from the relationship that the handler has loaded.
Call-next and the signage load it, and no other path does.
-/

namespace QueueFlow.Concurrency
open QueueFlow.App QueueFlow.Data QueueFlow.Tables QueueFlow.Transactions

/-! ## The number of a ticket -/

def ticketNumber (service : Option Service) (number : Nat) : String :=
  let prefixText := match service with
    | some service => service.prefixText
    | none => "T"
  s!"{prefixText}-{zeroPadded number}"

def Prints (loads : Bool) (service : Option Service) : Prop :=
  ∀ row ∈ service, row.prefixText = "T" ∨ (loads = true ∧ row.prefixText ≠ "")

theorem displayNumber_eq_iff {ticket : Ticket} {loads : Bool} {service : Option Service} :
    displayNumber ticket (if loads then service else none) = ticketNumber service ticket.number ↔
      Prints loads service := by
  have same {a b : String} :
    s!"{a}-{zeroPadded ticket.number}" = s!"{b}-{zeroPadded ticket.number}" ↔
      a = b := by
    simp [toString, String.append_assoc, String.append_left_inj]
  cases service with
  | none => cases loads <;> simp [displayNumber, ticketNumber, Prints]
  | some row =>
      cases loads with
      | false => simpa [displayNumber, ticketNumber, Prints] using same.trans eq_comm
      | true =>
          refine same.trans ?_
          by_cases empty : row.prefixText = "" <;> simp [Prints, empty]

/-! ## What a response has loaded -/

def Loaded (past : List Act) (ticket : Ticket) (service : Option Service) : Prop :=
  match ticket.serviceId with
  | none => service = none
  | some id => Asked past (.service id) service

def PrintsLoaded (past : List Act) (answer : Option TicketRead) : Prop :=
  ∀ read ∈ answer, ∃ service, Loaded past read.ticket service ∧
    read.displayNumber = displayNumber read.ticket service

def Printed (request : Request) (past : List Act) : Response → Prop
  | .ticket read => read.displayNumber = displayNumber read.ticket none
  | .called answer => ¬ request.isAdmin ∧ PrintsLoaded past answer
  | _ => True

variable {env : Nat → Env} {hexdigest : PyDict → String}

theorem Loaded.continues {past later : List Act} {ticket : Ticket} {service : Option Service}
    (loaded : Loaded past ticket service)
    (more : past <+: later) : Loaded later ticket service := by
  unfold Loaded at *
  cases refers : ticket.serviceId with
  | none => simpa [refers] using loaded
  | some id =>
      rw [refers] at loaded
      exact more.subset loaded

section
variable {α : Type} {Q : α → List Act → List Write → Prop} {past : List Act} {pending : List Write}

theorem obeys_query {q : Query} {next : q.Res → Handler α}
    (rest : ∀ answer, Obeys engine env (fun _ _ => True) Q (next answer)
      (past ++ [.performed (.read q) answer []]) pending) :
    Obeys engine env (fun _ _ => True) Q ((query q).bind next) past pending := by
  intro context value writes locks exec
  obtain ⟨_, rfl, _⟩ := exec_read exec
  exact ⟨trivial, by simpa using rest value⟩

theorem obeys_ticketWithService {ticketId : UUID}
    {next : Option (Ticket × Option Service) → Handler α}
    (rest : ∀ found later, (∀ ticket service, found = some (ticket, service) →
      Loaded later ticket service) →
        Obeys engine env (fun _ _ => True) Q (next found) later pending) :
    Obeys engine env (fun _ _ => True) Q ((ticketWithService ticketId).bind next) past pending := by
  simp only [ticketWithService, Program.bind_eq, Program.pure_eq, Program.bind_assoc]
  refine obeys_query fun answer => ?_
  cases answer with
  | none => exact rest none _ fun _ _ impossible => by cases impossible
  | some ticket =>
      dsimp only
      cases refers : ticket.serviceId with
      | none =>
          refine rest _ _ fun _ _ found => ?_
          cases found
          simp [Loaded, refers]
      | some id =>
          simp only [Program.bind_assoc]
          refine obeys_query fun service => rest _ _ fun _ _ found => ?_
          cases found
          simp [Loaded, refers, Asked]

theorem obeys_calledBefore {tenantId : UUID} {key : String} {body : CallNextBody}
    {next : Option (Ticket × Option Service) → Handler α}
    (rest : ∀ found later pending, (∀ ticket service, found = some (ticket, service) →
      Loaded later ticket service) →
        Obeys engine env (fun _ _ => True) Q (next found) later pending) :
    Obeys engine env (fun _ _ => True) Q ((calledBefore hexdigest tenantId key body).bind next)
      past pending := by
  have unloaded (later : List Act) (pending : List Write) :
      Obeys engine env (fun _ _ => True) Q (next none) later pending :=
    rest none _ _ fun _ _ impossible => by cases impossible
  simp only [calledBefore, Program.bind_eq, Program.pure_eq, Program.bind_assoc]
  refine obeys_then fun existing later pending _ => ?_
  cases existing with
  | none => exact unloaded _ _
  | some existing =>
      dsimp only
      cases existing.resourceId with
      | none => exact unloaded _ _
      | some resourceId =>
          dsimp only
          split
          · exact obeys_ticketWithService fun found later loaded => rest found later _ loaded
          · trivial

end

theorem obeys_callNextNew {locationId counterId tenantId : UUID} {body : CallNextBody}
    {actor : TokenPayload} {key : Option String} {past : List Act} {pending : List Write} :
    Obeys engine env (fun _ _ => True) (fun answer past _ => PrintsLoaded past answer)
      (callNextNew hexdigest locationId counterId tenantId body actor key) past pending := by
  simp only [callNextNew, callNextTicket, Program.bind_eq, Program.pure_eq, Program.bind_assoc]
  refine obeys_then fun userId past pending _ => obeys_then fun called past pending _ => ?_
  cases called with
  | none => exact ⟨trivial, fun _ impossible => by cases impossible⟩
  | some called =>
      refine obeys_ticketWithService fun found past loaded => ?_
      cases found with
      | none => exact ⟨trivial, fun _ impossible => by cases impossible⟩
      | some found =>
          obtain ⟨ticket, service⟩ := found
          refine obeys_then fun _ later₁ _ more₁ => obeys_then fun _ later₂ _ more₂ =>
            obeys_then fun _ later₃ _ more₃ => ?_
          rintro read ⟨⟩
          have more := more₁.trans (more₂.trans more₃)
          exact ⟨service, (loaded ticket service rfl).continues more, rfl⟩

theorem obeys_callNext {counterId : UUID} {body : CallNextBody} {actor : TokenPayload}
    {key : Option String} :
    Obeys engine env (fun _ _ => True) (fun answer past _ => PrintsLoaded past answer)
      (callNext hexdigest counterId body actor key) [] [] := by
  simp only [callNext, Program.bind_eq, Program.pure_eq]
  refine obeys_then fun _ past pending _ => obeys_query fun counter => ?_
  cases counter with
  | none => trivial
  | some counter =>
      refine obeys_query fun location => ?_
      cases location with
      | none => trivial
      | some location =>
          refine obeys_then fun _ past pending _ => obeys_then fun tenantId past pending _ => ?_
          split
          · exact obeys_callNextNew
          · refine obeys_calledBefore fun found past pending loaded => ?_
            cases found with
            | none => exact obeys_callNextNew
            | some found =>
                rintro read ⟨⟩
                exact ⟨found.2, loaded _ _ rfl, rfl⟩

theorem program_printed (request : Request) :
    Obeys engine env (fun _ _ => True) (fun response past _ => Printed request past response)
      (program hexdigest request) [] [] := by
  have ticket (handler : Handler Ticket) : Obeys engine env (fun _ _ => True)
      (fun response past _ => Printed request past response) (readTicket <$> handler) [] [] :=
    obeys_then fun _ _ _ _ => rfl
  cases request with
  | callNext counterId body actor key =>
      exact obeys_bind.mpr (obeys_mono obeys_callNext fun _ _ _ prints => ⟨not_false, prints⟩)
  | createTicket | kioskCreateTicket | startService | completeTicket | holdTicket | cancelTicket
  | noShow | transferTicket => exact ticket _
  | _ => exact obeys_then fun _ _ _ _ => trivial

/-! ## Responses of a run -/

section
variable {ι : Type} [DecidableEq ι] {requests : ι → Request} {db : Database}
  {ok : AppWorld ι → ι → Prop} {v w : AppWorld ι} {id : UUID} {number : Nat}
  {serviceId : Option UUID} {service : Option Service} {loads : Bool} {text : String}

def Unchanged
    (db : Database) (v w : AppWorld ι) (id : UUID) (number : Nat) (serviceId : Option UUID)
    (service : Option Service) : Prop :=
  ∀ k ≤ w.state.log.length, v.state.log.length ≤ k →
    (∀ ticket ∈ (storeAt engine db (w.state.log.take k)).tickets.get? id,
      ticket.number = number ∧ ticket.serviceId = serviceId) ∧
    serviceId.bind (storeAt engine db (w.state.log.take k)).services.get? = service

instance : Decidable (Unchanged db v w id number serviceId service) :=
  inferInstanceAs (Decidable (∀ k ≤ _, _ → _ ∧ _))

def About (id : UUID) (number : Nat) (serviceId : Option UUID) (read : TicketRead) : Prop :=
  read.ticket.id = id ∧ read.ticket.number = number ∧ read.ticket.serviceId = serviceId

/-- Between `v` and `w` a response gives the ticket this display number. It `loads` the service or
does not. -/
inductive Shown (env : Nat → Env) (v w : AppWorld ι) (id : UUID) (number : Nat)
    (serviceId : Option UUID) : Bool → String → Prop where
  | ticket {i : ι} {read : TicketRead} (returned : w.session i = .returned (.ticket read))
      (about : About id number serviceId read) :
      Shown env v w id number serviceId false read.displayNumber
  | called {i : ι} {read : TicketRead} (returned : w.session i = .returned (.called (some read)))
      (about : About id number serviceId read)
      (loadsNow : ∀ serviceId service,
        ¬ Asked (pastOf i v.state.log) (.service serviceId) service) :
      Shown env v w id number serviceId true read.displayNumber
  | listed {locationId : UUID} {ofService : Option UUID} {status : Option String}
      {limit offset : Int} {times : List Env} {reads : List TicketRead} {read : TicketRead}
      (beside : Beside engine env (fun _ _ => True)
        (listTickets locationId ofService status limit offset) v w times (.ret reads))
      (listed : read ∈ reads) (about : About id number serviceId read) :
      Shown env v w id number serviceId false read.displayNumber
  | got {times : List Env} {answer : TicketWithEvents}
      (beside : Beside engine env (fun _ _ => True) (getTicket id) v w times (.ret answer))
      (about : About id number serviceId answer.read) :
      Shown env v w id number serviceId false answer.read.displayNumber
  | signage {locationId : UUID} {locationName : String} {times : List Env}
      {snapshot : SignageSnapshot} {entry : SignageTicketEntry}
      (beside : Beside engine env (fun _ _ => True) (getSnapshot locationId locationName) v w times
        (.ret snapshot))
      (shown : entry ∈ snapshot.nowServing ++ snapshot.recentlyCalled) (same : entry.id = id) :
      Shown env v w id number serviceId true entry.displayNumber

theorem reaches_printed (reach : Reaches engine env ok (initial hexdigest requests db) w) {i : ι}
    {response : Response} (returned : w.session i = .returned response) :
    Printed (requests i) (pastOf i w.state.log) response := by
  have follows := (reach.obeys fun i => program_printed (requests i)).2 i
  rw [returned] at follows
  obtain ⟨_, printed⟩ := follows
  exact printed

theorem view_record_of_operational
    (reach : Reaches engine env ok (initial hexdigest requests db) w) {i : ι}
    (operational : ¬ (requests i).isAdmin) (p : Nat) {lock : Lock}
    (isRecord : lock.isRecord = true) :
    (viewAt engine db i (w.state.log.take p)).row lock =
      (storeAt engine db (w.state.log.take p)).row lock := by
  refine row_applyAll_of_unlocked engine_rowed _ fun write member => ?_
  rintro rfl
  obtain ⟨stmt, value, writes, past, written⟩ := mem_pendingOf member
  obtain ⟨q, _, located⟩ := mem_take.mp (mem_pastOf.mp past)
  obtain ⟨context, locks, ran, _⟩ := (reaches_provenance reach).answered located
  have allowed := (reaches_conduct reach).1 q _ located
  rcases record_exec ran.exec written isRecord with ⟨new, rfl⟩ | ⟨update, rfl⟩
  · exact operational allowed
  · exact operational allowed

theorem services_view (reach : Reaches engine env ok (initial hexdigest requests db) w) {i : ι}
    (operational : ¬ (requests i).isAdmin) (p : Nat) (id : UUID) :
    (viewAt engine db i (w.state.log.take p)).services.get? id =
      (storeAt engine db (w.state.log.take p)).services.get? id := by
  have row : (viewAt engine db i (w.state.log.take p)).row (.service id) =
      (storeAt engine db (w.state.log.take p)).row (.service id) :=
    view_record_of_operational reach operational p rfl
  exact Option.map_injective (fun _ _ same => by cases same; rfl) row

theorem Unchanged.between (unchanged : Unchanged db v w id number serviceId service)
    {u : AppWorld ι} (reach : Reaches engine env ok (initial hexdigest requests db) u)
    (first : v.state.log <+: u.state.log) (last : u.state.log <+: w.state.log) :
    (∀ ticket ∈ u.state.store.tickets.get? id,
      ticket.number = number ∧ ticket.serviceId = serviceId) ∧
    serviceId.bind u.state.store.services.get? = service := by
  rw [(reaches_provenance reach).replay, List.prefix_iff_eq_take.mp last]
  exact unchanged _ last.length_le first.length_le

theorem Unchanged.loaded (unchanged : Unchanged db v w id number serviceId service)
    (reach : Reaches engine env ok (initial hexdigest requests db) w)
    (onward : v.state.log <+: w.state.log) {i : ι} (operational : ¬ (requests i).isAdmin)
    {ticket : Ticket} {found : Option Service} (refers : ticket.serviceId = serviceId)
    (loaded : Loaded (pastOf i w.state.log) ticket found)
    (loadsNow : ∀ serviceId service, ¬ Asked (pastOf i v.state.log) (.service serviceId) service) :
    found = service := by
  subst refers
  cases refers : ticket.serviceId with
  | none =>
      have same := (unchanged _ le_rfl onward.length_le).2
      rw [Loaded, refers] at loaded
      rw [refers] at same
      exact loaded.trans same
  | some id =>
      rw [Loaded, refers, ← List.take_length (l := w.state.log)] at loaded
      obtain ⟨m, order, inside, located, rfl⟩ := asked_view reach loaded
      have late : v.state.log.length ≤ m := by
        by_contra early
        have before := mem_take.mpr ⟨m, Nat.lt_of_not_le early, located⟩
        rw [← List.prefix_iff_eq_take.mp onward] at before
        exact loadsNow id _ (mem_pastOf.mpr before)
      have same := (unchanged m (Nat.le_of_lt inside) late).2
      rw [refers] at same
      exact (services_view reach operational m id).trans same

theorem toEntry_displayNumber {services : Table Service} {ids : List UUID} {counters : List Counter}
    {ticket : Ticket} (listed : ∀ id ∈ ticket.serviceId, id ∈ ids) :
    (toEntry (services.rows.filter fun service => service.id ∈ ids) counters ticket).displayNumber =
      displayNumber ticket (ticket.serviceId.bind services.get?) := by
  have found : (ticket.serviceId.bind fun id =>
      (services.rows.filter fun service => service.id ∈ ids).find? fun service => service.id = id) =
        ticket.serviceId.bind services.get? := by
    refine Option.bind_congr fun id refers => ?_
    rw [List.find?_filter]
    congr 1
    funext service
    by_cases same : service.id = id
    · simp [same, listed id refers]
    · simp [same]
  simp only [toEntry, found]

theorem Shown.isDisplayNumber (shown : Shown env v w id number serviceId loads text)
    (reach : Reachable engine env (initial hexdigest requests db) v)
    (onward : Reachable engine env v w)
    (unchanged : Unchanged db v w id number serviceId service) :
    ∃ ticket : Ticket, ticket.number = number ∧
      text = displayNumber ticket (if loads then service else none) := by
  have reached : Reachable engine env (initial hexdigest requests db) w := reach.trans onward
  cases shown with
  | ticket returned about =>
      exact ⟨_, about.2.1, reaches_printed reached returned⟩
  | @called i read returned about loadsNow =>
      obtain ⟨operational, prints⟩ := reaches_printed reached returned
      obtain ⟨found, loaded, printed⟩ := prints read rfl
      obtain rfl := unchanged.loaded reached onward.log_prefix operational about.2.2 loaded loadsNow
      exact ⟨_, about.2.1, printed⟩
  | listed beside listed about =>
      obtain ⟨_, _, _, _, looks⟩ := seen_query beside.looksAt
      obtain rfl := seen_ret looks
      obtain ⟨ticket, _, rfl⟩ := List.mem_map.mp listed
      exact ⟨ticket, about.2.1, rfl⟩
  | got beside about =>
      obtain ⟨store, now, _, _, looks⟩ := seen_query beside.looksAt
      cases found : Query.eval store now.order (.ticket id) with
      | none =>
          rw [found] at looks
          rcases looks.front with impossible | ⟨_, _, _, _, _, impossible, _⟩
          · cases impossible
          · cases impossible
      | some ticket =>
          rw [found] at looks
          obtain ⟨_, _, _, _, looks⟩ := seen_query looks
          obtain rfl := seen_ret looks
          exact ⟨ticket, about.2.1, rfl⟩
  | signage beside shown same =>
      obtain ⟨status, entries, list, member⟩ : ∃ status entries,
          ((status = TicketStatus.inService ∧ entries = _) ∨ (status = .called ∧ entries = _)) ∧
            _ ∈ entries := by
        rcases List.mem_append.mp shown with serving | called
        · exact ⟨_, _, .inl ⟨rfl, rfl⟩, serving⟩
        · exact ⟨_, _, .inr ⟨rfl, rfl⟩, called⟩
      obtain ⟨_, _, counters, ⟨u, toU, fromU, rfl⟩, ⟨u', toU', fromU', rfl⟩, ticket, there, _, ids,
        listed, rfl⟩ := seen_getSnapshot beside.looksAt status entries list _ member
      have first := unchanged.between (reach.trans toU) toU.log_prefix fromU.log_prefix
      have later := unchanged.between (reach.trans toU') toU'.log_prefix fromU'.log_prefix
      obtain ⟨numbered, refers⟩ := first.1 ticket (same ▸ Table.get?_of_mem there)
      refine ⟨ticket, numbered, ?_⟩
      rw [toEntry_displayNumber listed, refers, later.2]
      rfl

theorem Shown.text_eq_iff (shown : Shown env v w id number serviceId loads text)
    (reach : Reachable engine env (initial hexdigest requests db) v)
    (onward : Reachable engine env v w)
    (unchanged : Unchanged db v w id number serviceId service) :
    text = ticketNumber service number ↔ Prints loads service := by
  obtain ⟨ticket, rfl, rfl⟩ := shown.isDisplayNumber reach onward unchanged
  exact displayNumber_eq_iff

variable {loads' : Bool} {text' : String}

theorem responses_share_number
    (reach : Reachable engine env (initial hexdigest requests db) v)
    (onward : Reachable engine env v w)
    (unchanged : Unchanged db v w id number serviceId service)
    (one : Shown env v w id number serviceId loads text)
    (other : Shown env v w id number serviceId loads' text') :
    (text = text' ∧ text = ticketNumber service number) ↔
      Prints loads service ∧ Prints loads' service := by
  rw [← one.text_eq_iff reach onward unchanged, ← other.text_eq_iff reach onward unchanged]
  constructor
  · rintro ⟨rfl, printed⟩
    exact ⟨printed, printed⟩
  · rintro ⟨printed, printed'⟩
    exact ⟨printed.trans printed'.symm, printed⟩

end

/-! ## A customer's ticket and the board -/

def readOf : Session Stmt Stmt.Res Failure Message Env Response → Option (Bool × TicketRead)
  | .returned (.ticket read) => some (false, read)
  | .returned (.called (some read)) => some (true, read)
  | _ => none

theorem shown_of_readOf {env : Nat → Env} {start w : AppWorld Nat} {i : Nat} {id : UUID}
    {number : Nat} {serviceId : Option UUID} {loads : Bool} {text : String}
    (unbegun : start.state.log = [])
    (answered : ((readOf (w.session i)).map fun entry =>
      (entry.1, entry.2.displayNumber, entry.2.ticket.id, entry.2.ticket.number,
        entry.2.ticket.serviceId)) = some (loads, text, id, number, serviceId)) :
    Shown env start w id number serviceId loads text := by
  obtain ⟨entry, here, same⟩ := Option.map_eq_some_iff.mp answered
  cases same
  unfold readOf at here
  split at here
  · cases here
    exact .ticket ‹_› ⟨rfl, rfl, rfl⟩
  · cases here
    exact .called ‹_› ⟨rfl, rfl, rfl⟩ fun _ _ asked => by simp [unbegun, Asked] at asked
  · cases here

def permits : Option Service := (office .empty).services.get? 20

theorem permits_unchanged :
    Unchanged (office .empty) roundsStart roundsWorld 1001 1 (some 20) permits := by
  decide +kernel

theorem rounds_called : Shown steadyEnv roundsStart roundsWorld 1001 1 (some 20) true "P-0001" :=
  shown_of_readOf (i := 1) rfl (by decide +kernel)

/-- Both calls of the ticket print the prefix of its service. -/
theorem responses_share_number_rounds :
    Shown steadyEnv roundsStart roundsWorld 1001 1 (some 20) true "P-0001" ∧
      "P-0001" = ticketNumber permits 1 := by
  have recalled : Shown steadyEnv roundsStart roundsWorld 1001 1 (some 20) true "P-0001" :=
    shown_of_readOf (i := 4) rfl (by decide +kernel)
  have prints : Prints true permits := by rintro row ⟨⟩; simp
  exact ⟨recalled, ((responses_share_number .refl rounds_reachable permits_unchanged rounds_called
    recalled).mpr ⟨prints, prints⟩).2⟩

theorem board_number : ∃ snapshot, lookAll engine calledOffice (List.replicate 10 (steadyEnv 0))
    (getSnapshot 10 "Hall") = some (.ret snapshot) ∧
      ∃ entry ∈ snapshot.nowServing ++ snapshot.recentlyCalled, entry.id = 2 ∧
        entry.displayNumber = "P-0001" := by
  have shown : (((lookAll engine calledOffice (List.replicate 10 (steadyEnv 0))
      (getSnapshot 10 "Hall")).bind answerOf).map fun snapshot =>
        (snapshot.nowServing ++ snapshot.recentlyCalled).map fun entry =>
          (entry.id, entry.displayNumber)) = some [(2, "P-0001")] := by decide +kernel
  obtain ⟨snapshot, looked, entries⟩ := Option.map_eq_some_iff.mp shown
  obtain ⟨program, read, answered⟩ := Option.bind_eq_some_iff.mp looked
  obtain rfl := answerOf_eq_some.mp answered
  obtain ⟨entry, member, same⟩ := List.mem_map.mp (entries ▸ List.mem_singleton_self (2, "P-0001"))
  exact ⟨snapshot, read, entry, member, congrArg Prod.fst same, congrArg Prod.snd same⟩

/-- The board calls P-0001, and whoever serves it reads T-0001. -/
theorem served_by_other_number :
    Reachable engine steadyEnv sentBackStart (servedWorld 20) ∧
      Unchanged calledOffice sentBackStart (servedWorld 20) 2 1 (some 20) permits ∧
      ∃ text text', Shown steadyEnv sentBackStart (servedWorld 20) 2 1 (some 20) false text ∧
        Shown steadyEnv sentBackStart (servedWorld 20) 2 1 (some 20) true text' ∧
          text ≠ text' := by
  have started : Shown steadyEnv sentBackStart (servedWorld 20) 2 1 (some 20) false "T-0001" :=
    shown_of_readOf (i := 0) rfl (by decide +kernel)
  obtain ⟨snapshot, looked, entry, member, same, number⟩ := board_number
  have begun : Beside engine steadyEnv (fun _ _ => True) (getSnapshot 10 "Hall") sentBackStart
      sentBackStart (List.replicate 10 (steadyEnv 0)) (.ret snapshot) := Beside.start.lookAll looked
  refine ⟨reachable_after _, by decide +kernel, _, _, started,
    .signage (begun.run (reachable_after _)) member same, ?_⟩
  rw [number]
  decide

end QueueFlow.Concurrency
