import QueueFlow.Conduct.Rules

namespace QueueFlow.App
open QueueFlow.Data QueueFlow.Tables QueueFlow.Transactions

variable {hexdigest : PyDict → String} {env : Nat → Env} {request : Request} {α β : Type}
  {Q : β → List Act → List Write → Prop}
  {past : List Act} {pending : List Write}

theorem Later.queueIs {past past' : List Act} {locationId : UUID} {serviceId : Option UUID}
    (later : Later past past') (queue : request.queueIs past locationId serviceId) :
    request.queueIs past' locationId serviceId := by
  cases request with
  | callNext counterId body actor key =>
      obtain ⟨service, counter, asked, same⟩ := queue
      exact ⟨service, counter, asked.later later, same⟩
  | _ => exact queue

theorem Later.ownsCounter {past past' : List Act} {counterId locationId : UUID}
    (later : Later past past') (place : request.ownsCounter past counterId locationId) :
    request.ownsCounter past' counterId locationId := by
  obtain ⟨counter, location, saw, here, found, passes⟩ := place
  exact ⟨counter, location, saw.later later, here, found.later later, passes⟩

theorem complies_firstCalled {locationId counterId : UUID} {serviceId : Option UUID}
    {rest : List Ticket} {next : Option Ticket → Handler β} (before : List Ticket)
    (first : commitsOf past = []) (queue : request.queueIs past locationId serviceId)
    (asked : Asked past (.waitingTickets locationId serviceId) (before ++ rest))
    (skipped : ∀ ticket ∈ before, Skipped past ticket.id locationId serviceId counterId)
    (nothing : ∀ past', Later past past' →
      (∀ ticket ∈ before ++ rest, Skipped past' ticket.id locationId serviceId counterId) →
        Complies hexdigest env request Q (next none) past' pending)
    (called : ∀ row past', Later past past' → row.status = .called →
      row.assignedCounterId = some counterId → row.locationId = locationId →
        Complies hexdigest env request Q (next (some row)) past'
          (pending ++ [.update (.ticket row)])) :
    Complies hexdigest env request Q ((firstCalled locationId serviceId counterId rest).bind next) past
      pending := by
  induction rest generalizing before past with
  | nil => exact nothing past .refl (by simpa using skipped)
  | cons candidate rest ih =>
      simp only [firstCalled, Program.bind_eq, Program.pure_eq, Program.bind_assoc]
      intro context value writes locks exec
      refine ⟨⟨first, queue, before, candidate, rest, asked, rfl, skipped⟩, ?_⟩
      rcases exec_callTicket exec with ⟨rfl, rfl, _⟩ | ⟨row, _, _, waits, _, rfl, rfl⟩
      · have later : Later past (past ++ [.performed (.callTicket candidate.id locationId serviceId
            counterId) (none : Option Ticket) []]) := later_performed
        rw [List.append_nil]
        refine ih (before ++ [candidate]) (later.commits.trans first) (later.queueIs queue)
          ?_ ?_ ?_ ?_
        · simpa using asked.later later
        · intro ticket member
          rcases List.mem_append.mp member with earlier | new
          · exact later.sub (skipped ticket earlier)
          · simp only [List.mem_singleton] at new
            subst new
            simp [Skipped]
        · intro past' later' all
          exact nothing past' (later.trans later') (by simpa using all)
        · exact fun row past' later' => called row past' (later.trans later')
      · exact called _ _ later_performed rfl rfl waits.1

theorem complies_ticketWithService {ticketId : UUID}
    {next : Option (Ticket × Option Service) → Handler β}
    (rest : ∀ found past', Later past past' →
      (found = none → past' = past ++ [.performed (.read (.ticket ticketId)) none []]) →
      (∀ ticket service, found = some (ticket, service) → ticket.id = ticketId) →
        Complies hexdigest env request Q (next found) past' pending) :
    Complies hexdigest env request Q ((ticketWithService ticketId).bind next) past pending := by
  simp only [ticketWithService, Program.bind_eq, Program.pure_eq, Program.bind_assoc]
  refine complies_read trivial fun db order => ?_
  simp only [Query.eval]
  cases found : db.tickets.get? ticketId with
  | none =>
      refine rest none _ later_performed (fun _ => rfl) ?_
      intro ticket service impossible
      cases impossible
  | some ticket =>
      have same : ticket.id = ticketId := Table.key_of_get? found
      dsimp only
      cases ticket.serviceId with
      | none =>
          refine rest (some (ticket, none)) _ later_performed (by simp) ?_
          rintro _ _ ⟨⟩
          exact same
      | some serviceId =>
          simp only [Program.bind_assoc]
          refine complies_query trivial fun db' order' past₂ later₂ _ => ?_
          refine rest (some (ticket, _)) past₂ (later_performed.trans later₂.toLater)
            (by simp) ?_
          rintro _ _ ⟨⟩
          exact same

theorem complies_calledBefore {tenantId : UUID} {key : String}
    {body : CallNextBody} {next : Option (Ticket × Option Service) → Handler β}
    (tenant : request.tenantIs past tenantId) (keyed : request.key = some key)
    (unwritten : pendingOf past = [])
    (rest : ∀ found past', Later past past' → (found = none → request.missed past') →
      Complies hexdigest env request Q (next found) past' pending) :
    Complies hexdigest env request Q ((calledBefore hexdigest tenantId key body).bind next) past
      pending := by
  simp only [calledBefore, getIdempotencyKey, Program.bind_eq, Program.pure_eq,
    Program.bind_assoc]
  refine complies_observe fun tick => ?_
  refine complies_read ⟨tenant, keyed, ⟨tick, rfl⟩, unwritten⟩ fun db order => ?_
  cases record : db.findIdempotencyKey tenantId key (env tick).now with
  | none =>
      simp only [Query.eval, record]
      exact rest none _ later_performed fun _ => missed_of_lookup (by simp)
  | some existing =>
      simp only [Query.eval, record]
      cases resource : existing.resourceId with
      | none =>
          refine rest none _ later_performed fun _ => missed_of_lookup ?_
          rintro _ ⟨⟩ resourceId names
          simp [resource] at names
      | some resourceId =>
          dsimp only
          split
          · refine complies_ticketWithService fun found past₂ later₂ lost _ => ?_
            refine rest found past₂ (later_performed.trans later₂) fun nothing => ?_
            rw [lost nothing, List.append_assoc]
            refine missed_of_lookup ?_
            rintro _ ⟨⟩ other names
            cases resource.symm.trans names
            simp [Asked]
          · trivial

def CallEnds (counterId : UUID) (body : CallNextBody) (actor : TokenPayload)
    (key : Option String) (read : Option TicketRead) (past : List Act) : Prop :=
  Request.returns (.callNext counterId body actor key) past (.called read)

theorem complies_callNextNew {locationId counterId tenantId : UUID}
    {body : CallNextBody} {actor : TokenPayload} {key : Option String}
    (first : commitsOf past = []) (tenant : actor.tenantId.parse = some tenantId)
    (queue : Request.queueIs (.callNext counterId body actor key) past locationId body.serviceId)
    (place : Request.ownsCounter (.callNext counterId body actor key) past counterId locationId)
    (missed : Request.missed (.callNext counterId body actor key) past) :
    Complies hexdigest env (.callNext counterId body actor key)
      (fun read past _ => CallEnds counterId body actor key read past)
      (callNextNew hexdigest locationId counterId tenantId body actor key) past [] := by
  simp only [callNextNew, callNextTicket, callNextCte, Program.bind_eq, Program.pure_eq,
    Program.bind_assoc]
  refine complies_silent (silent_parse _) fun userId _ => ?_
  refine complies_query queue fun db order past₁ later₁ asked => ?_
  refine complies_firstCalled [] (later₁.commits.trans first)
    (later₁.toLater.queueIs queue) asked (by simp) ?_ ?_
  · intro past₂ later₂ skipped
    have none_found : Request.findsNone (.callNext counterId body actor key) past₂ counterId :=
      ⟨_, _, _, (later₁.toLater.trans later₂).queueIs queue, asked.later later₂, skipped⟩
    have start : commitsOf past₂ = [] := (later₁.toLater.trans later₂).commits.trans first
    refine ⟨.inl ⟨rfl, start, none_found⟩, ?_⟩
    refine .inl ⟨by simp [start], ?_⟩
    obtain ⟨location, service, candidates, queue', asked', skipped'⟩ := none_found
    obtain ⟨same, counter, known, located⟩ := queue'
    exact ⟨location, service, candidates, ⟨same, counter, List.mem_append_left _ known, located⟩,
      List.mem_append_left _ asked', fun ticket member =>
        List.mem_append_left _ (skipped' ticket member)⟩
  · intro row past₂ later₂ status assigned here
    simp only [Program.bind_assoc]
    refine complies_insertEvent (fun _ => rfl) fun id now past₃ later₃ => ?_
    refine complies_ticketWithService fun found past₄ later₄ lost same => ?_
    have sofar := later₁.toLater.trans (later₂.trans (later₃.trans later₄))
    refine complies_commit (.inr (.inl ⟨row, _, rfl, {
      first := sofar.commits.trans first
      status := status
      counter := assigned
      place := by rw [here]; exact sofar.ownsCounter place
      ticketId := rfl
      eventType := rfl
      fromStatus := rfl
      missed := sofar.missed missed }⟩)) ?_
    intro past₅ onward₅ commits₅
    rw [sofar.commits, first] at commits₅
    cases found with
    | none =>
        refine .inr ⟨row, _, commits₅, onward₅.subset ?_⟩
        rw [lost rfl]
        simp
    | some found =>
        obtain ⟨ticket, service⟩ := found
        have named : ticket.id = row.id := same ticket service rfl
        refine complies_saveKey (silent_ret _) rfl rfl (by rintro id ⟨⟩; exact tenant)
          ⟨_, row, _, commits₅, List.mem_cons_self .., rfl, named.symm⟩
          (fun record past₆ saves => .inr (.inr ⟨record, rfl, saves⟩)) ?_
        intro record past₆ onward₆ commits₆
        refine complies_publishSignage fun past₇ later₇ => ?_
        rw [commits₅] at commits₆
        rcases commits₆ with same₆ | saved
        · exact .inr ⟨row, _, [], later₇.commits.trans same₆, named⟩
        · exact .inr ⟨row, _, _, later₇.commits.trans saved, named⟩

theorem complies_callNext {counterId : UUID} {body : CallNextBody}
    {actor : TokenPayload} {key : Option String} :
    Complies hexdigest env (.callNext counterId body actor key)
      (fun read past _ => CallEnds counterId body actor key read past)
      (callNext hexdigest counterId body actor key) [] [] := by
  simp only [callNext, Program.bind_eq]
  refine complies_silent (silent_requireStaff _) fun _ _ => ?_
  refine complies_read trivial fun db order => ?_
  simp only [Query.eval, List.nil_append]
  cases found : db.counters.get? counterId with
  | none => trivial
  | some counter =>
      dsimp only
      refine complies_read trivial fun db' order' => ?_
      simp only [Query.eval, List.cons_append, List.nil_append]
      cases db'.locations.get? counter.locationId with
      | none => trivial
      | some location =>
          dsimp only
          refine complies_silent (silent_checkTenant _ _) fun _ passed => ?_
          refine complies_silent (silent_parse _) fun tenantId parsed => ?_
          have tenant := parse_eq_ret parsed
          have queue : Request.queueIs (.callNext counterId body actor key)
              [.performed (.read (.counter counterId)) (some counter) [],
                .performed (.read (.location counter.locationId)) (some location) []]
              counter.locationId body.serviceId :=
            ⟨rfl, counter, by simp [Asked], rfl⟩
          have place : Request.ownsCounter (.callNext counterId body actor key)
              [.performed (.read (.counter counterId)) (some counter) [],
                .performed (.read (.location counter.locationId)) (some location) []]
              counterId counter.locationId :=
            ⟨counter, location, ⟨[], _, rfl, rfl⟩, rfl, ⟨[_], [], rfl, rfl⟩, actor, rfl,
              checkTenant_eq_ret passed⟩
          split
          · rename_i unkeyed
            exact complies_callNextNew rfl tenant queue place (.inl unkeyed)
          · rename_i keyText keyed
            refine complies_calledBefore tenant keyed rfl ?_
            intro found past' later missed
            have first := later.commits.trans rfl
            cases found with
            | some found => exact .inl first
            | none =>
                exact complies_callNextNew first tenant (later.queueIs queue)
                  (later.ownsCounter place) (missed rfl)

end QueueFlow.App
