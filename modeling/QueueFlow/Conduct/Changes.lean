import QueueFlow.Conduct.Rules

namespace QueueFlow.App
open QueueFlow.Data QueueFlow.Tables QueueFlow.Transactions

variable {hexdigest : PyDict → String} {env : Nat → Env} {request : Request} {α β : Type}
  {Q : β → List Act → List Write → Prop} {past : List Act} {pending : List Write}

theorem Request.transitions.later {past past' : List Act} {target : TicketStatus}
    {event : TicketEvent} (transitions : request.transitions past target event)
    (later : Later past past') : request.transitions past' target event := by
  obtain ⟨ticket, saw, rest⟩ := transitions
  exact ⟨ticket, saw.later later, rest⟩

theorem stamps_requeue {serviceId locationId : UUID} :
    ({ status := .waiting
       serviceId := some serviceId
       locationId := some locationId
       assignedCounterId := some none } : TicketUpdate).Stamps env where
  stays moved := (moved rfl).elim
  requeued _ := rfl
  called := rfl
  started := by simp
  completed := by simp [TicketStatus.terminal]
  startedClock _ stamped := by cases stamped
  completedClock _ stamped := by cases stamped

theorem complies_simpleChange {ticketId : UUID} {actor : TokenPayload} {target : TicketStatus}
    (first : commitsOf past = []) (unwritten : pendingOf past = [])
    (changes : request.changesTo target) (requeued : target ≠ .waiting)
    (acts : request.actor = some actor) (names : request.ticketId = some ticketId)
    (alone : ∀ past id, request.episodeOf past id [])
    (allowed : ∀ past writes, request.commitsChange past target writes →
      request.commits hexdigest env past writes) :
    Complies hexdigest env request (fun _ _ _ => True) (simpleChange ticketId actor target)
      past [] := by
  simp only [simpleChange, Program.bind_eq]
  refine complies_silent (silent_requireRole _ _) fun _ role => ?_
  refine complies_changeStatus changes requeued acts
    ⟨names, actor, acts, requireRole_eq_ret role⟩ unwritten
      fun row event past₁ later₁ same transitions changed => ?_
  refine complies_commit (allowed _ _ ⟨row, event, [], rfl, later₁.commits.trans first,
    transitions, changed, (fun _ => by simp), alone _ _⟩) fun past₂ onward₂ commits₂ => ?_
  exact complies_publishSignage fun past₃ later₃ => trivial

def WritesEpisode (hexdigest : PyDict → String) (env : Nat → Env) (request : Request)
    (ticketId : UUID) (program : Handler Unit) : Prop :=
  ∀ (next : Unit → Handler Ticket) past pending,
    (∀ writes past', Later past past' → Request.IsEpisode ticketId writes →
      request.episodeOf past' ticketId writes →
      Complies hexdigest env request (fun _ _ _ => True) (next ()) past' (pending ++ writes)) →
    Complies hexdigest env request (fun _ _ _ => True) (program.bind next) past pending

theorem writesEpisode_open {id : UUID} {actor : TokenPayload} {key : Option String}
    (ticket : Ticket) :
    WritesEpisode hexdigest env (.startService id actor key) ticket.id
      (openInteraction ticket) := by
  intro next past pending rest
  simp only [openInteraction, Program.bind_eq, Program.bind_assoc]
  refine complies_observe fun tick => ?_
  refine complies_insertInteraction fun row past' later same isOpen => ?_
  refine rest _ past' later (fun write member => ?_) ⟨row, rfl, isOpen⟩
  cases List.mem_singleton.mp member
  exact ⟨row, rfl, same⟩

theorem writesEpisode_close {id : UUID} {actor : TokenPayload} {key : Option String}
    (ticket : Ticket) :
    WritesEpisode hexdigest env (.completeTicket id actor key) ticket.id
      (closeInteraction ticket) := by
  intro next past pending rest
  simp only [closeInteraction, Program.bind_eq, Program.bind_assoc]
  refine complies_observe fun tick => ?_
  exact complies_closeInteractions fun writes past' later episodic performed =>
    rest writes past' later episodic ⟨_, performed⟩

theorem complies_keyedChangeNew {ticketId : UUID}
    {actor : TokenPayload} {key : Option String} {target : TicketStatus}
    {episode : Ticket → Handler Unit} (first : commitsOf past = [])
    (unwritten : pendingOf past = []) (changes : request.changesTo target)
    (requeued : target ≠ .waiting) (acts : request.actor = some actor)
    (mayChange : request.mayChange ticketId)
    (hashed : request.body = ticketBody ticketId) (keyed : request.key = given key)
    (tenant : ∀ id past, actor.tenantId.parse = some id → request.tenantIs past id)
    (writes : ∀ ticket, WritesEpisode hexdigest env request ticket.id (episode ticket))
    (allowed : ∀ past writes, request.commitsChange past target writes ∨
      request.commitsKey hexdigest env past writes → request.commits hexdigest env past writes) :
    Complies hexdigest env request (fun _ _ _ => True)
      (keyedChangeNew hexdigest ticketId actor key target episode) past [] := by
  simp only [keyedChangeNew, Program.bind_eq]
  refine complies_changeStatus changes requeued acts mayChange unwritten
    fun row event past₁ later₁ named transitions changed => ?_
  refine writes row _ _ _ fun interactions past₂ later₂ episodic opensOrCloses => ?_
  refine complies_commit (allowed _ _ (.inl ⟨row, event, interactions, rfl,
    (later₁.trans later₂).commits.trans first, transitions.later later₂, changed,
    episodic, opensOrCloses⟩)) fun past₃ onward₃ commits₃ => ?_
  refine complies_refresh fun ticket past₄ later₄ same => ?_
  rw [← later₄.commits, later₂.commits, later₁.commits, first] at commits₃
  refine complies_saveKey (silent_parse _) keyed hashed
    (fun id parsed => tenant id _ (parse_eq_ret parsed))
    ⟨_, row, _, commits₃, List.mem_cons_self .., rfl, same.symm⟩
    (fun record past₅ saves => allowed _ _ (.inr ⟨record, rfl, saves⟩)) ?_
  intro record past₅ onward₅ commits₅
  exact complies_publishSignage fun past₆ later₆ => trivial

theorem complies_keyedChange {ticketId : UUID}
    {actor : TokenPayload} {key : Option String} {target : TicketStatus}
    {episode : Ticket → Handler Unit} (changes : request.changesTo target)
    (requeued : target ≠ .waiting) (acts : request.actor = some actor)
    (names : request.ticketId = some ticketId)
    (hashed : request.body = ticketBody ticketId) (keyed : request.key = given key)
    (tenant : ∀ id past, actor.tenantId.parse = some id → request.tenantIs past id)
    (writes : ∀ ticket, WritesEpisode hexdigest env request ticket.id (episode ticket))
    (allowed : ∀ past writes, request.commitsChange past target writes ∨
      request.commitsKey hexdigest env past writes → request.commits hexdigest env past writes) :
    Complies hexdigest env request (fun _ _ _ => True)
      (keyedChange hexdigest ticketId actor key target episode) [] [] := by
  simp only [keyedChange, Program.bind_eq]
  refine complies_silent (silent_requireRole _ _) fun _ role => ?_
  have mayChange : request.mayChange ticketId := ⟨names, actor, acts, requireRole_eq_ret role⟩
  split
  · exact complies_keyedChangeNew rfl rfl changes requeued acts mayChange hashed keyed tenant
      writes allowed
  · rename_i keyText present
    refine complies_silent (silent_parse _) fun tenantId parsed => ?_
    refine complies_changedBefore (tenant _ _ (parse_eq_ret parsed)) (keyed.trans present)
      rfl fun found past' later => ?_
    cases found with
    | some ticket => trivial
    | none =>
        exact complies_keyedChangeNew (later.commits.trans rfl) (later.pending.trans rfl) changes
          requeued acts mayChange hashed keyed tenant writes allowed

theorem complies_transferTicket {ticketId : UUID} {data : TicketTransfer} {actor : TokenPayload} :
    Complies hexdigest env (.transferTicket ticketId data actor) (fun _ _ _ => True)
      (transferTicket ticketId data actor) [] [] := by
  simp only [transferTicket, Program.bind_eq]
  refine complies_silent (silent_requireRole _ _) fun _ role => ?_
  refine complies_changeStatus ⟨nofun, .inl rfl⟩ nofun rfl
    ⟨rfl, actor, rfl, requireRole_eq_ret role⟩ rfl
      fun row event past₁ later₁ named transitions changed => ?_
  refine complies_updateTicket ⟨nofun, .inr rfl⟩ stamps_requeue
    fun old now past₂ later₂ same sent => ?_
  refine complies_silent (silent_parse _) fun userId _ => ?_
  refine complies_observe fun tick => ?_
  refine complies_insertEvent (by simp) fun id now' past₃ later₃ => ?_
  have later := later₂.trans later₃
  refine complies_commit ⟨row, event, _, _, rfl, (later₁.trans later).commits,
    transitions.later later, changed, ⟨rfl, rfl, rfl, by simp, by simp [TicketStatus.terminal]⟩,
    ⟨same, ⟨_, later₃.sub sent, rfl, rfl⟩, ?_, rfl, rfl⟩⟩ ?_
  · cases target : data.targetLocationId <;>
      simp [Ticket.ref, TicketUpdate.apply, Request.refs, target]
  intro past₄ onward₄ commits₄
  exact complies_publishSignage fun past₅ later₅ => trivial

end QueueFlow.App
