import QueueFlow.Conduct.Rules

namespace QueueFlow.App
open QueueFlow.Data QueueFlow.Tables QueueFlow.Transactions

variable {hexdigest : PyDict → String} {env : Nat → Env} {request : Request} {α β : Type}
  {Q : β → List Act → List Write → Prop}
  {past : List Act} {pending : List Write}

theorem complies_storeTicket {new : NewTicket} {actorUserId : Handler (Option UUID)}
    {next : Ticket → Handler β} (opens : request.opensAt = some new.locationId)
    (waits : new.status = .waiting) (silent : Silent actorUserId)
    (allowed : ∀ id now event past', Later past past' → event.ticketId = id →
      event.eventType = .created → event.fromStatus = none → request.commits hexdigest env past'
        [.insert (.ticket (new.row id now)), .insert (.event event)])
    (rest : ∀ row event ticket past', past <+: past' → commitsOf past' =
      commitsOf past ++ [[.insert (.ticket row), .insert (.event event)]] → ticket.id = row.id →
        Complies hexdigest env request Q (next ticket) past' []) :
    Complies hexdigest env request Q ((storeTicket new actorUserId).bind next) past [] := by
  simp only [storeTicket, Program.bind_eq, Program.bind_assoc]
  refine complies_insertTicket opens waits fun id now past₁ later₁ => ?_
  refine complies_silent silent fun userId _ => ?_
  refine complies_insertEvent (fun _ => rfl) fun eventId now' past₂ later₂ => ?_
  refine complies_commit (allowed id now _ past₂ (later₁.trans later₂) rfl rfl rfl) ?_
  intro past₃ onward₃ commits₃
  refine complies_refresh fun ticket past₄ later₄ same => ?_
  rw [← later₄.commits, later₂.commits, later₁.commits] at commits₃
  exact rest _ _ ticket past₄
    ((later₁.trans later₂).continues.trans (onward₃.trans later₄.continues)) commits₃ same

theorem complies_createNew {data : TicketCreate}
    {actor : TokenPayload} {key : Option String} (first : commitsOf past = [])
    (unwritten : pendingOf past = [])
    (missed : Request.missed (.createTicket data actor key) past) :
    Complies hexdigest env (.createTicket data actor key) (fun _ _ _ => True)
      (createNew hexdigest data actor key) past [] := by
  simp only [createNew, Program.bind_eq]
  refine complies_query unwritten fun db order past₁ later₁ asked => ?_
  refine complies_silent (silent_parse _) fun tenantId parsed => ?_
  refine complies_storeTicket rfl rfl (silent_map (silent_parse _) _) ?_ ?_
  · intro id now event past₂ later₂ ticketId eventType fromStatus
    exact .inl ⟨_, _, rfl, {
      first := by rw [later₂.commits, later₁.commits, first]
      status := rfl
      location := rfl
      refs := fun kind => by cases kind <;> rfl
      tenant := parse_eq_ret parsed
      number := asked.later later₂
      ticketId := ticketId
      eventType := eventType
      fromStatus := fromStatus
      missed := (later₁.toLater.trans later₂).missed missed }⟩
  · intro row event ticket past₂ onward commits same
    rw [later₁.commits, first] at commits
    refine complies_saveKey (silent_parse _) rfl rfl (fun id => parse_eq_ret)
      ⟨_, row, _, commits, List.mem_cons_self .., rfl, same.symm⟩
      (fun record past₃ saves => .inr ⟨record, rfl, saves⟩) ?_
    intro record past₃ onward₃ commits₃
    exact complies_publishSignage fun past₄ later₄ => trivial

theorem complies_createTicket {data : TicketCreate}
    {actor : TokenPayload} {key : Option String} :
    Complies hexdigest env (.createTicket data actor key) (fun _ _ _ => True)
      (createTicket hexdigest data actor key) [] [] := by
  simp only [createTicket, Program.bind_eq]
  refine complies_silent (silent_requireRole _ _) fun _ _ => ?_
  split
  · rename_i unkeyed
    exact complies_createNew rfl rfl (.inl unkeyed)
  · rename_i keyText keyed
    refine complies_silent (silent_parse _) fun tenantId parsed => ?_
    refine complies_createdBefore (parse_eq_ret parsed) keyed rfl ?_
    intro found past' later missed
    cases found with
    | some ticket => trivial
    | none => exact complies_createNew (later.commits.trans rfl) (later.pending.trans rfl) (missed rfl)

theorem complies_kioskCreateNew {body : KioskTicketCreate}
    {tenantId : UUID} {key : Option String} (first : commitsOf past = [])
    (unwritten : pendingOf past = [])
    (tenant : Request.tenantIs (.kioskCreateTicket body key) past tenantId)
    (missed : Request.missed (.kioskCreateTicket body key) past) :
    Complies hexdigest env (.kioskCreateTicket body key) (fun _ _ _ => True)
      (kioskCreateNew hexdigest body tenantId key) past [] := by
  simp only [kioskCreateNew, Program.bind_eq]
  refine complies_query unwritten fun db order past₁ later₁ asked => ?_
  refine complies_storeTicket rfl rfl (silent_ret _) ?_ ?_
  · intro id now event past₂ later₂ ticketId eventType fromStatus
    exact .inl ⟨_, _, rfl, {
      first := by rw [later₂.commits, later₁.commits, first]
      status := rfl
      location := rfl
      refs := fun kind => by cases kind <;> rfl
      tenant := (later₁.toLater.trans later₂).tenantIs tenant
      number := asked.later later₂
      ticketId := ticketId
      eventType := eventType
      fromStatus := fromStatus
      missed := (later₁.toLater.trans later₂).missed missed }⟩
  · intro row event ticket past₂ onward commits same
    rw [later₁.commits, first] at commits
    obtain ⟨location, saw, owns⟩ := tenant
    refine complies_saveKey (silent_ret _) rfl rfl ?_
      ⟨_, row, _, commits, List.mem_cons_self .., rfl, same.symm⟩
      (fun record past₃ saves => .inr ⟨record, rfl, saves⟩) ?_
    · rintro id ⟨⟩
      exact ⟨location, saw.continues (later₁.continues.trans onward), owns⟩
    · intro record past₃ onward₃ commits₃
      exact complies_publishSignage fun past₄ later₄ => trivial

theorem complies_kioskCreateTicket {body : KioskTicketCreate}
    {key : Option String} :
    Complies hexdigest env (.kioskCreateTicket body key) (fun _ _ _ => True)
      (kioskCreateTicket hexdigest body key) [] [] := by
  simp only [kioskCreateTicket, Program.bind_eq]
  refine complies_read trivial fun db order => ?_
  simp only [Query.eval, List.nil_append]
  cases found : db.locations.get? body.locationId with
  | none => trivial
  | some location =>
      have tenant : Request.tenantIs (.kioskCreateTicket body key)
          [.performed (.read (.location body.locationId)) (some location) []]
          location.tenantId := ⟨location, ⟨[], [], rfl, rfl⟩, rfl⟩
      dsimp only
      split
      · rename_i unkeyed
        exact complies_kioskCreateNew rfl rfl tenant (.inl unkeyed)
      · rename_i keyText keyed
        refine complies_createdBefore tenant keyed rfl ?_
        intro found past' later missed
        cases found with
        | some ticket => trivial
        | none =>
            exact complies_kioskCreateNew (later.commits.trans rfl) (later.pending.trans rfl)
              (later.toLater.tenantIs tenant) (missed rfl)

end QueueFlow.App
