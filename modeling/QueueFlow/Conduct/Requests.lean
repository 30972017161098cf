import QueueFlow.Conduct.CallNext
import QueueFlow.Conduct.Changes
import QueueFlow.Conduct.Creation

namespace QueueFlow.App
open QueueFlow.Data QueueFlow.Tables QueueFlow.Transactions

variable {hexdigest : PyDict → String} {env : Nat → Env} {request : Request} {α β : Type}
  {Q : β → List Act → List Write → Prop}
  {past : List Act} {pending : List Write}

/-! ## Tasks -/

theorem obeys_stampCompletion {P : List Act → Act → Prop} {tickets : List Ticket}
    {next : List (UUID × Time) → Handler β}
    (rest : ∀ stamps, stamps.map Prod.fst = tickets.map Ticket.id →
      (∀ stamp ∈ stamps, ∃ tick, stamp.2 = (env tick).now) →
        Obeys engine env P Q (next stamps) past pending) :
    Obeys engine env P Q ((stampCompletion tickets).bind next) past pending := by
  induction tickets generalizing next with
  | nil => exact rest [] rfl (by simp)
  | cons ticket tickets ih =>
      simp only [stampCompletion, Program.bind_eq, Program.pure_eq, Program.bind_assoc]
      intro tick
      refine ih fun stamps same clock => ?_
      exact rest _ (by simp [same]) (by simpa using ⟨⟨tick, rfl⟩, fun id time member =>
        clock (id, time) member⟩)

theorem stamps_noShow {time : Time} (clock : ∃ tick, time = (env tick).now) :
    ({ status := .noShow, completedAt := some time } : TicketUpdate).Stamps env where
  stays _ := ⟨rfl, rfl, rfl⟩
  requeued same := by cases same
  called := rfl
  started := by simp
  completed := by simp [TicketStatus.terminal]
  startedClock _ stamped := by cases stamped
  completedClock _ stamped := by
    cases stamped
    exact clock

theorem complies_markNoShows {stamps : List (UUID × Time)} {next : PUnit → Handler β}
    (allowed : request.changesTo .noShow)
    (clock : ∀ stamp ∈ stamps, ∃ tick, stamp.2 = (env tick).now)
    (rest : ∀ (rows : List Ticket) past', Later past past' →
      rows.map Ticket.id = stamps.map Prod.fst → (∀ row ∈ rows, row.status = .noShow) →
        Complies hexdigest env request Q (next ⟨⟩) past'
          (pending ++ rows.map fun row => .update (.ticket row))) :
    Complies hexdigest env request Q ((stamps.forM fun stamp => do
      let _ ← command (.updateTicket stamp.1 { status := .noShow, completedAt := some stamp.2 })
      return ⟨⟩).bind next) past pending := by
  induction stamps generalizing past pending with
  | nil => simpa using rest [] past .refl rfl (by simp)
  | cons stamp stamps ih =>
      simp only [List.forM, Program.bind_eq, Program.pure_eq, Program.bind_assoc]
      refine complies_updateTicket allowed (stamps_noShow (clock stamp List.mem_cons_self))
        fun row now past₁ later₁ same _ => ?_
      refine ih (fun other member => clock other (List.mem_cons_of_mem _ member))
        fun rows past₂ later₂ ids all => ?_
      rw [List.append_assoc]
      refine rest (_ :: rows) past₂ (later₁.trans later₂) ?_ ?_
      · simpa [TicketUpdate.apply, same] using ids
      · simpa [TicketUpdate.apply] using all

theorem complies_logNoShows {tickets : List Ticket} {next : PUnit → Handler β}
    (rest : ∀ (events : List TicketEvent) past', Later past past' →
      events.map TicketEvent.ticketId = tickets.map Ticket.id →
        (∀ event ∈ events, event.eventType = .noShow) →
          Complies hexdigest env request Q (next ⟨⟩) past'
            (pending ++ events.map fun event => .insert (.event event))) :
    Complies hexdigest env request Q ((tickets.forM fun ticket => command (.insertEvent
      { ticketId := ticket.id
        eventType := .noShow
        payload := some (.reason "auto_no_show") })).bind next) past pending := by
  induction tickets generalizing past pending with
  | nil => simpa using rest [] past .refl rfl (by simp)
  | cons ticket tickets ih =>
      simp only [List.forM, Program.bind_eq, Program.bind_assoc]
      refine complies_insertEvent (by simp) fun id now past₁ later₁ => ?_
      refine ih fun events past₂ later₂ ids all => ?_
      rw [List.append_assoc]
      refine rest (_ :: events) past₂ (later₁.trans later₂) ?_ ?_
      · simpa [NewEvent.row] using ids
      · simpa [NewEvent.row] using all

theorem complies_autoNoShow :
    Complies hexdigest env .autoNoShowCalledTickets (fun _ _ _ => True)
      autoNoShowCalledTickets [] [] := by
  simp only [autoNoShowCalledTickets, Program.bind_eq]
  refine complies_observe fun tick => ?_
  refine complies_query trivial fun db order past₁ later₁ _ => ?_
  refine obeys_stampCompletion fun stamps stamped clock => ?_
  have sorted : ∀ stamp ∈ stamps.insertionSort fun a b => a.1 ≤ b.1,
      ∃ tick, stamp.2 = (env tick).now := fun stamp member =>
    clock stamp ((List.perm_insertionSort _ stamps).mem_iff.mp member)
  refine complies_markNoShows ⟨nofun, rfl⟩ sorted fun rows past₂ later₂ ids marked => ?_
  refine complies_logNoShows fun events past₃ later₃ named logged => ?_
  have stuck : (rows.map Ticket.id).Perm
      ((db.stuckTickets ((env tick).now - minutes 5)).map Ticket.id) := by
    rw [ids]
    exact ((List.perm_insertionSort _ stamps).map _).trans (.of_eq stamped)
  refine complies_commit ⟨rows, events, rfl, marked, logged, stuck.trans (.of_eq named.symm),
    ((later₁.toLater.trans later₂).trans later₃).commits, stuck.nodup_iff.mpr ?_⟩ fun _ _ _ => trivial
  exact db.tickets.distinct.sublist (List.filter_sublist.map _)

theorem complies_cleanup :
    Complies hexdigest env .cleanupIdempotencyKeys (fun _ _ _ => True)
      cleanupIdempotencyKeys [] [] := by
  simp only [cleanupIdempotencyKeys, Program.bind_eq]
  refine complies_observe fun tick => ?_
  intro context value writes locks exec
  have exec : (Stmt.write (.deleteExpiredKeys (env tick).now)).exec context =
      .done value writes locks := exec
  obtain ⟨ran, rfl⟩ := exec_write exec
  cases ran
  refine ⟨rfl, ?_, trivial⟩
  intro write member
  obtain ⟨row, _, rfl⟩ := List.mem_map.mp member
  exact ⟨_, _, rfl⟩

/-! ## The admin service -/

theorem isRecord_new (new : NewRecord) (id : UUID) : (new.row id).lock.isRecord = true := by
  cases new <;> rfl

theorem isRecord_update (update : RecordUpdate) : update.lock.isRecord = true := by
  cases update <;> rfl

theorem onlyRecords_nil : OnlyRecords request [] := fun write member => by simp at member

theorem onlyRecords_concat {writes : List Write} {write : Write} (only : OnlyRecords request writes)
    (isRecord : write.lock.isRecord = true) (inserts : request.inserts write) :
    OnlyRecords request (writes ++ [write]) := by
  intro other member
  rcases List.mem_append.mp member with earlier | new
  · exact only other earlier
  · cases List.mem_singleton.mp new
    exact ⟨isRecord, inserts⟩

theorem inserts_update {row : Row} : request.inserts (.update row) := trivial

theorem complies_createRecord {new : NewRecord} {next : Row → Handler β}
    (admin : request.isAdmin) (only : OnlyRecords request pending)
    (inserts : ∀ id, request.inserts (.insert (new.row id)))
    (rest : ∀ id writes past', OnlyRecords request writes →
      Complies hexdigest env request Q (next (new.row id)) past' writes) :
    Complies hexdigest env request Q ((createRecord new).bind next) past pending :=
  complies_insertRecord admin fun id past' _ =>
    rest id _ past' (onlyRecords_concat only (isRecord_new new id) (inserts id))

theorem complies_changeRecord {unchanged : Bool} {row : Row} {update : RecordUpdate}
    {next : Row → Handler β} (admin : request.isAdmin) (only : OnlyRecords request pending)
    (rest : ∀ row writes past', OnlyRecords request writes →
      Complies hexdigest env request Q (next row) past' writes) :
    Complies hexdigest env request Q ((updateRecord unchanged row update).bind next) past
      pending := by
  unfold updateRecord
  split
  · exact rest row pending past only
  · refine complies_updateRecord admin fun new past' later same =>
      rest new _ past' (onlyRecords_concat only ?_ inserts_update)
    exact (congrArg Lock.isRecord same).trans (isRecord_update update)

theorem complies_audit {actor : TokenPayload} {action objectType : String} {objectId : UUID}
    {before after : Option PyDict} {next : Unit → Handler β} (admin : request.isAdmin)
    (only : OnlyRecords request pending)
    (rest : ∀ writes past', OnlyRecords request writes →
      Complies hexdigest env request Q (next ()) past' writes) :
    Complies hexdigest env request Q
      ((audit actor action objectType objectId before after).bind next) past pending := by
  simp only [audit, Program.bind_eq, Program.pure_eq, Program.bind_assoc]
  refine complies_silent (silent_auditTenant _) fun tenantId _ => ?_
  refine complies_silent (silent_parse _) fun userId _ => ?_
  exact complies_createRecord admin only (fun _ => trivial) fun id writes past' =>
    rest writes past'

theorem complies_createTenant {data : TenantCreate} {actor : TokenPayload} :
    Complies hexdigest env (.createTenant data actor) (fun _ _ _ => True)
      (createTenant data actor) [] [] := by
  simp only [createTenant, Program.bind_eq]
  refine complies_silent (silent_requireAdmin _) fun _ _ => ?_
  refine complies_createRecord trivial onlyRecords_nil (fun _ => trivial)
    fun id writes past₁ only₁ => ?_
  refine complies_audit trivial only₁ fun writes past₂ only₂ => ?_
  exact complies_commit only₂ fun _ _ _ => trivial

theorem complies_updateTenant {tenantId : UUID} {data : TenantUpdate} {actor : TokenPayload} :
    Complies hexdigest env (.updateTenant tenantId data actor) (fun _ _ _ => True)
      (updateTenant tenantId data actor) [] [] := by
  simp only [updateTenant, Program.bind_eq]
  refine complies_silent (silent_requireAdmin _) fun _ _ => ?_
  refine complies_query trivial fun db order past₁ later₁ _ => ?_
  simp only [Query.eval]
  cases db.tenants.get? tenantId with
  | none => trivial
  | some tenant =>
      refine complies_changeRecord trivial onlyRecords_nil fun row writes past₂ only₂ => ?_
      refine complies_audit trivial only₂ fun writes past₃ only₃ => ?_
      exact complies_commit only₃ fun _ _ _ => trivial

theorem complies_createLocation {data : LocationCreate} {actor : TokenPayload} :
    Complies hexdigest env (.createLocation data actor) (fun _ _ _ => True)
      (createLocation data actor) [] [] := by
  simp only [createLocation, Program.bind_eq]
  refine complies_silent (silent_requireManager _) fun _ _ => ?_
  refine complies_createRecord trivial onlyRecords_nil (fun _ => trivial)
    fun id writes past₁ only₁ => ?_
  refine complies_audit trivial only₁ fun writes past₂ only₂ => ?_
  exact complies_commit only₂ fun _ _ _ => trivial

theorem complies_createUnaudited {new : NewRecord} {actor : TokenPayload}
    (admin : request.isAdmin) (inserts : ∀ id, request.inserts (.insert (new.row id)))
    (records : ∀ past writes, OnlyRecords request writes →
      request.commits hexdigest env past writes) :
    Complies hexdigest env request (fun _ _ _ => True) (createUnaudited new actor) [] [] := by
  simp only [createUnaudited, Program.bind_eq]
  refine complies_silent (silent_requireManager _) fun _ _ => ?_
  refine complies_createRecord admin onlyRecords_nil inserts fun id writes past₁ only₁ => ?_
  exact complies_commit (records _ _ only₁) fun _ _ _ => trivial

theorem complies_updateUnaudited {load : Handler (Option α)} {missing : Failure} {row : α → Row}
    {unchanged : α → Prop} [DecidablePred unchanged] {update : α → RecordUpdate}
    {actor : TokenPayload} (admin : request.isAdmin)
    (loads : ∀ {past} {next : Option α → Handler Row},
      (∀ found past', Complies hexdigest env request (fun _ _ _ => True) (next found) past' []) →
        Complies hexdigest env request (fun _ _ _ => True) (load.bind next) past [])
    (records : ∀ past writes, OnlyRecords request writes →
      request.commits hexdigest env past writes) :
    Complies hexdigest env request (fun _ _ _ => True)
      (updateUnaudited load missing row unchanged update actor) [] [] := by
  simp only [updateUnaudited, Program.bind_eq]
  refine complies_silent (silent_requireManager _) fun _ _ => loads fun found past₁ => ?_
  cases found with
  | none => trivial
  | some loaded =>
      refine complies_changeRecord admin onlyRecords_nil fun row writes past₂ only₂ => ?_
      exact complies_commit (records _ _ only₂) fun _ _ _ => trivial

theorem complies_createUser {data : UserCreate} {actor : TokenPayload} :
    Complies hexdigest env (.createUser data actor) (fun _ _ _ => True)
      (createUser data actor) [] [] := by
  simp only [createUser, Program.bind_eq]
  refine complies_silent (silent_requireAdmin _) fun _ _ => ?_
  refine complies_createRecord trivial onlyRecords_nil (fun _ => trivial)
    fun id writes past₁ only₁ => ?_
  refine complies_audit trivial only₁ fun writes past₂ only₂ => ?_
  exact complies_commit only₂ fun _ _ _ => trivial

theorem complies_assignRole {userId : UUID} {data : RoleAssignment} {actor : TokenPayload} :
    Complies hexdigest env (.assignRole userId data actor) (fun _ _ _ => True)
      (assignRole userId data actor) [] [] := by
  simp only [assignRole, Program.bind_eq]
  refine complies_silent (silent_requireAdmin _) fun _ _ => ?_
  refine complies_audit trivial onlyRecords_nil fun writes past₁ only₁ => ?_
  refine complies_createRecord trivial only₁ (fun _ => ⟨userId, data, actor, rfl, rfl⟩)
    fun id writes past₂ only₂ => ?_
  exact complies_commit only₂ fun _ _ _ => trivial

/-! ## Every request -/

private theorem complies_answer {answer : α → Response} {handler : Handler α}
    (plain : ∀ past response, request.returns past response)
    (complies : Complies hexdigest env request (fun _ _ _ => True) handler [] []) :
    Complies hexdigest env request (fun response past _ => request.returns past response)
      (answer <$> handler) [] [] := by
  rw [Program.map_eq]
  exact obeys_bind.mpr (obeys_mono complies fun _ past _ _ => plain past _)

theorem program_complies (hexdigest : PyDict → String) (request : Request) :
    Complies hexdigest env request (fun response past _ => request.returns past response)
      (program hexdigest request) [] [] := by
  cases request with
  | createTicket data actor key =>
      refine complies_answer (fun _ _ => trivial) ?_
      exact complies_createTicket
  | kioskCreateTicket body key =>
      refine complies_answer (fun _ _ => trivial) ?_
      exact complies_kioskCreateTicket
  | callNext counterId body actor key =>
      rw [program, Program.map_eq]
      exact obeys_bind.mpr (obeys_mono complies_callNext fun _ _ _ ends => ends)
  | startService ticketId actor key =>
      refine complies_answer (fun _ _ => trivial) ?_
      exact complies_keyedChange ⟨nofun, rfl⟩ nofun rfl rfl rfl rfl
        (fun _ _ parsed => parsed) writesEpisode_open fun _ _ commits => commits
  | completeTicket ticketId actor key =>
      refine complies_answer (fun _ _ => trivial) ?_
      exact complies_keyedChange ⟨nofun, rfl⟩ nofun rfl rfl rfl rfl
        (fun _ _ parsed => parsed) writesEpisode_close fun _ _ commits => commits
  | holdTicket ticketId actor =>
      refine complies_answer (fun _ _ => trivial) ?_
      exact complies_simpleChange rfl rfl ⟨nofun, rfl⟩ nofun rfl rfl (fun _ _ => rfl)
        fun _ _ commits => commits
  | cancelTicket ticketId actor =>
      refine complies_answer (fun _ _ => trivial) ?_
      exact complies_simpleChange rfl rfl ⟨nofun, rfl⟩ nofun rfl rfl (fun _ _ => rfl)
        fun _ _ commits => commits
  | noShow ticketId actor =>
      refine complies_answer (fun _ _ => trivial) ?_
      exact complies_simpleChange rfl rfl ⟨nofun, rfl⟩ nofun rfl rfl (fun _ _ => rfl)
        fun _ _ commits => commits
  | transferTicket ticketId data actor =>
      refine complies_answer (fun _ _ => trivial) ?_
      exact complies_transferTicket
  | autoNoShowCalledTickets =>
      refine complies_answer (fun _ _ => trivial) ?_
      exact complies_autoNoShow
  | cleanupIdempotencyKeys =>
      refine complies_answer (fun _ _ => trivial) ?_
      exact complies_cleanup
  | createTenant data actor =>
      refine complies_answer (fun _ _ => trivial) ?_
      exact complies_createTenant
  | updateTenant tenantId data actor =>
      refine complies_answer (fun _ _ => trivial) ?_
      exact complies_updateTenant
  | createLocation data actor =>
      refine complies_answer (fun _ _ => trivial) ?_
      exact complies_createLocation
  | updateLocation locationId data actor =>
      refine complies_answer (fun _ _ => trivial) ?_
      exact complies_updateUnaudited trivial
        (fun rest => complies_query trivial fun _ _ _ _ _ => rest _ _) fun _ _ only => only
  | createService data actor =>
      refine complies_answer (fun _ _ => trivial) ?_
      exact complies_createUnaudited trivial (fun _ => ⟨data, actor, rfl, rfl, rfl⟩)
        fun _ _ only => only
  | updateService serviceId data actor =>
      refine complies_answer (fun _ _ => trivial) ?_
      exact complies_updateUnaudited trivial
        (fun rest => complies_query trivial fun _ _ _ _ _ => rest _ _) fun _ _ only => only
  | createCounter data actor =>
      refine complies_answer (fun _ _ => trivial) ?_
      exact complies_createUnaudited trivial (fun _ => trivial) fun _ _ only => only
  | updateCounter counterId data actor =>
      refine complies_answer (fun _ _ => trivial) ?_
      exact complies_updateUnaudited trivial
        (fun rest => complies_query trivial fun _ _ _ _ _ => rest _ _) fun _ _ only => only
  | createChannel data actor =>
      refine complies_answer (fun _ _ => trivial) ?_
      exact complies_createUnaudited trivial (fun _ => trivial) fun _ _ only => only
  | createUser data actor =>
      refine complies_answer (fun _ _ => trivial) ?_
      exact complies_createUser
  | assignRole userId data actor =>
      refine complies_answer (fun _ _ => trivial) ?_
      exact complies_assignRole

end QueueFlow.App
