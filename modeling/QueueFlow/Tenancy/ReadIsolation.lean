import QueueFlow.App.ReadRequests
import QueueFlow.Concurrency.KeyBinding
import QueueFlow.Reading.Paging
import QueueFlow.Reading.Series
import QueueFlow.Tenancy.Agreement
import QueueFlow.Tenancy.References

/-!
# Reading across tenants

Most read requests take any location or ticket, and none filters tickets by their tenant. So they
show other tenants' rows, unless their parameters rule out that there is anything to be seen.
-/

namespace QueueFlow.Tenancy
open QueueFlow.App QueueFlow.Concurrency QueueFlow.Data QueueFlow.Reading QueueFlow.Tables
open QueueFlow.Transactions
open Database (average waitSeconds serviceSeconds)

variable {ι : Type} [DecidableEq ι] {assistant : Assistant} {actor : TokenPayload}
  {env : Nat → Env} {i : ι} {db db' : Database} {tenantId locationId : UUID} {tick : Nat}
  {request : ReadRequest}

/-- How the request ends, over a database that nobody writes. -/
def reply (assistant : Assistant) (actor : TokenPayload) (env : Nat → Env) (db : Database)
    (request : ReadRequest) : Session Stmt Stmt.Res Failure Message Env ReadResponse :=
  (finish engine env () (respond assistant actor request) (.start db)).1

def Refused : Session Stmt Stmt.Res Failure Message Env ReadResponse → Prop
  | .raised (.http code _) => code = 404 ∨ code = 403
  | _ => False

def SameReply (session session' : Session Stmt Stmt.Res Failure Message Env ReadResponse) : Prop :=
  session = session' ∨ Refused session ∧ Refused session'

/-- Whatever the rows of other tenants are, the request ends as it does over this database. -/
def Isolated (assistant : Assistant) (actor : TokenPayload) (tenantId : UUID) (db : Database)
    (request : ReadRequest) : Prop :=
  ∀ db', db'.Valid → AgreeOn tenantId db db' → ∀ env,
    SameReply (reply assistant actor env db request) (reply assistant actor env db' request)

/-- The tenant's own location, and a token that names the tenant as the check expects it. -/
def OwnLocation (actor : TokenPayload) (tenantId : UUID) (db : Database) (locationId : UUID) :
    Prop :=
  db.owner (.location locationId) = some tenantId ∧ actor.tenantId.isText tenantId = true

/-- The request reads no row that another tenant could have. -/
def ReadsOwn (actor : TokenPayload) (tenantId : UUID) (db : Database) : ReadRequest → Prop
  | .listTickets _ _ ticketStatus limit offset => limit.value ≤ 0 ∨ offset < 0 ∨
      ∃ text ∈ ticketStatus.filter (· ≠ ""), ∀ status : TicketStatus, status.text ≠ text
  | .getTicket ticketId => db.owner (.ticket ticketId) = some tenantId
  | .predictWait _ => False
  | .getInsights _ fromDt toDt => toDt ≤ fromDt
  | .suggestService _ _ => True
  | .getSummary locationId fromDt toDt =>
      ¬ OwnLocation actor tenantId db locationId ∨ toDt ≤ fromDt
  | .getTimeseries locationId metric interval fromDt toDt =>
      ¬ OwnLocation actor tenantId db locationId ∨ metric ∉ validMetrics ∨
        interval ∉ validIntervals ∨ toDt ≤ fromDt

/-! ## Replies -/

theorem reply_eq {session : Session Stmt Stmt.Res Failure Message Env ReadResponse}
    (answers : Answers engine env () db (respond assistant actor request) 0 session) :
    reply assistant actor env db request = session := by
  have solo : (State.start db : State Unit Database Write Lock Stmt Stmt.Res Message Env).Solo ()
      db [] 0 := ⟨rfl, rfl, rfl, by simp [State.HeldBy, State.start]⟩
  obtain ⟨_, _, same, _⟩ := answers _ solo
  exact same

theorem SameReply.symm {session session' : Session Stmt Stmt.Res Failure Message Env ReadResponse}
    (same : SameReply session session') : SameReply session' session :=
  same.imp Eq.symm And.symm

theorem SameReply.trans
    {first second third : Session Stmt Stmt.Res Failure Message Env ReadResponse}
    (left : SameReply first second) (right : SameReply second third) : SameReply first third := by
  rcases left with rfl | ⟨refused, again⟩
  · exact right
  · rcases right with rfl | ⟨_, last⟩
    · exact .inr ⟨refused, again⟩
    · exact .inr ⟨refused, last⟩

theorem sameReply_returned {response response' : ReadResponse}
    (same : SameReply (.returned response) (.returned response')) : response = response' := by
  rcases same with same | ⟨refused, _⟩
  · exact Session.returned.inj same
  · exact refused.elim

theorem isolated_of_answers (same : ∀ db', AgreeOn tenantId db db' → ∀ env, ∃ session,
    Answers engine env () db (respond assistant actor request) 0 session ∧
      Answers engine env () db' (respond assistant actor request) 0 session) :
    Isolated assistant actor tenantId db request := by
  intro db' _ agree env
  obtain ⟨session, answers, answers'⟩ := same db' agree env
  rw [reply_eq answers, reply_eq answers']
  exact .inl rfl

theorem answers_fault {α : Type} {q : Query} {next : q.Res → Handler α} {error : DbError}
    (fault : q.fault = some error) :
    Answers engine env i db ((query q).bind next) tick (.raised (.database error)) := by
  refine ends_perform (fun context failure _ exec => ?_) fun context value writes locks _ exec => ?_
  · have exec : (Stmt.read q).exec context = .fail failure := exec
    rw [Stmt.exec, fault] at exec
    cases exec
    exact ⟨rfl, rfl, rfl⟩
  · have exec : (Stmt.read q).exec context = .done value writes locks := exec
    rw [Stmt.exec, fault] at exec
    cases exec

/-! ## The list of a location -/

section
variable {serviceId : Option UUID} {ticketStatus : Option String} {limit : PageLimit}
  {offset : Int} {order : UUID → Nat} {old new listing : List Ticket}

def listed (order : UUID → Nat) (db : Database) (locationId : UUID) (serviceId : Option UUID)
    (ticketStatus : Option String) (limit : PageLimit) (offset : Int) : List Ticket :=
  (((matching db locationId serviceId ticketStatus).insertionSort
    (Database.createdOrder order)).drop offset.toNat).take limit.value.toNat

theorem answers_list (size : 0 ≤ limit.value) (start : 0 ≤ offset) :
    Answers engine env i db
      (respond assistant actor (.listTickets locationId serviceId ticketStatus limit offset)) tick
      (.returned (.tickets ((listed (env tick).order db locationId serviceId ticketStatus limit
        offset).map TicketRead.modelValidate))) := by
  simp only [respond, listTickets, Program.map_eq, Program.bind_eq, Program.bind_assoc]
  refine answers_query ?_ (answers_ret _)
  simp only [Query.fault, not_lt.mpr size, not_lt.mpr start, or_self, if_false]

theorem answers_list_negative (negative : limit.value < 0 ∨ offset < 0) :
    Answers engine env i db
      (respond assistant actor (.listTickets locationId serviceId ticketStatus limit offset)) tick
      (.raised (.database .negativeLimit)) := by
  simp only [respond, listTickets, Program.map_eq, Program.bind_eq, Program.bind_assoc]
  exact answers_fault (if_pos negative)

theorem answers_list_empty (size : 0 ≤ limit.value) (start : 0 ≤ offset)
    (empty : listed (env tick).order db locationId serviceId ticketStatus limit offset = []) :
    Answers engine env i db
      (respond assistant actor (.listTickets locationId serviceId ticketStatus limit offset)) tick
      (.returned (.tickets [])) := by
  have none : (listed (env tick).order db locationId serviceId ticketStatus limit offset).map
      (fun ticket => TicketRead.modelValidate ticket) = [] := by rw [empty, List.map_nil]
  rw [← none]
  exact answers_list size start

/-- A page that begins among more newcomers than it skips shows one of them. -/
theorem exists_listed (perm : listing.Perm (old ++ new))
    (sorted : listing.Pairwise (Database.createdOrder order))
    (first : ∀ before ∈ old, ∀ after ∈ new, ¬ Database.createdOrder order before after)
    (distinct : new.Nodup) {skipped size : Nat} (more : skipped < new.length)
    (positive : 0 < size) :
    ∃ ticket ∈ new, ticket ∈ (listing.drop skipped).take size := by
  have inside : skipped < listing.length := by
    rw [perm.length_eq, List.length_append]
    omega
  have shown : listing[skipped] ∈ (listing.drop skipped).take size := by
    rw [List.drop_eq_getElem_cons inside]
    obtain ⟨rest, rfl⟩ := Nat.exists_eq_succ_of_ne_zero positive.ne'
    exact List.mem_cons_self
  by_contra hidden
  have aged : listing[skipped] ∈ old := by
    refine (List.mem_append.mp (perm.mem_iff.mp (List.getElem_mem inside))).resolve_right ?_
    exact fun member => hidden ⟨_, member, shown⟩
  have before : new ⊆ listing.take skipped := by
    intro ticket member
    obtain ⟨k, within, rfl⟩ :=
      List.getElem_of_mem (perm.mem_iff.mpr (List.mem_append_right old member))
    refine List.mem_take_iff_getElem.mpr ⟨k, lt_min ?_ within, rfl⟩
    by_contra beyond
    rcases Nat.eq_or_lt_of_le (not_lt.mp beyond) with here | later
    · subst here
      exact hidden ⟨_, member, shown⟩
    · exact first _ aged _ member (List.pairwise_iff_getElem.mp sorted _ _ inside within later)
  have few := (distinct.subperm before).length_le
  rw [List.length_take] at few
  omega

theorem matching_joined {foreign : UUID} {arrival : Arrival} {ids : List UUID}
    (joined : Joined tenantId foreign arrival ids db db')
    (here : arrival.locationId = locationId)
    (status : ∀ text ∈ ticketStatus.filter (· ≠ ""), arrival.status.text = text)
    (service : ∀ id ∈ serviceId, arrival.serviceId = some id) :
    matching db' locationId serviceId ticketStatus =
      matching db locationId serviceId ticketStatus ++ ids.map (arrival.ticket foreign) := by
  rw [matching, joined.rows, List.filter_append, ← matching]
  congr 1
  refine List.filter_eq_self.mpr fun ticket member => ?_
  obtain ⟨id, _, rfl⟩ := List.mem_map.mp member
  exact decide_eq_true ⟨here, status, service⟩

theorem modelValidate_injective {tickets tickets' : List Ticket}
    (same : tickets.map (fun ticket => TicketRead.modelValidate ticket) =
      tickets'.map fun ticket => TicketRead.modelValidate ticket) : tickets = tickets' := by
  refine List.map_injective_iff.mpr (fun ticket ticket' same => ?_) same
  exact congrArg TicketRead.ticket same

def newcomersFirst (ids : List UUID) (tick : Nat) : Env :=
  ⟨0, tick, fun id => if id ∈ ids then 0 else 1, false⟩

theorem not_isolated_list (valid : db.Valid) (positive : 0 < limit.value) (start : 0 ≤ offset)
    {status : TicketStatus} (passes : ∀ text ∈ ticketStatus.filter (· ≠ ""), status.text = text) :
    ¬ Isolated assistant actor tenantId db
      (.listTickets locationId serviceId ticketStatus limit offset) := by
  intro isolated
  let arrival : Arrival := { locationId := locationId, serviceId := serviceId, status := status }
  obtain ⟨foreign, db', ids, length, joined⟩ :=
    exists_arrivals valid tenantId arrival (offset.toNat + 1)
  let order := (newcomersFirst ids 0).order
  have same := isolated db' joined.valid joined.agree (newcomersFirst ids)
  rw [reply_eq (answers_list positive.le start), reply_eq (answers_list positive.le start)] at same
  have shown : listed order db locationId serviceId ticketStatus limit offset =
      listed order db' locationId serviceId ticketStatus limit offset :=
    modelValidate_injective (ReadResponse.tickets.inj (sameReply_returned same))
  have rows : matching db' locationId serviceId ticketStatus =
      matching db locationId serviceId ticketStatus ++ ids.map (arrival.ticket foreign) :=
    matching_joined joined rfl passes fun id named => named
  have first : ∀ before ∈ matching db locationId serviceId ticketStatus,
      ∀ after ∈ ids.map (arrival.ticket foreign), ¬ Database.createdOrder order before after := by
    intro before aged after member
    obtain ⟨id, newId, rfl⟩ := List.mem_map.mp member
    have old : before.id ∉ ids := fun among =>
      Table.get?_eq_none.mp (joined.free _ among) before (List.mem_filter.mp aged).1 rfl
    simp [Database.createdOrder, Arrival.ticket, arrival, order, newcomersFirst, old, newId]
  have ordered := orderedBy_listing order (matching db' locationId serviceId ticketStatus)
  obtain ⟨ticket, member, seen⟩ := exists_listed (ordered.perm.trans (rows ▸ .refl _))
    (createdOrder_sorted order (matching db' locationId serviceId ticketStatus)) first
    (joined.distinct.map fun _ _ same => congrArg Ticket.id same)
    (by rw [List.length_map, length]; exact Nat.lt_succ_self _)
    (Int.pos_iff_toNat_pos.mp positive)
  have seen : ticket ∈ listed order db' locationId serviceId ticketStatus limit offset := seen
  rw [← shown] at seen
  have there := (List.mem_insertionSort _).mp (List.drop_subset _ _ (List.take_subset _ _ seen))
  obtain ⟨id, newId, rfl⟩ := List.mem_map.mp member
  exact Table.get?_eq_none.mp (joined.free id newId) _ (List.mem_filter.mp there).1 rfl

theorem isolated_list (own : ReadsOwn actor tenantId db
      (.listTickets locationId serviceId ticketStatus limit offset)) :
    Isolated assistant actor tenantId db
      (.listTickets locationId serviceId ticketStatus limit offset) := by
  refine isolated_of_answers fun db' agree env => ?_
  by_cases negative : limit.value < 0 ∨ offset < 0
  · exact ⟨_, answers_list_negative negative, answers_list_negative negative⟩
  · obtain ⟨size, start⟩ := not_or.mp negative
    rw [not_lt] at size start
    have empty (db : Database) :
        listed (env 0).order db locationId serviceId ticketStatus limit offset = [] := by
      rcases own with none | before | ⟨text, filtered, unknown⟩
      · rw [listed, Int.toNat_of_nonpos none, List.take_zero]
      · exact (negative (.inr before)).elim
      · have nothing : matching db locationId serviceId ticketStatus = [] := by
          refine List.filter_eq_nil_iff.mpr fun ticket _ passes => ?_
          exact unknown ticket.status ((of_decide_eq_true passes).2.1 text filtered)
        simp [listed, nothing]
    exact ⟨_, answers_list_empty size start (empty db), answers_list_empty size start (empty db')⟩

theorem isolated_list_iff (valid : db.Valid) :
    Isolated assistant actor tenantId db
        (.listTickets locationId serviceId ticketStatus limit offset) ↔
      ReadsOwn actor tenantId db
        (.listTickets locationId serviceId ticketStatus limit offset) := by
  refine ⟨fun isolated => ?_, isolated_list⟩
  by_contra visible
  simp only [ReadsOwn, not_or, not_le, not_lt, not_exists, not_and, not_forall, not_not] at visible
  obtain ⟨positive, start, known⟩ := visible
  obtain ⟨status, passes⟩ : ∃ status : TicketStatus,
      ∀ text ∈ ticketStatus.filter (· ≠ ""), status.text = text := by
    cases filtered : ticketStatus.filter (· ≠ "") with
    | none => exact ⟨.waiting, by simp⟩
    | some text =>
        obtain ⟨status, named⟩ := known text filtered
        exact ⟨status, by simpa using named⟩
  exact not_isolated_list valid positive start passes isolated

end

/-! ## One ticket -/

section
variable {ticketId : UUID} {ticket : Ticket}

theorem answers_ticket (found : db.tickets.get? ticketId = some ticket) :
    Answers engine env i db (respond assistant actor (.getTicket ticketId)) tick
      (.returned (.ticket ⟨.modelValidate ticket,
        (db.eventsInOrder (env (tick + 1)).order ticketId).map .modelValidate⟩)) := by
  simp only [respond, getTicket, Program.map_eq, Program.bind_eq, Program.bind_assoc]
  refine answers_query rfl ?_
  simp only [Query.eval, found]
  exact answers_query rfl (answers_ret _)

theorem answers_ticket_missing (missing : db.tickets.get? ticketId = none) :
    Answers engine env i db (respond assistant actor (.getTicket ticketId)) tick
      (.raised (.http 404 "Ticket not found")) := by
  simp only [respond, getTicket, Program.map_eq, Program.bind_eq, Program.bind_assoc]
  refine answers_query rfl ?_
  simp only [Query.eval, missing]
  exact answers_raise _

theorem get?_of_agree {α : Type} [Keyed α UUID] {table table' : Table α} {owner : α → UUID}
    (same : table.rows.filter (owner · = tenantId) = table'.rows.filter (owner · = tenantId))
    {id : UUID} {row : α} (found : table.get? id = some row) (own : owner row = tenantId) :
    table'.get? id = some row := by
  obtain ⟨member, named⟩ := Table.get?_eq_some.mp found
  exact Table.get?_eq_some.mpr ⟨(mem_iff_of_filter same own).mp member, named⟩

theorem not_isolated_missing (valid : db.Valid) (missing : db.tickets.get? ticketId = none) :
    ¬ Isolated assistant actor tenantId db (.getTicket ticketId) := by
  intro isolated
  let arrival : Arrival := { locationId := 0 }
  obtain ⟨other, host, others, hosts, admits⟩ := exists_admits valid tenantId arrival
  have absent : host.tickets.get? (arrival.ticket other ticketId).id = none := by
    rw [hosts.tickets]
    exact missing
  have stored : (host.put (.ticket (arrival.ticket other ticketId))).tickets.get? ticketId =
      some (arrival.ticket other ticketId) := by
    simp [Database.put, Arrival.ticket]
  have same := isolated _ (admits_put admits ticketId).valid
    (hosts.agree.trans (agreeOn_put_ticket others (by simp [absent]))) steadyEnv
  rw [reply_eq (answers_ticket_missing missing), reply_eq (answers_ticket stored)] at same
  rcases same with same | ⟨_, refused⟩
  · cases same
  · exact refused

theorem not_isolated_foreign (valid : db.Valid) (found : db.tickets.get? ticketId = some ticket)
    (others : ticket.tenantId ≠ tenantId) :
    ¬ Isolated assistant actor tenantId db (.getTicket ticketId) := by
  intro isolated
  let changed : Ticket := { ticket with priority := ticket.priority + 1 }
  have named : ticket.id = ticketId := Table.key_of_get? found
  have stored : (db.put (.ticket changed)).tickets.get? ticketId = some changed := by
    simp [Database.put, changed, named]
  have refs : ∀ ref ∈ (Row.ticket changed).refs, (db.row ref).isSome = true :=
    valid.referenced (.ticket ticket)
      (mem_allRows.mpr (by simp [Database.row, Row.lock, named, found]))
  have same := isolated _ (valid_put_ticket valid refs)
    (agreeOn_put_ticket others (by simp [changed, named, found, others])) steadyEnv
  rw [reply_eq (answers_ticket found), reply_eq (answers_ticket stored)] at same
  have reads := congrArg TicketWithEvents.read (ReadResponse.ticket.inj (sameReply_returned same))
  have priorities : ticket.priority = ticket.priority + 1 :=
    congrArg (fun read : TicketRead => read.ticket.priority) reads
  omega

theorem isolated_ticket_iff (valid : db.Valid) :
    Isolated assistant actor tenantId db (.getTicket ticketId) ↔
      ReadsOwn actor tenantId db (.getTicket ticketId) := by
  constructor
  · intro isolated
    cases found : db.tickets.get? ticketId with
    | none => exact (not_isolated_missing valid found isolated).elim
    | some ticket =>
        by_contra foreign
        refine not_isolated_foreign valid found (fun own => ?_) isolated
        exact foreign (own ▸ owner_ticket found)
  · intro own
    obtain ⟨ticket, found, owned⟩ := owner_ticket_iff.mp own
    refine isolated_of_answers fun db' agree env => ⟨_, answers_ticket found, ?_⟩
    have events : db.eventsOf ticketId = db'.eventsOf ticketId :=
      Table.key_of_get? found ▸ agree.events ticket (Table.mem_of_get? found) owned
    rw [Database.eventsInOrder, events]
    exact answers_ticket (get?_of_agree agree.tickets found owned)

end

/-! ## The wait at a location -/

theorem answers_predictWait
    (quiet : db.recentAverageWait locationId ((env tick).now - hours 2) = none) :
    Answers engine env i db (respond assistant actor (.predictWait locationId)) tick
      (.returned (.wait ⟨roundTenths (max 0 (db.waitingCount locationId * 5)),
        db.waitingCount locationId, 5 / 10⟩)) := by
  simp only [respond, predictWaitTime, signageSnapshot, shownTickets, Program.map_eq,
    Program.bind_eq, Program.bind_assoc, Program.observe_bind, Program.ret_bind, Program.pure_eq]
  refine answers_observe ?_
  refine answers_query rfl (answers_query rfl (answers_query rfl ?_))
  refine answers_query rfl (answers_query rfl (answers_query rfl ?_))
  refine answers_query rfl (answers_query rfl ?_)
  simp only [Query.eval, quiet]
  exact answers_ret _

theorem exists_quiet (tickets : List Ticket) :
    ∃ bound, ∀ ticket ∈ tickets, ∀ calledAt ∈ ticket.calledAt, calledAt < bound := by
  induction tickets with
  | nil => exact ⟨0, by simp⟩
  | cons ticket tickets ih =>
      obtain ⟨bound, before⟩ := ih
      refine ⟨max bound (ticket.calledAt.getD 0 + 1), fun other member calledAt called => ?_⟩
      rcases List.mem_cons.mp member with rfl | member
      · rw [Option.mem_def.mp called]
        exact lt_max_of_lt_right (Nat.lt_succ_self _)
      · exact lt_max_of_lt_left (before other member calledAt called)

theorem recentAverageWait_quiet {since : Time}
    (quiet : ∀ ticket ∈ db.tickets.rows, ∀ calledAt ∈ ticket.calledAt, calledAt < since) :
    db.recentAverageWait locationId since = none := by
  have nobody : (db.tickets.rows.filter fun ticket =>
      ticket.locationId = locationId ∧ ∃ calledAt ∈ ticket.calledAt, since ≤ calledAt) = [] := by
    refine List.filter_eq_nil_iff.mpr fun ticket member recent => ?_
    obtain ⟨_, calledAt, called, le⟩ := of_decide_eq_true recent
    exact absurd (quiet ticket member calledAt called) (not_lt.mpr le)
  rw [Database.recentAverageWait, nobody]
  rfl

theorem not_isolated_predictWait (valid : db.Valid) :
    ¬ Isolated assistant actor tenantId db (.predictWait locationId) := by
  intro isolated
  let arrival : Arrival := { locationId := locationId }
  obtain ⟨foreign, db', ids, length, joined⟩ := exists_arrivals valid tenantId arrival 1
  obtain ⟨id, rfl⟩ := List.length_eq_one_iff.mp length
  obtain ⟨bound, before⟩ := exists_quiet db'.tickets.rows
  let env (tick : Nat) : Env := ⟨bound + hours 2, tick, fun id => id, false⟩
  have quiet' : db'.recentAverageWait locationId ((env 0).now - hours 2) = none :=
    recentAverageWait_quiet (by simpa [env] using before)
  have quiet : db.recentAverageWait locationId ((env 0).now - hours 2) = none := by
    refine recentAverageWait_quiet fun ticket member calledAt called => ?_
    have still : ticket ∈ db'.tickets.rows := by
      rw [joined.rows]
      exact List.mem_append_left _ member
    simpa [env] using before ticket still calledAt called
  have same := isolated db' joined.valid joined.agree env
  rw [reply_eq (answers_predictWait quiet), reply_eq (answers_predictWait quiet')] at same
  have counts : db.waitingCount locationId = db'.waitingCount locationId :=
    congrArg WaitPrediction.waitingCount (ReadResponse.wait.inj (sameReply_returned same))
  have more : db'.waitingCount locationId = db.waitingCount locationId + 1 := by
    rw [Database.waitingCount, joined.rows, List.filter_append, List.length_append]
    simp [Database.waitingCount, Arrival.ticket, arrival]
  omega

/-! ## Windows -/

section
variable {fromDt toDt : Time}

theorem createdIn_eq_nil (empty : toDt ≤ fromDt) : db.createdIn locationId fromDt toDt = [] := by
  refine List.filter_eq_nil_iff.mpr fun ticket _ within => ?_
  obtain ⟨_, since, before⟩ := of_decide_eq_true within
  exact absurd (lt_of_le_of_lt since before) (not_lt.mpr empty)

theorem createdIn_joined {foreign : UUID} {arrival : Arrival} {ids : List UUID}
    (joined : Joined tenantId foreign arrival ids db db')
    (here : arrival.locationId = locationId) (since : fromDt ≤ arrival.createdAt)
    (before : arrival.createdAt < toDt) :
    db'.createdIn locationId fromDt toDt =
      db.createdIn locationId fromDt toDt ++ ids.map (arrival.ticket foreign) := by
  rw [Database.createdIn, joined.rows, List.filter_append, ← Database.createdIn]
  congr 1
  refine List.filter_eq_self.mpr fun ticket member => ?_
  obtain ⟨id, _, rfl⟩ := List.mem_map.mp member
  exact decide_eq_true ⟨here, since, before⟩

theorem summaryOf_congr (same : db.createdIn locationId fromDt toDt =
    db'.createdIn locationId fromDt toDt) :
    summaryOf db locationId fromDt toDt = summaryOf db' locationId fromDt toDt := by
  simp only [summaryOf, Database.kpiCounts, same]

theorem timeseries_congr {metric : Metric} {unit : TimeUnit}
    (same : db.createdIn locationId fromDt toDt = db'.createdIn locationId fromDt toDt) :
    db.timeseries locationId fromDt toDt metric unit =
      db'.timeseries locationId fromDt toDt metric unit := by
  rw [timeseries_eq, timeseries_eq, contributing, contributing, same]

theorem summaryOf_joined {foreign : UUID} {arrival : Arrival} {ids : List UUID}
    (joined : Joined tenantId foreign arrival ids db db') (length : ids.length = 1)
    (here : arrival.locationId = locationId) (since : fromDt ≤ arrival.createdAt)
    (before : arrival.createdAt < toDt) :
    summaryOf db locationId fromDt toDt ≠ summaryOf db' locationId fromDt toDt := by
  intro same
  have totals : (db.createdIn locationId fromDt toDt).length =
      (db'.createdIn locationId fromDt toDt).length := congrArg KpiData.totalTickets same
  rw [createdIn_joined joined here since before, List.length_append, List.length_map, length]
    at totals
  omega

def insightsFor (kpi : KpiData) : Insights :=
  ⟨insightsOf kpi, kpi, " | ".intercalate ((insightsOf kpi).take 3)⟩

theorem answers_insights :
    Answers engine env i db (respond assistant actor (.getInsights locationId fromDt toDt)) tick
      (.returned (.insights (insightsFor (summaryOf db locationId fromDt toDt)))) := by
  simp only [respond, getInsights, kpiSummary, Program.map_eq, Program.bind_eq, Program.bind_assoc,
    Program.ret_bind, Program.pure_eq]
  exact answers_query rfl (answers_query rfl (answers_query rfl (answers_ret _)))

theorem isolated_insights_iff (valid : db.Valid) :
    Isolated assistant actor tenantId db (.getInsights locationId fromDt toDt) ↔
      ReadsOwn actor tenantId db (.getInsights locationId fromDt toDt) := by
  constructor
  · intro isolated
    by_contra visible
    have within : fromDt < toDt := not_le.mp visible
    obtain ⟨foreign, db', ids, length, joined⟩ :=
      exists_arrivals valid tenantId { locationId := locationId, createdAt := fromDt } 1
    have same := isolated db' joined.valid joined.agree steadyEnv
    rw [reply_eq answers_insights, reply_eq answers_insights] at same
    exact summaryOf_joined joined length rfl le_rfl within
      (congrArg Insights.kpi (ReadResponse.insights.inj (sameReply_returned same)))
  · intro empty
    refine isolated_of_answers fun db' _ env => ⟨_, answers_insights, ?_⟩
    rw [summaryOf_congr ((createdIn_eq_nil empty).trans (createdIn_eq_nil empty).symm)]
    exact answers_insights

end

/-! ## Analytics -/

section
variable {α : Type} {next : Unit → Handler α}

theorem answers_check {session : Session Stmt Stmt.Res Failure Message Env α}
    (own : OwnLocation actor tenantId db locationId)
    (rest : Answers engine env i db (next ()) (tick + 1) session) :
    Answers engine env i db ((checkLocationTenant locationId actor).bind next) tick session := by
  obtain ⟨loc, found, owned⟩ := owner_location_iff.mp own.1
  simp only [checkLocationTenant, Program.bind_eq, Program.bind_assoc]
  refine answers_query rfl ?_
  simp only [Query.eval, Option.mem_def.mp found, owned, own.2, if_true]
  exact rest

theorem answers_check_refused (tenant : actor.tenantId.parse = some tenantId)
    (others : ¬ OwnLocation actor tenantId db locationId) :
    ∃ code detail, (code = 404 ∨ code = 403) ∧ Answers engine env i db
      ((checkLocationTenant locationId actor).bind next) tick (.raised (.http code detail)) := by
  simp only [checkLocationTenant, Program.bind_eq, Program.bind_assoc]
  cases found : db.locations.get? locationId with
  | none =>
      refine ⟨404, "Location not found", .inl rfl, answers_query rfl ?_⟩
      simp only [Query.eval, found]
      exact answers_raise _
  | some loc =>
      have mismatch : actor.tenantId.isText loc.tenantId = false := by
        by_contra named
        have named : actor.tenantId.isText loc.tenantId = true := by simpa using named
        obtain rfl : loc.tenantId = tenantId :=
          Option.some.inj ((UuidText.parse_of_isText named).symm.trans tenant)
        exact others ⟨owner_location found, named⟩
      refine ⟨403, "Tenant mismatch", .inr rfl, answers_query rfl ?_⟩
      simp only [Query.eval, found, mismatch, Bool.false_eq_true, if_false]
      exact answers_raise _

theorem ownLocation_agree (agree : AgreeOn tenantId db db')
    (own : OwnLocation actor tenantId db locationId) :
    OwnLocation actor tenantId db' locationId := by
  obtain ⟨loc, found, owned⟩ := owner_location_iff.mp own.1
  have found' : db'.locations.get? locationId = some loc :=
    get?_of_agree agree.locations found owned
  exact ⟨owned ▸ owner_location found', own.2⟩

theorem isolated_of_refused (tenant : actor.tenantId.parse = some tenantId)
    (others : ¬ OwnLocation actor tenantId db locationId) {next : Unit → Handler ReadResponse}
    (checks : respond assistant actor request = (checkLocationTenant locationId actor).bind next) :
    Isolated assistant actor tenantId db request := by
  intro db' _ agree env
  have others' : ¬ OwnLocation actor tenantId db' locationId :=
    fun own => others (ownLocation_agree agree.symm own)
  have refusal {db : Database} (others : ¬ OwnLocation actor tenantId db locationId) :
      ∃ code detail, (code = 404 ∨ code = 403) ∧ Answers engine env () db
        (respond assistant actor request) 0 (.raised (.http code detail)) := by
    rw [checks]
    exact answers_check_refused tenant others
  obtain ⟨code, detail, refused, answers⟩ := refusal others
  obtain ⟨code', detail', refused', answers'⟩ := refusal others'
  rw [reply_eq answers, reply_eq answers']
  exact .inr ⟨refused, refused'⟩

/-! ## Summaries -/

variable {fromDt toDt : Time}

theorem respond_getSummary : respond assistant actor (.getSummary locationId fromDt toDt) =
    (checkLocationTenant locationId actor).bind fun _ =>
      if toDt ≤ fromDt then .raise (.http 422 "from must be before to")
      else (kpiSummary locationId fromDt toDt).bind fun data =>
        .ret (.summary ⟨locationId, fromDt, toDt, data⟩) := by
  simp only [respond, getSummary, Program.map_eq, Program.bind_eq, Program.bind_assoc]
  congr 1
  funext _
  split
  · rfl
  · simp

theorem answers_summary (own : OwnLocation actor tenantId db locationId) (within : fromDt < toDt) :
    Answers engine env i db (respond assistant actor (.getSummary locationId fromDt toDt)) tick
      (.returned (.summary ⟨locationId, fromDt, toDt, summaryOf db locationId fromDt toDt⟩)) := by
  rw [respond_getSummary]
  refine answers_check own ?_
  rw [if_neg (not_le.mpr within)]
  exact answers_query rfl (answers_query rfl (answers_query rfl (answers_ret _)))

theorem answers_summary_empty (own : OwnLocation actor tenantId db locationId)
    (empty : toDt ≤ fromDt) :
    Answers engine env i db (respond assistant actor (.getSummary locationId fromDt toDt)) tick
      (.raised (.http 422 "from must be before to")) := by
  rw [respond_getSummary]
  refine answers_check own ?_
  rw [if_pos empty]
  exact answers_raise _

theorem isolated_summary_iff (valid : db.Valid) (tenant : actor.tenantId.parse = some tenantId) :
    Isolated assistant actor tenantId db (.getSummary locationId fromDt toDt) ↔
      ReadsOwn actor tenantId db (.getSummary locationId fromDt toDt) := by
  by_cases own : OwnLocation actor tenantId db locationId
  · constructor
    · intro isolated
      by_contra visible
      have within : fromDt < toDt := not_le.mp fun empty => visible (.inr empty)
      obtain ⟨foreign, db', ids, length, joined⟩ :=
        exists_arrivals valid tenantId { locationId := locationId, createdAt := fromDt } 1
      have same := isolated db' joined.valid joined.agree steadyEnv
      rw [reply_eq (answers_summary own within),
        reply_eq (answers_summary (ownLocation_agree joined.agree own) within)] at same
      exact summaryOf_joined joined length rfl le_rfl within
        (congrArg KpiSummary.data (ReadResponse.summary.inj (sameReply_returned same)))
    · intro reads
      have empty : toDt ≤ fromDt := reads.resolve_left fun others => others own
      refine isolated_of_answers fun db' agree env => ⟨_, answers_summary_empty own empty, ?_⟩
      exact answers_summary_empty (ownLocation_agree agree own) empty
  · exact iff_of_true (isolated_of_refused tenant own respond_getSummary) (.inl own)

/-! ## Series -/

variable {metric interval : String} {unit : TimeUnit}

theorem respond_getTimeseries :
    respond assistant actor (.getTimeseries locationId metric interval fromDt toDt) =
      (checkLocationTenant locationId actor).bind fun _ =>
        (requireOneOf "metric" metric validMetrics).bind fun _ =>
          (requireOneOf "interval" interval validIntervals).bind fun _ =>
            (timeseries locationId fromDt toDt metric interval).bind fun data =>
              .ret (.timeseries ⟨locationId, metric, interval, data⟩) := by
  simp [respond, getTimeseries]

theorem answers_series (own : OwnLocation actor tenantId db locationId)
    (accepted : metric ∈ validMetrics) (valid : interval ∈ validIntervals)
    (named : unitNamed (truncUnit interval) = some unit) :
    Answers engine env i db
      (respond assistant actor (.getTimeseries locationId metric interval fromDt toDt)) tick
      (.returned (.timeseries ⟨locationId, metric, interval,
        db.timeseries locationId fromDt toDt (metricNamed metric) unit⟩)) := by
  rw [respond_getTimeseries]
  refine answers_check own ?_
  simp only [requireOneOf, accepted, valid, if_true, Program.pure_eq, Program.ret_bind, timeseries,
    named]
  exact answers_query rfl (answers_ret _)

theorem requireOneOf_rejected (parameter : String) {text : String} {options : List String}
    (rejected : text ∉ options) :
    ∃ detail, requireOneOf parameter text options = .raise (.http 422 detail) :=
  ⟨_, if_neg rejected⟩

theorem answers_series_rejected (rejected : metric ∉ validMetrics ∨ interval ∉ validIntervals) :
    ∃ detail, ∀ db, OwnLocation actor tenantId db locationId → Answers engine env i db
      (respond assistant actor (.getTimeseries locationId metric interval fromDt toDt)) tick
      (.raised (.http 422 detail)) := by
  by_cases accepted : metric ∈ validMetrics
  · obtain ⟨detail, raises⟩ := requireOneOf_rejected "interval"
      (rejected.resolve_left (absurd accepted))
    refine ⟨detail, fun db own => ?_⟩
    rw [respond_getTimeseries]
    refine answers_check own ?_
    rw [requireOneOf, if_pos accepted, raises]
    exact answers_raise _
  · obtain ⟨detail, raises⟩ := requireOneOf_rejected "metric" accepted
    refine ⟨detail, fun db own => ?_⟩
    rw [respond_getTimeseries]
    refine answers_check own ?_
    rw [raises]
    exact answers_raise _

def served (locationId : UUID) (createdAt duration : Time) : Arrival where
  locationId := locationId
  status := .completed
  createdAt := createdAt
  calledAt := some (createdAt + duration)
  serviceStartedAt := some createdAt
  completedAt := some (createdAt + duration)

theorem contributing_joined {foreign : UUID} {ids : List UUID} {duration : Time}
    (joined : Joined tenantId foreign (served locationId fromDt duration) ids db db')
    (within : fromDt < toDt) (metric : Metric) :
    contributing db' locationId fromDt toDt metric =
      contributing db locationId fromDt toDt metric ++
        ids.map ((served locationId fromDt duration).ticket foreign) := by
  have created : db'.createdIn locationId fromDt toDt = db.createdIn locationId fromDt toDt ++
      ids.map ((served locationId fromDt duration).ticket foreign) :=
    createdIn_joined joined rfl le_rfl within
  rw [contributing, created, List.filter_append, ← contributing]
  congr 1
  refine List.filter_eq_self.mpr fun ticket member => ?_
  obtain ⟨id, _, rfl⟩ := List.mem_map.mp member
  cases metric <;> rfl

theorem bucket_joined {foreign : UUID} {ids : List UUID} {duration : Time}
    (joined : Joined tenantId foreign (served locationId fromDt duration) ids db db')
    (nonempty : ids ≠ []) (within : fromDt < toDt) (unit : TimeUnit) (metric : Metric)
    (value : Rat) :
    (⟨dateTrunc unit fromDt, value⟩ : Bucket) ∈
        db'.timeseries locationId fromDt toDt metric unit ↔
      value = bucketValue metric
        (group (bucketOf unit) (contributing db locationId fromDt toDt metric)
          (dateTrunc unit fromDt) ++
            ids.map ((served locationId fromDt duration).ticket foreign)) := by
  have grouped : group (bucketOf unit) (contributing db' locationId fromDt toDt metric)
      (dateTrunc unit fromDt) = group (bucketOf unit)
        (contributing db locationId fromDt toDt metric) (dateTrunc unit fromDt) ++
          ids.map ((served locationId fromDt duration).ticket foreign) := by
    rw [group, contributing_joined joined within, List.filter_append, ← group]
    congr 1
    refine List.filter_eq_self.mpr fun ticket member => ?_
    obtain ⟨id, _, rfl⟩ := List.mem_map.mp member
    exact decide_eq_true rfl
  rw [timeseries_eq, List.mem_map]
  constructor
  · rintro ⟨start, _, same⟩
    obtain ⟨rfl, rfl⟩ := Bucket.mk.inj same
    rw [grouped]
  · rintro rfl
    refine ⟨dateTrunc unit fromDt, mem_bucketStarts.mpr ?_, by rw [grouped]⟩
    obtain ⟨id, member⟩ := List.exists_mem_of_ne_nil ids nonempty
    refine ⟨(served locationId fromDt duration).ticket foreign id, ?_, rfl⟩
    rw [contributing_joined joined within]
    exact List.mem_append_right _ (List.mem_map_of_mem member)

theorem average_append (values : List Rat) (value : Rat) :
    average (values ++ [value]) = some ((values.sum + value) / (values.length + 1)) := by
  simp [average]

theorem average_append_injective {values : List Rat} {value value' : Rat}
    (same : (average (values ++ [value])).getD 0 = (average (values ++ [value'])).getD 0) :
    value = value' := by
  rw [average_append, average_append] at same
  have positive : (values.length : Rat) + 1 ≠ 0 := by positivity
  exact add_left_cancel ((div_left_inj' positive).mp same)

theorem waitSeconds_served (duration : Time) (foreign id : UUID) :
    waitSeconds ((served locationId fromDt duration).ticket foreign id) =
      some ((duration : Rat) / 1000000) := by
  simp [waitSeconds, Database.secondsBetween, served, Arrival.ticket]

theorem serviceSeconds_served (duration : Time) (foreign id : UUID) :
    serviceSeconds ((served locationId fromDt duration).ticket foreign id) =
      some ((duration : Rat) / 1000000) := by
  simp [serviceSeconds, Database.secondsBetween, served, Arrival.ticket]

/-- Two ways to add to a bucket that change its value differently. -/
theorem exists_bucketValue_ne (locationId : UUID) (fromDt : Time) (tickets : List Ticket)
    (metric : Metric) :
    ∃ n duration n' duration' : Nat, 0 < n ∧ 0 < n' ∧
      ∀ (foreign foreign' : UUID) (ids ids' : List UUID), ids.length = n → ids'.length = n' →
        bucketValue metric
            (tickets ++ ids.map ((served locationId fromDt duration).ticket foreign)) ≠
          bucketValue metric
            (tickets ++ ids'.map ((served locationId fromDt duration').ticket foreign')) := by
  have counted : ∀ (foreign foreign' : UUID) (ids ids' : List UUID), ids.length = 1 →
      ids'.length = 2 →
        ((tickets ++ ids.map ((served locationId fromDt 0).ticket foreign)).length : Rat) ≠
          (tickets ++ ids'.map ((served locationId fromDt 0).ticket foreign')).length := by
    intro foreign foreign' ids ids' one two same
    have lengths := Nat.cast_injective same
    simp only [List.length_append, List.length_map, one, two] at lengths
    omega
  have measured {column : Ticket → Option Rat}
      (reads : ∀ (duration : Time) (foreign id : UUID),
        column ((served locationId fromDt duration).ticket foreign id) =
          some ((duration : Rat) / 1000000)) :
      ∀ (foreign foreign' : UUID) (ids ids' : List UUID), ids.length = 1 → ids'.length = 1 →
        (average ((tickets ++ ids.map
            ((served locationId fromDt 0).ticket foreign)).filterMap column)).getD 0 ≠
          (average ((tickets ++ ids'.map
            ((served locationId fromDt 1).ticket foreign')).filterMap column)).getD 0 := by
    intro foreign foreign' ids ids' one one' same
    obtain ⟨id, rfl⟩ := List.length_eq_one_iff.mp one
    obtain ⟨id', rfl⟩ := List.length_eq_one_iff.mp one'
    simp only [List.filterMap_append, List.map_cons, List.map_nil, List.filterMap_cons, reads,
      List.filterMap_nil] at same
    have values := average_append_injective same
    norm_num at values
  cases metric with
  | waitTime => exact ⟨1, 0, 1, 1, one_pos, one_pos, measured waitSeconds_served⟩
  | serviceTime => exact ⟨1, 0, 1, 1, one_pos, one_pos, measured serviceSeconds_served⟩
  | throughput => exact ⟨1, 0, 2, 0, one_pos, two_pos, counted⟩
  | queueLength => exact ⟨1, 0, 2, 0, one_pos, two_pos, counted⟩

theorem not_isolated_series (valid : db.Valid) (own : OwnLocation actor tenantId db locationId)
    (accepted : metric ∈ validMetrics) (known : interval ∈ validIntervals)
    (within : fromDt < toDt) :
    ¬ Isolated assistant actor tenantId db
      (.getTimeseries locationId metric interval fromDt toDt) := by
  intro isolated
  obtain ⟨unit, named⟩ := unitNamed_of_valid known
  obtain ⟨n, duration, n', duration', positive, positive', differs⟩ :=
    exists_bucketValue_ne locationId fromDt
      (group (bucketOf unit) (contributing db locationId fromDt toDt (metricNamed metric))
        (dateTrunc unit fromDt)) (metricNamed metric)
  obtain ⟨foreign, left, ids, length, joined⟩ :=
    exists_arrivals valid tenantId (served locationId fromDt duration) n
  obtain ⟨foreign', right, ids', length', joined'⟩ :=
    exists_arrivals valid tenantId (served locationId fromDt duration') n'
  have same := (isolated left joined.valid joined.agree steadyEnv).symm.trans
    (isolated right joined'.valid joined'.agree steadyEnv)
  rw [reply_eq (answers_series (ownLocation_agree joined.agree own) accepted known named),
    reply_eq (answers_series (ownLocation_agree joined'.agree own) accepted known named)] at same
  have series : left.timeseries locationId fromDt toDt (metricNamed metric) unit =
      right.timeseries locationId fromDt toDt (metricNamed metric) unit :=
    congrArg TimeSeriesResponse.data (ReadResponse.timeseries.inj (sameReply_returned same))
  have first := (bucket_joined joined (List.length_pos_iff.mp (length ▸ positive)) within unit
    (metricNamed metric) _).mpr rfl
  rw [series] at first
  have second := (bucket_joined joined' (List.length_pos_iff.mp (length' ▸ positive')) within
    unit (metricNamed metric) _).mp first
  exact differs foreign foreign' ids ids' length length' second

theorem isolated_series (own : OwnLocation actor tenantId db locationId)
    (reads : metric ∉ validMetrics ∨ interval ∉ validIntervals ∨ toDt ≤ fromDt) :
    Isolated assistant actor tenantId db
      (.getTimeseries locationId metric interval fromDt toDt) := by
  refine isolated_of_answers fun db' agree env => ?_
  by_cases rejected : metric ∉ validMetrics ∨ interval ∉ validIntervals
  · obtain ⟨detail, answers⟩ : ∃ detail, ∀ db, OwnLocation actor tenantId db locationId →
        Answers engine env () db (respond assistant actor
          (.getTimeseries locationId metric interval fromDt toDt)) 0
            (.raised (.http 422 detail)) := answers_series_rejected rejected
    exact ⟨_, answers db own, answers db' (ownLocation_agree agree own)⟩
  · have empty : toDt ≤ fromDt := (or_assoc.mpr reads).resolve_left rejected
    obtain ⟨accepted, known⟩ := not_or.mp rejected
    rw [not_not] at accepted known
    obtain ⟨unit, named⟩ := unitNamed_of_valid known
    refine ⟨_, answers_series own accepted known named, ?_⟩
    rw [timeseries_congr ((createdIn_eq_nil empty).trans (createdIn_eq_nil empty).symm)]
    exact answers_series (ownLocation_agree agree own) accepted known named

theorem isolated_series_iff (valid : db.Valid) (tenant : actor.tenantId.parse = some tenantId) :
    Isolated assistant actor tenantId db
        (.getTimeseries locationId metric interval fromDt toDt) ↔
      ReadsOwn actor tenantId db (.getTimeseries locationId metric interval fromDt toDt) := by
  by_cases own : OwnLocation actor tenantId db locationId
  · refine ⟨fun isolated => ?_,
      fun reads => isolated_series own (reads.resolve_left (not_not.mpr own))⟩
    by_contra visible
    simp only [ReadsOwn, not_or, not_not, not_le] at visible
    obtain ⟨_, accepted, known, within⟩ := visible
    exact not_isolated_series valid own accepted known within isolated
  · exact iff_of_true (isolated_of_refused tenant own respond_getTimeseries) (.inl own)

end

/-! ## Suggestions -/

theorem servicesFor_agree (agree : AgreeOn tenantId db db') (locationId : UUID) :
    db.servicesFor tenantId locationId = db'.servicesFor tenantId locationId := by
  have own (db : Database) : db.servicesFor tenantId locationId =
      (db.services.rows.filter (·.tenantId = tenantId)).filter fun service =>
        service.active ∧ (service.locationId = none ∨ service.locationId = some locationId) := by
    rw [List.filter_filter, Database.servicesFor]
    refine List.filter_congr fun service _ => ?_
    rw [← Bool.decide_and, decide_eq_decide]
    exact and_comm
  rw [own, own, agree.services]

theorem exists_suggestion (tenant : actor.tenantId.parse = some tenantId) (locationId : UUID)
    (text : String) (services : List Service) :
    ∃ session, ∀ db : Database, db.servicesFor tenantId locationId = services →
      Answers engine env i db (respond assistant actor (.suggestService locationId text)) tick
        session := by
  obtain ⟨next, asks, decided⟩ : ∃ next : List Service → Handler ReadResponse,
      respond assistant actor (.suggestService locationId text) =
        (query (.servicesFor tenantId locationId)).bind next ∧
      ((∃ response, next services = .ret response) ∨ ∃ error, next services = .raise error) := by
    simp only [respond, suggestService, getServices, Program.map_eq, Program.bind_eq,
      Program.bind_assoc]
    rw [parse_ret tenant]
    simp only [Program.ret_bind, Program.pure_eq]
    refine ⟨_, rfl, ?_⟩
    split
    · exact .inl ⟨_, rfl⟩
    · split
      · exact .inl ⟨_, rfl⟩
      · split
        · exact .inl ⟨_, rfl⟩
        · exact .inr ⟨_, rfl⟩
  rw [asks]
  rcases decided with ⟨response, returns⟩ | ⟨error, raises⟩
  · refine ⟨.returned response, fun db offered => answers_query rfl ?_⟩
    rw [Query.eval, offered, returns]
    exact answers_ret _
  · refine ⟨.raised error, fun db offered => answers_query rfl ?_⟩
    rw [Query.eval, offered, raises]
    exact answers_raise _

theorem isolated_suggestion (tenant : actor.tenantId.parse = some tenantId) (text : String) :
    Isolated assistant actor tenantId db (.suggestService locationId text) := by
  refine isolated_of_answers fun db' agree env => ?_
  obtain ⟨session, answers⟩ : ∃ session, ∀ other : Database,
      other.servicesFor tenantId locationId = db.servicesFor tenantId locationId →
        Answers engine env () other (respond assistant actor (.suggestService locationId text)) 0
          session := exists_suggestion tenant locationId text _
  exact ⟨session, answers db rfl, answers db' (servicesFor_agree agree locationId).symm⟩

/-! ## All read requests -/

/-- A request keeps other tenants' rows to themselves exactly when it reads none. -/
theorem reads_isolated_iff (assistant : Assistant) (valid : db.Valid)
    (tenant : actor.tenantId.parse = some tenantId) (request : ReadRequest) :
    Isolated assistant actor tenantId db request ↔ ReadsOwn actor tenantId db request := by
  cases request with
  | listTickets locationId serviceId ticketStatus limit offset => exact isolated_list_iff valid
  | getTicket ticketId => exact isolated_ticket_iff valid
  | predictWait locationId => exact iff_of_false (not_isolated_predictWait valid) id
  | getInsights locationId fromDt toDt => exact isolated_insights_iff valid
  | suggestService locationId text => exact iff_of_true (isolated_suggestion tenant text) trivial
  | getSummary locationId fromDt toDt => exact isolated_summary_iff valid tenant
  | getTimeseries locationId metric interval fromDt toDt => exact isolated_series_iff valid tenant

def plainAssistant : Assistant := ⟨id, fun _ => [], fun _ _ => none⟩

def countyVisit : Database :=
  { twoTenants with tickets := ⟨[{ waitingTicket 4 7 5 with
      tenantId := 2, locationId := 11, serviceId := some 21 }], by decide⟩ }

def nobodyThere : Database := { twoTenants with tickets := .empty }

theorem reads_isolated_iff_county :
    Isolated plainAssistant clerk 1 countyVisit (.getTicket 4) ↔
      ReadsOwn clerk 1 countyVisit (.getTicket 4) :=
  reads_isolated_iff plainAssistant (by decide +kernel) rfl (.getTicket 4)

/-- A clerk of the city reads, lists and counts a ticket of the county. -/
theorem county_read : clerk.tenantId.parse = some 1 ∧ countyVisit.Valid ∧ nobodyThere.Valid ∧
    AgreeOn 1 countyVisit nobodyThere ∧
    ∀ request ∈ [ReadRequest.getTicket 4, .listTickets 11 none none ⟨50, by decide⟩ 0,
        .predictWait 11, .getInsights 11 0 (hours 1)],
      ¬ SameReply (reply plainAssistant clerk steadyEnv countyVisit request)
        (reply plainAssistant clerk steadyEnv nobodyThere request) := by
  refine ⟨rfl, by decide +kernel, by decide +kernel, by decide +kernel, ?_⟩
  simp only [List.mem_cons, List.not_mem_nil, or_false]
  rintro request (rfl | rfl | rfl | rfl) same
  · rw [reply_eq (answers_ticket rfl), reply_eq (answers_ticket_missing rfl)] at same
    rcases same with same | ⟨refused, _⟩
    · cases same
    · exact refused
  · rw [reply_eq (answers_list (by decide) (by decide)),
      reply_eq (answers_list (by decide) (by decide))] at same
    have reads := congrArg List.length (ReadResponse.tickets.inj (sameReply_returned same))
    exact absurd reads (by decide +kernel)
  · rw [reply_eq (answers_predictWait (by decide +kernel)),
      reply_eq (answers_predictWait (by decide +kernel))] at same
    have counts := congrArg WaitPrediction.waitingCount
      (ReadResponse.wait.inj (sameReply_returned same))
    exact absurd counts (by decide +kernel)
  · rw [reply_eq answers_insights, reply_eq answers_insights] at same
    have totals := congrArg (fun shown : Insights => shown.kpi.totalTickets)
      (ReadResponse.insights.inj (sameReply_returned same))
    exact absurd totals (by decide +kernel)

end QueueFlow.Tenancy
