import QueueFlow.App.RowSecurity
import QueueFlow.Tenancy.References
import QueueFlow.Transactions.Settings

/-!
# Visible tickets

Which tickets the policies show to a statement, and which ones the request may see. The settings
end with the first transaction, a setting that is no UUID counts as none at all, and a token under
another spelling of `Bearer` sets none.
-/

namespace QueueFlow.Tenancy
open QueueFlow.App QueueFlow.Data QueueFlow.Concurrency QueueFlow.Tables QueueFlow.Transactions

/-! ## The location in a path -/

/-- `text` is the segment after `/v1/signage/`. -/
def NamesLocation (path text : String) : Prop :=
  ∃ rest, path.toList = signagePath ++ rest ∧ text = String.ofList (rest.takeWhile (· ≠ '/'))

theorem head?_splitOn (rest : List Char) :
    (rest.splitOn '/')[0]? = some (rest.takeWhile (· ≠ '/')) := by
  induction rest with
  | nil => rfl
  | cons char rest ih =>
      rw [List.splitOn_cons_eq_if_modifyHead]
      by_cases slash : char = '/'
      · simp [slash]
      · cases split : rest.splitOn '/' with
        | nil => exact (List.splitOn_ne_nil _ _ split).elim
        | cons first others => simpa [slash, split] using ih

theorem splitOn_signagePath (rest : List Char) :
    ((signagePath ++ rest).splitOn '/')[3]? = some (rest.takeWhile (· ≠ '/')) := by
  have path : signagePath ++ rest = "/v1/signage".toList ++ '/' :: rest := rfl
  rw [path, List.splitOn_append_cons_self]
  have parts : ("/v1/signage".toList).splitOn '/' = [[], "v1".toList, "signage".toList] := by decide
  rw [parts]
  exact head?_splitOn rest

theorem takeWhile_rdropWhile (rest : List Char) :
    (rest.rdropWhile (· = '/')).takeWhile (· ≠ '/') = rest.takeWhile (· ≠ '/') := by
  induction rest using List.reverseRecOn with
  | nil => rfl
  | append_singleton rest char ih =>
      rw [List.rdropWhile_concat]
      split
      · rename_i slash
        rw [ih, List.takeWhile_append]
        split
        · rename_i whole
          rw [(List.takeWhile_sublist _).eq_of_length whole]
          simpa using slash
        · rfl
      · rfl

theorem rdropWhile_signagePath (rest : List Char) :
    (signagePath ++ rest).rdropWhile (· = '/') =
      if rest.rdropWhile (· = '/') = [] then "/v1/signage".toList
      else signagePath ++ rest.rdropWhile (· = '/') := by
  induction rest using List.reverseRecOn with
  | nil => decide
  | append_singleton rest char ih =>
      rw [← List.append_assoc, List.rdropWhile_concat, List.rdropWhile_concat]
      split
      · exact ih
      · simp

theorem signageLocationId_eq_some {path text : String} :
    (signageLocationId path).filter (· ≠ "") = some text ↔ text ≠ "" ∧ NamesLocation path text := by
  unfold signageLocationId NamesLocation
  split
  · rename_i begins
    obtain ⟨rest, split⟩ := List.isPrefixOf_iff_prefix.mp begins
    have named : (∃ rest, path.toList = signagePath ++ rest ∧
        text = String.ofList (rest.takeWhile (· ≠ '/'))) ↔
          text = String.ofList (rest.takeWhile (· ≠ '/')) := by
      simp [← split]
    rw [named, ← split, rdropWhile_signagePath, ← takeWhile_rdropWhile rest]
    split
    · rename_i slashes
      have parts : (("/v1/signage".toList).splitOn '/')[3]? = none := by decide
      rw [parts, slashes]
      simp
    · rw [splitOn_signagePath]
      simp only [Option.map_some, Option.filter_eq_some_iff, Option.some.injEq, decide_eq_true_eq]
      exact ⟨fun ⟨same, nonempty⟩ => ⟨nonempty, same.symm⟩,
        fun ⟨nonempty, same⟩ => ⟨same.symm, nonempty⟩⟩
  · rename_i elsewhere
    simp only [Option.filter_none, reduceCtorEq, false_iff]
    rintro ⟨_, rest, split, _⟩
    exact elsewhere (List.isPrefixOf_iff_prefix.mpr ⟨rest, split.symm⟩)

/-! ## What a statement sees -/

variable {tenantOf : String → Option String} {uuidIn : String → Option UUID} {http : HttpRequest}

def MaySee (tenantOf : String → Option String) (uuidIn : String → Option UUID) (http : HttpRequest)
    (row : Ticket) : Prop :=
  (http.tenantId tenantOf).bind uuidIn = some row.tenantId ∨
    ∃ text, NamesLocation http.path text ∧ uuidIn text = some row.locationId

def firstSettings (tenantOf : String → Option String) (http : HttpRequest) : RlsSettings :=
  getDb (rlsContextMiddleware tenantOf http)

/-- The middleware takes the token: the header begins with `Bearer `, and the token is decoded. -/
def TakesToken (http : HttpRequest) : Prop :=
  http.decodes = true ∧ ∃ header ∈ http.authorization, bearerPrefix <+: header.toList

theorem credentials_of_prefix {header : String} {token : List Char}
    (given : http.authorization = some header) (split : header.toList = bearerPrefix ++ token) :
    http.credentials = if token = [] then none else some (String.ofList token) := by
  have scheme : header.toList.takeWhile (· ≠ ' ') = "Bearer".toList := by
    rw [split]
    rfl
  have param : header.toList.drop ("Bearer".toList.length + 1) = token := by
    rw [split]
    rfl
  have bearer : "Bearer".toList.map Char.toLower = "bearer".toList := by decide
  simp only [HttpRequest.credentials, given, Option.bind_eq_bind, Option.bind_some, scheme, param,
    bearer, true_and]
  by_cases empty : token = [] <;> simp [empty]

/-- Then it sets the tenant of the token. -/
theorem tenant_of_takesToken (noToken : tenantOf "" = none) (takes : TakesToken http) :
    (rlsContextMiddleware tenantOf http).tenantId = http.tenantId tenantOf := by
  obtain ⟨decodes, header, given, token, split⟩ := takes
  have begins : bearerPrefix.isPrefixOf header.toList = true :=
    List.isPrefixOf_iff_prefix.mpr ⟨token, split⟩
  have rest : header.toList.drop 7 = token := by
    rw [← split]
    rfl
  rw [HttpRequest.tenantId, credentials_of_prefix given split.symm]
  simp only [rlsContextMiddleware, Option.mem_def.mp given, Option.bind_eq_bind, Option.bind_some,
    begins, decodes, and_self, if_true, rest]
  by_cases empty : token = []
  · rw [if_pos empty, empty]
    exact noToken
  · rw [if_neg empty]
    rfl

/-- Otherwise it sets none. -/
theorem tenant_of_not_takesToken (other : ¬ TakesToken http) :
    (rlsContextMiddleware tenantOf http).tenantId = none := by
  simp only [rlsContextMiddleware]
  cases given : http.authorization with
  | none => rfl
  | some header =>
      refine if_neg fun ⟨begins, decodes⟩ => other ⟨decodes, header, given, ?_⟩
      exact List.isPrefixOf_iff_prefix.mp begins

theorem castSetting_filter (setting : Option String) :
    castSetting uuidIn (setting.filter (· ≠ "")) = castSetting uuidIn setting := by
  cases setting with
  | none => rfl
  | some text => by_cases empty : text = "" <;> simp [castSetting, empty]

theorem currentTenant_first (empty : uuidIn "" = none) :
    rlsCurrentTenantId uuidIn (firstSettings tenantOf http) =
      (rlsContextMiddleware tenantOf http).tenantId.bind uuidIn := by
  rw [rlsCurrentTenantId, firstSettings, getDb, castSetting_filter]
  cases (rlsContextMiddleware tenantOf http).tenantId with
  | none => rfl
  | some text => by_cases blank : text = "" <;> simp [castSetting, Option.filter, blank, empty]

theorem currentLocation_first (empty : uuidIn "" = none) {location : UUID} :
    rlsCurrentSignageLocationId uuidIn (firstSettings tenantOf http) = some location ↔
      ∃ text, NamesLocation http.path text ∧ uuidIn text = some location := by
  rw [rlsCurrentSignageLocationId, firstSettings, getDb, castSetting_filter, rlsContextMiddleware,
    castSetting, Option.bind_eq_some_iff]
  refine exists_congr fun text => ?_
  rw [signageLocationId_eq_some]
  refine ⟨fun ⟨⟨_, named⟩, cast⟩ => ⟨named, cast⟩, fun ⟨named, cast⟩ => ⟨⟨?_, named⟩, cast⟩⟩
  rintro rfl
  cases empty.symm.trans cast

/-- In the first transaction the policy shows what the request may see, if the middleware takes the
token and the tenant is a UUID. -/
theorem isolation_first (empty : uuidIn "" = none) (noToken : tenantOf "" = none)
    (takes : TakesToken http) {tenantId : UUID}
    (tenant : (http.tenantId tenantOf).bind uuidIn = some tenantId) (row : Ticket) :
    ticketsTenantIsolation uuidIn (firstSettings tenantOf http) row ↔
      MaySee tenantOf uuidIn http row := by
  rw [ticketsTenantIsolation, currentTenant_first empty, currentLocation_first empty, MaySee,
    tenant_of_takesToken noToken takes, tenant]
  simp

theorem isolation_of_no_tenant {settings : RlsSettings} (row : Ticket)
    (tenant : rlsCurrentTenantId uuidIn settings = none) :
    ticketsTenantIsolation uuidIn settings row := .inl tenant

/-! ## The statements of a run -/

section
variable {ι α WriteOf LockOf : Type} [DecidableEq ι] [DecidableEq LockOf]
  {E : Engine Database WriteOf LockOf (RlsSettings × Stmt) (fun sent => sent.2.Res) Failure Env}
  {env : Nat → Env} {db : Database} {requests : ι → HttpRequest} {handlers : ι → Handler α}

/-- Any handlers, each in a session that `get_db` has opened for its request. -/
def secured (tenantOf : String → Option String) (requests : ι → HttpRequest)
    (handlers : ι → Handler α) (db : Database) :
    World ι Database WriteOf LockOf (RlsSettings × Stmt) (fun sent => sent.2.Res) Failure Message Env
      α :=
  ⟨.start db, fun i =>
    .running ((handlers i).scoped (firstSettings tenantOf (requests i)) noSettings)⟩

/-- Whatever the database answers, a statement sees only what its request may see iff the middleware
takes the token, the tenant is a UUID and no commit lies behind, or there is nothing else to be
seen. -/
theorem rows_isolated_iff (empty : uuidIn "" = none) (noToken : tenantOf "" = none)
    {w : World ι Database WriteOf LockOf (RlsSettings × Stmt) (fun sent => sent.2.Res) Failure
      Message Env α} (reach : Reachable E env (secured tenantOf requests handlers db) w)
    {n : Nat} {i : ι} {settings : RlsSettings} {stmt : Stmt} {value : stmt.Res}
    {writes : List WriteOf}
    (sent : w.state.log[n]? = some ⟨i, .performed (settings, stmt) value writes⟩) :
    (∀ row ∈ (viewAt E db i (w.state.log.take n)).tickets.rows,
        ticketsTenantIsolation uuidIn settings row → MaySee tenantOf uuidIn (requests i) row) ↔
      (TakesToken (requests i) ∧
          (∃ tenantId, ((requests i).tenantId tenantOf).bind uuidIn = some tenantId) ∧
          hasCommitted (pastOf i (w.state.log.take n)) = false) ∨
        ∀ row ∈ (viewAt E db i (w.state.log.take n)).tickets.rows,
          MaySee tenantOf uuidIn (requests i) row := by
  have carried := reach.settings_sent sent
  have shown_all (tenant : rlsCurrentTenantId uuidIn settings = none) (P : Ticket → Prop) :
      (∀ row ∈ (viewAt E db i (w.state.log.take n)).tickets.rows,
        ticketsTenantIsolation uuidIn settings row → P row) ↔
      ∀ row ∈ (viewAt E db i (w.state.log.take n)).tickets.rows, P row :=
    forall₂_congr fun row _ => forall_prop_of_true (isolation_of_no_tenant row tenant)
  cases committed : hasCommitted (pastOf i (w.state.log.take n)) with
  | true =>
      rw [committed] at carried
      rw [shown_all (by rw [carried]; rfl)]
      simp
  | false =>
      rw [committed] at carried
      by_cases takes : TakesToken (requests i)
      · cases tenant : ((requests i).tenantId tenantOf).bind uuidIn with
        | none =>
            have unknown : rlsCurrentTenantId uuidIn settings = none := by
              rw [carried]
              refine (currentTenant_first empty).trans ?_
              rw [tenant_of_takesToken noToken takes, tenant]
            rw [shown_all unknown]
            simp
        | some tenantId =>
            refine iff_of_true (fun row _ shown => ?_) (.inl ⟨takes, ⟨tenantId, rfl⟩, rfl⟩)
            rw [carried] at shown
            exact (isolation_first empty noToken takes tenant row).mp shown
      · have unknown : rlsCurrentTenantId uuidIn settings = none := by
          rw [carried]
          refine (currentTenant_first empty).trans ?_
          rw [tenant_of_not_takesToken takes, Option.bind_none]
        rw [shown_all unknown]
        simp [takes]

end

/-! ## A creation in two transactions -/

def shownTo (uuidIn : String → Option UUID) (settings : RlsSettings) (db : Database) : Database :=
  { db with
    tickets := ⟨db.tickets.rows.filter fun row => ticketsTenantIsolation uuidIn settings row,
      db.tickets.distinct.sublist (List.filter_sublist.map _)⟩ }

def policedContext (uuidIn : String → Option UUID) :
    RlsSettings × Stmt → Context Database Lock Env → Context Database Lock Env
  | (settings, .read _), context => { context with view := shownTo uuidIn settings context.view }
  | _, context => context

def policed (uuidIn : String → Option UUID) :
    Engine Database Write Lock (RlsSettings × Stmt) (fun sent => sent.2.Res) Failure Env where
  apply := engine.apply
  lockOf := engine.lockOf
  needs sent context := engine.needs sent.2 (policedContext uuidIn sent context)
  exec sent context := engine.exec sent.2 (policedContext uuidIn sent context)
  locked sent _ := engine.locked sent.2 _
  free sent context value writes locks exec lock member := by
    have same : (policedContext uuidIn sent context).busy = context.busy := by
      unfold policedContext
      split <;> rfl
    rw [← same]
    exact engine.free sent.2 _ value writes locks exec lock member

def cityText : String := "00000000-0000-0000-0000-000000000001"

def castCity (text : String) : Option UUID := if text = cityText then some 1 else none

def countyTicket : Ticket :=
  { waitingTicket 2 1 5 with tenantId := 2, locationId := 11, serviceId := some 21 }

def sharedOffice : Database :=
  { twoTenants with tickets := ⟨[countyTicket, waitingTicket 3 2 5], by decide⟩ }

def tokenTenant (token : String) : Option String :=
  if token = "a.b.c" then some cityText else if token = "d.e.f" then some "city" else none

def creations : Nat → HttpRequest
  | 0 => ⟨"/v1/tickets", some "Bearer a.b.c", true⟩
  | 1 => ⟨"/v1/tickets", some "Bearer d.e.f", true⟩
  | _ => ⟨"/v1/tickets", some "bearer a.b.c", true⟩

def creationHandlers : Nat → Handler Response
  | 1 => program textDigest
      (.createTicket (visit 10 (some 20)) { clerk with tenantId := .malformed "city" } none)
  | _ => program textDigest (.createTicket (visit 10 (some 20)) clerk none)

abbrev SecuredWorld : Type :=
  World Nat Database Write Lock (RlsSettings × Stmt) (fun sent => sent.2.Res) Failure Message Env
    Response

def creationsStart : SecuredWorld := secured tokenTenant creations creationHandlers sharedOffice

def creationsWorld : SecuredWorld :=
  creationsStart.after (policed castCity) steadyEnv (runs 0 ++ runs 1 ++ runs 2)

theorem creations_reachable :
    Reachable (policed castCity) steadyEnv creationsStart creationsWorld :=
  reachable_after _

def sentSettings :
    Event Nat (RlsSettings × Stmt) (fun sent => sent.2.Res) Write Message →
      Option (Nat × RlsSettings)
  | ⟨i, .performed (settings, _) _ _⟩ => some (i, settings)
  | _ => none

theorem sent_of_sentSettings {w : SecuredWorld} {n i : Nat} {settings : RlsSettings}
    (carries : w.state.log[n]?.bind sentSettings = some (i, settings)) :
    ∃ (stmt : Stmt) (value : stmt.Res) (writes : List Write),
      w.state.log[n]? = some ⟨i, .performed (settings, stmt) value writes⟩ := by
  obtain ⟨event, located, carries⟩ := Option.bind_eq_some_iff.mp carries
  unfold sentSettings at carries
  split at carries
  · cases carries
    exact ⟨_, _, _, located⟩
  · cases carries

theorem rows_isolated_iff_creation :
    creationsWorld.state.log[0]?.bind sentSettings =
        some (0, firstSettings tokenTenant (creations 0)) ∧
      ∀ row ∈ sharedOffice.tickets.rows,
        ticketsTenantIsolation castCity (firstSettings tokenTenant (creations 0)) row →
          MaySee tokenTenant castCity (creations 0) row := by
  have first : creationsWorld.state.log[0]?.bind sentSettings =
      some (0, firstSettings tokenTenant (creations 0)) := by decide +kernel
  have takes : TakesToken (creations 0) :=
    ⟨rfl, "Bearer a.b.c", rfl, List.isPrefixOf_iff_prefix.mp (by decide)⟩
  obtain ⟨stmt, value, writes, sent⟩ := sent_of_sentSettings first
  exact ⟨first, (rows_isolated_iff (by decide) (by decide) creations_reachable sent).mpr
    (.inl ⟨takes, ⟨1, by decide +kernel⟩, rfl⟩)⟩

/-- A statement of session `i` sees a ticket that its request may not see. -/
def Leaks (w : SecuredWorld) (n i : Nat) : Prop :=
  ∃ (settings : RlsSettings) (stmt : Stmt) (value : stmt.Res) (writes : List Write),
    w.state.log[n]? = some ⟨i, .performed (settings, stmt) value writes⟩ ∧
      ∃ row ∈ (viewAt (policed castCity) sharedOffice i (w.state.log.take n)).tickets.rows,
        ticketsTenantIsolation castCity settings row ∧
          ¬ MaySee tokenTenant castCity (creations i) row

theorem county_unseen (i : Nat) : ¬ MaySee tokenTenant castCity (creations i) countyTicket := by
  have path : (creations i).path = "/v1/tickets" := by
    unfold creations
    split <;> rfl
  rintro (tenant | ⟨text, ⟨rest, split, _⟩, _⟩)
  · unfold creations at tenant
    split at tenant
    · exact absurd tenant (by decide +kernel)
    · exact absurd tenant (by decide +kernel)
    · exact absurd tenant (by decide +kernel)
  · have elsewhere : signagePath.isPrefixOf (creations i).path.toList = false := by
      rw [path]
      decide
    rw [List.isPrefixOf_iff_prefix.mpr ⟨rest, split.symm⟩] at elsewhere
    cases elsewhere

/-- The refresh after the commit of the first creation, and every statement of the two others: the
tenant of one token is no UUID, and the scheme of the other header is spelled `bearer`. -/
theorem county_ticket_leaks : Reachable (policed castCity) steadyEnv creationsStart creationsWorld ∧
    Leaks creationsWorld 4 0 ∧ Leaks creationsWorld 5 1 ∧ Leaks creationsWorld 6 2 := by
  have leaks (n i : Nat) (settings : RlsSettings)
      (carries : creationsWorld.state.log[n]?.bind sentSettings = some (i, settings))
      (there : countyTicket ∈
        (viewAt (policed castCity) sharedOffice i (creationsWorld.state.log.take n)).tickets.rows)
      (shown : ticketsTenantIsolation castCity settings countyTicket) :
      Leaks creationsWorld n i := by
    obtain ⟨stmt, value, writes, sent⟩ := sent_of_sentSettings carries
    exact ⟨settings, stmt, value, writes, sent, countyTicket, there, shown, county_unseen i⟩
  refine ⟨creations_reachable, ?_, ?_, ?_⟩
  · exact leaks 4 0 noSettings (by decide +kernel) (by decide +kernel) (by decide)
  · exact leaks 5 1 (firstSettings tokenTenant (creations 1)) (by decide +kernel)
      (by decide +kernel) (by decide +kernel)
  · exact leaks 6 2 (firstSettings tokenTenant (creations 2)) (by decide +kernel)
      (by decide +kernel) (by decide +kernel)

end QueueFlow.Tenancy
