import QueueFlow.Data.Execution
import QueueFlow.Transactions.Refusal

/-!
# The SQL text of call-next

`engine` runs `_CALL_NEXT_CTE` with its parameters bound as written. SQLAlchemy's `text()` binds
`:name` only where no other colon touches it, so `:service_id::uuid` and `:counter_id::text` stay in
the text, and Postgres does not parse it. `sentEngine` runs the statements as they are sent.
-/

namespace QueueFlow.Data
open QueueFlow.Transactions

/-- The lines of `_CALL_NEXT_CTE`. -/
def callNextSql : List String := [
  "WITH selected AS (",
  "    SELECT id FROM tickets",
  "    WHERE location_id = :location_id",
  "      AND status = 'WAITING'",
  "      AND (:service_id::uuid IS NULL OR service_id = :service_id)",
  "    ORDER BY priority ASC, created_at ASC",
  "    LIMIT 1",
  "    FOR UPDATE SKIP LOCKED",
  "),",
  "updated AS (",
  "    UPDATE tickets t",
  "    SET status = 'CALLED', called_at = now(), assigned_counter_id = :counter_id,",
  "        updated_at = now()",
  "    FROM selected s",
  "    WHERE t.id = s.id",
  "    RETURNING t.*",
  "),",
  "inserted AS (",
  "    INSERT INTO ticket_events (id, ticket_id, event_type, from_status, actor_user_id, " ++
    "payload_json, occurred_at)",
  "    SELECT gen_random_uuid(), u.id, 'CALLED', 'WAITING',",
  "           :actor_user_id,",
  "           jsonb_build_object('counter_id', :counter_id::text)::jsonb,",
  "           now()",
  "    FROM updated u",
  ")",
  "SELECT id, tenant_id, location_id, service_id, channel_id, assigned_counter_id,",
  "       number, status, priority, notes, created_at, updated_at,",
  "       called_at, service_started_at, completed_at",
  "FROM updated"]

def inName (c : Char) : Bool := c.isAlphanum || c = '_' || c = '$'

/-- `text()` replaces a colon after `previous`, and the name that `rest` begins with. -/
def binds (previous : Char) (rest : List Char) : Bool :=
  previous ≠ ':' && previous ≠ '\\' && !inName previous &&
    rest.head?.any inName && (rest.dropWhile inName).head? ≠ some ':'

/-- Some colon of the text is neither replaced nor half of a cast. -/
def leavesColon (previous : Char) : List Char → Bool
  | [] => false
  | c :: rest =>
      (c = ':' && previous ≠ ':' && rest.head? ≠ some ':' && !binds previous rest) ||
        leavesColon c rest

/-- The text of the statements that are written in SQL: the SELECT and the UPDATE of call-next are
parts of one. -/
def Stmt.sql? : Stmt → Option (List String)
  | .read (.waitingTickets _ _) | .callTicket _ _ _ _ => some callNextSql
  | _ => none

/-- Postgres reads no colon outside a cast; the text has no array slices. -/
def Stmt.refused (stmt : Stmt) : Bool :=
  stmt.sql?.any fun lines => lines.any fun line => leavesColon '\n' line.toList

/-- The engine for the statements as they are sent. -/
def sentEngine : Engine Database Write Lock Stmt Stmt.Res Failure Env :=
  engine.refusing Stmt.refused (.database .syntaxError)

theorem callNextSql_leavesColon :
    (callNextSql.any fun line => leavesColon '\n' line.toList) = true := by decide +kernel

/-- With `CAST` both parameters would be bound. -/
example : leavesColon '(' "CAST(:service_id AS uuid) IS NULL OR service_id = :service_id".toList =
    false := by decide +kernel

theorem refused_of_sql {stmt : Stmt} {lines : List String} (text : stmt.sql? = some lines) :
    stmt.refused = lines.any fun line => leavesColon '\n' line.toList := by
  rw [Stmt.refused, text, Option.any_some]

@[simp] theorem refused_waitingTickets (locationId : UUID) (serviceId : Option UUID) :
    (Stmt.read (.waitingTickets locationId serviceId)).refused = true :=
  (refused_of_sql rfl).trans callNextSql_leavesColon

@[simp] theorem refused_callTicket (id locationId : UUID) (serviceId : Option UUID)
    (counterId : UUID) : (Stmt.callTicket id locationId serviceId counterId).refused = true :=
  (refused_of_sql rfl).trans callNextSql_leavesColon

@[simp] theorem refused_write (command : Command) : (Stmt.write command).refused = false := rfl

theorem refused_iff {stmt : Stmt} : stmt.refused = true ↔
    (∃ locationId serviceId, stmt = .read (.waitingTickets locationId serviceId)) ∨
      ∃ id locationId serviceId counterId,
        stmt = .callTicket id locationId serviceId counterId := by
  cases stmt with
  | read q =>
      cases q with
      | waitingTickets locationId serviceId => simp
      | _ => simp [Stmt.refused, Stmt.sql?]
  | callTicket id locationId serviceId counterId => simp
  | write command => simp

end QueueFlow.Data
