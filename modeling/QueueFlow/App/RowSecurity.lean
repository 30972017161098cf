import QueueFlow.Data.Statements
import Mathlib.Data.List.DropRight

/-!
# Row-level security

`rls_context_middleware` of `main.py`, `get_db` of `db/session.py` and the policy on tickets of
migration 0004, with `RLS_ENABLED`. `tenantOf` is the `tenant_id` in a valid token, and `uuidIn` is
the cast of Postgres from text to `uuid`.
-/

namespace QueueFlow.App
open QueueFlow.Data

structure HttpRequest where
  path : String
  authorization : Option String
  /-- `decode_token` succeeds in the middleware, if the token is valid. -/
  decodes : Bool

def HttpRequest.credentials (request : HttpRequest) : Option String := do
  let header ← request.authorization
  let scheme := header.toList.takeWhile (· ≠ ' ')
  let param := header.toList.drop (scheme.length + 1)
  if scheme.map Char.toLower = "bearer".toList ∧ param ≠ [] then some (String.ofList param) else none

def HttpRequest.tenantId (tenantOf : String → Option String) (request : HttpRequest) :
    Option String :=
  request.credentials.bind tenantOf

structure RequestState where
  tenantId : Option String
  signageLocationId : Option String

/-- `app.tenant_id` and `app.signage_location_id` of the current transaction. -/
structure RlsSettings where
  tenantId : Option String
  signageLocationId : Option String
  deriving DecidableEq

def signagePath : List Char := "/v1/signage/".toList

/-- The segment after `/v1/signage/`. -/
def signageLocationId (path : String) : Option String :=
  if signagePath.isPrefixOf path.toList then
    (((path.toList.rdropWhile (· = '/')).splitOn '/')[3]?).map String.ofList
  else none

def bearerPrefix : List Char := "Bearer ".toList

def rlsContextMiddleware (tenantOf : String → Option String) (request : HttpRequest) :
    RequestState where
  tenantId := do
    let header ← request.authorization
    if bearerPrefix.isPrefixOf header.toList ∧ request.decodes then
      tenantOf (String.ofList (header.toList.drop 7))
    else none
  signageLocationId := signageLocationId request.path

/-- An empty text is falsy and sets nothing. -/
def getDb (state : RequestState) : RlsSettings where
  tenantId := state.tenantId.filter (· ≠ "")
  signageLocationId := state.signageLocationId.filter (· ≠ "")

/-- After the transaction of `SET LOCAL`. -/
def noSettings : RlsSettings := ⟨none, none⟩

/-- `NULLIF(setting, '')::uuid`, and NULL when the cast raises. -/
def castSetting (uuidIn : String → Option UUID) (setting : Option String) : Option UUID :=
  (setting.filter (· ≠ "")).bind uuidIn

def rlsCurrentTenantId (uuidIn : String → Option UUID) (settings : RlsSettings) : Option UUID :=
  castSetting uuidIn settings.tenantId

def rlsCurrentSignageLocationId (uuidIn : String → Option UUID) (settings : RlsSettings) :
    Option UUID :=
  castSetting uuidIn settings.signageLocationId

/-- The condition `USING` of the policy: the statement sees the row. -/
def ticketsTenantIsolation (uuidIn : String → Option UUID) (settings : RlsSettings)
    (row : Ticket) : Prop :=
  rlsCurrentTenantId uuidIn settings = none ∨
    rlsCurrentTenantId uuidIn settings = some row.tenantId ∨
    rlsCurrentSignageLocationId uuidIn settings = some row.locationId

instance (uuidIn : String → Option UUID) (settings : RlsSettings) (row : Ticket) :
    Decidable (ticketsTenantIsolation uuidIn settings row) :=
  inferInstanceAs (Decidable (_ ∨ _ ∨ _))

end QueueFlow.App
