import QueueFlow.Data.Rows

/-!
# Request bodies and tokens

The Pydantic models of `schemas/`. A bound that Pydantic checks is a field here, so a body that the
API would answer with 422 cannot be built.
-/

namespace QueueFlow.Data

/-- A UUID as text, up to what the code can observe of it: `str(id)`, another spelling that
`UUID()` accepts, or text on which `UUID()` raises ValueError. -/
inductive UuidText where
  | canonical (id : UUID)
  | spelled (id : UUID)
  | malformed (text : String)
  deriving DecidableEq

def UuidText.parse : UuidText → Option UUID
  | .canonical id | .spelled id => some id
  | .malformed _ => none

/-- `str(id) == text`. -/
def UuidText.isText (text : UuidText) (id : UUID) : Bool := text = .canonical id

theorem UuidText.parse_of_isText {text : UuidText} {id : UUID} (same : text.isText id = true) :
    text.parse = some id := by
  simp only [isText, decide_eq_true_eq] at same
  subst same
  rfl

inductive RoleName where
  | admin | manager | staff | viewer
  | other (name : String)
  deriving DecidableEq

def RoleName.text : RoleName → String
  | .admin => "admin"
  | .manager => "manager"
  | .staff => "staff"
  | .viewer => "viewer"
  | .other name => name

structure TokenPayload where
  sub : UuidText
  tenantId : UuidText
  roles : List RoleName
  deriving DecidableEq

def TokenPayload.hasRole (actor : TokenPayload) (roles : List RoleName) : Bool :=
  actor.roles.any (· ∈ roles)

structure Bounded (low high : Nat) where
  text : String
  low_le : low ≤ text.length
  le_high : text.length ≤ high
  deriving DecidableEq

structure TicketCreate where
  locationId : UUID
  serviceId : Option UUID := none
  channelId : Option UUID := none
  priority : Nat := 5
  notes : Option String := none
  one_le_priority : 1 ≤ priority := by decide
  priority_le_ten : priority ≤ 10 := by decide
  deriving DecidableEq

structure TicketTransfer where
  targetServiceId : UUID
  targetLocationId : Option UUID := none
  deriving DecidableEq

structure KioskTicketCreate where
  locationId : UUID
  serviceId : Option UUID := none
  deriving DecidableEq

structure CallNextBody where
  serviceId : Option UUID := none
  deriving DecidableEq

/-- `isSlug` is the pattern `^[a-z0-9-]+$`. -/
def isSlug (text : String) : Bool :=
  text ≠ "" && text.toList.all fun c => c.isLower || c.isDigit || c = '-'

structure TenantCreate where
  name : Bounded 2 255
  slug : Bounded 2 100
  slug_pattern : isSlug slug.text
  deriving DecidableEq

structure TenantUpdate where
  name : Option (Bounded 2 255) := none
  active : Option Bool := none
  deriving DecidableEq

structure LocationCreate where
  tenantId : UUID
  name : Bounded 1 255
  address : Option String := none
  timezone : String := "UTC"
  deriving DecidableEq

structure LocationUpdate where
  name : Option String := none
  address : Option String := none
  timezone : Option String := none
  active : Option Bool := none
  deriving DecidableEq

structure ServiceCreate where
  tenantId : UUID
  locationId : Option UUID := none
  name : Bounded 1 255
  prefixText : Bounded 1 10
  category : Option String := none
  avgServiceMinutes : Int := 5
  deriving DecidableEq

structure ServiceUpdate where
  name : Option String := none
  prefixText : Option String := none
  category : Option String := none
  avgServiceMinutes : Option Int := none
  active : Option Bool := none
  deriving DecidableEq

structure CounterCreate where
  locationId : UUID
  name : Bounded 1 100
  counterType : String := "standard"
  deriving DecidableEq

structure CounterUpdate where
  name : Option String := none
  counterType : Option String := none
  active : Option Bool := none
  deriving DecidableEq

structure ChannelCreate where
  tenantId : UUID
  name : Bounded 1 100
  deriving DecidableEq

structure UserCreate where
  tenantId : UUID
  email : String
  displayName : Bounded 1 255
  deriving DecidableEq

structure RoleAssignment where
  roleId : UUID
  locationId : Option UUID := none
  deriving DecidableEq

/-! ## Bodies as they are hashed -/

def optionalText (id : Option UUID) : PyValue :=
  match id with
  | some id => .uuidText id
  | none => .none

def TicketCreate.body (data : TicketCreate) : PyDict :=
  [("location_id", .uuidText data.locationId), ("service_id", optionalText data.serviceId),
    ("channel_id", optionalText data.channelId), ("priority", .int data.priority),
    ("notes", match data.notes with | some notes => .str notes | none => .none)]

def KioskTicketCreate.body (data : KioskTicketCreate) : PyDict :=
  [("location_id", .uuidText data.locationId), ("service_id", optionalText data.serviceId)]

def CallNextBody.body (data : CallNextBody) : PyDict :=
  [("service_id", optionalText data.serviceId)]

/-- The dictionary that both `start_service` and `complete_ticket` hash. -/
def ticketBody (ticketId : UUID) : PyDict := [("ticket_id", .uuidText ticketId)]

end QueueFlow.Data
