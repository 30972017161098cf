import QueueFlow.App.TicketRepo
import QueueFlow.Wire.JsonText

/-!
# The text of a request body

`_hash_body` of `repositories/ticket_repo.py` down to the text that SHA-256 gets.
-/

namespace QueueFlow.App
open QueueFlow.Data QueueFlow.Wire

/-- The last digits of a number in base 16. -/
def hexDigits : Nat → Nat → List Char
  | 0, _ => []
  | count + 1, n => Nat.digitChar (n / 16 ^ count % 16) :: hexDigits count n

/-- `str(id)`: 32 hexadecimal digits in five groups. -/
def uuidString (id : UUID) : String :=
  let digits := hexDigits 32 id
  String.ofList (['-'].intercalate [digits.take 8, (digits.drop 8).take 4, (digits.drop 12).take 4,
    (digits.drop 16).take 4, digits.drop 20])

/-- A UUID object reaches `default=str`. -/
def jsonOf : PyValue → Json
  | .none => .null
  | .int value => .int value
  | .bool value => .bool value
  | .str value => .str value
  | .uuid value | .uuidText value => .str (uuidString value)

/-- The separators and the escapes that `json.dumps` has by default. -/
def pythonStyle : Json.Style := ⟨true, true⟩

/-- `json.dumps` of a dictionary. -/
def dumps (dict : PyDict) : String :=
  Json.text pythonStyle (.obj (dict.map fun entry => (entry.1, jsonOf entry.2)))

/-- The digest of `_hash_body`, where `sha256` is the hex digest of the UTF-8 encoding of a text. -/
def jsonDigest (sha256 : String → String) (dict : PyDict) : String := sha256 (dumps dict)

end QueueFlow.App
