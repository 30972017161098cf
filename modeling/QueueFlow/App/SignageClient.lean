import QueueFlow.App.SseStream
import QueueFlow.Wire.EventSource

/-!
# A display

The text of `sse_stream`, and `hooks/useSignage.ts` at the other end of it. The EventSource of a
browser opens a new connection each time the last one is lost.
-/

namespace QueueFlow.App
open QueueFlow.Data QueueFlow.Wire

/-- `_event`. -/
def eventText (sequence : String) (data : Option String) : String :=
  let lines := match data with
    | some data => if data ≠ "" then ["data: " ++ data] else []
    | none => []
  "\n".intercalate (("id: " ++ sequence) :: lines) ++ "\n\n"

def heartbeatText (sequence : String) : String := "id: " ++ sequence ++ "\n: heartbeat\n\n"

/-- What a `yield` sends. `json` is `model_dump_json`. -/
def StreamEffect.text (json : SignageSnapshot → String) : StreamEffect → String
  | .frame id (some snapshot) => eventText id (some (json snapshot))
  | .frame id none => heartbeatText id
  | _ => ""

/-- `UseSignageResult`. -/
structure UseSignage where
  snapshot : Option SignageSnapshot
  error : Option String
  connected : Bool
  deriving DecidableEq

namespace UseSignage

def initial : UseSignage := ⟨none, none, false⟩

def onOpen (hook : UseSignage) : UseSignage := { hook with connected := true, error := none }

/-- `parse` is `JSON.parse`; `none` stands for its exception. -/
def onMessage (parse : String → Option SignageSnapshot) (hook : UseSignage) (event : StreamEvent) :
    UseSignage :=
  if event.type = "message".toList then
    match parse (String.ofList event.data) with
    | some data => { hook with snapshot := some data }
    | none => hook
  else hook

def onError (hook : UseSignage) : UseSignage :=
  { hook with connected := false, error := some "Connection lost. Retrying…" }

end UseSignage

/-- What a display keeps from one connection to the next, and the events it was shown. -/
structure Display where
  hook : UseSignage
  lastEventId : List Char
  events : List StreamEvent
  deriving DecidableEq

/-- The answers of `get_snapshot` and of `get_message` on one connection, and what of its text
arrived: some first characters, and a replacement character for one that broke off. -/
structure Connection where
  snapshots : Nat → SignageSnapshot
  outcomes : List MessageOutcome
  received : Nat
  broken : Bool

namespace Display

def initial : Display := ⟨UseSignage.initial, [], []⟩

def header (display : Display) : Option String :=
  if display.lastEventId = [] then none else some (String.ofList display.lastEventId)

def streamText (json : SignageSnapshot → String) (display : Display) (connection : Connection) :
    List Char :=
  (sseStream connection.snapshots display.header connection.outcomes).flatMap
    fun effect => (effect.text json).toList

def arrived (json : SignageSnapshot → String) (display : Display) (connection : Connection) :
    List Char :=
  (display.streamText json connection).take connection.received ++
    if connection.broken then ['\uFFFD'] else []

def receive (json : SignageSnapshot → String) (parse : String → Option SignageSnapshot)
    (display : Display) (connection : Connection) : Display :=
  let source := Source.read display.lastEventId (display.arrived json connection)
  { hook := source.events.foldl (UseSignage.onMessage parse) display.hook.onOpen
    lastEventId := source.lastEventId
    events := display.events ++ source.events }

def lose (display : Display) : Display := { display with hook := display.hook.onError }

/-- A display that lost these connections, one after the other. -/
def after (json : SignageSnapshot → String) (parse : String → Option SignageSnapshot)
    (lost : List Connection) : Display :=
  lost.foldl (fun display connection => (display.receive json parse connection).lose) initial

end Display
end QueueFlow.App
