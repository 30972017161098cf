import QueueFlow.App.Numerals
import QueueFlow.App.SignageService

/-!
# The event stream

`sse_stream` of `services/signage_service.py` as the list of what it does, for the outcomes of
`get_message` up to the moment when the client is gone.
-/

namespace QueueFlow.App
open QueueFlow.Data

inductive MessageOutcome where
  | message | nothing | timeout
  deriving DecidableEq

/-- A frame is its id and its data; a heartbeat has none. -/
inductive StreamEffect where
  | subscribe
  | frame (id : String) (data : Option SignageSnapshot)
  | unsubscribe
  | raised (failure : Failure)
  deriving DecidableEq

/-- `int(last_event_id) if last_event_id and last_event_id.isdigit() else 0`. -/
def firstSeq (lastEventId : Option String) : Option Nat :=
  match lastEventId with
  | none => some 0
  | some text => if text ≠ "" && isDigit text then parseInt text else some 0

/-- The `while` loop. `snapshots` are the answers of `get_snapshot`, of which `taken` were used.
When the client is gone, the exception ends at the `finally`; a ValueError passes it. -/
def listen (snapshots : Nat → SignageSnapshot) (seq taken : Nat) :
    List MessageOutcome → List StreamEffect
  | [] => [.unsubscribe]
  | outcome :: rest =>
      match formatInt (seq + 1) with
      | none => [.unsubscribe, .raised .valueError]
      | some id =>
          if outcome = .message then
            .frame id (some (snapshots taken)) :: listen snapshots (seq + 1) (taken + 1) rest
          else .frame id none :: listen snapshots (seq + 1) taken rest

/-- The header is read after the subscription and before the `try`. -/
def sseStream (snapshots : Nat → SignageSnapshot) (lastEventId : Option String)
    (outcomes : List MessageOutcome) : List StreamEffect :=
  .subscribe :: match firstSeq lastEventId with
    | none => [.raised .valueError]
    | some seq => match formatInt (seq + 1) with
      | none => [.unsubscribe, .raised .valueError]
      | some id => .frame id (some (snapshots 0)) :: listen snapshots (seq + 1) 1 outcomes

/-! ## On a clock -/

/-- What surrounds a stream: how many messages were published since its subscription, how long a
snapshot takes, and how long the client takes to ask for the frame after frame `k`. -/
structure Schedule where
  published : Time → Nat
  reading : Nat → Time
  asking : Nat → Time

def heartbeatSeconds : Time := 15 * 1000000

/-- `get_message` without a timeout: whether a message is waiting, and how long the call takes. -/
def getMessage (schedule : Schedule) (received : Nat) (now : Time) : Bool × Time :=
  (received < schedule.published now, 0)

/-- `asyncio.wait_for` returns as soon as the call does. -/
def waitFor (call : Bool × Time) (timeout : Time) : MessageOutcome × Time :=
  if call.2 < timeout then (if call.1 then .message else .nothing, call.2) else (.timeout, timeout)

structure TimedFrame where
  time : Time
  heartbeat : Bool
  deriving DecidableEq

structure StreamClock where
  frame : TimedFrame
  received : Nat
  deriving DecidableEq

/-- One turn of the loop, from the moment when the client asks for a frame. -/
def StreamClock.next (schedule : Schedule) (asked : Time) (clock : StreamClock) : StreamClock :=
  let (outcome, waited) := waitFor (getMessage schedule clock.received asked) heartbeatSeconds
  if outcome = .message then
    ⟨⟨asked + waited + schedule.reading (clock.received + 1), false⟩, clock.received + 1⟩
  else ⟨⟨asked + waited, true⟩, clock.received⟩

end QueueFlow.App
