import QueueFlow.App.SseStream

/-!
# The time between heartbeats

`get_message` never waits, so `wait_for` has nothing to wait for and a heartbeat goes out whenever
the client asks for a frame and no message is there.
-/

namespace QueueFlow.Reading
open QueueFlow.App QueueFlow.Data

variable {schedule : Schedule} {opened asked : Time} {clock : StreamClock} {k : Nat}

def idle : Schedule := ⟨fun _ => 0, fun _ => 0, fun _ => 0⟩

end QueueFlow.Reading
