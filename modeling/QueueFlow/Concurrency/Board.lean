import QueueFlow.Concurrency.SignageStream
import QueueFlow.Reading.Resume

/-!
# The board on the wall

From the commits to the browser: the text of a stream that runs beside the operations, read by a
display that may have lost any number of connections before.
-/

namespace QueueFlow.Concurrency
open QueueFlow.App QueueFlow.Data QueueFlow.Reading QueueFlow.Tables QueueFlow.Transactions
  QueueFlow.Wire

/-! ## The frames of a stream -/

def SseEvent.frame (event : SseEvent) : Option SignageSnapshot × Nat := (event.data, event.id)

def Stream.text (json : SignageSnapshot → String) (stream : Stream) : List Char :=
  stream.sent.flatMap fun event => ((frameOf event.frame).text json).toList

structure Stream.Ordered (first : Nat) (stream : Stream) : Prop where
  ids : stream.sent.map SseEvent.id = List.range' (first + 1) stream.sent.length
  opened : ∀ event ∈ stream.sent.head?, event.data.isSome
  seq : match stream.phase with
    | .starting => stream.sent = [] ∧ stream.seq = first
    | .reading _ => stream.seq = first + stream.sent.length + 1
    | .listening => stream.seq = first + stream.sent.length ∧ stream.sent ≠ []

section
variable {ι : Type} [DecidableEq ι] {hexdigest : PyDict → String} {env : Nat → Env}
  {requests : ι → Request} {db : Database} {locationId : UUID} {locationName : String} {first : Nat}
  {w : AppWorld ι} {stream : Stream} {json : SignageSnapshot → String}
  {parse : String → Option SignageSnapshot} {display : Display}

theorem ids_sent {sent : List SseEvent} {event : SseEvent}
    (ids : sent.map SseEvent.id = List.range' (first + 1) sent.length)
    (next : event.id = first + sent.length + 1) :
    (sent ++ [event]).map SseEvent.id = List.range' (first + 1) (sent ++ [event]).length := by
  rw [List.map_append, ids, List.length_append, List.length_singleton, List.range'_1_concat]
  simp [next, Nat.add_right_comm]

theorem ordered_step {store : Database} {next : Stream}
    (step : Stream.Step locationId locationName store stream next)
    (ordered : stream.Ordered first) : next.Ordered first := by
  obtain ⟨ids, opened, seq⟩ := ordered
  cases step with
  | subscribed inbox number sent times =>
      obtain ⟨nothing, same⟩ := seq
      exact ⟨ids, opened, by simp_all⟩
  | read => exact ⟨ids, opened, seq⟩
  | yielded snapshot inbox number sent times =>
      dsimp only at ids opened seq
      refine ⟨ids_sent ids seq, ?_, by simp; omega⟩
      cases sent <;> simp_all
  | received inbox number sent times => exact ⟨ids, opened, by simp_all⟩
  | heartbeat inbox number sent times =>
      dsimp only at ids opened seq
      obtain ⟨same, nonempty⟩ := seq
      refine ⟨ids_sent ids (by simp [same]), ?_, by simp; omega⟩
      cases sent <;> simp_all

theorem streams_ordered {start : AppWorld ι}
    (streams : Streams env locationId locationName first start w stream) :
    stream.Ordered first := by
  induction streams with
  | start => exact ⟨rfl, by simp [Stream.start], rfl, rfl⟩
  | step streams step ih => exact ordered_step step ih
  | @run _ _ stream streams reach ih =>
      obtain ⟨ids, opened, seq⟩ := ih
      obtain ⟨phase, inbox, number, sent, times⟩ := stream
      cases phase <;> exact ⟨ids, opened, seq⟩

theorem Stream.Ordered.frames (ordered : stream.Ordered first) :
    stream.sent.map SseEvent.frame = (stream.sent.map SseEvent.data).zipIdx (first + 1) := by
  rw [List.zipIdx_eq_zip_range', List.length_map, ← ordered.ids, List.zip_map']
  rfl

/-! ## The connection that carries a stream -/

theorem answered_of_data {snapshots : Nat → SignageSnapshot} {taken : Nat}
    {data : List (Option SignageSnapshot)} (given : ∀ n snapshot,
      (data.filterMap id)[n]? = some snapshot → snapshots (taken + n) = snapshot) :
    answered snapshots taken (data.map fun entry =>
      if entry.isSome then .message else .timeout) = data := by
  induction data generalizing taken with
  | nil => rfl
  | cons entry data ih =>
      cases entry with
      | none => simpa [answered] using ih given
      | some snapshot =>
          have here := given 0 snapshot rfl
          have rest : answered snapshots (taken + 1) _ = data := ih fun n other found => by
            rw [Nat.add_assoc, Nat.add_comm 1 n]
            exact given (n + 1) other found
          simpa [answered] using ⟨here, rest⟩

theorem exists_contents (snapshot : SignageSnapshot) (data : List (Option SignageSnapshot))
    (received : Nat) : ∃ connection : Connection, contents connection = some snapshot :: data ∧
      connection.received = received ∧ connection.broken = false := by
  let snapshots (n : Nat) := ((snapshot :: data.filterMap id)[n]?).getD snapshot
  have later : ∀ n other, (data.filterMap id)[n]? = some other → snapshots (1 + n) = other := by
    intro n other found
    simp only [snapshots]
    rw [Nat.add_comm, List.getElem?_cons_succ, found, Option.getD_some]
  refine ⟨⟨snapshots, data.map fun entry => if entry.isSome then .message else .timeout, received,
    false⟩, ?_, rfl, rfl⟩
  rw [contents, answered_of_data later]
  rfl

/-- What a display is to count and print over a connection that carries the stream. -/
structure Stream.Readable (json : SignageSnapshot → String)
    (parse : String → Option SignageSnapshot) (first : Nat) (stream : Stream) : Prop where
  printed : AllPrinted json parse (stream.sent.map SseEvent.data)
  small : first + stream.sent.length < 10 ^ maxStrDigits

theorem text_eq {display : Display} {frames : List (Option SignageSnapshot)}
    {connection : Connection} (ordered : stream.Ordered frames.length)
    (readable : stream.Readable json parse frames.length) (sees : Sees json display frames)
    (carries : contents connection = stream.sent.map SseEvent.data) :
    display.streamText json connection = stream.text json := by
  have nonempty : ∀ snapshot, some snapshot ∈ contents connection → json snapshot ≠ "" := by
    intro snapshot member
    rw [carries] at member
    exact (readable.printed snapshot member).nonempty
  have small : frames.length + (contents connection).length < 10 ^ maxStrDigits := by
    simpa [carries] using readable.small
  rw [streamText_sees sees nonempty small, Stream.text, List.flatMap_def, ← texts_frames nonempty,
    carries, ← ordered.frames, List.map_map, List.flatMap_def]
  rfl

theorem whole_length {α : Type*} (texts : List (List α)) :
    whole texts (texts.flatten.length) = texts.length := by
  induction texts with
  | nil => rfl
  | cons text texts ih =>
      rw [List.flatten_cons, List.length_append, whole, if_pos (Nat.le_add_right _ _),
        Nat.add_sub_cancel_left, ih, List.length_cons]

theorem reaching_all {frames : List (Option SignageSnapshot)} {connection : Connection}
    (ordered : stream.Ordered frames.length)
    (carries : contents connection = stream.sent.map SseEvent.data)
    (complete : connection.received = (stream.text json).length) :
    reaching json frames.length connection = stream.sent.map SseEvent.data := by
  rw [reaching, complete, carries, ← ordered.frames, List.map_map, Stream.text, List.flatMap_def]
  refine (congrArg (List.take · _) (whole_length _)).trans ?_
  simp

/-- Some connection carries the stream, and all of its text arrives. -/
theorem exists_carrier {frames : List (Option SignageSnapshot)}
    (ordered : stream.Ordered frames.length) (nonempty : stream.sent ≠ [])
    (readable : stream.Readable json parse frames.length) (sees : Sees json display frames) :
    ∃ connection, contents connection = stream.sent.map SseEvent.data ∧
      connection.received = (stream.text json).length ∧
      display.arrived json connection = stream.text json := by
  cases sent : stream.sent with
  | nil => exact (nonempty sent).elim
  | cons event events =>
      obtain ⟨snapshot, data⟩ := Option.isSome_iff_exists.mp (ordered.opened event (by simp [sent]))
      obtain ⟨connection, carries, complete, whole⟩ :=
        exists_contents snapshot (events.map SseEvent.data) (stream.text json).length
      have carries : contents connection = stream.sent.map SseEvent.data := by
        rw [carries, sent, List.map_cons, data]
      refine ⟨connection, by rw [carries, sent], complete, ?_⟩
      rw [Display.arrived, text_eq ordered readable sees carries, complete, List.take_length, whole]
      exact List.append_nil _

/-- A display that reads all of a stream's text shows the last snapshot that the stream has sent. -/
theorem receive_shown {frames : List (Option SignageSnapshot)} {connection : Connection}
    (ordered : stream.Ordered frames.length) (nonempty : stream.sent ≠ [])
    (readable : stream.Readable json parse frames.length) (sees : Sees json display frames)
    (arrived : display.arrived json connection = stream.text json) :
    (display.receive json parse connection).hook.snapshot =
      stream.shown.or display.hook.snapshot := by
  obtain ⟨carrier, carries, complete, same⟩ := exists_carrier ordered nonempty readable sees
  have printed : AllPrinted json parse (contents carrier) := by
    rw [carries]
    exact readable.printed
  have small : frames.length + (contents carrier).length < 10 ^ maxStrDigits := by
    simpa [carries] using readable.small
  have swapped : display.receive json parse connection = display.receive json parse carrier := by
    rw [Display.receive, Display.receive, arrived, same]
  rw [swapped, (receive_sees sees printed small).snapshot, reaching_all ordered carries complete,
    List.filterMap_append, List.getLast?_append, ← sees.snapshot, List.filterMap_map]
  rfl

/-- When every commit that changes the board is announced and the stream has delivered all messages,
a display that reads its text shows the state that is committed, however often it was cut off
before. -/
theorem board_shows_committed {lost : List Connection}
    (streams : Streams env locationId locationName
      (headerValue (Display.after json parse lost).header) (initial hexdigest requests db) w stream)
    (announced : Announced db w.state.log locationId) (listening : stream.phase = .listening)
    (drained : stream.inbox = 0)
    (before : ∀ connection ∈ lost, AllPrinted json parse (contents connection))
    (printed : AllPrinted json parse (stream.sent.map SseEvent.data))
    (small : (lost.map fun connection => (contents connection).length).sum + stream.sent.length <
      10 ^ maxStrDigits) :
    (∃ connection, (Display.after json parse lost).arrived json connection = stream.text json) ∧
    ∃ snapshot, lookAll engine w.state.store stream.times (getSnapshot locationId locationName) =
      some (.ret snapshot) ∧
      ∀ connection, (Display.after json parse lost).arrived json connection = stream.text json →
        ((Display.after json parse lost).receive json parse connection).hook.snapshot =
          some snapshot := by
  have few := Nat.lt_of_le_of_lt (Nat.le_add_right _ _) small
  have sees := after_sees before few
  have count := (header_sees sees (Nat.lt_of_le_of_lt length_framesOver few)).2
  have ordered := streams_ordered streams
  rw [count] at ordered
  have nonempty : stream.sent ≠ [] := by
    have seq := ordered.seq
    rw [listening] at seq
    exact seq.2
  have readable : stream.Readable json parse (framesOver json lost).length :=
    ⟨printed, Nat.lt_of_le_of_lt (Nat.add_le_add_right length_framesOver _) small⟩
  obtain ⟨carrier, _, _, arrives⟩ := exists_carrier ordered nonempty readable sees
  refine ⟨⟨carrier, arrives⟩, ?_⟩
  obtain ⟨reach, upToDate⟩ := streams_upToDate streams
  obtain ⟨m, inside, messages, stands⟩ := upToDate.resolve_left (by simp [listening])
  rw [Stream.Stands, listening] at stands
  obtain ⟨snapshot, shown, looks⟩ := stands
  refine ⟨snapshot, looks.lookAll (getSnapshot_sends _ _) fun store committed => ?_,
    fun connection arrived => ?_⟩
  · obtain ⟨k, later, within, rfl⟩ := committed
    rw [(reaches_provenance reach).replay]
    exact sameAnswers_silent announced (by omega) later within
  · rw [receive_shown ordered nonempty readable sees arrived, shown]
    rfl

end

/-! ## One customer in the hall -/

def waitingHall : SignageSnapshot := ⟨10, "Hall", [], [], 1, none, 3600 * 1000000⟩

def waitingText : String :=
  "\x7b" ++ String.join ["\"location_id\":", "\"00000000-0000-0000-", "0000-00000000000a\",",
    "\"location_name\":", "\"Hall\",", "\"now_serving\":[],", "\"recently_called\":[],",
    "\"waiting_count\":1,", "\"avg_wait_minutes\":", "null,", "\"snapshot_at\":",
    "\"1970-01-01T01:00:00Z\"\x7d"]

def hallJson (snapshot : SignageSnapshot) : String :=
  if snapshot = quietHall then quietText else waitingText

def readHall (text : String) : Option SignageSnapshot :=
  if text = quietText then some quietHall else if text = waitingText then some waitingHall else none

theorem printed_quietHall : Reading.Printed hallJson readHall quietHall :=
  ⟨by simp [hallJson, quietText], unbroken_fields (by decide), by simp [hallJson, readHall]⟩

theorem printed_waitingHall : Reading.Printed hallJson readHall waitingHall := by
  have other : hallJson waitingHall = waitingText := if_neg (by decide)
  have differs : waitingText ≠ quietText := by decide +kernel
  refine ⟨?_, ?_, ?_⟩
  · simp [other, waitingText]
  · rw [other]
    exact unbroken_fields (by decide)
  · simp [other, readHall, differs]

theorem board_shows_committed_opened : ∃ stream : Stream, ∃ snapshot,
    lookAll engine openedWorld.state.store stream.times (getSnapshot 10 "Hall") =
      some (.ret snapshot) ∧
    ∀ connection,
      (Display.after hallJson readHall [Reading.brokenOff]).arrived hallJson connection =
        stream.text hallJson →
        ((Display.after hallJson readHall [Reading.brokenOff]).receive hallJson readHall
          connection).hook.snapshot = some snapshot := by
  have looked : brokenSnapshot openedStart openedWorld = some waitingHall := by decide +kernel
  have again : brokenSnapshot openedWorld openedWorld = some waitingHall := by decide +kernel
  obtain ⟨rest, first, last⟩ := brokenSnapshot_parts looked
  obtain ⟨rest', first', last'⟩ := brokenSnapshot_parts again
  have one : messagesFrom openedStart.state.log.length openedWorld.state.log 10 = 1 := by
    decide +kernel
  have begun : Streams listeningEnv 10 "Hall"
      (headerValue (Display.after hallJson readHall [Reading.brokenOff]).header) openedStart
        openedStart _ :=
    (Streams.start.step (.subscribed _ _ _ _)).looks first
  have told := begun.run (reachable_after (runs 0))
  rw [show openedStart.after engine listeningEnv (runs 0) = openedWorld from rfl, one] at told
  have yielded := (told.looks last).step (.yielded waitingHall _ _ _ _)
  have received := ((yielded.step (.received _ _ _ _)).looks first').looks last'
  have streams := received.step (.yielded waitingHall _ _ _ _)
  refine ⟨_, (board_shows_committed streams announced_opened rfl rfl ?_ ?_ ?_).2⟩
  · intro connection member snapshot frame
    rw [List.mem_singleton.mp member] at frame
    have shown : snapshot = quietHall := by
      simpa [contents, answered, Reading.brokenOff] using frame
    rw [shown]
    exact printed_quietHall
  · intro snapshot member
    have shown : snapshot = waitingHall := by simpa using member
    rw [shown]
    exact printed_waitingHall
  · have digits : 5 ≤ maxStrDigits := by
      rw [maxStrDigits]
      decide
    exact Nat.lt_of_le_of_lt digits (Nat.lt_pow_self (by decide))

end QueueFlow.Concurrency
