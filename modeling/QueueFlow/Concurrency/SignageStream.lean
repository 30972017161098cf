import QueueFlow.Concurrency.Notices
import QueueFlow.Concurrency.Snapshots

/-!
# The stream of a display

`sse_stream` subscribes before it takes its first snapshot, and takes another one for each message.
So when it has taken all its messages, its last snapshot is that of the last commit.
-/

namespace QueueFlow.Concurrency
open QueueFlow.App QueueFlow.Data QueueFlow.Tables QueueFlow.Transactions

/-! ## The stream -/

inductive Phase where
  | starting
  | reading (program : Handler SignageSnapshot)
  | listening

/-- A heartbeat has no data. -/
structure SseEvent where
  id : Nat
  data : Option SignageSnapshot
  deriving DecidableEq

/-- `inbox` counts the messages since the subscription that have not been taken yet. `times` is not
in the source: when the steps of the last snapshot were. -/
structure Stream where
  phase : Phase
  inbox : Nat
  seq : Nat
  sent : List SseEvent
  times : List Env

namespace Stream

variable (locationId : UUID) (locationName : String)

/-- The stream of a request whose `Last-Event-ID` is `seq`, or zero. -/
def start (seq : Nat) : Stream := ⟨.starting, 0, seq, [], []⟩

/-- What the stream can do next over a store. -/
inductive Step (store : Database) : Stream → Stream → Prop where
  | subscribed (inbox seq : Nat) (sent : List SseEvent) (times : List Env) :
      Step store ⟨.starting, inbox, seq, sent, times⟩
        ⟨.reading (getSnapshot locationId locationName), 0, seq + 1, sent, []⟩
  | read {program next : Handler SignageSnapshot} {now : Env} (inbox seq : Nat)
      (sent : List SseEvent) (times : List Env)
      (answered : look engine store now program = some next) :
      Step store ⟨.reading program, inbox, seq, sent, times⟩
        ⟨.reading next, inbox, seq, sent, times ++ [now]⟩
  | yielded (snapshot : SignageSnapshot) (inbox seq : Nat) (sent : List SseEvent)
      (times : List Env) : Step store ⟨.reading (.ret snapshot), inbox, seq, sent, times⟩
        ⟨.listening, inbox, seq, sent ++ [⟨seq, some snapshot⟩], times⟩
  | received (inbox seq : Nat) (sent : List SseEvent) (times : List Env) :
      Step store ⟨.listening, inbox + 1, seq, sent, times⟩
        ⟨.reading (getSnapshot locationId locationName), inbox, seq + 1, sent, []⟩
  | heartbeat (inbox seq : Nat) (sent : List SseEvent) (times : List Env) :
      Step store ⟨.listening, inbox, seq, sent, times⟩
        ⟨.listening, inbox, seq + 1, sent ++ [⟨seq + 1, none⟩], times⟩

/-- Redis delivers nothing before the subscription. -/
def delivered (stream : Stream) (count : Nat) : Stream :=
  match stream.phase with
  | .starting => stream
  | _ => { stream with inbox := stream.inbox + count }

def shown (stream : Stream) : Option SignageSnapshot :=
  (stream.sent.filterMap SseEvent.data).getLast?

end Stream

section
variable {ι : Type} [DecidableEq ι] {hexdigest : PyDict → String} {env : Nat → Env}
  {requests : ι → Request} {db : Database} {locationId : UUID} {locationName : String} {seq : Nat}
  {w : AppWorld ι} {stream : Stream}

def messagesFrom (m : Nat) (log : List (Entry ι)) (locationId : UUID) : Nat :=
  (messages (log.drop m)).count locationId

/-- A stream that opens beside a run from `start`. -/
inductive Streams (env : Nat → Env) (locationId : UUID) (locationName : String) (seq : Nat)
    (start : AppWorld ι) : AppWorld ι → Stream → Prop where
  | start : Streams env locationId locationName seq start start (.start seq)
  | step {w : AppWorld ι} {stream next : Stream}
      (streams : Streams env locationId locationName seq start w stream)
      (step : Stream.Step locationId locationName w.state.store stream next) :
      Streams env locationId locationName seq start w next
  | run {w w' : AppWorld ι} {stream : Stream}
      (streams : Streams env locationId locationName seq start w stream)
      (reach : Reachable engine env w w') :
      Streams env locationId locationName seq start w'
        (stream.delivered (messagesFrom w.state.log.length w'.state.log locationId))

/-! ## The invariant -/

def CommittedFrom (db : Database) (log : List (Entry ι)) (m : Nat) (store : Database) : Prop :=
  ∃ k, m ≤ k ∧ k ≤ log.length ∧ storeAt engine db (log.take k) = store

def Stream.Stands (locationId : UUID) (locationName : String) (P : Database → Prop)
    (stream : Stream) : Prop :=
  match stream.phase with
  | .starting => True
  | .reading program => LooksAt engine P (getSnapshot locationId locationName) stream.times program
  | .listening => ∃ snapshot, stream.shown = some snapshot ∧
      LooksAt engine P (getSnapshot locationId locationName) stream.times (.ret snapshot)

/-- The last snapshot was begun at position `m`, and every message since is in the inbox. -/
def UpToDate (db : Database) (locationId : UUID) (locationName : String) (log : List (Entry ι))
    (stream : Stream) : Prop :=
  stream.phase = .starting ∨ ∃ m ≤ log.length, messagesFrom m log locationId ≤ stream.inbox ∧
    stream.Stands locationId locationName (CommittedFrom db log m)

section
omit [DecidableEq ι]

theorem messagesFrom_end (log : List (Entry ι)) : messagesFrom log.length log locationId = 0 := by
  simp [messagesFrom, messages]

theorem messagesFrom_append {log more : List (Entry ι)} {m : Nat} (inside : m ≤ log.length) :
    messagesFrom m (log ++ more) locationId =
      messagesFrom m log locationId + messagesFrom log.length (log ++ more) locationId := by
  simp [messagesFrom, List.drop_append_of_le_length inside]

theorem CommittedFrom.append {log more : List (Entry ι)} {m : Nat} {store : Database}
    (committed : CommittedFrom db log m store) : CommittedFrom db (log ++ more) m store := by
  obtain ⟨k, later, inside, same⟩ := committed
  refine ⟨k, later, by simp; omega, ?_⟩
  rwa [List.take_append_of_le_length inside]

end

theorem Stream.Stands.mono {P P' : Database → Prop} (weaker : ∀ store, P store → P' store)
    (stands : stream.Stands locationId locationName P) :
    stream.Stands locationId locationName P' := by
  unfold Stream.Stands at stands ⊢
  split
  · trivial
  · rename_i program reading
    rw [reading] at stands
    exact stands.mono weaker
  · rename_i listening
    rw [listening] at stands
    obtain ⟨snapshot, shown, looks⟩ := stands
    exact ⟨snapshot, shown, looks.mono weaker⟩

section
omit [DecidableEq ι]

theorem upToDate_begun (log : List (Entry ι)) (inbox seq : Nat) (sent : List SseEvent) :
    UpToDate db locationId locationName log
      ⟨.reading (getSnapshot locationId locationName), inbox, seq, sent, []⟩ :=
  .inr ⟨log.length, le_rfl, by rw [messagesFrom_end]; exact Nat.zero_le _, .start⟩

theorem upToDate_step {store : Database} {log : List (Entry ι)} {next : Stream}
    (current : storeAt engine db log = store)
    (step : Stream.Step locationId locationName store stream next)
    (upToDate : UpToDate db locationId locationName log stream) :
    UpToDate db locationId locationName log next := by
  cases step with
  | subscribed | received => exact upToDate_begun log _ _ _
  | read inbox seq sent times answered =>
      obtain ⟨m, inside, messages, looks⟩ := upToDate.resolve_left (by simp)
      have last : CommittedFrom db log m store :=
        ⟨log.length, inside, le_rfl, by rw [List.take_length, current]⟩
      exact .inr ⟨m, inside, messages, LooksAt.step looks last answered⟩
  | yielded snapshot inbox seq sent times =>
      obtain ⟨m, inside, messages, looks⟩ := upToDate.resolve_left (by simp)
      exact .inr ⟨m, inside, messages, snapshot, by simp [Stream.shown], looks⟩
  | heartbeat inbox seq sent times =>
      obtain ⟨m, inside, messages, snapshot, shown, looks⟩ := upToDate.resolve_left (by simp)
      exact .inr ⟨m, inside, messages, snapshot, by simpa [Stream.shown] using shown, looks⟩

theorem upToDate_delivered {log more : List (Entry ι)}
    (upToDate : UpToDate db locationId locationName log stream) :
    UpToDate db locationId locationName (log ++ more)
      (stream.delivered (messagesFrom log.length (log ++ more) locationId)) := by
  obtain ⟨phase, inbox, seq, sent, times⟩ := stream
  cases phase with
  | starting => exact .inl rfl
  | reading | listening =>
      obtain ⟨m, inside, messages, stands⟩ := upToDate.resolve_left (by simp)
      refine .inr ⟨m, by simp; omega, ?_, ?_⟩
      · rw [messagesFrom_append inside]
        exact Nat.add_le_add_right messages _
      · exact stands.mono fun store committed => committed.append

end

theorem streams_upToDate
    (streams : Streams env locationId locationName seq (initial hexdigest requests db) w stream) :
    Reachable engine env (initial hexdigest requests db) w ∧
      UpToDate db locationId locationName w.state.log stream := by
  induction streams with
  | start => exact ⟨.refl, .inl rfl⟩
  | step streams step ih =>
      obtain ⟨reach, upToDate⟩ := ih
      exact ⟨reach, upToDate_step (reaches_provenance reach).replay.symm step upToDate⟩
  | run streams reach ih =>
      obtain ⟨before, upToDate⟩ := ih
      obtain ⟨more, grown⟩ := reach.log_prefix
      rw [← grown]
      exact ⟨before.trans reach, upToDate_delivered upToDate⟩

/-! ## The last snapshot -/

/-- Whoever commits what a display at the location shows publishes there afterwards. -/
def Announced (db : Database) (log : List (Entry ι)) (locationId : UUID) : Prop :=
  ∀ n i writes, CommitAt log n i writes →
    ¬ SameAnswers engine (ofSignage locationId) (storeAt engine db (log.take n))
      (storeAt engine db (log.take (n + 1))) →
    ∃ p j, n < p ∧ log[p]? = some ⟨j, .published locationId⟩

omit [DecidableEq ι] in
theorem sameAnswers_silent {log : List (Entry ι)} {m k : Nat}
    (announced : Announced db log locationId) (silent : messagesFrom m log locationId = 0)
    (later : m ≤ k) (inside : k ≤ log.length) :
    SameAnswers engine (ofSignage locationId) (storeAt engine db (log.take k))
      (storeAt engine db log) := by
  induction inside using Nat.decreasingInduction with
  | self =>
      rw [List.take_length]
      exact fun _ _ _ => rfl
  | of_succ k inside ih =>
      refine SameAnswers.trans ?_ (ih (by omega))
      by_contra changes
      obtain ⟨⟨owner, action⟩, located⟩ : ∃ entry, log[k]? = some entry :=
        ⟨_, List.getElem?_eq_getElem inside⟩
      cases action with
      | committed writes =>
          obtain ⟨p, j, after, published⟩ := announced k owner writes located changes
          have told := mem_messages_drop published (show m ≤ p by omega)
          exact (List.count_pos_iff.mpr told).ne' silent
      | _ =>
          refine changes fun _ _ _ => ?_
          obtain ⟨_, found⟩ := List.getElem?_eq_some_iff.mp located
          rw [List.take_succ_eq_append_getElem inside, storeAt_append, found]
          rfl

/-- When every commit has been announced and the stream has taken all its messages, the last
snapshot that it has yielded is that of the state which is committed then. -/
theorem stream_shows_latest
    (streams : Streams env locationId locationName seq (initial hexdigest requests db) w stream)
    (announced : Announced db w.state.log locationId) (listening : stream.phase = .listening)
    (drained : stream.inbox = 0) :
    ∃ snapshot, stream.shown = some snapshot ∧
      lookAll engine w.state.store stream.times (getSnapshot locationId locationName) =
        some (.ret snapshot) := by
  obtain ⟨reach, upToDate⟩ := streams_upToDate streams
  obtain ⟨m, inside, messages, stands⟩ := upToDate.resolve_left (by simp [listening])
  rw [Stream.Stands, listening] at stands
  obtain ⟨snapshot, shown, looks⟩ := stands
  refine ⟨snapshot, shown, looks.lookAll (getSnapshot_sends _ _) fun store committed => ?_⟩
  obtain ⟨k, later, inside, rfl⟩ := committed
  rw [(reaches_provenance reach).replay]
  exact sameAnswers_silent announced (by omega) later inside

theorem Streams.looks {start : AppWorld ι} {program next : Handler SignageSnapshot}
    {inbox seq' : Nat} {sent : List SseEvent} {times later : List Env}
    (streams : Streams env locationId locationName seq start w
      ⟨.reading program, inbox, seq', sent, times⟩)
    (answered : lookAll engine w.state.store later program = some next) :
    Streams env locationId locationName seq start w
      ⟨.reading next, inbox, seq', sent, times ++ later⟩ := by
  induction later generalizing times program with
  | nil =>
      cases answered
      rwa [List.append_nil]
  | cons now later ih =>
      obtain ⟨middle, here, onward⟩ := Option.bind_eq_some_iff.mp answered
      rw [List.append_cons]
      exact ih (streams.step (.read inbox seq' sent times here)) onward

end

/-! ## A ticket during the first snapshot -/

def openedStart : AppWorld Nat := initial textDigest (moves none) twoHalls

def openedWorld : AppWorld Nat := openedStart.after engine listeningEnv (runs 0)

theorem announced_opened : Announced twoHalls openedWorld.state.log 10 := by
  intro n i writes commit _
  have told : ∀ n < openedWorld.state.log.length, (commitAt openedWorld.state.log n).isSome →
      10 ∈ messages (openedWorld.state.log.drop (n + 1)) := by decide +kernel
  have inside : n < openedWorld.state.log.length := (List.getElem?_eq_some_iff.mp commit).1
  obtain ⟨p, j, later, published⟩ :=
    exists_published (told n inside (by rw [commitAt_eq_some.mpr commit]; rfl))
  exact ⟨p, j, later, published⟩

theorem stream_shows_latest_opened : ∃ stream : Stream, ∃ snapshot, stream.shown = some snapshot ∧
    lookAll engine openedWorld.state.store stream.times (getSnapshot 10 "Hall") =
      some (.ret snapshot) := by
  obtain ⟨early, looked⟩ : ∃ snapshot, brokenSnapshot openedStart openedWorld = some snapshot :=
    Option.isSome_iff_exists.mp (by decide +kernel)
  obtain ⟨rest, first, last⟩ := brokenSnapshot_parts looked
  obtain ⟨late, looked⟩ : ∃ snapshot, brokenSnapshot openedWorld openedWorld = some snapshot :=
    Option.isSome_iff_exists.mp (by decide +kernel)
  obtain ⟨rest', first', last'⟩ := brokenSnapshot_parts looked
  have one : messagesFrom openedStart.state.log.length openedWorld.state.log 10 = 1 := by
    decide +kernel
  have begun : Streams listeningEnv 10 "Hall" 0 openedStart openedStart _ :=
    (Streams.start.step (.subscribed _ _ _ _)).looks first
  have told := begun.run (reachable_after (runs 0))
  rw [show openedStart.after engine listeningEnv (runs 0) = openedWorld from rfl, one] at told
  have yielded := (told.looks last).step (.yielded early _ _ _ _)
  have again := ((yielded.step (.received _ _ _ _)).looks first').looks last'
  exact ⟨_, stream_shows_latest (again.step (.yielded late _ _ _ _)) announced_opened rfl rfl⟩

end QueueFlow.Concurrency
