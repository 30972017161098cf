import QueueFlow.App.SignageClient
import QueueFlow.Reading.Frames
import Mathlib.Data.List.Induction

/-!
# Reconnecting

A display counts the frames that reached it whole, and what it shows is the last of them that had
data, over all its connections.
-/

namespace QueueFlow.Reading
open QueueFlow.App QueueFlow.Data QueueFlow.Wire

variable {json : SignageSnapshot → String} {parse : String → Option SignageSnapshot}
  {snapshots : Nat → SignageSnapshot} {outcomes : List MessageOutcome} {seq taken number : Nat}

/-! ## A number in a header -/

theorem decimal_digitChar : ∀ digit < 10, decimal (Nat.digitChar digit) = some digit := by decide

theorem mapM_decimal_append {digits chars : List Char} {first second : List Nat}
    (left : digits.mapM decimal = some first) (right : chars.mapM decimal = some second) :
    (digits ++ chars).mapM decimal = some (first ++ second) := by
  simp [List.mapM_append, left, right]

theorem valueOf_append {digits : List Nat} {digit : Nat} :
    valueOf (digits ++ [digit]) = 10 * valueOf digits + digit := by
  simp [valueOf]

theorem decimals_of_number (number : Nat) :
    ∃ digits, (Nat.toDigits 10 number).mapM decimal = some digits ∧ valueOf digits = number := by
  induction number using Nat.strongRecOn with
  | ind number ih =>
      by_cases small : number < 10
      · refine ⟨[number], ?_, by simp [valueOf]⟩
        rw [Nat.toDigits_of_lt_base small]
        simp [decimal_digitChar number small]
      · obtain ⟨digits, read, value⟩ := ih (number / 10) (by omega)
        have last : [Nat.digitChar (number % 10)].mapM decimal = some [number % 10] := by
          simp [decimal_digitChar _ (Nat.mod_lt number (by decide))]
        refine ⟨digits ++ [number % 10], ?_, by rw [valueOf_append, value]; omega⟩
        rw [Nat.toDigits_of_base_le (by decide) (not_lt.mp small)]
        exact mapM_decimal_append read last

theorem toList_toString : (toString number).toList = Nat.toDigits 10 number := by
  rw [Nat.toString_eq_repr, Nat.toList_repr]

theorem headerValue_toString (number : Nat) : headerValue (some (toString number)) = number := by
  obtain ⟨digits, read, value⟩ := decimals_of_number number
  have nonempty : toString number ≠ "" := Nat.repr_ne_empty
  simp [headerValue, nonempty, toList_toString, read, value, -Nat.toString_eq_repr]

theorem readable_toString (small : number < 10 ^ maxStrDigits) :
    ¬ Unreadable (toString number) := by
  obtain ⟨digits, read, _⟩ := decimals_of_number number
  rw [← toList_toString] at read
  rintro ⟨_, other | long⟩
  · rw [mapM_decimal_eq_none.mpr other] at read
    cases read
  · have positive : 0 < maxStrDigits := by
      rw [maxStrDigits]
      decide
    rw [toList_toString] at long
    exact not_le.mpr long ((Nat.length_toDigits_le_iff (by decide) positive).mpr small)

/-! ## What a connection sends -/

def answered (snapshots : Nat → SignageSnapshot) (taken : Nat) :
    List MessageOutcome → List (Option SignageSnapshot)
  | [] => []
  | .message :: outcomes => some (snapshots taken) :: answered snapshots (taken + 1) outcomes
  | _ :: outcomes => none :: answered snapshots taken outcomes

def contents (connection : Connection) : List (Option SignageSnapshot) :=
  some (connection.snapshots 0) :: answered connection.snapshots 1 connection.outcomes

def frameOf (frame : Option SignageSnapshot × Nat) : StreamEffect :=
  .frame (toString frame.2) frame.1

theorem length_answered :
    (answered snapshots taken outcomes).length = outcomes.length := by
  induction outcomes generalizing taken with
  | nil => rfl
  | cons outcome outcomes ih => cases outcome <;> simp [answered, ih]

theorem listen_answered (small : seq + outcomes.length < 10 ^ maxStrDigits) :
    listen snapshots seq taken outcomes =
      ((answered snapshots taken outcomes).zipIdx (seq + 1)).map frameOf ++ [.unsubscribe] := by
  induction outcomes generalizing seq taken with
  | nil => rfl
  | cons outcome outcomes ih =>
      rw [List.length_cons] at small
      have onward : seq + 1 + outcomes.length < 10 ^ maxStrDigits := by omega
      have formatted := formatInt_of_lt (Nat.lt_of_le_of_lt (Nat.le_add_right _ _) onward)
      rw [App.listen, formatted]
      cases outcome <;> simp [answered, List.zipIdx_cons, frameOf, ih onward]

theorem sseStream_contents {connection : Connection} {header : Option String} {before : Nat}
    (readable : ∀ text ∈ header, ¬ Unreadable text) (value : headerValue header = before)
    (small : before + (contents connection).length < 10 ^ maxStrDigits) :
    sseStream connection.snapshots header connection.outcomes =
      .subscribe :: (((contents connection).zipIdx (before + 1)).map frameOf ++
        [.unsubscribe]) := by
  rw [contents, List.length_cons, length_answered] at small
  have onward : before + 1 + connection.outcomes.length < 10 ^ maxStrDigits := by omega
  rw [sseStream, firstSeq_of_readable readable, value]
  simp only [formatInt_of_lt (Nat.lt_of_le_of_lt (Nat.le_add_right _ _) onward)]
  rw [listen_answered onward]
  rfl

/-! ## What a client reads -/

/-- The text of a snapshot fits a `data` line, and `JSON.parse` gives the snapshot back. -/
structure Printed (json : SignageSnapshot → String) (parse : String → Option SignageSnapshot)
    (snapshot : SignageSnapshot) : Prop where
  nonempty : json snapshot ≠ ""
  unbroken : Unbroken (json snapshot).toList
  parsed : parse (json snapshot) = some snapshot

def AllPrinted (json : SignageSnapshot → String) (parse : String → Option SignageSnapshot)
    (frames : List (Option SignageSnapshot)) : Prop :=
  ∀ snapshot, some snapshot ∈ frames → Printed json parse snapshot

def frameLines (json : SignageSnapshot → String) (frame : Option SignageSnapshot × Nat) :
    List (List Char) :=
  [("id: " ++ toString frame.2).toList,
    match frame.1 with
    | some snapshot => ("data: " ++ json snapshot).toList
    | none => ": heartbeat".toList]

def eventOf (json : SignageSnapshot → String) (frame : Option SignageSnapshot × Nat) :
    Option StreamEvent :=
  frame.1.map fun snapshot =>
    ⟨"message".toList, (json snapshot).toList, (toString frame.2).toList⟩

theorem text_frameOf {data : Option SignageSnapshot}
    (nonempty : ∀ snapshot ∈ data, json snapshot ≠ "") :
    ((frameOf (data, number)).text json).toList = blockText (frameLines json (data, number)) := by
  cases data with
  | none => simp [frameOf, StreamEffect.text, heartbeatText, frameLines, blockText]
  | some snapshot =>
      have nonempty := nonempty snapshot rfl
      simp [frameOf, StreamEffect.text, eventText, nonempty, frameLines, blockText,
        String.intercalate_cons_cons, String.intercalate_singleton]

theorem unbroken_number : Unbroken (toString number).toList := by
  intro char member
  rw [toList_toString] at member
  have digit := Nat.isDigit_of_mem_toDigits (by decide) (by decide) member
  constructor <;> rintro rfl <;> exact absurd digit (by decide)

theorem isLine_frameLines {data : Option SignageSnapshot}
    (unbroken : ∀ snapshot ∈ data, Unbroken (json snapshot).toList) :
    ∀ line ∈ frameLines json (data, number), IsLine line := by
  intro line member
  rcases List.mem_pair.mp member with rfl | rfl
  · refine ⟨by simp, ?_⟩
    rw [String.toList_append]
    exact (unbroken_of_all (by decide)).append unbroken_number
  · cases data with
    | none => exact ⟨by simp, unbroken_of_all (by simp)⟩
    | some snapshot =>
        refine ⟨by simp, ?_⟩
        dsimp only
        rw [String.toList_append]
        exact (unbroken_of_all (by decide)).append (unbroken snapshot rfl)

/-- A frame is all that its block leaves in the source. -/
theorem block_frameLines {source : Source} {frame : Option SignageSnapshot × Nat}
    (noData : source.data = []) (noType : source.type = [])
    (nonempty : ∀ snapshot ∈ frame.1, json snapshot ≠ "") :
    source.block (frameLines json frame) = { source with
      idBuffer := (toString frame.2).toList
      lastEventId := (toString frame.2).toList
      events := source.events ++ (eventOf json frame).toList } := by
  obtain ⟨data, number⟩ := frame
  have noZero : '\x00' ∉ Nat.toDigits 10 number := by
    intro member
    have digit := Nat.isDigit_of_mem_toDigits (by decide) (by decide) member
    exact absurd digit (by decide)
  have named (source : Source) : source.process ("id: " ++ toString number).toList =
      { source with idBuffer := (toString number).toList } := by
    simp [Source.process, Source.field, Source.withoutSpace, noZero]
  cases data with
  | none =>
      have comment (source : Source) : source.process ": heartbeat".toList = source := by
        simp [Source.process]
      simp only [Source.block, frameLines, List.foldl_cons, List.foldl_nil, named, comment]
      simp [Source.dispatch, noData, noType, eventOf]
  | some snapshot =>
      have nonempty := nonempty snapshot rfl
      have told (source : Source) : source.process ("data: " ++ json snapshot).toList =
          { source with data := source.data ++ (json snapshot).toList ++ ['\n'] } := by
        simp [Source.process, Source.field, Source.withoutSpace]
      simp only [Source.block, frameLines, List.foldl_cons, List.foldl_nil, named, told]
      simp [Source.dispatch, noData, noType, eventOf]

theorem shown_frames {source : Source} {frames : List (Option SignageSnapshot × Nat)}
    (noData : source.data = []) (noType : source.type = [])
    (nonempty : ∀ frame ∈ frames, ∀ snapshot ∈ frame.1, json snapshot ≠ "") :
    ((frames.map (frameLines json)).foldl Source.block source).shown =
      (frames.foldl (fun _ frame => (toString frame.2).toList) source.lastEventId,
        source.events ++ frames.filterMap (eventOf json)) := by
  induction frames generalizing source with
  | nil => simp [Source.shown]
  | cons frame frames ih =>
      rw [List.map_cons, List.foldl_cons, List.foldl_cons,
        block_frameLines noData noType (nonempty frame List.mem_cons_self)]
      refine (ih ?_ ?_ ?_).trans ?_
      · exact noData
      · exact noType
      · exact fun other member => nonempty other (List.mem_cons_of_mem _ member)
      · cases told : eventOf json frame <;> simp [told]

def idOf : Nat → List Char
  | 0 => []
  | number => (toString number).toList

theorem idOf_zipIdx {frames : List (Option SignageSnapshot)} {before : Nat} :
    (frames.zipIdx (before + 1)).foldl (fun _ frame => (toString frame.2).toList) (idOf before) =
      idOf (before + frames.length) := by
  induction frames generalizing before with
  | nil => rfl
  | cons data frames ih =>
      rw [List.zipIdx_cons, List.foldl_cons, List.length_cons]
      have next : (toString (before + 1)).toList = idOf (before + 1) := rfl
      rw [next, ih]
      congr 1
      omega

theorem onMessage_frames {frames : List (Option SignageSnapshot)} {start : Nat}
    (printed : AllPrinted json parse frames) (hook : UseSignage) :
    ((frames.zipIdx start).filterMap (eventOf json)).foldl (UseSignage.onMessage parse) hook =
      { hook with snapshot := (frames.filterMap id).getLast?.or hook.snapshot } := by
  induction frames generalizing start hook with
  | nil => rfl
  | cons data frames ih =>
      have rest : AllPrinted json parse frames := fun snapshot member =>
        printed snapshot (List.mem_cons_of_mem _ member)
      rw [List.zipIdx_cons]
      cases data with
      | none => simpa [eventOf] using ih rest hook
      | some snapshot =>
          have parsed := (printed snapshot List.mem_cons_self).parsed
          have seen : UseSignage.onMessage parse hook
              ⟨"message".toList, (json snapshot).toList, (toString start).toList⟩ =
                { hook with snapshot := some snapshot } := by
            simp [UseSignage.onMessage, parsed]
          have told : eventOf json (some snapshot, start) = some
              ⟨"message".toList, (json snapshot).toList, (toString start).toList⟩ := rfl
          rw [List.filterMap_cons_some told, List.foldl_cons, seen, ih rest]
          simp [List.getLast?_cons]

/-! ## Over all connections -/

/-- The frames of a connection that reach a display whole, when it has `before` of them already. -/
def reaching (json : SignageSnapshot → String) (before : Nat) (connection : Connection) :
    List (Option SignageSnapshot) :=
  (contents connection).take (whole
    (((contents connection).zipIdx (before + 1)).map fun frame =>
      ((frameOf frame).text json).toList) connection.received)

/-- All that reached a display over these connections. -/
def framesOver (json : SignageSnapshot → String) (connections : List Connection) :
    List (Option SignageSnapshot) :=
  connections.foldl (fun frames connection => frames ++ reaching json frames.length connection) []

/-- The id is the number of frames; each frame with data was one event, under its number among all;
and the last of these is on the display. -/
structure Sees (json : SignageSnapshot → String) (display : Display)
    (frames : List (Option SignageSnapshot)) : Prop where
  lastEventId : display.lastEventId = idOf frames.length
  events : display.events = (frames.zipIdx 1).filterMap (eventOf json)
  snapshot : display.hook.snapshot = (frames.filterMap id).getLast?

theorem header_sees {display : Display} {frames : List (Option SignageSnapshot)}
    (sees : Sees json display frames) (small : frames.length < 10 ^ maxStrDigits) :
    (∀ text ∈ display.header, ¬ Unreadable text) ∧ headerValue display.header = frames.length := by
  rw [Display.header, sees.lastEventId]
  cases here : frames.length with
  | zero => simp [idOf, headerValue]
  | succ number =>
      rw [here] at small
      have nonempty : idOf (number + 1) ≠ [] := by simp [idOf]
      have header : String.ofList (idOf (number + 1)) = toString (number + 1) :=
        String.ofList_toList
      rw [if_neg nonempty, header]
      refine ⟨?_, headerValue_toString _⟩
      rintro _ ⟨⟩
      exact readable_toString small

theorem texts_frames {frames : List (Option SignageSnapshot)} {start : Nat}
    (nonempty : ∀ snapshot, some snapshot ∈ frames → json snapshot ≠ "") :
    (frames.zipIdx start).map (fun frame => ((frameOf frame).text json).toList) =
      ((frames.zipIdx start).map (frameLines json)).map blockText := by
  rw [List.map_map]
  apply List.map_congr_left
  rintro ⟨data, number⟩ member
  apply text_frameOf
  rintro snapshot rfl
  exact nonempty snapshot (List.fst_mem_of_mem_zipIdx member)

/-- The text of a connection is the blocks of its frames. -/
theorem streamText_sees {display : Display} {frames : List (Option SignageSnapshot)}
    {connection : Connection} (sees : Sees json display frames)
    (nonempty : ∀ snapshot, some snapshot ∈ contents connection → json snapshot ≠ "")
    (small : frames.length + (contents connection).length < 10 ^ maxStrDigits) :
    display.streamText json connection =
      (((contents connection).zipIdx (frames.length + 1)).map (frameLines json)).flatMap
        blockText := by
  obtain ⟨readable, value⟩ := header_sees sees (Nat.lt_of_le_of_lt (Nat.le_add_right _ _) small)
  have ends : (StreamEffect.unsubscribe.text json).toList = [] := rfl
  have begins : (StreamEffect.subscribe.text json).toList = [] := rfl
  rw [Display.streamText, sseStream_contents readable value small, List.flatMap_cons,
    List.flatMap_append, List.flatMap_singleton, begins, ends, List.nil_append, List.append_nil,
    List.flatMap_map, List.flatMap_def, texts_frames nonempty, List.flatMap_def]

theorem take_zipIdx {α : Type*} {values : List α} {count start : Nat} :
    (values.zipIdx start).take count = (values.take count).zipIdx start := by
  induction values generalizing count start with
  | nil => simp
  | cons value values ih => cases count <;> simp [List.zipIdx_cons, ih]

theorem noMark_arrived {display : Display} {frames : List (Option SignageSnapshot)}
    {connection : Connection} (sees : Sees json display frames)
    (nonempty : ∀ snapshot, some snapshot ∈ contents connection → json snapshot ≠ "")
    (small : frames.length + (contents connection).length < 10 ^ maxStrDigits) :
    (display.arrived json connection).head? ≠ some '\uFEFF' := by
  rw [Display.arrived, streamText_sees sees nonempty small]
  cases connection.received with
  | zero => cases connection.broken <;> simp
  | succ received => simp [contents, List.zipIdx_cons, frameLines, blockText]

/-- What a connection leaves in the source is the frames that reached the display. -/
theorem shown_arrived {display : Display} {frames : List (Option SignageSnapshot)}
    {connection : Connection} (sees : Sees json display frames)
    (printed : AllPrinted json parse (contents connection))
    (small : frames.length + (contents connection).length < 10 ^ maxStrDigits) :
    (Source.read display.lastEventId (display.arrived json connection)).shown =
      (idOf (frames.length + (reaching json frames.length connection).length),
        ((reaching json frames.length connection).zipIdx (frames.length + 1)).filterMap
          (eventOf json)) := by
  have nonempty : ∀ snapshot, some snapshot ∈ contents connection → json snapshot ≠ "" :=
    fun snapshot member => (printed snapshot member).nonempty
  have lost : Unbroken (if connection.broken then ['\uFFFD'] else []) := by
    cases connection.broken <;> simp [Unbroken]
  have areLines :
      ∀ lines ∈ ((contents connection).zipIdx (frames.length + 1)).map (frameLines json),
        ∀ line ∈ lines, IsLine line := by
    intro lines member
    obtain ⟨⟨data, number⟩, framed, rfl⟩ := List.mem_map.mp member
    have sent : data ∈ contents connection := List.fst_mem_of_mem_zipIdx framed
    apply isLine_frameLines
    rintro snapshot rfl
    exact (printed snapshot sent).unbroken
  rw [Source.read_eq_feeds (noMark_arrived sees nonempty small), Display.arrived,
    streamText_sees sees nonempty small,
    Source.shown_received Source.ready_start areLines lost, ← texts_frames nonempty,
    ← List.map_take, take_zipIdx, ← reaching, shown_frames rfl rfl]
  · rw [Source.start, sees.lastEventId, idOf_zipIdx, List.nil_append]
  · rintro ⟨data, number⟩ member snapshot rfl
    exact nonempty snapshot (List.mem_of_mem_take (List.fst_mem_of_mem_zipIdx member))

theorem receive_sees {display : Display} {frames : List (Option SignageSnapshot)}
    {connection : Connection} (sees : Sees json display frames)
    (printed : AllPrinted json parse (contents connection))
    (small : frames.length + (contents connection).length < 10 ^ maxStrDigits) :
    Sees json (display.receive json parse connection)
      (frames ++ reaching json frames.length connection) := by
  have shown := shown_arrived sees printed small
  rw [Source.shown, Prod.mk.injEq] at shown
  obtain ⟨id, events⟩ := shown
  have arrived : AllPrinted json parse (reaching json frames.length connection) :=
    fun snapshot member => printed snapshot (List.mem_of_mem_take member)
  rw [Display.receive, id, events]
  constructor
  · rw [List.length_append]
  · dsimp only
    rw [List.zipIdx_append, List.filterMap_append, ← sees.events, Nat.add_comm 1]
  · dsimp only
    rw [onMessage_frames arrived, List.filterMap_append, List.getLast?_append, ← sees.snapshot,
      UseSignage.onOpen]

theorem framesOver_append {lost : List Connection} {current : Connection} :
    framesOver json (lost ++ [current]) =
      framesOver json lost ++ reaching json (framesOver json lost).length current := by
  simp [framesOver]

theorem length_framesOver {connections : List Connection} :
    (framesOver json connections).length ≤
      (connections.map fun connection => (contents connection).length).sum := by
  induction connections using List.reverseRecOn with
  | nil => exact Nat.le_refl _
  | append_singleton connections connection ih =>
      rw [framesOver_append, List.length_append, List.map_append, List.sum_append]
      have reached : (reaching json (framesOver json connections).length connection).length ≤
          (contents connection).length := List.length_take_le' _ _
      simpa using Nat.add_le_add ih reached

theorem Sees.lose {display : Display} {frames : List (Option SignageSnapshot)}
    (sees : Sees json display frames) : Sees json display.lose frames :=
  ⟨sees.lastEventId, sees.events, sees.snapshot⟩

theorem after_sees {lost : List Connection}
    (printed : ∀ connection ∈ lost, AllPrinted json parse (contents connection))
    (small : (lost.map fun connection => (contents connection).length).sum < 10 ^ maxStrDigits) :
    Sees json (Display.after json parse lost) (framesOver json lost) := by
  induction lost using List.reverseRecOn with
  | nil => exact ⟨rfl, rfl, rfl⟩
  | append_singleton lost connection ih =>
      have total : (lost.map fun connection => (contents connection).length).sum +
          (contents connection).length < 10 ^ maxStrDigits := by simpa using small
      have before := ih (fun other member => printed other (List.mem_append_left _ member))
        (Nat.lt_of_le_of_lt (Nat.le_add_right _ _) total)
      have next := receive_sees before (printed connection (by simp))
        (Nat.lt_of_le_of_lt (Nat.add_le_add_right length_framesOver _) total)
      rw [framesOver_append, Display.after, List.foldl_append]
      exact next.lose

/-- However often the stream breaks off, and wherever, a display has counted the frames that reached
it whole and no others, and shows the last snapshot among them. -/
theorem display_resumes (json : SignageSnapshot → String) (parse : String → Option SignageSnapshot)
    (lost : List Connection) (current : Connection)
    (printed : ∀ connection ∈ lost ++ [current], AllPrinted json parse (contents connection))
    (small : ((lost ++ [current]).map fun connection => (contents connection).length).sum <
      10 ^ maxStrDigits) :
    Sees json ((Display.after json parse lost).receive json parse current)
      (framesOver json (lost ++ [current])) := by
  have total : (lost.map fun connection => (contents connection).length).sum +
      (contents current).length < 10 ^ maxStrDigits := by simpa using small
  have before := after_sees (fun other member => printed other (List.mem_append_left _ member))
    (Nat.lt_of_le_of_lt (Nat.le_add_right _ _) total)
  rw [framesOver_append]
  exact receive_sees before (printed current (by simp))
    (Nat.lt_of_le_of_lt (Nat.add_le_add_right length_framesOver _) total)

def quietFields : List String :=
  ["\"location_id\":", "\"00000000-0000-0000-", "0000-00000000000a\",", "\"location_name\":",
    "\"Hall\",", "\"now_serving\":[],", "\"recently_called\":[],", "\"waiting_count\":0,",
    "\"avg_wait_minutes\":", "null,", "\"snapshot_at\":", "\"1970-01-01T00:00:00Z\"\x7d"]

def quietText : String := "\x7b" ++ String.join quietFields

def readQuiet (text : String) : Option SignageSnapshot :=
  if text = quietText then some quietHall else none

def brokenOff : Connection := ⟨fun _ => quietHall, [.timeout, .timeout], 220, false⟩

def resumed : Connection := ⟨fun _ => quietHall, [.timeout], 500, false⟩

theorem unbroken_fields {fields : List String}
    (checked : ∀ text ∈ fields, text.toList.all (fun char => char ≠ '\n' && char ≠ '\r')) :
    Unbroken ("\x7b" ++ String.join fields).toList := by
  rw [String.toList_append]
  refine Unbroken.append (unbroken_of_all (by decide)) ?_
  intro char member
  rw [String.toList_join] at member
  obtain ⟨text, field, here⟩ := List.mem_flatMap.mp member
  exact unbroken_of_all (checked text field) char here

theorem display_resumes_quiet :
    Sees (fun _ => quietText)
      ((Display.after (fun _ => quietText) readQuiet [brokenOff]).receive (fun _ => quietText)
        readQuiet resumed)
      (framesOver (fun _ => quietText) [brokenOff, resumed]) := by
  refine display_resumes _ _ [brokenOff] resumed ?_ ?_
  · intro connection member snapshot frame
    have shown : snapshot = quietHall := by
      rcases List.mem_pair.mp member with rfl | rfl <;>
        simpa [contents, answered, brokenOff, resumed] using frame
    rw [shown]
    exact ⟨by simp [quietText], unbroken_fields (by decide), by simp [readQuiet]⟩
  · have digits : 5 ≤ maxStrDigits := by
      rw [maxStrDigits]
      decide
    exact Nat.lt_of_le_of_lt digits (Nat.lt_pow_self (by decide))

end QueueFlow.Reading
