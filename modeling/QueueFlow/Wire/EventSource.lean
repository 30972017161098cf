import Mathlib.Data.List.Basic
import Mathlib.Data.Nat.Basic

/-!
# Event streams

How a client of server-sent events reads the text of a stream: lines, fields, and the dispatch at a
blank line. What is left of a block when the connection breaks is dropped.
-/

namespace QueueFlow.Wire

structure StreamEvent where
  type : List Char
  data : List Char
  lastEventId : List Char
  deriving DecidableEq

/-- A line that was begun, the three buffers of the stream, and what the client has to show. A
`retry` field only changes how long a client waits, which is left out. -/
structure Source where
  line : List Char
  afterReturn : Bool
  data : List Char
  type : List Char
  idBuffer : List Char
  lastEventId : List Char
  events : List StreamEvent
  deriving DecidableEq

namespace Source

def start (lastEventId : List Char) : Source := ⟨[], false, [], [], [], lastEventId, []⟩

def field (source : Source) (name value : List Char) : Source :=
  if name = "event".toList then { source with type := value }
  else if name = "data".toList then { source with data := source.data ++ value ++ ['\n'] }
  else if name = "id".toList then
    if '\x00' ∈ value then source else { source with idBuffer := value }
  else source

/-- An event without data is none, but its id counts. -/
def dispatch (source : Source) : Source :=
  { source with
    data := []
    type := []
    lastEventId := source.idBuffer
    events :=
      if source.data = [] then source.events
      else source.events ++ [{
        type := if source.type = [] then "message".toList else source.type
        data := if source.data.getLast? = some '\n' then source.data.dropLast else source.data
        lastEventId := source.idBuffer }] }

def withoutSpace : List Char → List Char
  | ' ' :: rest => rest
  | value => value

def process (source : Source) (line : List Char) : Source :=
  match line with
  | [] => source.dispatch
  | ':' :: _ => source
  | line => source.field (line.takeWhile (· ≠ ':'))
      (withoutSpace ((line.dropWhile (· ≠ ':')).drop 1))

def endLine (source : Source) : Source := { source with line := [] }.process source.line

def feed (source : Source) (char : Char) : Source :=
  if char = '\n' then
    if source.afterReturn then { source with afterReturn := false } else source.endLine
  else if char = '\r' then { source.endLine with afterReturn := true }
  else { source with line := source.line ++ [char], afterReturn := false }

def feeds (source : Source) (text : List Char) : Source := text.foldl feed source

/-- A byte order mark before the text does not count. -/
def read (lastEventId : List Char) : List Char → Source
  | '\uFEFF' :: text => (start lastEventId).feeds text
  | text => (start lastEventId).feeds text

/-- What of a source outlives its connection. -/
def shown (source : Source) : List Char × List StreamEvent := (source.lastEventId, source.events)

structure Ready (source : Source) : Prop where
  line : source.line = []
  afterReturn : source.afterReturn = false

end Source

/-! ## Lines -/

def Unbroken (text : List Char) : Prop := ∀ char ∈ text, char ≠ '\n' ∧ char ≠ '\r'

structure IsLine (line : List Char) : Prop where
  nonempty : line ≠ []
  unbroken : Unbroken line

def blockText (lines : List (List Char)) : List Char :=
  lines.flatMap (fun line => line ++ ['\n']) ++ ['\n']

variable {source : Source} {line text rest : List Char} {lines : List (List Char)}
  {blocks : List (List (List Char))} {name value : List Char}

theorem Unbroken.append (left : Unbroken text) (right : Unbroken rest) :
    Unbroken (text ++ rest) := by
  intro char member
  exact (List.mem_append.mp member).elim (left char) (right char)

theorem unbroken_of_all (checked : text.all (fun char => char ≠ '\n' && char ≠ '\r')) :
    Unbroken text := by
  intro char member
  simpa using List.all_eq_true.mp checked char member

namespace Source

theorem feeds_append : source.feeds (text ++ rest) = (source.feeds text).feeds rest :=
  List.foldl_append

theorem ready_start {lastEventId : List Char} : (start lastEventId).Ready := ⟨rfl, rfl⟩

theorem feeds_unbroken (unbroken : Unbroken text) :
    source.feeds text = { source with
      line := source.line ++ text
      afterReturn := source.afterReturn && text.isEmpty } := by
  induction text generalizing source with
  | nil => simp [feeds]
  | cons char text ih =>
      obtain ⟨notLine, notReturn⟩ := unbroken char List.mem_cons_self
      have rest : Unbroken text := fun other member =>
        unbroken other (List.mem_cons_of_mem _ member)
      have first : source.feed char =
          { source with line := source.line ++ [char], afterReturn := false } := by
        simp [feed, notLine, notReturn]
      have step : source.feeds (char :: text) = (source.feed char).feeds text := rfl
      rw [step, first, ih rest]
      simp

theorem shown_feeds_unbroken (unbroken : Unbroken text) :
    (source.feeds text).shown = source.shown := by
  rw [feeds_unbroken unbroken]
  rfl

theorem field_line : (source.field name value).line = source.line ∧
    (source.field name value).afterReturn = source.afterReturn := by
  unfold field
  split
  · exact ⟨rfl, rfl⟩
  · split
    · exact ⟨rfl, rfl⟩
    · split
      · split <;> exact ⟨rfl, rfl⟩
      · exact ⟨rfl, rfl⟩

theorem shown_field : (source.field name value).shown = source.shown := by
  unfold field
  split
  · rfl
  · split
    · rfl
    · split
      · split <;> rfl
      · rfl

theorem Ready.process (ready : source.Ready) : (source.process line).Ready := by
  unfold Source.process
  split
  · exact ⟨ready.line, ready.afterReturn⟩
  · exact ready
  · exact ⟨field_line.1.trans ready.line, field_line.2.trans ready.afterReturn⟩

/-- Only a blank line dispatches. -/
theorem shown_process (nonempty : line ≠ []) : (source.process line).shown = source.shown := by
  unfold process
  split
  · exact absurd rfl nonempty
  · rfl
  · exact shown_field

theorem feeds_line (ready : source.Ready) (unbroken : Unbroken line) :
    source.feeds (line ++ ['\n']) = source.process line := by
  obtain ⟨begun, data, type, idBuffer, lastEventId, events, afterReturn⟩ := source
  obtain ⟨rfl, rfl⟩ : begun = [] ∧ data = false := ⟨ready.line, ready.afterReturn⟩
  rw [feeds_append, feeds_unbroken unbroken]
  simp [feeds, feed, endLine]

/-! ## Blocks -/

theorem feeds_cons (ready : source.Ready) (isLine : IsLine line) :
    source.feeds (blockText (line :: lines)) = (source.process line).feeds (blockText lines) := by
  rw [← feeds_line ready isLine.unbroken, ← feeds_append]
  simp [blockText]

theorem feeds_block (ready : source.Ready) (areLines : ∀ line ∈ lines, IsLine line) :
    source.feeds (blockText lines) = (lines.foldl process source).dispatch ∧
      (source.feeds (blockText lines)).Ready := by
  induction lines generalizing source with
  | nil =>
      have none : Unbroken [] := by simp [Unbroken]
      have blank : source.feeds ['\n'] = source.process [] := feeds_line ready none
      exact ⟨blank, blank ▸ ready.process⟩
  | cons line lines ih =>
      rw [feeds_cons ready (areLines line List.mem_cons_self)]
      exact ih ready.process fun other member => areLines other (List.mem_cons_of_mem _ member)

/-- A block that is cut before its blank line shows nothing. -/
theorem shown_cut (ready : source.Ready) (areLines : ∀ line ∈ lines, IsLine line) {received : Nat}
    (cut : received < (blockText lines).length) (lost : Unbroken rest) :
    (source.feeds ((blockText lines).take received ++ rest)).shown = source.shown := by
  induction lines generalizing source received with
  | nil =>
      obtain rfl : received = 0 := by simpa [blockText] using cut
      simpa using shown_feeds_unbroken lost
  | cons line lines ih =>
      obtain ⟨nonempty, unbroken⟩ := areLines line List.mem_cons_self
      have text : blockText (line :: lines) = (line ++ ['\n']) ++ blockText lines := by
        simp [blockText]
      rw [text] at cut ⊢
      by_cases within : received ≤ line.length
      · have begun : Unbroken (line.take received ++ rest) := by
          intro char member
          rcases List.mem_append.mp member with taken | lostChar
          · exact unbroken char (List.mem_of_mem_take taken)
          · exact lost char lostChar
        rw [List.append_assoc, List.take_append_of_le_length within]
        exact shown_feeds_unbroken begun
      · have long : (line ++ ['\n']).length ≤ received := by
          simpa using Nat.succ_le_of_lt (not_le.mp within)
        rw [List.length_append] at cut
        rw [List.take_append, List.take_of_length_le long, List.append_assoc, feeds_append,
          feeds_line ready unbroken, ih ready.process
            (fun other member => areLines other (List.mem_cons_of_mem _ member)) (by omega),
          shown_process nonempty]

end Source

/-! ## A stream that breaks off -/

/-- How many of these texts lie within the first characters of their concatenation. -/
def whole {α : Type*} : List (List α) → Nat → Nat
  | [], _ => 0
  | text :: texts, received =>
      if text.length ≤ received then whole texts (received - text.length) + 1 else 0

namespace Source

def block (source : Source) (lines : List (List Char)) : Source :=
  (lines.foldl process source).dispatch

/-- A client that loses its connection has seen the blocks that arrived whole, and no more. -/
theorem shown_received (ready : source.Ready)
    (areLines : ∀ lines ∈ blocks, ∀ line ∈ lines, IsLine line) {received : Nat}
    (lost : Unbroken rest) :
    (source.feeds ((blocks.flatMap blockText).take received ++ rest)).shown =
      ((blocks.take (whole (blocks.map blockText) received)).foldl block source).shown := by
  induction blocks generalizing source received with
  | nil => simpa using shown_feeds_unbroken lost
  | cons lines blocks ih =>
      have here := areLines lines List.mem_cons_self
      rw [List.flatMap_cons, List.map_cons, whole]
      by_cases long : (blockText lines).length ≤ received
      · obtain ⟨read, ready⟩ := feeds_block ready here
        rw [if_pos long, List.take_succ_cons, List.foldl_cons, List.take_append,
          List.take_of_length_le long, List.append_assoc, feeds_append,
          ih ready fun other member => areLines other (List.mem_cons_of_mem _ member), read]
        rfl
      · have short : received < (blockText lines).length := not_le.mp long
        rw [if_neg long, List.take_append_of_le_length (Nat.le_of_lt short)]
        exact shown_cut ready here short lost

theorem read_eq_feeds {lastEventId : List Char} (noMark : text.head? ≠ some '\uFEFF') :
    read lastEventId text = (start lastEventId).feeds text := by
  unfold read
  split
  · exact absurd rfl noMark
  · rfl

end Source
end QueueFlow.Wire
