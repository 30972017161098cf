import QueueFlow.Transactions.Engine
import Mathlib.Data.List.Induction

/-!
# Logs

What can be read off the log of a run: the past of one session, the writes committed so far, and
the writes of a session's open transaction.
-/

namespace QueueFlow.Transactions

/-- Every entry stands in relation `R` to the entries before it. -/
def Throughout {β : Type} (R : List β → β → Prop) (log : List β) : Prop :=
  ∀ (n : Nat) (event : β), log[n]? = some event → R (log.take n) event

theorem throughout_nil {β : Type} {R : List β → β → Prop} : Throughout R [] := by
  intro n event located
  simp at located

theorem throughout_concat {β : Type} {R : List β → β → Prop} {log : List β} {event : β}
    (earlier : Throughout R log) (last : R log event) : Throughout R (log ++ [event]) := by
  intro n other located
  rcases Nat.lt_trichotomy n log.length with inside | rfl | beyond
  · rw [List.getElem?_append_left inside] at located
    rw [List.take_append_of_le_length (Nat.le_of_lt inside)]
    exact earlier n other located
  · simp only [List.getElem?_concat_length, Option.some.injEq] at located
    subst located
    simpa using last
  · rw [List.getElem?_eq_none (by simp; omega)] at located
    cases located

theorem throughout_append {β : Type} {R : List β → β → Prop} {first last : List β} :
    Throughout R (first ++ last) ↔
      Throughout R first ∧ Throughout (fun before => R (first ++ before)) last := by
  constructor
  · refine fun all => ⟨fun n event located => ?_, fun n event located => ?_⟩
    · have inside := (List.getElem?_eq_some_iff.mp located).1
      have there := all n event (by rwa [List.getElem?_append_left inside])
      rwa [List.take_append_of_le_length (Nat.le_of_lt inside)] at there
    · have there := all (first.length + n) event (by
        rwa [List.getElem?_append_right (Nat.le_add_right _ _), Nat.add_sub_cancel_left])
      rwa [List.take_length_add_append] at there
  · rintro ⟨earlier, later⟩ n event located
    by_cases inside : n < first.length
    · rw [List.getElem?_append_left inside] at located
      rw [List.take_append_of_le_length (Nat.le_of_lt inside)]
      exact earlier n event located
    · obtain ⟨m, rfl⟩ := Nat.exists_eq_add_of_le (Nat.le_of_not_lt inside)
      rw [List.getElem?_append_right (Nat.le_add_right _ _), Nat.add_sub_cancel_left] at located
      rw [List.take_length_add_append]
      exact later m event located

instance {β : Type} (R : List β → β → Prop) [∀ before event, Decidable (R before event)]
    (log : List β) : Decidable (Throughout R log) :=
  decidable_of_iff (∀ n : Fin log.length, R (log.take n) (log.get n)) (by
    constructor
    · intro all n event located
      obtain ⟨inside, rfl⟩ := List.getElem?_eq_some_iff.mp located
      exact all ⟨n, inside⟩
    · exact fun all n => all n _ (List.getElem?_eq_getElem n.isLt))

theorem mem_take {β : Type} {log : List β} {n : Nat} {event : β} :
    event ∈ log.take n ↔ ∃ m, m < n ∧ log[m]? = some event := by
  rw [List.mem_iff_getElem?]
  constructor
  · rintro ⟨m, located⟩
    rw [List.getElem?_take] at located
    split at located
    · rename_i inside
      exact ⟨m, inside, located⟩
    · cases located
  · rintro ⟨m, inside, located⟩
    exact ⟨m, by rw [List.getElem?_take_of_lt inside, located]⟩

theorem mem_dropWhile_of_drop {β : Type} {p : β → Bool} {log : List β} {m : Nat} {stop entry : β}
    (located : log[m]? = some stop) (stops : p stop = false) (member : entry ∈ log.drop m) :
    entry ∈ log.dropWhile p := by
  induction log generalizing m with
  | nil => simp at located
  | cons first rest ih =>
      rw [List.dropWhile_cons]
      split
      · rename_i passes
        cases m with
        | zero =>
            cases located
            rw [stops] at passes
            cases passes
        | succ m => exact ih located member
      · exact List.mem_of_mem_drop member

variable {ι Write Stmt Msg : Type} {Res : Stmt → Type}

/-! ## The past of a session -/

section
variable [DecidableEq ι]

def pastOf (i : ι) (log : List (Event ι Stmt Res Write Msg)) : List (Action Stmt Res Write Msg) :=
  log.filterMap fun event => if event.owner = i then some event.action else none

@[simp] theorem pastOf_nil (i : ι) : pastOf i ([] : List (Event ι Stmt Res Write Msg)) = [] := rfl

@[simp] theorem pastOf_append (i : ι) (first last : List (Event ι Stmt Res Write Msg)) :
    pastOf i (first ++ last) = pastOf i first ++ pastOf i last := List.filterMap_append

@[simp] theorem pastOf_own (i : ι) (action : Action Stmt Res Write Msg) :
    pastOf i [⟨i, action⟩] = [action] := by simp [pastOf]

theorem pastOf_other {i j : ι} (other : j ≠ i) (action : Action Stmt Res Write Msg) :
    pastOf i [⟨j, action⟩] = [] := by simp [pastOf, other]

theorem mem_pastOf {i : ι} {log : List (Event ι Stmt Res Write Msg)}
    {action : Action Stmt Res Write Msg} : action ∈ pastOf i log ↔ ⟨i, action⟩ ∈ log := by
  constructor
  · intro member
    obtain ⟨event, inLog, eq⟩ := List.mem_filterMap.mp member
    split at eq
    · rename_i owner
      cases eq
      subst owner
      exact inLog
    · cases eq
  · intro member
    exact List.mem_filterMap.mpr ⟨_, member, by simp⟩

theorem split_pastOf {i : ι} {log : List (Event ι Stmt Res Write Msg)}
    {earlier later : List (Action Stmt Res Write Msg)} {action : Action Stmt Res Write Msg}
    (split : pastOf i log = earlier ++ action :: later) :
    ∃ p, log[p]? = some ⟨i, action⟩ ∧ pastOf i (log.take p) = earlier ∧
      pastOf i (log.drop (p + 1)) = later := by
  obtain ⟨before, rest, rfl, first, last⟩ := List.filterMap_eq_append_iff.mp split
  obtain ⟨others, event, after, rfl, silent, here, tail⟩ := List.filterMap_eq_cons_iff.mp last
  have skipped : pastOf i others = [] := List.filterMap_eq_nil_iff.mpr silent
  have owned : event = ⟨i, action⟩ := by
    obtain ⟨owner, performed⟩ := event
    dsimp only at here
    split at here
    · rename_i same
      cases here
      rw [same]
    · cases here
  subst owned
  refine ⟨(before ++ others).length, ?_, ?_, ?_⟩
  · rw [← List.append_assoc]
    simp
  · rw [← List.append_assoc, List.take_left, pastOf_append, skipped, List.append_nil]
    exact first
  · rw [← List.append_assoc, List.drop_append, List.drop_eq_nil_of_le (Nat.le_succ _),
      List.nil_append, Nat.add_sub_cancel_left]
    exact tail

end

/-! ## Committed writes -/

def Event.writes (event : Event ι Stmt Res Write Msg) : List Write :=
  match event.action with
  | .committed writes => writes
  | _ => []

def committedWrites (log : List (Event ι Stmt Res Write Msg)) : List Write :=
  log.flatMap Event.writes

@[simp] theorem committedWrites_nil :
    committedWrites ([] : List (Event ι Stmt Res Write Msg)) = [] := rfl

@[simp] theorem committedWrites_append (first last : List (Event ι Stmt Res Write Msg)) :
    committedWrites (first ++ last) = committedWrites first ++ committedWrites last :=
  List.flatMap_append

@[simp] theorem committedWrites_committed (i : ι) (writes : List Write) :
    committedWrites [(⟨i, .committed writes⟩ : Event ι Stmt Res Write Msg)] = writes := by
  simp [committedWrites, Event.writes]

@[simp] theorem committedWrites_performed (i : ι) (stmt : Stmt) (answer : Res stmt)
    (writes : List Write) :
    committedWrites [(⟨i, .performed stmt answer writes⟩ : Event ι Stmt Res Write Msg)] = [] := by
  simp [committedWrites, Event.writes]

@[simp] theorem committedWrites_published (i : ι) (msg : Msg) :
    committedWrites [(⟨i, .published msg⟩ : Event ι Stmt Res Write Msg)] = [] := by
  simp [committedWrites, Event.writes]

theorem mem_committedWrites {log : List (Event ι Stmt Res Write Msg)} {write : Write} :
    write ∈ committedWrites log ↔ ∃ i writes, ⟨i, .committed writes⟩ ∈ log ∧ write ∈ writes := by
  simp only [committedWrites, List.mem_flatMap]
  constructor
  · rintro ⟨⟨i, action⟩, member, written⟩
    cases action with
    | committed writes => exact ⟨i, writes, member, written⟩
    | performed stmt value writes => simp [Event.writes] at written
    | published msg => simp [Event.writes] at written
  · rintro ⟨i, writes, member, written⟩
    exact ⟨_, member, written⟩

/-! ## Messages -/

def messages (log : List (Event ι Stmt Res Write Msg)) : List Msg :=
  log.filterMap fun event => match event.action with
    | .published msg => some msg
    | _ => none

@[simp] theorem messages_append (first last : List (Event ι Stmt Res Write Msg)) :
    messages (first ++ last) = messages first ++ messages last := List.filterMap_append

@[simp] theorem messages_committed (i : ι) (writes : List Write) :
    messages [(⟨i, .committed writes⟩ : Event ι Stmt Res Write Msg)] = [] := rfl

@[simp] theorem messages_performed (i : ι) (stmt : Stmt) (answer : Res stmt)
    (writes : List Write) :
    messages [(⟨i, .performed stmt answer writes⟩ : Event ι Stmt Res Write Msg)] = [] := rfl

@[simp] theorem messages_published (i : ι) (msg : Msg) :
    messages [(⟨i, .published msg⟩ : Event ι Stmt Res Write Msg)] = [msg] := rfl

theorem mem_messages_drop {log : List (Event ι Stmt Res Write Msg)} {m p : Nat} {i : ι} {msg : Msg}
    (published : log[p]? = some ⟨i, .published msg⟩) (later : m ≤ p) :
    msg ∈ messages (log.drop m) := by
  refine List.mem_filterMap.mpr ⟨⟨i, .published msg⟩, List.mem_iff_getElem?.mpr ⟨p - m, ?_⟩, rfl⟩
  rw [List.getElem?_drop, Nat.add_sub_cancel' later]
  exact published

theorem exists_published {log : List (Event ι Stmt Res Write Msg)} {m : Nat} {msg : Msg}
    (member : msg ∈ messages (log.drop m)) :
    ∃ p i, m ≤ p ∧ log[p]? = some ⟨i, .published msg⟩ := by
  obtain ⟨⟨i, action⟩, dropped, same⟩ := List.mem_filterMap.mp member
  obtain ⟨p, located⟩ := List.mem_iff_getElem?.mp dropped
  rw [List.getElem?_drop] at located
  cases action with
  | published message =>
      cases same
      exact ⟨m + p, i, Nat.le_add_right _ _, located⟩
  | _ => cases same

/-! ## Open transactions -/

def Action.pending (writes : List Write) : Action Stmt Res Write Msg → List Write
  | .performed _ _ new => writes ++ new
  | .committed _ => []
  | .published _ => writes

def pendingOf (past : List (Action Stmt Res Write Msg)) : List Write :=
  past.foldl Action.pending []

@[simp] theorem pendingOf_nil : pendingOf ([] : List (Action Stmt Res Write Msg)) = [] := rfl

@[simp] theorem pendingOf_concat (past : List (Action Stmt Res Write Msg))
    (action : Action Stmt Res Write Msg) :
    pendingOf (past ++ [action]) = action.pending (pendingOf past) := by
  simp [pendingOf]

theorem mem_pendingOf {past : List (Action Stmt Res Write Msg)} {write : Write}
    (member : write ∈ pendingOf past) :
    ∃ stmt value writes, .performed stmt value writes ∈ past ∧ write ∈ writes := by
  induction past using List.reverseRecOn with
  | nil => simp at member
  | append_singleton past action ih =>
      rw [pendingOf_concat] at member
      have later (earlier : write ∈ pendingOf past) :
          ∃ stmt value writes, .performed stmt value writes ∈ past ++ [action] ∧
            write ∈ writes := by
        obtain ⟨stmt, value, writes, performed, written⟩ := ih earlier
        exact ⟨stmt, value, writes, List.mem_append_left _ performed, written⟩
      cases action with
      | performed stmt value writes =>
          rcases List.mem_append.mp member with earlier | new
          · exact later earlier
          · exact ⟨stmt, value, writes, by simp, new⟩
      | committed writes => simp [Action.pending] at member
      | published msg => exact later member

end QueueFlow.Transactions
