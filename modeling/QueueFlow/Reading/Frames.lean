import QueueFlow.App.SseStream

/-!
# The frames of a stream

Which `Last-Event-ID` the stream can continue, and how it numbers its frames then.
-/

namespace QueueFlow.Reading
open QueueFlow.App QueueFlow.Data

variable {snapshots : Nat → SignageSnapshot} {seq taken : Nat} {outcomes : List MessageOutcome}
  {lastEventId : Option String} {text : String}

/-- The value of a decimal number of any length, and zero for every other header. -/
def headerValue (lastEventId : Option String) : Nat :=
  match lastEventId with
  | none => 0
  | some text => if text = "" then 0 else ((text.toList.mapM decimal).map valueOf).getD 0

/-- One frame for each of these ids and outcomes, and the end of the subscription. -/
def Numbered (seq : Nat) (isMessage : List Bool) (effects : List StreamEffect) : Prop :=
  ∃ frames : List (String × Option SignageSnapshot),
    effects = frames.map (fun frame => .frame frame.1 frame.2) ++ [.unsubscribe] ∧
    frames.map Prod.fst = (List.range' (seq + 1) isMessage.length).map toString ∧
    frames.map (fun frame => frame.2.isSome) = isMessage

/-- The stream subscribes, sends a data frame and then one frame for each outcome, with ids from the
header's value on, and gives the subscription back. Nothing is raised. -/
def StreamsProperly (lastEventId : Option String) (outcomes : List MessageOutcome)
    (effects : List StreamEffect) : Prop :=
  ∃ rest, effects = .subscribe :: rest ∧
    Numbered (headerValue lastEventId) (true :: outcomes.map fun outcome => outcome = .message) rest

def Unreadable (text : String) : Prop :=
  isDigit text ∧ ((∃ char ∈ text.toList, decimal char = none) ∨ maxStrDigits < text.toList.length)

/-! ## Reading the header -/

theorem mapM_decimal_eq_none {chars : List Char} :
    chars.mapM decimal = none ↔ ∃ char ∈ chars, decimal char = none := by
  induction chars with
  | nil => simp
  | cons char chars ih =>
      rw [List.mapM_cons]
      cases here : decimal char with
      | none => simp [here]
      | some digit => cases rest : chars.mapM decimal <;> simp_all

theorem length_mapM_decimal {chars : List Char} {digits : List Nat}
    (read : chars.mapM decimal = some digits) : digits.length = chars.length := by
  induction chars generalizing digits with
  | nil =>
      cases read
      rfl
  | cons char chars ih =>
      rw [List.mapM_cons] at read
      cases here : decimal char with
      | none => simp [here] at read
      | some digit =>
          cases rest : chars.mapM decimal with
          | none => simp [here, rest] at read
          | some others =>
              obtain rfl : digit :: others = digits := by simpa [here, rest] using read
              simp [ih rest]

theorem isDigit_of_decimal (nonempty : text ≠ "") {digits : List Nat}
    (read : text.toList.mapM decimal = some digits) : isDigit text = true := by
  have decimals : ∀ char ∈ text.toList, (decimal char).isSome := by
    intro char member
    rw [Option.isSome_iff_ne_none]
    intro other
    have failed := mapM_decimal_eq_none.mpr ⟨char, member, other⟩
    rw [read] at failed
    cases failed
  simp only [isDigit, nonempty, Bool.and_eq_true, List.all_eq_true, ne_eq, not_false_eq_true,
    decide_true, true_and]
  exact fun char member => by simp [decimals char member]

theorem firstSeq_of_readable (readable : ∀ text ∈ lastEventId, ¬ Unreadable text) :
    firstSeq lastEventId = some (headerValue lastEventId) := by
  cases lastEventId with
  | none => rfl
  | some text =>
      have readable := readable text rfl
      by_cases empty : text = ""
      · simp [firstSeq, headerValue, empty]
      · by_cases digits : isDigit text = true
        · cases read : text.toList.mapM decimal with
          | none => exact (readable ⟨digits, .inl (mapM_decimal_eq_none.mp read)⟩).elim
          | some values =>
              have short : values.length ≤ maxStrDigits := by
                rw [length_mapM_decimal read]
                exact not_lt.mp fun long => readable ⟨digits, .inr long⟩
              simp [firstSeq, headerValue, parseInt, empty, digits, read, short]
        · cases read : text.toList.mapM decimal with
          | none => simp [firstSeq, headerValue, empty, digits, read]
          | some values => exact (digits (isDigit_of_decimal empty read)).elim

theorem firstSeq_of_unreadable (unreadable : Unreadable text) : firstSeq (some text) = none := by
  obtain ⟨digits, fault⟩ := unreadable
  have nonempty : text ≠ "" := by
    rintro rfl
    simp [isDigit] at digits
  cases read : text.toList.mapM decimal with
  | none => simp [firstSeq, parseInt, nonempty, digits, read]
  | some values =>
      have long : maxStrDigits < values.length := by
        rcases fault with other | long
        · rw [mapM_decimal_eq_none.mpr other] at read
          cases read
        · rwa [length_mapM_decimal read]
      simp [firstSeq, parseInt, nonempty, digits, read, not_le.mpr long]

/-! ## The loop -/

theorem formatInt_of_lt (small : seq < 10 ^ maxStrDigits) :
    formatInt seq = some (toString seq) := if_pos small

theorem formatInt_of_ge (large : 10 ^ maxStrDigits ≤ seq) : formatInt seq = none :=
  if_neg (not_lt.mpr large)

theorem listen_cons (outcome : MessageOutcome) {id : String}
    (formatted : formatInt (seq + 1) = some id) :
    ∃ data next, data.isSome = decide (outcome = .message) ∧
      listen snapshots seq taken (outcome :: outcomes) =
        .frame id data :: listen snapshots (seq + 1) next outcomes := by
  rw [App.listen, formatted]
  dsimp only
  by_cases message : outcome = .message
  · rw [if_pos message]
    exact ⟨some (snapshots taken), taken + 1, by simp [message], rfl⟩
  · rw [if_neg message]
    exact ⟨none, taken, by simp [message], rfl⟩

theorem Numbered.cons {isMessage : List Bool} {effects : List StreamEffect}
    {data : Option SignageSnapshot} (numbered : Numbered (seq + 1) isMessage effects) :
    Numbered seq (data.isSome :: isMessage) (.frame (toString (seq + 1)) data :: effects) := by
  obtain ⟨frames, rfl, ids, kinds⟩ := numbered
  refine ⟨(toString (seq + 1), data) :: frames, rfl, ?_, by rw [List.map_cons, kinds]⟩
  rw [List.map_cons, ids, List.length_cons, List.range'_succ, List.map_cons]

theorem listen_numbered (small : seq + outcomes.length < 10 ^ maxStrDigits) :
    Numbered seq (outcomes.map fun outcome => outcome = .message)
      (listen snapshots seq taken outcomes) := by
  induction outcomes generalizing seq taken with
  | nil => exact ⟨[], rfl, rfl, rfl⟩
  | cons outcome rest ih =>
      rw [List.length_cons] at small
      have onward : seq + 1 + rest.length < 10 ^ maxStrDigits := by omega
      have formatted := formatInt_of_lt (Nat.lt_of_le_of_lt (Nat.le_add_right _ _) onward)
      obtain ⟨data, next, kind, step⟩ := listen_cons outcome formatted
      rw [step, List.map_cons, ← kind]
      exact (ih onward).cons

theorem listen_raises (begins : seq < 10 ^ maxStrDigits)
    (large : 10 ^ maxStrDigits ≤ seq + outcomes.length) :
    .raised .valueError ∈ listen snapshots seq taken outcomes := by
  induction outcomes generalizing seq taken with
  | nil => exact absurd begins (not_lt.mpr large)
  | cons outcome rest ih =>
      rw [List.length_cons] at large
      by_cases next : seq + 1 < 10 ^ maxStrDigits
      · have onward : 10 ^ maxStrDigits ≤ seq + 1 + rest.length := by omega
        obtain ⟨_, _, _, step⟩ := listen_cons outcome (formatInt_of_lt next)
        rw [step]
        exact List.mem_cons_of_mem _ (ih next onward)
      · rw [App.listen, formatInt_of_ge (not_lt.mp next)]
        exact List.mem_cons_of_mem _ List.mem_cons_self

theorem Numbered.not_raised {isMessage : List Bool} {effects : List StreamEffect}
    {failure : Failure} (numbered : Numbered seq isMessage effects) :
    .raised failure ∉ effects := by
  obtain ⟨frames, rfl, _⟩ := numbered
  simp

/-- The stream does what it should exactly when `int` reads the header and no id has more digits
than a number may be printed with. -/
theorem stream_numbered (snapshots : Nat → SignageSnapshot) (lastEventId : Option String)
    (outcomes : List MessageOutcome) :
    StreamsProperly lastEventId outcomes (sseStream snapshots lastEventId outcomes) ↔
      (∀ text ∈ lastEventId, ¬ Unreadable text) ∧
        headerValue lastEventId + 1 + outcomes.length < 10 ^ maxStrDigits := by
  constructor
  · rintro ⟨rest, same, numbered⟩
    have silent : .raised .valueError ∉ sseStream snapshots lastEventId outcomes := by
      rw [same]
      simpa using numbered.not_raised
    have readable : ∀ text ∈ lastEventId, ¬ Unreadable text := by
      rintro text rfl unreadable
      exact silent (by simp [sseStream, firstSeq_of_unreadable unreadable])
    refine ⟨readable, not_le.mp fun large => silent ?_⟩
    rw [sseStream, firstSeq_of_readable readable]
    by_cases begins : headerValue lastEventId + 1 < 10 ^ maxStrDigits
    · simp [formatInt_of_lt begins, listen_raises begins large]
    · simp [formatInt_of_ge (not_lt.mp begins)]
  · rintro ⟨readable, small⟩
    rw [sseStream, firstSeq_of_readable readable]
    simp only [formatInt_of_lt (Nat.lt_of_le_of_lt (Nat.le_add_right _ _) small)]
    refine ⟨_, rfl, ?_⟩
    exact Numbered.cons (listen_numbered small)

def quietHall : SignageSnapshot := ⟨10, "Hall", [], [], 0, none, 0⟩

/-- A superscript is a digit that `int` refuses: the subscription is left behind. -/
theorem superscript_refused :
    sseStream (fun _ => quietHall) (some "²") [] = [.subscribe, .raised .valueError] ∧
    ¬ StreamsProperly (some "²") [] (sseStream (fun _ => quietHall) (some "²") []) := by
  have unreadable : Unreadable "²" := ⟨by decide +kernel, .inl ⟨'²', by simp, by decide⟩⟩
  have effects :
      sseStream (fun _ => quietHall) (some "²") [] = [.subscribe, .raised .valueError] := by
    rw [sseStream, firstSeq_of_unreadable unreadable]
  refine ⟨effects, ?_⟩
  rw [effects]
  rintro ⟨rest, same, numbered⟩
  obtain rfl : [.raised .valueError] = rest := List.tail_eq_of_cons_eq same
  exact numbered.not_raised List.mem_cons_self

end QueueFlow.Reading
