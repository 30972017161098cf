import Mathlib.Data.List.Basic

/-!
# JSON

Values are printed as a list of tokens, in one of several styles, and read back in two passes: the
text into tokens, and the tokens by a machine with a stack. Numbers are whole numbers.
-/

namespace QueueFlow.Wire

inductive Json where
  | null
  | bool (value : Bool)
  | int (value : Int)
  | str (text : String)
  | arr (items : List Json)
  | obj (fields : List (String × Json))

inductive Token where
  | openArr | closeArr | openObj | closeObj | comma | colon
  | null
  | bool (value : Bool)
  | int (value : Int)
  | str (text : List Char)
  deriving DecidableEq

namespace Json

mutual

def tokens : Json → List Token
  | .null => [.null]
  | .bool value => [.bool value]
  | .int value => [.int value]
  | .str text => [.str text.toList]
  | .arr [] => [.openArr, .closeArr]
  | .arr (item :: items) => .openArr :: tokens item ++ moreItems items ++ [.closeArr]
  | .obj [] => [.openObj, .closeObj]
  | .obj ((key, value) :: fields) =>
      .openObj :: .str key.toList :: .colon :: tokens value ++ moreFields fields ++ [.closeObj]

def moreItems : List Json → List Token
  | [] => []
  | item :: items => .comma :: tokens item ++ moreItems items

def moreFields : List (String × Json) → List Token
  | [] => []
  | (key, value) :: fields =>
      .comma :: .str key.toList :: .colon :: tokens value ++ moreFields fields

end

/-! ## The machine -/

/-- An array or an object that has begun, with what it has so far. -/
inductive Frame where
  | items (before : List Json)
  | member (before : List (String × Json)) (key : String)

inductive Expect where
  | value
  | firstItem
  | firstKey
  | key (before : List (String × Json))
  | colon (before : List (String × Json)) (key : String)
  | next (value : Json)

structure Machine where
  expect : Expect
  stack : List Frame

namespace Machine

def start : Machine := ⟨.value, []⟩

def begin (stack : List Frame) : Token → Option Machine
  | .null => some ⟨.next .null, stack⟩
  | .bool value => some ⟨.next (.bool value), stack⟩
  | .int value => some ⟨.next (.int value), stack⟩
  | .str text => some ⟨.next (.str (String.ofList text)), stack⟩
  | .openArr => some ⟨.firstItem, .items [] :: stack⟩
  | .openObj => some ⟨.firstKey, stack⟩
  | _ => none

def step (machine : Machine) (token : Token) : Option Machine :=
  match machine.expect, machine.stack, token with
  | .value, stack, token => begin stack token
  | .firstItem, .items [] :: stack, .closeArr => some ⟨.next (.arr []), stack⟩
  | .firstItem, stack, token => begin stack token
  | .firstKey, stack, .closeObj => some ⟨.next (.obj []), stack⟩
  | .firstKey, stack, .str key => some ⟨.colon [] (String.ofList key), stack⟩
  | .key before, stack, .str key => some ⟨.colon before (String.ofList key), stack⟩
  | .colon before key, stack, .colon => some ⟨.value, .member before key :: stack⟩
  | .next value, .items before :: stack, .comma =>
      some ⟨.value, .items (before ++ [value]) :: stack⟩
  | .next value, .items before :: stack, .closeArr =>
      some ⟨.next (.arr (before ++ [value])), stack⟩
  | .next value, .member before key :: stack, .comma =>
      some ⟨.key (before ++ [(key, value)]), stack⟩
  | .next value, .member before key :: stack, .closeObj =>
      some ⟨.next (.obj (before ++ [(key, value)])), stack⟩
  | _, _, _ => none

def run (machine : Machine) (tokens : List Token) : Option Machine := tokens.foldlM step machine

def result : Machine → Option Json
  | ⟨.next value, []⟩ => some value
  | _ => none

end Machine

def ofTokens (tokens : List Token) : Option Json := (Machine.start.run tokens).bind Machine.result

namespace Machine

variable {stack : List Frame} {tokens more : List Token}

@[simp] theorem run_nil (machine : Machine) : machine.run [] = some machine := rfl

@[simp] theorem run_cons (machine : Machine) (token : Token) :
    machine.run (token :: tokens) = (machine.step token).bind (run · tokens) := rfl

theorem run_append (machine : Machine) :
    machine.run (tokens ++ more) = (machine.run tokens).bind (run · more) :=
  List.foldlM_append

def Begins (machine : Machine) : Prop := machine.expect = .value ∨ machine.expect = .firstItem

theorem step_begins {machine : Machine} {token : Token} (begins : machine.Begins)
    (other : token ≠ .closeArr) : machine.step token = begin machine.stack token := by
  obtain ⟨expect, stack⟩ := machine
  rcases begins with rfl | rfl
  · rfl
  · cases token with
    | closeArr => exact (other rfl).elim
    | _ => rcases stack with _ | ⟨⟨_ | _⟩ | _, _⟩ <;> rfl

mutual

theorem run_tokens : ∀ (value : Json) (machine : Machine), machine.Begins →
    machine.run value.tokens = some ⟨.next value, machine.stack⟩
  | .null, machine, begins => by simp [tokens, step_begins begins, begin]
  | .bool value, machine, begins => by simp [tokens, step_begins begins, begin]
  | .int value, machine, begins => by simp [tokens, step_begins begins, begin]
  | .str text, machine, begins => by simp [tokens, step_begins begins, begin]
  | .arr [], machine, begins => by
      rw [tokens, run_cons, step_begins begins (by simp)]
      rfl
  | .arr (item :: items), machine, begins => by
      have first := run_tokens item ⟨.firstItem, .items [] :: machine.stack⟩ (.inr rfl)
      have rest := run_moreItems items item [] machine.stack
      simpa [tokens, step_begins begins, begin, run_append, first] using rest
  | .obj [], machine, begins => by
      rw [tokens, run_cons, step_begins begins (by simp)]
      rfl
  | .obj ((key, value) :: fields), machine, begins => by
      have first := run_tokens value ⟨.value, .member [] key :: machine.stack⟩ (.inl rfl)
      have rest := run_moreFields fields key value [] machine.stack
      have opens : machine.step .openObj = some ⟨.firstKey, machine.stack⟩ :=
        step_begins begins (by simp)
      simp only [tokens, List.cons_append, run_cons, opens, Option.bind_some]
      simpa [step, run_append, first] using rest

theorem run_moreItems : ∀ (items : List Json) (item : Json) (before : List Json)
    (stack : List Frame),
    (Machine.mk (.next item) (.items before :: stack)).run (moreItems items ++ [.closeArr]) =
      some ⟨.next (.arr (before ++ item :: items)), stack⟩
  | [], item, before, stack => by simp [moreItems, step]
  | next :: items, item, before, stack => by
      have first := run_tokens next ⟨.value, .items (before ++ [item]) :: stack⟩ (.inl rfl)
      have rest := run_moreItems items next (before ++ [item]) stack
      simpa [moreItems, step, run_append, first] using rest

theorem run_moreFields : ∀ (fields : List (String × Json)) (key : String) (value : Json)
    (before : List (String × Json)) (stack : List Frame),
    (Machine.mk (.next value) (.member before key :: stack)).run
        (moreFields fields ++ [.closeObj]) =
      some ⟨.next (.obj (before ++ (key, value) :: fields)), stack⟩
  | [], key, value, before, stack => by simp [moreFields, step]
  | (name, next) :: fields, key, value, before, stack => by
      have first := run_tokens next ⟨.value, .member (before ++ [(key, value)]) name :: stack⟩
        (.inl rfl)
      have rest := run_moreFields fields name next (before ++ [(key, value)]) stack
      simpa [moreFields, step, run_append, first] using rest

end

end Machine

/-- The machine reads the tokens of a value back. -/
theorem ofTokens_tokens (value : Json) : ofTokens value.tokens = some value := by
  rw [ofTokens, Machine.run_tokens value .start (.inl rfl)]
  rfl

end Json
end QueueFlow.Wire
