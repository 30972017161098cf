import QueueFlow.Wire.Json
import Mathlib.Data.List.Chain
import Mathlib.Data.Nat.Init

/-!
# The text of JSON

The tokens of a value as characters, and the characters as tokens again. A style says whether there
is a blank after commas and colons, and whether only ASCII is used.
-/

namespace QueueFlow.Wire.Json

structure Style where
  spaced : Bool
  ascii : Bool

/-! ## Writing -/

def hex4 (n : Nat) : List Char :=
  [Nat.digitChar (n / 4096 % 16), Nat.digitChar (n / 256 % 16), Nat.digitChar (n / 16 % 16),
    Nat.digitChar (n % 16)]

def escapeUnit (n : Nat) : List Char := '\\' :: 'u' :: hex4 n

def letterOf : Char → Option Char
  | '"' => some '"'
  | '\\' => some '\\'
  | '\n' => some 'n'
  | '\r' => some 'r'
  | '\t' => some 't'
  | '\x08' => some 'b'
  | '\x0c' => some 'f'
  | _ => none

/-- A character above the first plane is written as two surrogates. -/
def escape (style : Style) (char : Char) : List Char :=
  match letterOf char with
  | some letter => ['\\', letter]
  | none =>
      if char.toNat < 0x20 ∨ (style.ascii = true ∧ 0x7E < char.toNat) then
        if char.toNat < 0x10000 then escapeUnit char.toNat
        else escapeUnit (0xD800 + (char.toNat - 0x10000) / 0x400) ++
          escapeUnit (0xDC00 + (char.toNat - 0x10000) % 0x400)
      else [char]

def Style.gap (style : Style) : List Char := if style.spaced then [' '] else []

def tokenText (style : Style) : Token → List Char
  | .openArr => ['[']
  | .closeArr => [']']
  | .openObj => ['\x7b']
  | .closeObj => ['\x7d']
  | .comma => ',' :: style.gap
  | .colon => ':' :: style.gap
  | .null => ['n', 'u', 'l', 'l']
  | .bool true => ['t', 'r', 'u', 'e']
  | .bool false => ['f', 'a', 'l', 's', 'e']
  | .int value => (if value < 0 then ['-'] else []) ++ Nat.toDigits 10 value.natAbs
  | .str text => '"' :: text.flatMap (escape style) ++ ['"']

def chars (style : Style) (value : Json) : List Char := value.tokens.flatMap (tokenText style)

def text (style : Style) (value : Json) : String := String.ofList (value.chars style)

/-! ## Reading -/

def isBlank (char : Char) : Bool := char = ' ' || char = '\n' || char = '\r' || char = '\t'

def hexValue (char : Char) : Option Nat :=
  if '0' ≤ char ∧ char ≤ '9' then some (char.toNat - 48)
  else if 'a' ≤ char ∧ char ≤ 'f' then some (char.toNat - 87)
  else if 'A' ≤ char ∧ char ≤ 'F' then some (char.toNat - 55)
  else none

def readHex : List Char → Option (Nat × List Char)
  | a :: b :: c :: d :: rest => do
      let a ← hexValue a
      let b ← hexValue b
      let c ← hexValue c
      let d ← hexValue d
      return (a * 4096 + b * 256 + c * 16 + d, rest)
  | _ => none

def charOfLetter : Char → Option Char
  | '"' => some '"'
  | '\\' => some '\\'
  | '/' => some '/'
  | 'n' => some '\n'
  | 'r' => some '\r'
  | 't' => some '\t'
  | 'b' => some '\x08'
  | 'f' => some '\x0c'
  | _ => none

/-- A surrogate without its other half is no character. -/
def readUnits (rest : List Char) : Option (Char × List Char) := do
  let (unit, rest) ← readHex rest
  if unit < 0xD800 ∨ 0xDFFF < unit then return (Char.ofNat unit, rest)
  else if unit < 0xDC00 then
    match rest with
    | '\\' :: 'u' :: rest =>
        let (low, rest) ← readHex rest
        if 0xDC00 ≤ low ∧ low ≤ 0xDFFF then
          return (Char.ofNat (0x10000 + (unit - 0xD800) * 0x400 + (low - 0xDC00)), rest)
        else none
    | _ => none
  else none

def readChar : List Char → Option (Char × List Char)
  | '\\' :: 'u' :: rest => readUnits rest
  | '\\' :: letter :: rest => (charOfLetter letter).map (·, rest)
  | '\\' :: [] => none
  | char :: rest => if char.toNat < 0x20 then none else some (char, rest)
  | [] => none

def readText : Nat → List Char → Option (List Char × List Char)
  | _, '"' :: rest => some ([], rest)
  | 0, _ => none
  | fuel + 1, text => do
      let (char, rest) ← readChar text
      let (chars, rest) ← readText fuel rest
      return (char :: chars, rest)

/-- Fractions and exponents are not read. -/
def readNat (text : List Char) : Option (Nat × List Char) :=
  let digits := text.takeWhile Char.isDigit
  let rest := text.dropWhile Char.isDigit
  if digits = [] ∨ (digits.head? = some '0' ∧ digits ≠ ['0']) ∨
      rest.head?.any (fun char => char = '.' || char = 'e' || char = 'E') then none
  else some (Nat.ofDigitChars 10 digits 0, rest)

def readToken : List Char → Option (Token × List Char)
  | '[' :: rest => some (.openArr, rest)
  | ']' :: rest => some (.closeArr, rest)
  | '\x7b' :: rest => some (.openObj, rest)
  | '\x7d' :: rest => some (.closeObj, rest)
  | ',' :: rest => some (.comma, rest)
  | ':' :: rest => some (.colon, rest)
  | 'n' :: 'u' :: 'l' :: 'l' :: rest => some (.null, rest)
  | 't' :: 'r' :: 'u' :: 'e' :: rest => some (.bool true, rest)
  | 'f' :: 'a' :: 'l' :: 's' :: 'e' :: rest => some (.bool false, rest)
  | '"' :: rest => (readText rest.length rest).map fun read => (.str read.1, read.2)
  | '-' :: rest => (readNat rest).map fun read => (.int (-read.1), read.2)
  | text => (readNat text).map fun read => (.int read.1, read.2)

def readTokens : Nat → List Char → Option (List Token)
  | 0, _ => none
  | fuel + 1, text =>
      match text.dropWhile isBlank with
      | [] => some []
      | text => do
          let (token, rest) ← readToken text
          return token :: (← readTokens fuel rest)

def parse (text : String) : Option Json :=
  (readTokens (text.toList.length + 1) text.toList).bind ofTokens

/-! ## Characters -/

variable {style : Style} {rest : List Char}

theorem hexValue_digitChar : ∀ n < 16, hexValue (Nat.digitChar n) = some n := by decide

theorem readHex_hex4 {n : Nat} (small : n < 65536) : readHex (hex4 n ++ rest) = some (n, rest) := by
  have digit (m : Nat) : hexValue (Nat.digitChar (m % 16)) = some (m % 16) :=
    hexValue_digitChar _ (Nat.mod_lt m (by decide))
  have value : n / 4096 % 16 * 4096 + n / 256 % 16 * 256 + n / 16 % 16 * 16 + n % 16 = n := by
    omega
  simp [hex4, readHex, digit, value]

theorem charOfLetter_letterOf {char letter : Char} (short : letterOf char = some letter) :
    charOfLetter letter = some char ∧ letter ≠ 'u' := by
  unfold letterOf at short
  split at short <;> cases short <;> exact ⟨rfl, by decide⟩

theorem toNat_bounds (char : Char) :
    char.toNat < 0xD800 ∨ (0xDFFF < char.toNat ∧ char.toNat < 0x110000) := by
  have valid := char.valid
  rcases valid with low | ⟨high, top⟩
  · exact .inl low
  · exact .inr ⟨high, top⟩

theorem readChar_units {char : Char} :
    readChar ((if char.toNat < 0x10000 then escapeUnit char.toNat
      else escapeUnit (0xD800 + (char.toNat - 0x10000) / 0x400) ++
        escapeUnit (0xDC00 + (char.toNat - 0x10000) % 0x400)) ++ rest) = some (char, rest) := by
  have bounds := toNat_bounds char
  split
  · rename_i plane
    have unit : char.toNat < 0xD800 ∨ 0xDFFF < char.toNat := by omega
    simp [escapeUnit, readChar, readUnits, readHex_hex4 plane, unit]
  · rename_i plane
    obtain ⟨high, highEq⟩ : ∃ n, n = (char.toNat - 0x10000) / 0x400 := ⟨_, rfl⟩
    obtain ⟨low, lowEq⟩ : ∃ n, n = (char.toNat - 0x10000) % 0x400 := ⟨_, rfl⟩
    rw [← highEq, ← lowEq]
    have whole : 0x10000 + high * 0x400 + low = char.toNat := by omega
    have first {rest : List Char} :
        readHex (hex4 (0xD800 + high) ++ rest) = some (0xD800 + high, rest) :=
      readHex_hex4 (by omega)
    have second : readHex (hex4 (0xDC00 + low) ++ rest) = some (0xDC00 + low, rest) :=
      readHex_hex4 (by omega)
    have surrogate : ¬ (0xD800 + high < 0xD800 ∨ 0xDFFF < 0xD800 + high) := by omega
    have leads : 0xD800 + high < 0xDC00 := by omega
    have trails : 0xDC00 ≤ 0xDC00 + low ∧ 0xDC00 + low ≤ 0xDFFF := by omega
    change readUnits (hex4 (0xD800 + high) ++ escapeUnit (0xDC00 + low) ++ rest) = _
    rw [List.append_assoc, readUnits, first]
    simp only [Option.bind_eq_bind, Option.bind_some, if_neg surrogate, if_pos leads, escapeUnit,
      List.cons_append, second, if_pos trails, Nat.add_sub_cancel_left, whole, Char.ofNat_toNat]
    rfl

theorem readChar_plain {char : Char} (other : char ≠ '\\') (visible : ¬ char.toNat < 0x20) :
    readChar (char :: rest) = some (char, rest) := by
  unfold readChar
  split <;> simp_all

theorem readChar_escape (char : Char) :
    readChar (escape style char ++ rest) = some (char, rest) := by
  unfold escape
  cases short : letterOf char with
  | some letter =>
      obtain ⟨read, other⟩ := charOfLetter_letterOf short
      change readChar ('\\' :: letter :: rest) = _
      rw [readChar, read]
      · rfl
      · exact other
  | none =>
      dsimp only
      split
      · exact readChar_units
      · rename_i shown
        have other : char ≠ '\\' := by
          rintro rfl
          cases short
        exact readChar_plain other fun small => shown (.inl small)

/-! ## Strings and numbers -/

theorem escape_ne_quote (style : Style) (char : Char) :
    ∃ first more, escape style char = first :: more ∧ first ≠ '"' := by
  unfold escape
  cases short : letterOf char with
  | some letter => exact ⟨_, _, rfl, by decide⟩
  | none =>
      dsimp only
      split
      · split
        · exact ⟨_, _, rfl, by decide⟩
        · exact ⟨_, _, rfl, by decide⟩
      · refine ⟨char, [], rfl, ?_⟩
        rintro rfl
        cases short

theorem readText_escape (text : List Char) {fuel : Nat} (enough : text.length ≤ fuel) :
    readText fuel (text.flatMap (escape style) ++ '"' :: rest) = some (text, rest) := by
  induction text generalizing fuel with
  | nil => cases fuel <;> rfl
  | cons char text ih =>
      obtain ⟨fuel, rfl⟩ : ∃ more, fuel = more + 1 := ⟨fuel - 1, by simp at enough; omega⟩
      have read : readChar (escape style char ++ (text.flatMap (escape style) ++ '"' :: rest)) =
          some (char, text.flatMap (escape style) ++ '"' :: rest) := readChar_escape char
      obtain ⟨first, more, begins, other⟩ := escape_ne_quote style char
      rw [List.flatMap_cons, List.append_assoc]
      rw [begins] at read ⊢
      rw [List.cons_append] at read ⊢
      rw [readText]
      · rw [read]
        simp [ih (Nat.le_of_succ_le_succ enough)]
      · exact fun _ same => other (List.cons.inj same).1

theorem length_le_escaped (text : List Char) :
    text.length ≤ (text.flatMap (escape style)).length := by
  induction text with
  | nil => exact Nat.le_refl _
  | cons char text ih =>
      obtain ⟨first, more, begins, _⟩ := escape_ne_quote style char
      simp only [List.flatMap_cons, begins, List.length_cons, List.length_append]
      omega

theorem head_toDigits {n : Nat} (positive : 0 < n) : (Nat.toDigits 10 n).head? ≠ some '0' := by
  induction n using Nat.strongRecOn with
  | ind n ih =>
      by_cases small : n < 10
      · rw [Nat.toDigits_of_lt_base small]
        have digits : ∀ n < 10, 0 < n → Nat.digitChar n ≠ '0' := by decide
        simpa using digits n small positive
      · rw [Nat.toDigits_of_base_le (by decide) (not_lt.mp small), List.head?_append_of_ne_nil]
        · exact ih (n / 10) (by omega) (by omega)
        · exact Nat.toDigits_ne_nil

def EndsNumber (rest : List Char) : Prop :=
  ∀ char ∈ rest.head?, char.isDigit = false ∧ char ≠ '.' ∧ char ≠ 'e' ∧ char ≠ 'E'

theorem readNat_toDigits {n : Nat} (ends : EndsNumber rest) :
    readNat (Nat.toDigits 10 n ++ rest) = some (n, rest) := by
  have digits : ∀ char ∈ Nat.toDigits 10 n, char.isDigit = true := fun char member =>
    Nat.isDigit_of_mem_toDigits (by decide) (by decide) member
  have taken : rest.takeWhile Char.isDigit = [] ∧ rest.dropWhile Char.isDigit = rest := by
    cases rest with
    | nil => exact ⟨rfl, rfl⟩
    | cons char rest => simp [(ends char rfl).1]
  have proper : ¬ ((Nat.toDigits 10 n).head? = some '0' ∧ Nat.toDigits 10 n ≠ ['0']) := by
    rintro ⟨zero, other⟩
    rcases Nat.eq_zero_or_pos n with rfl | positive
    · exact other (Nat.toDigits_zero 10)
    · exact head_toDigits positive zero
  have whole : rest.head?.any (fun char => char = '.' || char = 'e' || char = 'E') = false := by
    cases rest with
    | nil => rfl
    | cons char rest => simp [(ends char rfl).2]
  rw [readNat, List.takeWhile_append_of_pos digits, List.dropWhile_append_of_pos digits, taken.1,
    taken.2, List.append_nil, if_neg, Nat.ofDigitChars_ten_toDigits]
  simp [Nat.toDigits_ne_nil, proper, whole]

/-! ## Tokens -/

/-- What a token leaves behind it. -/
def blanks (style : Style) : Token → List Char
  | .comma | .colon => style.gap
  | _ => []

theorem readToken_digits {char : Char} (digit : char.isDigit = true) :
    readToken (char :: rest) = (readNat (char :: rest)).map fun read => (.int read.1, read.2) := by
  unfold readToken
  split <;> first | rfl | (rename_i same; obtain ⟨rfl, _⟩ := List.cons.inj same; cases digit)

theorem readToken_int {value : Int} (ends : EndsNumber rest) :
    readToken (tokenText style (.int value) ++ rest) = some (.int value, rest) := by
  have read := readNat_toDigits (n := value.natAbs) ends
  by_cases negative : value < 0
  · have same : -(value.natAbs : Int) = value := by omega
    simp only [tokenText, if_pos negative, List.cons_append, List.nil_append]
    change (readNat _).map _ = _
    rw [read, Option.map_some, same]
  · have same : (value.natAbs : Int) = value := by omega
    simp only [tokenText, if_neg negative, List.nil_append]
    cases digits : Nat.toDigits 10 value.natAbs with
    | nil => exact (Nat.toDigits_ne_nil digits).elim
    | cons char more =>
        have digit : char.isDigit = true :=
          Nat.isDigit_of_mem_toDigits (by decide) (by decide) (digits ▸ List.mem_cons_self)
        rw [digits] at read
        rw [List.cons_append] at read ⊢
        rw [readToken_digits digit, read, Option.map_some, same]

theorem readToken_str {text : List Char} :
    readToken (tokenText style (.str text) ++ rest) = some (.str text, rest) := by
  have read : readText (text.flatMap (escape style) ++ '"' :: rest).length
      (text.flatMap (escape style) ++ '"' :: rest) = some (text, rest) := by
    refine readText_escape text ?_
    rw [List.length_append]
    exact Nat.le_add_right_of_le (length_le_escaped text)
  simp only [tokenText, List.cons_append, List.append_assoc, List.nil_append]
  change (readText _ _).map _ = _
  rw [read, Option.map_some]

theorem readToken_tokenText (token : Token)
    (ends : ∀ value, token = .int value → EndsNumber rest) :
    readToken (tokenText style token ++ rest) = some (token, blanks style token ++ rest) := by
  cases token with
  | int value => exact readToken_int (ends value rfl)
  | str text => exact readToken_str
  | bool value => cases value <;> rfl
  | _ => rfl

/-! ## Texts -/

def isInt : Token → Bool
  | .int _ => true
  | _ => false

/-- No number follows another one directly. -/
def Apart (tokens : List Token) : Prop :=
  tokens.IsChain fun first second => ¬ (isInt first ∧ isInt second)

theorem apart_joined {first last : List Token} {token : Token} (plain : isInt token = false)
    (left : Apart first) (right : Apart last) : Apart (first ++ token :: last) := by
  refine List.isChain_append.mpr ⟨left, List.isChain_cons.mpr ⟨?_, right⟩, ?_⟩
  · simp [plain]
  · rintro before _ after ⟨⟩
    simp [plain]

theorem apart_cons {tokens : List Token} {token : Token} (plain : isInt token = false)
    (apart : Apart tokens) : Apart (token :: tokens) :=
  apart_joined plain List.isChain_nil apart

mutual

theorem apart_tokens : ∀ value : Json, Apart value.tokens
  | .null | .bool _ | .int _ | .str _ => List.isChain_singleton _
  | .arr [] => by simp [tokens, Apart, isInt]
  | .arr (item :: items) => by
      have inside := apart_moreItems items item.tokens (apart_tokens item)
      have closed : Apart (.openArr :: (item.tokens ++ moreItems items) ++ [.closeArr]) :=
        apart_joined rfl (apart_cons rfl inside) List.isChain_nil
      simpa [tokens] using closed
  | .obj [] => by simp [tokens, Apart, isInt]
  | .obj ((key, value) :: fields) => by
      have inside := apart_moreFields fields value.tokens (apart_tokens value)
      have named : Apart (.str key.toList :: .colon :: (value.tokens ++ moreFields fields)) :=
        apart_cons rfl (apart_cons rfl inside)
      have closed : Apart (.openObj :: (.str key.toList :: .colon ::
          (value.tokens ++ moreFields fields)) ++ [.closeObj]) :=
        apart_joined rfl (apart_cons rfl named) List.isChain_nil
      simpa [tokens] using closed

theorem apart_moreItems : ∀ (items : List Json) (first : List Token), Apart first →
    Apart (first ++ moreItems items)
  | [], first, apart => by simpa [moreItems] using apart
  | item :: items, first, apart => by
      have rest := apart_moreItems items item.tokens (apart_tokens item)
      exact apart_joined rfl apart rest

theorem apart_moreFields : ∀ (fields : List (String × Json)) (first : List Token), Apart first →
    Apart (first ++ moreFields fields)
  | [], first, apart => by simpa [moreFields] using apart
  | (key, value) :: fields, first, apart => by
      have rest := apart_moreFields fields value.tokens (apart_tokens value)
      exact apart_joined rfl apart (apart_cons rfl (apart_cons rfl rest))

end

theorem endsNumber_tokens {tokens : List Token} {value : Int}
    (apart : Apart (.int value :: tokens)) : EndsNumber (tokens.flatMap (tokenText style)) := by
  cases tokens with
  | nil => rintro _ ⟨⟩
  | cons token tokens =>
      have other := (List.isChain_cons_cons.mp apart).1
      cases token with
      | int => exact (other ⟨rfl, rfl⟩).elim
      | bool value => cases value <;> simp [EndsNumber, tokenText]
      | _ => simp [EndsNumber, tokenText]

theorem tokenText_begins (style : Style) (token : Token) :
    ∃ first more, tokenText style token = first :: more ∧ isBlank first = false := by
  cases token with
  | int value =>
      by_cases negative : value < 0
      · exact ⟨'-', Nat.toDigits 10 value.natAbs, by simp [tokenText, negative], rfl⟩
      · cases digits : Nat.toDigits 10 value.natAbs with
        | nil => exact (Nat.toDigits_ne_nil digits).elim
        | cons char more =>
            refine ⟨char, more, by simp [tokenText, negative, digits], ?_⟩
            have digit : char.isDigit = true :=
              Nat.isDigit_of_mem_toDigits (by decide) (by decide) (digits ▸ List.mem_cons_self)
            by_contra blank
            simp only [isBlank, Bool.not_eq_false, Bool.or_eq_true, decide_eq_true_eq] at blank
            rcases blank with ((rfl | rfl) | rfl) | rfl <;> cases digit
  | bool value => cases value <;> exact ⟨_, _, rfl, by decide⟩
  | _ => exact ⟨_, _, rfl, by decide⟩

theorem isBlank_blanks (style : Style) (token : Token) :
    ∀ char ∈ blanks style token, isBlank char = true := by
  intro char member
  have gap : ∀ char ∈ style.gap, isBlank char = true := by
    unfold Style.gap
    split <;> simp [isBlank]
  cases token with
  | comma | colon => exact gap char member
  | _ => cases member

theorem readTokens_text {tokens : List Token} (apart : Apart tokens) {fuel : Nat}
    (enough : tokens.length < fuel) {gap : List Char} (blank : ∀ char ∈ gap, isBlank char = true) :
    readTokens fuel (gap ++ tokens.flatMap (tokenText style)) = some tokens := by
  induction tokens generalizing fuel gap with
  | nil =>
      obtain ⟨fuel, rfl⟩ : ∃ more, fuel = more + 1 := ⟨fuel - 1, by simp at enough; omega⟩
      have skipped : (gap ++ []).dropWhile isBlank = [] := List.dropWhile_append_of_pos blank
      rw [List.flatMap_nil, readTokens, skipped]
  | cons token tokens ih =>
      obtain ⟨fuel, rfl⟩ : ∃ more, fuel = more + 1 := ⟨fuel - 1, by simp at enough; omega⟩
      obtain ⟨first, more, begins, visible⟩ := tokenText_begins style token
      have read : readToken (tokenText style token ++ tokens.flatMap (tokenText style)) =
          some (token, blanks style token ++ tokens.flatMap (tokenText style)) :=
        readToken_tokenText token fun value same => by
          subst same
          exact endsNumber_tokens apart
      have rest := ih (List.isChain_cons.mp apart).2 (Nat.lt_of_succ_lt_succ enough)
        (isBlank_blanks style token)
      rw [List.flatMap_cons, readTokens, List.dropWhile_append_of_pos blank]
      rw [begins] at read ⊢
      rw [List.cons_append] at read ⊢
      rw [List.dropWhile_cons_of_neg (by simp [visible])]
      simp [read, rest]

theorem length_le_chars (tokens : List Token) :
    tokens.length ≤ (tokens.flatMap (tokenText style)).length := by
  induction tokens with
  | nil => exact Nat.le_refl _
  | cons token tokens ih =>
      obtain ⟨first, more, begins, _⟩ := tokenText_begins style token
      simp only [List.flatMap_cons, begins, List.length_cons, List.length_append]
      omega

/-- What is printed in any style is read back. -/
theorem parse_text (value : Json) : parse (value.text style) = some value := by
  have read : readTokens ((value.chars style).length + 1) ([] ++ value.chars style) =
      some value.tokens :=
    readTokens_text (apart_tokens value) (Nat.lt_succ_of_le (length_le_chars _)) (by simp)
  rw [parse, text, String.toList_ofList]
  rw [List.nil_append] at read
  rw [read]
  exact ofTokens_tokens value

theorem text_injective {value other : Json} (same : value.text style = other.text style) :
    value = other := by
  have read : parse (value.text style) = some value := parse_text value
  rw [same, parse_text] at read
  exact (Option.some.inj read).symm

end QueueFlow.Wire.Json
