import QueueFlow.App.Api
import QueueFlow.App.RequestHash
import QueueFlow.Conduct.Allowed

/-!
# Request hashes

The text under a request hash tells the body, so that a key with another body is noticed unless
SHA-256 collides.
-/

namespace QueueFlow.Reading
open QueueFlow.App QueueFlow.Data QueueFlow.Wire

/-! ## The text of a UUID -/

theorem digitChar_injective : ∀ a < 16, ∀ b < 16, Nat.digitChar a = Nat.digitChar b → a = b := by
  decide

theorem digitChar_ne_hyphen : ∀ a < 16, Nat.digitChar a ≠ '-' := by decide

theorem hexDigits_injective {count n m : Nat} (same : hexDigits count n = hexDigits count m) :
    n % 16 ^ count = m % 16 ^ count := by
  induction count with
  | zero => simp [Nat.mod_one]
  | succ count ih =>
      obtain ⟨first, rest⟩ := List.cons.inj same
      have digit : n / 16 ^ count % 16 = m / 16 ^ count % 16 :=
        digitChar_injective _ (Nat.mod_lt _ (by decide)) _ (Nat.mod_lt _ (by decide)) first
      rw [Nat.mod_pow_succ, Nat.mod_pow_succ, ih rest, digit]

theorem hexDigits_plain {count n : Nat} : ∀ char ∈ hexDigits count n, char ≠ '-' := by
  induction count with
  | zero => simp [hexDigits]
  | succ count ih =>
      have other := digitChar_ne_hyphen (n / 16 ^ count % 16) (Nat.mod_lt _ (by decide))
      simpa [hexDigits, other] using ih

theorem filter_uuidString (id : UUID) :
    (uuidString id).toList.filter (· ≠ '-') = hexDigits 32 id := by
  have plain : ∀ char ∈ hexDigits 32 id, char ≠ '-' := hexDigits_plain
  have kept {group : List Char} (inside : group ⊆ hexDigits 32 id) :
      group.filter (· ≠ '-') = group :=
    List.filter_eq_self.mpr fun char member => decide_eq_true (plain char (inside member))
  have joined (digits : List Char) : digits.take 8 ++ ((digits.drop 8).take 4 ++
      ((digits.drop 12).take 4 ++ ((digits.drop 16).take 4 ++ digits.drop 20))) = digits := by
    have split (m n : Nat) :
        (digits.drop m).take n ++ digits.drop (m + n) = digits.drop m := by
      rw [← List.drop_drop, List.take_append_drop]
    rw [split 16 4, split 12 4, split 8 4, List.take_append_drop]
  rw [uuidString, String.toList_ofList]
  generalize hexDigits 32 id = digits at kept
  have group (m n : Nat) : ((digits.drop m).take n).filter (· ≠ '-') = (digits.drop m).take n :=
    kept fun char member => List.mem_of_mem_drop (List.mem_of_mem_take member)
  have first := group 0 8
  have last : (digits.drop 20).filter (· ≠ '-') = digits.drop 20 :=
    kept fun char member => List.mem_of_mem_drop member
  simp only [List.drop_zero] at first
  simp only [List.intercalate, List.intersperse, List.flatten_cons, List.flatten_nil,
    List.filter_append, first, group, last]
  simpa using joined digits

theorem uuidString_injective {id other : UUID} (small : id < 2 ^ 128) (small' : other < 2 ^ 128)
    (same : uuidString id = uuidString other) : id = other := by
  have digits : hexDigits 32 id = hexDigits 32 other := by
    rw [← filter_uuidString, same, filter_uuidString]
  have values := hexDigits_injective digits
  rwa [Nat.mod_eq_of_lt (by simpa using small), Nat.mod_eq_of_lt (by simpa using small')] at values

/-! ## The text of a dictionary -/

def bodyText (body : PyDict) : String := hashBody dumps body

def field (entry : String × PyValue) : String × Json := (entry.1, jsonOf entry.2)

theorem eq_of_perm_of_keys {κ α : Type} {a b : List (κ × α)} (unique : (a.map Prod.fst).Nodup)
    (keys : a.map Prod.fst = b.map Prod.fst) (perm : a.Perm b) : a = b := by
  induction a generalizing b with
  | nil => exact (List.map_eq_nil_iff.mp keys.symm).symm
  | cons entry a ih =>
      cases b with
      | nil => cases keys
      | cons other b =>
          obtain ⟨key, more⟩ := List.cons.inj keys
          obtain ⟨absent, distinct⟩ := List.nodup_cons.mp unique
          obtain rfl | later := List.mem_cons.mp (perm.subset List.mem_cons_self)
          · rw [ih distinct more perm.cons_inv]
          · exact (absent (more ▸ List.mem_map_of_mem later)).elim

theorem sorted_perm_unique {a b : PyDict} (unique : (a.map Prod.fst).Nodup)
    (perm : (a.map field).Perm (b.map field)) :
    (a.insertionSort fun x y => x.1 ≤ y.1).map field =
      (b.insertionSort fun x y => x.1 ≤ y.1).map field := by
  have sorted (dict : PyDict) : ((dict.insertionSort fun x y => x.1 ≤ y.1).map field).Pairwise
      fun x y => x.1 ≤ y.1 :=
    List.pairwise_map.mpr (List.pairwise_insertionSort _ dict)
  have same : ((a.insertionSort fun x y => x.1 ≤ y.1).map field).Perm
      ((b.insertionSort fun x y => x.1 ≤ y.1).map field) :=
    ((List.perm_insertionSort _ a).map field).trans
      (perm.trans ((List.perm_insertionSort _ b).map field).symm)
  refine List.Perm.eq_of_pairwise (fun x y member member' before after => ?_) (sorted a) (sorted b)
    same
  have keys : ((a.map field).map Prod.fst).Nodup := by
    rw [List.map_map]
    exact unique
  refine List.inj_on_of_nodup_map keys ?_ ?_ (String.le_antisymm before after)
  · exact ((List.perm_insertionSort _ a).map field).mem_iff.mp member
  · exact ((perm.trans ((List.perm_insertionSort _ b).map field).symm).mem_iff).mpr member'

/-- The text is that of the dictionary, whatever the order of its keys. -/
theorem bodyText_eq_iff {a b : PyDict} (unique : (a.map Prod.fst).Nodup) :
    bodyText a = bodyText b ↔ (a.map field).Perm (b.map field) := by
  constructor
  · intro same
    have fields := Json.obj.inj (Json.text_injective same)
    have left := (List.perm_insertionSort (fun x y => x.1 ≤ y.1) a).map field
    have right := (List.perm_insertionSort (fun x y => x.1 ≤ y.1) b).map field
    exact left.symm.trans ((List.Perm.of_eq fields).trans right)
  · intro perm
    have same := sorted_perm_unique unique perm
    exact congrArg (fun fields => Json.text pythonStyle (.obj fields)) same

/-! ## Bodies of requests -/

/-- Identifiers are 128 bits wide, and the notes are the only text that is none. -/
def Typed (entry : String × PyValue) : Prop :=
  match entry.2 with
  | .str _ => entry.1 = "notes"
  | .uuidText id => entry.1 ≠ "notes" ∧ id < 2 ^ 128
  | .uuid _ => False
  | .none | .int _ | .bool _ => True

theorem field_injective {entry other : String × PyValue} (typed : Typed entry)
    (typed' : Typed other) (same : field entry = field other) : entry = other := by
  obtain ⟨key, value⟩ := entry
  obtain ⟨_, value'⟩ := other
  obtain ⟨rfl, values⟩ := Prod.mk.inj same
  cases value <;> cases value' <;> simp only [jsonOf, reduceCtorEq] at values
  case none.none => rfl
  case int.int => rw [Json.int.inj values]
  case bool.bool => rw [Json.bool.inj values]
  case str.str => rw [Json.str.inj values]
  case uuidText.uuidText =>
    rw [uuidString_injective typed.2 typed'.2 (Json.str.inj values)]
  case str.uuidText => exact (typed'.1 typed).elim
  case uuidText.str => exact (typed.1 typed').elim
  all_goals first | exact typed.elim | exact typed'.elim

theorem bodyText_typed_iff {a b : PyDict} (unique : (a.map Prod.fst).Nodup)
    (unique' : (b.map Prod.fst).Nodup) (typed : ∀ entry ∈ a, Typed entry)
    (typed' : ∀ entry ∈ b, Typed entry) : bodyText a = bodyText b ↔ a.Perm b := by
  rw [bodyText_eq_iff unique]
  refine ⟨fun perm => ?_, fun perm => perm.map field⟩
  refine (List.perm_ext_iff_of_nodup unique.of_map unique'.of_map).mpr fun entry => ⟨?_, ?_⟩
  · intro member
    obtain ⟨other, there, same⟩ :=
      List.mem_map.mp (perm.mem_iff.mp (List.mem_map_of_mem (f := field) member))
    rwa [← field_injective (typed' other there) (typed entry member) same]
  · intro member
    obtain ⟨other, there, same⟩ :=
      List.mem_map.mp (perm.mem_iff.mpr (List.mem_map_of_mem (f := field) member))
    rwa [← field_injective (typed other there) (typed' entry member) same]

def Fits (request : Request) : Prop :=
  ∀ entry ∈ request.body, ∀ id, entry.2 = .uuidText id → id < 2 ^ 128

def bodyKeys : Request → List String
  | .createTicket _ _ _ => ["location_id", "service_id", "channel_id", "priority", "notes"]
  | .kioskCreateTicket _ _ => ["location_id", "service_id"]
  | .callNext _ _ _ _ => ["service_id"]
  | .startService _ _ _ | .completeTicket _ _ _ => ["ticket_id"]
  | _ => []

theorem keys_body (request : Request) : request.body.map Prod.fst = bodyKeys request := by
  cases request <;> rfl

theorem bodyKeys_eq (request other : Request) (perm : (bodyKeys request).Perm (bodyKeys other)) :
    bodyKeys request = bodyKeys other := by
  revert perm
  cases request <;> cases other <;> simp only [bodyKeys] <;> decide

theorem unique_body (request : Request) : (request.body.map Prod.fst).Nodup := by
  rw [keys_body]
  cases request <;> simp [bodyKeys]

theorem typed_uuidText {key : String} {id : UUID} (other : key ≠ "notes")
    (small : ∀ n, PyValue.uuidText id = .uuidText n → n < 2 ^ 128) : Typed (key, .uuidText id) :=
  ⟨other, small id rfl⟩

theorem typed_optionalText {key : String} {id : Option UUID} (other : key ≠ "notes")
    (small : ∀ n, optionalText id = .uuidText n → n < 2 ^ 128) :
    Typed (key, optionalText id) := by
  cases id with
  | none => trivial
  | some id => exact ⟨other, small id rfl⟩

theorem typed_notes (notes : Option String) :
    Typed ("notes", match notes with | some notes => .str notes | none => .none) := by
  cases notes with
  | none => trivial
  | some notes => exact rfl

theorem typed_body {request : Request} (fits : Fits request) :
    ∀ entry ∈ request.body, Typed entry := by
  unfold Fits at fits
  cases request with
  | createTicket data =>
      simp only [Request.body, TicketCreate.body, List.forall_mem_cons] at fits ⊢
      obtain ⟨location, service, channel, _⟩ := fits
      exact ⟨typed_uuidText (by decide) location, typed_optionalText (by decide) service,
        typed_optionalText (by decide) channel, trivial, typed_notes data.notes, by simp⟩
  | kioskCreateTicket body =>
      simp only [Request.body, KioskTicketCreate.body, List.forall_mem_cons] at fits ⊢
      exact ⟨typed_uuidText (by decide) fits.1, typed_optionalText (by decide) fits.2.1, by simp⟩
  | callNext _ body =>
      simp only [Request.body, CallNextBody.body, List.forall_mem_cons] at fits ⊢
      exact ⟨typed_optionalText (by decide) fits.1, by simp⟩
  | startService ticketId | completeTicket ticketId =>
      simp only [Request.body, ticketBody, List.forall_mem_cons] at fits ⊢
      exact ⟨typed_uuidText (by decide) fits.1, by simp⟩
  | _ =>
      intro entry member
      cases member

/-- Two requests hash one text only if they hash one dictionary. -/
theorem bodyText_request_iff {request other : Request} (fits : Fits request)
    (fits' : Fits other) :
    bodyText request.body = bodyText other.body ↔ request.body = other.body := by
  refine ⟨fun same => ?_, fun same => by rw [same]⟩
  have perm : request.body.Perm other.body :=
    (bodyText_typed_iff (unique_body request) (unique_body other) (typed_body fits)
      (typed_body fits')).mp same
  refine eq_of_perm_of_keys (unique_body request) ?_ perm
  have keys := perm.map Prod.fst
  rw [keys_body, keys_body] at keys ⊢
  exact bodyKeys_eq request other keys

example : bodyText (ticketBody 26) =
    "\x7b\"ticket_id\": \"00000000-0000-0000-0000-00000000001a\"\x7d" := by decide +kernel

end QueueFlow.Reading
