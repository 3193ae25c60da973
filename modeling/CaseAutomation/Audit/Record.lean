import Mathlib.Data.List.Sort
import CaseAutomation.Base.JsonCodec
import CaseAutomation.Security.Hmac

/-! # Audit Records and Their Hashes

    The rows of `audit_log` (`persistence/models.py`) and the hash that `core/audit/service.py`
    stores in them: SHA-256 of the previous hash followed by the canonical JSON of the record.

    The result of this file is that the hashed text determines the record: the previous
    hash ends where the JSON begins, and the JSON text can be read back
    (`material_injective`). Dictionaries are compared as Python compares them, without
    regard to the order of their keys.
-/

namespace CaseAutomation.Audit

open JsonCodec Security

/-! ## Timestamps -/

/-- Days of a month. -/
def days_in_month (year month : Nat) : Nat :=
  if month = 2 then
    if year % 4 = 0 ∧ (year % 100 ≠ 0 ∨ year % 400 = 0) then 29 else 28
  else if month ∈ [4, 6, 9, 11] then 30 else 31

/-- A `datetime` with `tzinfo=UTC`. -/
structure Timestamp where
  year : Nat
  month : Nat
  day : Nat
  hour : Nat
  minute : Nat
  second : Nat
  microsecond : Nat
  year_ok : 1 ≤ year ∧ year ≤ 9999
  month_ok : 1 ≤ month ∧ month ≤ 12
  day_ok : 1 ≤ day ∧ day ≤ days_in_month year month
  hour_ok : hour < 24
  minute_ok : minute < 60
  second_ok : second < 60
  microsecond_ok : microsecond < 1000000

/-- The last `k` decimal digits of `n`. -/
def digits : Nat → Nat → List Char
  | 0, _ => []
  | k + 1, n => digits k (n / 10) ++ [Nat.digitChar (n % 10)]

/-- `timestamp.isoformat()`: microseconds are left out when they are zero. -/
def Timestamp.isoformat (t : Timestamp) : String :=
  String.ofList (digits 4 t.year ++ '-' :: (digits 2 t.month ++ '-' :: (digits 2 t.day ++
    'T' :: (digits 2 t.hour ++ ':' :: (digits 2 t.minute ++ ':' :: (digits 2 t.second ++
      ((if t.microsecond = 0 then [] else '.' :: digits 6 t.microsecond) ++
        ['+', '0', '0', ':', '0', '0'])))))))

theorem digits_length (k n : Nat) : (digits k n).length = k := by
  induction k generalizing n with
  | zero => rfl
  | succ k ih => simp [digits, ih]

theorem digitChar_injective : ∀ a < 10, ∀ b < 10, Nat.digitChar a = Nat.digitChar b → a = b := by
  decide

/-- Digits of fixed width determine the number. -/
theorem digits_injective {k n m : Nat} (hn : n < 10 ^ k) (hm : m < 10 ^ k)
    (h : digits k n = digits k m) : n = m := by
  induction k generalizing n m with
  | zero =>
    rw [Nat.pow_zero] at hn hm
    omega
  | succ k ih =>
    rw [digits, digits] at h
    obtain ⟨htens, hunit⟩ := List.append_inj' h rfl
    rw [Nat.pow_succ] at hn hm
    have hdiv : n / 10 = m / 10 := ih (by omega) (by omega) htens
    have hmod := digitChar_injective (n % 10) (by omega) (m % 10) (by omega) (List.cons.inj hunit).1
    omega

/-- One field of fixed width and the separator after it. -/
theorem field_injective {k n m : Nat} {c : Char} {rest rest' : List Char} (hn : n < 10 ^ k)
    (hm : m < 10 ^ k) (h : digits k n ++ c :: rest = digits k m ++ c :: rest') :
    n = m ∧ rest = rest' := by
  obtain ⟨hdigits, hrest⟩ := List.append_inj h (by rw [digits_length, digits_length])
  exact ⟨digits_injective hn hm hdigits, (List.cons.inj hrest).2⟩

/-- The text of a timestamp determines it. -/
theorem isoformat_injective {t t' : Timestamp} (h : t.isoformat = t'.isoformat) : t = t' := by
  have hdays : ∀ year month, days_in_month year month ≤ 31 := by
    intro year month
    unfold days_in_month
    split_ifs <;> omega
  have hday := hdays t.year t.month
  have hday' := hdays t'.year t'.month
  obtain ⟨year, month, day, hour, minute, second, microsecond, hy, hmo, hd, hh, hmi, hs, hus⟩ := t
  obtain ⟨year', month', day', hour', minute', second', microsecond', hy', hmo', hd', hh', hmi',
    hs', hus'⟩ := t'
  simp only at hday hday'
  have htext := String.ofList_injective h
  simp only at htext
  obtain ⟨hyear, hrest₁⟩ := field_injective (by omega) (by omega) htext
  obtain ⟨hmonth, hrest₂⟩ := field_injective (by omega) (by omega) hrest₁
  obtain ⟨hday₁, hrest₃⟩ := field_injective (by omega) (by omega) hrest₂
  obtain ⟨hhour, hrest₄⟩ := field_injective (by omega) (by omega) hrest₃
  obtain ⟨hminute, hrest₅⟩ := field_injective (by omega) (by omega) hrest₄
  obtain ⟨hdigits, hrest₆⟩ := List.append_inj hrest₅ (by rw [digits_length, digits_length])
  have hsecond := digits_injective (by omega) (by omega) hdigits
  -- the fraction is there in both texts or in neither
  have hmicro : microsecond = microsecond' := by
    have hlen := congrArg List.length hrest₆
    by_cases h0 : microsecond = 0
    · by_cases h0' : microsecond' = 0
      · rw [h0, h0']
      · rw [if_pos h0, if_neg h0'] at hlen
        simp [digits_length] at hlen
    · by_cases h0' : microsecond' = 0
      · rw [if_neg h0, if_pos h0'] at hlen
        simp [digits_length] at hlen
      · rw [if_neg h0, if_neg h0'] at hrest₆
        obtain ⟨hfraction, -⟩ := List.append_inj' hrest₆ rfl
        exact digits_injective (by omega) (by omega) (List.cons.inj hfraction).2
  subst hyear hmonth hday₁ hhour hminute hsecond hmicro
  rfl

/-! ## Canonical JSON -/

/-- Whether a key comes first in the order of `sort_keys`. -/
def key_le (f g : String × Json) : Prop := f.1 ≤ g.1

instance : DecidableRel key_le := fun f g => inferInstanceAs (Decidable (f.1 ≤ g.1))

mutual
/-- The value as `json.dumps(..., sort_keys=True)` goes through it. -/
def sort_keys : Json → Json
  | .null => .null
  | .bool b => .bool b
  | .int n => .int n
  | .float x => .float x
  | .str s => .str s
  | .arr xs => .arr (sort_items xs)
  | .obj fs => .obj ((sort_fields fs).insertionSort key_le)
def sort_items : List Json → List Json
  | [] => []
  | x :: xs => sort_keys x :: sort_items xs
def sort_fields : List (String × Json) → List (String × Json)
  | [] => []
  | (k, v) :: fs => (k, sort_keys v) :: sort_fields fs
end

/-- Equality of two values, without regard to the order of keys. -/
def Same (j j' : Json) : Prop := sort_keys j = sort_keys j'

/-- `_canonical`. -/
def canonical (record : JsonObj) : String := String.ofList (text [] (sort_keys (.obj record)))

theorem canonical_injective {o o' : JsonObj} (h : canonical o = canonical o') :
    Same (.obj o) (.obj o') := text_injective [] (String.ofList_injective h)

/-! ## Rows -/

/-- A row of `audit_log`. -/
structure AuditRow where
  id : Int
  actor : String
  action : String
  inputs : JsonObj
  outputs : JsonObj
  approval : Option JsonObj
  timestamp : Timestamp
  run_id : Option String
  prev_hash : String
  record_hash : String

/-- An optional dictionary in the record body. -/
def optional_obj : Option JsonObj → Json
  | none => .null
  | some o => .obj o

/-- An optional string in the record body. -/
def optional_str : Option String → Json
  | none => .null
  | some s => .str s

/-- `_CANONICAL_VERSION`. -/
def canonical_version : String := "v1"

/-- The dictionary `record_body` that both `record` and `verify` hash. -/
def AuditRow.record_body (row : AuditRow) : JsonObj :=
  [("canonical_version", .str canonical_version), ("actor", .str row.actor),
    ("action", .str row.action), ("inputs", .obj row.inputs), ("outputs", .obj row.outputs),
    ("approval", optional_obj row.approval), ("timestamp", .str row.timestamp.isoformat),
    ("run_id", optional_str row.run_id), ("prev_hash", .str row.prev_hash)]

/-- The text that is hashed. -/
def AuditRow.material (row : AuditRow) : String := row.prev_hash ++ canonical row.record_body

/-- `hashlib.sha256(material.encode()).hexdigest()`. -/
def sha256_hex (material : String) : String := hexdigest (sha256 (encode_utf8 material))

/-- `_compute_hash(row.prev_hash, record_body)`. -/
def AuditRow.expected_hash (row : AuditRow) : String := sha256_hex row.material

/-- The hashed fields agree. -/
structure Agrees (row row' : AuditRow) : Prop where
  actor : row.actor = row'.actor
  action : row.action = row'.action
  inputs : Same (.obj row.inputs) (.obj row'.inputs)
  outputs : Same (.obj row.outputs) (.obj row'.outputs)
  approval : Same (optional_obj row.approval) (optional_obj row'.approval)
  timestamp : row.timestamp = row'.timestamp
  run_id : row.run_id = row'.run_id
  prev_hash : row.prev_hash = row'.prev_hash

theorem optional_str_injective {s s' : Option String} (h : optional_str s = optional_str s') :
    s = s' := by
  cases s with
  | none =>
    cases s' with
    | none => rfl
    | some s' => cases h
  | some s =>
    cases s' with
    | none => cases h
    | some s' =>
      cases h
      rfl

theorem sort_keys_optional_str (s : Option String) : sort_keys (optional_str s) = optional_str s := by
  cases s <;> rfl

/-- The body with its keys in order. -/
theorem sorted_body (row : AuditRow) : sort_keys (.obj row.record_body) =
    .obj [("action", .str row.action), ("actor", .str row.actor),
      ("approval", sort_keys (optional_obj row.approval)),
      ("canonical_version", .str canonical_version), ("inputs", sort_keys (.obj row.inputs)),
      ("outputs", sort_keys (.obj row.outputs)), ("prev_hash", .str row.prev_hash),
      ("run_id", optional_str row.run_id), ("timestamp", .str row.timestamp.isoformat)] := by
  rw [← sort_keys_optional_str row.run_id]
  simp [AuditRow.record_body, sort_keys, sort_fields, List.insertionSort_cons, List.orderedInsert,
    key_le]

theorem agrees_of_canonical {row row' : AuditRow}
    (h : canonical row.record_body = canonical row'.record_body) : Agrees row row' := by
  have hsame := canonical_injective h
  unfold Same at hsame
  rw [sorted_body, sorted_body] at hsame
  simp only [Json.obj.injEq, List.cons.injEq, Prod.mk.injEq, Json.str.injEq, true_and, and_true]
    at hsame
  obtain ⟨haction, hactor, happroval, hinputs, houtputs, hprev, hrun, htime⟩ := hsame
  exact ⟨hactor, haction, hinputs, houtputs, happroval, isoformat_injective htime,
    optional_str_injective hrun, hprev⟩

/-- Records that agree are hashed alike. -/
theorem Agrees.material_eq {row row' : AuditRow} (h : Agrees row row') :
    row.material = row'.material := by
  have hsorted : sort_keys (.obj row.record_body) = sort_keys (.obj row'.record_body) := by
    rw [sorted_body, sorted_body, h.actor, h.action, h.inputs, h.outputs, h.approval, h.timestamp,
      h.run_id, h.prev_hash]
  unfold AuditRow.material canonical
  rw [hsorted, h.prev_hash]

/-- **The hashed text determines the record**, for previous hashes of one length. -/
theorem material_injective {row row' : AuditRow}
    (hlen : row.prev_hash.length = row'.prev_hash.length) (h : row.material = row'.material) :
    Agrees row row' := by
  have htext := congrArg String.toList h
  unfold AuditRow.material at htext
  rw [String.toList_append, String.toList_append] at htext
  obtain ⟨-, hcanonical⟩ := List.append_inj htext (by rw [String.length_toList, String.length_toList]; exact hlen)
  exact agrees_of_canonical (String.toList_injective hcanonical)

/-- Every hash has 64 digits. -/
theorem sha256_hex_length (material : String) : (sha256_hex material).length = 64 := by
  unfold sha256_hex hexdigest sha256
  simp [word_bytes]

end CaseAutomation.Audit
