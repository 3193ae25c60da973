import Mathlib.Data.Rat.Defs
import Mathlib.Algebra.Order.Field.Rat
import CaseAutomation.Base.Errors
import CaseAutomation.Base.JsonCodec
import CaseAutomation.Base.Text

/-! # Values a Handler Can Return

    A step handler returns a `dict[str, Any]`: JSON values and, besides them, instants (`datetime`). The
    production stores keep it as JSON text, and `json.dumps` refuses an instant.

    `survives_iff`: a dictionary comes back from the store as it was exactly when no
    instant occurs in it.
-/

namespace CaseAutomation

inductive PyValue where
  | null
  | bool (b : Bool)
  | int (n : Int)
  | float (x : PyFloat)
  | str (s : String)
  | list (xs : List PyValue)
  | dict (fields : List (String × PyValue))
  | datetime (t : Time)

/-- A `dict[str, Any]`, in insertion order. -/
abbrev PyDict : Type := List (String × PyValue)

/-! ## Floats -/

/-- The number that the `repr` of a float spells. `repr` is monotone, so floats compare as
    these numbers do. -/
def PyFloat.value (x : PyFloat) : ℚ :=
  let cs := x.repr.toList
  let negative := cs.head? == some '-'
  let (mantissa, exponent) := (if negative then cs.tail else cs).span (· != 'e')
  let (whole, fraction) := mantissa.span (· != '.')
  let digits := Nat.ofDigitChars 10 (whole ++ fraction.drop 1) 0
  let power := JsonCodec.int_of ((exponent.drop 1).filter (· != '+')) - (fraction.drop 1).length
  (if negative then -1 else 1) * digits * (10 : ℚ) ^ power

namespace PyValue

/-! ## Truth -/

/-- `bool(x)`. -/
def truthy : PyValue → Bool
  | .null => false
  | .bool b => b
  | .int n => decide (n ≠ 0)
  | .float x => decide (x.value ≠ 0)
  | .str s => decide (s ≠ "")
  | .list xs => !xs.isEmpty
  | .dict fields => !fields.isEmpty
  | .datetime _ => true

/-- `x or y`. -/
def or (x y : PyValue) : PyValue := if x.truthy then x else y

/-- `type(x).__name__`. -/
def type_name : PyValue → String
  | .null => "NoneType"
  | .bool _ => "bool"
  | .int _ => "int"
  | .float _ => "float"
  | .str _ => "str"
  | .list _ => "list"
  | .dict _ => "dict"
  | .datetime _ => "datetime"

/-- An optional string. -/
def optional : Option String → PyValue
  | none => .null
  | some s => .str s

/-! ## JSON -/

mutual
/-- The JSON value of a value without instants. -/
def json? : PyValue → Option Json
  | .null => some .null
  | .bool b => some (.bool b)
  | .int n => some (.int n)
  | .float x => some (.float x)
  | .str s => some (.str s)
  | .list xs => (items? xs).map .arr
  | .dict fields => (fields? fields).map .obj
  | .datetime _ => none
def items? : List PyValue → Option (List Json)
  | [] => some []
  | x :: xs => (json? x).bind fun j => (items? xs).map (j :: ·)
def fields? : List (String × PyValue) → Option JsonObj
  | [] => some []
  | (k, x) :: fs => (json? x).bind fun j => (fields? fs).map ((k, j) :: ·)
end

mutual
/-- What `json.loads` returns. -/
def of_json : Json → PyValue
  | .null => .null
  | .bool b => .bool b
  | .int n => .int n
  | .float x => .float x
  | .str s => .str s
  | .arr xs => .list (of_items xs)
  | .obj fs => .dict (of_fields fs)
def of_items : List Json → List PyValue
  | [] => []
  | x :: xs => of_json x :: of_items xs
def of_fields : JsonObj → PyDict
  | [] => []
  | (k, x) :: fs => (k, of_json x) :: of_fields fs
end

mutual
theorem json?_of_json (j : Json) : (of_json j).json? = some j := by
  cases j with
  | arr xs => rw [of_json, json?, items?_of_items]; rfl
  | obj fs => rw [of_json, json?, fields?_of_fields]; rfl
  | _ => rfl
theorem items?_of_items (xs : List Json) : items? (of_items xs) = some xs := by
  cases xs with
  | nil => rfl
  | cons x xs => rw [of_items, items?, json?_of_json x, items?_of_items xs]; rfl
theorem fields?_of_fields (fs : JsonObj) : fields? (of_fields fs) = some fs := by
  cases fs with
  | nil => rfl
  | cons f fs => rw [of_fields, fields?, json?_of_json f.2, fields?_of_fields fs]; rfl
end

mutual
theorem of_json_eq {x : PyValue} {j : Json} (h : x.json? = some j) : of_json j = x := by
  cases x with
  | list xs =>
    obtain ⟨js, hjs, rfl⟩ := Option.map_eq_some_iff.mp h
    rw [of_json, of_items_eq hjs]
  | dict fs =>
    obtain ⟨js, hjs, rfl⟩ := Option.map_eq_some_iff.mp h
    rw [of_json, of_fields_eq hjs]
  | datetime t => cases h
  | _ => cases h; rfl
theorem of_items_eq {xs : List PyValue} {js : List Json} (h : items? xs = some js) :
    of_items js = xs := by
  cases xs with
  | nil => cases h; rfl
  | cons x xs =>
    obtain ⟨j, hj, hrest⟩ := Option.bind_eq_some_iff.mp h
    obtain ⟨js, hjs, rfl⟩ := Option.map_eq_some_iff.mp hrest
    rw [of_items, of_json_eq hj, of_items_eq hjs]
theorem of_fields_eq {fs : PyDict} {js : JsonObj} (h : fields? fs = some js) : of_fields js = fs := by
  cases fs with
  | nil => cases h; rfl
  | cons f fs =>
    obtain ⟨j, hj, hrest⟩ := Option.bind_eq_some_iff.mp h
    obtain ⟨js, hjs, rfl⟩ := Option.map_eq_some_iff.mp hrest
    rw [of_fields, of_json_eq hj, of_fields_eq hjs]
end

/-- `x` is a JSON value. -/
def IsJson (x : PyValue) : Prop := x.json?.isSome = true

@[simp] theorem isJson_null : IsJson .null := rfl
@[simp] theorem isJson_bool (b : Bool) : IsJson (.bool b) := rfl
@[simp] theorem isJson_int (n : Int) : IsJson (.int n) := rfl
@[simp] theorem isJson_float (x : PyFloat) : IsJson (.float x) := rfl
@[simp] theorem isJson_str (s : String) : IsJson (.str s) := rfl
@[simp] theorem not_isJson_datetime (t : Time) : ¬ IsJson (.datetime t) := Bool.false_ne_true

@[simp] theorem isJson_optional (s : Option String) : IsJson (optional s) := by
  cases s <;> rfl

theorem items?_isSome {xs : List PyValue} : (items? xs).isSome = true ↔ ∀ x ∈ xs, IsJson x := by
  induction xs with
  | nil => simp [items?]
  | cons x xs ih =>
    rw [items?, List.forall_mem_cons, ← ih, IsJson]
    cases json? x <;> simp

theorem fields?_isSome {fs : PyDict} : (fields? fs).isSome = true ↔ ∀ f ∈ fs, IsJson f.2 := by
  induction fs with
  | nil => simp [fields?]
  | cons f fs ih =>
    rw [fields?, List.forall_mem_cons, ← ih, IsJson]
    cases json? f.2 <;> simp

@[simp] theorem isJson_list {xs : List PyValue} : IsJson (.list xs) ↔ ∀ x ∈ xs, IsJson x := by
  rw [IsJson, json?, Option.isSome_map, items?_isSome]

@[simp] theorem isJson_dict {fs : PyDict} : IsJson (.dict fs) ↔ ∀ f ∈ fs, IsJson f.2 := by
  rw [IsJson, json?, Option.isSome_map, fields?_isSome]

end PyValue

/-! ## Dictionaries and their text -/

namespace PyDict

open PyValue

/-- `json.dumps(d)`. -/
def dumps (d : PyDict) : Except Exn String :=
  match fields? d with
  | some o => .ok (JsonCodec.dumps o)
  | none => .error (.type_error "Object of type datetime is not JSON serializable")

/-- `json.loads(raw)`. -/
def loads (raw : String) : Option PyDict := (JsonCodec.loads raw).map of_fields

/-- The dictionary has a text, and the text is read back as the same dictionary. -/
def Survives (d : PyDict) : Prop := ∃ raw, dumps d = .ok raw ∧ loads raw = some d

/-- **What JSON text keeps.** A dictionary without instants, and no other, comes back as it was. -/
theorem survives_iff {d : PyDict} : Survives d ↔ ∀ f ∈ d, IsJson f.2 := by
  rw [← fields?_isSome]
  unfold Survives dumps
  cases hfields : fields? d with
  | none => simp
  | some o =>
    have hloads : loads (JsonCodec.dumps o) = some d := by
      rw [loads, JsonCodec.loads_dumps, Option.map_some, of_fields_eq hfields]
    exact ⟨fun _ => rfl, fun _ => ⟨_, rfl, hloads⟩⟩

end PyDict

end CaseAutomation
