import CaseAutomation.Base.Values
import Mathlib.Data.List.Infix
import Mathlib.Data.List.TakeWhile

/-! # Text

    `str.strip`, `str(x)` and `repr(x)` of JSON values, and the substring test, as the
    services use them.
-/

namespace CaseAutomation

/-- `c.isspace()`. -/
def is_space (c : Char) : Bool :=
  let n := c.toNat
  decide (9 ≤ n ∧ n ≤ 13) || decide (28 ≤ n ∧ n ≤ 32) || decide (n = 0x85) || decide (n = 0xa0) ||
    decide (n = 0x1680) || decide (0x2000 ≤ n ∧ n ≤ 0x200a) || decide (n = 0x2028) ||
    decide (n = 0x2029) || decide (n = 0x202f) || decide (n = 0x205f) || decide (n = 0x3000)

/-- `s.strip()`. -/
def strip (s : String) : String :=
  String.ofList (((s.toList.dropWhile is_space).reverse.dropWhile is_space).reverse)

/-- A text is blank if all of its characters are spaces. -/
theorem strip_eq_empty {s : String} : strip s = "" ↔ ∀ c ∈ s.toList, is_space c = true := by
  have hlist : strip s = "" ↔
      (s.toList.dropWhile is_space).reverse.dropWhile is_space = [] := by
    unfold strip
    rw [← String.toList_inj]
    simp
  rw [hlist, List.dropWhile_eq_nil_iff]
  constructor
  · intro hrest c hc
    -- what remains after the leading spaces begins with something else
    cases hdrop : s.toList.dropWhile is_space with
    | nil => exact List.dropWhile_eq_nil_iff.mp hdrop c hc
    | cons d ds =>
      have hspace := hrest d (by simp [hdrop])
      have hhead := List.head_dropWhile_not is_space (l := s.toList) (by simp [hdrop])
      simp only [hdrop, List.head_cons] at hhead
      rw [hspace] at hhead
      cases hhead
  · intro hall c hc
    exact hall c ((List.dropWhile_suffix is_space).subset (List.mem_reverse.mp hc))

/-- `s.split(sep)` for a one-character separator. -/
def split_on (sep : Char) (s : String) : List String :=
  (s.toList.splitOn sep).map String.ofList

/-- `a in b` for strings. -/
def occurs_in (a b : String) : Bool := decide (a.toList <:+: b.toList)

mutual

/-- `repr(x)` of what `json.loads` returns. -/
def py_repr : Json → String
  | .null => "None"
  | .bool true => "True"
  | .bool false => "False"
  | .int n => toString n
  | .float x => x.repr
  | .str s => repr_str s
  | .arr xs => "[" ++ ", ".intercalate (py_repr_items xs) ++ "]"
  | .obj fields => "\x7b" ++ ", ".intercalate (py_repr_fields fields) ++ "\x7d"

def py_repr_items : List Json → List String
  | [] => []
  | x :: xs => py_repr x :: py_repr_items xs

def py_repr_fields : List (String × Json) → List String
  | [] => []
  | (key, x) :: rest => (repr_str key ++ ": " ++ py_repr x) :: py_repr_fields rest

end

/-- `str(x)`: a string stands for itself. -/
def py_str : Json → String
  | .str s => s
  | x => py_repr x

/-- `str(xs)` of a list of strings. -/
def repr_strs (xs : List String) : String := py_repr (.arr (xs.map Json.str))

/-! ## Keys with separators -/

/-- What stands before and after the last separator is determined. -/
theorem last_separator {c : Char} {xs xs' ys ys' : List Char} (hys : c ∉ ys) (hys' : c ∉ ys')
    (h : xs ++ c :: ys = xs' ++ c :: ys') : xs = xs' ∧ ys = ys' := by
  obtain ⟨zs, rfl, hz⟩ | ⟨zs, rfl, hz⟩ := List.append_eq_append_iff.mp h
  · cases zs with
    | nil => simpa using hz
    | cons z zs =>
      -- the longer text would have the separator in its last part
      obtain ⟨-, rfl⟩ := List.cons.inj hz
      exact absurd (List.mem_append_right zs List.mem_cons_self) hys
  · cases zs with
    | nil => simpa [eq_comm] using hz
    | cons z zs =>
      obtain ⟨-, rfl⟩ := List.cons.inj hz
      exact absurd (List.mem_append_right zs List.mem_cons_self) hys'

/-! ## Ids -/

/-- Numbered ids. -/
def numbered_id (n : Nat) : String := "id-" ++ n.repr

/-- Numbered ids never repeat. -/
theorem numbered_id_injective : Function.Injective numbered_id := by
  intro m n h
  have hrepr : m.repr = n.repr := by simpa [numbered_id] using h
  have hdigits : Nat.toDigits 10 m = Nat.toDigits 10 n := by
    rw [← Nat.toList_repr, ← Nat.toList_repr, hrepr]
  rw [← Nat.ofDigitChars_ten_toDigits (n := m), hdigits, Nat.ofDigitChars_ten_toDigits]

/-- A numbered id is not empty. -/
theorem numbered_id_ne (n : Nat) : numbered_id n ≠ "" := by
  intro h
  have hlist := congrArg String.toList h
  simp [numbered_id] at hlist

end CaseAutomation
