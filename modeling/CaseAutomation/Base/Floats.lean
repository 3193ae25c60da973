import Mathlib.Order.WithBot
import CaseAutomation.Base.PyValues

/-! # Floats that Need Not Be Finite

    A `float` may be an infinity or not a number (`nan`), and no comparison with `nan` holds. A
    `FloatValue` is a float as the comparisons see it; an `AnyFloat` is known by its `repr` as well.
-/

namespace CaseAutomation

/-- The floats that can be compared: the numbers and the two infinities, in their order. -/
abbrev Extended : Type := WithBot (WithTop ℚ)

/-- The value of a float. -/
inductive FloatValue where
  | ordered (x : Extended)
  | nan
  deriving DecidableEq

namespace FloatValue

/-- A finite value. -/
def finite (q : ℚ) : FloatValue := .ordered ((q : WithTop ℚ) : Extended)

instance : Coe ℚ FloatValue := ⟨finite⟩

instance (n : Nat) : OfNat FloatValue n := ⟨finite n⟩

/-- `x < y`. -/
protected def Lt : FloatValue → FloatValue → Prop
  | .ordered x, .ordered y => x < y
  | _, _ => False

/-- `x <= y`. -/
protected def Le : FloatValue → FloatValue → Prop
  | .ordered x, .ordered y => x ≤ y
  | _, _ => False

instance : LT FloatValue := ⟨FloatValue.Lt⟩

instance : LE FloatValue := ⟨FloatValue.Le⟩

instance : DecidableLT FloatValue
  | .ordered x, .ordered y => inferInstanceAs (Decidable (x < y))
  | .ordered _, .nan => .isFalse id
  | .nan, .ordered _ => .isFalse id
  | .nan, .nan => .isFalse id

instance : DecidableLE FloatValue
  | .ordered x, .ordered y => inferInstanceAs (Decidable (x ≤ y))
  | .ordered _, .nan => .isFalse id
  | .nan, .ordered _ => .isFalse id
  | .nan, .nan => .isFalse id

variable {x y z : FloatValue}

@[simp] theorem ordered_lt {a b : Extended} : ordered a < ordered b ↔ a < b := Iff.rfl

@[simp] theorem ordered_le {a b : Extended} : ordered a ≤ ordered b ↔ a ≤ b := Iff.rfl

@[simp] theorem finite_lt {p q : ℚ} : finite p < finite q ↔ p < q := by
  simp [finite]

@[simp] theorem finite_le {p q : ℚ} : finite p ≤ finite q ↔ p ≤ q := by
  simp [finite]

@[simp] theorem not_nan_lt : ¬ nan < x := id

@[simp] theorem not_nan_le : ¬ nan ≤ x := id

@[simp] theorem not_lt_nan : ¬ x < nan := by
  cases x <;> exact id

@[simp] theorem not_le_nan : ¬ x ≤ nan := by
  cases x <;> exact id

/-- What is not below a threshold reaches it, unless one of the two is no number. -/
theorem le_of_not_lt (h : ¬ x < y) : y ≤ x ∨ x = nan ∨ y = nan := by
  cases x with
  | nan => exact .inr (.inl rfl)
  | ordered a =>
    cases y with
    | nan => exact .inr (.inr rfl)
    | ordered b => exact .inl (not_lt.mp (by simpa using h))

theorem ne_nan_of_lt (h : x < y) : x ≠ nan ∧ y ≠ nan := by
  refine ⟨?_, ?_⟩
  · rintro rfl
    exact not_nan_lt h
  · rintro rfl
    exact not_lt_nan h

theorem ne_nan_of_le (h : x ≤ y) : x ≠ nan ∧ y ≠ nan := by
  refine ⟨?_, ?_⟩
  · rintro rfl
    exact not_nan_le h
  · rintro rfl
    exact not_le_nan h

theorem not_lt_of_le (h : x ≤ y) : ¬ y < x := by
  cases x with
  | nan => exact absurd h not_nan_le
  | ordered a =>
    cases y with
    | nan => exact not_nan_lt
    | ordered b => exact not_lt.mpr (by simpa using h)

theorem le_of_lt (h : x < y) : x ≤ y := by
  cases x with
  | nan => exact absurd h not_nan_lt
  | ordered a =>
    cases y with
    | nan => exact absurd h not_lt_nan
    | ordered b => exact ordered_le.mpr (ordered_lt.mp h).le

/-- Two numbers of which none is higher are equal. -/
theorem eq_of_not_lt (hx : x ≠ nan) (hy : y ≠ nan) (h : ¬ x < y) (h' : ¬ y < x) : x = y := by
  cases x with
  | nan => exact absurd rfl hx
  | ordered a =>
    cases y with
    | nan => exact absurd rfl hy
    | ordered b =>
      simp only [ordered_lt, not_lt] at h h'
      rw [le_antisymm h' h]

theorem lt_of_le_of_lt (h : x ≤ y) (h' : y < z) : x < z := by
  cases x with
  | nan => exact absurd h not_nan_le
  | ordered a =>
    cases y with
    | nan => exact absurd h not_le_nan
    | ordered b =>
      cases z with
      | nan => exact absurd h' not_lt_nan
      | ordered c => exact ordered_lt.mpr ((ordered_le.mp h).trans_lt (ordered_lt.mp h'))

theorem lt_trans (h : x < y) (h' : y < z) : x < z := lt_of_le_of_lt (le_of_lt h) h'

theorem le_trans (h : x ≤ y) (h' : y ≤ z) : x ≤ z := by
  cases x with
  | nan => exact absurd h not_nan_le
  | ordered a =>
    cases y with
    | nan => exact absurd h not_le_nan
    | ordered b =>
      cases z with
      | nan => exact absurd h' not_le_nan
      | ordered c =>
        simp only [ordered_le] at h h' ⊢
        exact h.trans h'

end FloatValue

/-- A float: finite, an infinity, or not a number. -/
inductive AnyFloat where
  | finite (x : PyFloat)
  | infinite (negative : Bool)
  | nan

namespace AnyFloat

/-- `repr(x)`. -/
def repr : AnyFloat → String
  | .finite x => x.repr
  | .infinite false => "inf"
  | .infinite true => "-inf"
  | .nan => "nan"

/-- What the comparisons see. -/
def value : AnyFloat → FloatValue
  | .finite x => x.value
  | .infinite false => .ordered (⊤ : WithTop ℚ)
  | .infinite true => .ordered ⊥
  | .nan => .nan

end AnyFloat

end CaseAutomation
