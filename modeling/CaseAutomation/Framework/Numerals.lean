import Mathlib.Algebra.Order.Ring.Nat
import Mathlib.Data.List.Lex
import Mathlib.Order.Lattice

/-! # Numerals of Fixed Width

    Texts made of fields of fixed width compare field by field, and a numeral of fixed width
    compares as the number that it spells, if the alphabet is ordered as the digits are:

    * `prefix_lt_iff`  : lists that start with parts of one length;
    * `numeral_lt_iff` : two numerals;
    * `numeral_append_lt_iff` : two numerals and what follows them.
-/

namespace CaseAutomation.Framework

variable {α : Type} [LinearOrder α]

/-- Parts of one length are compared before what follows them. -/
theorem prefix_lt_iff {xs ys us vs : List α} (h : xs.length = ys.length) :
    xs ++ us < ys ++ vs ↔ xs < ys ∨ xs = ys ∧ us < vs := by
  induction xs generalizing ys with
  | nil =>
    rw [List.eq_nil_of_length_eq_zero h.symm]
    simp
  | cons x xs ih =>
    cases ys with
    | nil => cases h
    | cons y ys =>
      have hrest := ih (Nat.succ.inj h)
      simp only [List.cons_append, List.cons_lt_cons_iff, hrest, List.cons.injEq]
      tauto

variable (digit : Nat → α) (b : Nat)

/-- The last `k` digits of a number. -/
def numeral : Nat → Nat → List α
  | 0, _ => []
  | k + 1, n => numeral k (n / b) ++ [digit (n % b)]

omit [LinearOrder α] in
theorem numeral_length (k n : Nat) : (numeral digit b k n).length = k := by
  induction k generalizing n with
  | zero => rfl
  | succ k ih => simp [numeral, ih]

variable {digit b} {k n m : Nat}

/-- Digits in order. -/
def OrderedDigits (digit : Nat → α) (b : Nat) : Prop := ∀ i < b, ∀ j < b, digit i < digit j ↔ i < j

theorem OrderedDigits.eq_iff (h : OrderedDigits digit b) {i j : Nat} (hi : i < b) (hj : j < b) :
    digit i = digit j ↔ i = j := by
  constructor
  · intro heq
    by_contra hne
    rcases Nat.lt_or_gt_of_ne hne with hlt | hlt
    · exact absurd heq (ne_of_lt ((h i hi j hj).mpr hlt))
    · exact absurd heq.symm (ne_of_lt ((h j hj i hi).mpr hlt))
  · intro heq
    rw [heq]

/-- The parts of a number below `b ^ (k + 1)`. -/
theorem parts_lt (hn : n < b ^ (k + 1)) : n / b < b ^ k ∧ n % b < b := by
  have hb : 0 < b := by
    by_contra hzero
    rw [Nat.eq_zero_of_not_pos hzero, Nat.pow_succ, Nat.mul_zero] at hn
    omega
  rw [Nat.pow_succ, Nat.mul_comm] at hn
  exact ⟨Nat.div_lt_of_lt_mul hn, Nat.mod_lt n hb⟩

/-- Division decides first, then the remainder. -/
theorem lt_iff_parts (b n m : Nat) :
    n < m ↔ n / b < m / b ∨ n / b = m / b ∧ n % b < m % b := by
  have hn' := Nat.div_add_mod n b
  have hm' := Nat.div_add_mod m b
  constructor
  · intro h
    rcases Nat.lt_trichotomy (n / b) (m / b) with hlt | heq | hgt
    · exact .inl hlt
    · rw [heq] at hn'
      exact .inr ⟨heq, by omega⟩
    · exact absurd (Nat.div_le_div_right (c := b) h.le) (by omega)
  · rintro (hlt | ⟨heq, hlt⟩)
    · by_contra hnot
      exact absurd (Nat.div_le_div_right (c := b) (Nat.le_of_not_lt hnot)) (by omega)
    · rw [heq] at hn'
      omega

/-- A numeral determines its number. -/
theorem numeral_inj (h : OrderedDigits digit b) (hn : n < b ^ k) (hm : m < b ^ k)
    (heq : numeral digit b k n = numeral digit b k m) : n = m := by
  induction k generalizing n m with
  | zero =>
    rw [Nat.pow_zero] at hn hm
    omega
  | succ k ih =>
    obtain ⟨hfront, hlast⟩ := List.append_inj' heq rfl
    have hdiv := ih (parts_lt hn).1 (parts_lt hm).1 hfront
    have hmod := (h.eq_iff (parts_lt hn).2 (parts_lt hm).2).mp (List.cons.inj hlast).1
    rw [← Nat.div_add_mod n b, ← Nat.div_add_mod m b, hdiv, hmod]

/-- **Numerals of one width compare as their numbers do.** -/
theorem numeral_lt_iff (h : OrderedDigits digit b) (hn : n < b ^ k) (hm : m < b ^ k) :
    numeral digit b k n < numeral digit b k m ↔ n < m := by
  induction k generalizing n m with
  | zero =>
    rw [Nat.pow_zero] at hn hm
    constructor
    · intro hlt
      exact absurd hlt (lt_irrefl _)
    · intro hlt
      omega
  | succ k ih =>
    obtain ⟨hdiv, hmod⟩ := parts_lt hn
    obtain ⟨hdiv', hmod'⟩ := parts_lt hm
    have hsame : numeral digit b k (n / b) = numeral digit b k (m / b) ↔ n / b = m / b :=
      ⟨numeral_inj h hdiv hdiv', fun heq => by rw [heq]⟩
    have hlast : [digit (n % b)] < [digit (m % b)] ↔ n % b < m % b := by
      rw [List.cons_lt_cons_iff, h _ hmod _ hmod']
      simp
    rw [numeral, numeral, prefix_lt_iff (by rw [numeral_length, numeral_length]), ih hdiv hdiv',
      hsame, hlast, lt_iff_parts b n m]

/-- **A text that starts with a numeral** compares by its number first. -/
theorem numeral_append_lt_iff {us vs : List α} (h : OrderedDigits digit b) (hn : n < b ^ k)
    (hm : m < b ^ k) :
    numeral digit b k n ++ us < numeral digit b k m ++ vs ↔ n < m ∨ n = m ∧ us < vs := by
  have hsame : numeral digit b k n = numeral digit b k m ↔ n = m :=
    ⟨numeral_inj h hn hm, fun heq => by rw [heq]⟩
  rw [prefix_lt_iff (by rw [numeral_length, numeral_length]), numeral_lt_iff h hn hm, hsame]

end CaseAutomation.Framework
