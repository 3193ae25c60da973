import Mathlib.Data.Nat.Count
import Mathlib.Logic.Function.Iterate

/-! # Searches That Count

    A search goes from place to place and asks at each one that it comes to, until a number of
    places have passed. A question may raise, and then so does the search; it stops for lack of
    fuel with an error of its own.

    * `search_cases`: the three ways a search can end.
    * `search_spec`: with a question that raises within the fuel, it does not stop for lack of it.
    * `search_add`: where that is so everywhere, a search goes on from where another one ends.
-/

namespace CaseAutomation.Framework

variable {α ε : Type}

/-- Ask at `next x` and onwards, until `remaining` places have passed. -/
def search (next : α → α) (test : α → Except ε Bool) (out : ε) : Nat → Nat → α → Except ε α
  | _, 0, x => .ok x
  | 0, _ + 1, _ => .error out
  | fuel + 1, remaining + 1, x => do
    if ← test (next x) then search next test out fuel remaining (next x)
    else search next test out fuel (remaining + 1) (next x)

/-- The place after `i` others passes. -/
def Passes (next : α → α) (test : α → Except ε Bool) (x : α) (i : Nat) : Prop :=
  test (next^[i + 1] x) = .ok true

theorem passes_iff (next : α → α) (test : α → Except ε Bool) (x : α) (i : Nat) :
    (test (next^[i + 1] x)).toOption = some true ↔ Passes next test x i := by
  unfold Passes
  cases test (next^[i + 1] x) with
  | ok b => simp [Except.toOption]
  | error e => simp [Except.toOption]

instance (next : α → α) (test : α → Except ε Bool) (x : α) : DecidablePred (Passes next test x) :=
  fun i => decidable_of_iff _ (passes_iff next test x i)

/-- How many of the first `k` places pass. -/
def passed (next : α → α) (test : α → Except ε Bool) (x : α) (k : Nat) : Nat :=
  Nat.count (Passes next test x) k

/-- The search ends at its `k`-th place. -/
structure EndsAt (next : α → α) (test : α → Except ε Bool) (x : α) (remaining k : Nat) : Prop where
  count_eq : passed next test x k = remaining
  /-- And at none before it. -/
  before : ∀ j < k, passed next test x j < remaining
  answered : ∀ i < k, ∃ b, test (next^[i + 1] x) = .ok b

/-- The question after `k` places raises. -/
structure RaisesAt (next : α → α) (test : α → Except ε Bool) (x : α) (remaining k : Nat) (e : ε) :
    Prop where
  error_eq : test (next^[k + 1] x) = .error e
  count_lt : passed next test x k < remaining

section search
variable {next : α → α} {test : α → Except ε Bool} {out : ε} {x : α} {fuel remaining k : Nat} {e : ε}

@[simp] theorem passed_zero : passed next test x 0 = 0 := Nat.count_zero _

theorem passed_mono {j : Nat} (h : j ≤ k) : passed next test x j ≤ passed next test x k :=
  Nat.count_monotone _ h

theorem passed_of_true (h : test (next x) = .ok true) :
    passed next test x (k + 1) = passed next test (next x) k + 1 := by
  have hfirst : Passes next test x 0 := h
  unfold passed
  rw [Nat.count_succ', if_pos hfirst]
  rfl

theorem passed_of_false (h : test (next x) = .ok false) :
    passed next test x (k + 1) = passed next test (next x) k := by
  have hfirst : ¬ Passes next test x 0 := by
    intro hpass
    cases h.symm.trans hpass
  unfold passed
  rw [Nat.count_succ', if_neg hfirst]
  rfl

/-- The last place of a search passes. -/
theorem EndsAt.passes (h : EndsAt next test x remaining (k + 1)) :
    test (next^[k + 1] x) = .ok true := by
  have hlast := h.before k (Nat.lt_succ_self k)
  have hcount := h.count_eq
  unfold passed at hlast hcount
  by_contra hnot
  have hsame := Nat.count_succ (Passes next test x) k
  rw [if_neg (show ¬ Passes next test x k from hnot)] at hsame
  omega

/-- A search for one place has passed none before it. -/
theorem EndsAt.first (h : EndsAt next test x 1 k) {i : Nat} (hi : i + 1 < k) :
    test (next^[i + 1] x) ≠ .ok true := by
  intro hpass
  have hnone := h.before (i + 1) hi
  unfold passed at hnone
  rw [Nat.count_succ, if_pos (show Passes next test x i from hpass)] at hnone
  omega

/-- What ends a search is not behind a question that raises. -/
theorem EndsAt.not_raises (h : EndsAt next test x remaining k) {j : Nat} :
    ¬ RaisesAt next test x remaining j e := by
  rintro ⟨herror, hcount⟩
  -- the search has asked before it ends, and has counted enough when it ends
  by_cases hbefore : j < k
  · obtain ⟨b, hb⟩ := h.answered j hbefore
    cases hb.symm.trans herror
  · have hle : passed next test x k ≤ passed next test x j := passed_mono (not_lt.mp hbefore)
    have heq := h.count_eq
    omega

theorem EndsAt.zero : EndsAt next test x 0 0 :=
  ⟨passed_zero, fun _ hj => absurd hj (Nat.not_lt_zero _), fun _ hi => absurd hi (Nat.not_lt_zero _)⟩

/-- One place more in front, and what it answers. -/
theorem EndsAt.cons {b : Bool} (htest : test (next x) = .ok b) (hpositive : 0 < remaining)
    (h : EndsAt next test (next x) (if b then remaining - 1 else remaining) k) :
    EndsAt next test x remaining (k + 1) := by
  obtain ⟨hcount, hbefore, hanswered⟩ := h
  have hpassed : ∀ j, passed next test x (j + 1) = passed next test (next x) j + if b then 1 else 0 := by
    intro j
    cases b with
    | true => exact passed_of_true htest
    | false => exact passed_of_false htest
  refine ⟨?_, ?_, ?_⟩
  · rw [hpassed, hcount]
    cases b with
    | true => simp; omega
    | false => simp
  · intro j hj
    cases j with
    | zero => simpa using hpositive
    | succ j =>
      have hlt := hbefore j (by omega)
      rw [hpassed]
      cases b with
      | true => simp at hlt ⊢; omega
      | false => simpa using hlt
  · intro i hi
    cases i with
    | zero => exact ⟨b, htest⟩
    | succ i => exact hanswered i (by omega)

theorem RaisesAt.cons {b : Bool} (htest : test (next x) = .ok b)
    (h : RaisesAt next test (next x) (if b then remaining - 1 else remaining) k e) :
    RaisesAt next test x remaining (k + 1) e := by
  obtain ⟨herror, hcount⟩ := h
  refine ⟨herror, ?_⟩
  cases b with
  | true =>
    rw [passed_of_true htest]
    simp at hcount
    omega
  | false =>
    rw [passed_of_false htest]
    simpa using hcount

end search

/-- **How a search ends.** -/
theorem search_cases (next : α → α) (test : α → Except ε Bool) (out : ε) (fuel remaining : Nat) (x : α) :
    (∃ k, search next test out fuel remaining x = .ok (next^[k] x) ∧ EndsAt next test x remaining k) ∨
    (∃ k e, search next test out fuel remaining x = .error e ∧ RaisesAt next test x remaining k e) ∨
    (search next test out fuel remaining x = .error out ∧
      ∀ i < fuel, ∃ b, test (next^[i + 1] x) = .ok b) := by
  induction fuel generalizing remaining x with
  | zero =>
    cases remaining with
    | zero => exact .inl ⟨0, rfl, EndsAt.zero⟩
    -- out of fuel, with places to come
    | succ remaining => exact .inr (.inr ⟨rfl, fun i hi => absurd hi (Nat.not_lt_zero i)⟩)
  | succ fuel ih =>
    cases remaining with
    | zero => exact .inl ⟨0, rfl, EndsAt.zero⟩
    | succ remaining =>
      cases htest : test (next x) with
      | error e =>
        have hraises : search next test out (fuel + 1) (remaining + 1) x = .error e := by
          unfold search
          rw [htest]
          rfl
        exact .inr (.inl ⟨0, e, hraises, htest, by simp⟩)
      | ok b =>
        -- one place is behind, which counts if it passes
        have hstep : search next test out (fuel + 1) (remaining + 1) x =
            search next test out fuel (if b then remaining + 1 - 1 else remaining + 1) (next x) := by
          conv => lhs; unfold search
          rw [htest]
          cases b <;> rfl
        rw [hstep]
        rcases ih (if b then remaining + 1 - 1 else remaining + 1) (next x) with
          ⟨k, hk, hends⟩ | ⟨k, e, hk, hraises⟩ | ⟨hout, hanswered⟩
        · exact .inl ⟨k + 1, hk, hends.cons htest (Nat.succ_pos _)⟩
        · exact .inr (.inl ⟨k + 1, e, hk, hraises.cons htest⟩)
        · refine .inr (.inr ⟨hout, ?_⟩)
          intro i hi
          cases i with
          | zero => exact ⟨b, htest⟩
          | succ i => exact hanswered i (by omega)

/-- **Enough fuel.** -/
theorem search_spec {next : α → α} {test : α → Except ε Bool} {fuel : Nat} {x : α}
    (henough : ∃ i < fuel, ∃ e, test (next^[i + 1] x) = .error e) (out : ε) (remaining : Nat) :
    (∃ k, search next test out fuel remaining x = .ok (next^[k] x) ∧ EndsAt next test x remaining k) ∨
    (∃ k e, search next test out fuel remaining x = .error e ∧
      RaisesAt next test x remaining k e) := by
  rcases search_cases next test out fuel remaining x with hends | hraises | ⟨-, hanswered⟩
  · exact .inl hends
  · exact .inr hraises
  · obtain ⟨i, hi, e, he⟩ := henough
    obtain ⟨b, hb⟩ := hanswered i hi
    cases hb.symm.trans he

/-! ## One search after another -/

section add
variable {next : α → α} {test : α → Except ε Bool} {out : ε} {x : α} {fuel fuel' : Nat}

/-- A question raises within the fuel. -/
def Enough (next : α → α) (test : α → Except ε Bool) (fuel : Nat) (x : α) : Prop :=
  ∃ i < fuel, ∃ e, test (next^[i + 1] x) = .error e

theorem Enough.step {b : Bool} (h : Enough next test (fuel + 1) x) (htest : test (next x) = .ok b) :
    Enough next test fuel (next x) := by
  obtain ⟨i, hi, e, he⟩ := h
  cases i with
  | zero => cases htest.symm.trans he
  | succ i => exact ⟨i, by omega, e, he⟩

theorem not_enough_zero : ¬ Enough next test 0 x := by
  rintro ⟨i, hi, -⟩
  omega

/-- One step of a search. -/
theorem search_succ (next : α → α) (test : α → Except ε Bool) (out : ε) (fuel remaining : Nat) (x : α) :
    search next test out (fuel + 1) (remaining + 1) x =
      match test (next x) with
      | .error e => .error e
      | .ok true => search next test out fuel remaining (next x)
      | .ok false => search next test out fuel (remaining + 1) (next x) := by
  conv => lhs; unfold search
  rcases test (next x) with e | b
  · rfl
  · cases b <;> rfl

/-- More than enough fuel changes nothing. -/
theorem search_fuel (h : Enough next test fuel x) (h' : Enough next test fuel' x) (remaining : Nat) :
    search next test out fuel remaining x = search next test out fuel' remaining x := by
  induction fuel generalizing fuel' remaining x with
  | zero => exact absurd h not_enough_zero
  | succ fuel ih =>
    cases fuel' with
    | zero => exact absurd h' not_enough_zero
    | succ fuel' =>
      cases remaining with
      | zero => rfl
      | succ remaining =>
        rw [search_succ, search_succ]
        cases htest : test (next x) with
        | error e => rfl
        | ok b =>
          cases b with
          | true => exact ih (h.step htest) (h'.step htest) remaining
          | false => exact ih (h.step htest) (h'.step htest) (remaining + 1)

/-- **Searches add up.** To look for `a + b` places is to look for `a` of them, and from there
    for `b` more. -/
theorem search_add (henough : ∀ y, Enough next test fuel' y) (h : Enough next test fuel x) (a b : Nat) :
    search next test out fuel (a + b) x =
      (search next test out fuel a x).bind (search next test out fuel' b) := by
  induction fuel generalizing a x with
  | zero => exact absurd h not_enough_zero
  | succ fuel ih =>
    cases a with
    | zero =>
      rw [Nat.zero_add]
      exact search_fuel h (henough x) b
    | succ a =>
      rw [Nat.succ_add, search_succ, search_succ]
      cases htest : test (next x) with
      | error e => rfl
      | ok passed =>
        cases passed with
        | true => exact ih (h.step htest) a
        | false =>
          simp only
          rw [show a + b + 1 = a + 1 + b by omega]
          exact ih (h.step htest) (a + 1)

end add

end CaseAutomation.Framework
