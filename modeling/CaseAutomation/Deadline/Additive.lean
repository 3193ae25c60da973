import CaseAutomation.Deadline.Monotone

/-! # Adding Business Days Twice

    Two additions in one direction are one addition, and they raise alike (`add_business_days_add`). What was
    counted from a business day is counted back to it (`Counted.back`); to any other date no
    count leads back, since it ends at a business day.
-/

namespace CaseAutomation.Deadline

open Framework

variable {d r r' n : Int}

/-! ## One direction -/

theorem enough_for_walk {direction : Int} (hdirection : direction = 1 ∨ direction = -1) (d : Int) :
    Enough (· + direction) is_business_day MAX_WALK d := by
  obtain ⟨i, hi, hnone⟩ := enough_days hdirection d
  rw [← iterate_day] at hnone
  exact ⟨i, hi, hnone.raises⟩

theorem walk_add {direction : Int} (hdirection : direction = 1 ∨ direction = -1) (a b : Nat) (d : Date) :
    walk direction MAX_WALK (a + b) d =
      (walk direction MAX_WALK a d).bind (walk direction MAX_WALK b) := by
  have hsearch : walk direction MAX_WALK b =
      search (· + direction) is_business_day .recursion_error MAX_WALK b :=
    funext fun y => walk_eq_search direction MAX_WALK b y
  rw [walk_eq_search, walk_eq_search, hsearch]
  exact search_add (enough_for_walk hdirection) (enough_for_walk hdirection d) a b

theorem add_business_days_zero (d : Date) : add_business_days d 0 = .ok d := rfl

/-- The two numbers lie on one side of zero. -/
def SameSign (a b : Int) : Prop := (0 ≤ a ∧ 0 ≤ b) ∨ (a ≤ 0 ∧ b ≤ 0)

theorem add_business_days_add {a b : Int} (hsign : SameSign a b) (d : Date) :
    (add_business_days d a).bind (fun r => add_business_days r b) = add_business_days d (a + b) := by
  by_cases ha : a = 0
  · rw [ha, zero_add]
    rfl
  by_cases hb : b = 0
  · -- nothing is added to what was reached
    rw [hb, add_zero]
    cases add_business_days d a with
    | ok r => rfl
    | error e => rfl
  unfold add_business_days
  rcases hsign with ⟨hpos, hpos'⟩ | ⟨hneg, hneg'⟩
  · have hdays : (a + b).natAbs = a.natAbs + b.natAbs := by omega
    simp only [hpos, hpos', show 0 ≤ a + b by omega, if_true]
    rw [hdays, walk_add (.inl rfl)]
  · have hdays : (a + b).natAbs = a.natAbs + b.natAbs := by omega
    simp only [show ¬ 0 ≤ a by omega, show ¬ 0 ≤ b by omega, show ¬ 0 ≤ a + b by omega, if_false]
    rw [hdays, walk_add (.inr rfl)]

/-! ## There and back -/

/-- Of the two ends, either one may be left out. -/
theorem business_days_ends {lo hi : Int} (hlt : lo < hi) (hlo : is_business_day lo = .ok true)
    (hhi : is_business_day hi = .ok true) :
    (business_days (Finset.Ioc lo hi)).card = (business_days (Finset.Ico lo hi)).card := by
  rw [← Finset.Ioo_insert_right hlt, ← Finset.Ioo_insert_left hlt, business_days_insert (by simp),
    business_days_insert (by simp), if_pos hlo, if_pos hhi]

/-- **The same count leads back.** -/
theorem Counted.back (h : Counted d n r) (hbusiness : is_business_day d = .ok true) :
    Counted r (-n) d := by
  refine ⟨?_, fun _ => hbusiness, ?_, ?_⟩
  · intro hzero
    exact (h.stays (by omega)).symm
  · intro hpositive
    obtain ⟨hlt, hcount⟩ := h.before (by omega)
    rw [business_days_ends hlt (h.business (by omega)) hbusiness, Int.natAbs_neg]
    exact ⟨hlt, hcount⟩
  · intro hnegative
    obtain ⟨hlt, hcount⟩ := h.behind (by omega)
    rw [← business_days_ends hlt hbusiness (h.business (by omega)), Int.natAbs_neg]
    exact ⟨hlt, hcount⟩

theorem there_and_back (h : add_business_days d n = .ok r) (h' : add_business_days r (-n) = .ok r') :
    r' = d ↔ is_business_day d = .ok true ∨ n = 0 := by
  have hthere := add_business_days_ok h
  have hback := add_business_days_ok h'
  constructor
  · rintro rfl
    by_cases hzero : n = 0
    · exact .inr hzero
    · exact .inl (hback.business (by omega))
  · rintro (hbusiness | hzero)
    · have hsame := hthere.back hbusiness
      exact le_antisymm (hback.mono le_rfl hsame) (hsame.mono le_rfl hback)
    · rw [hback.stays (by omega), hthere.stays hzero]

/-- **Business days add up.** Adding `a` and then `b` days of the same sign is adding `a + b` days: both raise,
    or both return the same date. Adding `n` days and then `-n` comes back to the date exactly if it is
    a business day or `n` is zero. -/
theorem business_days_add_up (d : Date) :
    (∀ a b, SameSign a b →
      (add_business_days d a).bind (fun r => add_business_days r b) = add_business_days d (a + b)) ∧
    ∀ n r r', add_business_days d n = .ok r → add_business_days r (-n) = .ok r' →
      (r' = d ↔ is_business_day d = .ok true ∨ n = 0) :=
  ⟨fun _ _ hsign => add_business_days_add hsign d, fun _ _ _ h h' => there_and_back h h'⟩

/-- Monday, 5 January 2026, two days on and three more; and two days on and back. -/
theorem first_week_adds_up :
    ((add_business_days 739621 2).bind fun r => add_business_days r 3) = add_business_days 739621 5 ∧
    ((739621 : Int) = 739621 ↔ is_business_day 739621 = .ok true ∨ (2 : Int) = 0) :=
  ⟨(business_days_add_up 739621).1 2 3 (.inl ⟨by decide, by decide⟩),
    (business_days_add_up 739621).2 2 739623 739621 rfl rfl⟩

end CaseAutomation.Deadline
