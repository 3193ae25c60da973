import CaseAutomation.Deadline.Compute
import CaseAutomation.Deadline.Holidays
import CaseAutomation.Framework.Search
import Mathlib.Data.Int.ConditionallyCompleteOrder
import Mathlib.Data.Int.Interval
import Mathlib.Data.Int.SuccPred
import Mathlib.Algebra.Order.Interval.Finset.SuccPred

/-! # Counting Business Days

    The walks of the calendar are searches (`walk_eq_search`). The supported years have fewer days than
    a walk may take, and outside of them it raises at the first weekday (`enough_days`).

    * `walk_spec`: a walk counts its business days, or comes to a weekday without a table.
    * `add_business_days_counts`: the same in terms of the dates between the two ends.
-/

namespace CaseAutomation.Deadline

open Framework

/-! ## Supported years -/

section supported
variable {d : Int} {e : Exn}

/-- The days of the supported years. -/
theorem supported_year_iff : supported_year (year_of d) = true ↔ 737424 < d ∧ d ≤ 745095 := by
  have h2020 : days_before_year 2020 = 737424 := rfl
  have h2041 : days_before_year 2041 = 745095 := rfl
  obtain ⟨hstart, hend⟩ := year_of_iff.mp (rfl : year_of d = year_of d)
  rw [supported_year, decide_eq_true_iff, ← h2020, ← h2041]
  constructor
  · rintro ⟨hlow, hhigh⟩
    have hfirst := days_before_year_mono hlow
    have hlast := days_before_year_mono (show year_of d + 1 ≤ 2041 by omega)
    omega
  · rintro ⟨hlow, hhigh⟩
    by_contra hnot
    by_cases hearly : year_of d + 1 ≤ 2020
    · have hbefore := days_before_year_mono hearly
      omega
    · have hbehind := days_before_year_mono (show 2041 ≤ year_of d by omega)
      omega

/-- A weekday for which there is no table. -/
def NoHolidays (d : Date) : Prop := weekday d ≤ 4 ∧ supported_year (year_of d) = false

/-- There is no answer for these days only. -/
theorem is_business_day_error (h : is_business_day d = .error e) :
    NoHolidays d ∧ ∃ message, e = calendar_error message := by
  cases hsupported : supported_year (year_of d) with
  | true =>
    rw [is_business_day_supported hsupported] at h
    cases h
  | false =>
    unfold is_business_day at h
    by_cases hweekend : 5 ≤ weekday d
    · rw [if_pos hweekend] at h
      cases h
    · rw [if_neg hweekend, holidays, hsupported] at h
      cases h
      exact ⟨⟨by omega, hsupported⟩, _, rfl⟩

theorem NoHolidays.raises (h : NoHolidays d) : ∃ e, is_business_day d = .error e := by
  obtain ⟨hweekday, hsupported⟩ := h
  unfold is_business_day
  rw [if_neg (by omega), holidays, hsupported]
  exact ⟨_, rfl⟩

/-- Three days in a row are not all on a weekend. -/
theorem weekday_among {direction : Int} (hdirection : direction = 1 ∨ direction = -1) (d : Int) :
    ∃ j < 3, weekday (d + (j : Nat) * direction) ≤ 4 := by
  by_contra hall
  push Not at hall
  have h0 := hall 0 (by decide)
  have h1 := hall 1 (by decide)
  have h2 := hall 2 (by decide)
  simp only [weekday] at h0 h1 h2
  rcases hdirection with rfl | rfl
  · omega
  · omega

/-- **A walk leaves the supported years in time.** Their days are fewer than 8000, less the three that it
    may take to come to a weekday at either end. -/
theorem enough_days {direction : Int} (hdirection : direction = 1 ∨ direction = -1) (d : Int) :
    ∃ i < MAX_WALK, NoHolidays (d + (i + 1 : Nat) * direction) := by
  by_contra hall
  push Not at hall
  have hsupported : ∀ i : Nat, i < 8000 → weekday (d + (i + 1 : Nat) * direction) ≤ 4 →
      737424 < d + (i + 1 : Nat) * direction ∧ d + (i + 1 : Nat) * direction ≤ 745095 := by
    intro i hi hweekday
    refine supported_year_iff.mp ?_
    by_contra hnot
    exact hall i hi ⟨hweekday, Bool.eq_false_iff.mpr hnot⟩
  -- one of the first dates and one of the last ones are weekdays, hence in supported years
  obtain ⟨j, hj, hfirst⟩ := weekday_among hdirection (d + direction)
  obtain ⟨k, hk, hlast⟩ := weekday_among hdirection (d + 7990 * direction)
  have hj' : d + (j + 1 : Nat) * direction = d + direction + j * direction := by
    push_cast
    rw [add_mul]
    omega
  have hk' : d + (7989 + k + 1 : Nat) * direction = d + 7990 * direction + k * direction := by
    push_cast
    rw [add_mul, add_mul]
    omega
  have hearly := hsupported j (by omega)
  have hlate := hsupported (7989 + k) (by omega)
  rw [hj'] at hearly
  rw [hk'] at hlate
  have hearly := hearly hfirst
  have hlate := hlate hlast
  -- but these lie further apart than the supported years are long
  rcases hdirection with rfl | rfl
  · omega
  · omega

end supported

/-! ## Walks -/

section walk
variable {direction d r : Int} {fuel remaining k : Nat}

theorem walk_eq_search (direction : Int) (fuel remaining : Nat) (d : Date) :
    walk direction fuel remaining d =
      search (· + direction) is_business_day .recursion_error fuel remaining d := by
  induction fuel generalizing remaining d with
  | zero => cases remaining <;> rfl
  | succ fuel ih =>
    cases remaining with
    | zero => rfl
    | succ remaining =>
      simp only [walk, search, ih]

theorem iterate_day (direction d : Int) (k : Nat) : (· + direction)^[k] d = d + k * direction := by
  rw [add_right_iterate_apply, nsmul_eq_mul]

/-- The business days on the first `k` dates of a walk. -/
def met (direction : Int) (d : Date) (k : Nat) : Nat := passed (· + direction) is_business_day d k

/-- **A walk counts its business days, or comes to a weekday without a table.** -/
theorem walk_spec (hdirection : direction = 1 ∨ direction = -1) (remaining : Nat) (d : Int) :
    (∃ k : Nat, walk direction MAX_WALK remaining d = .ok (d + k * direction) ∧
      EndsAt (· + direction) is_business_day d remaining k) ∨
    (∃ e, walk direction MAX_WALK remaining d = .error e ∧ (∃ message, e = calendar_error message) ∧
      ∃ k : Nat, NoHolidays (d + (k + 1 : Nat) * direction) ∧ met direction d k < remaining) := by
  have henough : ∃ i < MAX_WALK, ∃ e, is_business_day ((· + direction)^[i + 1] d) = .error e := by
    obtain ⟨i, hi, hnone⟩ := enough_days hdirection d
    rw [← iterate_day] at hnone
    exact ⟨i, hi, hnone.raises⟩
  rw [walk_eq_search]
  rcases search_spec henough .recursion_error remaining with ⟨k, hwalk, hends⟩ | ⟨k, e, hwalk, hraises⟩
  · rw [iterate_day] at hwalk
    exact .inl ⟨k, hwalk, hends⟩
  · obtain ⟨hnone, hmessage⟩ := is_business_day_error hraises.error_eq
    rw [iterate_day] at hnone
    exact .inr ⟨e, hwalk, hmessage, k, hnone, hraises.count_lt⟩

/-- Where a walk ends that ends well. -/
theorem walk_ok (h : walk direction fuel remaining d = .ok r) :
    ∃ k : Nat, r = d + k * direction ∧ EndsAt (· + direction) is_business_day d remaining k := by
  rw [walk_eq_search] at h
  rcases search_cases (· + direction) is_business_day .recursion_error fuel remaining d with
    ⟨k, hwalk, hends⟩ | ⟨k, e, hwalk, -⟩ | ⟨hwalk, -⟩
  · rw [hwalk, iterate_day] at h
    cases h
    exact ⟨k, rfl, hends⟩
  · cases hwalk.symm.trans h
  · cases hwalk.symm.trans h

/-- And there is no weekday without a table on its way. -/
theorem walk_error_iff (hdirection : direction = 1 ∨ direction = -1) :
    (∃ message, walk direction MAX_WALK remaining d = .error (calendar_error message)) ↔
      ∃ k : Nat, NoHolidays (d + (k + 1 : Nat) * direction) ∧ met direction d k < remaining := by
  constructor
  · rintro ⟨message, hwalk⟩
    rcases walk_spec hdirection remaining d with ⟨k, hok, -⟩ | ⟨e, -, -, hblocked⟩
    · cases hok.symm.trans hwalk
    · exact hblocked
  -- a walk that ends has not come to such a weekday
  · rintro ⟨k, hnone, hcount⟩
    rcases walk_spec hdirection remaining d with ⟨k', -, hends⟩ | ⟨e, hwalk, ⟨message, rfl⟩, -⟩
    · obtain ⟨e, herror⟩ := hnone.raises
      rw [← iterate_day] at herror
      exact absurd ⟨herror, hcount⟩ hends.not_raises
    · exact ⟨message, hwalk⟩

end walk

/-! ## Counting -/

/-- The business days of a set of dates. -/
def business_days (ds : Finset Int) : Finset Int := ds.filter fun d => is_business_day d = .ok true

section counting
variable {d : Int}

theorem business_days_insert {ds : Finset Int} (h : d ∉ ds) : (business_days (insert d ds)).card =
    (business_days ds).card + if is_business_day d = .ok true then 1 else 0 := by
  unfold business_days
  rw [Finset.filter_insert]
  by_cases hbusiness : is_business_day d = .ok true
  · rw [if_pos hbusiness, if_pos hbusiness,
      Finset.card_insert_of_notMem (fun hmem => h (Finset.mem_of_mem_filter _ hmem))]
  · rw [if_neg hbusiness, if_neg hbusiness, add_zero]

theorem met_succ (direction d : Int) (k : Nat) : met direction d (k + 1) = met direction d k +
    if is_business_day (d + (k + 1 : Nat) * direction) = .ok true then 1 else 0 := by
  have hpasses : Passes (· + direction) is_business_day d k ↔
      is_business_day (d + (k + 1 : Nat) * direction) = .ok true := by
    rw [← iterate_day]
    exact Iff.rfl
  unfold met passed
  rw [Nat.count_succ]
  simp only [hpasses]

/-- The business days behind `d`. -/
theorem met_forward (d : Int) (k : Nat) :
    met 1 d k = (business_days (Finset.Ioc d (d + k))).card := by
  induction k with
  | zero => simp [met, business_days]
  | succ k ih =>
    have hdays : Finset.Ioc d (d + (k + 1 : Nat)) = insert (d + k + 1) (Finset.Ioc d (d + k)) := by
      rw [Finset.insert_Ioc_right_eq_Ioc_add_one (by omega)]
      push_cast
      rw [add_assoc]
    have hlast : d + ((k + 1 : Nat) : Int) * 1 = d + k + 1 := by omega
    rw [met_succ, ih, hdays, business_days_insert (by simp), hlast]

/-- The business days before `d`. -/
theorem met_backward (d : Int) (k : Nat) :
    met (-1) d k = (business_days (Finset.Ico (d - k) d)).card := by
  induction k with
  | zero => simp [met, business_days]
  | succ k ih =>
    have hdays : Finset.Ico (d - (k + 1 : Nat)) d = insert (d - k - 1) (Finset.Ico (d - k) d) := by
      rw [Finset.insert_Ico_left_eq_Ico_sub_one (by omega)]
      push_cast
      rw [sub_sub]
    have hlast : d + ((k + 1 : Nat) : Int) * -1 = d - k - 1 := by omega
    rw [met_succ, ih, hdays, business_days_insert (by simp), hlast]

/-- `r` is `n` business days away from `d`. -/
structure Counted (d n r : Int) : Prop where
  stays : n = 0 → r = d
  business : n ≠ 0 → is_business_day r = .ok true
  behind : 0 < n → d < r ∧ (business_days (Finset.Ioc d r)).card = n.natAbs
  before : n < 0 → r < d ∧ (business_days (Finset.Ico r d)).card = n.natAbs

/-- A weekday without a table comes before the last of `n` business days. -/
def Blocked (d n : Int) : Prop :=
  (0 < n ∧ ∃ x, d < x ∧ NoHolidays x ∧ (business_days (Finset.Ioo d x)).card < n.natAbs) ∨
  (n < 0 ∧ ∃ x, x < d ∧ NoHolidays x ∧ (business_days (Finset.Ioo x d)).card < n.natAbs)

theorem add_business_days_ok {n r : Int} (h : add_business_days d n = .ok r) : Counted d n r := by
  obtain ⟨k, hr, hends⟩ := walk_ok h
  cases k with
  | zero =>
    -- no step is made for no days only
    have hzero : n.natAbs = 0 := hends.count_eq.symm.trans passed_zero
    have hn : n = 0 := Int.natAbs_eq_zero.mp hzero
    subst hn
    refine ⟨fun _ => ?_, fun hne => absurd rfl hne, fun hlt => absurd hlt (lt_irrefl 0),
      fun hlt => absurd hlt (lt_irrefl 0)⟩
    simpa using hr
  | succ k =>
    have hlt : 0 < n.natAbs := by simpa using hends.before 0 (Nat.succ_pos k)
    have hpasses := hends.passes
    rw [iterate_day, ← hr] at hpasses
    have hcount : met (if 0 ≤ n then 1 else -1) d (k + 1) = n.natAbs := hends.count_eq
    refine ⟨fun hzero => by omega, fun _ => hpasses, ?_, ?_⟩
    · intro hpositive
      rw [if_pos (show 0 ≤ n by omega)] at hr hcount
      have hr' : d + (k + 1 : Nat) = r := by omega
      rw [met_forward, hr'] at hcount
      exact ⟨by omega, hcount⟩
    · intro hnegative
      rw [if_neg (show ¬ 0 ≤ n by omega)] at hr hcount
      have hr' : d - (k + 1 : Nat) = r := by omega
      rw [met_backward, hr'] at hcount
      exact ⟨by omega, hcount⟩

theorem blocked_forward {n : Nat} : (∃ x, d < x ∧ NoHolidays x ∧ (business_days (Finset.Ioo d x)).card < n) ↔
    ∃ k : Nat, NoHolidays (d + (k + 1 : Nat) * 1) ∧ met 1 d k < n := by
  have hbetween : ∀ k : Nat, Finset.Ioo d (d + (k + 1 : Nat) * 1) = Finset.Ioc d (d + k) := by
    intro k
    ext x
    rw [Finset.mem_Ioo, Finset.mem_Ioc]
    omega
  constructor
  · rintro ⟨x, hx, hnone, hcount⟩
    have hstep : d + ((x - d - 1).toNat + 1 : Nat) * 1 = x := by omega
    refine ⟨(x - d - 1).toNat, ?_, ?_⟩
    · rw [hstep]
      exact hnone
    · rw [met_forward, ← hbetween, hstep]
      exact hcount
  · rintro ⟨k, hnone, hcount⟩
    refine ⟨d + (k + 1 : Nat) * 1, by omega, hnone, ?_⟩
    rw [hbetween, ← met_forward]
    exact hcount

theorem blocked_backward {n : Nat} : (∃ x, x < d ∧ NoHolidays x ∧ (business_days (Finset.Ioo x d)).card < n) ↔
    ∃ k : Nat, NoHolidays (d + (k + 1 : Nat) * -1) ∧ met (-1) d k < n := by
  have hbetween : ∀ k : Nat, Finset.Ioo (d + (k + 1 : Nat) * -1) d = Finset.Ico (d - k) d := by
    intro k
    ext x
    rw [Finset.mem_Ioo, Finset.mem_Ico]
    omega
  constructor
  · rintro ⟨x, hx, hnone, hcount⟩
    have hstep : d + ((d - x - 1).toNat + 1 : Nat) * -1 = x := by omega
    refine ⟨(d - x - 1).toNat, ?_, ?_⟩
    · rw [hstep]
      exact hnone
    · rw [met_backward, ← hbetween, hstep]
      exact hcount
  · rintro ⟨k, hnone, hcount⟩
    refine ⟨d + (k + 1 : Nat) * -1, by omega, hnone, ?_⟩
    rw [hbetween, ← met_backward]
    exact hcount

/-- A walk is as long as it is blocked by nothing. -/
theorem add_business_days_error_iff (d n : Int) :
    (∃ message, add_business_days d n = .error (calendar_error message)) ↔ Blocked d n := by
  unfold add_business_days Blocked
  rw [blocked_forward, blocked_backward]
  by_cases hpositive : 0 < n
  · rw [if_pos (show 0 ≤ n by omega), walk_error_iff (.inl rfl)]
    simp [hpositive, show ¬ n < 0 by omega]
  · by_cases hzero : n = 0
    · subst hzero
      rw [if_pos le_rfl, walk_error_iff (.inl rfl)]
      simp
    · rw [if_neg (show ¬ 0 ≤ n by omega), walk_error_iff (.inr rfl)]
      simp [hpositive, show n < 0 by omega]

end counting

/-- **Business days are counted.** For every date and every number of days the walk ends. If it returns,
    then at the date itself for no days, and otherwise at a business day on the side of the sign with
    exactly that number of business days up to it. It raises `CalendarError` exactly if a weekday outside
    of the supported years comes before that number of business days. -/
theorem add_business_days_counts (d : Date) (n : Int) :
    ((∃ r, add_business_days d n = .ok r) ∨
      ∃ message, add_business_days d n = .error (calendar_error message)) ∧
    (∀ r, add_business_days d n = .ok r → Counted d n r) ∧
    ((∃ message, add_business_days d n = .error (calendar_error message)) ↔ Blocked d n) := by
  refine ⟨?_, fun r h => add_business_days_ok h, add_business_days_error_iff d n⟩
  have hdirection : (if 0 ≤ n then (1 : Int) else -1) = 1 ∨ (if 0 ≤ n then (1 : Int) else -1) = -1 := by
    by_cases hn : 0 ≤ n
    · exact .inl (if_pos hn)
    · exact .inr (if_neg hn)
  rcases walk_spec hdirection n.natAbs d with ⟨k, hok, -⟩ | ⟨e, herror, ⟨message, rfl⟩, -⟩
  · exact .inl ⟨_, hok⟩
  · exact .inr ⟨message, herror⟩

end CaseAutomation.Deadline
