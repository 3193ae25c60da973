import CaseAutomation.Deadline.Calendar
import Mathlib.Data.Int.LeastGreatest

/-! # The Gregorian Calendar

    `date.year`, `date.month` and `date.day` take the ordinal of a date apart again: the 400-year
    cycle into centuries, groups of four years and years, and the year into months.
-/

namespace CaseAutomation.Deadline

/-! ## Years -/

/-- One day more in a leap year. -/
def leap_day (year : Int) : Int := if is_leap year then 1 else 0

theorem leap_day_cases (year : Int) :
    (leap_day year = 1 ∧ year % 4 = 0 ∧ (year % 100 ≠ 0 ∨ year % 400 = 0)) ∨
      (leap_day year = 0 ∧ (year % 4 ≠ 0 ∨ (year % 100 = 0 ∧ year % 400 ≠ 0))) := by
  unfold leap_day is_leap
  by_cases h4 : year % 4 = 0
  · by_cases h100 : year % 100 = 0
    · by_cases h400 : year % 400 = 0 <;> simp [h4, h100, h400]
    · simp [h4, h100]
  · simp [h4]

theorem days_before_next_year (year : Int) :
    days_before_year (year + 1) = days_before_year year + 365 + leap_day year := by
  have hleap := leap_day_cases year
  simp only [days_before_year]
  omega

/-- A year within its cycle of 400 years, its century and its group of four years. -/
structure YearParts (year a b c e : Int) : Prop where
  year_eq : year - 1 = 400 * a + 100 * b + 4 * c + e
  century : 0 ≤ b ∧ b ≤ 3
  group : 0 ≤ c ∧ c ≤ 24
  last : 0 ≤ e ∧ e ≤ 3
  days : days_before_year year = 146097 * a + 36524 * b + 1461 * c + 365 * e
  leap : (leap_day year = 1 ∧ e = 3 ∧ (c ≤ 23 ∨ b = 3)) ∨
    (leap_day year = 0 ∧ (e ≤ 2 ∨ (c = 24 ∧ b ≤ 2)))

theorem year_parts (year : Int) : ∃ a b c e, YearParts year a b c e := by
  refine ⟨(year - 1) / 400, (year - 1) % 400 / 100, (year - 1) % 100 / 4, (year - 1) % 4, ?_⟩
  have hleap := leap_day_cases year
  have hyear : year - 1 = 400 * ((year - 1) / 400) + 100 * ((year - 1) % 400 / 100) +
      4 * ((year - 1) % 100 / 4) + (year - 1) % 4 := by omega
  refine ⟨hyear, by omega, by omega, by omega, ?_, by omega⟩
  simp only [days_before_year]
  omega

/-- Division by a number that the rest does not reach. -/
theorem ediv_emod_of_rest {m n q r : Int} (h : n = m * q + r) (hr : 0 ≤ r) (hm : r < m) :
    n / m = q ∧ n % m = r := by
  have hpos : 0 < m := by omega
  subst h
  rw [Int.mul_add_ediv_left _ _ hpos.ne', Int.mul_add_emod_self_left, Int.ediv_eq_zero_of_lt hr hm,
    Int.emod_eq_of_lt hr hm]
  omega

/-- **The year of a date.** -/
theorem year_of_eq {year d : Int} (hlow : days_before_year year < d)
    (hhigh : d ≤ days_before_year (year + 1)) : year_of d = year := by
  rw [days_before_next_year] at hhigh
  obtain ⟨a, b, c, e, hparts⟩ := year_parts year
  obtain ⟨hyear, hb, hc, he, hdays, hleap⟩ := hparts
  -- the days of the year before `d`
  obtain ⟨r, hr⟩ : ∃ r, r = d - 1 - days_before_year year := ⟨_, rfl⟩
  have hd : d - 1 = 146097 * a + (36524 * b + 1461 * c + 365 * e + r) := by omega
  have hcycle := ediv_emod_of_rest hd (by omega) (by omega)
  simp only [year_of, hcycle.1, hcycle.2]
  by_cases hlast : c = 24 ∧ e = 3 ∧ r = 365
  · -- the last day of the cycle
    obtain ⟨rfl, rfl, rfl⟩ := hlast
    obtain rfl : b = 3 := by omega
    simp
    omega
  · have hcentury := ediv_emod_of_rest
      (show 36524 * b + 1461 * c + 365 * e + r = 36524 * b + (1461 * c + 365 * e + r) by omega)
      (by omega) (by omega)
    have hgroup := ediv_emod_of_rest
      (show 1461 * c + 365 * e + r = 1461 * c + (365 * e + r) by omega) (by omega) (by omega)
    simp only [hcentury.1, hcentury.2, hgroup.1, hgroup.2]
    by_cases hday : r = 365
    · -- the last day of a leap year
      have hyear4 : (365 * e + r) / 365 = 4 := by omega
      rw [hyear4, if_pos (.inl rfl)]
      omega
    · have hlastyear := ediv_emod_of_rest (show 365 * e + r = 365 * e + r from rfl) (by omega)
        (by omega)
      have hinside : ¬ (e = 4 ∨ b = 4) := by omega
      rw [hlastyear.1, if_neg hinside]
      omega

theorem days_before_year_mono {year year' : Int} (h : year ≤ year') :
    days_before_year year ≤ days_before_year year' := by
  simp only [days_before_year]
  omega

/-- Some year has the day. -/
theorem exists_year (d : Int) : ∃ y, days_before_year y < d ∧ d ≤ days_before_year (y + 1) := by
  have hbounded : ∀ y, days_before_year y < d → y ≤ d.natAbs + 1 := by
    intro y hy
    simp only [days_before_year] at hy
    omega
  have hbelow : days_before_year (-d.natAbs) < d := by
    simp only [days_before_year]
    omega
  obtain ⟨y, hy, hmax⟩ := Int.exists_greatest_of_bdd ⟨_, hbounded⟩ ⟨_, hbelow⟩
  refine ⟨y, hy, ?_⟩
  by_contra hnot
  have hnext := hmax (y + 1) (not_le.mp hnot)
  omega

/-- The days of a year. -/
theorem year_of_iff {year d : Int} : year_of d = year ↔
    days_before_year year < d ∧ d ≤ days_before_year (year + 1) := by
  constructor
  · intro h
    obtain ⟨y, hlow, hhigh⟩ := exists_year d
    rw [year_of_eq hlow hhigh] at h
    rw [← h]
    exact ⟨hlow, hhigh⟩
  · rintro ⟨hlow, hhigh⟩
    exact year_of_eq hlow hhigh

/-! ## Months -/

/-- The days before each month. -/
structure MonthTable (year : Int) : Prop where
  january : days_before_month year 1 = 0
  february : days_before_month year 2 = 31
  march : days_before_month year 3 = 59 + leap_day year
  april : days_before_month year 4 = 90 + leap_day year
  may : days_before_month year 5 = 120 + leap_day year
  june : days_before_month year 6 = 151 + leap_day year
  july : days_before_month year 7 = 181 + leap_day year
  august : days_before_month year 8 = 212 + leap_day year
  september : days_before_month year 9 = 243 + leap_day year
  october : days_before_month year 10 = 273 + leap_day year
  november : days_before_month year 11 = 304 + leap_day year
  december : days_before_month year 12 = 334 + leap_day year

theorem month_table (year : Int) : MonthTable year := by
  by_cases hleap : is_leap year = true
  · constructor <;> simp [days_before_month, days_in_month, leap_day, hleap]
  · constructor <;> simp [days_before_month, days_in_month, leap_day, hleap]

theorem days_before_next_month (year : Int) {m : Nat} (hm : m ≠ 0) :
    days_before_month year (m + 1) = days_before_month year m + days_in_month year m := by
  rw [days_before_month, if_neg hm]

/-- The days before a month grow with it. -/
theorem days_before_month_mono (year : Int) {m m' : Nat} (h : m ≤ m') :
    days_before_month year m ≤ days_before_month year m' := by
  induction m', h using Nat.le_induction with
  | base => exact le_rfl
  | succ k hk ih =>
    refine ih.trans ?_
    by_cases hzero : k = 0
    · subst hzero
      rfl
    · rw [days_before_next_month year hzero]
      have hdays : 0 ≤ days_in_month year k := by
        unfold days_in_month
        split
        · split <;> omega
        · split <;> omega
      omega

/-- The search for the month goes down to the one that has the day. -/
theorem month_of_yearday_eq (year : Int) {m k : Nat} {r : Int} (hm : m ≠ 0) (hk : m ≤ k)
    (hlow : days_before_month year m < r) (hhigh : r ≤ days_before_month year (m + 1)) :
    month_of_yearday year r k = m := by
  induction k, hk using Nat.le_induction with
  | base =>
    obtain ⟨m, rfl⟩ := Nat.exists_eq_succ_of_ne_zero hm
    rw [Nat.succ_eq_add_one, month_of_yearday, if_pos hlow]
  | succ k hk ih =>
    have hmono := days_before_month_mono year (Nat.succ_le_succ hk)
    have hnot : ¬ days_before_month year (k + 1) < r := by
      simp only [Nat.succ_eq_add_one] at hmono
      omega
    rw [month_of_yearday, if_neg hnot]
    exact ih

/-- **The parts of a date.** -/
theorem year_month_of {year : Int} {m : Nat} {day : Int} (hm : m ≠ 0) (hm' : m ≤ 12)
    (hday : 1 ≤ day) (hday' : day ≤ days_in_month year m) :
    year_of (ordinal year m day) = year ∧ month_of (ordinal year m day) = m := by
  have hnext := days_before_next_month year hm
  have hfirst := days_before_month_mono year (Nat.one_le_iff_ne_zero.mpr hm)
  have hlast := days_before_month_mono year (Nat.succ_le_succ hm')
  have htable := month_table year
  have hdecember := days_before_next_month year (show 12 ≠ 0 by decide)
  have hyearlast := days_before_next_year year
  have h31 : days_in_month year (12 : Nat) = 31 := rfl
  have hordinal : ordinal year m day =
      days_before_year year + days_before_month year m + day := by
    simp [ordinal]
  rw [htable.january] at hfirst
  rw [h31, htable.december] at hdecember
  simp only [Nat.succ_eq_add_one] at hlast
  have hyear : year_of (ordinal year m day) = year := by
    rw [hordinal]
    exact year_of_eq (by omega) (by omega)
  refine ⟨hyear, ?_⟩
  unfold month_of
  rw [hyear]
  have hmonth : month_of_yearday year (ordinal year m day - days_before_year year) 12 = m :=
    month_of_yearday_eq year hm hm' (by rw [hordinal]; omega) (by rw [hordinal, hnext]; omega)
  exact_mod_cast hmonth

end CaseAutomation.Deadline
