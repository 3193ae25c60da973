import CaseAutomation.Deadline.Gregorian

/-! # Federal Holidays

    What a federal holiday is (`Federal`): a fixed date, or the n-th or last weekday of a month. The
    table of a year has the observed dates of its holidays, eleven different weekdays
    (`mem_holiday_table`, `holiday_table_increasing`).

    The calendar looks a date up in the table of its own year. New Year's Day may be
    observed in the year before, and is missed there (`business_days_iff`).
-/

namespace CaseAutomation.Deadline

/-! ## Dates of a month -/

section months
variable {year d : Int} {m : Nat}

/-- A date is made of its parts. -/
theorem ordinal_of_parts (d : Int) : d = days_before_year (year_of d) +
    days_before_month (year_of d) (month_of d).toNat + day_of d := by
  unfold day_of
  omega

theorem ordinal_eq (year : Int) (m : Nat) (day : Int) :
    ordinal year m day = days_before_year year + days_before_month year m + day := by
  simp [ordinal]

theorem day_of_ordinal {day : Int} (hm : m ≠ 0) (hm' : m ≤ 12) (hday : 1 ≤ day)
    (hday' : day ≤ days_in_month year m) : day_of (ordinal year m day) = day := by
  obtain ⟨hyear, hmonth⟩ := year_month_of hm hm' hday hday'
  have hparts := ordinal_of_parts (ordinal year m day)
  rw [hyear, hmonth, Int.toNat_natCast, ordinal_eq] at hparts
  rw [ordinal_eq]
  omega

/-- The shortest month. -/
theorem days_in_month_ge (year month : Int) : 28 ≤ days_in_month year month := by
  unfold days_in_month
  split
  · split <;> omega
  · split <;> omega

theorem make_date_ok {day : Int} (hyear : 1 ≤ year) (hyear' : year ≤ 9999) (hm : m ≠ 0)
    (hm' : m ≤ 12) (hday : 1 ≤ day) (hday' : day ≤ days_in_month year m) :
    make_date year m day = .ok (ordinal year m day) := by
  unfold make_date
  rw [if_neg (by omega), if_neg (by omega), if_neg (by omega)]

/-- Every month has that day. -/
theorem make_fixed_date {day : Int} (hyear : 1 ≤ year) (hyear' : year ≤ 9999) (hm : m ≠ 0)
    (hm' : m ≤ 12) (hday : 1 ≤ day) (hday' : day ≤ 28) :
    make_date year m day = .ok (ordinal year m day) :=
  make_date_ok hyear hyear' hm hm' hday (hday'.trans (days_in_month_ge year m))

end months

/-! ## Weekdays of a month -/

/-- The `n`-th day of the month that is that weekday. -/
structure NthWeekday (year month wd n d : Int) : Prop where
  year_eq : year_of d = year
  month_eq : month_of d = month
  weekday_eq : weekday d = wd
  week : 7 * (n - 1) < day_of d ∧ day_of d ≤ 7 * n

/-- The last day of the month that is that weekday. -/
structure LastWeekday (year month wd d : Int) : Prop where
  year_eq : year_of d = year
  month_eq : month_of d = month
  weekday_eq : weekday d = wd
  week : days_in_month year month - 7 < day_of d ∧ day_of d ≤ days_in_month year month

section weekdays
variable {year d wd n : Int} {m : Nat}

/-- What `_nth_weekday_of_month` computes. -/
def nth_weekday (year : Int) (m : Nat) (wd n : Int) : Int :=
  ordinal year m 1 + (wd - weekday (ordinal year m 1)) % 7 + (n - 1) * 7

theorem nth_weekday_spec (year : Int) (m : Nat) {wd : Int} (n : Int) (hwd : 0 ≤ wd) (hwd' : wd ≤ 6) :
    weekday (nth_weekday year m wd n) = wd ∧ ∃ day, 7 * (n - 1) < day ∧ day ≤ 7 * n ∧
      nth_weekday year m wd n = ordinal year m day := by
  simp only [nth_weekday, ordinal_eq, weekday]
  refine ⟨by omega, 1 + (wd - (days_before_year year + days_before_month year m + 1 + 6) % 7) % 7 +
    (n - 1) * 7, by omega, by omega, by omega⟩

/-- A date of a month lies as many days behind its first day. -/
theorem eq_ordinal (hyear : year_of d = year) (hmonth : month_of d = m) :
    d = days_before_year year + days_before_month year m + day_of d := by
  have hparts := ordinal_of_parts d
  rwa [hyear, hmonth, Int.toNat_natCast] at hparts

/-- **The n-th weekday.** -/
theorem nth_weekday_iff (hm : m ≠ 0) (hm' : m ≤ 12) (hwd : 0 ≤ wd) (hwd' : wd ≤ 6) (hn : 1 ≤ n)
    (hn' : n ≤ 4) : NthWeekday year m wd n d ↔ d = nth_weekday year m wd n := by
  constructor
  · rintro ⟨hyear, hmonth, hweekday, hweek⟩
    have hd := eq_ordinal hyear hmonth
    simp only [nth_weekday, ordinal_eq, weekday] at hweekday ⊢
    omega
  · rintro rfl
    obtain ⟨hweekday, day, hlow, hhigh, hday⟩ := nth_weekday_spec year m n hwd hwd'
    have hlength := days_in_month_ge year m
    obtain ⟨hyear, hmonth⟩ := year_month_of hm hm' (show 1 ≤ day by omega)
      (show day ≤ days_in_month year m by omega)
    have hdayof : day_of (ordinal year m day) = day :=
      day_of_ordinal hm hm' (by omega) (by omega)
    refine ⟨by rw [hday, hyear], by rw [hday, hmonth], hweekday, ?_⟩
    rw [hday, hdayof]
    exact ⟨hlow, hhigh⟩

theorem nth_weekday_of_month_ok (hyear : 1 ≤ year) (hyear' : year ≤ 9999) (hm : m ≠ 0)
    (hm' : m ≤ 12) (hwd : 0 ≤ wd) (hwd' : wd ≤ 6) (hn : 1 ≤ n) (hn' : n ≤ 4) :
    nth_weekday_of_month year m wd n = .ok (nth_weekday year m wd n) := by
  have hlength := days_in_month_ge year m
  have hmonth := ((nth_weekday_iff hm hm' hwd hwd' hn hn').mpr rfl : NthWeekday year m wd n _).month_eq
  unfold nth_weekday_of_month
  rw [make_date_ok hyear hyear' hm hm' le_rfl (by omega)]
  show (if month_of (nth_weekday year m wd n) ≠ m then _ else _) = _
  rw [if_neg (not_not.mpr hmonth)]
  rfl

/-- What `_last_weekday_of_month` computes. -/
def last_weekday (year : Int) (m : Nat) (wd : Int) : Int :=
  ordinal year m (days_in_month year m) - (weekday (ordinal year m (days_in_month year m)) - wd) % 7

theorem last_weekday_spec (year : Int) (m : Nat) {wd : Int} (hwd : 0 ≤ wd) (hwd' : wd ≤ 6) :
    weekday (last_weekday year m wd) = wd ∧ ∃ day, days_in_month year m - 7 < day ∧
      day ≤ days_in_month year m ∧ last_weekday year m wd = ordinal year m day := by
  simp only [last_weekday, ordinal_eq, weekday]
  refine ⟨by omega, days_in_month year m - ((days_before_year year + days_before_month year m +
    days_in_month year m + 6) % 7 - wd) % 7, by omega, by omega, by omega⟩

/-- **The last weekday.** -/
theorem last_weekday_iff (hm : m ≠ 0) (hm' : m ≤ 12) (hwd : 0 ≤ wd) (hwd' : wd ≤ 6) :
    LastWeekday year m wd d ↔ d = last_weekday year m wd := by
  have hlength := days_in_month_ge year m
  constructor
  · rintro ⟨hyear, hmonth, hweekday, hweek⟩
    have hd := eq_ordinal hyear hmonth
    simp only [last_weekday, ordinal_eq, weekday] at hweekday ⊢
    omega
  · rintro rfl
    obtain ⟨hweekday, day, hlow, hhigh, hday⟩ := last_weekday_spec year m hwd hwd'
    obtain ⟨hyear, hmonth⟩ := year_month_of hm hm' (show 1 ≤ day by omega) hhigh
    have hdayof : day_of (ordinal year m day) = day := day_of_ordinal hm hm' (by omega) hhigh
    refine ⟨by rw [hday, hyear], by rw [hday, hmonth], hweekday, ?_⟩
    rw [hday, hdayof]
    exact ⟨hlow, hhigh⟩

/-- In May: the day before the first of June. -/
theorem last_weekday_of_may_ok (hyear : 1 ≤ year) (hyear' : year ≤ 9999) :
    last_weekday_of_month year 5 wd = .ok (last_weekday year 5 wd) := by
  have hjune : make_date year (6 : Nat) 1 = .ok (ordinal year (6 : Nat) 1) :=
    make_fixed_date hyear hyear' (by decide) (by decide) le_rfl (by decide)
  have hlast : ordinal year (6 : Nat) 1 - 1 = ordinal year (5 : Nat) (days_in_month year (5 : Nat)) := by
    rw [ordinal_eq, ordinal_eq, days_before_next_month year (show 5 ≠ 0 by decide),
      add_sub_cancel_right, add_assoc]
  unfold last_weekday_of_month
  show (make_date year (6 : Nat) 1).bind _ = _
  rw [hjune]
  show Except.ok (ordinal year (6 : Nat) 1 - 1 - (weekday (ordinal year (6 : Nat) 1 - 1) - wd) % 7) = _
  rw [hlast]
  rfl

end weekdays

/-! ## The table of a year -/

/-- A federal holiday of the year, on its own date. -/
def Federal (year d : Int) : Prop :=
  d = ordinal year 1 1 ∨                -- New Year's Day
  NthWeekday year 1 0 3 d ∨             -- the third Monday of January
  NthWeekday year 2 0 3 d ∨             -- the third Monday of February
  LastWeekday year 5 0 d ∨              -- the last Monday of May
  d = ordinal year 6 19 ∨               -- Juneteenth
  d = ordinal year 7 4 ∨                -- Independence Day
  NthWeekday year 9 0 1 d ∨             -- the first Monday of September
  NthWeekday year 10 0 2 d ∨            -- the second Monday of October
  d = ordinal year 11 11 ∨              -- Veterans Day
  NthWeekday year 11 3 4 d ∨            -- the fourth Thursday of November
  d = ordinal year 12 25                -- Christmas Day

/-- The table, as it is computed for the years that a date can have. -/
def holiday_table (year : Int) : List Int :=
  [observed (ordinal year 1 1), nth_weekday year 1 0 3, nth_weekday year 2 0 3, last_weekday year 5 0,
    observed (ordinal year 6 19), observed (ordinal year 7 4), nth_weekday year 9 0 1,
    nth_weekday year 10 0 2, observed (ordinal year 11 11), nth_weekday year 11 3 4,
    observed (ordinal year 12 25)]

section table
variable {year d : Int}

theorem us_federal_holidays_ok (hyear : 1 ≤ year) (hyear' : year ≤ 9999) :
    us_federal_holidays year = .ok (holiday_table year) := by
  have hfixed : ∀ (m : Nat) (day : Int), m ≠ 0 ∧ m ≤ 12 ∧ 1 ≤ day ∧ day ≤ 28 →
      make_date year m day = .ok (ordinal year m day) := by
    rintro m day ⟨hm, hm', hday, hday'⟩
    exact make_fixed_date hyear hyear' hm hm' hday hday'
  have hnth : ∀ (m : Nat) (wd n : Int), m ≠ 0 ∧ m ≤ 12 ∧ 0 ≤ wd ∧ wd ≤ 6 ∧ 1 ≤ n ∧ n ≤ 4 →
      nth_weekday_of_month year m wd n = .ok (nth_weekday year m wd n) := by
    rintro m wd n ⟨hm, hm', hwd, hwd', hn, hn'⟩
    exact nth_weekday_of_month_ok hyear hyear' hm hm' hwd hwd' hn hn'
  have hnew_year : make_date year 1 1 = .ok (ordinal year 1 1) := hfixed 1 1 (by decide)
  have hmlk : nth_weekday_of_month year 1 0 3 = .ok (nth_weekday year 1 0 3) := hnth 1 0 3 (by decide)
  have hpresidents : nth_weekday_of_month year 2 0 3 = .ok (nth_weekday year 2 0 3) :=
    hnth 2 0 3 (by decide)
  have hjuneteenth : make_date year 6 19 = .ok (ordinal year 6 19) := hfixed 6 19 (by decide)
  have hindependence : make_date year 7 4 = .ok (ordinal year 7 4) := hfixed 7 4 (by decide)
  have hlabor : nth_weekday_of_month year 9 0 1 = .ok (nth_weekday year 9 0 1) :=
    hnth 9 0 1 (by decide)
  have hcolumbus : nth_weekday_of_month year 10 0 2 = .ok (nth_weekday year 10 0 2) :=
    hnth 10 0 2 (by decide)
  have hveterans : make_date year 11 11 = .ok (ordinal year 11 11) := hfixed 11 11 (by decide)
  have hthanksgiving : nth_weekday_of_month year 11 3 4 = .ok (nth_weekday year 11 3 4) :=
    hnth 11 3 4 (by decide)
  have hchristmas : make_date year 12 25 = .ok (ordinal year 12 25) := hfixed 12 25 (by decide)
  unfold us_federal_holidays
  rw [hnew_year, hmlk, hpresidents, last_weekday_of_may_ok hyear hyear', hjuneteenth, hindependence,
    hlabor, hcolumbus, hveterans, hthanksgiving, hchristmas]
  rfl

/-- A holiday on a weekend moves by one day. -/
theorem observed_cases (d : Int) : ∃ o : Int, observed d = o ∧ ((weekday d ≤ 4 ∧ o = d) ∨
    (weekday d = 5 ∧ o = d - 1) ∨ (weekday d = 6 ∧ o = d + 1)) := by
  unfold observed
  by_cases hsaturday : weekday d = 5
  · rw [if_pos hsaturday]
    exact ⟨d - 1, rfl, .inr (.inl ⟨hsaturday, rfl⟩)⟩
  · rw [if_neg hsaturday]
    by_cases hsunday : weekday d = 6
    · rw [if_pos hsunday]
      exact ⟨d + 1, rfl, .inr (.inr ⟨hsunday, rfl⟩)⟩
    · rw [if_neg hsunday]
      refine ⟨d, rfl, .inl ⟨?_, rfl⟩⟩
      simp only [weekday] at hsaturday hsunday ⊢
      omega

theorem observed_weekday {d : Int} (h : weekday d ≤ 4) : observed d = d := by
  obtain ⟨o, ho, hcases⟩ := observed_cases d
  have hsame : o = d := by omega
  rw [ho, hsame]

/-- **The table has the observed dates of the holidays.** -/
theorem mem_holiday_table (year d : Int) :
    d ∈ holiday_table year ↔ ∃ h, Federal year h ∧ observed h = d := by
  have hnth : ∀ (m : Nat) (wd n : Int), m ≠ 0 ∧ m ≤ 12 ∧ 0 ≤ wd ∧ wd ≤ 4 ∧ 1 ≤ n ∧ n ≤ 4 →
      ∀ h, NthWeekday year m wd n h ↔ h = nth_weekday year m wd n := by
    rintro m wd n ⟨hm, hm', hwd, hwd', hn, hn'⟩ h
    exact nth_weekday_iff hm hm' hwd (by omega) hn hn'
  have hmlk : ∀ h, NthWeekday year 1 0 3 h ↔ h = nth_weekday year 1 0 3 := hnth 1 0 3 (by decide)
  have hpresidents : ∀ h, NthWeekday year 2 0 3 h ↔ h = nth_weekday year 2 0 3 :=
    hnth 2 0 3 (by decide)
  have hmemorial : ∀ h, LastWeekday year 5 0 h ↔ h = last_weekday year 5 0 := fun h =>
    last_weekday_iff (m := 5) (by decide) (by decide) (by decide) (by decide)
  have hlabor : ∀ h, NthWeekday year 9 0 1 h ↔ h = nth_weekday year 9 0 1 := hnth 9 0 1 (by decide)
  have hcolumbus : ∀ h, NthWeekday year 10 0 2 h ↔ h = nth_weekday year 10 0 2 :=
    hnth 10 0 2 (by decide)
  have hthanksgiving : ∀ h, NthWeekday year 11 3 4 h ↔ h = nth_weekday year 11 3 4 :=
    hnth 11 3 4 (by decide)
  -- a holiday that is a weekday by its rule is observed on its own date
  have hweekday : ∀ (m : Nat) (wd n : Int), 0 ≤ wd → wd ≤ 4 →
      observed (nth_weekday year m wd n) = nth_weekday year m wd n := by
    intro m wd n hwd hwd'
    refine observed_weekday ?_
    rw [(nth_weekday_spec year m n hwd (by omega)).1]
    exact hwd'
  have hlastday : observed (last_weekday year 5 0) = last_weekday year 5 0 := by
    refine observed_weekday ?_
    rw [(last_weekday_spec year 5 le_rfl (by decide)).1]
    decide
  have h0 : (0 : Int) ≤ 0 ∧ (0 : Int) ≤ 4 := by decide
  have h3 : (0 : Int) ≤ 3 ∧ (3 : Int) ≤ 4 := by decide
  simp only [holiday_table, Federal, List.mem_cons, List.not_mem_nil, or_false, hmlk, hpresidents,
    hmemorial, hlabor, hcolumbus, hthanksgiving, or_and_right, exists_or, exists_eq_left,
    hweekday _ 0 _ h0.1 h0.2, hweekday _ 3 _ h3.1 h3.2, hlastday, eq_comm (a := d)]

/-- Where a fixed holiday is observed. -/
theorem fixed_holiday (year : Int) (m : Nat) (day : Int) : ∃ o : Int,
    observed (ordinal year m day) = o ∧ weekday o ≤ 4 ∧
    days_before_year year + days_before_month year m + day - 1 ≤ o ∧
    o ≤ days_before_year year + days_before_month year m + day + 1 ∧
    (o = days_before_year year + days_before_month year m + day - 1 → weekday o = 4) := by
  rw [ordinal_eq]
  obtain ⟨o, ho, hcases⟩ := observed_cases (days_before_year year + days_before_month year m + day)
  refine ⟨o, ho, ?_⟩
  simp only [weekday] at hcases ⊢
  omega

/-- Where the `n`-th weekday of a month lies. -/
theorem nth_holiday (year : Int) (m : Nat) (wd n : Int) (hwd : 0 ≤ wd) (hwd' : wd ≤ 4) :
    ∃ o : Int, nth_weekday year m wd n = o ∧ weekday o ≤ 4 ∧
      days_before_year year + days_before_month year m + 7 * (n - 1) < o ∧
      o ≤ days_before_year year + days_before_month year m + 7 * n := by
  obtain ⟨hweekday, day, hlow, hhigh, hday⟩ := nth_weekday_spec year m n hwd (by omega)
  rw [ordinal_eq] at hday
  refine ⟨_, rfl, hweekday.le.trans hwd', ?_⟩
  omega

/-- A weekday of the year before its last days, or the Friday before its first day. -/
structure TableDay (year d : Int) : Prop where
  weekday_le : weekday d ≤ 4
  low : days_before_year year ≤ d
  high : d ≤ days_before_year year + 361
  first : d = days_before_year year → weekday d = 4

theorem TableDay.of_fixed {m : Nat} {day : Int} (hlow : 1 ≤ days_before_month year m + day)
    (hhigh : days_before_month year m + day ≤ 360) : TableDay year (observed (ordinal year m day)) := by
  obtain ⟨o, ho, hweekday, hl, hh, hfriday⟩ := fixed_holiday year m day
  rw [ho]
  refine ⟨hweekday, by omega, by omega, ?_⟩
  intro hfirst
  exact hfriday (by omega)

theorem TableDay.of_nth {m : Nat} {wd n : Int} (hwd : 0 ≤ wd) (hwd' : wd ≤ 4)
    (hlow : 0 ≤ days_before_month year m + 7 * (n - 1))
    (hhigh : days_before_month year m + 7 * n ≤ 361) : TableDay year (nth_weekday year m wd n) := by
  obtain ⟨o, ho, hweekday, hl, hh⟩ := nth_holiday year m wd n hwd hwd'
  rw [ho]
  exact ⟨hweekday, by omega, by omega, fun hfirst => by omega⟩

/-- Where Memorial Day lies. -/
theorem memorial_day (year : Int) : ∃ o : Int, last_weekday year 5 0 = o ∧ weekday o ≤ 4 ∧
    days_before_year year + days_before_month year (5 : Nat) + 24 < o ∧
    o ≤ days_before_year year + days_before_month year (5 : Nat) + 31 := by
  obtain ⟨hweekday, day, hlow, hhigh, hday⟩ := last_weekday_spec year 5 (le_refl 0) (by decide)
  have hmay : days_in_month year (5 : Nat) = 31 := rfl
  rw [hmay] at hlow hhigh
  rw [ordinal_eq] at hday
  refine ⟨_, rfl, ?_, by omega, by omega⟩
  rw [hweekday]
  decide

/-- The table is in order. -/
theorem holiday_table_increasing (year : Int) : (holiday_table year).Pairwise (· < ·) := by
  have htable := month_table year
  have hleap := leap_day_cases year
  obtain ⟨o₁, ho₁, -, hl₁, hh₁, -⟩ := fixed_holiday year 1 1
  obtain ⟨o₂, ho₂, -, hl₂, hh₂⟩ := nth_holiday year 1 0 3 (by decide) (by decide)
  obtain ⟨o₃, ho₃, -, hl₃, hh₃⟩ := nth_holiday year 2 0 3 (by decide) (by decide)
  obtain ⟨o₄, ho₄, -, hl₄, hh₄⟩ := memorial_day year
  obtain ⟨o₅, ho₅, -, hl₅, hh₅, -⟩ := fixed_holiday year 6 19
  obtain ⟨o₆, ho₆, -, hl₆, hh₆, -⟩ := fixed_holiday year 7 4
  obtain ⟨o₇, ho₇, -, hl₇, hh₇⟩ := nth_holiday year 9 0 1 (by decide) (by decide)
  obtain ⟨o₈, ho₈, -, hl₈, hh₈⟩ := nth_holiday year 10 0 2 (by decide) (by decide)
  obtain ⟨o₉, ho₉, -, hl₉, hh₉, -⟩ := fixed_holiday year 11 11
  obtain ⟨o₁₀, ho₁₀, -, hl₁₀, hh₁₀⟩ := nth_holiday year 11 3 4 (by decide) (by decide)
  obtain ⟨o₁₁, ho₁₁, -, hl₁₁, hh₁₁, -⟩ := fixed_holiday year 12 25
  rw [htable.january] at hl₁ hh₁ hl₂ hh₂
  rw [htable.february] at hl₃ hh₃
  rw [htable.may] at hl₄ hh₄
  rw [htable.june] at hl₅ hh₅
  rw [htable.july] at hl₆ hh₆
  rw [htable.september] at hl₇ hh₇
  rw [htable.october] at hl₈ hh₈
  rw [htable.november] at hl₉ hh₉ hl₁₀ hh₁₀
  rw [htable.december] at hl₁₁ hh₁₁
  -- the windows of the holidays follow one another
  have hlist : holiday_table year = [o₁, o₂, o₃, o₄, o₅, o₆, o₇, o₈, o₉, o₁₀, o₁₁] := by
    rw [← ho₁, ← ho₂, ← ho₃, ← ho₄, ← ho₅, ← ho₆, ← ho₇, ← ho₈, ← ho₉, ← ho₁₀, ← ho₁₁]
    rfl
  rw [hlist, ← List.isChain_iff_pairwise]
  simp only [List.isChain_cons_cons, List.IsChain.singleton, and_true]
  omega

/-- The table lies within the year, but for a New Year's Day that is observed on the day before it. -/
theorem holiday_table_day (hmem : d ∈ holiday_table year) : TableDay year d := by
  have htable := month_table year
  have hleap := leap_day_cases year
  have hmemorial : TableDay year (last_weekday year 5 0) := by
    obtain ⟨o, ho, hweekday, hlow, hhigh⟩ := memorial_day year
    rw [htable.may] at hlow hhigh
    rw [ho]
    exact ⟨hweekday, by omega, by omega, fun hfirst => by omega⟩
  have hjanuary : days_before_month year (1 : Nat) = 0 := htable.january
  have hfebruary : days_before_month year (2 : Nat) = 31 := htable.february
  have hjune := htable.june
  have hjuly := htable.july
  have hseptember := htable.september
  have hoctober := htable.october
  have hnovember := htable.november
  have hdecember := htable.december
  have hall : ∀ d ∈ holiday_table year, TableDay year d := by
    simp only [holiday_table, List.forall_mem_cons]
    refine ⟨TableDay.of_fixed (m := 1) (by omega) (by omega),
      TableDay.of_nth (by decide) (by decide) (by omega) (by omega),
      TableDay.of_nth (by decide) (by decide) (by omega) (by omega), hmemorial,
      TableDay.of_fixed (m := 6) (by omega) (by omega), TableDay.of_fixed (m := 7) (by omega) (by omega),
      TableDay.of_nth (by decide) (by decide) (by omega) (by omega),
      TableDay.of_nth (by decide) (by decide) (by omega) (by omega),
      TableDay.of_fixed (m := 11) (by omega) (by omega),
      TableDay.of_nth (by decide) (by decide) (by omega) (by omega),
      TableDay.of_fixed (m := 12) (by omega) (by omega), List.forall_mem_nil _⟩
  exact hall d hmem

end table

/-! ## Business days -/

section business
variable {d : Int}

/-- What `is_business_day` answers. -/
theorem is_business_day_supported (h : supported_year (year_of d) = true) :
    is_business_day d = .ok (decide (weekday d ≤ 4 ∧ d ∉ holiday_table (year_of d))) := by
  have hyears : 2020 ≤ year_of d ∧ year_of d ≤ 2040 := of_decide_eq_true h
  unfold is_business_day
  by_cases hweekend : 5 ≤ weekday d
  · have hnot : ¬ weekday d ≤ 4 := by omega
    rw [if_pos hweekend]
    simp [hnot]
  · have hweekday : weekday d ≤ 4 := by omega
    rw [if_neg hweekend]
    unfold holidays
    rw [if_pos h, us_federal_holidays_ok (by omega) (by omega)]
    show Except.ok _ = _
    simp [hweekday]

/-- A date is in the table of another year only as the New Year's Day that is observed on the
    last day of its own year, a Friday. -/
theorem mem_other_table {year : Int} (hmem : d ∈ holiday_table year) (hne : year ≠ year_of d) :
    year = year_of d + 1 ∧ d = days_before_year year ∧ weekday d = 4 := by
  obtain ⟨hweekday, hlow, hhigh, hfriday⟩ := holiday_table_day hmem
  have hnext := days_before_next_year year
  have hleap := leap_day_cases year
  obtain ⟨hstart, hend⟩ := year_of_iff.mp (rfl : year_of d = year_of d)
  -- inside of the year of the table it would be a date of that year
  have hlast : d = days_before_year year := by
    by_contra hnot
    exact hne (year_of_eq (by omega) (by omega)).symm
  have hprevious : year_of d = year - 1 := by
    have hbefore := days_before_next_year (year - 1)
    have hleap' := leap_day_cases (year - 1)
    rw [sub_add_cancel] at hbefore
    exact year_of_eq (by omega) (by rw [sub_add_cancel]; omega)
  exact ⟨by omega, hlast, hfriday hlast⟩

/-- The last day of a year is the 31st of December. -/
theorem december_31_iff : month_of d = 12 ∧ day_of d = 31 ↔
    d = days_before_year (year_of d + 1) := by
  have htable := month_table (year_of d)
  have hnext := days_before_next_year (year_of d)
  constructor
  · rintro ⟨hmonth, hday⟩
    have hparts := eq_ordinal (m := 12) (rfl : year_of d = year_of d) hmonth
    rw [htable.december, hday] at hparts
    omega
  · intro hd
    have hordinal : d = ordinal (year_of d) (12 : Nat) 31 := by
      rw [ordinal_eq, htable.december]
      omega
    have h31 : (31 : Int) ≤ days_in_month (year_of d) (12 : Nat) := le_rfl
    obtain ⟨-, hmonth⟩ := year_month_of (m := 12) (by decide) le_rfl (by decide) h31
    have hday := day_of_ordinal (m := 12) (by decide) le_rfl (by decide) h31
    rw [← hordinal] at hmonth hday
    exact ⟨hmonth, hday⟩

/-- New Year's Day on a Saturday is observed in the year before. -/
theorem new_year_eve {year d : Int} (hfriday : weekday d = 4) (hlast : d = days_before_year year) :
    d = observed (ordinal year 1 1) := by
  have hjanuary : ordinal year 1 1 = days_before_year year + days_before_month year (1 : Nat) + 1 :=
    ordinal_eq year 1 1
  rw [(month_table year).january] at hjanuary
  obtain ⟨o, ho, hcases⟩ := observed_cases (ordinal year 1 1)
  rw [ho]
  rw [hjanuary] at hcases
  simp only [weekday] at hfriday hcases
  omega

end business

/-- **Business days, but for the last Friday of a year.** In the supported years a date is a business
    day exactly if it is a weekday on which no federal holiday of any year is observed, unless it is a
    Friday, the 31st of December: there the New Year's Day of the next year is observed, and the
    date still counts as a business day. And the table of every year has eleven different
    weekdays. -/
theorem business_days_iff (d : Date) :
    (supported_year (year_of d) = true →
      ((is_business_day d = .ok true ↔
          weekday d ≤ 4 ∧ ∀ year h, Federal year h → observed h ≠ d) ↔
        ¬ (weekday d = 4 ∧ month_of d = 12 ∧ day_of d = 31))) ∧
    ∀ year : Int, 1 ≤ year → year ≤ 9999 → ∃ hs, us_federal_holidays year = .ok hs ∧
      hs.length = 11 ∧ hs.Nodup ∧ ∀ h ∈ hs, weekday h ≤ 4 := by
  constructor
  · intro hsupported
    rw [is_business_day_supported hsupported, december_31_iff]
    have hbusiness : (Except.ok (decide (weekday d ≤ 4 ∧ d ∉ holiday_table (year_of d))) :
        Except Exn Bool) = .ok true ↔ weekday d ≤ 4 ∧ d ∉ holiday_table (year_of d) := by
      simp
    have hobserved : (∀ year h, Federal year h → observed h ≠ d) ↔
        ∀ year, d ∉ holiday_table year := by
      constructor
      · intro hall year hmem
        obtain ⟨h, hfederal, hd⟩ := (mem_holiday_table year d).mp hmem
        exact hall year h hfederal hd
      · intro hall year h hfederal hd
        exact hall year ((mem_holiday_table year d).mpr ⟨h, hfederal, hd⟩)
    rw [hbusiness, hobserved]
    constructor
    · rintro hsame ⟨hfriday, hlast⟩
      -- the New Year's Day of the next year is observed today
      have hnew_year : d ∈ holiday_table (year_of d + 1) := by
        unfold holiday_table
        rw [← new_year_eve hfriday hlast]
        exact List.mem_cons_self
      have hnot : d ∉ holiday_table (year_of d) := by
        intro hmem
        have hhigh := (holiday_table_day hmem).high
        have hnext := days_before_next_year (year_of d)
        have hleap := leap_day_cases (year_of d)
        omega
      exact (hsame.mp ⟨hfriday.le, hnot⟩).2 _ hnew_year
    · intro hbut
      constructor
      · -- no other table has the date
        rintro ⟨hweekday, hown⟩
        refine ⟨hweekday, ?_⟩
        intro year hmem
        by_cases hsame : year = year_of d
        · exact hown (hsame ▸ hmem)
        · obtain ⟨hyear, hlast, hfriday⟩ := mem_other_table hmem hsame
          exact hbut ⟨hfriday, by rw [← hyear]; exact hlast⟩
      · rintro ⟨hweekday, hall⟩
        exact ⟨hweekday, hall _⟩
  · intro year hyear hyear'
    refine ⟨holiday_table year, us_federal_holidays_ok hyear hyear', rfl, ?_, fun h hmem =>
      (holiday_table_day hmem).weekday_le⟩
    exact (holiday_table_increasing year).imp ne_of_lt

/-- The 31st of December 2021 is a Friday, and the New Year's Day of 2022 is observed on it. -/
theorem new_year_2022 : ¬ ∀ d : Date, supported_year (year_of d) = true →
    (is_business_day d = .ok true ↔
      weekday d ≤ 4 ∧ ∀ year h, Federal year h → observed h ≠ d) := by
  intro hclaim
  have hbusiness : is_business_day (ordinal 2021 12 31) = .ok true := by decide +kernel
  have hobserved : observed (ordinal 2022 1 1) = ordinal 2021 12 31 := by decide +kernel
  have hall := ((hclaim (ordinal 2021 12 31) (by decide +kernel)).mp hbusiness).2
  exact hall 2022 (ordinal 2022 1 1) (.inl rfl) hobserved

end CaseAutomation.Deadline
