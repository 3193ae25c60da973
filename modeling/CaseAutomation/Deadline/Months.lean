import CaseAutomation.Deadline.DueDates

/-! # Months and Years

    `_apply_offset` replaces the year and then the year and month of the trigger. The month is the one
    that is meant. If it has no such day the code takes the 28th, where the month ends
    on the 28th only in February (`replace_year_month_spec`).
-/

namespace CaseAutomation.Deadline

open Framework

/-! ## The parts of a date -/

/-- The month is among the first `k`. -/
theorem month_of_yearday_spec (year : Int) {r : Int} (hr : 1 ≤ r) {k : Nat}
    (hk : r ≤ days_before_month year (k + 1)) :
    1 ≤ month_of_yearday year r k ∧ month_of_yearday year r k ≤ k ∧
      days_before_month year (month_of_yearday year r k) < r ∧
      r ≤ days_before_month year (month_of_yearday year r k + 1) := by
  induction k with
  | zero =>
    have hjanuary := (month_table year).january
    simp only [Nat.zero_add] at hk
    omega
  | succ k ih =>
    rw [month_of_yearday]
    by_cases hlow : days_before_month year (k + 1) < r
    · rw [if_pos hlow]
      exact ⟨by omega, le_rfl, hlow, hk⟩
    · rw [if_neg hlow]
      obtain ⟨hfirst, hlast, hbounds⟩ := ih (by omega)
      exact ⟨hfirst, by omega, hbounds⟩

/-- What the parts of a date are. -/
structure Parts (d year : Int) (m : Nat) (day : Int) : Prop where
  year_eq : year_of d = year
  month_eq : month_of d = m
  day_eq : day_of d = day
  month_range : 1 ≤ m ∧ m ≤ 12
  day_range : 1 ≤ day ∧ day ≤ days_in_month year m
  date_eq : d = days_before_year year + days_before_month year m + day

theorem parts_of_ordinal {year day : Int} {m : Nat} (hm : 1 ≤ m) (hm' : m ≤ 12) (hday : 1 ≤ day)
    (hday' : day ≤ days_in_month year m) : Parts (ordinal year m day) year m day := by
  have hne : m ≠ 0 := by omega
  obtain ⟨hyear, hmonth⟩ := year_month_of hne hm' hday hday'
  exact ⟨hyear, hmonth, day_of_ordinal hne hm' hday hday', ⟨hm, hm'⟩, ⟨hday, hday'⟩,
    ordinal_eq year m day⟩

/-- **Every date has its parts.** -/
theorem exists_parts (d : Int) : ∃ m : Nat, Parts d (year_of d) m (day_of d) := by
  obtain ⟨hlow, hhigh⟩ := year_of_iff.mp (rfl : year_of d = year_of d)
  have hdecember := days_before_next_month (year_of d) (show 12 ≠ 0 by decide)
  have hlength : days_in_month (year_of d) (12 : Nat) = 31 := rfl
  have htable := month_table (year_of d)
  rw [days_before_next_year] at hhigh
  rw [hlength, htable.december] at hdecember
  have hspec := month_of_yearday_spec (year_of d) (r := d - days_before_year (year_of d)) (k := 12)
    (by omega) (by omega)
  obtain ⟨hfirst, hlast, hstart, hend⟩ := hspec
  obtain ⟨m, hm⟩ : ∃ m, m = month_of_yearday (year_of d) (d - days_before_year (year_of d)) 12 :=
    ⟨_, rfl⟩
  have hmonth : month_of d = m := by
    rw [hm]
    rfl
  rw [← hm] at hfirst hlast hstart hend
  rw [days_before_next_month _ (by omega)] at hend
  have hparts := eq_ordinal (rfl : year_of d = year_of d) hmonth
  exact ⟨m, rfl, hmonth, rfl, ⟨hfirst, hlast⟩, by omega, hparts⟩

/-! ## Counting months -/

/-- The months from the beginning of the year 0 on. -/
def month_number (d : Date) : Int := 12 * year_of d + (month_of d - 1)

/-- The days of a month that is counted so. -/
def length_of_month (k : Int) : Int := days_in_month (k / 12) (k % 12 + 1)

section order
variable {d d' : Int}

theorem month_number_eq {year day : Int} {m : Nat} (h : Parts d year m day) :
    month_number d / 12 = year ∧ month_number d % 12 + 1 = m := by
  have hyear := h.year_eq
  have hmonth := h.month_eq
  have hrange := h.month_range
  unfold month_number
  omega

/-- Dates of an earlier month are earlier. -/
theorem lt_of_month_lt (h : month_number d < month_number d') : d < d' := by
  obtain ⟨m, hparts⟩ := exists_parts d
  obtain ⟨m', hparts'⟩ := exists_parts d'
  obtain ⟨-, hmonth, -, hrange, hday, hdate⟩ := hparts
  obtain ⟨-, hmonth', -, hrange', hday', hdate'⟩ := hparts'
  unfold month_number at h
  by_cases hyear : year_of d = year_of d'
  · -- the days before a month of the year
    rw [hyear] at hdate hday
    have hnext := days_before_next_month (year_of d') (show m ≠ 0 by omega)
    have hmono := days_before_month_mono (year_of d') (show m + 1 ≤ m' by omega)
    omega
  · have hlast := (year_of_iff.mp (rfl : year_of d = year_of d)).2
    have hfirst := (year_of_iff.mp (rfl : year_of d' = year_of d')).1
    have hmono := days_before_year_mono (show year_of d + 1 ≤ year_of d' by omega)
    omega

theorem month_number_mono (h : d ≤ d') : month_number d ≤ month_number d' := by
  by_contra hnot
  have hlt := lt_of_month_lt (not_le.mp hnot)
  omega

/-- Within a month the day decides. -/
theorem le_iff_day_le (h : month_number d = month_number d') : d ≤ d' ↔ day_of d ≤ day_of d' := by
  obtain ⟨m, hparts⟩ := exists_parts d
  obtain ⟨m', hparts'⟩ := exists_parts d'
  obtain ⟨hyear, hmonth⟩ := month_number_eq hparts
  obtain ⟨hyear', hmonth'⟩ := month_number_eq hparts'
  have hsame : year_of d = year_of d' := by omega
  have hsame' : m = m' := by omega
  have hdate := hparts.date_eq
  have hdate' := hparts'.date_eq
  rw [hsame, hsame'] at hdate
  omega

end order

/-! ## Replacing the year and the month -/

section replace
variable {t r : DateTime} {year : Int} {m : Nat}

theorem make_date_ok_iff {month day : Int} {d : Date} : make_date year month day = .ok d ↔
    (1 ≤ year ∧ year ≤ 9999) ∧ (1 ≤ month ∧ month ≤ 12) ∧ (1 ≤ day ∧ day ≤ days_in_month year month) ∧
      d = ordinal year month day := by
  unfold make_date
  by_cases hyear : year < 1 ∨ 9999 < year
  · rw [if_pos hyear]
    exact ⟨fun h => (by cases h), fun h => (by omega)⟩
  · rw [if_neg hyear]
    by_cases hmonth : month < 1 ∨ 12 < month
    · rw [if_pos hmonth]
      exact ⟨fun h => (by cases h), fun h => (by omega)⟩
    · rw [if_neg hmonth]
      by_cases hday : day < 1 ∨ days_in_month year month < day
      · rw [if_pos hday]
        exact ⟨fun h => (by cases h), fun h => (by omega)⟩
      · rw [if_neg hday, Except.ok.injEq]
        constructor
        · intro h
          exact ⟨by omega, by omega, by omega, h.symm⟩
        · rintro ⟨-, -, -, h⟩
          exact h.symm

/-- The day of the month that the code gives to a date. -/
def kept_day (day length : Int) : Int := if day ≤ length then day else 28

theorem kept_day_of_le {day length : Int} (h : day ≤ length) : kept_day day length = day := if_pos h

theorem kept_day_of_lt {day length : Int} (h : ¬ day ≤ length) : kept_day day length = 28 := if_neg h

theorem replace_year_month_spec (hm : 1 ≤ m ∧ m ≤ 12) (h : replace_year_month t year m = .ok r) :
    Parts r.date year m (kept_day (day_of t.date) (days_in_month year m)) := by
  obtain ⟨m', hparts⟩ := exists_parts t.date
  have hfirst := hparts.day_range.1
  unfold replace_year_month at h
  cases hdate : make_date year m (day_of t.date) with
  | ok d =>
    rw [hdate] at h
    cases h
    obtain ⟨-, -, hday, rfl⟩ := make_date_ok_iff.mp hdate
    rw [kept_day_of_le hday.2]
    exact parts_of_ordinal hm.1 hm.2 hday.1 hday.2
  | error e =>
    rw [hdate] at h
    obtain ⟨d, hlast, h⟩ := ok_of_bind h
    cases h
    obtain ⟨hyear, hmonth, hday, rfl⟩ := make_date_ok_iff.mp hlast
    -- the year and the month are in range, so there is no such day
    have hmissing : ¬ day_of t.date ≤ days_in_month year m := by
      intro hle
      cases hdate.symm.trans (make_date_ok_iff.mpr ⟨hyear, hmonth, ⟨hfirst, hle⟩, rfl⟩)
    rw [kept_day_of_lt hmissing]
    exact parts_of_ordinal hm.1 hm.2 hday.1 hday.2

/-- **The year part.** -/
theorem add_years_spec {years : Int} (h : add_years t years = .ok r) :
    month_number r.date = month_number t.date + 12 * years ∧
      day_of r.date = kept_day (day_of t.date) (length_of_month (month_number r.date)) := by
  obtain ⟨m, hparts⟩ := exists_parts t.date
  obtain ⟨hyear, hmonth⟩ := month_number_eq hparts
  unfold add_years at h
  by_cases hzero : years = 0
  · rw [if_pos hzero] at h
    cases h
    refine ⟨by omega, ?_⟩
    rw [length_of_month, hyear, hmonth, kept_day_of_le hparts.day_range.2]
  · rw [if_neg hzero, hparts.month_eq] at h
    have hmoved := replace_year_month_spec hparts.month_range h
    obtain ⟨hyear', hmonth'⟩ := month_number_eq hmoved
    refine ⟨by omega, ?_⟩
    rw [length_of_month, hyear', hmonth', hmoved.day_eq]

/-- **The month part.** -/
theorem add_months_spec {months : Int} (h : add_months t months = .ok r) :
    month_number r.date = month_number t.date + months ∧
      day_of r.date = kept_day (day_of t.date) (length_of_month (month_number r.date)) := by
  obtain ⟨m, hparts⟩ := exists_parts t.date
  obtain ⟨hyear, hmonth⟩ := month_number_eq hparts
  unfold add_months at h
  by_cases hzero : months = 0
  · rw [if_pos hzero] at h
    cases h
    refine ⟨by omega, ?_⟩
    rw [length_of_month, hyear, hmonth, kept_day_of_le hparts.day_range.2]
  · rw [if_neg hzero] at h
    simp only [hparts.month_eq] at h
    -- the month that the floor division leaves
    obtain ⟨m', hm'⟩ : ∃ m' : Nat, (m' : Int) = (m + months - 1) % 12 + 1 :=
      ⟨((m + months - 1) % 12 + 1).toNat, by omega⟩
    rw [← hm'] at h
    have hmoved := replace_year_month_spec (by omega) h
    obtain ⟨hyear', hmonth'⟩ := month_number_eq hmoved
    refine ⟨by omega, ?_⟩
    rw [length_of_month, hyear', hmonth', hmoved.day_eq]

end replace

/-! ## Month and year offsets -/

/-- The month and year part of an offset. -/
def Offset.month_part (offset : Offset) : Offset := ⟨0, 0, 0, offset.months, offset.years⟩

/-- The month that is so many years and months after the one of the date. -/
def target_month (d : Date) (offset : Offset) : Int :=
  month_number d + 12 * offset.years + offset.months

/-- The date `r` is in that month, on the day of `d` or at the end of the month. -/
def KeptOrMonthEnd (d r : Date) (offset : Offset) : Prop :=
  month_number r = target_month d offset ∧
    day_of r = min (day_of d) (length_of_month (target_month d offset))

/-- The day is a day of the month after the year part and of the month after both parts. -/
def DayExists (d : Date) (offset : Offset) : Prop :=
  day_of d ≤ length_of_month (month_number d + 12 * offset.years) ∧
    day_of d ≤ length_of_month (target_month d offset)

/-- Two dates behind the 28th of one month, and the month that is meant has the day of the first only. -/
def Overtaken (d d' : Date) (offset : Offset) : Prop :=
  month_number d = month_number d' ∧ 28 < day_of d ∧ DayExists d offset ∧ ¬ DayExists d' offset

section offset
variable {base r : DateTime} {offset : Offset}

theorem length_of_month_ge (k : Int) : 28 ≤ length_of_month k := days_in_month_ge _ _

theorem month_part_ok (h : apply_offset base offset.month_part = .ok r) :
    ∃ t, add_years base offset.years = .ok t ∧ add_months t offset.months = .ok r := by
  obtain ⟨t, hyears, h⟩ := ok_of_bind h
  obtain ⟨t', hmonths, h⟩ := ok_of_bind h
  obtain ⟨t'', hweeks, h⟩ := ok_of_bind h
  -- the other parts are zero
  cases hweeks
  obtain ⟨t'', hdays, hbusiness⟩ := ok_of_bind h
  cases hdays
  cases hbusiness
  exact ⟨t, hyears, hmonths⟩

/-- **What the month and year part does.** -/
theorem month_part_spec (h : apply_offset base offset.month_part = .ok r) :
    month_number r.date = target_month base.date offset ∧
      (DayExists base.date offset → day_of r.date = day_of base.date) ∧
      (¬ DayExists base.date offset → day_of r.date = 28) := by
  obtain ⟨t, hyears, hmonths⟩ := month_part_ok h
  obtain ⟨hyear, hday⟩ := add_years_spec hyears
  obtain ⟨hmonth, hday'⟩ := add_months_spec hmonths
  have htarget : month_number r.date = target_month base.date offset := by
    unfold target_month
    omega
  have hlength := length_of_month_ge (target_month base.date offset)
  rw [hyear] at hday
  rw [htarget] at hday'
  refine ⟨htarget, ?_, ?_⟩
  · rintro ⟨hkept, hkept'⟩
    rw [hday, kept_day_of_le hkept, kept_day_of_le hkept'] at hday'
    exact hday'
  · intro hnot
    by_cases hkept : day_of base.date ≤ length_of_month (month_number base.date + 12 * offset.years)
    · rw [hday, kept_day_of_le hkept, kept_day_of_lt (fun hkept' => hnot ⟨hkept, hkept'⟩)] at hday'
      exact hday'
    · -- the 28th is a day of every month
      rw [hday, kept_day_of_lt hkept, kept_day_of_le hlength] at hday'
      exact hday'

theorem behind_28 {d : Int} (h : ¬ DayExists d offset) : 28 < day_of d := by
  by_contra hnot
  have hlength := length_of_month_ge (month_number d + 12 * offset.years)
  have hlength' := length_of_month_ge (target_month d offset)
  exact h ⟨by omega, by omega⟩

theorem kept_or_month_end_iff (h : apply_offset base offset.month_part = .ok r) :
    KeptOrMonthEnd base.date r.date offset ↔
      length_of_month (target_month base.date offset) = 28 ∨ DayExists base.date offset := by
  obtain ⟨hmonth, hkept, hlast⟩ := month_part_spec h
  have hlength := length_of_month_ge (target_month base.date offset)
  unfold KeptOrMonthEnd
  by_cases hexists : DayExists base.date offset
  · have hday := hkept hexists
    have hle := hexists.2
    exact ⟨fun _ => .inr hexists, fun _ => ⟨hmonth, by omega⟩⟩
  · have hday := hlast hexists
    have hbehind := behind_28 hexists
    constructor
    · rintro ⟨-, hmin⟩
      exact .inl (by omega)
    · intro hcase
      have hfebruary := hcase.resolve_right hexists
      exact ⟨hmonth, by omega⟩

/-- Of two triggers in order, the due dates are out of order exactly so. -/
theorem overtaken_iff {base' r' : DateTime} (hle : base.date ≤ base'.date)
    (h : apply_offset base offset.month_part = .ok r)
    (h' : apply_offset base' offset.month_part = .ok r') :
    r.date ≤ r'.date ↔ ¬ Overtaken base.date base'.date offset := by
  obtain ⟨hmonth, hkept, hlast⟩ := month_part_spec h
  obtain ⟨hmonth', hkept', hlast'⟩ := month_part_spec h'
  have hmono := month_number_mono hle
  unfold target_month at hmonth hmonth'
  by_cases hsame : month_number base.date = month_number base'.date
  · have hdays := (le_iff_day_le hsame).mp hle
    rw [le_iff_day_le (by omega)]
    by_cases hexists' : DayExists base'.date offset
    · -- then the earlier day exists as well
      have hexists : DayExists base.date offset := by
        obtain ⟨hyear, htarget⟩ := hexists'
        unfold target_month at htarget
        rw [← hsame] at hyear htarget
        exact ⟨hdays.trans hyear, hdays.trans htarget⟩
      rw [hkept hexists, hkept' hexists']
      exact ⟨fun _ hover => hover.2.2.2 hexists', fun _ => hdays⟩
    · rw [hlast' hexists']
      by_cases hexists : DayExists base.date offset
      · rw [hkept hexists]
        constructor
        · rintro hday ⟨-, hbehind, -, -⟩
          omega
        · intro hnot
          by_contra hday
          exact hnot ⟨hsame, by omega, hexists, hexists'⟩
      · rw [hlast hexists]
        exact ⟨fun _ hover => hexists hover.2.2.1, fun _ => le_rfl⟩
  · have hless : r.date < r'.date := lt_of_month_lt (by omega)
    exact ⟨fun _ hover => hsame hover.1, fun _ => hless.le⟩

end offset

/-- The due date as a function of the trigger. -/
theorem due_date_of_trigger {rule : DeadlineRule} {trigger_inputs : Dict String DateTime}
    {as_of : DateTime} {rule_ref : RuleRef} {trace : ComputationTrace} {t : DateTime}
    (htrigger : trigger_inputs.get? rule.trigger = some t)
    (h : compute_due_date rule trigger_inputs as_of rule_ref = .ok trace) :
    ∃ raw, apply_offset t rule.offset = .ok raw ∧ adjust raw.date rule.adjust = .ok trace.due_at.date := by
  unfold compute_due_date at h
  rw [htrigger] at h
  obtain ⟨-, -, h⟩ := ok_of_bind h
  obtain ⟨raw_due, hoffset, h⟩ := ok_of_bind h
  obtain ⟨adjusted_date, hadjust, h⟩ := ok_of_bind h
  obtain ⟨version, -, h⟩ := ok_of_bind h
  cases h
  exact ⟨raw_due, hoffset, hadjust⟩

/-- **Months end on the 28th.** The month and year part of an offset always comes to the month that is
    meant. It keeps the day, or takes the last day of the month, exactly if that month ends
    on the 28th or the day exists in the month after each of the two parts. With such an offset and
    no adjustment the due dates of two triggers are in the order of the triggers exactly if the
    second does not fall back to the 28th behind which the first one stays. -/
theorem month_offsets (offset : Offset) :
    (∀ base r, apply_offset base offset.month_part = .ok r →
      month_number r.date = target_month base.date offset ∧
        (KeptOrMonthEnd base.date r.date offset ↔
          length_of_month (target_month base.date offset) = 28 ∨ DayExists base.date offset)) ∧
    ∀ (rule : DeadlineRule) (trigger_inputs trigger_inputs' : Dict String DateTime)
      (as_of as_of' : DateTime) (rule_ref rule_ref' : RuleRef) (trace trace' : ComputationTrace)
      (t t' : DateTime), rule.offset = offset.month_part → rule.adjust = .none →
      trigger_inputs.get? rule.trigger = some t → trigger_inputs'.get? rule.trigger = some t' →
      t.date ≤ t'.date → compute_due_date rule trigger_inputs as_of rule_ref = .ok trace →
      compute_due_date rule trigger_inputs' as_of' rule_ref' = .ok trace' →
      (trace.due_at.date ≤ trace'.due_at.date ↔ ¬ Overtaken t.date t'.date offset) := by
  constructor
  · intro base r h
    exact ⟨(month_part_spec h).1, kept_or_month_end_iff h⟩
  · intro rule trigger_inputs trigger_inputs' as_of as_of' rule_ref rule_ref' trace trace' t t'
      hoffset hnone htrigger htrigger' hle h h'
    obtain ⟨raw, hraw, hadjust⟩ := due_date_of_trigger htrigger h
    obtain ⟨raw', hraw', hadjust'⟩ := due_date_of_trigger htrigger' h'
    rw [hoffset] at hraw hraw'
    rw [hnone] at hadjust hadjust'
    have hdue : raw.date = trace.due_at.date := Except.ok.inj hadjust
    have hdue' : raw'.date = trace'.due_at.date := Except.ok.inj hadjust'
    rw [← hdue, ← hdue']
    exact overtaken_iff hle hraw hraw'

/-- Three months after the 31st of January 2026 is the 28th of April, before the due date of the 30th. -/
theorem january_31 :
    ¬ ((∀ base offset r, apply_offset base (Offset.month_part offset) = .ok r →
        KeptOrMonthEnd base.date r.date offset) ∧
      ∀ (rule : DeadlineRule) (trigger_inputs trigger_inputs' : Dict String DateTime)
        (as_of as_of' : DateTime) (rule_ref rule_ref' : RuleRef) (trace trace' : ComputationTrace)
        (t t' : DateTime), rule.offset = rule.offset.month_part → rule.adjust = .none →
        trigger_inputs.get? rule.trigger = some t → trigger_inputs'.get? rule.trigger = some t' →
        t.date ≤ t'.date → compute_due_date rule trigger_inputs as_of rule_ref = .ok trace →
        compute_due_date rule trigger_inputs' as_of' rule_ref' = .ok trace' →
        trace.due_at.date ≤ trace'.due_at.date) := by
  rintro ⟨hends, -⟩
  let january : DateTime := ⟨ordinal 2026 1 31, 0, some 0⟩
  let april : DateTime := ⟨ordinal 2026 4 28, 0, some 0⟩
  have hruns : apply_offset january (Offset.month_part ⟨0, 0, 0, 3, 0⟩) = .ok april := by
    decide +kernel
  have hday := (hends _ _ _ hruns).2
  have hlast : day_of april.date = 28 ∧
      min (day_of january.date) (length_of_month (target_month january.date ⟨0, 0, 0, 3, 0⟩)) = 30 := by
    decide +kernel
  omega

end CaseAutomation.Deadline
