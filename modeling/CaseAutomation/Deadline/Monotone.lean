import CaseAutomation.Deadline.Months

/-! # Later Triggers

    Without months every part of a computation keeps the order of two dates: the leap day falls back to
    the 28th of February, shifts move both dates alike, the later of two walks meets no fewer business days
    (`Counted.mono`), and the nearest business day in one direction does not go back.
-/

namespace CaseAutomation.Deadline

open Framework

section parts
variable {d d' r r' n : Int} {t t' u u' : DateTime}

/-- A day that a year does not have. -/
theorem lost_day (h : ¬ day_of d ≤ length_of_month (month_number d + 12 * n)) :
    length_of_month (month_number d + 12 * n) = 28 := by
  obtain ⟨m, hparts⟩ := exists_parts d
  obtain ⟨hyear, hmonth⟩ := month_number_eq hparts
  have hday := hparts.day_range.2
  have hyear' : (month_number d + 12 * n) / 12 = year_of d + n := by omega
  have hmonth' : (month_number d + 12 * n) % 12 + 1 = m := by omega
  unfold length_of_month at h ⊢
  rw [hyear', hmonth'] at h ⊢
  unfold days_in_month at h hday ⊢
  by_cases hfebruary : (m : Int) = 2
  · rw [if_pos hfebruary] at h hday ⊢
    by_cases hleap : is_leap (year_of d + n) = true
    · rw [if_pos hleap] at h
      split at hday
      · omega
      · omega
    · rw [if_neg hleap]
  · -- the other months are as long in every year
    rw [if_neg hfebruary] at h hday
    exact absurd hday h

theorem shift_days_ok (h : shift_days t n = .ok u) : u.date = t.date + n := by
  unfold shift_days at h
  by_cases hzero : n = 0
  · rw [if_pos hzero] at h
    cases h
    rw [hzero, add_zero]
  · rw [if_neg hzero] at h
    unfold DateTime.add_days at h
    by_cases hrange : 1 ≤ t.date + n ∧ t.date + n ≤ 3652059
    · rw [if_pos hrange] at h
      cases h
      rfl
    · rw [if_neg hrange] at h
      cases h

theorem shift_business_days_counted (h : shift_business_days t n = .ok u) :
    Counted t.date n u.date := by
  unfold shift_business_days at h
  by_cases hzero : n = 0
  · rw [if_pos hzero] at h
    cases h
    subst hzero
    exact ⟨fun _ => rfl, fun hne => absurd rfl hne, fun hlt => absurd hlt (lt_irrefl 0),
      fun hlt => absurd hlt (lt_irrefl 0)⟩
  · rw [if_neg hzero] at h
    cases hwalk : add_business_days t.date n with
    | ok d =>
      rw [hwalk] at h
      cases h
      exact add_business_days_ok hwalk
    | error e =>
      rw [hwalk] at h
      cases h

/-- Dates that leave out a business day of the others. -/
theorem business_days_ssubset {ds es : Finset Int} {x : Int} (hsub : ds ⊆ es)
    (hbusiness : is_business_day x = .ok true) (hmem : x ∈ es) (hnot : x ∉ ds) :
    business_days ds ⊂ business_days es := by
  unfold business_days
  refine Finset.ssubset_iff_of_subset (Finset.filter_subset_filter _ hsub) |>.mpr ⟨x, ?_, ?_⟩
  · exact Finset.mem_filter.mpr ⟨hmem, hbusiness⟩
  · intro hfilter
    exact hnot (Finset.mem_of_mem_filter _ hfilter)

/-- **Years.** A day that is lost is the 29th of February. -/
theorem add_years_mono (hle : t.date ≤ t'.date) (h : add_years t n = .ok u)
    (h' : add_years t' n = .ok u') : u.date ≤ u'.date := by
  obtain ⟨hmonth, hday⟩ := add_years_spec h
  obtain ⟨hmonth', hday'⟩ := add_years_spec h'
  have hmono := month_number_mono hle
  by_cases hsame : month_number t.date = month_number t'.date
  · have hdays := (le_iff_day_le hsame).mp hle
    rw [hmonth, hsame] at hday
    rw [hmonth'] at hday'
    rw [le_iff_day_le (by omega)]
    by_cases hkept' : day_of t'.date ≤ length_of_month (month_number t'.date + 12 * n)
    · rw [hday, hday', kept_day_of_le hkept', kept_day_of_le (hdays.trans hkept')]
      exact hdays
    · have hlength := lost_day hkept'
      rw [hday, hday', kept_day_of_lt hkept']
      by_cases hkept : day_of t.date ≤ length_of_month (month_number t'.date + 12 * n)
      · rw [kept_day_of_le hkept]
        omega
      · rw [kept_day_of_lt hkept]
  · exact (lt_of_month_lt (by omega)).le

theorem shift_days_mono (hle : t.date ≤ t'.date) (h : shift_days t n = .ok u)
    (h' : shift_days t' n = .ok u') : u.date ≤ u'.date := by
  rw [shift_days_ok h, shift_days_ok h']
  exact Int.add_le_add_right hle n

/-- **Walks.** From the later date on there are as many business days only behind the earlier end. -/
theorem Counted.mono (hle : d ≤ d') (h : Counted d n r) (h' : Counted d' n r') : r ≤ r' := by
  by_cases hzero : n = 0
  · rw [h.stays hzero, h'.stays hzero]
    exact hle
  by_contra hnot
  by_cases hpositive : 0 < n
  · -- the end of the first walk is a business day that the second one does not come to
    obtain ⟨hbehind, hcount⟩ := h.behind hpositive
    obtain ⟨hbehind', hcount'⟩ := h'.behind hpositive
    have hmore : business_days (Finset.Ioc d' r') ⊂ business_days (Finset.Ioc d r) := by
      refine business_days_ssubset (x := r) ?_ (h.business hzero) ?_ ?_
      · intro x hx
        rw [Finset.mem_Ioc] at hx ⊢
        omega
      · rw [Finset.mem_Ioc]
        omega
      · rw [Finset.mem_Ioc]
        omega
    have hless := Finset.card_lt_card hmore
    omega
  · -- and backwards the end of the second one, before the first
    obtain ⟨hbefore, hcount⟩ := h.before (by omega)
    obtain ⟨hbefore', hcount'⟩ := h'.before (by omega)
    have hmore : business_days (Finset.Ico r d) ⊂ business_days (Finset.Ico r' d') := by
      refine business_days_ssubset (x := r') ?_ (h'.business hzero) ?_ ?_
      · intro x hx
        rw [Finset.mem_Ico] at hx ⊢
        omega
      · rw [Finset.mem_Ico]
        omega
      · rw [Finset.mem_Ico]
        omega
    have hless := Finset.card_lt_card hmore
    omega

theorem shift_business_days_mono (hle : t.date ≤ t'.date) (h : shift_business_days t n = .ok u)
    (h' : shift_business_days t' n = .ok u') : u.date ≤ u'.date :=
  (shift_business_days_counted h).mono hle (shift_business_days_counted h')

/-- **Adjustments.** -/
theorem Nearest.mono {mode : Adjust} (hle : d ≤ d') (h : Nearest d r mode) (h' : Nearest d' r' mode) :
    r ≤ r' := by
  cases mode with
  | next_business_day => exact h.2 ⟨hle.trans h'.1.1, h'.1.2⟩
  | previous_business_day => exact h'.2 ⟨h.1.1.trans hle, h.1.2⟩
  | none =>
    cases h
    cases h'
    exact hle

/-- **Offsets without months.** -/
theorem apply_offset_mono {offset : Offset} (hmonths : offset.months = 0) (hle : t.date ≤ t'.date)
    (h : apply_offset t offset = .ok u) (h' : apply_offset t' offset = .ok u') : u.date ≤ u'.date := by
  obtain ⟨t₁, hyear, h⟩ := ok_of_bind h
  obtain ⟨t₂, hmonth, h⟩ := ok_of_bind h
  obtain ⟨t₃, hweek, h⟩ := ok_of_bind h
  obtain ⟨t₄, hday, hbusiness⟩ := ok_of_bind h
  obtain ⟨t₁', hyear', h'⟩ := ok_of_bind h'
  obtain ⟨t₂', hmonth', h'⟩ := ok_of_bind h'
  obtain ⟨t₃', hweek', h'⟩ := ok_of_bind h'
  obtain ⟨t₄', hday', hbusiness'⟩ := ok_of_bind h'
  rw [hmonths] at hmonth hmonth'
  cases hmonth
  cases hmonth'
  have hyears := add_years_mono hle hyear hyear'
  have hweeks := shift_days_mono hyears hweek hweek'
  have hdays := shift_days_mono hweeks hday hday'
  exact shift_business_days_mono hdays hbusiness hbusiness'

end parts

/-- **Due dates are monotone in the trigger.** For every rule without months in its offset, and any adjustment: if
    both computations return, the later trigger date does not give an earlier due date. -/
theorem due_date_mono {rule : DeadlineRule} {trigger_inputs trigger_inputs' : Dict String DateTime}
    {as_of as_of' : DateTime} {rule_ref rule_ref' : RuleRef} {trace trace' : ComputationTrace}
    {t t' : DateTime} (hmonths : rule.offset.months = 0)
    (htrigger : trigger_inputs.get? rule.trigger = some t)
    (htrigger' : trigger_inputs'.get? rule.trigger = some t') (hle : t.date ≤ t'.date)
    (h : compute_due_date rule trigger_inputs as_of rule_ref = .ok trace)
    (h' : compute_due_date rule trigger_inputs' as_of' rule_ref' = .ok trace') :
    trace.due_at.date ≤ trace'.due_at.date := by
  obtain ⟨raw, hraw, hadjust⟩ := due_date_of_trigger htrigger h
  obtain ⟨raw', hraw', hadjust'⟩ := due_date_of_trigger htrigger' h'
  have hraws := apply_offset_mono hmonths hle hraw hraw'
  exact (adjust_spec hadjust).mono hraws (adjust_spec hadjust')

/-- One year and two business days before the 29th of February and the 1st of March 2024: the 24th of
    February 2023 for the first, and the 27th for the second. -/
theorem leap_day_in_order : ∃ rule trigger_inputs trigger_inputs' as_of rule_ref trace trace',
    compute_due_date rule trigger_inputs as_of rule_ref = .ok trace ∧
      compute_due_date rule trigger_inputs' as_of rule_ref = .ok trace' ∧
      trace.due_at.date = ordinal 2023 2 24 ∧ trace'.due_at.date = ordinal 2023 2 27 ∧
      trace.due_at.date ≤ trace'.due_at.date := by
  let leap : DateTime := ⟨ordinal 2024 2 29, 0, some 0⟩
  let march : DateTime := ⟨ordinal 2024 3 1, 0, some 0⟩
  let rule : DeadlineRule := ⟨"answer", "CA", none, "filed_at", ⟨0, -2, 0, 0, -1⟩, .next_business_day,
    "us_federal", [], [], "", false⟩
  let rule_ref : RuleRef := ⟨"answer", "v1", "CA", none⟩
  let inputs (t : DateTime) : Dict String DateTime := Dict.empty.set "filed_at" t
  let due (t : DateTime) : Option Date :=
    (compute_due_date rule (inputs t) leap rule_ref).toOption.map fun trace => trace.due_at.date
  have hdue : due leap = some (ordinal 2023 2 24) ∧ due march = some (ordinal 2023 2 27) := by
    decide +kernel
  obtain ⟨trace, htrace, hfirst⟩ := ok_of_toOption_map hdue.1
  obtain ⟨trace', htrace', hsecond⟩ := ok_of_toOption_map hdue.2
  refine ⟨rule, inputs leap, inputs march, leap, rule_ref, trace, trace', htrace, htrace', hfirst,
    hsecond, ?_⟩
  exact due_date_mono rfl rfl rfl (by decide) htrace htrace'

end CaseAutomation.Deadline
