import CaseAutomation.Deadline.BusinessDays

/-! # Due Dates

    A due date is the trigger moved by the offset of its rule, and then to the nearest business day
    of the calendar, in the direction of the rule (`due_date_adjusted`). The offset has no part in
    the clock time or the time zone (`apply_offset_clock`), and the trace has all that the due date
    is computed from.
-/

namespace CaseAutomation.Deadline

open Framework

/-! ## The clock -/

/-- The clock time and the time zone of `base`. -/
structure SameClock (base t : DateTime) : Prop where
  time_eq : t.time = base.time
  utcoffset_eq : t.utcoffset = base.utcoffset

section clock
variable {base mid t : DateTime} {n m : Int}

theorem SameClock.refl (t : DateTime) : SameClock t t := ⟨rfl, rfl⟩

theorem SameClock.on (t : DateTime) (d : Date) : SameClock t (t.on d) := ⟨rfl, rfl⟩

theorem SameClock.trans (h : SameClock base mid) (h' : SameClock mid t) : SameClock base t :=
  ⟨h'.time_eq.trans h.time_eq, h'.utcoffset_eq.trans h.utcoffset_eq⟩

theorem replace_year_month_clock (h : replace_year_month base n m = .ok t) : SameClock base t := by
  unfold replace_year_month at h
  cases hdate : make_date n m (day_of base.date) with
  | ok d =>
    rw [hdate] at h
    cases h
    exact SameClock.on base d
  | error e =>
    -- the 28th of the month
    rw [hdate] at h
    cases hlast : make_date n m 28 with
    | ok d =>
      simp only [hlast] at h
      cases h
      exact SameClock.on base d
    | error e =>
      simp only [hlast] at h
      cases h

/-- A part of an offset that may be zero. -/
theorem SameClock.of_part {x : Except Exn DateTime} (h : (if n = 0 then .ok base else x) = .ok t)
    (hpart : x = .ok t → SameClock base t) : SameClock base t := by
  by_cases hzero : n = 0
  · rw [if_pos hzero] at h
    cases h
    exact SameClock.refl _
  · rw [if_neg hzero] at h
    exact hpart h

theorem add_days_clock (h : base.add_days n = .ok t) : SameClock base t := by
  unfold DateTime.add_days at h
  by_cases hrange : 1 ≤ base.date + n ∧ base.date + n ≤ 3652059
  · rw [if_pos hrange] at h
    cases h
    exact SameClock.on base _
  · rw [if_neg hrange] at h
    cases h

theorem shift_business_days_clock (h : shift_business_days base n = .ok t) : SameClock base t := by
  refine SameClock.of_part h ?_
  intro hshift
  cases hwalk : add_business_days base.date n with
  | ok d =>
    rw [hwalk] at hshift
    cases hshift
    exact SameClock.on base d
  | error e =>
    rw [hwalk] at hshift
    cases hshift

/-- **An offset does not touch the clock.** -/
theorem apply_offset_clock {offset : Offset} (h : apply_offset base offset = .ok t) :
    SameClock base t := by
  unfold apply_offset at h
  obtain ⟨t₁, hyears, h⟩ := ok_of_bind h
  obtain ⟨t₂, hmonths, h⟩ := ok_of_bind h
  obtain ⟨t₃, hweeks, h⟩ := ok_of_bind h
  obtain ⟨t₄, hdays, hbusiness⟩ := ok_of_bind h
  have hmonth : SameClock base t₂ := (SameClock.of_part hyears replace_year_month_clock).trans
    (SameClock.of_part hmonths replace_year_month_clock)
  have hday : SameClock t₂ t₄ := (SameClock.of_part hweeks add_days_clock).trans
    (SameClock.of_part hdays add_days_clock)
  exact (hmonth.trans hday).trans (shift_business_days_clock hbusiness)

end clock

/-! ## The nearest business day -/

/-- The date that an adjustment of `d` is to give. -/
def Nearest (d r : Int) : Adjust → Prop
  | .next_business_day => IsLeast {x : Int | d ≤ x ∧ is_business_day x = .ok true} r
  | .previous_business_day => IsGreatest {x : Int | x ≤ d ∧ is_business_day x = .ok true} r
  | .none => r = d

section adjust
variable {d r : Int}

/-- A walk to the first business day passes no other. -/
theorem first_business_day {direction : Int} {fuel : Nat} (h : walk direction fuel 1 d = .ok r) :
    ∃ k : Nat, r = d + (k + 1 : Nat) * direction ∧ is_business_day r = .ok true ∧
      ∀ i < k, is_business_day (d + (i + 1 : Nat) * direction) ≠ .ok true := by
  obtain ⟨k, hr, hends⟩ := walk_ok h
  cases k with
  | zero =>
    have hcount := hends.count_eq
    rw [passed_zero] at hcount
    cases hcount
  | succ k =>
    refine ⟨k, hr, ?_, ?_⟩
    · rw [hr, ← iterate_day]
      exact hends.passes
    · intro i hi
      rw [← iterate_day]
      exact hends.first (by omega)

theorem next_business_day_least (hself : is_business_day d = .ok false)
    (h : next_business_day d = .ok r) : Nearest d r .next_business_day := by
  obtain ⟨k, hr, hbusiness, hbetween⟩ := first_business_day h
  refine ⟨⟨by omega, hbusiness⟩, ?_⟩
  rintro x ⟨hx, hx'⟩
  by_contra hless
  -- the date itself is no business day, and the walk has passed the others
  by_cases hsame : x = d
  · rw [hsame, hself] at hx'
    cases hx'
  · have hstep : d + ((x - d - 1).toNat + 1 : Nat) * 1 = x := by omega
    refine hbetween (x - d - 1).toNat (by omega) ?_
    rw [hstep]
    exact hx'

theorem previous_business_day_greatest (hself : is_business_day d = .ok false)
    (h : previous_business_day d = .ok r) : Nearest d r .previous_business_day := by
  obtain ⟨k, hr, hbusiness, hbetween⟩ := first_business_day h
  refine ⟨⟨by omega, hbusiness⟩, ?_⟩
  rintro x ⟨hx, hx'⟩
  by_contra hless
  -- the date itself is no business day, and the walk has passed the others
  by_cases hsame : x = d
  · rw [hsame, hself] at hx'
    cases hx'
  · have hstep : d + ((d - x - 1).toNat + 1 : Nat) * -1 = x := by omega
    refine hbetween (d - x - 1).toNat (by omega) ?_
    rw [hstep]
    exact hx'

/-- **What `adjust` returns.** -/
theorem adjust_spec {mode : Adjust} (h : adjust d mode = .ok r) : Nearest d r mode := by
  cases mode with
  | none =>
    cases h
    rfl
  | next_business_day =>
    obtain ⟨b, hself, h⟩ := ok_of_bind h
    cases b with
    | true =>
      cases h
      exact ⟨⟨le_refl d, hself⟩, fun x hx => hx.1⟩
    | false => exact next_business_day_least hself h
  | previous_business_day =>
    obtain ⟨b, hself, h⟩ := ok_of_bind h
    cases b with
    | true =>
      cases h
      exact ⟨⟨le_refl d, hself⟩, fun x hx => hx.1⟩
    | false => exact previous_business_day_greatest hself h

end adjust

/-! ## The computation -/

section compute
variable {rule : DeadlineRule} {trigger_inputs : Dict String DateTime} {as_of : DateTime}
  {rule_ref : RuleRef} {trace : ComputationTrace}

/-- How a trace has been computed. -/
structure Derived (trace : ComputationTrace) : Prop where
  calendar : get_calendar trace.calendar_id = .ok ()
  offset : apply_offset trace.trigger_value trace.offset = .ok trace.raw_due
  adjusted : adjust trace.raw_due.date trace.adjustment = .ok trace.due_at.date
  due_at_eq : trace.due_at = trace.raw_due.on trace.due_at.date
  version : calendar_version = .ok trace.calendar_version

theorem compute_due_date_ok (h : compute_due_date rule trigger_inputs as_of rule_ref = .ok trace) :
    trigger_inputs.get? rule.trigger = some trace.trigger_value ∧ trace.adjustment = rule.adjust ∧
      Derived trace := by
  unfold compute_due_date at h
  cases htrigger : trigger_inputs.get? rule.trigger with
  | none =>
    rw [htrigger] at h
    cases h
  | some trigger_value =>
    rw [htrigger] at h
    obtain ⟨⟨⟩, hcalendar, h⟩ := ok_of_bind h
    obtain ⟨raw_due, hoffset, h⟩ := ok_of_bind h
    obtain ⟨adjusted_date, hadjust, h⟩ := ok_of_bind h
    obtain ⟨version, hversion, h⟩ := ok_of_bind h
    cases h
    exact ⟨rfl, rfl, hcalendar, hoffset, hadjust, rfl, hversion⟩

/-- A trace is enough to compute it again. -/
theorem Derived.again (h : Derived trace)
    (htrigger : trigger_inputs.get? rule.trigger = some trace.trigger_value)
    (hoffset : rule.offset = trace.offset) (hcalendar : rule.calendar_id = trace.calendar_id)
    (hadjust : rule.adjust = trace.adjustment) :
    ∃ trace', compute_due_date rule trigger_inputs as_of rule_ref = .ok trace' ∧
      trace'.raw_due = trace.raw_due ∧ trace'.due_at = trace.due_at := by
  unfold compute_due_date
  simp only [htrigger, hoffset, hcalendar, hadjust, h.calendar, h.offset, h.adjusted, h.version, bind,
    Except.bind]
  exact ⟨_, rfl, rfl, h.due_at_eq.symm⟩

end compute

/-- **The due date is the nearest business day.** Whenever `compute_due_date` returns, the date of `due_at`
    is the least business day from the date of `raw_due` on, the greatest one up to it, or that date, as
    the rule says. Clock time and time zone are those of the trigger. And from the trigger value, the
    offset, the calendar and the adjustment of the trace the same dates are computed again. -/
theorem due_date_adjusted {rule : DeadlineRule} {trigger_inputs : Dict String DateTime}
    {as_of : DateTime} {rule_ref : RuleRef} {trace : ComputationTrace}
    (h : compute_due_date rule trigger_inputs as_of rule_ref = .ok trace) :
    Nearest trace.raw_due.date trace.due_at.date rule.adjust ∧
    (∃ trigger_value, trigger_inputs.get? rule.trigger = some trigger_value ∧
      trace.due_at.time = trigger_value.time ∧
      trace.due_at.utcoffset = trigger_value.utcoffset) ∧
    ∀ (rule' : DeadlineRule) (trigger_inputs' : Dict String DateTime) (as_of' : DateTime)
      (rule_ref' : RuleRef), trigger_inputs'.get? rule'.trigger = some trace.trigger_value →
      rule'.offset = trace.offset → rule'.calendar_id = trace.calendar_id →
      rule'.adjust = trace.adjustment →
      ∃ trace', compute_due_date rule' trigger_inputs' as_of' rule_ref' = .ok trace' ∧
        trace'.raw_due = trace.raw_due ∧ trace'.due_at = trace.due_at := by
  obtain ⟨htrigger, hadjustment, hderived⟩ := compute_due_date_ok h
  have hclock : SameClock trace.trigger_value trace.due_at := by
    rw [hderived.due_at_eq]
    exact (apply_offset_clock hderived.offset).trans (SameClock.on _ _)
  refine ⟨?_, ⟨trace.trigger_value, htrigger, hclock.time_eq, hclock.utcoffset_eq⟩, ?_⟩
  · rw [← hadjustment]
    exact adjust_spec hderived.adjusted
  · intro rule' trigger_inputs' as_of' rule_ref' htrigger' hoffset hcalendar hadjust
    exact hderived.again htrigger' hoffset hcalendar hadjust

/-- Thirty days after the 1st of February 2024 is a Saturday; the due date is the Monday, and still is
    when it is computed again. -/
theorem saturday_becomes_monday : ∃ rule trigger_inputs as_of rule_ref trace,
    compute_due_date rule trigger_inputs as_of rule_ref = .ok trace ∧
      trace.raw_due.date = ordinal 2024 3 2 ∧ trace.due_at.date = ordinal 2024 3 4 ∧
      IsLeast {x : Int | trace.raw_due.date ≤ x ∧ is_business_day x = .ok true} trace.due_at.date ∧
      trace.due_at.time = 32400000000 ∧
      ∀ as_of', ∃ trace', compute_due_date rule trigger_inputs as_of' rule_ref = .ok trace' ∧
        trace'.due_at = trace.due_at := by
  let filed : DateTime := ⟨ordinal 2024 2 1, 32400000000, some 0⟩
  let rule : DeadlineRule := ⟨"answer", "CA", none, "filed_at", ⟨30, 0, 0, 0, 0⟩, .next_business_day,
    "us_federal", [], [], "", false⟩
  let rule_ref : RuleRef := ⟨"answer", "v1", "CA", none⟩
  let filed_inputs : Dict String DateTime := Dict.empty.set "filed_at" filed
  have hfields : (compute_due_date rule filed_inputs filed rule_ref).toOption.map
      (fun trace => (trace.raw_due.date, trace.due_at.date, trace.trigger_value, trace.offset,
        trace.calendar_id, trace.adjustment)) =
        some (ordinal 2024 3 2, ordinal 2024 3 4, filed, rule.offset, "us_federal",
          .next_business_day) := by
    decide +kernel
  cases hcompute : compute_due_date rule filed_inputs filed rule_ref with
  | error e =>
    rw [hcompute] at hfields
    cases hfields
  | ok trace =>
    rw [hcompute] at hfields
    simp only [Except.toOption, Option.map_some, Option.some.injEq, Prod.mk.injEq] at hfields
    obtain ⟨hraw, hdue, hvalue, hoffset, hcalendar, hadjust⟩ := hfields
    obtain ⟨hnearest, ⟨trigger_value, htrigger, htime, -⟩, hagain⟩ := due_date_adjusted hcompute
    cases htrigger
    refine ⟨rule, _, filed, rule_ref, trace, hcompute, hraw, hdue, hnearest, htime, ?_⟩
    intro as_of'
    obtain ⟨trace', htrace', -, hsame⟩ := hagain rule filed_inputs as_of' rule_ref
      (by rw [hvalue]; rfl) hoffset.symm hcalendar.symm hadjust.symm
    exact ⟨trace', htrace', hsame⟩

end CaseAutomation.Deadline
