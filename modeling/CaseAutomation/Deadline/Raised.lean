import CaseAutomation.Deadline.Schedule
import CaseAutomation.Framework.Issues

/-! # What the Engine Raises

    `MissingTriggerError` comes from one place: `compute_due_date`, for a rule whose trigger is
    not among the inputs. Neither the calendar nor the scheduling tool raises it otherwise.
-/

namespace CaseAutomation.Deadline

open Framework Program

/-- The exception is not a `MissingTriggerError`. -/
def Other (e : Exn) : Prop := e.class_name ≠ "MissingTriggerError"

theorem missing_trigger_not_other (trigger : String) : ¬Other (missing_trigger trigger) :=
  fun h => h rfl

theorem other_value_error (message : String) : Other (.value_error message) := by
  show "ValueError" ≠ "MissingTriggerError"
  decide

theorem other_type_error (message : String) : Other (.type_error message) := by
  show "TypeError" ≠ "MissingTriggerError"
  decide

theorem other_class {cls : String} (message : String) (h : cls ≠ "MissingTriggerError") :
    Other (.other cls message) := h

/-- The computation raises no `MissingTriggerError`. -/
def Spares {α : Type} (r : Except Exn α) : Prop := ∀ e, r = .error e → Other e

namespace Spares

variable {α β : Type}

theorem ok {a : α} : Spares (.ok a : Except Exn α) := by
  intro e h
  cases h

theorem error {e : Exn} (h : Other e) : Spares (.error e : Except Exn α) := by
  intro e' he
  cases he
  exact h

theorem bind {x : Except Exn α} {f : α → Except Exn β} (hx : Spares x) (hf : ∀ a, Spares (f a)) :
    Spares (x >>= f) := by
  cases x with
  | ok a => exact hf a
  | error e => exact error (hx e rfl)

end Spares

/-! ## The calendar -/

theorem spares_make_date (year month day : Int) : Spares (make_date year month day) := by
  unfold make_date
  split
  · exact .error (other_value_error _)
  · split
    · exact .error (other_value_error _)
    · split
      · exact .error (other_value_error _)
      · exact .ok

theorem spares_nth_weekday (year month wd n : Int) :
    Spares (nth_weekday_of_month year month wd n) := by
  refine .bind (spares_make_date _ _ _) fun first => ?_
  show Spares (if month_of (first + (wd - weekday first) % 7 + (n - 1) * 7) ≠ month then _ else _)
  split
  · exact .error (other_value_error _)
  · exact .ok

theorem spares_last_weekday (year month wd : Int) : Spares (last_weekday_of_month year month wd) :=
  .bind (spares_make_date _ _ _) fun _ => .ok

theorem spares_us_federal_holidays (year : Int) : Spares (us_federal_holidays year) := by
  refine .bind (spares_make_date _ _ _) fun _ => .bind (spares_nth_weekday _ _ _ _) fun _ => ?_
  refine .bind (spares_nth_weekday _ _ _ _) fun _ => .bind (spares_last_weekday _ _ _) fun _ => ?_
  refine .bind (spares_make_date _ _ _) fun _ => .bind (spares_make_date _ _ _) fun _ => ?_
  refine .bind (spares_nth_weekday _ _ _ _) fun _ => .bind (spares_nth_weekday _ _ _ _) fun _ => ?_
  refine .bind (spares_make_date _ _ _) fun _ => .bind (spares_nth_weekday _ _ _ _) fun _ => ?_
  exact .bind (spares_make_date _ _ _) fun _ => .ok

theorem spares_holidays (year : Int) : Spares (holidays year) := by
  unfold holidays
  split
  · exact spares_us_federal_holidays year
  · exact .error (other_class _ (by decide))

theorem spares_calendar_version : Spares calendar_version :=
  .bind (spares_holidays _) fun _ => .ok

theorem spares_is_business_day (d : Date) : Spares (is_business_day d) := by
  unfold is_business_day
  split
  · exact .ok
  · exact .bind (spares_holidays _) fun _ => .ok

theorem spares_walk (direction : Int) (fuel remaining : Nat) (current : Date) :
    Spares (walk direction fuel remaining current) := by
  induction fuel generalizing remaining current with
  | zero =>
    cases remaining with
    | zero => exact .ok
    | succ remaining =>
      refine .error ?_
      show "RecursionError" ≠ "MissingTriggerError"
      decide
  | succ fuel ih =>
    cases remaining with
    | zero => exact .ok
    | succ remaining =>
      refine .bind (spares_is_business_day _) fun business => ?_
      cases business with
      | true => exact ih remaining _
      | false => exact ih (remaining + 1) _

theorem spares_adjust (d : Date) (how : Adjust) : Spares (adjust d how) := by
  cases how with
  | next_business_day =>
    refine .bind (spares_is_business_day d) fun business => ?_
    cases business with
    | true => exact .ok
    | false => exact spares_walk _ _ _ _
  | previous_business_day =>
    refine .bind (spares_is_business_day d) fun business => ?_
    cases business with
    | true => exact .ok
    | false => exact spares_walk _ _ _ _
  | none => exact .ok

theorem spares_get_calendar (calendar_id : String) : Spares (get_calendar calendar_id) := by
  unfold get_calendar
  split
  · exact .ok
  · exact .error (other_class _ (by decide))

/-! ## Due dates -/

theorem spares_add_days (t : DateTime) (n : Int) : Spares (t.add_days n) := by
  unfold DateTime.add_days
  split
  · exact .ok
  · exact .error (other_class _ (by decide))

theorem spares_replace (t : DateTime) (year month : Int) : Spares (replace_year_month t year month) := by
  unfold replace_year_month
  split
  · exact .ok
  · exact .bind (spares_make_date _ _ _) fun _ => .ok

theorem spares_shift_days (t : DateTime) (n : Int) : Spares (shift_days t n) := by
  unfold shift_days
  split
  · exact .ok
  · exact spares_add_days t n

theorem spares_business_days (t : DateTime) (n : Int) :
    Spares ((add_business_days t.date n).map t.on) := by
  have hwalk := spares_walk (if 0 ≤ n then 1 else -1) MAX_WALK n.natAbs t.date
  unfold add_business_days
  cases hw : walk (if 0 ≤ n then 1 else -1) MAX_WALK n.natAbs t.date with
  | ok d => exact .ok
  | error e => exact .error (hwalk e hw)

theorem spares_apply_offset (base : DateTime) (offset : Offset) :
    Spares (apply_offset base offset) := by
  refine .bind ?_ fun _ => .bind ?_ fun _ => ?_
  · unfold add_years
    split
    · exact .ok
    · exact spares_replace _ _ _
  · unfold add_months
    split
    · exact .ok
    · exact spares_replace _ _ _
  refine .bind (spares_shift_days _ _) fun _ => .bind (spares_shift_days _ _) fun _ => ?_
  unfold shift_business_days
  split
  · exact .ok
  · exact spares_business_days _ _

theorem spares_lt (a b : DateTime) : Spares (a.lt b) := by
  unfold DateTime.lt
  split
  · exact .ok
  · exact .ok
  · exact .error (other_type_error _)

theorem spares_fire_at (due_at : DateTime) (rem : ReminderOffset) : Spares (fire_at due_at rem) := by
  unfold fire_at
  split
  · exact .bind (spares_walk _ _ _ _) fun _ => .ok
  · exact spares_add_days _ _

/-- A due date is missing its trigger, or raises something else. -/
theorem spares_compute_due_date {rule : DeadlineRule} {trigger_inputs : Dict String DateTime}
    {trigger_value : DateTime} (h : trigger_inputs.get? rule.trigger = some trigger_value)
    (as_of : DateTime) (rule_ref : RuleRef) :
    Spares (compute_due_date rule trigger_inputs as_of rule_ref) := by
  unfold compute_due_date
  rw [h]
  refine .bind (spares_get_calendar _) fun _ => .bind (spares_apply_offset _ _) fun _ => ?_
  exact .bind (spares_adjust _ _) fun _ => .bind spares_calendar_version fun _ => .ok

/-! ## The tool -/

theorem raises_audit (audited : Bool) (action : String) : Raises Other (audit audited action) := by
  cases audited with
  | false => exact Raises.ret
  | true => exact Raises.bind Raises.attempt fun _ => Raises.ret

theorem raises_schedule_reminders (key : String) (due_at now : DateTime)
    (rems : List ReminderOffset) : Raises Other (schedule_reminders key due_at now rems) := by
  induction rems with
  | nil => exact Raises.ret
  | cons rem rest ih =>
    refine Raises.bind ?_ fun _ => Raises.bind ih fun _ => Raises.ret
    refine Raises.bind (Raises.ofExcept (spares_fire_at _ _)) fun time => ?_
    refine Raises.bind (Raises.ofExcept (spares_lt _ _)) fun past => ?_
    cases past with
    | true => exact Raises.bind Raises.perform fun _ => Raises.ret
    | false =>
      refine Raises.bind Raises.perform fun _ => Raises.bind Raises.perform fun _ => ?_
      exact Raises.bind Raises.perform fun _ => Raises.ret

/-- **The tool raises no `MissingTriggerError`** for a rule whose trigger is given. -/
theorem raises_tool {call : ScheduleCall} {trigger_value : DateTime}
    (h : call.trigger_inputs.get? call.rule.trigger = some trigger_value) :
    Raises Other (tool_deadline_schedule call) := by
  have htime : Raises Other (time_of call.now) := by
    cases call.now with
    | none => exact Raises.perform
    | some now => exact Raises.ret
  refine Raises.bind htime fun now => Raises.bind Raises.perform fun existing => ?_
  cases existing with
  | some sd => exact Raises.ret
  | none =>
    refine Raises.bind (Raises.ofExcept (spares_compute_due_date h _ _)) fun trace => ?_
    refine Raises.bind (Raises.ofExcept (spares_lt _ _)) fun past => ?_
    cases past with
    | true =>
      refine Raises.bind Raises.perform fun _ => Raises.bind Raises.perform fun _ => ?_
      exact Raises.bind (raises_audit _ _) fun _ => Raises.raise (other_class _ (by decide))
    | false =>
      refine Raises.bind (Raises.ofExcept (spares_get_calendar _)) fun _ => ?_
      refine Raises.bind (raises_schedule_reminders _ _ _ _) fun _ => ?_
      refine Raises.bind Raises.perform fun _ => Raises.bind Raises.perform fun _ => ?_
      exact Raises.bind (raises_audit _ _) fun _ => Raises.ret

end CaseAutomation.Deadline
