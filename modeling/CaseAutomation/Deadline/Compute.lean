import CaseAutomation.Deadline.Calendar
import CaseAutomation.Framework.Dict

/-! # Deadline Rules and Due Dates

    The rule types of `deadline/types.py` and `compute_due_date` of `deadline/compute.py`.
    Time zones are fixed offsets from UTC; a datetime without one is naive and
    cannot be compared with one that has one.
-/

namespace CaseAutomation.Deadline

open Framework

/-! ## Datetimes -/

/-- A `datetime`: date, time of day in microseconds, and the UTC offset in microseconds if it is
    aware. -/
structure DateTime where
  date : Date
  time : Nat
  utcoffset : Option Int
  deriving DecidableEq

/-- Microseconds on the clock on the wall. -/
def DateTime.wall (t : DateTime) : Int := t.date * 86400000000 + t.time

/-- `a < b`. -/
def DateTime.lt (a b : DateTime) : Except Exn Bool :=
  match a.utcoffset, b.utcoffset with
  | none, none => .ok (decide (a.wall < b.wall))
  | some x, some y => .ok (decide (a.wall - x < b.wall - y))
  | _, _ => .error (.type_error "can't compare offset-naive and offset-aware datetimes")

/-- Hours and minutes of a number of microseconds. -/
def hours_minutes (us : Nat) : String :=
  padded 2 (us / 3600000000) ++ ":" ++ padded 2 (us / 60000000 % 60)

/-- The seconds, with the microseconds if there are any. -/
def seconds_text (us : Nat) : String :=
  ":" ++ padded 2 (us / 1000000 % 60) ++
    (if us % 1000000 = 0 then "" else "." ++ padded 6 (us % 1000000))

/-- `t.isoformat()`. -/
def DateTime.isoformat (t : DateTime) : String :=
  CaseAutomation.Deadline.isoformat t.date ++ "T" ++ hours_minutes t.time ++ seconds_text t.time ++
    match t.utcoffset with
    | none => ""
    | some x => (if x < 0 then "-" else "+") ++ hours_minutes x.natAbs ++
        if x.natAbs % 60000000 = 0 then "" else seconds_text x.natAbs

/-- Microseconds since 1970 in UTC; a naive datetime is read as UTC. -/
def DateTime.instant (t : DateTime) : Time := t.wall - t.utcoffset.getD 0 - 719163 * 86400000000

/-- The same clock time on another date. -/
def DateTime.on (t : DateTime) (d : Date) : DateTime := { t with date := d }

/-- `t + timedelta(days=n)`. -/
def DateTime.add_days (t : DateTime) (n : Int) : Except Exn DateTime :=
  if 1 ≤ t.date + n ∧ t.date + n ≤ 3652059 then .ok (t.on (t.date + n))
  else .error (.other "OverflowError" "date value out of range")

/-! ## Rules -/

/-- Date offset; several units may be combined. -/
structure Offset where
  days : Int
  business_days : Int
  weeks : Int
  months : Int
  years : Int
  deriving DecidableEq

inductive ReminderUnit where
  | days
  | business_days
  deriving DecidableEq, Repr

def ReminderUnit.value : ReminderUnit → String
  | .days => "days"
  | .business_days => "business_days"

structure ReminderOffset where
  amount : Int
  unit : ReminderUnit
  label : Option String
  deriving DecidableEq

/-- Immutable pointer to a versioned rule. -/
structure RuleRef where
  rule_id : String
  rule_version : String
  jurisdiction : String
  practice_area : Option String
  deriving DecidableEq

inductive EscalationTrigger where
  | reminder_missed
  | approaching
  | after_due
  deriving DecidableEq, Repr

structure EscalationLevel where
  trigger : EscalationTrigger
  after : Option ReminderOffset
  recipients : List String
  deriving DecidableEq

/-- A single parsed, validated deadline rule. -/
structure DeadlineRule where
  rule_id : String
  jurisdiction : String
  practice_area : Option String
  trigger : String
  offset : Offset
  adjust : Adjust
  calendar_id : String
  reminders : List ReminderOffset
  /-- `escalation.levels`. -/
  escalation : List EscalationLevel
  description : String
  assumption_unconfirmed : Bool

/-- `ENGINE_VERSION`. -/
def ENGINE_VERSION : String := "1.0.0"

/-- The auditable derivation of a due date. -/
structure ComputationTrace where
  rule_ref : RuleRef
  trigger_field : String
  trigger_value : DateTime
  offset : Offset
  raw_due : DateTime
  calendar_id : String
  calendar_version : String
  adjustment : Adjust
  due_at : DateTime
  computed_at : DateTime
  engine_version : String
  deriving DecidableEq

/-! ## Due dates -/

/-- `MissingTriggerError`. -/
def missing_trigger (trigger_field : String) : Exn :=
  .other "MissingTriggerError" ("Missing required trigger input: " ++ repr_str trigger_field)

/-- `result.replace(year=year, month=month)`, on the 28th if there is no such day. -/
def replace_year_month (t : DateTime) (year month : Int) : Except Exn DateTime :=
  match make_date year month (day_of t.date) with
  | .ok d => .ok (t.on d)
  | .error _ => do
    let d ← make_date year month 28
    .ok (t.on d)

/-- The year part of an offset. -/
def add_years (t : DateTime) (years : Int) : Except Exn DateTime :=
  if years = 0 then .ok t
  else replace_year_month t (year_of t.date + years) (month_of t.date)

/-- The month part of an offset. -/
def add_months (t : DateTime) (months : Int) : Except Exn DateTime :=
  if months = 0 then .ok t
  else
    let month := month_of t.date + months
    replace_year_month t (year_of t.date + (month - 1) / 12) ((month - 1) % 12 + 1)

/-- The week and day parts of an offset. -/
def shift_days (t : DateTime) (n : Int) : Except Exn DateTime :=
  if n = 0 then .ok t else t.add_days n

/-- The part in business days of an offset. -/
def shift_business_days (t : DateTime) (n : Int) : Except Exn DateTime :=
  if n = 0 then .ok t else (add_business_days t.date n).map t.on

/-- `_apply_offset`. -/
def apply_offset (base : DateTime) (offset : Offset) : Except Exn DateTime := do
  let result ← add_years base offset.years
  let result ← add_months result offset.months
  let result ← shift_days result (7 * offset.weeks)
  let result ← shift_days result offset.days
  shift_business_days result offset.business_days

/-- `compute_due_date`, with the time of the computation. -/
def compute_due_date (rule : DeadlineRule) (trigger_inputs : Dict String DateTime)
    (as_of : DateTime) (rule_ref : RuleRef) : Except Exn ComputationTrace :=
  match trigger_inputs.get? rule.trigger with
  | none => .error (missing_trigger rule.trigger)
  | some trigger_value => do
    get_calendar rule.calendar_id
    let raw_due ← apply_offset trigger_value rule.offset
    let adjusted_date ← adjust raw_due.date rule.adjust
    let version ← calendar_version
    .ok {
      rule_ref := rule_ref
      trigger_field := rule.trigger
      trigger_value := trigger_value
      offset := rule.offset
      raw_due := raw_due
      calendar_id := rule.calendar_id
      calendar_version := version
      adjustment := rule.adjust
      due_at := raw_due.on adjusted_date
      computed_at := as_of
      engine_version := ENGINE_VERSION }

/-- When a reminder fires. -/
def fire_at (due_at : DateTime) (rem : ReminderOffset) : Except Exn DateTime :=
  match rem.unit with
  | .business_days => do
    let fire_date ← add_business_days due_at.date rem.amount
    .ok (due_at.on fire_date)
  | .days => due_at.add_days rem.amount

end CaseAutomation.Deadline
