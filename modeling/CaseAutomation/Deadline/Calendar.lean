import CaseAutomation.Base.Errors
import CaseAutomation.Base.Text
import CaseAutomation.Security.Hmac
import Mathlib.Data.List.Sort

/-! # The Business-Day Calendar

    `deadline/calendar.py`. A date is its proleptic Gregorian ordinal (`date.toordinal()`: day 1
    is 0001-01-01), unbounded in both directions; where the code builds a date from a
    year, a month and a day, the range of the standard library is checked.

    The loops over days end because every weekday outside the supported years raises
    `CalendarError`; the supported years have fewer than `MAX_WALK` days.
-/

namespace CaseAutomation.Deadline

open Security

/-! ## Dates -/

/-- A date, as its ordinal. -/
abbrev Date : Type := Int

def is_leap (year : Int) : Bool :=
  decide (year % 4 = 0) && (decide (year % 100 ≠ 0) || decide (year % 400 = 0))

def days_in_month (year month : Int) : Int :=
  if month = 2 then (if is_leap year then 29 else 28)
  else if month = 4 ∨ month = 6 ∨ month = 9 ∨ month = 11 then 30
  else 31

/-- Days before January 1st of the year. -/
def days_before_year (year : Int) : Int :=
  let y := year - 1
  365 * y + y / 4 - y / 100 + y / 400

/-- Days of the year before the first of the month. -/
def days_before_month (year : Int) : Nat → Int
  | 0 => 0
  | m + 1 => if m = 0 then 0 else days_before_month year m + days_in_month year m

/-- The ordinal of a year, month and day. -/
def ordinal (year month day : Int) : Date :=
  days_before_year year + days_before_month year month.toNat + day

/-- `date(year, month, day)`. -/
def make_date (year month day : Int) : Except Exn Date :=
  if year < 1 ∨ 9999 < year then
    .error (.value_error ("year " ++ toString year ++ " is out of range"))
  else if month < 1 ∨ 12 < month then .error (.value_error "month must be in 1..12")
  else if day < 1 ∨ days_in_month year month < day then
    .error (.value_error "day is out of range for month")
  else .ok (ordinal year month day)

/-- `d.year`: within a cycle of 400 years, the centuries, the groups of four years and the
    years are counted off. -/
def year_of (d : Date) : Int :=
  let n := d - 1
  let n400 := n / 146097
  let n := n % 146097
  let n100 := n / 36524
  let n := n % 36524
  let n4 := n / 1461
  let n := n % 1461
  let n1 := n / 365
  let year := n400 * 400 + n100 * 100 + n4 * 4 + n1 + 1
  -- the last day of a leap year or of a cycle
  if n1 = 4 ∨ n100 = 4 then year - 1 else year

/-- The month of a day of the year, counted from 1. -/
def month_of_yearday (year yearday : Int) : Nat → Nat
  | 0 => 1
  | m + 1 => if days_before_month year (m + 1) < yearday then m + 1 else month_of_yearday year yearday m

/-- `d.month`. -/
def month_of (d : Date) : Int :=
  month_of_yearday (year_of d) (d - days_before_year (year_of d)) 12

/-- `d.day`. -/
def day_of (d : Date) : Int :=
  d - days_before_year (year_of d) - days_before_month (year_of d) (month_of d).toNat

/-- `d.weekday()`: Monday is 0. -/
def weekday (d : Date) : Int := (d + 6) % 7

/-- A number with at least this many digits. -/
def padded (width : Nat) (n : Int) : String :=
  let digits := (toString n).toList
  String.ofList (List.replicate (width - digits.length) '0' ++ digits)

/-- `str(d)`. -/
def isoformat (d : Date) : String :=
  padded 4 (year_of d) ++ "-" ++ padded 2 (month_of d) ++ "-" ++ padded 2 (day_of d)

/-! ## Federal holidays -/

/-- `_nth_weekday_of_month`. -/
def nth_weekday_of_month (year month wd n : Int) : Except Exn Date := do
  let first ← make_date year month 1
  let result := first + (wd - weekday first) % 7 + (n - 1) * 7
  if month_of result ≠ month then
    .error (.value_error ("No " ++ toString n ++ "th weekday=" ++ toString wd ++ " in " ++
      toString year ++ "-" ++ padded 2 month))
  else .ok result

/-- `_last_weekday_of_month`. -/
def last_weekday_of_month (year month wd : Int) : Except Exn Date := do
  let next_month ← make_date (if month < 12 then year else year + 1)
    (if month < 12 then month % 12 + 1 else 1) 1
  let last_day := next_month - 1
  .ok (last_day - (weekday last_day - wd) % 7)

/-- `_observed`. -/
def observed (d : Date) : Date :=
  if weekday d = 5 then d - 1 else if weekday d = 6 then d + 1 else d

/-- `us_federal_holidays`. -/
def us_federal_holidays (year : Int) : Except Exn (List Date) := do
  let new_year ← make_date year 1 1
  let mlk ← nth_weekday_of_month year 1 0 3
  let presidents ← nth_weekday_of_month year 2 0 3
  let memorial ← last_weekday_of_month year 5 0
  let juneteenth ← make_date year 6 19
  let independence ← make_date year 7 4
  let labor ← nth_weekday_of_month year 9 0 1
  let columbus ← nth_weekday_of_month year 10 0 2
  let veterans ← make_date year 11 11
  let thanksgiving ← nth_weekday_of_month year 11 3 4
  let christmas ← make_date year 12 25
  .ok [observed new_year, mlk, presidents, memorial, observed juneteenth, observed independence,
    labor, columbus, observed veterans, thanksgiving, observed christmas]

/-! ## The calendar -/

/-- `Calendar.SUPPORTED_YEARS`. -/
def supported_year (year : Int) : Bool := decide (2020 ≤ year ∧ year ≤ 2040)

/-- `CalendarError`. -/
def calendar_error (message : String) : Exn := .other "CalendarError" message

/-- `get_calendar`, for its check of the id: there is one calendar. -/
def get_calendar (calendar_id : String) : Except Exn Unit :=
  if calendar_id = "us_federal" then .ok ()
  else .error (calendar_error ("Unknown calendar_id " ++ repr_str calendar_id ++ "."))

/-- `Calendar._holidays`. -/
def holidays (year : Int) : Except Exn (List Date) :=
  if supported_year year then us_federal_holidays year
  else .error (calendar_error ("Holiday data for year " ++ toString year ++
    " not available for calendar 'us_federal'. " ++
    "Extend SUPPORTED_YEARS before running computations for this year."))

/-- `Calendar.version`. -/
def calendar_version : Except Exn String := do
  let sample ← holidays 2026
  let raw := ",".intercalate ((sample.insertionSort fun a b => a ≤ b).map isoformat)
  .ok ("usfed_" ++ slice_to (hexdigest (sha256 (encode_utf8 raw))) 8)

/-- `Calendar.is_business_day`. -/
def is_business_day (d : Date) : Except Exn Bool :=
  if 5 ≤ weekday d then .ok false
  else do
    let hs ← holidays (year_of d)
    .ok (decide (d ∉ hs))

/-- More days than any walk over supported years can take. -/
def MAX_WALK : Nat := 8000

/-- The loop of `add_business_days`: walk until `remaining` business days have been met. -/
def walk (direction : Int) : Nat → Nat → Date → Except Exn Date
  | _, 0, current => .ok current
  | 0, _ + 1, _ => .error .recursion_error
  | fuel + 1, remaining + 1, current => do
    if ← is_business_day (current + direction) then
      walk direction fuel remaining (current + direction)
    else walk direction fuel (remaining + 1) (current + direction)

/-- `Calendar.add_business_days`. -/
def add_business_days (d : Date) (n : Int) : Except Exn Date :=
  walk (if 0 ≤ n then 1 else -1) MAX_WALK n.natAbs d

/-- `Calendar.next_business_day`: the same walk, to the first one. -/
def next_business_day (d : Date) : Except Exn Date := walk 1 MAX_WALK 1 d

/-- `Calendar.previous_business_day`. -/
def previous_business_day (d : Date) : Except Exn Date := walk (-1) MAX_WALK 1 d

inductive Adjust where
  | next_business_day
  | previous_business_day
  | none
  deriving DecidableEq, Repr

/-- `Calendar.adjust`. -/
def adjust (d : Date) : Adjust → Except Exn Date
  | .next_business_day => do
    if ← is_business_day d then .ok d else next_business_day d
  | .previous_business_day => do
    if ← is_business_day d then .ok d else previous_business_day d
  | .none => .ok d

end CaseAutomation.Deadline
