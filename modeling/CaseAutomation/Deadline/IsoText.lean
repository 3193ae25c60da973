import CaseAutomation.Base.JsonCodec
import CaseAutomation.Deadline.Months
import CaseAutomation.Framework.Numerals
import Mathlib.Data.String.Basic
import Mathlib.Tactic.Positivity

/-! # ISO Texts in Order

    `datetime.isoformat` writes fields of fixed width, from the year down, so that texts of
    one time zone compare as the times do (`isoformat_lt_iff`). The one field that may be missing, the
    microseconds, does no harm: what stands in its place sorts before its point.
-/

namespace CaseAutomation.Deadline

open Framework

/-- The range of `datetime`. -/
structure InRange (t : DateTime) : Prop where
  date : 1 ≤ t.date ∧ t.date ≤ 3652059
  time : t.time < 86400000000

/-! ## Fields -/

/-- A decimal numeral. -/
abbrev decimal (k n : Nat) : List Char := numeral Nat.digitChar 10 k n

theorem digits_in_order : OrderedDigits Nat.digitChar 10 := by
  unfold OrderedDigits
  decide

/-- Digits and the zeros before them. -/
theorem zeros_digits {k n : Nat} (h : n < 10 ^ (k + 1)) :
    List.replicate (k + 1 - (Nat.toDigits 10 n).length) '0' ++ Nat.toDigits 10 n =
      decimal (k + 1) n := by
  induction k generalizing n with
  | zero =>
    have hn : n < 10 := by omega
    rw [Nat.toDigits_of_lt_base hn]
    show [] ++ [n.digitChar] = [] ++ [Nat.digitChar (n % 10)]
    rw [Nat.mod_eq_of_lt hn]
  | succ k ih =>
    have hlength : ∀ m, decimal (k + 2) m = decimal (k + 1) (m / 10) ++ [Nat.digitChar (m % 10)] :=
      fun _ => rfl
    rw [Nat.pow_succ] at h
    by_cases hn : n < 10
    · have hzero := ih (n := 0) (by positivity)
      rw [Nat.toDigits_of_lt_base hn, hlength, Nat.div_eq_of_lt hn, ← hzero, Nat.mod_eq_of_lt hn]
      show List.replicate (k + 1) '0' ++ _ = (List.replicate k '0' ++ ['0']) ++ _
      rw [← List.replicate_succ']
    · have hrest := ih (n := n / 10) (by omega)
      rw [Nat.toDigits_of_base_le (by decide) (by omega), hlength, ← hrest, List.length_append,
        List.append_assoc]
      have hzeros : k + 1 + 1 - ((Nat.toDigits 10 (n / 10)).length + [Nat.digitChar (n % 10)].length) =
          k + 1 - (Nat.toDigits 10 (n / 10)).length := Nat.add_sub_add_right _ 1 _
      rw [hzeros]

theorem padded_toList {k : Nat} {n : Int} (hn : 0 ≤ n) (h : n < 10 ^ (k + 1)) :
    (padded (k + 1) n).toList = decimal (k + 1) n.toNat := by
  obtain ⟨m, rfl⟩ := Int.eq_ofNat_of_zero_le hn
  have hm : m < 10 ^ (k + 1) := by exact_mod_cast h
  unfold padded
  rw [String.toList_ofList, JsonCodec.toList_toString_int]
  exact zeros_digits hm

/-- What stands between the seconds and the offset. -/
def fraction (us : Nat) : List Char :=
  if us % 1000000 = 0 then [] else '.' :: decimal 6 (us % 1000000)

/-- The offset. -/
def offset_text (utcoffset : Option Int) : String :=
  match utcoffset with
  | none => ""
  | some x => (if x < 0 then "-" else "+") ++ hours_minutes x.natAbs ++
      if x.natAbs % 60000000 = 0 then "" else seconds_text x.natAbs

/-- An offset starts with its sign. -/
theorem offset_text_start (utcoffset : Option Int) : (offset_text utcoffset).toList = [] ∨
    ∃ c cs, (offset_text utcoffset).toList = c :: cs ∧ c < '.' := by
  cases utcoffset with
  | none => exact .inl rfl
  | some x =>
    right
    unfold offset_text
    by_cases hx : x < 0
    · simp only [hx, if_true, String.toList_append, List.append_assoc]
      exact ⟨'-', _, rfl, by decide⟩
    · simp only [hx, if_false, String.toList_append, List.append_assoc]
      exact ⟨'+', _, rfl, by decide⟩

/-! ## The fields of a text -/

theorem days_in_month_le (year month : Int) : days_in_month year month ≤ 31 := by
  unfold days_in_month
  split_ifs <;> omega

/-- The years of the dates that exist. -/
theorem year_in_range {d : Int} (h : 1 ≤ d ∧ d ≤ 3652059) : 1 ≤ year_of d ∧ year_of d ≤ 9999 := by
  obtain ⟨hlow, hhigh⟩ := year_of_iff.mp (rfl : year_of d = year_of d)
  have hfirst : days_before_year 1 = 0 := by decide
  have hlast : days_before_year 10000 = 3652059 := by decide
  constructor
  · by_contra hnot
    have hmono := days_before_year_mono (show year_of d + 1 ≤ 1 by omega)
    omega
  · by_contra hnot
    have hmono := days_before_year_mono (show 10000 ≤ year_of d by omega)
    omega

theorem date_toList {d : Int} (h : 1 ≤ d ∧ d ≤ 3652059) : (isoformat d).toList =
    decimal 4 (year_of d).toNat ++ '-' :: (decimal 2 (month_of d).toNat ++
      '-' :: decimal 2 (day_of d).toNat) := by
  obtain ⟨m, hparts⟩ := exists_parts d
  have hmonth := hparts.month_eq
  have hmonths := hparts.month_range
  have hday := hparts.day_range
  have hdays := days_in_month_le (year_of d) m
  have hyear := year_in_range h
  have hfour := padded_toList (k := 3) (show 0 ≤ year_of d by omega) (by omega)
  have htwo := padded_toList (k := 1) (show 0 ≤ month_of d by omega) (by omega)
  have htwo' := padded_toList (k := 1) (show 0 ≤ day_of d by omega) (by omega)
  unfold isoformat
  simp only [String.toList_append, hfour, htwo, htwo', List.append_assoc]
  rfl

theorem natural_toList {k n : Nat} (h : n < 10 ^ (k + 1)) :
    (padded (k + 1) n).toList = decimal (k + 1) n :=
  padded_toList (Int.natCast_nonneg n) (by exact_mod_cast h)

theorem hours_minutes_toList {us : Nat} (h : us < 86400000000) : (hours_minutes us).toList =
    decimal 2 (us / 3600000000) ++ ':' :: decimal 2 (us / 60000000 % 60) := by
  have hhour := natural_toList (k := 1) (show us / 3600000000 < 10 ^ 2 by omega)
  have hminute := natural_toList (k := 1) (show us / 60000000 % 60 < 10 ^ 2 by omega)
  unfold hours_minutes
  push_cast at hhour hminute ⊢
  simp only [String.toList_append, hhour, hminute, List.append_assoc]
  rfl

theorem seconds_toList (us : Nat) : (seconds_text us).toList =
    ':' :: (decimal 2 (us / 1000000 % 60) ++ fraction us) := by
  have hsecond := natural_toList (k := 1) (show us / 1000000 % 60 < 10 ^ 2 by omega)
  have hmicro := natural_toList (k := 5) (show us % 1000000 < 10 ^ 6 by omega)
  unfold seconds_text fraction
  push_cast at hsecond hmicro ⊢
  by_cases hzero : us % 1000000 = 0
  · simp only [String.toList_append, hsecond, hzero, if_true, List.append_assoc]
    rfl
  · simp only [String.toList_append, hsecond, hmicro, hzero, if_false, List.append_assoc]
    rfl

section order
variable {a b t : DateTime}

theorem isoformat_toList (h : InRange t) : t.isoformat.toList =
    decimal 4 (year_of t.date).toNat ++ '-' :: (decimal 2 (month_of t.date).toNat ++
      '-' :: (decimal 2 (day_of t.date).toNat ++ 'T' :: (decimal 2 (t.time / 3600000000) ++
        ':' :: (decimal 2 (t.time / 60000000 % 60) ++ ':' :: (decimal 2 (t.time / 1000000 % 60) ++
          (fraction t.time ++ (offset_text t.utcoffset).toList)))))) := by
  have htext : t.isoformat = isoformat t.date ++ "T" ++ hours_minutes t.time ++ seconds_text t.time ++
      offset_text t.utcoffset := rfl
  rw [htext]
  simp only [String.toList_append, date_toList h.date, hours_minutes_toList h.time, seconds_toList,
    List.append_assoc, List.cons_append]
  rfl

/-! ## Order -/

/-- Years, months and days decide between two dates. -/
theorem date_lt_iff {d d' : Int} : d < d' ↔ year_of d < year_of d' ∨ year_of d = year_of d' ∧
    (month_of d < month_of d' ∨ month_of d = month_of d' ∧ day_of d < day_of d') := by
  obtain ⟨m, hparts⟩ := exists_parts d
  obtain ⟨m', hparts'⟩ := exists_parts d'
  have hmonth := hparts.month_eq
  have hmonths := hparts.month_range
  have hmonth' := hparts'.month_eq
  have hmonths' := hparts'.month_range
  have hcount : month_number d = 12 * year_of d + (month_of d - 1) := rfl
  have hcount' : month_number d' = 12 * year_of d' + (month_of d' - 1) := rfl
  rcases lt_trichotomy (month_number d) (month_number d') with hlt | heq | hgt
  · have hdate := lt_of_month_lt hlt
    omega
  · have hday := le_iff_day_le heq
    have hday' := le_iff_day_le heq.symm
    omega
  · have hdate := lt_of_month_lt hgt
    omega

/-- Fractions of a second, before the same offset. -/
theorem fraction_lt_iff {us us' : Nat} (utcoffset : Option Int) :
    fraction us ++ (offset_text utcoffset).toList < fraction us' ++ (offset_text utcoffset).toList ↔
      us % 1000000 < us' % 1000000 := by
  have hpoint : ∀ cs : List Char, (offset_text utcoffset).toList < '.' :: cs := by
    intro cs
    rcases offset_text_start utcoffset with hnil | ⟨c, rest, hcons, hc⟩
    · rw [hnil]
      exact List.nil_lt_cons _ _
    · rw [hcons, List.cons_lt_cons_iff]
      exact .inl hc
  unfold fraction
  by_cases hzero : us % 1000000 = 0
  · by_cases hzero' : us' % 1000000 = 0
    · simp [hzero, hzero']
    · simp only [hzero, hzero', if_true, if_false, List.nil_append, List.cons_append]
      exact iff_of_true (hpoint _) (by omega)
  · by_cases hzero' : us' % 1000000 = 0
    · simp only [hzero, hzero', if_true, if_false, List.nil_append, List.cons_append]
      exact iff_of_false (lt_asymm (hpoint _)) (by omega)
    · simp only [hzero, hzero', if_false, List.cons_append, List.cons_lt_cons_self]
      rw [numeral_append_lt_iff digits_in_order (by omega) (by omega)]
      simp

/-- The date decides between two times on the wall, and then the fields of the time of day. -/
theorem wall_lt_iff {d d' : Int} {us us' : Nat} (h : us < 86400000000) (h' : us' < 86400000000) :
    d * 86400000000 + us < d' * 86400000000 + us' ↔ d < d' ∨ d = d' ∧
      (us / 3600000000 < us' / 3600000000 ∨ us / 3600000000 = us' / 3600000000 ∧
        (us / 60000000 % 60 < us' / 60000000 % 60 ∨ us / 60000000 % 60 = us' / 60000000 % 60 ∧
          (us / 1000000 % 60 < us' / 1000000 % 60 ∨ us / 1000000 % 60 = us' / 1000000 % 60 ∧
            us % 1000000 < us' % 1000000))) := by
  omega

/-- Two dates with the same parts are the same. -/
theorem date_eq_iff {d d' : Int} : d = d' ↔ year_of d = year_of d' ∧
    month_of d = month_of d' ∧ day_of d = day_of d' := by
  have hlt : d < d' ↔ _ := date_lt_iff
  have hgt : d' < d ↔ _ := date_lt_iff
  constructor
  · rintro rfl
    exact ⟨rfl, rfl, rfl⟩
  · rintro ⟨hyear, hmonth, hday⟩
    rw [hyear, hmonth, hday] at hlt hgt
    omega

/-- **Texts of one time zone compare as the times do.** -/
theorem isoformat_lt_iff (ha : InRange a) (hb : InRange b) (hzone : a.utcoffset = b.utcoffset) :
    a.isoformat < b.isoformat ↔ a.wall < b.wall := by
  have hyear := year_in_range ha.date
  have hyear' := year_in_range hb.date
  obtain ⟨m, hparts⟩ := exists_parts a.date
  obtain ⟨m', hparts'⟩ := exists_parts b.date
  have hmonth := hparts.month_eq
  have hmonths := hparts.month_range
  have hmonth' := hparts'.month_eq
  have hmonths' := hparts'.month_range
  have hday := hparts.day_range
  have hday' := hparts'.day_range
  have hdays := days_in_month_le (year_of a.date) m
  have hdays' := days_in_month_le (year_of b.date) m'
  have hdate : a.date < b.date ↔ _ := date_lt_iff
  have hsame : a.date = b.date ↔ _ := date_eq_iff
  have hwall : a.wall < b.wall ↔ _ := wall_lt_iff ha.time hb.time
  have htime := ha.time
  have htime' := hb.time
  rw [String.lt_iff_toList_lt, isoformat_toList ha, isoformat_toList hb, hzone,
    numeral_append_lt_iff digits_in_order (by omega) (by omega), List.cons_lt_cons_self,
    numeral_append_lt_iff digits_in_order (by omega) (by omega), List.cons_lt_cons_self,
    numeral_append_lt_iff digits_in_order (by omega) (by omega), List.cons_lt_cons_self,
    numeral_append_lt_iff digits_in_order (by omega) (by omega), List.cons_lt_cons_self,
    numeral_append_lt_iff digits_in_order (by omega) (by omega), List.cons_lt_cons_self,
    numeral_append_lt_iff digits_in_order (by omega) (by omega), fraction_lt_iff, hwall, hdate, hsame]
  have hnat : ∀ {x y : Int}, 0 ≤ x → 0 ≤ y → (x.toNat < y.toNat ↔ x < y) ∧
      (x.toNat = y.toNat ↔ x = y) := by
    intro x y hx hy
    omega
  rw [(hnat (show 0 ≤ year_of a.date by omega) (show 0 ≤ year_of b.date by omega)).1,
    (hnat (show 0 ≤ year_of a.date by omega) (show 0 ≤ year_of b.date by omega)).2,
    (hnat (show 0 ≤ month_of a.date by omega) (show 0 ≤ month_of b.date by omega)).1,
    (hnat (show 0 ≤ month_of a.date by omega) (show 0 ≤ month_of b.date by omega)).2,
    (hnat (show 0 ≤ day_of a.date by omega) (show 0 ≤ day_of b.date by omega)).1,
    (hnat (show 0 ≤ day_of a.date by omega) (show 0 ≤ day_of b.date by omega)).2]
  simp only [and_or_left, or_assoc, and_assoc]

end order

end CaseAutomation.Deadline
