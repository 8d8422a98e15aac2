import DesignTokens.Calendar
import Mathlib.Algebra.GroupWithZero.Nat
import Mathlib.Order.Monotone.Basic

/-! Days of the Gregorian calendar. The number of a day is the number of days before it, counted by whole
years and whole months; every number is that of exactly one date, and dates come in the order of their
numbers. -/

namespace DesignTokens.Proofs.GregorianDays
open Calendar

structure IsDate (date : Date) : Prop where
  year : 1 ≤ date.year
  month : 1 ≤ date.month
  month_le : date.month ≤ 12
  day : 1 ≤ date.day
  day_le : date.day ≤ daysInMonth date.year date.month

instance : DecidablePred IsDate := fun date =>
  decidable_of_iff (1 ≤ date.year ∧ 1 ≤ date.month ∧ date.month ≤ 12 ∧ 1 ≤ date.day ∧
      date.day ≤ daysInMonth date.year date.month)
    ⟨fun ⟨year, month, month_le, day, day_le⟩ => ⟨year, month, month_le, day, day_le⟩,
      fun ⟨year, month, month_le, day, day_le⟩ => ⟨year, month, month_le, day, day_le⟩⟩

def yearLength (year : Nat) : Nat := if isLeap year then 366 else 365

/-- The days of all whole years since the year 1, of all whole months since the start of the year, and of
all whole days since the start of the month. -/
def elapsed (date : Date) : Nat :=
  ((List.range' 1 (date.year - 1)).map yearLength).sum +
    ((List.range' 1 (date.month - 1)).map (daysInMonth date.year)).sum + (date.day - 1)

private theorem yearLength_cases (year : Nat) :
    (isLeap year = true ∧ yearLength year = 366) ∨ (¬ isLeap year = true ∧ yearLength year = 365) := by
  unfold yearLength
  split <;> simp_all

/-- The three quotients in the number of days grow one after another, each where the rule of leap years says
so. -/
theorem daysBeforeYear_succ (past : Nat) :
    daysBeforeYear (past + 1 + 1) = daysBeforeYear (past + 1) + yearLength (past + 1) := by
  have fewer : past / 100 ≤ past / 4 := Nat.div_le_div_left (by decide) (by decide)
  simp only [daysBeforeYear, Nat.add_sub_cancel]
  by_cases four : (past + 1) % 4 = 0
  · by_cases hundred : (past + 1) % 100 = 0
    · by_cases era : (past + 1) % 400 = 0
      · have length : yearLength (past + 1) = 366 := by simp [yearLength, isLeap, four, era]
        rw [length, Nat.succ_div_of_mod_eq_zero four, Nat.succ_div_of_mod_eq_zero hundred,
          Nat.succ_div_of_mod_eq_zero era]
        omega
      · have length : yearLength (past + 1) = 365 := by simp [yearLength, isLeap, hundred, era]
        rw [length, Nat.succ_div_of_mod_eq_zero four, Nat.succ_div_of_mod_eq_zero hundred,
          Nat.succ_div_of_mod_ne_zero era]
        omega
    · have era : (past + 1) % 400 ≠ 0 := by omega
      have length : yearLength (past + 1) = 366 := by simp [yearLength, isLeap, four, hundred]
      rw [length, Nat.succ_div_of_mod_eq_zero four, Nat.succ_div_of_mod_ne_zero hundred,
        Nat.succ_div_of_mod_ne_zero era]
      omega
  · have hundred : (past + 1) % 100 ≠ 0 := by omega
    have era : (past + 1) % 400 ≠ 0 := by omega
    have length : yearLength (past + 1) = 365 := by simp [yearLength, isLeap, four]
    rw [length, Nat.succ_div_of_mod_ne_zero four, Nat.succ_div_of_mod_ne_zero hundred,
      Nat.succ_div_of_mod_ne_zero era]
    omega

private theorem daysBeforeYear_eq (past : Nat) :
    daysBeforeYear (past + 1) = ((List.range' 1 past).map yearLength).sum := by
  induction past with
  | zero => rfl
  | succ past ih =>
    rw [daysBeforeYear_succ, ih, List.range'_1_concat, List.map_append, List.sum_append, Nat.add_comm 1 past]
    simp

private theorem daysBeforeYear_le_succ (year : Nat) : daysBeforeYear year ≤ daysBeforeYear (year + 1) := by
  cases year with
  | zero => exact Nat.zero_le _
  | succ past =>
    rw [daysBeforeYear_succ]
    exact Nat.le_add_right _ _

theorem daysBeforeYear_mono : Monotone daysBeforeYear :=
  monotone_nat_of_le_succ daysBeforeYear_le_succ

theorem daysBeforeMonth_eq_sum (year month : Nat) :
    daysBeforeMonth year month = ((monthLengths year).take (month - 1)).sum :=
  List.sum_eq_foldl.symm

theorem daysBeforeMonth_succ (year past : Nat) :
    daysBeforeMonth year (past + 1 + 1) = daysBeforeMonth year (past + 1) + daysInMonth year (past + 1) := by
  simp only [daysBeforeMonth_eq_sum, daysInMonth, Nat.add_sub_cancel]
  rw [List.take_add_one, List.sum_append]
  cases (monthLengths year)[past]? <;> simp

private theorem daysBeforeMonth_eq (year past : Nat) :
    daysBeforeMonth year (past + 1) = ((List.range' 1 past).map (daysInMonth year)).sum := by
  induction past with
  | zero => rfl
  | succ past ih =>
    rw [daysBeforeMonth_succ, ih, List.range'_1_concat, List.map_append, List.sum_append, Nat.add_comm 1 past]
    simp

private theorem monthLengths_sum (year : Nat) : (monthLengths year).sum = yearLength year := by
  unfold monthLengths yearLength
  split <;> rfl

/-- The number of a date is the number of days before it. -/
theorem dayNumber_eq_elapsed (date : Date) : date.dayNumber = elapsed date := by
  have years : daysBeforeYear date.year = ((List.range' 1 (date.year - 1)).map yearLength).sum := by
    cases date.year with
    | zero => rfl
    | succ past => exact daysBeforeYear_eq past
  have months : daysBeforeMonth date.year date.month =
      ((List.range' 1 (date.month - 1)).map (daysInMonth date.year)).sum := by
    cases date.month with
    | zero => rfl
    | succ past => exact daysBeforeMonth_eq date.year past
  rw [Date.dayNumber, elapsed, years, months]

variable {date other : Date}

private theorem daysBeforeMonth_le_succ (year month : Nat) :
    daysBeforeMonth year month ≤ daysBeforeMonth year (month + 1) := by
  cases month with
  | zero => exact Nat.le_refl _
  | succ past =>
    rw [daysBeforeMonth_succ]
    exact Nat.le_add_right _ _

private theorem daysBeforeMonth_mono (year : Nat) : Monotone (daysBeforeMonth year) :=
  monotone_nat_of_le_succ (daysBeforeMonth_le_succ year)

private theorem daysBeforeMonth_whole (year : Nat) : daysBeforeMonth year 13 = yearLength year := by
  rw [daysBeforeMonth_eq_sum, ← monthLengths_sum]
  rfl

/-- A day lies before the first of the next month. -/
theorem IsDate.lt_nextMonth (valid : IsDate date) :
    daysBeforeMonth date.year date.month + (date.day - 1) < daysBeforeMonth date.year (date.month + 1) := by
  obtain ⟨past, month⟩ := Nat.exists_eq_add_of_le' valid.month
  have day := valid.day
  have day_le := valid.day_le
  rw [month] at day_le ⊢
  rw [daysBeforeMonth_succ]
  omega

/-- A day lies before the first of the next year. -/
theorem IsDate.lt_nextYear (valid : IsDate date) : date.dayNumber < daysBeforeYear (date.year + 1) := by
  obtain ⟨past, year⟩ := Nat.exists_eq_add_of_le' valid.year
  have day := valid.lt_nextMonth
  have month : daysBeforeMonth date.year (date.month + 1) ≤ yearLength date.year := by
    rw [← daysBeforeMonth_whole]
    exact daysBeforeMonth_mono date.year (Nat.succ_le_succ valid.month_le)
  have length := daysBeforeYear_succ past
  rw [← year] at length
  rw [Date.dayNumber, length]
  omega

theorem daysBeforeYear_le_dayNumber (date : Date) : daysBeforeYear date.year ≤ date.dayNumber := by
  rw [Date.dayNumber, Nat.add_assoc]
  exact Nat.le_add_right _ _

/-- Of two dates the one with the smaller year is earlier, then the one with the smaller month, then the one
with the smaller day. -/
theorem dayNumber_lt (valid : IsDate date)
    (before : date.year < other.year ∨ date.year = other.year ∧
      (date.month < other.month ∨ date.month = other.month ∧ date.day < other.day)) :
    date.dayNumber < other.dayNumber := by
  rcases before with year | ⟨year, month | ⟨month, day⟩⟩
  · calc date.dayNumber < daysBeforeYear (date.year + 1) := valid.lt_nextYear
      _ ≤ daysBeforeYear other.year := daysBeforeYear_mono year
      _ ≤ other.dayNumber := daysBeforeYear_le_dayNumber other
  · have day := valid.lt_nextMonth
    have next : daysBeforeMonth date.year (date.month + 1) ≤ daysBeforeMonth date.year other.month :=
      daysBeforeMonth_mono date.year month
    simp only [Date.dayNumber, ← year]
    omega
  · have first := valid.day
    simp only [Date.dayNumber, ← year, ← month]
    omega

/-- The month of a day is the first one that the months before it leave days for. -/
theorem monthOf_eq (lengths : List Nat) : ∀ (first day : Nat), day < lengths.sum →
    ∃ passed length rest, lengths = passed ++ length :: rest ∧ passed.sum ≤ day ∧ day < passed.sum + length ∧
      monthOf first day lengths = (first + passed.length, day - passed.sum + 1) := by
  induction lengths with
  | nil => exact fun _ day inside => absurd inside (Nat.not_lt_zero day)
  | cons length rest ih =>
    intro first day inside
    rw [monthOf]
    by_cases here : day < length
    · exact ⟨[], length, rest, rfl, Nat.zero_le _, by simpa using here, by simp [here]⟩
    · rw [List.sum_cons] at inside
      obtain ⟨passed, last, later, rfl, behind, before, found⟩ := ih (first + 1) (day - length) (by omega)
      refine ⟨length :: passed, last, later, rfl, ?_, ?_, ?_⟩
      · rw [List.sum_cons]
        omega
      · rw [List.sum_cons]
        omega
      · rw [if_neg here, found, List.sum_cons, List.length_cons, Nat.sub_sub, Nat.add_right_comm,
          Nat.add_assoc]

/-- A day of a year has a month and a place in it. -/
theorem monthOf_year {year day : Nat} (inside : day < yearLength year) :
    ∃ month place, monthOf 1 day (monthLengths year) = (month, place) ∧ 1 ≤ month ∧ month ≤ 12 ∧
      1 ≤ place ∧ place ≤ daysInMonth year month ∧ daysBeforeMonth year month + (place - 1) = day := by
  rw [← monthLengths_sum] at inside
  obtain ⟨passed, length, rest, whole, behind, before, found⟩ := monthOf_eq _ 1 day inside
  refine ⟨1 + passed.length, day - passed.sum + 1, found, by omega, ?_, by omega, ?_, ?_⟩
  · have twelve : (monthLengths year).length = 12 := rfl
    rw [whole, List.length_append, List.length_cons] at twelve
    omega
  · have last : daysInMonth year (1 + passed.length) = length := by
      rw [daysInMonth, whole, Nat.add_sub_cancel_left, List.getElem?_append_right (Nat.le_refl _)]
      simp
    omega
  · have months : daysBeforeMonth year (1 + passed.length) = passed.sum := by
      rw [daysBeforeMonth_eq_sum, whole, Nat.add_sub_cancel_left, List.take_left]
    omega

/-- Within 400 years the quotients in the number of days are those of the parts. -/
theorem daysBeforeYear_parts {century cycle year : Nat} (era : Nat) (centuries : century ≤ 3)
    (cycles : cycle ≤ 24) (years : year ≤ 3) :
    daysBeforeYear (era * 400 + century * 100 + cycle * 4 + year + 1) =
      era * 146097 + century * 36524 + cycle * 1461 + year * 365 := by
  simp only [daysBeforeYear, Nat.add_sub_cancel]
  have fours : (era * 400 + century * 100 + cycle * 4 + year) / 4 = era * 100 + century * 25 + cycle := by omega
  have hundreds : (era * 400 + century * 100 + cycle * 4 + year) / 100 = era * 4 + century := by omega
  have eras : (era * 400 + century * 100 + cycle * 4 + year) / 400 = era := by omega
  rw [fours, hundreds, eras]
  omega

/-- The last year of a cycle is a leap year, but for the last cycle of the first three centuries. -/
theorem isLeap_parts {century cycle year : Nat} (era : Nat) (centuries : century ≤ 3) (cycles : cycle ≤ 24)
    (years : year ≤ 3) : isLeap (era * 400 + century * 100 + cycle * 4 + year + 1) = true ↔
      year = 3 ∧ (cycle < 24 ∨ century = 3) := by
  have four : (era * 400 + century * 100 + cycle * 4 + year + 1) % 4 = 0 ↔ year = 3 := by omega
  have hundred : (era * 400 + century * 100 + cycle * 4 + year + 1) % 100 = 0 ↔ year = 3 ∧ cycle = 24 := by
    omega
  have whole : (era * 400 + century * 100 + cycle * 4 + year + 1) % 400 = 0 ↔
      year = 3 ∧ cycle = 24 ∧ century = 3 := by
    omega
  simp only [isLeap, Bool.and_eq_true, Bool.or_eq_true, beq_iff_eq, bne_iff_ne, ne_eq, four, hundred, whole]
  omega

/-- The days of an era by centuries, of which the last one has a day more. -/
theorem century_parts {inEra : Nat} (inside : inEra < 146097) : ∃ century rest,
    min (inEra / 36524) 3 = century ∧ inEra - century * 36524 = rest ∧ inEra = century * 36524 + rest ∧
      century ≤ 3 ∧ (rest < 36524 ∨ (century = 3 ∧ rest = 36524)) := by
  refine ⟨_, _, rfl, rfl, ?_, Nat.min_le_right _ _, ?_⟩ <;> omega

/-- The days of a cycle by years, of which the last one may have a day more. -/
theorem year_parts {inCycle : Nat} (inside : inCycle < 1461) : ∃ year day,
    min (inCycle / 365) 3 = year ∧ inCycle - year * 365 = day ∧ inCycle = year * 365 + day ∧
      year ≤ 3 ∧ (day < 365 ∨ (year = 3 ∧ day = 365)) := by
  refine ⟨_, _, rfl, rfl, ?_, Nat.min_le_right _ _, ?_⟩ <;> omega

/-- Every number is that of a date. -/
theorem ofDayNumber_date (number : Nat) :
    IsDate (Date.ofDayNumber number) ∧ (Date.ofDayNumber number).dayNumber = number := by
  have whole := Nat.div_add_mod number 146097
  obtain ⟨century, inCentury, century_eq, inCentury_eq, era_split, centuries, in_era⟩ :=
    century_parts (Nat.mod_lt number (by decide))
  have century_split := Nat.div_add_mod inCentury 1461
  obtain ⟨year, day, year_eq, day_eq, cycle_split, years, in_cycle⟩ :=
    year_parts (Nat.mod_lt inCentury (by decide))
  have cycles : inCentury / 1461 ≤ 24 := by omega
  have first := daysBeforeYear_parts (number / 146097) centuries cycles years
  have leap := isLeap_parts (number / 146097) centuries cycles years
  -- The day past 365 is left over only where the parts make the year a leap year.
  have inside := yearLength_cases
    (number / 146097 * 400 + century * 100 + inCentury / 1461 * 4 + year + 1)
  rw [leap] at inside
  obtain ⟨month, place, found, month_pos, month_le, place_pos, place_le, place_eq⟩ := monthOf_year
    (show day < yearLength (number / 146097 * 400 + century * 100 + inCentury / 1461 * 4 + year + 1) by omega)
  simp only [Date.ofDayNumber, century_eq, inCentury_eq, year_eq, day_eq, found]
  refine ⟨⟨Nat.le_add_left 1 _, month_pos, month_le, place_pos, place_le⟩, ?_⟩
  simp only [Date.dayNumber, first]
  omega

end DesignTokens.Proofs.GregorianDays
