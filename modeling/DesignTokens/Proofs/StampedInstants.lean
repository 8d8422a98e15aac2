import DesignTokens.Proofs.FixedFields
import DesignTokens.Proofs.GregorianDays
import Mathlib.Data.String.Basic

/-! Stamps of points in time. Whatever the zone in which a point is given, its stamp is the date and the
time in universal time, down to the millisecond. So one point has one stamp, and stamps are in the order
of time. -/

namespace DesignTokens.Proofs.StampedInstants
open Calendar FixedFields GregorianDays

structure IsMoment (moment : Moment) : Prop where
  date : IsDate moment.date
  hour : moment.hour < 24
  minute : moment.minute < 60
  second : moment.second < 60
  microsecond : moment.microsecond < 1000000

instance : DecidablePred IsMoment := fun moment =>
  decidable_of_iff (IsDate moment.date ∧ moment.hour < 24 ∧ moment.minute < 60 ∧ moment.second < 60 ∧
      moment.microsecond < 1000000)
    ⟨fun ⟨date, hour, minute, second, microsecond⟩ => ⟨date, hour, minute, second, microsecond⟩,
      fun ⟨date, hour, minute, second, microsecond⟩ => ⟨date, hour, minute, second, microsecond⟩⟩

def micros (moment : Moment) : Nat :=
  (((elapsed moment.date * 24 + moment.hour) * 60 + moment.minute) * 60 + moment.second) * 1000000 +
    moment.microsecond

def newYear (year : Nat) : Moment := ⟨⟨year, 1, 1⟩, 0, 0, 0, 0⟩

theorem micros_eq (moment : Moment) : micros moment = moment.seconds * 1000000 + moment.microsecond := by
  rw [micros, ← dayNumber_eq_elapsed, Moment.seconds]

private theorem micros_newYear (year : Nat) : micros (newYear year) = daysBeforeYear year * 86400000000 := by
  have months : daysBeforeMonth year 1 = 0 := by
    rw [daysBeforeMonth_eq_sum]
    rfl
  simp only [micros_eq, newYear, Moment.seconds, Date.dayNumber, months]
  omega

variable {moment other : Moment}

private theorem ofSeconds_moment (seconds : Nat) {microsecond : Nat} (small : microsecond < 1000000) :
    IsMoment (.ofSeconds seconds microsecond) ∧
      micros (.ofSeconds seconds microsecond) = seconds * 1000000 + microsecond := by
  obtain ⟨date, number⟩ := ofDayNumber_date (seconds / 86400)
  refine ⟨⟨date, Nat.mod_lt _ (by decide), Nat.mod_lt _ (by decide), Nat.mod_lt _ (by decide), small⟩, ?_⟩
  simp only [micros_eq, Moment.seconds, Moment.ofSeconds, number]
  omega

/-- A year has begun by the year of a point, and not before. -/
theorem micros_newYear_le_iff (valid : IsMoment moment) (year : Nat) :
    micros (newYear year) ≤ micros moment ↔ year ≤ moment.date.year := by
  have time := valid.hour
  have minute := valid.minute
  have second := valid.second
  have microsecond := valid.microsecond
  rw [micros_newYear, micros_eq, Moment.seconds]
  constructor
  · intro begun
    by_contra earlier
    have next : daysBeforeYear (moment.date.year + 1) ≤ daysBeforeYear year := daysBeforeYear_mono (by omega)
    have day := valid.date.lt_nextYear
    omega
  · intro later
    have first := daysBeforeYear_mono later
    have day := daysBeforeYear_le_dayNumber moment.date
    omega

/-- The form `YYYY-MM-DDTHH:MM:SS.mmmZ`. -/
def stampFields : List Field := [(4, '-'), (2, '-'), (2, 'T'), (2, ':'), (2, ':'), (2, '.'), (3, 'Z')]

def numbers (moment : Moment) : List Nat :=
  [moment.date.year, moment.date.month, moment.date.day, moment.hour, moment.minute, moment.second,
    moment.microsecond / 1000]

theorem daysInMonth_le (year month : Nat) : daysInMonth year month ≤ 31 := by
  have lengths : ∀ length ∈ monthLengths year, length ≤ 31 := by
    unfold monthLengths
    split <;> decide
  rw [daysInMonth]
  cases found : (monthLengths year)[month - 1]? with
  | none => exact Nat.zero_le _
  | some length => exact lengths length (List.mem_of_getElem? found)

/-- Every field has room for its number. -/
theorem fits_numbers (valid : IsMoment moment) (year : moment.date.year ≤ 9999) :
    Fits stampFields (numbers moment) := by
  obtain ⟨date, hour, minute, second, microsecond⟩ := valid
  have month := date.month_le
  have day := Nat.le_trans date.day_le (daysInMonth_le _ _)
  refine .cons ?_ (.cons ?_ (.cons ?_ (.cons ?_ (.cons ?_ (.cons ?_ (.cons ?_ .nil)))))) <;> omega

/-- A stamp is its fields one after another, as a year from 1000 on has the four digits of its field. -/
theorem isoText_eq (valid : IsMoment moment) (least : 1000 ≤ moment.date.year)
    (most : moment.date.year ≤ 9999) : moment.isoText.toList = writeFields stampFields (numbers moment) := by
  obtain ⟨date, hour, minute, second, microsecond⟩ := valid
  have month := date.month_le
  have day := Nat.le_trans date.day_le (daysInMonth_le _ _)
  have year : (toString moment.date.year).toList = decimals 4 moment.date.year := by
    have spelled : (toString moment.date.year).toList = Nat.toDigits 10 moment.date.year := Nat.toList_repr
    have thousands : 10 ^ 3 ≤ moment.date.year := least
    rw [spelled, toDigits_eq thousands (by omega)]
  have two (n : Nat) (small : n < 100) : Text.padded 2 n = decimals 2 n := padded_eq small
  have three : Text.padded 3 (moment.microsecond / 1000) = decimals 3 (moment.microsecond / 1000) :=
    padded_eq (by omega)
  simp only [Moment.isoText, String.toList_append, String.toList_ofList, year, three,
    two moment.date.month (by omega), two moment.date.day (by omega), two moment.hour (by omega),
    two moment.minute (by omega), two moment.second (by omega)]
  simp [writeFields, stampFields, numbers]

/-- The order of the numbers of two points is that of the points, to the millisecond. -/
theorem micros_lt_of_numbers (valid : IsMoment moment) (valid' : IsMoment other)
    (before : numbers moment < numbers other) : micros moment / 1000 < micros other / 1000 := by
  obtain ⟨date, hour, minute, second, microsecond⟩ := valid
  obtain ⟨date', hour', minute', second', microsecond'⟩ := valid'
  have day : moment.date.dayNumber < other.date.dayNumber ∨ moment.date = other.date ∧
      [moment.hour, moment.minute, moment.second, moment.microsecond / 1000] <
        [other.hour, other.minute, other.second, other.microsecond / 1000] := by
    simp only [numbers, List.cons_lt_cons_iff] at before ⊢
    rcases before with year | ⟨year, month | ⟨month, day | ⟨day, time⟩⟩⟩
    · exact Or.inl (dayNumber_lt date (Or.inl year))
    · exact Or.inl (dayNumber_lt date (Or.inr ⟨year, Or.inl month⟩))
    · exact Or.inl (dayNumber_lt date (Or.inr ⟨year, Or.inr ⟨month, day⟩⟩))
    · have same : moment.date = other.date := by
        calc moment.date = ⟨moment.date.year, moment.date.month, moment.date.day⟩ := rfl
          _ = other.date := by rw [year, month, day]
      exact Or.inr ⟨same, time⟩
  simp only [micros_eq, Moment.seconds]
  rcases day with day | ⟨same, time⟩
  · omega
  · simp only [List.cons_lt_cons_iff] at time
    rw [same]
    simp at time
    omega

/-- Reads a stamp of the form `YYYY-MM-DDTHH:MM:SS.mmmZ` as a point in universal time. -/
def readStamp? (text : String) : Option Moment :=
  match readFields? stampFields text.toList with
  | some [year, month, day, hour, minute, second, millisecond] =>
    some ⟨⟨year, month, day⟩, hour, minute, second, millisecond * 1000⟩
  | _ => none

/-- The stamp is that of the last whole millisecond of universal time by then. -/
def Denotes (text : String) (instant : Int) : Prop :=
  ∃ moment, readStamp? text = some moment ∧ IsMoment moment ∧ (micros moment : Int) = instant / 1000 * 1000

private theorem denotes_isoText (valid : IsMoment moment) (least : 1000 ≤ moment.date.year)
    (most : moment.date.year ≤ 9999) : Denotes moment.isoText (micros moment) := by
  refine ⟨{ moment with microsecond := moment.microsecond / 1000 * 1000 }, ?_, ?_, ?_⟩
  · rw [readStamp?, isoText_eq valid least most, readFields_writeFields (fits_numbers valid most)]
    rfl
  · have whole := Nat.div_mul_le_self moment.microsecond 1000
    exact ⟨valid.date, valid.hour, valid.minute, valid.second, Nat.lt_of_le_of_lt whole valid.microsecond⟩
  · simp only [micros]
    omega

/-- A date and a time in a zone that is so many seconds ahead of universal time. -/
structure Zoned where
  moment : Moment
  offset : Int

namespace Zoned

def fields (point : Zoned) : Fields where
  year := point.moment.date.year
  month := point.moment.date.month
  day := point.moment.date.day
  hour := point.moment.hour
  minute := point.moment.minute
  second := point.moment.second
  microsecond := point.moment.microsecond

def instant (point : Zoned) : Int :=
  micros point.moment - point.offset * 1000000

/-- A date and a time of the years 1 to 9999 in a zone less than a day ahead or behind, which falls into the
years 1000 to 9999 of universal time. -/
structure InRange (point : Zoned) : Prop where
  moment : IsMoment point.moment
  year : point.moment.date.year ≤ 9999
  zone : point.offset.natAbs < 86400
  least : micros (newYear 1000) ≤ point.instant
  most : point.instant < micros (newYear 10000)

end Zoned

theorem isWithin_eq {least greatest value : Int} (above : least ≤ value) (below : value ≤ greatest) :
    isWithin least greatest value = true := by
  rw [isWithin, decide_eq_true above, decide_eq_true below]
  rfl

private theorem isSigned_eq {bits : Nat} {value : Int} (wide : 32 ≤ bits) (above : -2147483648 ≤ value)
    (below : value ≤ 2147483647) : isSigned bits value = true := by
  have bound : Nat.pow 2 31 ≤ Nat.pow 2 (bits - 1) := Nat.pow_le_pow_right (by decide) (by omega)
  have least : Nat.pow 2 31 = 2147483648 := rfl
  exact isWithin_eq (by omega) (by omega)

private theorem checkOffset_ok {offset : Int} (near : offset.natAbs < 86400) : checkOffset offset = .ok () := by
  have signed : isSigned 32 (offset / 86400) = true := isSigned_eq (by decide) (by omega) (by omega)
  have days : ¬ 999999999 < (offset / 86400).natAbs := by omega
  simp only [checkOffset, signed, Bool.not_true, Bool.false_eq_true, if_false, if_neg days,
    if_neg (Nat.not_le.mpr near)]

private theorem checkField_ok {value : Int} (small : 0 ≤ value ∧ value ≤ 2147483647) :
    checkField value = .ok () := by
  have signed (bits : Nat) (wide : 32 ≤ bits) : isSigned bits value = true :=
    isSigned_eq wide (by omega) small.2
  rw [checkField, signed 64 (by decide), signed 32 (by decide)]
  rfl

private theorem forM_checkField {values : List Int} (small : ∀ value ∈ values, 0 ≤ value ∧ value ≤ 2147483647) :
    values.forM checkField = .ok () := by
  induction values with
  | nil => rfl
  | cons value values ih =>
    obtain ⟨first, others⟩ := List.forall_mem_cons.mp small
    change (checkField value >>= fun _ => values.forM checkField) = .ok ()
    rw [checkField_ok first]
    exact ih others

variable {point : Zoned}

private theorem fields_moment (valid : IsMoment point.moment) (year : point.moment.date.year ≤ 9999) :
    point.fields.moment = .ok point.moment := by
  obtain ⟨⟨year_pos, month_pos, month_le, day_pos, day_le⟩, hour, minute, second, microsecond⟩ := valid
  have years : isWithin 1 9999 point.moment.date.year = true := isWithin_eq (by omega) (by omega)
  have months : isWithin 1 12 point.moment.date.month = true := isWithin_eq (by omega) (by omega)
  have days : isWithin 1 (daysInMonth point.moment.date.year point.moment.date.month)
      point.moment.date.day = true := isWithin_eq (by omega) (by omega)
  have hours : isWithin 0 23 point.moment.hour = true := isWithin_eq (by omega) (by omega)
  have minutes : isWithin 0 59 point.moment.minute = true := isWithin_eq (by omega) (by omega)
  have seconds : isWithin 0 59 point.moment.second = true := isWithin_eq (by omega) (by omega)
  have microseconds : isWithin 0 999999 point.moment.microsecond = true := isWithin_eq (by omega) (by omega)
  simp only [Fields.moment, Zoned.fields, Int.toNat_natCast, years, months, days, hours, minutes, seconds,
    microseconds, Bool.not_true, Bool.false_eq_true, if_false]

theorem Zoned.instant_eq (point : Zoned) : point.instant =
    (point.moment.seconds - point.offset) * 1000000 + point.moment.microsecond := by
  rw [instant, micros_eq]
  omega

/-- A year begins with a whole second, so the microseconds do not decide whether it has begun. -/
theorem newYear_le_instant_iff (valid : IsMoment point.moment) (year : Nat) :
    micros (newYear year) ≤ point.instant ↔
      (daysBeforeYear year * 86400 : Int) ≤ point.moment.seconds - point.offset := by
  have small := valid.microsecond
  rw [micros_newYear, Zoned.instant_eq]
  omega

private theorem toUniversal_ok (valid : IsMoment point.moment) (least : micros (newYear 1000) ≤ point.instant)
    (most : point.instant < micros (newYear 10000)) : ∃ universal,
      point.moment.toUniversal point.offset = .ok universal ∧ IsMoment universal ∧
        (micros universal : Int) = point.instant := by
  have begun := (newYear_le_instant_iff valid 1000).mp least
  have ended := (newYear_le_instant_iff valid 10000).not.mp (not_le.mpr most)
  have within : isWithin 0 (lastDay * 86400 - 1) (point.moment.seconds - point.offset) = true := by
    rw [lastDay]
    exact isWithin_eq (by omega) (by omega)
  obtain ⟨valid', same⟩ := ofSeconds_moment (point.moment.seconds - point.offset).toNat valid.microsecond
  refine ⟨_, ?_, valid', ?_⟩
  · simp only [Moment.toUniversal, within, Bool.not_true, Bool.false_eq_true, if_false]
  · rw [same, Zoned.instant_eq]
    omega

/-- A point in range has a stamp. -/
theorem stamp_ok (range : point.InRange) : ∃ universal,
    stamp point.fields point.offset = .ok universal.isoText ∧ IsMoment universal ∧
      (micros universal : Int) = point.instant ∧ 1000 ≤ universal.date.year ∧ universal.date.year ≤ 9999 := by
  obtain ⟨valid, year, zone, least, most⟩ := range
  have small : ∀ value ∈ point.fields.values, 0 ≤ value ∧ value ≤ 2147483647 := by
    obtain ⟨date, hour, minute, second, microsecond⟩ := valid
    have month := date.month_le
    have day := Nat.le_trans date.day_le (daysInMonth_le _ _)
    simp only [Fields.values, Zoned.fields, List.forall_mem_cons, List.not_mem_nil, false_imp_iff, implies_true,
      and_true]
    omega
  obtain ⟨universal, found, valid', same⟩ := toUniversal_ok valid least most
  refine ⟨universal, ?_, valid', same, ?_, ?_⟩
  · rw [stamp, checkOffset_ok zone, forM_checkField small, fields_moment valid year]
    change (point.moment.toUniversal point.offset >>= fun universal => pure universal.isoText) = _
    rw [found]
    rfl
  -- The range is one of points in time, and years begin and end at points in time.
  · exact (micros_newYear_le_iff valid' 1000).mp (by omega)
  · by_contra late
    have begun := (micros_newYear_le_iff valid' 10000).mpr (by omega)
    omega

/-- In universal time, texts are in the order of the points. -/
theorem isoText_le {first second : Moment} (valid : IsMoment first) (valid' : IsMoment second)
    (range : 1000 ≤ first.date.year ∧ first.date.year ≤ 9999)
    (range' : 1000 ≤ second.date.year ∧ second.date.year ≤ 9999) (before : micros first ≤ micros second) :
    first.isoText ≤ second.isoText := by
  rw [String.le_iff_toList_le, isoText_eq valid range.1 range.2, isoText_eq valid' range'.1 range'.2]
  refine not_lt.mp fun later => ?_
  have numbers_lt := (writeFields_lt_iff (fits_numbers valid' range'.2) (fits_numbers valid range.2)).mp later
  have earlier := micros_lt_of_numbers valid' valid numbers_lt
  omega

/-- The stamp of a point in range is the date and the time in universal time, as the calendar counts, down to
the last whole millisecond. Points that are the same in time have the same stamp, and a point that is no
later has no later stamp in the order of texts. -/
theorem stamp_denotes {one two : Zoned} (range : one.InRange) (range' : two.InRange) :
    ∃ text other, stamp one.fields one.offset = .ok text ∧ stamp two.fields two.offset = .ok other ∧
      Denotes text one.instant ∧ Denotes other two.instant ∧
      (one.instant = two.instant → text = other) ∧ (one.instant ≤ two.instant → text ≤ other) := by
  obtain ⟨first, stamped, valid, same, least, most⟩ := stamp_ok range
  obtain ⟨second, stamped', valid', same', least', most'⟩ := stamp_ok range'
  have denotes := denotes_isoText valid least most
  have denotes' := denotes_isoText valid' least' most'
  rw [same] at denotes
  rw [same'] at denotes'
  refine ⟨_, _, stamped, stamped', denotes, denotes', fun equal => ?_, fun before => ?_⟩
  · apply le_antisymm
    · exact isoText_le valid valid' ⟨least, most⟩ ⟨least', most'⟩ (by omega)
    · exact isoText_le valid' valid ⟨least', most'⟩ ⟨least, most⟩ (by omega)
  · exact isoText_le valid valid' ⟨least, most⟩ ⟨least', most'⟩ (by omega)

/-- The last evening of a year, five hours behind universal time. -/
def eveningWest : Zoned := ⟨⟨⟨2023, 12, 31⟩, 23, 30, 0, 999999⟩, -18000⟩

/-- The same point on the first morning of the next year, five and a half hours ahead. -/
def morningEast : Zoned := ⟨⟨⟨2024, 1, 1⟩, 10, 0, 0, 999999⟩, 19800⟩

private theorem eveningWest_inRange : eveningWest.InRange where
  moment := by decide
  year := by decide
  zone := by decide
  least := (newYear_le_instant_iff (by decide) 1000).mpr (by decide)
  most := not_le.mp ((newYear_le_instant_iff (by decide) 10000).not.mpr (by decide))

private theorem morningEast_inRange : morningEast.InRange where
  moment := by decide
  year := by decide
  zone := by decide
  least := (newYear_le_instant_iff (by decide) 1000).mpr (by decide)
  most := not_le.mp ((newYear_le_instant_iff (by decide) 10000).not.mpr (by decide))

theorem stamp_denotes_newYear : eveningWest.InRange ∧ morningEast.InRange ∧
    eveningWest.instant = morningEast.instant ∧
    ∃ text, stamp eveningWest.fields eveningWest.offset = .ok text ∧
      stamp morningEast.fields morningEast.offset = .ok text ∧ Denotes text eveningWest.instant ∧
      text = "2024-01-01T04:30:00.999Z" := by
  have same : eveningWest.instant = morningEast.instant := by
    rw [Zoned.instant_eq, Zoned.instant_eq]
    decide
  obtain ⟨text, other, stamped, stamped', denotes, -, equal, -⟩ :=
    stamp_denotes eveningWest_inRange morningEast_inRange
  obtain rfl := equal same
  refine ⟨eveningWest_inRange, morningEast_inRange, same, text, stamped, stamped', denotes, ?_⟩
  have spelled : stamp eveningWest.fields eveningWest.offset = .ok "2024-01-01T04:30:00.999Z" := by decide
  rw [stamped] at spelled
  exact Except.ok.inj spelled

end DesignTokens.Proofs.StampedInstants
