import DesignTokens.Text.Digits

/-! Dates of the Gregorian calendar, extended back to the year 1, and points in time as texts. -/

namespace DesignTokens.Calendar

structure Date where
  year : Nat
  month : Nat
  day : Nat
  deriving DecidableEq, Repr

/-- A date and a time of day to the microsecond. -/
structure Moment where
  date : Date
  hour : Nat
  minute : Nat
  second : Nat
  microsecond : Nat
  deriving DecidableEq, Repr

def isLeap (year : Nat) : Bool :=
  year % 4 == 0 && (year % 100 != 0 || year % 400 == 0)

def monthLengths (year : Nat) : List Nat :=
  [31, if isLeap year then 29 else 28, 31, 30, 31, 30, 31, 31, 30, 31, 30, 31]

def daysInMonth (year month : Nat) : Nat :=
  ((monthLengths year)[month - 1]?).getD 0

/-- The days of all years before one. -/
def daysBeforeYear (year : Nat) : Nat :=
  let past := year - 1
  past * 365 + past / 4 - past / 100 + past / 400

def daysBeforeMonth (year month : Nat) : Nat :=
  ((monthLengths year).take (month - 1)).foldl (· + ·) 0

/-- The number of days from the first day of the year 1, which is day 0. -/
def Date.dayNumber (date : Date) : Nat :=
  daysBeforeYear date.year + daysBeforeMonth date.year date.month + (date.day - 1)

/-- The month and the day of the month that a day of the year falls on. -/
def monthOf (month day : Nat) : List Nat → Nat × Nat
  | [] => (month, day + 1)
  | length :: rest => if day < length then (month, day + 1) else monthOf (month + 1) (day - length) rest

/-- Years repeat after 400, and within that after 100 and after 4, but for the day that the last
hundred and the last year have more. -/
def Date.ofDayNumber (number : Nat) : Date :=
  let inEra := number % 146097
  let century := min (inEra / 36524) 3
  let inCentury := inEra - century * 36524
  let cycle := inCentury / 1461
  let inCycle := inCentury % 1461
  let yearInCycle := min (inCycle / 365) 3
  let dayOfYear := inCycle - yearInCycle * 365
  let year := number / 146097 * 400 + century * 100 + cycle * 4 + yearInCycle + 1
  let (month, day) := monthOf 1 dayOfYear (monthLengths year)
  ⟨year, month, day⟩

inductive Fault where
  /-- The days of an offset take more than 32 bits. -/
  | hugeOffset
  /-- A span has fewer than a milliard days. -/
  | span (days : Int)
  /-- A zone is less than a day away from universal time. -/
  | zone (offset : Int)
  /-- A field takes more than 64 bits. -/
  | hugeField
  /-- A field is above the numbers of 32 bits. -/
  | highField
  /-- A field is below the numbers of 32 bits. -/
  | lowField
  | year (value : Int)
  | month
  | day
  | hour
  | minute
  | second
  | microsecond
  /-- In universal time, the point lies outside the years 1 to 9999. -/
  | beyond
  deriving DecidableEq, Repr

/-- A span of seconds as days and the seconds left over. -/
def spanText (seconds : Int) : String :=
  let rest := seconds % 86400
  s!"days={seconds / 86400}" ++ if rest == 0 then "" else s!", seconds={rest}"

def Fault.message : Fault → String
  | .hugeOffset => "Python int too large to convert to C int"
  | .span days => s!"days={days}; must have magnitude <= 999999999"
  | .zone offset =>
    "offset must be a timedelta strictly between -timedelta(hours=24) and timedelta(hours=24), " ++
      "not datetime.timedelta(" ++ spanText offset ++ ")."
  | .hugeField => "Python int too large to convert to C long"
  | .highField => "signed integer is greater than maximum"
  | .lowField => "signed integer is less than minimum"
  | .year value => s!"year {value} is out of range"
  | .month => "month must be in 1..12"
  | .day => "day is out of range for month"
  | .hour => "hour must be in 0..23"
  | .minute => "minute must be in 0..59"
  | .second => "second must be in 0..59"
  | .microsecond => "microsecond must be in 0..999999"
  | .beyond => "date value out of range"

/-- The numbers of a date and a time, which need not make sense. -/
structure Fields where
  year : Int
  month : Int
  day : Int
  hour : Int := 0
  minute : Int := 0
  second : Int := 0
  microsecond : Int := 0

def Fields.values (fields : Fields) : List Int :=
  [fields.year, fields.month, fields.day, fields.hour, fields.minute, fields.second,
    fields.microsecond]

def isWithin (least greatest value : Int) : Bool :=
  least ≤ value && value ≤ greatest

/-- Whether a number with its sign takes no more than so many bits. -/
def isSigned (bits : Nat) (value : Int) : Bool :=
  let bound : Int := Nat.pow 2 (bits - 1)
  isWithin (-bound) (bound - 1) value

def checkOffset (offset : Int) : Except Fault Unit :=
  let days := offset / 86400
  if !isSigned 32 days then .error .hugeOffset
  else if 999999999 < days.natAbs then .error (.span days)
  else if 86400 ≤ offset.natAbs then .error (.zone offset)
  else .ok ()

def checkField (value : Int) : Except Fault Unit :=
  if !isSigned 64 value then .error .hugeField
  else if isSigned 32 value then .ok ()
  else if 0 < value then .error .highField
  else .error .lowField

/-- The first field out of its range decides the fault. -/
def Fields.moment (fields : Fields) : Except Fault Moment :=
  if !isWithin 1 9999 fields.year then .error (.year fields.year)
  else if !isWithin 1 12 fields.month then .error .month
  else if !isWithin 1 (daysInMonth fields.year.toNat fields.month.toNat) fields.day then .error .day
  else if !isWithin 0 23 fields.hour then .error .hour
  else if !isWithin 0 59 fields.minute then .error .minute
  else if !isWithin 0 59 fields.second then .error .second
  else if !isWithin 0 999999 fields.microsecond then .error .microsecond
  else .ok {
    date := ⟨fields.year.toNat, fields.month.toNat, fields.day.toNat⟩
    hour := fields.hour.toNat
    minute := fields.minute.toNat
    second := fields.second.toNat
    microsecond := fields.microsecond.toNat }

/-- The seconds from the start of the year 1. -/
def Moment.seconds (moment : Moment) : Nat :=
  ((moment.date.dayNumber * 24 + moment.hour) * 60 + moment.minute) * 60 + moment.second

def Moment.ofSeconds (seconds microsecond : Nat) : Moment where
  date := Date.ofDayNumber (seconds / 86400)
  hour := seconds / 3600 % 24
  minute := seconds / 60 % 60
  second := seconds % 60
  microsecond := microsecond

/-- The number of days in the years 1 to 9999. -/
def lastDay : Nat := daysBeforeYear 10000

/-- A point in local time as one in universal time; the offset is in seconds, east is positive. -/
def Moment.toUniversal (moment : Moment) (offset : Int) : Except Fault Moment :=
  let seconds : Int := moment.seconds - offset
  if !isWithin 0 (lastDay * 86400 - 1) seconds then .error .beyond
  else .ok (.ofSeconds seconds.toNat moment.microsecond)

/-- Date, time and milliseconds of a point in universal time. -/
def Moment.isoText (moment : Moment) : String :=
  let date := moment.date
  toString date.year ++ String.ofList (
    '-' :: Text.padded 2 date.month ++ '-' :: Text.padded 2 date.day ++
    'T' :: Text.padded 2 moment.hour ++ ':' :: Text.padded 2 moment.minute ++
    ':' :: Text.padded 2 moment.second ++ '.' :: Text.padded 3 (moment.microsecond / 1000) ++ ['Z'])

/-- The stamp of a point in the local time of a zone. A field that is too large for any calendar is a
fault before one that is out of its own range. -/
def stamp (fields : Fields) (offset : Int) : Except Fault String := do
  checkOffset offset
  fields.values.forM checkField
  let moment ← fields.moment
  let universal ← moment.toUniversal offset
  return universal.isoText

end DesignTokens.Calendar
