/-!
# Dates and times of day

Dates of the Gregorian calendar, years 1 to 9999, and moments: a date with a time of day down to
microseconds and possibly a distance from universal time.
-/

namespace FieldPattern

/-- A calendar date. -/
structure Date where
  year : Nat
  month : Nat
  day : Nat
  deriving Repr, DecidableEq, Inhabited

/-- A date and a time of day; `offset` is the distance from universal time in seconds. -/
structure Moment where
  date : Date
  hour : Nat
  minute : Nat
  second : Nat
  micro : Nat
  offset : Option Int
  deriving Repr, DecidableEq, Inhabited

/-- Why numbers name no date or moment. -/
inductive CalendarError where
  | year (given : Nat)
  | month
  | day
  | hour
  | minute
  | second
  /-- The distance from universal time reaches a whole day. -/
  | offset (given : Int)
  deriving Repr, DecidableEq

namespace Date

/-- Every fourth year has a leap day, but of the full centuries only every fourth. -/
def isLeapYear (year : Nat) : Bool :=
  year % 4 == 0 && (year % 100 != 0 || year % 400 == 0)

/-- The number of days of a month. -/
def daysIn (year month : Nat) : Nat :=
  if month == 2 then (if isLeapYear year then 29 else 28)
  else if month == 4 || month == 6 || month == 9 || month == 11 then 30
  else 31

/-- The date with these numbers. -/
def of (year month day : Nat) : Except CalendarError Date :=
  if year < 1 || 9999 < year then .error (.year year)
  else if month < 1 || 12 < month then .error .month
  else if day < 1 || daysIn year month < day then .error .day
  else .ok ⟨year, month, day⟩

/-- The number of days before the first of January of a year. -/
def daysBeforeYear (year : Nat) : Nat :=
  let y := year - 1
  y * 365 + y / 4 - y / 100 + y / 400

/-- The number of days of a year before the first of a month. -/
def daysBeforeMonth (year : Nat) : (month : Nat) → Nat
  | 0 | 1 => 0
  | month + 2 => daysBeforeMonth year (month + 1) + daysIn year (month + 1)

/-- The position of the date in the calendar, the first of January of year 1 being day 1. -/
def ordinal (d : Date) : Nat :=
  daysBeforeYear d.year + daysBeforeMonth d.year d.month + d.day

end Date

namespace Moment

/-- The moment with these numbers. The date is checked first, then the time from the left. -/
def of (year month day hour minute second micro : Nat) (offset : Option Int) :
    Except CalendarError Moment := do
  match offset with
  | some o => if 86400 ≤ o.natAbs then throw (.offset o)
  | none => pure ()
  let date ← Date.of year month day
  if 23 < hour then throw .hour
  if 59 < minute then throw .minute
  if 59 < second then throw .second
  return ⟨date, hour, minute, second, micro, offset⟩

/-- Microseconds of universal time since the start of the calendar; local time where no distance
from universal time is known. -/
def instant (m : Moment) : Int :=
  let seconds : Int := m.date.ordinal * 86400 + m.hour * 3600 + m.minute * 60 + m.second
  (seconds - m.offset.getD 0) * 1000000 + m.micro

/-- Two moments are the same when both know their distance from universal time and are the same
instant, or neither knows it and their numbers agree. -/
def same (a b : Moment) : Bool :=
  a.offset.isSome == b.offset.isSome && a.instant == b.instant

end Moment

/-! ## Texts -/

/-- A number of at least `width` digits, padded with zeros. -/
def padded (width n : Nat) : String :=
  let ds := Nat.toDigits 10 n
  String.ofList (List.replicate (width - ds.length) '0' ++ ds)

namespace Date

/-- Year, month and day joined by hyphens. -/
def text (d : Date) : String :=
  padded 4 d.year ++ "-" ++ padded 2 d.month ++ "-" ++ padded 2 d.day

end Date

namespace Moment

/-- A distance from universal time: sign, hours and minutes. -/
def offsetText (o : Int) : String :=
  let minutes := o.natAbs / 60
  (if o < 0 then "-" else "+") ++ padded 2 (minutes / 60) ++ ":" ++ padded 2 (minutes % 60)

/-- Date and time with a space between; microseconds only if there are any. -/
def text (m : Moment) : String :=
  m.date.text ++ " " ++ padded 2 m.hour ++ ":" ++ padded 2 m.minute ++ ":" ++ padded 2 m.second ++
    (if m.micro == 0 then "" else "." ++ padded 6 m.micro) ++
    (match m.offset with | some o => offsetText o | none => "")

end Moment

namespace CalendarError

/-- The span of a whole number of seconds in days and remaining seconds. -/
def spanText (o : Int) : String :=
  let days := o.fdiv 86400
  let seconds := o.fmod 86400
  let parts := (if days == 0 then [] else ["days=" ++ toString days]) ++
    (if seconds == 0 then [] else ["seconds=" ++ toString seconds])
  "datetime.timedelta(" ++ (if parts.isEmpty then "0" else ", ".intercalate parts) ++ ")"

/-- The message of the error. -/
def message : CalendarError → String
  | year given => "year " ++ toString given ++ " is out of range"
  | month => "month must be in 1..12"
  | day => "day is out of range for month"
  | hour => "hour must be in 0..23"
  | minute => "minute must be in 0..59"
  | second => "second must be in 0..59"
  | offset given =>
    "offset must be a timedelta strictly between -timedelta(hours=24) and timedelta(hours=24)" ++
      ", not " ++ spanText given ++ "."

end CalendarError

end FieldPattern
