import CompilationDatabase.Text.Basic

/-!
# Time stamps

A time of a file is a count of seconds since the start of 1970, in universal time. It is written as
date and time of day to the microsecond: the fraction of the second is rounded to the nearest
microsecond, a half to the even one. A time whose year has no four-digit number cannot be written.

Days are counted from the first of January 1970, seconds from its midnight. `Date.ofDay` finds the
date of a day in the Gregorian calendar, taken to hold at all times: an era is 400 years, and years
are counted from March so that the leap day comes last.
-/

namespace CompilationDatabase

/-! ## Days -/

/-- A day of the Gregorian calendar. -/
structure Date where
  year : Int
  month : Nat
  day : Nat
deriving DecidableEq, Repr

/-- The date of the day that is so many days after the first of January 1970. -/
def Date.ofDay (days : Int) : Date :=
  let shifted := days + 719468
  let era := shifted.fdiv 146097
  let dayOfEra := (shifted.fmod 146097).toNat
  let yearOfEra := (dayOfEra - dayOfEra / 1460 + dayOfEra / 36524 - dayOfEra / 146096) / 365
  let dayOfYear := dayOfEra - (365 * yearOfEra + yearOfEra / 4 - yearOfEra / 100)
  let monthFromMarch := (5 * dayOfYear + 2) / 153
  let day := dayOfYear - (153 * monthFromMarch + 2) / 5 + 1
  let month := if monthFromMarch < 10 then monthFromMarch + 3 else monthFromMarch - 9
  let year := (yearOfEra : Int) + era * 400
  ⟨if month ≤ 2 then year + 1 else year, month, day⟩

example : Date.ofDay 0 = ⟨1970, 1, 1⟩ := by decide
example : Date.ofDay 11016 = ⟨2000, 2, 29⟩ := by decide
example : Date.ofDay (-719162) = ⟨1, 1, 1⟩ := by decide

/-! ## Points in time -/

/-- Why a time cannot be written. -/
inductive TimeError
  /-- The seconds do not fit the clock's count. -/
  | beyondClock
  /-- The year is too far away to be counted. -/
  | beyondYears
  /-- The calendar ends before this year. -/
  | calendar (year : Int)
deriving DecidableEq, Repr

/-- The failure in words. -/
def TimeError.message : TimeError → Text
  | .beyondClock => "timestamp out of range for platform time_t".toList
  | .beyondYears => "[Errno 75] Value too large for defined data type".toList
  | .calendar year => "year ".toList ++ Text.ofInt year ++ " is out of range".toList

/-- A point in time: whole seconds since the start of 1970, and microseconds after them. -/
structure Stamp where
  seconds : Int
  micros : Nat
deriving DecidableEq, Repr

namespace Stamp

/-- The nearest whole number, the even one of two. -/
def roundHalfEven (x : Float) : Float :=
  let nearest := x.round
  if (x - nearest).abs == 0.5 then 2.0 * (x / 2.0).round else nearest

/-- A number that is whole and fits a signed count of 64 bits, as an integer. -/
def ofWhole (x : Float) : Int :=
  if x < 0.0 then -((-x).toUInt64.toNat : Int) else x.toUInt64.toNat

/-- The point in time of a count of seconds. -/
def ofSeconds (seconds : Float) : Except TimeError Stamp :=
  let whole := if seconds < 0.0 then seconds.ceil else seconds.floor
  let micros := roundHalfEven ((seconds - whole) * 1000000.0)
  let (whole, micros) :=
    if 1000000.0 ≤ micros then (whole + 1.0, micros - 1000000.0)
    else if micros < 0.0 then (whole - 1.0, micros + 1000000.0)
    else (whole, micros)
  if whole < -9223372036854775808.0 || 9223372036854775808.0 ≤ whole then .error .beyondClock
  else .ok ⟨ofWhole whole, micros.toUInt64.toNat⟩

/-- The seconds of a day. -/
def secondsOfDay : Int := 86400

/-- The date of a second, if the calendar has it. -/
def dateOf (seconds : Int) : Except TimeError Date :=
  let date := Date.ofDay (seconds.fdiv secondsOfDay)
  if date.year - 1900 < -2147483648 || 2147483647 < date.year - 1900 then .error .beyondYears
  else if date.year < 1 || 9999 < date.year then .error (.calendar date.year)
  else .ok date

/-- The point in time in words. The day before must lie in the calendar too. -/
def message (s : Stamp) : Except TimeError Text := do
  let date ← dateOf s.seconds
  let _ ← dateOf (s.seconds - secondsOfDay)
  let time := (s.seconds.fmod secondsOfDay).toNat
  let two := Text.padded 10 2
  return Text.ofInt date.year ++ '-' :: two date.month ++ '-' :: two date.day
    ++ ' ' :: two (time / 3600) ++ ':' :: two (time / 60 % 60) ++ ':' :: two (time % 60)
    ++ '.' :: Text.padded 10 6 s.micros

/-- A count of seconds in words. -/
def messageOfSeconds (seconds : Float) : Except TimeError Text := ofSeconds seconds >>= message

/-- The seconds of a count of nanoseconds, as a file system tells them: the fraction is added to
    the whole seconds. -/
def secondsOfNanos (nanos : Int) : Float :=
  Float.ofInt (nanos.fdiv 1000000000) + 0.000000001 * Float.ofInt (nanos.fmod 1000000000)

end Stamp

end CompilationDatabase
