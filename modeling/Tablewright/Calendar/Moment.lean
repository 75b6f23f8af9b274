/-
Moments: whole seconds from the beginning of the year 2024, and the date and time they fall on.

The date is found in the years that begin in March, so that a leap day is the last of its year:
400 such years have 146097 days, and within a year the months fall at `(153 m + 2) / 5`.
-/
import Tablewright.Text.Numeral

set_option autoImplicit false

namespace Tablewright

/-- A date of the calendar. -/
structure Date where
  /-- The year. -/
  year : Int
  /-- The month, from 1. -/
  month : Nat
  /-- The day of the month, from 1. -/
  day : Nat
deriving DecidableEq

namespace Date

/-- The days from the first of March of the year 0 to the beginning of the year 2024. -/
def daysBefore2024 : Int := 739191

/-- The days of 400 years. -/
def daysPerCycle : Nat := 146097

/-- The year within 400 years that begin in March, by the number of a day in them. -/
def yearOfCycle (day : Nat) : Nat := (day - day / 1460 + day / 36524 - day / 146096) / 365

/-- The date of a day given by its number from the beginning of the year 2024. -/
def ofDay (n : Int) : Date :=
  let days := n + daysBefore2024
  let cycle := Int.fdiv days daysPerCycle
  let day := (Int.fmod days daysPerCycle).toNat
  let year := yearOfCycle day
  let dayOfYear := day - (365 * year + year / 4 - year / 100)
  let march := (5 * dayOfYear + 2) / 153
  let month := if march < 10 then march + 3 else march - 9
  { year := cycle * 400 + year + (if month ≤ 2 then 1 else 0)
    month
    day := dayOfYear - (153 * march + 2) / 5 + 1 }

/-- A date as `YYYY-MM-DD`. -/
def text (d : Date) : Text :=
  Text.zeroPad 4 (Text.ofInt d.year) ++ "-" ++ Text.zeroPad 2 (Text.ofNat d.month) ++ "-"
    ++ Text.zeroPad 2 (Text.ofNat d.day)

end Date

namespace Moment

/-- The seconds of a day. -/
def secondsPerDay : Nat := 86400

/-- The date a moment falls on. -/
def date (seconds : Int) : Date := Date.ofDay (Int.fdiv seconds secondsPerDay)

/-- The second of the day a moment falls on. -/
def secondOfDay (seconds : Int) : Nat := (Int.fmod seconds secondsPerDay).toNat

/-- Hour and minute of a moment as `HH:MM`. -/
def clockText (seconds : Int) : Text :=
  Text.zeroPad 2 (Text.ofNat (secondOfDay seconds / 3600)) ++ ":"
    ++ Text.zeroPad 2 (Text.ofNat (secondOfDay seconds / 60 % 60))

/-- A moment to the minute. -/
def minuteText (seconds : Int) : Text := (date seconds).text ++ " " ++ clockText seconds

/-- A moment to the second. -/
def secondText (seconds : Int) : Text :=
  minuteText seconds ++ ":" ++ Text.zeroPad 2 (Text.ofNat (secondOfDay seconds % 60))

end Moment

end Tablewright
