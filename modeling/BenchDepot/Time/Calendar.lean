import BenchDepot.Time.Instant

/-!
# The Gregorian calendar and HTTP dates

The calendar date of an instant, in UTC, and the form in which HTTP writes it:
`Wed, 03 Feb 2021 04:05:06 GMT`.  A day is counted from 1970-01-01, which was a Thursday; the
calendar is the Gregorian one at all times, and the second is the one the instant lies in, also
before 1970.

* `Date.toDay` and `Date.ofDay` — a date's day, and the date of a day;
* `httpDate` — the header text of an instant.
-/

namespace BenchDepot

/-- A date of the Gregorian calendar; months and days count from one. -/
structure Date where
  year : Int
  month : Nat
  day : Nat
deriving DecidableEq

/-- A time of day, to the second. -/
structure Clock where
  hour : Nat
  minute : Nat
  second : Nat
deriving DecidableEq

namespace Date

/-- The days of the calendar before the first of March of a year, from that of the year 0. -/
def daysBeforeMarch (year : Int) : Int :=
  365 * year + Int.fdiv year 4 - Int.fdiv year 100 + Int.fdiv year 400

/-- The days of a year that starts in March before a month of it, by the month's place. -/
def daysBeforeMonth (place : Nat) : Nat :=
  (153 * place + 2) / 5

/-- The day of 1970-01-01, counted from the first of March of the year 0. -/
def epoch : Int := 719468

/-- The place of a month in a year that starts in March. -/
def monthPlace (month : Nat) : Nat :=
  if month ≤ 2 then month + 9 else month - 3

/-- The day of a date, counted from 1970-01-01. -/
def toDay (date : Date) : Int :=
  let year := if date.month ≤ 2 then date.year - 1 else date.year
  daysBeforeMarch year + daysBeforeMonth (monthPlace date.month) + (date.day - 1) - epoch

/-- The days of the calendar's cycle of 400 years. -/
def cycleDays : Nat := 146097

/-- The year, within a cycle that starts in March, of a day of the cycle. -/
def yearOfCycle (day : Nat) : Nat :=
  (day - day / 1460 + day / 36524 - day / 146096) / 365

/-- The date of a day, counted from 1970-01-01. -/
def ofDay (day : Int) : Date :=
  let fromMarch := day + epoch
  let cycle := Int.fdiv fromMarch cycleDays
  let dayOfCycle := (Int.fmod fromMarch cycleDays).toNat
  let year := yearOfCycle dayOfCycle
  let dayOfYear := dayOfCycle - (365 * year + year / 4 - year / 100)
  let place := (5 * dayOfYear + 2) / 153
  let month := if place < 10 then place + 3 else place - 9
  { year := cycle * 400 + year + (if month ≤ 2 then 1 else 0)
    month := month
    day := dayOfYear - daysBeforeMonth place + 1 }

end Date

namespace Instant

/-- The day of an instant, counted from 1970-01-01 in UTC. -/
def day (t : Instant) : Int :=
  Int.fdiv t.seconds.toInt 86400

/-- The time of day of an instant, in UTC. -/
def clock (t : Instant) : Clock :=
  let second := (Int.fmod t.seconds.toInt 86400).toNat
  ⟨second / 3600, second / 60 % 60, second % 60⟩

end Instant

/-- The days of the week, from the one of 1970-01-01 on. -/
def weekdayNames : List String :=
  ["Thu", "Fri", "Sat", "Sun", "Mon", "Tue", "Wed"]

/-- The name of the weekday of a day, counted from 1970-01-01. -/
def weekdayName (day : Int) : String :=
  weekdayNames.getD (Int.fmod day 7).toNat ""

/-- The names of the months. -/
def monthNames : List String :=
  ["Jan", "Feb", "Mar", "Apr", "May", "Jun", "Jul", "Aug", "Sep", "Oct", "Nov", "Dec"]

/-- The name of a month. -/
def monthName (month : Nat) : String :=
  monthNames.getD (month - 1) ""

/-- A number with at least some digits. -/
def padded (width n : Nat) : String :=
  let digits := Nat.toDigits 10 n
  String.ofList (List.replicate (width - digits.length) '0' ++ digits)

/-- A year with four digits, behind a minus sign before the year 0. -/
def yearText (year : Int) : String :=
  if year < 0 then "-" ++ padded 4 year.natAbs else padded 4 year.natAbs

/-- The date of an instant as HTTP writes it, always in UTC. -/
def httpDate (t : Instant) : String :=
  let date := Date.ofDay t.day
  let clock := t.clock
  weekdayName t.day ++ ", " ++ padded 2 date.day ++ " " ++ monthName date.month ++ " "
    ++ yearText date.year ++ " " ++ padded 2 clock.hour ++ ":" ++ padded 2 clock.minute ++ ":"
    ++ padded 2 clock.second ++ " GMT"

end BenchDepot
