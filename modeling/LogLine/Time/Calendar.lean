import LogLine.Text

/-
  Instants, and their dates and times of day in the Gregorian
  calendar at UTC.

  Key definitions include:
    * `LogLine.Instant`
    * `LogLine.Instant.nanosecondsSince`
    * `LogLine.Date`
    * `LogLine.Date.ofDays`
    * `LogLine.Date.toDays`
    * `LogLine.Date.isoWeek`
    * `LogLine.TimeOfDay`
-/

------------------------------------------------------------
-- Instants
------------------------------------------------------------

namespace LogLine

/-
  Seconds since the start of 1970 and nanoseconds.  A leap
  second is the second before it with 10^9 nanoseconds or
  more.
-/
structure Instant where
  seconds : Int
  nanoseconds : Nat
deriving DecidableEq, Repr, Inhabited

namespace Instant

def secondsPerDay : Int :=
  86400

/- The days from the start of 1970 to that of the instant's day. -/
def days
    (instant : Instant) :
    Int :=
  instant.seconds / secondsPerDay

/- The seconds since the start of the instant's day. -/
def secondOfDay
    (instant : Instant) :
    Nat :=
  (instant.seconds % secondsPerDay).toNat

/- The whole microseconds since the start of 1970. -/
def microseconds
    (instant : Instant) :
    Int :=
  instant.seconds * 1000000 + (instant.nanoseconds / 1000 : Nat)

/- The whole microseconds of the instant's second. -/
def subsecondMicros
    (instant : Instant) :
    Nat :=
  instant.nanoseconds / 1000

/- The whole milliseconds of the instant's second. -/
def subsecondMillis
    (instant : Instant) :
    Nat :=
  instant.nanoseconds / 1000000

/- Whether the instant is within a leap second. -/
def inLeapSecond
    (instant : Instant) :
    Bool :=
  1000000000 ≤ instant.nanoseconds

/-
  The nanoseconds from one instant to another.  A leap second
  lasts for one more second if the other instant is at a later
  time of day.
-/
def nanosecondsSince
    (instant start : Instant) :
    Int :=
  let leap : Int :=
    if start.secondOfDay < instant.secondOfDay then
      if start.inLeapSecond then 1 else 0
    else if instant.secondOfDay < start.secondOfDay then
      if instant.inLeapSecond then -1 else 0
    else
      0
  (instant.seconds - start.seconds + leap) * 1000000000 +
    (instant.nanoseconds - start.nanoseconds)

/- The whole microseconds of that, without the rest of either sign. -/
def microsecondsSince
    (instant start : Instant) :
    Int :=
  (instant.nanosecondsSince start).tdiv 1000

end Instant

end LogLine

------------------------------------------------------------
-- Dates
------------------------------------------------------------

namespace LogLine

/- A day by its year, its month and its day of the month. -/
structure Date where
  year : Int
  month : Nat
  day : Nat
deriving DecidableEq, Repr

namespace Date

/-
  The day `days` after the first of January 1970.  Days are
  counted in years that begin in March, so that the leap day
  is the last one, and in cycles of 400 years.
-/
def ofDays
    (days : Int) :
    Date :=
  let shifted := days + 719468
  let cycle := shifted / 146097
  let dayOfCycle := (shifted % 146097).toNat
  let yearOfCycle :=
    (dayOfCycle - dayOfCycle / 1460 + dayOfCycle / 36524 -
      dayOfCycle / 146096) / 365
  let dayOfYear :=
    dayOfCycle -
      (365 * yearOfCycle + yearOfCycle / 4 - yearOfCycle / 100)
  let shiftedMonth := (5 * dayOfYear + 2) / 153
  let day := dayOfYear - (153 * shiftedMonth + 2) / 5 + 1
  let month :=
    if shiftedMonth < 10 then
      shiftedMonth + 3
    else
      shiftedMonth - 9
  let year := cycle * 400 + yearOfCycle
  ⟨if month ≤ 2 then year + 1 else year, month, day⟩

/- The days from the first of January 1970 to a date. -/
def toDays
    (date : Date) :
    Int :=
  let year := if date.month ≤ 2 then date.year - 1 else date.year
  let cycle := year / 400
  let yearOfCycle := (year % 400).toNat
  let shiftedMonth :=
    if 2 < date.month then date.month - 3 else date.month + 9
  let dayOfYear := (153 * shiftedMonth + 2) / 5 + date.day - 1
  let dayOfCycle :=
    yearOfCycle * 365 + yearOfCycle / 4 - yearOfCycle / 100 +
      dayOfYear
  cycle * 146097 + dayOfCycle - 719468

/- The days since the first of January of the year. -/
def dayOfYear
    (date : Date) :
    Nat :=
  (date.toDays - (Date.mk date.year 1 1).toDays).toNat

/- The days since Monday. -/
def weekdayFromMonday
    (date : Date) :
    Nat :=
  ((date.toDays + 3) % 7).toNat

/- The days since Sunday. -/
def weekdayFromSunday
    (date : Date) :
    Nat :=
  ((date.toDays + 4) % 7).toNat

/- The number of Sundays of the year up to the date. -/
def weekFromSunday
    (date : Date) :
    Nat :=
  (date.dayOfYear + 7 - date.weekdayFromSunday) / 7

/- The number of Mondays of the year up to the date. -/
def weekFromMonday
    (date : Date) :
    Nat :=
  (date.dayOfYear + 7 - date.weekdayFromMonday) / 7

/- The quarter of the year. -/
def quarter
    (date : Date) :
    Nat :=
  (date.month - 1) / 3 + 1

/- The Thursday of the date's week, which begins on Monday. -/
def weekThursday
    (date : Date) :
    Date :=
  ofDays (date.toDays - date.weekdayFromMonday + 3)

/- The year that the date's week belongs to. -/
def isoYear
    (date : Date) :
    Int :=
  date.weekThursday.year

/- The number of the date's week in its year. -/
def isoWeek
    (date : Date) :
    Nat :=
  date.weekThursday.dayOfYear / 7 + 1

end Date

/- The date of an instant. -/
def Instant.date
    (instant : Instant) :
    Date :=
  Date.ofDays instant.days

end LogLine

------------------------------------------------------------
-- Times of Day
------------------------------------------------------------

namespace LogLine

/-
  A time of day.  The leap second is second 60, with the
  nanoseconds that it has itself.
-/
structure TimeOfDay where
  hour : Nat
  minute : Nat
  second : Nat
  nanosecond : Nat
deriving DecidableEq, Repr

/- The time of day of an instant. -/
def Instant.timeOfDay
    (instant : Instant) :
    TimeOfDay :=
  let second := instant.secondOfDay
  { hour := second / 3600
    minute := second / 60 % 60
    second := second % 60 + instant.nanoseconds / 1000000000
    nanosecond := instant.nanoseconds % 1000000000 }

/- The hour from 1 to 12. -/
def TimeOfDay.hour12
    (time : TimeOfDay) :
    Nat :=
  (time.hour + 11) % 12 + 1

end LogLine
