/-!
# The proleptic Gregorian calendar

Days are counted from 1 January 1970, seconds from its midnight in UTC. Years run from -262143 to
262142, with a year zero. `dayNumber` and `dateOfDay` turn a date into its day number and back; both
count years from March, so that the leap day ends the year.
-/

namespace ScalpBot

/-- The first year of the calendar. -/
def minYear : Int := -262143

/-- The last year of the calendar. -/
def maxYear : Int := 262142

/-- Every fourth year, but of the centuries only every fourth. -/
def isLeapYear (year : Int) : Bool :=
  year % 4 = 0 && (year % 100 ≠ 0 || year % 400 = 0)

/-- How many days a month has. -/
def daysInMonth (year : Int) (month : Nat) : Nat :=
  if month = 2 then (if isLeapYear year then 29 else 28)
  else if month = 4 || month = 6 || month = 9 || month = 11 then 30
  else 31

/-- A day of the calendar. -/
structure Date where
  year : Int
  month : Nat
  day : Nat
deriving DecidableEq, Repr

namespace Date

/-- Whether the date stands in the calendar. -/
def isValid (d : Date) : Bool :=
  minYear ≤ d.year && d.year ≤ maxYear && 1 ≤ d.month && d.month ≤ 12
    && 1 ≤ d.day && d.day ≤ daysInMonth d.year d.month

/-- Days from 1 January 1970. -/
def dayNumber (d : Date) : Int :=
  let year := if d.month ≤ 2 then d.year - 1 else d.year
  let era := year / 400
  let yearOfEra := year % 400
  let monthFromMarch : Int := if 2 < d.month then d.month - 3 else d.month + 9
  let dayOfYear := (153 * monthFromMarch + 2) / 5 + (d.day : Int) - 1
  let dayOfEra := yearOfEra * 365 + yearOfEra / 4 - yearOfEra / 100 + dayOfYear
  era * 146097 + dayOfEra - 719468

/-- The date of a day counted from 1 January 1970. -/
def ofDayNumber (day : Int) : Date :=
  let shifted := day + 719468
  let era := shifted / 146097
  let dayOfEra := shifted % 146097
  let yearOfEra := (dayOfEra - dayOfEra / 1460 + dayOfEra / 36524 - dayOfEra / 146096) / 365
  let dayOfYear := dayOfEra - (365 * yearOfEra + yearOfEra / 4 - yearOfEra / 100)
  let monthFromMarch := (5 * dayOfYear + 2) / 153
  let day := dayOfYear - (153 * monthFromMarch + 2) / 5 + 1
  let month := if monthFromMarch < 10 then monthFromMarch + 3 else monthFromMarch - 9
  let year := yearOfEra + era * 400 + (if month ≤ 2 then 1 else 0)
  ⟨year, month.toNat, day.toNat⟩

end Date

/-- A point in time in UTC. In a leap second, which follows second 59 of a minute, the nanoseconds
run from one to two thousand million. -/
structure Instant where
  /-- Seconds from the start of 1970. -/
  seconds : Int
  /-- Nanoseconds of the second. -/
  nanoseconds : Nat
deriving DecidableEq, Repr

namespace Instant

/-- The first second of the calendar. -/
def minSeconds : Int := (Date.mk minYear 1 1).dayNumber * 86400

/-- The last second of the calendar. -/
def maxSeconds : Int := (Date.mk maxYear 12 31).dayNumber * 86400 + 86399

/-- The instant `seconds` after the start of 1970, where the calendar has it. -/
def ofSeconds? (seconds : Int) : Option Instant :=
  if minSeconds ≤ seconds && seconds ≤ maxSeconds then some ⟨seconds, 0⟩ else none

end Instant

end ScalpBot
