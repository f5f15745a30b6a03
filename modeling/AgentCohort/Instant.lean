import AgentCohort.Numeral

/-!
# Instants

Points in time to the nanosecond, counted in days and seconds from the start of 1970
in universal time, and their printed form.  A leap second is a second that lasts a
second longer: its nanoseconds run on past the first thousand million.
-/

namespace AgentCohort

/-- A point in time. -/
structure Instant where
  /-- Days since the first of January 1970. -/
  day : Int
  /-- Second of the day. -/
  second : Nat
  /-- Nanoseconds into the second. -/
  nanosecond : Nat
  deriving DecidableEq, Repr

/-- A day of the calendar. -/
structure CalendarDate where
  /-- The year; years before the first are zero and negative. -/
  year : Int
  /-- The month, from 1. -/
  month : Nat
  /-- The day of the month, from 1. -/
  day : Nat
  deriving DecidableEq, Repr

namespace CalendarDate

/-- The years with a twenty-ninth of February. -/
def isLeapYear (year : Int) : Bool :=
  year % 4 = 0 && (year % 100 ≠ 0 || year % 400 = 0)

/-- Number of days of a month. -/
def daysInMonth (year : Int) (month : Nat) : Nat :=
  if month = 2 then (if isLeapYear year then 29 else 28)
  else if month = 4 ∨ month = 6 ∨ month = 9 ∨ month = 11 then 30
  else 31

/-- The first year that dates reach. -/
def firstYear : Int := -262143

/-- The last year that dates reach. -/
def lastYear : Int := 262142

/-- Whether the calendar has the date, within the years that dates reach. -/
def isValid (date : CalendarDate) : Bool :=
  firstYear ≤ date.year && date.year ≤ lastYear &&
    1 ≤ date.month && date.month ≤ 12 &&
    1 ≤ date.day && date.day ≤ daysInMonth date.year date.month

/-- Days since the first of January 1970.  Years begin in March here, so that the leap
day comes last, and 400 of them have 146097 days. -/
def toDays (date : CalendarDate) : Int :=
  let year := if date.month ≤ 2 then date.year - 1 else date.year
  let era := year / 400
  let yearOfEra := year % 400
  let month : Int := ((date.month + 9) % 12 : Nat)
  let dayOfYear := (153 * month + 2) / 5 + date.day - 1
  let dayOfEra := yearOfEra * 365 + yearOfEra / 4 - yearOfEra / 100 + dayOfYear
  era * 146097 + dayOfEra - 719468

/-- The date so many days after the first of January 1970. -/
def ofDays (days : Int) : CalendarDate :=
  let shifted := days + 719468
  let era := shifted / 146097
  let dayOfEra := shifted % 146097
  let yearOfEra :=
    (dayOfEra - dayOfEra / 1460 + dayOfEra / 36524 - dayOfEra / 146096) / 365
  let dayOfYear := dayOfEra - (365 * yearOfEra + yearOfEra / 4 - yearOfEra / 100)
  let monthFromMarch := (5 * dayOfYear + 2) / 153
  let day := dayOfYear - (153 * monthFromMarch + 2) / 5 + 1
  let month := if monthFromMarch < 10 then monthFromMarch + 3 else monthFromMarch - 9
  let year := yearOfEra + era * 400
  ⟨if month ≤ 2 then year + 1 else year, month.toNat, day.toNat⟩

/-- The year with four digits, and with a sign and at least four digits outside of the
first ten thousand. -/
def yearText (year : Int) : String :=
  if 0 ≤ year ∧ year ≤ 9999 then Numeral.padded 4 year.toNat
  else (if year < 0 then "-" else "+") ++ Numeral.padded 4 year.natAbs

/-- The date as year, month and day. -/
def text (date : CalendarDate) : String :=
  yearText date.year ++ "-" ++ Numeral.padded 2 date.month ++ "-" ++
    Numeral.padded 2 date.day

end CalendarDate

namespace Instant

/-- Nanoseconds of a second. -/
def nanosecondsPerSecond : Nat := 1000000000

/-- The decimals of a second: none, three, six or nine, the fewest that lose nothing. -/
def decimals (nanosecond : Nat) : String :=
  if nanosecond = 0 then ""
  else if nanosecond % 1000000 = 0 then
    "." ++ Numeral.padded 3 (nanosecond / 1000000)
  else if nanosecond % 1000 = 0 then "." ++ Numeral.padded 6 (nanosecond / 1000)
  else "." ++ Numeral.padded 9 nanosecond

/-- The instant in universal time, a leap second as second 60. -/
def text (instant : Instant) : String :=
  let leap := nanosecondsPerSecond ≤ instant.nanosecond
  let second := instant.second % 60 + (if leap then 1 else 0)
  let nanosecond :=
    if leap then instant.nanosecond - nanosecondsPerSecond else instant.nanosecond
  (CalendarDate.ofDays instant.day).text ++ "T" ++
    Numeral.padded 2 (instant.second / 3600) ++ ":" ++
    Numeral.padded 2 (instant.second / 60 % 60) ++ ":" ++
    Numeral.padded 2 second ++ decimals nanosecond ++ "Z"

end Instant
end AgentCohort
