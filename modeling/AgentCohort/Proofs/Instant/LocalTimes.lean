import AgentCohort.Instant.Reader
import AgentCohort.Proofs.Instant.Calendar
import AgentCohort.Proofs.Numeral
import AgentCohort.Proofs.Text.Trimming

/-!
# Local times

A text with an offset writes a local time: a date and a time of day by a clock that is ahead of
universal time or behind it.  Such a time stands for the instant that lies as many seconds after
the start of 1970 as the clock has counted, less what it is ahead, whichever days, months or years
lie between the two clocks.
-/

namespace AgentCohort
namespace Instant

open CalendarDate (firstDay lastDay)
open Numeral (isDigit valueOf)
open Text (AllBlank)

/-- A date and a time of day by some clock. -/
structure LocalTime where
  /-- The date. -/
  date : CalendarDate
  /-- The time of day. -/
  clock : Clock
  /-- How many seconds the clock is ahead of universal time. -/
  offset : Int

/-- Seconds of a day before a time of day.  A leap second is counted as the second before it. -/
def Clock.elapsed (clock : Clock) : Nat :=
  clock.hour * 3600 + clock.minute * 60 + min clock.second 59

namespace LocalTime

/-- Seconds in universal time since the start of 1970. -/
def elapsed (time : LocalTime) : Int :=
  time.date.toDays * 86400 + time.clock.elapsed - time.offset

/-- A local time stands for an instant. -/
structure StandsFor (time : LocalTime) (instant : Instant) : Prop where
  /-- The calendar has the date. -/
  valid : time.date.isValid = true
  /-- The two clocks are less than a day apart. -/
  offset : -86400 < time.offset ∧ time.offset < 86400
  /-- The day has a date in universal time, too. -/
  inRange : firstDay ≤ instant.day ∧ instant.day ≤ lastDay
  /-- The second lies in the day. -/
  second : instant.second < 86400
  /-- As many seconds have gone by. -/
  elapsed : instant.day * 86400 + instant.second = time.elapsed
  /-- The nanoseconds of a leap second follow those of the second before it. -/
  nanosecond : instant.nanosecond =
    time.clock.nanosecond + if time.clock.second = 60 then nanosecondsPerSecond else 0

end LocalTime

/-! ## How a local time is written -/

/-- Digits show a number. -/
structure Shows (digits : List Char) (number : Nat) : Prop where
  /-- There is at least one. -/
  nonempty : digits ≠ []
  /-- They are digits. -/
  all : ∀ c ∈ digits, isDigit c = true
  /-- They write the number. -/
  value : valueOf digits = number

/-- A year has up to four digits, or a sign and any number of them. -/
inductive WritesYear : List Char → Int → Prop
  | digits
      {digits : List Char}
      {year : Nat}
      (shows : Shows digits year)
      (short : digits.length ≤ 4) :
      WritesYear digits year
  | plus {digits : List Char} {year : Nat} (shows : Shows digits year) :
      WritesYear ('+' :: digits) year
  | minus {digits : List Char} {year : Nat} (shows : Shows digits year) :
      WritesYear ('-' :: digits) (-year)

/-- Each other part has one or two digits. -/
structure WritesPart (low high : Nat) (digits : List Char) (number : Nat) : Prop where
  /-- They show the number. -/
  shows : Shows digits number
  /-- There are at most two. -/
  short : digits.length ≤ 2
  /-- The number is not too small. -/
  lower : low ≤ number
  /-- The number is not too large. -/
  upper : number ≤ high

/-- Decimals follow a point.  What they write beyond nanoseconds does not count. -/
inductive WritesDecimals : List Char → Nat → Prop
  | none : WritesDecimals [] 0
  | point {digits : List Char} {number : Nat} (shows : Shows digits number) :
      WritesDecimals ('.' :: digits) (number * 10 ^ 9 / 10 ^ digits.length)

/-- Hours and minutes have two digits each; colons and blanks may stand between them. -/
inductive WritesSpan : List Char → Nat → Prop
  | parts
      {hours gap minutes : List Char}
      {hour minute : Nat}
      (showHour : Shows hours hour)
      (twoHours : hours.length = 2)
      (between : ∀ c ∈ gap, isOffsetGap c = true)
      (showMinute : Shows minutes minute)
      (twoMinutes : minutes.length = 2)
      (upper : minute < 60) :
      WritesSpan (hours ++ (gap ++ minutes)) (hour * 3600 + minute * 60)

/-- An offset is written as universal time, or as hours and minutes with a sign. -/
inductive WritesOffset : List Char → Int → Prop
  | letter {c : Char} (universal : c = 'Z' ∨ c = 'z') : WritesOffset [c] 0
  | letters {u t c : Char} (universal : [u, t, c].map Char.toLower = ['u', 't', 'c']) :
      WritesOffset [u, t, c] 0
  | ahead {cs : List Char} {seconds : Nat} (span : WritesSpan cs seconds) :
      WritesOffset ('+' :: cs) seconds
  | behind
      {minus : Char}
      {cs : List Char}
      {seconds : Nat}
      (sign : minus = '-' ∨ minus = '\u2212')
      (span : WritesSpan cs seconds) :
      WritesOffset (minus :: cs) (-seconds)

/-- Parts stand one after another, and blanks may stand before each of them. -/
def Spaced : List (List Char) → List Char → Prop
  | [], cs => cs = []
  | part :: parts, cs =>
    ∃ blanks rest, AllBlank blanks ∧ cs = blanks ++ (part ++ rest) ∧ Spaced parts rest

/-- A date is year, month and day. -/
def WritesDate (cs : List Char) (date : CalendarDate) : Prop :=
  ∃ year month day, Spaced [year, ['-'], month, ['-'], day] cs ∧ WritesYear year date.year ∧
    WritesPart 1 12 month date.month ∧ WritesPart 1 31 day date.day

/-- A time of day is hour, minute and second with decimals. -/
def WritesClock (cs : List Char) (clock : Clock) : Prop :=
  ∃ hour minute second decimals, Spaced [hour, [':'], minute, [':'], second ++ decimals] cs ∧
    WritesPart 0 23 hour clock.hour ∧ WritesPart 0 59 minute clock.minute ∧
    WritesPart 0 60 second clock.second ∧ WritesDecimals decimals clock.nanosecond

/-- A letter or a space stands between date and time, and only blanks follow the offset. -/
def LocalTime.WrittenAs (time : LocalTime) (cs : List Char) : Prop :=
  ∃ date joint clock blanks offset rest,
    cs = date ++ joint :: (clock ++ (blanks ++ (offset ++ rest))) ∧
    AllBlank blanks ∧ AllBlank rest ∧ joint ∈ ['t', 'T', ' '] ∧
    WritesDate date time.date ∧ WritesClock clock time.clock ∧ WritesOffset offset time.offset

/-- A text names an instant: it writes a local time that stands for it. -/
def Names (cs : List Char) (instant : Instant) : Prop :=
  ∃ time : LocalTime, time.WrittenAs cs ∧ time.StandsFor instant

end Instant
end AgentCohort
