import AgentCohort.Instant
import AgentCohort.Text.Blank

/-!
# Reading instants

A date and a time of day with an offset from universal time.  The form is the one
that is printed, read with some freedom: blanks may stand around the parts, one digit
may stand for two, the year may have a sign and any number of digits, the letter
between date and time may be small or a blank, and any number of decimals may follow
the seconds, of which nine count.
-/

namespace AgentCohort
namespace Instant

open Numeral (isDigit)

/-- Why a text is not an instant. -/
inductive Fault where
  /-- A part is too large, or the calendar has no such date. -/
  | outOfRange
  /-- The instant lies outside the years that dates reach. -/
  | impossible
  /-- A character cannot stand where it does. -/
  | invalid
  /-- The text ends too early. -/
  | tooShort
  /-- Something follows the instant. -/
  | tooLong
  deriving DecidableEq, Repr

/-- The words for a fault. -/
def Fault.message : Fault → String
  | .outOfRange => "input is out of range"
  | .impossible => "no possible date and time matching input"
  | .invalid => "input contains invalid characters"
  | .tooShort => "premature end of input"
  | .tooLong => "trailing input"

/-- A number whose digits are given, at most a signed word of 64 bits. -/
def numberOf (digits rest : List Char) : Except Fault (Nat × List Char) :=
  if digits = [] then .error .invalid
  else if Numeral.maxInt64 < Numeral.valueOf digits then .error .outOfRange
  else .ok (Numeral.valueOf digits, rest)

/-- A number of at most so many digits. -/
def readNumber (most : Nat) (cs : List Char) : Except Fault (Nat × List Char) :=
  if cs = [] then .error .tooShort
  else
    let digits := (cs.take most).takeWhile isDigit
    numberOf digits (cs.drop digits.length)

/-- A number of any length. -/
def readLongNumber (cs : List Char) : Except Fault (Nat × List Char) :=
  if cs = [] then .error .tooShort
  else numberOf (cs.takeWhile isDigit) (cs.dropWhile isDigit)

/-- A number of one or two digits inside bounds; blanks may lead. -/
def readPart (low high : Nat) (cs : List Char) : Except Fault (Nat × List Char) := do
  let (number, rest) ← readNumber 2 (Text.trimLeft cs)
  if low ≤ number ∧ number ≤ high then
    return (number, rest)
  else
    throw .outOfRange

/-- A year: up to four digits, or a sign and any number of them; blanks may lead. -/
def readYear (cs : List Char) : Except Fault (Int × List Char) := do
  let (year, rest) ←
    match Text.trimLeft cs with
    | '-' :: rest => do
      let (number, rest) ← readLongNumber rest
      pure (-(number : Int), rest)
    | '+' :: rest => do
      let (number, rest) ← readLongNumber rest
      pure ((number : Int), rest)
    | cs => do
      let (number, rest) ← readNumber 4 cs
      pure ((number : Int), rest)
  if -2147483648 ≤ year ∧ year ≤ 2147483647 then
    return (year, rest)
  else
    throw .outOfRange

/-- A mark between two parts; blanks may lead. -/
def readMark (mark : Char) (cs : List Char) : Except Fault (Unit × List Char) :=
  match Text.trimLeft cs with
  | [] => .error .tooShort
  | c :: rest => if c = mark then .ok ((), rest) else .error .invalid

/-- The letter between date and time. -/
def readJoint : List Char → Except Fault (Unit × List Char)
  | [] => .error .tooShort
  | c :: rest => if c = 't' ∨ c = 'T' ∨ c = ' ' then .ok ((), rest) else .error .invalid

/-- The decimals of a second in nanoseconds, if there are any. -/
def readDecimals : List Char → Except Fault (Nat × List Char)
  | '.' :: rest => do
    let (number, after) ← readNumber 9 rest
    let places := rest.length - after.length
    return (number * Nat.pow 10 (9 - places), after.dropWhile isDigit)
  | cs => .ok (0, cs)

/-- The next two characters as digits; how many bytes are left decides whether the text
is too short. -/
def readTwoDigits : List Char → Except Fault ((Nat × Nat) × List Char)
  | a :: b :: rest =>
    match Numeral.digit? a, Numeral.digit? b with
    | some tens, some ones => .ok ((tens, ones), rest)
    | _, _ => .error .invalid
  | [a] => .error (if a.utf8Size < 2 then .tooShort else .invalid)
  | [] => .error .tooShort

/-- Colons and blanks between the hours and the minutes of an offset. -/
def isOffsetGap (c : Char) : Bool :=
  c = ':' || Text.isBlank c

/-- Hours and minutes of an offset, in seconds. -/
def readOffsetSpan (cs : List Char) : Except Fault (Nat × List Char) := do
  let ((tens, ones), rest) ← readTwoDigits cs
  let ((tens', ones'), rest) ← readTwoDigits (rest.dropWhile isOffsetGap)
  if tens' < 6 then
    return ((tens * 10 + ones) * 3600 + (tens' * 10 + ones') * 60, rest)
  else
    throw .outOfRange

/-- The letters for universal time, in any case. -/
def afterUniversal? : List Char → Option (List Char)
  | u :: t :: c :: rest =>
    if u.toLower = 'u' ∧ t.toLower = 't' ∧ c.toLower = 'c' then some rest else none
  | _ => none

/-- The offset from universal time in seconds. -/
def readOffset (cs : List Char) : Except Fault (Int × List Char) :=
  match afterUniversal? cs with
  | some rest => .ok (0, rest)
  | none =>
    match cs with
    | [] => .error .tooShort
    | sign :: rest =>
      if sign = 'Z' ∨ sign = 'z' then .ok (0, rest)
      else if sign = '+' then
        (readOffsetSpan rest).map fun (span, rest) => ((span : Int), rest)
      else if sign = '-' ∨ sign = '\u2212' then
        (readOffsetSpan rest).map fun (span, rest) => (-(span : Int), rest)
      else .error .invalid

/-- Seconds of a day. -/
def secondsPerDay : Int := 86400

/-- A local time of a date, moved to universal time. -/
def atOffset (date : CalendarDate) (second nanosecond : Nat) (offset : Int) :
    Except Fault Instant :=
  if ¬ date.isValid then .error .outOfRange
  else if offset ≤ -secondsPerDay ∨ secondsPerDay ≤ offset then .error .outOfRange
  else
    let shifted := (second : Int) - offset
    let day := date.toDays + shifted / secondsPerDay
    let first := CalendarDate.toDays ⟨CalendarDate.firstYear, 1, 1⟩
    let last := CalendarDate.toDays ⟨CalendarDate.lastYear, 12, 31⟩
    if day < first ∨ last < day then .error .impossible
    else .ok ⟨day, (shifted % secondsPerDay).toNat, nanosecond⟩

/-- A date: year, month and day. -/
def readDate (cs : List Char) : Except Fault (CalendarDate × List Char) := do
  let (year, rest) ← readYear cs
  let (_, rest) ← readMark '-' rest
  let (month, rest) ← readPart 1 12 rest
  let (_, rest) ← readMark '-' rest
  let (day, rest) ← readPart 1 31 rest
  return (⟨year, month, day⟩, rest)

/-- A time of day. -/
structure Clock where
  /-- The hour of the day. -/
  hour : Nat
  /-- The minute of the hour. -/
  minute : Nat
  /-- The second of the minute; a leap second is second 60. -/
  second : Nat
  /-- The nanosecond of the second. -/
  nanosecond : Nat

/-- A time of day: hour, minute and second with decimals. -/
def readClock (cs : List Char) : Except Fault (Clock × List Char) := do
  let (hour, rest) ← readPart 0 23 cs
  let (_, rest) ← readMark ':' rest
  let (minute, rest) ← readPart 0 59 rest
  let (_, rest) ← readMark ':' rest
  let (second, rest) ← readPart 0 60 rest
  let (nanosecond, rest) ← readDecimals rest
  return (⟨hour, minute, second, nanosecond⟩, rest)

/-- The instant that a text writes. -/
def ofChars (cs : List Char) : Except Fault Instant := do
  let (date, rest) ← readDate cs
  let (_, rest) ← readJoint rest
  let (clock, rest) ← readClock rest
  let (offset, rest) ← readOffset (Text.trimLeft rest)
  if (Text.trimLeft rest).isEmpty then
    let leap := clock.second = 60
    atOffset date
      (clock.hour * 3600 + clock.minute * 60 + (if leap then 59 else clock.second))
      (clock.nanosecond + (if leap then nanosecondsPerSecond else 0)) offset
  else
    throw .tooLong

end Instant
end AgentCohort
