import AgentCohort.Instant
import AgentCohort.Numeral

/-!
# Dates and times in TOML

A date, a time of day, or both with or without an offset.  What is read is returned in
one printed form: with a `T` between date and time, no trailing zeros after the point
and at most nine digits there.
-/

namespace AgentCohort
namespace Toml

open Numeral (digit? isDigit padded)

/-- Two digits. -/
def readTwoDigits : List Char → Option (Nat × List Char)
  | a :: b :: rest =>
    match digit? a, digit? b with
    | some tens, some ones => some (tens * 10 + ones, rest)
    | _, _ => none
  | _ => none

/-- Two digits inside bounds. -/
def readBounded (low high : Nat) (cs : List Char) : Option (Nat × List Char) :=
  (readTwoDigits cs).filter fun (number, _) => low ≤ number ∧ number ≤ high

/-- Two digits inside bounds after a mark. -/
def readMarked (mark : Char) (low high : Nat) (cs : List Char) : Option (Nat × List Char) :=
  match cs with
  | c :: rest => if c = mark then readBounded low high rest else none
  | [] => none

/-- A date of the calendar. -/
def readDate (cs : List Char) : Option (CalendarDate × List Char) := do
  let (high, rest) ← readTwoDigits cs
  let (low, rest) ← readTwoDigits rest
  let year := high * 100 + low
  let (month, rest) ← readMarked '-' 1 12 rest
  let (day, rest) ← readMarked '-' 1 31 rest
  if day ≤ CalendarDate.daysInMonth year month then
    some (⟨year, month, day⟩, rest)
  else
    none

/-- The digits of a fraction without trailing zeros, at most nine of them. -/
def fractionText (digits : List Char) : String :=
  match ((digits.take 9).reverse.dropWhile (· = '0')).reverse with
  | [] => ""
  | kept => String.ofList ('.' :: kept)

/-- The fraction of a second, if there is one. -/
def readFraction (cs : List Char) : Option (String × List Char) :=
  match cs with
  | '.' :: rest =>
    let digits := rest.takeWhile isDigit
    if digits = [] then none else some (fractionText digits, rest.dropWhile isDigit)
  | _ => some ("", cs)

/-- A time of day. -/
def readTime (cs : List Char) : Option (String × List Char) := do
  let (hour, rest) ← readBounded 0 23 cs
  let (minute, rest) ← readMarked ':' 0 59 rest
  let (second, rest) ← readMarked ':' 0 60 rest
  let (fraction, rest) ← readFraction rest
  some (padded 2 hour ++ ":" ++ padded 2 minute ++ ":" ++ padded 2 second ++ fraction, rest)

/-- An offset from universal time, if there is one. -/
def readOffset (cs : List Char) : Option (String × List Char) :=
  match cs with
  | c :: rest =>
    if c = 'Z' ∨ c = 'z' then some ("Z", rest)
    else if c = '+' ∨ c = '-' then
      match readBounded 0 23 rest with
      | none => some ("", cs)
      | some (hour, after) =>
        match after with
        | ':' :: _ =>
          (readMarked ':' 0 59 after).map fun (minute, after) =>
            let sign := if c = '-' ∧ (hour ≠ 0 ∨ minute ≠ 0) then "-" else "+"
            (sign ++ padded 2 hour ++ ":" ++ padded 2 minute, after)
        | _ => some ("", cs)
    else some ("", cs)
  | [] => some ("", [])

/-- Whether an hour and a colon follow, which begin a time. -/
def beginsTime (cs : List Char) : Bool :=
  match readBounded 0 23 cs with
  | some (_, ':' :: _) => true
  | _ => false

/-- Whether four digits and a hyphen follow, which begin a date. -/
def beginsDate (cs : List Char) : Bool :=
  match cs with
  | a :: b :: c :: d :: '-' :: _ => [a, b, c, d].all isDigit
  | _ => false

/-- A date with the time after it, if there is one. -/
def readDateTime (cs : List Char) : Option (String × List Char) := do
  let (date, rest) ← readDate cs
  match rest with
  | joint :: after =>
    if (joint = 'T' ∨ joint = 't' ∨ joint = ' ') ∧ beginsTime after then
      let (time, rest) ← readTime after
      let (offset, rest) ← readOffset rest
      some (date.text ++ "T" ++ time ++ offset, rest)
    else
      some (date.text, rest)
  | [] => some (date.text, [])

end Toml
end AgentCohort
