import AgentCohort.Double.Reader
import AgentCohort.Settings.Tree
import AgentCohort.Text.Digits

/-!
# Numbers in TOML

Whole numbers in four bases and numbers with a point or an exponent.  Single
underscores may stand between digits.  Whole numbers must fit a signed word of 64 bits.
-/

namespace AgentCohort
namespace Toml

open Settings (Scalar)

/-- The digits after a first one, without the single underscores between them, and the
characters after them. -/
def readMoreDigits (base : Nat) : List Char → Option (List Char × List Char)
  | '_' :: c :: rest =>
    if Text.isDigitIn base c then
      (readMoreDigits base rest).map fun (digits, rest) => (c :: digits, rest)
    else none
  | ['_'] => none
  | c :: rest =>
    if Text.isDigitIn base c then
      (readMoreDigits base rest).map fun (digits, rest) => (c :: digits, rest)
    else some ([], c :: rest)
  | [] => some ([], [])

/-- Digits in a base with single underscores between them, without these, and the
characters after them. -/
def readDigits (base : Nat) (cs : List Char) : Option (List Char × List Char) :=
  match cs with
  | c :: rest =>
    if Text.isDigitIn base c then
      (readMoreDigits base rest).map fun (digits, rest) => (c :: digits, rest)
    else none
  | [] => none

/-- A whole number in a base other than ten. -/
def readBased (base : Nat) (cs : List Char) : Option (Scalar × List Char) :=
  (readDigits base cs).bind fun (digits, rest) =>
    let value := Text.valueIn base digits
    if value ≤ Numeral.maxInt64 then some (.integer value, rest) else none

/-- The digits before the point: a single zero, or digits that begin with another one. -/
def readWhole (cs : List Char) : Option (List Char × List Char) :=
  match cs with
  | '0' :: rest => some (['0'], rest)
  | _ => readDigits 10 cs

/-- An exponent with its mark, if there is one. -/
def readExponent (cs : List Char) : Option (List Char × List Char) :=
  match cs with
  | mark :: rest =>
    if mark = 'e' ∨ mark = 'E' then
      match rest with
      | '+' :: rest => (readDigits 10 rest).map fun (digits, rest) => ('e' :: digits, rest)
      | '-' :: rest =>
        (readDigits 10 rest).map fun (digits, rest) => ('e' :: '-' :: digits, rest)
      | _ => (readDigits 10 rest).map fun (digits, rest) => ('e' :: digits, rest)
    else some ([], cs)
  | [] => some ([], [])

/-- The double that digits write; one beyond all positive doubles is refused. -/
def doubleOf (negative : Bool) (cs : List Char) : Option Scalar :=
  match Double.ofDigits? negative cs with
  | some (.infinite false) => none
  | some number => some (.real number)
  | none => none

/-- A decimal number after its sign. -/
def readDecimal (negative : Bool) (cs : List Char) : Option (Scalar × List Char) := do
  let (whole, rest) ← readWhole cs
  match rest with
  | '.' :: rest =>
    let (decimals, rest) ← readDigits 10 rest
    let (exponent, rest) ← readExponent rest
    let number ← doubleOf negative (whole ++ '.' :: decimals ++ exponent)
    some (number, rest)
  | _ =>
    let (exponent, rest) ← readExponent rest
    if exponent = [] then
      let value := Numeral.valueOf whole
      let bound := if negative then Nat.pow 2 63 else Numeral.maxInt64
      if value ≤ bound then
        some (.integer (if negative then -(value : Int) else value), rest)
      else
        none
    else
      let number ← doubleOf negative (whole ++ exponent)
      some (number, rest)

/-- A number after its sign, or one of the words for infinity and for no number. -/
def readMagnitude (negative : Bool) (cs : List Char) : Option (Scalar × List Char) :=
  match cs with
  | 'i' :: 'n' :: 'f' :: rest => some (.real (.infinite negative), rest)
  | 'n' :: 'a' :: 'n' :: rest => some (.real .nan, rest)
  | _ => readDecimal negative cs

/-- A number. -/
def readNumber (cs : List Char) : Option (Scalar × List Char) :=
  match cs with
  | '0' :: 'x' :: rest => readBased 16 rest
  | '0' :: 'o' :: rest => readBased 8 rest
  | '0' :: 'b' :: rest => readBased 2 rest
  | '+' :: rest => readMagnitude false rest
  | '-' :: rest => readMagnitude true rest
  | _ => readMagnitude false cs

end Toml
end AgentCohort
