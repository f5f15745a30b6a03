import AgentCohort.Double
import AgentCohort.Numeral

/-!
# Reading doubles

A sign, digits with a point somewhere among or beside them, and an exponent; or the
words for infinity and for no number, in any case of their letters.
-/

namespace AgentCohort
namespace Double

open Numeral (isDigit valueOf)

/-- The exponent after its mark. -/
def exponent? (cs : List Char) : Option Int :=
  let (downward, digits) :=
    match cs with
    | '+' :: rest => (false, rest)
    | '-' :: rest => (true, rest)
    | _ => (false, cs)
  if digits ≠ [] ∧ digits.all isDigit then
    some (if downward then -(valueOf digits : Int) else valueOf digits)
  else
    none

/-- A number in decimal digits without a sign; all characters must belong to it. -/
def ofDigits? (negative : Bool) (cs : List Char) : Option Double :=
  let whole := cs.takeWhile isDigit
  let afterWhole := cs.dropWhile isDigit
  let (decimals, rest) :=
    match afterWhole with
    | '.' :: after => (after.takeWhile isDigit, after.dropWhile isDigit)
    | _ => ([], afterWhole)
  if whole = [] ∧ decimals = [] then
    none
  else
    let number := valueOf (whole ++ decimals)
    match rest with
    | [] => some (ofDecimal negative number (-decimals.length))
    | mark :: after =>
      if mark = 'e' ∨ mark = 'E' then
        (exponent? after).map fun exponent =>
          ofDecimal negative number (exponent - decimals.length)
      else
        none

/-- A number without its sign. -/
def ofMagnitude? (negative : Bool) (cs : List Char) : Option Double :=
  let word := cs.map Char.toLower
  if word = "inf".toList ∨ word = "infinity".toList then some (.infinite negative)
  else if word = "nan".toList then some .nan
  else ofDigits? negative cs

/-- The double that a text writes. -/
def ofText? (cs : List Char) : Option Double :=
  match cs with
  | '+' :: rest => ofMagnitude? false rest
  | '-' :: rest => ofMagnitude? true rest
  | _ => ofMagnitude? false cs

end Double
end AgentCohort
