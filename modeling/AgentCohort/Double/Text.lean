import AgentCohort.Double.Shortest
import AgentCohort.Numeral

/-!
# Doubles as text

Two ways of writing a double with its shortest digits: always positional, as
settings show it, and with an exponent outside the middle range, as messages about
JSON show it.  The digits are the same; only the layout differs.
-/

namespace AgentCohort
namespace Double

/-- Digits in positional notation, without a sign. -/
def positional (digits : Digits) : List Char :=
  let ds := Nat.toDigits 10 digits.number
  match digits.exponent with
  | .ofNat k => ds ++ List.replicate k '0'
  | .negSucc k =>
    let places := k + 1
    if places < ds.length then
      ds.take (ds.length - places) ++ '.' :: ds.drop (ds.length - places)
    else
      '0' :: '.' :: (List.replicate (places - ds.length) '0' ++ ds)

/-- A minus sign for a negative number. -/
def signText (negative : Bool) : List Char :=
  if negative then ['-'] else []

/-- Positional notation with no more digits than needed: `1`, `0.0000001`, `-0`, `inf`,
`NaN`. -/
def plainText : Double → String
  | .finite negative significand exponent =>
    if significand = 0 then
      String.ofList (signText negative ++ ['0'])
    else
      String.ofList (signText negative ++ positional (shortestDigits significand exponent))
  | .infinite negative => if negative then "-inf" else "inf"
  | .nan => "NaN"

/-- Positional notation that shows a point in every finite number: `1.0`, `0.5`. -/
def pointedText (d : Double) : String :=
  match d with
  | .finite .. =>
    let text := d.plainText
    if text.toList.contains '.' then text else text ++ ".0"
  | _ => d.plainText

/-- The layout of a number with an exponent: one digit, a point if more follow, and a
signed exponent of at least two digits. -/
def scientific (digits : Digits) : List Char :=
  let ds := Nat.toDigits 10 digits.number
  let exponent := digits.exponent + (ds.length - 1 : Nat)
  let mark := if exponent < 0 then ['e', '-'] else ['e', '+']
  let places := (Numeral.padded 2 exponent.natAbs).toList
  let front :=
    match ds with
    | [] => []
    | [d] => [d]
    | d :: rest => d :: '.' :: rest
  front ++ mark ++ places

/-- Positional notation from `10 ^ -5` up to `10 ^ 16`, where a point is always shown, and
an exponent elsewhere: `1.0`, `1e+20`, `1.5e-07`. -/
def messageText : Double → String
  | .finite negative significand exponent =>
    if significand = 0 then
      String.ofList (signText negative ++ ['0', '.', '0'])
    else
      let digits := shortestDigits significand exponent
      let leading := digits.exponent + ((Nat.toDigits 10 digits.number).length - 1 : Nat)
      if -5 ≤ leading ∧ leading < 16 then
        let text := positional digits
        let pointed := if text.contains '.' then text else text ++ ['.', '0']
        String.ofList (signText negative ++ pointed)
      else
        String.ofList (signText negative ++ scientific digits)
  | .infinite negative => if negative then "-inf" else "inf"
  | .nan => "NaN"

end Double
end AgentCohort
