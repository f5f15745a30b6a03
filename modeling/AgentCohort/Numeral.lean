/-!
# Decimal numerals

Reading a whole number from its decimal digits, with an optional sign and inside
given bounds.  Characters are taken from the left, and the first one that cannot be
accepted decides the fault: a character that is no digit, or a digit that takes the
number past its bound.
-/

namespace AgentCohort
namespace Numeral

/-- Why a text is not a whole number inside the bounds. -/
inductive Fault where
  /-- There is nothing to read. -/
  | empty
  /-- A character is no digit, or a sign stands alone. -/
  | invalidDigit
  /-- The number lies above the upper bound. -/
  | tooLarge
  /-- The number lies below the lower bound. -/
  | tooSmall
  deriving DecidableEq, Repr

/-- The words for a fault. -/
def Fault.message : Fault → String
  | .empty => "cannot parse integer from empty string"
  | .invalidDigit => "invalid digit found in string"
  | .tooLarge => "number too large to fit in target type"
  | .tooSmall => "number too small to fit in target type"

/-- The value of an ASCII digit. -/
def digit? (c : Char) : Option Nat :=
  if '0' ≤ c ∧ c ≤ '9' then some (c.toNat - '0'.toNat) else none

/-- ASCII digits. -/
def isDigit (c : Char) : Bool :=
  (digit? c).isSome

/-- Appends digits to a number as long as it stays inside the bound. -/
def readDigits (bound : Nat) (overflow : Fault) : Nat → List Char → Except Fault Nat
  | number, [] => .ok number
  | number, c :: rest =>
    match digit? c with
    | none => .error .invalidDigit
    | some digit =>
      if number * 10 + digit ≤ bound then
        readDigits bound overflow (number * 10 + digit) rest
      else
        .error overflow

/-- A number without a minus sign, at most `bound`; one plus sign may lead. -/
def readNat (bound : Nat) : List Char → Except Fault Nat
  | [] => .error .empty
  | '+' :: c :: rest => readDigits bound .tooLarge 0 (c :: rest)
  | cs => readDigits bound .tooLarge 0 cs

/-- A number from `-lowest` to `highest`; one sign may lead. -/
def readInt (lowest highest : Nat) : List Char → Except Fault Int
  | '-' :: c :: rest =>
    (readDigits lowest .tooSmall 0 (c :: rest)).map fun number => -(number : Int)
  | cs => (readNat highest cs).map Int.ofNat

/-- The value of a run of digits, whatever its length. -/
def valueOf (digits : List Char) : Nat :=
  digits.foldl (fun number c => number * 10 + (digit? c).getD 0) 0

/-- The largest signed word of 64 bits. -/
def maxInt64 : Nat := Nat.pow 2 63 - 1

/-- The largest unsigned word of 64 bits. -/
def maxUInt64 : Nat := Nat.pow 2 64 - 1

/-- A signed word of 64 bits. -/
def readInt64 (cs : List Char) : Except Fault Int :=
  readInt (Nat.pow 2 63) maxInt64 cs

/-- An unsigned word of 16 bits, which is what a port is. -/
def readUInt16 (cs : List Char) : Except Fault UInt16 :=
  (readNat 65535 cs).map UInt16.ofNat

/-- A number written with at least so many digits, zeros leading. -/
def padded (width : Nat) (n : Nat) : String :=
  let digits := Nat.toDigits 10 n
  String.ofList (List.replicate (width - digits.length) '0' ++ digits)

end Numeral
end AgentCohort
