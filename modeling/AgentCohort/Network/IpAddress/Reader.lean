import AgentCohort.Network.IpAddress
import AgentCohort.Text.Digits

/-!
# Reading IP addresses

The strict literal forms: four decimal bytes without leading zeros, or up to eight
groups of one to four hexadecimal digits with at most one `::`, the last two groups
possibly written as four decimal bytes.  A reader returns what it read together with
the characters after it.
-/

namespace AgentCohort
namespace Network
namespace IpAddress

open Text (isDigitIn valueIn)

/-- A number of one to `most` digits. -/
def readNumber (base most : Nat) (leadingZeros : Bool) (cs : List Char) :
    Option (Nat × List Char) :=
  let digits := cs.takeWhile (isDigitIn base)
  if digits = [] ∨ most < digits.length then
    none
  else if ¬ leadingZeros ∧ digits.head? = some '0' ∧ 1 < digits.length then
    none
  else
    some (valueIn base digits, cs.dropWhile (isDigitIn base))

/-- One decimal byte. -/
def readByte (cs : List Char) : Option (UInt8 × List Char) :=
  match readNumber 10 3 false cs with
  | some (value, rest) => if value < 256 then some (UInt8.ofNat value, rest) else none
  | none => none

/-- A decimal byte after a point. -/
def readPointByte : List Char → Option (UInt8 × List Char)
  | '.' :: rest => readByte rest
  | _ => none

/-- Four decimal bytes joined by points. -/
def readBytes (cs : List Char) :
    Option ((UInt8 × UInt8 × UInt8 × UInt8) × List Char) := do
  let (a, rest) ← readByte cs
  let (b, rest) ← readPointByte rest
  let (c, rest) ← readPointByte rest
  let (d, rest) ← readPointByte rest
  some ((a, b, c, d), rest)

/-- Groups that were read, whether the last two came from decimal bytes, and the
characters after them. -/
structure Groups where
  /-- The groups, from the left. -/
  groups : List UInt16
  /-- Whether the last two were written as decimal bytes. -/
  endsInBytes : Bool
  /-- The characters after the groups. -/
  rest : List Char

/-- The characters after a separator, which the first group does not need. -/
def afterSeparator? (first : Bool) (cs : List Char) : Option (List Char) :=
  if first then some cs
  else
    match cs with
    | ':' :: rest => some rest
    | _ => none

/-- The 16 bits of two bytes. -/
def pairBytes (high low : UInt8) : UInt16 :=
  high.toUInt16 * 256 + low.toUInt16

/-- As many groups as there are, at most `limit`. -/
def readGroups (first : Bool) : Nat → List Char → Groups
  | 0, cs => ⟨[], false, cs⟩
  | limit + 1, cs =>
    let bytes :=
      if 0 < limit then (afterSeparator? first cs).bind readBytes else none
    match bytes with
    | some ((a, b, c, d), rest) => ⟨[pairBytes a b, pairBytes c d], true, rest⟩
    | none =>
      match (afterSeparator? first cs).bind (readNumber 16 4 true) with
      | some (value, rest) =>
        let more := readGroups false limit rest
        ⟨UInt16.ofNat value :: more.groups, more.endsInBytes, more.rest⟩
      | none => ⟨[], false, cs⟩

/-- Eight groups as an address. -/
def ofGroups? (groups : List UInt16) : Option IpAddress :=
  if h : groups.length = 8 then
    some (.v6 ⟨groups.toArray, by simpa using h⟩)
  else
    none

/-- A version 6 address at the front of a text. -/
def readV6 (cs : List Char) : Option (IpAddress × List Char) :=
  let front := readGroups true 8 cs
  if front.groups.length = 8 then
    (ofGroups? front.groups).map fun address => (address, front.rest)
  else if front.endsInBytes then
    none
  else
    match front.rest with
    | ':' :: ':' :: rest =>
      let back := readGroups true (7 - front.groups.length) rest
      let zeros := List.replicate (8 - front.groups.length - back.groups.length) 0
      (ofGroups? (front.groups ++ zeros ++ back.groups)).map
        fun address => (address, back.rest)
    | _ => none

/-- The address that a whole text of version 6 writes. -/
def ofV6Text? (cs : List Char) : Option IpAddress :=
  match readV6 cs with
  | some (address, []) => some address
  | _ => none

/-- The address that a whole text writes. -/
def ofText? (cs : List Char) : Option IpAddress :=
  match readBytes cs with
  | some ((a, b, c, d), []) => some (.v4 a b c d)
  | some _ => none
  | none => ofV6Text? cs

end IpAddress
end Network
end AgentCohort
