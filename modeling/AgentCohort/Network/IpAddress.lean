/-!
# IP addresses

Addresses of both versions and their one printed form each.  Version 4 is four
decimal bytes.  Version 6 is eight hexadecimal groups with the longest run of two or
more zero groups, the first of equally long ones, written as `::`; an address that
stands for one of version 4 shows it in decimal bytes.
-/

namespace AgentCohort
namespace Network

/-- An address of a host. -/
inductive IpAddress where
  /-- Version 4: four bytes. -/
  | v4 (a b c d : UInt8)
  /-- Version 6: eight groups of 16 bits. -/
  | v6 (groups : Vector UInt16 8)
  deriving DecidableEq, Repr

namespace IpAddress

/-- The address of the host itself, version 4. -/
def loopback : IpAddress :=
  .v4 127 0 0 1

/-- The address that stands for none, in either version. -/
def isUnspecified : IpAddress → Bool
  | .v4 a b c d => a == 0 && b == 0 && c == 0 && d == 0
  | .v6 groups => groups.toList.all (· == 0)

/-- Whether the address is of version 6. -/
def isV6 : IpAddress → Bool
  | .v4 .. => false
  | .v6 _ => true

/-- Decimal digits of a number. -/
def decimal (n : Nat) : List Char :=
  Nat.toDigits 10 n

/-- Four bytes in decimal, joined by points. -/
def bytesText (a b c d : UInt8) : List Char :=
  decimal a.toNat ++ '.' :: decimal b.toNat ++ '.' :: decimal c.toNat ++ '.' ::
    decimal d.toNat

/-- Groups in lower-case hexadecimal, joined by colons. -/
def groupsText : List UInt16 → List Char
  | [] => []
  | [group] => Nat.toDigits 16 group.toNat
  | group :: rest => Nat.toDigits 16 group.toNat ++ ':' :: groupsText rest

/-- A run of zero groups: where it starts and how long it is. -/
structure ZeroRun where
  /-- Position of the first zero group. -/
  start : Nat
  /-- Number of zero groups. -/
  length : Nat
  deriving DecidableEq, Repr

/-- The longest run of zero groups, the first of equally long ones; `position` counts
the groups passed and `current` is the run that ends there. -/
def longestZeroRun (position : Nat) (current best : ZeroRun) : List UInt16 → ZeroRun
  | [] => best
  | group :: rest =>
    if group = 0 then
      let current : ZeroRun :=
        if current.length = 0 then ⟨position, 1⟩
        else ⟨current.start, current.length + 1⟩
      let best := if best.length < current.length then current else best
      longestZeroRun (position + 1) current best rest
    else
      longestZeroRun (position + 1) ⟨0, 0⟩ best rest

/-- The bytes of the version 4 address that a version 6 address stands for. -/
def mappedBytes? : List UInt16 → Option (UInt8 × UInt8 × UInt8 × UInt8)
  | [0, 0, 0, 0, 0, 0xFFFF, high, low] =>
    some ((high >>> 8).toUInt8, high.toUInt8, (low >>> 8).toUInt8, low.toUInt8)
  | _ => none

/-- The printed form of eight groups. -/
def v6Text (groups : List UInt16) : List Char :=
  match mappedBytes? groups with
  | some (a, b, c, d) => "::ffff:".toList ++ bytesText a b c d
  | none =>
    let run := longestZeroRun 0 ⟨0, 0⟩ ⟨0, 0⟩ groups
    if 1 < run.length then
      groupsText (groups.take run.start) ++ ':' :: ':' ::
        groupsText (groups.drop (run.start + run.length))
    else
      groupsText groups

/-- The printed form of an address. -/
def toText : IpAddress → List Char
  | .v4 a b c d => bytesText a b c d
  | .v6 groups => v6Text groups.toList

instance : ToString IpAddress where
  toString address := String.ofList address.toText

end IpAddress
end Network
end AgentCohort
