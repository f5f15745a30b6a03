import AgentCohort.Network.IpAddress.Reader
import AgentCohort.Network.Resolver

/-!
# Host names

The names that stand for an address on every host, without a name server: numeric names
of one to four parts, each decimal, octal after a leading `0` or hexadecimal after `0x`;
addresses of version 6 with a numbered zone; and the name of the host itself.  A host
that is asked for no other names can do with them.
-/

namespace AgentCohort
namespace Network
namespace HostName

open IpAddress (loopback ofV6Text?)
open Text (isDigitIn valueIn)

/-- The leading run of digits in some base, as a number, and the characters after it. -/
def readRun (base : Nat) (cs : List Char) : Nat × List Char :=
  (valueIn base (cs.takeWhile (isDigitIn base)), cs.dropWhile (isDigitIn base))

/-- One part of a numeric name. -/
def readPart (cs : List Char) : Option (Nat × List Char) :=
  match cs with
  | '0' :: mark :: digit :: rest =>
    if (mark = 'x' ∨ mark = 'X') ∧ isDigitIn 16 digit then
      some (readRun 16 (digit :: rest))
    else
      some (readRun 8 cs)
  | '0' :: _ => some (readRun 8 cs)
  | c :: _ => if isDigitIn 10 c then some (readRun 10 cs) else none
  | [] => none

/-- All parts of a numeric name, at most so many. -/
def readParts : Nat → List Char → Option (List Nat)
  | 0, _ => none
  | limit + 1, cs =>
    match readPart cs with
    | some (part, []) => some [part]
    | some (part, '.' :: rest) => (readParts limit rest).map (part :: ·)
    | _ => none

/-- The 32 bits that parts stand for: each part but the last is one byte, and the last
fills the bytes that are left. -/
def word? (bytesLeft : Nat) : List Nat → Option Nat
  | [] => none
  | [last] => if last < Nat.pow 256 bytesLeft then some last else none
  | part :: rest =>
    if part < 256 then
      (word? (bytesLeft - 1) rest).map (part * Nat.pow 256 (bytesLeft - 1) + ·)
    else
      none

/-- The address of version 4 with these 32 bits. -/
def ofWord (word : Nat) : IpAddress :=
  .v4 (UInt8.ofNat (word / Nat.pow 2 24)) (UInt8.ofNat (word / Nat.pow 2 16))
    (UInt8.ofNat (word / Nat.pow 2 8)) (UInt8.ofNat word)

/-- The address that a numeric name stands for. -/
def ofNumeric? (cs : List Char) : Option IpAddress :=
  ((readParts 4 cs).bind (word? 4)).map ofWord

/-- The number of a zone: digits only, at most 32 bits. -/
def isZone (cs : List Char) : Bool :=
  !cs.isEmpty && cs.all (isDigitIn 10) && valueIn 10 cs < Nat.pow 2 32

/-- The address in front of a zone, which is dropped. -/
def ofZoned? (cs : List Char) : Option IpAddress :=
  match cs.dropWhile (· ≠ '%') with
  | '%' :: zone =>
    if isZone zone then ofV6Text? (cs.takeWhile (· ≠ '%')) else none
  | _ => none

/-- The name of the host itself, in any case of its letters. -/
def isLocalhost (cs : List Char) : Bool :=
  cs.map Char.toLower = "localhost".toList

/-- The address that a name stands for. -/
def address? (cs : List Char) : Option IpAddress :=
  if isLocalhost cs then some loopback
  else (ofNumeric? cs).orElse fun _ => ofZoned? cs

/-- The resolver of a host that knows no other names. -/
def resolver : Resolver := fun name =>
  (address? name.toList).toList

end HostName
end Network
end AgentCohort
