import AgentCohort.Json.Document
import AgentCohort.Numeral
import AgentCohort.Text.Digits

/-!
# Reading JSON texts

From characters to documents.  Every reader returns what it read together with the
characters after it; after a break there are none.
-/

namespace AgentCohort
namespace Json

open Numeral (isDigit)

/-- Blanks between the lexemes. -/
def isSpace (c : Char) : Bool :=
  c = ' ' || c = '\n' || c = '\t' || c = '\r'

/-- The characters after leading blanks. -/
def skipSpaces (cs : List Char) : List Char :=
  cs.dropWhile isSpace

/-! ## Texts -/

/-- What an escape stands for. -/
inductive Escape where
  /-- A character. -/
  | char (c : Char) (rest : List Char)
  /-- Half a character, which has no value. -/
  | half (rest : List Char)
  /-- Nothing, for it breaks off. -/
  | broken (cause : Break)

/-- The size of some characters in bytes. -/
def byteSize (cs : List Char) : Nat :=
  cs.foldl (fun size c => size + c.utf8Size) 0

/-- Four hexadecimal digits of either case. -/
def readFourHex (cs : List Char) : Except Break (Nat × List Char) :=
  if byteSize (cs.take 4) < 4 then
    .error .endOfText
  else
    match (cs.take 4).mapM Text.hexDigit? with
    | some [a, b, c, d] => .ok (((a * 16 + b) * 16 + c) * 16 + d, cs.drop 4)
    | _ => .error .malformed

/-- The characters after the mark of a second escape, which half a character needs. -/
def secondHalf? : List Char → Except Break (Option (List Char))
  | [] => .error .endOfText
  | '\\' :: [] => .error .endOfText
  | '\\' :: 'u' :: rest => .ok (some rest)
  | _ => .ok none

/-- An escape by code: one character, or the first half of one with the second after
it. -/
def readCodeEscape (cs : List Char) : Escape :=
  match readFourHex cs with
  | .error cause => .broken cause
  | .ok (code, rest) =>
    if code < 0xD800 ∨ 0xDFFF < code then
      .char (Char.ofNat code) rest
    else if 0xDC00 ≤ code then
      .half rest
    else
      match secondHalf? rest with
      | .error cause => .broken cause
      | .ok none => .half rest
      | .ok (some after) =>
        match readFourHex after with
        | .error cause => .broken cause
        | .ok (low, rest') =>
          if 0xDC00 ≤ low ∧ low ≤ 0xDFFF then
            .char (Char.ofNat (0x10000 + (code - 0xD800) * 0x400 + (low - 0xDC00))) rest'
          else
            .half rest

/-- The escape after a backslash. -/
def readEscape : List Char → Escape
  | [] => .broken .endOfText
  | '"' :: rest => .char '"' rest
  | '\\' :: rest => .char '\\' rest
  | '/' :: rest => .char '/' rest
  | 'b' :: rest => .char '\x08' rest
  | 'f' :: rest => .char '\x0c' rest
  | 'n' :: rest => .char '\n' rest
  | 'r' :: rest => .char '\r' rest
  | 't' :: rest => .char '\t' rest
  | 'u' :: rest => readCodeEscape rest
  | _ => .broken .malformed

/-- A text that breaks off, with or without half a character before the break. -/
def brokenText (readable : Bool) (cause : Break) : Document × List Char :=
  (if readable then .broken cause else .unreadable (.broken cause), [])

/-- The characters up to the closing quote.  `seen` holds those before, the last one
first, and `readable` tells whether all of them have values.  `fuel` bounds the number
of lexemes; the length of the text is enough. -/
def readText (fuel : Nat) (seen : List Char) (readable : Bool) (cs : List Char) :
    Document × List Char :=
  match fuel, cs with
  | 0, _ => brokenText readable .endOfText
  | _, [] => brokenText readable .endOfText
  | fuel + 1, c :: rest =>
    if c = '"' then
      (if readable then .text (String.ofList seen.reverse) else .unreadable .closed, rest)
    else if c = '\\' then
      match readEscape rest with
      | .char c rest => readText fuel (c :: seen) readable rest
      | .half rest => readText fuel seen false rest
      | .broken cause => brokenText readable cause
    else if c < ' ' then
      brokenText readable .malformed
    else
      readText fuel (c :: seen) readable rest

/-! ## Numbers -/

/-- Appends digits to a number while it fits a word of 64 bits; the second part counts
the digits from the first on that does not. -/
def absorb : Nat → List Char → Nat × Nat
  | number, [] => (number, 0)
  | number, c :: rest =>
    let next := number * 10 + (Numeral.digit? c).getD 0
    if next ≤ Numeral.maxUInt64 then absorb next rest
    else (number, rest.length + 1)

/-- The double nearest to a power of ten. -/
def powerOfTen (k : Nat) : Double :=
  .roundRatio false (Nat.pow 10 k) 1

/-- A whole number times a power of ten, rounded after every step: the number itself,
and one product or quotient with a power of ten, of which `10 ^ 308` is the largest.
Nothing comes of a product beyond all finite doubles. -/
def scaled (significand : Nat) (exponent : Int) : Option Double :=
  let number := Double.ofNat significand
  match exponent with
  | .ofNat k =>
    if k ≤ 308 then
      match number.mulMagnitude (powerOfTen k) with
      | .infinite _ => none
      | product => some product
    else if number.isZero then
      some number
    else
      none
  | .negSucc k =>
    let places := k + 1
    if places ≤ 308 then
      some (number.divMagnitude (powerOfTen places))
    else if places ≤ 616 then
      some ((number.divMagnitude (powerOfTen 308)).divMagnitude (powerOfTen (places - 308)))
    else
      some (.zero false)

/-- A number with its sign. -/
def realDocument (negative : Bool) : Option Double → Document
  | some number => .real (if negative then number.neg else number)
  | none => .unreadable .closed

/-- The greatest exponent that is computed with. -/
def greatestWrittenExponent : Nat := Nat.pow 2 31 - 1

/-- The exponent of a number, after its mark, and with it the number. -/
def readExponent (negative : Bool) (significand : Nat) (exponent : Int)
    (cs : List Char) : Document × List Char :=
  let (downward, digitsOn) :=
    match cs with
    | '+' :: rest => (false, rest)
    | '-' :: rest => (true, rest)
    | _ => (false, cs)
  let digits := digitsOn.takeWhile isDigit
  let rest := digitsOn.dropWhile isDigit
  if digits = [] then
    (.brokenWord (if rest = [] then .endOfText else .malformed), [])
  else
    let written := Numeral.valueOf digits
    if greatestWrittenExponent < written then
      if significand ≠ 0 ∧ ¬ downward then
        (.unreadable .closed, rest)
      else
        (.real (.zero negative), rest)
    else
      let total := if downward then exponent - written else exponent + written
      (realDocument negative (scaled significand total), rest)

/-- What follows the digits of a number: an exponent, or nothing. -/
def readScale (negative : Bool) (significand : Nat) (exponent : Int) (cs : List Char) :
    Document × List Char :=
  match cs with
  | 'e' :: rest => readExponent negative significand exponent rest
  | 'E' :: rest => readExponent negative significand exponent rest
  | _ => (realDocument negative (scaled significand exponent), cs)

/-- The decimals of a number, after the point, and with them the number. -/
def readDecimals (negative : Bool) (significand : Nat) (exponent : Int)
    (cs : List Char) : Document × List Char :=
  let digits := cs.takeWhile isDigit
  let rest := cs.dropWhile isDigit
  if digits = [] then
    (.brokenWord (if rest = [] then .endOfText else .malformed), [])
  else
    let (number, dropped) := absorb significand digits
    readScale negative number (exponent - (digits.length - dropped : Nat)) rest

/-- A whole number without decimals and exponent; zero with a minus sign and numbers
outside the words of 64 bits are doubles. -/
def integerDocument (negative : Bool) (number : Nat) : Document :=
  if negative then
    if number = 0 ∨ Nat.pow 2 63 < number then .real (Double.ofNat number).neg
    else .integer (-(number : Int))
  else
    .integer number

/-- A number without its sign. -/
def readMagnitude (negative : Bool) (cs : List Char) : Document × List Char :=
  let digits := cs.takeWhile isDigit
  let rest := cs.dropWhile isDigit
  if digits = [] then
    (.brokenWord (if rest = [] then .endOfText else .malformed), [])
  else if digits.head? = some '0' ∧ 1 < digits.length then
    (.brokenWord .malformed, [])
  else
    let (number, dropped) := absorb 0 digits
    match rest with
    | '.' :: rest => readDecimals negative number dropped rest
    | 'e' :: _ => readScale negative number dropped rest
    | 'E' :: _ => readScale negative number dropped rest
    | _ =>
      if dropped = 0 then (integerDocument negative number, rest)
      else readScale negative number dropped rest

/-! ## Words, lists and records -/

/-- The rest of a word of which the first letter has been met. -/
def readWord (document : Document) : List Char → List Char → Document × List Char
  | [], rest => (document, rest)
  | _ :: _, [] => (.brokenWord .endOfText, [])
  | letter :: word, c :: rest =>
    if c = letter then readWord document word rest else (.brokenWord .malformed, [])

/-- A value that is neither list nor record. -/
def readScalar (cs : List Char) : Document × List Char :=
  match cs with
  | [] => (.broken .endOfText, [])
  | '"' :: rest => readText (rest.length + 1) [] true rest
  | 'n' :: rest => readWord .null ['u', 'l', 'l'] rest
  | 't' :: rest => readWord (.boolean true) ['r', 'u', 'e'] rest
  | 'f' :: rest => readWord (.boolean false) ['a', 'l', 's', 'e'] rest
  | '-' :: rest => readMagnitude true rest
  | c :: _ => if isDigit c then readMagnitude false cs else (.broken .malformed, [])

/-- What stands where the name of a member is expected, with the characters after it. -/
def readKey (cs : List Char) : Key × List Char :=
  match cs with
  | [] => (.broken .endOfText, [])
  | '[' :: _ => (.stray (.ok .sequence), [])
  | '\x7b' :: _ => (.stray (.ok .table), [])
  | '"' :: rest =>
    match readText (rest.length + 1) [] true rest with
    | (.text name, rest) => (.name name, rest)
    | (.unreadable ending, rest) => (.unreadable ending, rest)
    | (.broken cause, _) => (.broken cause, [])
    | (_, _) => (.broken .malformed, [])
  | _ =>
    match readScalar cs with
    | (.broken _, _) => (.broken .malformed, [])
    | (document, _) => (.stray document.found, [])

/-- Whether nothing can follow a name. -/
def Key.endsDocument : Key → Bool
  | .name _ => false
  | .unreadable ending => ending.break?.isSome
  | _ => true

mutual

/-- A value.  `fuel` bounds the nesting and the number of parts; twice the length of the
text is enough. -/
def readValue : Nat → List Char → Document × List Char
  | 0, _ => (.broken .endOfText, [])
  | fuel + 1, cs =>
    match skipSpaces cs with
    | '[' :: rest =>
      match skipSpaces rest with
      | [] => (.sequence [] (.broken .endOfText), [])
      | ']' :: rest => (.sequence [] .closed, rest)
      | rest => readItems fuel [] rest
    | '\x7b' :: rest =>
      match skipSpaces rest with
      | [] => (.table [] (.broken .endOfText), [])
      | '\x7d' :: rest => (.table [] .closed, rest)
      | rest => readMembers fuel [] rest
    | rest => readScalar rest

/-- The items of a list from the next one on; `seen` holds those before, the last one
first. -/
def readItems : Nat → List Document → List Char → Document × List Char
  | 0, seen, _ => (.sequence seen.reverse (.broken .endOfText), [])
  | fuel + 1, seen, cs =>
    let (item, rest) := readValue fuel cs
    let seen := item :: seen
    if item.skipBreak?.isSome then
      (.sequence seen.reverse .closed, [])
    else
      match skipSpaces rest with
      | [] => (.sequence seen.reverse (.broken .endOfText), [])
      | ']' :: rest => (.sequence seen.reverse .closed, rest)
      | ',' :: rest => readItems fuel seen rest
      | _ => (.sequence seen.reverse (.broken .malformed), [])

/-- The members of a record from the next one on; `seen` holds those before, the last
one first. -/
def readMembers : Nat → List (Key × Document) → List Char → Document × List Char
  | 0, seen, _ => (.table seen.reverse (.broken .endOfText), [])
  | fuel + 1, seen, cs =>
    let (key, rest) := readKey (skipSpaces cs)
    if key.endsDocument then
      (.table ((key, .broken .malformed) :: seen).reverse .closed, [])
    else
      match skipSpaces rest with
      | [] => (.table ((key, .broken .endOfText) :: seen).reverse .closed, [])
      | ':' :: rest =>
        let (value, rest) := readValue fuel rest
        let seen := (key, value) :: seen
        if value.skipBreak?.isSome then
          (.table seen.reverse .closed, [])
        else
          match skipSpaces rest with
          | [] => (.table seen.reverse (.broken .endOfText), [])
          | '\x7d' :: rest => (.table seen.reverse .closed, rest)
          | ',' :: rest => readMembers fuel seen rest
          | _ => (.table seen.reverse (.broken .malformed), [])
      | _ => (.table ((key, .broken .malformed) :: seen).reverse .closed, [])

end

/-- The document at the front of a text and the characters after it. -/
def Document.ofChars (cs : List Char) : Document × List Char :=
  readValue (2 * cs.length + 2) cs

end Json
end AgentCohort
