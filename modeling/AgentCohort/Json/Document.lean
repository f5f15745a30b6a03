import AgentCohort.Json.Fault

/-!
# JSON documents

A JSON text as it is met from left to right.  A document may break off, and then it
still holds everything before the break, so that what is met first decides the answer.
A lexeme may also be complete without having a value, such as an escape of half a
character or a number beyond all bounds; it counts only if its value is wanted.
-/

namespace AgentCohort
namespace Json

/-- How a list, a record or a lexeme without value ends. -/
inductive Ending where
  /-- With its closing mark. -/
  | closed
  /-- Not at all. -/
  | broken (cause : Break)
  deriving DecidableEq, Repr

/-- What stands where the name of a member is expected. -/
inductive Key where
  /-- A name. -/
  | name (text : String)
  /-- A text in quotes that has no value; its end is found as given. -/
  | unreadable (ending : Ending)
  /-- A value of another type, or the break inside it. -/
  | stray (lexeme : Except Break Found)
  /-- No name. -/
  | broken (cause : Break)

/-- A JSON text. -/
inductive Document where
  /-- The word for no value. -/
  | null
  /-- True or false. -/
  | boolean (value : Bool)
  /-- A whole number that fits a word of 64 bits. -/
  | integer (value : Int)
  /-- Any other number. -/
  | real (value : Double)
  /-- A text. -/
  | text (value : String)
  /-- A text or number without a value; its end is found as given. -/
  | unreadable (ending : Ending)
  /-- A list. -/
  | sequence (items : List Document) (ending : Ending)
  /-- A record. -/
  | table (members : List (Key × Document)) (ending : Ending)
  /-- A word or a number that breaks off. -/
  | brokenWord (cause : Break)
  /-- A text that breaks off, or no value at all. -/
  | broken (cause : Break)

/-- The break at an ending, if any. -/
def Ending.break? : Ending → Option Break
  | .closed => none
  | .broken cause => some cause

/-- The break that is met when the name of a member is passed over. -/
def Key.skipBreak? : Key → Option Break
  | .name _ => none
  | .unreadable ending => ending.break?
  | .stray _ => some .malformed
  | .broken cause => some cause

/-- The break that is met when the name of a member is taken in. -/
def Key.keepBreak? : Key → Option Break
  | .name _ => none
  | .unreadable _ => some .malformed
  | .stray _ => some .malformed
  | .broken cause => some cause

namespace Document

mutual

/-- The first break that is met when a document is passed over. -/
def skipBreak? : Document → Option Break
  | .unreadable ending => ending.break?
  | .sequence items ending => (skipItemsBreak? items).or ending.break?
  | .table members ending => (skipMembersBreak? members).or ending.break?
  | .brokenWord cause => some cause
  | .broken cause => some cause
  | _ => none

/-- The first break in some items that are passed over. -/
def skipItemsBreak? : List Document → Option Break
  | [] => none
  | item :: rest => (skipBreak? item).or (skipItemsBreak? rest)

/-- The first break in some members that are passed over. -/
def skipMembersBreak? : List (Key × Document) → Option Break
  | [] => none
  | (key, value) :: rest =>
    (key.skipBreak?.or (skipBreak? value)).or (skipMembersBreak? rest)

end

mutual

/-- The first break that is met when a document is taken in as a whole, its lists and
records nested at most `depth` deep. -/
def keepBreak? (depth : Nat) : Document → Option Break
  | .unreadable _ => some .malformed
  | .sequence items ending =>
    if depth = 0 then some .malformed
    else (keepItemsBreak? (depth - 1) items).or ending.break?
  | .table members ending =>
    if depth = 0 then some .malformed
    else (keepMembersBreak? (depth - 1) members).or ending.break?
  | .brokenWord cause => some cause
  | .broken cause => some cause
  | _ => none

/-- The first break in some items that are taken in. -/
def keepItemsBreak? (depth : Nat) : List Document → Option Break
  | [] => none
  | item :: rest => (keepBreak? depth item).or (keepItemsBreak? depth rest)

/-- The first break in some members that are taken in. -/
def keepMembersBreak? (depth : Nat) : List (Key × Document) → Option Break
  | [] => none
  | (key, value) :: rest =>
    (key.keepBreak?.or (keepBreak? depth value)).or (keepMembersBreak? depth rest)

end

/-- How deep lists and records may be nested where a document is taken in as a whole. -/
def depthLimit : Nat := 127

/-- What a document shows of itself where something else is expected. -/
def found : Document → Except Break Found
  | .null => .ok .null
  | .boolean value => .ok (.boolean value)
  | .integer value => .ok (.integer value)
  | .real value => .ok (.real value)
  | .text value => .ok (.text value)
  | .sequence .. => .ok .sequence
  | .table .. => .ok .table
  | .unreadable _ => .error .malformed
  | .brokenWord cause => .error cause
  | .broken cause => .error cause

/-- The fault of a document where something else is expected. -/
def mismatch (document : Document) (expected : String) : Fault :=
  match document.found with
  | .ok found => .data (.type found expected)
  | .error cause => .broken cause

end Document
end Json
end AgentCohort
