import AgentCohort.Numeral
import AgentCohort.Settings.Fault
import AgentCohort.Settings.Tree
import AgentCohort.Text.Quoted

/-!
# Reading settings

Settings are converted to the type that is wanted where that makes sense: texts and
booleans to numbers, numbers and texts to booleans, and everything single to a text.
Numbers with decimals are rounded, a half away from zero, and moved into the range of
the wanted type.
-/

namespace AgentCohort
namespace Settings

namespace Fault

/-- The fault as one met inside the setting at a key or at a position. -/
def inside (segment : String) : Fault → Fault
  | .type unexpected expected key? origin? =>
    let key := key?.getD ""
    let joint := if key = "" ∨ key.toList.head? = some '[' then "" else "."
    .type unexpected expected (some (segment ++ joint ++ key)) origin?
  | other => other

end Fault

/-- Makes a value of a setting. -/
abbrev Reader (α : Type) : Type :=
  Tree → Except Fault α

namespace Reader

/-- The words for yes, in lower case. -/
def yesWords : List String := ["true", "on", "yes"]

/-- The words for no, in lower case. -/
def noWords : List String := ["false", "off", "no"]

/-- The words for a single value of the wrong type. -/
def unexpectedScalar : Scalar → String
  | .nothing => "unit value"
  | .boolean value => "boolean \x60" ++ (if value then "true" else "false") ++ "\x60"
  | .integer value => "64-bit integer \x60" ++ toString value ++ "\x60"
  | .real value => "floating point \x60" ++ value.plainText ++ "\x60"
  | .text value => "string " ++ Text.quoted value

/-- The fault of a setting that has another type than expected. -/
def mismatch (expected : String) : Tree → Fault
  | .scalar origin? value => .type (unexpectedScalar value) expected none origin?
  | .list origin? _ => .type "sequence" expected none origin?
  | .table origin? _ => .type "map" expected none origin?

/-- A natural number of 64 bits. -/
def natural : Reader Nat := fun tree =>
  match tree with
  | .scalar origin? (.integer value) =>
    if 0 ≤ value then .ok value.toNat
    else
      .error (.type (unexpectedScalar (.integer value))
        "an unsigned 64 bit or less integer" none origin?)
  | .scalar _ (.boolean value) => .ok (if value then 1 else 0)
  | .scalar _ (.real value) => .ok (value.toNatSaturating Numeral.maxUInt64)
  | .scalar _ (.text value) =>
    let word := Text.lowercase value
    if word ∈ yesWords then .ok 1
    else if word ∈ noWords then .ok 0
    else
      match Numeral.readNat Numeral.maxUInt64 value.toList with
      | .ok number => .ok number
      | .error _ => .error (mismatch "an integer" tree)
  | other => .error (mismatch "an integer" other)

/-- A word of 64 bits. -/
def word64 : Reader UInt64 := fun tree =>
  (natural tree).map UInt64.ofNat

/-- A word of 32 bits. -/
def word32 : Reader UInt32 := fun tree => do
  let number ← natural tree
  if number < Nat.pow 2 32 then
    return UInt32.ofNat number
  else
    throw (.type ("64-bit unsigned integer \x60" ++ toString number ++ "\x60")
      "an unsigned 32 bit integer" none none)

/-- Whether a number is other than zero; what is no number is. -/
def isNonzero (number : Double) : Bool :=
  !number.isZero

/-- True or false. -/
def boolean : Reader Bool := fun tree =>
  match tree with
  | .scalar _ (.boolean value) => .ok value
  | .scalar _ (.integer value) => .ok (value ≠ 0)
  | .scalar _ (.real value) => .ok (isNonzero value)
  | .scalar origin? (.text value) =>
    let word := Text.lowercase value
    if word = "1" ∨ word ∈ yesWords then .ok true
    else if word = "0" ∨ word ∈ noWords then .ok false
    else .error (mismatch "a boolean" (.scalar origin? (.text word)))
  | other => .error (mismatch "a boolean" other)

/-- A text. -/
def text : Reader String := fun tree =>
  match tree with
  | .scalar _ (.text value) => .ok value
  | .scalar _ (.boolean value) => .ok (if value then "true" else "false")
  | .scalar _ (.integer value) => .ok (toString value)
  | .scalar _ (.real value) => .ok value.plainText
  | other => .error (mismatch "a string" other)

/-- A setting that may have no value. -/
def optional (reader : Reader α) : Reader (Option α) := fun tree =>
  match tree with
  | .scalar _ .nothing => .ok none
  | other => (reader other).map some

/-- One of some names, in any case of its letters. -/
def named (type : String) (names : List (String × α)) (name : String) : Except Fault α :=
  let word := Text.lowercase name
  match names.find? fun entry => Text.lowercase entry.1 = word with
  | some entry => .ok entry.2
  | none =>
    .error (.unsuitable ("enum " ++ type ++ " does not have variant constructor " ++ name))

/-- One of some names, as a text or as the only key of a table. -/
def choice (type : String) (names : List (String × α)) : Reader α := fun tree =>
  match tree with
  | .scalar _ (.text name) => named type names name
  | .table _ [(name, _)] => named type names name
  | _ =>
    .error (.unsuitable ("value of enum " ++ type ++
      " should be represented by either string or table with exactly one key"))

/-! ## Sections -/

/-- The settings of a section by name and by position. -/
inductive Section where
  /-- A section that is a table. -/
  | byKey (entries : List (String × Tree))
  /-- A section that is a list of its settings in order. -/
  | byPosition (items : List Tree)

/-- The words for a single value that stands for a section. -/
def describeScalar : Scalar → String
  | .integer value => "integer \x60" ++ toString value ++ "\x60"
  | .real value => "floating point \x60" ++ value.pointedText ++ "\x60"
  | other => unexpectedScalar other

/-- A tree as a section of some type. -/
def toSection (type : String) : Reader Section := fun tree =>
  match tree with
  | .table _ entries => .ok (.byKey entries)
  | .list _ items => .ok (.byPosition items)
  | .scalar _ value =>
    .error (.unsuitable ("invalid type: " ++ describeScalar value ++
      ", expected struct " ++ type))

/-- The setting at a key of a section, or at the position that belongs to the key; a
default if there is none. -/
def setting (found : Section) (key : String) (position : Nat) (default : α)
    (reader : Reader α) : Except Fault α :=
  let read (segment : String) (tree : Tree) : Except Fault α :=
    (reader tree).mapError (·.inside segment)
  match found with
  | .byKey entries =>
    match entries.lookup key with
    | some tree => read key tree
    | none => .ok default
  | .byPosition items =>
    match items[position]? with
    | some tree => read ("[" ++ toString position ++ "]") tree
    | none => .ok default

end Reader
end Settings
end AgentCohort
