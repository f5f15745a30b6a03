import AgentCohort.Double.Text
import AgentCohort.Text.Quoted

/-!
# Faults of JSON texts

A text is either no JSON, because it ends too early or is malformed, or it is JSON of
another shape than expected.  The faults of the second kind have sentences.
-/

namespace AgentCohort
namespace Json

/-- How a text breaks off. -/
inductive Break where
  /-- The text ends too early. -/
  | endOfText
  /-- A character cannot stand where it does. -/
  | malformed
  deriving DecidableEq, Repr

/-- What was found where something else was expected. -/
inductive Found where
  /-- The word for no value. -/
  | null
  /-- True or false. -/
  | boolean (value : Bool)
  /-- A whole number. -/
  | integer (value : Int)
  /-- A number that is not whole or lies outside the words of 64 bits. -/
  | real (value : Double)
  /-- A text. -/
  | text (value : String)
  /-- A list. -/
  | sequence
  /-- A record. -/
  | table
  deriving DecidableEq, Repr

/-- The words for what was found. -/
def Found.description : Found → String
  | .null => "null"
  | .boolean value => "boolean \x60" ++ (if value then "true" else "false") ++ "\x60"
  | .integer value => "integer \x60" ++ toString value ++ "\x60"
  | .real value => "floating point \x60" ++ value.messageText ++ "\x60"
  | .text value => "string " ++ Text.quoted value
  | .sequence => "sequence"
  | .table => "map"

/-- How a value differs from what was expected. -/
inductive Mismatch where
  /-- A value of another type. -/
  | type (found : Found) (expected : String)
  /-- A value of the right type that is not allowed. -/
  | value (found : Found) (expected : String)
  /-- A list of the wrong length. -/
  | length (count : Nat) (expected : String)
  /-- A name that is none of the known ones. -/
  | unknownVariant (name : String) (known : List String)
  /-- A member that must be there is not. -/
  | missingField (name : String)
  /-- A member occurs twice. -/
  | duplicateField (name : String)
  /-- A complaint of the type itself about a text. -/
  | complaint (text : String)
  deriving DecidableEq, Repr

/-- A name between backquotes. -/
def backquoted (name : String) : String :=
  "\x60" ++ name ++ "\x60"

/-- The known names as a message lists them. -/
def alternatives (known : List String) : String :=
  match known.map backquoted with
  | [] => "there are no variants"
  | [only] => "expected " ++ only
  | [first, second] => "expected " ++ first ++ " or " ++ second
  | all => "expected one of " ++ ", ".intercalate all

/-- The sentence for a mismatch. -/
def Mismatch.message : Mismatch → String
  | .type found expected => "invalid type: " ++ found.description ++ ", expected " ++ expected
  | .value found expected =>
    "invalid value: " ++ found.description ++ ", expected " ++ expected
  | .length count expected =>
    "invalid length " ++ toString count ++ ", expected " ++ expected
  | .unknownVariant name known =>
    "unknown variant " ++ backquoted name ++ ", " ++ alternatives known
  | .missingField name => "missing field " ++ backquoted name
  | .duplicateField name => "duplicate field " ++ backquoted name
  | .complaint words => words

/-- Why a text cannot be read as a value of some type. -/
inductive Fault where
  /-- It is no JSON. -/
  | broken (cause : Break)
  /-- It is JSON of another shape. -/
  | data (mismatch : Mismatch)
  deriving DecidableEq, Repr

end Json
end AgentCohort
