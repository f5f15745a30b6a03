import AgentCohort.Json.Decoder
import AgentCohort.Settings.Tree

/-!
# Settings from JSON

A settings file in JSON is a record.  Whole numbers that fit a signed word of 64 bits
stay whole; all others become doubles.
-/

namespace AgentCohort
namespace Settings
namespace JsonFile

open AgentCohort.Json (Document Key)

/-- A whole number as a setting. -/
def wholeNumber (value : Int) : Scalar :=
  if value ≤ Numeral.maxInt64 then .integer value
  else .real (Double.ofNat value.toNat)

mutual

/-- A document as a tree. -/
def tree : Document → Tree
  | .boolean value => .scalar none (.boolean value)
  | .integer value => .scalar none (wholeNumber value)
  | .real value => .scalar none (.real value)
  | .text value => .scalar none (.text value)
  | .sequence items _ => .list none (trees items)
  | .table members _ => .table none (entries [] members)
  | _ => .scalar none .nothing

/-- Items as trees. -/
def trees : List Document → List Tree
  | [] => []
  | item :: rest => tree item :: trees rest

/-- Members as entries, put into those before; the last of several with one name is
kept. -/
def entries (done : List (String × Tree)) : List (Key × Document) → List (String × Tree)
  | [] => done
  | (.name name, value) :: rest => entries (Tree.putEntry name (tree value) done) rest
  | _ :: rest => entries done rest

end

/-- The keys and values of a settings file, if it is well formed. -/
def read? (text : String) : Option (List (String × Tree)) :=
  let (document, rest) := Document.ofChars text.toList
  if (document.keepBreak? Document.depthLimit).isSome ∨
      ¬ (AgentCohort.Json.skipSpaces rest).isEmpty then
    none
  else
    match document with
    | .table members _ => some (entries [] members)
    | _ => none

end JsonFile
end Settings
end AgentCohort
