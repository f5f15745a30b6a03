import AgentCohort.Double.Reader
import AgentCohort.Settings.Tree

/-!
# Settings from environment variables

A variable sets something if its name, in lower case, begins with the lead of the
program.  In the rest of the name two underscores stand for the point between a section
and a key.  A value that reads as a boolean or as a number is one.
-/

namespace AgentCohort
namespace Settings
namespace Environment

/-- What the names of the variables begin with, in lower case. -/
def lead : List Char :=
  "dcop_agent__".toList

/-- The name of the layer. -/
def origin : String := "the environment"

/-- A name with every two underscores replaced by a point. -/
def withPoints : List Char → List Char
  | '_' :: '_' :: rest => '.' :: withPoints rest
  | c :: rest => c :: withPoints rest
  | [] => []

/-- The characters after a lead, if they begin with it. -/
def afterLead? : List Char → List Char → Option (List Char)
  | [], cs => some cs
  | _ :: _, [] => none
  | c :: lead, d :: cs => if c = d then afterLead? lead cs else none

/-- The key that a variable sets. -/
def key? (name : String) : Option String :=
  (afterLead? lead (Text.lowercase name).toList).map fun rest =>
    String.ofList (withPoints rest)

/-- The value that a text stands for. -/
def scalarOf (value : String) : Scalar :=
  let word := Text.lowercase value
  if word = "true" then .boolean true
  else if word = "false" then .boolean false
  else
    match Numeral.readInt64 value.toList with
    | .ok number => .integer number
    | .error _ =>
      match Double.ofText? value.toList with
      | some number => .real number
      | none => .text value

/-- The layer of some variables.  The list stands for the order in which a hash map yields
them, which is arbitrary: where several variables set one key, any of them may be the last. -/
def layer (assignments : List (String × String)) : List (String × Tree) :=
  assignments.filterMap fun entry =>
    (key? entry.1).map fun key => (key, .scalar (some origin) (scalarOf entry.2))

end Environment
end Settings
end AgentCohort
