/-!
# Faults of settings

Why settings cannot be read: a value of the wrong type, some other complaint about a
value, or a file that is not well formed.  A fault of type names the key at which it
was met and the layer that the value comes from, as far as they are known.
-/

namespace AgentCohort
namespace Settings

/-- Why settings cannot be read. -/
inductive Fault where
  /-- A value has another type than the setting. -/
  | type
      (unexpected expected : String)
      (key? origin? : Option String)
  /-- A value of a suitable type is not one of those allowed. -/
  | unsuitable (text : String)
  /-- A file is not well formed. -/
  | malformedFile (path : String)
  deriving DecidableEq, Repr

/-- The words for a fault. -/
def Fault.message : Fault → String
  | .type unexpected expected key? origin? =>
    let front := "invalid type: " ++ unexpected ++ ", expected " ++ expected
    let key := match key? with
      | some key => " for key \x60" ++ key ++ "\x60"
      | none => ""
    let origin := match origin? with
      | some origin => " in " ++ origin
      | none => ""
    front ++ key ++ origin
  | .unsuitable text => text
  | .malformedFile path => "malformed file in " ++ path

end Settings
end AgentCohort
