/-!
# Log levels

How important a line of the log is.  A line passes a limit if it is at least as
important as the limit asks for.
-/

namespace AgentCohort
namespace Log

/-- The importance of a line. -/
inductive Level where
  /-- Something failed. -/
  | error
  /-- Something is not as it should be. -/
  | warn
  /-- Something that people want to know. -/
  | info
  /-- Something for the search of mistakes. -/
  | debug
  /-- Every detail. -/
  | trace
  deriving DecidableEq, Repr

namespace Level

/-- The levels from the most important one on. -/
def all : List Level :=
  [.error, .warn, .info, .debug, .trace]

/-- The place of a level in that order, counted from one. -/
def rank : Level → Nat
  | .error => 1
  | .warn => 2
  | .info => 3
  | .debug => 4
  | .trace => 5

/-- The name of a level in small letters. -/
def name : Level → String
  | .error => "error"
  | .warn => "warn"
  | .info => "info"
  | .debug => "debug"
  | .trace => "trace"

/-- The name of a level as a line shows it. -/
def label : Level → String
  | .error => "ERROR"
  | .warn => "WARN"
  | .info => "INFO"
  | .debug => "DEBUG"
  | .trace => "TRACE"

end Level

/-- A line of the log. -/
structure Line where
  /-- How important it is. -/
  level : Level
  /-- The part of the program that wrote it. -/
  target : String
  /-- What it says. -/
  message : String
  deriving DecidableEq, Repr

end Log
end AgentCohort
