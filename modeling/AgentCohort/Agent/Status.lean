import AgentCohort.Json
import AgentCohort.Json.Decoder

/-!
# The status of an agent

The stages that an agent passes through, in order, and their names.
-/

namespace AgentCohort
namespace Agent

/-- The stages of an agent. -/
inductive Status where
  /-- Made, but not started. -/
  | created
  /-- Started, and waiting for the orchestrator. -/
  | registering
  /-- Started, and known to the orchestrator. -/
  | running
  /-- Asked to stop, and closing. -/
  | stopping
  /-- Ended. -/
  | stopped
  deriving DecidableEq, Repr

namespace Status

/-- The stages in the order in which they are passed. -/
def all : List Status :=
  [.created, .registering, .running, .stopping, .stopped]

/-- The place of a stage in that order. -/
def rank : Status → Nat
  | .created => 0
  | .registering => 1
  | .running => 2
  | .stopping => 3
  | .stopped => 4

/-- The name of a stage. -/
def name : Status → String
  | .created => "created"
  | .registering => "registering"
  | .running => "running"
  | .stopping => "stopping"
  | .stopped => "stopped"

/-- Whether an agent in this stage has been started and has not ended. -/
def isActive : Status → Bool
  | .registering | .running | .stopping => true
  | .created | .stopped => false

/-- The status as JSON. -/
def toJson (status : Status) : Json :=
  .text status.name

/-- Reads a status. -/
def decoder : Json.Decoder Status :=
  .enumeration (all.map fun status => (status.name, status))

end Status
end Agent
end AgentCohort
