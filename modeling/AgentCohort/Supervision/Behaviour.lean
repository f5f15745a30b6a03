import AgentCohort.Failure

/-!
# Behaviours

What an agent does on its own part: whether it can be made and started, when it ends,
what a request to stop does to it, and when it calls for a force-stop itself.
-/

namespace AgentCohort
namespace Supervision

/-- Moments in the launch of an agent. -/
inductive LaunchMoment where
  /-- While it is made. -/
  | creation
  /-- While it is started. -/
  | start
  deriving DecidableEq, Repr

/-- How an agent behaves. -/
structure Behaviour where
  /-- Why it cannot be made. -/
  createFailure? : Option Failure
  /-- Why it cannot be started. -/
  startFailure? : Option Failure
  /-- Milliseconds from its start until it ends by itself. -/
  endsAfter? : Option Nat
  /-- Milliseconds from a request to stop until it ends. -/
  stopDelay : Nat
  /-- Whether it takes no notice of requests to stop. -/
  ignoresStop : Bool
  /-- The moments at which it calls for a force-stop, one call for each mention. -/
  forceStops : List LaunchMoment
  deriving DecidableEq, Repr

namespace Behaviour

/-- An agent that runs until it is asked to stop and ends then. -/
def standard : Behaviour :=
  ⟨none, none, none, 0, false, []⟩

/-- The behaviour at a place of a list; the last one goes on for ever. -/
def pick : List Behaviour → Nat → Behaviour
  | [], _ => standard
  | [last], _ => last
  | first :: _ :: _, 0 => first
  | _ :: second :: rest, place + 1 => pick (second :: rest) place

end Behaviour
end Supervision
end AgentCohort
