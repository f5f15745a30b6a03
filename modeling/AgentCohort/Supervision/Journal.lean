import AgentCohort.Agent.Blueprint
import AgentCohort.Supervision.Event
import AgentCohort.Supervision.Notice

/-!
# The journal

Everything that happens to the agents of a supervisor and everything that it says, each
with its time.  The journal only grows, so it is the history of a supervisor: what was
asked of which agent, in which order, and what came of it.
-/

namespace AgentCohort
namespace Supervision

open Agent (Blueprint)

/-- Somebody who waits for agents to end. -/
inductive JoinerId where
  /-- A run, by the order of the runs. -/
  | run (index : Nat)
  /-- A wait, by the order of the waits. -/
  | wait (index : Nat)
  deriving DecidableEq, Repr

/-- Something that happens. -/
inductive Occurrence where
  /-- An agent is to be made. -/
  | create (blueprint : Blueprint)
  /-- An agent is to be started. -/
  | start (agent : AgentId)
  /-- An agent is asked to stop. -/
  | stop (agent : AgentId)
  /-- An agent ends. -/
  | finish (agent : AgentId)
  /-- An agent has called for a force-stop that reached some number of agents. -/
  | calledForceStop (signalled : Nat)
  /-- A joiner begins to wait for an agent. -/
  | join (joiner : JoinerId) (agent : AgentId)
  /-- A joiner has waited for an agent to its end. -/
  | joined (joiner : JoinerId) (agent : AgentId)
  /-- A line is logged. -/
  | notice (notice : Notice)
  /-- The listeners are told of an event. -/
  | event (event : Event)
  deriving DecidableEq, Repr

/-- An occurrence with its time. -/
structure Entry where
  /-- Milliseconds since the clock began. -/
  time : Nat
  /-- What happened. -/
  occurrence : Occurrence
  deriving DecidableEq, Repr

/-- The entries so far, the newest one first. -/
abbrev Journal := List Entry

namespace Journal

/-- Number of attempts to make an agent of a given name. -/
def creations (journal : Journal) (name : String) : Nat :=
  journal.countP fun entry =>
    match entry.occurrence with
    | .create blueprint => blueprint.name = name
    | _ => false

/-- The entries that a journal has on top of an older one, the oldest one first. -/
def since (journal older : Journal) : List Entry :=
  (journal.take (journal.length - older.length)).reverse

end Journal
end Supervision
end AgentCohort
