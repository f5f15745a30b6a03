import AgentCohort.Duration

/-!
# Events

What a supervisor tells its listeners.  A listener keeps a bounded number of events that
it has not taken yet; if more arrive, the oldest ones are lost and only their number
is known.
-/

namespace AgentCohort
namespace Supervision

/-- Something that happened to a cohort. -/
inductive Event where
  /-- All agents of a generation have been started. -/
  | cohortStarted (generation : Nat) (agents : List String)
  /-- All agents of a generation have ended. -/
  | cohortStopped (generation : Nat)
  /-- The next launch follows after a pause. -/
  | restartScheduled (generation : Nat) (cooldown : Duration)
  /-- An agent was waited for too long and asked to stop. -/
  | joinTimedOut (generation : Nat) (agent : String)
  /-- The agents of the current cohort were forced to stop. -/
  | forceStopped (signalled : Nat)
  /-- A run with restarts is over. -/
  | finished (generations : Nat)
  deriving DecidableEq, Repr

namespace Event

/-- Number of events that a listener keeps. -/
def inboxSize : Nat := 64

/-- What a listener finds of the events that arrived since it looked last: the number
of lost ones and the others in order. -/
def received (arrived : List Event) : Nat × List Event :=
  let lost := arrived.length - inboxSize
  (lost, arrived.drop lost)

end Event
end Supervision
end AgentCohort
