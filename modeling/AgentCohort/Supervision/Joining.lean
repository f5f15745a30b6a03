import AgentCohort.Supervision.State

/-!
# Joining a cohort

A joiner waits for the agents of a cohort one after the other, in cohort order.  With a
join timeout it waits for an agent only so long, then asks it to stop and waits for it
without a limit: whoever has joined a cohort knows that all its agents have ended.
-/

namespace AgentCohort
namespace Supervision

/-- How a joiner waits for the agent that it is at. -/
inductive JoinPhase where
  /-- It has not begun. -/
  | fresh
  /-- It waits until a given time at most. -/
  | limited (deadline : Nat)
  /-- It waits as long as it takes. -/
  | unlimited
  deriving DecidableEq, Repr

/-- How far a joiner has come. -/
structure Joining where
  /-- The generation of the cohort. -/
  generation : Nat
  /-- The agents that have not been joined, the current one first. -/
  remaining : List AgentId
  /-- How it waits for the current one. -/
  phase : JoinPhase
  deriving DecidableEq, Repr

namespace Joining

/-- The beginning. -/
def start (generation : Nat) (cohort : List AgentId) : Joining :=
  ⟨generation, cohort, .fresh⟩

/-- The phase in which a joiner begins to wait for an agent. -/
def firstPhase (scenario : Scenario) (state : State) : JoinPhase :=
  let timeoutEnd? := scenario.platform.timers.timeoutEnd? state.now
  match scenario.settings.joinTimeout?.bind timeoutEnd? with
  | none => .unlimited
  | some deadline => .limited deadline

/-- What happens when an agent has not ended in time. -/
def timeOut
    (timeout : Duration)
    (joiner : JoinerId)
    (generation : Nat)
    (agent : AgentId)
    (state : State) : State :=
  let name := state.nameOf agent
  let noted := state.log (.joinTimedOut agent name timeout)
  let announced := noted.announce (.joinTimedOut generation name)
  (announced.stopAgent agent).note (.join joiner agent)

/-- One step of a joiner, or nothing if it has joined all agents or has to wait. -/
def step?
    (scenario : Scenario)
    (joiner : JoinerId)
    (joining : Joining)
    (state : State) : Option (Joining × State) :=
  match joining.remaining with
  | [] => none
  | agent :: rest =>
    match joining.phase with
    | .fresh =>
      some ({ joining with phase := firstPhase scenario state }, state.note (.join joiner agent))
    | .limited deadline =>
      if state.isJoinable agent then
        some (⟨joining.generation, rest, .fresh⟩, state.note (.joined joiner agent))
      else if deadline ≤ state.now then
        some ({ joining with phase := .unlimited },
          timeOut (scenario.settings.joinTimeout?.getD ⟨0⟩) joiner joining.generation agent state)
      else
        none
    | .unlimited =>
      if state.isJoinable agent then
        some (⟨joining.generation, rest, .fresh⟩, state.note (.joined joiner agent))
      else
        none

/-- The time at which a joiner stops to wait for the current agent. -/
def deadline? (joining : Joining) : Option Nat :=
  match joining.phase with
  | .limited deadline => some deadline
  | .fresh | .unlimited => none

end Joining
end Supervision
end AgentCohort
