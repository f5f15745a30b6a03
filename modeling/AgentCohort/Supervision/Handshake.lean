import AgentCohort.Supervision.State

/-!
# Force-stops and publications at the same time

A force-stop and the publication of a cohort take several steps each, and both work on the
same state: any number of calls for a force-stop may be under way while a cohort is
published.  A call records the force-stop before it reads the current cohort, and the
publisher writes the cohort before it reads the record.  Here each access to what they
share is a step of its own, and the steps may alternate in any way.
-/

namespace AgentCohort
namespace Supervision

namespace State

/-- Records a force-stop. -/
def markForceStopped (state : State) : State :=
  { state with forceStopped := true }

/-- Logs a force-stop, and whether it is a repeated one. -/
def logForceStop (cohort : List AgentId) (isRepeated : Bool) (state : State) : State :=
  let noted := state.log (.forceStop cohort)
  if isRepeated then noted.log .forceStopRepeated else noted

/-- Makes a cohort the current one. -/
def writeCohort (cohort : List AgentId) (state : State) : State :=
  { state with cohort := cohort }

/-- Counts a generation. -/
def countGeneration (state : State) : State :=
  { state with generation := state.generation + 1 }

end State

/-- What calls and publications share. -/
structure Shared where
  /-- The agents and the current cohort. -/
  state : State
  /-- Whether those who wait for a force-stop have been woken. -/
  isSignalled : Bool
  deriving DecidableEq, Repr

/-- How far a call for a force-stop has come. -/
inductive Call where
  /-- It has not done anything. -/
  | begun
  /-- It has recorded the force-stop, perhaps not as the first one. -/
  | marked (isRepeated : Bool)
  /-- It has woken those who wait for a force-stop. -/
  | signalled (isRepeated : Bool)
  /-- It has read the cohort of some number of agents and asks them to stop; some are left. -/
  | stopping (count : Nat) (remaining : List AgentId)
  /-- It has returned the number of agents. -/
  | returned (count : Nat)
  deriving DecidableEq, Repr

/-- One step of a call, or nothing if it has returned. -/
def Call.step? (call : Call) (shared : Shared) : Option (Call × Shared) :=
  let ⟨state, isSignalled⟩ := shared
  match call with
  | .begun => some (.marked state.forceStopped, ⟨state.markForceStopped, isSignalled⟩)
  | .marked isRepeated => some (.signalled isRepeated, ⟨state, true⟩)
  | .signalled isRepeated =>
    some (.stopping state.cohort.length state.cohort,
      ⟨state.logForceStop state.cohort isRepeated, isSignalled⟩)
  | .stopping count (agent :: rest) =>
    some (.stopping count rest, ⟨state.stopAgent agent, isSignalled⟩)
  | .stopping count [] =>
    some (.returned count, ⟨state.announce (.forceStopped count), isSignalled⟩)
  | .returned _ => none

/-- How far the publisher has come. -/
inductive Publisher where
  /-- It publishes nothing. -/
  | idle
  /-- It has written a cohort. -/
  | written (cohort : List AgentId)
  /-- It has counted the generation of the cohort. -/
  | counted (cohort : List AgentId) (generation : Nat)
  /-- It has found a force-stop recorded and asks the cohort to stop; some agents are left. -/
  | stopping (remaining : List AgentId)
  deriving DecidableEq, Repr

/-- One step of the publisher, or nothing if it is idle. -/
def Publisher.step? (publisher : Publisher) (state : State) : Option (Publisher × State) :=
  match publisher with
  | .idle => none
  | .written cohort => some (.counted cohort (state.generation + 1), state.countGeneration)
  | .counted cohort generation =>
    if state.forceStopped then
      some (.stopping cohort, state.log (.overtaken generation cohort))
    else
      some (.idle, state)
  | .stopping (agent :: rest) => some (.stopping rest, state.stopAgent agent)
  | .stopping [] => some (.idle, state)

/-- The calls and the publisher with what they share. -/
structure Handshake where
  /-- What they share. -/
  shared : Shared
  /-- The calls in the order of their beginning. -/
  calls : List Call
  /-- The publisher. -/
  publisher : Publisher
  deriving DecidableEq, Repr

/-- What happens next. -/
inductive Act where
  /-- An agent is made. -/
  | make (name : String) (behaviour : Behaviour)
  /-- An agent ends. -/
  | finish (agent : AgentId)
  /-- Somebody else asks an agent to stop. -/
  | ask (agent : AgentId)
  /-- A call begins. -/
  | call
  /-- A call takes a step. -/
  | stepCall (index : Nat)
  /-- The publisher begins to publish a cohort: it writes the cohort. -/
  | publish (cohort : List AgentId)
  /-- The publisher takes a step. -/
  | stepPublisher
  deriving DecidableEq, Repr

/-- The cohort that begins to be published. -/
def Act.published? : Act → Option (List AgentId)
  | .publish cohort => some cohort
  | .make .. | .finish _ | .ask _ | .call | .stepCall _ | .stepPublisher => none

namespace Handshake

/-- No agents, no calls, and nothing has happened. -/
def initial : Handshake :=
  ⟨⟨.initial, false⟩, [], .idle⟩

/-- The current state. -/
def state (handshake : Handshake) : State :=
  handshake.shared.state

/-- The same with another state. -/
def withState (handshake : Handshake) (state : State) : Handshake :=
  { handshake with shared := { handshake.shared with state := state } }

/-- The same with another state and the publisher at another point. -/
def withPublisher (handshake : Handshake) (publisher : Publisher) (state : State) : Handshake :=
  { handshake with
    shared := { handshake.shared with state := state }
    publisher := publisher }

/-- What an act leads to, or nothing if it is not possible.  Cohorts are published one
after the other, and their agents have been made before. -/
def after? (handshake : Handshake) : Act → Option Handshake
  | .make name behaviour =>
    some (handshake.withState
      { handshake.state with members := handshake.state.members ++ [.fresh name behaviour] })
  | .finish agent => some (handshake.withState (handshake.state.endAgent agent))
  | .ask agent => some (handshake.withState (handshake.state.stopAgent agent))
  | .call => some { handshake with calls := handshake.calls ++ [.begun] }
  | .stepCall index => do
    let call ← handshake.calls[index]?
    let (next, shared) ← call.step? handshake.shared
    return { handshake with shared := shared, calls := handshake.calls.set index next }
  | .publish cohort =>
    if handshake.publisher = .idle ∧
        ∀ agent ∈ cohort, agent < handshake.state.members.length then
      some (handshake.withPublisher (.written cohort) (handshake.state.writeCohort cohort))
    else
      none
  | .stepPublisher => do
    let (next, state) ← handshake.publisher.step? handshake.state
    return handshake.withPublisher next state

/-- What acts lead to, one after the other. -/
def perform : List Act → Handshake → Option Handshake
  | [], handshake => some handshake
  | act :: acts, handshake => (handshake.after? act).bind (perform acts)

end Handshake
end Supervision
end AgentCohort
