import AgentCohort.Agent.Life

/-!
# Requests to stop that overlap

A request to stop takes several steps: it says that the agent is to stop, it looks whether
the agent is active, and it marks an active agent as stopping.  The agent may go on between
any two of them.  An agent that ends is marked as stopped before those who wait for it are
told.  Here each access to what an agent and its callers share is a step of its own, and the
steps may alternate in any way.
-/

namespace AgentCohort
namespace Agent

/-- How far a request to stop has come. -/
inductive Caller where
  /-- It has not done anything. -/
  | begun
  /-- It is the first one to have said that the agent is to stop. -/
  | sent
  /-- It has found the agent active. -/
  | found
  /-- It is over. -/
  | returned
  deriving DecidableEq, Repr

/-- One step of a request to stop, or nothing if it is over. -/
def Caller.step? (now : Nat) (caller : Caller) (life : Life) : Option (Caller × Life) :=
  match caller with
  | .begun =>
    if life.isStopRequested then some (.returned, life)
    else some (.sent, { life with isStopRequested := true }.log now .stopRequested)
  | .sent => some (if life.status.isActive then .found else .returned, life)
  | .found => some (.returned, life.setStatus now .stopping)
  | .returned => none

namespace Life

/-- Whether the agent has ended or could not be started. -/
def isOver (life : Life) : Bool :=
  match life.stage with
  | .ended => true
  | .idle => life.isStartCalled
  | .spawned | .attempting | .pausing _ | .serving | .draining .. => false

/-- The agent breaks off whatever it is doing. -/
def breakOff (now : Nat) (life : Life) : Life :=
  { life.setStatus now .stopped with stage := .ended }

end Life

/-- An agent with the requests to stop that have been made of it. -/
structure Overlap where
  /-- The agent. -/
  life : Life
  /-- The requests in the order of their beginning. -/
  callers : List Caller
  deriving DecidableEq, Repr

namespace Overlap

/-- What happens next. -/
inductive Act where
  /-- Somebody asks the agent to stop. -/
  | call
  /-- A message is accepted; one that tells the agent to stop is a request, too. -/
  | deliver (message : Message)
  /-- A request takes a step. -/
  | stepCaller (index : Nat)
  /-- Somebody starts the agent. -/
  | start (bindFailure? : Option Failure)
  /-- The agent makes a move. -/
  | move (move : Move)
  /-- The agent breaks off. -/
  | breakOff
  /-- Those who wait for an agent that is over are told. -/
  | announce
  deriving DecidableEq, Repr

/-- An agent that has just been made, of which nobody has asked anything. -/
def initial : Overlap :=
  ⟨.initial, []⟩

/-- The same with another life, of whose end nobody has been told yet. -/
def become (overlap : Overlap) (next : Life) : Overlap :=
  { overlap with life := { next with isDone := overlap.life.isDone } }

/-- What an act leads to, or nothing if it is not possible. -/
def after? (now : Nat) (profile : Profile) (overlap : Overlap) : Act → Option Overlap
  | .call => some { overlap with callers := overlap.callers ++ [.begun] }
  | .deliver message =>
    let counted := { overlap.life with messagesReceived := overlap.life.messagesReceived + 1 }
    match message with
    | .stop => some ⟨counted.log now .toldToStop, overlap.callers ++ [.begun]⟩
    | .ping | .other => some { overlap with life := counted }
  | .stepCaller index => do
    let caller ← overlap.callers[index]?
    let (next, life) ← caller.step? now overlap.life
    return ⟨life, overlap.callers.set index next⟩
  | .start bindFailure? =>
    some (overlap.become (overlap.life.start now profile.blueprint bindFailure?).1)
  | .move move => (overlap.life.step? now profile move).map overlap.become
  | .breakOff =>
    if overlap.life.stage = .idle ∨ overlap.life.stage = .ended then none
    else some (overlap.become (overlap.life.breakOff now))
  | .announce =>
    if overlap.life.isOver then some { overlap with life := { overlap.life with isDone := true } }
    else none

/-- What acts lead to, one after the other, each at its time. -/
def perform (profile : Profile) : List (Nat × Act) → Overlap → Option Overlap
  | [], overlap => some overlap
  | (now, act) :: acts, overlap => (overlap.after? now profile act).bind (perform profile acts)

end Overlap
end Agent
end AgentCohort
