import AgentCohort.Supervision.Behaviour
import AgentCohort.Supervision.Journal
import AgentCohort.Supervision.Platform

/-!
# Agents and their cohort

The state that runs, waits and force-stops share: the agents made so far, the current
cohort with the number of its generation, and the record of a force-stop.  The
operations on it are those on single agents, the force-stop and the publication of a
cohort; each writes down in the journal what it does.
-/

namespace AgentCohort
namespace Supervision

/-- An agent that has been made. -/
structure Member where
  /-- Its name. -/
  name : String
  /-- How it behaves. -/
  behaviour : Behaviour
  /-- Number of attempts to start it. -/
  starts : Nat
  /-- Number of requests to stop it. -/
  stops : Nat
  /-- Whether a start succeeded. -/
  isLaunched : Bool
  /-- Whether it has ended. -/
  isEnded : Bool
  /-- Times at which it ends unless it has ended before. -/
  endTimes : List Nat
  deriving DecidableEq, Repr

namespace Member

/-- An agent that has just been made. -/
def fresh (name : String) (behaviour : Behaviour) : Member :=
  ⟨name, behaviour, 0, 0, false, false, []⟩

/-- Whether waiting for the agent is over: it has ended or was never started. -/
def isJoinable (member : Member) : Bool :=
  member.isEnded || member.starts == 0

/-- Whether the agent has to end by a given time. -/
def isDue (member : Member) (now : Nat) : Bool :=
  !member.isEnded && member.endTimes.any (· ≤ now)

end Member

/-- What a supervisor runs with. -/
structure Scenario where
  /-- The settings of the supervisor. -/
  settings : SupervisorSettings
  /-- The behaviour of an agent by what it is made from and the number of attempts to make
  an agent of its name before it. -/
  behaviour : Agent.Blueprint → Nat → Behaviour
  /-- The host that it runs on. -/
  platform : Platform

/-- The agents and the current cohort. -/
structure State where
  /-- Milliseconds since the clock began. -/
  now : Nat
  /-- The agents in the order of their making. -/
  members : List Member
  /-- Whether a force-stop has been recorded. -/
  forceStopped : Bool
  /-- The agents of the current cohort. -/
  cohort : List AgentId
  /-- Number of cohorts that have been published.  The program counts them in a word of 64
  bits, which no run of it fills: each of them takes a launch, and even with one in every
  nanosecond that would take centuries.  So the number is not bounded here. -/
  generation : Nat
  /-- What has happened so far. -/
  journal : Journal
  deriving DecidableEq, Repr

namespace State

/-- No agents, and nothing has happened. -/
def initial : State :=
  ⟨0, [], false, [], 0, []⟩

/-! ## The journal -/

/-- Writes down an occurrence. -/
def note (occurrence : Occurrence) (state : State) : State :=
  { state with journal := ⟨state.now, occurrence⟩ :: state.journal }

/-- Logs a line. -/
def log (notice : Notice) (state : State) : State :=
  state.note (.notice notice)

/-- Tells the listeners of an event. -/
def announce (event : Event) (state : State) : State :=
  state.note (.event event)

/-! ## Single agents -/

/-- The agent of a number. -/
def member? (state : State) (agent : AgentId) : Option Member :=
  state.members[agent]?

/-- The name of an agent. -/
def nameOf (state : State) (agent : AgentId) : String :=
  ((state.member? agent).map Member.name).getD ""

/-- Whether waiting for an agent is over. -/
def isJoinable (state : State) (agent : AgentId) : Bool :=
  (state.member? agent).all Member.isJoinable

/-- Whether an agent has been started and has not ended. -/
def isAlive (state : State) (agent : AgentId) : Bool :=
  (state.member? agent).any fun member => member.isLaunched && !member.isEnded

/-- Changes an agent. -/
def update (agent : AgentId) (change : Member → Member) (state : State) : State :=
  { state with members := state.members.modify agent change }

/-- Lets an agent end; it ends only once. -/
def endAgent (agent : AgentId) (state : State) : State :=
  match state.member? agent with
  | none => state
  | some member =>
    if member.isEnded then state
    else (state.update agent fun member => { member with isEnded := true }).note (.finish agent)

/-- Lets an agent end after some milliseconds, at once if there are none. -/
def endAgentAfter (agent : AgentId) (delay : Nat) (state : State) : State :=
  if delay = 0 then
    state.endAgent agent
  else
    state.update agent fun member =>
      { member with endTimes := (state.now + delay) :: member.endTimes }

/-- Asks an agent to stop. -/
def stopAgent (agent : AgentId) (state : State) : State :=
  match state.member? agent with
  | none => state
  | some member =>
    let asked := (state.update agent fun member => { member with stops := member.stops + 1 }).note
      (.stop agent)
    if member.behaviour.ignoresStop then asked
    else asked.endAgentAfter agent member.behaviour.stopDelay

/-- Asks agents to stop, one after the other. -/
def stopAgents (agents : List AgentId) (state : State) : State :=
  agents.foldl (fun state agent => state.stopAgent agent) state

/-! ## Force-stop and publication -/

/-- Records a force-stop and asks every agent of the current cohort to stop. -/
def forceStop (state : State) : State :=
  let cohort := state.cohort
  let recorded := { state with forceStopped := true }.log (.forceStop cohort)
  let repeated := if state.forceStopped then recorded.log .forceStopRepeated else recorded
  (repeated.stopAgents cohort).announce (.forceStopped cohort.length)

/-- A force-stop that an agent calls for. -/
def calledForceStop (state : State) : State :=
  state.forceStop.note (.calledForceStop state.cohort.length)

/-- Makes a cohort the current one and counts its generation.  The record of a
force-stop is read after that: a force-stop that came during the launch saw the cohort
before, so the new agents are asked to stop here. -/
def publish (cohort : List AgentId) (state : State) : State :=
  let published := { state with cohort := cohort, generation := state.generation + 1 }
  if published.forceStopped then
    (published.log (.overtaken published.generation cohort)).stopAgents cohort
  else
    published

end State
end Supervision
end AgentCohort
