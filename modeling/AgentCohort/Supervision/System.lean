import AgentCohort.Supervision.Run

/-!
# A supervisor and its surroundings

Runs and waits side by side on one state, with a clock that moves only while everybody
waits.  A move is what happens next: an agent ends because its time has come, a run or a
wait takes a step, or the clock goes on to the next timer.  Requests come from outside,
and after each of them the system moves until it is at rest.
-/

namespace AgentCohort
namespace Supervision

/-- The shared state with everybody who works on it. -/
structure System where
  /-- The agents and the current cohort. -/
  state : State
  /-- The runs in the order of their beginning. -/
  runs : List Run
  /-- The waits in the order of their beginning. -/
  waits : List Wait
  /-- Number of listeners. -/
  listeners : Nat

/-- What happens next. -/
inductive Move where
  /-- An agent ends because its time has come. -/
  | agentEnds (agent : AgentId)
  /-- A run takes a step; it says what ends a pause that both its time and a force-stop
  would end. -/
  | run (index : Nat) (favoursForceStop : Bool)
  /-- A wait takes a step. -/
  | wait (index : Nat)
  /-- The clock goes on to a time. -/
  | clock (time : Nat)
  deriving DecidableEq, Repr

namespace System

/-- A supervisor that has done nothing, with one listener. -/
def initial : System :=
  ⟨.initial, [], [], 1⟩

/-! ## Moves -/

/-- The step of a run. -/
def stepRun? (scenario : Scenario) (favoursForceStop : Bool) (index : Nat) (system : System) :
    Option System := do
  let run ← system.runs[index]?
  let (next, state) ← run.step? scenario favoursForceStop (.run index) system.state
  return { system with state := state, runs := system.runs.set index next }

/-- The step of a wait. -/
def stepWait? (scenario : Scenario) (index : Nat) (system : System) : Option System := do
  let wait ← system.waits[index]?
  let (next, state) ← wait.step? scenario (.wait index) system.state
  return { system with state := state, waits := system.waits.set index next }

/-- The first agent that has to end now. -/
def dueAgent? (system : System) : Option AgentId :=
  system.state.members.findIdx? fun member => member.isDue system.state.now

/-- Whether a run or a wait can take a step. -/
def canStep (scenario : Scenario) (system : System) : Bool :=
  (List.range system.runs.length).any (fun index =>
    (system.stepRun? scenario false index).isSome) ||
  (List.range system.waits.length).any (fun index =>
    (system.stepWait? scenario index).isSome)

/-- Whether nothing more can happen at this time. -/
def isAtRest (scenario : Scenario) (system : System) : Bool :=
  system.dueAgent?.isNone && !system.canStep scenario

/-- The times of all timers. -/
def timers (system : System) : List Nat :=
  system.state.members.flatMap (fun member => if member.isEnded then [] else member.endTimes) ++
    system.runs.filterMap Run.timer? ++ system.waits.filterMap Wait.timer?

/-- The time of the next timer. -/
def nextTimer? (system : System) : Option Nat :=
  system.timers.min?

/-- What a move leads to, or nothing if it is not possible.  The clock goes on only when
everything is at rest, and not past a timer. -/
def after? (scenario : Scenario) (system : System) : Move → Option System
  | .agentEnds agent =>
    if (system.state.member? agent).any fun member => member.isDue system.state.now then
      some { system with state := system.state.endAgent agent }
    else
      none
  | .run index favoursForceStop => system.stepRun? scenario favoursForceStop index
  | .wait index => system.stepWait? scenario index
  | .clock time =>
    if system.isAtRest scenario ∧ system.state.now < time ∧
        system.nextTimer?.all (time ≤ ·) then
      some { system with state := { system.state with now := time } }
    else
      none

/-! ## The order of moves -/

/-- The first run that can take a step. -/
def readyRun? (scenario : Scenario) (system : System) : Option Nat :=
  (List.range system.runs.length).find? fun index =>
    (system.stepRun? scenario false index).isSome

/-- The first wait that can take a step. -/
def readyWait? (scenario : Scenario) (system : System) : Option Nat :=
  (List.range system.waits.length).find? fun index =>
    (system.stepWait? scenario index).isSome

/-- The move that is made next on the way to a time: agents end before anybody looks at
them, and the older ones of runs and waits go first. -/
def nextMove? (scenario : Scenario) (target : Nat) (system : System) : Option Move :=
  match system.dueAgent? with
  | some agent => some (.agentEnds agent)
  | none =>
    match system.readyRun? scenario with
    | some index => some (.run index false)
    | none =>
      match system.readyWait? scenario with
      | some index => some (.wait index)
      | none =>
        if system.state.now < target then
          some (.clock ((system.nextTimer?.getD target).min target))
        else
          none

/-- Makes moves on the way to a time as long as there are any, up to a number of them. -/
def advance (scenario : Scenario) (target : Nat) : Nat → System → System
  | 0, system => system
  | moves + 1, system =>
    match system.nextMove? scenario target with
    | none => system
    | some move =>
      match system.after? scenario move with
      | none => system
      | some next => advance scenario target moves next

/-- Number of moves after which a system is given up that never comes to rest: a run may
start over at one and the same time again and again. -/
def patience : Nat := Nat.pow 2 62

/-- Moves on until a time is reached and everything is at rest. -/
def settle (scenario : Scenario) (target : Nat) (system : System) : System :=
  system.advance scenario target patience

end System

/-! ## Requests -/

/-- What is asked of a supervisor or of its agents from outside. -/
inductive Request where
  /-- To begin a run. -/
  | run (names : List String) (orchestrator : String) (base : Network.EndpointBase)
      (restarts : Bool)
  /-- To let some milliseconds go by. -/
  | advance (milliseconds : Nat)
  /-- To let an agent end. -/
  | finish (agent : AgentId)
  /-- To ask an agent to stop. -/
  | stopAgent (agent : AgentId)
  /-- To force the agents of the current cohort to stop. -/
  | forceStop
  /-- To wait for the current cohort. -/
  | waitForCohort
  /-- To wait for a force-stop. -/
  | waitForForceStop
  /-- To listen to the events. -/
  | subscribe
  /-- Nothing. -/
  | look
  deriving DecidableEq, Repr

/-- What a request is answered. -/
inductive Reply where
  /-- Nothing. -/
  | none
  /-- The number of agents that were asked to stop. -/
  | signalled (count : Nat)
  /-- There is no such agent. -/
  | unknownAgent
  /-- The request failed. -/
  | failed (failure : Failure)

namespace System

/-- Does something to an agent, if there is one of that number. -/
def withAgent (agent : AgentId) (change : AgentId → State → State) (system : System) :
    System × Reply :=
  if agent < system.state.members.length then
    ({ system with state := change agent system.state }, .none)
  else
    (system, .unknownAgent)

/-- Takes a request in. -/
def accept (request : Request) (system : System) : System × Reply :=
  match request with
  | .run names orchestrator base restarts =>
    match Network.OrchestratorAddress.ofText orchestrator with
    | .error failure => (system, .failed failure)
    | .ok address =>
      ({ system with runs := system.runs ++ [.start ⟨names, address, base⟩ restarts] }, .none)
  | .finish agent => system.withAgent agent State.endAgent
  | .stopAgent agent => system.withAgent agent State.stopAgent
  | .forceStop =>
    ({ system with state := system.state.forceStop }, .signalled system.state.cohort.length)
  | .waitForCohort => ({ system with waits := system.waits ++ [.looking] }, .none)
  | .waitForForceStop => ({ system with waits := system.waits ++ [.forForceStop] }, .none)
  | .subscribe => ({ system with listeners := system.listeners + 1 }, .none)
  | .advance _ | .look => (system, .none)

/-- The time to which a request lets the clock go. -/
def target (request : Request) (now : Nat) : Nat :=
  match request with
  | .advance milliseconds => now + milliseconds
  | _ => now

/-- Takes a request in and moves on until everything is at rest. -/
def perform (scenario : Scenario) (request : Request) (system : System) : System × Reply :=
  let (accepted, reply) := system.accept request
  (accepted.settle scenario (target request system.state.now), reply)

end System
end Supervision
end AgentCohort
