import AgentCohort.Agent.Blueprint
import AgentCohort.Agent.Service
import AgentCohort.Duration
import AgentCohort.Log.Level

/-!
# What an agent logs
-/

namespace AgentCohort
namespace Agent

/-- How an attempt to register ends. -/
inductive Outcome where
  /-- The orchestrator answers with a status. -/
  | answered (status : Nat)
  /-- The orchestrator cannot be reached. -/
  | unreachable (cause : String)
  deriving DecidableEq, Repr

/-- Whether the orchestrator has accepted the agent. -/
def Outcome.isSuccess : Outcome → Bool
  | .answered status => Network.Http.isSuccess status
  | .unreachable _ => false

/-- Something worth a line in the log. -/
inductive Notice where
  /-- The servers are up. -/
  | listening
  /-- The orchestrator has accepted the agent. -/
  | registered
  /-- The orchestrator has refused the agent. -/
  | rejected (status : Nat)
  /-- The orchestrator was not there at the first attempt. -/
  | waiting (cause : String)
  /-- A message told the agent to end. -/
  | toldToStop
  /-- The agent is asked to stop for the first time. -/
  | stopRequested
  /-- A server had to be ended. -/
  | aborting (server : Server) (grace : Duration)
  /-- The agent has ended. -/
  | stopped
  deriving DecidableEq, Repr

namespace Notice

/-- How important a notice is. -/
def level : Notice → Log.Level
  | rejected _ | aborting .. => .warn
  | listening | registered | waiting _ | toldToStop | stopRequested | stopped => .info

/-- What a notice says. -/
def message (blueprint : Blueprint) : Notice → String
  | listening =>
    "Agent " ++ blueprint.name ++ " listening on " ++ blueprint.binding.text ++
      " (orchestrator " ++ blueprint.orchestrator.text ++ ")"
  | registered =>
    "Agent " ++ blueprint.name ++ " registered with orchestrator " ++ blueprint.orchestrator.text
  | rejected status =>
    "Agent " ++ blueprint.name ++ " registration rejected by orchestrator: " ++ toString status
  | waiting cause =>
    "Orchestrator " ++ blueprint.orchestrator.text ++ " not reachable yet, agent " ++
      blueprint.name ++ " will wait: " ++ cause
  | toldToStop => "Agent " ++ blueprint.name ++ " received stop from orchestrator"
  | stopRequested => "Stop requested for agent " ++ blueprint.name
  | aborting server grace =>
    "Agent " ++ blueprint.name ++ " " ++ server.label ++ " did not close within " ++
      grace.text ++ ", aborting"
  | stopped => "Agent " ++ blueprint.name ++ " stopped"

/-- A notice of an agent as a line of the log. -/
def line (blueprint : Blueprint) (notice : Notice) : Log.Line :=
  ⟨notice.level, "dcop_agent::agents::http", notice.message blueprint⟩

end Notice
end Agent
end AgentCohort
