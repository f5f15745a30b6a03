import AgentCohort.CommandLine.Parser
import AgentCohort.Network.Endpoint
import AgentCohort.Network.Orchestrator

/-!
# What a command line asks for

The endpoints and the orchestrator that the arguments name.
-/

namespace AgentCohort
namespace CommandLine
namespace Arguments

open Network (EndpointBase OrchestratorAddress)

/-- What the endpoints of the agents are derived from. -/
def endpointBase (arguments : Arguments) : EndpointBase :=
  ⟨arguments.address?, arguments.port, arguments.uiPort?⟩

/-- The address of the orchestrator. -/
def orchestratorAddress (arguments : Arguments) : Except Failure OrchestratorAddress :=
  OrchestratorAddress.ofText arguments.orchestrator

end Arguments
end CommandLine
end AgentCohort
