import AgentCohort.Network.Endpoint
import AgentCohort.Supervision.State

/-!
# Launches

A launch makes and starts one agent for each name of a list, in list order.  The ports
are given out before anything is made, so a list that needs a port beyond the last one
launches nothing.  The first agent that cannot be made or started ends the launch; the
agents already started are handed back together with the failure.
-/

namespace AgentCohort
namespace Supervision

open Agent (Blueprint)
open Network (Binding Endpoint EndpointBase OrchestratorAddress)

/-- What is to be launched. -/
structure Plan where
  /-- The names of the agents. -/
  names : List String
  /-- Where the agents register. -/
  orchestrator : OrchestratorAddress
  /-- What their ports are derived from. -/
  base : EndpointBase
  deriving DecidableEq, Repr

/-- A launch that ended at an agent. -/
structure LaunchFailure where
  /-- The agents that had been started before, in launch order. -/
  started : List AgentId
  /-- Why the launch ended. -/
  failure : Failure
  deriving DecidableEq, Repr

/-- The failure of a launch as its parts, the agents by their names. -/
def LaunchFailure.structured (names : List String) (failure : Failure) : String :=
  Failure.record "LaunchFailure"
    [("started", Text.quotedList names), ("error", failure.structured)]

namespace State

/-- Calls for a force-stop as often as the behaviour of an agent does so at a moment. -/
def callForceStopsAt (moment : LaunchMoment) (behaviour : Behaviour) (state : State) : State :=
  Nat.repeat calledForceStop (behaviour.forceStops.count moment) state

/-- Makes an agent. -/
def createAgent (scenario : Scenario) (blueprint : Blueprint) (state : State) :
    State × Except Failure AgentId :=
  let behaviour := scenario.behaviour blueprint (state.journal.creations blueprint.name)
  let called := (state.note (.create blueprint)).callForceStopsAt .creation behaviour
  match behaviour.createFailure? with
  | some failure => (called, .error failure)
  | none =>
    ({ called with members := called.members ++ [.fresh blueprint.name behaviour] },
      .ok called.members.length)

/-- Starts an agent that behaves in a given way. -/
def startAgent (agent : AgentId) (behaviour : Behaviour) (state : State) :
    State × Except Failure Unit :=
  let asked := (state.update agent fun member => { member with starts := member.starts + 1 }).note
    (.start agent)
  let called := asked.callForceStopsAt .start behaviour
  match behaviour.startFailure? with
  | some failure => (called, .error failure)
  | none =>
    let launched := called.update agent fun member => { member with isLaunched := true }
    match behaviour.endsAfter? with
    | none => (launched, .ok ())
    | some delay => (launched.endAgentAfter agent delay, .ok ())

/-- Makes and starts the agent of a name at an endpoint. -/
def launchOne
    (scenario : Scenario)
    (plan : Plan)
    (name : String)
    (endpoint : Endpoint)
    (state : State) : State × Except Failure AgentId :=
  let noted := state.log (.starting name endpoint.messagePort endpoint.uiPort?)
  match Binding.resolve scenario.platform.resolver scenario.platform.primary
      plan.base.listenAddress? endpoint.messagePort with
  | .error failure => (noted, .error failure)
  | .ok binding =>
    match noted.createAgent scenario ⟨name, binding, plan.orchestrator, endpoint.uiPort?⟩ with
    | (created, .error failure) => (created, .error failure)
    | (created, .ok agent) =>
      let behaviour := ((created.member? agent).map Member.behaviour).getD .standard
      match created.startAgent agent behaviour with
      | (started, .error failure) => (started, .error failure)
      | (started, .ok ()) => (started, .ok agent)

/-- Deals with the agents that were started before a launch ended. -/
def abortLaunch (policy : PartialLaunch) (started : List AgentId) (state : State) : State :=
  if started.isEmpty then
    state
  else
    let noted := state.log (.launchAborted policy started)
    match policy with
    | .leaveRunning => noted
    | .stopStarted => noted.stopAgents started

/-- Launches the agents that are left, after some have been started. -/
def launchRest
    (scenario : Scenario)
    (plan : Plan)
    (started : List AgentId) :
    List (String × Endpoint) → State → State × Except LaunchFailure (List AgentId)
  | [], state => (state.log (.allStarted plan.names.length), .ok started)
  | (name, endpoint) :: rest, state =>
    match state.launchOne scenario plan name endpoint with
    | (launched, .ok agent) => launchRest scenario plan (started ++ [agent]) rest launched
    | (failed, .error failure) =>
      ((failed.log (.launchFailed name failure)).abortLaunch
        scenario.settings.partialLaunch started, .error ⟨started, failure⟩)

/-- Launches the agents of a plan. -/
def launch (scenario : Scenario) (plan : Plan) (state : State) :
    State × Except LaunchFailure (List AgentId) :=
  match plan.base.allocate plan.names with
  | .error failure => (state, .error ⟨[], failure⟩)
  | .ok endpoints => state.launchRest scenario plan [] (plan.names.zip endpoints)

/-- Launches the agents of a plan and publishes them.  Agents that a launch left behind
are published, too, so that a force-stop reaches them. -/
def launchCohort (scenario : Scenario) (plan : Plan) (state : State) :
    State × Except Failure (List AgentId) :=
  match state.launch scenario plan with
  | (launched, .ok cohort) =>
    let published := launched.publish cohort
    (published.announce (.cohortStarted published.generation (cohort.map published.nameOf)),
      .ok cohort)
  | (failed, .error ⟨started, failure⟩) =>
    if started.isEmpty then
      (failed, .error failure)
    else
      let published := failed.publish started
      (published.log (.launchedPartially published.generation), .error failure)

end State
end Supervision
end AgentCohort
