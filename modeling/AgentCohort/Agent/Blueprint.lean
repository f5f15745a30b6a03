import AgentCohort.Agent.Registration
import AgentCohort.Network.Binding

/-!
# Blueprints

What an agent is made from, what follows from it for its registration, and when its ports
cannot be bound.
-/

namespace AgentCohort
namespace Agent

open Network (Binding OrchestratorAddress)

/-- What an agent is made from. -/
structure Blueprint where
  /-- Name of the agent. -/
  name : String
  /-- Where it listens for messages. -/
  binding : Binding
  /-- Where it registers. -/
  orchestrator : OrchestratorAddress
  /-- Port of its user interface. -/
  uiPort? : Option UInt16
  deriving DecidableEq, Repr

namespace Blueprint

/-- What the agent tells the orchestrator. -/
def registration (blueprint : Blueprint) : Registration :=
  ⟨Registration.ownKind, blueprint.name, toString blueprint.binding.ip, blueprint.binding.port,
    blueprint.uiPort?⟩

/-- Where the agent tells it. -/
def registrationUrl (blueprint : Blueprint) : String :=
  blueprint.orchestrator.baseUrl ++ "/register"

/-- Where the user interface listens, on the address for messages. -/
def uiBinding? (blueprint : Blueprint) : Option Binding :=
  blueprint.uiPort?.map fun port => ⟨blueprint.binding.ip, port⟩

/-- The ports that the agent listens on while it runs. -/
def ports (blueprint : Blueprint) : List UInt16 :=
  blueprint.binding.port :: blueprint.uiPort?.toList

/-- Whether a port cannot be bound while others are taken; port zero stands for any free
one. -/
def isTaken (port : UInt16) (taken : List UInt16) : Bool :=
  port != 0 && taken.contains port

/-- What the operating system says when a port is taken. -/
def takenText : String := "Address already in use (os error 98)"

/-- What the operating system says when an address is not one of the host. -/
def foreignText : String := "Cannot assign requested address (os error 99)"

/-- Why a binding cannot be used, in the words of the operating system. -/
def refusal? (isOwn : Network.IpAddress → Bool) (binding : Binding) (taken : List UInt16) :
    Option String :=
  if !isOwn binding.ip then some foreignText
  else if isTaken binding.port taken then some takenText
  else none

/-- Why the ports of the agent cannot be bound: the port for messages is bound first, and
the port of the user interface while that one is taken. -/
def bindFailure?
    (isOwn : Network.IpAddress → Bool)
    (taken : List UInt16)
    (blueprint : Blueprint) : Option Failure :=
  match refusal? isOwn blueprint.binding taken with
  | some reason =>
    some (.transport ("agent " ++ blueprint.name ++ " cannot listen on " ++
      blueprint.binding.text ++ ": " ++ reason))
  | none =>
    blueprint.uiBinding?.bind fun binding =>
      (refusal? isOwn binding (blueprint.binding.port :: taken)).map fun reason =>
        .transport ("agent " ++ blueprint.name ++ " cannot serve ui on " ++ binding.text ++
          ": " ++ reason)

end Blueprint
end Agent
end AgentCohort
