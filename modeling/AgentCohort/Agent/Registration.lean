import AgentCohort.Network.Wire

/-!
# Registrations

What an agent tells the orchestrator about itself.
-/

namespace AgentCohort
namespace Agent

open Json (Decoder Field)

/-- An agent as the orchestrator gets to know it. -/
structure Registration where
  /-- The kind of the record. -/
  kind : String
  /-- Name of the agent. -/
  agent : String
  /-- Address of the host that the agent listens on. -/
  address : String
  /-- Port for messages. -/
  port : UInt16
  /-- Port of the user interface. -/
  uiPort? : Option UInt16
  deriving DecidableEq, Repr

namespace Registration

/-- The kind of every registration that an agent sends. -/
def ownKind : String := "agent_registration"

/-- The registration as a record; a missing port of a user interface is left out. -/
def toJson (registration : Registration) : Json :=
  let uiPort := match registration.uiPort? with
    | some port => [("ui_port", Network.portJson port)]
    | none => []
  .record ([
    ("type", .text registration.kind),
    ("agent", .text registration.agent),
    ("address", .text registration.address),
    ("port", Network.portJson registration.port)] ++ uiPort)

/-- The fields of a registration. -/
def fields : List Field :=
  [.placed "type" .text,
   .placed "agent" .text,
   .placed "address" .text,
   .placed "port" .word16,
   .placed "ui_port" Decoder.word16.optional]

/-- Reads a registration. -/
def decoder : Decoder Registration := fun source document => do
  let found ← Json.collect "AgentRegistration" fields source document
  let kind ← found.required "type" .text
  let agent ← found.required "agent" .text
  let address ← found.required "address" .text
  let port ← found.required "port" .word16
  let uiPort? ← found.optional "ui_port" .word16
  return ⟨kind, agent, address, port, uiPort?⟩

end Registration
end Agent
end AgentCohort
