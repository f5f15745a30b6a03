import AgentCohort.Agent.Status
import AgentCohort.Instant.Reader
import AgentCohort.Network.Wire

/-!
# Snapshots

What an agent shows of itself at one moment.
-/

namespace AgentCohort
namespace Agent

open Json (Decoder Field)

/-- The state of an agent as others see it. -/
structure Snapshot where
  /-- Name of the agent. -/
  name : String
  /-- Its stage. -/
  status : Status
  /-- Address and port for messages. -/
  address : String
  /-- Port of the user interface. -/
  uiPort? : Option UInt16
  /-- Address of the orchestrator. -/
  orchestrator : String
  /-- Whether the orchestrator has accepted the agent. -/
  registered : Bool
  /-- Number of accepted messages. -/
  messagesReceived : UInt64
  /-- When the agent was started. -/
  startedAt? : Option Instant
  deriving DecidableEq, Repr

namespace Snapshot

/-- A member that is left out if it has no value. -/
def optionalMember (name : String) (write : α → Json) : Option α → List (String × Json)
  | some value => [(name, write value)]
  | none => []

/-- The snapshot as a record; members without a value are left out. -/
def toJson (snapshot : Snapshot) : Json :=
  .record ([
    ("name", .text snapshot.name),
    ("status", snapshot.status.toJson),
    ("address", .text snapshot.address)] ++
    optionalMember "ui_port" Network.portJson snapshot.uiPort? ++ [
    ("orchestrator", .text snapshot.orchestrator),
    ("registered", .boolean snapshot.registered),
    ("messages_received", .natural snapshot.messagesReceived.toNat)] ++
    optionalMember "started_at" (fun instant => .text instant.text) snapshot.startedAt?)

/-- Reads an instant. -/
def instantDecoder : Decoder Instant := fun _ document =>
  match document with
  | .text value =>
    match Instant.ofChars value.toList with
    | .ok instant => .ok instant
    | .error fault => .error (.data (.complaint fault.message))
  | other => .error (other.mismatch "an RFC 3339 formatted date and time string")

/-- The fields of a snapshot. -/
def fields : List Field :=
  [.placed "name" .text,
   .placed "status" Status.decoder,
   .placed "address" .text,
   .placed "ui_port" Decoder.word16.optional,
   .placed "orchestrator" .text,
   .placed "registered" .boolean,
   .placed "messages_received" .word64,
   .placed "started_at" instantDecoder.optional]

/-- Reads a snapshot. -/
def decoder : Decoder Snapshot := fun source document => do
  let found ← Json.collect "AgentSnapshot" fields source document
  let name ← found.required "name" .text
  let status ← found.required "status" Status.decoder
  let address ← found.required "address" .text
  let uiPort? ← found.optional "ui_port" .word16
  let orchestrator ← found.required "orchestrator" .text
  let registered ← found.required "registered" .boolean
  let messagesReceived ← found.required "messages_received" .word64
  let startedAt? ← found.optional "started_at" instantDecoder
  return ⟨name, status, address, uiPort?, orchestrator, registered, messagesReceived,
    startedAt?⟩

end Snapshot
end Agent
end AgentCohort
