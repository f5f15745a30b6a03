import AgentCohort.Json
import AgentCohort.Json.Decoder
import AgentCohort.Network.Endpoint
import AgentCohort.Network.Orchestrator

/-!
# Endpoints and addresses as JSON

Records with their fields in a fixed order.  A field without a value is written as
`null`; reading also accepts its absence.
-/

namespace AgentCohort
namespace Network

open Json (Decoder Field)

/-- A port as JSON. -/
def portJson (port : UInt16) : Json :=
  .natural port.toNat

namespace EndpointBase

/-- The base as a record. -/
def toJson (base : EndpointBase) : Json :=
  .record [
    ("listen_address", .optional .text base.listenAddress?),
    ("base_port", portJson base.basePort),
    ("base_ui_port", .optional portJson base.baseUiPort?)]

/-- The fields of a base. -/
def fields : List Field :=
  [.placed "listen_address" Decoder.text.optional,
   .placed "base_port" .word16,
   .placed "base_ui_port" Decoder.word16.optional]

/-- Reads a base. -/
def decoder : Decoder EndpointBase := fun source document => do
  let found ← Json.collect "EndpointConfig" fields source document
  let listenAddress? ← found.optional "listen_address" .text
  let basePort ← found.required "base_port" .word16
  let baseUiPort? ← found.optional "base_ui_port" .word16
  return ⟨listenAddress?, basePort, baseUiPort?⟩

end EndpointBase

namespace Endpoint

/-- The endpoint as a record. -/
def toJson (endpoint : Endpoint) : Json :=
  .record [
    ("index", .natural endpoint.index),
    ("message_port", portJson endpoint.messagePort),
    ("ui_port", .optional portJson endpoint.uiPort?)]

/-- A position in a launch list. -/
def indexDecoder : Decoder Nat :=
  .natural "usize" Numeral.maxUInt64

/-- The fields of an endpoint. -/
def fields : List Field :=
  [.placed "index" indexDecoder,
   .placed "message_port" .word16,
   .placed "ui_port" Decoder.word16.optional]

/-- Reads an endpoint. -/
def decoder : Decoder Endpoint := fun source document => do
  let found ← Json.collect "AllocatedEndpoint" fields source document
  let index ← found.required "index" indexDecoder
  let messagePort ← found.required "message_port" .word16
  let uiPort? ← found.optional "ui_port" .word16
  return ⟨index, messagePort, uiPort?⟩

end Endpoint

namespace OrchestratorAddress

/-- The address as a record. -/
def toJson (address : OrchestratorAddress) : Json :=
  .record [("host", .text address.host), ("port", portJson address.port)]

/-- The fields of an address. -/
def fields : List Field :=
  [.placed "host" .text, .placed "port" .word16]

/-- Reads an address. -/
def decoder : Decoder OrchestratorAddress := fun source document => do
  let found ← Json.collect "OrchestratorAddress" fields source document
  let host ← found.required "host" .text
  let port ← found.required "port" .word16
  return ⟨host, port⟩

end OrchestratorAddress
end Network
end AgentCohort
