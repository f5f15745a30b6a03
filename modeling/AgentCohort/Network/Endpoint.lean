import AgentCohort.Failure

/-!
# Endpoints

The ports of the agents of a cohort follow from one base: the agent at position `i`
of the launch list gets the message port `basePort + i` and, if there is a base port
for user interfaces, the port `baseUiPort + i`.
-/

namespace AgentCohort
namespace Network

/-- What the endpoints of a cohort are derived from. -/
structure EndpointBase where
  /-- The address that the agents listen on; the primary address of the host if absent. -/
  listenAddress? : Option String
  /-- Message port of the first agent. -/
  basePort : UInt16
  /-- User-interface port of the first agent; no agent serves one if absent. -/
  baseUiPort? : Option UInt16
  deriving DecidableEq, Repr

/-- The ports of one agent. -/
structure Endpoint where
  /-- Position of the agent in the launch list. -/
  index : Nat
  /-- Port for messages. -/
  messagePort : UInt16
  /-- Port of the user interface. -/
  uiPort? : Option UInt16
  deriving DecidableEq, Repr

/-- The port `index` places after a base, unless it lies beyond the last port. -/
def offsetPort (base : UInt16) (index : Nat) : Except Failure UInt16 :=
  if base.toNat + index ≤ 65535 then
    .ok (UInt16.ofNat (base.toNat + index))
  else
    .error (.portOverflow base index)

namespace EndpointBase

/-- A base of nothing but a message port. -/
def ofPort (port : UInt16) : EndpointBase :=
  ⟨none, port, none⟩

/-- The same base on a given listen address. -/
def withListenAddress (base : EndpointBase) (address : String) : EndpointBase :=
  { base with listenAddress? := some address }

/-- The same base with user interfaces from a given port on. -/
def withUiPort (base : EndpointBase) (port : UInt16) : EndpointBase :=
  { base with baseUiPort? := some port }

/-- The endpoint at a position of the launch list; the message port is derived first. -/
def endpoint (base : EndpointBase) (index : Nat) : Except Failure Endpoint := do
  let messagePort ← offsetPort base.basePort index
  match base.baseUiPort? with
  | none => return ⟨index, messagePort, none⟩
  | some uiBase => return ⟨index, messagePort, some (← offsetPort uiBase index)⟩

/-- One endpoint for each name of a launch list, in list order, or the failure of the
first position without one. -/
def allocate (base : EndpointBase) (names : List String) :
    Except Failure (List Endpoint) :=
  names.zipIdx.mapM fun entry => base.endpoint entry.2

end EndpointBase
end Network
end AgentCohort
