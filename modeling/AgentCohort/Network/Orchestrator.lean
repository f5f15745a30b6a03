import AgentCohort.Failure
import AgentCohort.Numeral
import AgentCohort.Text.Blank

/-!
# The orchestrator's address

A host and a port, written `host:port`.  The last colon separates them, so a host may
hold colons itself; blanks around either part are dropped.
-/

namespace AgentCohort
namespace Network

/-- Where the orchestrator listens. -/
structure OrchestratorAddress where
  /-- Host name or address, never checked further. -/
  host : String
  /-- Port on that host. -/
  port : UInt16
  deriving DecidableEq, Repr

namespace OrchestratorAddress

/-- The address as `host:port`. -/
def text (address : OrchestratorAddress) : String :=
  address.host ++ ":" ++ toString address.port

/-- Where the paths of the orchestrator begin. -/
def baseUrl (address : OrchestratorAddress) : String :=
  "http://" ++ address.text

/-- The address in `host:port`, if both parts are there. -/
def ofChars? (cs : List Char) : Option OrchestratorAddress := do
  let (before, after) ← Text.splitLast? ':' cs
  let host := Text.trim before
  if host.isEmpty then
    none
  else
    match Numeral.readUInt16 (Text.trim after) with
    | .ok port => some ⟨String.ofList host, port⟩
    | .error _ => none

/-- Reads `host:port`. -/
def ofText (text : String) : Except Failure OrchestratorAddress :=
  match ofChars? text.toList with
  | some address => .ok address
  | none => .error (.orchestratorAddress text)

end OrchestratorAddress
end Network
end AgentCohort
