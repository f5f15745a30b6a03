import AgentCohort.Settings.Fault
import AgentCohort.Text.Quoted

/-!
# Failures

Everything that can go wrong between reading the settings and running a cohort.  A
failure has a sentence for people, `message`, and a structured form that shows its
kind and its parts, `structured`.
-/

namespace AgentCohort

/-- What went wrong. -/
inductive Failure where
  /-- The settings cannot be read. -/
  | settings (fault : Settings.Fault)
  /-- A text is not the address of an orchestrator. -/
  | orchestratorAddress (text : String)
  /-- A text is not an address to listen on. -/
  | listenAddress (text : String)
  /-- The port of an agent lies beyond the last port. -/
  | portOverflow (base : UInt16) (index : Nat)
  /-- An agent refused to start. -/
  | agentStart (agent reason : String)
  /-- A port cannot be used. -/
  | transport (text : String)
  /-- The operating system reported an error. -/
  | io (text : String)
  /-- Something else. -/
  | internal (text : String)
  deriving DecidableEq, Repr

namespace Failure

/-- The failure as a sentence. -/
def message : Failure → String
  | settings fault => "Configuration error: " ++ fault.message
  | orchestratorAddress text =>
    "Invalid orchestrator address '" ++ text ++ "': expected <host>:<port>"
  | listenAddress text => "Invalid listen address '" ++ text ++ "'"
  | portOverflow base index =>
    s!"Port overflow: base {base} + index {index} exceeds 65535"
  | agentStart agent reason => "Agent " ++ agent ++ " failed to start: " ++ reason
  | transport text => "Transport error: " ++ text
  | io text => "IO error: " ++ text
  | internal text => "Internal error: " ++ text

/-- A kind with named parts. -/
def record (kind : String) (parts : List (String × String)) : String :=
  let shown := parts.map fun part => part.1 ++ ": " ++ part.2
  kind ++ " \x7b " ++ ", ".intercalate shown ++ " \x7d"

/-- A kind with one part. -/
def wrapped (kind part : String) : String :=
  kind ++ "(" ++ part ++ ")"

/-- The failure as its kind and its parts. -/
def structured : Failure → String
  | settings fault => wrapped "Config" fault.message
  | orchestratorAddress text => wrapped "InvalidOrchestratorAddress" (Text.quoted text)
  | listenAddress text => wrapped "InvalidListenAddress" (Text.quoted text)
  | portOverflow base index =>
    record "PortOverflow" [("base", toString base), ("index", toString index)]
  | agentStart agent reason =>
    record "AgentStart" [("agent", Text.quoted agent), ("reason", Text.quoted reason)]
  | transport text => wrapped "Transport" (Text.quoted text)
  | io text =>
    wrapped "Io" (record "Custom" [("kind", "Other"), ("error", Text.quoted text)])
  | internal text => wrapped "Internal" (Text.quoted text)

end Failure
end AgentCohort
