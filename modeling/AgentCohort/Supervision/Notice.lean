import AgentCohort.Configuration
import AgentCohort.Failure
import AgentCohort.Log.Level

/-!
# Notices

What launches, runs and force-stops write to the log.  A notice names the agents that
it is about, so that a history of notices tells who was asked to stop and why.
-/

namespace AgentCohort
namespace Supervision

/-- An agent by the order of its making, counted from zero. -/
abbrev AgentId := Nat

/-- Something worth a line in the log. -/
inductive Notice where
  /-- An agent is about to be launched. -/
  | starting (agent : String) (port : UInt16) (uiPort? : Option UInt16)
  /-- An agent could not be launched. -/
  | launchFailed (agent : String) (failure : Failure)
  /-- The agents already started are left alone or stopped. -/
  | launchAborted (policy : PartialLaunch) (started : List AgentId)
  /-- Every agent of a cohort has been started. -/
  | allStarted (count : Nat)
  /-- Part of a cohort has become the current cohort. -/
  | launchedPartially (generation : Nat)
  /-- A force-stop had been recorded before a cohort became the current one. -/
  | overtaken (generation : Nat) (cohort : List AgentId)
  /-- The agents of the current cohort are forced to stop. -/
  | forceStop (cohort : List AgentId)
  /-- It was not the first force-stop. -/
  | forceStopRepeated
  /-- A run without restarts comes after a force-stop. -/
  | launchRefused
  /-- All agents of a cohort have ended. -/
  | allStopped
  /-- There are no more restarts. -/
  | restartLimit (limit : UInt32)
  /-- A pause before the next launch begins. -/
  | coolingDown
  /-- A force-stop ended the pause. -/
  | cooldownCut
  /-- A run with restarts is over. -/
  | runFinished (generations : Nat)
  /-- An agent is still running after the time that it is waited for. -/
  | joinTimedOut (agent : AgentId) (name : String) (timeout : Duration)
  deriving DecidableEq, Repr

namespace Notice

/-- How important a notice is. -/
def level : Notice → Log.Level
  | launchFailed .. => .error
  | launchAborted .. | launchedPartially _ | overtaken .. | forceStop _ | launchRefused
  | restartLimit _ | joinTimedOut .. => .warn
  | starting .. | allStarted _ | forceStopRepeated | allStopped | coolingDown
  | cooldownCut | runFinished _ => .info

/-- The part of the program that writes a notice. -/
def target : Notice → String
  | starting .. | launchFailed .. | launchAborted .. | allStarted _ =>
    "dcop_agent::supervisor::launcher"
  | overtaken .. => "dcop_agent::supervisor::state"
  | forceStop _ | forceStopRepeated => "dcop_agent::supervisor::force_stop"
  | launchedPartially _ | launchRefused | allStopped | restartLimit _ | coolingDown
  | cooldownCut | runFinished _ | joinTimedOut .. => "dcop_agent::supervisor::supervisor"

/-- What a notice says. -/
def message : Notice → String
  | starting agent port (some uiPort) =>
    s!"Starting agent {agent} on port {port} with ui-server on {uiPort}"
  | starting agent port none =>
    s!"Starting agent {agent} on port {port} without ui-server"
  | launchFailed agent failure =>
    "Failed to launch agent " ++ agent ++ ": " ++ failure.message
  | launchAborted .leaveRunning started =>
    s!"Launch aborted, {started.length} already started agents left running"
  | launchAborted .stopStarted started =>
    s!"Launch aborted, stopping {started.length} already started agents"
  | allStarted count => s!"All {count} agents started"
  | launchedPartially generation => s!"Generation {generation} launched partially"
  | overtaken generation _ =>
    s!"Force-stop recorded while launching generation {generation}, stopping its agents"
  | forceStop cohort => s!"FORCE EXIT: stopping {cohort.length} agents"
  | forceStopRepeated => "Force-stop already recorded, re-issuing stop"
  | launchRefused => "Force-stop already recorded, not launching agents"
  | allStopped => "All agents have stopped"
  | restartLimit limit => s!"Reached max restarts ({limit}), not restarting agents"
  | coolingDown => "Wait before restarting"
  | cooldownCut => "Force-stop during cooldown, not restarting"
  | runFinished generations => s!"Supervisor finished after {generations} launches"
  | joinTimedOut _ name timeout =>
    "Agent " ++ name ++ " still running after " ++ timeout.text ++ ", requesting stop"

/-- A notice as a line of the log. -/
def line (notice : Notice) : Log.Line :=
  ⟨notice.level, notice.target, notice.message⟩

end Notice
end Supervision
end AgentCohort
