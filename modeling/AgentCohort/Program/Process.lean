import AgentCohort.Program.LogSetup
import AgentCohort.Supervision.Report
import AgentCohort.Supervision.Session

/-!
# The process

A session together with what the program itself logs, and a signal from the operating
system that may come some time after a given text was logged.
-/

namespace AgentCohort
namespace Program

open Network (Endpoint IpAddress)
open Supervision (Behaviour Plan Platform Scenario Session System)

/-- A signal that ends the agents. -/
inductive Signal where
  /-- The interrupt signal. -/
  | interrupt
  /-- The termination signal. -/
  | terminate
  deriving DecidableEq, Repr

/-- The name of a signal. -/
def Signal.name : Signal → String
  | .interrupt => "SIGINT"
  | .terminate => "SIGTERM"

/-- A signal that is sent some time after a text was logged. -/
structure PlannedSignal where
  /-- The signal. -/
  signal : Signal
  /-- The text that must have been logged. -/
  trigger : String
  deriving DecidableEq, Repr

/-- Milliseconds from the text until the signal. -/
def PlannedSignal.delay : Nat := 150

/-- What the program itself logs. -/
inductive Notice where
  /-- A setting makes no sense. -/
  | complaint (text : String)
  /-- The run begins. -/
  | starting (count : Nat) (orchestrator : Network.OrchestratorAddress) (restarts : Bool)
  /-- The run has failed. -/
  | launchFailed (failure : Failure)
  /-- The agents have ended. -/
  | allStopped
  /-- A signal has come. -/
  | received (signal : Signal)
  deriving DecidableEq, Repr

/-- A notice as a line of the log. -/
def Notice.line : Notice → Log.Line
  | .complaint text => ⟨.error, "dcop_agent", "Invalid configuration: " ++ text⟩
  | .starting count orchestrator restarts =>
    ⟨.info, "dcop_agent", s!"Starting {count} agent(s) for orchestrator " ++ orchestrator.text ++
      s!" (restart: {restarts})"⟩
  | .launchFailed failure => ⟨.error, "dcop_agent", "Launch failed: " ++ failure.message⟩
  | .allStopped => ⟨.info, "dcop_agent", "All agents have stopped"⟩
  | .received signal =>
    ⟨.info, "dcop_agent::supervisor::force_stop", "Received " ++ signal.name⟩

/-! ## Agents -/

/-- Whether an address is one of the host. -/
def isOwnAddress (primary ip : IpAddress) : Bool :=
  ip == primary || ip.isUnspecified ||
    match ip with
    | .v4 a _ _ _ => a == 127
    | .v6 groups => groups.toList == [0, 0, 0, 0, 0, 0, 0, 1]

/-- The ports of an endpoint. -/
def endpointPorts (endpoint : Endpoint) : List UInt16 :=
  endpoint.messagePort :: endpoint.uiPort?.toList

/-- How an agent of a plan behaves: it cannot be started while one of its ports is bound by
an agent before it, and it runs until it is asked to stop. -/
def behaviour (primary : IpAddress) (plan : Plan) (blueprint : Agent.Blueprint) : Behaviour :=
  let endpoints := (plan.base.allocate plan.names).toOption.getD []
  let before := endpoints.takeWhile fun endpoint =>
    endpoint.messagePort != blueprint.binding.port
  { Behaviour.standard with
    startFailure? :=
      blueprint.bindFailure? (isOwnAddress primary) (before.flatMap endpointPorts) }

/-- What the run of a plan depends on. -/
def scenario (settings : SupervisorSettings) (platform : Platform) (plan : Plan) : Scenario :=
  ⟨settings, fun blueprint _ => behaviour platform.primary plan blueprint, platform⟩

/-! ## The course of the process -/

/-- A session with the lines that have been logged, the oldest first. -/
structure Process where
  /-- The session. -/
  session : Session
  /-- The lines with their times. -/
  lines : List (Nat × Log.Line)
  /-- The signal that has not been sent. -/
  planned? : Option PlannedSignal

namespace Process

/-- Logs a line. -/
def log (notice : Notice) (process : Process) : Process :=
  { process with
    lines := process.lines ++ [(process.session.system.state.now, notice.line)] }

/-- Goes on with another system and the lines that it has logged. -/
def withSystem (system : System) (process : Process) : Process :=
  let logged := (system.entriesSince process.session.system).filterMap fun entry =>
    entry.line?.map fun line => (entry.time, line)
  { process with session := process.session.withSystem system, lines := process.lines ++ logged }

/-- The beginning of a process. -/
def start (plan : Plan) (restarts : Bool) (planned? : Option PlannedSignal) : Process :=
  log (.starting plan.names.length plan.orchestrator restarts)
    ⟨.start plan restarts, [], planned?⟩

/-- The time at which the signal comes, once its text has been written. -/
def signalTime? (isWritten : String → Log.Line → Bool) (process : Process) : Option Nat := do
  let planned ← process.planned?
  let entry ← process.lines.find? fun entry => isWritten planned.trigger entry.2
  return max process.session.system.state.now (entry.1 + PlannedSignal.delay)

/-- A signal comes. -/
def deliver (signal : Signal) (process : Process) : Process :=
  let logged := process.log (.received signal)
  let system := logged.session.system
  { logged.withSystem { system with state := system.state.forceStop } with planned? := none }

/-- The next phase of the session, if the time for it has come. -/
def nextPhase? (process : Process) : Option Process := do
  let session ← process.session.nextPhase?
  let next := { process with session := session }
  match process.session.phase, session.phase with
  | .running, .waiting (.error failure) | .running, .ended (.error failure) =>
    return next.log (.launchFailed failure)
  | .waiting _, .ended _ => return next.log .allStopped
  | _, _ => return next

/-- Lets the clock go on to a time and everything happen until then. -/
def advanceTo (scenario : Scenario) (time : Nat) (process : Process) : Process :=
  process.withSystem (process.session.system.settle scenario time)

/-- What happens next: a new phase, the signal, or the next timer. -/
def step?
    (scenario : Scenario)
    (isWritten : String → Log.Line → Bool)
    (process : Process) : Option Process :=
  match process.nextPhase? with
  | some next => some (next.advanceTo scenario next.session.system.state.now)
  | none =>
    match process.session.outcome?, process.planned?, process.signalTime? isWritten,
      process.session.system.nextTimer? with
    | some _, _, _, _ => none
    | none, some planned, some time, timer? =>
      if timer?.all (time ≤ ·) then
        let advanced := process.advanceTo scenario time
        let delivered := advanced.deliver planned.signal
        some (delivered.advanceTo scenario delivered.session.system.state.now)
      else
        timer?.map fun timer => process.advanceTo scenario timer
    | none, _, _, timer? => timer?.map fun timer => process.advanceTo scenario timer

/-- Goes on as long as anything happens, up to a number of steps. -/
def proceed (scenario : Scenario) (isWritten : String → Log.Line → Bool) :
    Nat → Process → Process
  | 0, process => process
  | steps + 1, process =>
    match process.step? scenario isWritten with
    | none => process
    | some next => proceed scenario isWritten steps next

/-- Number of steps after which a process is given up that never ends. -/
def patience : Nat := 100000

/-- The whole course of a process. -/
def complete
    (scenario : Scenario)
    (isWritten : String → Log.Line → Bool)
    (process : Process) : Process :=
  (process.advanceTo scenario 0).proceed scenario isWritten patience

end Process
end Program
end AgentCohort
