import AgentCohort.Duration

/-!
# Configuration

The settings of the supervisor, of the agents and of the log, their defaults, and the
complaints about values that are of the right type but make no sense.
-/

namespace AgentCohort

/-- What happens to the agents already started when a later one of the same cohort cannot
be started. -/
inductive PartialLaunch where
  /-- They go on. -/
  | leaveRunning
  /-- They are asked to stop. -/
  | stopStarted
  deriving DecidableEq, Repr

/-- The name of a choice. -/
def PartialLaunch.name : PartialLaunch → String
  | .leaveRunning => "leave_running"
  | .stopStarted => "stop_started"

/-- The choices by name. -/
def PartialLaunch.byName : List (String × PartialLaunch) :=
  [(PartialLaunch.leaveRunning.name, .leaveRunning),
   (PartialLaunch.stopStarted.name, .stopStarted)]

/-- How a cohort is supervised. -/
structure SupervisorSettings where
  /-- Seconds between the end of a cohort and the next launch. -/
  cooldownSeconds : UInt64
  /-- Seconds after which an agent that is waited for is asked to stop. -/
  joinTimeoutSeconds? : Option UInt64
  /-- Number of further launches; without one there is no limit. -/
  maxRestarts? : Option UInt32
  /-- What happens to a cohort that is launched in part. -/
  partialLaunch : PartialLaunch
  deriving DecidableEq, Repr

namespace SupervisorSettings

/-- The settings that hold unless others are given. -/
def standard : SupervisorSettings :=
  ⟨10, none, none, .leaveRunning⟩

/-- The time between the end of a cohort and the next launch. -/
def cooldown (settings : SupervisorSettings) : Duration :=
  .ofSeconds settings.cooldownSeconds.toNat

/-- The time after which an agent that is waited for is asked to stop. -/
def joinTimeout? (settings : SupervisorSettings) : Option Duration :=
  settings.joinTimeoutSeconds?.map fun seconds => .ofSeconds seconds.toNat

end SupervisorSettings

/-- How an agent behaves. -/
structure AgentSettings where
  /-- Milliseconds between two attempts to register. -/
  registrationRetryMs : UInt64
  /-- Milliseconds that the servers of an agent get to close. -/
  stopGraceMs : UInt64
  deriving DecidableEq, Repr

namespace AgentSettings

/-- The settings that hold unless others are given. -/
def standard : AgentSettings :=
  ⟨1000, 2000⟩

/-- The time between two attempts to register. -/
def registrationRetry (settings : AgentSettings) : Duration :=
  ⟨settings.registrationRetryMs.toNat⟩

/-- The time that the servers of an agent get to close. -/
def stopGrace (settings : AgentSettings) : Duration :=
  ⟨settings.stopGraceMs.toNat⟩

end AgentSettings

/-- What is logged, how, and where to. -/
structure LoggingSettings where
  /-- The level from which on lines are logged. -/
  level : String
  /-- Whether lines are written as JSON. -/
  json : Bool
  /-- A directory for log files besides the console. -/
  directory? : Option String
  deriving DecidableEq, Repr

/-- The settings that hold unless others are given. -/
def LoggingSettings.standard : LoggingSettings :=
  ⟨"info", false, none⟩

/-- All settings. -/
structure Configuration where
  /-- Settings of the supervisor. -/
  supervisor : SupervisorSettings
  /-- Settings of the agents. -/
  agent : AgentSettings
  /-- Settings of the log. -/
  logging : LoggingSettings
  deriving DecidableEq, Repr

namespace Configuration

/-- The settings that hold unless others are given. -/
def standard : Configuration :=
  ⟨.standard, .standard, .standard⟩

/-- The levels that a log can have. -/
def levelNames : List String :=
  ["trace", "debug", "info", "warn", "error"]

/-- A text with its ASCII letters in lower case. -/
def asciiLowercase (s : String) : String :=
  s.map Char.toLower

/-- The complaints about settings that make no sense. -/
def complaints (configuration : Configuration) : List String :=
  let timeout :=
    if configuration.supervisor.joinTimeoutSeconds? = some 0 then
      ["supervisor.join_timeout_secs must be positive when set"]
    else []
  let retry :=
    if configuration.agent.registrationRetryMs = 0 then
      ["agent.registration_retry_ms must be positive"]
    else []
  let level := configuration.logging.level
  let unknown :=
    if asciiLowercase level ∈ levelNames then []
    else ["unknown logging.level: " ++ level]
  timeout ++ retry ++ unknown

end Configuration
end AgentCohort
