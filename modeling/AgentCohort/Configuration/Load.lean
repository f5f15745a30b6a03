import AgentCohort.Configuration
import AgentCohort.Failure
import AgentCohort.Settings.Environment
import AgentCohort.Settings.Files
import AgentCohort.Settings.Path
import AgentCohort.Settings.Reading

/-!
# Loading the configuration

Four layers are put on top of each other: the defaults, the file `default.toml` of the
settings directory, the file of that directory that an environment variable names, and
the environment variables with the lead of the program.
-/

namespace AgentCohort

open Settings (Fault FilePath FileStore Reader SettingsFile Tree)

/-- Reads the choice for a cohort launched in part. -/
def PartialLaunch.reader : Reader PartialLaunch :=
  .choice "PartialLaunchPolicy" PartialLaunch.byName

/-- Reads the settings of a supervisor. -/
def SupervisorSettings.reader : Reader SupervisorSettings := fun tree => do
  let found ← Reader.toSection "SupervisorConfig" tree
  let cooldownSeconds ←
    Reader.setting found "cooldown_secs" 0 standard.cooldownSeconds Reader.word64
  let joinTimeoutSeconds? ←
    Reader.setting found "join_timeout_secs" 1 none Reader.word64.optional
  let maxRestarts? ← Reader.setting found "max_restarts" 2 none Reader.word32.optional
  let partialLaunch ←
    Reader.setting found "partial_launch" 3 standard.partialLaunch PartialLaunch.reader
  return ⟨cooldownSeconds, joinTimeoutSeconds?, maxRestarts?, partialLaunch⟩

/-- Reads the settings of the agents. -/
def AgentSettings.reader : Reader AgentSettings := fun tree => do
  let found ← Reader.toSection "AgentRuntimeConfig" tree
  let registrationRetryMs ←
    Reader.setting found "registration_retry_ms" 0 standard.registrationRetryMs Reader.word64
  let stopGraceMs ←
    Reader.setting found "stop_grace_ms" 1 standard.stopGraceMs Reader.word64
  return ⟨registrationRetryMs, stopGraceMs⟩

/-- Reads the settings of the log. -/
def LoggingSettings.reader : Reader LoggingSettings := fun tree => do
  let found ← Reader.toSection "LoggingConfig" tree
  let level ← Reader.setting found "level" 0 standard.level Reader.text
  let json ← Reader.setting found "json" 1 standard.json Reader.boolean
  let directory? ← Reader.setting found "dir" 2 none Reader.text.optional
  return ⟨level, json, directory?⟩

namespace Configuration

/-- Reads all settings. -/
def reader : Reader Configuration := fun tree => do
  let found ← Reader.toSection "AppConfig" tree
  let supervisor ←
    Reader.setting found "supervisor" 0 .standard SupervisorSettings.reader
  let agent ← Reader.setting found "agent" 1 .standard AgentSettings.reader
  let logging ← Reader.setting found "logging" 2 .standard LoggingSettings.reader
  return ⟨supervisor, agent, logging⟩

/-- The layer of the defaults. -/
def defaults : List (String × Tree) :=
  [("supervisor.cooldown_secs",
      .scalar none (.integer SupervisorSettings.standard.cooldownSeconds.toNat)),
   ("agent.registration_retry_ms",
      .scalar none (.integer AgentSettings.standard.registrationRetryMs.toNat)),
   ("agent.stop_grace_ms",
      .scalar none (.integer AgentSettings.standard.stopGraceMs.toNat)),
   ("logging.level", .scalar none (.text LoggingSettings.standard.level)),
   ("logging.json", .scalar none (.boolean LoggingSettings.standard.json))]

/-- The variable that names the second settings file. -/
def fileVariable : String := "DCOP_AGENT_ENV"

/-- The second settings file where no variable names it. -/
def standardFile : String := "development"

/-- The name of the second settings file. -/
def secondFile (environment : List (String × String)) : String :=
  (environment.lookup fileVariable).getD standardFile

/-- The layer of a settings file of a directory, nothing if there is no such file. -/
def fileLayer (store : FileStore) (directory name : String) :
    Except Fault (List (String × Tree)) :=
  match SettingsFile.find? store (FilePath.join directory name) with
  | some file => file.layer store.formats
  | none => .ok []

/-- All layers on top of each other. -/
def settings (store : FileStore) (environment : List (String × String))
    (directory : String) : Except Fault Tree := do
  let first ← fileLayer store directory "default.toml"
  let second ← fileLayer store directory (secondFile environment)
  return Tree.empty
    |>.withLayer defaults
    |>.withLayer first
    |>.withLayer second
    |>.withLayer (Settings.Environment.layer environment)

/-- The configuration for the files of a working directory, the environment variables and
the settings directory. -/
def load (store : FileStore) (environment : List (String × String)) (directory : String) :
    Except Fault Configuration := do
  reader (← settings store environment directory)

end Configuration
end AgentCohort
