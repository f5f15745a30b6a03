import AgentCohort.Network.HostName
import AgentCohort.Program

/-!
# The command

Reads the settings files and the environment, runs the program and prints what it leaves
behind.  Everything else is decided by the program.
-/

namespace AgentCohort
namespace Command

/-- The paths at which a settings file may be. -/
def settingsPaths (environment : List (String × String)) (directory : String) : List String :=
  let names := ["default.toml", Configuration.secondFile environment]
  let paths := names.map fun name => Settings.FilePath.join directory name
  let extensions := Settings.Formats.plain.extensions.map Prod.snd
  paths.flatMap fun path => path :: extensions.map fun extension => path ++ "." ++ extension

/-- The environment variables that settings can come from. -/
def variableNames : List String :=
  [Configuration.fileVariable, Program.LogSetup.filterVariable,
   "DCOP_AGENT__SUPERVISOR__COOLDOWN_SECS", "DCOP_AGENT__SUPERVISOR__JOIN_TIMEOUT_SECS",
   "DCOP_AGENT__SUPERVISOR__MAX_RESTARTS", "DCOP_AGENT__SUPERVISOR__PARTIAL_LAUNCH",
   "DCOP_AGENT__AGENT__REGISTRATION_RETRY_MS", "DCOP_AGENT__AGENT__STOP_GRACE_MS",
   "DCOP_AGENT__LOGGING__LEVEL", "DCOP_AGENT__LOGGING__JSON", "DCOP_AGENT__LOGGING__DIR"]

/-- The variables that are set. -/
def readEnvironment : IO (List (String × String)) :=
  variableNames.filterMapM fun name => do
    return (← IO.getEnv name).map fun value => (name, value)

/-- The file at a path, if there is one. -/
def readEntry? (path : String) : IO (Option (Settings.FilePath × Settings.FileEntry)) := do
  try
    let bytes ← IO.FS.readBinFile path
    let entry := match String.fromUTF8? bytes with
      | some content => Settings.FileEntry.text content
      | none => .binary
    return some (Settings.FilePath.ofText path, entry)
  catch _ =>
    return none

/-- The settings directory that the arguments name. -/
def settingsDirectory (arguments : List String) : String :=
  match CommandLine.parse arguments with
  | .ok parsed => parsed.configDirectory
  | .error _ => "config"

/-- Runs the program with some arguments and prints what it leaves behind. -/
def perform (arguments : List String) : IO UInt32 := do
  let environment ← readEnvironment
  let paths := settingsPaths environment (settingsDirectory arguments)
  let files ← paths.filterMapM readEntry?
  let result := Program.run
    { arguments := arguments
      environment := environment
      files := files
      formats := .plain
      date := ""
      platform := { Supervision.Platform.isolated with resolver := Network.HostName.resolver }
      planned? := none }
  for line in result.output do
    IO.println line
  for line in result.log do
    IO.println (Program.consoleText result.isJson line)
  for line in result.errors do
    IO.eprintln line
  return UInt32.ofNat result.exitCode

end Command
end AgentCohort

/-- The command. -/
def main (arguments : List String) : IO UInt32 :=
  AgentCohort.Command.perform arguments
