import AgentCohort.CommandLine
import AgentCohort.Configuration.Load
import AgentCohort.Program.Process

/-!
# The program

From the command line, the environment and the files of the working directory to the exit
code, the log and the standard error output.  The command line is read first, then the
settings; what is wrong with the settings is logged and ends the program before the
address of the orchestrator is looked at, and a malformed address ends it before any
agent is made.
-/

namespace AgentCohort
namespace Program

open Supervision (Plan Platform)

/-- What the program is begun with. -/
structure Invocation where
  /-- The arguments. -/
  arguments : List String
  /-- The environment variables. -/
  environment : List (String × String)
  /-- The files of the working directory. -/
  files : Files
  /-- What settings files depend on apart from what is in them. -/
  formats : Settings.Formats
  /-- The date, for the names of log files. -/
  date : String
  /-- The host. -/
  platform : Platform
  /-- The signal that will come. -/
  planned? : Option PlannedSignal

/-- What the program leaves behind. -/
structure Result where
  /-- The exit code. -/
  exitCode : Nat
  /-- The lines on the standard error output. -/
  errors : List String
  /-- The lines of the log that were written. -/
  log : List Log.Line
  /-- Whether those lines were written as JSON. -/
  isJson : Bool
  /-- Other lines on the standard output. -/
  output : List String
  /-- The files of the working directory. -/
  files : Files

namespace Result

/-- The end of a program that has not done anything. -/
def early (exitCode : Nat) (output : List String) (files : Files) : Result :=
  ⟨exitCode, [], [], false, output, files⟩

/-- The line with which a failed program ends. -/
def failureLine (failure : Failure) : String :=
  "Error: " ++ failure.structured

end Result

/-- The lines of a text that ends with a line. -/
def linesOf (text : String) : List String :=
  let lines := text.splitOn "\n"
  if lines.getLast? = some "" then lines.dropLast else lines

/-- A line as the console shows it, without the time. -/
def consoleText (isJson : Bool) (line : Log.Line) : String :=
  if isJson then
    (Json.record [("level", .text line.level.label),
      ("fields", .record [("message", .text line.message)]),
      ("target", .text line.target)]).compact
  else
    line.level.label ++ " " ++ line.target ++ ": " ++ line.message

/-- Whether a text occurs in another one. -/
def occursIn (text : List Char) : List Char → Bool
  | [] => text.isEmpty
  | c :: rest => text.isPrefixOf (c :: rest) || occursIn text rest

/-- Whether a line is written and holds a text. -/
def isWritten (setup : LogSetup) (text : String) (line : Log.Line) : Bool :=
  setup.filter.passes line &&
    occursIn text.toList (consoleText setup.isJson line).toList

/-- The program once its log is set up: the lines that are logged, written or not, and how
it ends. -/
def conduct
    (invocation : Invocation)
    (arguments : CommandLine.Arguments)
    (configuration : Configuration)
    (setup : LogSetup) : List Log.Line × Except Failure Unit :=
  let complaints := configuration.complaints
  if complaints.isEmpty then
    match arguments.orchestratorAddress with
    | .error failure => ([], .error failure)
    | .ok orchestrator =>
      let plan : Plan := ⟨arguments.names, orchestrator, arguments.endpointBase⟩
      let process := Process.start plan arguments.restart invocation.planned?
      let ended := process.complete
        (scenario configuration.supervisor invocation.platform plan) (isWritten setup)
      (ended.lines.map Prod.snd, ended.session.outcome?.getD (.ok ()))
  else
    (complaints.map fun text => (Notice.complaint text).line,
      .error (.internal s!"{complaints.length} configuration errors"))

/-- The program with its arguments. -/
def runWith (invocation : Invocation) (arguments : CommandLine.Arguments) : Result :=
  let store := { Settings.FileStore.ofFiles invocation.files with formats := invocation.formats }
  match Configuration.load store invocation.environment arguments.configDirectory with
  | .error fault =>
    { Result.early 1 [] invocation.files with
      errors := [Result.failureLine (.settings fault)] }
  | .ok configuration =>
    let setup := LogSetup.ofSettings invocation.files
      (invocation.environment.lookup LogSetup.filterVariable) configuration.logging
    let (lines, outcome) := conduct invocation arguments configuration setup
    let log := lines.filter setup.filter.passes
    let files := setup.filesAfter invocation.files invocation.date
    match outcome with
    | .ok () => ⟨0, setup.remarks, log, setup.isJson, [], files⟩
    | .error failure =>
      ⟨1, setup.remarks ++ [Result.failureLine failure], log, setup.isJson, [], files⟩

/-- The program. -/
def run (invocation : Invocation) : Result :=
  match CommandLine.parse invocation.arguments with
  | .ok arguments => runWith invocation arguments
  | .error .help => .early 0 (linesOf CommandLine.helpText) invocation.files
  | .error .version => .early 0 (linesOf CommandLine.versionText) invocation.files
  | .error (.fault _) => .early 2 [] invocation.files

end Program
end AgentCohort
