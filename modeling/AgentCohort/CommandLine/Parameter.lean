/-!
# Parameters of the command line

What can be given on the command line, how it is spelled, and the help text, which is
laid out from the spellings and descriptions.
-/

namespace AgentCohort
namespace CommandLine

/-- The name of the program. -/
def programName : String := "dcop-agent"

/-- The version of the program. -/
def programVersion : String := "0.1.0"

/-- What can be given on the command line. -/
inductive Parameter where
  /-- Names of the agents. -/
  | names
  /-- Address that the agents listen on. -/
  | address
  /-- Message port of the first agent. -/
  | port
  /-- Address of the orchestrator. -/
  | orchestrator
  /-- User-interface port of the first agent. -/
  | uiPort
  /-- Whether the agents are started again. -/
  | restart
  /-- Directory with settings files. -/
  | configDirectory
  /-- The help text is wanted. -/
  | help
  /-- The version is wanted. -/
  | version
  deriving DecidableEq, Repr

namespace Parameter

/-- All parameters in the order of the help text. -/
def all : List Parameter :=
  [.names, .address, .port, .orchestrator, .uiPort, .restart, .configDirectory, .help,
    .version]

/-- The spelling with two hyphens, without these. -/
def long : Parameter → String
  | .names => "names"
  | .address => "address"
  | .port => "port"
  | .orchestrator => "orchestrator"
  | .uiPort => "uiport"
  | .restart => "restart"
  | .configDirectory => "config-dir"
  | .help => "help"
  | .version => "version"

/-- The letter of the spelling with one hyphen. -/
def short? : Parameter → Option Char
  | .names => some 'n'
  | .address => none
  | .port => some 'p'
  | .orchestrator => some 'o'
  | .uiPort => some 'i'
  | .restart => none
  | .configDirectory => some 'c'
  | .help => some 'h'
  | .version => some 'V'

/-- Whether a value follows. -/
def takesValue : Parameter → Bool
  | .restart | .help | .version => false
  | _ => true

/-- Whether any number of values may follow. -/
def takesSeveral (parameter : Parameter) : Bool :=
  parameter = .names

/-- Whether it must be given. -/
def isRequired : Parameter → Bool
  | .names | .port | .orchestrator => true
  | _ => false

/-- The placeholder of the value. -/
def placeholder : Parameter → String
  | .names => "<NAMES>..."
  | .address => "<ADDRESS>"
  | .port => "<PORT>"
  | .orchestrator => "<ORCHESTRATOR>"
  | .uiPort => "<UIPORT>"
  | .configDirectory => "<CONFIG_DIR>"
  | .restart | .help | .version => ""

/-- The long spelling with the placeholder of the value. -/
def usage (parameter : Parameter) : String :=
  "--" ++ parameter.long ++
    (if parameter.takesValue then " " ++ parameter.placeholder else "")

/-- What the help text says about it. -/
def description : Parameter → String
  | .names => "Names of the agent(s); must match the agents the orchestrator expects"
  | .address =>
    "IP address or host name the agents listen on (primary IP address when not given)"
  | .port => "Message port of the first agent, incremented for each subsequent agent"
  | .orchestrator => "Address of the orchestrator as <ip>:<port>"
  | .uiPort =>
    "Ui-server port of the first agent (same behavior as --port); " ++
      "no ui-server is started when not given"
  | .restart => "Restart the agent(s) when they have all stopped (daemon mode)"
  | .configDirectory => "Config directory [default: config]"
  | .help => "Print help"
  | .version => "Print version"

/-- The parameter with a long spelling. -/
def ofLong? (name : String) : Option Parameter :=
  all.find? (·.long = name)

/-- The parameter with a letter. -/
def ofShort? (letter : Char) : Option Parameter :=
  all.find? (·.short? = some letter)

/-- Both spellings as the help text shows them. -/
def spellings (parameter : Parameter) : String :=
  let short := match parameter.short? with
    | some letter => "-" ++ String.ofList [letter] ++ ", "
    | none => "    "
  "  " ++ short ++ parameter.usage

/-- The width of the spellings in the help text. -/
def spellingWidth : Nat :=
  all.foldl (fun width parameter => max width parameter.spellings.length) 0

/-- The line of the help text. -/
def helpLine (parameter : Parameter) : String :=
  let gap := spellingWidth + 2 - parameter.spellings.length
  parameter.spellings ++ String.ofList (List.replicate gap ' ') ++ parameter.description ++ "\n"

end Parameter

/-- The help text. -/
def helpText : String :=
  let required := (Parameter.all.filter (·.isRequired)).map fun parameter =>
    " " ++ parameter.usage
  "Run one or several standalone agents\n\nUsage: " ++ programName ++ " [OPTIONS]" ++
    String.join required ++ "\n\nOptions:\n" ++
    String.join (Parameter.all.map Parameter.helpLine)

/-- The version text. -/
def versionText : String :=
  programName ++ " " ++ programVersion ++ "\n"

end CommandLine
end AgentCohort
