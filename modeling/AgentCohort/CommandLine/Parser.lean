import AgentCohort.CommandLine.Parameter
import AgentCohort.Numeral

/-!
# Reading the command line

Arguments are taken from the left.  A parameter that waits for its value is settled when
the next parameter or the end is met, and only then its value is checked; so an argument
that belongs nowhere is reported before a wrong value in front of it.
-/

namespace AgentCohort
namespace CommandLine

/-- Why a value cannot be taken. -/
inductive ValueFault where
  /-- It is no whole number of 64 bits. -/
  | numeral (fault : Numeral.Fault)
  /-- It is no port. -/
  | notPort (number : Int)
  deriving DecidableEq, Repr

/-- The words for a wrong value. -/
def ValueFault.message : ValueFault → String
  | .numeral fault => fault.message
  | .notPort number => toString number ++ " is not in 0..=65535"

/-- Why a command line cannot be used. -/
inductive Fault where
  /-- Parameters that must be given are not. -/
  | missing (parameters : List Parameter)
  /-- An argument belongs nowhere. -/
  | unknown (argument : String)
  /-- A parameter has no value. -/
  | noValue (parameter : Parameter)
  /-- A value is wrong. -/
  | badValue (parameter : Parameter) (value : String) (cause : ValueFault)
  /-- A parameter is given twice. -/
  | repeated (parameter : Parameter)
  /-- A value is given to a parameter that takes none. -/
  | surplusValue (parameter : Parameter) (value : String)
  deriving DecidableEq, Repr

/-- Why reading stops before the end. -/
inductive Stop where
  /-- The help text is wanted. -/
  | help
  /-- The version is wanted. -/
  | version
  /-- The command line cannot be used. -/
  | fault (fault : Fault)
  deriving DecidableEq, Repr

/-- What the command line says. -/
structure Arguments where
  /-- Names of the agents. -/
  names : List String
  /-- Address that the agents listen on. -/
  address? : Option String
  /-- Message port of the first agent. -/
  port : UInt16
  /-- Address of the orchestrator, not yet read. -/
  orchestrator : String
  /-- User-interface port of the first agent. -/
  uiPort? : Option UInt16
  /-- Whether the agents are started again. -/
  restart : Bool
  /-- Directory with settings files. -/
  configDirectory : String
  deriving DecidableEq, Repr

/-- What has been given so far. -/
structure Given where
  /-- Names of the agents. -/
  names : List String
  /-- Address that the agents listen on. -/
  address? : Option String
  /-- Message port of the first agent. -/
  port? : Option UInt16
  /-- Address of the orchestrator. -/
  orchestrator? : Option String
  /-- User-interface port of the first agent. -/
  uiPort? : Option UInt16
  /-- Whether the agents are started again. -/
  restart : Bool
  /-- Directory with settings files. -/
  configDirectory? : Option String
  deriving DecidableEq, Repr

namespace Given

/-- Nothing yet. -/
def nothing : Given :=
  ⟨[], none, none, none, none, false, none⟩

/-- Whether a parameter has been given. -/
def has (given : Given) : Parameter → Bool
  | .names => !given.names.isEmpty
  | .address => given.address?.isSome
  | .port => given.port?.isSome
  | .orchestrator => given.orchestrator?.isSome
  | .uiPort => given.uiPort?.isSome
  | .restart => given.restart
  | .configDirectory => given.configDirectory?.isSome
  | .help | .version => false

/-- A port as the value of a parameter. -/
def readPort (parameter : Parameter) (value : String) : Except Stop UInt16 :=
  match Numeral.readInt64 value.toList with
  | .error fault => .error (.fault (.badValue parameter value (.numeral fault)))
  | .ok number =>
    if 0 ≤ number ∧ number ≤ 65535 then
      .ok (UInt16.ofNat number.toNat)
    else
      .error (.fault (.badValue parameter value (.notPort number)))

/-- Takes in a parameter that takes no value. -/
def setFlag (given : Given) (parameter : Parameter) : Except Stop Given :=
  match parameter with
  | .help => .error .help
  | .version => .error .version
  | _ =>
    if given.restart then .error (.fault (.repeated parameter))
    else .ok { given with restart := true }

/-- Takes in a parameter with one value; it must not have been given before. -/
def setValue (given : Given) (parameter : Parameter) (value : String) :
    Except Stop Given := do
  if given.has parameter then
    throw (.fault (.repeated parameter))
  match parameter with
  | .address => return { given with address? := some value }
  | .port => return { given with port? := some (← readPort parameter value) }
  | .orchestrator => return { given with orchestrator? := some value }
  | .uiPort => return { given with uiPort? := some (← readPort parameter value) }
  | .configDirectory => return { given with configDirectory? := some value }
  | _ => return given

/-- Takes in a parameter with the values that belong to it. -/
def set (given : Given) (parameter : Parameter) (values : List String) :
    Except Stop Given :=
  match values with
  | [] => .error (.fault (.noValue parameter))
  | value :: _ =>
    if parameter.takesSeveral then .ok { given with names := given.names ++ values }
    else given.setValue parameter value

/-- What has been given, if nothing that must be given is missing. -/
def complete (given : Given) : Except Stop Arguments :=
  match given.names, given.port?, given.orchestrator? with
  | _ :: _, some port, some orchestrator =>
    .ok {
      names := given.names
      address? := given.address?
      port
      orchestrator
      uiPort? := given.uiPort?
      restart := given.restart
      configDirectory := given.configDirectory?.getD "config" }
  | _, _, _ =>
    let missing := Parameter.all.filter fun parameter =>
      parameter.isRequired && !given.has parameter
    .error (.fault (.missing missing))

end Given

/-- Where reading stands. -/
structure State where
  /-- What has been given and settled. -/
  given : Given
  /-- A parameter that is not settled yet, with its values so far. -/
  pending? : Option (Parameter × List String)
  /-- Whether the parameter that is not settled takes a further value. -/
  isOpen : Bool
  deriving DecidableEq, Repr

namespace State

/-- The start. -/
def start : State :=
  ⟨.nothing, none, false⟩

/-- What has been given after the parameter that was not settled is. -/
def settle (state : State) : Except Stop Given :=
  match state.pending? with
  | some (parameter, values) => state.given.set parameter values
  | none => .ok state.given

/-- Takes in a parameter with the value that is attached to it, if any. -/
def parameter (state : State) (parameter : Parameter) (attached? : Option String) :
    Except Stop State := do
  let given ← state.settle
  if parameter.takesValue then
    match attached? with
    | some value => return ⟨← given.set parameter [value], none, false⟩
    | none => return ⟨given, some (parameter, []), true⟩
  else
    return ⟨← given.setFlag parameter, none, false⟩

/-- Takes in an argument that is no parameter. -/
def value (state : State) (argument : String) : Except Stop State :=
  match state.isOpen, state.pending? with
  | true, some (parameter, values) =>
    .ok ⟨state.given, some (parameter, values ++ [argument]), parameter.takesSeveral⟩
  | _, _ => .error (.fault (.unknown argument))

/-- Takes in a long spelling with what follows its first equals sign, if any. -/
def longSpelling (state : State) (cs : List Char) : Except Stop State :=
  let name := String.ofList (cs.takeWhile (· ≠ '='))
  let attached? := match cs.dropWhile (· ≠ '=') with
    | '=' :: rest => some (String.ofList rest)
    | _ => none
  match Parameter.ofLong? name with
  | none => .error (.fault (.unknown ("--" ++ name)))
  | some parameter =>
    match parameter.takesValue, attached? with
    | false, some value => .error (.fault (.surplusValue parameter value))
    | _, _ => state.parameter parameter attached?

/-- The value attached to a letter: what follows, without one leading equals sign. -/
def attachedTo (rest : List Char) : Option String :=
  match rest with
  | [] => none
  | '=' :: value => some (String.ofList value)
  | value => some (String.ofList value)

/-- Takes in the letters after one hyphen. -/
def shortSpellings (state : State) : List Char → Except Stop State
  | [] => .ok state
  | letter :: rest =>
    match Parameter.ofShort? letter with
    | none => .error (.fault (.unknown ("-" ++ String.ofList [letter])))
    | some parameter =>
      if parameter.takesValue then
        state.parameter parameter (attachedTo rest)
      else
        match state.parameter parameter none with
        | .ok state => state.shortSpellings rest
        | .error stop => .error stop

/-- Takes in one argument. -/
def argument (state : State) (argument : String) : Except Stop State :=
  match argument.toList with
  | '-' :: '-' :: rest => state.longSpelling rest
  | '-' :: letter :: rest => state.shortSpellings (letter :: rest)
  | _ => state.value argument

/-- Takes in all arguments; after two hyphens alone nothing may follow. -/
def arguments (state : State) : List String → Except Stop Given
  | [] => state.settle
  | "--" :: [] => state.settle
  | "--" :: next :: _ => .error (.fault (.unknown next))
  | next :: rest =>
    match state.argument next with
    | .ok state => state.arguments rest
    | .error stop => .error stop

end State

/-- What a command line says. -/
def parse (arguments : List String) : Except Stop Arguments := do
  (← State.start.arguments arguments).complete

end CommandLine
end AgentCohort
