import AgentCohort.Agent.Notice
import AgentCohort.Configuration

/-!
# The life of an agent

An agent that is started opens its servers and registers with the orchestrator, again and
again until the orchestrator accepts it.  A request to stop, from outside or by a message,
lets its servers take no more connections; when they have dealt with the open ones, or the
time for that is over, the agent ends.  The moves of an agent are what can happen next;
where two things are ready at once, either may come first.
-/

namespace AgentCohort
namespace Agent

open Network.Http (Request Response)

/-- An agent and its settings. -/
structure Profile where
  /-- What it is made from. -/
  blueprint : Blueprint
  /-- How it behaves. -/
  settings : AgentSettings
  /-- What takes the messages out of the requests to it. -/
  extract : Service.Extractor

/-- How far a server has come. -/
inductive ServerState where
  /-- There is no server. -/
  | absent
  /-- It takes connections; some requests are open. -/
  | listening (held : Nat)
  /-- It takes no more connections; some requests are open. -/
  | closing (held : Nat)
  /-- It has ended. -/
  | closed
  deriving DecidableEq, Repr

namespace ServerState

/-- Whether it takes connections, so that its port is bound. -/
def isListening : ServerState → Bool
  | listening _ => true
  | absent | closing _ | closed => false

/-- Whether there is nothing to wait for. -/
def isGone : ServerState → Bool
  | absent | closed => true
  | listening _ | closing _ => false

/-- The server with a request that stays open. -/
def hold : ServerState → ServerState
  | listening held => .listening (held + 1)
  | other => other

/-- The server with one open request less, if it has any. -/
def release? : ServerState → Option ServerState
  | listening (held + 1) => some (.listening held)
  | closing (held + 1) => some (.closing held)
  | listening 0 | closing 0 | absent | closed => none

end ServerState

/-- What an agent is doing. -/
inductive Stage where
  /-- Nothing: it is not started, or could not be. -/
  | idle
  /-- It has been started and is about to begin. -/
  | spawned
  /-- It waits for the answer to a registration. -/
  | attempting
  /-- It waits until it registers again. -/
  | pausing (wakeTime : Nat)
  /-- It is registered and waits for a request to stop. -/
  | serving
  /-- It waits for a server to end, until a given time at most. -/
  | draining (server : Server) (deadline : Nat)
  /-- It has ended. -/
  | ended
  deriving DecidableEq, Repr

/-- Something in the life of an agent. -/
inductive Deed where
  /-- Its status changes. -/
  | status (status : Status)
  /-- It sends a registration to an address. -/
  | attempt (url : String) (registration : Registration)
  /-- An attempt to register ends. -/
  | outcome (outcome : Outcome)
  /-- A request is answered with a status. -/
  | answer (server : Server) (request : Request) (status : Nat)
  /-- A line is logged. -/
  | notice (notice : Notice)
  deriving DecidableEq, Repr

/-- The state of an agent. -/
structure Life where
  /-- Its status. -/
  status : Status
  /-- Whether anybody has tried to start it. -/
  isStartCalled : Bool
  /-- Whether it has been asked to stop. -/
  isStopRequested : Bool
  /-- Whether it has ended, so that nobody waits for it any longer. -/
  isDone : Bool
  /-- Whether the orchestrator has accepted it. -/
  isRegistered : Bool
  /-- Number of accepted messages. -/
  messagesReceived : UInt64
  /-- The time at which it was started. -/
  startedAt? : Option Nat
  /-- Number of attempts to register, in a word of 32 bits. -/
  attempts : UInt32
  /-- What it is doing. -/
  stage : Stage
  /-- Its server for messages. -/
  messageServer : ServerState
  /-- The server of its user interface. -/
  uiServer : ServerState
  /-- What has happened, with the times, the newest first. -/
  journal : List (Nat × Deed)
  deriving DecidableEq, Repr

/-- What can happen to an agent that has been started. -/
inductive Move where
  /-- It begins. -/
  | begin
  /-- An attempt to register ends. -/
  | attemptEnds (outcome : Outcome)
  /-- The pause between two attempts is over. -/
  | retry
  /-- It notices that it has been asked to stop. -/
  | noticeStop
  /-- A server notices it, too, and takes no more connections. -/
  | closeListener (server : Server)
  /-- A server without open requests ends. -/
  | serverEnds (server : Server)
  /-- It goes on because the server that it waits for has ended. -/
  | drained
  /-- It ends the server that it waits for because the time is over. -/
  | abort
  deriving DecidableEq, Repr

namespace Life

/-- The state of an agent that has just been made. -/
def initial : Life :=
  ⟨.created, false, false, false, false, 0, none, 0, .idle, .absent, .absent, []⟩

/-! ## Views -/

/-- A server of the agent. -/
def server (life : Life) : Server → ServerState
  | .messages => life.messageServer
  | .userInterface => life.uiServer

/-- The agent with another state of a server. -/
def setServer (server : Server) (state : ServerState) (life : Life) : Life :=
  match server with
  | .messages => { life with messageServer := state }
  | .userInterface => { life with uiServer := state }

/-- Whether waiting for the agent is over: it has ended or nobody has tried to start it. -/
def isJoinable (life : Life) : Bool :=
  life.isDone || !life.isStartCalled

/-- The ports that the agent has bound. -/
def boundPorts (blueprint : Blueprint) (life : Life) : List UInt16 :=
  (if life.messageServer.isListening then [blueprint.binding.port] else []) ++
    (if life.uiServer.isListening then blueprint.uiPort?.toList else [])

/-- The state as others see it; `clock` gives the instant of a time. -/
def snapshot (clock : Nat → Instant) (blueprint : Blueprint) (life : Life) : Snapshot :=
  ⟨blueprint.name, life.status, blueprint.binding.text, blueprint.uiPort?,
    blueprint.orchestrator.text, life.isRegistered, life.messagesReceived,
    life.startedAt?.map clock⟩

/-! ## Small changes -/

/-- Writes down a deed. -/
def note (now : Nat) (deed : Deed) (life : Life) : Life :=
  { life with journal := (now, deed) :: life.journal }

/-- Logs a line. -/
def log (now : Nat) (notice : Notice) (life : Life) : Life :=
  life.note now (.notice notice)

/-- Changes the status. -/
def setStatus (now : Nat) (status : Status) (life : Life) : Life :=
  if life.status = status then life
  else { life with status := status }.note now (.status status)

/-- Asks the agent to stop; only the first time has an effect. -/
def requestStop (now : Nat) (life : Life) : Life :=
  if life.isStopRequested then
    life
  else
    let asked := { life with isStopRequested := true }.log now .stopRequested
    if asked.status.isActive then asked.setStatus now .stopping else asked

/-- The end of an agent. -/
def finish (now : Nat) (life : Life) : Life :=
  { life.setStatus now .stopped with isDone := true }

/-- Sends a registration. -/
def beginAttempt (now : Nat) (blueprint : Blueprint) (life : Life) : Life :=
  { life with attempts := life.attempts + 1, stage := .attempting }.note now
    (.attempt blueprint.registrationUrl blueprint.registration)

/-! ## Requests to an agent -/

/-- Starts the agent unless its ports cannot be bound.  An agent is started only once, and
one that could not be started has ended. -/
def start (now : Nat) (blueprint : Blueprint) (bindFailure? : Option Failure) (life : Life) :
    Life × Except Failure Unit :=
  if life.isStartCalled then
    (life, .error (.agentStart blueprint.name "already started"))
  else
    let called := { life with isStartCalled := true }
    match bindFailure? with
    | some failure => (called.finish now, .error failure)
    | none =>
      let opened := { called with
        startedAt? := some now
        stage := .spawned
        messageServer := .listening 0
        uiServer := if blueprint.uiPort?.isSome then .listening 0 else .absent }
      (opened.setStatus now .registering, .ok ())

/-- Takes a message in. -/
def receive (now : Nat) (message : Message) (life : Life) : Life :=
  let counted := { life with messagesReceived := life.messagesReceived + 1 }
  match message with
  | .stop => (counted.log now .toldToStop).requestStop now
  | .ping | .other => counted

/-- Answers a request. -/
def answer
    (now : Nat)
    (clock : Nat → Instant)
    (profile : Profile)
    (server : Server)
    (request : Request)
    (life : Life) : Life × Response :=
  match Service.react profile.extract (life.snapshot clock profile.blueprint) server request with
  | .accept message =>
    ((life.receive now message).note now
      (.answer server request Service.acceptance.status), Service.acceptance)
  | .respond response => (life.note now (.answer server request response.status), response)

/-! ## Moves -/

/-- The stage after a server has been drained. -/
def afterDraining (now : Nat) (settings : AgentSettings) (server : Server) (life : Life) :
    Life :=
  match server, life.uiServer with
  | .messages, .absent | .userInterface, _ =>
    { (life.log now .stopped).finish now with stage := .ended }
  | .messages, _ =>
    { life with stage := .draining .userInterface (now + settings.stopGrace.milliseconds) }

/-- What the end of an attempt to register leads to. -/
def endAttempt (now : Nat) (settings : AgentSettings) (outcome : Outcome) (life : Life) : Life :=
  let noted := life.note now (.outcome outcome)
  if outcome.isSuccess then
    let registered := { noted with isRegistered := true, stage := .serving }
    (registered.setStatus now .running).log now .registered
  else
    let pausing :=
      { noted with stage := .pausing (now + settings.registrationRetry.milliseconds) }
    match outcome with
    | .answered status => pausing.log now (.rejected status)
    | .unreachable cause =>
      if pausing.attempts = 1 then pausing.log now (.waiting cause) else pausing

/-- Whether the agent waits for something that a request to stop interrupts. -/
def isInterruptible (life : Life) : Bool :=
  match life.stage with
  | .spawned | .attempting | .pausing _ | .serving => true
  | .idle | .draining .. | .ended => false

/-- The agent as its task begins: before anything else the task logs that the servers are up. -/
def announced (now : Nat) (life : Life) : Life :=
  if life.stage = .spawned then life.log now .listening else life

/-- What a move leads to, or nothing if it is not possible now. -/
def step? (now : Nat) (profile : Profile) (move : Move) (life : Life) : Option Life :=
  match move with
  | .begin =>
    if life.stage = .spawned then
      some ((life.log now .listening).beginAttempt now profile.blueprint)
    else none
  | .attemptEnds outcome =>
    if life.stage = .attempting then some (life.endAttempt now profile.settings outcome)
    else none
  | .retry =>
    match life.stage with
    | .pausing wakeTime =>
      if wakeTime ≤ now then some (life.beginAttempt now profile.blueprint) else none
    | _ => none
  | .noticeStop =>
    if life.isStopRequested ∧ life.isInterruptible then
      some { (life.announced now).setStatus now .stopping with
        stage := .draining .messages (now + profile.settings.stopGrace.milliseconds) }
    else none
  | .closeListener server =>
    match life.server server with
    | .listening held =>
      if life.isStopRequested then some (life.setServer server (.closing held)) else none
    | .absent | .closing _ | .closed => none
  | .serverEnds server =>
    if life.server server = .closing 0 then some (life.setServer server .closed) else none
  | .drained =>
    match life.stage with
    | .draining server _ =>
      if (life.server server).isGone then
        some (life.afterDraining now profile.settings server)
      else none
    | _ => none
  | .abort =>
    match life.stage with
    | .draining server deadline =>
      if !(life.server server).isGone && deadline ≤ now then
        some (((life.log now (.aborting server profile.settings.stopGrace)).setServer server
          .closed).afterDraining now profile.settings server)
      else none
    | _ => none

/-- The time of the timer that the agent waits for. -/
def timer? (life : Life) : Option Nat :=
  match life.stage with
  | .pausing wakeTime => some wakeTime
  | .draining _ deadline => some deadline
  | .idle | .spawned | .attempting | .serving | .ended => none

end Life
end Agent
end AgentCohort
