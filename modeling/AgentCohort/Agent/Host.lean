import AgentCohort.Agent.Life

/-!
# Agents on a host

Several agents that share the ports of one address, the orchestrator that they register
with, and a client that sends them requests.  A link that is down lets nobody connect to
anybody, while ports can be bound all the same.  The clock moves only while somebody
waits for an agent or for an attempt to register.
-/

namespace AgentCohort
namespace Agent

open Network.Http (Request Response)

/-- Whether connections are possible. -/
inductive Link where
  /-- Servers that listen can be reached. -/
  | up
  /-- Nobody can be reached. -/
  | down
  deriving DecidableEq, Repr

/-- An agent on a host. -/
structure Tenant where
  /-- The agent and its settings. -/
  profile : Profile
  /-- Its state. -/
  life : Life

namespace Tenant

/-- The ports that the agent has bound. -/
def boundPorts (tenant : Tenant) : List UInt16 :=
  tenant.life.boundPorts tenant.profile.blueprint

/-- The agent after a move, if it is possible. -/
def step? (now : Nat) (move : Move) (tenant : Tenant) : Option Tenant :=
  (tenant.life.step? now tenant.profile move).map fun life => { tenant with life := life }

end Tenant

/-- A request whose body lacks its end. -/
structure HeldRequest where
  /-- The agent that it is sent to. -/
  agent : Nat
  /-- The request with its whole body. -/
  request : Request
  deriving DecidableEq, Repr

/-- A host with agents. -/
structure Host where
  /-- Milliseconds since the clock began. -/
  now : Nat
  /-- Whether connections are possible. -/
  link : Link
  /-- The port that the orchestrator will listen on. -/
  orchestratorPort : UInt16
  /-- Whether the orchestrator listens. -/
  isOrchestratorUp : Bool
  /-- Ports that others have bound. -/
  occupied : List UInt16
  /-- The agents. -/
  tenants : List Tenant
  /-- The requests that lack their ends, the oldest one first. -/
  held : List HeldRequest

/-- What is asked of a host. -/
inductive HostRequest where
  /-- To start an agent. -/
  | start (agent : Nat)
  /-- To ask an agent to stop. -/
  | stop (agent : Nat)
  /-- To wait for an agent. -/
  | join (agent : Nat)
  /-- To let the orchestrator listen. -/
  | openOrchestrator
  /-- To let the orchestrator answer the next attempt to register, or break the
  connection. -/
  | replyToAttempt (status? : Option Nat)
  /-- To bind a port for somebody else. -/
  | occupy (port : UInt16)
  /-- To free all ports bound for others. -/
  | release
  /-- To send a request to an agent. -/
  | send (agent : Nat) (server : Server) (request : Request)
  /-- To send a request without the end of its body. -/
  | hold (agent : Nat) (request : Request)
  /-- To send the end of the oldest request that lacks it. -/
  | finishHeld
  deriving DecidableEq, Repr

/-- What a host replies. -/
inductive HostReply where
  /-- It is done. -/
  | done
  /-- The agent has ended. -/
  | joined
  /-- The agent has not ended in time. -/
  | timedOut
  /-- The request failed. -/
  | failed (failure : Failure)
  /-- There was an attempt to register. -/
  | attempt (registration : Registration)
  /-- There was no attempt to register. -/
  | noAttempt
  /-- An agent has answered. -/
  | response (response : Response)
  /-- Nobody takes connections. -/
  | refused
  /-- The operating system refused something that was taken for granted. -/
  | broken (text : String)
  deriving Repr

namespace Host

/-- A host with agents that nobody has started. -/
def initial (link : Link) (orchestratorPort : UInt16) (profiles : List Profile) : Host :=
  ⟨0, link, orchestratorPort, false, [], profiles.map fun profile => ⟨profile, .initial⟩, []⟩

/-- The ports that are bound on the host. -/
def boundPorts (host : Host) : List UInt16 :=
  (if host.isOrchestratorUp then [host.orchestratorPort] else []) ++ host.occupied ++
    host.tenants.flatMap Tenant.boundPorts

/-- The instant of a time, on a clock that began with the year 1970. -/
def clock (now : Nat) : Instant :=
  ⟨now / 86400000, now / 1000 % 86400, now % 1000 * 1000000⟩

/-- The host with another agent in the place of one. -/
def setTenant (index : Nat) (tenant : Tenant) (host : Host) : Host :=
  { host with tenants := host.tenants.set index tenant }

/-- What the operating system says when a connection is not possible. -/
def connectFailure (host : Host) : String :=
  match host.link with
  | .down => "Network is unreachable (os error 101)"
  | .up => "Connection refused (os error 111)"

/-! ## Moves -/

/-- The moves that agents make on their own, in the order in which they are tried. -/
def ownMoves : List Move :=
  [.noticeStop, .begin, .closeListener .messages, .closeListener .userInterface,
   .serverEnds .messages, .serverEnds .userInterface, .drained, .abort, .retry]

/-- Whether the orchestrator takes connections. -/
def reachesOrchestrator (host : Host) : Bool :=
  host.link = .up && host.isOrchestratorUp

/-- The next move of an agent. -/
def tenantStep? (host : Host) (tenant : Tenant) : Option Tenant :=
  let moves := if host.reachesOrchestrator then ownMoves
    else ownMoves ++ [.attemptEnds (.unreachable host.connectFailure)]
  moves.findSome? fun move => tenant.step? host.now move

/-- The next move of the first agent that has one. -/
def step? (host : Host) : Option Host :=
  (List.range host.tenants.length).findSome? fun index => do
    let tenant ← host.tenants[index]?
    let next ← host.tenantStep? tenant
    return host.setTenant index next

/-- The host after all moves that are possible at this time, up to a number of them. -/
def settle : Nat → Host → Host
  | 0, host => host
  | moves + 1, host =>
    match host.step? with
    | none => host
    | some next => settle moves next

/-- Number of moves at one time after which a host is given up. -/
def patience : Nat := 10000

/-- The time of the next timer after now. -/
def nextTimer? (host : Host) : Option Nat :=
  ((host.tenants.filterMap fun tenant => tenant.life.timer?).filter (host.now < ·)).min?

/-- Lets the clock go on from timer to timer until something has happened or a time is
over; `fuel` bounds the number of timers. -/
def waitFor (isOver : Host → Bool) (limit : Nat) : Nat → Host → Host
  | 0, host => host
  | fuel + 1, host =>
    let settled := host.settle patience
    if isOver settled then
      settled
    else
      match settled.nextTimer? with
      | some time =>
        if time ≤ limit then waitFor isOver limit fuel { settled with now := time }
        else { settled with now := limit }
      | none => { settled with now := max settled.now limit }

/-- Milliseconds that a client waits for an agent or for an attempt to register. -/
def clientPatience : Nat := 3000

/-- Waits until something has happened, but not for ever. -/
def awaitThat (isOver : Host → Bool) (host : Host) : Host :=
  host.waitFor isOver (host.now + clientPatience) (clientPatience + 1)

/-! ## Requests -/

/-- The agent whose attempt to register is next. -/
def attempting? (host : Host) : Option Nat :=
  host.tenants.findIdx? fun tenant => tenant.life.stage == .attempting

/-- Starts an agent. -/
def start (index : Nat) (tenant : Tenant) (host : Host) : Host × HostReply :=
  let blueprint := tenant.profile.blueprint
  let (life, outcome) := tenant.life.start host.now blueprint
    (blueprint.bindFailure? (fun _ => true) host.boundPorts)
  let started := host.setTenant index { tenant with life := life }
  match outcome with
  | .ok () => (started, .done)
  | .error failure => (started, .failed failure)

/-- Lets the orchestrator answer the next attempt to register. -/
def replyToAttempt (status? : Option Nat) (host : Host) : Host × HostReply :=
  let waited := host.awaitThat fun host => host.attempting?.isSome
  let outcome : Outcome := match status? with
    | some status => .answered status
    | none => .unreachable "connection closed before message completed"
  let answered := do
    let index ← waited.attempting?
    let tenant ← waited.tenants[index]?
    let next ← tenant.step? waited.now (.attemptEnds outcome)
    return (waited.setTenant index next, HostReply.attempt tenant.profile.blueprint.registration)
  answered.getD (waited, .noAttempt)

/-- Sends a request to an agent. -/
def send (index : Nat) (server : Server) (request : Request) (tenant : Tenant) (host : Host) :
    Host × HostReply :=
  if host.link = .up ∧ (tenant.life.server server).isListening then
    let (life, response) :=
      tenant.life.answer host.now clock tenant.profile server request
    (host.setTenant index { tenant with life := life }, .response response)
  else
    (host, .refused)

/-- Sends a request without the end of its body. -/
def hold (index : Nat) (request : Request) (tenant : Tenant) (host : Host) : Host × HostReply :=
  if host.link = .up ∧ tenant.life.messageServer.isListening then
    let life := tenant.life.setServer .messages tenant.life.messageServer.hold
    ({ host.setTenant index { tenant with life := life } with
        held := host.held ++ [⟨index, request⟩] }, .done)
  else
    (host, .broken host.connectFailure)

/-- Sends the end of the oldest request that lacks it. -/
def finishHeld (host : Host) : Host × HostReply :=
  match host.held with
  | [] => (host, .broken "no held request")
  | first :: rest =>
    let fewer := { host with held := rest }
    let answered := do
      let tenant ← host.tenants[first.agent]?
      let server ← tenant.life.messageServer.release?
      let (life, response) := tenant.life.answer host.now clock tenant.profile .messages
        first.request
      return (fewer.setTenant first.agent
        { tenant with life := life.setServer .messages server }, HostReply.response response)
    answered.getD (fewer, .refused)

/-- Does something with an agent, if there is one of that number. -/
def withTenant
    (index : Nat)
    (act : Tenant → Host → Host × HostReply)
    (host : Host) : Host × HostReply :=
  match host.tenants[index]? with
  | some tenant => act tenant host
  | none => (host, .broken "no such agent")

/-- Does what is asked. -/
def handle (request : HostRequest) (host : Host) : Host × HostReply :=
  match request with
  | .start agent => host.withTenant agent (start agent)
  | .stop agent => host.withTenant agent fun tenant host =>
      (host.setTenant agent { tenant with life := tenant.life.requestStop host.now }, .done)
  | .join agent =>
    let isOver (host : Host) :=
      (host.tenants[agent]?).all fun tenant => tenant.life.isJoinable
    let waited := host.awaitThat isOver
    (waited, if isOver waited then .joined else .timedOut)
  | .openOrchestrator =>
    if host.boundPorts.contains host.orchestratorPort then (host, .broken Blueprint.takenText)
    else ({ host with isOrchestratorUp := true }, .done)
  | .replyToAttempt status? => host.replyToAttempt status?
  | .occupy port =>
    if Blueprint.isTaken port host.boundPorts then (host, .broken Blueprint.takenText)
    else ({ host with occupied := host.occupied ++ [port] }, .done)
  | .release => ({ host with occupied := [] }, .done)
  | .send agent server request => host.withTenant agent (send agent server request)
  | .hold agent request => host.withTenant agent (hold agent request)
  | .finishHeld => host.finishHeld

/-- Does what is asked and lets the agents go on until they wait. -/
def perform (request : HostRequest) (host : Host) : Host × HostReply :=
  let (next, reply) := host.handle request
  (next.settle patience, reply)

end Host
end Agent
end AgentCohort
