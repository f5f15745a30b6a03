import AgentCohort.Agent.Message
import AgentCohort.Agent.Snapshot
import AgentCohort.Network.Http

/-!
# What an agent answers

An agent has a server for messages, which also tells how the agent is, and may have a
second one for its user interface.  What is posted to the place for messages goes through
an extractor.  A message that it takes out counts; everything else is answered without any
effect on the agent.
-/

namespace AgentCohort
namespace Agent

open Network.Http (Request Response)

/-- A server of an agent. -/
inductive Server where
  /-- The server for messages. -/
  | messages
  /-- The server of the user interface. -/
  | userInterface
  deriving DecidableEq, Repr

namespace Server

/-- The name of a server in the log. -/
def label : Server → String
  | .messages => "message server"
  | .userInterface => "ui-server"

end Server

/-- What can be found on a server. -/
inductive Resource where
  /-- The place where messages are put. -/
  | inbox
  /-- The state of the agent. -/
  | snapshot
  deriving DecidableEq, Repr

namespace Resource

/-- The resource of a path. -/
def find? (server : Server) (path : String) : Option Resource :=
  match server with
  | .messages =>
    if path = "/messages" then some .inbox
    else if path = "/health" then some .snapshot
    else none
  | .userInterface => if path = "/state" then some .snapshot else none

/-- The methods of a resource. -/
def methods : Resource → List String
  | .inbox => ["POST"]
  | .snapshot => ["GET", "HEAD"]

end Resource

namespace Service

/-! ## What is made of requests -/

/-- Why no message is taken out of a request. -/
inductive Rejection where
  /-- The request does not say that its body is JSON. -/
  | mediaType
  /-- The body is longer than what is read of it. -/
  | length
  /-- The body breaks off. -/
  | interrupted
  /-- The body is no JSON. -/
  | malformed
  /-- The body is JSON, but no message. -/
  | unsuitable (explanation : String)
  deriving DecidableEq, Repr

/-- The response to a request out of which no message is taken. -/
def Rejection.response : Rejection → Response
  | mediaType => .explained 415 "Expected request with \x60Content-Type: application/json\x60"
  | length => .explained 413 "Failed to buffer the request body: length limit exceeded"
  | interrupted => .explained 400 "Failed to buffer the request body"
  | malformed => .explained 400 "Failed to parse the request body as JSON"
  | unsuitable explanation =>
    .explained 422 ("Failed to deserialize the JSON body into the target type: " ++ explanation)

/-- What takes a message out of a request, or rejects the request.  The agent relies on an
extractor that it has not written itself: it takes in what the extractor takes out. -/
abbrev Extractor : Type :=
  Request → Except Rejection Message

/-- What a server makes of a request. -/
inductive Reaction where
  /-- It hands a message to the agent. -/
  | accept (message : Message)
  /-- It answers on its own. -/
  | respond (response : Response)

/-- What is made of a request that puts a message. -/
def receive (extract : Extractor) (request : Request) : Reaction :=
  match extract request with
  | .ok message => .accept message
  | .error rejection => .respond rejection.response

/-- What a server makes of a request. -/
def react (extract : Extractor) (snapshot : Snapshot) (server : Server) (request : Request) :
    Reaction :=
  match Resource.find? server request.path with
  | none => .respond (.plain 404)
  | some resource =>
    if request.method ∈ resource.methods then
      match resource with
      | .inbox => receive extract request
      | .snapshot =>
        let full := Response.valued 200 snapshot.toJson
        .respond (if request.method = "HEAD" then { full with body := .empty } else full)
    else
      .respond { Response.plain 405 with allow? := some (",".intercalate resource.methods) }

/-- The response to a message that was accepted. -/
def acceptance : Response :=
  .valued 202 (Acknowledgement.toJson ⟨true⟩)

end Service
end Agent
end AgentCohort
