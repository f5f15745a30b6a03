import AgentCohort.Json
import AgentCohort.Json.Decoder

/-!
# Messages to an agent

A message is a record with a member `type`.  Two types have a meaning; a message of any
other type is accepted, too.  The other members do not matter, but they are taken in,
so they must be well formed and not nested too deep.
-/

namespace AgentCohort
namespace Agent

open Json (Decoder Document Ending Fault Key)

/-- What an agent is told. -/
inductive Message where
  /-- To end. -/
  | stop
  /-- Nothing: the sender wants to know whether the agent is there. -/
  | ping
  /-- Something without a meaning to the agent itself. -/
  | other
  deriving DecidableEq, Repr

namespace Message

/-- The type that is written for a message. -/
def typeName : Message → String
  | .stop => "stop"
  | .ping => "ping"
  | .other => "other"

/-- The message of a type. -/
def ofTypeName (name : String) : Message :=
  if name = "stop" then .stop else if name = "ping" then .ping else .other

/-- The message as JSON. -/
def toJson (message : Message) : Json :=
  .record [("type", .text message.typeName)]

/-- The message whose type is a given document. -/
def ofType (document : Document) : Except Fault Message :=
  match document with
  | .text name => .ok (ofTypeName name)
  | unsuitable => .error (unsuitable.mismatch "variant identifier")

/-- The break that is met when something inside a message is taken in. -/
def innerBreak? (document : Document) : Option Json.Break :=
  document.keepBreak? (Document.depthLimit - 1)

/-- Takes in the members of a message from the next one on; the type may have been met
before. -/
def ofMembers (message? : Option Message) (ending : Ending) :
    List (Key × Document) → Except Fault Message
  | [] =>
    match ending, message? with
    | .broken cause, _ => .error (.broken cause)
    | .closed, some message => .ok message
    | .closed, none => .error (.data (.missingField "type"))
  | (.name name, value) :: rest =>
    if name = "type" then
      if message?.isSome then .error (.data (.duplicateField "type"))
      else
        match ofType value with
        | .ok message => ofMembers (some message) ending rest
        | .error fault => .error fault
    else
      match innerBreak? value with
      | some cause => .error (.broken cause)
      | none => ofMembers message? ending rest
  | (.broken cause, _) :: _ => .error (.broken cause)
  | _ :: _ => .error (.broken .malformed)

/-- A message written as a list: its type and nothing else. -/
def ofItems (ending : Ending) : List Document → Except Fault Message
  | [] =>
    match ending with
    | .broken cause => .error (.broken cause)
    | .closed => .error (.data (.missingField "type"))
  | first :: rest => do
    let message ← ofType first
    match (rest.findSome? innerBreak?).or ending.break? with
    | some cause => throw (.broken cause)
    | none =>
      if rest.isEmpty then
        return message
      else
        throw (.data (.length rest.length "0 elements in sequence"))

/-- Reads a message. -/
def decoder : Decoder Message := fun _ document =>
  match document with
  | .table members ending => ofMembers none ending members
  | .sequence items ending => ofItems ending items
  | unsuitable => .error (unsuitable.mismatch "internally tagged enum AgentMessage")

end Message

/-- The answer to a message. -/
structure Acknowledgement where
  /-- Whether the message was accepted. -/
  accepted : Bool
  deriving DecidableEq, Repr

namespace Acknowledgement

/-- The answer as JSON. -/
def toJson (acknowledgement : Acknowledgement) : Json :=
  .record [("accepted", .boolean acknowledgement.accepted)]

/-- The fields of an answer. -/
def fields : List Json.Field :=
  [.placed "accepted" .boolean]

/-- Reads an answer. -/
def decoder : Decoder Acknowledgement := fun source document => do
  let found ← Json.collect "MessageAck" fields source document
  let accepted ← found.required "accepted" .boolean
  return ⟨accepted⟩

end Acknowledgement
end Agent
end AgentCohort
