import AgentCohort.Agent.Service
import AgentCohort.Network.MediaType

/-!
# The extractor of messages

How the program takes a message out of a request: it looks at the media type first, then
at the length of the body, and then for the message that the body begins with.  A body is
read as far as its bytes are characters.
-/

namespace AgentCohort
namespace Agent
namespace Service

open Json (Document)

/-- Bytes of the longest body that is read. -/
def bodyLimit : Nat := 2 * 1024 * 1024

/-- Stands where bytes are no character; no JSON text holds it. -/
def noCharacter : Char := '\x00'

/-- The characters of a body from a place on, after those before it in reverse, up to the
first bytes that are none; `fuel` bounds their number. -/
def charsFrom (body : ByteArray) (before : List Char) : Nat → Nat → List Char
  | 0, _ => before.reverse
  | fuel + 1, place =>
    if place < body.size then
      match body.utf8DecodeChar? place with
      | some c => charsFrom body (c :: before) fuel (place + c.utf8Size)
      | none => (noCharacter :: before).reverse
    else before.reverse

/-- The characters of a body. -/
def charsOf (body : Network.Http.Bytes) : List Char :=
  charsFrom ⟨body.toArray⟩ [] body.length 0

/-- The place of a type that is none, as far as it is told. -/
def placeOf (document : Document) (mismatch : Json.Mismatch) : String :=
  match mismatch, document with
  | .type _ "variant identifier", .table .. => "type: "
  | .type _ "variant identifier", .sequence .. => "[0]: "
  | _, _ => ""

/-- Why no message is taken out of a body. -/
def rejectionOf (document : Document) : Json.Fault → Rejection
  | .broken _ => .malformed
  | .data mismatch => .unsuitable (placeOf document mismatch ++ mismatch.message)

/-- The extractor of JSON messages. -/
def jsonExtractor : Extractor := fun request =>
  if !(request.contentType?.any Network.MediaType.isJson) then
    .error .mediaType
  else if bodyLimit < request.body.length then
    .error .length
  else
    let document := (Document.ofChars (charsOf request.body)).1
    match Message.decoder .text document with
    | .ok message => .ok message
    | .error fault => .error (rejectionOf document fault)

end Service
end Agent
end AgentCohort
