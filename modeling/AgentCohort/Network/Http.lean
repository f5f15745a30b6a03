import AgentCohort.Json

/-!
# Requests and responses

The parts of the hypertext protocol that an agent uses.
-/

namespace AgentCohort
namespace Network
namespace Http

/-- What is sent as it is: neither a header nor a body has to be a text. -/
abbrev Bytes : Type :=
  List UInt8

/-- The bytes of a text. -/
def bytesOf (text : String) : Bytes :=
  text.toUTF8.data.toList

/-- What somebody asks of a server. -/
structure Request where
  /-- The method, in capital letters. -/
  method : String
  /-- The path, which a query may follow. -/
  target : String
  /-- The first header for the media type of the body. -/
  contentType? : Option Bytes
  /-- The body. -/
  body : Bytes
  deriving DecidableEq, Repr

/-- The path without the query. -/
def Request.path (request : Request) : String :=
  String.ofList (request.target.toList.takeWhile fun c => c != '?' && c != '#')

/-- What a response carries. -/
inductive Body where
  /-- Nothing. -/
  | empty
  /-- A text. -/
  | text (value : String)
  /-- A JSON value. -/
  | json (value : Json)
  deriving Repr

/-- What a server answers. -/
structure Response where
  /-- The status code. -/
  status : Nat
  /-- The methods that are allowed, if the method of the request is not. -/
  allow? : Option String
  /-- What the response carries. -/
  body : Body
  deriving Repr

namespace Response

/-- A status and nothing else. -/
def plain (status : Nat) : Response :=
  ⟨status, none, .empty⟩

/-- A status with an explanation. -/
def explained (status : Nat) (text : String) : Response :=
  ⟨status, none, .text text⟩

/-- A status with a value. -/
def valued (status : Nat) (value : Json) : Response :=
  ⟨status, none, .json value⟩

/-- The media type of what a response carries. -/
def contentType? (response : Response) : Option String :=
  match response.body with
  | .empty => none
  | .text _ => some "text/plain; charset=utf-8"
  | .json _ => some "application/json"

end Response

/-- Whether a status reports success. -/
def isSuccess (status : Nat) : Bool :=
  200 ≤ status && status < 300

end Http
end Network
end AgentCohort
