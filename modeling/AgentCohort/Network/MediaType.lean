import AgentCohort.Network.Http
import AgentCohort.Text.Blank

/-!
# Media types

Whether a header says that a body is JSON.  The header must be a text of printable
characters.  The type is `application`, and the subtype is `json` in front of its last
plus sign or behind it.  Parameters may follow and must be well formed.
-/

namespace AgentCohort
namespace Network
namespace MediaType

/-- Whether a byte is a printable character or a tabulator. -/
def isPrintable (byte : UInt8) : Bool :=
  byte == 9 || 32 ≤ byte && byte < 127

/-- The characters of a header, if all of them are printable. -/
def charsOf? (header : Http.Bytes) : Option (List Char) :=
  if header.all isPrintable then some (header.map fun byte => Char.ofNat byte.toNat) else none

/-- Whether a character may stand in a name. -/
def isTokenChar (c : Char) : Bool :=
  c.isAlphanum || "!#$%&'*+-.^_\x60|~".toList.contains c

/-- Whether a character may stand between double quotes. -/
def isQuotable (c : Char) : Bool :=
  ' ' ≤ c && c != '\x7f'

/-- What follows a parameter in double quotes. -/
def afterQuoted : List Char → Option (List Char)
  | [] => some []
  | ';' :: rest => some rest
  | ' ' :: rest => afterQuoted rest
  | _ :: _ => none

/-- What follows the value of a parameter after the opening quote; the first character does
not close it, even if it is a quote. -/
def afterOpening : List Char → Option (List Char)
  | [] => none
  | first :: rest =>
    match rest.dropWhile fun c => isQuotable c && c != '"' with
    | '"' :: after => if isQuotable first then afterQuoted after else none
    | _ => none

/-- What follows the first parameter, if it is well formed. -/
def afterParameter (cs : List Char) : Option (List Char) :=
  let name := cs.takeWhile isTokenChar
  match name.isEmpty, cs.dropWhile isTokenChar with
  | false, '=' :: '"' :: rest => afterOpening rest
  | false, '=' :: rest =>
    match rest.dropWhile isTokenChar with
    | [] => some []
    | ';' :: after => if (rest.takeWhile isTokenChar).isEmpty then none else some after
    | _ => none
  | _, _ => none

/-- Whether the rest of a media type is a list of parameters; `fuel` bounds their
number. -/
def areParameters : Nat → List Char → Bool
  | 0, cs => cs.isEmpty
  | fuel + 1, cs =>
    match cs.dropWhile (· == ' ') with
    | [] => true
    | rest =>
      match afterParameter rest with
      | some after => areParameters fuel after
      | none => false

/-- The type and the subtype in small letters, if the media type is well formed. -/
def parts? (cs : List Char) : Option (List Char × List Char) :=
  let kind := cs.takeWhile isTokenChar
  match kind.isEmpty, cs.dropWhile isTokenChar with
  | false, '/' :: rest =>
    let subtype := rest.takeWhile isTokenChar
    let isWellFormed :=
      match subtype.isEmpty, rest.dropWhile isTokenChar with
      | false, [] => true
      | false, ';' :: after | false, ' ' :: after => areParameters after.length after
      | _, _ => false
    if isWellFormed then some (kind.map Char.toLower, subtype.map Char.toLower) else none
  | _, _ => none

/-- Whether a subtype is JSON or a format that is written in JSON.  What follows the last
plus sign is a suffix, unless the plus sign is the first character. -/
def isJsonSubtype (subtype : List Char) : Bool :=
  match Text.splitLast? '+' subtype with
  | some (first :: name, suffix) => first :: name == "json".toList || suffix == "json".toList
  | _ => subtype == "json".toList

/-- Whether a header says that a body is JSON. -/
def isJson (header : Http.Bytes) : Bool :=
  match (charsOf? header).bind parts? with
  | some (kind, subtype) => kind == "application".toList && isJsonSubtype subtype
  | none => false

end MediaType
end Network
end AgentCohort
