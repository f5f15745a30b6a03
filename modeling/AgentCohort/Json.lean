/-!
# JSON values and their text

The values that are written as JSON: whole numbers, texts, lists, and records whose
members keep their order.  The written form is compact; in a text only the double
quote, the backslash and the control characters are escaped.
-/

namespace AgentCohort

/-- A value that is written as JSON. -/
inductive Json where
  /-- No value. -/
  | null
  /-- True or false. -/
  | boolean (value : Bool)
  /-- A whole number. -/
  | integer (value : Int)
  /-- A text. -/
  | text (value : String)
  /-- Values in order. -/
  | list (items : List Json)
  /-- Named values in order. -/
  | record (members : List (String × Json))
  deriving Repr

namespace Json

/-- A natural number. -/
def natural (n : Nat) : Json :=
  .integer n

/-- A value or its absence. -/
def optional (write : α → Json) : Option α → Json
  | some value => write value
  | none => .null

/-- Four lower-case hexadecimal digits. -/
def fourHexDigits (code : Nat) : List Char :=
  let digits := Nat.toDigits 16 code
  List.replicate (4 - digits.length) '0' ++ digits

/-- A character as it stands inside a text. -/
def escapedChar (c : Char) : List Char :=
  match c with
  | '"' => ['\\', '"']
  | '\\' => ['\\', '\\']
  | '\n' => ['\\', 'n']
  | '\r' => ['\\', 'r']
  | '\t' => ['\\', 't']
  | '\x08' => ['\\', 'b']
  | '\x0c' => ['\\', 'f']
  | c => if c < ' ' then '\\' :: 'u' :: fourHexDigits c.toNat else [c]

/-- A text between double quotes. -/
def quotedText (s : String) : List Char :=
  '"' :: s.toList.flatMap escapedChar ++ ['"']

/-- Parts joined by commas. -/
def commaSeparated : List (List Char) → List Char
  | [] => []
  | [part] => part
  | part :: rest => part ++ ',' :: commaSeparated rest

mutual

/-- The compact text of a value, as characters. -/
def chars : Json → List Char
  | .null => "null".toList
  | .boolean true => "true".toList
  | .boolean false => "false".toList
  | .integer n => (toString n).toList
  | .text s => quotedText s
  | .list items => '[' :: commaSeparated (itemChars items) ++ [']']
  | .record members => '\x7b' :: commaSeparated (memberChars members) ++ ['\x7d']

/-- The texts of some values. -/
def itemChars : List Json → List (List Char)
  | [] => []
  | item :: rest => chars item :: itemChars rest

/-- The texts of some members. -/
def memberChars : List (String × Json) → List (List Char)
  | [] => []
  | (name, value) :: rest => (quotedText name ++ ':' :: chars value) :: memberChars rest

end

/-- The compact text of a value. -/
def compact (value : Json) : String :=
  String.ofList (chars value)

end Json
end AgentCohort
