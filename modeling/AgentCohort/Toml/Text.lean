import AgentCohort.Text.Digits

/-!
# Texts in TOML

Blanks, line ends, comments and the four forms of texts: in double quotes with escapes
or in single quotes without, on one line or, with three quotes, on several.  A reader
returns what it read and the characters after it, or nothing if the text is malformed.
-/

namespace AgentCohort
namespace Toml

/-- Blanks inside a line. -/
def isSpace (c : Char) : Bool :=
  c = ' ' || c = '\t'

/-- Characters that may stand in texts and comments. -/
def isPlain (c : Char) : Bool :=
  c = '\t' || (' ' ≤ c && c ≠ '\x7f')

/-- The characters after leading blanks. -/
def skipSpaces (cs : List Char) : List Char :=
  cs.dropWhile isSpace

/-- The characters after the end of a line, if there is one. -/
def afterNewline? : List Char → Option (List Char)
  | '\n' :: rest => some rest
  | '\r' :: '\n' :: rest => some rest
  | _ => none

/-- The characters after blanks and ends of lines. -/
def skipLines : List Char → List Char
  | ' ' :: rest => skipLines rest
  | '\t' :: rest => skipLines rest
  | '\n' :: rest => skipLines rest
  | '\r' :: '\n' :: rest => skipLines rest
  | cs => cs

/-- The characters after a comment, if there is one. -/
def skipComment (cs : List Char) : List Char :=
  match cs with
  | '#' :: rest => rest.dropWhile isPlain
  | _ => cs

/-- The characters after blanks, ends of lines and comments, at most so many. -/
def skipTrivia : Nat → List Char → List Char
  | 0, cs => cs
  | fuel + 1, cs =>
    match skipLines cs with
    | '#' :: rest => skipTrivia fuel (rest.dropWhile isPlain)
    | rest => rest

/-- The characters after the rest of a line, which may hold blanks and a comment. -/
def endLine? (cs : List Char) : Option (List Char) :=
  match skipComment (skipSpaces cs) with
  | [] => some []
  | rest => afterNewline? rest

/-! ## Escapes -/

/-- The character with a code of so many hexadecimal digits. -/
def readCode (digits : Nat) (cs : List Char) : Option (Char × List Char) :=
  let code := Text.valueIn 16 (cs.take digits)
  if (cs.take digits).length = digits ∧ (cs.take digits).all (Text.isDigitIn 16) ∧
      (code < 0xD800 ∨ (0xDFFF < code ∧ code < 0x110000)) then
    some (Char.ofNat code, cs.drop digits)
  else
    none

/-- The character after a backslash. -/
def readEscape : List Char → Option (Char × List Char)
  | 'b' :: rest => some ('\x08', rest)
  | 't' :: rest => some ('\t', rest)
  | 'n' :: rest => some ('\n', rest)
  | 'f' :: rest => some ('\x0c', rest)
  | 'r' :: rest => some ('\r', rest)
  | '"' :: rest => some ('"', rest)
  | '\\' :: rest => some ('\\', rest)
  | 'u' :: rest => readCode 4 rest
  | 'U' :: rest => readCode 8 rest
  | _ => none

/-! ## The four forms -/

/-- The rest of a text in double quotes on one line.  `seen` holds the characters before,
the last one first; `fuel` bounds their number. -/
def readBasic : Nat → List Char → List Char → Option (String × List Char)
  | fuel + 1, seen, c :: rest =>
    if c = '"' then some (String.ofList seen.reverse, rest)
    else if c = '\\' then
      (readEscape rest).bind fun (escaped, rest) => readBasic fuel (escaped :: seen) rest
    else if isPlain c then readBasic fuel (c :: seen) rest
    else none
  | _, _, _ => none

/-- The rest of a text in single quotes on one line. -/
def readLiteral (cs : List Char) : Option (String × List Char) :=
  let isInside (c : Char) : Bool := isPlain c && c ≠ '\''
  match cs.dropWhile isInside with
  | '\'' :: rest => some (String.ofList (cs.takeWhile isInside), rest)
  | _ => none

/-- The quotes that a run of quotes puts into a text on several lines, and the characters
after the run: fewer than three belong to the text; of more the last three, but at most
the fifth, end it. -/
def readQuotes (quote : Char) (cs : List Char) : Nat × Bool × List Char :=
  let count := (cs.takeWhile (· = quote)).length
  if count < 3 then (count, false, cs.drop count)
  else
    let taken := min count 5
    (taken - 3, true, cs.drop taken)

/-- The rest of a text on several lines between quotes of one kind; only between double
quotes a backslash escapes. -/
def readLines (quote : Char) : Nat → List Char → List Char → Option (String × List Char)
  | fuel + 1, seen, c :: rest =>
    if c = quote then
      let (count, ends, rest) := readQuotes quote (c :: rest)
      let seen := List.replicate count quote ++ seen
      if ends then some (String.ofList seen.reverse, rest)
      else readLines quote fuel seen rest
    else if c = '\\' ∧ quote = '"' then
      match afterNewline? (skipSpaces rest) with
      | some rest => readLines quote fuel seen (skipLines rest)
      | none =>
        (readEscape rest).bind fun (escaped, rest) =>
          readLines quote fuel (escaped :: seen) rest
    else
      match afterNewline? (c :: rest) with
      | some rest => readLines quote fuel ('\n' :: seen) rest
      | none => if isPlain c then readLines quote fuel (c :: seen) rest else none
  | _, _, _ => none

/-- The rest of a text on several lines; an end of line at its start does not count. -/
def readBlock (quote : Char) (cs : List Char) : Option (String × List Char) :=
  let start := (afterNewline? cs).getD cs
  readLines quote (start.length + 1) [] start

/-- A text on one line. -/
def readLine (cs : List Char) : Option (String × List Char) :=
  match cs with
  | '"' :: rest => readBasic (rest.length + 1) [] rest
  | '\'' :: rest => readLiteral rest
  | _ => none

/-- A text of any form. -/
def readText (cs : List Char) : Option (String × List Char) :=
  match cs with
  | '"' :: '"' :: '"' :: rest => readBlock '"' rest
  | '\'' :: '\'' :: '\'' :: rest => readBlock '\'' rest
  | _ => readLine cs

end Toml
end AgentCohort
