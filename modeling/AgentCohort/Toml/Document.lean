import AgentCohort.Toml.Number
import AgentCohort.Toml.Table
import AgentCohort.Toml.Text
import AgentCohort.Toml.Time

/-!
# TOML documents

Lines that are blank, give a value to a key, or open a table.  A document that is not
well formed has no value at all.
-/

namespace AgentCohort
namespace Toml

open Settings (Tree)

/-- How deep values may be nested, and how many parts a key may have. -/
def depthLimit : Nat := 80

/-! ## Keys -/

/-- Characters of a key without quotes. -/
def isKeyChar (c : Char) : Bool :=
  ('a' ≤ c && c ≤ 'z') || ('A' ≤ c && c ≤ 'Z') || ('0' ≤ c && c ≤ '9') ||
    c = '_' || c = '-'

/-- One part of a key. -/
def readKeyPart (cs : List Char) : Option (String × List Char) :=
  match cs with
  | '"' :: _ => readLine cs
  | '\'' :: _ => readLine cs
  | _ =>
    let name := cs.takeWhile isKeyChar
    if name = [] then none else some (String.ofList name, cs.dropWhile isKeyChar)

/-- A key: at most so many parts, joined by points. -/
def readKey : Nat → List Char → Option (List String × List Char)
  | 0, _ => none
  | limit + 1, cs =>
    (readKeyPart (skipSpaces cs)).bind fun (part, rest) =>
      match skipSpaces rest with
      | '.' :: rest => (readKey limit rest).map fun (parts, rest) => (part :: parts, rest)
      | rest => some ([part], rest)

/-- The path to the table that a key belongs to, and the last part of the key. -/
def splitKey (parts : List String) : List String × String :=
  (parts.dropLast, parts.getLast?.getD "")

/-! ## Values -/

/-- The rest of a word of which the first letter has been met. -/
def readWord (value : Settings.Scalar) : List Char → List Char → Option (Tree × List Char)
  | [], rest => some (.scalar none value, rest)
  | letter :: word, c :: rest => if c = letter then readWord value word rest else none
  | _ :: _, [] => none

/-- A value that is neither list nor table. -/
def readScalar (cs : List Char) : Option (Tree × List Char) :=
  match cs with
  | [] => none
  | c :: rest =>
    if c = '"' ∨ c = '\'' then
      (readText cs).map fun (text, rest) => (.scalar none (.text text), rest)
    else if c = 't' then readWord (.boolean true) ['r', 'u', 'e'] rest
    else if c = 'f' then readWord (.boolean false) ['a', 'l', 's', 'e'] rest
    else if beginsDate cs then
      (readDateTime cs).map fun (text, rest) => (.scalar none (.text text), rest)
    else if beginsTime cs then
      (readTime cs).map fun (text, rest) => (.scalar none (.text text), rest)
    else
      (readNumber cs).map fun (number, rest) => (.scalar none number, rest)

mutual

/-- A value inside `depth` lists and tables.  `fuel` bounds nesting and number of parts;
twice the length of the text is enough. -/
def readValue : Nat → Nat → List Char → Option (Tree × List Char)
  | 0, _, _ => none
  | fuel + 1, depth, cs =>
    match cs with
    | '[' :: rest =>
      if depth + 1 < depthLimit then
        readItems fuel (depth + 1) [] (skipTrivia rest.length rest)
      else none
    | '\x7b' :: rest =>
      if depth + 1 < depthLimit then
        match skipSpaces rest with
        | '\x7d' :: rest => some (.table none [], rest)
        | rest => readPairs fuel (depth + 1) [] rest
      else none
    | _ => readScalar cs

/-- The items of a list from the next one on, after those in `seen`, the last one
first. -/
def readItems : Nat → Nat → List Tree → List Char → Option (Tree × List Char)
  | 0, _, _, _ => none
  | _, _, seen, ']' :: rest => some (.list none seen.reverse, rest)
  | fuel + 1, depth, seen, cs =>
    (readValue fuel depth cs).bind fun (item, rest) =>
      match skipTrivia rest.length rest with
      | ',' :: rest => readItems fuel depth (item :: seen) (skipTrivia rest.length rest)
      | ']' :: rest => some (.list none (item :: seen).reverse, rest)
      | _ => none

/-- The pairs of a table on one line from the next one on, after those in `done`. -/
def readPairs : Nat → Nat → Entries → List Char → Option (Tree × List Char)
  | 0, _, _, _ => none
  | fuel + 1, depth, done, cs =>
    (readKey depthLimit cs).bind fun (parts, rest) =>
      match rest with
      | '=' :: rest =>
        (readValue fuel depth (skipSpaces rest)).bind fun (value, rest) =>
          let (path, key) := splitKey parts
          (addValue path key value done).bind fun done =>
            match skipSpaces rest with
            | ',' :: rest => readPairs fuel depth done rest
            | '\x7d' :: rest => some (.table none (entryTrees done), rest)
            | _ => none
      | _ => none

end

/-! ## Lines -/

/-- A document that has been read in part: everything so far, and the table that values
go into. -/
structure Draft where
  /-- The table of the whole document. -/
  root : Entries
  /-- The path of the last header. -/
  current : List String

/-- Adds a value to the table of the last header. -/
def Draft.add (done : Draft) (parts : List String) (value : Tree) : Option Draft :=
  let (path, key) := splitKey parts
  (change false (fun _ entries => addValue path key value entries)
    done.current false done.root).map fun root => { done with root }

/-- Takes in a header of a table or, if `isItem`, of the next table of a list. -/
def Draft.header (done : Draft) (isItem : Bool) (parts : List String) : Option Draft :=
  let (path, key) := splitKey parts
  (if isItem then openItem path key done.root else openTable path key done.root).map
    fun root => ⟨root, parts⟩

/-- A header after its opening bracket, or its two opening brackets. -/
def readHeader (done : Draft) (isItem : Bool) (cs : List Char) :
    Option (Draft × List Char) := do
  let (parts, rest) ← readKey (depthLimit - 1) cs
  let rest ←
    match isItem, rest with
    | false, ']' :: rest => some rest
    | true, ']' :: ']' :: rest => some rest
    | _, _ => none
  let rest ← endLine? rest
  let done ← done.header isItem parts
  some (done, rest)

/-- A key with its value. -/
def readPair (done : Draft) (cs : List Char) : Option (Draft × List Char) := do
  let (parts, rest) ← readKey (depthLimit - 1) cs
  match rest with
  | '=' :: rest =>
    let (value, rest) ← readValue (2 * rest.length + 2) 0 (skipSpaces rest)
    let rest ← endLine? rest
    let done ← done.add parts value
    some (done, rest)
  | _ => none

/-- One line that is neither blank nor a comment. -/
def readEntry (done : Draft) (cs : List Char) : Option (Draft × List Char) :=
  match cs with
  | '[' :: '[' :: rest => readHeader done true rest
  | '[' :: rest => readHeader done false rest
  | _ => readPair done cs

/-- All lines from the next one on, at most so many. -/
def readDocument : Nat → Draft → List Char → Option Draft
  | 0, _, _ => none
  | fuel + 1, done, cs =>
    match skipSpaces cs with
    | [] => some done
    | '#' :: rest =>
      match rest.dropWhile isPlain with
      | [] => some done
      | rest => (afterNewline? rest).bind (readDocument fuel done)
    | rest =>
      match afterNewline? rest with
      | some rest => readDocument fuel done rest
      | none => (readEntry done rest).bind fun (done, rest) => readDocument fuel done rest

/-- The keys and values of a document, if it is well formed.  A byte order mark at its
start does not count. -/
def read? (text : String) : Option (List (String × Tree)) :=
  let cs :=
    match text.toList with
    | '\ufeff' :: rest => rest
    | cs => cs
  (readDocument (cs.length + 1) ⟨[], []⟩ cs).map fun done => entryTrees done.root

end Toml
end AgentCohort
