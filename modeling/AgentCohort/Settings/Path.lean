import AgentCohort.Numeral
import AgentCohort.Settings.Tree

/-!
# Paths to settings

The keys at the top of a layer are paths: names joined by points and positions in
square brackets, such as `logging.level` or `agent[0]`.  A key of any other form is one
name.  Setting a value at a path makes the tables and lists on the way.
-/

namespace AgentCohort
namespace Settings

/-- A step from a setting to one inside it. -/
inductive Step where
  /-- To the setting at a key of a table. -/
  | name (key : String)
  /-- To the setting at a position of a list; a negative one counts from the end. -/
  | position (index : Int)
  deriving DecidableEq, Repr

namespace Step

/-- The characters of a name inside a path. -/
def isNameChar (c : Char) : Bool :=
  ('a' ≤ c && c ≤ 'z') || ('A' ≤ c && c ≤ 'Z') || ('0' ≤ c && c ≤ '9') ||
    c = ' ' || c = '_' || c = '-'

/-- A name and the characters after it. -/
def readName (cs : List Char) : Option (Step × List Char) :=
  let name := cs.takeWhile isNameChar
  if name = [] then none
  else some (.name (String.ofList name), cs.dropWhile isNameChar)

/-- Blanks around a position. -/
def isGap (c : Char) : Bool :=
  c = ' ' || c = '\t'

/-- A whole number with an optional minus sign, and the characters after it. -/
def readIndex (cs : List Char) : Option (Int × List Char) :=
  let (negative, digitsOn) :=
    match cs with
    | '-' :: rest => (true, rest)
    | _ => (false, cs)
  let digits := digitsOn.takeWhile Numeral.isDigit
  let number := Numeral.valueOf digits
  if digits = [] ∨ Numeral.maxInt64 < number then none
  else
    some (if negative then -(number : Int) else number,
      digitsOn.dropWhile Numeral.isDigit)

/-- A position after its opening bracket, and the characters after it. -/
def readPosition (cs : List Char) : Option (Step × List Char) :=
  match readIndex (cs.dropWhile isGap) with
  | some (index, rest) =>
    match rest.dropWhile isGap with
    | ']' :: rest => some (.position index, rest)
    | _ => none
  | none => none

/-- The steps after the first name, at most so many. -/
def readSteps : Nat → List Char → Option (List Step)
  | _, [] => some []
  | 0, _ => none
  | fuel + 1, '.' :: rest =>
    (readName rest).bind fun (step, rest) => (readSteps fuel rest).map (step :: ·)
  | fuel + 1, '[' :: rest =>
    (readPosition rest).bind fun (step, rest) => (readSteps fuel rest).map (step :: ·)
  | _, _ => none

end Step

/-- The steps that a key at the top of a layer stands for. -/
def stepsOfKey (key : String) : List Step :=
  let cs := key.toList
  let path? := (Step.readName cs).bind fun (first, rest) =>
    (Step.readSteps rest.length rest).map (first :: ·)
  path?.getD [.name key]

namespace Tree

/-- The place in a list that a position stands for, and the list with room for it: it is
filled up with unset values after its end, or before its start if a negative position
reaches that far. -/
def makeRoom (index : Int) (items : List Tree) : Nat × List Tree :=
  if 0 ≤ index then
    (index.toNat, items ++ List.replicate (index.toNat + 1 - items.length) unset)
  else
    (items.length - index.natAbs,
      List.replicate (index.natAbs - items.length) unset ++ items)

/-- A tree with a value set at a path inside it. -/
def setAt (value : Tree) : List Step → Tree → Tree
  | [], _ => value
  | [.name key], tree => cover tree [(key, value)]
  | .name key :: rest, tree =>
    let (origin?, entries) := tree.asTable
    let key := Text.lowercase key
    let inner := setAt value rest ((entries.lookup key).getD unset)
    .table origin? (putEntry key inner entries)
  | .position index :: rest, tree =>
    let (origin?, items) := tree.asList
    let (place, filled) := makeRoom index items
    let inner := setAt value rest ((filled[place]?).getD unset)
    .list origin? (filled.set place inner)

/-- A tree with a layer on top of it.  The layer is a list of keys, each of them a path,
and of values. -/
def withLayer (tree : Tree) (layer : List (String × Tree)) : Tree :=
  layer.foldl (fun tree entry => setAt entry.2 (stepsOfKey entry.1) tree) tree

end Tree
end Settings
end AgentCohort
