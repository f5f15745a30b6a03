import AgentCohort.Log.Level
import AgentCohort.Numeral
import AgentCohort.Text.Blank

/-!
# Log filters

Which lines of the log are written.  A filter is a list of directives, separated by
commas: a level for everything, a target for which everything is written, or a target with
a level.  A directive concerns the targets that begin with its own one; of several that
concern a line the one with the longest target decides, and of equal ones the last.
-/

namespace AgentCohort
namespace Log

/-- How many levels pass, from the most important one on; none of them if it is zero. -/
abbrev Limit := Nat

namespace Limit

/-- Nothing passes. -/
def off : Limit := 0

/-- A level and everything more important. -/
def upTo (level : Level) : Limit := level.rank

/-- The names of the limits. -/
def byName : List (String × Limit) :=
  ("off", off) :: Level.all.map fun level => (level.name, upTo level)

/-- The limit of a name or number; names are read without regard to case, and no name at
all stands for errors. -/
def ofText? (text : String) : Option Limit :=
  match Numeral.readNat Numeral.maxUInt64 text.toList with
  | .ok number => if number ≤ 5 then some number else none
  | .error _ =>
    if text = "" then some (upTo .error)
    else byName.lookup (text.map Char.toLower)

end Limit

/-- A field that a line must have. -/
structure FieldTest where
  /-- Name of the field. -/
  name : String
  /-- Whether the field must have a given value. -/
  hasValue : Bool
  deriving DecidableEq, Repr

/-- A part of a filter. -/
structure Directive where
  /-- The target that it is about; everything if absent. -/
  target? : Option String
  /-- Whether it is only about what happens inside of a named span. -/
  isForSpan : Bool
  /-- The fields that a line must have. -/
  fields : List FieldTest
  /-- What passes. -/
  limit : Limit
  deriving DecidableEq, Repr

/-- Why a directive cannot be read. -/
inductive DirectiveFault where
  /-- It is malformed. -/
  | malformed
  /-- What should be a level is none. -/
  | unknownLevel
  deriving DecidableEq, Repr

/-- The words for a fault. -/
def DirectiveFault.message : DirectiveFault → String
  | .malformed => "invalid filter directive"
  | .unknownLevel =>
    "error parsing level filter: expected one of \"off\", \"error\", \"warn\", \"info\", " ++
      "\"debug\", \"trace\", or a number 0-5"

namespace Directive

/-- Everything up to a limit. -/
def everything (limit : Limit) : Directive :=
  ⟨none, false, [], limit⟩

/-- What is being read of a directive, with the place at which it began. -/
inductive Part where
  /-- Nothing yet. -/
  | start
  /-- A level or a target. -/
  | word (start : Nat)
  /-- The name of a span. -/
  | span (start : Nat)
  /-- A field. -/
  | field (start : Nat)
  /-- What follows the fields. -/
  | afterFields
  /-- What follows a span. -/
  | afterSpan
  /-- A level. -/
  | level (start : Nat)
  deriving DecidableEq, Repr

/-- The characters from one place to another as a text. -/
def between (source : List Char) (start stop : Nat) : String :=
  String.ofList ((source.drop start).take (stop - start))

/-- Whether a directive can begin with a character; beyond ASCII all count as letters. -/
def canBegin (c : Char) : Bool :=
  c.isAlphanum || c == '-' || c == ':' || c == '_' || 128 ≤ c.toNat

/-- Reads a field test. -/
def fieldTest (text : String) : FieldTest :=
  let name := text.toList.takeWhile (· != '=')
  ⟨String.ofList name, name.length < text.toList.length⟩

/-- Reads one more character, which stands at a place of the source. -/
def advance (source : List Char) (part : Part) (read : Directive) (place : Nat) (c : Char) :
    Except DirectiveFault (Part × Directive) :=
  match part, c with
  | .start, '[' => .ok (.span (place + 1), read)
  | .start, c => if canBegin c then .ok (.word place, read) else .error .malformed
  | .word start, '=' =>
    .ok (.level (place + 1), { read with target? := some (between source start place) })
  | .word start, '[' =>
    .ok (.span (place + 1), { read with target? := some (between source start place) })
  | .word start, _ => .ok (.word start, read)
  | .span _, ']' => .ok (.afterSpan, { read with isForSpan := true })
  | .span start, '\x7b' =>
    .ok (.field (place + 1), { read with isForSpan := start < place })
  | .span start, _ => .ok (.span start, read)
  | .field start, '\x7d' =>
    if start < place then
      .ok (.afterFields,
        { read with fields := read.fields ++ [fieldTest (between source start place)] })
    else
      .error .malformed
  | .field start, _ => .ok (.field start, read)
  | .afterFields, ']' => .ok (.afterSpan, read)
  | .afterSpan, '=' => .ok (.level (place + 1), read)
  | .level start, _ => .ok (.level start, read)
  | .afterFields, _ | .afterSpan, _ => .error .malformed

/-- Reads the characters that are left. -/
def advanceAll (source : List Char) :
    Part → Directive → Nat → List Char → Except DirectiveFault (Part × Directive)
  | part, read, _, [] => .ok (part, read)
  | part, read, place, c :: rest =>
    match advance source part read place c with
    | .ok (nextPart, next) => advanceAll source nextPart next (place + 1) rest
    | .error fault => .error fault

/-- The directive at the end of its text. -/
def finish (source : List Char) (part : Part) (read : Directive) :
    Except DirectiveFault Directive :=
  match part with
  | .word start =>
    let word := String.ofList (source.drop start)
    match word, Limit.ofText? word with
    | "", _ => .ok (everything (.upTo .trace))
    | _, some limit => .ok { read with target? := none, limit := limit }
    | _, none => .ok { read with target? := some word, limit := .upTo .trace }
  | .level start =>
    match String.ofList (source.drop start) with
    | "" => .ok { read with limit := .upTo .trace }
    | word =>
      match Limit.ofText? word with
      | some limit => .ok { read with limit := limit }
      | none => .error .unknownLevel
  | .start | .span _ | .field _ | .afterFields | .afterSpan => .ok read

/-- Reads a directive.  Blanks around it are not looked at, but places are counted with
them. -/
def ofText (text : String) : Except DirectiveFault Directive :=
  let source := text.toList
  match advanceAll source .start (everything (.upTo .trace)) 0 (Text.trim source) with
  | .ok (part, read) => finish source part read
  | .error fault => .error fault

/-- Whether a directive decides about lines at all. -/
def isForLines (directive : Directive) : Bool :=
  !directive.isForSpan && directive.fields.all fun field => !field.hasValue

/-- The fields of every line. -/
def lineFields : List String := ["message"]

/-- Whether a directive concerns a line. -/
def concerns (directive : Directive) (line : Line) : Bool :=
  directive.isForLines &&
    directive.target?.all (fun target => target.toList.isPrefixOf line.target.toList) &&
    directive.fields.all fun field => lineFields.contains field.name

/-- How special a directive is: by the length of its target, then by its fields. -/
def specificity (directive : Directive) : Nat × Nat :=
  ((directive.target?.map fun target => target.utf8ByteSize + 1).getD 0,
    directive.fields.length)

/-- Whether a directive is at least as special as another one. -/
def isAsSpecial (directive other : Directive) : Bool :=
  let (length, fields) := directive.specificity
  let (otherLength, otherFields) := other.specificity
  otherLength < length || otherLength == length && otherFields ≤ fields

end Directive

/-- A filter. -/
structure Filter where
  /-- Its directives in order. -/
  directives : List Directive
  deriving DecidableEq, Repr

namespace Filter

/-- A filter of some directives; without any, errors pass. -/
def ofDirectives (directives : List Directive) : Filter :=
  ⟨if directives.isEmpty then [.everything (.upTo .error)] else directives⟩

/-- The texts of the directives of a filter. -/
def pieces (text : String) : List String :=
  (text.splitOn ",").filter (· ≠ "")

/-- Reads a filter, if all its directives are well formed. -/
def ofText? (text : String) : Option Filter :=
  match (pieces text).mapM Directive.ofText with
  | .ok directives => some (.ofDirectives directives)
  | .error _ => none

/-- Reads a filter without the directives that are not well formed, and tells those. -/
def ofTextLossy (text : String) : Filter × List (String × DirectiveFault) :=
  let read := (pieces text).map fun piece => (piece, Directive.ofText piece)
  (.ofDirectives (read.filterMap fun entry => entry.2.toOption),
    read.filterMap fun entry =>
      match entry.2 with
      | .ok _ => none
      | .error fault => some (entry.1, fault))

/-- The directive that decides about a line. -/
def deciding? (filter : Filter) (line : Line) : Option Directive :=
  (filter.directives.filter fun directive => directive.concerns line).foldl
    (fun best? directive =>
      match best? with
      | none => some directive
      | some best => some (if directive.isAsSpecial best then directive else best))
    none

/-- Whether a line passes. -/
def passes (filter : Filter) (line : Line) : Bool :=
  (filter.deciding? line).any fun directive => line.level.rank ≤ directive.limit

/-- The filter for a level: the level for everything, and warnings for the parts that
speak the hypertext protocol. -/
def standardText (level : String) : String :=
  level ++ ",dcop_agent=" ++ level ++ ",hyper=warn,reqwest=warn"

end Filter
end Log
end AgentCohort
