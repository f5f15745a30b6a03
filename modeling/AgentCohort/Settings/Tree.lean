import AgentCohort.Double.Text
import AgentCohort.Text.Lowercase

/-!
# Trees of settings

Settings are values, lists and tables.  Each part knows the layer that it comes from,
unless it was made while layers were put on top of each other.

Layers are merged key by key: a table goes into the table that is already there, and
anything else replaces what is there.  Keys are kept in lower case.
-/

namespace AgentCohort
namespace Settings

/-- A single value. -/
inductive Scalar where
  /-- No value. -/
  | nothing
  /-- True or false. -/
  | boolean (value : Bool)
  /-- A whole number. -/
  | integer (value : Int)
  /-- Any other number. -/
  | real (value : Double)
  /-- A text. -/
  | text (value : String)
  deriving DecidableEq, Repr

/-- Settings with the layers that they come from. -/
inductive Tree where
  /-- A single value. -/
  | scalar (origin? : Option String) (value : Scalar)
  /-- Settings in order. -/
  | list (origin? : Option String) (items : List Tree)
  /-- Settings by key. -/
  | table (origin? : Option String) (entries : List (String × Tree))
  deriving Repr

namespace Tree

/-- A table without anything in it, made in passing. -/
def empty : Tree :=
  .table none []

/-- A value that was not set, made in passing. -/
def unset : Tree :=
  .scalar none .nothing

/-- Sets a key of a table; a new key goes to the end. -/
def putEntry (key : String) (value : Tree) : List (String × Tree) → List (String × Tree)
  | [] => [(key, value)]
  | (other, value') :: rest =>
    if other = key then (other, value) :: rest
    else (other, value') :: putEntry key value rest

/-- The entries of a tree as a table, with the origin of the table. -/
def asTable : Tree → Option String × List (String × Tree)
  | .table origin? entries => (origin?, entries)
  | _ => (none, [])

/-- The items of a tree as a list, with the origin of the list. -/
def asList : Tree → Option String × List Tree
  | .list origin? items => (origin?, items)
  | _ => (none, [])

mutual

/-- What is at a key after a value has been put on top of what was there before. -/
def layOn (existing? : Option Tree) : Tree → Tree
  | .table _ entries => cover (existing?.getD empty) entries
  | other => other

/-- A tree after entries have been put on top of it. -/
def cover (below : Tree) : List (String × Tree) → Tree
  | [] => below
  | (key, value) :: rest =>
    let (origin?, entries) := below.asTable
    let key := Text.lowercase key
    let value := layOn (entries.lookup key) value
    cover (.table origin? (putEntry key value entries)) rest

end

mutual

/-- The tree as a part of a layer with a name. -/
def ofLayer (origin : String) : Tree → Tree
  | .scalar _ value => .scalar (some origin) value
  | .list _ items => .list (some origin) (itemsOfLayer origin items)
  | .table _ entries => .table (some origin) (entriesOfLayer origin entries)

/-- Items as parts of a layer. -/
def itemsOfLayer (origin : String) : List Tree → List Tree
  | [] => []
  | item :: rest => ofLayer origin item :: itemsOfLayer origin rest

/-- Entries as parts of a layer. -/
def entriesOfLayer (origin : String) : List (String × Tree) → List (String × Tree)
  | [] => []
  | (key, value) :: rest => (key, ofLayer origin value) :: entriesOfLayer origin rest

end

end Tree
end Settings
end AgentCohort
