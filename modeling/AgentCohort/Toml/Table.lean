import AgentCohort.Settings.Tree

/-!
# Tables in TOML

A document makes tables in several ways: by a header, as a step of a header on the way
to another table, by a key with points, and as an element of a list of tables.  The way
decides what may be added later: a table is opened by at most one header, and keys with
points never go into a table that has a header.
-/

namespace AgentCohort
namespace Toml

open Settings (Tree)

/-- What a key of a table under construction stands for. -/
inductive Node where
  /-- A value, to which nothing can be added. -/
  | value (tree : Tree)
  /-- A table.  It is `implicit` until it gets a header of its own, and `dotted` if a
  key with points has made it. -/
  | table (implicit dotted : Bool) (entries : List (String × Node))
  /-- A list of tables, of which the last one is under construction. -/
  | tables (items : List (List (String × Node)))

/-- A table under construction: whether it is implicit, whether it is dotted, and what
it holds. -/
abbrev Entries : Type :=
  List (String × Node)

/-- Sets a key of a table under construction. -/
def putNode (key : String) (node : Node) : Entries → Entries
  | [] => [(key, node)]
  | (other, node') :: rest =>
    if other = key then (other, node) :: rest else (other, node') :: putNode key node rest

/-- Changes the table at a path inside a table.  Missing tables on the way are made;
`dotted` tells whether the path comes from a key with points.  The change gets to know
whether the table at the path is dotted. -/
def change
    (dotted : Bool)
    (apply : Bool → Entries → Option Entries) :
    List String → Bool → Entries → Option Entries
  | [], isDotted, entries => apply isDotted entries
  | key :: path, _, entries =>
    match entries.lookup key with
    | none =>
      (change dotted apply path dotted []).map fun inner =>
        putNode key (.table true dotted inner) entries
    | some (.value _) => none
    | some (.table implicit isDotted inner) =>
      if dotted ∧ ¬ implicit then none
      else
        (change dotted apply path isDotted inner).map fun inner =>
          putNode key (.table implicit isDotted inner) entries
    | some (.tables items) =>
      match items.getLast? with
      | none => none
      | some last =>
        (change dotted apply path false last).map fun inner =>
          putNode key (.tables (items.dropLast ++ [inner])) entries

/-- Adds a value at a key with points. -/
def addValue (path : List String) (key : String) (tree : Tree) (entries : Entries) :
    Option Entries :=
  change true
    (fun isDotted inner =>
      if isDotted = path.isEmpty then none
      else if (inner.lookup key).isSome then none
      else some (putNode key (.value tree) inner))
    path false entries

/-- Opens the table of a header. -/
def openTable (path : List String) (key : String) (entries : Entries) : Option Entries :=
  change false
    (fun _ parent =>
      match parent.lookup key with
      | none => some (putNode key (.table false false []) parent)
      | some (.table true false inner) => some (putNode key (.table false false inner) parent)
      | some _ => none)
    path false entries

/-- Opens the next table of a list of tables. -/
def openItem (path : List String) (key : String) (entries : Entries) : Option Entries :=
  change false
    (fun _ parent =>
      match parent.lookup key with
      | none => some (putNode key (.tables [[]]) parent)
      | some (.tables items) => some (putNode key (.tables (items ++ [[]])) parent)
      | some _ => none)
    path false entries

mutual

/-- What a finished node stands for. -/
def Node.toTree : Node → Tree
  | .value tree => tree
  | .table _ _ entries => .table none (entryTrees entries)
  | .tables items => .list none (itemTrees items)

/-- The entries of a finished table. -/
def entryTrees : List (String × Node) → List (String × Tree)
  | [] => []
  | (key, node) :: rest => (key, node.toTree) :: entryTrees rest

/-- The tables of a finished list of tables. -/
def itemTrees : List (List (String × Node)) → List Tree
  | [] => []
  | entries :: rest => .table none (entryTrees entries) :: itemTrees rest

end

end Toml
end AgentCohort
