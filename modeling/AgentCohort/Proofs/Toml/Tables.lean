import AgentCohort.Proofs.Settings.Places
import AgentCohort.Toml.Table

/-!
# Values in tables under construction

A value that has been added to a table stays at its place, whatever is added or opened later, and
is found there again in the finished tree.  The way to it leads through tables only: lists of tables
are under construction at their last element, which need not stay the last one.
-/

namespace AgentCohort
namespace Toml

open Settings (Tree)

variable {key other : String} {node : Node} {tree : Tree} {entries changed : Entries}
  {place path : List String}

theorem lookup_putNode (key other : String) (node : Node) (entries : Entries) :
    (putNode key node entries).lookup other =
      if other = key then some node else entries.lookup other :=
  Tree.lookup_of_replacing (putNode key node) rfl (fun _ _ _ => rfl) other entries

/-! ## Values at places -/

/-- A table under construction holds a value at a place. -/
inductive Holds : List String → Tree → Entries → Prop
  | value
      {key : String}
      {tree : Tree}
      {entries : Entries}
      (found : entries.lookup key = some (.value tree)) :
      Holds [key] tree entries
  | table
      {key : String}
      {rest : List String}
      {tree : Tree}
      {implicit isDotted : Bool}
      {inner entries : Entries}
      (found : entries.lookup key = some (.table implicit isDotted inner))
      (inside : Holds rest tree inner) :
      Holds (key :: rest) tree entries

/-- Every value of a table under construction is still at its place in another one. -/
def Keeps (entries changed : Entries) : Prop :=
  ∀ place tree, Holds place tree entries → Holds place tree changed

theorem Keeps.refl (entries : Entries) : Keeps entries entries :=
  fun _ _ holds => holds

theorem Keeps.trans {first second third : Entries} (early : Keeps first second)
    (late : Keeps second third) :
    Keeps first third :=
  fun place tree holds => late place tree (early place tree holds)

/-- A key may get a new node if it has held no value, and if a table that it has held keeps its
values. -/
theorem keeps_putNode
    (noValue : ∀ tree, entries.lookup key ≠ some (.value tree))
    (keeps : ∀ implicit isDotted inner, entries.lookup key = some (.table implicit isDotted inner) →
      ∃ implicit' isDotted' inner', node = .table implicit' isDotted' inner' ∧
        Keeps inner inner') :
    Keeps entries (putNode key node entries) := by
  intro place tree holds
  cases holds with
  | @value name _ _ found =>
      have differs : name ≠ key := fun same => noValue tree (same ▸ found)
      exact .value (by rw [lookup_putNode, if_neg differs, found])
  | @table name rest _ implicit isDotted inner _ found inside =>
      by_cases same : name = key
      · subst same
        obtain ⟨implicit', isDotted', inner', rfl, kept⟩ := keeps _ _ _ found
        exact .table (by rw [lookup_putNode, if_pos rfl]) (kept _ _ inside)
      · exact .table (by rw [lookup_putNode, if_neg same, found]) inside

/-- A key may get a new node if it has held nothing or a list of tables. -/
theorem keeps_putNode_of_free
    (free : ∀ before, entries.lookup key = some before → ∃ items, before = .tables items) :
    Keeps entries (putNode key node entries) := by
  refine keeps_putNode (fun tree found => ?_) fun implicit isDotted inner found => ?_
  · obtain ⟨items, same⟩ := free _ found
    cases same
  · obtain ⟨items, same⟩ := free _ found
    cases same

/-- A table may be opened again or changed, as long as it keeps its values. -/
theorem keeps_putNode_table
    {implicit isDotted implicit' isDotted' : Bool}
    {inner inner' : Entries}
    (found : entries.lookup key = some (.table implicit isDotted inner))
    (kept : Keeps inner inner') :
    Keeps entries (putNode key (.table implicit' isDotted' inner') entries) := by
  refine keeps_putNode (fun tree value => ?_) fun _ _ _ same => ?_
  · cases found.symm.trans value
  · cases found.symm.trans same
    exact ⟨_, _, _, rfl, kept⟩

/-- A change of a table keeps all values if the change of the table at the path does. -/
theorem keeps_change
    {dotted isDotted : Bool}
    {apply : Bool → Entries → Option Entries}
    (kept : ∀ isDotted inner inner', apply isDotted inner = some inner' → Keeps inner inner')
    (done : change dotted apply path isDotted entries = some changed) :
    Keeps entries changed := by
  induction path generalizing isDotted entries changed with
  | nil => exact kept _ _ _ done
  | cons key path inductionHypothesis =>
      rw [change] at done
      split at done
      · rename_i missing
        obtain ⟨inner, -, rfl⟩ := Option.map_eq_some_iff.mp done
        exact keeps_putNode_of_free fun _ found => by cases missing.symm.trans found
      · cases done
      · rename_i implicit innerDotted inner there
        split at done
        · cases done
        · obtain ⟨inner', within, rfl⟩ := Option.map_eq_some_iff.mp done
          exact keeps_putNode_table there (inductionHypothesis within)
      · rename_i items there
        split at done
        · cases done
        · obtain ⟨inner', -, rfl⟩ := Option.map_eq_some_iff.mp done
          exact keeps_putNode_of_free fun _ found =>
            ⟨items, (Option.some.inj (there.symm.trans found)).symm⟩

theorem keeps_addValue (done : addValue path key tree entries = some changed) :
    Keeps entries changed := by
  refine keeps_change (fun isDotted inner inner' applied => ?_) done
  split at applied
  · cases applied
  · split at applied
    · cases applied
    · rename_i free
      cases applied
      rw [Option.not_isSome_iff_eq_none] at free
      exact keeps_putNode_of_free fun _ found => by cases free.symm.trans found

theorem keeps_openTable (done : openTable path key entries = some changed) :
    Keeps entries changed := by
  refine keeps_change (fun isDotted inner inner' applied => ?_) done
  split at applied
  · rename_i missing
    cases applied
    exact keeps_putNode_of_free fun _ found => by cases missing.symm.trans found
  · rename_i inside there
    cases applied
    exact keeps_putNode_table there (Keeps.refl _)
  · cases applied

theorem keeps_openItem (done : openItem path key entries = some changed) :
    Keeps entries changed := by
  refine keeps_change (fun isDotted inner inner' applied => ?_) done
  split at applied
  · rename_i missing
    cases applied
    exact keeps_putNode_of_free fun _ found => by cases missing.symm.trans found
  · rename_i items there
    cases applied
    exact keeps_putNode_of_free fun _ found =>
      ⟨items, (Option.some.inj (there.symm.trans found)).symm⟩
  · cases applied

/-! ## Values that are added -/

/-- Whatever is on the way along a path is a table. -/
def Through : List String → Entries → Prop
  | [], _ => True
  | key :: path, entries =>
    ∀ node, entries.lookup key = some node →
      ∃ implicit isDotted inner, node = .table implicit isDotted inner ∧ Through path inner

theorem through_nil (path : List String) : Through path [] := by
  cases path with
  | nil => trivial
  | cons key path =>
      intro node found
      cases found

/-- What a change puts into the table at a path is found along the path. -/
theorem holds_of_change
    {dotted isDotted : Bool}
    {apply : Bool → Entries → Option Entries}
    {rest : List String}
    (through : Through (path ++ rest) entries)
    (applied : ∀ isDotted inner inner', Through rest inner → apply isDotted inner = some inner' →
      Holds place tree inner')
    (done : change dotted apply path isDotted entries = some changed) :
    Holds (path ++ place) tree changed := by
  induction path generalizing isDotted entries changed with
  | nil => exact applied _ _ _ through done
  | cons key path inductionHypothesis =>
      rw [change] at done
      split at done
      · obtain ⟨inner, within, rfl⟩ := Option.map_eq_some_iff.mp done
        exact .table (by rw [lookup_putNode, if_pos rfl])
          (inductionHypothesis (through_nil _) within)
      · cases done
      · rename_i implicit innerDotted inner there
        split at done
        · cases done
        · obtain ⟨inner', within, rfl⟩ := Option.map_eq_some_iff.mp done
          obtain ⟨_, _, _, same, further⟩ := through _ there
          cases same
          exact .table (by rw [lookup_putNode, if_pos rfl]) (inductionHypothesis further within)
      · rename_i items there
        obtain ⟨_, _, _, same, -⟩ := through _ there
        cases same

/-- An added value is at its place. -/
theorem holds_of_addValue
    (through : Through path entries)
    (done : addValue path key tree entries = some changed) :
    Holds (path ++ [key]) tree changed := by
  rw [← List.append_nil path] at through
  refine holds_of_change through (fun isDotted inner inner' _ applied => ?_) done
  split at applied
  · cases applied
  · split at applied
    · cases applied
    · cases applied
      exact .value (by rw [lookup_putNode, if_pos rfl])

/-! ## Finished tables -/

theorem lookup_entryTrees (key : String) (entries : Entries) :
    (entryTrees entries).lookup key = (entries.lookup key).map Node.toTree := by
  induction entries with
  | nil => rfl
  | cons entry entries inductionHypothesis =>
      obtain ⟨first, node⟩ := entry
      rw [entryTrees, List.lookup_cons, List.lookup_cons]
      cases key == first with
      | true => rfl
      | false => exact inductionHypothesis

/-- A value is in the finished tree where it has been put. -/
theorem Holds.at?_entryTrees
    {origin? : Option String}
    (holds : Holds place tree entries) :
    Tree.at? place (.table origin? (entryTrees entries)) = some tree := by
  induction holds generalizing origin? with
  | value found =>
      rw [Tree.at?, Tree.child?, Tree.asTable, lookup_entryTrees, found]
      rfl
  | table found inside inductionHypothesis =>
      rw [Tree.at?, Tree.child?, Tree.asTable, lookup_entryTrees, found]
      exact inductionHypothesis

end Toml
end AgentCohort
