import AgentCohort.Proofs.Settings.Trees

/-!
# Places in trees

A place is a row of keys from a table to what is inside it.  A single value at a place of a file is
one of the parts of its layer, under the steps that the first key of the place is read as and the
names after it.
-/

namespace AgentCohort
namespace Settings

/-- The steps that lead to a place of a layer: its first key is read as a path. -/
def stepsOfPlace : List String → List Step
  | [] => []
  | key :: rest => stepsOfKey key ++ rest.map .name

namespace Tree

/-- What is at a place of a tree. -/
def at? : List String → Tree → Option Tree
  | [], tree => some tree
  | key :: rest, tree => (tree.child? key).bind (at? rest)

theorem at?_append (first second : List String) (tree : Tree) :
    at? (first ++ second) tree = (at? first tree).bind (at? second) := by
  induction first generalizing tree with
  | nil => rfl
  | cons key first inductionHypothesis =>
      rw [List.cons_append, at?, at?]
      cases tree.child? key with
      | none => rfl
      | some inner => exact inductionHypothesis inner

theorem mem_of_lookup {entries : List (String × Tree)} {key : String} {value : Tree}
    (found : entries.lookup key = some value) :
    (key, value) ∈ entries := by
  obtain ⟨before, after, rfl, -⟩ := List.lookup_eq_some_iff.mp found
  exact List.mem_append_right before (.head _)

theorem mem_entriesOfLayer
    {origin : String}
    {entry : String × Tree}
    {entries : List (String × Tree)}
    (member : entry ∈ entries) :
    (entry.1, ofLayer origin entry.2) ∈ entriesOfLayer origin entries := by
  induction entries with
  | nil => cases member
  | cons first entries inductionHypothesis =>
      obtain ⟨key, value⟩ := first
      rw [entriesOfLayer]
      cases member with
      | head => exact .head _
      | tail _ later => exact .tail _ (inductionHypothesis later)

theorem exists_of_mem_entriesOfLayer
    {origin : String}
    {entry : String × Tree}
    {entries : List (String × Tree)}
    (present : entry ∈ entriesOfLayer origin entries) :
    ∃ tree, (entry.1, tree) ∈ entries ∧ entry.2 = ofLayer origin tree := by
  induction entries with
  | nil => cases present
  | cons first entries inductionHypothesis =>
      obtain ⟨key, value⟩ := first
      obtain rfl | later := List.mem_cons.mp present
      · exact ⟨value, .head _, rfl⟩
      · obtain ⟨tree, known, same⟩ := inductionHypothesis later
        exact ⟨tree, .tail _ known, same⟩

/-- All parts of an entry under a single name begin with it. -/
theorem exists_rest_of_mem_partsOfEntry
    {key name : String}
    {value : Tree}
    {part : Part}
    (steps : stepsOfKey key = [.name name])
    (contributed : part ∈ partsOfEntry (key, value)) :
    ∃ rest, part.1 = .name name :: rest := by
  unfold partsOfEntry at contributed
  rw [steps] at contributed
  split at contributed
  · rename_i same _
    cases same
    obtain ⟨inner, -, rfl⟩ := List.mem_map.mp contributed
    exact ⟨_, rfl⟩
  · cases List.mem_singleton.mp contributed
    exact ⟨[], rfl⟩

/-- The entries of a table under a single name are parts of the layer. -/
theorem mem_parts_of_mem_inner
    {key name : String}
    {inner : String × Tree}
    {origin? : Option String}
    {entries layer : List (String × Tree)}
    (steps : stepsOfKey key = [.name name])
    (outer : (key, .table origin? entries) ∈ layer)
    (member : inner ∈ entries) :
    ([.name name, .name inner.1], inner.2) ∈ parts layer := by
  refine List.mem_flatMap.mpr ⟨_, outer, ?_⟩
  unfold partsOfEntry
  rw [steps]
  cases entries with
  | nil => cases member
  | cons first rest => exact List.mem_map_of_mem member

theorem mem_parts_of_scalar
    {key : String}
    {origin? : Option String}
    {value : Scalar}
    {layer : List (String × Tree)}
    (member : (key, .scalar origin? value) ∈ layer) :
    (stepsOfKey key, .scalar origin? value) ∈ parts layer := by
  refine List.mem_flatMap.mpr ⟨_, member, ?_⟩
  unfold partsOfEntry
  split
  · rename_i table
    cases table
  · exact .head _

/-- A single value at a place of two steps is a part of the layer. -/
theorem mem_parts_of_at?
    {origin : String}
    {entries : List (String × Tree)}
    {place : List String}
    {value : Scalar}
    {first second : String}
    (there : at? place (.table none entries) = some (.scalar none value))
    (steps : stepsOfPlace place = [.name first, .name second]) :
    ([.name first, .name second], .scalar (some origin) value) ∈
      parts (entriesOfLayer origin entries) := by
  match place with
  | [] => cases steps
  | [key] =>
    rw [stepsOfPlace, List.map_nil, List.append_nil] at steps
    obtain ⟨inner, found, same⟩ := Option.bind_eq_some_iff.mp there
    cases same
    rw [← steps]
    exact mem_parts_of_scalar (mem_entriesOfLayer (mem_of_lookup found))
  | [key, name] =>
    obtain ⟨firstName, more, long⟩ := exists_stepsOfKey key
    obtain ⟨outer, found, inside⟩ := Option.bind_eq_some_iff.mp there
    obtain ⟨inner, foundInside, same⟩ := Option.bind_eq_some_iff.mp inside
    cases same
    rw [stepsOfPlace, long, List.cons_append] at steps
    obtain ⟨firstSame, steps⟩ := List.cons.inj steps
    cases more with
    | cons step more => cases more <;> cases steps
    | nil =>
        cases firstSame
        cases steps
        cases outer with
        | table origin? inners =>
            exact mem_parts_of_mem_inner long (mem_entriesOfLayer (mem_of_lookup found))
              (mem_entriesOfLayer (mem_of_lookup foundInside))
        | _ => cases foundInside
  | key :: name :: other :: rest =>
    obtain ⟨firstName, more, long⟩ := exists_stepsOfKey key
    have length := congrArg List.length steps
    rw [stepsOfPlace, long] at length
    simp only [List.length_append, List.length_cons, List.length_map, List.length_nil] at length
    omega

end Tree
end Settings
end AgentCohort
