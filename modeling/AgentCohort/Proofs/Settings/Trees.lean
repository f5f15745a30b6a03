import AgentCohort.Settings.Path

/-!
# Trees with layers on top of them

A tree is looked into key by key.  Setting a value at a path changes what is at the first key of
the path and nothing else, and a layer sets its values one after another, a table under a single
name as if each of its entries were given with its path.
-/

namespace AgentCohort
namespace Settings
namespace Tree

/-! ## Equality -/

mutual

/-- Whether two trees are the same. -/
def decEq : (first second : Tree) → Decidable (first = second)
  | .scalar origin? value, .scalar origin?' value' =>
    decidable_of_iff (origin? = origin?' ∧ value = value') (by simp)
  | .list origin? items, .list origin?' items' =>
    match decEqItems items items' with
    | .isTrue same => decidable_of_iff (origin? = origin?') (by simp [same])
    | .isFalse differ => .isFalse (by simp [differ])
  | .table origin? entries, .table origin?' entries' =>
    match decEqEntries entries entries' with
    | .isTrue same => decidable_of_iff (origin? = origin?') (by simp [same])
    | .isFalse differ => .isFalse (by simp [differ])
  | .scalar .., .list .. => .isFalse nofun
  | .scalar .., .table .. => .isFalse nofun
  | .list .., .scalar .. => .isFalse nofun
  | .list .., .table .. => .isFalse nofun
  | .table .., .scalar .. => .isFalse nofun
  | .table .., .list .. => .isFalse nofun

/-- Whether two lists of trees are the same. -/
def decEqItems : (first second : List Tree) → Decidable (first = second)
  | [], [] => .isTrue rfl
  | [], _ :: _ => .isFalse nofun
  | _ :: _, [] => .isFalse nofun
  | item :: items, item' :: items' =>
    match decEq item item', decEqItems items items' with
    | .isTrue same, .isTrue sameRest => .isTrue (by rw [same, sameRest])
    | .isFalse differ, _ => .isFalse (by simp [differ])
    | _, .isFalse differ => .isFalse (by simp [differ])

/-- Whether two lists of entries are the same. -/
def decEqEntries : (first second : List (String × Tree)) → Decidable (first = second)
  | [], [] => .isTrue rfl
  | [], _ :: _ => .isFalse nofun
  | _ :: _, [] => .isFalse nofun
  | (key, value) :: entries, (key', value') :: entries' =>
    match decEq value value', decEqEntries entries entries' with
    | .isTrue same, .isTrue sameRest => decidable_of_iff (key = key') (by simp [same, sameRest])
    | .isFalse differ, _ => .isFalse (by simp [differ])
    | _, .isFalse differ => .isFalse (by simp [differ])

end

instance : DecidableEq Tree :=
  decEq

/-! ## Keys -/

/-- What is at a key of a tree; a tree that is no table has no keys. -/
def child? (tree : Tree) (key : String) : Option Tree :=
  tree.asTable.2.lookup key

/-- The tree as a table with a value at a key. -/
def put (key : String) (value tree : Tree) : Tree :=
  .table tree.asTable.1 (putEntry key value tree.asTable.2)

/-- A value that replaces the first one of its key, or goes to the end, is found under its key and
nowhere else. -/
theorem lookup_of_replacing
    (put : List (String × α) → List (String × α))
    {key : String}
    {value : α}
    (nil : put [] = [(key, value)])
    (cons : ∀ first before rest, put ((first, before) :: rest) =
      if first = key then (first, value) :: rest else (first, before) :: put rest)
    (other : String)
    (entries : List (String × α)) :
    (put entries).lookup other = if other = key then some value else entries.lookup other := by
  induction entries with
  | nil =>
      rw [nil]
      by_cases same : other = key
      · simp [same]
      · simp [List.lookup_cons, beq_eq_false_iff_ne.mpr same, same]
  | cons entry entries inductionHypothesis =>
      obtain ⟨first, before⟩ := entry
      rw [cons]
      by_cases replaced : first = key
      · rw [if_pos replaced, replaced, List.lookup_cons, List.lookup_cons]
        by_cases same : other = key
        · simp [same]
        · simp [beq_eq_false_iff_ne.mpr same, same]
      · rw [if_neg replaced, List.lookup_cons, List.lookup_cons, inductionHypothesis]
        by_cases same : other = first
        · simp [same, replaced]
        · simp [beq_eq_false_iff_ne.mpr same]

theorem lookup_putEntry (key other : String) (value : Tree) (entries : List (String × Tree)) :
    (putEntry key value entries).lookup other =
      if other = key then some value else entries.lookup other :=
  lookup_of_replacing (putEntry key value) rfl (fun _ _ _ => rfl) other entries

theorem eq_or_mem_of_mem_putEntry
    {key : String}
    {value : Tree}
    {entry : String × Tree}
    {entries : List (String × Tree)}
    (present : entry ∈ putEntry key value entries) :
    entry = (key, value) ∨ entry ∈ entries := by
  induction entries with
  | nil => exact .inl (List.mem_singleton.mp present)
  | cons first entries inductionHypothesis =>
      obtain ⟨other, before⟩ := first
      rw [putEntry] at present
      split at present
      · rename_i same
        obtain rfl | later := List.mem_cons.mp present
        · exact .inl (by rw [same])
        · exact .inr (.tail _ later)
      · obtain rfl | later := List.mem_cons.mp present
        · exact .inr (.head _)
        · exact (inductionHypothesis later).imp_right (.tail _)

theorem putEntry_putEntry (key : String) (value before : Tree) (entries : List (String × Tree)) :
    putEntry key value (putEntry key before entries) = putEntry key value entries := by
  induction entries with
  | nil => simp [putEntry]
  | cons entry entries inductionHypothesis =>
      obtain ⟨first, old⟩ := entry
      by_cases replaced : first = key
      · simp [putEntry, replaced]
      · simp [putEntry, replaced, inductionHypothesis]

@[simp] theorem child?_put (key other : String) (value tree : Tree) :
    (put key value tree).child? other = if other = key then some value else tree.child? other :=
  lookup_putEntry key other value tree.asTable.2

theorem put_put (key : String) (value before tree : Tree) :
    put key value (put key before tree) = put key value tree := by
  simp only [put, asTable, putEntry_putEntry]

/-! ## Tables on top of a tree -/

theorem cover_cons (below value : Tree) (key : String) (rest : List (String × Tree)) :
    cover below ((key, value) :: rest) =
      cover
        (put (Text.lowercase key) (layOn (below.child? (Text.lowercase key)) value) below) rest :=
  rfl

/-- A tree after something has been set inside it, or in the place where there was none. -/
def setInside (value : Tree) (steps : List Step) (tree? : Option Tree) : Tree :=
  match steps with
  | [] => layOn tree? value
  | steps => setAt value steps (tree?.getD unset)

theorem setAt_name (value tree : Tree) (key : String) (rest : List Step) :
    setAt value (.name key :: rest) tree =
      put (Text.lowercase key) (setInside value rest (tree.child? (Text.lowercase key))) tree := by
  cases rest <;> rfl

/-- Only what is at the first key of a path changes. -/
theorem child?_setAt (value tree : Tree) (key other : String) (rest : List Step) :
    (setAt value (.name key :: rest) tree).child? other =
      if other = Text.lowercase key then some (setInside value rest (tree.child? other))
      else tree.child? other := by
  rw [setAt_name, child?_put]
  by_cases same : other = Text.lowercase key
  · rw [same]
  · rw [if_neg same, if_neg same]

/-- What is at a key after something has been set inside a place in which there may be nothing. -/
theorem child?_setInside
    (value : Tree)
    (tree? : Option Tree)
    (key other : String)
    (rest : List Step) :
    (setInside value (.name key :: rest) tree?).child? other =
      if other = Text.lowercase key then
        some (setInside value rest (tree?.bind fun tree => tree.child? other))
      else tree?.bind fun tree => tree.child? other := by
  cases tree? with
  | none => exact child?_setAt value unset key other rest
  | some tree => exact child?_setAt value tree key other rest

/-! ## Layers -/

/-- A value of a layer with the steps that lead to it. -/
abbrev Part : Type :=
  List Step × Tree

/-- The tree with a value of a layer on top of it. -/
def withPart (tree : Tree) (part : Part) : Tree :=
  setAt part.2 part.1 tree

/-- The values that an entry of a layer sets: a table under a single name sets each of its
entries. -/
def partsOfEntry (entry : String × Tree) : List Part :=
  match stepsOfKey entry.1, entry.2 with
  | [.name key], .table _ (first :: rest) =>
    (first :: rest).map fun inner => ([.name key, .name inner.1], inner.2)
  | steps, value => [(steps, value)]

/-- The values that a layer sets, in the order in which it sets them. -/
def parts (layer : List (String × Tree)) : List Part :=
  layer.flatMap partsOfEntry

theorem cover_unset_cons (tree? : Option Tree) (entry : String × Tree) (rest) :
    cover (tree?.getD unset) (entry :: rest) = cover (tree?.getD empty) (entry :: rest) := by
  cases tree? <;> rfl

/-- Entries of a table that are set one after another, each with its path. -/
theorem foldl_withPart_inner (key : String) (entries : List (String × Tree)) (inner tree : Tree) :
    (entries.map fun entry => (([.name key, .name entry.1], entry.2) : Part)).foldl withPart
        (put (Text.lowercase key) inner tree) =
      put (Text.lowercase key) (cover inner entries) tree := by
  induction entries generalizing inner with
  | nil => rfl
  | cons entry entries inductionHypothesis =>
      obtain ⟨name, value⟩ := entry
      rw [List.map_cons, List.foldl_cons, withPart, setAt_name, child?_put, if_pos rfl, put_put]
      change List.foldl withPart (put _ (setAt value [.name name] inner) tree) _ = _
      rw [inductionHypothesis, cover_cons, setAt_name]
      rfl

theorem foldl_withPart_partsOfEntry (entry : String × Tree) (tree : Tree) :
    (partsOfEntry entry).foldl withPart tree = setAt entry.2 (stepsOfKey entry.1) tree := by
  unfold partsOfEntry
  split
  · rename_i key origin? first rest steps table
    obtain ⟨name, value⟩ := first
    rw [steps, table, List.map_cons, List.foldl_cons, withPart, setAt_name,
      foldl_withPart_inner, setAt_name]
    change put _ (cover (cover _ [(name, value)]) rest) tree = put _ (cover _ _) tree
    rw [cover_unset_cons]
    rfl
  · rfl

/-- A layer sets its values one after another. -/
theorem withLayer_eq_foldl (tree : Tree) (layer : List (String × Tree)) :
    tree.withLayer layer = (parts layer).foldl withPart tree := by
  induction layer generalizing tree with
  | nil => rfl
  | cons entry layer inductionHypothesis =>
      change (setAt entry.2 (stepsOfKey entry.1) tree).withLayer layer = _
      rw [inductionHypothesis, parts, parts, List.flatMap_cons, List.foldl_append,
        foldl_withPart_partsOfEntry]

end Tree

/-! ## First steps -/

theorem Step.exists_readName {cs rest : List Char} {step : Step}
    (read : readName cs = some (step, rest)) :
    ∃ name, step = .name name := by
  unfold readName at read
  dsimp only at read
  split at read
  · cases read
  · cases read
    exact ⟨_, rfl⟩

/-- Every path begins with a name. -/
theorem exists_stepsOfKey (key : String) :
    ∃ name rest, stepsOfKey key = .name name :: rest := by
  unfold stepsOfKey
  dsimp only
  cases first : Step.readName key.toList with
  | none => exact ⟨key, [], rfl⟩
  | some read =>
      obtain ⟨step, after⟩ := read
      obtain ⟨name, rfl⟩ := Step.exists_readName first
      cases more : Step.readSteps after.length after with
      | none => exact ⟨key, [], by simp [more]⟩
      | some steps => exact ⟨name, steps, by simp [more]⟩

end Settings
end AgentCohort
