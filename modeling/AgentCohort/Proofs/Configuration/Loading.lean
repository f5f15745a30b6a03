import AgentCohort.Proofs.Configuration.Layers
import AgentCohort.Proofs.Settings.Lookup

/-!
# Loading as one row of parts

The parts of all four layers are set one after another in an empty table, and the configuration is
read from it.  A variable contributes one part, or none if its name lacks the lead; the variable of
a setting is one whose name, in lower case, is the lead, the group and the key with two underscores
between them.
-/

namespace AgentCohort

open Settings (FileKind FilePath FileStore Reader Scalar SettingsFile Step Tree stepsOfKey)
open Settings.Environment (key? origin scalarOf)

namespace Settings

/-! ## Parts from variables -/

/-- The part of its layer that a variable contributes. -/
def Environment.part? (assignment : String × String) : Option Tree.Part :=
  (key? assignment.1).map fun key =>
    (stepsOfKey key, .scalar (some origin) (scalarOf assignment.2))

/-- The beginning of a lead may be looked for on its own. -/
theorem Environment.afterLead?_append (first lead cs : List Char) :
    afterLead? (first ++ lead) (first ++ cs) = afterLead? lead cs := by
  induction first with
  | nil => rfl
  | cons c first inductionHypothesis =>
      rw [List.cons_append, List.cons_append, afterLead?, if_pos rfl]
      exact inductionHypothesis

theorem Tree.partsOfEntry_scalar (key : String) (origin? : Option String) (value : Scalar) :
    partsOfEntry (key, .scalar origin? value) = [(stepsOfKey key, .scalar origin? value)] := by
  unfold partsOfEntry
  split
  · rename_i table
    cases table
  · rfl

theorem Environment.parts_layer (assignments : List (String × String)) :
    Tree.parts (layer assignments) = assignments.filterMap part? := by
  induction assignments with
  | nil => rfl
  | cons assignment assignments inductionHypothesis =>
      unfold layer part? at *
      cases key : key? assignment.1 with
      | none => rw [List.filterMap_cons_none (by rw [key]; rfl), inductionHypothesis,
          List.filterMap_cons_none (by rw [key]; rfl)]
      | some found =>
          rw [List.filterMap_cons_some (by rw [key]; rfl), Tree.parts, List.flatMap_cons,
            Tree.partsOfEntry_scalar, List.filterMap_cons_some (by rw [key]; rfl),
            List.singleton_append, ← inductionHypothesis, Tree.parts]

/-- Every part begins with a name. -/
theorem Tree.exists_name_of_mem_parts
    {layer : List (String × Tree)}
    {part : Part}
    (member : part ∈ parts layer) :
    ∃ name rest, part.1 = .name name :: rest := by
  obtain ⟨entry, -, inside⟩ := List.mem_flatMap.mp member
  unfold partsOfEntry at inside
  split at inside
  · obtain ⟨inner, -, rfl⟩ := List.mem_map.mp inside
    exact ⟨_, _, rfl⟩
  · cases List.mem_singleton.mp inside
    exact exists_stepsOfKey entry.1

end Settings

namespace Configuration

variable {store : FileStore} {environment : List (String × String)} {directory : String}
  {configuration : Configuration} {setting : Setting}

/-! ## All layers -/

/-- The parts of all layers. -/
def allParts (first second : List (String × Tree)) (environment : List (String × String)) :
    List Tree.Part :=
  Tree.parts defaults ++ Tree.parts first ++ Tree.parts second ++
    environment.filterMap Settings.Environment.part?

/-- All layers on top of each other. -/
def layered (first second : List (String × Tree)) (environment : List (String × String)) : Tree :=
  (allParts first second environment).foldl Tree.withPart Tree.empty

theorem layered_eq_withLayer (first second : List (String × Tree))
    (environment : List (String × String)) :
    layered first second environment =
      (Tree.empty |>.withLayer defaults |>.withLayer first |>.withLayer second
        |>.withLayer (Settings.Environment.layer environment)) := by
  simp only [layered, allParts, List.foldl_append, ← Settings.Environment.parts_layer,
    ← Tree.withLayer_eq_foldl]

/-- A configuration is loaded exactly if both files can be read and so can all layers together. -/
theorem load_eq_ok_iff :
    load store environment directory = .ok configuration ↔
      ∃ first second, fileLayer store directory "default.toml" = .ok first ∧
        fileLayer store directory (secondFile environment) = .ok second ∧
        reader (layered first second environment) = .ok configuration := by
  unfold load settings
  simp only [bind_eq_ok_iff, layered_eq_withLayer]
  constructor
  · rintro ⟨_, ⟨first, firstRead, second, secondRead, all⟩, read⟩
    cases all
    exact ⟨first, second, firstRead, secondRead, read⟩
  · rintro ⟨first, second, firstRead, secondRead, read⟩
    exact ⟨_, ⟨first, firstRead, second, secondRead, rfl⟩, read⟩

theorem exists_name_of_mem_allParts
    {first second : List (String × Tree)}
    {part : Tree.Part}
    (member : part ∈ allParts first second environment) :
    ∃ name rest, part.1 = .name name :: rest := by
  rw [allParts, ← Settings.Environment.parts_layer] at member
  simp only [List.mem_append] at member
  obtain ((member | member) | member) | member := member
  all_goals exact Tree.exists_name_of_mem_parts member

theorem isTable_foldl_withPart
    {tree : Tree}
    {ps : List Tree.Part}
    (isTable : IsTable tree)
    (named : ∀ part ∈ ps, ∃ name rest, part.1 = .name name :: rest) :
    IsTable (ps.foldl Tree.withPart tree) := by
  induction ps generalizing tree with
  | nil => exact isTable
  | cons part ps inductionHypothesis =>
      obtain ⟨name, rest, steps⟩ := named part (.head _)
      refine inductionHypothesis ?_ fun part member => named part (.tail _ member)
      rw [Tree.withPart, steps, Tree.setAt_name]
      exact isTable_put ..

theorem isTable_layered (first second : List (String × Tree))
    (environment : List (String × String)) :
    IsTable (layered first second environment) :=
  isTable_foldl_withPart trivial fun _ => exists_name_of_mem_allParts

/-- Files that are not looked for have no bearing on what is loaded. -/
theorem load_congr
    {other : FileStore}
    (formats : other.formats = store.formats)
    (first : ∀ path ∈ SettingsFile.places store (FilePath.join directory "default.toml"),
      other.entry path = store.entry path)
    (second : ∀ path ∈ SettingsFile.places store (FilePath.join directory (secondFile environment)),
      other.entry path = store.entry path) :
    load other environment directory = load store environment directory := by
  unfold load settings fileLayer
  rw [SettingsFile.find?_congr formats first, SettingsFile.find?_congr formats second, formats]

/-- Neither has the order of the kinds, where at most one extension leads to a file. -/
theorem load_reordered
    {order : List FileKind}
    (permuted : order.Perm store.formats.order)
    (unambiguous : ∀ name ∈ ["default.toml", secondFile environment],
      SettingsFile.IsUnambiguous store (FilePath.ofText (FilePath.join directory name))
        store.formats.extensions) :
    load { store with formats.order := order } environment directory =
      load store environment directory := by
  obtain ⟨first, second, -⟩ := List.forall_mem_cons.mp unambiguous |>.imp_right
    List.forall_mem_cons.mp
  have read (file : SettingsFile) :
      file.layer { store.formats with order := order } = file.layer store.formats := by
    unfold SettingsFile.layer Settings.Formats.read?
    rfl
  unfold load settings fileLayer
  simp only [SettingsFile.find?_reordered permuted first,
    SettingsFile.find?_reordered permuted second, read]

/-- Of the variables only their parts count and the file that they name. -/
theorem load_eq_of_parts
    {other : List (String × String)}
    (named : secondFile other = secondFile environment)
    (same : other.filterMap Settings.Environment.part? =
      environment.filterMap Settings.Environment.part?) :
    load store other directory = load store environment directory := by
  have layers (first second : List (String × Tree)) :
      layered first second other = layered first second environment := by
    rw [layered, layered, allParts, allParts, same]
  unfold load settings
  simp only [← layered_eq_withLayer, layers, named]

/-! ## Variables of settings -/

/-- A name is that of the variable of a setting, in any case of its letters. -/
def IsVariable (setting : Setting) (name : String) : Prop :=
  Text.lowercase name = "dcop_agent__" ++ setting.group.name ++ "__" ++ setting.key

instance (setting : Setting) (name : String) : Decidable (IsVariable setting name) :=
  inferInstanceAs (Decidable (_ = _))

/-- A name is that of the variable that the notes on the settings promise: there is one underscore
before the group. -/
def IsDocumented (setting : Setting) (name : String) : Prop :=
  Text.lowercase name = "dcop_agent_" ++ setting.group.name ++ "__" ++ setting.key

/-- A variable leaves the way to a setting alone. -/
def Passes (setting : Setting) (assignment : String × String) : Prop :=
  ∀ part, Settings.Environment.part? assignment = some part → Spares setting part

theorem passes_of_part?_eq_none
    {assignment : String × String}
    (none : Settings.Environment.part? assignment = none)
    (setting : Setting) :
    Passes setting assignment := by
  intro part contributed
  cases none.symm.trans contributed

theorem spares_of_passes
    {assignments : List (String × String)}
    (passing : ∀ assignment ∈ assignments, Passes setting assignment) :
    ∀ part ∈ assignments.filterMap Settings.Environment.part?, Spares setting part := by
  intro part member
  obtain ⟨assignment, inside, contributed⟩ := List.mem_filterMap.mp member
  exact passing assignment inside part contributed

/-- What the last of some variables of a setting stands for. -/
def variableValue? (setting : Setting) : List (String × String) → Option Scalar
  | [] => none
  | assignment :: assignments =>
    (variableValue? setting assignments).or
      (if IsVariable setting assignment.1 then some (scalarOf assignment.2) else none)

theorem IsVariable.key? {name : String} (named : IsVariable setting name) :
    key? name = some (setting.group.name ++ "." ++ setting.key) := by
  have begins : Settings.Environment.lead = "dcop_agent__".toList ++ [] := rfl
  rw [Settings.Environment.key?, named, String.append_assoc, String.append_assoc,
    String.toList_append, begins, Settings.Environment.afterLead?_append]
  cases setting <;> rfl

theorem Setting.stepsOfKey_eq (setting : Setting) :
    stepsOfKey (setting.group.name ++ "." ++ setting.key) =
      [.name setting.group.name, .name setting.key] := by
  cases setting <;> rfl

theorem IsVariable.part? {name : String} (named : IsVariable setting name) (value : String) :
    Settings.Environment.part? (name, value) =
      some ([.name setting.group.name, .name setting.key],
        .scalar (some origin) (scalarOf value)) := by
  rw [Settings.Environment.part?, named.key?, Option.map_some, setting.stepsOfKey_eq]

/-- A variable leaves all settings but its own alone. -/
theorem IsVariable.passes
    {other : Setting}
    {name : String}
    (named : IsVariable setting name)
    (differ : other ≠ setting)
    (value : String) :
    Passes other (name, value) := by
  intro part contributed
  cases (named.part? value).symm.trans contributed
  exact setting.leadsTo.spares differ _

theorem IsDocumented.part? {name : String} (named : IsDocumented setting name) (value : String) :
    Settings.Environment.part? (name, value) = none := by
  have key : key? name = none := by
    have begins : Settings.Environment.lead = "dcop_agent_".toList ++ ['_'] := by rfl
    rw [key?, named, String.append_assoc, String.append_assoc, String.toList_append, begins,
      Settings.Environment.afterLead?_append]
    cases setting <;> rfl
  rw [Settings.Environment.part?, key, Option.map_none]

theorem IsVariable.ne_fileVariable {name : String} (named : IsVariable setting name) :
    name ≠ fileVariable := by
  rintro rfl
  have unread : Settings.Environment.part? (fileVariable, "") = none := by rfl
  cases unread.symm.trans (named.part? "")

theorem IsDocumented.ne_fileVariable {name : String} (named : IsDocumented setting name) :
    name ≠ fileVariable := by
  rintro rfl
  have lower : Text.lowercase fileVariable = "dcop_agent_env" := by rfl
  have same : "dcop_agent_env" = _ := lower.symm.trans named
  cases setting <;> exact absurd same (by decide)

/-- Other variables do not name the second file. -/
theorem secondFile_insert
    {name : String}
    (differs : name ≠ fileVariable)
    (value : String)
    (before after : List (String × String)) :
    secondFile (before ++ (name, value) :: after) = secondFile (before ++ after) := by
  rw [secondFile, secondFile, List.lookup_append, List.lookup_append, List.lookup_cons,
    beq_eq_false_iff_ne.mpr differs.symm]

end Configuration
end AgentCohort
