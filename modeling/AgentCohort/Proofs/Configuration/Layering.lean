import AgentCohort.Proofs.Configuration.Loading
import AgentCohort.Proofs.Configuration.Replacements

/-!
# The order of the layers

Each setting has the value of the highest layer that sets it: a variable before the second file,
the second file before `default.toml`, and this before the standard values.
-/

namespace AgentCohort
namespace Configuration

open Settings (FileKind FilePath FileStore Scalar SettingsFile Tree)
open Settings.Environment (origin scalarOf)

/-- What a layer of a file gives a setting. -/
def fileValue? (setting : Setting) (layer : List (String × Tree)) : Option Scalar :=
  lastValue? setting (Tree.parts layer)

/-- A variable is that of a setting and stands for a value of its type, or leaves every setting
alone. -/
def Proper (assignment : String × String) : Prop :=
  (∃ setting, IsVariable setting assignment.1 ∧ setting.Admits (scalarOf assignment.2)) ∨
    ∀ setting, Passes setting assignment

/-- The parts of proper variables are orderly. -/
theorem Proper.orderly
    {assignment : String × String}
    {part : Tree.Part}
    (proper : Proper assignment)
    (contributed : Settings.Environment.part? assignment = some part) :
    Orderly part := by
  obtain ⟨setting, named, admits⟩ | passes := proper
  · cases (named.part? assignment.2).symm.trans contributed
    exact admits.orderly (some origin)
  · exact .inr fun setting => passes setting part contributed

theorem partValue?_of_proper
    {assignment : String × String}
    (proper : Proper assignment)
    (setting : Setting) :
    (Settings.Environment.part? assignment).bind (partValue? setting) =
      if IsVariable setting assignment.1 then some (scalarOf assignment.2) else none := by
  by_cases named : IsVariable setting assignment.1
  · rw [if_pos named, named.part? assignment.2, Option.bind_some,
      setting.leadsTo.partValue?_scalar]
  · rw [if_neg named]
    obtain ⟨other, otherNamed, -⟩ | passes := proper
    · have differ : setting ≠ other := fun same => named (same ▸ otherNamed)
      rw [otherNamed.part? assignment.2, Option.bind_some,
        (other.leadsTo.spares differ _).partValue?_eq_none]
    · cases contributed : Settings.Environment.part? assignment with
      | none => rfl
      | some part => exact (passes setting part contributed).partValue?_eq_none

/-- The parts of proper variables give a setting what its variables stand for. -/
theorem lastValue?_filterMap_part?
    {environment : List (String × String)}
    (proper : ∀ assignment ∈ environment, Proper assignment)
    (setting : Setting) :
    lastValue? setting (environment.filterMap Settings.Environment.part?) =
      variableValue? setting environment := by
  induction environment with
  | nil => rfl
  | cons assignment environment inductionHypothesis =>
      have later := inductionHypothesis fun assignment member => proper assignment (.tail _ member)
      have here := partValue?_of_proper (proper assignment (.head _)) setting
      rw [variableValue?, ← later, ← here]
      cases contributed : Settings.Environment.part? assignment with
      | none => rw [List.filterMap_cons_none contributed, Option.bind_none, Option.or_none]
      | some part => rw [List.filterMap_cons_some contributed, lastValue?, Option.bind_some]

/-- With files whose layers are orderly and with proper variables the configuration is loaded, and
each setting has the value of the highest layer that sets it. -/
theorem exists_load_eq_ok_value
    {store : FileStore}
    {environment : List (String × String)}
    {directory : String}
    {first second : List (String × Tree)}
    (firstRead : fileLayer store directory "default.toml" = .ok first)
    (secondRead : fileLayer store directory (secondFile environment) = .ok second)
    (firstOrderly : ∀ part ∈ Tree.parts first, Orderly part)
    (secondOrderly : ∀ part ∈ Tree.parts second, Orderly part)
    (proper : ∀ assignment ∈ environment, Proper assignment) :
    ∃ configuration, load store environment directory = .ok configuration ∧
      ∀ setting, configuration.value setting =
        ((variableValue? setting environment).or
          ((fileValue? setting second).or (fileValue? setting first))).getD
            (standard.value setting) := by
  have orderly : ∀ part ∈ allParts first second environment, Orderly part := by
    simp only [allParts, List.forall_mem_append]
    refine ⟨⟨⟨orderly_defaults, firstOrderly⟩, secondOrderly⟩, fun part member => ?_⟩
    obtain ⟨assignment, inside, contributed⟩ := List.mem_filterMap.mp member
    exact (proper assignment inside).orderly contributed
  have grouped : Grouped (layered first second environment) :=
    grouped_empty.foldl_withPart orderly
  obtain ⟨configuration, read, values⟩ :=
    grouped.exists_reader_eq_ok (read_foldl_withPart orderly)
  have loaded : load store environment directory = .ok configuration :=
    load_eq_ok_iff.mpr ⟨first, second, firstRead, secondRead, read⟩
  refine ⟨configuration, loaded, fun setting => ?_⟩
  rw [values, allParts, lastValue?_append, lastValue?_append, lastValue?_append,
    lastValue?_filterMap_part? proper, ← fileValue?, ← fileValue?, ← Option.or_assoc,
    ← Option.or_assoc, Option.getD_or, lastValue?_defaults, Option.or_assoc]

/-- Without files and variables the standard configuration is loaded. -/
theorem load_nothing : load (.ofFiles []) [] "config" = .ok standard := by
  have firstRead : fileLayer (.ofFiles []) "config" "default.toml" = .ok [] := by rfl
  have secondRead : fileLayer (.ofFiles []) "config" (secondFile []) = .ok [] := by rfl
  obtain ⟨configuration, loaded, values⟩ :=
    exists_load_eq_ok_value firstRead secondRead nofun nofun nofun
  rw [loaded, eq_of_value values]

/-- With files whose layers are orderly and with proper variables the configuration is loaded, and
each setting has the value of the highest layer that sets it.  Files that are not looked for have
no bearing on it, and neither has a variable that leaves the settings alone, nor the order of the
kinds of files where at most one extension leads to a file. -/
theorem exists_load_eq_ok_layered
    {store : FileStore}
    {environment : List (String × String)}
    {directory : String}
    {first second : List (String × Tree)}
    (firstRead : fileLayer store directory "default.toml" = .ok first)
    (secondRead : fileLayer store directory (secondFile environment) = .ok second)
    (firstOrderly : ∀ part ∈ Tree.parts first, Orderly part)
    (secondOrderly : ∀ part ∈ Tree.parts second, Orderly part)
    (proper : ∀ assignment ∈ environment, Proper assignment) :
    ∃ configuration, load store environment directory = .ok configuration ∧
      (∀ setting, configuration.value setting =
        ((variableValue? setting environment).or
          ((fileValue? setting second).or (fileValue? setting first))).getD
            (standard.value setting)) ∧
      (∀ other : FileStore, other.formats = store.formats →
        (∀ path ∈ SettingsFile.places store (FilePath.join directory "default.toml"),
          other.entry path = store.entry path) →
        (∀ path ∈ SettingsFile.places store (FilePath.join directory (secondFile environment)),
          other.entry path = store.entry path) →
        load other environment directory = .ok configuration) ∧
      ∀ order : List FileKind, order.Perm store.formats.order →
        (∀ name ∈ ["default.toml", secondFile environment],
          SettingsFile.IsUnambiguous store (FilePath.ofText (FilePath.join directory name))
            store.formats.extensions) →
        load { store with formats.order := order } environment directory =
          .ok configuration := by
  obtain ⟨configuration, loaded, values⟩ :=
    exists_load_eq_ok_value firstRead secondRead firstOrderly secondOrderly proper
  exact ⟨configuration, loaded, values,
    fun other formats sameFirst sameSecond =>
      (load_congr formats sameFirst sameSecond).trans loaded,
    fun order permuted unambiguous => (load_reordered permuted unambiguous).trans loaded⟩

/-- A directory with both files; the second one is found by its extension. -/
def bothFiles : FileStore :=
  .ofFiles
    [(["config", "default.toml"],
      .text "[supervisor]\nmax_restarts = 5\n[logging]\nlevel = \"warn\"\n"),
     (["config", "production.json"], .text "\x7b\"supervisor\":\x7b\"max_restarts\":7\x7d\x7d")]

/-- The layer of `default.toml`. -/
def someDefaults : List (String × Tree) :=
  let origin := "config/default.toml"
  [("supervisor", .table origin [("max_restarts", .scalar origin (.integer 5))]),
   ("logging", .table origin [("level", .scalar origin (.text "warn"))])]

/-- The layer of the second file. -/
def someProduction : List (String × Tree) :=
  let origin := "config/production.json"
  [("supervisor", .table origin [("max_restarts", .scalar origin (.integer 7))])]

/-- The variable of a setting in any case of its letters, among others. -/
def someVariables : List (String × String) :=
  [("DCOP_AGENT_ENV", "production"), ("dcop_agent__Supervisor__COOLDOWN_SECS", "42"),
   ("DCOP_AGENT__SUPERVISOR__OTHER", "1")]

theorem load_bothFiles_someVariables :
    ∃ configuration, load bothFiles someVariables "config" = .ok configuration ∧
      configuration.value .cooldown = .integer 42 ∧
      configuration.value .maxRestarts = .integer 7 ∧
      configuration.value .level = .text "warn" ∧
      configuration.value .directory = .nothing := by
  have cooldown (word : UInt64) : Setting.cooldown.Admits (.word64 word) :=
    ⟨⟨{ SupervisorSettings.standard with cooldownSeconds := word }, .standard, .standard⟩, rfl⟩
  have maxRestarts (word : UInt32) : Setting.maxRestarts.Admits (.word32 word) :=
    ⟨⟨{ SupervisorSettings.standard with maxRestarts? := word }, .standard, .standard⟩, rfl⟩
  have level (text : String) : Setting.level.Admits (.text text) :=
    ⟨⟨.standard, .standard, { LoggingSettings.standard with level := text }⟩, rfl⟩
  have firstOrderly : ∀ part ∈ Tree.parts someDefaults, Orderly part := by
    change ∀ part ∈ [_, _], Orderly part
    simp only [List.forall_mem_cons]
    exact ⟨(maxRestarts 5).orderly _, (level "warn").orderly _, nofun⟩
  have secondOrderly : ∀ part ∈ Tree.parts someProduction, Orderly part := by
    change ∀ part ∈ [_], Orderly part
    simp only [List.forall_mem_cons]
    exact ⟨(maxRestarts 7).orderly _, nofun⟩
  have named : IsVariable .cooldown "dcop_agent__Supervisor__COOLDOWN_SECS" := by decide
  have unread : Settings.Environment.part? ("DCOP_AGENT_ENV", "production") = none := by rfl
  have steps : Settings.Environment.part? ("DCOP_AGENT__SUPERVISOR__OTHER", "1") =
      some ([.name "supervisor", .name "other"], .scalar (some origin) (.integer 1)) := by
    rfl
  have proper : ∀ assignment ∈ someVariables, Proper assignment := by
    simp only [someVariables, List.forall_mem_cons]
    refine ⟨.inr (passes_of_part?_eq_none unread), .inl ⟨.cooldown, named, cooldown 42⟩, .inr ?_,
      nofun⟩
    intro setting part contributed
    cases steps.symm.trans contributed
    intro _
    cases setting <;> decide
  have firstRead : fileLayer bothFiles "config" "default.toml" = .ok someDefaults :=
    eq_ok_of_toOption (by decide +kernel)
  have secondRead : fileLayer bothFiles "config" (secondFile someVariables) = .ok someProduction :=
    eq_ok_of_toOption (by decide +kernel)
  obtain ⟨configuration, loaded, values, -⟩ := exists_load_eq_ok_layered firstRead secondRead
    firstOrderly secondOrderly proper
  have parts : someVariables.filterMap Settings.Environment.part? =
      [([.name "supervisor", .name "cooldown_secs"], .scalar (some origin) (.integer 42)),
        ([.name "supervisor", .name "other"], .scalar (some origin) (.integer 1))] := by
    rw [someVariables, List.filterMap_cons_none unread,
      List.filterMap_cons_some (named.part? "42"), List.filterMap_cons_some steps]
    rfl
  refine ⟨configuration, loaded, ?_, ?_, ?_, ?_⟩
  all_goals
    rw [values, ← lastValue?_filterMap_part? proper, parts]
    decide

/-- A path in the name of a variable sets a setting as well, and where `default.toml` is missing a
file with a further extension takes its place. -/
theorem load_changed_by_otherNames :
    (∀ setting, ¬ IsVariable setting "DCOP_AGENT__SUPERVISOR.COOLDOWN_SECS") ∧
      (load (.ofFiles []) [("DCOP_AGENT__SUPERVISOR.COOLDOWN_SECS", "42")] "config").toOption ≠
        (load (.ofFiles []) [] "config").toOption ∧
      (load (.ofFiles [(["config", "default.toml.toml"], .text "[logging]\njson = true\n")]) []
        "config").toOption ≠
        (load (.ofFiles []) [] "config").toOption := by
  rw [load_nothing]
  refine ⟨fun setting => ?_, by decide +kernel, by decide +kernel⟩
  cases setting <;> decide

end Configuration
end AgentCohort
