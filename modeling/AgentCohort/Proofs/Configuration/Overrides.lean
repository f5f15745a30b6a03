import AgentCohort.Proofs.Configuration.Layering
import AgentCohort.Proofs.Settings.Variables

/-!
# What one more variable does

The variable of a setting decides the setting, unless a later one does, whatever the files and the
other variables set.  Names with one underscore before the group set nothing at all.
-/

namespace AgentCohort
namespace Configuration

open Settings (FileStore Reader Scalar Tree)
open Settings.Environment (Survives origin scalarOf written)

variable {store : FileStore} {directory : String} {setting : Setting} {name value : String}
  {before after : List (String × String)} {configuration : Configuration}

/-- A variable that contributes nothing and names no file changes nothing. -/
theorem load_insert_of_part?_eq_none
    (differs : name ≠ fileVariable)
    (none : Settings.Environment.part? (name, value) = none) :
    load store (before ++ (name, value) :: after) directory =
      load store (before ++ after) directory := by
  refine load_eq_of_parts (secondFile_insert differs ..) ?_
  rw [List.filterMap_append, List.filterMap_append, List.filterMap_cons_none none]

/-- The layers with one more variable of a setting are alike but for the setting. -/
theorem alikeBut_insert
    (named : IsVariable setting name)
    (later : ∀ assignment ∈ after, Passes setting assignment)
    (first second : List (String × Tree)) :
    AlikeBut setting (.scalar (some origin) (scalarOf value))
      (layered first second (before ++ after))
      (layered first second (before ++ (name, value) :: after)) := by
  simp only [layered, allParts, List.filterMap_append, List.foldl_append,
    List.filterMap_cons_some (named.part? value), List.foldl_cons]
  exact (setting.leadsTo.alikeBut ..).foldl_withPart (spares_of_passes later)

/-- The setting of a variable is what the variable is read as, whatever else is set. -/
theorem read_of_load_insert
    (named : IsVariable setting name)
    (later : ∀ assignment ∈ after, Passes setting assignment)
    (loaded : load store (before ++ (name, value) :: after) directory = .ok configuration) :
    setting.read (some (.scalar (some origin) (scalarOf value))) =
      .ok (configuration.value setting) := by
  obtain ⟨first, second, -, -, read⟩ := load_eq_ok_iff.mp loaded
  exact read_of_given (isTable_layered ..) read (alikeBut_insert named later first second).given?_eq

/-- What can be loaded without a variable can be loaded with it, if its setting can be read. -/
theorem exists_load_insert
    {result : Scalar}
    (named : IsVariable setting name)
    (later : ∀ assignment ∈ after, Passes setting assignment)
    (readable : setting.read (some (.scalar (some origin) (scalarOf value))) = .ok result)
    (loaded : load store (before ++ after) directory = .ok configuration) :
    ∃ changed, load store (before ++ (name, value) :: after) directory = .ok changed ∧
      changed.value setting = result := by
  obtain ⟨first, second, firstRead, secondRead, read⟩ := load_eq_ok_iff.mp loaded
  obtain ⟨changed, readChanged, valued⟩ :=
    (alikeBut_insert named later first second).exists_reader_eq_ok
      (isTable_layered ..) (isTable_layered ..) read readable
  refine ⟨changed, load_eq_ok_iff.mpr ⟨first, second, firstRead, ?_, readChanged⟩, valued⟩
  rw [secondFile_insert named.ne_fileVariable]
  exact secondRead

/-! ## Names with one underscore -/

/-- A variable under the promised name, with one underscore before the group, changes nothing at
all.  Under the name with two of them it decides its setting: whatever is loaded has the value that
the variable is read as, and everything that could be loaded without it still can. -/
theorem load_insert_documented
    {documented : String}
    (isDocumented : IsDocumented setting documented)
    (named : IsVariable setting name)
    (later : ∀ assignment ∈ after, Passes setting assignment) :
    load store (before ++ (documented, value) :: after) directory =
        load store (before ++ after) directory ∧
      (∀ changed, load store (before ++ (name, value) :: after) directory = .ok changed →
        setting.read (some (.scalar (some origin) (scalarOf value))) =
          .ok (changed.value setting)) ∧
      ∀ configuration result, load store (before ++ after) directory = .ok configuration →
        setting.read (some (.scalar (some origin) (scalarOf value))) = .ok result →
        ∃ changed, load store (before ++ (name, value) :: after) directory = .ok changed ∧
          changed.value setting = result := by
  refine ⟨load_insert_of_part?_eq_none isDocumented.ne_fileVariable (isDocumented.part? value),
    fun changed => read_of_load_insert named later, fun configuration result loaded readable => ?_⟩
  exact exists_load_insert named later readable loaded

/-- A `default.toml` that sets the pause. -/
def pauseFile : FileStore :=
  .ofFiles [(["config", "default.toml"], .text "[supervisor]\ncooldown_secs = 3\n")]

/-- Its layer. -/
def pauseLayer : List (String × Tree) :=
  let origin := "config/default.toml"
  [("supervisor", .table origin [("cooldown_secs", .scalar origin (.integer 3))])]

theorem load_pauseFile :
    load pauseFile [] "config" =
      .ok ⟨{ SupervisorSettings.standard with cooldownSeconds := 3 }, .standard, .standard⟩ := by
  have pause : Setting.cooldown.Admits (.word64 3) :=
    ⟨⟨{ SupervisorSettings.standard with cooldownSeconds := 3 }, .standard, .standard⟩, rfl⟩
  have firstRead : fileLayer pauseFile "config" "default.toml" = .ok pauseLayer :=
    eq_ok_of_toOption (by decide +kernel)
  have secondRead : fileLayer pauseFile "config" (secondFile []) = .ok [] := by rfl
  have firstOrderly : ∀ part ∈ Tree.parts pauseLayer, Orderly part := by
    change ∀ part ∈ [_], Orderly part
    simp only [List.forall_mem_cons]
    exact ⟨pause.orderly _, nofun⟩
  obtain ⟨configuration, loaded, values⟩ :=
    exists_load_eq_ok_value firstRead secondRead firstOrderly nofun nofun
  refine loaded.trans (congrArg Except.ok (eq_of_value fun setting => ?_))
  rw [values setting]
  cases setting <;> decide

theorem load_insert_documented_pause :
    load pauseFile [("DCOP_AGENT_SUPERVISOR__COOLDOWN_SECS", "4")] "config" =
        load pauseFile [] "config" ∧
      ∃ changed, load pauseFile [("DCOP_AGENT__SUPERVISOR__COOLDOWN_SECS", "4")] "config" =
          .ok changed ∧
        changed.value .cooldown = .integer 4 := by
  have isDocumented : IsDocumented .cooldown "DCOP_AGENT_SUPERVISOR__COOLDOWN_SECS" := by
    unfold IsDocumented
    decide
  have named : IsVariable .cooldown "DCOP_AGENT__SUPERVISOR__COOLDOWN_SECS" := by
    decide
  obtain ⟨same, -, decides⟩ :=
    @load_insert_documented pauseFile "config" .cooldown _ "4" [] [] _ isDocumented named nofun
  exact ⟨same, decides _ _ load_pauseFile (eq_ok_of_toOption (by decide +kernel))⟩

/-- The promised name does not override the file. -/
theorem load_pauseFile_documented :
    (load pauseFile [("DCOP_AGENT_SUPERVISOR__COOLDOWN_SECS", "4")] "config").toOption.map
      (·.value .cooldown) = some (.integer 3) := by
  have isDocumented : IsDocumented .cooldown "DCOP_AGENT_SUPERVISOR__COOLDOWN_SECS" := by
    unfold IsDocumented
    decide
  have same : load pauseFile ([] ++ ("DCOP_AGENT_SUPERVISOR__COOLDOWN_SECS", "4") :: []) "config" =
      load pauseFile ([] ++ []) "config" :=
    load_insert_of_part?_eq_none isDocumented.ne_fileVariable (isDocumented.part? "4")
  rw [List.nil_append] at same
  rw [same, List.nil_append, load_pauseFile]
  rfl

/-! ## Texts -/

/-- The variable of a text setting gives the setting what its text stands for, written again; this
is the text of the variable exactly if that survives. -/
theorem exists_load_insert_text
    (isText : setting = .level ∨ setting = .directory)
    (named : IsVariable setting name)
    (later : ∀ assignment ∈ after, Passes setting assignment)
    (loaded : load store (before ++ after) directory = .ok configuration) :
    ∃ changed, load store (before ++ (name, value) :: after) directory = .ok changed ∧
      changed.value setting = .text (written (scalarOf value)) ∧
      (changed.value setting = .text value ↔ Survives value) := by
  have readable : setting.read (some (.scalar (some origin) (scalarOf value))) =
      .ok (.text (written (scalarOf value))) := by
    obtain rfl | rfl := isText
    · have text := Settings.Environment.text_scalarOf (some origin) value
      simp only [Setting.read, Reader.orDefault, text, Except.map]
    · have text := Settings.Environment.optional_text_scalarOf (some origin) value
      simp only [Setting.read, Reader.orDefault, text, Except.map, Scalar.optional]
  obtain ⟨changed, loadedChanged, valued⟩ := exists_load_insert named later readable loaded
  refine ⟨changed, loadedChanged, valued, ?_⟩
  rw [valued, Scalar.text.injEq]
  exact Settings.Environment.written_scalarOf_eq_iff value

theorem exists_load_insert_text_hexadecimal :
    ∃ changed, load (.ofFiles []) [("DCOP_AGENT__LOGGING__LEVEL", "0x7")] "config" = .ok changed ∧
      changed.value .level = .text "0x7" := by
  have named : IsVariable .level "DCOP_AGENT__LOGGING__LEVEL" := by
    decide
  obtain ⟨changed, loaded, -, survives⟩ :=
    @exists_load_insert_text (.ofFiles []) "config" .level _ "0x7" [] [] standard
      (.inl rfl) named nofun load_nothing
  exact ⟨changed, loaded, survives.mpr (.inr (.inr (.inr (.inr (by decide +kernel)))))⟩

/-- A directory of digits loses its leading zeros. -/
theorem load_directory_zeros :
    (load (.ofFiles []) [("DCOP_AGENT__LOGGING__DIR", "007")] "config").toOption.map
      (·.value .directory) = some (.text "7") := by
  have named : IsVariable .directory "DCOP_AGENT__LOGGING__DIR" := by
    decide
  have readable : Setting.directory.read (some (.scalar (some origin) (scalarOf "007"))) =
      .ok (.text "7") := eq_ok_of_toOption (by decide +kernel)
  obtain ⟨changed, loaded, valued⟩ :=
    @exists_load_insert (.ofFiles []) "config" .directory _ "007" [] [] standard _ named nofun
      readable load_nothing
  rw [List.nil_append] at loaded
  rw [loaded]
  exact congrArg some valued

end Configuration
end AgentCohort
