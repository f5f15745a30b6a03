import AgentCohort.Configuration.Load
import AgentCohort.Proofs.Results
import AgentCohort.Proofs.Settings.Trees

/-!
# The settings of a configuration

A configuration has nine settings in three groups.  Each of them is looked up in the table of its
group and read by itself, and where it is not given it has its standard value.  So a configuration
is read from tables exactly if each setting is, and its settings have the values that were read.
-/

namespace AgentCohort

open Settings (Fault Reader Scalar Tree)

/-! ## Values -/

namespace Settings

namespace Scalar

/-- A word of 64 bits as a single value. -/
def word64 (word : UInt64) : Scalar :=
  .integer word.toNat

/-- A word of 32 bits as a single value. -/
def word32 (word : UInt32) : Scalar :=
  .integer word.toNat

/-- A choice as a single value. -/
def choice (choice : PartialLaunch) : Scalar :=
  .text choice.name

/-- Something that may be absent as a single value. -/
def optional (write : α → Scalar) : Option α → Scalar
  | some value => write value
  | none => .nothing

theorem boolean_injective : Function.Injective boolean :=
  fun _ _ => boolean.inj

theorem text_injective : Function.Injective text :=
  fun _ _ => text.inj

theorem word64_injective : Function.Injective word64 := by
  intro first second same
  rw [word64, word64, integer.injEq, Int.ofNat_inj] at same
  exact UInt64.toNat_inj.mp same

theorem word32_injective : Function.Injective word32 := by
  intro first second same
  rw [word32, word32, integer.injEq, Int.ofNat_inj] at same
  exact UInt32.toNat_inj.mp same

theorem choice_injective : Function.Injective choice := by
  intro first second same
  cases first <;> cases second <;> first | rfl | exact absurd same (by decide)

theorem optional_injective
    {write : α → Scalar}
    (injective : Function.Injective write)
    (present : ∀ value, write value ≠ .nothing) :
    Function.Injective (optional write) := by
  intro first second same
  cases first with
  | none =>
      cases second with
      | none => rfl
      | some value => exact absurd same.symm (present value)
  | some value =>
      cases second with
      | none => exact absurd same (present value)
      | some other => exact congrArg some (injective same)

theorem optional_word64_injective : Function.Injective (optional word64) :=
  optional_injective word64_injective fun _ => Scalar.noConfusion

theorem optional_word32_injective : Function.Injective (optional word32) :=
  optional_injective word32_injective fun _ => Scalar.noConfusion

theorem optional_text_injective : Function.Injective (optional text) :=
  optional_injective text_injective fun _ => Scalar.noConfusion

end Scalar

namespace Reader

/-- Reads what is there, or takes a default where there is nothing. -/
def orDefault (reader : Reader α) (default : α) : Option Tree → Except Fault α
  | some tree => reader tree
  | none => .ok default

/-- A setting of a table is read from what is at its key. -/
theorem setting_eq_ok_iff
    {entries : List (String × Tree)}
    {key : String}
    {position : Nat}
    {default value : α}
    {reader : Reader α} :
    setting (.byKey entries) key position default reader = .ok value ↔
      reader.orDefault default (entries.lookup key) = .ok value := by
  unfold setting orDefault
  dsimp only
  cases entries.lookup key with
  | none => exact Iff.rfl
  | some tree => exact mapError_eq_ok_iff

theorem toSection_table (type : String) (origin? : Option String) (entries : List (String × Tree)) :
    toSection type (.table origin? entries) = .ok (.byKey entries) :=
  rfl

/-! ### What has been written -/

theorem natural_integer (origin? : Option String) (number : Nat) :
    natural (.scalar origin? (.integer number)) = .ok number := by
  simp [natural]

theorem word64_scalar (origin? : Option String) (word : UInt64) :
    word64 (.scalar origin? (.word64 word)) = .ok word := by
  rw [Scalar.word64, word64, natural_integer, Except.map, UInt64.ofNat_toNat]

theorem word32_scalar (origin? : Option String) (word : UInt32) :
    word32 (.scalar origin? (.word32 word)) = .ok word := by
  rw [Scalar.word32, word32, natural_integer]
  change (if word.toNat < Nat.pow 2 32 then Except.ok (UInt32.ofNat word.toNat) else _) = _
  rw [if_pos word.toNat_lt, UInt32.ofNat_toNat]

theorem choice_scalar (origin? : Option String) (choice : PartialLaunch) :
    PartialLaunch.reader (.scalar origin? (.choice choice)) = .ok choice := by
  cases choice <;> exact rfl

/-- A value that may be absent is read as it has been written. -/
theorem optional_scalar
    {reader : Reader α}
    {write : α → Scalar}
    {origin? : Option String}
    (present : ∀ value, write value ≠ .nothing)
    (read : ∀ value, reader (.scalar origin? (write value)) = .ok value)
    (value? : Option α) :
    reader.optional (.scalar origin? (.optional write value?)) = .ok value? := by
  cases value? with
  | none => rfl
  | some value =>
      unfold optional Scalar.optional
      split
      · rename_i absent
        injection absent with _ absent
        exact absurd absent (present value)
      · rw [read]
        rfl

end Reader
end Settings

namespace SupervisorSettings

theorem reader_table_eq_ok_iff
    {origin? : Option String}
    {entries : List (String × Tree)}
    {settings : SupervisorSettings} :
    reader (.table origin? entries) = .ok settings ↔
      Reader.word64.orDefault standard.cooldownSeconds (entries.lookup "cooldown_secs") =
          .ok settings.cooldownSeconds ∧
        Reader.word64.optional.orDefault none (entries.lookup "join_timeout_secs") =
          .ok settings.joinTimeoutSeconds? ∧
        Reader.word32.optional.orDefault none (entries.lookup "max_restarts") =
          .ok settings.maxRestarts? ∧
        PartialLaunch.reader.orDefault standard.partialLaunch (entries.lookup "partial_launch") =
          .ok settings.partialLaunch := by
  unfold reader
  simp only [Reader.toSection_table, bind_eq_ok_iff, Reader.setting_eq_ok_iff, Except.ok.injEq,
    exists_eq_left', pure, Except.pure]
  constructor
  · rintro ⟨_, first, _, second, _, third, _, fourth, rfl⟩
    exact ⟨first, second, third, fourth⟩
  · rintro ⟨first, second, third, fourth⟩
    exact ⟨_, first, _, second, _, third, _, fourth, rfl⟩

end SupervisorSettings

namespace AgentSettings

theorem reader_table_eq_ok_iff
    {origin? : Option String}
    {entries : List (String × Tree)}
    {settings : AgentSettings} :
    reader (.table origin? entries) = .ok settings ↔
      Reader.word64.orDefault standard.registrationRetryMs
          (entries.lookup "registration_retry_ms") = .ok settings.registrationRetryMs ∧
        Reader.word64.orDefault standard.stopGraceMs (entries.lookup "stop_grace_ms") =
          .ok settings.stopGraceMs := by
  unfold reader
  simp only [Reader.toSection_table, bind_eq_ok_iff, Reader.setting_eq_ok_iff, Except.ok.injEq,
    exists_eq_left', pure, Except.pure]
  constructor
  · rintro ⟨_, first, _, second, rfl⟩
    exact ⟨first, second⟩
  · rintro ⟨first, second⟩
    exact ⟨_, first, _, second, rfl⟩

end AgentSettings

namespace LoggingSettings

theorem reader_table_eq_ok_iff
    {origin? : Option String}
    {entries : List (String × Tree)}
    {settings : LoggingSettings} :
    reader (.table origin? entries) = .ok settings ↔
      Reader.text.orDefault standard.level (entries.lookup "level") = .ok settings.level ∧
        Reader.boolean.orDefault standard.json (entries.lookup "json") = .ok settings.json ∧
        Reader.text.optional.orDefault none (entries.lookup "dir") =
          .ok settings.directory? := by
  unfold reader
  simp only [Reader.toSection_table, bind_eq_ok_iff, Reader.setting_eq_ok_iff, Except.ok.injEq,
    exists_eq_left', pure, Except.pure]
  constructor
  · rintro ⟨_, first, _, second, _, third, rfl⟩
    exact ⟨first, second, third⟩
  · rintro ⟨first, second, third⟩
    exact ⟨_, first, _, second, _, third, rfl⟩

end LoggingSettings

namespace Configuration

/-! ## Groups -/

/-- The groups of settings. -/
inductive Group where
  /-- Settings of the supervisor. -/
  | supervisor
  /-- Settings of the agents. -/
  | agent
  /-- Settings of the log. -/
  | logging
  deriving DecidableEq, Repr

namespace Group

/-- The name of a group. -/
def name : Group → String
  | .supervisor => "supervisor"
  | .agent => "agent"
  | .logging => "logging"

theorem name_injective : Function.Injective name := by
  intro first second same
  cases first <;> cases second <;> first | rfl | exact absurd same (by decide)

/-- The settings of a group in a configuration are those that are read from a tree, or the
standard ones where there is none. -/
def Reads (group : Group) (tree? : Option Tree) (configuration : Configuration) : Prop :=
  match group with
  | .supervisor =>
    SupervisorSettings.reader.orDefault .standard tree? = .ok configuration.supervisor
  | .agent => AgentSettings.reader.orDefault .standard tree? = .ok configuration.agent
  | .logging => LoggingSettings.reader.orDefault .standard tree? = .ok configuration.logging

end Group

/-- A configuration is read group by group. -/
theorem reader_table_eq_ok_iff
    {origin? : Option String}
    {entries : List (String × Tree)}
    {configuration : Configuration} :
    reader (.table origin? entries) = .ok configuration ↔
      ∀ group : Group, group.Reads (entries.lookup group.name) configuration := by
  unfold reader
  simp only [Reader.toSection_table, bind_eq_ok_iff, Reader.setting_eq_ok_iff, Except.ok.injEq,
    exists_eq_left', pure, Except.pure]
  constructor
  · rintro ⟨_, supervisor, _, agent, _, logging, rfl⟩ (_ | _ | _)
    · exact supervisor
    · exact agent
    · exact logging
  · intro reads
    exact ⟨_, reads .supervisor, _, reads .agent, _, reads .logging, rfl⟩

/-- Groups that can be read one by one can be read together. -/
theorem exists_reads {trees : Group → Option Tree}
    (readable : ∀ group : Group, ∃ configuration, group.Reads (trees group) configuration) :
    ∃ configuration, ∀ group : Group, group.Reads (trees group) configuration := by
  obtain ⟨first, supervisor⟩ := readable .supervisor
  obtain ⟨second, agent⟩ := readable .agent
  obtain ⟨third, logging⟩ := readable .logging
  refine ⟨⟨first.supervisor, second.agent, third.logging⟩, ?_⟩
  rintro (_ | _ | _)
  · exact supervisor
  · exact agent
  · exact logging

/-! ## Settings -/

/-- The settings. -/
inductive Setting where
  /-- Seconds between the end of a cohort and the next launch. -/
  | cooldown
  /-- Seconds after which an agent that is waited for is asked to stop. -/
  | joinTimeout
  /-- Number of further launches. -/
  | maxRestarts
  /-- What happens to a cohort that is launched in part. -/
  | partialLaunch
  /-- Milliseconds between two attempts to register. -/
  | registrationRetry
  /-- Milliseconds that the servers of an agent get to close. -/
  | stopGrace
  /-- The level from which on lines are logged. -/
  | level
  /-- Whether lines are written as JSON. -/
  | json
  /-- A directory for log files. -/
  | directory
  deriving DecidableEq, Repr

namespace Setting

/-- The group of a setting. -/
def group : Setting → Group
  | .cooldown => .supervisor
  | .joinTimeout => .supervisor
  | .maxRestarts => .supervisor
  | .partialLaunch => .supervisor
  | .registrationRetry => .agent
  | .stopGrace => .agent
  | .level => .logging
  | .json => .logging
  | .directory => .logging

/-- The key of a setting in the table of its group. -/
def key : Setting → String
  | .cooldown => "cooldown_secs"
  | .joinTimeout => "join_timeout_secs"
  | .maxRestarts => "max_restarts"
  | .partialLaunch => "partial_launch"
  | .registrationRetry => "registration_retry_ms"
  | .stopGrace => "stop_grace_ms"
  | .level => "level"
  | .json => "json"
  | .directory => "dir"

theorem lowercase_group_name (setting : Setting) :
    Text.lowercase setting.group.name = setting.group.name := by
  cases setting <;> decide

theorem lowercase_key (setting : Setting) : Text.lowercase setting.key = setting.key := by
  cases setting <;> decide

/-- Settings are told apart by their groups and keys. -/
theorem eq_of_group_of_key {first second : Setting}
    (group : first.group.name = second.group.name)
    (key : first.key = second.key) :
    first = second := by
  cases first <;> cases second <;> first | rfl | exact absurd key (by decide)

/-- The value of a setting where something is given for it, and its standard value elsewhere. -/
def read (setting : Setting) (tree? : Option Tree) : Except Fault Scalar :=
  match setting with
  | .cooldown =>
    (Reader.word64.orDefault SupervisorSettings.standard.cooldownSeconds tree?).map .word64
  | .joinTimeout => (Reader.word64.optional.orDefault none tree?).map (.optional .word64)
  | .maxRestarts => (Reader.word32.optional.orDefault none tree?).map (.optional .word32)
  | .partialLaunch =>
    (PartialLaunch.reader.orDefault SupervisorSettings.standard.partialLaunch tree?).map .choice
  | .registrationRetry =>
    (Reader.word64.orDefault AgentSettings.standard.registrationRetryMs tree?).map .word64
  | .stopGrace => (Reader.word64.orDefault AgentSettings.standard.stopGraceMs tree?).map .word64
  | .level => (Reader.text.orDefault LoggingSettings.standard.level tree?).map .text
  | .json => (Reader.boolean.orDefault LoggingSettings.standard.json tree?).map .boolean
  | .directory => (Reader.text.optional.orDefault none tree?).map (.optional .text)

end Setting

theorem Group.exists_setting (group : Group) : ∃ setting : Setting, setting.group = group := by
  cases group with
  | supervisor => exact ⟨.cooldown, rfl⟩
  | agent => exact ⟨.stopGrace, rfl⟩
  | logging => exact ⟨.level, rfl⟩

/-- The value of a setting in a configuration. -/
def value (configuration : Configuration) : Setting → Scalar
  | .cooldown => .word64 configuration.supervisor.cooldownSeconds
  | .joinTimeout => .optional .word64 configuration.supervisor.joinTimeoutSeconds?
  | .maxRestarts => .optional .word32 configuration.supervisor.maxRestarts?
  | .partialLaunch => .choice configuration.supervisor.partialLaunch
  | .registrationRetry => .word64 configuration.agent.registrationRetryMs
  | .stopGrace => .word64 configuration.agent.stopGraceMs
  | .level => .text configuration.logging.level
  | .json => .boolean configuration.logging.json
  | .directory => .optional .text configuration.logging.directory?

theorem Setting.read_none (setting : Setting) :
    setting.read none = .ok (standard.value setting) := by
  cases setting <;> rfl

/-- The settings of a group in a table are read one by one. -/
theorem Group.reads_table_iff
    {group : Group}
    {origin? : Option String}
    {entries : List (String × Tree)}
    {configuration : Configuration} :
    group.Reads (some (.table origin? entries)) configuration ↔
      ∀ setting : Setting, setting.group = group →
        setting.read (entries.lookup setting.key) = .ok (configuration.value setting) := by
  constructor
  · rintro reads setting rfl
    cases setting with
    | cooldown =>
        exact (map_eq_ok_iff_of_injective Scalar.word64_injective).mpr
          (SupervisorSettings.reader_table_eq_ok_iff.mp reads).1
    | joinTimeout =>
        exact (map_eq_ok_iff_of_injective Scalar.optional_word64_injective).mpr
          (SupervisorSettings.reader_table_eq_ok_iff.mp reads).2.1
    | maxRestarts =>
        exact (map_eq_ok_iff_of_injective Scalar.optional_word32_injective).mpr
          (SupervisorSettings.reader_table_eq_ok_iff.mp reads).2.2.1
    | partialLaunch =>
        exact (map_eq_ok_iff_of_injective Scalar.choice_injective).mpr
          (SupervisorSettings.reader_table_eq_ok_iff.mp reads).2.2.2
    | registrationRetry =>
        exact (map_eq_ok_iff_of_injective Scalar.word64_injective).mpr
          (AgentSettings.reader_table_eq_ok_iff.mp reads).1
    | stopGrace =>
        exact (map_eq_ok_iff_of_injective Scalar.word64_injective).mpr
          (AgentSettings.reader_table_eq_ok_iff.mp reads).2
    | level =>
        exact (map_eq_ok_iff_of_injective Scalar.text_injective).mpr
          (LoggingSettings.reader_table_eq_ok_iff.mp reads).1
    | json =>
        exact (map_eq_ok_iff_of_injective Scalar.boolean_injective).mpr
          (LoggingSettings.reader_table_eq_ok_iff.mp reads).2.1
    | directory =>
        exact (map_eq_ok_iff_of_injective Scalar.optional_text_injective).mpr
          (LoggingSettings.reader_table_eq_ok_iff.mp reads).2.2
  · intro read
    cases group with
    | supervisor =>
        exact SupervisorSettings.reader_table_eq_ok_iff.mpr
          ⟨(map_eq_ok_iff_of_injective Scalar.word64_injective).mp (read .cooldown rfl),
            (map_eq_ok_iff_of_injective Scalar.optional_word64_injective).mp
              (read .joinTimeout rfl),
            (map_eq_ok_iff_of_injective Scalar.optional_word32_injective).mp
              (read .maxRestarts rfl),
            (map_eq_ok_iff_of_injective Scalar.choice_injective).mp (read .partialLaunch rfl)⟩
    | agent =>
        exact AgentSettings.reader_table_eq_ok_iff.mpr
          ⟨(map_eq_ok_iff_of_injective Scalar.word64_injective).mp (read .registrationRetry rfl),
            (map_eq_ok_iff_of_injective Scalar.word64_injective).mp (read .stopGrace rfl)⟩
    | logging =>
        exact LoggingSettings.reader_table_eq_ok_iff.mpr
          ⟨(map_eq_ok_iff_of_injective Scalar.text_injective).mp (read .level rfl),
            (map_eq_ok_iff_of_injective Scalar.boolean_injective).mp (read .json rfl),
            (map_eq_ok_iff_of_injective Scalar.optional_text_injective).mp (read .directory rfl)⟩

/-- A group that is not there is read like one without entries. -/
theorem Group.reads_none_iff {group : Group} {configuration : Configuration} :
    group.Reads none configuration ↔ group.Reads (some Tree.empty) configuration := by
  cases group <;> exact Iff.rfl

/-- A group is read from a table if each of its settings is. -/
theorem Group.exists_reads_table
    {group : Group}
    {origin? : Option String}
    {entries : List (String × Tree)}
    (readable : ∀ setting : Setting, setting.group = group →
      ∃ value, setting.read (entries.lookup setting.key) = .ok value) :
    ∃ configuration, group.Reads (some (.table origin? entries)) configuration := by
  cases group with
  | supervisor =>
      obtain ⟨_, cooldown⟩ := readable .cooldown rfl
      obtain ⟨_, joinTimeout⟩ := readable .joinTimeout rfl
      obtain ⟨_, maxRestarts⟩ := readable .maxRestarts rfl
      obtain ⟨_, partialLaunch⟩ := readable .partialLaunch rfl
      obtain ⟨cooldownSeconds, cooldown, -⟩ := map_eq_ok cooldown
      obtain ⟨joinTimeoutSeconds?, joinTimeout, -⟩ := map_eq_ok joinTimeout
      obtain ⟨maxRestarts?, maxRestarts, -⟩ := map_eq_ok maxRestarts
      obtain ⟨launch, partialLaunch, -⟩ := map_eq_ok partialLaunch
      exact ⟨⟨⟨cooldownSeconds, joinTimeoutSeconds?, maxRestarts?, launch⟩, .standard, .standard⟩,
        SupervisorSettings.reader_table_eq_ok_iff.mpr
          ⟨cooldown, joinTimeout, maxRestarts, partialLaunch⟩⟩
  | agent =>
      obtain ⟨_, registrationRetry⟩ := readable .registrationRetry rfl
      obtain ⟨_, stopGrace⟩ := readable .stopGrace rfl
      obtain ⟨registrationRetryMs, registrationRetry, -⟩ := map_eq_ok registrationRetry
      obtain ⟨stopGraceMs, stopGrace, -⟩ := map_eq_ok stopGrace
      exact ⟨⟨.standard, ⟨registrationRetryMs, stopGraceMs⟩, .standard⟩,
        AgentSettings.reader_table_eq_ok_iff.mpr ⟨registrationRetry, stopGrace⟩⟩
  | logging =>
      obtain ⟨_, level⟩ := readable .level rfl
      obtain ⟨_, json⟩ := readable .json rfl
      obtain ⟨_, directory⟩ := readable .directory rfl
      obtain ⟨levelName, level, -⟩ := map_eq_ok level
      obtain ⟨isJson, json, -⟩ := map_eq_ok json
      obtain ⟨directory?, directory, -⟩ := map_eq_ok directory
      exact ⟨⟨.standard, .standard, ⟨levelName, isJson, directory?⟩⟩,
        LoggingSettings.reader_table_eq_ok_iff.mpr ⟨level, json, directory⟩⟩

/-- If a group is read, then so is each of its settings from its own key, also where the group is
no table. -/
theorem Group.Reads.exists_read
    {group : Group}
    {tree? : Option Tree}
    {configuration : Configuration}
    (reads : group.Reads tree? configuration)
    (setting : Setting)
    (inside : setting.group = group) :
    ∃ value, setting.read (tree?.bind fun tree => tree.child? setting.key) = .ok value := by
  cases tree? with
  | none => exact ⟨_, setting.read_none⟩
  | some tree =>
      cases tree with
      | scalar origin? value => cases group <;> cases reads
      | list origin? items => exact ⟨_, setting.read_none⟩
      | table origin? entries => exact ⟨_, Group.reads_table_iff.mp reads setting inside⟩

/-! ## Values of the right type -/

/-- The values of the type of a setting. -/
def Setting.Admits (setting : Setting) (value : Scalar) : Prop :=
  ∃ configuration : Configuration, configuration.value setting = value

/-- What a setting is given as a value of its type is its value. -/
theorem Setting.Admits.read
    {setting : Setting}
    {value : Scalar}
    (admits : setting.Admits value)
    (origin? : Option String) :
    setting.read (some (.scalar origin? value)) = .ok value := by
  obtain ⟨configuration, rfl⟩ := admits
  cases setting with
  | cooldown =>
      exact (map_eq_ok_iff_of_injective Scalar.word64_injective).mpr
        (Reader.word64_scalar origin? _)
  | joinTimeout =>
      exact (map_eq_ok_iff_of_injective Scalar.optional_word64_injective).mpr
        (Reader.optional_scalar (fun _ => Scalar.noConfusion) (Reader.word64_scalar origin?) _)
  | maxRestarts =>
      exact (map_eq_ok_iff_of_injective Scalar.optional_word32_injective).mpr
        (Reader.optional_scalar (fun _ => Scalar.noConfusion) (Reader.word32_scalar origin?) _)
  | partialLaunch =>
      exact (map_eq_ok_iff_of_injective Scalar.choice_injective).mpr
        (Reader.choice_scalar origin? _)
  | registrationRetry =>
      exact (map_eq_ok_iff_of_injective Scalar.word64_injective).mpr
        (Reader.word64_scalar origin? _)
  | stopGrace =>
      exact (map_eq_ok_iff_of_injective Scalar.word64_injective).mpr
        (Reader.word64_scalar origin? _)
  | level => rfl
  | json => rfl
  | directory =>
      exact (map_eq_ok_iff_of_injective Scalar.optional_text_injective).mpr
        (Reader.optional_scalar (fun _ => Scalar.noConfusion) (fun _ => rfl) _)

end Configuration
end AgentCohort
