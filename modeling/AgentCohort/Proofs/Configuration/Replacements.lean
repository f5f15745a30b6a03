import AgentCohort.Proofs.Configuration.Layers
import AgentCohort.Proofs.Json.Sorting

/-!
# Records that replace some settings

A record replaces some settings if it lists their values under their keys in the sections of their
groups.  Further members with plain names may stand anywhere.  The values of all settings determine
a configuration, so there is one configuration in which just these settings are replaced.
-/

namespace AgentCohort

open Json (Document Key sortedMembers valuesNamed)
open Settings (Scalar Step stepsOfKey)

/-! ## Names and values -/

/-- A name in lower case with no mark of a path in it. -/
structure IsPlain (name : String) : Prop where
  /-- The name is its own lower-case form. -/
  lowercase : Text.lowercase name = name
  /-- No point leads further. -/
  point : '.' ∉ name.toList
  /-- No bracket leads to a position. -/
  bracket : '[' ∉ name.toList

instance (name : String) : Decidable (IsPlain name) :=
  decidable_of_iff (Text.lowercase name = name ∧ '.' ∉ name.toList ∧ '[' ∉ name.toList)
    ⟨fun plain => ⟨plain.1, plain.2.1, plain.2.2⟩,
      fun plain => ⟨plain.lowercase, plain.point, plain.bracket⟩⟩

/-- A plain name at the top of a layer is no path. -/
theorem IsPlain.stepsOfKey {name : String} (plain : IsPlain name) :
    stepsOfKey name = [.name name] := by
  have split := List.takeWhile_append_dropWhile (p := Step.isNameChar) (l := name.toList)
  unfold Settings.stepsOfKey Step.readName
  dsimp only
  by_cases empty : name.toList.takeWhile Step.isNameChar = []
  · rw [if_pos empty]
    rfl
  · rw [if_neg empty, Option.bind_some]
    cases rest : name.toList.dropWhile Step.isNameChar with
    | nil =>
        rw [rest, List.append_nil] at split
        rw [split, String.ofList_toList]
        rfl
    | cons c rest' =>
        -- The rest begins with no mark of a path, so that there are no steps after the first.
        have present : c ∈ name.toList := by
          rw [← split, rest]
          exact List.mem_append_right _ (.head _)
        have point : c ≠ '.' := fun same => plain.point (same ▸ present)
        have bracket : c ≠ '[' := fun same => plain.bracket (same ▸ present)
        have none : Step.readSteps (c :: rest').length (c :: rest') = none := by
          rw [List.length_cons]
          rw [Step.readSteps]
          · exact Nat.succ_ne_zero _
          · exact List.cons_ne_nil _ _
          · exact fun _ _ _ same => point (List.cons.inj same).1
          · exact fun _ _ _ same => bracket (List.cons.inj same).1
        rw [none]
        rfl

/-- The document of a single value. -/
def Settings.Scalar.document : Scalar → Document
  | .nothing => .null
  | .boolean value => .boolean value
  | .integer value => .integer value
  | .real value => .real value
  | .text value => .text value

theorem Settings.Scalar.sorted_document (value : Scalar) :
    value.document.sorted = value.document := by
  cases value <;> rfl

namespace Configuration

/-- The values that a setting may be replaced by: those of its type that are not nothing, and of
the whole numbers the signed words of 64 bits. -/
structure Setting.Accepts (setting : Setting) (value : Scalar) : Prop where
  /-- The value is of the type of the setting. -/
  admits : setting.Admits value
  /-- The value is not nothing. -/
  present : value ≠ .nothing
  /-- A whole number is a signed word. -/
  signed : ∀ number, value = .integer number → number ≤ Numeral.maxInt64

/-- Some settings with the values that replace their standard ones. -/
structure Replacements where
  /-- The value that a setting is replaced by, if any. -/
  value? : Setting → Option Scalar
  /-- The values are suitable. -/
  accepted : ∀ setting value, value? setting = some value → setting.Accepts value

variable {replacements : Replacements} {members : List (Key × Document)} {group : Group}

/-! ## Records -/

/-- All members have plain names. -/
def ArePlain (members : List (Key × Document)) : Prop :=
  ∀ member ∈ members, ∃ name, member.1 = .name name ∧ IsPlain name

/-- A record lists the settings of a group that are replaced, each once under its key. -/
structure Replacements.Fills
    (replacements : Replacements)
    (group : Group)
    (members : List (Key × Document)) : Prop where
  /-- All names are plain. -/
  plain : ArePlain members
  /-- A setting that is replaced has its value, and no other setting is there. -/
  listed : ∀ setting : Setting, setting.group = group →
    valuesNamed setting.key members = ((replacements.value? setting).map Scalar.document).toList

/-- A record replaces settings in the sections of their groups; a section without replacements may
be left out. -/
structure Replacements.WrittenIn
    (replacements : Replacements)
    (members : List (Key × Document)) : Prop where
  /-- All names are plain. -/
  plain : ArePlain members
  /-- Each section is there once or left out. -/
  listed : ∀ group : Group, ∃ inner, replacements.Fills group inner ∧
    (valuesNamed group.name members = [.table inner .closed] ∨
      inner = [] ∧ valuesNamed group.name members = [])

/-- The members of a record that has been read before have the names of the record. -/
theorem ArePlain.sorted (plain : ArePlain members) : ArePlain (sortedMembers [] members) := by
  intro member present
  obtain earlier | ⟨name, value, known, rfl⟩ := Json.exists_of_mem_sortedMembers present
  · cases earlier
  · exact plain (.name name, value) known

theorem Replacements.Fills.sorted (fills : replacements.Fills group members) :
    replacements.Fills group (sortedMembers [] members) where
  plain := fills.plain.sorted
  listed setting inside := by
    have listed := fills.listed setting inside
    rw [Json.valuesNamed_sortedMembers, listed]
    · cases replacements.value? setting with
      | none => rfl
      | some value => exact congrArg ([·]) value.sorted_document
    · rw [listed]
      cases replacements.value? setting <;> exact Nat.le_of_ble_eq_true rfl

theorem Replacements.WrittenIn.sorted (written : replacements.WrittenIn members) :
    replacements.WrittenIn (sortedMembers [] members) where
  plain := written.plain.sorted
  listed group := by
    obtain ⟨inner, fills, listed⟩ := written.listed group
    refine ⟨sortedMembers [] inner, fills.sorted, ?_⟩
    obtain listed | ⟨rfl, listed⟩ := listed
    · left
      rw [Json.valuesNamed_sortedMembers (by rw [listed]; exact Nat.le_refl 1), listed]
      rfl
    · right
      rw [Json.valuesNamed_sortedMembers (by rw [listed]; exact Nat.zero_le 1), listed]
      exact ⟨rfl, rfl⟩

/-! ## Configurations -/

/-- A configuration is determined by the values of its settings. -/
theorem eq_of_value {first second : Configuration}
    (same : ∀ setting, first.value setting = second.value setting) :
    first = second := by
  obtain ⟨⟨_, _, _, _⟩, ⟨_, _⟩, ⟨_, _, _⟩⟩ := first
  obtain ⟨⟨_, _, _, _⟩, ⟨_, _⟩, ⟨_, _, _⟩⟩ := second
  obtain rfl := Scalar.word64_injective (same .cooldown)
  obtain rfl := Scalar.optional_word64_injective (same .joinTimeout)
  obtain rfl := Scalar.optional_word32_injective (same .maxRestarts)
  obtain rfl := Scalar.choice_injective (same .partialLaunch)
  obtain rfl := Scalar.word64_injective (same .registrationRetry)
  obtain rfl := Scalar.word64_injective (same .stopGrace)
  obtain rfl := Scalar.text_injective (same .level)
  obtain rfl := Scalar.boolean_injective (same .json)
  obtain rfl := Scalar.optional_text_injective (same .directory)
  rfl

/-- There is a configuration with any values of the right types. -/
theorem exists_value_eq {values : Setting → Scalar}
    (admits : ∀ setting : Setting, setting.Admits (values setting)) :
    ∃ configuration : Configuration, ∀ setting, configuration.value setting = values setting := by
  choose chosen same using admits
  refine ⟨⟨⟨(chosen .cooldown).supervisor.cooldownSeconds,
      (chosen .joinTimeout).supervisor.joinTimeoutSeconds?,
      (chosen .maxRestarts).supervisor.maxRestarts?,
      (chosen .partialLaunch).supervisor.partialLaunch⟩,
    ⟨(chosen .registrationRetry).agent.registrationRetryMs,
      (chosen .stopGrace).agent.stopGraceMs⟩,
    ⟨(chosen .level).logging.level, (chosen .json).logging.json,
      (chosen .directory).logging.directory?⟩⟩, fun setting => ?_⟩
  rw [← same setting]
  cases setting <;> rfl

/-- A configuration has the standard values but for the settings that are replaced. -/
def Replacements.Gives (replacements : Replacements) (configuration : Configuration) : Prop :=
  ∀ setting, configuration.value setting =
    (replacements.value? setting).getD (standard.value setting)

theorem Replacements.exists_gives (replacements : Replacements) :
    ∃ configuration, replacements.Gives configuration := by
  refine exists_value_eq fun setting => ?_
  cases replaced : replacements.value? setting with
  | none => exact ⟨standard, rfl⟩
  | some value => exact (replacements.accepted setting value replaced).admits

end Configuration
end AgentCohort
