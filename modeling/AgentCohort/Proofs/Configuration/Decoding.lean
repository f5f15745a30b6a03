import AgentCohort.Configuration.Json
import AgentCohort.Proofs.Configuration.Replacements
import AgentCohort.Proofs.Json.Records

/-!
# Decoding records that replace some settings

Each setting of a group is a field that may be missing, and so is each group.  From a record that
replaces some settings a configuration is decoded in which these settings are replaced and all
others have their standard values, from a text as well as from a record that has been read before.
-/

namespace AgentCohort

open Json (Decoder Document Field Fields Key Source Spells valuesNamed)
open Settings (Scalar)

/-! ## Fields -/

namespace Json

theorem Field.check_defaulted
    {decoder : Decoder α}
    {source : Source}
    {document : Document}
    {value : α}
    (name : String)
    (read : decoder source document = .ok value) :
    (Field.defaulted name decoder).check source document = .ok () := by
  change (decoder source document).map _ = _
  rw [read]
  rfl

/-- A decoder reads what single values are written as, and different ones are written in different
ways. -/
structure Decoder.Inverts (decoder : Decoder α) (write : α → Scalar) : Prop where
  /-- Different values are written in different ways. -/
  injective : Function.Injective write
  /-- A value is read as it was written. -/
  read : ∀ source value, decoder source (write value).document = .ok value

namespace Decoder

theorem inverts_word64 : word64.Inverts Scalar.word64 where
  injective := Scalar.word64_injective
  read source word := (Undoes.word64 word).read source

theorem inverts_word32 : word32.Inverts Scalar.word32 where
  injective := Scalar.word32_injective
  read source word := by
    have bounded : word.toNat ≤ Nat.pow 2 32 - 1 := Nat.le_of_lt_succ word.toNat_lt
    have number : natural "u32" (Nat.pow 2 32 - 1) source (.integer word.toNat) =
        .ok word.toNat :=
      (Undoes.natural "u32" (by decide) bounded).read source
    change (natural "u32" (Nat.pow 2 32 - 1) source (.integer word.toNat)).map _ = _
    rw [number, Except.map, UInt32.ofNat_toNat]

theorem inverts_text : text.Inverts Scalar.text where
  injective := Scalar.text_injective
  read _ _ := rfl

theorem inverts_boolean : boolean.Inverts Scalar.boolean where
  injective := Scalar.boolean_injective
  read _ _ := rfl

theorem inverts_choice : PartialLaunch.decoder.Inverts Scalar.choice where
  injective := Scalar.choice_injective
  read source choice := by
    cases source <;> cases choice <;> rfl

theorem Inverts.optional
    {decoder : Decoder α}
    {write : α → Scalar}
    (inverts : decoder.Inverts write)
    (present : ∀ value, write value ≠ .nothing) :
    decoder.optional.Inverts (Scalar.optional write) where
  injective := Scalar.optional_injective inverts.injective present
  read source value? := by
    cases value? with
    | none => rfl
    | some value =>
        have read := inverts.read source value
        change decoder.optional source (write value).document = _
        unfold Decoder.optional
        split
        · rename_i absent
          cases written : write value with
          | nothing => exact absurd written (present value)
          | _ =>
              rw [written] at absent
              cases absent
        · rw [read]
          rfl

theorem inverts_optional_word64 : word64.optional.Inverts (Scalar.optional .word64) :=
  inverts_word64.optional fun _ => Scalar.noConfusion

theorem inverts_optional_word32 : word32.optional.Inverts (Scalar.optional .word32) :=
  inverts_word32.optional fun _ => Scalar.noConfusion

theorem inverts_optional_text : text.optional.Inverts (Scalar.optional .text) :=
  inverts_text.optional fun _ => Scalar.noConfusion

end Decoder

/-- A field is read as what is listed for it, and has its default where nothing is. -/
theorem Fields.withDefault_eq_ok
    {found : Fields}
    {name : String}
    {decoder : Decoder α}
    {write : α → Scalar}
    {default value : α}
    {listed? : Option Scalar}
    (inverts : decoder.Inverts write)
    (lookup : found.entries.lookup name = listed?.map Scalar.document)
    (same : write value = listed?.getD (write default)) :
    found.withDefault name default decoder = .ok value := by
  unfold withDefault
  rw [lookup]
  cases listed? with
  | none => exact congrArg Except.ok (inverts.injective same).symm
  | some listed =>
      cases same
      exact inverts.read found.source value

end Json

namespace Configuration

variable {replacements : Replacements} {members : List (Key × Document)} {group : Group}
  {configuration : Configuration}

/-! ## Groups -/

/-- The field of a setting in the record of its group. -/
def Setting.field : Setting → Field
  | .cooldown => .defaulted "cooldown_secs" .word64
  | .joinTimeout => .defaulted "join_timeout_secs" Decoder.word64.optional
  | .maxRestarts => .defaulted "max_restarts" Decoder.word32.optional
  | .partialLaunch => .defaulted "partial_launch" PartialLaunch.decoder
  | .registrationRetry => .defaulted "registration_retry_ms" .word64
  | .stopGrace => .defaulted "stop_grace_ms" .word64
  | .level => .defaulted "level" .text
  | .json => .defaulted "json" .boolean
  | .directory => .defaulted "dir" Decoder.text.optional

theorem Setting.field_name (setting : Setting) : setting.field.name = setting.key := by
  cases setting <;> rfl

theorem Setting.check_field {setting : Setting} {value : Scalar} (admits : setting.Admits value)
    (source : Source) :
    setting.field.check source value.document = .ok () := by
  obtain ⟨configuration, rfl⟩ := admits
  cases setting with
  | cooldown => exact Field.check_defaulted _ (Decoder.inverts_word64.read source _)
  | joinTimeout => exact Field.check_defaulted _ (Decoder.inverts_optional_word64.read source _)
  | maxRestarts => exact Field.check_defaulted _ (Decoder.inverts_optional_word32.read source _)
  | partialLaunch => exact Field.check_defaulted _ (Decoder.inverts_choice.read source _)
  | registrationRetry => exact Field.check_defaulted _ (Decoder.inverts_word64.read source _)
  | stopGrace => exact Field.check_defaulted _ (Decoder.inverts_word64.read source _)
  | level => exact Field.check_defaulted _ (Decoder.inverts_text.read source _)
  | json => exact Field.check_defaulted _ (Decoder.inverts_boolean.read source _)
  | directory => exact Field.check_defaulted _ (Decoder.inverts_optional_text.read source _)

/-- The fields of the record of a group. -/
def Group.fields : Group → List Field
  | .supervisor => SupervisorSettings.fields
  | .agent => AgentSettings.fields
  | .logging => LoggingSettings.fields

/-- The settings of a group in the order of their fields. -/
def Group.settings : Group → List Setting
  | .supervisor => [.cooldown, .joinTimeout, .maxRestarts, .partialLaunch]
  | .agent => [.registrationRetry, .stopGrace]
  | .logging => [.level, .json, .directory]

theorem Group.fields_eq_map (group : Group) : group.fields = group.settings.map Setting.field := by
  cases group <;> rfl

theorem Group.mem_settings_iff {group : Group} {setting : Setting} :
    setting ∈ group.settings ↔ setting.group = group := by
  cases group <;> cases setting <;> decide

/-- The fields of a group are found as they are listed. -/
theorem Replacements.Fills.exists_collect_eq_ok
    (fills : replacements.Fills group members)
    (whole : ∀ member ∈ members, member.2.skipBreak? = none)
    (source : Source)
    (name : String) :
    ∃ entries,
      Json.collect name group.fields source (.table members .closed) = .ok ⟨source, entries⟩ ∧
      ∀ setting : Setting, setting.group = group →
        entries.lookup setting.key = (replacements.value? setting).map Scalar.document := by
  have named : ∀ member ∈ members, ∃ name, member.1 = Key.name name :=
    fun member present => (fills.plain member present).imp fun _ => And.left
  have listed : ∀ field ∈ group.fields, ∃ setting : Setting, setting.field = field ∧
      valuesNamed field.name members =
        ((replacements.value? setting).map Scalar.document).toList := by
    intro field present
    rw [group.fields_eq_map] at present
    obtain ⟨setting, known, rfl⟩ := List.mem_map.mp present
    rw [setting.field_name]
    exact ⟨setting, rfl, fills.listed setting (Group.mem_settings_iff.mp known)⟩
  have checked : ∀ field ∈ group.fields, ∀ value ∈ valuesNamed field.name members,
      field.check source value = .ok () := by
    intro field present value held
    obtain ⟨setting, rfl, values⟩ := listed field present
    rw [values, Option.mem_toList] at held
    obtain ⟨scalar, replaced, rfl⟩ := Option.map_eq_some_iff.mp held
    exact Setting.check_field (replacements.accepted setting scalar replaced).admits source
  have once : ∀ field ∈ group.fields, (valuesNamed field.name members).length ≤ 1 := by
    intro field present
    obtain ⟨setting, rfl, values⟩ := listed field present
    rw [values]
    exact Option.length_toList_le
  obtain ⟨entries, collected, lookup⟩ := Json.exists_collect_table_eq_ok named whole checked once
  refine ⟨entries, collected, fun setting inside => ?_⟩
  have known : setting.field ∈ group.fields := by
    rw [group.fields_eq_map]
    exact List.mem_map_of_mem (Group.mem_settings_iff.mpr inside)
  rw [← setting.field_name, lookup _ known, setting.field_name, fills.listed setting inside,
    Option.head?_toList]

/-- The settings of a group in a configuration are those that are decoded from a document. -/
def Group.Decodes
    (group : Group)
    (source : Source)
    (document : Document)
    (configuration : Configuration) : Prop :=
  match group with
  | .supervisor => SupervisorSettings.decoder source document = .ok configuration.supervisor
  | .agent => AgentSettings.decoder source document = .ok configuration.agent
  | .logging => LoggingSettings.decoder source document = .ok configuration.logging

/-- A group is decoded with its replacements. -/
theorem Replacements.Fills.decodes
    (fills : replacements.Fills group members)
    (gives : replacements.Gives configuration)
    (whole : ∀ member ∈ members, member.2.skipBreak? = none)
    (source : Source) :
    group.Decodes source (.table members .closed) configuration := by
  cases group with
  | supervisor =>
      obtain ⟨entries, collected, lookup⟩ :=
        fills.exists_collect_eq_ok whole source "SupervisorConfig"
      let found : Fields := ⟨source, entries⟩
      have cooldown : found.withDefault "cooldown_secs"
          SupervisorSettings.standard.cooldownSeconds .word64 =
            .ok configuration.supervisor.cooldownSeconds :=
        Fields.withDefault_eq_ok Decoder.inverts_word64 (lookup .cooldown rfl) (gives .cooldown)
      have joinTimeout : found.optional "join_timeout_secs" .word64 =
          .ok configuration.supervisor.joinTimeoutSeconds? :=
        Fields.withDefault_eq_ok Decoder.inverts_optional_word64
          (lookup .joinTimeout rfl) (gives .joinTimeout)
      have maxRestarts : found.optional "max_restarts" .word32 =
          .ok configuration.supervisor.maxRestarts? :=
        Fields.withDefault_eq_ok Decoder.inverts_optional_word32
          (lookup .maxRestarts rfl) (gives .maxRestarts)
      have partialLaunch : found.withDefault "partial_launch"
          SupervisorSettings.standard.partialLaunch PartialLaunch.decoder =
            .ok configuration.supervisor.partialLaunch :=
        Fields.withDefault_eq_ok Decoder.inverts_choice (lookup .partialLaunch rfl)
          (gives .partialLaunch)
      simp only [Group.Decodes, SupervisorSettings.decoder, bind_eq_ok_iff]
      exact ⟨_, collected, _, cooldown, _, joinTimeout, _, maxRestarts, _, partialLaunch, rfl⟩
  | agent =>
      obtain ⟨entries, collected, lookup⟩ :=
        fills.exists_collect_eq_ok whole source "AgentRuntimeConfig"
      let found : Fields := ⟨source, entries⟩
      have registrationRetry : found.withDefault "registration_retry_ms"
          AgentSettings.standard.registrationRetryMs .word64 =
            .ok configuration.agent.registrationRetryMs :=
        Fields.withDefault_eq_ok Decoder.inverts_word64 (lookup .registrationRetry rfl)
          (gives .registrationRetry)
      have stopGrace : found.withDefault "stop_grace_ms" AgentSettings.standard.stopGraceMs
          .word64 = .ok configuration.agent.stopGraceMs :=
        Fields.withDefault_eq_ok Decoder.inverts_word64 (lookup .stopGrace rfl) (gives .stopGrace)
      simp only [Group.Decodes, AgentSettings.decoder, bind_eq_ok_iff]
      exact ⟨_, collected, _, registrationRetry, _, stopGrace, rfl⟩
  | logging =>
      obtain ⟨entries, collected, lookup⟩ :=
        fills.exists_collect_eq_ok whole source "LoggingConfig"
      let found : Fields := ⟨source, entries⟩
      have level : found.withDefault "level" LoggingSettings.standard.level .text =
          .ok configuration.logging.level :=
        Fields.withDefault_eq_ok Decoder.inverts_text (lookup .level rfl) (gives .level)
      have json : found.withDefault "json" LoggingSettings.standard.json .boolean =
          .ok configuration.logging.json :=
        Fields.withDefault_eq_ok Decoder.inverts_boolean (lookup .json rfl) (gives .json)
      have directory : found.optional "dir" .text = .ok configuration.logging.directory? :=
        Fields.withDefault_eq_ok Decoder.inverts_optional_text
          (lookup .directory rfl) (gives .directory)
      simp only [Group.Decodes, LoggingSettings.decoder, bind_eq_ok_iff]
      exact ⟨_, collected, _, level, _, json, _, directory, rfl⟩

/-! ## Whole records -/

/-- The field of a group. -/
def Group.field : Group → Field
  | .supervisor => .defaulted "supervisor" SupervisorSettings.decoder
  | .agent => .defaulted "agent" AgentSettings.decoder
  | .logging => .defaulted "logging" LoggingSettings.decoder

theorem Group.field_name (group : Group) : group.field.name = group.name := by
  cases group <;> rfl

theorem mem_fields_iff {field : Field} : field ∈ fields ↔ ∃ group : Group, group.field = field := by
  constructor
  · intro present
    have listed : fields = [Group.supervisor, .agent, .logging].map Group.field := rfl
    rw [listed] at present
    obtain ⟨group, -, same⟩ := List.mem_map.mp present
    exact ⟨group, same⟩
  · rintro ⟨group, rfl⟩
    cases group
    · exact .head _
    · exact .tail _ (.head _)
    · exact .tail _ (.tail _ (.head _))

theorem Group.Decodes.check_field
    {source : Source}
    {document : Document}
    (decodes : group.Decodes source document configuration) :
    group.field.check source document = .ok () := by
  cases group <;> exact Field.check_defaulted _ decodes

/-- A section that has been left out is decoded like one without members. -/
theorem Group.withDefault_eq_ok
    {found : Fields}
    {name : String}
    {decoder : Decoder α}
    {default value : α}
    {inner : List (Key × Document)}
    (empty : decoder found.source (.table [] .closed) = .ok default)
    (decoded : decoder found.source (.table inner .closed) = .ok value)
    (listed : found.entries.lookup name = some (.table inner .closed) ∨
      inner = [] ∧ found.entries.lookup name = none) :
    found.withDefault name default decoder = .ok value := by
  unfold Fields.withDefault
  obtain there | ⟨rfl, missing⟩ := listed
  · rw [there]
    exact decoded
  · rw [missing]
    exact empty.symm.trans decoded

/-- Each section is decoded with its replacements, also one that has been left out. -/
theorem Replacements.WrittenIn.exists_decodes
    (written : replacements.WrittenIn members)
    (gives : replacements.Gives configuration)
    (whole : ∀ member ∈ members, member.2.skipBreak? = none)
    (source : Source)
    (group : Group) :
    ∃ inner, group.Decodes source (.table inner .closed) configuration ∧
      (valuesNamed group.name members = [.table inner .closed] ∨
        inner = [] ∧ valuesNamed group.name members = []) := by
  obtain ⟨inner, fills, listed⟩ := written.listed group
  refine ⟨inner, fills.decodes gives ?_ source, listed⟩
  obtain listed | ⟨rfl, -⟩ := listed
  · have held : Document.table inner .closed ∈ valuesNamed group.name members := by
      rw [listed]
      exact .head _
    obtain ⟨member, present, same⟩ := Json.exists_of_mem_valuesNamed held
    have unbroken := whole member present
    rw [same] at unbroken
    exact Json.skipBreak?_of_mem unbroken
  · exact List.forall_mem_nil _

/-- The sections are found as they are listed. -/
theorem Replacements.WrittenIn.exists_collect_eq_ok
    (written : replacements.WrittenIn members)
    (gives : replacements.Gives configuration)
    (whole : ∀ member ∈ members, member.2.skipBreak? = none)
    (source : Source) :
    ∃ entries,
      Json.collect "AppConfig" fields source (.table members .closed) = .ok ⟨source, entries⟩ ∧
      ∀ group : Group, ∃ inner, group.Decodes source (.table inner .closed) configuration ∧
        (entries.lookup group.name = some (.table inner .closed) ∨
          inner = [] ∧ entries.lookup group.name = none) := by
  have decodes := written.exists_decodes gives whole source
  have checked : ∀ field ∈ fields, ∀ value ∈ valuesNamed field.name members,
      field.check source value = .ok () := by
    intro field present value held
    obtain ⟨group, rfl⟩ := mem_fields_iff.mp present
    obtain ⟨inner, decoded, listed⟩ := decodes group
    rw [group.field_name] at held
    obtain listed | ⟨-, listed⟩ := listed
    · rw [listed] at held
      cases List.mem_singleton.mp held
      exact decoded.check_field
    · rw [listed] at held
      cases held
  have once : ∀ field ∈ fields, (valuesNamed field.name members).length ≤ 1 := by
    intro field present
    obtain ⟨group, rfl⟩ := mem_fields_iff.mp present
    obtain ⟨inner, -, listed⟩ := decodes group
    rw [group.field_name]
    obtain listed | ⟨-, listed⟩ := listed
    · rw [listed]
      exact Nat.le_refl 1
    · rw [listed]
      exact Nat.zero_le 1
  obtain ⟨entries, collected, lookup⟩ := Json.exists_collect_table_eq_ok
    (fun member present => (written.plain member present).imp fun _ => And.left) whole checked once
  refine ⟨entries, collected, fun group => ?_⟩
  obtain ⟨inner, decoded, listed⟩ := decodes group
  have there := lookup group.field (mem_fields_iff.mpr ⟨group, rfl⟩)
  rw [group.field_name] at there
  refine ⟨inner, decoded, ?_⟩
  obtain listed | ⟨rfl, listed⟩ := listed
  · left
    rw [there, listed]
    rfl
  · right
    rw [there, listed]
    exact ⟨rfl, rfl⟩

/-- A configuration is decoded with its replacements. -/
theorem Replacements.WrittenIn.decoder_eq_ok
    (written : replacements.WrittenIn members)
    (gives : replacements.Gives configuration)
    (whole : ∀ member ∈ members, member.2.skipBreak? = none)
    (source : Source) :
    decoder source (.table members .closed) = .ok configuration := by
  obtain ⟨entries, collected, each⟩ := written.exists_collect_eq_ok gives whole source
  let found : Fields := ⟨source, entries⟩
  obtain ⟨_, supervisorDecodes, supervisorListed⟩ := each .supervisor
  obtain ⟨_, agentDecodes, agentListed⟩ := each .agent
  obtain ⟨_, loggingDecodes, loggingListed⟩ := each .logging
  have supervisor : found.withDefault "supervisor" .standard SupervisorSettings.decoder =
      .ok configuration.supervisor :=
    Group.withDefault_eq_ok rfl supervisorDecodes supervisorListed
  have agent : found.withDefault "agent" .standard AgentSettings.decoder =
      .ok configuration.agent :=
    Group.withDefault_eq_ok rfl agentDecodes agentListed
  have logging : found.withDefault "logging" .standard LoggingSettings.decoder =
      .ok configuration.logging :=
    Group.withDefault_eq_ok rfl loggingDecodes loggingListed
  simp only [decoder, bind_eq_ok_iff]
  exact ⟨_, collected, _, supervisor, _, agent, _, logging, rfl⟩

/-- It is decoded from every text of the record. -/
theorem Replacements.WrittenIn.decode_eq_ok
    {text : String}
    (written : replacements.WrittenIn members)
    (gives : replacements.Gives configuration)
    (spelled : Spells text.toList (.table members .closed)) :
    Json.decode decoder text = .ok configuration := by
  rw [Json.decode, Json.decodeChars_of_spells spelled]
  exact written.decoder_eq_ok gives spelled.skipBreak?_of_mem .text

/-- It is decoded from the record as it is when it has been read before. -/
theorem Replacements.WrittenIn.decodeTree_eq_ok
    {cs : List Char}
    (written : replacements.WrittenIn members)
    (gives : replacements.Gives configuration)
    (spelled : Spells cs (.table members .closed)) :
    Json.decodeTree decoder (.table members .closed) = .ok configuration :=
  written.sorted.decoder_eq_ok gives (Json.skipBreak?_of_mem spelled.skipBreak?_sorted) .tree

end Configuration
end AgentCohort
