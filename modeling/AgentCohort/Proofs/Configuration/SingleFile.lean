import AgentCohort.Proofs.Configuration.Decoding
import AgentCohort.Proofs.Configuration.Loading
import AgentCohort.Proofs.Settings.JsonFiles

/-!
# A single settings file

Where a JSON record that replaces some settings is the only settings file and there are no
variables, the same configuration is loaded that is decoded from the text of the file.  Members with
unknown names are passed over both times, but a settings file is taken in as a whole: what they
hold must lie within the limits of a reader that does so.
-/

namespace AgentCohort

open Json (Document Key Spells Within valuesNamed)
open Settings (FilePath FileStore Scalar SettingsFile Tree)

namespace Configuration

variable {replacements : Replacements} {members : List (Key × Document)} {group : Group}
  {configuration : Configuration} {origin : String} {part : Tree.Part}

/-! ## Parts of the file -/

/-- The layer of the record in a file. -/
def recordLayer (origin : String) (members : List (Key × Document)) : List (String × Tree) :=
  Tree.entriesOfLayer origin (Settings.JsonFile.entries [] members)

/-- A part sets a setting to the value that replaces it. -/
def Replacements.Contributes
    (replacements : Replacements)
    (origin : String)
    (setting : Setting)
    (part : Tree.Part) : Prop :=
  ∃ value, replacements.value? setting = some value ∧
    part = ([.name setting.group.name, .name setting.key], .scalar (some origin) value)

theorem Setting.Accepts.tree_document {setting : Setting} {value : Scalar}
    (accepts : setting.Accepts value) :
    Settings.JsonFile.tree value.document = .scalar none value := by
  cases value with
  | integer number => exact congrArg (Tree.scalar none) (if_pos (accepts.signed number rfl))
  | _ => rfl

theorem Group.isPlain_name (group : Group) : IsPlain group.name := by
  cases group <;> decide

theorem exists_mem_of_mem_recordLayer
    {entry : String × Tree}
    (plain : ArePlain members)
    (present : entry ∈ recordLayer origin members) :
    IsPlain entry.1 ∧ ∃ document ∈ valuesNamed entry.1 members,
      entry.2 = Tree.ofLayer origin (Settings.JsonFile.tree document) := by
  obtain ⟨tree, inside, same⟩ := Tree.exists_of_mem_entriesOfLayer present
  obtain earlier | ⟨document, known, rfl⟩ := Settings.JsonFile.exists_of_mem_entries inside
  · cases earlier
  · obtain ⟨name, sameName, plainName⟩ := plain _ known
    cases sameName
    exact ⟨plainName, document, List.mem_filterMap.mpr ⟨_, known, if_pos rfl⟩, same⟩

/-- A part of a section sets a setting that is replaced, or spares all settings. -/
theorem Replacements.Fills.contributes_or_spares
    {origin? : Option String}
    (fills : replacements.Fills group members)
    (contributed : part ∈
      Tree.partsOfEntry (group.name, .table origin? (recordLayer origin members))) :
    (∃ setting, replacements.Contributes origin setting part) ∨ ∀ setting, Spares setting part := by
  unfold Tree.partsOfEntry at contributed
  rw [group.isPlain_name.stepsOfKey] at contributed
  cases layer : recordLayer origin members with
  | nil =>
      rw [layer] at contributed
      cases List.mem_singleton.mp contributed
      exact .inr fun setting same => trivial
  | cons first rest =>
      rw [layer] at contributed
      obtain ⟨entry, present, rfl⟩ := List.mem_map.mp contributed
      rw [← layer] at present
      obtain ⟨plain, document, held, same⟩ := exists_mem_of_mem_recordLayer fills.plain present
      by_cases known : ∃ setting : Setting, setting.group = group ∧ setting.key = entry.1
      · obtain ⟨setting, rfl, key⟩ := known
        rw [← key, fills.listed setting rfl, Option.mem_toList] at held
        obtain ⟨value, replaced, rfl⟩ := Option.map_eq_some_iff.mp held
        rw [(replacements.accepted setting value replaced).tree_document] at same
        refine .inl ⟨setting, value, replaced, ?_⟩
        rw [same, key]
        rfl
      · refine .inr fun setting sameGroup sameKey => known ⟨setting, ?_, ?_⟩
        · rw [group.isPlain_name.lowercase] at sameGroup
          exact (Group.name_injective sameGroup).symm
        · rw [plain.lowercase] at sameKey
          exact sameKey.symm

/-- A part of the file sets a setting that is replaced, or spares all settings. -/
theorem Replacements.WrittenIn.contributes_or_spares
    (written : replacements.WrittenIn members)
    (member : part ∈ Tree.parts (recordLayer origin members)) :
    (∃ setting, replacements.Contributes origin setting part) ∨ ∀ setting, Spares setting part := by
  obtain ⟨⟨name, tree⟩, inside, contributed⟩ := List.mem_flatMap.mp member
  obtain ⟨plain, document, held, same⟩ := exists_mem_of_mem_recordLayer written.plain inside
  by_cases known : ∃ group : Group, group.name = name
  · obtain ⟨group, rfl⟩ := known
    obtain ⟨inner, fills, listed⟩ := written.listed group
    obtain listed | ⟨-, listed⟩ := listed
    · rw [listed] at held
      cases List.mem_singleton.mp held
      cases same
      exact fills.contributes_or_spares contributed
    · rw [listed] at held
      cases held
  · obtain ⟨rest, steps⟩ := Tree.exists_rest_of_mem_partsOfEntry plain.stepsOfKey contributed
    obtain ⟨_, value⟩ := part
    cases steps
    refine .inr fun setting sameGroup => absurd ⟨setting.group, ?_⟩ known
    rw [plain.lowercase] at sameGroup
    exact sameGroup.symm

/-- Every setting that is replaced is set. -/
theorem Replacements.WrittenIn.mem_parts
    {setting : Setting}
    {value : Scalar}
    (written : replacements.WrittenIn members)
    (replaced : replacements.value? setting = some value)
    (origin : String) :
    ([.name setting.group.name, .name setting.key], .scalar (some origin) value) ∈
      Tree.parts (recordLayer origin members) := by
  have accepts := replacements.accepted setting value replaced
  obtain ⟨inner, fills, listed⟩ := written.listed setting.group
  have inside : valuesNamed setting.key inner = [value.document] := by
    rw [fills.listed setting rfl, replaced]
    rfl
  obtain listed | ⟨rfl, -⟩ := listed
  · have outerFound : (Settings.JsonFile.entries [] members).lookup setting.group.name =
        some (.table none (Settings.JsonFile.entries [] inner)) := by
      rw [Settings.JsonFile.lookup_entries, listed]
      rfl
    have innerFound : (Settings.JsonFile.entries [] inner).lookup setting.key =
        some (.scalar none value) := by
      rw [Settings.JsonFile.lookup_entries, inside, ← accepts.tree_document]
      rfl
    exact Tree.mem_parts_of_mem_inner setting.group.isPlain_name.stepsOfKey
      (Tree.mem_entriesOfLayer (Tree.mem_of_lookup outerFound))
      (Tree.mem_entriesOfLayer (Tree.mem_of_lookup innerFound))
  · cases inside

/-! ## Loading -/

/-- The defaults with the file on top of them. -/
def fileParts (origin : String) (members : List (Key × Document)) : List Tree.Part :=
  Tree.parts defaults ++ Tree.parts (recordLayer origin members)

theorem Replacements.Contributes.orderly
    {setting : Setting}
    (contributes : replacements.Contributes origin setting part) :
    Orderly part := by
  obtain ⟨value, replaced, rfl⟩ := contributes
  exact (replacements.accepted setting value replaced).admits.orderly (some origin)

/-- What all parts together give a setting is its value in the configuration. -/
theorem Replacements.WrittenIn.read_given?
    (written : replacements.WrittenIn members)
    (gives : replacements.Gives configuration)
    (origin : String)
    (setting : Setting) :
    setting.read (given? ((fileParts origin members).foldl Tree.withPart Tree.empty) setting) =
      .ok (configuration.value setting) := by
  rw [fileParts, List.foldl_append, gives setting]
  cases replaced : replacements.value? setting with
  | none =>
      have spares : ∀ part ∈ Tree.parts (recordLayer origin members), Spares setting part := by
        intro part member
        obtain ⟨other, value, found, rfl⟩ | spares := written.contributes_or_spares member
        · refine other.leadsTo.spares (fun same => ?_) _
          rw [same, found] at replaced
          cases replaced
        · exact spares setting
      rw [given?_foldl_withPart spares, read_foldl_withPart orderly_defaults, lastValue?_defaults]
      rfl
  | some value =>
      have others : ∀ part ∈ Tree.parts (recordLayer origin members), Spares setting part ∨
          part = ([.name setting.group.name, .name setting.key], .scalar (some origin) value) := by
        intro part member
        obtain ⟨other, found, foundHere, rfl⟩ | spares := written.contributes_or_spares member
        · by_cases same : setting = other
          · subst same
            cases foundHere.symm.trans replaced
            exact .inr rfl
          · exact .inl (other.leadsTo.spares same _)
        · exact .inl (spares setting)
      rw [given?_foldl_withPart_of_leads setting.leadsTo others
        (.inl (written.mem_parts replaced origin))]
      exact (replacements.accepted setting value replaced).admits.read (some origin)

/-- The configuration is read from the defaults and the file. -/
theorem Replacements.WrittenIn.reader_eq_ok
    (written : replacements.WrittenIn members)
    (gives : replacements.Gives configuration)
    (origin : String) :
    reader ((fileParts origin members).foldl Tree.withPart Tree.empty) = .ok configuration := by
  have orderly : ∀ part ∈ fileParts origin members, Orderly part := by
    rw [fileParts, List.forall_mem_append]
    refine ⟨orderly_defaults, fun part member => ?_⟩
    obtain ⟨setting, contributes⟩ | spares := written.contributes_or_spares member
    · exact contributes.orderly
    · exact .inr spares
  obtain ⟨found, read, values⟩ := (grouped_empty.foldl_withPart orderly).exists_reader_eq_ok
    (written.read_given? gives origin)
  rw [read, eq_of_value values]

/-- A file is the only one of the settings files of a directory. -/
def IsOnlyFile (store : FileStore) (directory : String) (file : SettingsFile) : Prop :=
  let found name := SettingsFile.find? store (FilePath.join directory name)
  (found "default.toml" = some file ∧ found standardFile = none) ∨
    (found "default.toml" = none ∧ found standardFile = some file)

/-- A directory with nothing but the file of the standard name. -/
theorem isOnlyFile_development (text : String) :
    IsOnlyFile (.ofFiles [(["config", "development.json"], .text text)]) "config"
      ⟨["config", "development.json"], .json, text⟩ :=
  .inr ⟨by rfl, by rfl⟩

theorem fileLayer_of_find? {store : FileStore} {directory name : String} {file : SettingsFile}
    (found : SettingsFile.find? store (FilePath.join directory name) = some file) :
    fileLayer store directory name = file.layer store.formats := by
  unfold fileLayer
  rw [found]

theorem fileLayer_eq_nil {store : FileStore} {directory name : String}
    (missing : SettingsFile.find? store (FilePath.join directory name) = none) :
    fileLayer store directory name = .ok [] := by
  unfold fileLayer
  rw [missing]

theorem allParts_eq_fileParts
    {first second : List (String × Tree)}
    (single : Tree.parts first ++ Tree.parts second = Tree.parts (recordLayer origin members)) :
    allParts first second [] = fileParts origin members := by
  rw [allParts, fileParts, ← single, List.filterMap_nil, List.append_nil, List.append_assoc]

/-- What is loaded from a single file. -/
theorem IsOnlyFile.load_eq_ok
    {store : FileStore}
    {directory : String}
    {file : SettingsFile}
    (only : IsOnlyFile store directory file)
    (layer : file.layer store.formats = .ok (recordLayer origin members))
    (read : reader ((fileParts origin members).foldl Tree.withPart Tree.empty) =
      .ok configuration) :
    load store [] directory = .ok configuration := by
  rw [load_eq_ok_iff]
  obtain ⟨found, missing⟩ | ⟨missing, found⟩ := only
  · refine ⟨_, [], (fileLayer_of_find? found).trans layer, fileLayer_eq_nil missing, ?_⟩
    rw [layered, allParts_eq_fileParts (List.append_nil _), read]
  · refine ⟨[], _, fileLayer_eq_nil missing, (fileLayer_of_find? found).trans layer, ?_⟩
    rw [layered, allParts_eq_fileParts rfl, read]

/-- Nothing is loaded if the single file is not well formed. -/
theorem IsOnlyFile.load_eq_error
    {store : FileStore}
    {directory : String}
    {file : SettingsFile}
    {fault : Settings.Fault}
    (only : IsOnlyFile store directory file)
    (layer : file.layer store.formats = .error fault) :
    load store [] directory = .error fault := by
  unfold load settings
  obtain ⟨found, missing⟩ | ⟨missing, found⟩ := only
  · rw [fileLayer_of_find? found, layer]
    rfl
  · have second : fileLayer store directory (secondFile []) = .error fault :=
      (fileLayer_of_find? found).trans layer
    rw [fileLayer_eq_nil missing, second]
    rfl

theorem layer_eq_ok
    {text : String}
    (spelled : Spells text.toList (.table members .closed))
    (within : Within Document.depthLimit (.table members .closed))
    (formats : Settings.Formats)
    (path : FilePath) :
    (SettingsFile.mk path .json text).layer formats = .ok (recordLayer path.text members) := by
  unfold SettingsFile.layer
  rw [show formats.read? .json text = _ from (Settings.JsonFile.read?_of_spells spelled).1 within]
  rfl

theorem layer_eq_error
    {text : String}
    (spelled : Spells text.toList (.table members .closed))
    (beyond : ¬ Within Document.depthLimit (.table members .closed))
    (formats : Settings.Formats)
    (path : FilePath) :
    (SettingsFile.mk path .json text).layer formats = .error (.malformedFile path.text) := by
  unfold SettingsFile.layer
  rw [show formats.read? .json text = _ from (Settings.JsonFile.read?_of_spells spelled).2 beyond]

/-- A record that replaces some settings is decoded as the standard configuration with these
settings replaced, from its text and after it has been read.  As the only settings file it is loaded
as the same configuration, if it lies within the limits, and refused otherwise. -/
theorem exists_decode_eq_ok_load_eq
    {text : String}
    (written : replacements.WrittenIn members)
    (spelled : Spells text.toList (.table members .closed)) :
    ∃ configuration : Configuration,
      (∀ setting, configuration.value setting =
        (replacements.value? setting).getD (standard.value setting)) ∧
      Json.decode decoder text = .ok configuration ∧
      Json.decodeTree decoder (.table members .closed) = .ok configuration ∧
      ∀ store directory path, IsOnlyFile store directory ⟨path, .json, text⟩ →
        (Within Document.depthLimit (.table members .closed) →
          load store [] directory = .ok configuration) ∧
        (¬ Within Document.depthLimit (.table members .closed) →
          load store [] directory = .error (.malformedFile path.text)) := by
  obtain ⟨configuration, gives⟩ := replacements.exists_gives
  refine ⟨configuration, gives, written.decode_eq_ok gives spelled,
    written.decodeTree_eq_ok gives spelled, fun store directory path only => ⟨?_, ?_⟩⟩
  · intro within
    exact only.load_eq_ok (layer_eq_ok spelled within _ path) (written.reader_eq_ok gives path.text)
  · intro beyond
    exact only.load_eq_error (layer_eq_error spelled beyond _ path)

theorem arePlain_memberDocuments
    {written : List (String × Json)}
    (plain : ∀ name ∈ written.map Prod.fst, IsPlain name) :
    ArePlain (Json.memberDocuments written) := by
  intro member present
  rw [Json.memberDocuments_eq_map] at present
  obtain ⟨entry, known, rfl⟩ := List.mem_map.mp present
  exact ⟨entry.1, rfl, plain entry.1 (List.mem_map_of_mem known)⟩

/-- Settings of the supervisor and a member with another name. -/
def partialSupervisor : List (String × Json) :=
  [("partial_launch", .text "stop_started"), ("more", .record [("A.b", .boolean true)]),
   ("max_restarts", .integer 7)]

/-- A setting of the log. -/
def partialLogging : List (String × Json) :=
  [("level", .text "debug")]

/-- Settings of two groups and a member with another name. -/
def partialMembers : List (String × Json) :=
  [("extra", .list [.integer (-1), .null]), ("supervisor", .record partialSupervisor),
   ("logging", .record partialLogging)]

/-- The settings that are replaced there. -/
def someReplacements : Replacements where
  value?
    | .partialLaunch => some (.text "stop_started")
    | .maxRestarts => some (.integer 7)
    | .level => some (.text "debug")
    | _ => none
  accepted := by
    intro setting value replaced
    cases setting <;> cases replaced
    · refine ⟨⟨⟨{ SupervisorSettings.standard with maxRestarts? := some 7 }, .standard, .standard⟩,
        rfl⟩, Scalar.noConfusion, ?_⟩
      rintro _ ⟨⟩
      decide
    · exact ⟨⟨⟨{ SupervisorSettings.standard with partialLaunch := .stopStarted }, .standard,
        .standard⟩, rfl⟩, Scalar.noConfusion, fun _ => Scalar.noConfusion⟩
    · exact ⟨⟨⟨.standard, .standard, { LoggingSettings.standard with level := "debug" }⟩, rfl⟩,
        Scalar.noConfusion, fun _ => Scalar.noConfusion⟩

theorem writtenIn_partialMembers :
    someReplacements.WrittenIn (Json.memberDocuments partialMembers) where
  plain := arePlain_memberDocuments (by decide)
  listed
    | .supervisor => by
      refine ⟨Json.memberDocuments partialSupervisor, ⟨arePlain_memberDocuments (by decide), ?_⟩,
        .inl rfl⟩
      intro setting inside
      cases setting <;> first | rfl | cases inside
    | .agent => by
      refine ⟨[], ⟨List.forall_mem_nil _, ?_⟩, .inr ⟨rfl, rfl⟩⟩
      intro setting inside
      cases setting <;> first | rfl | cases inside
    | .logging => by
      refine ⟨Json.memberDocuments partialLogging, ⟨arePlain_memberDocuments (by decide), ?_⟩,
        .inl rfl⟩
      intro setting inside
      cases setting <;> first | rfl | cases inside

/-- The text of these settings. -/
def partialText : String :=
  Json.compact (.record partialMembers)

theorem spells_partialText :
    Spells partialText.toList (.table (Json.memberDocuments partialMembers) .closed) := by
  rw [partialText, Json.compact, String.toList_ofList]
  have extra : ∀ item ∈ [Json.integer (-1), .null], Json.Fits item := by
    simp only [List.forall_mem_cons]
    exact ⟨.integer (by decide) (by decide), .null, List.forall_mem_nil _⟩
  have more : ∀ member ∈ [("A.b", Json.boolean true)], Json.Fits member.2 := by
    simp only [List.forall_mem_cons]
    exact ⟨.boolean true, List.forall_mem_nil _⟩
  have supervisor : ∀ member ∈ partialSupervisor, Json.Fits member.2 := by
    simp only [partialSupervisor, List.forall_mem_cons]
    exact ⟨.text _, .record more, .integer (by decide) (by decide), List.forall_mem_nil _⟩
  have logging : ∀ member ∈ partialLogging, Json.Fits member.2 := by
    simp only [partialLogging, List.forall_mem_cons]
    exact ⟨.text _, List.forall_mem_nil _⟩
  have fits : Json.Fits (.record partialMembers) := by
    refine .record ?_
    simp only [partialMembers, List.forall_mem_cons]
    exact ⟨.list extra, .record supervisor, .record logging, List.forall_mem_nil _⟩
  exact fits.spells

theorem decode_load_partialText :
    ∃ configuration : Configuration,
      configuration.value .partialLaunch = .text "stop_started" ∧
      configuration.value .maxRestarts = .integer 7 ∧
      configuration.value .level = .text "debug" ∧
      configuration.value .cooldown = .integer 10 ∧
      Json.decode decoder partialText = .ok configuration ∧
      load (.ofFiles [(["config", "development.json"], .text partialText)]) [] "config" =
        .ok configuration := by
  have only := isOnlyFile_development partialText
  have within : Within Document.depthLimit
      (.table (Json.memberDocuments partialMembers) .closed) :=
    Json.keepBreak?_eq_none_iff.mp rfl
  obtain ⟨configuration, values, decoded, -, loaded⟩ :=
    exists_decode_eq_ok_load_eq writtenIn_partialMembers spells_partialText
  refine ⟨configuration, ?_, ?_, ?_, ?_, decoded, (loaded _ _ _ only).1 within⟩
  all_goals
    rw [values]
    rfl

/-- Lists inside each other. -/
def nestedLists : Nat → Json
  | 0 => .list []
  | depth + 1 => .list [nestedLists depth]

theorem fits_nestedLists (depth : Nat) : (nestedLists depth).Fits := by
  induction depth with
  | zero => exact .list (List.forall_mem_nil _)
  | succ depth inductionHypothesis =>
      exact .list fun item present => List.mem_singleton.mp present ▸ inductionHypothesis

/-- A member that holds 127 lists inside each other. -/
def deepMembers : List (String × Json) :=
  [("extra", nestedLists 126)]

/-- The text of a record with this member only. -/
def deepText : String :=
  Json.compact (.record deepMembers)

/-- No replacements. -/
def noReplacements : Replacements where
  value? _ := none
  accepted := nofun

/-- Lists that are nested too deep for a settings file are passed over where the text is decoded. -/
theorem load_deepText_eq_error :
    noReplacements.WrittenIn (Json.memberDocuments deepMembers) ∧
      Spells deepText.toList (.table (Json.memberDocuments deepMembers) .closed) ∧
      Json.decode decoder deepText = .ok standard ∧
      Json.decodeTree decoder (.table (Json.memberDocuments deepMembers) .closed) = .ok standard ∧
      load (.ofFiles [(["config", "development.json"], .text deepText)]) [] "config" =
        .error (.malformedFile "config/development.json") := by
  have plain : ∀ name ∈ deepMembers.map Prod.fst, IsPlain name := by
    decide
  have fits : Json.Fits (.record deepMembers) := by
    refine .record fun member present => ?_
    cases List.mem_singleton.mp present
    exact fits_nestedLists 126
  have spelled : Spells deepText.toList
      (.table (Json.memberDocuments deepMembers) .closed) := by
    rw [deepText, Json.compact, String.toList_ofList]
    exact fits.spells
  have written : noReplacements.WrittenIn (Json.memberDocuments deepMembers) := by
    refine ⟨arePlain_memberDocuments plain, fun group => ⟨[], ?_, .inr ⟨rfl, ?_⟩⟩⟩
    · exact ⟨List.forall_mem_nil _, fun _ _ => rfl⟩
    · cases group <;> rfl
  have gives : noReplacements.Gives standard := fun _ => rfl
  have only := isOnlyFile_development deepText
  have beyond : ¬ Within Document.depthLimit
      (.table (Json.memberDocuments deepMembers) .closed) := by
    rw [← Json.keepBreak?_eq_none_iff]
    decide +kernel
  refine ⟨written, spelled, written.decode_eq_ok gives spelled,
    written.decodeTree_eq_ok gives spelled, ?_⟩
  exact only.load_eq_error (layer_eq_error spelled beyond _ _)

end Configuration
end AgentCohort
