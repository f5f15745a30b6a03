import AgentCohort.Proofs.Configuration.Overrides
import AgentCohort.Proofs.Settings.JsonFiles
import AgentCohort.Proofs.Toml.Documents

/-!
# Integer settings

A whole number that is written for a setting in a file or in a variable comes back exactly if it is
a signed word of 64 bits.  A greater one is refused in TOML; from JSON and from variables it comes
back as the nearest multiple of 2048 or as the largest word, which no number of restarts can be.
-/

namespace AgentCohort

open Settings (Carries FilePath FileKind FileStore Reader Scalar SettingsFile Tree stepsOfPlace
  wordOf)
open Settings.Environment (origin scalarOf)

variable {n : Nat}

/-! ## Reading numbers -/

namespace Settings

/-- Where a word is wanted, the number that is carried comes back. -/
theorem Carries.natural
    {value : Scalar}
    (carries : Carries n value)
    (origin? : Option String) :
    Reader.natural (.scalar origin? value) = .ok (wordOf n) := by
  unfold Carries at carries
  split at carries
  · rename_i fits
    rw [carries, Reader.natural_integer, wordOf, if_pos fits]
  · obtain ⟨number, rfl, rounded⟩ := carries
    exact congrArg Except.ok rounded

theorem Carries.ne_nothing {value : Scalar} (carries : Carries n value) : value ≠ .nothing := by
  unfold Carries at carries
  split at carries
  · rw [carries]
    exact Scalar.noConfusion
  · obtain ⟨number, rfl, -⟩ := carries
    exact Scalar.noConfusion

theorem Reader.optional_of_ne_nothing
    {reader : Reader α}
    {origin? : Option String}
    {value : Scalar}
    (present : value ≠ .nothing) :
    reader.optional (.scalar origin? value) = (reader (.scalar origin? value)).map some := by
  cases value with
  | nothing => exact absurd rfl present
  | _ => rfl

/-- As a word of 64 bits it is written as the number that comes back. -/
theorem Carries.map_word64
    {value : Scalar}
    (carries : Carries n value)
    (origin? : Option String) :
    (Reader.word64 (.scalar origin? value)).map Scalar.word64 = .ok (.integer (wordOf n)) := by
  have fits : wordOf n < 2 ^ 64 := Nat.lt_succ_of_le (wordOf_le n)
  rw [Reader.word64, carries.natural]
  change Except.ok (Scalar.integer (UInt64.ofNat (wordOf n)).toNat) = _
  rw [UInt64.toNat_ofNat_of_lt' fits]

theorem Carries.map_optional_word64
    {value : Scalar}
    (carries : Carries n value)
    (origin? : Option String) :
    (Reader.word64.optional (.scalar origin? value)).map (Scalar.optional .word64) =
      .ok (.integer (wordOf n)) := by
  rw [Reader.optional_of_ne_nothing carries.ne_nothing, ← carries.map_word64 origin?]
  cases Reader.word64 (.scalar origin? value) <;> rfl

/-- A word of 32 bits is read only if the number that comes back has no more of them. -/
theorem Carries.of_optional_word32
    {value : Scalar}
    {origin? : Option String}
    {word? : Option UInt32}
    (carries : Carries n value)
    (read : Reader.word32.optional (.scalar origin? value) = .ok word?) :
    .optional .word32 word? = Scalar.integer (wordOf n) ∧ wordOf n < 2 ^ 32 := by
  rw [Reader.optional_of_ne_nothing carries.ne_nothing] at read
  obtain ⟨word, inside, rfl⟩ := map_eq_ok read
  obtain ⟨number, natural, inside⟩ := bind_eq_ok inside
  cases (carries.natural origin?).symm.trans natural
  split at inside
  · rename_i small
    cases inside
    refine ⟨?_, small⟩
    change Scalar.integer (UInt32.ofNat (wordOf n)).toNat = _
    rw [UInt32.toNat_ofNat_of_lt' small]
  · cases inside

/-! ## Files of both kinds -/

/-- What is written in a file of a kind.  Only for TOML and JSON it is said here; the host reads
the other kinds. -/
def FileKind.Writes : FileKind → String → List String → Nat → Prop
  | .toml => Toml.Writes
  | .json => JsonFile.Writes
  | .yaml | .ini | .ron | .json5 => fun _ _ _ => False

/-- A well-formed file carries the number at the place where it is written, and TOML writes signed
words only. -/
theorem FileKind.Writes.exists_at?_read
    {kind : FileKind}
    {text : String}
    {place : List String}
    {formats : Formats}
    {entries : List (String × Tree)}
    (writes : kind.Writes text place n)
    (read : formats.read? kind text = some entries) :
    ∃ value, Tree.at? place (.table none entries) = some (.scalar none value) ∧
      Carries n value ∧ (kind = .toml → n ≤ Numeral.maxInt64) := by
  cases kind with
  | toml =>
      obtain ⟨fits, there⟩ := Toml.Writes.at?_read writes read
      exact ⟨_, there, carries_integer fits, fun _ => fits⟩
  | json =>
      obtain ⟨value, there, carries⟩ := JsonFile.Writes.exists_at?_read writes read
      exact ⟨value, there, carries, FileKind.noConfusion⟩
  | yaml | ini | ron | json5 => exact writes.elim

end Settings

namespace Configuration

variable {store : FileStore} {environment : List (String × String)} {directory name : String}
  {setting : Setting} {kind : FileKind} {configuration : Configuration}

/-- The settings that are whole numbers. -/
def integerSettings : List Setting :=
  [.cooldown, .joinTimeout, .maxRestarts, .registrationRetry, .stopGrace]

/-- A number that is carried for an integer setting comes back as a word, and the number of restarts
is a signed one. -/
theorem value_of_carries
    {value result : Scalar}
    {origin? : Option String}
    (isInteger : setting ∈ integerSettings)
    (carries : Carries n value)
    (read : setting.read (some (.scalar origin? value)) = .ok result) :
    result = .integer (wordOf n) ∧ (setting = .maxRestarts → n ≤ Numeral.maxInt64) := by
  have plain := carries.map_word64 origin?
  simp only [integerSettings, List.mem_cons, List.not_mem_nil, or_false] at isInteger
  obtain rfl | rfl | rfl | rfl | rfl := isInteger
  · exact ⟨Except.ok.inj (read.symm.trans plain), Setting.noConfusion⟩
  · exact ⟨Except.ok.inj (read.symm.trans (carries.map_optional_word64 origin?)),
      Setting.noConfusion⟩
  · obtain ⟨word?, present, rfl⟩ := map_eq_ok read
    obtain ⟨same, small⟩ := carries.of_optional_word32 present
    refine ⟨same, fun _ => Nat.le_of_not_lt fun beyond => ?_⟩
    have large := Settings.maxInt64_lt_wordOf beyond
    have limit : Numeral.maxInt64 = 2 ^ 63 - 1 := rfl
    omega
  · exact ⟨Except.ok.inj (read.symm.trans plain), Setting.noConfusion⟩
  · exact ⟨Except.ok.inj (read.symm.trans plain), Setting.noConfusion⟩

/-! ## Where numbers are written -/

/-- The group and the key of a setting are one of its places. -/
theorem Setting.leadsTo_place (setting : Setting) :
    LeadsTo setting (stepsOfPlace [setting.group.name, setting.key]) := by
  refine ⟨setting.group.name, setting.key, ?_, setting.lowercase_group_name, setting.lowercase_key⟩
  cases setting <;> decide

/-- All parts of a layer spare a setting. -/
def LeavesAlone (setting : Setting) (layer : List (String × Tree)) : Prop :=
  ∀ part ∈ Tree.parts layer, Spares setting part

/-- A settings file writes a whole number for a setting, and for it alone. -/
structure FileWrites
    (store : FileStore)
    (directory name : String)
    (setting : Setting)
    (kind : FileKind)
    (n : Nat) : Prop where
  /-- There is a file of the kind that writes the number at a place of the setting. -/
  written : ∃ file place, SettingsFile.find? store (FilePath.join directory name) = some file ∧
    file.kind = kind ∧ kind.Writes file.content place n ∧ LeadsTo setting (stepsOfPlace place)
  /-- The file does not set it in two ways. -/
  once : ∀ layer, fileLayer store directory name = .ok layer →
    ∀ first ∈ Tree.parts layer, ∀ second ∈ Tree.parts layer,
      ¬ Spares setting first → ¬ Spares setting second → first = second

/-- A whole number is written for a setting in a file of some kind or in a variable, and nothing
that comes later sets it. -/
inductive Written
    (store : FileStore)
    (environment : List (String × String))
    (directory : String)
    (setting : Setting) :
    Option FileKind → Nat → Prop
  | inFirst
      {kind : FileKind}
      {n : Nat}
      (writes : FileWrites store directory "default.toml" setting kind n)
      (second : ∀ layer, fileLayer store directory (secondFile environment) = .ok layer →
        LeavesAlone setting layer)
      (passing : ∀ assignment ∈ environment, Passes setting assignment) :
      Written store environment directory setting kind n
  | inSecond
      {kind : FileKind}
      {n : Nat}
      (writes : FileWrites store directory (secondFile environment) setting kind n)
      (passing : ∀ assignment ∈ environment, Passes setting assignment) :
      Written store environment directory setting kind n
  | inVariable
      {before after : List (String × String)}
      {name : String}
      {digits : List Char}
      (given : environment = before ++ (name, String.ofList digits) :: after)
      (named : IsVariable setting name)
      (nonempty : digits ≠ [])
      (all : ∀ c ∈ digits, Numeral.isDigit c = true)
      (later : ∀ assignment ∈ after, Passes setting assignment) :
      Written store environment directory setting none (Numeral.valueOf digits)

/-- A file that sets nothing else writes the number for the setting alone. -/
theorem fileWrites_of_parts_eq
    {file : SettingsFile}
    {place : List String}
    {layer : List (String × Tree)}
    {part : Tree.Part}
    (found : SettingsFile.find? store (FilePath.join directory name) = some file)
    (writes : file.kind.Writes file.content place n)
    (leads : LeadsTo setting (stepsOfPlace place))
    (read : fileLayer store directory name = .ok layer)
    (single : Tree.parts layer = [part]) :
    FileWrites store directory name setting file.kind n where
  written := ⟨file, place, found, rfl, writes, leads⟩
  once := by
    intro other same first firstMember second secondMember _ _
    cases same.symm.trans read
    rw [single] at firstMember secondMember
    rw [List.mem_singleton.mp firstMember, List.mem_singleton.mp secondMember]

/-- The layer of a file that writes a number for a setting has one part for it, which carries the
number. -/
theorem FileWrites.exists_part
    {layer : List (String × Tree)}
    (writes : FileWrites store directory name setting kind n)
    (read : fileLayer store directory name = .ok layer) :
    ∃ steps origin? value, (steps, .scalar origin? value) ∈ Tree.parts layer ∧
      LeadsTo setting steps ∧ Carries n value ∧
      (∀ part ∈ Tree.parts layer, Spares setting part ∨ part = (steps, .scalar origin? value)) ∧
      (kind = .toml → n ≤ Numeral.maxInt64) := by
  obtain ⟨file, place, found, rfl, inside, leads⟩ := writes.written
  have once := writes.once layer read
  unfold fileLayer at read
  rw [found] at read
  dsimp only at read
  unfold SettingsFile.layer at read
  split at read
  · rename_i entries same
    cases read
    obtain ⟨value, there, carries, source⟩ := inside.exists_at?_read same
    obtain ⟨group, key, steps, sameGroup, sameKey⟩ := leads
    have leads : LeadsTo setting [.name group, .name key] := ⟨group, key, rfl, sameGroup, sameKey⟩
    -- The part that carries the number does not spare the setting, so every other part does.
    have present := @Tree.mem_parts_of_at? file.path.text _ _ _ _ _ there steps
    refine ⟨_, _, value, present, leads, carries, fun part member => ?_, source⟩
    by_cases spares : Spares setting part
    · exact .inl spares
    · exact .inr (once part member _ present spares (leads.not_spares _))
  · cases read

/-- What is given for a setting for which a number is written carries the number. -/
theorem Written.exists_given
    {source? : Option FileKind}
    {first second : List (String × Tree)}
    (written : Written store environment directory setting source? n)
    (firstRead : fileLayer store directory "default.toml" = .ok first)
    (secondRead : fileLayer store directory (secondFile environment) = .ok second) :
    ∃ origin? value, given? (layered first second environment) setting =
        some (.scalar origin? value) ∧ Carries n value ∧
      (source? = some .toml → n ≤ Numeral.maxInt64) := by
  cases written with
  | inFirst writes second passing =>
      obtain ⟨steps, origin?, value, present, leads, carries, others, source⟩ :=
        writes.exists_part firstRead
      refine ⟨origin?, value, ?_, carries, fun same => source (Option.some.inj same)⟩
      simp only [layered, allParts, List.foldl_append]
      rw [given?_foldl_withPart (spares_of_passes passing),
        given?_foldl_withPart (second _ secondRead),
        given?_foldl_withPart_of_leads leads others (.inl present)]
  | inSecond writes passing =>
      obtain ⟨steps, origin?, value, present, leads, carries, others, source⟩ :=
        writes.exists_part secondRead
      refine ⟨origin?, value, ?_, carries, fun same => source (Option.some.inj same)⟩
      simp only [layered, allParts, List.foldl_append]
      rw [given?_foldl_withPart (spares_of_passes passing),
        given?_foldl_withPart_of_leads leads others (.inl present)]
  | @inVariable before after name digits given named nonempty all later =>
      subst given
      refine ⟨some origin, scalarOf (String.ofList digits), ?_,
        Settings.carries_scalarOf_digits nonempty all, by rintro ⟨⟩⟩
      simp only [layered, allParts, List.filterMap_append, List.foldl_append,
        List.filterMap_cons_some (named.part? _), List.foldl_cons]
      rw [given?_foldl_withPart (spares_of_passes later), setting.leadsTo.given?_withPart]

/-- A whole number that is written for an integer setting comes back exactly if it is a signed word
of 64 bits.  Whatever is loaded with a greater one is loaded neither from TOML nor for the number of
restarts, and the setting is the nearest multiple of 2048, at most the largest word. -/
theorem value_of_load_written
    {source? : Option FileKind}
    (isInteger : setting ∈ integerSettings)
    (written : Written store environment directory setting source? n)
    (loaded : load store environment directory = .ok configuration) :
    (n ≤ Numeral.maxInt64 → configuration.value setting = .integer n) ∧
      (Numeral.maxInt64 < n → source? ≠ some .toml ∧ setting ≠ .maxRestarts ∧
        configuration.value setting =
          .integer (min Numeral.maxUInt64 (2048 * Double.roundHalfEven n 2048) : Nat)) := by
  obtain ⟨first, second, firstRead, secondRead, read⟩ := load_eq_ok_iff.mp loaded
  obtain ⟨origin?, value, given, carries, source⟩ := written.exists_given firstRead secondRead
  obtain ⟨word, restarts⟩ :=
    value_of_carries isInteger carries (read_of_given (isTable_layered ..) read given)
  rw [word]
  refine ⟨fun fits => ?_, fun beyond => ⟨?_, ?_, ?_⟩⟩
  · rw [wordOf, if_pos fits]
  · exact fun toml => absurd (source toml) (Nat.not_le.mpr beyond)
  · exact fun same => absurd (restarts same) (Nat.not_le.mpr beyond)
  · rw [wordOf, if_neg (Nat.not_le.mpr beyond)]

/-- A TOML text that limits the number of restarts. -/
def restartsText : String := "[supervisor]\nmax_restarts = 7\n"

theorem writes_restartsText : Toml.Writes restartsText ["supervisor", "max_restarts"] 7 := by
  refine @Toml.Writes.line _ ⟨[("supervisor", .table false false [])], ["supervisor"]⟩
    "max_restarts = 7\n".toList [' ', '7', '\n'] ["max_restarts"] [] 7 (.line .start rfl) rfl ?_ ?_
  · rintro node ⟨⟩
    exact ⟨_, _, _, rfl, trivial⟩
  · change Toml.WritesInside (7 + 1) 0 (Nat.toDigits 10 7 ++ ['\n']) [] 7
    exact .plain (by rintro _ ⟨⟩; decide)

/-- A JSON text with a period that is no signed word. -/
def graceText : String := "\x7b\"agent\":\x7b\"stop_grace_ms\":9223372036854775809\x7d\x7d"

theorem writes_graceText :
    Settings.JsonFile.Writes graceText ["agent", "stop_grace_ms"] 9223372036854775809 :=
  ⟨_, (Settings.JsonFile.WritesInside.plain.single "stop_grace_ms").single "agent"⟩

/-- A directory with both texts. -/
def integerFiles : FileStore :=
  .ofFiles
    [(["config", "default.toml"], .text restartsText),
     (["config", "development.json"], .text graceText)]

/-- A variable with a pause of more than 64 bits. -/
def pauseVariables : List (String × String) :=
  [("DCOP_AGENT__SUPERVISOR__COOLDOWN_SECS", "18446744073709551617")]

theorem value_of_load_written_integerFiles :
    ∃ configuration, load integerFiles pauseVariables "config" = .ok configuration ∧
      configuration.value .maxRestarts = .integer 7 ∧
      configuration.value .stopGrace = .integer 9223372036854775808 ∧
      configuration.value .cooldown = .integer 18446744073709551615 := by
  have named : IsVariable .cooldown "DCOP_AGENT__SUPERVISOR__COOLDOWN_SECS" := by
    decide
  have passing : ∀ setting : Setting, setting ≠ .cooldown →
      ∀ assignment ∈ pauseVariables, Passes setting assignment := by
    intro setting differ assignment member
    cases List.mem_singleton.mp member
    exact named.passes differ _
  have firstRead : fileLayer integerFiles "config" "default.toml" =
      .ok [("supervisor", .table (some "config/default.toml")
        [("max_restarts", .scalar (some "config/default.toml") (.integer 7))])] :=
    eq_ok_of_toOption (by decide +kernel)
  have secondRead : fileLayer integerFiles "config" (secondFile pauseVariables) =
      .ok [("agent", .table (some "config/development.json")
        [("stop_grace_ms", .scalar (some "config/development.json")
          (.real (.ofNat 9223372036854775809)))])] :=
    eq_ok_of_toOption (by decide +kernel)
  have foundFirst : SettingsFile.find? integerFiles (FilePath.join "config" "default.toml") =
      some ⟨["config", "default.toml"], .toml, restartsText⟩ := by
    rfl
  have foundSecond :
      SettingsFile.find? integerFiles (FilePath.join "config" (secondFile pauseVariables)) =
        some ⟨["config", "development.json"], .json, graceText⟩ := by
    rfl
  have leftAlone : ∀ layer,
      fileLayer integerFiles "config" (secondFile pauseVariables) = .ok layer →
      LeavesAlone .maxRestarts layer := by
    intro layer read part member
    cases read.symm.trans secondRead
    cases List.mem_singleton.mp member
    exact Setting.stopGrace.leadsTo.spares (by decide) _
  have inFirst : Written integerFiles pauseVariables "config" .maxRestarts (some .toml) 7 :=
    .inFirst
      (fileWrites_of_parts_eq foundFirst writes_restartsText Setting.maxRestarts.leadsTo_place
        firstRead rfl)
      leftAlone (passing .maxRestarts (by decide))
  have inSecond : Written integerFiles pauseVariables "config" .stopGrace (some .json)
      9223372036854775809 :=
    .inSecond
      (fileWrites_of_parts_eq foundSecond writes_graceText Setting.stopGrace.leadsTo_place
        secondRead rfl)
      (passing .stopGrace (by decide))
  have inVariable : Written integerFiles pauseVariables "config" .cooldown none
      18446744073709551617 :=
    @Written.inVariable _ _ _ _ [] [] _ "18446744073709551617".toList rfl named (by decide)
      (List.all_eq_true.mp (by decide)) nofun
  have loaded : load integerFiles pauseVariables "config" =
      .ok ⟨{ SupervisorSettings.standard with
            cooldownSeconds := 18446744073709551615, maxRestarts? := some 7 },
          { AgentSettings.standard with stopGraceMs := 9223372036854775808 }, .standard⟩ :=
    load_eq_ok_iff.mpr ⟨_, _, firstRead, secondRead, eq_ok_of_toOption (by decide +kernel)⟩
  refine ⟨_, loaded, ?_, ?_, ?_⟩
  · exact (value_of_load_written (by decide) inFirst loaded).1 (by decide)
  · exact ((value_of_load_written (by decide) inSecond loaded).2 (by decide)).2.2
  · exact ((value_of_load_written (by decide) inVariable loaded).2 (by decide)).2.2

/-- A pause beyond the signed words is loaded as another number. -/
theorem load_longPause :
    (load (.ofFiles []) [("DCOP_AGENT__SUPERVISOR__COOLDOWN_SECS", "9223372036854775809")]
      "config").toOption.map (·.value .cooldown) = some (.integer 9223372036854775808) := by
  have named : IsVariable .cooldown "DCOP_AGENT__SUPERVISOR__COOLDOWN_SECS" := by
    decide
  have readable : Setting.cooldown.read
      (some (.scalar (some origin) (scalarOf "9223372036854775809"))) =
        .ok (.integer 9223372036854775808) :=
    eq_ok_of_toOption (by decide +kernel)
  obtain ⟨changed, loaded, valued⟩ :=
    @exists_load_insert (.ofFiles []) "config" .cooldown _ "9223372036854775809" [] [] standard _
      named nofun readable load_nothing
  rw [List.nil_append] at loaded
  rw [loaded]
  exact congrArg some valued

end Configuration
end AgentCohort
