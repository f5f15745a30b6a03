import AgentCohort.Proofs.Configuration.Setting

/-!
# Settings in layers

A part of a layer either leads to one setting and sets it, or it spares a setting, whatever else it
does.  In layers of which every part sets one setting to a single value or spares them all, each
setting is given by the last part that leads to it, and the groups stay tables.  A part that leads
to a setting also decides it if all later parts spare it, whatever the layers are otherwise.
-/

namespace AgentCohort
namespace Configuration

open Settings (Fault Reader Scalar Step Tree stepsOfKey)
open Settings.Tree (Part child?_put child?_setAt child?_setInside parts setAt setInside withPart)

variable {tree below : Tree} {part : Part} {setting other : Setting}
  {configuration : Configuration}

/-! ## What a tree gives -/

/-- Whether a tree is a table. -/
def IsTable : Tree → Prop
  | .table _ _ => True
  | _ => False

/-- What a tree gives for a setting. -/
def given? (tree : Tree) (setting : Setting) : Option Tree :=
  (tree.child? setting.group.name).bind fun group => group.child? setting.key

/-- A tree gives a setting a single value, or nothing at all. -/
def Gives (tree : Tree) (setting : Setting) (value? : Option Scalar) : Prop :=
  ∃ origin?, given? tree setting = value?.map (.scalar origin?)

/-- A tree is grouped if it is a table and each group that is there is one, too. -/
structure Grouped (tree : Tree) : Prop where
  /-- The tree is a table. -/
  isTable : IsTable tree
  /-- A group is a table. -/
  groups : ∀ group : Group, ∀ inner, tree.child? group.name = some inner → IsTable inner

theorem grouped_empty : Grouped Tree.empty where
  isTable := trivial
  groups := by
    intro group inner found
    cases found

theorem isTable_put (key : String) (value tree : Tree) : IsTable (Tree.put key value tree) :=
  trivial

/-- A table of which every group can be read can be read. -/
theorem exists_reader_eq_ok
    (isTable : IsTable tree)
    (readable : ∀ group : Group, ∃ configuration,
      group.Reads (tree.child? group.name) configuration) :
    ∃ configuration, reader tree = .ok configuration ∧
      ∀ group : Group, group.Reads (tree.child? group.name) configuration := by
  obtain ⟨configuration, reads⟩ := exists_reads readable
  cases tree with
  | table origin? entries => exact ⟨configuration, reader_table_eq_ok_iff.mpr reads, reads⟩
  | _ => exact isTable.elim

/-- What a tree gives for a setting is what the setting is read from. -/
theorem read_of_given
    {value : Tree}
    (isTable : IsTable tree)
    (read : reader tree = .ok configuration)
    (given : given? tree setting = some value) :
    setting.read (some value) = .ok (configuration.value setting) := by
  cases tree with
  | table origin? entries =>
      have reads := reader_table_eq_ok_iff.mp read setting.group
      obtain ⟨group, found, inside⟩ := Option.bind_eq_some_iff.mp given
      change entries.lookup setting.group.name = some group at found
      rw [found] at reads
      cases group with
      | table origin? entries =>
          change entries.lookup setting.key = some value at inside
          rw [← inside]
          exact Group.reads_table_iff.mp reads setting rfl
      | _ => cases inside
  | _ => exact isTable.elim

/-- If every setting of a grouped tree can be read then so can the tree. -/
theorem Grouped.exists_reader_eq_ok
    {values : Setting → Scalar}
    (grouped : Grouped tree)
    (read : ∀ setting : Setting, setting.read (given? tree setting) = .ok (values setting)) :
    ∃ configuration, reader tree = .ok configuration ∧
      ∀ setting, configuration.value setting = values setting := by
  -- A group that is not there is read like an empty one.
  have asTables : ∀ group : Group, ∃ origin? entries,
      (∀ configuration, group.Reads (tree.child? group.name) configuration ↔
        group.Reads (some (.table origin? entries)) configuration) ∧
      ∀ key, (tree.child? group.name).bind (·.child? key) = entries.lookup key := by
    intro group
    cases found : tree.child? group.name with
    | none => exact ⟨none, [], fun _ => Group.reads_none_iff, fun _ => rfl⟩
    | some inner =>
        have isTable := grouped.groups group inner found
        cases inner with
        | table origin? entries => exact ⟨origin?, entries, fun _ => Iff.rfl, fun _ => rfl⟩
        | _ => exact isTable.elim
  have readable : ∀ group : Group, ∃ configuration,
      group.Reads (tree.child? group.name) configuration := by
    intro group
    obtain ⟨origin?, entries, reads, inside⟩ := asTables group
    simp only [reads]
    refine Group.exists_reads_table fun setting within => ⟨values setting, ?_⟩
    rw [← inside, ← within]
    exact read setting
  obtain ⟨configuration, loaded, reads⟩ :=
    Configuration.exists_reader_eq_ok grouped.isTable readable
  refine ⟨configuration, loaded, fun setting => ?_⟩
  obtain ⟨origin?, entries, readsTable, inside⟩ := asTables setting.group
  have valued := Group.reads_table_iff.mp ((readsTable _).mp (reads setting.group)) setting rfl
  rw [← inside] at valued
  exact Except.ok.inj (valued.symm.trans (read setting))

/-! ## Parts that lead to settings and parts that spare them -/

/-- Steps lead to a setting if they are its group and its key, in any case of their letters. -/
def LeadsTo (setting : Setting) (steps : List Step) : Prop :=
  ∃ group key, steps = [.name group, .name key] ∧
    Text.lowercase group = setting.group.name ∧ Text.lowercase key = setting.key

theorem Setting.leadsTo (setting : Setting) :
    LeadsTo setting [.name setting.group.name, .name setting.key] :=
  ⟨_, _, rfl, setting.lowercase_group_name, setting.lowercase_key⟩

/-- A part spares a setting if its steps leave the way to the setting, or if it is an empty table
in the place of the group. -/
def Spares (setting : Setting) : Part → Prop
  | (.name group :: rest, value) =>
    Text.lowercase group = setting.group.name →
      match rest, value with
      | [], .table _ [] => True
      | .name key :: _, _ => Text.lowercase key ≠ setting.key
      | _, _ => False
  | _ => False

/-- The value that a part gives a setting. -/
def partValue? (setting : Setting) : Part → Option Scalar
  | ([.name group, .name key], .scalar _ value) =>
    if Text.lowercase group = setting.group.name ∧ Text.lowercase key = setting.key then
      some value
    else none
  | _ => none

/-- The value that the last of some parts that lead to a setting gives it. -/
def lastValue? (setting : Setting) : List Part → Option Scalar
  | [] => none
  | part :: parts => (lastValue? setting parts).or (partValue? setting part)

theorem lastValue?_append (setting : Setting) (first second : List Part) :
    lastValue? setting (first ++ second) =
      (lastValue? setting second).or (lastValue? setting first) := by
  induction first with
  | nil => exact Option.or_none.symm
  | cons part first inductionHypothesis =>
      rw [List.cons_append, lastValue?, lastValue?, inductionHypothesis, Option.or_assoc]

/-- A part sets one setting to a value of its type, or spares all settings. -/
def Orderly (part : Part) : Prop :=
  (∃ setting, LeadsTo setting part.1 ∧
    ∃ origin? value, part.2 = .scalar origin? value ∧ setting.Admits value) ∨
  ∀ setting, Spares setting part

theorem Setting.Admits.orderly
    {value : Scalar}
    (admits : setting.Admits value)
    (origin? : Option String) :
    Orderly ([.name setting.group.name, .name setting.key], .scalar origin? value) :=
  .inl ⟨setting, setting.leadsTo, origin?, value, rfl, admits⟩

/-- A part that leads to a setting spares the others. -/
theorem LeadsTo.spares
    {steps : List Step}
    (leads : LeadsTo setting steps)
    (differ : other ≠ setting)
    (value : Tree) :
    Spares other (steps, value) := by
  obtain ⟨group, key, rfl, sameGroup, sameKey⟩ := leads
  intro otherGroup otherKey
  exact differ (Setting.eq_of_group_of_key (otherGroup.symm.trans sameGroup)
    (otherKey.symm.trans sameKey))

theorem LeadsTo.not_spares
    {steps : List Step}
    (leads : LeadsTo setting steps)
    (value : Tree) :
    ¬ Spares setting (steps, value) := by
  obtain ⟨group, key, rfl, sameGroup, sameKey⟩ := leads
  exact fun spares => spares sameGroup sameKey

theorem LeadsTo.partValue?_scalar
    {steps : List Step}
    (leads : LeadsTo setting steps)
    (origin? : Option String)
    (value : Scalar) :
    partValue? setting (steps, .scalar origin? value) = some value := by
  obtain ⟨group, key, rfl, sameGroup, sameKey⟩ := leads
  exact if_pos ⟨sameGroup, sameKey⟩

theorem Spares.partValue?_eq_none (spares : Spares setting part) :
    partValue? setting part = none := by
  unfold partValue?
  split
  · exact if_neg fun same => spares same.1 same.2
  · rfl

/-- What a part that spares a setting sets has no bearing on what is given for it. -/
theorem Spares.given?_withPart (spares : Spares setting part) (tree : Tree) :
    given? (withPart tree part) setting = given? tree setting := by
  obtain ⟨steps, value⟩ := part
  cases steps with
  | nil => exact spares.elim
  | cons step rest =>
      cases step with
      | position index => exact spares.elim
      | name group =>
          unfold given? withPart
          rw [child?_setAt]
          by_cases same : setting.group.name = Text.lowercase group
          · have within := spares same.symm
            rw [if_pos same]
            cases rest with
            | nil =>
                cases value with
                | table origin? entries =>
                    cases entries with
                    | nil => cases tree.child? setting.group.name <;> rfl
                    | cons entry entries => exact within.elim
                | _ => exact within.elim
            | cons step rest =>
                cases step with
                | position index => exact within.elim
                | name key =>
                    rw [Option.bind_some, child?_setInside, if_neg (Ne.symm within)]
          · rw [if_neg same]

/-- What a part that leads to a setting sets is given for it. -/
theorem LeadsTo.given?_withPart
    {steps : List Step}
    (leads : LeadsTo setting steps)
    (origin? : Option String)
    (value : Scalar)
    (tree : Tree) :
    given? (withPart tree (steps, .scalar origin? value)) setting =
      some (.scalar origin? value) := by
  obtain ⟨group, key, rfl, sameGroup, sameKey⟩ := leads
  unfold given? withPart
  rw [child?_setAt, if_pos sameGroup.symm, Option.bind_some, child?_setInside,
    if_pos sameKey.symm]
  rfl

theorem given?_foldl_withPart
    {ps : List Part}
    (spares : ∀ part ∈ ps, Spares setting part)
    (tree : Tree) :
    given? (ps.foldl withPart tree) setting = given? tree setting := by
  induction ps generalizing tree with
  | nil => rfl
  | cons part ps inductionHypothesis =>
      rw [List.foldl_cons, inductionHypothesis fun part member => spares part (.tail _ member),
        (spares part (.head _)).given?_withPart]

/-- Where all parts but one spare a setting and this one leads to it, it decides the setting, unless
the setting was given the same before. -/
theorem given?_foldl_withPart_of_leads
    {steps : List Step}
    {origin? : Option String}
    {value : Scalar}
    {ps : List Part}
    (leads : LeadsTo setting steps)
    (others : ∀ part ∈ ps, Spares setting part ∨ part = (steps, .scalar origin? value))
    (given : (steps, .scalar origin? value) ∈ ps ∨
      given? tree setting = some (.scalar origin? value)) :
    given? (ps.foldl withPart tree) setting = some (.scalar origin? value) := by
  induction ps generalizing tree with
  | nil =>
      obtain present | given := given
      · cases present
      · exact given
  | cons part ps inductionHypothesis =>
      rw [List.forall_mem_cons] at others
      refine inductionHypothesis others.2 ?_
      -- Once the part has been met, every later one is the same or spares the setting.
      obtain spares | rfl := others.1
      · rw [spares.given?_withPart]
        obtain present | given := given
        · cases present with
          | head => exact absurd spares (leads.not_spares _)
          | tail _ later => exact .inl later
        · exact .inr given
      · exact .inr (leads.given?_withPart origin? value tree)

/-! ## Orderly layers -/

/-- A part that leads to a setting keeps the groups tables, and so does one that spares one of the
settings of each group. -/
theorem Grouped.withPart_of_setInside
    (grouped : Grouped tree)
    {group : String}
    {rest : List Step}
    {value : Tree}
    (isTable : ∀ found : Group, found.name = Text.lowercase group →
      IsTable (setInside value rest (tree.child? found.name))) :
    Grouped (withPart tree (.name group :: rest, value)) where
  isTable := by
    rw [withPart, Tree.setAt_name]
    exact isTable_put ..
  groups := by
    intro found inner there
    rw [withPart, child?_setAt] at there
    by_cases same : found.name = Text.lowercase group
    · rw [if_pos same, Option.some.injEq] at there
      exact there ▸ isTable found same
    · rw [if_neg same] at there
      exact grouped.groups found inner there

theorem isTable_setInside_name (value : Tree) (key : String) (rest : List Step)
    (tree? : Option Tree) :
    IsTable (setInside value (.name key :: rest) tree?) := by
  change IsTable (setAt value (.name key :: rest) (tree?.getD Tree.unset))
  rw [Tree.setAt_name]
  exact isTable_put ..

/-- An orderly part keeps a tree grouped. -/
theorem Grouped.withPart (grouped : Grouped tree) (orderly : Orderly part) :
    Grouped (withPart tree part) := by
  obtain ⟨setting, ⟨group, key, steps, -, -⟩, -⟩ | spares := orderly
  · obtain ⟨_, value⟩ := part
    cases steps
    exact grouped.withPart_of_setInside fun _ _ => isTable_setInside_name ..
  · obtain ⟨steps, value⟩ := part
    cases steps with
    | nil => exact (spares .cooldown).elim
    | cons step rest =>
        cases step with
        | position index => exact (spares .cooldown).elim
        | name group =>
            refine grouped.withPart_of_setInside fun found same => ?_
            obtain ⟨setting, rfl⟩ := found.exists_setting
            have within := spares setting same.symm
            cases rest with
            | nil =>
                cases value with
                | table origin? entries =>
                    cases entries with
                    | nil =>
                        cases inside : tree.child? setting.group.name with
                        | none => trivial
                        | some inner => exact grouped.groups setting.group inner inside
                    | cons entry entries => exact within.elim
                | _ => exact within.elim
            | cons step rest =>
                cases step with
                | position index => exact within.elim
                | name key => exact isTable_setInside_name ..

/-- An orderly part gives a setting its own value, if it has one for the setting. -/
theorem Gives.withPart
    {value? : Option Scalar}
    (gives : Gives tree setting value?)
    (orderly : Orderly part) :
    Gives (withPart tree part) setting ((partValue? setting part).or value?) := by
  obtain ⟨found, leads, origin?, value, scalar, -⟩ | spares := orderly
  · obtain ⟨steps, _⟩ := part
    cases scalar
    by_cases same : setting = found
    · subst same
      rw [leads.partValue?_scalar]
      exact ⟨origin?, leads.given?_withPart origin? value tree⟩
    · have spares := leads.spares same (.scalar origin? value)
      rw [spares.partValue?_eq_none, Gives, spares.given?_withPart]
      exact gives
  · rw [(spares setting).partValue?_eq_none, Gives, (spares setting).given?_withPart]
    exact gives

/-- Orderly parts one after another: the last that leads to a setting counts. -/
theorem Gives.foldl_withPart
    {value? : Option Scalar}
    {ps : List Part}
    (gives : Gives tree setting value?)
    (orderly : ∀ part ∈ ps, Orderly part) :
    Gives (ps.foldl Tree.withPart tree) setting ((lastValue? setting ps).or value?) := by
  induction ps generalizing tree value? with
  | nil => exact gives
  | cons part ps inductionHypothesis =>
      rw [List.foldl_cons, lastValue?, Option.or_assoc]
      exact inductionHypothesis (gives.withPart (orderly part (.head _)))
        fun part member => orderly part (.tail _ member)

theorem Grouped.foldl_withPart
    {ps : List Part}
    (grouped : Grouped tree)
    (orderly : ∀ part ∈ ps, Orderly part) :
    Grouped (ps.foldl Tree.withPart tree) := by
  induction ps generalizing tree with
  | nil => exact grouped
  | cons part ps inductionHypothesis =>
      exact inductionHypothesis (grouped.withPart (orderly part (.head _)))
        fun part member => orderly part (.tail _ member)

/-- A value that orderly parts give a setting is one of its type. -/
theorem admits_of_lastValue?
    {value : Scalar}
    {ps : List Part}
    (orderly : ∀ part ∈ ps, Orderly part)
    (last : lastValue? setting ps = some value) :
    setting.Admits value := by
  induction ps with
  | nil => cases last
  | cons part ps inductionHypothesis =>
      obtain later | ⟨-, here⟩ := Option.or_eq_some_iff.mp last
      · exact inductionHypothesis (fun part member => orderly part (.tail _ member)) later
      · obtain ⟨found, leads, origin?, admitted, scalar, admits⟩ | spares := orderly part (.head _)
        · obtain ⟨steps, _⟩ := part
          cases scalar
          by_cases same : setting = found
          · subst same
            rw [leads.partValue?_scalar] at here
            exact Option.some.inj here ▸ admits
          · rw [(leads.spares same _).partValue?_eq_none] at here
            cases here
        · rw [(spares setting).partValue?_eq_none] at here
          cases here

/-- A setting is read from orderly parts as the last value that it is given, or has its standard
value. -/
theorem read_foldl_withPart
    {ps : List Part}
    (orderly : ∀ part ∈ ps, Orderly part)
    (setting : Setting) :
    setting.read (given? (ps.foldl Tree.withPart Tree.empty) setting) =
      .ok ((lastValue? setting ps).getD (standard.value setting)) := by
  have gives : Gives Tree.empty setting none := ⟨none, rfl⟩
  obtain ⟨origin?, given⟩ := gives.foldl_withPart orderly
  rw [Option.or_none] at given
  rw [given]
  cases last : lastValue? setting ps with
  | none => exact setting.read_none
  | some value => exact (admits_of_lastValue? orderly last).read origin?

/-! ## The defaults -/

theorem orderly_defaults : ∀ part ∈ parts defaults, Orderly part := by
  have each : parts defaults =
      [.cooldown, .registrationRetry, .stopGrace, .level, .json].map fun setting =>
        ([.name setting.group.name, .name setting.key],
          .scalar none (standard.value setting)) := by
    rfl
  intro part member
  rw [each] at member
  obtain ⟨setting, -, rfl⟩ := List.mem_map.mp member
  exact Setting.Admits.orderly ⟨standard, rfl⟩ none

/-- The defaults of a setting are its standard value, where it has any. -/
theorem lastValue?_defaults (setting : Setting) :
    (lastValue? setting (parts defaults)).getD (standard.value setting) =
      standard.value setting := by
  cases setting <;> decide

/-! ## A part that decides a setting -/

/-- Two trees give the same for everything but a setting, for which the second one gives a single
value. -/
structure AlikeBut (setting : Setting) (value : Tree) (first second : Tree) : Prop where
  /-- The trees have the same other groups. -/
  groups : ∀ key, key ≠ setting.group.name → second.child? key = first.child? key
  /-- The group of the setting is a table with the value. -/
  within : ∃ inner, second.child? setting.group.name = some inner ∧ IsTable inner ∧
    inner.child? setting.key = some value ∧
    ∀ key, key ≠ setting.key →
      inner.child? key = (first.child? setting.group.name).bind (·.child? key)

theorem LeadsTo.alikeBut
    {steps : List Step}
    (leads : LeadsTo setting steps)
    (origin? : Option String)
    (value : Scalar)
    (tree : Tree) :
    AlikeBut setting (.scalar origin? value) tree
      (withPart tree (steps, .scalar origin? value)) := by
  obtain ⟨group, key, rfl, sameGroup, sameKey⟩ := leads
  constructor
  · intro other differs
    rw [withPart, child?_setAt, if_neg (sameGroup ▸ differs)]
  · refine ⟨_, by rw [withPart, child?_setAt, if_pos sameGroup.symm],
      isTable_setInside_name .., ?_, ?_⟩
    · rw [child?_setInside, if_pos sameKey.symm]
      rfl
    · intro other differs
      rw [child?_setInside, if_neg (sameKey ▸ differs)]

/-- A part that spares the setting does the same to both trees. -/
theorem AlikeBut.withPart
    {value : Tree}
    (alike : AlikeBut setting value below tree)
    (spares : Spares setting part) :
    AlikeBut setting value (withPart below part) (withPart tree part) := by
  obtain ⟨steps, set⟩ := part
  cases steps with
  | nil => exact spares.elim
  | cons step rest =>
      cases step with
      | position index => exact spares.elim
      | name group =>
          constructor
          · intro key differs
            rw [Tree.withPart, Tree.withPart, child?_setAt, child?_setAt, alike.groups key differs]
          · obtain ⟨inner, found, isTable, given, same⟩ := alike.within
            rw [Tree.withPart, Tree.withPart, child?_setAt, child?_setAt, found]
            by_cases inGroup : setting.group.name = Text.lowercase group
            · have within := spares inGroup.symm
              rw [if_pos inGroup, if_pos inGroup]
              cases rest with
              | nil =>
                  cases set with
                  | table origin? entries =>
                      cases entries with
                      | nil =>
                          refine ⟨inner, rfl, isTable, given, fun key differs => ?_⟩
                          rw [same key differs]
                          cases below.child? setting.group.name <;> rfl
                      | cons entry entries => exact within.elim
                  | _ => exact within.elim
              | cons step rest =>
                  cases step with
                  | position index => exact within.elim
                  | name key =>
                      refine ⟨_, rfl, isTable_setInside_name .., ?_, fun other differs => ?_⟩
                      · rw [child?_setInside, if_neg (Ne.symm within)]
                        exact given
                      · rw [Option.bind_some, child?_setInside, child?_setInside]
                        by_cases here : other = Text.lowercase key
                        · rw [if_pos here, if_pos here, Option.bind_some, same other differs]
                        · rw [if_neg here, if_neg here, Option.bind_some, same other differs]
            · rw [if_neg inGroup, if_neg inGroup]
              exact ⟨inner, rfl, isTable, given, same⟩

theorem AlikeBut.foldl_withPart
    {value : Tree}
    {ps : List Part}
    (alike : AlikeBut setting value below tree)
    (spares : ∀ part ∈ ps, Spares setting part) :
    AlikeBut setting value (ps.foldl Tree.withPart below) (ps.foldl Tree.withPart tree) := by
  induction ps generalizing below tree with
  | nil => exact alike
  | cons part ps inductionHypothesis =>
      exact inductionHypothesis (alike.withPart (spares part (.head _)))
        fun part member => spares part (.tail _ member)

theorem AlikeBut.given?_eq {value : Tree} (alike : AlikeBut setting value below tree) :
    given? tree setting = some value := by
  obtain ⟨inner, found, -, given, -⟩ := alike.within
  rw [given?, found]
  exact given

/-- A tree can be read with a value for a setting if the one without it can. -/
theorem AlikeBut.exists_reader_eq_ok
    {value : Tree}
    {result : Scalar}
    (alike : AlikeBut setting value below tree)
    (belowIsTable : IsTable below)
    (isTable : IsTable tree)
    (read : reader below = .ok configuration)
    (readable : setting.read (some value) = .ok result) :
    ∃ changed, reader tree = .ok changed ∧ changed.value setting = result := by
  have reads : ∀ group : Group, group.Reads (below.child? group.name) configuration := by
    cases below with
    | table origin? entries => exact reader_table_eq_ok_iff.mp read
    | _ => exact belowIsTable.elim
  obtain ⟨inner, found, innerIsTable, given, same⟩ := alike.within
  have each : ∀ group : Group, ∃ changed, group.Reads (tree.child? group.name) changed := by
    intro group
    by_cases inGroup : group = setting.group
    · subst inGroup
      rw [found]
      cases inner with
      | table origin? entries =>
          refine Group.exists_reads_table fun other inside => ?_
          by_cases here : other.key = setting.key
          · rw [Setting.eq_of_group_of_key (congrArg Group.name inside) here]
            exact ⟨result, (congrArg setting.read given).trans readable⟩
          · rw [show entries.lookup other.key = _ from same other.key here]
            exact (reads setting.group).exists_read other inside
      | _ => exact innerIsTable.elim
    · rw [alike.groups _ fun same => inGroup (Group.name_injective same)]
      exact ⟨configuration, reads group⟩
  obtain ⟨changed, loaded, -⟩ := Configuration.exists_reader_eq_ok isTable each
  have valued := read_of_given isTable loaded alike.given?_eq
  exact ⟨changed, loaded, Except.ok.inj (valued.symm.trans readable)⟩

end Configuration
end AgentCohort
