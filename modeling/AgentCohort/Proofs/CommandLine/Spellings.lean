import AgentCohort.CommandLine
import AgentCohort.Proofs.Numeral
import Mathlib.Data.List.Induction
import Mathlib.Data.List.TakeWhile

/-!
# Command lines that say what is wanted

A command line may give its parameters in any order, each by one of its words with the value
behind it, and the names in several groups.  It is read one mention after the other, and what is
read is exactly what the mentions give.
-/

namespace AgentCohort
namespace CommandLine

/-! ## What mentions give -/

/-- The words for a parameter: its long spelling, and its letter if it has one. -/
def Parameter.words (parameter : Parameter) : List String :=
  ("--" ++ parameter.long) ::
    parameter.short?.toList.map fun letter => "-" ++ String.ofList [letter]

/-- A parameter as a command line gives it. -/
structure Mention where
  /-- The parameter. -/
  parameter : Parameter
  /-- The word that it is given by. -/
  word : String
  /-- The values behind the word. -/
  values : List String
  /-- The word is one for the parameter. -/
  isSpelled : word ∈ parameter.words

/-- The arguments that make up a mention. -/
def Mention.arguments (mention : Mention) : List String :=
  mention.word :: mention.values

/-- The values that are given with a parameter, one group for each mention of it. -/
def valuesOf (parameter : Parameter) (mentions : List Mention) : List (List String) :=
  (mentions.filter (·.parameter = parameter)).map Mention.values

/-- A text that cannot be taken for a word: no hyphen begins it. -/
def IsPlain (text : String) : Prop :=
  text.toList.head? ≠ some '-'

instance (text : String) : Decidable (IsPlain text) :=
  inferInstanceAs (Decidable (text.toList.head? ≠ some '-'))

/-- A text that writes a port. -/
def WritesPort (text : String) (port : UInt16) : Prop :=
  Numeral.Writes 65535 text.toList port.toNat

/-- Groups of values that give one value, or none. -/
inductive GivesOnce (reads : String → α → Prop) : List (List String) → Option α → Prop
  /-- Nothing is given. -/
  | absent : GivesOnce reads [] none
  /-- One mention gives the value. -/
  | once {text : String} {value : α} (read : reads text value) :
      GivesOnce reads [[text]] (some value)

/-- Groups of values that give what is wanted for a parameter. -/
def Parameter.Gives (groups : List (List String)) (wanted : Given) : Parameter → Prop
  | .names => groups.flatten = wanted.names ∧ [] ∉ groups
  | .address => GivesOnce Eq groups wanted.address?
  | .port => GivesOnce WritesPort groups wanted.port?
  | .orchestrator => GivesOnce Eq groups wanted.orchestrator?
  | .uiPort => GivesOnce WritesPort groups wanted.uiPort?
  | .restart => groups = if wanted.restart then [[]] else []
  | .configDirectory => GivesOnce Eq groups wanted.configDirectory?
  | .help | .version => groups = []

/-- Mentions that give everything that is wanted and nothing else. -/
def Given.IsGivenBy (wanted : Given) (mentions : List Mention) : Prop :=
  ∀ parameter : Parameter, parameter.Gives (valuesOf parameter mentions) wanted

/-! ## Reading words and values -/

namespace Parameter

variable {parameter : Parameter} {letter : Char}

theorem long_ne_nil (parameter : Parameter) : parameter.long.toList ≠ [] := by
  cases parameter <;> decide

theorem equals_not_mem_long (parameter : Parameter) : '=' ∉ parameter.long.toList := by
  cases parameter <;> decide

theorem ofLong?_long (parameter : Parameter) : ofLong? parameter.long = some parameter := by
  cases parameter <;> decide

theorem ofShort?_of_short? (spelled : parameter.short? = some letter) :
    ofShort? letter = some parameter := by
  cases parameter <;> cases spelled <;> decide

theorem hyphen_ne_of_short? (spelled : parameter.short? = some letter) : letter ≠ '-' := by
  cases parameter <;> cases spelled <;> decide

end Parameter

namespace State

variable {parameter : Parameter} {word text : String}

theorem longSpelling_long (state : State) (parameter : Parameter) :
    state.longSpelling parameter.long.toList = state.parameter parameter none := by
  have whole : ∀ c ∈ parameter.long.toList, decide (c ≠ '=') = true := by
    intro c present
    refine decide_eq_true ?_
    rintro rfl
    exact parameter.equals_not_mem_long present
  unfold longSpelling
  rw [List.takeWhile_eq_self_iff.mpr whole, List.dropWhile_eq_nil_iff.mpr whole,
    String.ofList_toList]
  dsimp only
  rw [Parameter.ofLong?_long]
  cases parameter <;> rfl

theorem shortSpellings_short
    (state : State)
    {letter : Char}
    (spelled : parameter.short? = some letter) :
    state.shortSpellings [letter] = state.parameter parameter none := by
  unfold shortSpellings
  rw [Parameter.ofShort?_of_short? spelled]
  dsimp only
  split
  · rfl
  · cases state.parameter parameter none <;> rfl

/-- A word begins a mention of its parameter. -/
theorem argument_of_mem_words (spelled : word ∈ parameter.words) (state : State) :
    word ≠ "--" ∧ state.argument word = state.parameter parameter none := by
  rcases List.mem_cons.mp spelled with rfl | short
  · have letters : ("--" ++ parameter.long).toList = '-' :: '-' :: parameter.long.toList :=
      String.toList_append
    constructor
    · intro same
      have bare := congrArg String.toList same
      rw [letters] at bare
      exact parameter.long_ne_nil (List.cons.inj (List.cons.inj bare).2).2
    · unfold argument
      rw [letters]
      exact longSpelling_long state parameter
  · obtain ⟨letter, present, rfl⟩ := List.mem_map.mp short
    have spelled : parameter.short? = some letter := Option.mem_toList.mp present
    have other := Parameter.hyphen_ne_of_short? spelled
    have letters : ("-" ++ String.ofList [letter]).toList = ['-', letter] := by
      rw [String.toList_append, String.toList_ofList, String.toList_ofList,
        List.singleton_append]
    constructor
    · intro same
      have bare := congrArg String.toList same
      rw [letters] at bare
      exact other (List.cons.inj (List.cons.inj bare).2).1
    · unfold argument
      rw [letters]
      split
      · rename_i same
        exact absurd (List.cons.inj (List.cons.inj same).2).1 other
      · rename_i same
        obtain ⟨rfl, rfl⟩ := List.cons.inj (List.cons.inj same).2
        exact shortSpellings_short state spelled
      · rename_i longer
        exact absurd rfl (longer letter [])

/-- A plain text is a value. -/
theorem argument_of_isPlain (plain : IsPlain text) (state : State) :
    text ≠ "--" ∧ state.argument text = state.value text := by
  constructor
  · rintro rfl
    exact plain rfl
  · unfold IsPlain at plain
    unfold argument
    split
    · rename_i hyphens
      rw [hyphens] at plain
      exact absurd rfl plain
    · rename_i hyphen
      rw [hyphen] at plain
      exact absurd rfl plain
    · rfl

theorem arguments_cons (other : text ≠ "--") (state : State) (rest : List String) :
    state.arguments (text :: rest) =
      state.argument text >>= fun next => next.arguments rest := by
  rw [arguments]
  · cases state.argument text <;> rfl
  · exact fun same _ => other same
  · exact fun _ _ same _ => other same

/-- Any number of values is read behind a parameter that takes several. -/
theorem arguments_append_of_takesSeveral
    {given : Given}
    (several : parameter.takesSeveral = true)
    {values : List String}
    (plain : ∀ value ∈ values, IsPlain value)
    (earlier rest : List String) :
    (State.mk given (some (parameter, earlier)) true).arguments (values ++ rest) =
      (State.mk given (some (parameter, earlier ++ values)) true).arguments rest := by
  induction values generalizing earlier with
  | nil => rw [List.nil_append, List.append_nil]
  | cons value values inductionHypothesis =>
      obtain ⟨first, others⟩ := List.forall_mem_cons.mp plain
      obtain ⟨other, taken⟩ := argument_of_isPlain first ⟨given, some (parameter, earlier), true⟩
      rw [List.cons_append, arguments_cons other, taken]
      change (State.mk given (some (parameter, earlier ++ [value]))
        parameter.takesSeveral).arguments (values ++ rest) = _
      rw [several, inductionHypothesis others, List.append_assoc]
      rfl

end State

/-! ## Reading mentions -/

/-- Values that a parameter may have in one mention: any but none for the names, otherwise one,
or none if it takes no value. -/
def Parameter.Fits (parameter : Parameter) (values : List String) : Prop :=
  if parameter.takesSeveral then values ≠ [] else values.length = parameter.takesValue.toNat

/-- What has been given after one more mention. -/
def Given.take (given : Given) (parameter : Parameter) (values : List String) :
    Except Stop Given :=
  if parameter.takesValue then given.set parameter values else given.setFlag parameter

namespace State

variable {parameter : Parameter} {values : List String} {state : State} {before after : Given}

/-- The values of a mention are read, and the parameter waits to be settled. -/
theorem arguments_append_of_fits
    (takes : parameter.takesValue = true)
    (fits : parameter.Fits values)
    (plain : ∀ value ∈ values, IsPlain value)
    (rest : List String) :
    (State.mk before (some (parameter, [])) true).arguments (values ++ rest) =
      (State.mk before (some (parameter, values)) parameter.takesSeveral).arguments rest := by
  unfold Parameter.Fits at fits
  cases several : parameter.takesSeveral with
  | true => exact arguments_append_of_takesSeveral several plain [] rest
  | false =>
      rw [several, takes, if_neg Bool.false_ne_true] at fits
      obtain ⟨value, rfl⟩ := List.length_eq_one_iff.mp fits
      obtain ⟨other, taken⟩ := argument_of_isPlain (plain value List.mem_cons_self)
        ⟨before, some (parameter, []), true⟩
      rw [List.singleton_append, arguments_cons other, taken]
      change (State.mk before (some (parameter, [value]))
        parameter.takesSeveral).arguments rest = _
      rw [several]

theorem eq_nil_of_fits (takes : parameter.takesValue = false) (fits : parameter.Fits values) :
    values = [] := by
  have single : parameter.takesSeveral = false := by
    cases parameter <;> first | rfl | cases takes
  unfold Parameter.Fits at fits
  rw [single, takes, if_neg Bool.false_ne_true] at fits
  exact List.eq_nil_of_length_eq_zero fits

/-- A mention is read as a whole, and takes what was given before it to what is given after it. -/
theorem exists_settle_eq
    {mention : Mention}
    (settled : state.settle = .ok before)
    (fits : mention.parameter.Fits mention.values)
    (plain : ∀ value ∈ mention.values, IsPlain value)
    (taken : before.take mention.parameter mention.values = .ok after) :
    ∃ next : State, next.settle = .ok after ∧
      ∀ rest, state.arguments (mention.arguments ++ rest) = next.arguments rest := by
  obtain ⟨parameter, word, values, spelled⟩ := mention
  obtain ⟨other, begun⟩ := argument_of_mem_words spelled state
  have read (rest : List String) : state.arguments (word :: values ++ rest) =
      state.parameter parameter none >>= fun next => next.arguments (values ++ rest) := by
    rw [List.cons_append, arguments_cons other, begun]
  -- What was pending is settled by the word, and what the mention gives is pending after it.
  unfold State.parameter at read
  rw [settled] at read
  unfold Given.take at taken
  cases takes : parameter.takesValue with
  | false =>
      obtain rfl := eq_nil_of_fits takes fits
      rw [takes, if_neg Bool.false_ne_true] at taken
      refine ⟨⟨after, none, false⟩, rfl, fun rest => ?_⟩
      rw [takes] at read
      refine (read rest).trans ?_
      change (before.setFlag parameter >>= _) >>= _ = _
      rw [taken]
      rfl
  | true =>
      rw [takes, if_pos rfl] at taken
      refine ⟨⟨before, some (parameter, values), parameter.takesSeveral⟩, taken, fun rest => ?_⟩
      rw [takes] at read
      exact (read rest).trans (arguments_append_of_fits takes fits plain rest)

end State

/-! ## Giving everything that is wanted -/

namespace GivesOnce

variable {reads : String → α → Prop} {groups : List (List String)} {wanted? : Option α}

theorem of_concat {values : List String} (gives : GivesOnce reads (groups ++ [values]) wanted?) :
    groups = [] ∧ ∃ text value, values = [text] ∧ reads text value ∧ wanted? = some value := by
  generalize same : groups ++ [values] = all at gives
  cases gives with
  | absent => simp at same
  | @once text value read =>
      obtain ⟨rfl, same⟩ | ⟨_, none⟩ := List.append_eq_singleton_iff.mp same
      · exact ⟨rfl, text, value, (List.cons.inj same).1, read, rfl⟩
      · cases none

theorem eq_none_of_nil (gives : GivesOnce reads [] wanted?) : wanted? = none := by
  cases gives
  rfl

theorem exists_of_mem
    {values : List String}
    {text : String}
    (gives : GivesOnce reads groups wanted?)
    (group : values ∈ groups)
    (present : text ∈ values) :
    ∃ value, reads text value ∧ wanted? = some value := by
  cases gives with
  | absent => cases group
  | once read =>
      rw [List.mem_singleton.mp group, List.mem_singleton] at present
      exact ⟨_, present ▸ read, rfl⟩

end GivesOnce

theorem Given.readPort_of_writesPort
    {text : String}
    {port : UInt16}
    (writes : WritesPort text port)
    (parameter : Parameter) :
    readPort parameter text = .ok port := by
  have fits : (0 : Int) ≤ port.toNat ∧ (port.toNat : Int) ≤ 65535 := by
    have bound := port.toNat_lt
    omega
  unfold readPort
  rw [Numeral.readInt64_of_writes (writes.mono (by decide))]
  dsimp only
  rw [if_pos fits, Int.toNat_natCast, UInt16.ofNat_toNat]

/-- What is given, but for a parameter what something else gives. -/
def Given.withPart (given source : Given) : Parameter → Given
  | .names => { given with names := source.names }
  | .address => { given with address? := source.address? }
  | .port => { given with port? := source.port? }
  | .orchestrator => { given with orchestrator? := source.orchestrator? }
  | .uiPort => { given with uiPort? := source.uiPort? }
  | .restart => { given with restart := source.restart }
  | .configDirectory => { given with configDirectory? := source.configDirectory? }
  | .help | .version => given

namespace Parameter

variable {parameter : Parameter} {groups : List (List String)} {wanted : Given}

theorem gives_withPart_of_ne
    {other : Parameter}
    (apart : other ≠ parameter)
    (source : Given)
    (gives : other.Gives groups wanted) :
    other.Gives groups (wanted.withPart source parameter) := by
  cases parameter <;> cases other <;> first | exact gives | exact absurd rfl apart

/-- The last mention of a parameter adds to what the earlier ones give. -/
theorem Gives.exists_take_eq
    {values : List String}
    (gives : parameter.Gives (groups ++ [values]) wanted) :
    ∃ source, parameter.Gives groups (wanted.withPart source parameter) ∧
      parameter.Fits values ∧
      (wanted.withPart source parameter).take parameter values = .ok wanted := by
  obtain ⟨names, address?, port?, orchestrator?, uiPort?, restart, configDirectory?⟩ := wanted
  cases parameter with
  | names =>
      obtain ⟨joined, whole⟩ := gives
      rw [List.mem_append, not_or, List.mem_singleton] at whole
      refine ⟨{ Given.nothing with names := groups.flatten }, ⟨rfl, whole.1⟩,
        fun none => whole.2 none.symm, ?_⟩
      cases values with
      | nil => exact absurd rfl whole.2
      | cons value values =>
          obtain rfl : groups.flatten ++ (value :: values) = names := by
            simpa using joined
          rfl
  | address | orchestrator | configDirectory =>
      obtain ⟨rfl, text, _, rfl, rfl, rfl⟩ := GivesOnce.of_concat gives
      exact ⟨.nothing, .absent, rfl, rfl⟩
  | port =>
      obtain ⟨rfl, text, port, rfl, writes, rfl⟩ := GivesOnce.of_concat gives
      refine ⟨.nothing, .absent, rfl, ?_⟩
      change (Given.readPort .port text >>= fun port => _) = _
      rw [Given.readPort_of_writesPort writes]
      rfl
  | uiPort =>
      obtain ⟨rfl, text, port, rfl, writes, rfl⟩ := GivesOnce.of_concat gives
      refine ⟨.nothing, .absent, rfl, ?_⟩
      change (Given.readPort .uiPort text >>= fun port => _) = _
      rw [Given.readPort_of_writesPort writes]
      rfl
  | restart =>
      cases restart with
      | false => exact absurd gives (List.append_ne_nil_of_right_ne_nil _ (List.cons_ne_nil _ _))
      | true =>
          obtain ⟨rfl, same⟩ | ⟨_, none⟩ := List.append_eq_singleton_iff.mp gives
          · obtain rfl := (List.cons.inj same).1
            exact ⟨.nothing, rfl, rfl, rfl⟩
          · cases none
  | help | version =>
      exact absurd gives (List.append_ne_nil_of_right_ne_nil _ (List.cons_ne_nil _ _))

end Parameter

theorem valuesOf_concat (parameter : Parameter) (mentions : List Mention) (mention : Mention) :
    valuesOf parameter (mentions ++ [mention]) =
      valuesOf parameter mentions ++
        if mention.parameter = parameter then [mention.values] else [] := by
  unfold valuesOf
  rw [List.filter_append, List.map_append]
  by_cases same : mention.parameter = parameter <;> simp [same]

theorem Given.IsGivenBy.eq_nothing {wanted : Given} (gives : wanted.IsGivenBy []) :
    wanted = .nothing := by
  obtain ⟨names, address?, port?, orchestrator?, uiPort?, restart, configDirectory?⟩ := wanted
  obtain ⟨rfl, _⟩ := gives .names
  obtain rfl := GivesOnce.eq_none_of_nil (gives .address)
  obtain rfl := GivesOnce.eq_none_of_nil (gives .port)
  obtain rfl := GivesOnce.eq_none_of_nil (gives .orchestrator)
  obtain rfl := GivesOnce.eq_none_of_nil (gives .uiPort)
  obtain rfl := GivesOnce.eq_none_of_nil (gives .configDirectory)
  cases restart with
  | false => rfl
  | true => cases gives .restart

/-- Mentions are read one after the other, and at the end everything that is wanted is given. -/
theorem State.exists_settle_eq_of_isGivenBy
    {wanted : Given}
    {mentions : List Mention}
    (gives : wanted.IsGivenBy mentions)
    (plain : ∀ mention ∈ mentions, ∀ value ∈ mention.values, IsPlain value) :
    ∃ state : State, state.settle = .ok wanted ∧ ∀ rest,
      State.start.arguments (mentions.flatMap Mention.arguments ++ rest) =
        state.arguments rest := by
  induction mentions using List.reverseRecOn generalizing wanted with
  | nil => exact ⟨.start, congrArg Except.ok gives.eq_nothing.symm, fun _ => rfl⟩
  | append_singleton mentions mention inductionHypothesis =>
      have last := gives mention.parameter
      rw [valuesOf_concat, if_pos rfl] at last
      obtain ⟨source, earlier, fits, taken⟩ := last.exists_take_eq
      have before : (wanted.withPart source mention.parameter).IsGivenBy mentions := by
        intro parameter
        by_cases same : parameter = mention.parameter
        · exact same ▸ earlier
        · have others := gives parameter
          rw [valuesOf_concat, if_neg (Ne.symm same), List.append_nil] at others
          exact Parameter.gives_withPart_of_ne same source others
      obtain ⟨state, settled, read⟩ := inductionHypothesis before fun other present =>
        plain other (List.mem_append_left _ present)
      obtain ⟨next, settledNext, readOn⟩ := State.exists_settle_eq settled fits
        (plain mention (List.mem_append_right _ List.mem_cons_self)) taken
      refine ⟨next, settledNext, fun rest => ?_⟩
      rw [List.flatMap_append, List.append_assoc, read, List.flatMap_singleton, readOn]

/-! ## Setups -/

/-- What somebody wants to set up by a command line. -/
structure Setup where
  /-- Names of the agents. -/
  names : List String
  /-- Address that the agents listen on. -/
  address? : Option String
  /-- Message port of the first agent. -/
  port : UInt16
  /-- Address of the orchestrator. -/
  orchestrator : String
  /-- User-interface port of the first agent. -/
  uiPort? : Option UInt16
  /-- Whether the agents are started again. -/
  restart : Bool
  /-- Directory with settings files. -/
  configDirectory? : Option String
  /-- There are agents. -/
  names_ne_nil : names ≠ []
  /-- No text can be taken for a word. -/
  isPlain : ∀ text ∈ names ++ orchestrator :: (address?.toList ++ configDirectory?.toList),
    IsPlain text

namespace Setup

/-- What has to be given. -/
def given (setup : Setup) : Given :=
  ⟨setup.names, setup.address?, some setup.port, some setup.orchestrator, setup.uiPort?,
    setup.restart, setup.configDirectory?⟩

/-- What is to be read; there is a usual directory. -/
def arguments (setup : Setup) : Arguments :=
  ⟨setup.names, setup.address?, setup.port, setup.orchestrator, setup.uiPort?, setup.restart,
    setup.configDirectory?.getD "config"⟩

variable {setup : Setup} {mentions : List Mention}

/-- No value can be taken for a word. -/
theorem isPlain_of_isGivenBy
    (gives : setup.given.IsGivenBy mentions)
    {mention : Mention}
    (present : mention ∈ mentions)
    {value : String}
    (inside : value ∈ mention.values) :
    IsPlain value := by
  have group : mention.values ∈ valuesOf mention.parameter mentions :=
    List.mem_map_of_mem (List.mem_filter.mpr ⟨present, decide_eq_true rfl⟩)
  have given := gives mention.parameter
  have plain := setup.isPlain value
  simp only [List.mem_append, List.mem_cons, Option.mem_toList] at plain
  obtain ⟨parameter, word, values, spelled⟩ := mention
  cases parameter with
  | names =>
      refine plain (.inl ?_)
      change value ∈ setup.given.names
      rw [← given.1]
      exact List.mem_flatten_of_mem group inside
  | address =>
      obtain ⟨_, rfl, wanted⟩ := GivesOnce.exists_of_mem given group inside
      exact plain (.inr (.inr (.inl wanted)))
  | orchestrator =>
      obtain ⟨_, rfl, wanted⟩ := GivesOnce.exists_of_mem given group inside
      exact plain (.inr (.inl (Option.some.inj wanted).symm))
  | configDirectory =>
      obtain ⟨_, rfl, wanted⟩ := GivesOnce.exists_of_mem given group inside
      exact plain (.inr (.inr (.inr wanted)))
  | port | uiPort =>
      obtain ⟨port, writes, _⟩ := GivesOnce.exists_of_mem given group inside
      exact Numeral.Writes.head?_ne writes
  | restart =>
      -- The only group is the empty one, which holds no value.
      have only : values ∈ if setup.restart then [[]] else [] := given ▸ group
      split at only
      · rw [List.mem_singleton.mp only] at inside
        cases inside
      · cases only
  | help | version =>
      have nothing : values ∈ [] := given ▸ group
      cases nothing

theorem complete_given (setup : Setup) : setup.given.complete = .ok setup.arguments := by
  obtain ⟨first, others, names⟩ := List.exists_cons_of_ne_nil setup.names_ne_nil
  unfold Given.complete
  simp only [given, arguments, names]

/-- Every command line that gives a setup is read as it, whatever the order of its mentions,
their words and the groups of the names. -/
theorem parse_of_isGivenBy (gives : setup.given.IsGivenBy mentions) :
    parse (mentions.flatMap Mention.arguments) = .ok setup.arguments ∧
      setup.arguments.endpointBase = ⟨setup.address?, setup.port, setup.uiPort?⟩ ∧
      setup.arguments.orchestratorAddress =
        Network.OrchestratorAddress.ofText setup.orchestrator := by
  obtain ⟨state, settled, read⟩ := State.exists_settle_eq_of_isGivenBy gives
    fun mention present value => isPlain_of_isGivenBy gives present
  have taken : State.start.arguments (mentions.flatMap Mention.arguments) = .ok setup.given := by
    rw [← List.append_nil (mentions.flatMap _), read, State.arguments, settled]
  refine ⟨?_, rfl, rfl⟩
  unfold parse
  rw [taken]
  exact setup.complete_given

/-- Three agents that are started again, at ports for messages and for user interfaces. -/
def threeAgents : Setup where
  names := ["a1", "a2", "a3"]
  address? := some "10.0.0.7"
  port := 9001
  orchestrator := "10.0.0.5:9000"
  uiPort? := some 10001
  restart := true
  configDirectory? := none
  names_ne_nil := by decide
  isPlain := by decide

/-- The names in two groups, with other parameters before, between and behind them. -/
def scattered : List Mention :=
  [⟨.restart, "--restart", [], by decide⟩, ⟨.names, "-n", ["a1", "a2"], by decide⟩,
    ⟨.uiPort, "-i", ["+010001"], by decide⟩, ⟨.orchestrator, "-o", ["10.0.0.5:9000"], by decide⟩,
    ⟨.names, "--names", ["a3"], by decide⟩, ⟨.address, "--address", ["10.0.0.7"], by decide⟩,
    ⟨.port, "--port", ["9001"], by decide⟩]

theorem parse_scattered :
    threeAgents.given.IsGivenBy scattered ∧
      scattered.flatMap Mention.arguments = ["--restart", "-n", "a1", "a2", "-i", "+010001", "-o",
        "10.0.0.5:9000", "--names", "a3", "--address", "10.0.0.7", "--port", "9001"] ∧
      threeAgents.arguments = ⟨["a1", "a2", "a3"], some "10.0.0.7", 9001, "10.0.0.5:9000",
        some 10001, true, "config"⟩ ∧
      parse (scattered.flatMap Mention.arguments) = .ok threeAgents.arguments ∧
      threeAgents.arguments.endpointBase = ⟨some "10.0.0.7", 9001, some 10001⟩ ∧
      threeAgents.arguments.orchestratorAddress =
        Network.OrchestratorAddress.ofText "10.0.0.5:9000" := by
  have gives : threeAgents.given.IsGivenBy scattered := by
    intro parameter
    cases parameter with
    | names => exact ⟨rfl, by decide⟩
    | address | orchestrator => exact .once rfl
    | port => exact .once ⟨_, .inl rfl, by decide, List.all_eq_true.mp rfl, rfl, by decide⟩
    | uiPort => exact .once ⟨_, .inr rfl, by decide, List.all_eq_true.mp rfl, rfl, by decide⟩
    | configDirectory => exact .absent
    | restart | help | version => rfl
  exact ⟨gives, rfl, rfl, parse_of_isGivenBy gives⟩

end Setup

end CommandLine
end AgentCohort
