import AgentCohort.Proofs.Supervision.Launching

/-!
# What a launch attempts

A launch goes through the names of its plan and makes one attempt for each, until one
fails.  What an attempt comes to follows from the plan and from the behaviour of the agent
alone, so all attempts of a plan can be written down before the launch: the launch makes
them in order, up to the first one that fails.

The history tells which agents were to be made, to be started and to be stopped.  While a
launch goes on, force-stops may ask agents to stop, but only those of the cohort that was
the current one before.
-/

namespace AgentCohort
namespace Supervision

open Agent (Blueprint)
open Network (Binding Endpoint)

/-! ## Calls -/

namespace Occurrence

/-- What an agent is to be made from. -/
def created? : Occurrence → Option Blueprint
  | .create blueprint => some blueprint
  | _ => none

/-- The agent that is to be started. -/
def started? : Occurrence → Option AgentId
  | .start agent => some agent
  | _ => none

/-- The agent that is asked to stop. -/
def stopped? : Occurrence → Option AgentId
  | .stop agent => some agent
  | _ => none

/-- Whether the listeners are told that a cohort has started, or that a run is over. -/
def isReport : Occurrence → Bool
  | .event (.cohortStarted ..) | .event (.finished _) => true
  | _ => false

end Occurrence

/-- What a history tells of one kind of occurrences, the oldest one first. -/
def calls (view : Occurrence → Option α) (history : List Occurrence) : List α :=
  history.reverse.filterMap view

@[simp] theorem calls_nil (view : Occurrence → Option α) : calls view [] = [] := rfl

@[simp] theorem calls_append
    (view : Occurrence → Option α)
    (late early : List Occurrence) :
    calls view (late ++ early) = calls view early ++ calls view late := by
  simp [calls]

@[simp] theorem calls_cons
    (view : Occurrence → Option α)
    (last : Occurrence)
    (early : List Occurrence) :
    calls view (last :: early) = calls view early ++ (view last).toList := by
  cases seen : view last <;> simp [calls, seen]

/-! ## What attempts come to -/

/-- What the attempt to launch an agent comes to. -/
inductive Attempt where
  /-- The agent has no address to listen on. -/
  | unbound (failure : Failure)
  /-- It cannot be made. -/
  | refused (blueprint : Blueprint) (failure : Failure)
  /-- It is made, but cannot be started. -/
  | unstarted (blueprint : Blueprint) (failure : Failure)
  /-- It is made and started. -/
  | launched (blueprint : Blueprint)
  deriving DecidableEq

namespace Attempt

/-- Why the attempt fails. -/
def failure? : Attempt → Option Failure
  | .unbound failure | .refused _ failure | .unstarted _ failure => some failure
  | .launched _ => none

/-- What the agent is to be made from, if it comes to that. -/
def tried : Attempt → List Blueprint
  | .unbound _ => []
  | .refused blueprint _ | .unstarted blueprint _ | .launched blueprint => [blueprint]

/-- What the agent is made from, if it is made. -/
def made : Attempt → List Blueprint
  | .unbound _ | .refused .. => []
  | .unstarted blueprint _ | .launched blueprint => [blueprint]

/-- What the attempt to launch an agent with an address comes to. -/
def ofBehaviour (blueprint : Blueprint) (behaviour : Behaviour) : Attempt :=
  match behaviour.createFailure?, behaviour.startFailure? with
  | some failure, _ => .refused blueprint failure
  | none, some failure => .unstarted blueprint failure
  | none, none => .launched blueprint

end Attempt

namespace Plan

/-- What the attempt to launch the agent of a name comes to, after some earlier attempts to
make an agent of that name. -/
def attempt
    (scenario : Scenario)
    (plan : Plan)
    (earlier : Nat)
    (name : String)
    (endpoint : Endpoint) : Attempt :=
  match Binding.resolve scenario.platform.resolver scenario.platform.primary
      plan.base.listenAddress? endpoint.messagePort with
  | .error failure => .unbound failure
  | .ok binding =>
    let blueprint : Blueprint := ⟨name, binding, plan.orchestrator, endpoint.uiPort?⟩
    .ofBehaviour blueprint (scenario.behaviour blueprint earlier)

/-- An agent is to be made for its own name. -/
theorem names_tried_attempt
    (scenario : Scenario)
    (plan : Plan)
    (earlier : Nat)
    (name : String)
    (endpoint : Endpoint)
    (others : List String) :
    let tried := (plan.attempt scenario earlier name endpoint).tried
    tried.map Blueprint.name = (name :: others).take tried.length := by
  unfold attempt
  split
  · rfl
  · dsimp only [Attempt.ofBehaviour]
    split <;> rfl

/-- What all attempts come to, given the numbers of earlier attempts by name, as long as
each of them gets so far that its agent is to be made. -/
def attempts (scenario : Scenario) (plan : Plan) :
    (String → Nat) → List (String × Endpoint) → List Attempt
  | _, [] => []
  | earlier, (name, endpoint) :: rest =>
    plan.attempt scenario (earlier name) name endpoint ::
      plan.attempts scenario
        (fun other => earlier other + if name = other then 1 else 0) rest

/-- Up to the first attempt that fails, agents are to be made for the names in order. -/
theorem names_tried_attempts
    {scenario : Scenario}
    {plan : Plan}
    {earlier : String → Nat}
    {left : List (String × Endpoint)}
    {made : List Blueprint}
    {attempt : Attempt}
    {rest : List Attempt}
    (split : plan.attempts scenario earlier left = made.map .launched ++ attempt :: rest) :
    (made ++ attempt.tried).map Blueprint.name =
      (left.map Prod.fst).take (made ++ attempt.tried).length := by
  induction made generalizing earlier left with
  | nil =>
      cases left with
      | nil => simp [attempts] at split
      | cons first others =>
          obtain ⟨name, endpoint⟩ := first
          obtain ⟨rfl, _⟩ := List.cons.inj split
          rw [List.nil_append, List.map_cons]
          exact names_tried_attempt scenario plan (earlier name) name endpoint _
  | cons blueprint made inductionHypothesis =>
      cases left with
      | nil => simp [attempts] at split
      | cons first others =>
          obtain ⟨name, endpoint⟩ := first
          obtain ⟨launched, splitRest⟩ := List.cons.inj split
          have named := names_tried_attempt scenario plan (earlier name) name endpoint []
          rw [launched] at named
          obtain ⟨sameName, _⟩ := List.cons.inj named
          rw [List.cons_append, List.map_cons, List.map_cons, List.length_cons,
            List.take_succ_cons, inductionHypothesis splitRest, sameName]

end Plan

namespace State

/-- Agents are to be made from some blueprints on the way from one state to another, those of
them that are made are asked to start, and some agents are asked to stop, all in order. -/
structure Deals
    (tried made : List Blueprint)
    (stopped : List AgentId)
    (older newer : State) : Prop where
  /-- The history tells of it, and of nothing that is reported to the listeners. -/
  history : ∃ added, newer.history = added ++ older.history ∧
    calls Occurrence.created? added = tried ∧
    calls Occurrence.started? added = List.range' older.members.length made.length ∧
    calls Occurrence.stopped? added = stopped ∧
    ∀ occurrence ∈ added, occurrence.isReport = false
  /-- The new agents have the names of their blueprints. -/
  names : newer.members.map Member.name =
    older.members.map Member.name ++ made.map Blueprint.name
  /-- The current cohort stays. -/
  cohort : newer.cohort = older.cohort
  /-- No generation is counted. -/
  generation : newer.generation = older.generation

namespace Deals

variable {older middle newer : State} {tried made triedLater madeLater : List Blueprint}
  {stopped stoppedLater : List AgentId}

theorem refl (state : State) : Deals [] [] [] state state where
  history := ⟨[], by simp⟩
  names := by simp
  cohort := rfl
  generation := rfl

theorem length_members (deals : Deals tried made stopped older newer) :
    newer.members.length = older.members.length + made.length := by
  simpa using congrArg List.length deals.names

theorem trans
    (first : Deals tried made stopped older middle)
    (second : Deals triedLater madeLater stoppedLater middle newer) :
    Deals (tried ++ triedLater) (made ++ madeLater) (stopped ++ stoppedLater) older newer where
  history := by
    obtain ⟨early, grownEarly, triedEarly, startedEarly, stoppedEarly, silentEarly⟩ :=
      first.history
    obtain ⟨late, grownLate, triedLate, startedLate, stoppedLate, silentLate⟩ := second.history
    refine ⟨late ++ early, ?_, ?_, ?_, ?_, ?_⟩
    · rw [grownLate, grownEarly, List.append_assoc]
    · rw [calls_append, triedEarly, triedLate]
    · rw [calls_append, startedEarly, startedLate, first.length_members, List.length_append]
      exact List.range'_append_1
    · rw [calls_append, stoppedEarly, stoppedLate]
    · intro occurrence present
      rcases List.mem_append.mp present with inLate | inEarly
      · exact silentLate occurrence inLate
      · exact silentEarly occurrence inEarly
  names := by
    rw [second.names, first.names, List.map_append, List.append_assoc]
  cohort := second.cohort.trans first.cohort
  generation := second.generation.trans first.generation

end Deals

/-- Some agents are asked to stop, and nothing else is done that belongs to a launch or to a
publication. -/
abbrev Asks (agents : List AgentId) (older newer : State) : Prop :=
  Deals [] [] agents older newer

/-- A launch has dealt with some blueprints; force-stops may have asked agents to stop
meanwhile, but only those of the current cohort. -/
def Attempts (tried made : List Blueprint) (older newer : State) : Prop :=
  ∃ stopped, Deals tried made stopped older newer ∧ ∀ agent ∈ stopped, agent ∈ older.cohort

namespace Attempts

variable {older middle newer : State} {tried made triedLater madeLater : List Blueprint}

theorem cohort (attempts : Attempts tried made older newer) : newer.cohort = older.cohort := by
  obtain ⟨_, deals, _⟩ := attempts
  exact deals.cohort

theorem length_members (attempts : Attempts tried made older newer) :
    newer.members.length = older.members.length + made.length := by
  obtain ⟨_, deals, _⟩ := attempts
  exact deals.length_members

theorem trans
    (first : Attempts tried made older middle)
    (second : Attempts triedLater madeLater middle newer) :
    Attempts (tried ++ triedLater) (made ++ madeLater) older newer := by
  obtain ⟨stopped, deals, current⟩ := first
  obtain ⟨stoppedLater, dealsLater, currentLater⟩ := second
  refine ⟨stopped ++ stoppedLater, deals.trans dealsLater, ?_⟩
  intro agent present
  rcases List.mem_append.mp present with early | late
  · exact current agent early
  · rw [← deals.cohort]
    exact currentLater agent late

theorem trans_aside
    (first : Attempts tried made older middle)
    (second : Attempts [] [] middle newer) :
    Attempts tried made older newer := by
  have both := first.trans second
  rw [List.append_nil, List.append_nil] at both
  exact both

end Attempts

/-- A launch that has done nothing yet, while nobody is asked to stop. -/
theorem Deals.attempts
    {tried made : List Blueprint}
    {older newer : State}
    (deals : Deals tried made [] older newer) :
    Attempts tried made older newer :=
  ⟨[], deals, nofun⟩

/-! ## Requests to stop -/

/-- What is written down beside the dealings with the agents. -/
theorem asks_note
    {agents : List AgentId}
    (occurrence : Occurrence)
    (created : occurrence.created? = none)
    (started : occurrence.started? = none)
    (asked : occurrence.stopped?.toList = agents)
    (silent : occurrence.isReport = false)
    (state : State) :
    Asks agents state (state.note occurrence) where
  history := ⟨[occurrence], rfl, by simp [created], by simp [started], by simpa, by simpa⟩
  names := (List.append_nil _).symm
  cohort := rfl
  generation := rfl

theorem asks_log (notice : Notice) (state : State) : Asks [] state (state.log notice) :=
  asks_note (.notice notice) rfl rfl rfl rfl state

theorem names_update
    {change : Member → Member}
    (kept : ∀ member, (change member).name = member.name)
    (agent : AgentId)
    (state : State) :
    (state.update agent change).members.map Member.name = state.members.map Member.name := by
  apply List.ext_getElem?
  intro other
  simp only [List.getElem?_map]
  exact map_member?_update kept state other

theorem asks_update
    {change : Member → Member}
    (kept : ∀ member, (change member).name = member.name)
    (agent : AgentId)
    (state : State) :
    Asks [] state (state.update agent change) where
  history := ⟨[], by simp⟩
  names := (names_update kept agent state).trans (List.append_nil _).symm
  cohort := rfl
  generation := rfl

theorem asks_endAgent (agent : AgentId) (state : State) :
    Asks [] state (state.endAgent agent) := by
  unfold endAgent
  split
  · exact .refl state
  split
  · exact .refl state
  · refine (asks_update ?_ agent state).trans (asks_note (.finish agent) rfl rfl rfl rfl _)
    exact fun member => rfl

theorem asks_endAgentAfter (agent : AgentId) (delay : Nat) (state : State) :
    Asks [] state (state.endAgentAfter agent delay) := by
  unfold endAgentAfter
  split
  · exact asks_endAgent agent state
  · exact asks_update (by intro member; rfl) agent state

/-- A request reaches an agent that has been made. -/
theorem asks_stopAgent (agent : AgentId) (state : State) :
    Asks ([agent].filter (· < state.members.length)) state (state.stopAgent agent) := by
  cases found : state.member? agent with
  | none =>
      have unknown : ¬agent < state.members.length := by
        simpa [member?] using found
      rw [stopAgent_of_no_member found, List.filter_cons_of_neg (by simpa using unknown)]
      exact .refl state
  | some member =>
      have known : agent < state.members.length := (List.getElem?_eq_some_iff.mp found).1
      rw [stopAgent_of_member found, List.filter_cons_of_pos (by simpa using known)]
      have asked : Asks [agent] state (state.asked agent) := by
        refine (asks_update ?_ agent state).trans (asks_note (.stop agent) rfl rfl rfl rfl _)
        exact fun member => rfl
      split
      · exact asked
      · exact asked.trans (asks_endAgentAfter agent _ _)

theorem asks_stopAgents (agents : List AgentId) (state : State) :
    Asks (agents.filter (· < state.members.length)) state (state.stopAgents agents) := by
  induction agents generalizing state with
  | nil => exact .refl state
  | cons agent agents inductionHypothesis =>
      have first := asks_stopAgent agent state
      have rest := inductionHypothesis (state.stopAgent agent)
      rw [first.length_members] at rest
      rw [← List.singleton_append, List.filter_append]
      exact first.trans rest

/-- A force-stop asks the agents of the current cohort. -/
theorem attempts_forceStop (state : State) : Attempts [] [] state state.forceStop := by
  let recorded := { state with forceStopped := true }.log (.forceStop state.cohort)
  have recording : Asks [] state recorded := by
    have marked : Asks [] state { state with forceStopped := true } :=
      ⟨⟨[], by simp [history]⟩, (List.append_nil _).symm, rfl, rfl⟩
    exact marked.trans (asks_log _ _)
  have asking {noted : State} (noting : Asks [] state noted) :
      Attempts [] [] state
        ((noted.stopAgents state.cohort).announce (.forceStopped state.cohort.length)) := by
    have announced := asks_note (.event (.forceStopped state.cohort.length)) rfl rfl rfl rfl
      (noted.stopAgents state.cohort)
    refine ⟨_, (noting.trans (asks_stopAgents state.cohort noted)).trans announced, ?_⟩
    simp +contextual [Occurrence.stopped?]
  unfold forceStop
  dsimp only
  split
  · exact asking (recording.trans (asks_log .forceStopRepeated _))
  · exact asking recording

theorem attempts_callForceStopsAt
    (moment : LaunchMoment)
    (behaviour : Behaviour)
    (state : State) :
    Attempts [] [] state (state.callForceStopsAt moment behaviour) := by
  unfold callForceStopsAt
  induction behaviour.forceStops.count moment with
  | zero => exact (Deals.refl state).attempts
  | succ calls inductionHypothesis =>
      have called (state : State) : Attempts [] [] state state.calledForceStop :=
        (attempts_forceStop state).trans
          ((asks_note (.calledForceStop _) rfl rfl rfl rfl _).attempts)
      exact inductionHypothesis.trans (called _)

/-! ## One attempt -/

/-- Earlier attempts are counted by the creations that the history tells of. -/
theorem creations_eq_count (journal : Journal) (name : String) :
    journal.creations name =
      ((calls Occurrence.created? (journal.map Entry.occurrence)).map Blueprint.name).count
        name := by
  induction journal with
  | nil => rfl
  | cons entry journal inductionHypothesis =>
      obtain ⟨time, occurrence⟩ := entry
      have rest : List.countP _ journal = _ := inductionHypothesis
      rw [Journal.creations, List.countP_cons, rest, List.map_cons, calls_cons, List.map_append,
        List.count_append]
      congr 1
      cases occurrence <;> simp [Occurrence.created?, List.count_singleton]

theorem Attempts.creations
    {older newer : State}
    {tried made : List Blueprint}
    (attempts : Attempts tried made older newer)
    (name : String) :
    newer.journal.creations name =
      older.journal.creations name + (tried.map Blueprint.name).count name := by
  obtain ⟨stopped, deals, _⟩ := attempts
  obtain ⟨added, grown, sameTried, _⟩ := deals.history
  rw [creations_eq_count, creations_eq_count]
  change ((calls _ newer.history).map _).count name = ((calls _ older.history).map _).count name + _
  rw [grown, calls_append, sameTried, List.map_append, List.count_append]

theorem attempts_create (blueprint : Blueprint) (state : State) :
    Attempts [blueprint] [] state (state.note (.create blueprint)) := by
  have deals : Deals [blueprint] [] [] state (state.note (.create blueprint)) :=
    ⟨⟨[.create blueprint], rfl, rfl, rfl, rfl, by simp [Occurrence.isReport]⟩,
      (List.append_nil _).symm, rfl, rfl⟩
  exact deals.attempts

/-- An agent is made and asked to start. -/
theorem attempts_make
    (blueprint : Blueprint)
    (behaviour : Behaviour)
    (state : State) :
    Attempts [] [blueprint] state
      ((state.withMember (.fresh blueprint.name behaviour)).startAsked
        state.members.length) := by
  let made := state.withMember (.fresh blueprint.name behaviour)
  have names : (made.startAsked state.members.length).members.map Member.name =
      made.members.map Member.name := by
    apply names_update
    exact fun member => rfl
  have deals : Deals [] [blueprint] [] state (made.startAsked state.members.length) := by
    refine ⟨⟨[.start state.members.length], rfl, rfl, rfl, rfl, ?_⟩, ?_, rfl, rfl⟩
    · simp [Occurrence.isReport]
    · rw [names]
      simp [made, withMember, Member.fresh]
  exact deals.attempts

/-- An agent is made unless its behaviour refuses it. -/
theorem attempts_createAgent
    (scenario : Scenario)
    (blueprint : Blueprint)
    (state : State) :
    let behaviour := scenario.behaviour blueprint (state.journal.creations blueprint.name)
    match state.createAgent scenario blueprint with
    | (created, .ok agent) =>
      behaviour.createFailure? = none ∧ ∃ called, Attempts [blueprint] [] state called ∧
        created = called.withMember (.fresh blueprint.name behaviour) ∧
        agent = called.members.length
    | (called, .error failure) =>
      behaviour.createFailure? = some failure ∧ Attempts [blueprint] [] state called := by
  intro behaviour
  have called : Attempts [blueprint] [] state
      ((state.note (.create blueprint)).callForceStopsAt .creation behaviour) :=
    (attempts_create blueprint state).trans (attempts_callForceStopsAt _ _ _)
  cases refuses : behaviour.createFailure? with
  | some failure =>
      simp only [createAgent, behaviour, refuses]
      exact ⟨trivial, called⟩
  | none =>
      simp only [createAgent, behaviour, refuses]
      exact ⟨trivial, _, called, rfl, rfl⟩

/-- An agent that has been asked to start does so unless its behaviour refuses it. -/
theorem attempts_startAgent
    {older state : State}
    {tried made : List Blueprint}
    {agent : AgentId}
    (asked : Attempts tried made older (state.startAsked agent))
    (behaviour : Behaviour) :
    match state.startAgent agent behaviour with
    | (started, .ok ()) =>
      behaviour.startFailure? = none ∧ Attempts tried made older started
    | (failed, .error failure) =>
      behaviour.startFailure? = some failure ∧ Attempts tried made older failed := by
  have called : Attempts tried made older
      ((state.startAsked agent).callForceStopsAt .start behaviour) :=
    asked.trans_aside (attempts_callForceStopsAt .start behaviour _)
  have launched : Attempts tried made older
      (((state.startAsked agent).callForceStopsAt .start behaviour).startSucceeded agent) :=
    called.trans_aside ((asks_update (by intro member; rfl) agent _).attempts)
  cases refuses : behaviour.startFailure? with
  | some failure =>
      simp only [startAgent, refuses]
      exact ⟨trivial, called⟩
  | none =>
      cases ends : behaviour.endsAfter? with
      | none =>
          simp only [startAgent, refuses, ends]
          exact ⟨trivial, launched⟩
      | some delay =>
          simp only [startAgent, refuses, ends]
          exact ⟨trivial, launched.trans_aside ((asks_endAgentAfter agent delay _).attempts)⟩

/-- The launch of one agent does what the attempt comes to. -/
theorem attempts_launchOne
    (scenario : Scenario)
    (plan : Plan)
    (name : String)
    (endpoint : Endpoint)
    (state : State) :
    let attempt := plan.attempt scenario (state.journal.creations name) name endpoint
    match state.launchOne scenario plan name endpoint with
    | (launched, .ok agent) =>
      agent = state.members.length ∧ (∃ blueprint, attempt = .launched blueprint) ∧
        Attempts attempt.tried attempt.made state launched
    | (failed, .error failure) =>
      attempt.failure? = some failure ∧ Attempts attempt.tried attempt.made state failed := by
  intro attempt
  let logged := state.log (.starting name endpoint.messagePort endpoint.uiPort?)
  have noted : Attempts [] [] state logged := (asks_log _ state).attempts
  cases resolved : Binding.resolve scenario.platform.resolver scenario.platform.primary
      plan.base.listenAddress? endpoint.messagePort with
  | error failure =>
      simp only [launchOne, resolved, attempt, Plan.attempt]
      exact ⟨rfl, noted⟩
  | ok binding =>
      let blueprint : Blueprint := ⟨name, binding, plan.orchestrator, endpoint.uiPort?⟩
      let behaviour := scenario.behaviour blueprint (state.journal.creations name)
      have same : attempt = .ofBehaviour blueprint behaviour := by
        simp only [attempt, Plan.attempt, resolved]
        rfl
      have counted : logged.journal.creations name = state.journal.creations name := by
        simpa using noted.creations name
      have making := attempts_createAgent scenario blueprint logged
      rw [show blueprint.name = name from rfl, counted] at making
      rcases made : logged.createAgent scenario blueprint with ⟨created, outcome⟩
      rw [made] at making
      cases outcome with
      | error failure =>
          obtain ⟨refuses, called⟩ := making
          have reason : behaviour.createFailure? = some failure := refuses
          simp only [launchOne, resolved]
          rw [made, same, Attempt.ofBehaviour, reason]
          exact ⟨rfl, noted.trans called⟩
      | ok agent =>
          obtain ⟨accepts, called, calling, rfl, rfl⟩ := making
          have accepted : behaviour.createFailure? = none := accepts
          have lookup : (((called.withMember (.fresh name behaviour)).member?
              called.members.length).map Member.behaviour).getD .standard = behaviour := by
            rw [show (called.withMember (.fresh name behaviour)).member? called.members.length =
              some (.fresh name behaviour) from List.getElem?_concat_length]
            rfl
          have starting := attempts_startAgent
            ((noted.trans calling).trans (attempts_make blueprint behaviour called)) behaviour
          simp only [launchOne, resolved]
          rw [made, same, Attempt.ofBehaviour, accepted]
          dsimp only
          rw [lookup]
          rcases startedUp : (called.withMember (.fresh name behaviour)).startAgent
            called.members.length behaviour with ⟨started, outcome⟩
          rw [show blueprint.name = name from rfl, startedUp] at starting
          cases outcome with
          | error failure =>
              obtain ⟨refuses, starting⟩ := starting
              rw [refuses]
              exact ⟨rfl, starting⟩
          | ok _ =>
              obtain ⟨accepts, starting⟩ := starting
              rw [accepts]
              refine ⟨?_, ⟨blueprint, rfl⟩, starting⟩
              rw [calling.length_members, noted.length_members]
              rfl

/-! ## A list of attempts -/

/-- After a successful attempt the earlier attempts are counted anew. -/
theorem attempts_tail
    (scenario : Scenario)
    (plan : Plan)
    {blueprint : Blueprint}
    {name : String}
    {older newer : State}
    (attempts : Attempts [blueprint] [blueprint] older newer)
    (named : blueprint.name = name)
    (left : List (String × Endpoint)) :
    plan.attempts scenario
        (fun other => older.journal.creations other + if name = other then 1 else 0) left =
      plan.attempts scenario newer.journal.creations left := by
  congr 1
  funext other
  rw [attempts.creations other, List.map_singleton, named, List.count_singleton]
  simp

/-- A launch makes its attempts in order, up to the first one that fails. -/
theorem attempts_launchRest
    (scenario : Scenario)
    (plan : Plan)
    (started : List AgentId)
    (left : List (String × Endpoint))
    (state : State) :
    let attempts := plan.attempts scenario state.journal.creations left
    match state.launchRest scenario plan started left with
    | (launched, .ok cohort) => ∃ made : List Blueprint,
      attempts = made.map .launched ∧
        cohort = started ++ List.range' state.members.length made.length ∧
        Attempts made made state launched
    | (failed, .error outcome) => ∃ (made : List Blueprint) (attempt : Attempt)
        (rest : List Attempt) (ended : State),
      attempts = made.map .launched ++ attempt :: rest ∧
        attempt.failure? = some outcome.failure ∧
        outcome.started = started ++ List.range' state.members.length made.length ∧
        Attempts (made ++ attempt.tried) (made ++ attempt.made) state ended ∧
        failed = ended.abortLaunch scenario.settings.partialLaunch outcome.started := by
  -- The counts of earlier attempts are read off the state, so they move on with it.
  induction left generalizing started state with
  | nil =>
      exact ⟨[], rfl, by simp, (asks_log (.allStarted plan.names.length) state).attempts⟩
  | cons first rest inductionHypothesis =>
      obtain ⟨name, endpoint⟩ := first
      have launching := attempts_launchOne scenario plan name endpoint state
      rcases one : state.launchOne scenario plan name endpoint with ⟨next, outcome⟩
      rw [one] at launching
      cases outcome with
      | error failure =>
          obtain ⟨reason, attempting⟩ := launching
          simp only [launchRest, one]
          have logged := (asks_log (.launchFailed name failure) next).attempts
          exact ⟨[], _, _, _, rfl, reason, by simp, attempting.trans_aside logged, rfl⟩
      | ok agent =>
          obtain ⟨rfl, ⟨blueprint, launched⟩, attempting⟩ := launching
          rw [launched] at attempting
          have named : blueprint.name = name := by
            simpa [launched, Attempt.tried] using Plan.names_tried_attempt scenario plan
              (state.journal.creations name) name endpoint []
          have counted : next.members.length = state.members.length + 1 :=
            attempting.length_members
          have before : plan.attempts scenario state.journal.creations ((name, endpoint) :: rest) =
              .launched blueprint :: plan.attempts scenario next.journal.creations rest := by
            rw [Plan.attempts, launched, attempts_tail scenario plan attempting named]
          have later (count : Nat) :
              started ++ [state.members.length] ++ List.range' next.members.length count =
                started ++ List.range' state.members.length (count + 1) := by
            rw [counted, List.append_assoc, List.range'_succ, List.singleton_append]
          have attemptingRest := inductionHypothesis (started ++ [state.members.length]) next
          rcases others : next.launchRest scenario plan (started ++ [state.members.length]) rest
            with ⟨last, outcome⟩
          rw [others] at attemptingRest
          simp only [launchRest, one, others]
          cases outcome with
          | error outcome =>
              obtain ⟨made, attempt, unmade, ended, sameAttempts, reason, startedAll, ending,
                same⟩ := attemptingRest
              refine ⟨blueprint :: made, attempt, unmade, ended, ?_, reason, ?_, ?_, same⟩
              · rw [before, sameAttempts, List.map_cons, List.cons_append]
              · rw [startedAll, later, List.length_cons]
              · exact attempting.trans ending
          | ok cohort =>
              obtain ⟨made, sameAttempts, startedAll, ending⟩ := attemptingRest
              refine ⟨blueprint :: made, ?_, ?_, attempting.trans ending⟩
              · rw [before, sameAttempts, List.map_cons]
              · rw [startedAll, later, List.length_cons]

/-- A launch leaves the current cohort alone. -/
theorem cohort_launch (scenario : Scenario) (plan : Plan) (state : State) :
    (state.launch scenario plan).1.cohort = state.cohort := by
  cases allocated : plan.base.allocate plan.names with
  | error failure => simp only [launch, allocated]
  | ok endpoints =>
      have attempting := attempts_launchRest scenario plan [] (plan.names.zip endpoints) state
      simp only [launch, allocated]
      rcases rest : state.launchRest scenario plan [] (plan.names.zip endpoints) with
        ⟨next, outcome⟩
      rw [rest] at attempting
      cases outcome with
      | error outcome =>
          obtain ⟨made, attempt, others, ended, _, _, _, attempting, rfl⟩ := attempting
          exact (quiet_abortLaunch _ outcome.started ended).cohort.trans attempting.cohort
      | ok cohort =>
          obtain ⟨made, _, _, attempting⟩ := attempting
          exact attempting.cohort

end State
end Supervision
end AgentCohort
