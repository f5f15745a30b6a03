import AgentCohort.Proofs.Supervision.Calm

/-!
# What a launch does

A launch grows the history without completing, starts some agents, and leaves all others
as they are.  The relation behind this composes like a launch does, agent by agent.  It
keeps apart the agents whose start succeeded and those that were asked to start: the
agent at which a launch ends may have been asked to start and not be launched.

A launch that is over publishes the agents it has started, and a force-stop that was
recorded by then reaches them.
-/

namespace AgentCohort
namespace Supervision

/-- Something that neither starts an agent nor completes a launch. -/
structure Occurrence.IsPreparing (occurrence : Occurrence) : Prop where
  /-- No agent is to be started. -/
  start : occurrence.isStart = false
  /-- No launch is complete. -/
  completion : occurrence.isCompletion = false

namespace State

/-! ## Launching some agents -/

/-- On the way from one state to another, launches that are not complete have started some
agents, out of those that they tried to start. -/
structure Launching (started tried : List AgentId) (older newer : State) : Prop
    extends Grows (fun occurrence => occurrence.isCompletion = false) older newer where
  /-- Attempts to start an agent are not forgotten. -/
  starts_le : ∀ agent, older.starts agent ≤ newer.starts agent
  /-- The started agents were asked to start. -/
  asked : ∀ agent ∈ started, 0 < newer.starts agent ∧ .start agent ∈ newer.history
  /-- Nobody but the started agents is launched. -/
  launched : ∀ agent, newer.isLaunched agent = true →
    older.isLaunched agent = true ∨ agent ∈ started
  /-- Nobody but the tried agents is asked to start. -/
  askedOnly : ∀ agent, .start agent ∈ newer.history →
    .start agent ∈ older.history ∨ agent ∈ tried

theorem Calm.launching {older newer : State} (calm : Calm Occurrence.IsPreparing older newer) :
    Launching [] [] older newer where
  toGrows := calm.toGrows.mono fun _ preparing => preparing.completion
  starts_le agent := Nat.le_of_eq (calm.starts agent).symm
  asked := by simp
  launched agent launched := .inl ((calm.launched agent).symm.trans launched)
  askedOnly agent happened := by
    rcases calm.mem_history_or happened with old | preparing
    · exact .inl old
    · exact absurd preparing.start (by simp [Occurrence.isStart])

theorem Calm.preparing
    {older newer : State}
    (calm : Calm Occurrence.IsQuiet older newer) :
    Calm Occurrence.IsPreparing older newer :=
  { calm with
    toGrows := calm.toGrows.mono fun _ quiet => ⟨quiet.start, quiet.completion⟩ }

theorem Quiet.launching {older newer : State} (quiet : Quiet older newer) :
    Launching [] [] older newer :=
  quiet.toCalm.preparing.launching

namespace Launching

variable {older middle newer : State} {early late triedEarly triedLate : List AgentId}

theorem trans
    (first : Launching early triedEarly older middle)
    (second : Launching late triedLate middle newer) :
    Launching (early ++ late) (triedEarly ++ triedLate) older newer where
  toGrows := first.toGrows.trans second.toGrows
  starts_le agent := Nat.le_trans (first.starts_le agent) (second.starts_le agent)
  asked agent present := by
    rcases List.mem_append.mp present with inEarly | inLate
    · obtain ⟨positive, told⟩ := first.asked agent inEarly
      exact ⟨Nat.lt_of_lt_of_le positive (second.starts_le agent), second.mem_history told⟩
    · exact second.asked agent inLate
  launched agent launched := by
    rcases second.launched agent launched with before | inLate
    · exact (first.launched agent before).imp_right (List.mem_append_left late)
    · exact .inr (List.mem_append_right early inLate)
  askedOnly agent happened := by
    rcases second.askedOnly agent happened with before | inLate
    · exact (first.askedOnly agent before).imp_right (List.mem_append_left triedLate)
    · exact .inr (List.mem_append_right triedEarly inLate)

/-- Nobody is alive who was neither alive before nor started. -/
theorem isAlive_or_mem
    (launching : Launching early triedEarly older newer)
    {agent : AgentId}
    (alive : newer.isAlive agent = true) :
    older.isAlive agent = true ∨ agent ∈ early := by
  rw [isAlive_iff] at alive
  refine (launching.launched agent alive.1).imp_left fun launched => ?_
  exact isAlive_iff.mpr ⟨launched, launching.hasEnded_eq_false alive.2⟩

end Launching

/-! ## Making and starting one agent -/

/-- The state with another agent, which has not been started. -/
def withMember (member : Member) (state : State) : State :=
  { state with members := state.members ++ [member] }

/-- An agent that has just been made looks like one that does not exist. -/
theorem view_member?_withMember_fresh
    {view : Member → α}
    {name : String}
    {behaviour : Behaviour}
    {default : α}
    (absent : view (.fresh name behaviour) = default)
    (state : State)
    (agent : AgentId) :
    (((state.withMember (.fresh name behaviour)).member? agent).map view).getD default =
      ((state.member? agent).map view).getD default := by
  simp only [member?, withMember, List.getElem?_append]
  split
  · rfl
  · rename_i beyond
    rw [List.getElem?_eq_none (by omega : state.members.length ≤ agent)]
    cases found : [Member.fresh name behaviour][agent - state.members.length]? with
    | none => rfl
    | some member =>
        have only : member = .fresh name behaviour := by
          simpa using List.mem_of_getElem? found
        simp [only, absent]

theorem calm_withMember_fresh
    {Permitted : Occurrence → Prop}
    (name : String)
    (behaviour : Behaviour)
    (state : State) :
    Calm Permitted state (state.withMember (.fresh name behaviour)) where
  history := ⟨[], rfl, by simp⟩
  ended agent ended := (view_member?_withMember_fresh rfl state agent).trans ended
  finished agent ended :=
    .inl ((view_member?_withMember_fresh rfl state agent).symm.trans ended)
  forceStopped recorded := recorded
  noticed recorded := .inl recorded
  cohort := rfl
  starts := view_member?_withMember_fresh rfl state
  launched := view_member?_withMember_fresh rfl state

theorem calm_createAgent
    (scenario : Scenario)
    (blueprint : Agent.Blueprint)
    (state : State) :
    Calm Occurrence.IsPreparing state (state.createAgent scenario blueprint).1 := by
  let behaviour := scenario.behaviour blueprint (state.journal.creations blueprint.name)
  have called : Calm Occurrence.IsPreparing state
      ((state.note (.create blueprint)).callForceStopsAt .creation behaviour) :=
    (calm_note ⟨rfl, rfl⟩ state).trans (calm_callForceStopsAt _ _ _).preparing
  unfold createAgent
  dsimp only
  split
  · exact called
  · exact called.trans (calm_withMember_fresh _ _ _)

/-- An agent that has been made is there. -/
theorem member?_createAgent
    {scenario : Scenario}
    {blueprint : Agent.Blueprint}
    {state created : State}
    {agent : AgentId}
    (made : state.createAgent scenario blueprint = (created, .ok agent)) :
    ∃ member, created.member? agent = some member := by
  unfold createAgent at made
  dsimp only at made
  split at made
  · simp at made
  · simp only [Prod.mk.injEq, Except.ok.injEq] at made
    obtain ⟨rfl, rfl⟩ := made
    exact ⟨_, List.getElem?_concat_length⟩

/-- The state after an agent has been asked to start, before the agent reacts. -/
def startAsked (agent : AgentId) (state : State) : State :=
  (state.update agent fun member => { member with starts := member.starts + 1 }).note
    (.start agent)

theorem launching_startAsked (agent : AgentId) (state : State) :
    Launching [] [agent] state (state.startAsked agent) where
  history := ⟨[.start agent], rfl, by simp [Occurrence.isCompletion]⟩
  ended other ended := by
    rw [startAsked, hasEnded_note, hasEnded_update]
    · exact ended
    · exact fun member => rfl
  finished other ended := by
    left
    rw [startAsked, hasEnded_note, hasEnded_update] at ended
    · exact ended
    · exact fun member => rfl
  forceStopped recorded := recorded
  noticed recorded := .inl recorded
  starts_le other := by
    simp only [startAsked, starts, member?_note, member?_update]
    split
    · cases state.member? other <;> simp
    · exact Nat.le_refl _
  asked := by simp
  launched other launched := by
    left
    rw [startAsked, isLaunched_note, isLaunched_update] at launched
    · exact launched
    · exact fun member => rfl
  askedOnly other happened := by
    simp only [startAsked, history_note, history_update, List.mem_cons,
      Occurrence.start.injEq] at happened
    rcases happened with same | before
    · exact .inr (by simp [same])
    · exact .inl before

theorem starts_startAsked
    {agent : AgentId}
    {state : State}
    {member : Member}
    (found : state.member? agent = some member) :
    0 < (state.startAsked agent).starts agent := by
  simp [startAsked, starts, member?_update, found]

/-- The state after the start of an agent has succeeded. -/
def startSucceeded (agent : AgentId) (state : State) : State :=
  state.update agent fun member => { member with isLaunched := true }

/-- The start of an agent that was asked to start succeeds. -/
theorem Launching.startSucceeded
    {older newer : State}
    {agent : AgentId}
    (launching : Launching [] [agent] older newer)
    (positive : 0 < newer.starts agent)
    (told : .start agent ∈ newer.history) :
    Launching [agent] [agent] older (newer.startSucceeded agent) where
  history := launching.history
  ended other ended := by
    rw [State.startSucceeded, hasEnded_update]
    · exact launching.ended other ended
    · exact fun member => rfl
  finished other ended := by
    rw [State.startSucceeded, hasEnded_update] at ended
    · exact launching.finished other ended
    · exact fun member => rfl
  forceStopped := launching.forceStopped
  noticed := launching.noticed
  starts_le other := by
    rw [State.startSucceeded, starts_update]
    · exact launching.starts_le other
    · exact fun member => rfl
  asked other present := by
    rw [List.mem_singleton] at present
    subst present
    refine ⟨?_, told⟩
    rw [State.startSucceeded, starts_update]
    · exact positive
    · exact fun member => rfl
  launched other launched := by
    by_cases same : agent = other
    · exact .inr (by simp [same])
    · simp only [State.startSucceeded, isLaunched, member?_update, if_neg same] at launched
      exact (launching.launched other launched).imp_right (by simp)
  askedOnly := launching.askedOnly

/-- What the start of an agent that exists does, whether it succeeds or fails. -/
theorem launching_startAgent
    {agent : AgentId}
    {state : State}
    {member : Member}
    (found : state.member? agent = some member)
    (behaviour : Behaviour) :
    match state.startAgent agent behaviour with
    | (started, .ok ()) => Launching [agent] [agent] state started
    | (failed, .error _) => Launching [] [agent] state failed := by
  let called := (state.startAsked agent).callForceStopsAt .start behaviour
  have calm : Calm Occurrence.IsQuiet (state.startAsked agent) called :=
    calm_callForceStopsAt .start behaviour _
  have launchingCalled : Launching [] [agent] state called :=
    (launching_startAsked agent state).trans calm.preparing.launching
  have positive : 0 < called.starts agent := by
    rw [calm.starts]
    exact starts_startAsked found
  have told : .start agent ∈ called.history := by
    apply calm.mem_history
    simp [startAsked]
  have launchingSucceeded := launchingCalled.startSucceeded positive told
  cases refuses : behaviour.startFailure? with
  | some failure =>
      simp only [startAgent, refuses]
      exact launchingCalled
  | none =>
      cases ends : behaviour.endsAfter? with
      | none =>
          simp only [startAgent, refuses, ends]
          exact launchingSucceeded
      | some delay =>
          simp only [startAgent, refuses, ends]
          exact launchingSucceeded.trans (quiet_endAgentAfter agent delay _).launching

/-- What the launch of one agent does, whether it succeeds or fails. -/
theorem launching_launchOne
    (scenario : Scenario)
    (plan : Plan)
    (name : String)
    (endpoint : Network.Endpoint)
    (state : State) :
    match state.launchOne scenario plan name endpoint with
    | (launched, .ok agent) => Launching [agent] [agent] state launched
    | (failed, .error _) => ∃ tried, Launching [] tried state failed := by
  have noted := (quiet_log (.starting name endpoint.messagePort endpoint.uiPort?) state).launching
  cases resolved : Network.Binding.resolve scenario.platform.resolver scenario.platform.primary
      plan.base.listenAddress? endpoint.messagePort with
  | error failure =>
      simp only [launchOne, resolved]
      exact ⟨[], noted⟩
  | ok binding =>
      have making := noted.trans (calm_createAgent scenario
        ⟨name, binding, plan.orchestrator, endpoint.uiPort?⟩ _).launching
      rcases made : (state.log (.starting name endpoint.messagePort endpoint.uiPort?)).createAgent
        scenario ⟨name, binding, plan.orchestrator, endpoint.uiPort?⟩ with ⟨created, outcome⟩
      rw [made] at making
      cases outcome with
      | error failure =>
          simp only [launchOne, resolved, made]
          exact ⟨[], making⟩
      | ok agent =>
          obtain ⟨member, found⟩ := member?_createAgent made
          have starting := launching_startAgent found member.behaviour
          rcases startedUp : created.startAgent agent member.behaviour with ⟨started, outcome⟩
          rw [startedUp] at starting
          simp only [launchOne, resolved, made, found, Option.map_some, Option.getD_some,
            startedUp]
          cases outcome with
          | error failure => exact ⟨[agent], making.trans starting⟩
          | ok _ => exact making.trans starting

/-- What is done about the agents that were started before a launch ended is quiet. -/
theorem quiet_abortLaunch
    (policy : PartialLaunch)
    (started : List AgentId)
    (state : State) :
    Quiet state (state.abortLaunch policy started) := by
  unfold abortLaunch
  split
  · exact .refl state
  · have noted := quiet_log (.launchAborted policy started) state
    cases policy with
    | leaveRunning => exact noted
    | stopStarted => exact noted.trans (quiet_stopAgents started _)

/-! ## Launching a list of agents -/

/-- What a launch does from the agents that are left on. -/
theorem launching_launchRest
    (scenario : Scenario)
    (plan : Plan)
    (started : List AgentId)
    (left : List (String × Network.Endpoint))
    (state : State) :
    match state.launchRest scenario plan started left with
    | (launched, .ok cohort) =>
      ∃ later, cohort = started ++ later ∧ Launching later later state launched
    | (failed, .error failure) =>
      ∃ later tried, failure.started = started ++ later ∧
        Launching later tried state failed := by
  induction left generalizing started state with
  | nil =>
      exact ⟨[], by simp, (quiet_log (.allStarted plan.names.length) state).launching⟩
  | cons first rest inductionHypothesis =>
      obtain ⟨name, endpoint⟩ := first
      have launchingFirst := launching_launchOne scenario plan name endpoint state
      rcases one : state.launchOne scenario plan name endpoint with ⟨next, outcome⟩
      rw [one] at launchingFirst
      cases outcome with
      | error failure =>
          obtain ⟨tried, launchingFirst⟩ := launchingFirst
          simp only [launchRest, one]
          refine ⟨[], tried ++ [] ++ [], by simp, ?_⟩
          exact (launchingFirst.trans (quiet_log (.launchFailed name failure) next).launching).trans
            (quiet_abortLaunch scenario.settings.partialLaunch started _).launching
      | ok agent =>
          have launchingRest := inductionHypothesis (started ++ [agent]) next
          rcases others : next.launchRest scenario plan (started ++ [agent]) rest with
            ⟨last, outcome⟩
          rw [others] at launchingRest
          simp only [launchRest, one, others]
          cases outcome with
          | error failure =>
              obtain ⟨later, tried, startedAll, launchingRest⟩ := launchingRest
              refine ⟨[agent] ++ later, [agent] ++ tried, ?_, launchingFirst.trans launchingRest⟩
              rw [startedAll, List.append_assoc]
          | ok cohort =>
              obtain ⟨later, startedAll, launchingRest⟩ := launchingRest
              refine ⟨[agent] ++ later, ?_, launchingFirst.trans launchingRest⟩
              rw [startedAll, List.append_assoc]

/-- What a launch does, whether it succeeds or fails. -/
theorem launching_launch (scenario : Scenario) (plan : Plan) (state : State) :
    match state.launch scenario plan with
    | (launched, .ok cohort) => Launching cohort cohort state launched
    | (failed, .error failure) => ∃ tried, Launching failure.started tried state failed := by
  cases allocated : plan.base.allocate plan.names with
  | error failure =>
      simp only [launch, allocated]
      exact ⟨[], (Calm.refl state).launching⟩
  | ok endpoints =>
      have launching := launching_launchRest scenario plan [] (plan.names.zip endpoints) state
      simp only [launch, allocated]
      rcases rest : state.launchRest scenario plan [] (plan.names.zip endpoints) with
        ⟨next, outcome⟩
      rw [rest] at launching
      cases outcome with
      | error failure =>
          obtain ⟨later, tried, startedAll, launching⟩ := launching
          rw [List.nil_append] at startedAll
          subst startedAll
          exact ⟨tried, launching⟩
      | ok cohort =>
          obtain ⟨later, startedAll, launching⟩ := launching
          rw [List.nil_append] at startedAll
          subst startedAll
          exact launching

/-! ## Publishing a cohort -/

/-- A cohort has become the current one on the way from one state to another, and its
agents have been asked to stop if a force-stop had been recorded. -/
structure Published (cohort : List AgentId) (older newer : State) : Prop
    extends Grows Occurrence.IsQuiet older newer where
  /-- It is the current one. -/
  current : newer.cohort = cohort
  /-- No agent is asked to start. -/
  starts : ∀ agent, newer.starts agent = older.starts agent
  /-- No start succeeds. -/
  launched : ∀ agent, newer.isLaunched agent = older.isLaunched agent
  /-- The record of a force-stop stays as it is. -/
  unforced : newer.forceStopped = older.forceStopped
  /-- A force-stop that has been recorded reaches the agents. -/
  reached : older.forceStopped = true → ∀ agent ∈ cohort, older.isLaunched agent = true →
    ∃ added, newer.history = added ++ older.history ∧ .stop agent ∈ added

theorem Published.trans_quiet
    {cohort : List AgentId}
    {older middle newer : State}
    (published : Published cohort older middle)
    (quiet : Quiet middle newer) :
    Published cohort older newer where
  toGrows := published.toGrows.trans quiet.toGrows
  current := quiet.cohort.trans published.current
  starts agent := (quiet.starts agent).trans (published.starts agent)
  launched agent := (quiet.launched agent).trans (published.launched agent)
  unforced := quiet.unforced.trans published.unforced
  reached recorded agent present launched := by
    obtain ⟨early, grownEarly, told⟩ := published.reached recorded agent present launched
    obtain ⟨late, grownLate, _⟩ := quiet.history
    refine ⟨late ++ early, ?_, List.mem_append_right late told⟩
    rw [grownLate, grownEarly, List.append_assoc]

theorem published_publish (cohort : List AgentId) (state : State) :
    Published cohort state (state.publish cohort) := by
  let replaced := { state with cohort := cohort, generation := state.generation + 1 }
  cases recorded : state.forceStopped with
  | false =>
      have unchanged : state.publish cohort = replaced := by
        simp [publish, recorded, replaced]
      rw [unchanged]
      exact {
        toGrows := ⟨⟨[], rfl, by simp⟩, fun _ => id, fun _ => .inl, id, .inl⟩
        current := rfl
        starts := fun _ => rfl
        launched := fun _ => rfl
        unforced := rfl
        reached := by simp [recorded] }
  | true =>
      let logged := replaced.log (.overtaken (state.generation + 1) cohort)
      have stopped : state.publish cohort = logged.stopAgents cohort := by
        simp [publish, recorded, replaced, logged]
      have quiet : Quiet replaced (logged.stopAgents cohort) :=
        (quiet_log _ replaced).trans (quiet_stopAgents cohort logged)
      rw [stopped]
      exact {
        toGrows := ⟨quiet.history, quiet.ended, quiet.finished, quiet.forceStopped,
          quiet.noticed⟩
        current := quiet.cohort
        starts := quiet.starts
        launched := quiet.launched
        unforced := quiet.unforced
        reached := fun _ agent present launched => by
          have asked : ∃ added, (logged.stopAgents cohort).history = added ++ logged.history ∧
              .stop agent ∈ added := stop_mem_stopAgents present launched
          obtain ⟨added, grown, told⟩ := asked
          refine ⟨added ++ [.notice (.overtaken (state.generation + 1) cohort)], ?_, ?_⟩
          · rw [grown, List.append_assoc]
            rfl
          · exact List.mem_append_left _ told }

/-! ## Launching a cohort -/

/-- What the launch of a cohort leads to. -/
inductive LaunchesCohort (older : State) : State → Except Failure (List AgentId) → Prop
  /-- All agents have been started and published, and the listeners are told. -/
  | complete
      {cohort : List AgentId}
      {launched published : State}
      (generation : Nat)
      (names : List String)
      (launching : Launching cohort cohort older launched)
      (publication : Published cohort launched published) :
      LaunchesCohort older (published.announce (.cohortStarted generation names)) (.ok cohort)
  /-- The launch has ended at an agent, and those before it have been published. -/
  | broken
      {started tried : List AgentId}
      {failed published : State}
      (failure : Failure)
      (launching : Launching started tried older failed)
      (publication : Published started failed published) :
      LaunchesCohort older published (.error failure)
  /-- The launch has ended before any agent was started. -/
  | fruitless
      {tried : List AgentId}
      {failed : State}
      (failure : Failure)
      (launching : Launching [] tried older failed) :
      LaunchesCohort older failed (.error failure)

theorem launchesCohort_launchCohort
    (scenario : Scenario)
    (plan : Plan)
    (state : State) :
    LaunchesCohort state (state.launchCohort scenario plan).1
      (state.launchCohort scenario plan).2 := by
  have launching := launching_launch scenario plan state
  rcases launched : state.launch scenario plan with ⟨next, outcome⟩
  rw [launched] at launching
  cases outcome with
  | ok cohort =>
      simp only [launchCohort, launched]
      exact .complete _ _ launching (published_publish cohort next)
  | error failure =>
      obtain ⟨started, failure⟩ := failure
      obtain ⟨tried, launching⟩ := launching
      cases started with
      | nil =>
          simp only [launchCohort, launched, List.isEmpty_nil, if_true]
          exact .fruitless failure launching
      | cons first rest =>
          simp only [launchCohort, launched, List.isEmpty_cons]
          exact .broken failure launching
            ((published_publish (first :: rest) next).trans_quiet (quiet_log _ _))

theorem LaunchesCohort.grows
    {older newer : State}
    {outcome : Except Failure (List AgentId)}
    (launches : LaunchesCohort older newer outcome) :
    Grows (fun _ => True) older newer := by
  cases launches with
  | complete generation names launching publication =>
      have launched := launching.toGrows.anything
      have published := publication.toGrows.anything
      exact (launched.trans published).trans (calm_note trivial _).toGrows
  | broken failure launching publication =>
      have launched := launching.toGrows.anything
      exact launched.trans publication.toGrows.anything
  | fruitless failure launching => exact launching.toGrows.anything

/-- Whoever is launched by the launch of a cohort was asked to start. -/
theorem LaunchesCohort.asked
    {older newer : State}
    {outcome : Except Failure (List AgentId)}
    (launches : LaunchesCohort older newer outcome)
    {agent : AgentId}
    (launched : newer.isLaunched agent = true) :
    older.isLaunched agent = true ∨ .start agent ∈ newer.history := by
  cases launches with
  | complete generation names launching publication =>
      rw [announce, isLaunched_note, publication.launched] at launched
      refine (launching.launched agent launched).imp_right fun present => ?_
      exact List.mem_cons_of_mem _
        (publication.mem_history (launching.asked agent present).2)
  | broken failure launching publication =>
      rw [publication.launched] at launched
      refine (launching.launched agent launched).imp_right fun present => ?_
      exact publication.mem_history (launching.asked agent present).2
  | fruitless failure launching =>
      exact (launching.launched agent launched).imp_right (by simp)

/-- A complete launch has asked nobody to start but the agents of the cohort. -/
theorem LaunchesCohort.askedOnly
    {older newer : State}
    {cohort : List AgentId}
    (launches : LaunchesCohort older newer (.ok cohort))
    {agent : AgentId}
    (happened : .start agent ∈ newer.history) :
    .start agent ∈ older.history ∨ agent ∈ cohort := by
  cases launches with
  | complete generation names launching publication =>
      rw [announce, history_note, List.mem_cons] at happened
      rcases happened with impossible | happened
      · simp at impossible
      rcases publication.mem_history_or happened with before | quiet
      · exact launching.askedOnly agent before
      · exact absurd quiet.start (by simp [Occurrence.isStart])

/-- A complete launch has asked all agents of the cohort to start. -/
theorem LaunchesCohort.starts_pos
    {older newer : State}
    {cohort : List AgentId}
    (launches : LaunchesCohort older newer (.ok cohort))
    {agent : AgentId}
    (present : agent ∈ cohort) :
    0 < newer.starts agent := by
  cases launches with
  | complete generation names launching publication =>
      rw [announce, starts_note, publication.starts]
      exact (launching.asked agent present).1

end State
end Supervision
end AgentCohort
