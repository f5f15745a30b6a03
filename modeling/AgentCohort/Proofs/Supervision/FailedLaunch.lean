import AgentCohort.Proofs.Network.Allocation
import AgentCohort.Proofs.Supervision.Cohort

/-!
# Launches that fail

A launch that fails leaves an exact state behind.  Either there are no ports for its
agents and it has done nothing, or it has gone through the names in order up to the first
attempt that failed: the agents before that one are started and handed back, with one
request to stop each if the policy says so, and nothing has been done about the names
after it.  A run reports that failure and nothing else, and publishes the agents that were
handed back.

Force-stops that come during a launch go to the cohort before, whose agents have been made
earlier; so the requests to stop that reach the new agents are those of the launch.
-/

namespace AgentCohort
namespace Supervision

open Agent (Blueprint)
open Network (Endpoint EndpointBase)

namespace State

/-! ## The end of a launch -/

/-- The agents that were started are asked to stop if the policy says so. -/
theorem asks_abortLaunch
    (policy : PartialLaunch)
    {started : List AgentId}
    {state : State}
    (known : ∀ agent ∈ started, agent < state.members.length) :
    Asks (if policy = .stopStarted then started else []) state
      (state.abortLaunch policy started) := by
  cases none : started.isEmpty with
  | true =>
      simp only [abortLaunch, none, if_true]
      rw [List.isEmpty_iff.mp none, ite_self]
      exact .refl state
  | false =>
      simp only [abortLaunch, none]
      have noted := asks_log (.launchAborted policy started) state
      cases policy with
      | leaveRunning => exact noted
      | stopStarted =>
          have asked := asks_stopAgents started (state.log (.launchAborted .stopStarted started))
          rw [noted.length_members, List.filter_eq_self.mpr (by simpa using known)] at asked
          exact noted.trans asked

/-- A cohort is published under the next generation, and some agents are asked to stop. -/
theorem asks_publish (cohort : List AgentId) (state : State) :
    ∃ agents, Asks agents { state with cohort := cohort, generation := state.generation + 1 }
      (state.publish cohort) := by
  unfold publish
  dsimp only
  split
  · exact ⟨_, (asks_log _ _).trans (asks_stopAgents cohort _)⟩
  · exact ⟨[], .refl _⟩

end State

/-! ## Failures -/

/-- The launch of a plan has launched agents from some blueprints and has ended at the next
attempt. -/
structure StuckLaunch
    (scenario : Scenario)
    (plan : Plan)
    (launched : List Blueprint)
    (attempt : Attempt)
    (older failed : State) : Prop where
  /-- It makes the attempts of the plan in order. -/
  attempts : ∃ endpoints left, plan.base.allocate plan.names = .ok endpoints ∧
    plan.attempts scenario older.journal.creations (plan.names.zip endpoints) =
      launched.map .launched ++ attempt :: left
  /-- It goes through the names in order. -/
  names : (launched ++ attempt.tried).map Blueprint.name =
    plan.names.take (launched ++ attempt.tried).length
  /-- Each agent is to be made once and started once, and of the agents that it has made
  only those that were started are asked to stop, once each, if the policy says so. -/
  deals : ∃ stopped,
    State.Deals (launched ++ attempt.tried) (launched ++ attempt.made) stopped older failed ∧
      stopped.filter (older.members.length ≤ ·) =
        if scenario.settings.partialLaunch = .stopStarted then
          List.range' older.members.length launched.length
        else []

/-- How a launch that fails leaves the agents, and what it hands back. -/
inductive FailedLaunch (scenario : Scenario) (plan : Plan) (older : State) :
    State → LaunchFailure → Prop
  /-- There are no ports for the agents, and nothing has been done. -/
  | unallocated
      {failure : Failure}
      (refused : plan.base.allocate plan.names = .error failure) :
      FailedLaunch scenario plan older older ⟨[], failure⟩
  /-- An attempt has failed, and the agents launched before it are handed back. -/
  | stuck
      {launched : List Blueprint}
      {attempt : Attempt}
      {failed : State}
      {failure : Failure}
      (stuck : StuckLaunch scenario plan launched attempt older failed)
      (reason : attempt.failure? = some failure) :
      FailedLaunch scenario plan older failed
        ⟨List.range' older.members.length launched.length, failure⟩

/-- How a run ends whose launch has failed. -/
structure FailedRun (older : State) (outcome : LaunchFailure) (next : Run) (ended : State) :
    Prop where
  /-- It hands on the failure. -/
  failure : next.outcome? = some (.error outcome.failure)
  /-- It reports neither a cohort nor its own end. -/
  silent : ∃ added, ended.history = added ++ older.history ∧
    ∀ occurrence ∈ added, occurrence.isReport = false
  /-- It publishes the agents that were started, if there are any. -/
  publication :
    if outcome.started = [] then
      ended.cohort = older.cohort ∧ ended.generation = older.generation
    else
      ended.cohort = outcome.started ∧ ended.generation = older.generation + 1

namespace State

/-- The launch has ended at an attempt, and the agents before it have been dealt with. -/
theorem stuckLaunch_abortLaunch
    {scenario : Scenario}
    {plan : Plan}
    {endpoints : List Endpoint}
    {launched : List Blueprint}
    {attempt : Attempt}
    {left : List Attempt}
    {state ended : State}
    (started : state.HasStartedCohort)
    (allocated : plan.base.allocate plan.names = .ok endpoints)
    (split : plan.attempts scenario state.journal.creations (plan.names.zip endpoints) =
      launched.map .launched ++ attempt :: left)
    (attempting : Attempts (launched ++ attempt.tried) (launched ++ attempt.made) state ended) :
    StuckLaunch scenario plan launched attempt state
      (ended.abortLaunch scenario.settings.partialLaunch
        (List.range' state.members.length launched.length)) := by
  have known : ∀ agent ∈ List.range' state.members.length launched.length,
      agent < ended.members.length := by
    intro agent present
    rw [attempting.length_members, List.length_append]
    rw [List.mem_range'_1] at present
    omega
  obtain ⟨asked, deals, current⟩ := attempting
  have both := deals.trans (asks_abortLaunch scenario.settings.partialLaunch known)
  rw [List.append_nil, List.append_nil] at both
  refine ⟨⟨endpoints, left, allocated, split⟩, ?_, ⟨_, both, ?_⟩⟩
  · have named := Plan.names_tried_attempts split
    rw [List.map_fst_zip (Nat.le_of_eq (EndpointBase.length_of_allocate allocated).symm)] at named
    exact named
  · -- Force-stops have reached agents of the cohort before only.
    have others : asked.filter (state.members.length ≤ ·) = [] := by
      rw [List.filter_eq_nil_iff]
      intro agent present
      simpa using started.lt_length (current agent present)
    rw [List.filter_append, others, List.nil_append, List.filter_eq_self]
    intro agent present
    have new : agent ∈ List.range' state.members.length launched.length := by
      by_cases policy : scenario.settings.partialLaunch = .stopStarted
      · simpa [policy] using present
      · simp [policy] at present
    simpa using (List.mem_range'_1.mp new).1

theorem failedLaunch_launch
    {scenario : Scenario}
    {plan : Plan}
    {state failed : State}
    {outcome : LaunchFailure}
    (started : state.HasStartedCohort)
    (fails : state.launch scenario plan = (failed, .error outcome)) :
    FailedLaunch scenario plan state failed outcome := by
  cases allocated : plan.base.allocate plan.names with
  | error failure =>
      simp only [launch, allocated] at fails
      obtain ⟨rfl, same⟩ := Prod.mk.inj fails
      obtain rfl := Except.error.inj same
      exact .unallocated allocated
  | ok endpoints =>
      have attempting := attempts_launchRest scenario plan [] (plan.names.zip endpoints) state
      simp only [launch, allocated] at fails
      rw [fails] at attempting
      obtain ⟨launched, attempt, left, ended, split, reason, handed, attempting, rfl⟩ :=
        attempting
      obtain ⟨handedBack, failure⟩ := outcome
      obtain rfl : handedBack = List.range' state.members.length launched.length := handed
      exact .stuck (stuckLaunch_abortLaunch started allocated split attempting) reason

end State

/-- The launch itself reports nothing and publishes nothing. -/
theorem FailedLaunch.unpublished
    {scenario : Scenario}
    {plan : Plan}
    {older failed : State}
    {outcome : LaunchFailure}
    (launch : FailedLaunch scenario plan older failed outcome) :
    (∃ added, failed.history = added ++ older.history ∧
      ∀ occurrence ∈ added, occurrence.isReport = false) ∧
    failed.cohort = older.cohort ∧ failed.generation = older.generation := by
  cases launch with
  | unallocated refused => exact ⟨⟨[], by simp⟩, rfl, rfl⟩
  | stuck stuck reason =>
      obtain ⟨_, deals, _⟩ := stuck.deals
      obtain ⟨added, grown, _, _, _, silent⟩ := deals.history
      exact ⟨⟨added, grown, silent⟩, deals.cohort, deals.generation⟩

/-- A run whose launch has failed ends at once. -/
theorem FailedLaunch.failedRun
    {scenario : Scenario}
    {run : Run}
    {older failed : State}
    {outcome : LaunchFailure}
    (launch : FailedLaunch scenario run.plan older failed outcome)
    (fails : older.launch scenario run.plan = (failed, .error outcome))
    (unforced : older.forceStopped = false) :
    FailedRun older outcome (run.launch scenario older).1 (run.launch scenario older).2 := by
  obtain ⟨⟨early, grownEarly, silentEarly⟩, cohort, generation⟩ := launch.unpublished
  obtain ⟨started, failure⟩ := outcome
  cases started with
  | nil =>
      have launched : older.launchCohort scenario run.plan = (failed, .error failure) := by
        simp only [State.launchCohort, fails, List.isEmpty_nil, if_true]
      simp only [Run.launch, unforced, Bool.false_eq_true, if_false, launched]
      exact ⟨rfl, ⟨early, grownEarly, silentEarly⟩, cohort, generation⟩
  | cons first rest =>
      let published := failed.publish (first :: rest)
      let reported := published.log (.launchedPartially published.generation)
      have launched : older.launchCohort scenario run.plan = (reported, .error failure) := by
        simp only [State.launchCohort, fails, List.isEmpty_cons]
        rfl
      obtain ⟨agents, asking⟩ := State.asks_publish (first :: rest) failed
      have asked := asking.trans (State.asks_log (.launchedPartially published.generation) _)
      obtain ⟨late, grownLate, _, _, _, silentLate⟩ := asked.history
      simp only [Run.launch, unforced, Bool.false_eq_true, if_false, launched]
      refine ⟨rfl, ⟨late ++ early, ?_, ?_⟩, asked.cohort, ?_⟩
      · rw [grownLate, List.append_assoc, ← grownEarly]
        rfl
      · intro occurrence present
        rcases List.mem_append.mp present with inLate | inEarly
        · exact silentLate occurrence inLate
        · exact silentEarly occurrence inEarly
      · rw [← generation]
        exact asked.generation

/-- A launch that fails leaves the agents and the run that made it in an exact state. -/
theorem failedLaunch_and_failedRun
    {scenario : Scenario}
    {plan : Plan}
    {system : System}
    {failed : State}
    {outcome : LaunchFailure}
    (reachable : Reachable scenario system)
    (fails : system.state.launch scenario plan = (failed, .error outcome)) :
    FailedLaunch scenario plan system.state failed outcome ∧
      ∀ (run : Run) (favoursForceStop : Bool) (joiner : JoinerId),
        run.plan = plan → run.stage = .launching → system.state.forceStopped = false →
          ∃ next ended,
            run.step? scenario favoursForceStop joiner system.state = some (next, ended) ∧
              FailedRun system.state outcome next ended := by
  have launch := State.failedLaunch_launch reachable.hasStartedCohort fails
  refine ⟨launch, ?_⟩
  rintro run favoursForceStop joiner rfl stage unforced
  refine ⟨_, _, ?_, launch.failedRun fails unforced⟩
  simp only [Run.step?, stage]

/-- Agents of which `b` calls for a force-stop while it is made and `c` cannot be started; the
others are asked to stop then. -/
def refusing : Scenario where
  settings := ⟨10, none, none, .stopStarted⟩
  behaviour blueprint _ :=
    if blueprint.name = "b" then { Behaviour.standard with forceStops := [.creation] }
    else if blueprint.name = "c" then
      { Behaviour.standard with startFailure? := some (.internal "broken") }
    else .standard
  platform := .isolated

/-- What a run is about to launch while the agent of an earlier run is alive. -/
def secondPlan : Plan :=
  ⟨["a", "b", "c", "d"], ⟨"o", 1⟩, ⟨none, 9001, none⟩⟩

/-- The run that is about to launch it. -/
def besideFirst : System :=
  let begun := (System.initial.perform refusing (.run ["z"] "o:1" ⟨none, 9000, none⟩ false)).1
  (begun.accept (.run secondPlan.names "o:1" secondPlan.base true)).1

theorem failedLaunch_besideFirst :
    besideFirst.state.isAlive 0 = true ∧ ∃ failed,
      besideFirst.state.launch refusing secondPlan =
        (failed, .error ⟨[1, 2], .internal "broken"⟩) ∧
      FailedLaunch refusing secondPlan besideFirst.state failed ⟨[1, 2], .internal "broken"⟩ ∧
      ∃ next ended, (Run.start secondPlan true).step? refusing false (.run 1) besideFirst.state =
          some (next, ended) ∧
        FailedRun besideFirst.state ⟨[1, 2], .internal "broken"⟩ next ended := by
  have reachable : Reachable refusing besideFirst :=
    (steps_perform refusing _ _).tail (.request _)
  have fails : besideFirst.state.launch refusing secondPlan =
      ((besideFirst.state.launch refusing secondPlan).1,
        .error ⟨[1, 2], .internal "broken"⟩) := by rfl
  obtain ⟨launch, ends⟩ := failedLaunch_and_failedRun reachable fails
  exact ⟨by decide, _, fails, launch,
    ends (.start secondPlan true) false (.run 1) rfl rfl (by decide)⟩

end Supervision
end AgentCohort
