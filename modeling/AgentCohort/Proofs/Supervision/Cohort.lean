import AgentCohort.Proofs.Supervision.Attempts
import AgentCohort.Proofs.Supervision.Execution

/-!
# The current cohort

A step may renew the current cohort: the agents that a launch has started become the
current ones, whether the launch is complete or not.  If it has started nobody the cohort
stays.  So the current cohort consists of agents that were asked to start, and nobody is
alive outside of it but those that a later launch has replaced.
-/

namespace AgentCohort
namespace Supervision

namespace State

/-- Some agents have been started on the way from one state to another; they are the current
cohort, or there are none of them. -/
structure Renews (started : List AgentId) (older newer : State) : Prop where
  /-- Attempts to start an agent are not forgotten. -/
  starts_le : ∀ agent, older.starts agent ≤ newer.starts agent
  /-- The new agents were asked to start. -/
  asked : ∀ agent ∈ started, 0 < newer.starts agent
  /-- Nobody but the new agents comes to life. -/
  alive : ∀ agent, newer.isAlive agent = true → older.isAlive agent = true ∨ agent ∈ started
  /-- A cohort stays until there are new agents. -/
  cohort : newer.cohort = started ∨ started = [] ∧ newer.cohort = older.cohort

theorem Calm.renews
    {Permitted : Occurrence → Prop}
    {older newer : State}
    (calm : Calm Permitted older newer) :
    Renews [] older newer where
  starts_le agent := Nat.le_of_eq (calm.starts agent).symm
  asked := by simp
  alive agent alive := .inl (calm.isAlive_of_isAlive alive)
  cohort := .inr ⟨rfl, calm.cohort⟩

/-- The agents that a launch has started become the current cohort. -/
theorem Launching.renews
    {started tried : List AgentId}
    {older middle newer : State}
    (launching : Launching started tried older middle)
    (publication : Published started middle newer) :
    Renews started older newer where
  starts_le agent := by
    rw [publication.starts]
    exact launching.starts_le agent
  asked agent present := by
    rw [publication.starts]
    exact (launching.asked agent present).1
  alive agent alive := by
    rw [isAlive_iff, publication.launched] at alive
    have active := publication.hasEnded_eq_false alive.2
    exact launching.isAlive_or_mem (isAlive_iff.mpr ⟨alive.1, active⟩)
  cohort := .inl publication.current

theorem renews_launchCohort (scenario : Scenario) (plan : Plan) (state : State) :
    ∃ started, Renews started state (state.launchCohort scenario plan).1 := by
  have launching := launching_launch scenario plan state
  have kept := cohort_launch scenario plan state
  rcases launched : state.launch scenario plan with ⟨next, outcome⟩
  rw [launched] at launching kept
  cases outcome with
  | ok cohort =>
      simp only [launchCohort, launched]
      have told : Renews cohort state (next.publish cohort) :=
        launching.renews (published_publish cohort next)
      exact ⟨cohort, ⟨told.starts_le, told.asked, told.alive, told.cohort⟩⟩
  | error failure =>
      obtain ⟨started, failure⟩ := failure
      obtain ⟨tried, launching⟩ := launching
      cases started with
      | nil =>
          simp only [launchCohort, launched, List.isEmpty_nil, if_true]
          exact ⟨[], launching.starts_le, by simp,
            fun agent alive => launching.isAlive_or_mem alive, .inr ⟨rfl, kept⟩⟩
      | cons first rest =>
          simp only [launchCohort, launched, List.isEmpty_cons]
          exact ⟨first :: rest, launching.renews
            ((published_publish (first :: rest) next).trans_quiet (quiet_log _ _))⟩

/-- All agents of the current cohort were asked to start. -/
def HasStartedCohort (state : State) : Prop :=
  ∀ agent ∈ state.cohort, 0 < state.starts agent

theorem HasStartedCohort.renews
    {started : List AgentId}
    {older newer : State}
    (hasStarted : older.HasStartedCohort)
    (renews : Renews started older newer) :
    newer.HasStartedCohort := by
  intro agent present
  rcases renews.cohort with renewed | ⟨_, kept⟩
  · rw [renewed] at present
    exact renews.asked agent present
  · rw [kept] at present
    exact Nat.lt_of_lt_of_le (hasStarted agent present) (renews.starts_le agent)

theorem HasStartedCohort.lt_length
    {state : State}
    (hasStarted : state.HasStartedCohort)
    {agent : AgentId}
    (present : agent ∈ state.cohort) :
    agent < state.members.length := by
  have positive := hasStarted agent present
  cases found : state.member? agent with
  | none => simp [starts, found] at positive
  | some member => exact (List.getElem?_eq_some_iff.mp found).1

end State

open State

theorem Step.renews
    {scenario : Scenario}
    {system next : System}
    (step : Step scenario system next) :
    ∃ started, Renews started system.state next.state := by
  rcases step.calm_or_launches with calm | ⟨_, run, _, _, state⟩
  · exact ⟨[], calm.renews⟩
  · rw [state]
    exact renews_launchCohort scenario run.plan system.state

theorem Steps.starts_le
    {scenario : Scenario}
    {earlier later : System}
    (steps : Steps scenario earlier later)
    (agent : AgentId) :
    earlier.state.starts agent ≤ later.state.starts agent := by
  induction steps with
  | refl => exact Nat.le_refl _
  | tail _ step inductionHypothesis =>
      obtain ⟨started, renews⟩ := step.renews
      exact Nat.le_trans inductionHypothesis (renews.starts_le agent)

theorem Reachable.hasStartedCohort
    {scenario : Scenario}
    {system : System}
    (reachable : Reachable scenario system) :
    system.state.HasStartedCohort := by
  induction reachable with
  | refl => simp [HasStartedCohort, System.initial, State.initial]
  | tail _ step inductionHypothesis =>
      obtain ⟨started, renews⟩ := step.renews
      exact inductionHypothesis.renews renews

/-- An agent was in the current cohort, and alive, until a step replaced it. -/
def ReplacedAlive (scenario : Scenario) (agent : AgentId) (system : System) : Prop :=
  ∃ before after, Reachable scenario before ∧ Step scenario before after ∧
    Steps scenario after system ∧ before.state.isAlive agent = true ∧
    agent ∈ before.state.cohort ∧ agent ∉ after.state.cohort

theorem ReplacedAlive.steps
    {scenario : Scenario}
    {agent : AgentId}
    {earlier later : System}
    (replaced : ReplacedAlive scenario agent earlier)
    (steps : Steps scenario earlier later) :
    ReplacedAlive scenario agent later := by
  obtain ⟨before, after, reachable, step, between, alive, present, absent⟩ := replaced
  exact ⟨before, after, reachable, step, between.trans steps, alive, present, absent⟩

/-- Whoever is alive belongs to the current cohort or was replaced. -/
theorem Reachable.mem_cohort_or_replaced
    {scenario : Scenario}
    {system : System}
    (reachable : Reachable scenario system)
    {agent : AgentId}
    (alive : system.state.isAlive agent = true) :
    agent ∈ system.state.cohort ∨ ReplacedAlive scenario agent system := by
  induction reachable with
  | refl => simp [isAlive, member?, System.initial, State.initial] at alive
  | @tail before after steps step inductionHypothesis =>
      obtain ⟨started, renews⟩ := step.renews
      by_cases present : agent ∈ after.state.cohort
      · exact .inl present
      right
      -- Whoever comes to life joins the cohort in the same step.
      have aliveBefore : before.state.isAlive agent = true := by
        rcases renews.alive agent alive with before | new
        · exact before
        rcases renews.cohort with renewed | ⟨none, _⟩
        · exact absurd new (renewed ▸ present)
        · simp [none] at new
      rcases inductionHypothesis aliveBefore with inCohort | replaced
      · exact ⟨before, after, steps, step, .refl, aliveBefore, inCohort, present⟩
      · exact replaced.steps (.single step)

end Supervision
end AgentCohort
