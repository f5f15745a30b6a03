import AgentCohort.Proofs.Supervision.Relaunch

/-!
# Whom a force-stop reaches

In a supervisor with one run, a force-stop reaches every agent that is alive: the agent
has been asked to stop after the first force-stop.  Two things make this so.  Outside of
launches all agents that are alive belong to the current cohort, which is the one that a
force-stop asks to stop.  A force-stop during a launch finds the cohort before, and the
agents of the launch are asked to stop when they are published, whether the launch has
succeeded or not.
-/

namespace AgentCohort
namespace Supervision

open State

/-! ## Histories -/

/-- A history in which an agent was asked to stop after the first force-stop. -/
def StoppedSinceForceStop (agent : AgentId) (history : List Occurrence) : Prop :=
  ∃ newer cohort older, history = newer ++ .notice (.forceStop cohort) :: older ∧
    (∀ other, .notice (.forceStop other) ∉ older) ∧ .stop agent ∈ newer

/-- Among the force-stops of a history there is a first one. -/
theorem exists_first_forceStop
    {cohort : List AgentId}
    {history : List Occurrence}
    (happened : .notice (.forceStop cohort) ∈ history) :
    ∃ newer first older, history = newer ++ .notice (.forceStop first) :: older ∧
      ∀ other, .notice (.forceStop other) ∉ older := by
  induction history generalizing cohort with
  | nil => simp at happened
  | cons occurrence history inductionHypothesis =>
      by_cases earlier : ∃ other, .notice (.forceStop other) ∈ history
      · obtain ⟨other, happenedEarlier⟩ := earlier
        obtain ⟨newer, first, older, split, isFirst⟩ := inductionHypothesis happenedEarlier
        exact ⟨occurrence :: newer, first, older, by rw [split, List.cons_append], isFirst⟩
      · have first : occurrence = .notice (.forceStop cohort) := by
          rcases List.mem_cons.mp happened with same | inRest
          · exact same.symm
          · exact absurd ⟨cohort, inRest⟩ earlier
        subst first
        exact ⟨[], cohort, history, rfl, fun other present => earlier ⟨other, present⟩⟩

/-- A stop after any force-stop comes after the first one. -/
theorem stoppedSinceForceStop_of_append
    {agent : AgentId}
    {cohort : List AgentId}
    {newer older : List Occurrence}
    (forced : .notice (.forceStop cohort) ∈ older)
    (stopped : .stop agent ∈ newer) :
    StoppedSinceForceStop agent (newer ++ older) := by
  obtain ⟨between, first, before, split, isFirst⟩ := exists_first_forceStop forced
  refine ⟨newer ++ between, first, before, ?_, isFirst, List.mem_append_left _ stopped⟩
  rw [split, List.append_assoc]

theorem StoppedSinceForceStop.append
    {agent : AgentId}
    {history : List Occurrence}
    (stopped : StoppedSinceForceStop agent history)
    (added : List Occurrence) :
    StoppedSinceForceStop agent (added ++ history) := by
  obtain ⟨newer, cohort, older, split, isFirst, present⟩ := stopped
  refine ⟨added ++ newer, cohort, older, ?_, isFirst, List.mem_append_right _ present⟩
  rw [split, List.append_assoc]

theorem StoppedSinceForceStop.grows
    {Permitted : Occurrence → Prop}
    {agent : AgentId}
    {older newer : State}
    (stopped : StoppedSinceForceStop agent older.history)
    (grows : Grows Permitted older newer) :
    StoppedSinceForceStop agent newer.history := by
  obtain ⟨added, grown, _⟩ := grows.history
  rw [grown]
  exact stopped.append added

/-! ## Force-stops and publications -/

/-- A force-stop reaches every launched agent of the current cohort. -/
theorem stoppedSinceForceStop_forceStop
    {state : State}
    {agent : AgentId}
    (present : agent ∈ state.cohort)
    (launched : state.isLaunched agent = true) :
    StoppedSinceForceStop agent state.forceStop.history := by
  obtain ⟨recorded, calm, noticed, split⟩ := exists_forceStop_eq state
  obtain ⟨added, grown, stopped⟩ :=
    stop_mem_stopAgents present ((calm.launched agent).trans launched)
  rw [split, announce, history_note, grown]
  exact (stoppedSinceForceStop_of_append noticed stopped).append [_]

/-- A force-stop that has been noticed reaches every launched agent of a cohort that is
published. -/
theorem State.Published.stoppedSinceForceStop
    {cohort forced : List AgentId}
    {older newer : State}
    (publication : Published cohort older newer)
    (recorded : older.forceStopped = true)
    (noticed : .notice (.forceStop forced) ∈ older.history)
    {agent : AgentId}
    (present : agent ∈ cohort)
    (launched : older.isLaunched agent = true) :
    StoppedSinceForceStop agent newer.history := by
  obtain ⟨added, grown, stopped⟩ := publication.reached recorded agent present launched
  rw [grown]
  exact stoppedSinceForceStop_of_append noticed stopped

/-- Nobody is alive after a publication who was not alive before. -/
theorem State.Published.isAlive_of_isAlive
    {cohort : List AgentId}
    {older newer : State}
    (publication : Published cohort older newer)
    {agent : AgentId}
    (alive : newer.isAlive agent = true) :
    older.isAlive agent = true := by
  rw [isAlive_iff] at alive ⊢
  exact ⟨(publication.launched agent).symm.trans alive.1,
    publication.hasEnded_eq_false alive.2⟩

/-- What holds of a launch that begins when nobody is alive and no force-stop has been recorded:
all agents that are alive after it are published, and a force-stop reaches them. -/
theorem State.LaunchesCohort.reached
    {older newer : State}
    {outcome : Except Failure (List AgentId)}
    (launches : LaunchesCohort older newer outcome)
    (nobody : ∀ agent, older.isAlive agent = false)
    (unforced : older.forceStopped = false)
    {agent : AgentId}
    (alive : newer.isAlive agent = true) :
    agent ∈ newer.cohort ∧
      (newer.forceStopped = true → StoppedSinceForceStop agent newer.history) := by
  have published
      {started tried : List AgentId}
      {launched published : State}
      (launching : Launching started tried older launched)
      (publication : Published started launched published)
      (alive : published.isAlive agent = true) :
      agent ∈ published.cohort ∧
        (published.forceStopped = true → StoppedSinceForceStop agent published.history) := by
    have aliveBefore := publication.isAlive_of_isAlive alive
    have present : agent ∈ started := by
      rcases launching.isAlive_or_mem aliveBefore with before | present
      · simp [nobody] at before
      · exact present
    rw [publication.current]
    refine ⟨present, fun recorded => ?_⟩
    rw [publication.unforced] at recorded
    rcases launching.noticed recorded with before | ⟨forced, noticed⟩
    · simp [unforced] at before
    · exact publication.stoppedSinceForceStop recorded noticed present
        (isAlive_iff.mp aliveBefore).1
  cases launches with
  | complete generation names launching publication =>
      obtain ⟨present, stopped⟩ := published launching publication alive
      exact ⟨present, fun recorded => (stopped recorded).append [_]⟩
  | broken failure launching publication => exact published launching publication alive
  | fruitless failure launching =>
      rcases launching.isAlive_or_mem alive with before | present
      · simp [nobody] at before
      · simp at present

/-! ## Supervisors with one run -/

/-- A supervisor in which the agents that are alive belong to the current cohort and have
been reached by any force-stop. -/
structure Reached (state : State) : Prop where
  /-- The agents that are alive belong to the current cohort. -/
  published : ∀ agent, state.isAlive agent = true → agent ∈ state.cohort
  /-- A force-stop has reached them. -/
  stopped : state.forceStopped = true → ∀ agent, state.isAlive agent = true →
    StoppedSinceForceStop agent state.history

theorem reached_initial : Reached .initial where
  published agent alive := by simp [isAlive, member?, State.initial] at alive
  stopped recorded := by simp [State.initial] at recorded

theorem Reached.quiet
    {older newer : State}
    (reached : Reached older)
    (quiet : Quiet older newer) :
    Reached newer where
  published agent alive := by
    rw [quiet.cohort]
    exact reached.published agent (quiet.isAlive_of_isAlive alive)
  stopped recorded agent alive :=
    (reached.stopped (quiet.unforced.symm.trans recorded) agent
      (quiet.isAlive_of_isAlive alive)).grows quiet.toGrows

theorem Reached.forceStop {state : State} (reached : Reached state) :
    Reached state.forceStop := by
  have calm := calm_forceStop state
  refine ⟨?_, ?_⟩
  · intro agent alive
    rw [calm.cohort]
    exact reached.published agent (calm.isAlive_of_isAlive alive)
  · intro _ agent alive
    have aliveBefore := calm.isAlive_of_isAlive alive
    exact stoppedSinceForceStop_forceStop (reached.published agent aliveBefore)
      (isAlive_iff.mp aliveBefore).1

theorem Step.reached
    {scenario : Scenario}
    {system next : System}
    (step : Step scenario system next)
    (single : system.runs.length ≤ 1)
    (accounted : system.state.Accounted)
    (orderly : Orderly system)
    (reached : Reached system.state) :
    Reached next.state := by
  cases step.kind with
  | quiet quiet _ => exact reached.quiet quiet
  | forceStop state _ =>
      rw [state]
      exact reached.forceStop
  | begin _ _ state _ =>
      rw [state]
      exact reached
  | goOn _ _ _ _ _ quiet _ => exact reached.quiet quiet
  | launch index run later found runs stage unforced state after =>
      obtain ⟨only, _⟩ := eq_singleton_of_getElem? single found
      have nobody (agent : AgentId) : system.state.isAlive agent = false := by
        cases alive : system.state.isAlive agent with
        | false => rfl
        | true =>
            obtain ⟨launched, active⟩ := isAlive_iff.mp alive
            have ended := orderly.hasEnded_of_launching only stage
              (accounted.launched agent launched)
            exact absurd ended (by simp [active])
      have launches := launchesCohort_launchCohort scenario run.plan system.state
      rw [← state] at launches
      exact ⟨fun agent alive => (launches.reached nobody unforced alive).1,
        fun recorded agent alive => (launches.reached nobody unforced alive).2 recorded⟩

/-- In a supervisor with one run, once a force-stop has been recorded, every agent that is
alive has been asked to stop after the first force-stop. -/
theorem stoppedSinceForceStop_of_isAlive
    {scenario : Scenario}
    {system : System}
    (reachable : Reachable scenario system)
    (single : system.runs.length ≤ 1)
    (recorded : system.state.forceStopped = true)
    {agent : AgentId}
    (alive : system.state.isAlive agent = true) :
    StoppedSinceForceStop agent system.state.history := by
  have reached : Reached system.state := by
    clear recorded alive
    induction reachable with
    | refl => exact reached_initial
    | tail steps step inductionHypothesis =>
        have singleBefore := Nat.le_trans step.length_runs_le single
        exact step.reached singleBefore (Reachable.accounted steps)
          (Reachable.orderly steps singleBefore) (inductionHypothesis singleBefore)
  exact reached.stopped recorded agent alive

/-- Agents that call for a force-stop while they are started and ignore requests to stop. -/
def callingOut : Scenario :=
  ⟨⟨10, none, none, .leaveRunning⟩,
    fun _ _ => { Behaviour.standard with ignoresStop := true, forceStops := [.start] },
    .isolated⟩

/-- A run that was overtaken by force-stops in the launch of its first cohort. -/
def overtakenLaunch : System :=
  (System.initial.perform callingOut (.run ["a", "b"] "o:1" ⟨none, 9001, none⟩ true)).1

theorem stoppedSinceForceStop_overtakenLaunch :
    overtakenLaunch.runs.length ≤ 1 ∧ overtakenLaunch.state.forceStopped = true ∧
      overtakenLaunch.state.isAlive 1 = true ∧
      StoppedSinceForceStop 1 overtakenLaunch.state.history :=
  ⟨by decide, by decide, by decide,
    stoppedSinceForceStop_of_isAlive (steps_perform callingOut _ _) (by decide) (by decide)
      (by decide)⟩

end Supervision
end AgentCohort
