import AgentCohort.Proofs.Supervision.Execution

/-!
# Relaunches

A run launches a cohort again only when the agents of all its earlier cohorts have ended.
The statement is about the history of a supervisor with one run: whenever an agent is to
be made, each agent that was started in an earlier generation has already ended.

Between two launches the agents that have been started are those that have ended and those
that the run still waits for, and a run waits for nobody when it is about to launch.
-/

namespace AgentCohort
namespace Supervision

open State

/-! ## Histories -/

/-- A history in which an agent was started in a generation whose launch is complete. -/
def StartedEarlier (agent : AgentId) (history : List Occurrence) : Prop :=
  ∃ newer generation names older,
    history = newer ++ .event (.cohortStarted generation names) :: older ∧
      .start agent ∈ older

/-- A history in which agents are made only when those of earlier generations have ended. -/
def RelaunchesLate (history : List Occurrence) : Prop :=
  ∀ newer blueprint older, history = newer ++ .create blueprint :: older →
    ∀ agent, StartedEarlier agent older → .finish agent ∈ older

/-- A history in which the agents of earlier generations have ended. -/
def EarlierEnded (history : List Occurrence) : Prop :=
  ∀ agent, StartedEarlier agent history → .finish agent ∈ history

theorem StartedEarlier.start_mem
    {agent : AgentId}
    {history : List Occurrence}
    (started : StartedEarlier agent history) :
    .start agent ∈ history := by
  obtain ⟨newer, generation, names, older, split, present⟩ := started
  rw [split]
  exact List.mem_append_right _ (List.mem_cons_of_mem _ present)

/-- Only the completion of a launch makes a generation an earlier one. -/
theorem StartedEarlier.of_cons
    {agent : AgentId}
    {occurrence : Occurrence}
    {history : List Occurrence}
    (inner : occurrence.isCompletion = false)
    (started : StartedEarlier agent (occurrence :: history)) :
    StartedEarlier agent history := by
  obtain ⟨newer, generation, names, older, split, present⟩ := started
  cases newer with
  | nil =>
      obtain ⟨rfl, rfl⟩ := List.cons.inj split
      simp [Occurrence.isCompletion] at inner
  | cons first rest =>
      obtain ⟨rfl, tail⟩ := List.cons.inj split
      exact ⟨rest, generation, names, older, tail, present⟩

theorem relaunchesLate_nil : RelaunchesLate [] := by
  intro newer blueprint older split
  simp at split

theorem RelaunchesLate.cons
    {occurrence : Occurrence}
    {history : List Occurrence}
    (late : RelaunchesLate history)
    (making : ∀ blueprint, occurrence = .create blueprint → EarlierEnded history) :
    RelaunchesLate (occurrence :: history) := by
  intro newer blueprint older split
  cases newer with
  | nil =>
      obtain ⟨same, rfl⟩ := List.cons.inj split
      exact making blueprint same
  | cons first rest =>
      obtain ⟨_, tail⟩ := List.cons.inj split
      exact late rest blueprint older tail

/-- What makes no agents may happen at any time. -/
theorem RelaunchesLate.append_quiet
    {added history : List Occurrence}
    (late : RelaunchesLate history)
    (makesNone : ∀ occurrence ∈ added, occurrence.isCreation = false) :
    RelaunchesLate (added ++ history) := by
  induction added with
  | nil => exact late
  | cons occurrence added inductionHypothesis =>
      refine RelaunchesLate.cons
        (inductionHypothesis fun other present =>
          makesNone other (List.mem_cons_of_mem _ present)) ?_
      intro blueprint same
      have := makesNone occurrence List.mem_cons_self
      simp [same, Occurrence.isCreation] at this

/-- A launch may happen when the agents of earlier generations have ended; until it is
complete this does not change. -/
theorem RelaunchesLate.append_launch
    {added history : List Occurrence}
    (late : RelaunchesLate history)
    (ended : EarlierEnded history)
    (inner : ∀ occurrence ∈ added, occurrence.isCompletion = false) :
    RelaunchesLate (added ++ history) ∧ EarlierEnded (added ++ history) := by
  induction added with
  | nil => exact ⟨late, ended⟩
  | cons occurrence added inductionHypothesis =>
      obtain ⟨lateRest, endedRest⟩ := inductionHypothesis fun other present =>
        inner other (List.mem_cons_of_mem _ present)
      refine ⟨lateRest.cons fun _ _ => endedRest, ?_⟩
      intro agent started
      exact List.mem_cons_of_mem _
        (endedRest agent (started.of_cons (inner occurrence List.mem_cons_self)))

/-! ## Supervisors with one run -/

namespace Run

/-- A run that is over, or that still waits for an agent. -/
def Covers (run : Run) (agent : AgentId) : Prop :=
  agent ∈ run.awaited ∨ run.outcome? ≠ none

/-- A run that goes on covers the same agents, less some that it waited for in vain. -/
theorem GoesOn.covers
    {state : State}
    {run next : Run}
    (goesOn : GoesOn state run next)
    {agent : AgentId}
    (covers : run.Covers agent) :
    next.Covers agent ∨ (agent ∈ run.awaited ∧ state.isJoinable agent = true) := by
  rcases covers with awaited | finished
  · rcases goesOn.awaited agent awaited with still | joinable
    · exact .inl (.inl still)
    · exact .inr ⟨awaited, joinable⟩
  · exact absurd goesOn.active finished

theorem covers_of_ended (run : Run) (outcome : Except Failure Unit) (agent : AgentId) :
    (run.enter (.ended outcome)).Covers agent :=
  .inr (by simp [outcome?, enter])

theorem not_covers_of_launching
    {run : Run}
    (stage : run.stage = .launching)
    (agent : AgentId) :
    ¬run.Covers agent := by
  simp [Covers, awaited, outcome?, stage]

end Run

/-- A supervisor in which each agent that was asked to start has ended, or is covered by a
run. -/
structure Orderly (system : System) : Prop where
  /-- Agents are made only when those of earlier generations have ended. -/
  late : RelaunchesLate system.state.history
  /-- Whoever was asked to start has ended or is covered by a run. -/
  settled : ∀ agent, .start agent ∈ system.state.history →
    system.state.hasEnded agent = true ∨ ∃ run ∈ system.runs, run.Covers agent
  /-- The runs wait for agents that were asked to start. -/
  awaited : ∀ run ∈ system.runs, ∀ agent ∈ run.awaited, 0 < system.state.starts agent

theorem orderly_initial : Orderly .initial where
  late := relaunchesLate_nil
  settled agent happened := by simp [System.initial] at happened
  awaited run present := by simp [System.initial] at present

/-- A calm change of the state keeps the order as long as the runs stay. -/
theorem Orderly.calm
    {system next : System}
    (orderly : Orderly system)
    (calm : Calm Occurrence.IsQuiet system.state next.state)
    (runs : next.runs = system.runs) :
    Orderly next where
  late := by
    obtain ⟨added, grown, quiet⟩ := calm.history
    rw [grown]
    exact orderly.late.append_quiet fun occurrence present => (quiet occurrence present).creation
  settled agent happened := by
    rcases calm.mem_history_or happened with before | quiet
    · rw [runs]
      exact (orderly.settled agent before).imp_left (calm.ended agent)
    · exact absurd quiet.start (by simp [Occurrence.isStart])
  awaited run present agent awaited := by
    rw [runs] at present
    rw [calm.starts]
    exact orderly.awaited run present agent awaited

/-- The first run begins when nobody was asked to start. -/
theorem Orderly.begin
    {system next : System}
    {plan : Plan}
    {restarts : Bool}
    (orderly : Orderly system)
    (none : system.runs = [])
    (state : next.state = system.state)
    (runs : next.runs = system.runs ++ [.start plan restarts]) :
    Orderly next where
  late := by
    rw [state]
    exact orderly.late
  settled agent happened := by
    rw [state] at happened ⊢
    rcases orderly.settled agent happened with ended | ⟨run, present, _⟩
    · exact .inl ended
    · simp [none] at present
  awaited run present agent awaited := by
    have same : run = .start plan restarts := by simpa [runs, none] using present
    simp [same, Run.awaited, Run.start] at awaited

/-- A run that goes on keeps the order. -/
theorem Orderly.goOn
    {system next : System}
    {run later : Run}
    (orderly : Orderly system)
    (runs : system.runs = [run])
    (runsAfter : next.runs = [later])
    (quiet : Quiet system.state next.state)
    (goesOn : run.GoesOn system.state later) :
    Orderly next where
  late := by
    obtain ⟨added, grown, quiet⟩ := quiet.history
    rw [grown]
    exact orderly.late.append_quiet fun occurrence present => (quiet occurrence present).creation
  settled agent happened := by
    have before : .start agent ∈ system.state.history := by
      rcases quiet.mem_history_or happened with before | quiet
      · exact before
      · exact absurd quiet.start (by simp [Occurrence.isStart])
    rcases orderly.settled agent before with ended | ⟨other, present, covers⟩
    · exact .inl (quiet.ended agent ended)
    · have same : other = run := by simpa [runs] using present
      subst same
      rcases goesOn.covers covers with still | ⟨awaited, joinable⟩
      · exact .inr ⟨later, by simp [runsAfter], still⟩
      · have ended := hasEnded_of_isJoinable joinable
          (orderly.awaited other present agent awaited)
        exact .inl (quiet.ended agent ended)
  awaited other present agent awaited := by
    have same : other = later := by simpa [runsAfter] using present
    subst same
    rw [quiet.starts]
    exact orderly.awaited run (by simp [runs]) agent (goesOn.awaitedOnly agent awaited)

/-- When its only run is about to launch, all agents of a supervisor have ended. -/
theorem Orderly.hasEnded_of_launching
    {system : System}
    {run : Run}
    (orderly : Orderly system)
    (runs : system.runs = [run])
    (stage : run.stage = .launching)
    {agent : AgentId}
    (started : .start agent ∈ system.state.history) :
    system.state.hasEnded agent = true := by
  rcases orderly.settled agent started with ended | ⟨other, present, covers⟩
  · exact ended
  · have same : other = run := by simpa [runs] using present
    subst same
    exact absurd covers (Run.not_covers_of_launching stage agent)

/-- The order of a history survives the launch of a cohort that begins when the agents of
earlier generations have ended. -/
theorem RelaunchesLate.launchesCohort
    {older newer : State}
    {outcome : Except Failure (List AgentId)}
    (late : RelaunchesLate older.history)
    (ended : EarlierEnded older.history)
    (launches : LaunchesCohort older newer outcome) :
    RelaunchesLate newer.history := by
  have published {cohort : List AgentId} {launched published : State}
      (launching : ∃ started tried, Launching started tried older launched)
      (publication : Published cohort launched published) :
      RelaunchesLate published.history := by
    obtain ⟨started, tried, launching⟩ := launching
    obtain ⟨added, grown, inner⟩ := launching.history
    obtain ⟨addedLater, grownLater, quiet⟩ := publication.history
    rw [grownLater, grown]
    exact (late.append_launch ended inner).1.append_quiet
      fun occurrence present => (quiet occurrence present).creation
  cases launches with
  | complete generation names launching publication =>
      exact (published ⟨_, _, launching⟩ publication).cons (by simp)
  | broken failure launching publication => exact published ⟨_, _, launching⟩ publication
  | fruitless failure launching =>
      obtain ⟨added, grown, inner⟩ := launching.history
      rw [grown]
      exact (late.append_launch ended inner).1

/-- A run that launches keeps the order. -/
theorem Orderly.launch
    {system next : System}
    {run later : Run}
    {outcome : Except Failure (List AgentId)}
    (orderly : Orderly system)
    (accounted : system.state.Accounted)
    (runs : system.runs = [run])
    (runsAfter : next.runs = [later])
    (stage : run.stage = .launching)
    (launches : LaunchesCohort system.state next.state outcome)
    (after : run.AfterLaunch outcome later) :
    Orderly next where
  late := by
    refine orderly.late.launchesCohort ?_ launches
    intro agent started
    exact accounted.ended agent
      (orderly.hasEnded_of_launching runs stage started.start_mem)
  settled agent happened := by
    rw [runsAfter]
    cases after with
    | failed failure => exact .inr ⟨_, List.mem_singleton_self _, run.covers_of_ended _ agent⟩
    | complete restarts => exact .inr ⟨_, List.mem_singleton_self _, run.covers_of_ended _ agent⟩
    | joining generation restarts =>
        rcases launches.askedOnly happened with before | present
        · exact .inl (launches.grows.ended agent
            (orderly.hasEnded_of_launching runs stage before))
        · exact .inr ⟨_, List.mem_singleton_self _, .inl present⟩
  awaited other present agent awaited := by
    rw [runsAfter, List.mem_singleton] at present
    subst present
    cases after with
    | failed failure => simp [Run.awaited, Run.enter] at awaited
    | complete restarts => simp [Run.awaited, Run.enter] at awaited
    | joining generation restarts => exact launches.starts_pos awaited

theorem eq_singleton_of_getElem?
    {items : List α}
    {item : α}
    {index : Nat}
    (short : items.length ≤ 1)
    (found : items[index]? = some item) :
    items = [item] ∧ index = 0 := by
  match items with
  | [] => simp at found
  | [only] =>
      cases index with
      | zero => simpa using found
      | succ index => simp at found
  | first :: second :: rest => simp at short

theorem Step.orderly
    {scenario : Scenario}
    {system next : System}
    (step : Step scenario system next)
    (single : next.runs.length ≤ 1)
    (accounted : system.state.Accounted)
    (orderly : Orderly system) :
    Orderly next := by
  have singleBefore := Nat.le_trans step.length_runs_le single
  cases step.kind with
  | quiet quiet runs => exact orderly.calm quiet.toCalm runs
  | forceStop state runs =>
      refine orderly.calm ?_ runs
      rw [state]
      exact calm_forceStop system.state
  | begin plan restarts state runs =>
      have none : system.runs = [] := by
        rw [runs, List.length_append, List.length_singleton] at single
        exact List.eq_nil_of_length_eq_zero (by omega)
      exact orderly.begin none state runs
  | goOn index run later found runs quiet goesOn =>
      obtain ⟨only, rfl⟩ := eq_singleton_of_getElem? singleBefore found
      exact orderly.goOn only (by rw [runs, only]; rfl) quiet goesOn
  | launch index run later found runs stage unforced state after =>
      obtain ⟨only, rfl⟩ := eq_singleton_of_getElem? singleBefore found
      refine orderly.launch accounted only (by rw [runs, only]; rfl) stage ?_ after
      rw [state]
      exact launchesCohort_launchCohort scenario run.plan system.state

theorem Reachable.orderly
    {scenario : Scenario}
    {system : System}
    (reachable : Reachable scenario system)
    (single : system.runs.length ≤ 1) :
    Orderly system := by
  induction reachable with
  | refl => exact orderly_initial
  | tail steps step inductionHypothesis =>
      exact step.orderly single (Reachable.accounted steps)
        (inductionHypothesis (Nat.le_trans step.length_runs_le single))

/-- A supervisor with one run makes agents only when those of all earlier generations have
ended, and its run is about to launch only when all launched agents have ended. -/
theorem relaunchesLate_and_all_ended
    {scenario : Scenario}
    {system : System}
    (reachable : Reachable scenario system)
    (single : system.runs.length ≤ 1) :
    RelaunchesLate system.state.history ∧
      ∀ run ∈ system.runs, run.stage = .launching →
        ∀ agent, system.state.isLaunched agent = true → system.state.hasEnded agent = true := by
  have orderly := reachable.orderly single
  refine ⟨orderly.late, ?_⟩
  intro run present stage agent launched
  obtain ⟨index, found⟩ := List.getElem?_of_mem present
  obtain ⟨only, _⟩ := eq_singleton_of_getElem? single found
  exact orderly.hasEnded_of_launching only stage (reachable.accounted.launched agent launched)

/-- Agents that take half a second to stop, for which a supervisor waits one second. -/
def slowToStop : Scenario :=
  ⟨⟨10, some 1, none, .leaveRunning⟩,
    fun _ _ => { Behaviour.standard with stopDelay := 500 }, .isolated⟩

/-- A run that has waited for its first cohort in vain, asked it to stop and launched
another one. -/
def relaunched : System :=
  let begun := System.initial.perform slowToStop (.run ["a"] "o:1" ⟨none, 9001, none⟩ true)
  (begun.1.perform slowToStop (.advance 12000)).1

theorem relaunchesLate_relaunched :
    relaunched.runs.length ≤ 1 ∧ relaunched.state.generation = 2 ∧
      RelaunchesLate relaunched.state.history :=
  ⟨by decide, by decide,
    (relaunchesLate_and_all_ended
      ((steps_perform slowToStop _ _).trans (steps_perform slowToStop _ _)) (by decide)).1⟩

end Supervision
end AgentCohort
