import AgentCohort.Proofs.Supervision.Launching
import AgentCohort.Supervision.System
import Mathlib.Logic.Relation

/-!
# Executions

An execution is any sequence of moves and requests: a request may come at any time, and
of the moves that are possible any one may be the next.  What a supervisor does when it
takes requests one after the other and moves on in between is one of its executions.

A step of an execution is quiet, or records a force-stop, or begins a run, or is a step of
a run; and a step of a run is quiet unless it launches a cohort.
-/

namespace AgentCohort
namespace Supervision

open State

/-! ## Steps of joiners -/

theorem Joining.quiet_timeOut
    (timeout : Duration)
    (joiner : JoinerId)
    (generation : Nat)
    (agent : AgentId)
    (state : State) :
    Quiet state (Joining.timeOut timeout joiner generation agent state) := by
  have announced : Quiet state
      ((state.log (.joinTimedOut agent (state.nameOf agent) timeout)).announce
        (.joinTimedOut generation (state.nameOf agent))) :=
    (quiet_log _ state).trans (quiet_announce rfl _)
  exact (announced.trans (quiet_stopAgent agent _)).trans (quiet_note ⟨rfl, rfl, rfl⟩ _)

/-- A joiner passes only over agents that need not be waited for. -/
theorem Joining.step?_cases
    {scenario : Scenario}
    {joiner : JoinerId}
    {joining next : Joining}
    {state newer : State}
    (stepped : joining.step? scenario joiner state = some (next, newer)) :
    Quiet state newer ∧
      (next.remaining = joining.remaining ∨
        ∃ agent, joining.remaining = agent :: next.remaining ∧
          state.isJoinable agent = true) := by
  obtain ⟨generation, remaining, phase⟩ := joining
  cases remaining with
  | nil => simp [Joining.step?] at stepped
  | cons agent rest =>
      cases phase with
      | fresh =>
          simp only [Joining.step?, Option.some.injEq, Prod.mk.injEq] at stepped
          obtain ⟨rfl, rfl⟩ := stepped
          exact ⟨quiet_note ⟨rfl, rfl, rfl⟩ state, .inl rfl⟩
      | limited deadline =>
          simp only [Joining.step?] at stepped
          split at stepped
          · rename_i joinable
            simp only [Option.some.injEq, Prod.mk.injEq] at stepped
            obtain ⟨rfl, rfl⟩ := stepped
            exact ⟨quiet_note ⟨rfl, rfl, rfl⟩ state, .inr ⟨agent, rfl, joinable⟩⟩
          · split at stepped
            · simp only [Option.some.injEq, Prod.mk.injEq] at stepped
              obtain ⟨rfl, rfl⟩ := stepped
              exact ⟨Joining.quiet_timeOut _ joiner generation agent state, .inl rfl⟩
            · simp at stepped
      | unlimited =>
          simp only [Joining.step?] at stepped
          split at stepped
          · rename_i joinable
            simp only [Option.some.injEq, Prod.mk.injEq] at stepped
            obtain ⟨rfl, rfl⟩ := stepped
            exact ⟨quiet_note ⟨rfl, rfl, rfl⟩ state, .inr ⟨agent, rfl, joinable⟩⟩
          · simp at stepped

/-! ## Steps of runs -/

namespace Run

/-- The agents of its cohort that a run has not joined yet. -/
def awaited (run : Run) : List AgentId :=
  match run.stage with
  | .joining progress => progress.remaining
  | .launching | .cooling _ | .ended _ => []

/-- A run has gone on without a launch. -/
structure GoesOn (state : State) (run next : Run) : Prop where
  /-- It launches the same. -/
  plan : next.plan = run.plan
  /-- It is of the same kind. -/
  restarts : next.restarts = run.restarts
  /-- It was not over. -/
  active : run.outcome? = none
  /-- If it is over, it has succeeded. -/
  outcome : next.outcome? = none ∨ next.outcome? = some (.ok ())
  /-- It passes only over agents that need not be waited for. -/
  awaited : ∀ agent ∈ run.awaited, agent ∈ next.awaited ∨ state.isJoinable agent = true
  /-- It waits for nobody else. -/
  awaitedOnly : ∀ agent ∈ next.awaited, agent ∈ run.awaited

theorem quiet_finish (run : Run) (state : State) : Quiet state (run.finish state).2 :=
  (quiet_log _ state).trans (quiet_announce rfl _)

/-- A run that waits for nobody before and after a step goes on. -/
theorem goesOn_of_awaited_eq_nil
    {state : State}
    {run next : Run}
    (plan : next.plan = run.plan)
    (restarts : next.restarts = run.restarts)
    (active : run.outcome? = none)
    (outcome : next.outcome? = none ∨ next.outcome? = some (.ok ()))
    (before : run.awaited = [])
    (after : next.awaited = []) :
    GoesOn state run next where
  plan := plan
  restarts := restarts
  active := active
  outcome := outcome
  awaited agent present := by simp [before] at present
  awaitedOnly agent present := by simp [after] at present

/-- A run goes on by a step of its joiner. -/
theorem goesOn_joining
    {state : State}
    {run : Run}
    {progress later : Joining}
    (stage : run.stage = .joining progress)
    (passed : later.remaining = progress.remaining ∨
      ∃ agent, progress.remaining = agent :: later.remaining ∧
        state.isJoinable agent = true) :
    GoesOn state run (run.enter (.joining later)) where
  plan := rfl
  restarts := rfl
  active := by simp [outcome?, stage]
  outcome := .inl rfl
  awaited agent present := by
    simp only [Run.awaited, stage] at present
    rcases passed with same | ⟨first, split, joinable⟩
    · left
      change agent ∈ later.remaining
      rw [same]
      exact present
    · rw [split, List.mem_cons] at present
      rcases present with rfl | later
      · exact .inr joinable
      · exact .inl later
  awaitedOnly agent present := by
    change agent ∈ later.remaining at present
    simp only [Run.awaited, stage]
    rcases passed with same | ⟨first, split, _⟩
    · rw [← same]
      exact present
    · rw [split]
      exact List.mem_cons_of_mem first present

/-- A run that has joined its cohort is over or pauses. -/
theorem coolDown_cases
    {scenario : Scenario}
    {generation : Nat}
    {run : Run}
    {state : State}
    (active : run.outcome? = none)
    (joined : run.awaited = []) :
    Quiet state (run.coolDown scenario generation state).2 ∧
      GoesOn state run (run.coolDown scenario generation state).1 := by
  have stopped : Quiet state ((state.log .allStopped).announce (.cohortStopped generation)) :=
    (quiet_log _ state).trans (quiet_announce rfl _)
  unfold coolDown
  dsimp only
  split
  · exact ⟨stopped.trans (quiet_finish run _),
      goesOn_of_awaited_eq_nil rfl rfl active (.inr rfl) joined rfl⟩
  split
  · exact ⟨(stopped.trans (quiet_log _ _)).trans (quiet_finish run _),
      goesOn_of_awaited_eq_nil rfl rfl active (.inr rfl) joined rfl⟩
  · exact ⟨(stopped.trans (quiet_log _ _)).trans (quiet_announce rfl _),
      goesOn_of_awaited_eq_nil rfl rfl active (.inl rfl) joined rfl⟩

/-- A run goes on quietly unless it is about to launch and no force-stop is recorded. -/
theorem step?_cases
    {scenario : Scenario}
    {favoursForceStop : Bool}
    {joiner : JoinerId}
    {run next : Run}
    {state newer : State}
    (stepped : run.step? scenario favoursForceStop joiner state = some (next, newer)) :
    (run.stage = .launching ∧ state.forceStopped = false ∧
        (next, newer) = run.launch scenario state) ∨
      (Quiet state newer ∧ GoesOn state run next) := by
  cases stage : run.stage with
  | launching =>
      have active : run.outcome? = none := by simp [outcome?, stage]
      have waitsForNobody : run.awaited = [] := by simp [awaited, stage]
      simp only [step?, stage, Option.some.injEq] at stepped
      cases recorded : state.forceStopped with
      | false => exact .inl ⟨rfl, rfl, stepped.symm⟩
      | true =>
          right
          simp only [launch, recorded, if_true] at stepped
          split at stepped
          · obtain ⟨rfl, rfl⟩ := Prod.mk.inj stepped
            exact ⟨quiet_finish run state,
              goesOn_of_awaited_eq_nil rfl rfl active (.inr rfl) waitsForNobody rfl⟩
          · obtain ⟨rfl, rfl⟩ := Prod.mk.inj stepped
            exact ⟨quiet_log .launchRefused state,
              goesOn_of_awaited_eq_nil rfl rfl active (.inr rfl) waitsForNobody rfl⟩
  | joining progress =>
      have active : run.outcome? = none := by simp [outcome?, stage]
      right
      simp only [step?, stage] at stepped
      split at stepped
      · rename_i joined
        have waitsForNobody : run.awaited = [] := by
          simpa [awaited, stage] using joined
        obtain ⟨rfl, rfl⟩ := Prod.mk.inj (Option.some.inj stepped)
        exact coolDown_cases active waitsForNobody
      · obtain ⟨⟨progress', newer'⟩, joinStep, same⟩ := Option.map_eq_some_iff.mp stepped
        obtain ⟨rfl, rfl⟩ := Prod.mk.inj same
        obtain ⟨quiet, passed⟩ := Joining.step?_cases joinStep
        exact ⟨quiet, goesOn_joining stage passed⟩
  | cooling wakeTime =>
      have active : run.outcome? = none := by simp [outcome?, stage]
      have waitsForNobody : run.awaited = [] := by simp [awaited, stage]
      right
      simp only [step?, stage] at stepped
      split at stepped
      · obtain ⟨rfl, rfl⟩ := Prod.mk.inj (Option.some.inj stepped)
        exact ⟨.refl state,
          goesOn_of_awaited_eq_nil rfl rfl active (.inl rfl) waitsForNobody rfl⟩
      · split at stepped
        · obtain ⟨rfl, rfl⟩ := Prod.mk.inj (Option.some.inj stepped)
          exact ⟨(quiet_log .cooldownCut state).trans (quiet_finish run _),
            goesOn_of_awaited_eq_nil rfl rfl active (.inr rfl) waitsForNobody rfl⟩
        · simp at stepped
  | ended outcome => simp [step?, stage] at stepped

/-- What a run is after a launch that ended with an outcome. -/
inductive AfterLaunch (run : Run) : Except Failure (List AgentId) → Run → Prop
  /-- A launch that failed ends the run. -/
  | failed (failure : Failure) :
      AfterLaunch run (.error failure) (run.enter (.ended (.error failure)))
  /-- A run with restarts joins the cohort. -/
  | joining
      (generation : Nat)
      {cohort : List AgentId}
      (restarts : run.restarts = true) :
      AfterLaunch run (.ok cohort) (run.enter (.joining (.start generation cohort)))
  /-- A run without restarts is over. -/
  | complete
      {cohort : List AgentId}
      (restarts : run.restarts = false) :
      AfterLaunch run (.ok cohort) (run.enter (.ended (.ok ())))

/-- A run that launches is over afterwards, or it joins the cohort. -/
theorem launch_cases
    (scenario : Scenario)
    (run : Run)
    {state : State}
    (unforced : state.forceStopped = false) :
    (run.launch scenario state).2 = (state.launchCohort scenario run.plan).1 ∧
      AfterLaunch run (state.launchCohort scenario run.plan).2
        (run.launch scenario state).1 := by
  rcases launched : state.launchCohort scenario run.plan with ⟨newer, outcome⟩
  cases outcome with
  | error failure =>
      simp only [launch, unforced, Bool.false_eq_true, if_false, launched]
      exact ⟨trivial, .failed failure⟩
  | ok cohort =>
      cases restarts : run.restarts with
      | true =>
          simp only [launch, unforced, Bool.false_eq_true, if_false, launched, restarts, if_true]
          exact ⟨trivial, .joining newer.generation restarts⟩
      | false =>
          simp only [launch, unforced, Bool.false_eq_true, if_false, launched, restarts]
          exact ⟨trivial, .complete restarts⟩

end Run

/-! ## Steps of waits -/

/-- A wait goes on quietly. -/
theorem Wait.quiet_step?
    {scenario : Scenario}
    {joiner : JoinerId}
    {wait next : Wait}
    {state newer : State}
    (stepped : wait.step? scenario joiner state = some (next, newer)) :
    Quiet state newer := by
  cases wait with
  | looking =>
      obtain ⟨rfl, rfl⟩ := Prod.mk.inj (Option.some.inj stepped)
      exact .refl state
  | joining progress =>
      simp only [Wait.step?] at stepped
      split at stepped
      · obtain ⟨rfl, rfl⟩ := Prod.mk.inj (Option.some.inj stepped)
        exact .refl state
      · obtain ⟨⟨later, newer'⟩, joinStep, same⟩ := Option.map_eq_some_iff.mp stepped
        obtain ⟨rfl, rfl⟩ := Prod.mk.inj same
        exact (Joining.step?_cases joinStep).1
  | forForceStop =>
      simp only [Wait.step?] at stepped
      split at stepped
      · obtain ⟨rfl, rfl⟩ := Prod.mk.inj (Option.some.inj stepped)
        exact .refl state
      · simp at stepped
  | ended => simp [Wait.step?] at stepped

/-! ## Steps of systems -/

/-- What may happen next: a move that is possible, or a request. -/
inductive Step (scenario : Scenario) : System → System → Prop
  /-- The system makes a move. -/
  | move
      {system next : System}
      (move : Move)
      (possible : system.after? scenario move = some next) :
      Step scenario system next
  /-- The system takes a request in. -/
  | request
      {system : System}
      (request : Request) :
      Step scenario system (system.accept request).1

/-- Any number of steps. -/
abbrev Steps (scenario : Scenario) : System → System → Prop :=
  Relation.ReflTransGen (Step scenario)

/-- A system that a supervisor and its surroundings can come to. -/
def Reachable (scenario : Scenario) (system : System) : Prop :=
  Steps scenario .initial system

/-- What a step does to the state and to the runs. -/
inductive StepKind (scenario : Scenario) (system next : System) : Prop
  /-- It is quiet and leaves the runs alone. -/
  | quiet
      (quiet : Quiet system.state next.state)
      (runs : next.runs = system.runs)
  /-- It records a force-stop. -/
  | forceStop
      (state : next.state = system.state.forceStop)
      (runs : next.runs = system.runs)
  /-- It begins a run. -/
  | begin
      (plan : Plan)
      (restarts : Bool)
      (state : next.state = system.state)
      (runs : next.runs = system.runs ++ [.start plan restarts])
  /-- A run goes on. -/
  | goOn
      (index : Nat)
      (run later : Run)
      (found : system.runs[index]? = some run)
      (runs : next.runs = system.runs.set index later)
      (quiet : Quiet system.state next.state)
      (goesOn : run.GoesOn system.state later)
  /-- A run launches a cohort. -/
  | launch
      (index : Nat)
      (run later : Run)
      (found : system.runs[index]? = some run)
      (runs : next.runs = system.runs.set index later)
      (stage : run.stage = .launching)
      (unforced : system.state.forceStopped = false)
      (state : next.state = (system.state.launchCohort scenario run.plan).1)
      (after : run.AfterLaunch (system.state.launchCohort scenario run.plan).2 later)

namespace System

theorem stepKind_of_after?
    {scenario : Scenario}
    {system next : System}
    {move : Move}
    (possible : system.after? scenario move = some next) :
    StepKind scenario system next := by
  cases move with
  | agentEnds agent =>
      simp only [after?] at possible
      split at possible
      · obtain rfl := Option.some.inj possible
        exact .quiet (quiet_endAgent agent system.state) rfl
      · simp at possible
  | run index favoursForceStop =>
      simp only [after?, stepRun?, Option.bind_eq_bind, Option.bind_eq_some_iff] at possible
      obtain ⟨run, found, ⟨later, state⟩, stepped, same⟩ := possible
      obtain rfl := Option.some.inj same
      rcases Run.step?_cases stepped with ⟨stage, unforced, launched⟩ | ⟨quiet, goesOn⟩
      · obtain ⟨sameState, after⟩ := Run.launch_cases scenario run unforced
        rw [← launched] at sameState after
        exact .launch index run later found rfl stage unforced sameState after
      · exact .goOn index run later found rfl quiet goesOn
  | wait index =>
      simp only [after?, stepWait?, Option.bind_eq_bind, Option.bind_eq_some_iff] at possible
      obtain ⟨wait, found, ⟨later, state⟩, stepped, same⟩ := possible
      obtain rfl := Option.some.inj same
      exact .quiet (Wait.quiet_step? stepped) rfl
  | clock time =>
      simp only [after?] at possible
      split at possible
      · obtain rfl := Option.some.inj possible
        exact .quiet (quiet_clock time system.state) rfl
      · simp at possible

/-- A request about one agent is quiet if what is done to the agent is. -/
theorem stepKind_withAgent
    (scenario : Scenario)
    (system : System)
    (agent : AgentId)
    {change : AgentId → State → State}
    (quiet : ∀ state, Quiet state (change agent state)) :
    StepKind scenario system (system.withAgent agent change).1 := by
  unfold withAgent
  split
  · exact .quiet (quiet system.state) rfl
  · exact .quiet (.refl _) rfl

theorem stepKind_accept (scenario : Scenario) (system : System) (request : Request) :
    StepKind scenario system (system.accept request).1 := by
  cases request with
  | run names orchestrator base restarts =>
      simp only [accept]
      split
      · exact .quiet (.refl _) rfl
      · exact .begin _ restarts rfl rfl
  | advance milliseconds => exact .quiet (.refl _) rfl
  | finish agent => exact stepKind_withAgent scenario system agent (quiet_endAgent agent)
  | stopAgent agent => exact stepKind_withAgent scenario system agent (quiet_stopAgent agent)
  | forceStop => exact .forceStop rfl rfl
  | waitForCohort => exact .quiet (.refl _) rfl
  | waitForForceStop => exact .quiet (.refl _) rfl
  | subscribe => exact .quiet (.refl _) rfl
  | look => exact .quiet (.refl _) rfl

end System

/-- Every step is of one of the kinds. -/
theorem Step.kind
    {scenario : Scenario}
    {system next : System}
    (step : Step scenario system next) :
    StepKind scenario system next := by
  cases step with
  | move move possible => exact System.stepKind_of_after? possible
  | request request => exact System.stepKind_accept scenario system request

/-- The runs do not become fewer. -/
theorem Step.length_runs_le
    {scenario : Scenario}
    {system next : System}
    (step : Step scenario system next) :
    system.runs.length ≤ next.runs.length := by
  cases step.kind with
  | quiet _ runs | forceStop _ runs => exact Nat.le_of_eq (by rw [runs])
  | begin plan restarts _ runs => simp [runs]
  | goOn index run later _ runs | launch index run later _ runs => simp [runs]

/-! ## What every step keeps -/

/-- A step is calm unless a run launches a cohort, which no run does after a force-stop. -/
theorem Step.calm_or_launches
    {scenario : Scenario}
    {system next : System}
    (step : Step scenario system next) :
    Calm Occurrence.IsQuiet system.state next.state ∨
      system.state.forceStopped = false ∧
        ∃ run ∈ system.runs, run.stage = .launching ∧
          next.state = (system.state.launchCohort scenario run.plan).1 := by
  cases step.kind with
  | quiet quiet _ | goOn _ _ _ _ _ quiet _ => exact .inl quiet.toCalm
  | forceStop state _ =>
      rw [state]
      exact .inl (calm_forceStop system.state)
  | begin _ _ state _ =>
      rw [state]
      exact .inl (.refl system.state)
  | launch _ run _ found _ stage unforced state _ =>
      exact .inr ⟨unforced, run, List.mem_of_getElem? found, stage, state⟩

/-- Nothing is forgotten in a step. -/
theorem Step.grows
    {scenario : Scenario}
    {system next : System}
    (step : Step scenario system next) :
    Grows (fun _ => True) system.state next.state := by
  rcases step.calm_or_launches with calm | ⟨_, run, _, _, state⟩
  · exact calm.toGrows.anything
  · rw [state]
    exact (launchesCohort_launchCohort scenario run.plan system.state).grows

/-- Nothing is forgotten in an execution. -/
theorem Steps.grows
    {scenario : Scenario}
    {system later : System}
    (steps : Steps scenario system later) :
    Grows (fun _ => True) system.state later.state := by
  induction steps with
  | refl => exact .refl _
  | tail _ step inductionHypothesis => exact inductionHypothesis.trans step.grows

/-- The history accounts for what the agents and the record of a force-stop look like. -/
structure State.Accounted (state : State) : Prop where
  /-- It tells of the agents that have ended. -/
  ended : ∀ agent, state.hasEnded agent = true → .finish agent ∈ state.history
  /-- It tells of the agents that have been launched. -/
  launched : ∀ agent, state.isLaunched agent = true → .start agent ∈ state.history
  /-- It tells of a force-stop that has been recorded. -/
  forceStopped : state.forceStopped = true →
    ∃ cohort, .notice (.forceStop cohort) ∈ state.history

theorem State.accounted_initial : State.initial.Accounted where
  ended agent ended := by simp [hasEnded, member?, State.initial] at ended
  launched agent launched := by simp [isLaunched, member?, State.initial] at launched
  forceStopped recorded := by simp [State.initial] at recorded

/-- Growth keeps a history that accounts for everything if it tells of those who are newly
launched. -/
theorem State.Accounted.grows
    {Permitted : Occurrence → Prop}
    {older newer : State}
    (accounted : older.Accounted)
    (grows : Grows Permitted older newer)
    (asked : ∀ agent, newer.isLaunched agent = true →
      older.isLaunched agent = true ∨ .start agent ∈ newer.history) :
    newer.Accounted where
  ended agent ended := by
    rcases grows.finished agent ended with before | told
    · exact grows.mem_history (accounted.ended agent before)
    · exact told
  launched agent launched := by
    rcases asked agent launched with before | told
    · exact grows.mem_history (accounted.launched agent before)
    · exact told
  forceStopped recorded := by
    rcases grows.noticed recorded with before | told
    · obtain ⟨cohort, notice⟩ := accounted.forceStopped before
      exact ⟨cohort, grows.mem_history notice⟩
    · exact told

theorem State.Accounted.calm
    {Permitted : Occurrence → Prop}
    {older newer : State}
    (accounted : older.Accounted)
    (calm : Calm Permitted older newer) :
    newer.Accounted :=
  accounted.grows calm.toGrows fun agent launched =>
    .inl ((calm.launched agent).symm.trans launched)

theorem Step.accounted
    {scenario : Scenario}
    {system next : System}
    (step : Step scenario system next)
    (accounted : system.state.Accounted) :
    next.state.Accounted := by
  rcases step.calm_or_launches with calm | ⟨_, run, _, _, state⟩
  · exact accounted.calm calm
  · have launches := launchesCohort_launchCohort scenario run.plan system.state
    rw [state]
    exact accounted.grows launches.grows fun agent => launches.asked

theorem Reachable.accounted
    {scenario : Scenario}
    {system : System}
    (reachable : Reachable scenario system) :
    system.state.Accounted := by
  induction reachable with
  | refl => exact accounted_initial
  | tail _ step inductionHypothesis => exact step.accounted inductionHypothesis

/-! ## Executions that the supervisor chooses -/

/-- A system that moves on makes steps. -/
theorem steps_advance
    (scenario : Scenario)
    (target moves : Nat)
    (system : System) :
    Steps scenario system (system.advance scenario target moves) := by
  induction moves generalizing system with
  | zero => exact .refl
  | succ moves inductionHypothesis =>
      unfold System.advance
      split
      · exact .refl
      · rename_i move chosen
        split
        · exact .refl
        · rename_i next possible
          exact .head (.move move possible) (inductionHypothesis next)

/-- Taking a request in and moving on until everything is at rest is an execution. -/
theorem steps_perform
    (scenario : Scenario)
    (request : Request)
    (system : System) :
    Steps scenario system (system.perform scenario request).1 :=
  .head (.request request) (steps_advance scenario _ System.patience _)

end Supervision
end AgentCohort
