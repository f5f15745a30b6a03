import AgentCohort.Proofs.Supervision.Effects
import AgentCohort.Proofs.Supervision.Execution

/-!
# Turns

What a run or a wait does when it takes a step, case by case: what it is afterwards, what
the listeners are told, and who is asked to stop.  A joiner asks the agent that it is at to
stop when the time for it is over; beside that only the launch of a cohort asks anybody.
-/

namespace AgentCohort
namespace Supervision

open State

/-! ## Joiners -/

namespace Joining

/-- Whether a joiner has waited for an agent as long as it may: the agent is the one that
it is at, has not ended, and the time for it is over. -/
def TimesOut (joining : Joining) (agent : AgentId) (state : State) : Prop :=
  joining.remaining.head? = some agent ∧ state.isJoinable agent = false ∧
    joining.deadline?.any (· ≤ state.now) = true

instance (joining : Joining) (agent : AgentId) (state : State) :
    Decidable (joining.TimesOut agent state) :=
  inferInstanceAs (Decidable (_ ∧ _ ∧ _))

/-- A turn of a joiner. -/
inductive Turn (scenario : Scenario) (state : State) (joining : Joining) :
    Joining → List Event → List AgentId → Prop
  /-- It begins to wait for an agent. -/
  | begins
      (phase : joining.phase = .fresh) :
      Turn scenario state joining
        { joining with phase := firstPhase scenario state } [] []
  /-- It passes over an agent that need not be waited for. -/
  | passes
      {agent : AgentId}
      {rest : List AgentId}
      (remaining : joining.remaining = agent :: rest)
      (joinable : state.isJoinable agent = true) :
      Turn scenario state joining ⟨joining.generation, rest, .fresh⟩ [] []
  /-- It has waited for an agent as long as it may, and asks it to stop. -/
  | timesOut
      {agent : AgentId}
      (elapsed : joining.TimesOut agent state) :
      Turn scenario state joining { joining with phase := .unlimited }
        [.joinTimedOut joining.generation (state.nameOf agent)] [agent]

/-- A joiner whose time is over tells the listeners, and asks the agent to stop. -/
theorem inner_timeOut
    (timeout : Duration)
    (joiner : JoinerId)
    (generation : Nat)
    {agent : AgentId}
    {state : State}
    (known : agent < state.members.length) :
    Inner [.joinTimedOut generation (state.nameOf agent)] [agent] state
      (timeOut timeout joiner generation agent state) := by
  have noted := inner_log (.joinTimedOut agent (state.nameOf agent) timeout) state
  have announced := noted.trans (inner_announce (.joinTimedOut generation (state.nameOf agent)) _)
  exact (announced.trans (inner_stopAgent known)).trans (inner_note rfl rfl _)

theorem turn_of_step?
    {scenario : Scenario}
    {joiner : JoinerId}
    {joining next : Joining}
    {state newer : State}
    (known : ∀ agent ∈ joining.remaining, agent < state.members.length)
    (stepped : joining.step? scenario joiner state = some (next, newer)) :
    ∃ told asked, joining.Turn scenario state next told asked ∧ Inner told asked state newer := by
  obtain ⟨generation, remaining, phase⟩ := joining
  cases remaining with
  | nil => simp [step?] at stepped
  | cons agent rest =>
      cases phase with
      | fresh =>
          obtain ⟨rfl, rfl⟩ := Prod.mk.inj (Option.some.inj stepped)
          exact ⟨_, _, .begins rfl, inner_note rfl rfl state⟩
      | limited deadline =>
          simp only [step?] at stepped
          split at stepped
          · rename_i joinable
            obtain ⟨rfl, rfl⟩ := Prod.mk.inj (Option.some.inj stepped)
            exact ⟨_, _, .passes rfl joinable, inner_note rfl rfl state⟩
          · rename_i lasting
            split at stepped
            · rename_i late
              obtain ⟨rfl, rfl⟩ := Prod.mk.inj (Option.some.inj stepped)
              have elapsed : (⟨generation, agent :: rest, .limited deadline⟩ : Joining).TimesOut
                  agent state := ⟨rfl, by simpa using lasting, by simpa [deadline?] using late⟩
              exact ⟨_, _, .timesOut elapsed, inner_timeOut _ joiner generation
                (known agent List.mem_cons_self)⟩
            · simp at stepped
      | unlimited =>
          simp only [step?] at stepped
          split at stepped
          · rename_i joinable
            obtain ⟨rfl, rfl⟩ := Prod.mk.inj (Option.some.inj stepped)
            exact ⟨_, _, .passes rfl joinable, inner_note rfl rfl state⟩
          · simp at stepped

end Joining

/-! ## Runs -/

namespace Run

/-- What a run is after the launch of a cohort. -/
def launched (run : Run) (generation : Nat) : Except LaunchFailure (List AgentId) → Run
  | .error failure => run.enter (.ended (.error failure.failure))
  | .ok cohort =>
    if run.restarts then run.enter (.joining (.start generation cohort))
    else run.enter (.ended (.ok ()))

/-- A turn of a run. -/
inductive Turn (scenario : Scenario) (state : State) (run : Run) : Run → State → Prop
  /-- It launches a cohort. -/
  | launches
      {newer : State}
      (stage : run.stage = .launching)
      (unforced : state.forceStopped = false)
      (same : newer = (state.launchCohort scenario run.plan).1) :
      Turn scenario state run
        (run.launched newer.generation (state.launch scenario run.plan).2) newer
  /-- It launches nothing after a force-stop. -/
  | refuses
      {newer : State}
      (stage : run.stage = .launching)
      (recorded : state.forceStopped = true)
      (effect : Inner (if run.restarts then [.finished state.generation] else []) [] state newer)
      (quiet : Quiet state newer) :
      Turn scenario state run (run.enter (.ended (.ok ()))) newer
  /-- It joins its cohort. -/
  | joins
      {newer : State}
      {progress later : Joining}
      {told : List Event}
      {asked : List AgentId}
      (stage : run.stage = .joining progress)
      (turn : progress.Turn scenario state later told asked)
      (effect : Inner told asked state newer)
      (quiet : Quiet state newer) :
      Turn scenario state run (run.enter (.joining later)) newer
  /-- It has joined its cohort and is over. -/
  | stops
      {newer : State}
      {progress : Joining}
      (stage : run.stage = .joining progress)
      (joined : progress.remaining = [])
      (effect : Inner [.cohortStopped progress.generation, .finished state.generation] []
        state newer)
      (quiet : Quiet state newer) :
      Turn scenario state run (run.enter (.ended (.ok ()))) newer
  /-- It has joined its cohort and pauses. -/
  | pauses
      {newer : State}
      {progress : Joining}
      (stage : run.stage = .joining progress)
      (joined : progress.remaining = [])
      (unforced : state.forceStopped = false)
      (effect : Inner [.cohortStopped progress.generation,
        .restartScheduled progress.generation scenario.settings.cooldown] [] state newer)
      (quiet : Quiet state newer) :
      Turn scenario state run
        (run.enter (.cooling
          (scenario.platform.timers.sleepEnd state.now scenario.settings.cooldown))) newer
  /-- Its pause is over. -/
  | wakes
      {newer : State}
      {wakeTime : Nat}
      (stage : run.stage = .cooling wakeTime)
      (late : wakeTime ≤ state.now)
      (same : newer = state) :
      Turn scenario state run run.wake newer
  /-- Its pause is cut short by a force-stop. -/
  | cutShort
      {newer : State}
      {wakeTime : Nat}
      (stage : run.stage = .cooling wakeTime)
      (recorded : state.forceStopped = true)
      (effect : Inner [.finished state.generation] [] state newer)
      (quiet : Quiet state newer) :
      Turn scenario state run (run.enter (.ended (.ok ()))) newer

theorem inner_finish (run : Run) (state : State) :
    Inner [.finished state.generation] [] state (run.finish state).2 :=
  (inner_log _ state).trans (inner_announce _ _)

/-- A run that may launch does what its launch leads to. -/
theorem launch_of_unforced
    (scenario : Scenario)
    (run : Run)
    {state : State}
    (unforced : state.forceStopped = false) :
    run.launch scenario state =
      (run.launched (state.launchCohort scenario run.plan).1.generation
        (state.launch scenario run.plan).2, (state.launchCohort scenario run.plan).1) := by
  simp only [launch, unforced, Bool.false_eq_true, if_false]
  rcases attempted : state.launch scenario run.plan with ⟨next, outcome⟩
  cases outcome with
  | ok cohort =>
      simp only [launchCohort, attempted, launched]
      split <;> rfl
  | error failure =>
      obtain ⟨started, failure⟩ := failure
      cases started with
      | nil =>
          simp only [launchCohort, attempted, List.isEmpty_nil, if_true]
          rfl
      | cons first rest =>
          simp only [launchCohort, attempted, List.isEmpty_cons, Bool.false_eq_true, if_false]
          rfl

theorem turn_coolDown
    {scenario : Scenario}
    {run : Run}
    {state : State}
    {progress : Joining}
    (stage : run.stage = .joining progress)
    (joined : progress.remaining = []) :
    run.Turn scenario state (run.coolDown scenario progress.generation state).1
      (run.coolDown scenario progress.generation state).2 := by
  let stopped := (state.log .allStopped).announce (.cohortStopped progress.generation)
  have telling : Inner [.cohortStopped progress.generation] [] state stopped :=
    (inner_log _ state).trans (inner_announce _ _)
  have quiet : Quiet state stopped := (quiet_log _ state).trans (quiet_announce rfl _)
  unfold coolDown
  dsimp only
  split
  · exact .stops stage joined (telling.trans (inner_finish run stopped))
      (quiet.trans (quiet_finish run stopped))
  · rename_i unforced
    split
    · let limited := stopped.log (.restartLimit (scenario.settings.maxRestarts?.getD 0))
      have logged : Inner [.cohortStopped progress.generation] [] state limited :=
        telling.trans (inner_log _ stopped)
      exact .stops stage joined (logged.trans (inner_finish run limited))
        ((quiet.trans (quiet_log _ stopped)).trans (quiet_finish run limited))
    · have logged := telling.trans (inner_log .coolingDown stopped)
      refine .pauses stage joined (Bool.eq_false_iff.mpr unforced) ?_ ?_
      · exact logged.trans (inner_announce _ _)
      · exact (quiet.trans (quiet_log _ stopped)).trans (quiet_announce rfl _)

theorem turn_of_step?
    {scenario : Scenario}
    {favoursForceStop : Bool}
    {joiner : JoinerId}
    {run next : Run}
    {state newer : State}
    (known : ∀ agent ∈ run.awaited, agent < state.members.length)
    (stepped : run.step? scenario favoursForceStop joiner state = some (next, newer)) :
    run.Turn scenario state next newer := by
  cases stage : run.stage with
  | launching =>
      simp only [step?, stage, Option.some.injEq] at stepped
      cases recorded : state.forceStopped with
      | false =>
          rw [launch_of_unforced scenario run recorded] at stepped
          obtain ⟨rfl, rfl⟩ := Prod.mk.inj stepped
          exact .launches stage recorded rfl
      | true =>
          simp only [launch, recorded, if_true] at stepped
          cases restarts : run.restarts with
          | true =>
              simp only [restarts, if_true] at stepped
              obtain ⟨rfl, rfl⟩ := Prod.mk.inj stepped
              refine .refuses stage recorded ?_ (quiet_finish run state)
              rw [if_pos restarts]
              exact inner_finish run state
          | false =>
              simp only [restarts, Bool.false_eq_true, if_false] at stepped
              obtain ⟨rfl, rfl⟩ := Prod.mk.inj stepped
              refine .refuses stage recorded ?_ (quiet_log .launchRefused state)
              rw [restarts]
              exact inner_log .launchRefused state
  | joining progress =>
      simp only [awaited, stage] at known
      simp only [step?, stage] at stepped
      split at stepped
      · rename_i joined
        obtain ⟨rfl, rfl⟩ := Prod.mk.inj (Option.some.inj stepped)
        exact turn_coolDown stage (List.isEmpty_iff.mp joined)
      · obtain ⟨⟨later, newer'⟩, joinStep, same⟩ := Option.map_eq_some_iff.mp stepped
        obtain ⟨rfl, rfl⟩ := Prod.mk.inj same
        obtain ⟨told, asked, turn, effect⟩ := Joining.turn_of_step? known joinStep
        exact .joins stage turn effect (Joining.step?_cases joinStep).1
  | cooling wakeTime =>
      simp only [step?, stage] at stepped
      split at stepped
      · rename_i ready
        obtain ⟨rfl, rfl⟩ := Prod.mk.inj (Option.some.inj stepped)
        exact .wakes stage ready.1 rfl
      · split at stepped
        · rename_i recorded
          obtain ⟨rfl, rfl⟩ := Prod.mk.inj (Option.some.inj stepped)
          have noted := inner_log .cooldownCut state
          exact .cutShort stage recorded
            (noted.trans (inner_finish run (state.log .cooldownCut)))
            ((quiet_log .cooldownCut state).trans (quiet_finish run _))
        · simp at stepped
  | ended outcome => simp [step?, stage] at stepped

end Run

/-! ## Waits -/

namespace Wait

/-- The agents that a wait has not joined yet. -/
def awaited : Wait → List AgentId
  | .joining progress => progress.remaining
  | .looking | .forForceStop | .ended => []

/-- A turn of a wait. -/
inductive Turn (scenario : Scenario) (state : State) : Wait → Wait → State → Prop
  /-- It looks which cohort is the current one. -/
  | looks
      {newer : State}
      (same : newer = state) :
      Turn scenario state .looking (.joining (.start state.generation state.cohort)) newer
  /-- It joins the cohort. -/
  | joins
      {newer : State}
      {progress later : Joining}
      {told : List Event}
      {asked : List AgentId}
      (turn : progress.Turn scenario state later told asked)
      (effect : Inner told asked state newer)
      (quiet : Quiet state newer) :
      Turn scenario state (.joining progress) (.joining later) newer
  /-- It has joined the cohort. -/
  | ends
      {newer : State}
      {progress : Joining}
      (joined : progress.remaining = [])
      (same : newer = state) :
      Turn scenario state (.joining progress) .ended newer
  /-- A force-stop has been recorded. -/
  | released
      {newer : State}
      (recorded : state.forceStopped = true)
      (same : newer = state) :
      Turn scenario state .forForceStop .ended newer

theorem turn_of_step?
    {scenario : Scenario}
    {joiner : JoinerId}
    {wait next : Wait}
    {state newer : State}
    (known : ∀ agent ∈ wait.awaited, agent < state.members.length)
    (stepped : wait.step? scenario joiner state = some (next, newer)) :
    wait.Turn scenario state next newer := by
  cases wait with
  | looking =>
      obtain ⟨rfl, rfl⟩ := Prod.mk.inj (Option.some.inj stepped)
      exact .looks rfl
  | joining progress =>
      simp only [step?] at stepped
      split at stepped
      · rename_i joined
        obtain ⟨rfl, rfl⟩ := Prod.mk.inj (Option.some.inj stepped)
        exact .ends (List.isEmpty_iff.mp joined) rfl
      · obtain ⟨⟨later, newer'⟩, joinStep, same⟩ := Option.map_eq_some_iff.mp stepped
        obtain ⟨rfl, rfl⟩ := Prod.mk.inj same
        obtain ⟨told, asked, turn, effect⟩ := Joining.turn_of_step? known joinStep
        exact .joins turn effect (Joining.step?_cases joinStep).1
  | forForceStop =>
      simp only [step?] at stepped
      split at stepped
      · rename_i recorded
        obtain ⟨rfl, rfl⟩ := Prod.mk.inj (Option.some.inj stepped)
        exact .released recorded rfl
      · simp at stepped
  | ended => simp [step?] at stepped

end Wait

/-! ## Actions -/

/-- What happens to a system: a move, or a request. -/
inductive Action where
  /-- The system makes a move. -/
  | move (move : Move)
  /-- The system takes a request in. -/
  | request (request : Request)
  deriving DecidableEq, Repr

namespace Action

/-- Whose turn it is. -/
def joiner? : Action → Option JoinerId
  | .move (.run index _) => some (.run index)
  | .move (.wait index) => some (.wait index)
  | .move (.agentEnds _) | .move (.clock _) | .request _ => none

/-- The agent that somebody outside asks to stop. -/
def asked? : Action → Option AgentId
  | .request (.stopAgent agent) => some agent
  | _ => none

/-- An action that is nobody's turn, and asks no single agent to stop. -/
def IsAside (action : Action) : Prop :=
  action.joiner? = none ∧ action.asked? = none

end Action

/-- What an action leads to, or nothing if it is not possible. -/
def System.action? (scenario : Scenario) (system : System) : Action → Option System
  | .move move => system.after? scenario move
  | .request request => some (system.accept request).1

/-- Every step is an action. -/
theorem Step.exists_action
    {scenario : Scenario}
    {system next : System}
    (step : Step scenario system next) :
    ∃ action, system.action? scenario action = some next := by
  cases step with
  | move move possible => exact ⟨.move move, possible⟩
  | request request => exact ⟨.request request, rfl⟩

theorem step_of_action?
    {scenario : Scenario}
    {system next : System}
    {action : Action}
    (possible : system.action? scenario action = some next) :
    Step scenario system next := by
  cases action with
  | move move => exact .move move possible
  | request request =>
      obtain rfl := Option.some.inj possible
      exact .request request

/-- What an action does to the state, to the runs and to the waits. -/
inductive Does (scenario : Scenario) (system : System) (action : Action) (next : System) : Prop
  /-- It neither tells nor asks anybody. -/
  | aside
      (aside : action.IsAside)
      (effect : Inner [] [] system.state next.state)
      (quiet : Quiet system.state next.state)
      (runs : next.runs = system.runs)
      (waits : next.waits = system.waits)
  /-- The clock goes on. -/
  | clock
      (aside : action.IsAside)
      (time : Nat)
      (later : system.state.now < time)
      (state : next.state = { system.state with now := time })
      (runs : next.runs = system.runs)
      (waits : next.waits = system.waits)
  /-- It asks an agent to stop, if there is one of that number. -/
  | stopAgent
      (agent : AgentId)
      (asked : action.asked? = some agent)
      (turn : action.joiner? = none)
      (effect : Inner [] (if agent < system.state.members.length then [agent] else [])
        system.state next.state)
      (quiet : Quiet system.state next.state)
      (runs : next.runs = system.runs)
      (waits : next.waits = system.waits)
  /-- It is a force-stop. -/
  | forceStop
      (aside : action.IsAside)
      (state : next.state = system.state.forceStop)
      (runs : next.runs = system.runs)
      (waits : next.waits = system.waits)
  /-- It begins a run. -/
  | begin
      (aside : action.IsAside)
      (plan : Plan)
      (restarts : Bool)
      (state : next.state = system.state)
      (runs : next.runs = system.runs ++ [.start plan restarts])
      (waits : next.waits = system.waits)
  /-- It begins a wait. -/
  | await
      (aside : action.IsAside)
      (wait : Wait)
      (fresh : wait.awaited = [])
      (state : next.state = system.state)
      (runs : next.runs = system.runs)
      (waits : next.waits = system.waits ++ [wait])
  /-- It is the turn of a run. -/
  | run
      (index : Nat)
      (run later : Run)
      (turnOf : action.joiner? = some (.run index))
      (asked : action.asked? = none)
      (found : system.runs[index]? = some run)
      (turn : run.Turn scenario system.state later next.state)
      (runs : next.runs = system.runs.set index later)
      (waits : next.waits = system.waits)
  /-- It is the turn of a wait. -/
  | wait
      (index : Nat)
      (wait later : Wait)
      (turnOf : action.joiner? = some (.wait index))
      (asked : action.asked? = none)
      (found : system.waits[index]? = some wait)
      (turn : wait.Turn scenario system.state later next.state)
      (runs : next.runs = system.runs)
      (waits : next.waits = system.waits.set index later)

/-! ## Rosters -/

/-- Agents that have been made, none of them listed twice. -/
structure State.Roster (agents : List AgentId) (state : State) : Prop where
  /-- None is listed twice. -/
  nodup : agents.Nodup
  /-- They have been made. -/
  known : ∀ agent ∈ agents, agent < state.members.length

/-- A system in which the current cohort, and whoever is awaited, are on rosters. -/
structure Rostered (system : System) : Prop where
  /-- The current cohort is. -/
  cohort : Roster system.state.cohort system.state
  /-- Those that a run awaits are. -/
  runs : ∀ run ∈ system.runs, Roster run.awaited system.state
  /-- Those that a wait awaits are. -/
  waits : ∀ wait ∈ system.waits, Roster wait.awaited system.state

theorem State.roster_nil (state : State) : Roster [] state :=
  ⟨List.nodup_nil, nofun⟩

theorem State.Roster.mono
    {agents : List AgentId}
    {older newer : State}
    (roster : Roster agents older)
    (grown : older.members.length ≤ newer.members.length) :
    Roster agents newer :=
  ⟨roster.nodup, fun agent present => Nat.lt_of_lt_of_le (roster.known agent present) grown⟩

theorem State.Roster.tail
    {agent : AgentId}
    {agents : List AgentId}
    {state : State}
    (roster : Roster (agent :: agents) state) :
    Roster agents state :=
  ⟨roster.nodup.of_cons, fun other present => roster.known other (List.mem_cons_of_mem _ present)⟩

theorem Joining.Turn.roster
    {scenario : Scenario}
    {state : State}
    {joining next : Joining}
    {told : List Event}
    {asked : List AgentId}
    (turn : joining.Turn scenario state next told asked)
    (roster : Roster joining.remaining state) :
    Roster next.remaining state := by
  cases turn with
  | begins _ | timesOut _ => exact roster
  | passes remaining _ => exact (remaining ▸ roster).tail

/-- Within a generation the cohort stays on its roster. -/
theorem State.Inner.roster
    {told : List Event}
    {asked : List AgentId}
    {older newer : State}
    (effect : Inner told asked older newer)
    (roster : Roster older.cohort older) :
    Roster newer.cohort newer :=
  effect.cohort ▸ roster.mono effect.length_le

/-- The agents of a launch are on a roster, and so is the cohort after it. -/
theorem State.roster_launchCohort
    (scenario : Scenario)
    (plan : Plan)
    {state : State}
    (roster : Roster state.cohort state) :
    let newer := (state.launchCohort scenario plan).1
    Roster (startedBy (state.launch scenario plan).2) newer ∧ Roster newer.cohort newer ∧
      state.members.length ≤ newer.members.length := by
  have launches := launches_launch scenario plan roster.known
  have publishes := publishes_launchCohort scenario plan roster.known
  obtain ⟨count, numbered⟩ := launches.started
  obtain ⟨calls, launching, _⟩ := launches.effect
  have grown := Nat.le_trans launching.length_le publishes.effect.length_le
  have started : Roster (startedBy (state.launch scenario plan).2)
      (state.launchCohort scenario plan).1 := by
    refine Roster.mono ⟨?_, launches.known⟩ publishes.effect.length_le
    rw [numbered]
    exact List.nodup_range'
  refine ⟨started, ?_, grown⟩
  rw [publishes.cohort]
  split
  · exact started
  · rw [launching.cohort]
    exact roster.mono grown

theorem Run.awaited_launched_subset
    (run : Run)
    (generation : Nat)
    (outcome : Except LaunchFailure (List AgentId)) :
    (run.launched generation outcome).awaited = [] ∨
      (run.launched generation outcome).awaited = startedBy outcome := by
  cases outcome with
  | error failure => exact .inl rfl
  | ok cohort =>
      unfold launched
      dsimp only
      split
      · exact .inr rfl
      · exact .inl rfl

theorem Run.Turn.roster
    {scenario : Scenario}
    {state newer : State}
    {run next : Run}
    (turn : run.Turn scenario state next newer)
    (cohort : Roster state.cohort state)
    (awaited : Roster run.awaited state) :
    Roster next.awaited newer ∧ Roster newer.cohort newer ∧
      state.members.length ≤ newer.members.length := by
  cases turn with
  | launches stage unforced same =>
      subst same
      obtain ⟨started, current, grown⟩ := roster_launchCohort scenario run.plan cohort
      refine ⟨?_, current, grown⟩
      rcases run.awaited_launched_subset (state.launchCohort scenario run.plan).1.generation
        (state.launch scenario run.plan).2 with none | all
      · rw [none]
        exact roster_nil _
      · rw [all]
        exact started
  | joins stage joinTurn effect _ =>
      simp only [Run.awaited, stage] at awaited
      exact ⟨(joinTurn.roster awaited).mono effect.length_le, effect.roster cohort,
        effect.length_le⟩
  | refuses _ _ effect _ | stops _ _ effect _ | pauses _ _ _ effect _ | cutShort _ _ effect _ =>
      exact ⟨roster_nil _, effect.roster cohort, effect.length_le⟩
  | wakes _ _ same =>
      subst same
      exact ⟨roster_nil _, cohort, Nat.le_refl _⟩

theorem Wait.Turn.roster
    {scenario : Scenario}
    {state newer : State}
    {wait next : Wait}
    (turn : wait.Turn scenario state next newer)
    (cohort : Roster state.cohort state)
    (awaited : Roster wait.awaited state) :
    Roster next.awaited newer ∧ Roster newer.cohort newer ∧
      state.members.length ≤ newer.members.length := by
  cases turn with
  | looks same =>
      subst same
      exact ⟨cohort, cohort, Nat.le_refl _⟩
  | joins joinTurn effect _ =>
      exact ⟨(joinTurn.roster awaited).mono effect.length_le, effect.roster cohort,
        effect.length_le⟩
  | ends _ same | released _ same =>
      subst same
      exact ⟨roster_nil _, cohort, Nat.le_refl _⟩

/-! ## What every action does -/

/-- An action of a system whose cohort and joiners are on rosters. -/
theorem Rostered.does
    {scenario : Scenario}
    {system next : System}
    {action : Action}
    (rostered : Rostered system)
    (possible : system.action? scenario action = some next) :
    Does scenario system action next := by
  have unchanged {later : System} (aside : action.IsAside) (state : later.state = system.state)
      (runs : later.runs = system.runs) (waits : later.waits = system.waits) :
      Does scenario system action later :=
    .aside aside (state ▸ .refl _) (state ▸ .refl _) runs waits
  cases action with
  | move move =>
      cases move with
      | agentEnds agent =>
          simp only [System.action?, System.after?] at possible
          split at possible
          · obtain rfl := Option.some.inj possible
            exact .aside ⟨rfl, rfl⟩ (inner_endAgent agent _) (quiet_endAgent agent _) rfl rfl
          · simp at possible
      | run index favoursForceStop =>
          simp only [System.action?, System.after?, System.stepRun?, Option.bind_eq_bind,
            Option.bind_eq_some_iff] at possible
          obtain ⟨run, found, ⟨later, state⟩, stepped, same⟩ := possible
          obtain rfl := Option.some.inj same
          have known := (rostered.runs run (List.mem_of_getElem? found)).known
          exact .run index run later rfl rfl found (Run.turn_of_step? known stepped) rfl rfl
      | wait index =>
          simp only [System.action?, System.after?, System.stepWait?, Option.bind_eq_bind,
            Option.bind_eq_some_iff] at possible
          obtain ⟨wait, found, ⟨later, state⟩, stepped, same⟩ := possible
          obtain rfl := Option.some.inj same
          have known := (rostered.waits wait (List.mem_of_getElem? found)).known
          exact .wait index wait later rfl rfl found (Wait.turn_of_step? known stepped) rfl rfl
      | clock time =>
          simp only [System.action?, System.after?] at possible
          split at possible
          · rename_i ready
            obtain rfl := Option.some.inj possible
            exact .clock ⟨rfl, rfl⟩ time ready.2.1 rfl rfl rfl
          · simp at possible
  | request request =>
      obtain rfl := Option.some.inj possible
      cases request with
      | run names orchestrator base restarts =>
          simp only [System.accept]
          split
          · exact unchanged ⟨rfl, rfl⟩ rfl rfl rfl
          · exact .begin ⟨rfl, rfl⟩ _ restarts rfl rfl rfl
      | finish agent =>
          simp only [System.accept, System.withAgent]
          split
          · exact .aside ⟨rfl, rfl⟩ (inner_endAgent agent _) (quiet_endAgent agent _) rfl rfl
          · exact unchanged ⟨rfl, rfl⟩ rfl rfl rfl
      | stopAgent agent =>
          simp only [System.accept, System.withAgent]
          split
          · rename_i known
            refine .stopAgent agent rfl rfl ?_ (quiet_stopAgent agent _) rfl rfl
            rw [if_pos known]
            exact inner_stopAgent known
          · rename_i unknown
            refine .stopAgent agent rfl rfl ?_ (.refl _) rfl rfl
            rw [if_neg unknown]
            exact .refl _
      | forceStop => exact .forceStop ⟨rfl, rfl⟩ rfl rfl rfl
      | waitForCohort => exact .await ⟨rfl, rfl⟩ .looking rfl rfl rfl rfl
      | waitForForceStop => exact .await ⟨rfl, rfl⟩ .forForceStop rfl rfl rfl rfl
      | advance milliseconds => exact unchanged ⟨rfl, rfl⟩ rfl rfl rfl
      | subscribe => exact unchanged ⟨rfl, rfl⟩ rfl rfl rfl
      | look => exact unchanged ⟨rfl, rfl⟩ rfl rfl rfl

theorem Does.run_of_joiner?
    {scenario : Scenario}
    {system next : System}
    {action : Action}
    {index : Nat}
    (does : Does scenario system action next)
    (turnOf : action.joiner? = some (.run index)) :
    ∃ run later, system.runs[index]? = some run ∧ next.runs[index]? = some later ∧
      run.Turn scenario system.state later next.state := by
  cases does with
  | run other run later turnNow _ found turn runs _ =>
      obtain rfl : other = index := by simpa [turnNow] using turnOf
      refine ⟨run, later, found, ?_, turn⟩
      rw [runs, List.getElem?_set_self (List.getElem?_eq_some_iff.mp found).1]
  | aside aside _ _ _ _ | clock aside _ _ _ _ _ | forceStop aside _ _ _
  | begin aside _ _ _ _ _ | await aside _ _ _ _ _ => simp [aside.1] at turnOf
  | stopAgent _ _ turn _ _ _ _ => simp [turn] at turnOf
  | wait _ _ _ turnNow _ _ _ _ _ => simp [turnNow] at turnOf

theorem Does.wait_of_joiner?
    {scenario : Scenario}
    {system next : System}
    {action : Action}
    {index : Nat}
    (does : Does scenario system action next)
    (turnOf : action.joiner? = some (.wait index)) :
    ∃ wait later, system.waits[index]? = some wait ∧ next.waits[index]? = some later ∧
      wait.Turn scenario system.state later next.state := by
  cases does with
  | wait other wait later turnNow _ found turn _ waits =>
      obtain rfl : other = index := by simpa [turnNow] using turnOf
      refine ⟨wait, later, found, ?_, turn⟩
      rw [waits, List.getElem?_set_self (List.getElem?_eq_some_iff.mp found).1]
  | aside aside _ _ _ _ | clock aside _ _ _ _ _ | forceStop aside _ _ _
  | begin aside _ _ _ _ _ | await aside _ _ _ _ _ => simp [aside.1] at turnOf
  | stopAgent _ _ turn _ _ _ _ => simp [turn] at turnOf
  | run _ _ _ turnNow _ _ _ _ _ => simp [turnNow] at turnOf

/-- Whatever is no turn of a run leaves it alone, or begins it. -/
theorem Does.getElem?_runs
    {scenario : Scenario}
    {system next : System}
    {action : Action}
    {index : Nat}
    (does : Does scenario system action next)
    (other : action.joiner? ≠ some (.run index)) :
    next.runs[index]? = system.runs[index]? ∨
      system.runs[index]? = none ∧ ∃ plan restarts,
        next.runs[index]? = some (.start plan restarts) := by
  cases does with
  | aside _ _ _ runs _ | clock _ _ _ _ runs _ | stopAgent _ _ _ _ _ runs _
  | forceStop _ _ runs _ | await _ _ _ _ runs _ | wait _ _ _ _ _ _ _ runs _ =>
      exact .inl (by rw [runs])
  | begin _ plan restarts _ runs _ =>
      rcases Nat.lt_trichotomy index system.runs.length with before | rfl | beyond
      · left
        rw [runs, List.getElem?_append_left before]
      · right
        refine ⟨List.getElem?_eq_none (Nat.le_refl _), plan, restarts, ?_⟩
        rw [runs, List.getElem?_concat_length]
      · left
        rw [runs, List.getElem?_eq_none (Nat.le_of_lt beyond),
          List.getElem?_eq_none (by simpa [Nat.succ_le_iff] using beyond)]
  | run turning _ _ turnOf _ _ _ runs _ =>
      left
      rw [runs, List.getElem?_set_ne]
      rintro rfl
      exact other turnOf

/-- Whatever is no turn of a wait leaves it alone, or begins it. -/
theorem Does.getElem?_waits
    {scenario : Scenario}
    {system next : System}
    {action : Action}
    {index : Nat}
    (does : Does scenario system action next)
    (other : action.joiner? ≠ some (.wait index)) :
    next.waits[index]? = system.waits[index]? ∨
      system.waits[index]? = none ∧ ∃ wait, wait.awaited = [] ∧ next.waits[index]? = some wait := by
  cases does with
  | aside _ _ _ _ waits | clock _ _ _ _ _ waits | stopAgent _ _ _ _ _ _ waits
  | forceStop _ _ _ waits | begin _ _ _ _ _ waits | run _ _ _ _ _ _ _ _ waits =>
      exact .inl (by rw [waits])
  | await _ wait fresh _ _ waits =>
      rcases Nat.lt_trichotomy index system.waits.length with before | rfl | beyond
      · left
        rw [waits, List.getElem?_append_left before]
      · right
        refine ⟨List.getElem?_eq_none (Nat.le_refl _), wait, fresh, ?_⟩
        rw [waits, List.getElem?_concat_length]
      · left
        rw [waits, List.getElem?_eq_none (Nat.le_of_lt beyond),
          List.getElem?_eq_none (by simpa [Nat.succ_le_iff] using beyond)]
  | wait turning _ _ turnOf _ _ _ _ waits =>
      left
      rw [waits, List.getElem?_set_ne]
      rintro rfl
      exact other turnOf

/-- No agent is lost, and the current cohort stays on its roster. -/
theorem Does.state_roster
    {scenario : Scenario}
    {system next : System}
    {action : Action}
    (does : Does scenario system action next)
    (rostered : Rostered system) :
    Roster next.state.cohort next.state ∧
      system.state.members.length ≤ next.state.members.length := by
  have cohort := rostered.cohort
  cases does with
  | aside _ effect _ _ _ | stopAgent _ _ _ effect _ _ _ =>
      exact ⟨effect.roster cohort, effect.length_le⟩
  | clock _ time _ state _ _ =>
      rw [state]
      exact ⟨⟨cohort.nodup, cohort.known⟩, Nat.le_refl _⟩
  | forceStop _ state _ _ =>
      rw [state]
      have effect := (forces_forceStop cohort.known).effect
      exact ⟨effect.roster cohort, effect.length_le⟩
  | begin _ _ _ state _ _ | await _ _ _ state _ _ =>
      rw [state]
      exact ⟨cohort, Nat.le_refl _⟩
  | run _ run _ _ _ found turn _ _ =>
      exact (turn.roster cohort (rostered.runs run (List.mem_of_getElem? found))).2
  | wait _ wait _ _ _ found turn _ _ =>
      exact (turn.roster cohort (rostered.waits wait (List.mem_of_getElem? found))).2

theorem Does.rostered
    {scenario : Scenario}
    {system next : System}
    {action : Action}
    (does : Does scenario system action next)
    (rostered : Rostered system) :
    Rostered next := by
  obtain ⟨cohort, grown⟩ := does.state_roster rostered
  have keptRuns (run : Run) (present : run ∈ system.runs) : Roster run.awaited next.state :=
    (rostered.runs run present).mono grown
  have keptWaits (wait : Wait) (present : wait ∈ system.waits) :
      Roster wait.awaited next.state :=
    (rostered.waits wait present).mono grown
  cases does with
  | aside _ _ _ runs waits | clock _ _ _ _ runs waits | stopAgent _ _ _ _ _ runs waits
  | forceStop _ _ runs waits =>
      exact ⟨cohort, runs ▸ keptRuns, waits ▸ keptWaits⟩
  | begin _ plan restarts _ runs waits =>
      refine ⟨cohort, ?_, waits ▸ keptWaits⟩
      intro run present
      rw [runs, List.mem_append, List.mem_singleton] at present
      rcases present with before | rfl
      · exact keptRuns run before
      · exact roster_nil _
  | await _ wait fresh _ runs waits =>
      refine ⟨cohort, runs ▸ keptRuns, ?_⟩
      intro other present
      rw [waits, List.mem_append, List.mem_singleton] at present
      rcases present with before | rfl
      · exact keptWaits other before
      · rw [fresh]
        exact roster_nil _
  | run index run later _ _ found turn runs waits =>
      refine ⟨cohort, ?_, waits ▸ keptWaits⟩
      intro other present
      rw [runs] at present
      rcases List.mem_or_eq_of_mem_set present with before | rfl
      · exact keptRuns other before
      · exact (turn.roster rostered.cohort (rostered.runs run (List.mem_of_getElem? found))).1
  | wait index wait later _ _ found turn runs waits =>
      refine ⟨cohort, runs ▸ keptRuns, ?_⟩
      intro other present
      rw [waits] at present
      rcases List.mem_or_eq_of_mem_set present with before | rfl
      · exact keptWaits other before
      · exact (turn.roster rostered.cohort (rostered.waits wait (List.mem_of_getElem? found))).1

theorem rostered_initial : Rostered .initial where
  cohort := roster_nil _
  runs run present := by simp [System.initial] at present
  waits wait present := by simp [System.initial] at present

theorem Reachable.rostered
    {scenario : Scenario}
    {system : System}
    (reachable : Reachable scenario system) :
    Rostered system := by
  induction reachable with
  | refl => exact rostered_initial
  | tail _ step inductionHypothesis =>
      obtain ⟨action, possible⟩ := step.exists_action
      exact (inductionHypothesis.does possible).rostered inductionHypothesis

end Supervision
end AgentCohort
