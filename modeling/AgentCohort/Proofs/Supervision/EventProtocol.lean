import AgentCohort.Proofs.Supervision.Pauses
import AgentCohort.Proofs.Supervision.Relaunch

/-!
# The event protocol

What the listeners of a supervisor with one run can rely on.  Leaving force-stops aside, the
run tells of its generations one after the other and then of its end.  A launch is never
scheduled after a force-stop, and no agent is made before the pause in front of it is over, if the
timers of the host end at their deadlines.
-/

namespace AgentCohort
namespace Supervision

open State

/-! ## The record of a force-stop -/

/-- A state whose events tell of the record of a force-stop, and of no launch that is
scheduled after it. -/
structure State.HeedsForceStops (state : State) : Prop where
  /-- A force-stop is recorded if and only if the listeners have been told of one. -/
  recorded : state.forceStopped = true ↔ ∃ event ∈ state.events, event.isForceStopped = true
  /-- No launch is scheduled later. -/
  heeded : state.events.Pairwise fun earlier later =>
    earlier.isForceStopped = true → later.isRestartScheduled = false

namespace State.HeedsForceStops

variable {older newer : State} {told : List Event} {asked : List AgentId}

theorem effect
    (heeds : older.HeedsForceStops)
    (effect : Effect told asked older newer)
    (recorded : newer.forceStopped = true ↔
      older.forceStopped = true ∨ ∃ event ∈ told, event.isForceStopped = true)
    (scheduled : ∀ event ∈ told, event.isRestartScheduled = true →
      newer.forceStopped = false) :
    newer.HeedsForceStops := by
  have recordedNow : newer.forceStopped = true ↔
      ∃ event ∈ newer.events, event.isForceStopped = true := by
    rw [recorded, heeds.recorded, effect.events]
    simp [or_and_right, exists_or]
  -- Whoever schedules a launch has not been told of a force-stop by then.
  have later : ∀ event ∈ told, ∀ earlier ∈ older.events ++ told,
      earlier.isForceStopped = true → event.isRestartScheduled = false := by
    intro event present earlier before forced
    refine Bool.eq_false_iff.mpr fun schedules => ?_
    have unforced := scheduled event present schedules
    rw [recordedNow.mpr ⟨earlier, effect.events ▸ before, forced⟩] at unforced
    cases unforced
  refine ⟨recordedNow, ?_⟩
  rw [effect.events]
  refine List.pairwise_append.mpr ⟨heeds.heeded, List.pairwise_of_forall_mem_list ?_, ?_⟩
  · intro earlier before event present
    exact later event present earlier (List.mem_append_right _ before)
  · intro earlier before event present
    exact later event present earlier (List.mem_append_left _ before)

/-- What leaves the record alone may schedule a launch if there is none. -/
theorem quiet
    (heeds : older.HeedsForceStops)
    (effect : Effect told asked older newer)
    (quiet : Quiet older newer)
    (silent : ∀ event ∈ told, event.isForceStopped = false)
    (scheduled : ∀ event ∈ told, event.isRestartScheduled = true →
      older.forceStopped = false) :
    newer.HeedsForceStops := by
  refine heeds.effect effect ?_ ?_ <;> rw [quiet.unforced]
  · have none : ¬∃ event ∈ told, event.isForceStopped = true := by
      simpa using silent
    simp [none]
  · exact scheduled

/-- A force-stop records what it tells. -/
theorem forces
    {calls : Nat}
    (heeds : older.HeedsForceStops)
    (forces : Forces calls older newer) :
    newer.HeedsForceStops := by
  refine heeds.effect forces.effect.toEffect ?_ ?_
  · rw [forces.forceStopped]
    simp [Event.isForceStopped, Nat.pos_iff_ne_zero]
  · intro event present
    rw [List.eq_of_mem_replicate present]
    simp [Event.isRestartScheduled]

end State.HeedsForceStops

theorem Run.Turn.heedsForceStops
    {scenario : Scenario}
    {state newer : State}
    {run next : Run}
    (turn : run.Turn scenario state next newer)
    (cohort : Roster state.cohort state)
    (heeds : state.HeedsForceStops) :
    newer.HeedsForceStops := by
  cases turn with
  | launches stage unforced same =>
      obtain ⟨calls, effect, recorded⟩ := effect_launchCohort scenario run.plan cohort.known
      rw [← same] at effect recorded
      refine heeds.effect effect ?_ fun event present schedules => ?_
      · rw [recorded, exists_isForceStopped_launch]
      · simp [not_isRestartScheduled_launch event present] at schedules
  | refuses stage recorded effect quiet =>
      refine heeds.quiet effect.toEffect quiet ?_ ?_ <;> split <;>
        simp [Event.isForceStopped, Event.isRestartScheduled]
  | joins stage joinTurn effect quiet =>
      obtain ⟨_, _, passed, rfl, _⟩ := joinTurn.told
      refine heeds.quiet effect.toEffect quiet ?_ ?_ <;>
        simp [Event.isForceStopped, Event.isRestartScheduled]
  | stops _ _ effect quiet | cutShort _ _ effect quiet =>
      refine heeds.quiet effect.toEffect quiet ?_ ?_ <;>
        simp [Event.isForceStopped, Event.isRestartScheduled]
  | pauses _ _ unforced effect quiet =>
      exact heeds.quiet effect.toEffect quiet (by simp [Event.isForceStopped])
        fun _ _ _ => unforced
  | wakes _ _ same => exact same ▸ heeds

theorem Wait.Turn.heedsForceStops
    {scenario : Scenario}
    {state newer : State}
    {wait next : Wait}
    (turn : wait.Turn scenario state next newer)
    (heeds : state.HeedsForceStops) :
    newer.HeedsForceStops := by
  cases turn with
  | joins joinTurn effect quiet =>
      obtain ⟨_, _, passed, rfl, _⟩ := joinTurn.told
      refine heeds.quiet effect.toEffect quiet ?_ ?_ <;>
        simp [Event.isForceStopped, Event.isRestartScheduled]
  | looks same | ends _ same | released _ same => exact same ▸ heeds

theorem Does.heedsForceStops
    {scenario : Scenario}
    {system next : System}
    {action : Action}
    (does : Does scenario system action next)
    (rostered : Rostered system)
    (heeds : system.state.HeedsForceStops) :
    next.state.HeedsForceStops := by
  cases does with
  | aside _ effect quiet _ _ => exact heeds.quiet effect.toEffect quiet nofun nofun
  | clock _ time _ state _ _ =>
      rw [state]
      exact ⟨heeds.recorded, heeds.heeded⟩
  | stopAgent _ _ _ effect quiet _ _ => exact heeds.quiet effect.toEffect quiet nofun nofun
  | forceStop _ state _ _ => exact state ▸ heeds.forces (forces_forceStop rostered.cohort.known)
  | begin _ _ _ state _ _ | await _ _ _ state _ _ => exact state ▸ heeds
  | run _ _ _ _ _ _ turn _ _ => exact turn.heedsForceStops rostered.cohort heeds
  | wait _ _ _ _ _ _ turn _ _ => exact turn.heedsForceStops heeds

theorem Reachable.heedsForceStops
    {scenario : Scenario}
    {system : System}
    (reachable : Reachable scenario system) :
    system.state.HeedsForceStops := by
  induction reachable with
  | refl => exact ⟨by simp [System.initial, State.initial, events], List.Pairwise.nil⟩
  | tail earlier step inductionHypothesis =>
      obtain ⟨action, possible⟩ := step.exists_action
      have rostered := Reachable.rostered earlier
      exact (rostered.does possible).heedsForceStops rostered inductionHypothesis

/-! ## Supervisors with one run -/

/-- A supervisor with no wait and no other run than one with restarts. -/
structure System.Solitary (system : System) : Prop where
  /-- There is at most one run. -/
  single : system.runs.length ≤ 1
  /-- It restarts. -/
  restarts : ∀ run ∈ system.runs, run.restarts = true
  /-- Nobody waits. -/
  unattended : system.waits = []

theorem Run.Turn.restarts
    {scenario : Scenario}
    {state newer : State}
    {run next : Run}
    (turn : run.Turn scenario state next newer) :
    next.restarts = run.restarts := by
  cases turn with
  | launches _ _ _ =>
      cases (state.launch scenario run.plan).2 with
      | error failure => rfl
      | ok cohort =>
          unfold launched
          dsimp only
          split <;> rfl
  | refuses _ _ _ _ | joins _ _ _ _ | stops _ _ _ _ | pauses _ _ _ _ _ | wakes _ _ _
  | cutShort _ _ _ _ => rfl

/-- A supervisor with one run has always been alone with it. -/
theorem Does.solitary
    {scenario : Scenario}
    {system next : System}
    {action : Action}
    (does : Does scenario system action next)
    (solitary : next.Solitary) :
    system.Solitary := by
  obtain ⟨single, restarts, unattended⟩ := solitary
  cases does with
  | aside _ _ _ runs waits | clock _ _ _ _ runs waits | stopAgent _ _ _ _ _ runs waits
  | forceStop _ _ runs waits =>
      exact ⟨runs ▸ single, runs ▸ restarts, waits ▸ unattended⟩
  | begin _ plan _ _ runs waits =>
      rw [runs] at single restarts
      refine ⟨?_, fun run present => ?_, waits ▸ unattended⟩
      · exact Nat.le_trans (by simp) single
      · exact restarts run (List.mem_append_left _ present)
  | await _ wait _ _ _ waits => simp [waits] at unattended
  | run index run later _ _ found turn runs waits =>
      rw [runs, List.length_set] at single
      obtain ⟨only, rfl⟩ := eq_singleton_of_getElem? single found
      refine ⟨single, ?_, waits ▸ unattended⟩
      intro other present
      obtain rfl : other = run := by simpa [only] using present
      rw [← turn.restarts]
      exact restarts later (by simp [runs, only])
  | wait index wait later _ _ found _ _ waits =>
      rw [waits, List.set_eq_nil_iff] at unattended
      simp [unattended] at found

/-- A solitary supervisor that keeps to the protocol. -/
structure Proceeds (settings : SupervisorSettings) (system : System) : Prop where
  /-- Before its run begins it has nothing to tell. -/
  idle : system.runs = [] → system.state.generation = 0 ∧ system.state.reports = []
  /-- Its run tells what it should. -/
  narrates : ∀ run ∈ system.runs, run.Narrates settings system.state
  /-- Its run keeps its pauses. -/
  paces : ∀ run ∈ system.runs, run.Paces system.state

/-- Without a report there is no pause. -/
theorem State.pauseEnd?_eq_none
    {state : State}
    (reports : state.reports = [])
    {entry : Entry}
    (present : entry ∈ state.journal) :
    entry.pauseEnd? = none := by
  obtain ⟨time, occurrence⟩ := entry
  unfold Entry.pauseEnd?
  split
  · rename_i generation cooldown scheduled
    change occurrence = _ at scheduled
    subst scheduled
    have told : .restartScheduled generation cooldown ∈ state.events :=
      List.mem_filterMap.mpr ⟨_, List.mem_reverse.mpr present, rfl⟩
    have reported : .restartScheduled generation cooldown ∈ state.reports :=
      List.mem_filter.mpr ⟨told, rfl⟩
    simp [reports] at reported
  · rfl

namespace Proceeds

variable {settings : SupervisorSettings} {system next : System}

theorem unchanged
    {told : List Event}
    {asked : List AgentId}
    (proceeds : Proceeds settings system)
    (rostered : Rostered system)
    (effect : Inner told asked system.state next.state)
    (grows : Grows Occurrence.IsQuiet system.state next.state)
    (forceStops : ∀ event ∈ told, event.isForceStopped = true)
    (runs : next.runs = system.runs) :
    Proceeds settings next := by
  have same : next.state.reports = system.state.reports := by
    rw [effect.reports, List.filter_eq_nil_iff.mpr (by simpa using forceStops), List.append_nil]
  have schedulesNone : ∀ event ∈ told, event.isRestartScheduled = false := by
    intro event present
    have forced := forceStops event present
    cases event <;> simp_all [Event.isForceStopped, Event.isRestartScheduled]
  refine ⟨fun none => ?_, fun run present => ?_, fun run present => ?_⟩
  · rw [same, effect.generation]
    exact proceeds.idle (runs ▸ none)
  · rw [runs] at present
    exact (proceeds.narrates run present).unchanged same effect.generation
      fun agent awaited => effect.nameOf ((rostered.runs run present).known agent awaited)
  · rw [runs] at present
    exact (proceeds.paces run present).unchanged effect grows schedulesNone

theorem clock
    {time : Nat}
    (proceeds : Proceeds settings system)
    (later : system.state.now < time)
    (state : next.state = { system.state with now := time })
    (runs : next.runs = system.runs) :
    Proceeds settings next := by
  refine ⟨fun none => ?_, fun run present => ?_, fun run present => ?_⟩
  · rw [state]
    exact proceeds.idle (runs ▸ none)
  · rw [runs] at present
    rw [state]
    exact (proceeds.narrates run present).unchanged rfl rfl fun _ _ => rfl
  · rw [runs] at present
    rw [state]
    obtain ⟨kept, elapsed⟩ := proceeds.paces run present
    refine ⟨kept, fun active entry written time pauses => ?_⟩
    have before := elapsed active entry written time pauses
    dsimp only
    omega

theorem begin
    {plan : Plan}
    (proceeds : Proceeds settings system)
    (none : system.runs = [])
    (state : next.state = system.state)
    (runs : next.runs = [.start plan true]) :
    Proceeds settings next := by
  obtain ⟨uncounted, silent⟩ := proceeds.idle none
  have pausesNone (entry : Entry) (present : entry ∈ system.state.journal) :
      entry.pauseEnd? = .none :=
    pauseEnd?_eq_none silent present
  rw [← state] at uncounted silent pausesNone
  refine ⟨fun none => ?_, fun run present => ?_, fun run present => ?_⟩
  · simp [none] at runs
  · obtain rfl : run = .start plan true := by simpa [runs] using present
    exact ⟨[], nofun, uncounted, silent⟩
  · obtain rfl : run = .start plan true := by simpa [runs] using present
    refine ⟨List.pairwise_of_forall_mem_list ?_, fun _ entry written time pauses => ?_⟩
    · intro later _ earlier written time pauses
      simp [pausesNone earlier written] at pauses
    · simp [pausesNone entry written] at pauses

theorem turn
    {scenario : Scenario}
    {run later : Run}
    (punctual : scenario.platform.timers.FireAtDeadline)
    (proceeds : Proceeds scenario.settings system)
    (rostered : Rostered system)
    (runs : system.runs = [run])
    (restarts : run.restarts = true)
    (turn : run.Turn scenario system.state later next.state)
    (runsAfter : next.runs = [later]) :
    Proceeds scenario.settings next := by
  have only : run ∈ system.runs := by simp [runs]
  refine ⟨fun none => ?_, fun other present => ?_, fun other present => ?_⟩
  · simp [none] at runsAfter
  · obtain rfl : other = later := by simpa [runsAfter] using present
    exact turn.narrates rostered.cohort (rostered.runs run only) restarts
      (proceeds.narrates run only)
  · obtain rfl : other = later := by simpa [runsAfter] using present
    exact turn.paces punctual rostered.cohort (proceeds.paces run only)

end Proceeds

theorem Does.proceeds
    {scenario : Scenario}
    {system next : System}
    {action : Action}
    (punctual : scenario.platform.timers.FireAtDeadline)
    (does : Does scenario system action next)
    (rostered : Rostered system)
    (solitary : next.Solitary)
    (proceeds : Proceeds scenario.settings system) :
    Proceeds scenario.settings next := by
  obtain ⟨single, restarts, unattended⟩ := does.solitary solitary
  cases does with
  | aside _ effect quiet runs _ | stopAgent _ _ _ effect quiet runs _ =>
      exact proceeds.unchanged rostered effect quiet.toGrows nofun runs
  | clock _ time later state runs _ => exact proceeds.clock later state runs
  | forceStop _ state runs _ =>
      have effect := (forces_forceStop rostered.cohort.known).effect
      have grows := (calm_forceStop system.state).toGrows
      rw [← state] at effect grows
      exact proceeds.unchanged rostered effect grows (by simp [Event.isForceStopped]) runs
  | begin _ plan restarting state runs _ =>
      have none : system.runs = [] := by
        have atMost := solitary.single
        rw [runs, List.length_append, List.length_singleton] at atMost
        exact List.eq_nil_of_length_eq_zero (by omega)
      rw [none, List.nil_append] at runs
      obtain rfl : restarting = true := solitary.restarts (.start plan restarting) (by simp [runs])
      exact proceeds.begin none state runs
  | await _ wait _ _ _ waits => exact absurd solitary.unattended (by simp [waits])
  | run index run later _ _ found turn runs _ =>
      obtain ⟨only, rfl⟩ := eq_singleton_of_getElem? single found
      exact proceeds.turn punctual rostered only (restarts run (by simp [only])) turn
        (by simp [runs, only])
  | wait index wait later _ _ found _ _ _ => simp [unattended] at found

theorem Reachable.proceeds
    {scenario : Scenario}
    {system : System}
    (punctual : scenario.platform.timers.FireAtDeadline)
    (reachable : Reachable scenario system)
    (solitary : system.Solitary) :
    Proceeds scenario.settings system := by
  induction reachable with
  | refl =>
      refine ⟨fun _ => ⟨rfl, rfl⟩, ?_, ?_⟩ <;> simp [System.initial]
  | tail earlier step inductionHypothesis =>
      obtain ⟨action, possible⟩ := step.exists_action
      have rostered := Reachable.rostered earlier
      have does := rostered.does possible
      exact does.proceeds punctual rostered solitary (inductionHypothesis (does.solitary solitary))

/-! ## The protocol -/

/-- What the listeners of a supervisor with one run can rely on. -/
structure EventProtocol (settings : SupervisorSettings) (run : Run) (state : State) : Prop where
  /-- Unless the run has succeeded they are told of one generation after the other. -/
  generations : run.outcome? ≠ some (.ok ()) →
    FollowsBlocks run.plan.names settings.cooldown state.reports
  /-- If it fails, the generations are complete and nothing follows. -/
  failed : ∀ failure, run.outcome? = some (.error failure) →
    ∃ timedOut : List (List String), (∀ agents ∈ timedOut, agents.Sublist run.plan.names) ∧
      state.reports = blocks run.plan.names settings.cooldown timedOut
  /-- If it succeeds, its end follows with the number of cohorts that have started. -/
  finished : run.outcome? = some (.ok ()) →
    state.HasToldEnd run.plan.names settings.cooldown
  /-- No agent is made before a pause is over. -/
  pauses : KeepsPauses state.journal
  /-- No launch is scheduled after a force-stop. -/
  forceStops : state.HeedsForceStops

/-- The events of a supervisor with one run, which restarts, and without waits follow the
protocol, whatever its agents do and whenever it is forced to stop; its timers end at their
deadlines. -/
theorem eventProtocol_of_reachable
    {scenario : Scenario}
    {system : System}
    {run : Run}
    (punctual : scenario.platform.timers.FireAtDeadline)
    (reachable : Reachable scenario system)
    (single : system.runs = [run])
    (restarts : run.restarts = true)
    (unattended : system.waits = []) :
    EventProtocol scenario.settings run system.state := by
  have solitary : system.Solitary := by
    refine ⟨by simp [single], ?_, unattended⟩
    simpa [single] using restarts
  have proceeds := reachable.proceeds punctual solitary
  have narrates := proceeds.narrates run (by simp [single])
  have paces := proceeds.paces run (by simp [single])
  exact ⟨narrates.generations, fun _ => narrates.failed, narrates.finished, paces.kept,
    reachable.heedsForceStops⟩

/-- A run that is forced to stop while its second cohort is alive, and has ended. -/
def forcedToEnd : System :=
  ((relaunched.perform slowToStop .forceStop).1.perform slowToStop (.advance 500)).1

theorem eventProtocol_forcedToEnd :
    slowToStop.platform.timers.FireAtDeadline ∧ ∃ run, forcedToEnd.runs = [run] ∧
      run.restarts = true ∧ forcedToEnd.waits = [] ∧
      EventProtocol slowToStop.settings run forcedToEnd.state ∧
      forcedToEnd.state.reports = [.cohortStarted 1 ["a"], .joinTimedOut 1 "a", .cohortStopped 1,
        .restartScheduled 1 ⟨10000⟩, .cohortStarted 2 ["a"], .cohortStopped 2, .finished 2] := by
  have again : Reachable slowToStop relaunched :=
    (steps_perform slowToStop _ _).trans (steps_perform slowToStop _ _)
  have reachable : Reachable slowToStop forcedToEnd :=
    (again.trans (steps_perform slowToStop _ _)).trans (steps_perform slowToStop _ _)
  obtain ⟨run, single⟩ := List.length_eq_one_iff.mp (by decide : forcedToEnd.runs.length = 1)
  have restarts : run.restarts = true := by
    have all : forcedToEnd.runs.all Run.restarts = true := by decide
    simpa [single] using all
  have unattended : forcedToEnd.waits = [] := by decide
  have protocol := eventProtocol_of_reachable Timers.fireAtDeadline_unbounded reachable single
    restarts unattended
  exact ⟨Timers.fireAtDeadline_unbounded, run, single, restarts, unattended, protocol, by decide⟩

end Supervision
end AgentCohort
