import AgentCohort.Proofs.Supervision.Execution

/-!
# The finality of a force-stop

A force-stop is final.  Once it has been recorded the record stays, no agent is made any
more, and every run whose agents have ended comes to its end, whatever ends its pause.  A
run can then end with a failure only if the launch has failed that was going on when the
force-stop was recorded.  Those who wait for a force-stop wait until the first one, and not
longer.
-/

namespace AgentCohort
namespace Supervision

open State

/-! ## The record -/

/-- Only a launch makes agents, and it does not begin after a force-stop. -/
theorem Step.makesNone_or_launches
    {scenario : Scenario}
    {system next : System}
    (step : Step scenario system next) :
    Grows (fun occurrence => occurrence.isCreation = false) system.state next.state ∨
      system.state.forceStopped = false ∧
        ∃ run ∈ system.runs, run.stage = .launching ∧
          next.state = (system.state.launchCohort scenario run.plan).1 :=
  step.calm_or_launches.imp_left fun calm =>
    calm.toGrows.mono fun _ permitted => permitted.creation

/-- After a force-stop no agents are made. -/
theorem Steps.makesNone
    {scenario : Scenario}
    {recorded later : System}
    (steps : Steps scenario recorded later)
    (forced : recorded.state.forceStopped = true) :
    Grows (fun occurrence => occurrence.isCreation = false) recorded.state later.state := by
  induction steps with
  | refl => exact .refl _
  | tail steps step inductionHypothesis =>
      rcases step.makesNone_or_launches with makesNone | ⟨unforced, _⟩
      · exact inductionHypothesis.trans makesNone
      · simp [(Steps.grows steps).forceStopped forced] at unforced

/-! ## Failures -/

/-- Only a launch that fails lets a run fail. -/
theorem Run.AfterLaunch.eq_error
    {run later : Run}
    {outcome : Except Failure (List AgentId)}
    {failure : Failure}
    (after : run.AfterLaunch outcome later)
    (failed : later.outcome? = some (.error failure)) :
    outcome = .error failure := by
  cases after with
  | failed reason =>
      have same : reason = failure := by simpa [outcome?, enter] using failed
      rw [same]
  | joining => simp [outcome?, enter] at failed
  | complete => simp [outcome?, enter] at failed

theorem getElem?_set_cases
    {items : List α}
    {index other : Nat}
    {replacement item : α}
    (found : (items.set index replacement)[other]? = some item) :
    (index = other ∧ item = replacement) ∨ items[other]? = some item := by
  rw [List.getElem?_set] at found
  split at found
  · rename_i same
    split at found
    · exact .inl ⟨same, (Option.some.inj found).symm⟩
    · simp at found
  · exact .inr found

/-- A run that has failed, or whose launch leads from one state to another one and fails. -/
def Run.FailsInto
    (scenario : Scenario)
    (older newer : State)
    (failure : Failure)
    (run : Run) : Prop :=
  run.outcome? = some (.error failure) ∨
    run.stage = .launching ∧ older.launchCohort scenario run.plan = (newer, .error failure)

/-- A run that has failed after a step had failed before, or the step is its launch; no launch
begins after a force-stop. -/
theorem Step.failure_cases
    {scenario : Scenario}
    {system next : System}
    {index : Nat}
    {run : Run}
    {failure : Failure}
    (step : Step scenario system next)
    (found : next.runs[index]? = some run)
    (failed : run.outcome? = some (.error failure)) :
    ∃ earlier, system.runs[index]? = some earlier ∧
      earlier.FailsInto scenario system.state next.state failure ∧
      (system.state.forceStopped = true → earlier.outcome? = some (.error failure)) := by
  cases step.kind with
  | quiet _ runs | forceStop _ runs =>
      rw [runs] at found
      exact ⟨run, found, .inl failed, fun _ => failed⟩
  | begin plan restarts _ runs =>
      rw [runs, List.getElem?_append] at found
      split at found
      · exact ⟨run, found, .inl failed, fun _ => failed⟩
      · have begun := List.mem_singleton.mp (List.mem_of_getElem? found)
        simp [begun, Run.start, Run.outcome?] at failed
  | goOn _ before after _ runs _ goesOn =>
      rw [runs] at found
      rcases getElem?_set_cases found with ⟨_, rfl⟩ | foundBefore
      · rcases goesOn.outcome with none | succeeded
        · simp [none] at failed
        · simp [succeeded] at failed
      · exact ⟨run, foundBefore, .inl failed, fun _ => failed⟩
  | launch launching before after foundBefore runs stage unforced state afterLaunch =>
      rw [runs] at found
      rcases getElem?_set_cases found with ⟨rfl, rfl⟩ | foundBefore
      · have fails : system.state.launchCohort scenario before.plan =
            (next.state, .error failure) :=
          Prod.ext state.symm (afterLaunch.eq_error failed)
        refine ⟨before, foundBefore, .inr ⟨stage, fails⟩, ?_⟩
        simp [unforced]
      · exact ⟨run, foundBefore, .inl failed, fun _ => failed⟩

/-- After a force-stop no run fails. -/
theorem Steps.failed_of_forced
    {scenario : Scenario}
    {recorded later : System}
    {index : Nat}
    {run : Run}
    {failure : Failure}
    (steps : Steps scenario recorded later)
    (forced : recorded.state.forceStopped = true)
    (found : later.runs[index]? = some run)
    (failed : run.outcome? = some (.error failure)) :
    ∃ earlier, recorded.runs[index]? = some earlier ∧
      earlier.outcome? = some (.error failure) := by
  induction steps generalizing run with
  | refl => exact ⟨run, found, failed⟩
  | tail steps step inductionHypothesis =>
      obtain ⟨earlier, foundEarlier, _, failedBefore⟩ := step.failure_cases found failed
      exact inductionHypothesis foundEarlier
        (failedBefore ((Steps.grows steps).forceStopped forced))

/-! ## Waits -/

/-- A wait that goes on in a step, or is left alone. -/
def Wait.MayBecome (scenario : Scenario) (state : State) (wait later : Wait) : Prop :=
  later = wait ∨
    ∃ joiner newer, wait.step? scenario joiner state = some (later, newer)

/-- A move leaves a wait alone or is a step of it. -/
theorem System.wait_after?
    {scenario : Scenario}
    {system next : System}
    {move : Move}
    {index : Nat}
    {wait : Wait}
    (possible : system.after? scenario move = some next)
    (found : system.waits[index]? = some wait) :
    ∃ later, next.waits[index]? = some later ∧
      wait.MayBecome scenario system.state later := by
  cases move with
  | agentEnds agent =>
      simp only [after?, Option.ite_none_right_eq_some] at possible
      obtain ⟨_, rfl⟩ := possible.imp_right Option.some.inj
      exact ⟨wait, found, .inl rfl⟩
  | run moved favoursForceStop =>
      simp only [after?, stepRun?, Option.bind_eq_bind, Option.bind_eq_some_iff] at possible
      obtain ⟨_, _, _, _, same⟩ := possible
      obtain rfl := Option.some.inj same
      exact ⟨wait, found, .inl rfl⟩
  | wait moved =>
      simp only [after?, stepWait?, Option.bind_eq_bind, Option.bind_eq_some_iff] at possible
      obtain ⟨before, foundBefore, ⟨later, state⟩, stepped, same⟩ := possible
      obtain rfl := Option.some.inj same
      by_cases same : moved = index
      · subst same
        obtain rfl := Option.some.inj (foundBefore.symm.trans found)
        have inRange := (List.getElem?_eq_some_iff.mp found).1
        exact ⟨later, List.getElem?_set_self inRange, .inr ⟨_, state, stepped⟩⟩
      · exact ⟨wait, (List.getElem?_set_ne same).trans found, .inl rfl⟩
  | clock time =>
      simp only [after?, Option.ite_none_right_eq_some] at possible
      obtain ⟨_, rfl⟩ := possible.imp_right Option.some.inj
      exact ⟨wait, found, .inl rfl⟩

/-- A request leaves all waits alone. -/
theorem System.wait_accept
    {system : System}
    {index : Nat}
    {wait : Wait}
    (request : Request)
    (found : system.waits[index]? = some wait) :
    (system.accept request).1.waits[index]? = some wait := by
  have kept (added : Wait) : (system.waits ++ [added])[index]? = some wait :=
    (List.getElem?_append_left (List.getElem?_eq_some_iff.mp found).1).trans found
  cases request with
  | run names orchestrator base restarts =>
      simp only [accept]
      split <;> exact found
  | finish agent | stopAgent agent =>
      simp only [accept, withAgent]
      split <;> exact found
  | waitForCohort | waitForForceStop => exact kept _
  | advance | forceStop | subscribe | look => exact found

theorem Step.wait_mayBecome
    {scenario : Scenario}
    {system next : System}
    {index : Nat}
    {wait : Wait}
    (step : Step scenario system next)
    (found : system.waits[index]? = some wait) :
    ∃ later, next.waits[index]? = some later ∧
      wait.MayBecome scenario system.state later := by
  cases step with
  | move move possible => exact System.wait_after? possible found
  | request request => exact ⟨wait, System.wait_accept request found, .inl rfl⟩

/-- Who waits for a force-stop goes on waiting until one has been recorded. -/
theorem Wait.MayBecome.of_forForceStop
    {scenario : Scenario}
    {state : State}
    {later : Wait}
    (mayBecome : Wait.forForceStop.MayBecome scenario state later) :
    later = .forForceStop ∨ later = .ended ∧ state.forceStopped = true := by
  rcases mayBecome with rfl | ⟨joiner, newer, stepped⟩
  · exact .inl rfl
  · simp only [Wait.step?, Option.ite_none_right_eq_some] at stepped
    obtain ⟨forced, same⟩ := stepped
    exact .inr ⟨(Prod.mk.inj (Option.some.inj same)).1.symm, forced⟩

/-- A wait that is over stays so. -/
theorem Wait.MayBecome.of_ended
    {scenario : Scenario}
    {state : State}
    {later : Wait}
    (mayBecome : Wait.ended.MayBecome scenario state later) :
    later = .ended := by
  rcases mayBecome with rfl | ⟨joiner, newer, stepped⟩
  · rfl
  · simp [Wait.step?] at stepped

/-- Who waits for a force-stop still waits, or it has been recorded. -/
theorem Steps.forForceStop_cases
    {scenario : Scenario}
    {earlier later : System}
    {index : Nat}
    (steps : Steps scenario earlier later)
    (waiting : earlier.waits[index]? = some .forForceStop) :
    later.waits[index]? = some .forForceStop ∨
      later.waits[index]? = some .ended ∧ later.state.forceStopped = true := by
  induction steps with
  | refl => exact .inl waiting
  | tail _ step inductionHypothesis =>
      rcases inductionHypothesis with still | ⟨ended, forced⟩
      · obtain ⟨wait, found, mayBecome⟩ := step.wait_mayBecome still
        rcases mayBecome.of_forForceStop with rfl | ⟨rfl, forced⟩
        · exact .inl found
        · exact .inr ⟨found, step.grows.forceStopped forced⟩
      · obtain ⟨wait, found, mayBecome⟩ := step.wait_mayBecome ended
        rw [mayBecome.of_ended] at found
        exact .inr ⟨found, step.grows.forceStopped forced⟩

/-! ## Rest -/

/-- Who has ended need not be waited for. -/
theorem isJoinable_of_hasEnded
    {state : State}
    {agent : AgentId}
    (ended : state.hasEnded agent = true) :
    state.isJoinable agent = true := by
  cases found : state.member? agent with
  | none => simp [isJoinable, found]
  | some member =>
      have memberEnded : member.isEnded = true := by simpa [hasEnded, found] using ended
      simp [isJoinable, Member.isJoinable, found, memberEnded]

/-- A joiner goes on if the agent that it is at has ended. -/
theorem Joining.step?_isSome
    {scenario : Scenario}
    {joiner : JoinerId}
    {joining : Joining}
    {state : State}
    (ended : ∀ agent ∈ joining.remaining, state.hasEnded agent = true)
    (unfinished : joining.remaining ≠ []) :
    (joining.step? scenario joiner state).isSome = true := by
  obtain ⟨generation, remaining, phase⟩ := joining
  cases remaining with
  | nil => simp at unfinished
  | cons agent rest =>
      have joinable := isJoinable_of_hasEnded (ended agent List.mem_cons_self)
      cases phase with
      | fresh => simp [Joining.step?]
      | limited deadline => simp [Joining.step?, joinable]
      | unlimited => simp [Joining.step?, joinable]

/-- After a force-stop a run whose agents have ended goes on until it is over. -/
theorem Run.outcome?_of_stuck
    {scenario : Scenario}
    {joiner : JoinerId}
    {run : Run}
    {state : State}
    (forced : state.forceStopped = true)
    (ended : ∀ agent ∈ run.awaited, state.hasEnded agent = true)
    (stuck : run.step? scenario false joiner state = none) :
    ∃ outcome, run.outcome? = some outcome := by
  cases stage : run.stage with
  | launching => simp [step?, stage] at stuck
  | joining progress =>
      simp only [step?, stage] at stuck
      split at stuck
      · simp at stuck
      · rename_i unfinished
        have endedRemaining : ∀ agent ∈ progress.remaining, state.hasEnded agent = true := by
          simpa [awaited, stage] using ended
        have goesOn : (progress.step? scenario joiner state).isSome = true :=
          Joining.step?_isSome endedRemaining (by simpa using unfinished)
        simp [Option.map_eq_none_iff.mp stuck] at goesOn
  | cooling wakeTime =>
      simp only [step?, stage, forced] at stuck
      split at stuck <;> simp at stuck
  | ended outcome => exact ⟨outcome, by simp [outcome?, stage]⟩

/-- At rest nobody can take a step. -/
theorem System.stuck_of_isAtRest
    {scenario : Scenario}
    {system : System}
    (rest : system.isAtRest scenario = true) :
    (∀ index < system.runs.length, system.stepRun? scenario false index = none) ∧
      ∀ index < system.waits.length, system.stepWait? scenario index = none := by
  simpa [isAtRest, canStep] using (Bool.and_eq_true_iff.mp rest).2

/-- After a force-stop, a run whose agents have ended is over when everything is at rest. -/
theorem System.outcome?_of_isAtRest
    {scenario : Scenario}
    {system : System}
    {index : Nat}
    {run : Run}
    (rest : system.isAtRest scenario = true)
    (forced : system.state.forceStopped = true)
    (found : system.runs[index]? = some run)
    (ended : ∀ agent ∈ run.awaited, system.state.hasEnded agent = true) :
    ∃ outcome, run.outcome? = some outcome := by
  have stuck := (stuck_of_isAtRest rest).1 index (List.getElem?_eq_some_iff.mp found).1
  cases stepped : run.step? scenario false (.run index) system.state with
  | none => exact Run.outcome?_of_stuck forced ended stepped
  | some next => simp [stepRun?, found, stepped] at stuck

/-- At rest nobody waits for a force-stop that has been recorded. -/
theorem System.not_forForceStop_of_isAtRest
    {scenario : Scenario}
    {system : System}
    {index : Nat}
    (rest : system.isAtRest scenario = true)
    (forced : system.state.forceStopped = true) :
    system.waits[index]? ≠ some .forForceStop := by
  intro found
  have stuck := (stuck_of_isAtRest rest).2 index (List.getElem?_eq_some_iff.mp found).1
  simp [stepWait?, found, Wait.step?, forced] at stuck

/-! ## Everything after a force-stop -/

/-- A history that grows without attempts to make an agent. -/
def GrowsWithoutCreations (older newer : List Occurrence) : Prop :=
  ∃ added, newer = added ++ older ∧ ∀ blueprint, .create blueprint ∉ added

theorem growsWithoutCreations_of_grows
    {older newer : State}
    (grows : Grows (fun occurrence => occurrence.isCreation = false) older newer) :
    GrowsWithoutCreations older.history newer.history := by
  obtain ⟨added, grown, makesNone⟩ := grows.history
  refine ⟨added, grown, fun blueprint present => ?_⟩
  have := makesNone _ present
  simp [Occurrence.isCreation] at this

/-- What it means for a later system that a force-stop was recorded in the step from one
system to another. -/
structure ForceStopIsFinal (scenario : Scenario) (before recorded later : System) : Prop where
  /-- The record stays. -/
  forceStopped : later.state.forceStopped = true
  /-- No more agents are made. -/
  creations : GrowsWithoutCreations recorded.state.history later.state.history
  /-- The step itself makes agents only if it is the launch of a run. -/
  launch : GrowsWithoutCreations before.state.history recorded.state.history ∨
    ∃ run ∈ before.runs, run.stage = .launching ∧
      recorded.state = (before.state.launchCohort scenario run.plan).1
  /-- At rest a run whose agents have ended is over.  If it has not succeeded, it had failed
  before the step, or the step is its launch. -/
  runs : later.isAtRest scenario = true →
    ∀ (index : Nat) (run : Run), later.runs[index]? = some run →
      (∀ agent ∈ run.awaited, later.state.hasEnded agent = true) →
        run.outcome? = some (.ok ()) ∨
          ∃ (failure : Failure) (earlier : Run), run.outcome? = some (.error failure) ∧
            before.runs[index]? = some earlier ∧
            earlier.FailsInto scenario before.state recorded.state failure
  /-- At rest nobody waits for a force-stop. -/
  waits : later.isAtRest scenario = true →
    ∀ (earlier : System) (index : Nat), Steps scenario earlier later →
      earlier.waits[index]? = some .forForceStop → later.waits[index]? = some .ended
  /-- Nobody has stopped to wait for a force-stop before the first one. -/
  waitsBefore : ∀ (earlier middle : System) (index : Nat), Steps scenario earlier middle →
    middle.state.forceStopped = false →
      earlier.waits[index]? = some .forForceStop → middle.waits[index]? = some .forForceStop

/-- A force-stop is final from the step that records it. -/
theorem forceStopIsFinal_of_steps
    {scenario : Scenario}
    {before recorded later : System}
    (step : Step scenario before recorded)
    (forced : recorded.state.forceStopped = true)
    (steps : Steps scenario recorded later) :
    ForceStopIsFinal scenario before recorded later := by
  have makesNone := Steps.makesNone steps forced
  have forcedLater := makesNone.forceStopped forced
  refine ⟨forcedLater, growsWithoutCreations_of_grows makesNone, ?_, ?_, ?_, ?_⟩
  · rcases step.makesNone_or_launches with makesNone | ⟨_, launches⟩
    · exact .inl (growsWithoutCreations_of_grows makesNone)
    · exact .inr launches
  · intro rest index run found ended
    obtain ⟨outcome, finished⟩ := System.outcome?_of_isAtRest rest forcedLater found ended
    cases outcome with
    | ok => exact .inl finished
    | error failure =>
        obtain ⟨failed, foundFailed, hasFailed⟩ :=
          Steps.failed_of_forced steps forced found finished
        obtain ⟨earlier, foundEarlier, fails, _⟩ := step.failure_cases foundFailed hasFailed
        exact .inr ⟨failure, earlier, finished, foundEarlier, fails⟩
  · intro rest earlier index stepsTo waiting
    rcases Steps.forForceStop_cases stepsTo waiting with still | ⟨ended, _⟩
    · exact absurd still (System.not_forForceStop_of_isAtRest rest forcedLater)
    · exact ended
  · intro earlier middle index stepsTo unforcedThen waiting
    rcases Steps.forForceStop_cases stepsTo waiting with still | ⟨_, forcedThen⟩
    · exact still
    · simp [unforcedThen] at forcedThen

/-- Agents that end as soon as they have been started. -/
def fleeting : Scenario :=
  ⟨⟨10, none, none, .leaveRunning⟩,
    fun _ _ => { Behaviour.standard with endsAfter? := some 0 }, .isolated⟩

/-- Somebody who waits for a force-stop, and two runs that pause. -/
def pausing : System :=
  let waiting := (System.initial.perform fleeting .waitForForceStop).1
  let begun := (waiting.perform fleeting (.run ["a"] "o:1" ⟨none, 9001, none⟩ true)).1
  (begun.perform fleeting (.run ["b"] "o:1" ⟨none, 9002, none⟩ true)).1

/-- The same with a force-stop. -/
def cutShort : System :=
  (pausing.accept .forceStop).1

theorem forceStopIsFinal_cutShort :
    pausing.state.forceStopped = false ∧ cutShort.state.forceStopped = true ∧
      (cutShort.settle fleeting 0).isAtRest fleeting = true ∧
      ForceStopIsFinal fleeting pausing cutShort (cutShort.settle fleeting 0) :=
  ⟨by decide, by decide, by decide,
    forceStopIsFinal_of_steps (.request .forceStop) (by decide) (steps_advance fleeting _ _ _)⟩

end Supervision
end AgentCohort
