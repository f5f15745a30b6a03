import AgentCohort.Supervision.Joining
import AgentCohort.Supervision.Launch

/-!
# Runs

A run launches a cohort.  Without restarts it is over then.  With restarts it joins the
cohort, pauses, and launches again, until a force-stop has been recorded or the number
of restarts is used up.  The record is read before each launch and after each cohort,
and a force-stop ends a pause at once.
-/

namespace AgentCohort
namespace Supervision

/-- What a run is doing. -/
inductive RunStage where
  /-- It is about to launch. -/
  | launching
  /-- It waits for its cohort. -/
  | joining (progress : Joining)
  /-- It pauses until a given time. -/
  | cooling (wakeTime : Nat)
  /-- It is over. -/
  | ended (outcome : Except Failure Unit)

/-- A run. -/
structure Run where
  /-- What it launches. -/
  plan : Plan
  /-- Whether it launches again when all agents have ended. -/
  restarts : Bool
  /-- Number of launches after the first one, in a word of 32 bits. -/
  restartCount : UInt32
  /-- What it is doing. -/
  stage : RunStage

namespace Run

/-- A run that has not done anything. -/
def start (plan : Plan) (restarts : Bool) : Run :=
  ⟨plan, restarts, 0, .launching⟩

/-- The run at another stage. -/
def enter (run : Run) (stage : RunStage) : Run :=
  { run with stage := stage }

/-- How a run ended. -/
def outcome? (run : Run) : Option (Except Failure Unit) :=
  match run.stage with
  | .ended outcome => some outcome
  | .launching | .joining _ | .cooling _ => none

/-- The end of a run with restarts. -/
def finish (run : Run) (state : State) : Run × State :=
  (run.enter (.ended (.ok ())),
    (state.log (.runFinished state.generation)).announce (.finished state.generation))

/-- What a run does when it is about to launch. -/
def launch (scenario : Scenario) (run : Run) (state : State) : Run × State :=
  if state.forceStopped then
    if run.restarts then run.finish state
    else (run.enter (.ended (.ok ())), state.log .launchRefused)
  else
    match state.launchCohort scenario run.plan with
    | (failed, .error failure) => (run.enter (.ended (.error failure)), failed)
    | (launched, .ok cohort) =>
      if run.restarts then (run.enter (.joining (.start launched.generation cohort)), launched)
      else (run.enter (.ended (.ok ())), launched)

/-- Whether the restarts of a run are used up. -/
def isAtLimit (settings : SupervisorSettings) (run : Run) : Bool :=
  settings.maxRestarts?.any (· ≤ run.restartCount)

/-- What a run does when all agents of its cohort have ended. -/
def coolDown (scenario : Scenario) (generation : Nat) (run : Run) (state : State) :
    Run × State :=
  let stopped := (state.log .allStopped).announce (.cohortStopped generation)
  if stopped.forceStopped then
    run.finish stopped
  else if run.isAtLimit scenario.settings then
    run.finish (stopped.log (.restartLimit (scenario.settings.maxRestarts?.getD 0)))
  else
    let cooldown := scenario.settings.cooldown
    (run.enter (.cooling (scenario.platform.timers.sleepEnd stopped.now cooldown)),
      (stopped.log .coolingDown).announce (.restartScheduled generation cooldown))

/-- The end of a pause because its time is over. -/
def wake (run : Run) : Run :=
  { run with restartCount := run.restartCount + 1, stage := .launching }

/-- The end of a pause because of a force-stop. -/
def cutShort (run : Run) (state : State) : Run × State :=
  run.finish (state.log .cooldownCut)

/-- One step of a run, or nothing if it is over or has to wait.  If the time of a pause
is over and a force-stop has been recorded as well, either may end the pause;
`favoursForceStop` says which one does. -/
def step?
    (scenario : Scenario)
    (favoursForceStop : Bool)
    (joiner : JoinerId)
    (run : Run)
    (state : State) : Option (Run × State) :=
  match run.stage with
  | .launching => some (run.launch scenario state)
  | .joining progress =>
    if progress.remaining.isEmpty then
      some (run.coolDown scenario progress.generation state)
    else
      (progress.step? scenario joiner state).map fun next =>
        (run.enter (.joining next.1), next.2)
  | .cooling wakeTime =>
    if wakeTime ≤ state.now ∧ (state.forceStopped = false ∨ favoursForceStop = false) then
      some (run.wake, state)
    else if state.forceStopped then
      some (run.cutShort state)
    else
      none
  | .ended _ => none

/-- The time of the timer that a run waits for. -/
def timer? (run : Run) : Option Nat :=
  match run.stage with
  | .joining progress => progress.deadline?
  | .cooling wakeTime => some wakeTime
  | .launching | .ended _ => none

end Run

/-- Somebody who waits for the current cohort or for a force-stop. -/
inductive Wait where
  /-- It is about to look which cohort is the current one. -/
  | looking
  /-- It joins a cohort. -/
  | joining (progress : Joining)
  /-- It waits for a force-stop. -/
  | forForceStop
  /-- It is over. -/
  | ended
  deriving DecidableEq, Repr

namespace Wait

/-- One step of a wait, or nothing if it is over or has to go on. -/
def step? (scenario : Scenario) (joiner : JoinerId) (wait : Wait) (state : State) :
    Option (Wait × State) :=
  match wait with
  | .looking => some (.joining (.start state.generation state.cohort), state)
  | .joining progress =>
    if progress.remaining.isEmpty then
      some (.ended, state)
    else
      (progress.step? scenario joiner state).map fun next => (.joining next.1, next.2)
  | .forForceStop => if state.forceStopped then some (.ended, state) else none
  | .ended => none

/-- The time of the timer that a wait waits for. -/
def timer? (wait : Wait) : Option Nat :=
  match wait with
  | .joining progress => progress.deadline?
  | .looking | .forForceStop | .ended => none

end Wait
end Supervision
end AgentCohort
