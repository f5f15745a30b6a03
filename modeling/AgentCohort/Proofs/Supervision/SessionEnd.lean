import AgentCohort.Program.Process
import AgentCohort.Proofs.Supervision.ForceStopReach
import AgentCohort.Proofs.Supervision.Orphans

/-!
# The end of a session

When a session is over, no agent is left that was launched in it, in whatever generation, and
its outcome is that of its run.

A run that has succeeded with restarts leaves nobody behind, because it joins each cohort
before it does anything else.  In all other cases the agents that are alive belong to the
current cohort, complete or not, and that is the cohort that is waited for.  A run that is
over launches nothing, so nobody comes to life while the others are waited for.
-/

namespace AgentCohort
namespace Supervision

open State

/-! ## Steps of sessions -/

/-- Whether a request begins neither a run nor a wait. -/
def Request.beginsNothing : Request → Bool
  | .run .. | .waitForCohort | .waitForForceStop => false
  | .advance _ | .finish _ | .stopAgent _ | .forceStop | .subscribe | .look => true

namespace Session

/-- What may happen in a session: its system makes a move, something comes from outside that
begins nothing, or the time for the next phase has come. -/
inductive Step (scenario : Scenario) (session : Session) : Session → Prop
  /-- The system makes a move. -/
  | move
      {next : System}
      (move : Move)
      (possible : session.system.after? scenario move = some next) :
      Step scenario session (session.withSystem next)
  /-- Something comes from outside. -/
  | request
      (request : Request)
      (passive : request.beginsNothing = true) :
      Step scenario session (session.withSystem (session.system.accept request).1)
  /-- The next phase begins. -/
  | phase
      {next : Session}
      (due : session.nextPhase? = some next) :
      Step scenario session next

/-- Any number of steps. -/
abbrev Steps (scenario : Scenario) : Session → Session → Prop :=
  Relation.ReflTransGen (Step scenario)

end Session

/-- A move begins neither a run nor a wait. -/
theorem System.length_after?
    {scenario : Scenario}
    {system next : System}
    {move : Move}
    (possible : system.after? scenario move = some next) :
    next.runs.length = system.runs.length ∧ next.waits.length = system.waits.length := by
  cases move with
  | agentEnds agent | clock time =>
      simp only [after?, Option.ite_none_right_eq_some] at possible
      obtain ⟨_, rfl⟩ := possible.imp_right Option.some.inj
      exact ⟨rfl, rfl⟩
  | run index favoursForceStop =>
      simp only [after?, stepRun?, Option.bind_eq_bind, Option.bind_eq_some_iff] at possible
      obtain ⟨_, _, _, _, same⟩ := possible
      obtain rfl := Option.some.inj same
      exact ⟨List.length_set, rfl⟩
  | wait index =>
      simp only [after?, stepWait?, Option.bind_eq_bind, Option.bind_eq_some_iff] at possible
      obtain ⟨_, _, _, _, same⟩ := possible
      obtain rfl := Option.some.inj same
      exact ⟨rfl, List.length_set⟩

theorem System.length_accept
    {request : Request}
    (passive : request.beginsNothing = true)
    (system : System) :
    (system.accept request).1.runs.length = system.runs.length ∧
      (system.accept request).1.waits.length = system.waits.length := by
  cases request with
  | run | waitForCohort | waitForForceStop => simp [Request.beginsNothing] at passive
  | finish agent | stopAgent agent =>
      simp only [accept, withAgent]
      split <;> exact ⟨rfl, rfl⟩
  | advance | forceStop | subscribe | look => exact ⟨rfl, rfl⟩

/-! ## The only run of a system -/

/-- What a step does to the only run of a system. -/
inductive SoleStep (scenario : Scenario) (system next : System) (run : Run) : Run → Prop
  /-- It leaves the run alone. -/
  | aside
      (calm : Calm Occurrence.IsQuiet system.state next.state) :
      SoleStep scenario system next run run
  /-- The run goes on. -/
  | goOn
      {later : Run}
      (quiet : Quiet system.state next.state)
      (goesOn : run.GoesOn system.state later) :
      SoleStep scenario system next run later
  /-- The run launches a cohort. -/
  | launch
      {later : Run}
      {outcome : Except Failure (List AgentId)}
      (stage : run.stage = .launching)
      (launched : system.state.launchCohort scenario run.plan = (next.state, outcome))
      (after : run.AfterLaunch outcome later) :
      SoleStep scenario system next run later

theorem Step.sole
    {scenario : Scenario}
    {system next : System}
    {run : Run}
    (step : Step scenario system next)
    (only : system.runs = [run])
    (single : next.runs.length ≤ 1) :
    ∃ later, next.runs = [later] ∧ SoleStep scenario system next run later := by
  have isOnly {moved : Run} {index : Nat} (found : system.runs[index]? = some moved) :
      run = moved ∧ index = 0 := by
    obtain ⟨same, first⟩ := eq_singleton_of_getElem? (by simp [only]) found
    exact ⟨List.head_eq_of_cons_eq (only.symm.trans same), first⟩
  cases step.kind with
  | quiet quiet runs => exact ⟨run, runs.trans only, .aside quiet.toCalm⟩
  | forceStop state runs =>
      exact ⟨run, runs.trans only, .aside (state ▸ calm_forceStop system.state)⟩
  | begin plan restarts _ runs => simp [runs, only] at single
  | goOn index moved later found runs quiet goesOn =>
      obtain ⟨rfl, rfl⟩ := isOnly found
      exact ⟨later, by rw [runs, only]; rfl, .goOn quiet goesOn⟩
  | launch index moved later found runs stage _ state after =>
      obtain ⟨rfl, rfl⟩ := isOnly found
      exact ⟨later, by rw [runs, only]; rfl, .launch stage (Prod.ext state.symm rfl) after⟩

theorem SoleStep.plan_and_restarts
    {scenario : Scenario}
    {system next : System}
    {run later : Run}
    (step : SoleStep scenario system next run later) :
    later.plan = run.plan ∧ later.restarts = run.restarts := by
  cases step with
  | aside _ => exact ⟨rfl, rfl⟩
  | goOn _ goesOn => exact ⟨goesOn.plan, goesOn.restarts⟩
  | launch _ _ after => cases after <;> exact ⟨rfl, rfl⟩

theorem Run.awaited_of_over
    {run : Run}
    {outcome : Except Failure Unit}
    (isOver : run.outcome? = some outcome) :
    run.awaited = [] := by
  cases stage : run.stage <;> simp_all [outcome?, awaited]

/-- A run that is over stays as it is, and launches nothing. -/
theorem SoleStep.calm_of_over
    {scenario : Scenario}
    {system next : System}
    {run later : Run}
    {outcome : Except Failure Unit}
    (step : SoleStep scenario system next run later)
    (isOver : run.outcome? = some outcome) :
    later = run ∧ Calm Occurrence.IsQuiet system.state next.state := by
  cases step with
  | aside calm => exact ⟨rfl, calm⟩
  | goOn _ goesOn => simp [goesOn.active] at isOver
  | launch stage _ _ => simp [Run.outcome?, stage] at isOver

/-! ## Systems of sessions -/

/-- The system of a session: it has one run, which leaves nobody behind if it succeeds with
restarts. -/
structure Hosts (plan : Plan) (restarts : Bool) (system : System) : Prop where
  /-- It has one run, of what the session is about. -/
  run : ∃ run, system.runs = [run] ∧ run.plan = plan ∧ run.restarts = restarts
  /-- The history accounts for the agents. -/
  accounted : system.state.Accounted
  /-- The agents of the current cohort were asked to start. -/
  started : system.state.HasStartedCohort
  /-- Whoever was asked to start has ended or is covered by the run. -/
  orderly : Orderly system
  /-- The agents that are alive belong to the current cohort. -/
  reached : Reached system.state
  /-- A run with restarts that has succeeded leaves nobody behind. -/
  finished : restarts = true → ∀ run ∈ system.runs, run.outcome? = some (.ok ()) →
    ∀ agent, .start agent ∈ system.state.history → system.state.hasEnded agent = true

theorem hosts_start (plan : Plan) (restarts : Bool) :
    Hosts plan restarts (Session.start plan restarts).system where
  run := ⟨_, rfl, rfl, rfl⟩
  accounted := accounted_initial
  started := nofun
  orderly := orderly_initial.begin rfl rfl rfl
  reached := reached_initial
  finished _ _ _ _ _ happened := by simp [Session.start, System.initial] at happened

/-- A run with restarts that succeeds has waited for all agents that were asked to start. -/
theorem Hosts.hasEnded_of_succeeded
    {scenario : Scenario}
    {plan : Plan}
    {system next : System}
    {run later : Run}
    (hosts : Hosts plan true system)
    (only : system.runs = [run])
    (restarts : run.restarts = true)
    (step : SoleStep scenario system next run later)
    (succeeded : later.outcome? = some (.ok ()))
    {agent : AgentId}
    (started : .start agent ∈ next.state.history) :
    next.state.hasEnded agent = true := by
  have calmly (calm : Calm Occurrence.IsQuiet system.state next.state)
      (ended : .start agent ∈ system.state.history → system.state.hasEnded agent = true) :
      next.state.hasEnded agent = true := by
    rcases calm.mem_history_or started with before | quiet
    · exact calm.ended agent (ended before)
    · exact absurd quiet.start (by simp [Occurrence.isStart])
  cases step with
  | aside calm =>
      exact calmly calm fun before => hosts.finished rfl run (by simp [only]) succeeded agent before
  | goOn quiet goesOn =>
      refine calmly quiet.toCalm fun before => ?_
      rcases hosts.orderly.settled agent before with ended | ⟨other, present, covers⟩
      · exact ended
      obtain rfl : other = run := by simpa [only] using present
      -- The run was not over, so it waited for the agent.
      have awaited : agent ∈ other.awaited := covers.resolve_right (by simp [goesOn.active])
      rcases goesOn.awaited agent awaited with still | joinable
      · simp [Run.awaited_of_over succeeded] at still
      · exact hasEnded_of_isJoinable joinable (hosts.orderly.awaited other present agent awaited)
  | launch _ _ after =>
      cases after with
      | failed failure => simp [Run.outcome?, Run.enter] at succeeded
      | joining generation _ => simp [Run.outcome?, Run.enter] at succeeded
      | complete without => simp [restarts] at without

theorem Hosts.step
    {scenario : Scenario}
    {plan : Plan}
    {restarts : Bool}
    {system next : System}
    (hosts : Hosts plan restarts system)
    (step : Step scenario system next)
    (single : next.runs.length ≤ 1) :
    Hosts plan restarts next := by
  obtain ⟨run, only, samePlan, sameRestarts⟩ := hosts.run
  obtain ⟨later, onlyLater, sole⟩ := step.sole only single
  obtain ⟨planLater, restartsLater⟩ := sole.plan_and_restarts
  obtain ⟨renewed, renews⟩ := step.renews
  refine ⟨⟨later, onlyLater, planLater.trans samePlan, restartsLater.trans sameRestarts⟩,
    step.accounted hosts.accounted, hosts.started.renews renews,
    step.orderly single hosts.accounted hosts.orderly,
    step.reached (by simp [only]) hosts.accounted hosts.orderly hosts.reached, ?_⟩
  rintro rfl other present succeeded agent started
  obtain rfl : other = later := by simpa [onlyLater] using present
  exact hosts.hasEnded_of_succeeded only sameRestarts sole succeeded started

/-- The waits do not matter. -/
theorem Hosts.of_eq
    {plan : Plan}
    {restarts : Bool}
    {system next : System}
    (hosts : Hosts plan restarts system)
    (state : next.state = system.state)
    (runs : next.runs = system.runs) :
    Hosts plan restarts next := by
  obtain ⟨nextState, nextRuns, waits, listeners⟩ := next
  dsimp only at state runs
  subst state runs
  exact { hosts with orderly := { hosts.orderly with } }

/-- The agents of a session that are alive belong to its current cohort. -/
theorem Hosts.mem_cohort_or_hasEnded
    {plan : Plan}
    {restarts : Bool}
    {system : System}
    (hosts : Hosts plan restarts system)
    {agent : AgentId}
    (launched : system.state.isLaunched agent = true) :
    agent ∈ system.state.cohort ∨ system.state.hasEnded agent = true := by
  cases ended : system.state.hasEnded agent with
  | true => exact .inr rfl
  | false => exact .inl (hosts.reached.published agent (isAlive_iff.mpr ⟨launched, ended⟩))

/-! ## Phases -/

namespace Session

/-- What holds in each phase: the outcome is that of the run, and the agents of the current
cohort are waited for until nobody is left. -/
def PhaseHolds (session : Session) : Prop :=
  match session.phase with
  | .running => session.system.waits = []
  | .waiting outcome =>
    (∃ run, session.system.runs = [run] ∧ run.outcome? = some outcome) ∧
      ∃ wait, session.system.waits = [wait] ∧
        (wait = .looking ∨
          ∀ agent ∈ session.system.state.cohort, wait.Covers agent session.system.state)
  | .ended outcome =>
    (∃ run, session.system.runs = [run] ∧ run.outcome? = some outcome) ∧
      ∀ agent, session.system.state.isLaunched agent = true →
        session.system.state.hasEnded agent = true

/-- What holds of a session at any time. -/
structure Sound (plan : Plan) (restarts : Bool) (session : Session) : Prop where
  /-- Its system is that of a session. -/
  hosts : Hosts plan restarts session.system
  /-- It is in one of the phases. -/
  phase : session.PhaseHolds

theorem sound_start (plan : Plan) (restarts : Bool) :
    (Session.start plan restarts).Sound plan restarts :=
  ⟨hosts_start plan restarts, rfl⟩

/-- A step of the system keeps what holds of the phase. -/
theorem Sound.withSystem
    {scenario : Scenario}
    {plan : Plan}
    {restarts : Bool}
    {session : Session}
    {next : System}
    (sound : session.Sound plan restarts)
    (step : Supervision.Step scenario session.system next)
    (lengths : next.runs.length = session.system.runs.length ∧
      next.waits.length = session.system.waits.length) :
    (session.withSystem next).Sound plan restarts := by
  obtain ⟨hosts, holds⟩ := sound
  obtain ⟨run, only, _⟩ := hosts.run
  have single : next.runs.length ≤ 1 := by simp [lengths.1, only]
  refine ⟨hosts.step step single, ?_⟩
  obtain ⟨later, onlyLater, sole⟩ := step.sole only single
  have calm {outcome : Except Failure Unit}
      (isOver : ∃ run, session.system.runs = [run] ∧ run.outcome? = some outcome) :
      (∃ run, next.runs = [run] ∧ run.outcome? = some outcome) ∧
        Calm Occurrence.IsQuiet session.system.state next.state := by
    obtain ⟨other, onlyOther, isOver⟩ := isOver
    obtain rfl := List.head_eq_of_cons_eq (only.symm.trans onlyOther)
    obtain ⟨rfl, calm⟩ := sole.calm_of_over isOver
    exact ⟨⟨_, onlyLater, isOver⟩, calm⟩
  unfold PhaseHolds at holds ⊢
  simp only [Session.withSystem]
  cases phase : session.phase with
  | running =>
      simp only [phase] at holds ⊢
      rw [holds] at lengths
      exact List.eq_nil_of_length_eq_zero lengths.2
  | waiting outcome =>
      simp only [phase] at holds ⊢
      obtain ⟨isOver, wait, onlyWait, covers⟩ := holds
      obtain ⟨overLater, calm⟩ := calm isOver
      have first : session.system.waits[0]? = some wait := by simp [onlyWait]
      obtain ⟨after, found, mayBecome⟩ := step.wait_mayBecome first
      have onlyAfter : next.waits = [after] :=
        (eq_singleton_of_getElem? (by simp [lengths.2, onlyWait]) found).1
      refine ⟨overLater, after, onlyAfter, ?_⟩
      rw [calm.cohort]
      rcases covers with rfl | covers
      · rcases mayBecome with same | ⟨joiner, newer, stepped⟩
        · exact .inl same
        · obtain ⟨rfl, _⟩ := Prod.mk.inj (Option.some.inj stepped)
          exact .inr fun agent present => .inr ⟨_, rfl, present⟩
      · right
        intro agent present
        obtain ⟨other, foundOther, coversLater⟩ := Steps.covers (.single step) first
          (hosts.started agent present) (covers agent present)
        obtain rfl := Option.some.inj (found.symm.trans foundOther)
        exact coversLater
  | ended outcome =>
      simp only [phase] at holds ⊢
      obtain ⟨isOver, ended⟩ := holds
      obtain ⟨overLater, calm⟩ := calm isOver
      refine ⟨overLater, fun agent launched => ?_⟩
      rw [calm.launched] at launched
      exact calm.ended agent (ended agent launched)

/-- The agents are not waited for only if there is no cohort, or if a run with restarts has
succeeded. -/
theorem of_not_waitsForAgents
    {run : Run}
    {outcome : Except Failure Unit}
    {state : State}
    (leaves : waitsForAgents run outcome state = false) :
    state.cohort = [] ∨ run.restarts = true ∧ outcome = .ok () := by
  cases outcome with
  | error failure => simpa [waitsForAgents, Except.toBool] using leaves
  | ok _ =>
      cases restarts : run.restarts with
      | true => exact .inr ⟨rfl, rfl⟩
      | false => simpa [waitsForAgents, restarts] using leaves

/-- The next phase begins when what it needs holds. -/
theorem Sound.nextPhase
    {plan : Plan}
    {restarts : Bool}
    {session next : Session}
    (sound : session.Sound plan restarts)
    (due : session.nextPhase? = some next) :
    next.Sound plan restarts := by
  obtain ⟨hosts, holds⟩ := sound
  obtain ⟨system, phase⟩ := session
  obtain ⟨run, only, _, sameRestarts⟩ := hosts.run
  change system.runs = [run] at only
  cases phase with
  | running =>
      have first : system.runs.head? = some run := by simp [only]
      simp only [nextPhase?, first, Option.bind_eq_bind, Option.bind_some,
        Option.bind_eq_some_iff] at due
      obtain ⟨outcome, isOver, due⟩ := due
      have overOnly : ∃ run, system.runs = [run] ∧ run.outcome? = some outcome :=
        ⟨run, only, isOver⟩
      split at due
      · obtain rfl := Option.some.inj due
        exact ⟨hosts.of_eq rfl rfl, overOnly, .looking, rfl, .inl rfl⟩
      · rename_i leaves
        obtain rfl := Option.some.inj due
        refine ⟨hosts, overOnly, fun agent launched => ?_⟩
        rcases hosts.mem_cohort_or_hasEnded launched with present | ended
        · rcases of_not_waitsForAgents (Bool.eq_false_iff.mpr leaves) with none | ⟨renews, ok⟩
          · exact absurd (none ▸ present) List.not_mem_nil
          · subst ok
            exact hosts.finished (sameRestarts.symm.trans renews) run (by simp [only]) isOver agent
              (hosts.accounted.launched agent launched)
        · exact ended
  | waiting outcome =>
      obtain ⟨isOver, wait, onlyWait, covers⟩ := holds
      simp only [nextPhase?] at due
      split at due
      · rename_i waited
        obtain rfl := Option.some.inj due
        obtain rfl := List.head_eq_of_cons_eq (onlyWait.symm.trans waited)
        refine ⟨hosts, isOver, fun agent launched => ?_⟩
        rcases hosts.mem_cohort_or_hasEnded launched with present | ended
        · rcases covers.resolve_left nofun agent present with ended | ⟨_, joining, _⟩
          · exact ended
          · cases joining
        · exact ended
      · cases due
  | ended outcome => simp [nextPhase?] at due

theorem Step.sound
    {scenario : Scenario}
    {plan : Plan}
    {restarts : Bool}
    {session next : Session}
    (step : Step scenario session next)
    (sound : session.Sound plan restarts) :
    next.Sound plan restarts := by
  cases step with
  | move move possible =>
      exact sound.withSystem (.move move possible) (System.length_after? possible)
  | request request passive =>
      have accepting : Supervision.Step scenario session.system
          (session.system.accept request).1 := .request request
      exact sound.withSystem accepting (System.length_accept passive session.system)
  | phase due => exact sound.nextPhase due

theorem Steps.sound
    {scenario : Scenario}
    {plan : Plan}
    {restarts : Bool}
    {session : Session}
    (steps : Steps scenario (.start plan restarts) session) :
    session.Sound plan restarts := by
  induction steps with
  | refl => exact sound_start plan restarts
  | tail _ step inductionHypothesis => exact step.sound inductionHypothesis

end Session

/-- A session that is over has left nobody behind. -/
theorem Session.Sound.all_ended
    {plan : Plan}
    {restarts : Bool}
    {session : Session}
    {outcome : Except Failure Unit}
    (sound : session.Sound plan restarts)
    (isOver : session.outcome? = some outcome) :
    (∀ agent, session.system.state.isLaunched agent = true →
        session.system.state.hasEnded agent = true) ∧
      ∃ run, session.system.runs = [run] ∧ run.plan = plan ∧ run.restarts = restarts ∧
        run.outcome? = some outcome := by
  obtain ⟨hosts, holds⟩ := sound
  obtain ⟨run, only, samePlan, sameRestarts⟩ := hosts.run
  cases phase : session.phase with
  | running => simp [Session.outcome?, phase] at isOver
  | waiting _ => simp [Session.outcome?, phase] at isOver
  | ended last =>
      simp only [Session.outcome?, phase, Option.some.injEq] at isOver
      subst isOver
      simp only [Session.PhaseHolds, phase] at holds
      obtain ⟨⟨other, onlyOther, succeeded⟩, ended⟩ := holds
      obtain rfl := List.head_eq_of_cons_eq (only.symm.trans onlyOther)
      exact ⟨ended, run, only, samePlan, sameRestarts, succeeded⟩

/-- When a session is over, all agents that were launched in it have ended, and its outcome is
that of its run. -/
theorem all_ended_and_outcome_of_run
    {scenario : Scenario}
    {plan : Plan}
    {restarts : Bool}
    {session : Session}
    {outcome : Except Failure Unit}
    (steps : Session.Steps scenario (.start plan restarts) session)
    (isOver : session.outcome? = some outcome) :
    (∀ agent, session.system.state.isLaunched agent = true →
        session.system.state.hasEnded agent = true) ∧
      ∃ run, session.system.runs = [run] ∧ run.plan = plan ∧ run.restarts = restarts ∧
        run.outcome? = some outcome :=
  steps.sound.all_ended isOver

/-! ## Sessions that go their way -/

namespace Session

/-- The system moves on until everything is at rest. -/
def settled (scenario : Scenario) (target : Nat) (session : Session) : Session :=
  session.withSystem (session.system.settle scenario target)

theorem steps_advance
    (scenario : Scenario)
    (target moves : Nat)
    (session : Session) :
    Steps scenario session (session.withSystem (session.system.advance scenario target moves)) := by
  induction moves generalizing session with
  | zero => exact .refl
  | succ moves inductionHypothesis =>
      unfold System.advance
      split
      · exact .refl
      · rename_i move chosen
        split
        · exact .refl
        · rename_i next possible
          exact .head (.move move possible) (inductionHypothesis (session.withSystem next))

theorem steps_settled
    (scenario : Scenario)
    (target : Nat)
    (session : Session) :
    Steps scenario session (session.settled scenario target) :=
  steps_advance scenario target System.patience session

/-- The session in its next phase, if the time for it has come. -/
def inNextPhase (session : Session) : Session :=
  session.nextPhase?.getD session

theorem steps_inNextPhase (scenario : Scenario) (session : Session) :
    Steps scenario session session.inNextPhase := by
  unfold inNextPhase
  cases due : session.nextPhase? with
  | none => exact .refl
  | some next => exact .single (.phase due)

end Session

/-- A session whose launch fails: the agent that it leaves running is waited for, and ends by
itself. -/
def failedSession : Session :=
  let launched := (Session.start ⟨["a", "b"], ⟨"o", 1⟩, ⟨none, 9001, none⟩⟩ false).settled
    faltering 0
  let waiting := launched.inNextPhase.settled faltering 0
  let finished := waiting.withSystem (waiting.system.accept (.finish 0)).1
  (finished.settled faltering 0).inNextPhase

theorem all_ended_failedSession :
    failedSession.outcome?.isSome = true ∧ failedSession.system.state.isLaunched 0 = true ∧
      failedSession.system.state.hasEnded 0 = true := by
  have steps : Session.Steps faltering _ failedSession :=
    (((((Session.steps_settled faltering 0 _).trans
      (Session.steps_inNextPhase faltering _)).trans
      (Session.steps_settled faltering 0 _)).tail (.request (.finish 0) rfl)).trans
      (Session.steps_settled faltering 0 _)).trans (Session.steps_inNextPhase faltering _)
  have launched : failedSession.system.state.isLaunched 0 = true := by decide
  have isOver : failedSession.outcome? = some (.error (.internal "broken")) := by rfl
  exact ⟨by decide, launched, (all_ended_and_outcome_of_run steps isOver).1 0 launched⟩

end Supervision

/-! ## The process -/

namespace Program
namespace Process

open Supervision (Plan Scenario Session State System)

theorem steps_advanceTo (scenario : Scenario) (time : Nat) (process : Process) :
    Session.Steps scenario process.session (process.advanceTo scenario time).session :=
  Session.steps_settled scenario time process.session

theorem steps_deliver (scenario : Scenario) (signal : Signal) (process : Process) :
    Session.Steps scenario process.session (process.deliver signal).session :=
  .single (.request .forceStop rfl)

theorem steps_nextPhase?
    {process next : Process}
    (scenario : Scenario)
    (due : process.nextPhase? = some next) :
    Session.Steps scenario process.session next.session := by
  obtain ⟨session, dueSession, same⟩ := Option.bind_eq_some_iff.mp due
  have reached : next.session = session := by
    split at same <;> exact (Option.some.inj same) ▸ rfl
  rw [reached]
  exact .single (.phase dueSession)

theorem steps_step?
    {scenario : Scenario}
    {isWritten : String → Log.Line → Bool}
    {process next : Process}
    (stepped : process.step? scenario isWritten = some next) :
    Session.Steps scenario process.session next.session := by
  unfold step? at stepped
  split at stepped
  · rename_i later due
    obtain rfl := Option.some.inj stepped
    exact (steps_nextPhase? scenario due).trans (steps_advanceTo scenario _ later)
  · split at stepped
    · cases stepped
    · split at stepped
      · obtain rfl := Option.some.inj stepped
        exact ((steps_advanceTo scenario _ process).trans (steps_deliver scenario _ _)).trans
          (steps_advanceTo scenario _ _)
      · obtain ⟨timer, _, rfl⟩ := Option.map_eq_some_iff.mp stepped
        exact steps_advanceTo scenario timer process
    · obtain ⟨timer, _, rfl⟩ := Option.map_eq_some_iff.mp stepped
      exact steps_advanceTo scenario timer process

theorem steps_proceed
    (scenario : Scenario)
    (isWritten : String → Log.Line → Bool)
    (count : Nat)
    (process : Process) :
    Session.Steps scenario process.session (process.proceed scenario isWritten count).session := by
  induction count generalizing process with
  | zero => exact .refl
  | succ count inductionHypothesis =>
      unfold proceed
      split
      · exact .refl
      · rename_i next stepped
        exact (steps_step? stepped).trans (inductionHypothesis next)

/-- A process whose course is complete outlives all agents that it has launched. -/
theorem all_ended_of_complete
    {scenario : Scenario}
    {isWritten : String → Log.Line → Bool}
    {plan : Plan}
    {restarts : Bool}
    {planned? : Option PlannedSignal}
    {outcome : Except Failure Unit}
    (isOver : ((start plan restarts planned?).complete scenario isWritten).session.outcome? =
      some outcome) :
    let final := ((start plan restarts planned?).complete scenario isWritten).session.system
    (∀ agent, final.state.isLaunched agent = true → final.state.hasEnded agent = true) ∧
      ∃ run, final.runs = [run] ∧ run.plan = plan ∧ run.restarts = restarts ∧
        run.outcome? = some outcome := by
  have steps : Session.Steps scenario (.start plan restarts)
      ((start plan restarts planned?).complete scenario isWritten).session :=
    (steps_advanceTo scenario 0 (start plan restarts planned?)).trans
      (steps_proceed scenario isWritten patience _)
  exact steps.sound.all_ended isOver

end Process
end Program
end AgentCohort
