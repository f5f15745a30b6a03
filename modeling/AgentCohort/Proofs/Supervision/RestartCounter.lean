import AgentCohort.Proofs.Supervision.RestartLimit

/-!
# Runs that restart for long

A run with restarts counts them in a word of 32 bits.  Without a limit there is no end to them,
so the word comes round: it is the number of restarts up to multiples of its size.  Agents that end
as soon as they are started and a supervisor that does not pause take a run to any number.
-/

namespace AgentCohort
namespace Supervision

open State

/-! ## Counted restarts -/

namespace Run

/-- Whether a run pauses. -/
def isCooling (run : Run) : Bool :=
  match run.stage with
  | .cooling _ => true
  | .launching | .joining _ | .ended _ => false

/-- Whether a run is about to launch. -/
def isLaunching (run : Run) : Bool :=
  match run.stage with
  | .launching => true
  | .joining _ | .cooling _ | .ended _ => false

/-- A run counts its restarts in the word, and has launched as often, or once more after a launch
that it has not restarted from. -/
structure Tallies (restarts launches : Nat) (run : Run) : Prop where
  /-- What it counts. -/
  counter : run.restartCount = UInt32.ofNat restarts
  /-- How often it has launched. -/
  launches : match run.stage with
    | .launching => launches = restarts
    | .joining _ | .cooling _ => launches = restarts + 1
    | .ended _ => restarts ≤ launches ∧ launches ≤ restarts + 1

namespace Tallies

variable {scenario : Scenario} {restarts launches : Nat} {run next : Run} {state newer : State}

theorem launches_bounds (tallies : run.Tallies restarts launches) :
    restarts ≤ launches ∧ launches ≤ restarts + 1 := by
  have launched := tallies.launches
  cases stage : run.stage with
  | launching | joining _ | cooling _ | ended _ =>
      simp only [stage] at launched
      omega

theorem start (plan : Plan) (restarting : Bool) : (Run.start plan restarting).Tallies 0 0 :=
  ⟨rfl, rfl⟩

/-- A turn of a run restarts it if it takes the run from a pause to a launch. -/
theorem turn
    (tallies : run.Tallies restarts launches)
    (turn : run.Turn scenario state next newer) :
    next.Tallies (restarts + (run.isCooling && next.isLaunching).toNat)
      (launches + (run.launch? scenario state).isSome.toNat) := by
  obtain ⟨counter, launched⟩ := tallies
  cases turn with
  | launches stage unforced _ =>
      simp only [stage] at launched
      simp only [isCooling, stage, Bool.false_and, Bool.toNat_false, Nat.add_zero]
      cases outcome : (state.launch scenario run.plan).2 <;> cases restarting : run.restarts <;>
        exact ⟨by simp [Run.launched, enter, restarting, counter],
          by simp [Run.launched, enter, launch?, restarting, stage, unforced, launched]⟩
  | wakes stage _ _ =>
      simp only [stage] at launched
      refine ⟨?_, ?_⟩
      · simp [isCooling, isLaunching, wake, stage, counter, UInt32.ofNat_add]
      · simp [isCooling, isLaunching, wake, stage, launch?, launched]
  | refuses stage _ _ _ | joins stage _ _ _ | stops stage _ _ _ | pauses stage _ _ _ _
  | cutShort stage _ _ _ =>
      simp only [stage] at launched
      refine ⟨?_, ?_⟩
      · simpa [isLaunching, enter] using counter
      · simp [isLaunching, enter, launch?, *]

end Tallies
end Run

/-- Whether a run restarts: its pause is over, and it is about to launch again. -/
def Deed.isRestart (index : Nat) (deed : Deed) : Bool :=
  deed.before.runs[index]?.any Run.isCooling && deed.after.runs[index]?.any Run.isLaunching

/-- Number of restarts among the turns of a run. -/
def restartsIn (index : Nat) (turns : List Deed) : Nat :=
  turns.countP (Deed.isRestart index)

theorem restartsIn_cons (index : Nat) (deed : Deed) (turns : List Deed) :
    restartsIn index (deed :: turns) = restartsIn index turns + (deed.isRestart index).toNat := by
  rw [restartsIn, List.countP_cons]
  cases deed.isRestart index <;> rfl

/-- Runs tally their restarts and launches. -/
theorem Execution.tallies
    {scenario : Scenario}
    {past : List Deed}
    {system : System}
    {index : Nat}
    {run : Run}
    (execution : Execution scenario past system)
    (found : system.runs[index]? = some run) :
    run.Tallies (restartsIn index (turnsOf index past))
      (launchesIn scenario (turnsOf index past)) := by
  refine (execution.run_induction index
    (fun turns run _ => run.Tallies (restartsIn index turns) (launchesIn scenario turns))
    ?start ?unchanged ?turn).2 run found
  case start => exact fun plan restarts _ => .start plan restarts
  case unchanged => exact fun tallies _ => tallies
  case turn =>
    intro turns run next deed tallies isTurn
    have restart : deed.isRestart index = (run.isCooling && next.isLaunching) := by
      simp only [Deed.isRestart, isTurn.before, isTurn.after, Option.any_some]
    rw [restartsIn_cons, launchesIn_cons, restart, isTurn.launch?_eq]
    exact tallies.turn isTurn.turn

/-! ## Runs without an end -/

/-- The behaviour of an agent that ends as soon as it is started. -/
def momentary : Behaviour :=
  { Behaviour.standard with endsAfter? := some 0 }

/-- Agents that end as soon as they are started, no pause between them and no limit. -/
def restless : Scenario where
  settings := ⟨0, none, none, .leaveRunning⟩
  behaviour _ _ := momentary
  platform := .isolated

/-- One agent. -/
def single : Plan :=
  ⟨["a"], ⟨"o", 1⟩, ⟨none, 9001, none⟩⟩

theorem State.isJoinable_endAgent (agent : AgentId) (state : State) :
    (state.endAgent agent).isJoinable agent = true := by
  unfold State.endAgent
  cases found : state.member? agent with
  | none => simp [isJoinable, found]
  | some member =>
      dsimp only
      split
      · rename_i ended
        simp [isJoinable, found, Member.isJoinable, ended]
      · simp [isJoinable, member?_update, found, Member.isJoinable]

theorem State.startAgent_momentary (agent : AgentId) (state : State) :
    ∃ next, state.startAgent agent momentary = (next, .ok ()) ∧
      next.forceStopped = state.forceStopped ∧ next.isJoinable agent = true := by
  refine ⟨_, rfl, ?_, State.isJoinable_endAgent agent _⟩
  exact (quiet_endAgent agent _).unforced

/-- The agent is made and started, and has ended at once. -/
theorem State.launchOne_restless (state : State) :
    ∃ next, state.launchOne restless single "a" ⟨0, 9001, none⟩ =
        (next, .ok state.members.length) ∧
      next.forceStopped = state.forceStopped ∧
      next.isJoinable state.members.length = true := by
  let blueprint : Agent.Blueprint := ⟨"a", ⟨.loopback, 9001⟩, single.orchestrator, none⟩
  let noted := state.log (.starting "a" 9001 none)
  let created : State :=
    { noted.note (.create blueprint) with members := state.members ++ [.fresh "a" momentary] }
  obtain ⟨started, start, recorded, joinable⟩ :=
    created.startAgent_momentary state.members.length
  refine ⟨started, ?_, recorded, joinable⟩
  have resolved : Network.Binding.resolve restless.platform.resolver restless.platform.primary
      single.base.listenAddress? 9001 = .ok ⟨.loopback, 9001⟩ := rfl
  have made : noted.createAgent restless blueprint = (created, .ok state.members.length) := rfl
  have found : created.member? state.members.length = some (.fresh "a" momentary) :=
    List.getElem?_concat_length
  unfold State.launchOne
  simp only [resolved]
  rw [made]
  simp only [found, Option.map_some, Option.getD_some, Member.fresh, start]

/-- The cohort is that agent. -/
theorem State.launchCohort_restless {state : State} (unforced : state.forceStopped = false) :
    ∃ next, state.launchCohort restless single = (next, .ok [state.members.length]) ∧
      next.forceStopped = false ∧ next.isJoinable state.members.length = true := by
  obtain ⟨started, one, recorded, joinable⟩ := state.launchOne_restless
  have allocated : single.base.allocate single.names = .ok [⟨0, 9001, none⟩] := rfl
  have launched : state.launch restless single =
      (started.log (.allStarted 1), .ok [state.members.length]) := by
    unfold State.launch
    rw [allocated]
    change state.launchRest restless single [] [("a", ⟨0, 9001, none⟩)] = _
    unfold launchRest
    rw [one]
    rfl
  have stillUnforced : started.forceStopped = false := recorded.trans unforced
  have published : (started.log (.allStarted 1)).publish [state.members.length] =
      { started.log (.allStarted 1) with
        cohort := [state.members.length], generation := started.generation + 1 } :=
    if_neg (Bool.eq_false_iff.mp stillUnforced)
  unfold State.launchCohort
  rw [launched]
  dsimp only
  rw [published]
  exact ⟨_, rfl, stillUnforced, joinable⟩

/-- The only run of a supervisor, after so many restarts and launches of its one agent. -/
structure RestlessAfter (restarts launches : Nat) (run : Run) (state : State) : Prop where
  /-- It has come so far. -/
  reached : ∃ past, Execution restless past ⟨state, [run], [], 1⟩ ∧
    restartsIn 0 (turnsOf 0 past) = restarts ∧
    launchesIn restless (turnsOf 0 past) = launches
  /-- There has been no force-stop. -/
  unforced : state.forceStopped = false
  /-- The clock stands still. -/
  now : state.now = 0

namespace RestlessAfter

variable {restarts launches : Nat} {run later : Run} {state newer : State}

/-- It begins when it is asked for. -/
theorem start : RestlessAfter 0 0 (.start single true) .initial := by
  have possible : System.action? restless .initial
      (.request (.run ["a"] "o:1" single.base true)) =
        some ⟨.initial, [.start single true], [], 1⟩ := rfl
  exact ⟨⟨_, Execution.initial.extend possible, rfl, rfl⟩, rfl, rfl⟩

/-- A turn of the run: a launch or not, a restart or not. -/
theorem turn
    (after : RestlessAfter restarts launches run state)
    (stepped : run.step? restless false (.run 0) state = some (later, newer))
    (unforced : newer.forceStopped = false)
    (now : newer.now = 0) :
    RestlessAfter (restarts + (run.isCooling && later.isLaunching).toNat)
      (launches + run.isLaunching.toNat) later newer := by
  obtain ⟨past, execution, restarted, launched⟩ := after.reached
  have possible : System.action? restless ⟨state, [run], [], 1⟩ (.move (.run 0 false)) =
      some ⟨newer, [later], [], 1⟩ := by
    change (run.step? restless false (.run 0) state).bind _ = _
    rw [stepped]
    rfl
  refine ⟨⟨_, execution.extend possible, ?_, ?_⟩, unforced, now⟩
  · rw [turnsOf_cons rfl, restartsIn_cons, restarted]
    rfl
  · rw [turnsOf_cons rfl, launchesIn_cons, launched]
    have same : Deed.launch? restless
        ⟨⟨state, [run], [], 1⟩, .move (.run 0 false), ⟨newer, [later], [], 1⟩⟩ =
          run.launch? restless state := rfl
    rw [same]
    congr 2
    unfold Run.launch? Run.isLaunching
    cases run.stage <;> simp [after.unforced]

variable {restartCount : UInt32} {generation : Nat} {agent : AgentId}

/-- The run launches its agent, which has ended when it is looked for. -/
theorem launch
    (after : RestlessAfter restarts launches
      ⟨single, true, restartCount, .launching⟩ state) :
    ∃ generation agent newer, RestlessAfter restarts (launches + 1)
        ⟨single, true, restartCount, .joining (.start generation [agent])⟩ newer ∧
      newer.isJoinable agent = true := by
  obtain ⟨past, execution, _⟩ := after.reached
  obtain ⟨newer, launched, unforced, joinable⟩ := State.launchCohort_restless after.unforced
  obtain ⟨_, effect, _⟩ :=
    effect_launchCohort restless single execution.reachable.rostered.cohort.known
  rw [launched] at effect
  have now : newer.now = 0 := effect.now.trans after.now
  refine ⟨newer.generation, _, newer, after.turn ?_ unforced now, joinable⟩
  change some (Run.launch _ _ _) = _
  unfold Run.launch
  rw [after.unforced, launched]
  rfl

/-- It joins the agent. -/
theorem join
    (after : RestlessAfter restarts launches
      ⟨single, true, restartCount, .joining (.start generation [agent])⟩ state)
    (joinable : state.isJoinable agent = true) :
    ∃ newer, RestlessAfter restarts launches
      ⟨single, true, restartCount, .joining (.start generation [])⟩ newer := by
  have begun : RestlessAfter restarts launches
      ⟨single, true, restartCount, .joining ⟨generation, [agent], .unlimited⟩⟩
      (state.note (.join (.run 0) agent)) :=
    after.turn rfl after.unforced after.now
  have joined : Joining.step? restless (.run 0) ⟨generation, [agent], .unlimited⟩
      (state.note (.join (.run 0) agent)) = some (.start generation [],
        (state.note (.join (.run 0) agent)).note (.joined (.run 0) agent)) :=
    if_pos joinable
  have ended : RestlessAfter restarts launches
      ⟨single, true, restartCount, .joining (.start generation [])⟩
      ((state.note (.join (.run 0) agent)).note (.joined (.run 0) agent)) := by
    refine begun.turn ?_ after.unforced after.now
    change Option.map _ (Joining.step? _ _ _ _) = _
    rw [joined]
    rfl
  exact ⟨_, ended⟩

/-- It does not pause, and restarts. -/
theorem restart
    (after : RestlessAfter restarts launches
      ⟨single, true, restartCount, .joining (.start generation [])⟩ state) :
    ∃ newer, RestlessAfter (restarts + 1) launches
      ⟨single, true, restartCount + 1, .launching⟩ newer := by
  let stopped := (state.log .allStopped).announce (.cohortStopped generation)
  have unforced : stopped.forceStopped = false := after.unforced
  have ends : restless.platform.timers.sleepEnd stopped.now restless.settings.cooldown = 0 := by
    have atZero : stopped.now = 0 := after.now
    rw [atZero]
    rfl
  have pausing : RestlessAfter restarts launches ⟨single, true, restartCount, .cooling 0⟩
      ((stopped.log .coolingDown).announce
        (.restartScheduled generation restless.settings.cooldown)) := by
    refine after.turn ?_ after.unforced after.now
    change some (Run.coolDown restless generation _ state) = _
    unfold Run.coolDown
    dsimp only
    rw [unforced, ends]
    rfl
  exact ⟨_, pausing.turn (if_pos ⟨Nat.zero_le _, .inr rfl⟩) pausing.unforced pausing.now⟩

/-- However often the run has restarted, it restarts once more. -/
theorem exists_of_count (count : Nat) :
    ∃ restartCount state,
      RestlessAfter count count ⟨single, true, restartCount, .launching⟩ state := by
  induction count with
  | zero => exact ⟨0, _, start⟩
  | succ count inductionHypothesis =>
      obtain ⟨restartCount, state, after⟩ := inductionHypothesis
      obtain ⟨generation, agent, _, launched, joinable⟩ := after.launch
      obtain ⟨_, joined⟩ := launched.join joinable
      obtain ⟨next, restarted⟩ := joined.restart
      exact ⟨restartCount + 1, next, restarted⟩

end RestlessAfter

/-- The word has no room for the number of its values, and begins anew. -/
theorem exists_restartCount_eq_zero :
    ∃ past system run, Execution restless past system ∧ system.runs[0]? = some run ∧
      run.isLaunching = true ∧ restartsIn 0 (turnsOf 0 past) = UInt32.size ∧
      run.restartCount = 0 := by
  obtain ⟨restartCount, state, after⟩ := RestlessAfter.exists_of_count UInt32.size
  obtain ⟨past, execution, restarted, _⟩ := after.reached
  have counter := (execution.tallies List.getElem?_cons_zero).counter
  rw [restarted] at counter
  exact ⟨past, _, _, execution, rfl, rfl, restarted, counter⟩

end Supervision
end AgentCohort
