import AgentCohort.Proofs.Supervision.EventProtocol
import AgentCohort.Proofs.Supervision.Generations

/-!
# The limit of restarts

A run with restarts counts its pauses in a word of 32 bits, and compares the word with the limit
before each pause.  What it has launched and told follows from the word and its stage.  So with a
limit the word never wraps, and a run that comes to its end without a force-stop has used the
limit up.
-/

namespace AgentCohort
namespace Supervision

open State

/-! ## The turns of a run -/

/-- The turns of a run among some deeds. -/
def turnsOf (index : Nat) (past : List Deed) : List Deed :=
  past.filter fun deed => deed.action.joiner? = some (.run index)

/-- Number of launches, whether they were complete or not. -/
def launchesIn (scenario : Scenario) (turns : List Deed) : Nat :=
  turns.countP fun deed => (deed.launch? scenario).isSome

/-- How often the listeners were told of an event of some kind. -/
def tellingsIn (kind : Event → Bool) (turns : List Deed) : Nat :=
  (turns.map fun deed => deed.told.countP kind).sum

theorem turnsOf_cons_of_ne
    {index : Nat}
    {deed : Deed}
    (other : deed.action.joiner? ≠ some (.run index))
    (past : List Deed) :
    turnsOf index (deed :: past) = turnsOf index past :=
  List.filter_cons_of_neg (by simpa using other)

theorem turnsOf_cons
    {index : Nat}
    {deed : Deed}
    (turnOf : deed.action.joiner? = some (.run index))
    (past : List Deed) :
    turnsOf index (deed :: past) = deed :: turnsOf index past :=
  List.filter_cons_of_pos (by simpa using turnOf)

theorem launchesIn_cons (scenario : Scenario) (deed : Deed) (turns : List Deed) :
    launchesIn scenario (deed :: turns) =
      launchesIn scenario turns + (deed.launch? scenario).isSome.toNat := by
  rw [launchesIn, List.countP_cons]
  cases (deed.launch? scenario).isSome <;> rfl

theorem tellingsIn_cons (kind : Event → Bool) (deed : Deed) (turns : List Deed) :
    tellingsIn kind (deed :: turns) = tellingsIn kind turns + deed.told.countP kind := by
  rw [tellingsIn, List.map_cons, List.sum_cons, Nat.add_comm]
  rfl

/-- The turn of a run is a step of it. -/
theorem System.exists_step?
    {scenario : Scenario}
    {system next : System}
    {action : Action}
    {index : Nat}
    (turnOf : action.joiner? = some (.run index))
    (possible : system.action? scenario action = some next) :
    ∃ run later favoursForceStop, system.runs[index]? = some run ∧
      run.step? scenario favoursForceStop (.run index) system.state =
        some (later, next.state) ∧
      next.runs = system.runs.set index later := by
  cases action with
  | request request => cases turnOf
  | move move =>
      cases move with
      | agentEnds _ | wait _ | clock _ => cases turnOf
      | run other favoursForceStop =>
          obtain rfl : other = index := by simpa [Action.joiner?] using turnOf
          simp only [System.action?, System.after?, System.stepRun?, Option.bind_eq_bind,
            Option.bind_eq_some_iff] at possible
          obtain ⟨run, found, ⟨later, state⟩, stepped, same⟩ := possible
          obtain rfl := Option.some.inj same
          exact ⟨run, later, favoursForceStop, found, stepped, rfl⟩

/-- A deed is a turn of a run. -/
structure Deed.IsTurn
    (scenario : Scenario)
    (index : Nat)
    (run next : Run)
    (deed : Deed) : Prop where
  /-- The run is what it is about. -/
  turnOf : deed.action.joiner? = some (.run index)
  /-- The run before it. -/
  before : deed.before.runs[index]? = some run
  /-- The run after it. -/
  after : deed.after.runs[index]? = some next
  /-- The run takes a step. -/
  stepped : ∃ favoursForceStop, run.step? scenario favoursForceStop (.run index)
    deed.before.state = some (next, deed.after.state)
  /-- Whoever is waited for is known. -/
  rostered : Rostered deed.before
  /-- A force-stop stays recorded. -/
  recorded : deed.before.state.forceStopped = true → deed.after.state.forceStopped = true

namespace Deed.IsTurn

variable {scenario : Scenario} {index : Nat} {run next : Run} {deed : Deed}

theorem turn (isTurn : deed.IsTurn scenario index run next) :
    run.Turn scenario deed.before.state next deed.after.state := by
  obtain ⟨_, stepped⟩ := isTurn.stepped
  exact Run.turn_of_step?
    (isTurn.rostered.runs run (List.mem_of_getElem? isTurn.before)).known stepped

theorem launch?_eq (isTurn : deed.IsTurn scenario index run next) :
    deed.launch? scenario = run.launch? scenario deed.before.state := by
  simp [Deed.launch?, isTurn.turnOf, isTurn.before]

end Deed.IsTurn

/-- What every run keeps to when it begins, while others act and in its turns, it keeps to for
ever, given its turns so far. -/
theorem Execution.run_induction
    {scenario : Scenario}
    {past : List Deed}
    {system : System}
    (execution : Execution scenario past system)
    (index : Nat)
    (Keeps : List Deed → Run → State → Prop)
    (start : ∀ plan restarts state, Keeps [] (.start plan restarts) state)
    (unchanged : ∀ {turns : List Deed} {run : Run} {older newer : State},
      Keeps turns run older → (older.forceStopped = true → newer.forceStopped = true) →
        Keeps turns run newer)
    (turn : ∀ {turns : List Deed} {run next : Run} {deed : Deed},
      Keeps turns run deed.before.state → deed.IsTurn scenario index run next →
        Keeps (deed :: turns) next deed.after.state) :
    (system.runs[index]? = none → turnsOf index past = []) ∧
      ∀ run, system.runs[index]? = some run → Keeps (turnsOf index past) run system.state := by
  induction execution with
  | initial => exact ⟨fun _ => rfl, nofun⟩
  | @extend past system next action earlier possible inductionHypothesis =>
      obtain ⟨absent, present⟩ := inductionHypothesis
      have rostered := earlier.reachable.rostered
      have recorded := (step_of_action? possible).grows.forceStopped
      by_cases turnOf : action.joiner? = some (.run index)
      · obtain ⟨run, later, _, found, stepped, runs⟩ := System.exists_step? turnOf possible
        have after : next.runs[index]? = some later := by
          rw [runs, List.getElem?_set_self (List.getElem?_eq_some_iff.mp found).1]
        rw [turnsOf_cons turnOf, after]
        refine ⟨nofun, ?_⟩
        rintro other ⟨⟩
        have isTurn : Deed.IsTurn scenario index run later ⟨system, action, next⟩ :=
          ⟨turnOf, found, after, ⟨_, stepped⟩, rostered, recorded⟩
        exact turn (present run found) isTurn
      · rw [turnsOf_cons_of_ne turnOf]
        have does := rostered.does possible
        rcases does.getElem?_runs turnOf with same | ⟨none, plan, restarts, begun⟩
        · rw [same]
          exact ⟨absent, fun run found => unchanged (present run found) recorded⟩
        · rw [begun, absent none]
          refine ⟨nofun, ?_⟩
          rintro run ⟨⟩
          exact start plan restarts next.state

/-! ## What the counter says -/

/-- How often a run with a limit has launched, how many of its launches were complete, and how
many it has scheduled, by its counter and its stage. -/
def Run.Counts
    (limit : UInt32)
    (launches started scheduled : Nat)
    (forceStopped : Bool)
    (run : Run) : Prop :=
  let count := run.restartCount.toNat
  count ≤ limit.toNat ∧
    match run.stage with
    | .launching => launches = count ∧ started = count ∧ scheduled = count
    | .joining _ => launches = count + 1 ∧ started = count + 1 ∧ scheduled = count
    | .cooling _ => count < limit.toNat ∧
        launches = count + 1 ∧ started = count + 1 ∧ scheduled = count + 1
    | .ended (.error _) => launches = count + 1
    | .ended (.ok _) => count ≤ launches ∧ launches ≤ count + 1 ∧
        (forceStopped = true ∨
          count = limit.toNat ∧ launches = count + 1 ∧ started = count + 1 ∧ scheduled = count)

/-- A run that has joined its cohort is over after a force-stop or at its limit, and pauses
otherwise. -/
theorem Run.stage_of_joined
    {scenario : Scenario}
    {favoursForceStop : Bool}
    {joiner : JoinerId}
    {run next : Run}
    {state newer : State}
    {progress : Joining}
    (stage : run.stage = .joining progress)
    (joined : progress.remaining = [])
    (stepped : run.step? scenario favoursForceStop joiner state = some (next, newer)) :
    next.stage =
      if state.forceStopped || run.isAtLimit scenario.settings then .ended (.ok ())
      else .cooling (scenario.platform.timers.sleepEnd state.now scenario.settings.cooldown) := by
  simp only [step?, stage, joined, List.isEmpty_nil, if_true, Option.some.injEq] at stepped
  obtain rfl := congrArg Prod.fst stepped
  have recorded : ((state.log .allStopped).announce
      (.cohortStopped progress.generation)).forceStopped = state.forceStopped := rfl
  unfold coolDown
  dsimp only
  rw [recorded]
  cases state.forceStopped <;> cases run.isAtLimit scenario.settings <;> rfl

/-- A run with restarts succeeds only after a force-stop or at its limit. -/
theorem Run.Turn.forced_or_isAtLimit
    {scenario : Scenario}
    {favoursForceStop : Bool}
    {joiner : JoinerId}
    {run next : Run}
    {state newer : State}
    (turn : run.Turn scenario state next newer)
    (stepped : run.step? scenario favoursForceStop joiner state = some (next, newer))
    (restarts : run.restarts = true)
    (succeeded : next.outcome? = some (.ok ())) :
    state.forceStopped = true ∨ run.isAtLimit scenario.settings = true := by
  cases turn with
  | launches _ _ _ =>
      cases outcome : (state.launch scenario run.plan).2 <;>
        simp [outcome, launched, restarts, outcome?, enter] at succeeded
  | refuses _ recorded _ _ | cutShort _ recorded _ _ => exact .inl recorded
  | stops stage joined _ _ =>
      have after := stage_of_joined stage joined stepped
      by_cases finished : (state.forceStopped || run.isAtLimit scenario.settings) = true
      · simpa using finished
      · rw [if_neg finished] at after
        cases after
  | joins _ _ _ _ | pauses _ _ _ _ _ | wakes _ _ _ => cases succeeded

theorem Run.isAtLimit_iff
    {settings : SupervisorSettings}
    {limit : UInt32}
    {run : Run}
    (limited : settings.maxRestarts? = some limit) :
    run.isAtLimit settings = true ↔ limit.toNat ≤ run.restartCount.toNat := by
  simp [isAtLimit, limited, UInt32.le_iff_toNat_le]

theorem State.countP_isRestartScheduled_launch
    {calls signalled generation : Nat}
    {names : List String}
    {outcome : Except LaunchFailure (List AgentId)} :
    (List.replicate calls (Event.forceStopped signalled) ++
      completion generation names outcome).countP Event.isRestartScheduled = 0 :=
  List.countP_eq_zero.mpr fun event present =>
    Bool.eq_false_iff.mp (not_isRestartScheduled_launch event present)

namespace Run.Counts

variable {limit : UInt32} {launches started scheduled : Nat} {forceStopped : Bool} {run : Run}

theorem start (plan : Plan) (restarts : Bool) :
    (Run.start plan restarts).Counts limit 0 0 0 forceStopped :=
  ⟨Nat.zero_le _, rfl, rfl, rfl⟩

/-- A force-stop takes nothing from what the counter says. -/
theorem unchanged
    {later : Bool}
    (counts : run.Counts limit launches started scheduled forceStopped)
    (recorded : forceStopped = true → later = true) :
    run.Counts limit launches started scheduled later := by
  unfold Counts at counts ⊢
  refine ⟨counts.1, ?_⟩
  have stands := counts.2
  cases stage : run.stage with
  | launching | joining _ | cooling _ => simpa only [stage] using stands
  | ended outcome =>
      cases outcome with
      | error _ => simpa only [stage] using stands
      | ok _ =>
          simp only [stage] at stands ⊢
          exact ⟨stands.1, stands.2.1, stands.2.2.imp_left recorded⟩

/-- A turn goes on with what the counter says. -/
theorem turn
    {scenario : Scenario}
    {favoursForceStop : Bool}
    {joiner : JoinerId}
    {next : Run}
    {state newer : State}
    (counts : run.Counts limit launches started scheduled state.forceStopped)
    (limited : scenario.settings.maxRestarts? = some limit)
    (restarts : run.restarts = true)
    (cohort : Roster state.cohort state)
    (turn : run.Turn scenario state next newer)
    (stepped : run.step? scenario favoursForceStop joiner state = some (next, newer)) :
    ∃ told asked, Effect told asked state newer ∧
      next.Counts limit (launches + (run.launch? scenario state).isSome.toNat)
        (started + told.countP Event.isCohortStarted)
        (scheduled + told.countP Event.isRestartScheduled) newer.forceStopped := by
  obtain ⟨bounded, stands⟩ := counts
  have atEnd := turn.forced_or_isAtLimit stepped restarts
  rw [isAtLimit_iff limited] at atEnd
  cases turn with
  | launches stage unforced same =>
      simp only [stage] at stands
      obtain ⟨calls, effect, _⟩ := effect_launchCohort scenario run.plan cohort.known
      subst same
      refine ⟨_, _, effect, ?_⟩
      rw [countP_isRestartScheduled_launch, List.countP_append, List.countP_replicate]
      cases outcome : (state.launch scenario run.plan).2 with
      | error failure =>
          simp [Counts, launched, enter, launch?, stage, unforced, bounded, stands]
      | ok agents =>
          simp [Counts, launched, enter, launch?, stage, unforced, restarts, bounded, stands,
            completion, Event.isCohortStarted]
  | refuses stage recorded effect quiet =>
      simp only [stage] at stands
      refine ⟨_, _, effect.toEffect, ?_⟩
      rw [if_pos restarts]
      simp [Counts, enter, launch?, stage, recorded, quiet.unforced, bounded, stands]
  | joins stage joinTurn effect quiet =>
      simp only [stage] at stands
      obtain ⟨_, _, passed, rfl, _⟩ := joinTurn.told
      refine ⟨_, _, effect.toEffect, ?_⟩
      simp [Counts, enter, launch?, stage, bounded, stands, Event.isCohortStarted,
        Event.isRestartScheduled]
  | stops stage joined effect quiet =>
      simp only [stage] at stands
      refine ⟨_, _, effect.toEffect, ?_⟩
      have finished : state.forceStopped = true ∨ run.restartCount.toNat = limit.toNat :=
        (atEnd rfl).imp_right (Nat.le_antisymm bounded)
      simp [Counts, enter, launch?, stage, quiet.unforced, bounded, stands, finished,
        Event.isCohortStarted, Event.isRestartScheduled]
  | pauses stage joined unforced effect quiet =>
      simp only [stage] at stands
      refine ⟨_, _, effect.toEffect, ?_⟩
      have below : run.restartCount.toNat < limit.toNat := by
        rw [← Nat.not_le, ← isAtLimit_iff limited]
        intro atLimit
        have after := stage_of_joined stage joined stepped
        rw [atLimit, Bool.or_true, if_pos rfl] at after
        cases after
      simp [Counts, enter, launch?, stage, bounded, stands, below, Event.isCohortStarted,
        Event.isRestartScheduled]
  | wakes stage _ same =>
      simp only [stage] at stands
      obtain ⟨below, stands⟩ := stands
      refine ⟨_, _, (Inner.of_eq same).toEffect, ?_⟩
      -- Below the limit the word has room for one more.
      have counted : (run.restartCount + 1).toNat = run.restartCount.toNat + 1 := by
        have room := limit.toNat_lt
        rw [UInt32.toNat_add, UInt32.toNat_one, Nat.mod_eq_of_lt (by omega)]
      simp [Counts, wake, launch?, stage, counted, stands, Nat.succ_le_of_lt below]
  | cutShort stage recorded effect quiet =>
      simp only [stage] at stands
      refine ⟨_, _, effect.toEffect, ?_⟩
      simp [Counts, enter, launch?, stage, recorded, quiet.unforced, bounded, stands]

end Run.Counts

/-! ## Executions -/

/-- What a run with restarts keeps to, given its turns so far. -/
structure Run.KeepsLimit
    (scenario : Scenario)
    (turns : List Deed)
    (run : Run)
    (state : State) : Prop where
  /-- With a limit its counter tells what it has done. -/
  counts : ∀ limit, scenario.settings.maxRestarts? = some limit →
    run.Counts limit (launchesIn scenario turns) (tellingsIn Event.isCohortStarted turns)
      (tellingsIn Event.isRestartScheduled turns) state.forceStopped
  /-- Without one it succeeds only after a force-stop. -/
  unlimited : scenario.settings.maxRestarts? = none → run.outcome? = some (.ok ()) →
    state.forceStopped = true

namespace Run.KeepsLimit

variable {scenario : Scenario} {turns : List Deed} {run : Run}

theorem start (plan : Plan) (restarts : Bool) (state : State) :
    (Run.start plan restarts).KeepsLimit scenario [] state :=
  ⟨fun _ _ => Run.Counts.start plan restarts, nofun⟩

theorem unchanged
    {older newer : State}
    (keeps : run.KeepsLimit scenario turns older)
    (recorded : older.forceStopped = true → newer.forceStopped = true) :
    run.KeepsLimit scenario turns newer :=
  ⟨fun limit limited => (keeps.counts limit limited).unchanged recorded,
    fun unlimited succeeded => recorded (keeps.unlimited unlimited succeeded)⟩

/-- A turn of a run keeps to what the run keeps to. -/
theorem turn
    {deed : Deed}
    {index : Nat}
    {next : Run}
    (keeps : run.KeepsLimit scenario turns deed.before.state)
    (isTurn : deed.IsTurn scenario index run next)
    (restarts : run.restarts = true) :
    next.KeepsLimit scenario (deed :: turns) deed.after.state := by
  obtain ⟨_, stepped⟩ := isTurn.stepped
  constructor
  · intro limit limited
    obtain ⟨told, asked, effect, counts⟩ := (keeps.counts limit limited).turn limited restarts
      isTurn.rostered.cohort isTurn.turn stepped
    obtain ⟨added, grown, tells⟩ := effect.journal
    obtain ⟨same, _⟩ := Deed.told_of_tells grown tells
    rw [launchesIn_cons, tellingsIn_cons, tellingsIn_cons, same, isTurn.launch?_eq]
    exact counts
  · intro unlimited succeeded
    obtain forced | atLimit := isTurn.turn.forced_or_isAtLimit stepped restarts succeeded
    · exact isTurn.recorded forced
    · simp [Run.isAtLimit, unlimited] at atLimit

end Run.KeepsLimit

theorem Execution.keepsLimit
    {scenario : Scenario}
    {past : List Deed}
    {system : System}
    {index : Nat}
    {run : Run}
    (execution : Execution scenario past system)
    (found : system.runs[index]? = some run)
    (restarts : run.restarts = true) :
    run.KeepsLimit scenario (turnsOf index past) system.state := by
  refine (execution.run_induction index
    (fun turns run state => run.restarts = true → run.KeepsLimit scenario turns state)
    ?start ?unchanged ?turn).2 run found restarts
  case start => exact fun plan restarts state _ => .start plan restarts state
  case unchanged => exact fun keeps recorded restarts => (keeps restarts).unchanged recorded
  case turn =>
    intro turns run next deed keeps isTurn restarting
    have restarts : run.restarts = true := isTurn.turn.restarts ▸ restarting
    exact (keeps restarts).turn isTurn restarts

/-- What the limit of restarts says about a run, given its turns so far. -/
structure RestartsWithin
    (scenario : Scenario)
    (turns : List Deed)
    (run : Run)
    (state : State) : Prop where
  /-- There are at most as many restarts as the limit says. -/
  launches : ∀ limit, scenario.settings.maxRestarts? = some limit →
    launchesIn scenario turns ≤ limit.toNat + 1
  /-- The counter does not pass the limit, and it does not wrap: it is the number of launches or,
  once the first one has taken place, one less. -/
  counter : ∀ limit, scenario.settings.maxRestarts? = some limit →
    run.restartCount ≤ limit ∧ run.restartCount.toNat ≤ launchesIn scenario turns ∧
      launchesIn scenario turns ≤ run.restartCount.toNat + 1
  /-- If the run succeeds without a force-stop, the limit has been used up. -/
  usedUp : ∀ limit, scenario.settings.maxRestarts? = some limit →
    run.outcome? = some (.ok ()) → state.forceStopped = false →
      launchesIn scenario turns = limit.toNat + 1 ∧
        tellingsIn Event.isCohortStarted turns = limit.toNat + 1 ∧
        tellingsIn Event.isRestartScheduled turns = limit.toNat
  /-- Without a limit the run succeeds only after a force-stop. -/
  unlimited : scenario.settings.maxRestarts? = none → run.outcome? = some (.ok ()) →
    state.forceStopped = true

/-- Runs with restarts keep to the limit, whatever their agents do and whatever else happens to
their supervisor. -/
theorem restartsWithin_of_execution
    {scenario : Scenario}
    {past : List Deed}
    {system : System}
    (execution : Execution scenario past system)
    {index : Nat}
    {run : Run}
    (found : system.runs[index]? = some run)
    (restarts : run.restarts = true) :
    RestartsWithin scenario (turnsOf index past) run system.state := by
  have keeps := execution.keepsLimit found restarts
  have within (limit : UInt32) (limited : scenario.settings.maxRestarts? = some limit) :
      run.restartCount.toNat ≤ launchesIn scenario (turnsOf index past) ∧
        launchesIn scenario (turnsOf index past) ≤ run.restartCount.toNat + 1 := by
    obtain ⟨_, stands⟩ := keeps.counts limit limited
    split at stands <;> omega
  refine ⟨fun limit limited => ?_, fun limit limited => ?_, ?_, keeps.unlimited⟩
  · have bounded := (keeps.counts limit limited).1
    have atMost := (within limit limited).2
    omega
  · exact ⟨UInt32.le_iff_toNat_le.mpr (keeps.counts limit limited).1, within limit limited⟩
  · intro limit limited succeeded unforced
    obtain ⟨_, stands⟩ := keeps.counts limit limited
    simp only [Run.stage_of_outcome? succeeded, unforced, Bool.false_eq_true, false_or]
      at stands
    omega

/-- Agents that end as soon as they are started, and one restart. -/
def restartedOnce : Scenario where
  settings := ⟨10, none, some 1, .leaveRunning⟩
  behaviour _ _ := { Behaviour.standard with endsAfter? := some 0 }
  platform := .isolated

/-- A run that uses its restart up: two cohorts of one agent and a pause between them. -/
def usedUpRestart : List Action :=
  let cohort : List Action := List.replicate 4 (.move (.run 0 false))
  cohort ++ [.move (.run 0 false), .move (.clock 10000)] ++ cohort ++
    [.request (.run ["a"] "o:1" twins.base true)]

theorem restartsWithin_usedUpRestart :
    ∃ run, (execute restartedOnce usedUpRestart).2.runs[0]? = some run ∧ run.restarts = true ∧
      RestartsWithin restartedOnce (turnsOf 0 (execute restartedOnce usedUpRestart).1) run
        (execute restartedOnce usedUpRestart).2.state ∧
      (run.outcome?.map Except.isOk) = some true ∧
      (execute restartedOnce usedUpRestart).2.state.forceStopped = false ∧
      launchesIn restartedOnce (turnsOf 0 (execute restartedOnce usedUpRestart).1) = 2 := by
  have single : ((execute restartedOnce usedUpRestart).2.runs[0]?.map fun run =>
      (run.restarts, run.outcome?.map Except.isOk)) = some (true, some true) := by
    decide
  obtain ⟨run, found, same⟩ := Option.map_eq_some_iff.mp single
  obtain ⟨restarts, succeeded⟩ := Prod.mk.inj same
  exact ⟨run, found, restarts,
    restartsWithin_of_execution (execution_execute restartedOnce usedUpRestart) found restarts,
    succeeded, by decide, by decide⟩

end Supervision
end AgentCohort
