import AgentCohort.Proofs.Supervision.Deeds
import Mathlib.Algebra.GroupWithZero.Nat
import Mathlib.Data.List.Dedup

/-!
# The ledger of requests to stop

How often an agent has been asked to stop can be read off what has happened: each of the five
things that ask it is counted once.

That a thing is counted once needs two facts about the past.  An agent is started by one
launch only, because a launch numbers its agents anew.  And a joiner that has waited for an
agent too long waits for it without a limit from then on, and does not come back to it.
-/

namespace AgentCohort
namespace Supervision

open State

/-! ## The ledger -/

section Ledger

variable (scenario : Scenario) (agent : AgentId) (past : List Deed)

/-- Number of force-stops while an agent belonged to the current cohort. -/
def forceStopsOn : Nat :=
  (past.map fun deed => if agent ∈ deed.before.state.cohort then deed.forceStops else 0).sum

/-- Number of joiners that have waited for an agent too long. -/
def timeOutsOn : Nat :=
  (past.filterMap (Deed.timedOut? agent)).dedup.length

/-- Number of times that an agent was asked to stop alone. -/
def asksOf : Nat :=
  past.countP (Deed.asks agent)

/-- All reasons for which an agent has been asked to stop. -/
def ledger : Nat :=
  forceStopsOn agent past + timeOutsOn agent past +
    (past.any (Deed.overtakes scenario agent)).toNat +
    (past.any (Deed.aborts scenario agent)).toNat + asksOf agent past

end Ledger

/-! ## Joiners that are through with an agent -/

namespace Joining

/-- A joiner that will not wait for an agent too long any more: it does not wait for it, or
only for it and without a limit. -/
def IsThrough (agent : AgentId) (joining : Joining) : Prop :=
  agent ∉ joining.remaining ∨
    ∃ rest, joining.remaining = agent :: rest ∧ agent ∉ rest ∧ joining.phase = .unlimited

theorem IsThrough.not_timesOut
    {agent : AgentId}
    {joining : Joining}
    (through : joining.IsThrough agent)
    (state : State) :
    ¬joining.TimesOut agent state := by
  rintro ⟨current, _, late⟩
  rcases through with passed | ⟨rest, _, _, phase⟩
  · exact passed (List.mem_of_mem_head? current)
  · simp [deadline?, phase] at late

theorem Turn.isThrough
    {scenario : Scenario}
    {state : State}
    {joining next : Joining}
    {told : List Event}
    {asked : List AgentId}
    {agent : AgentId}
    (turn : joining.Turn scenario state next told asked)
    (through : joining.IsThrough agent) :
    next.IsThrough agent := by
  cases turn with
  | begins phase =>
      rcases through with passed | ⟨rest, _, _, unlimited⟩
      · exact .inl passed
      · simp [phase] at unlimited
  | passes remaining _ =>
      left
      rcases through with passed | ⟨others, split, absent, _⟩
      · exact fun present => passed (remaining ▸ List.mem_cons_of_mem _ present)
      · obtain ⟨_, rfl⟩ := List.cons.inj (remaining.symm.trans split)
        exact absent
  | timesOut _ =>
      rcases through with passed | ⟨rest, split, absent, _⟩
      · exact .inl passed
      · exact .inr ⟨rest, split, absent, rfl⟩

/-- A joiner that has waited for an agent too long is through with it. -/
theorem Turn.isThrough_of_timesOut
    {scenario : Scenario}
    {state : State}
    {joining next : Joining}
    {told : List Event}
    {asked : List AgentId}
    {agent : AgentId}
    (turn : joining.Turn scenario state next told asked)
    (nodup : joining.remaining.Nodup)
    (elapsed : joining.TimesOut agent state) :
    next.IsThrough agent := by
  obtain ⟨rest, split⟩ := List.head?_eq_some_iff.mp elapsed.1
  rw [split] at nodup
  have absent : agent ∉ rest := (List.nodup_cons.mp nodup).1
  cases turn with
  | begins phase => simpa [deadline?, phase] using elapsed.2.2
  | passes remaining _ =>
      obtain ⟨_, rfl⟩ := List.cons.inj (remaining.symm.trans split)
      exact .inl absent
  | timesOut _ => exact .inr ⟨rest, split, absent, rfl⟩

end Joining

/-- A run whose joiner is through with an agent, if it has one. -/
def Run.IsThrough (agent : AgentId) (run : Run) : Prop :=
  ∀ progress, run.progress? = some progress → progress.IsThrough agent

/-- A wait whose joiner is through with an agent. -/
def Wait.IsThrough (agent : AgentId) (wait : Wait) : Prop :=
  wait ≠ .looking ∧ ∀ progress, wait.progress? = some progress → progress.IsThrough agent

/-- A joiner of a system is through with an agent. -/
def System.IsThrough (system : System) (agent : AgentId) : JoinerId → Prop
  | .run index => ∃ run, system.runs[index]? = some run ∧ run.IsThrough agent
  | .wait index => ∃ wait, system.waits[index]? = some wait ∧ wait.IsThrough agent

theorem Run.awaited_of_progress?
    {run : Run}
    {progress : Joining}
    (joins : run.progress? = some progress) :
    run.stage = .joining progress ∧ run.awaited = progress.remaining := by
  cases stage : run.stage <;> simp_all [progress?, awaited]

theorem Run.isThrough_of_not_mem
    {agent : AgentId}
    {run : Run}
    (absent : agent ∉ run.awaited) :
    run.IsThrough agent := by
  intro progress joins
  rw [(awaited_of_progress? joins).2] at absent
  exact .inl absent

/-- A launch numbers its agents anew. -/
theorem State.started_launch
    (scenario : Scenario)
    (plan : Plan)
    {state : State}
    (roster : Roster state.cohort state)
    {agent : AgentId}
    (present : agent ∈ startedBy (state.launch scenario plan).2) :
    state.members.length ≤ agent ∧
      agent < (state.launchCohort scenario plan).1.members.length := by
  obtain ⟨count, numbered⟩ := (launches_launch scenario plan roster.known).started
  refine ⟨?_, (roster_launchCohort scenario plan roster).1.known agent present⟩
  rw [numbered] at present
  exact (List.mem_range'_1.mp present).1

theorem Run.Turn.isThrough
    {scenario : Scenario}
    {state newer : State}
    {run next : Run}
    {agent : AgentId}
    (turn : run.Turn scenario state next newer)
    (roster : Roster state.cohort state)
    (known : agent < state.members.length)
    (through : run.IsThrough agent) :
    next.IsThrough agent := by
  cases turn with
  | launches stage unforced same =>
      subst same
      refine Run.isThrough_of_not_mem fun present => ?_
      rcases run.awaited_launched_subset (state.launchCohort scenario run.plan).1.generation
        (state.launch scenario run.plan).2 with none | all
      · simp [none] at present
      · rw [all] at present
        exact absurd (started_launch scenario run.plan roster present).1 (Nat.not_le.mpr known)
  | joins stage joinTurn _ _ =>
      rintro progress ⟨⟩
      exact joinTurn.isThrough (through _ (by simp [progress?, stage]))
  | refuses _ _ _ _ | stops _ _ _ _ | pauses _ _ _ _ _ | wakes _ _ _ | cutShort _ _ _ _ =>
      exact Run.isThrough_of_not_mem List.not_mem_nil

theorem Wait.Turn.isThrough
    {scenario : Scenario}
    {state newer : State}
    {wait next : Wait}
    {agent : AgentId}
    (turn : wait.Turn scenario state next newer)
    (through : wait.IsThrough agent) :
    next.IsThrough agent := by
  cases turn with
  | looks _ => exact absurd rfl through.1
  | joins joinTurn _ _ =>
      refine ⟨nofun, ?_⟩
      rintro progress ⟨⟩
      exact joinTurn.isThrough (through.2 _ rfl)
  | ends _ _ | released _ _ => exact ⟨nofun, nofun⟩

theorem getElem?_of_set
    {items : List α}
    {index other : Nat}
    {item old : α}
    (replacement : α)
    (found : items[index]? = some item)
    (foundOther : items[other]? = some old) :
    (index = other ∧ item = old ∧ (items.set index replacement)[other]? = some replacement) ∨
      (items.set index replacement)[other]? = some old := by
  by_cases same : index = other
  · subst same
    have inRange := (List.getElem?_eq_some_iff.mp found).1
    exact .inl ⟨rfl, Option.some.inj (found.symm.trans foundOther),
      List.getElem?_set_self inRange⟩
  · right
    rw [List.getElem?_set_ne same, foundOther]

/-- Whoever is through with an agent stays so. -/
theorem Does.isThrough
    {scenario : Scenario}
    {system next : System}
    {action : Action}
    {agent : AgentId}
    {joiner : JoinerId}
    (does : Does scenario system action next)
    (rostered : Rostered system)
    (known : agent < system.state.members.length)
    (through : system.IsThrough agent joiner) :
    next.IsThrough agent joiner := by
  cases joiner with
  | run index =>
      obtain ⟨run, found, through⟩ := through
      have kept : next.runs[index]? = some run → next.IsThrough agent (.run index) :=
        fun found => ⟨run, found, through⟩
      cases does with
      | aside _ _ _ runs _ | clock _ _ _ _ runs _ | stopAgent _ _ _ _ _ runs _
      | forceStop _ _ runs _ | await _ _ _ _ runs _ | wait _ _ _ _ _ _ _ runs _ =>
          exact kept (runs ▸ found)
      | begin _ plan restarts _ runs _ =>
          have inRange := (List.getElem?_eq_some_iff.mp found).1
          refine kept ?_
          rw [runs, List.getElem?_append_left inRange, found]
      | run other running later _ _ foundOther turn runs _ =>
          rcases getElem?_of_set later foundOther found with ⟨rfl, rfl, after⟩ | after
          · exact ⟨later, runs ▸ after, turn.isThrough rostered.cohort known through⟩
          · exact kept (runs ▸ after)
  | wait index =>
      obtain ⟨wait, found, through⟩ := through
      have kept : next.waits[index]? = some wait → next.IsThrough agent (.wait index) :=
        fun found => ⟨wait, found, through⟩
      cases does with
      | aside _ _ _ _ waits | clock _ _ _ _ _ waits | stopAgent _ _ _ _ _ _ waits
      | forceStop _ _ _ waits | begin _ _ _ _ _ waits | run _ _ _ _ _ _ _ _ waits =>
          exact kept (waits ▸ found)
      | await _ fresh _ _ _ waits =>
          have inRange := (List.getElem?_eq_some_iff.mp found).1
          refine kept ?_
          rw [waits, List.getElem?_append_left inRange, found]
      | wait other waiting later _ _ foundOther turn _ waits =>
          rcases getElem?_of_set later foundOther found with ⟨rfl, rfl, after⟩ | after
          · exact ⟨later, waits ▸ after, turn.isThrough through⟩
          · exact kept (waits ▸ after)

/-! ## Deeds that are counted once -/

theorem Deed.timedOut?_eq_some
    {agent : AgentId}
    {joiner : JoinerId}
    {deed : Deed} :
    deed.timedOut? agent = some joiner ↔ deed.action.joiner? = some joiner ∧
      ∃ progress, deed.before.progress? joiner = some progress ∧
        progress.TimesOut agent deed.before.state := by
  simp only [timedOut?, Option.filter_eq_some_iff, Option.any_eq_true, decide_eq_true_eq]

/-- A joiner that is through with an agent has not waited for it too long now. -/
theorem System.IsThrough.timedOut?_ne
    {deed : Deed}
    {agent : AgentId}
    {joiner : JoinerId}
    (through : deed.before.IsThrough agent joiner) :
    deed.timedOut? agent ≠ some joiner := by
  intro late
  obtain ⟨_, progress, joins, elapsed⟩ := Deed.timedOut?_eq_some.mp late
  cases joiner with
  | run index =>
      obtain ⟨run, found, through⟩ := through
      simp only [System.progress?, found, Option.bind_some] at joins
      exact (through progress joins).not_timesOut _ elapsed
  | wait index =>
      obtain ⟨wait, found, _, through⟩ := through
      simp only [System.progress?, found, Option.bind_some] at joins
      exact (through progress joins).not_timesOut _ elapsed

/-- A joiner that has waited for an agent too long is through with it afterwards. -/
theorem Does.isThrough_of_timedOut
    {scenario : Scenario}
    {deed : Deed}
    {agent : AgentId}
    {joiner : JoinerId}
    (does : Does scenario deed.before deed.action deed.after)
    (rostered : Rostered deed.before)
    (late : deed.timedOut? agent = some joiner) :
    agent < deed.before.state.members.length ∧ deed.after.IsThrough agent joiner := by
  obtain ⟨turnNow, progress, joins, elapsed⟩ := Deed.timedOut?_eq_some.mp late
  have current : agent ∈ progress.remaining := List.mem_of_mem_head? elapsed.1
  have noTurn (turn : deed.action.joiner? = none) : False := by simp [turn] at turnNow
  cases does with
  | aside aside _ _ _ _ | clock aside _ _ _ _ _ | forceStop aside _ _ _
  | begin aside _ _ _ _ _ | await aside _ _ _ _ _ => exact (noTurn aside.1).elim
  | stopAgent _ _ turn _ _ _ _ => exact (noTurn turn).elim
  | run index run later turnOf _ found turn runs _ =>
      obtain rfl := Option.some.inj (turnOf.symm.trans turnNow)
      simp only [System.progress?, found, Option.bind_some] at joins
      obtain ⟨stage, awaits⟩ := Run.awaited_of_progress? joins
      have roster := rostered.runs run (List.mem_of_getElem? found)
      rw [awaits] at roster
      have inRange := (List.getElem?_eq_some_iff.mp found).1
      refine ⟨roster.known agent current, later, by rw [runs, List.getElem?_set_self inRange], ?_⟩
      cases turn with
      | joins stageNow joinTurn _ _ =>
          obtain rfl := RunStage.joining.inj (stage.symm.trans stageNow)
          rintro after ⟨⟩
          exact joinTurn.isThrough_of_timesOut roster.nodup elapsed
      | stops stageNow joined _ _ | pauses stageNow joined _ _ _ =>
          exact Run.isThrough_of_not_mem List.not_mem_nil
      | launches stageNow _ _ | refuses stageNow _ _ _ | wakes stageNow _ _
      | cutShort stageNow _ _ _ => cases stage.symm.trans stageNow
  | wait index wait later turnOf _ found turn _ waits =>
      obtain rfl := Option.some.inj (turnOf.symm.trans turnNow)
      simp only [System.progress?, found, Option.bind_some] at joins
      have roster := rostered.waits wait (List.mem_of_getElem? found)
      have inRange := (List.getElem?_eq_some_iff.mp found).1
      have after : deed.after.waits[index]? = some later := by
        rw [waits, List.getElem?_set_self inRange]
      cases turn with
      | joins joinTurn _ _ =>
          obtain rfl := Option.some.inj joins
          refine ⟨roster.known agent current, _, after, by simp, ?_⟩
          rintro next ⟨⟩
          exact joinTurn.isThrough_of_timesOut roster.nodup elapsed
      | ends joined _ =>
          obtain rfl := Option.some.inj joins
          simp [joined] at current
      | looks _ | released _ _ => cases joins

/-- The agents of a launch are those that are new after it. -/
theorem Does.started
    {scenario : Scenario}
    {deed : Deed}
    {launch : State × Except LaunchFailure (List AgentId)}
    {agent : AgentId}
    (does : Does scenario deed.before deed.action deed.after)
    (rostered : Rostered deed.before)
    (launches : deed.launch? scenario = some launch)
    (present : agent ∈ startedBy launch.2) :
    deed.before.state.members.length ≤ agent ∧ agent < deed.after.state.members.length := by
  have noTurn (turn : deed.action.joiner? = none) : False := by
    simp [Deed.launch?, turn] at launches
  cases does with
  | aside aside _ _ _ _ | clock aside _ _ _ _ _ | forceStop aside _ _ _
  | begin aside _ _ _ _ _ | await aside _ _ _ _ _ => exact (noTurn aside.1).elim
  | stopAgent _ _ turn _ _ _ _ => exact (noTurn turn).elim
  | wait _ _ _ turnOf _ _ _ _ _ => simp [Deed.launch?, turnOf] at launches
  | run index run later turnOf _ found turn _ _ =>
      simp only [Deed.launch?, turnOf, found, Option.bind_some] at launches
      cases turn with
      | launches stage unforced same =>
          simp only [Run.launch?, stage, unforced, Bool.false_eq_true, if_false,
            Option.some.injEq] at launches
          subst launches
          rw [same]
          exact started_launch scenario run.plan rostered.cohort present
      | refuses stage recorded _ _ => simp [Run.launch?, stage, recorded] at launches
      | joins stage _ _ _ | stops stage _ _ _ | pauses stage _ _ _ _ | wakes stage _ _
      | cutShort stage _ _ _ => simp [Run.launch?, stage] at launches

/-- What has happened has left its marks: agents that were started have been made, and joiners
that have waited for an agent too long are through with it. -/
structure Marked (scenario : Scenario) (past : List Deed) (system : System) : Prop where
  /-- The agents of launches have been made. -/
  started : ∀ deed ∈ past, ∀ launch, deed.launch? scenario = some launch →
    ∀ agent ∈ startedBy launch.2, agent < system.state.members.length
  /-- Joiners that have waited for an agent too long are through with it. -/
  through : ∀ deed ∈ past, ∀ agent joiner, deed.timedOut? agent = some joiner →
    agent < system.state.members.length ∧ system.IsThrough agent joiner

theorem Marked.extend
    {scenario : Scenario}
    {past : List Deed}
    {deed : Deed}
    (marked : Marked scenario past deed.before)
    (does : Does scenario deed.before deed.action deed.after)
    (rostered : Rostered deed.before) :
    Marked scenario (deed :: past) deed.after where
  started other present launch launches agent started := by
    have grown := (does.state_roster rostered).2
    rcases List.mem_cons.mp present with rfl | before
    · exact (does.started rostered launches started).2
    · exact Nat.lt_of_lt_of_le (marked.started other before launch launches agent started) grown
  through other present agent joiner late := by
    have grown := (does.state_roster rostered).2
    rcases List.mem_cons.mp present with rfl | before
    · obtain ⟨known, through⟩ := does.isThrough_of_timedOut rostered late
      exact ⟨Nat.lt_of_lt_of_le known grown, through⟩
    · obtain ⟨known, through⟩ := marked.through other before agent joiner late
      exact ⟨Nat.lt_of_lt_of_le known grown, does.isThrough rostered known through⟩

/-- A joiner times out on an agent once. -/
theorem Marked.timeOutsOn_cons
    {scenario : Scenario}
    {past : List Deed}
    {deed : Deed}
    (marked : Marked scenario past deed.before)
    (agent : AgentId) :
    timeOutsOn agent (deed :: past) =
      (deed.timedOut? agent).toList.length + timeOutsOn agent past := by
  unfold timeOutsOn
  cases late : deed.timedOut? agent with
  | none => simp [late]
  | some joiner =>
      have new : joiner ∉ past.filterMap (Deed.timedOut? agent) := by
        intro before
        obtain ⟨other, present, lateBefore⟩ := List.mem_filterMap.mp before
        exact (marked.through other present agent joiner lateBefore).2.timedOut?_ne late
      rw [List.filterMap_cons_some late, List.dedup_cons_of_notMem new]
      exact Nat.add_comm _ 1

/-- Something that happens to an agent in its launch happens once. -/
theorem Marked.any_cons
    {scenario : Scenario}
    {past : List Deed}
    {deed : Deed}
    {agent : AgentId}
    (marked : Marked scenario past deed.before)
    (does : Does scenario deed.before deed.action deed.after)
    (rostered : Rostered deed.before)
    {happens : Deed → Bool}
    (starts : ∀ deed, happens deed = true →
      ∃ launch, deed.launch? scenario = some launch ∧ agent ∈ startedBy launch.2) :
    ((deed :: past).any happens).toNat = (happens deed).toNat + (past.any happens).toNat := by
  cases now : happens deed with
  | false => simp [now]
  | true =>
      have never : past.any happens = false := by
        rw [List.any_eq_false]
        intro other present before
        obtain ⟨launch, launches, started⟩ := starts deed now
        obtain ⟨launchBefore, launchesBefore, startedBefore⟩ := starts other before
        have known := marked.started other present launchBefore launchesBefore agent startedBefore
        exact absurd (does.started rostered launches started).1 (Nat.not_le.mpr known)
      simp [now, never]

theorem Deed.started_of_overtakes
    {scenario : Scenario}
    (agent : AgentId)
    (deed : Deed)
    (overtaken : deed.overtakes scenario agent = true) :
    ∃ launch, deed.launch? scenario = some launch ∧ agent ∈ startedBy launch.2 := by
  obtain ⟨launch, launches, both⟩ := (Option.any_eq_true _ _).mp overtaken
  rw [Bool.and_eq_true, List.contains_iff_mem] at both
  exact ⟨launch, launches, both.2⟩

theorem Deed.started_of_aborts
    {scenario : Scenario}
    (agent : AgentId)
    (deed : Deed)
    (aborted : deed.aborts scenario agent = true) :
    ∃ launch, deed.launch? scenario = some launch ∧ agent ∈ startedBy launch.2 := by
  obtain ⟨⟨launched, outcome⟩, launches, present⟩ := (Option.any_eq_true _ _).mp aborted
  refine ⟨_, launches, ?_⟩
  rw [List.contains_iff_mem] at present
  cases outcome with
  | ok cohort => simp [abortedBy] at present
  | error failure =>
      by_cases policy : scenario.settings.partialLaunch = .stopStarted
      · simpa [abortedBy, startedBy, policy] using present
      · simp [abortedBy, policy] at present

/-- A deed adds to the ledger what it asks. -/
theorem Marked.ledger_cons
    {scenario : Scenario}
    {past : List Deed}
    {deed : Deed}
    (marked : Marked scenario past deed.before)
    (does : Does scenario deed.before deed.action deed.after)
    (rostered : Rostered deed.before)
    (agent : AgentId) :
    ledger scenario agent (deed :: past) =
      ledger scenario agent past + deed.requests scenario agent := by
  have forced : forceStopsOn agent (deed :: past) =
      (if agent ∈ deed.before.state.cohort then deed.forceStops else 0) +
        forceStopsOn agent past := by
    rw [forceStopsOn, List.map_cons, List.sum_cons]
    rfl
  have late := marked.timeOutsOn_cons agent
  have overtaken := marked.any_cons does rostered (Deed.started_of_overtakes agent)
  have aborted := marked.any_cons does rostered (Deed.started_of_aborts agent)
  have asked : asksOf agent (deed :: past) = asksOf agent past + (deed.asks agent).toNat := by
    rw [asksOf, List.countP_cons]
    cases deed.asks agent <;> rfl
  rw [ledger, ledger, Deed.requests, forced, late, overtaken, aborted, asked]
  omega

/-! ## Executions -/

theorem Execution.marked
    {scenario : Scenario}
    {past : List Deed}
    {system : System}
    (execution : Execution scenario past system) :
    Marked scenario past system := by
  induction execution with
  | initial => exact ⟨nofun, nofun⟩
  | @extend past system next action earlier possible inductionHypothesis =>
      let deed : Deed := ⟨system, action, next⟩
      have rostered : Rostered deed.before := earlier.reachable.rostered
      have does : Does scenario deed.before deed.action deed.after := rostered.does possible
      exact inductionHypothesis.extend does rostered

/-- Every deed of an execution is what an action does to a system with rosters. -/
theorem Execution.does
    {scenario : Scenario}
    {past : List Deed}
    {system : System}
    (execution : Execution scenario past system)
    {deed : Deed}
    (present : deed ∈ past) :
    Rostered deed.before ∧ Does scenario deed.before deed.action deed.after := by
  induction execution with
  | initial => simp at present
  | extend earlier possible inductionHypothesis =>
      rcases List.mem_cons.mp present with rfl | before
      · have rostered := earlier.reachable.rostered
        exact ⟨rostered, rostered.does possible⟩
      · exact inductionHypothesis before

/-- The requests to stop an agent are those of the ledger. -/
theorem Execution.stops
    {scenario : Scenario}
    {past : List Deed}
    {system : System}
    (execution : Execution scenario past system)
    (agent : AgentId) :
    system.state.stops agent = ledger scenario agent past := by
  induction execution with
  | initial => rfl
  | @extend past system next action earlier possible inductionHypothesis =>
      let deed : Deed := ⟨system, action, next⟩
      have rostered : Rostered deed.before := earlier.reachable.rostered
      have does : Does scenario deed.before deed.action deed.after := rostered.does possible
      have marked : Marked scenario past deed.before := earlier.marked
      rw [marked.ledger_cons does rostered agent, ← inductionHypothesis]
      exact (does.accounts rostered agent).stops

/-- What a force-stop from outside does to the current cohort. -/
structure ForcesCohort (system : System) : Prop where
  /-- It keeps the cohort. -/
  cohort : (system.accept .forceStop).1.state.cohort = system.state.cohort
  /-- It counts no generation. -/
  generation : (system.accept .forceStop).1.state.generation = system.state.generation
  /-- Each agent of the cohort is asked to stop once more, and nobody else is. -/
  stops : ∀ agent, (system.accept .forceStop).1.state.stops agent =
    system.state.stops agent + if agent ∈ system.state.cohort then 1 else 0
  /-- No agent is listed twice in the cohort. -/
  nodup : system.state.cohort.Nodup
  /-- The answer is the number of its agents. -/
  reply : (system.accept .forceStop).2 = .signalled system.state.cohort.length

theorem Rostered.forcesCohort {system : System} (rostered : Rostered system) :
    ForcesCohort system := by
  have effect := (forces_forceStop rostered.cohort.known).effect
  refine ⟨effect.cohort, effect.generation, fun agent => ?_, rostered.cohort.nodup, rfl⟩
  have asked := effect.stops agent
  rw [count_flatten_replicate, rostered.cohort.nodup.count, Nat.one_mul] at asked
  exact asked

/-- What the force-stops do that agents call for in a launch. -/
structure Deed.KeepsCohort (scenario : Scenario) (deed : Deed) : Prop where
  /-- Until the launch is published they leave the cohort and its generation as they are. -/
  launch : ∀ launch, deed.launch? scenario = some launch →
    launch.1.cohort = deed.before.state.cohort ∧
      launch.1.generation = deed.before.state.generation
  /-- The listeners are told how large the cohort is. -/
  told : ∀ count, .forceStopped count ∈ deed.told → count = deed.before.state.cohort.length
  /-- The agents are answered the same. -/
  answers : ∀ count ∈ deed.answers, count = deed.before.state.cohort.length

theorem Does.keepsCohort
    {scenario : Scenario}
    {deed : Deed}
    (does : Does scenario deed.before deed.action deed.after)
    (rostered : Rostered deed.before) :
    deed.KeepsCohort scenario := by
  have accounts := does.accounts rostered 0
  refine ⟨?_, accounts.told, accounts.answers⟩
  intro launch launches
  obtain ⟨plan, same⟩ : ∃ plan, launch = deed.before.state.launch scenario plan := by
    unfold Deed.launch? at launches
    split at launches
    · obtain ⟨run, _, launches⟩ := Option.bind_eq_some_iff.mp launches
      unfold Run.launch? at launches
      split at launches
      · split at launches
        · cases launches
        · exact ⟨run.plan, (Option.some.inj launches).symm⟩
      all_goals cases launches
    all_goals cases launches
  subst same
  obtain ⟨calls, effect, _⟩ := (launches_launch scenario plan rostered.cohort.known).effect
  exact ⟨effect.cohort, effect.generation⟩

/-- However often an agent has been asked to stop, the ledger tells why; and a force-stop, from
outside or by an agent in its launch, asks the current cohort, keeps it, and is answered how
large it is. -/
theorem stops_eq_ledger
    {scenario : Scenario}
    {past : List Deed}
    {system : System}
    (execution : Execution scenario past system) :
    (∀ agent, system.state.stops agent = ledger scenario agent past) ∧
      ForcesCohort system ∧ ∀ deed ∈ past, deed.KeepsCohort scenario := by
  refine ⟨execution.stops, execution.reachable.rostered.forcesCohort, ?_⟩
  intro deed present
  obtain ⟨rostered, does⟩ := execution.does present
  exact does.keepsCohort rostered

/-- The execution in which some actions happen, the newest one first; those that are not possible
are left out. -/
def execute (scenario : Scenario) : List Action → List Deed × System
  | [] => ([], .initial)
  | action :: earlier =>
    let (past, system) := execute scenario earlier
    match system.action? scenario action with
    | some next => (⟨system, action, next⟩ :: past, next)
    | none => (past, system)

theorem execution_execute (scenario : Scenario) (actions : List Action) :
    Execution scenario (execute scenario actions).1 (execute scenario actions).2 := by
  induction actions with
  | nil => exact .initial
  | cons action earlier inductionHypothesis =>
      unfold execute
      dsimp only
      split
      · rename_i next possible
        exact inductionHypothesis.extend possible
      · exact inductionHypothesis

/-- Agents that ignore requests to stop, and are waited for one second; `b` calls for a
force-stop while it is made, and cannot be made. -/
def stubborn : Scenario where
  settings := ⟨10, some 1, none, .stopStarted⟩
  behaviour blueprint _ :=
    if blueprint.name = "b" then
      { Behaviour.standard with
        createFailure? := some (.internal "broken")
        forceStops := [.creation] }
    else { Behaviour.standard with ignoresStop := true }
  platform := .isolated

/-- The launch of two agents fails at the second one; the first one is waited for too long,
forced to stop, and asked to stop alone. -/
def askedFiveTimes : List Action :=
  [.request (.stopAgent 0), .request .forceStop, .move (.wait 0), .move (.clock 1000),
    .move (.wait 0), .move (.wait 0), .request .waitForCohort, .move (.run 0 false),
    .request (.run ["a", "b"] "o:1" ⟨none, 9001, none⟩ false)]

theorem stops_eq_ledger_askedFiveTimes :
    Execution stubborn (execute stubborn askedFiveTimes).1 (execute stubborn askedFiveTimes).2 ∧
      forceStopsOn 0 (execute stubborn askedFiveTimes).1 = 1 ∧
      timeOutsOn 0 (execute stubborn askedFiveTimes).1 = 1 ∧
      asksOf 0 (execute stubborn askedFiveTimes).1 = 1 ∧
      (execute stubborn askedFiveTimes).2.state.stops 0 = 5 ∧
      (execute stubborn askedFiveTimes).2.state.stops 0 =
        ledger stubborn 0 (execute stubborn askedFiveTimes).1 :=
  have execution := execution_execute stubborn askedFiveTimes
  ⟨execution, by decide, by decide, by decide, by decide, (stops_eq_ledger execution).1 0⟩

end Supervision
end AgentCohort
