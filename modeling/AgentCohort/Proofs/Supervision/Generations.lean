import AgentCohort.Proofs.Supervision.LaunchOrder
import AgentCohort.Proofs.Supervision.StopLedger

/-!
# Generations

Each generation of a run is a launch of the same plan, because a run keeps its plan.  So the
agents of all its generations are made from one list of blueprints, in order.

Nothing but a launch makes or starts agents, and a launch numbers its agents anew.  So no
agent of one generation is started in another one.
-/

namespace AgentCohort
namespace Supervision

open Network (IpAddress)
open State

/-! ## Runs keep their plans -/

theorem Run.Turn.plan
    {scenario : Scenario}
    {state newer : State}
    {run next : Run}
    (turn : run.Turn scenario state next newer) :
    next.plan = run.plan := by
  cases turn with
  | launches stage unforced same =>
      cases (state.launch scenario run.plan).2 with
      | error failure => rfl
      | ok cohort =>
          unfold launched
          dsimp only
          split <;> rfl
  | refuses _ _ _ _ | joins _ _ _ _ | stops _ _ _ _ | pauses _ _ _ _ _ | wakes _ _ _
  | cutShort _ _ _ _ => rfl

/-- No run is lost, and each keeps its plan. -/
theorem Does.exists_run
    {scenario : Scenario}
    {system next : System}
    {action : Action}
    {index : Nat}
    {run : Run}
    (does : Does scenario system action next)
    (found : system.runs[index]? = some run) :
    ∃ later, next.runs[index]? = some later ∧ later.plan = run.plan := by
  cases does with
  | aside _ _ _ runs _ | clock _ _ _ _ runs _ | stopAgent _ _ _ _ _ runs _
  | forceStop _ _ runs _ | await _ _ _ _ runs _ | wait _ _ _ _ _ _ _ runs _ =>
      rw [runs]
      exact ⟨run, found, rfl⟩
  | begin _ plan restarts _ runs _ =>
      have inRange := (List.getElem?_eq_some_iff.mp found).1
      rw [runs, List.getElem?_append_left inRange]
      exact ⟨run, found, rfl⟩
  | run other running later _ _ foundOther turn runs _ =>
      rw [runs]
      rcases getElem?_of_set later foundOther found with ⟨rfl, rfl, after⟩ | after
      · exact ⟨later, after, turn.plan⟩
      · exact ⟨run, after, rfl⟩

theorem Execution.exists_run
    {scenario : Scenario}
    {past : List Deed}
    {system : System}
    (execution : Execution scenario past system)
    {deed : Deed}
    (present : deed ∈ past)
    {index : Nat}
    {run : Run}
    (found : deed.before.runs[index]? = some run) :
    ∃ later, system.runs[index]? = some later ∧ later.plan = run.plan := by
  induction execution with
  | initial => simp at present
  | extend earlier possible inductionHypothesis =>
      have does := earlier.reachable.rostered.does possible
      rcases List.mem_cons.mp present with rfl | before
      · exact does.exists_run found
      · obtain ⟨middle, foundMiddle, kept⟩ := inductionHypothesis before
        obtain ⟨later, foundLater, keptLater⟩ := does.exists_run foundMiddle
        exact ⟨later, foundLater, keptLater.trans kept⟩

/-! ## What deeds ask for -/

/-- What a deed asks for that belongs to a launch, the oldest call first. -/
def Deed.calls (deed : Deed) : List LaunchCall :=
  (deed.after.entriesSince deed.before).filterMap fun entry => entry.occurrence.launchCall?

theorem Deed.calls_of_callsFor
    {deed : Deed}
    {called : List LaunchCall}
    (callsFor : CallsFor called deed.before.state deed.after.state) :
    deed.calls = called := by
  obtain ⟨added, grown, rfl⟩ := callsFor
  have counted := congrArg List.length grown
  simp only [history, List.length_map, List.length_append] at counted
  have gained : (deed.after.state.journal.take added.length).map Entry.occurrence = added := by
    rw [List.map_take]
    exact (congrArg (List.take added.length) grown).trans List.take_left
  have new : deed.after.state.journal.length - deed.before.state.journal.length =
      added.length := by omega
  calc deed.calls
      = (deed.after.state.journal.take added.length).reverse.filterMap
          (Occurrence.launchCall? ∘ Entry.occurrence) := by
        rw [Deed.calls, System.entriesSince, Journal.since, new]
        rfl
    _ = Supervision.calls Occurrence.launchCall?
          ((deed.after.state.journal.take added.length).map Entry.occurrence) := by
        rw [Supervision.calls, ← List.map_reverse, List.filterMap_map]
    _ = Supervision.calls Occurrence.launchCall? added := by rw [gained]

/-- A deed launches a cohort, or nothing in it belongs to a launch. -/
theorem Does.calm_or_launches
    {scenario : Scenario}
    {deed : Deed}
    (does : Does scenario deed.before deed.action deed.after) :
    deed.launch? scenario = none ∧ Calm Occurrence.IsQuiet deed.before.state deed.after.state ∨
      ∃ index run, deed.action.joiner? = some (.run index) ∧
        deed.before.runs[index]? = some run ∧
        deed.launch? scenario = some (deed.before.state.launch scenario run.plan) ∧
        deed.after.state = (deed.before.state.launchCohort scenario run.plan).1 := by
  have noTurn (turn : deed.action.joiner? = none) : deed.launch? scenario = none := by
    simp [Deed.launch?, turn]
  have same (unchanged : deed.after.state = deed.before.state) :
      Calm Occurrence.IsQuiet deed.before.state deed.after.state := by
    rw [unchanged]
    exact .refl _
  cases does with
  | aside aside _ quiet _ _ => exact .inl ⟨noTurn aside.1, quiet.toCalm⟩
  | clock aside time _ state _ _ =>
      left
      rw [state]
      exact ⟨noTurn aside.1, (quiet_clock time _).toCalm⟩
  | stopAgent _ _ turn _ quiet _ _ => exact .inl ⟨noTurn turn, quiet.toCalm⟩
  | forceStop aside state _ _ =>
      left
      rw [state]
      exact ⟨noTurn aside.1, calm_forceStop _⟩
  | begin aside _ _ state _ _ | await aside _ _ state _ _ =>
      exact .inl ⟨noTurn aside.1, same state⟩
  | wait _ _ _ turnOf _ _ turn _ _ =>
      left
      refine ⟨by simp [Deed.launch?, turnOf], ?_⟩
      cases turn with
      | joins _ _ quiet => exact quiet.toCalm
      | looks unchanged | ends _ unchanged | released _ unchanged => exact same unchanged
  | run index run later turnOf _ found turn _ _ =>
      have launches : deed.launch? scenario = run.launch? scenario deed.before.state := by
        simp [Deed.launch?, turnOf, found]
      cases turn with
      | launches stage unforced after =>
          right
          refine ⟨index, run, turnOf, found, ?_, after⟩
          rw [launches]
          simp [Run.launch?, stage, unforced]
      | wakes stage _ unchanged =>
          exact .inl ⟨by rw [launches]; simp [Run.launch?, stage], same unchanged⟩
      | refuses stage recorded _ quiet =>
          exact .inl ⟨by rw [launches]; simp [Run.launch?, stage, recorded], quiet.toCalm⟩
      | joins stage _ _ quiet | stops stage _ _ quiet | pauses stage _ _ _ quiet
      | cutShort stage _ _ quiet =>
          exact .inl ⟨by rw [launches]; simp [Run.launch?, stage], quiet.toCalm⟩

/-! ## Agents are started once -/

/-- A deed asks agents to start that are new, if any. -/
theorem Does.numbers
    {scenario : Scenario}
    {deed : Deed}
    (does : Does scenario deed.before deed.action deed.after)
    (rostered : Rostered deed.before) :
    ∃ called, Numbers called deed.before.state deed.after.state := by
  rcases does.calm_or_launches with ⟨_, calm⟩ | ⟨index, run, _, _, _, after⟩
  · have grown := (does.state_roster rostered).2
    exact ⟨[], calm.asksForNothing, 0, rfl, grown⟩
  · obtain ⟨called, numbers⟩ := (launchCourse_launch scenario run.plan deed.before.state).numbers
    have publishes := publishes_launchCohort scenario run.plan rostered.cohort.known
    rw [after]
    exact ⟨called, numbers.trans_aside (asksForNothing_launchCohort _ _ _)
      publishes.effect.length_le⟩

/-- No agent has been asked to start twice. -/
structure State.StartsOnce (state : State) : Prop where
  /-- None is listed twice. -/
  nodup : (calls Occurrence.started? state.history).Nodup
  /-- Whoever is listed has been made. -/
  known : ∀ agent ∈ calls Occurrence.started? state.history, agent < state.members.length

/-- Agents that are new have not been asked to start before. -/
theorem State.StartsOnce.numbers
    {called : List LaunchCall}
    {older newer : State}
    (once : StartsOnce older)
    (numbers : Numbers called older newer) :
    StartsOnce newer := by
  obtain ⟨added, grown, rfl⟩ := numbers.callsFor
  obtain ⟨count, started, made⟩ := numbers.started
  rw [filterMap_started?_calls] at started
  have all : calls Occurrence.started? newer.history =
      calls Occurrence.started? older.history ++ List.range' older.members.length count := by
    rw [grown, calls_append, started]
  constructor
  · rw [all, List.nodup_append]
    refine ⟨once.nodup, List.nodup_range', ?_⟩
    intro agent before other new
    have known := once.known agent before
    have fresh := (List.mem_range'_1.mp new).1
    exact Nat.ne_of_lt (Nat.lt_of_lt_of_le known fresh)
  · intro agent present
    rw [all, List.mem_append] at present
    rcases present with before | new
    · exact Nat.lt_of_lt_of_le (once.known agent before) (Nat.le_of_add_right_le made)
    · exact Nat.lt_of_lt_of_le (List.mem_range'_1.mp new).2 made

theorem Execution.startsOnce
    {scenario : Scenario}
    {past : List Deed}
    {system : System}
    (execution : Execution scenario past system) :
    StartsOnce system.state := by
  induction execution with
  | initial => exact ⟨List.nodup_nil, nofun⟩
  | @extend past system next action earlier possible inductionHypothesis =>
      let deed : Deed := ⟨system, action, next⟩
      have rostered : Rostered deed.before := earlier.reachable.rostered
      have does : Does scenario deed.before deed.action deed.after := rostered.does possible
      obtain ⟨called, numbers⟩ := does.numbers rostered
      exact inductionHypothesis.numbers numbers

/-! ## All generations are alike -/

/-- A launch that is like all launches of its plan, and what is published of it. -/
structure Deed.IsGeneration
    (plan : Plan)
    (ip : IpAddress)
    (outcome : Except LaunchFailure (List AgentId))
    (deed : Deed) : Prop where
  /-- What it asks for is governed by the plan. -/
  governs : plan.Governs ip outcome deed.calls
  /-- If it is complete, its agents are the current cohort, under the names of the plan. -/
  published : ∀ cohort, outcome = .ok cohort →
    deed.after.state.cohort = cohort ∧ cohort.map deed.after.state.nameOf = plan.names

theorem State.isGeneration_launchCohort
    {scenario : Scenario}
    {plan : Plan}
    {ip : IpAddress}
    (listens : plan.ListensOn scenario ip)
    {deed : Deed}
    (rostered : Rostered deed.before)
    (after : deed.after.state = (deed.before.state.launchCohort scenario plan).1) :
    deed.IsGeneration plan ip (deed.before.state.launch scenario plan).2 := by
  have known := rostered.cohort.known
  obtain ⟨called, callsFor, governs⟩ := governs_launch listens deed.before.state
  have publishing := callsFor.trans_aside
    (asksForNothing_launchCohort scenario plan deed.before.state)
  rw [← after] at publishing
  constructor
  · rw [Deed.calls_of_callsFor publishing]
    exact governs
  · intro cohort complete
    rw [after]
    refine ⟨?_, map_nameOf_launchCohort known complete⟩
    have current := (publishes_launchCohort scenario plan known).cohort
    rw [complete] at current
    exact current

/-- All generations of a run are alike, nothing but a launch makes or starts agents, and no
agent is started twice. -/
theorem generations_alike_of_execution
    {scenario : Scenario}
    {past : List Deed}
    {system : System}
    (execution : Execution scenario past system)
    {index : Nat}
    {run : Run}
    (found : system.runs[index]? = some run)
    {ip : IpAddress}
    (listens : run.plan.ListensOn scenario ip) :
    (∀ deed ∈ past, deed.action.joiner? = some (.run index) →
      ∀ launch, deed.launch? scenario = some launch →
        deed.IsGeneration run.plan ip launch.2) ∧
      (∀ deed ∈ past, deed.launch? scenario = none → deed.calls = []) ∧
      (calls Occurrence.started? system.state.history).Nodup := by
  refine ⟨?_, ?_, execution.startsOnce.nodup⟩
  · intro deed present turn launch launches
    obtain ⟨rostered, does⟩ := execution.does present
    rcases does.calm_or_launches with ⟨none, _⟩ | ⟨other, older, turnOf, foundOlder, same, after⟩
    · cases none.symm.trans launches
    · obtain rfl : other = index := by
        simpa using turnOf.symm.trans turn
      obtain rfl := Option.some.inj (same.symm.trans launches)
      obtain ⟨later, foundLater, kept⟩ := execution.exists_run present foundOlder
      obtain rfl := Option.some.inj (foundLater.symm.trans found)
      rw [← kept] at after ⊢
      exact isGeneration_launchCohort listens rostered after
  · intro deed present none
    obtain ⟨_, does⟩ := execution.does present
    rcases does.calm_or_launches with ⟨_, calm⟩ | ⟨_, _, _, _, launches, _⟩
    · exact Deed.calls_of_callsFor calm.asksForNothing
    · cases none.symm.trans launches

/-- Agents that end as soon as they are started; `b` cannot be made. -/
def shortLived : Scenario where
  settings := ⟨10, none, none, .leaveRunning⟩
  behaviour blueprint _ :=
    if blueprint.name = "b" then
      { Behaviour.standard with createFailure? := some (.internal "broken") }
    else { Behaviour.standard with endsAfter? := some 0 }
  platform := .isolated

/-- Two agents of one name. -/
def twins : Plan :=
  ⟨["a", "a"], ⟨"o", 1⟩, ⟨none, 9001, some 9101⟩⟩

/-- A run joins its cohort of two, pauses, and launches another one. -/
def launchedTwice : List Action :=
  [.move (.run 0 false), .move (.run 0 false), .move (.clock 10000), .move (.run 0 false),
    .move (.run 0 false), .move (.run 0 false), .move (.run 0 false), .move (.run 0 false),
    .move (.run 0 false), .request (.run twins.names "o:1" twins.base true)]

theorem generations_alike_launchedTwice :
    ∃ run, (execute shortLived launchedTwice).2.runs[0]? = some run ∧
      run.plan = twins ∧ twins.ListensOn shortLived .loopback ∧
      (execute shortLived launchedTwice).2.state.generation = 2 ∧
      calls Occurrence.started? (execute shortLived launchedTwice).2.state.history =
        [0, 1, 2, 3] ∧
      ∀ deed ∈ (execute shortLived launchedTwice).1, deed.action.joiner? = some (.run 0) →
        ∀ launch, deed.launch? shortLived = some launch →
          deed.IsGeneration run.plan .loopback launch.2 := by
  have planned : (execute shortLived launchedTwice).2.runs[0]?.map Run.plan = some twins := by
    decide
  obtain ⟨run, found, same⟩ := Option.map_eq_some_iff.mp planned
  have listens : twins.ListensOn shortLived .loopback := fun port => rfl
  have alike := generations_alike_of_execution (execution_execute shortLived launchedTwice) found
    (same ▸ listens)
  exact ⟨run, found, same, listens, by decide, by decide, alike.1⟩

/-- Each agent is made that a plan has a name for. -/
def Deed.MakesAll (plan : Plan) (deed : Deed) : Prop :=
  deed.after.state.members.length = deed.before.state.members.length + plan.names.length

instance (plan : Plan) (deed : Deed) : Decidable (deed.MakesAll plan) :=
  inferInstanceAs (Decidable (_ = _))

/-- A list whose last agent cannot be made. -/
def refusedLast : Plan :=
  ⟨["a", "b"], ⟨"o", 1⟩, ⟨none, 9001, none⟩⟩

/-- That agents were to be made from all blueprints does not mean that all of them were: the
last one may have been refused. -/
theorem not_whole_iff_makesAll :
    ¬∀ deed ∈ (execute shortLived [.move (.run 0 false),
        .request (.run refusedLast.names "o:1" refusedLast.base true)]).1,
      (deed.launch? shortLived).isSome = true →
        (deed.calls.filterMap LaunchCall.created? = refusedLast.blueprints .loopback ↔
          deed.MakesAll refusedLast) := by
  decide

end Supervision
end AgentCohort
