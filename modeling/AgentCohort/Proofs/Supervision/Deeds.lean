import AgentCohort.Proofs.Supervision.Turns

/-!
# Deeds

An execution with a record of all that has happened in it.  A deed is an action together with
the systems before and after it, so all that it has done can be read off it: what the
listeners were told, whose time was over, which launch took place.

Five things ask an agent to stop: a force-stop while it belongs to the current cohort, a
joiner that has waited for it too long, the publication of a launch that a force-stop has
overtaken, the end of a launch that fails, and a request to stop it alone.  Nothing else does.
-/

namespace AgentCohort
namespace Supervision

open State

/-! ## Recorded executions -/

/-- Something that has happened to a system. -/
structure Deed where
  /-- The system before. -/
  before : System
  /-- What has happened. -/
  action : Action
  /-- The system after. -/
  after : System

/-- An execution with all that has happened in it, the newest deed first. -/
inductive Execution (scenario : Scenario) : List Deed → System → Prop
  /-- Nothing has happened. -/
  | initial : Execution scenario [] .initial
  /-- Something more happens. -/
  | extend
      {past : List Deed}
      {system next : System}
      {action : Action}
      (earlier : Execution scenario past system)
      (possible : system.action? scenario action = some next) :
      Execution scenario (⟨system, action, next⟩ :: past) next

theorem Execution.reachable
    {scenario : Scenario}
    {past : List Deed}
    {system : System}
    (execution : Execution scenario past system) :
    Reachable scenario system := by
  induction execution with
  | initial => exact .refl
  | extend _ possible inductionHypothesis =>
      exact inductionHypothesis.tail (step_of_action? possible)

/-- Every system that can be come to has a record of how. -/
theorem Reachable.exists_execution
    {scenario : Scenario}
    {system : System}
    (reachable : Reachable scenario system) :
    ∃ past, Execution scenario past system := by
  induction reachable with
  | refl => exact ⟨[], .initial⟩
  | tail _ step inductionHypothesis =>
      obtain ⟨past, earlier⟩ := inductionHypothesis
      obtain ⟨action, possible⟩ := step.exists_action
      exact ⟨_, earlier.extend possible⟩

/-! ## What asks an agent to stop -/

/-- Whether the listeners are told of a force-stop. -/
def Event.isForceStopped : Event → Bool
  | .forceStopped _ => true
  | _ => false

/-- How far the joiner of a run has come. -/
def Run.progress? (run : Run) : Option Joining :=
  match run.stage with
  | .joining progress => some progress
  | .launching | .cooling _ | .ended _ => none

/-- How far the joiner of a wait has come. -/
def Wait.progress? : Wait → Option Joining
  | .joining progress => some progress
  | .looking | .forForceStop | .ended => none

/-- How far a joiner has come. -/
def System.progress? (system : System) : JoinerId → Option Joining
  | .run index => system.runs[index]?.bind Run.progress?
  | .wait index => system.waits[index]?.bind Wait.progress?

/-- What the launch of a run leads to before it is published, if the run is to launch. -/
def Run.launch? (scenario : Scenario) (run : Run) (state : State) :
    Option (State × Except LaunchFailure (List AgentId)) :=
  match run.stage with
  | .launching => if state.forceStopped then none else some (state.launch scenario run.plan)
  | .joining _ | .cooling _ | .ended _ => none

namespace Deed

/-- What the listeners are told. -/
def told (deed : Deed) : List Event :=
  (deed.after.entriesSince deed.before).filterMap Entry.event?

/-- What agents are answered that call for a force-stop. -/
def answers (deed : Deed) : List Nat :=
  (deed.after.entriesSince deed.before).filterMap Entry.answer?

/-- Number of force-stops. -/
def forceStops (deed : Deed) : Nat :=
  deed.told.countP Event.isForceStopped

/-- The joiner that has waited for an agent too long. -/
def timedOut? (agent : AgentId) (deed : Deed) : Option JoinerId :=
  deed.action.joiner?.filter fun joiner =>
    (deed.before.progress? joiner).any fun progress =>
      progress.TimesOut agent deed.before.state

/-- The launch of a run, before it is published. -/
def launch? (scenario : Scenario) (deed : Deed) :
    Option (State × Except LaunchFailure (List AgentId)) :=
  match deed.action.joiner? with
  | some (.run index) =>
    deed.before.runs[index]?.bind fun run => run.launch? scenario deed.before.state
  | some (.wait _) | none => none

/-- Whether an agent is published, in a full or a partial cohort, after a force-stop has been
recorded. -/
def overtakes (scenario : Scenario) (agent : AgentId) (deed : Deed) : Bool :=
  (deed.launch? scenario).any fun launch =>
    launch.1.forceStopped && (startedBy launch.2).contains agent

/-- Whether an agent was started before the failing one of a launch whose agents are asked to
stop then. -/
def aborts (scenario : Scenario) (agent : AgentId) (deed : Deed) : Bool :=
  (deed.launch? scenario).any fun launch =>
    (abortedBy scenario.settings.partialLaunch launch.2).contains agent

/-- Whether an agent is asked to stop alone. -/
def asks (agent : AgentId) (deed : Deed) : Bool :=
  deed.action.asked? = some agent ∧ agent < deed.before.state.members.length

end Deed

/-! ## What one deed asks -/

theorem Journal.since_append (added older : Journal) :
    Journal.since (added ++ older) older = added.reverse := by
  rw [Journal.since, List.length_append, Nat.add_sub_cancel, List.take_left]

theorem Deed.told_of_tells
    {deed : Deed}
    {told : List Event}
    {time : Nat}
    {added : Journal}
    (grown : deed.after.state.journal = added ++ deed.before.state.journal)
    (tells : Tells told time added) :
    deed.told = told ∧ ∀ count ∈ deed.answers, .forceStopped count ∈ told := by
  have gained : deed.after.entriesSince deed.before = added.reverse := by
    rw [System.entriesSince, grown, Journal.since_append]
  refine ⟨?_, ?_⟩
  · rw [Deed.told, gained, tells.events]
  · intro count present
    rw [Deed.answers, gained] at present
    obtain ⟨entry, inAdded, answer⟩ := List.mem_filterMap.mp present
    exact tells.answered entry (List.mem_reverse.mp inAdded) count answer

/-- The number of requests to stop an agent that a deed leads to. -/
def Deed.requests (scenario : Scenario) (agent : AgentId) (deed : Deed) : Nat :=
  (if agent ∈ deed.before.state.cohort then deed.forceStops else 0) +
    (deed.timedOut? agent).toList.length + (deed.overtakes scenario agent).toNat +
    (deed.aborts scenario agent).toNat + (deed.asks agent).toNat

theorem count_eq_toNat_contains {agents : List AgentId} (nodup : agents.Nodup) (agent : AgentId) :
    agents.count agent = (agents.contains agent).toNat := by
  rw [nodup.count]
  by_cases present : agent ∈ agents <;> simp [present]

theorem count_flatten_replicate (agents : List AgentId) (count : Nat) (agent : AgentId) :
    (List.replicate count agents).flatten.count agent = count * agents.count agent := by
  rw [List.count_flatten, List.map_replicate, List.sum_replicate_nat]

namespace Joining

theorem not_timesOut_of_joined
    {joining : Joining}
    (joined : joining.remaining = [])
    (agent : AgentId)
    (state : State) :
    ¬joining.TimesOut agent state := by
  rintro ⟨current, _⟩
  simp [joined] at current

/-- A joiner asks an agent to stop when it has waited for it as long as it may. -/
theorem Turn.count_asked
    {scenario : Scenario}
    {state : State}
    {joining next : Joining}
    {told : List Event}
    {asked : List AgentId}
    (turn : joining.Turn scenario state next told asked)
    (agent : AgentId) :
    asked.count agent = (decide (joining.TimesOut agent state)).toNat ∧
      told.countP Event.isForceStopped = 0 := by
  cases turn with
  | begins phase =>
      have waits : ¬joining.TimesOut agent state := fun elapsed => by
        simpa [deadline?, phase] using elapsed.2.2
      simp [waits]
  | @passes current rest remaining joinable =>
      have passed : ¬joining.TimesOut agent state := by
        rintro ⟨atAgent, lasting, _⟩
        obtain rfl : current = agent := by simpa [remaining] using atAgent
        simp [joinable] at lasting
      simp [passed]
  | @timesOut current elapsed =>
      by_cases same : current = agent
      · subst same
        simp [elapsed, Event.isForceStopped]
      · have other : ¬joining.TimesOut agent state := fun overOther =>
          same (Option.some.inj (elapsed.1.symm.trans overOther.1))
        simp [other, same, Event.isForceStopped]

end Joining

/-- Everything that the launch of a cohort asks is for a force-stop, for a failure, or because
a force-stop has overtaken it. -/
theorem State.requests_launchCohort
    (scenario : Scenario)
    (plan : Plan)
    {state : State}
    (roster : Roster state.cohort state)
    (agent : AgentId) :
    let launch := state.launch scenario plan
    ∃ told asked, Effect told asked state (state.launchCohort scenario plan).1 ∧
      (∀ count, .forceStopped count ∈ told → count = state.cohort.length) ∧
      asked.count agent =
        (if agent ∈ state.cohort then told.countP Event.isForceStopped else 0) +
          (launch.1.forceStopped && (startedBy launch.2).contains agent).toNat +
          ((abortedBy scenario.settings.partialLaunch launch.2).contains agent).toNat := by
  have launches := launches_launch scenario plan roster.known
  have effects := effect_launchCohort scenario plan roster.known
  dsimp only at effects ⊢
  rcases attempted : state.launch scenario plan with ⟨launched, outcome⟩
  rw [attempted] at launches effects
  obtain ⟨number, started⟩ := launches.started
  obtain ⟨calls, effect, _⟩ := effects
  have startedNodup : (startedBy outcome).Nodup := by
    rw [started]
    exact List.nodup_range'
  have abortedNodup : (abortedBy scenario.settings.partialLaunch outcome).Nodup := by
    cases outcome with
    | ok cohort => exact List.nodup_nil
    | error failure =>
        unfold abortedBy
        dsimp only
        split
        · exact startedNodup
        · exact List.nodup_nil
  have told : (completion (state.generation + 1) plan.names outcome).countP
      Event.isForceStopped = 0 := by
    cases outcome <;> rfl
  refine ⟨_, _, effect, ?_, ?_⟩
  · intro count present
    rcases List.mem_append.mp present with called | completed
    · exact Event.forceStopped.inj (List.eq_of_mem_replicate called)
    · cases outcome <;> simp [completion] at completed
  · have overtaken : (if launched.forceStopped = true then startedBy outcome else []).count agent =
        (launched.forceStopped && (startedBy outcome).contains agent).toNat := by
      cases launched.forceStopped with
      | false => rfl
      | true => exact count_eq_toNat_contains startedNodup agent
    rw [List.count_append, List.count_append, count_flatten_replicate, roster.nodup.count,
      count_eq_toNat_contains abortedNodup, overtaken, List.countP_append, told,
      List.countP_replicate]
    by_cases present : agent ∈ state.cohort <;>
      simp only [present, Event.isForceStopped, if_true, if_false] <;> omega

/-- What is asked of an agent in the turn of a run. -/
def Run.requests (scenario : Scenario) (agent : AgentId) (run : Run) (state : State) : Nat :=
  (run.progress?.any fun progress => progress.TimesOut agent state).toNat +
    ((run.launch? scenario state).any fun launch =>
      launch.1.forceStopped && (startedBy launch.2).contains agent).toNat +
    ((run.launch? scenario state).any fun launch =>
      (abortedBy scenario.settings.partialLaunch launch.2).contains agent).toNat

theorem Run.Turn.requests
    {scenario : Scenario}
    {state newer : State}
    {run next : Run}
    (turn : run.Turn scenario state next newer)
    (roster : Roster state.cohort state)
    (agent : AgentId) :
    ∃ told asked, Effect told asked state newer ∧
      (∀ count, .forceStopped count ∈ told → count = state.cohort.length) ∧
      asked.count agent =
        (if agent ∈ state.cohort then told.countP Event.isForceStopped else 0) +
          run.requests scenario agent state := by
  -- Beside a launch no turn tells of a force-stop.
  have aside {told : List Event} {asked : List AgentId} (effect : Inner told asked state newer)
      (silent : told.countP Event.isForceStopped = 0)
      (counted : asked.count agent = run.requests scenario agent state) :
      ∃ told asked, Effect told asked state newer ∧
        (∀ count, .forceStopped count ∈ told → count = state.cohort.length) ∧
        asked.count agent =
          (if agent ∈ state.cohort then told.countP Event.isForceStopped else 0) +
            run.requests scenario agent state := by
    refine ⟨told, asked, effect.toEffect, ?_, by rw [silent, ite_self, counted, Nat.zero_add]⟩
    intro count present
    exact absurd (List.countP_eq_zero.mp silent _ present) (by simp [Event.isForceStopped])
  cases turn with
  | launches stage unforced same =>
      subst same
      obtain ⟨told, asked, effect, sized, counted⟩ :=
        requests_launchCohort scenario run.plan roster agent
      refine ⟨told, asked, effect, sized, ?_⟩
      simp [counted, Run.requests, progress?, launch?, stage, unforced, Nat.add_assoc]
  | refuses stage recorded effect _ =>
      refine aside effect ?_ ?_
      · split <;> rfl
      · simp [Run.requests, progress?, launch?, stage, recorded]
  | joins stage joinTurn effect _ =>
      obtain ⟨counted, silent⟩ := joinTurn.count_asked agent
      refine aside effect silent ?_
      simp [counted, Run.requests, progress?, launch?, stage]
  | stops stage joined effect _ | pauses stage joined _ effect _ =>
      refine aside effect rfl ?_
      simp [Run.requests, progress?, launch?, stage, Joining.not_timesOut_of_joined joined]
  | wakes stage _ same =>
      refine aside (.of_eq same) rfl ?_
      simp [Run.requests, progress?, launch?, stage]
  | cutShort stage _ effect _ =>
      refine aside effect rfl ?_
      simp [Run.requests, progress?, launch?, stage]

theorem Wait.Turn.requests
    {scenario : Scenario}
    {state newer : State}
    {wait next : Wait}
    (turn : wait.Turn scenario state next newer)
    (agent : AgentId) :
    ∃ told asked, Effect told asked state newer ∧ told.countP Event.isForceStopped = 0 ∧
      asked.count agent =
        (wait.progress?.any fun progress => progress.TimesOut agent state).toNat := by
  cases turn with
  | looks same => exact ⟨_, _, (Inner.of_eq same).toEffect, rfl, rfl⟩
  | joins joinTurn effect _ =>
      obtain ⟨counted, silent⟩ := joinTurn.count_asked agent
      refine ⟨_, _, effect.toEffect, silent, ?_⟩
      simp [counted, progress?]
  | ends joined same =>
      refine ⟨_, _, (Inner.of_eq same).toEffect, rfl, ?_⟩
      simp [progress?, Joining.not_timesOut_of_joined joined]
  | released _ same => exact ⟨_, _, (Inner.of_eq same).toEffect, rfl, rfl⟩

namespace Deed

/-- An effect asks what a deed asks. -/
structure Accounts (scenario : Scenario) (agent : AgentId) (deed : Deed) : Prop where
  /-- The requests to stop an agent are those that the deed leads to. -/
  stops : deed.after.state.stops agent =
    deed.before.state.stops agent + deed.requests scenario agent
  /-- The listeners are told how large the cohort is that is forced to stop. -/
  told : ∀ count, .forceStopped count ∈ deed.told → count = deed.before.state.cohort.length
  /-- Whoever calls for a force-stop is answered the same. -/
  answers : ∀ count ∈ deed.answers, count = deed.before.state.cohort.length

theorem accounts_of_effect
    {scenario : Scenario}
    {agent : AgentId}
    {deed : Deed}
    {told : List Event}
    {asked : List AgentId}
    (effect : Effect told asked deed.before.state deed.after.state)
    (sized : ∀ count, .forceStopped count ∈ told → count = deed.before.state.cohort.length)
    (counted : deed.told = told → asked.count agent = deed.requests scenario agent) :
    deed.Accounts scenario agent := by
  obtain ⟨added, grown, tells⟩ := effect.journal
  obtain ⟨same, answered⟩ := told_of_tells grown tells
  refine ⟨?_, ?_, fun count present => sized count (answered count present)⟩
  · rw [effect.stops, counted same]
  · rwa [same]

section Requests

variable {scenario : Scenario} {agent : AgentId} {deed : Deed}

theorem requests_of_no_turn (turn : deed.action.joiner? = none) :
    deed.requests scenario agent =
      (if agent ∈ deed.before.state.cohort then deed.forceStops else 0) +
        (deed.asks agent).toNat := by
  simp [requests, timedOut?, overtakes, aborts, launch?, turn]

theorem requests_of_aside (aside : deed.action.IsAside) :
    deed.requests scenario agent =
      if agent ∈ deed.before.state.cohort then deed.forceStops else 0 := by
  simp [requests_of_no_turn aside.1, asks, aside.2]

theorem requests_of_run
    {index : Nat}
    {run : Run}
    (turnOf : deed.action.joiner? = some (.run index))
    (asked : deed.action.asked? = none)
    (found : deed.before.runs[index]? = some run) :
    deed.requests scenario agent =
      (if agent ∈ deed.before.state.cohort then deed.forceStops else 0) +
        run.requests scenario agent deed.before.state := by
  cases late : run.progress?.any fun progress => progress.TimesOut agent deed.before.state <;>
    simp [requests, timedOut?, overtakes, aborts, launch?, asks, turnOf, asked, found,
      System.progress?, Run.requests, late, Nat.add_assoc]

theorem requests_of_wait
    {index : Nat}
    {wait : Wait}
    (turnOf : deed.action.joiner? = some (.wait index))
    (asked : deed.action.asked? = none)
    (found : deed.before.waits[index]? = some wait) :
    deed.requests scenario agent =
      (if agent ∈ deed.before.state.cohort then deed.forceStops else 0) +
        (wait.progress?.any fun progress =>
          progress.TimesOut agent deed.before.state).toNat := by
  cases late : wait.progress?.any fun progress => progress.TimesOut agent deed.before.state <;>
    simp [requests, timedOut?, overtakes, aborts, launch?, asks, turnOf, asked, found,
      System.progress?, late]

end Requests

end Deed

/-- A deed asks an agent to stop for the reasons of the ledger only. -/
theorem Does.accounts
    {scenario : Scenario}
    {deed : Deed}
    (does : Does scenario deed.before deed.action deed.after)
    (rostered : Rostered deed.before)
    (agent : AgentId) :
    deed.Accounts scenario agent := by
  have silent {told : List Event} (none : told.countP Event.isForceStopped = 0) (count : Nat)
      (present : .forceStopped count ∈ told) : count = deed.before.state.cohort.length :=
    absurd (List.countP_eq_zero.mp none _ present) (by simp [Event.isForceStopped])
  cases does with
  | aside aside effect _ _ _ =>
      refine Deed.accounts_of_effect effect.toEffect (silent rfl) fun same => ?_
      simp [Deed.requests_of_aside aside, Deed.forceStops, same]
  | clock aside time _ state _ _ =>
      have grown : deed.after.state.journal = [] ++ deed.before.state.journal := by
        rw [state]
        rfl
      obtain ⟨same, answered⟩ := Deed.told_of_tells grown (tells_nil time)
      refine ⟨?_, same ▸ silent rfl, fun count present => silent rfl count (answered count present)⟩
      simp [Deed.requests_of_aside aside, Deed.forceStops, same, state, stops, member?]
  | stopAgent other asked turn effect _ _ _ =>
      refine Deed.accounts_of_effect effect.toEffect (silent rfl) fun same => ?_
      rw [Deed.requests_of_no_turn turn, Deed.forceStops, same, List.countP_nil, ite_self,
        Nat.zero_add]
      by_cases equal : other = agent
      · subst equal
        by_cases known : other < deed.before.state.members.length <;>
          simp [Deed.asks, asked, known]
      · by_cases known : other < deed.before.state.members.length <;>
          simp [Deed.asks, asked, known, equal]
  | forceStop aside state _ _ =>
      have forces := forces_forceStop rostered.cohort.known
      rw [← state] at forces
      refine Deed.accounts_of_effect forces.effect.toEffect ?_ fun same => ?_
      · intro count present
        exact Event.forceStopped.inj (List.eq_of_mem_replicate present)
      · rw [Deed.requests_of_aside aside, Deed.forceStops, same, count_flatten_replicate,
          rostered.cohort.nodup.count, List.countP_replicate]
        simp [Event.isForceStopped]
  | begin aside _ _ state _ _ | await aside _ _ state _ _ =>
      refine Deed.accounts_of_effect (Inner.of_eq state).toEffect (silent rfl) fun same => ?_
      simp [Deed.requests_of_aside aside, Deed.forceStops, same]
  | run index run later turnOf asked found turn _ _ =>
      obtain ⟨told, requested, effect, sized, counted⟩ := turn.requests rostered.cohort agent
      refine Deed.accounts_of_effect effect sized fun same => ?_
      rw [Deed.requests_of_run turnOf asked found, Deed.forceStops, same, counted]
  | wait index wait later turnOf asked found turn _ _ =>
      obtain ⟨told, requested, effect, none, counted⟩ := turn.requests agent
      refine Deed.accounts_of_effect effect (silent none) fun same => ?_
      rw [Deed.requests_of_wait turnOf asked found, Deed.forceStops, same, counted, none, ite_self,
        Nat.zero_add]

end Supervision
end AgentCohort
