import AgentCohort.Proofs.Supervision.FailedLaunch
import AgentCohort.Proofs.Supervision.ForceStopHandshake
import AgentCohort.Supervision.Report

/-!
# Effects

What an operation tells the listeners, and whom it asks to stop how often.  Both are given
as lists, and the effect of two operations one after the other is that of the lists one
after the other.  An operation happens at one time, keeps the names of the agents, and
leaves the current cohort alone; only a publication replaces it.

A launch may be interrupted by force-stops that its agents call for.  Each of these asks
the agents of the cohort before, tells the listeners of their number, and records itself.
-/

namespace AgentCohort
namespace Supervision

open Network (Binding Endpoint)

/-- What an agent is answered that has called for a force-stop. -/
def Entry.answer? (entry : Entry) : Option Nat :=
  match entry.occurrence with
  | .calledForceStop signalled => some signalled
  | _ => none

namespace Plan

/-- If no attempt fails, agents are made for all names in order. -/
theorem names_attempts
    {scenario : Scenario}
    {plan : Plan}
    {earlier : String → Nat}
    {left : List (String × Endpoint)}
    {made : List Agent.Blueprint}
    (launched : plan.attempts scenario earlier left = made.map .launched) :
    made.map Agent.Blueprint.name = left.map Prod.fst := by
  induction left generalizing earlier made with
  | nil =>
      obtain rfl := List.map_eq_nil_iff.mp launched.symm
      rfl
  | cons first rest inductionHypothesis =>
      obtain ⟨name, endpoint⟩ := first
      cases made with
      | nil => simp [attempts] at launched
      | cons blueprint made =>
          obtain ⟨launchedFirst, launchedRest⟩ := List.cons.inj launched
          have named := names_tried_attempt scenario plan (earlier name) name endpoint []
          rw [launchedFirst] at named
          rw [List.map_cons, List.map_cons, inductionHypothesis launchedRest]
          exact congrArg (· ++ rest.map Prod.fst) named

end Plan

namespace State

/-! ## Events and names -/

/-- The events that the listeners have been told of, the oldest one first. -/
def events (state : State) : List Event :=
  state.journal.reverse.filterMap Entry.event?

/-- The names of the agents in the order of their making. -/
def names (state : State) : List String :=
  state.members.map Member.name

@[simp] theorem length_names (state : State) : state.names.length = state.members.length :=
  List.length_map _

theorem nameOf_eq (state : State) (agent : AgentId) :
    state.nameOf agent = (state.names[agent]?).getD "" := by
  rw [nameOf, names, List.getElem?_map]
  rfl

/-- The names of agents that have been made on top of others. -/
theorem map_nameOf_new
    {older newer : State}
    {names : List String}
    (grown : newer.names = older.names ++ names) :
    (List.range' older.members.length names.length).map newer.nameOf = names := by
  apply List.ext_getElem
  · simp
  · intro place _ inRange
    rw [List.getElem_map, List.getElem_range', nameOf_eq, grown, Nat.one_mul, ← length_names,
      List.getElem?_append_right (Nat.le_add_right _ _), Nat.add_sub_cancel_left,
      List.getElem?_eq_getElem inRange, Option.getD_some]

/-! ## Effects of operations -/

/-- Entries of a journal that were written at one time and tell of some events. -/
structure Tells (told : List Event) (time : Nat) (added : Journal) : Prop where
  /-- All were written at that time. -/
  time : ∀ entry ∈ added, entry.time = time
  /-- They tell of these events, the oldest one first. -/
  events : added.reverse.filterMap Entry.event? = told
  /-- Who calls for a force-stop is answered what the listeners are told. -/
  answered : ∀ entry ∈ added, ∀ count, entry.answer? = some count → .forceStopped count ∈ told

theorem Tells.append
    {told toldLater : List Event}
    {time : Nat}
    {early late : Journal}
    (first : Tells told time early)
    (second : Tells toldLater time late) :
    Tells (told ++ toldLater) time (late ++ early) where
  time entry present := by
    rcases List.mem_append.mp present with inLate | inEarly
    · exact second.time entry inLate
    · exact first.time entry inEarly
  events := by
    rw [List.reverse_append, List.filterMap_append, first.events, second.events]
  answered entry present count answer := by
    rcases List.mem_append.mp present with inLate | inEarly
    · exact List.mem_append_right _ (second.answered entry inLate count answer)
    · exact List.mem_append_left _ (first.answered entry inEarly count answer)

theorem tells_nil (time : Nat) : Tells [] time [] :=
  ⟨nofun, rfl, nofun⟩

/-- On the way from one state to another the listeners are told of some events, and some
agents are asked to stop, each as often as it is listed. -/
structure Effect (told : List Event) (asked : List AgentId) (older newer : State) : Prop where
  /-- The journal tells of it, and of nothing that happened at another time. -/
  journal : ∃ added, newer.journal = added ++ older.journal ∧ Tells told older.now added
  /-- The requests are counted. -/
  stops : ∀ agent, newer.stops agent = older.stops agent + asked.count agent
  /-- The agents keep their names. -/
  names : older.names <+: newer.names
  /-- No time goes by. -/
  now : newer.now = older.now

/-- An effect within one generation. -/
structure Inner (told : List Event) (asked : List AgentId) (older newer : State) : Prop
    extends Effect told asked older newer where
  /-- The current cohort stays. -/
  cohort : newer.cohort = older.cohort
  /-- No generation is counted. -/
  generation : newer.generation = older.generation

namespace Effect

variable {older middle newer : State} {told toldLater : List Event}
  {asked askedLater : List AgentId}

theorem refl (state : State) : Effect [] [] state state where
  journal := ⟨[], rfl, tells_nil _⟩
  stops _ := rfl
  names := List.prefix_rfl
  now := rfl

theorem trans
    (first : Effect told asked older middle)
    (second : Effect toldLater askedLater middle newer) :
    Effect (told ++ toldLater) (asked ++ askedLater) older newer where
  journal := by
    obtain ⟨early, grownEarly, tellsEarly⟩ := first.journal
    obtain ⟨late, grownLate, tellsLate⟩ := second.journal
    rw [first.now] at tellsLate
    refine ⟨late ++ early, ?_, tellsEarly.append tellsLate⟩
    rw [grownLate, grownEarly, List.append_assoc]
  stops agent := by
    rw [second.stops, first.stops, List.count_append, Nat.add_assoc]
  names := first.names.trans second.names
  now := second.now.trans first.now

theorem events (effect : Effect told asked older newer) :
    newer.events = older.events ++ told := by
  obtain ⟨added, grown, tells⟩ := effect.journal
  rw [State.events, grown, List.reverse_append, List.filterMap_append, tells.events]
  rfl

theorem length_le (effect : Effect told asked older newer) :
    older.members.length ≤ newer.members.length := by
  simpa using effect.names.length_le

theorem nameOf
    (effect : Effect told asked older newer)
    {agent : AgentId}
    (known : agent < older.members.length) :
    newer.nameOf agent = older.nameOf agent := by
  obtain ⟨later, grown⟩ := effect.names
  rw [nameOf_eq, nameOf_eq, ← grown, List.getElem?_append_left (by simpa using known)]

end Effect

namespace Inner

variable {older middle newer : State} {told toldLater : List Event}
  {asked askedLater : List AgentId}

theorem refl (state : State) : Inner [] [] state state :=
  ⟨.refl state, rfl, rfl⟩

theorem of_eq (same : newer = older) : Inner [] [] older newer :=
  same ▸ refl newer

theorem trans
    (first : Inner told asked older middle)
    (second : Inner toldLater askedLater middle newer) :
    Inner (told ++ toldLater) (asked ++ askedLater) older newer :=
  ⟨first.toEffect.trans second.toEffect, second.cohort.trans first.cohort,
    second.generation.trans first.generation⟩

end Inner

/-- Writing down anything but an event or the answer to a call for a force-stop. -/
theorem inner_note
    {occurrence : Occurrence}
    (silent : Entry.event? ⟨0, occurrence⟩ = none)
    (answerless : Entry.answer? ⟨0, occurrence⟩ = none)
    (state : State) :
    Inner [] [] state (state.note occurrence) where
  journal := by
    refine ⟨[⟨state.now, occurrence⟩], rfl, by simp, by simpa [Entry.event?] using silent, ?_⟩
    intro entry present count answer
    obtain rfl := List.mem_singleton.mp present
    exact absurd (answer.symm.trans answerless) nofun
  stops _ := rfl
  names := List.prefix_rfl
  now := rfl
  cohort := rfl
  generation := rfl

theorem inner_log (notice : Notice) (state : State) : Inner [] [] state (state.log notice) :=
  inner_note rfl rfl state

theorem inner_announce (event : Event) (state : State) :
    Inner [event] [] state (state.announce event) where
  journal := ⟨[⟨state.now, .event event⟩], rfl, by simp, rfl, by simp [Entry.answer?]⟩
  stops _ := rfl
  names := List.prefix_rfl
  now := rfl
  cohort := rfl
  generation := rfl

theorem inner_update
    {change : Member → Member}
    (keepsName : ∀ member, (change member).name = member.name)
    (keepsStops : ∀ member, (change member).stops = member.stops)
    (agent : AgentId)
    (state : State) :
    Inner [] [] state (state.update agent change) where
  journal := ⟨[], rfl, tells_nil _⟩
  stops := stops_update keepsStops state
  names := by
    have kept : (state.update agent change).names = state.names :=
      names_update keepsName agent state
    exact kept ▸ List.prefix_rfl
  now := rfl
  cohort := rfl
  generation := rfl

theorem inner_endAgent (agent : AgentId) (state : State) :
    Inner [] [] state (state.endAgent agent) := by
  unfold endAgent
  split
  · exact .refl state
  split
  · exact .refl state
  · refine (inner_update ?_ ?_ agent state).trans (inner_note rfl rfl _) <;> exact fun member => rfl

theorem inner_endAgentAfter (agent : AgentId) (delay : Nat) (state : State) :
    Inner [] [] state (state.endAgentAfter agent delay) := by
  unfold endAgentAfter
  split
  · exact inner_endAgent agent state
  · refine inner_update ?_ ?_ agent state <;> exact fun member => rfl

theorem inner_asked
    {agent : AgentId}
    {state : State}
    (known : agent < state.members.length) :
    Inner [] [agent] state (state.asked agent) where
  journal := ⟨[⟨state.now, .stop agent⟩], rfl, by simp, rfl, by simp [Entry.answer?]⟩
  stops other := by
    by_cases same : agent = other
    · subst same
      rw [stops_asked known, List.count_singleton_self]
    · simp [stops, asked, member?_update, same]
  names := by
    have kept : (state.asked agent).names = state.names := names_update (by simp) agent state
    exact kept ▸ List.prefix_rfl
  now := rfl
  cohort := rfl
  generation := rfl

/-- A request reaches an agent that has been made. -/
theorem inner_stopAgent
    {agent : AgentId}
    {state : State}
    (known : agent < state.members.length) :
    Inner [] [agent] state (state.stopAgent agent) := by
  have found : state.member? agent = some state.members[agent] :=
    List.getElem?_eq_getElem known
  rw [stopAgent_of_member found]
  split
  · exact inner_asked known
  · exact (inner_asked known).trans (inner_endAgentAfter agent _ _)

theorem inner_stopAgents
    {agents : List AgentId}
    {state : State}
    (known : ∀ agent ∈ agents, agent < state.members.length) :
    Inner [] agents state (state.stopAgents agents) := by
  induction agents generalizing state with
  | nil => exact .refl state
  | cons agent agents inductionHypothesis =>
      have first := inner_stopAgent (known agent List.mem_cons_self)
      have rest := inductionHypothesis fun other present =>
        Nat.lt_of_lt_of_le (known other (List.mem_cons_of_mem _ present)) first.length_le
      exact first.trans rest

/-- If a force-stop has been recorded, a publication asks the new agents to stop. -/
theorem effect_publish
    {cohort : List AgentId}
    {state : State}
    (known : ∀ agent ∈ cohort, agent < state.members.length) :
    Effect [] (if state.forceStopped then cohort else []) state (state.publish cohort) := by
  have replacing : Effect [] [] state
      { state with cohort := cohort, generation := state.generation + 1 } :=
    { Effect.refl state with }
  let replaced := { state with cohort := cohort, generation := state.generation + 1 }
  have asking : Inner [] cohort replaced
      ((replaced.log (.overtaken (state.generation + 1) cohort)).stopAgents cohort) :=
    (inner_log _ replaced).trans (inner_stopAgents known)
  unfold publish
  dsimp only
  split
  · exact replacing.trans asking.toEffect
  · exact replacing

/-! ## Force-stops -/

/-- On the way from one state to another some number of force-stops have been called for,
and the agents of the current cohort have been asked to stop by each of them. -/
structure Forces (calls : Nat) (older newer : State) : Prop where
  /-- Each call asks the whole cohort, and tells of its size. -/
  effect : Inner (List.replicate calls (.forceStopped older.cohort.length))
    (List.replicate calls older.cohort).flatten older newer
  /-- Each call records a force-stop. -/
  forceStopped : newer.forceStopped = true ↔ older.forceStopped = true ∨ 0 < calls

theorem Inner.forces
    {older newer : State}
    (effect : Inner [] [] older newer)
    (unforced : newer.forceStopped = older.forceStopped) :
    Forces 0 older newer :=
  ⟨effect, by simp [unforced]⟩

namespace Forces

variable {older middle newer : State} {calls callsLater : Nat}

theorem trans
    (first : Forces calls older middle)
    (second : Forces callsLater middle newer) :
    Forces (calls + callsLater) older newer where
  effect := by
    have both := first.effect.trans second.effect
    rw [first.effect.cohort, ← List.flatten_append] at both
    simpa only [List.replicate_append_replicate] using both
  forceStopped := by
    rw [second.forceStopped, first.forceStopped, or_assoc, Nat.add_pos_iff_pos_or_pos]

/-- The current cohort is made up of agents that have been made. -/
theorem known
    (forces : Forces calls older newer)
    (known : ∀ agent ∈ older.cohort, agent < older.members.length) :
    ∀ agent ∈ newer.cohort, agent < newer.members.length := by
  intro agent present
  rw [forces.effect.cohort] at present
  exact Nat.lt_of_lt_of_le (known agent present) forces.effect.length_le

end Forces

theorem forceStopped_forceStop (state : State) : state.forceStop.forceStopped = true := by
  have recorded (noted : State) (marked : noted.forceStopped = true) :
      ((noted.stopAgents state.cohort).announce
        (.forceStopped state.cohort.length)).forceStopped = true :=
    (quiet_stopAgents state.cohort noted).unforced.trans marked
  unfold forceStop
  dsimp only
  split <;> exact recorded _ rfl

theorem forces_forceStop
    {state : State}
    (known : ∀ agent ∈ state.cohort, agent < state.members.length) :
    Forces 1 state state.forceStop where
  effect := by
    let recorded := { state with forceStopped := true }.log (.forceStop state.cohort)
    have marking : Inner [] [] state { state with forceStopped := true } :=
      { Inner.refl state with }
    have asking {noted : State} (noting : Inner [] [] recorded noted) :
        Inner [.forceStopped state.cohort.length] (state.cohort ++ []) state
          ((noted.stopAgents state.cohort).announce (.forceStopped state.cohort.length)) := by
      have before : Inner [] [] state noted :=
        (marking.trans (inner_log (.forceStop state.cohort) _)).trans noting
      have asked : Inner [] state.cohort noted (noted.stopAgents state.cohort) :=
        inner_stopAgents fun agent present =>
          Nat.lt_of_lt_of_le (known agent present) before.length_le
      exact (before.trans asked).trans (inner_announce _ _)
    unfold forceStop
    dsimp only
    split
    · exact asking (inner_log .forceStopRepeated recorded)
    · exact asking (.refl recorded)
  forceStopped := by simp [forceStopped_forceStop]

/-- Who calls for a force-stop is answered the number that the listeners are told. -/
theorem forces_calledForceStop
    {state : State}
    (known : ∀ agent ∈ state.cohort, agent < state.members.length) :
    Forces 1 state state.calledForceStop := by
  obtain ⟨effect, recorded⟩ := forces_forceStop known
  obtain ⟨added, grown, tells⟩ := effect.journal
  refine ⟨{ effect with journal := ⟨_ :: added, congrArg _ grown, ?_, ?_, ?_⟩ }, recorded⟩
  · intro entry present
    rcases List.mem_cons.mp present with rfl | inAdded
    · exact effect.now
    · exact tells.time entry inAdded
  · rw [List.reverse_cons, List.filterMap_append, tells.events]
    rfl
  · intro entry present count answer
    rcases List.mem_cons.mp present with rfl | inAdded
    · obtain rfl := Option.some.inj answer
      exact List.mem_singleton_self _
    · exact tells.answered entry inAdded count answer

theorem forces_callForceStopsAt
    (moment : LaunchMoment)
    (behaviour : Behaviour)
    {state : State}
    (known : ∀ agent ∈ state.cohort, agent < state.members.length) :
    ∃ calls, Forces calls state (state.callForceStopsAt moment behaviour) := by
  unfold callForceStopsAt
  induction behaviour.forceStops.count moment with
  | zero => exact ⟨0, (Inner.refl state).forces rfl⟩
  | succ count inductionHypothesis =>
      obtain ⟨calls, forces⟩ := inductionHypothesis
      exact ⟨calls + 1, forces.trans (forces_calledForceStop (forces.known known))⟩

/-! ## Launches -/

theorem inner_withMember_fresh (name : String) (behaviour : Behaviour) (state : State) :
    Inner [] [] state (state.withMember (.fresh name behaviour)) where
  journal := ⟨[], rfl, tells_nil _⟩
  stops := view_member?_withMember_fresh rfl state
  names := ⟨[name], by simp [names, withMember, Member.fresh]⟩
  now := rfl
  cohort := rfl
  generation := rfl

section Launch

variable {state : State} (known : ∀ agent ∈ state.cohort, agent < state.members.length)

include known

theorem forces_createAgent (scenario : Scenario) (blueprint : Agent.Blueprint) :
    ∃ calls, Forces calls state (state.createAgent scenario blueprint).1 := by
  let behaviour := scenario.behaviour blueprint (state.journal.creations blueprint.name)
  have noted : Forces 0 state (state.note (.create blueprint)) := (inner_note rfl rfl _).forces rfl
  obtain ⟨calls, forces⟩ := forces_callForceStopsAt .creation behaviour (noted.known known)
  have called := noted.trans forces
  unfold createAgent
  dsimp only
  split
  · exact ⟨_, called⟩
  · exact ⟨_, called.trans ((inner_withMember_fresh _ _ _).forces rfl)⟩

theorem forces_startAgent (agent : AgentId) (behaviour : Behaviour) :
    ∃ calls, Forces calls state (state.startAgent agent behaviour).1 := by
  have asking : Inner [] [] state (state.startAsked agent) :=
    (inner_update (by simp) (by simp) agent state).trans (inner_note rfl rfl _)
  have asked : Forces 0 state (state.startAsked agent) := asking.forces rfl
  obtain ⟨calls, forces⟩ := forces_callForceStopsAt .start behaviour (asked.known known)
  have called := asked.trans forces
  have succeeding (state : State) : Inner [] [] state (state.startSucceeded agent) :=
    inner_update (by simp) (by simp) agent state
  have launched := called.trans ((succeeding _).forces rfl)
  cases refuses : behaviour.startFailure? with
  | some failure =>
      simp only [startAgent, refuses]
      exact ⟨_, called⟩
  | none =>
      cases ends : behaviour.endsAfter? with
      | none =>
          simp only [startAgent, refuses, ends]
          exact ⟨_, launched⟩
      | some delay =>
          simp only [startAgent, refuses, ends]
          exact ⟨_, launched.trans ((inner_endAgentAfter agent delay _).forces
            (quiet_endAgentAfter agent delay _).unforced)⟩

theorem forces_launchOne
    (scenario : Scenario)
    (plan : Plan)
    (name : String)
    (endpoint : Endpoint) :
    ∃ calls, Forces calls state (state.launchOne scenario plan name endpoint).1 := by
  let logged := state.log (.starting name endpoint.messagePort endpoint.uiPort?)
  have noted : Forces 0 state logged := (inner_log _ state).forces rfl
  cases resolved : Binding.resolve scenario.platform.resolver scenario.platform.primary
      plan.base.listenAddress? endpoint.messagePort with
  | error failure =>
      simp only [launchOne, resolved]
      exact ⟨0, noted⟩
  | ok binding =>
      obtain ⟨calls, making⟩ := forces_createAgent (noted.known known) scenario
        ⟨name, binding, plan.orchestrator, endpoint.uiPort?⟩
      have created := noted.trans making
      rcases made : logged.createAgent scenario
        ⟨name, binding, plan.orchestrator, endpoint.uiPort?⟩ with ⟨next, outcome⟩
      rw [made] at created
      cases outcome with
      | error failure =>
          simp only [launchOne, resolved]
          rw [made]
          exact ⟨_, created⟩
      | ok agent =>
          obtain ⟨callsLater, starting⟩ := forces_startAgent (created.known known) agent
            (((next.member? agent).map Member.behaviour).getD .standard)
          have started := created.trans starting
          simp only [launchOne, resolved]
          rw [made]
          dsimp only
          split <;> rename_i same
          · rw [same] at started
            exact ⟨_, started⟩
          · rw [same] at started
            exact ⟨_, started⟩

/-- Force-stops may be called for during a launch; the end of one that fails comes after
them. -/
theorem forces_launchRest
    (scenario : Scenario)
    (plan : Plan)
    (started : List AgentId)
    (left : List (String × Endpoint)) :
    ∃ calls ended, Forces calls state ended ∧
      match state.launchRest scenario plan started left with
      | (launched, .ok _) => launched = ended
      | (failed, .error outcome) =>
        failed = ended.abortLaunch scenario.settings.partialLaunch outcome.started := by
  induction left generalizing started state with
  | nil => exact ⟨0, _, (inner_log _ state).forces rfl, rfl⟩
  | cons first rest inductionHypothesis =>
      obtain ⟨name, endpoint⟩ := first
      obtain ⟨calls, forces⟩ := forces_launchOne known scenario plan name endpoint
      rcases one : state.launchOne scenario plan name endpoint with ⟨next, outcome⟩
      rw [one] at forces
      cases outcome with
      | error failure =>
          simp only [launchRest, one]
          exact ⟨_, _, forces.trans ((inner_log (.launchFailed name failure) next).forces rfl),
            rfl⟩
      | ok agent =>
          obtain ⟨callsLater, ended, forcesLater, same⟩ :=
            inductionHypothesis (forces.known known) (started ++ [agent])
          simp only [launchRest, one]
          exact ⟨_, ended, forces.trans forcesLater, same⟩

end Launch

/-- Whom a launch has started, whether it is complete or not. -/
def startedBy : Except LaunchFailure (List AgentId) → List AgentId
  | .ok cohort => cohort
  | .error failure => failure.started

/-- Whom a launch asks to stop at its end: those that it has started, if it fails and the
policy says so. -/
def abortedBy (policy : PartialLaunch) : Except LaunchFailure (List AgentId) → List AgentId
  | .ok _ => []
  | .error failure => if policy = .stopStarted then failure.started else []

theorem inner_abortLaunch
    (policy : PartialLaunch)
    {started : List AgentId}
    {state : State}
    (known : ∀ agent ∈ started, agent < state.members.length) :
    Inner [] (if policy = .stopStarted then started else []) state
      (state.abortLaunch policy started) := by
  cases started with
  | nil =>
      rw [ite_self]
      exact .refl state
  | cons first rest =>
      have noted := inner_log (.launchAborted policy (first :: rest)) state
      cases policy with
      | leaveRunning => exact noted
      | stopStarted => exact noted.trans (inner_stopAgents known)

/-- The end of a launch makes no agents. -/
theorem length_members_abortLaunch
    (policy : PartialLaunch)
    (started : List AgentId)
    (state : State) :
    (state.abortLaunch policy started).members.length = state.members.length := by
  unfold abortLaunch
  split
  · rfl
  · cases policy with
    | leaveRunning => rfl
    | stopStarted =>
        exact (asks_stopAgents started (state.log (.launchAborted _ started))).length_members

/-- What a launch does: force-stops may be called for while it goes on, it starts new agents,
numbered in order, and asks some of them to stop at its end. -/
structure Launches
    (scenario : Scenario)
    (plan : Plan)
    (older launched : State)
    (outcome : Except LaunchFailure (List AgentId)) : Prop where
  /-- The agents that it starts are new. -/
  started : ∃ count, startedBy outcome = List.range' older.members.length count
  /-- They have been made. -/
  known : ∀ agent ∈ startedBy outcome, agent < launched.members.length
  /-- If it is complete, they have the names of the plan. -/
  named : ∀ cohort, outcome = .ok cohort → cohort.map launched.nameOf = plan.names
  /-- The requests to stop are those of force-stops and of its end. -/
  effect : ∃ calls,
    Inner (List.replicate calls (.forceStopped older.cohort.length))
      ((List.replicate calls older.cohort).flatten ++
        abortedBy scenario.settings.partialLaunch outcome) older launched ∧
    (launched.forceStopped = true ↔ older.forceStopped = true ∨ 0 < calls)

theorem launches_launch
    (scenario : Scenario)
    (plan : Plan)
    {state : State}
    (known : ∀ agent ∈ state.cohort, agent < state.members.length) :
    Launches scenario plan state (state.launch scenario plan).1
      (state.launch scenario plan).2 := by
  cases allocated : plan.base.allocate plan.names with
  | error failure =>
      simp only [launch, allocated]
      have nothing : Inner [] [] state state := .refl state
      exact ⟨⟨0, rfl⟩, by simp [startedBy], by simp, 0, by simpa [abortedBy] using nothing,
        by simp⟩
  | ok endpoints =>
      obtain ⟨calls, ended, forces, same⟩ :=
        forces_launchRest known scenario plan [] (plan.names.zip endpoints)
      have attempting := attempts_launchRest scenario plan [] (plan.names.zip endpoints) state
      simp only [launch, allocated]
      rcases rest : state.launchRest scenario plan [] (plan.names.zip endpoints) with
        ⟨next, outcome⟩
      rw [rest] at attempting same
      cases outcome with
      | ok cohort =>
          obtain ⟨made, attempts, startedAll, stopped, deals, _⟩ := attempting
          rw [List.nil_append] at startedAll
          subst startedAll same
          refine ⟨⟨made.length, rfl⟩, ?_, ?_, calls, ?_, forces.forceStopped⟩
          · intro agent present
            rw [deals.length_members]
            exact (List.mem_range'_1.mp present).2
          · rintro _ ⟨⟩
            have named := Plan.names_attempts attempts
            have counted := Network.EndpointBase.length_of_allocate allocated
            rw [List.map_fst_zip (Nat.le_of_eq counted.symm)] at named
            have new := map_nameOf_new deals.names
            rwa [named, ← named, List.length_map, named] at new
          · rw [abortedBy, List.append_nil]
            exact forces.effect
      | error outcome =>
          obtain ⟨made, attempt, _, stuck, _, _, startedAll, attempting, failed⟩ := attempting
          rw [List.nil_append] at startedAll
          have known : ∀ agent ∈ outcome.started, agent < next.members.length := by
            intro agent present
            rw [startedAll] at present
            have inRange := (List.mem_range'_1.mp present).2
            have counted : next.members.length =
                state.members.length + (made ++ attempt.made).length := by
              rw [failed, length_members_abortLaunch, attempting.length_members]
            rw [List.length_append] at counted
            exact Nat.lt_of_lt_of_le inRange (by omega)
          subst same
          have ending := inner_abortLaunch scenario.settings.partialLaunch
            (fun agent present => length_members_abortLaunch _ _ ended ▸ known agent present)
          have unforced := (quiet_abortLaunch scenario.settings.partialLaunch outcome.started
            ended).unforced
          refine ⟨⟨_, startedAll⟩, known, by simp, calls, ?_, ?_⟩
          · rw [← List.append_nil (List.replicate calls _)]
            exact forces.effect.trans ending
          · rw [unforced]
            exact forces.forceStopped

/-! ## Publications -/

/-- Whether a launch is published: it is complete, or it has started somebody. -/
def isPublished : Except LaunchFailure (List AgentId) → Bool
  | .ok _ => true
  | .error failure => !failure.started.isEmpty

/-- What the listeners are told of a launch. -/
def completion (generation : Nat) (names : List String) :
    Except LaunchFailure (List AgentId) → List Event
  | .ok _ => [.cohortStarted generation names]
  | .error _ => []

/-- What follows a launch: the agents that it has started become the current cohort, and are
asked to stop if a force-stop has been recorded by then. -/
structure Publishes
    (plan : Plan)
    (launched newer : State)
    (outcome : Except LaunchFailure (List AgentId)) : Prop where
  /-- The listeners are told if the launch is complete. -/
  effect : Effect (completion (launched.generation + 1) plan.names outcome)
    (if launched.forceStopped then startedBy outcome else []) launched newer
  /-- The record of a force-stop stays as it is. -/
  unforced : newer.forceStopped = launched.forceStopped
  /-- The started agents are the current cohort. -/
  cohort : newer.cohort = if isPublished outcome then startedBy outcome else launched.cohort
  /-- Their generation is counted. -/
  generation : newer.generation =
    if isPublished outcome then launched.generation + 1 else launched.generation

theorem generation_publish (cohort : List AgentId) (state : State) :
    (state.publish cohort).generation = state.generation + 1 := by
  obtain ⟨_, asking⟩ := asks_publish cohort state
  exact asking.generation

/-- The launch of a cohort is a launch with what follows it. -/
theorem publishes_launchCohort
    (scenario : Scenario)
    (plan : Plan)
    {state : State}
    (known : ∀ agent ∈ state.cohort, agent < state.members.length) :
    Publishes plan (state.launch scenario plan).1 (state.launchCohort scenario plan).1
      (state.launch scenario plan).2 := by
  have launches := launches_launch scenario plan known
  rcases launched : state.launch scenario plan with ⟨next, outcome⟩
  rw [launched] at launches
  cases outcome with
  | ok cohort =>
      have publishing := effect_publish launches.known
      have named : cohort.map (next.publish cohort).nameOf = plan.names := by
        rw [← launches.named cohort rfl]
        exact List.map_congr_left fun agent present =>
          publishing.nameOf (launches.known agent present)
      have announcing := inner_announce
        (.cohortStarted (next.publish cohort).generation plan.names) (next.publish cohort)
      simp only [launchCohort, launched, named]
      refine ⟨?_, (published_publish cohort next).unforced,
        (published_publish cohort next).current, generation_publish cohort next⟩
      have both := publishing.trans announcing.toEffect
      rw [List.nil_append, List.append_nil, generation_publish] at both
      rw [generation_publish]
      exact both
  | error failure =>
      obtain ⟨started, failure⟩ := failure
      cases started with
      | nil =>
          simp only [launchCohort, launched, List.isEmpty_nil, if_true]
          refine ⟨?_, rfl, rfl, rfl⟩
          rw [startedBy, ite_self]
          exact .refl next
      | cons first rest =>
          have publishing := effect_publish launches.known
          have logging := inner_log
            (.launchedPartially (next.publish (first :: rest)).generation)
            (next.publish (first :: rest))
          simp only [launchCohort, launched, List.isEmpty_cons]
          refine ⟨?_, (published_publish (first :: rest) next).unforced,
            (published_publish (first :: rest) next).current,
            generation_publish (first :: rest) next⟩
          rw [← List.append_nil (if next.forceStopped then _ else _)]
          exact publishing.trans logging.toEffect

/-- What the launch of a cohort tells and asks, from its beginning to its publication. -/
theorem effect_launchCohort
    (scenario : Scenario)
    (plan : Plan)
    {state : State}
    (known : ∀ agent ∈ state.cohort, agent < state.members.length) :
    let launch := state.launch scenario plan
    let newer := (state.launchCohort scenario plan).1
    ∃ calls, Effect
      (List.replicate calls (.forceStopped state.cohort.length) ++
        completion (state.generation + 1) plan.names launch.2)
      ((List.replicate calls state.cohort).flatten ++
        abortedBy scenario.settings.partialLaunch launch.2 ++
          if launch.1.forceStopped then startedBy launch.2 else []) state newer ∧
      (newer.forceStopped = true ↔ state.forceStopped = true ∨ 0 < calls) := by
  have launches := launches_launch scenario plan known
  have publishes := publishes_launchCohort scenario plan known
  obtain ⟨calls, launching, recorded⟩ := launches.effect
  have publishing := publishes.effect
  rw [launching.generation] at publishing
  refine ⟨calls, launching.toEffect.trans publishing, ?_⟩
  rw [publishes.unforced]
  exact recorded

/-- A complete launch leaves a cohort with the names of its plan. -/
theorem map_nameOf_launchCohort
    {scenario : Scenario}
    {plan : Plan}
    {state : State}
    {cohort : List AgentId}
    (known : ∀ agent ∈ state.cohort, agent < state.members.length)
    (complete : (state.launch scenario plan).2 = .ok cohort) :
    cohort.map (state.launchCohort scenario plan).1.nameOf = plan.names := by
  have launches := launches_launch scenario plan known
  have publishes := publishes_launchCohort scenario plan known
  rw [← launches.named cohort complete]
  refine List.map_congr_left fun agent present => publishes.effect.nameOf ?_
  exact launches.known agent (by rw [complete]; exact present)

end State
end Supervision
end AgentCohort
