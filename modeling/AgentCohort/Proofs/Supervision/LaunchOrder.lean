import AgentCohort.Proofs.Network.Allocation
import AgentCohort.Proofs.Supervision.Effects

/-!
# The order of a launch

All launches of a plan are made from the same list of blueprints: the agent at a position has
the name of that position, and the ports that many places after the bases.  A launch goes
through this list from its beginning, up to the first attempt that fails, and a complete one
starts each agent before the next one is made.

What a launch asks for is read off the history.  Force-stops that come in between ask for
nothing that belongs to a launch, so they can be passed over.
-/

namespace AgentCohort
namespace Supervision

open Agent (Blueprint)
open Network (Binding Endpoint EndpointBase IpAddress)
open State

/-! ## The blueprints of a plan -/

namespace Plan

/-- What the agent at a position of the launch list is to be made from, if it listens on a
given address. -/
def blueprint (plan : Plan) (ip : IpAddress) (index : Nat) (name : String) : Blueprint :=
  ⟨name, ⟨ip, .ofNat (plan.base.basePort.toNat + index)⟩, plan.orchestrator,
    plan.base.baseUiPort?.map fun port => .ofNat (port.toNat + index)⟩

/-- What the agents are to be made from, in launch order. -/
def blueprints (plan : Plan) (ip : IpAddress) : List Blueprint :=
  plan.names.mapIdx (plan.blueprint ip)

/-- Whether the listen address stands for a given one, whatever the port is. -/
def ListensOn (scenario : Scenario) (ip : IpAddress) (plan : Plan) : Prop :=
  ∀ port, Binding.resolve scenario.platform.resolver scenario.platform.primary
    plan.base.listenAddress? port = .ok ⟨ip, port⟩

/-- What an agent with an endpoint is to be made from. -/
def placed (plan : Plan) (ip : IpAddress) (entry : String × Endpoint) : Blueprint :=
  ⟨entry.1, ⟨ip, entry.2.messagePort⟩, plan.orchestrator, entry.2.uiPort?⟩

@[simp] theorem length_blueprints (plan : Plan) (ip : IpAddress) :
    (plan.blueprints ip).length = plan.names.length :=
  List.length_mapIdx

section Allocated

variable {plan : Plan} {endpoints : List Endpoint}
  (allocated : plan.base.allocate plan.names = .ok endpoints)
include allocated

/-- The endpoints of the launch list give its blueprints. -/
theorem map_placed_of_allocate (ip : IpAddress) :
    (plan.names.zip endpoints).map (plan.placed ip) = plan.blueprints ip := by
  have counted := EndpointBase.length_of_allocate allocated
  refine List.ext_getElem (by simp [counted]) fun index inRange _ => ?_
  have known : index < endpoints.length := by
    simp only [List.length_map, List.length_zip] at inRange
    omega
  have ports := EndpointBase.ports_of_endpoint
    (EndpointBase.endpoint_getElem_of_allocate allocated known)
  have message : endpoints[index].messagePort = .ofNat (plan.base.basePort.toNat + index) := by
    rw [← ports.1, UInt16.ofNat_toNat]
  have interface : endpoints[index].uiPort? =
      plan.base.baseUiPort?.map fun port => .ofNat (port.toNat + index) := by
    have words := congrArg (Option.map UInt16.ofNat) ports.2
    rw [Option.map_map, Option.map_map] at words
    simpa [Function.comp_def] using words
  simp only [List.getElem_map, List.getElem_zip, blueprints, List.getElem_mapIdx]
  rw [placed, blueprint, message, interface]

/-- No port of a blueprint lies beyond the last one. -/
theorem ports_of_prefix
    {ip : IpAddress}
    {created : List Blueprint}
    (early : created <+: plan.blueprints ip)
    (index : Nat)
    (blueprint : Blueprint)
    (found : created[index]? = some blueprint) :
    blueprint.binding.port.toNat = plan.base.basePort.toNat + index ∧
      blueprint.uiPort?.map UInt16.toNat = plan.base.baseUiPort?.map (·.toNat + index) := by
  obtain ⟨late, same⟩ := early
  have inRange := (List.getElem?_eq_some_iff.mp found).1
  rw [← List.getElem?_append_left inRange, same, ← map_placed_of_allocate allocated,
    List.getElem?_map] at found
  obtain ⟨⟨name, endpoint⟩, atIndex, rfl⟩ := Option.map_eq_some_iff.mp found
  obtain ⟨_, given⟩ := List.getElem?_zip_eq_some.mp atIndex
  obtain ⟨known, rfl⟩ := List.getElem?_eq_some_iff.mp given
  exact EndpointBase.ports_of_endpoint
    (EndpointBase.endpoint_getElem_of_allocate allocated known)

end Allocated

section Listening

variable {scenario : Scenario} {plan : Plan} {ip : IpAddress}
  (listens : plan.ListensOn scenario ip)
include listens

theorem tried_attempt
    (earlier : Nat)
    (name : String)
    (endpoint : Endpoint) :
    (plan.attempt scenario earlier name endpoint).tried = [plan.placed ip (name, endpoint)] := by
  simp only [attempt, listens endpoint.messagePort, Attempt.ofBehaviour]
  split <;> rfl

theorem map_tried_attempts (earlier : String → Nat) (left : List (String × Endpoint)) :
    (plan.attempts scenario earlier left).map Attempt.tried =
      left.map fun entry => [plan.placed ip entry] := by
  induction left generalizing earlier with
  | nil => rfl
  | cons first rest inductionHypothesis =>
      obtain ⟨name, endpoint⟩ := first
      rw [attempts, List.map_cons, tried_attempt listens, inductionHypothesis]
      rfl

section Split

variable {endpoints : List Endpoint} {earlier : String → Nat} {made : List Blueprint}
  {left : List Attempt}
  (split : plan.attempts scenario earlier (plan.names.zip endpoints) =
    made.map .launched ++ left)
include split

/-- The agents that have been made, and those that are left, have the blueprints in order. -/
theorem blueprints_of_attempts (allocated : plan.base.allocate plan.names = .ok endpoints) :
    plan.blueprints ip = made ++ left.flatMap Attempt.tried := by
  have all := congrArg List.flatten (map_tried_attempts listens earlier
    (plan.names.zip endpoints))
  rw [split, List.map_append, List.flatten_append] at all
  have launched : ((made.map Attempt.launched).map Attempt.tried).flatten = made := by
    rw [List.map_map, ← List.flatMap_def]
    exact (List.flatMap_pure_eq_map id made).trans (List.map_id made)
  rw [launched, ← List.flatMap_def, ← List.flatMap_def, ← List.map_eq_flatMap,
    map_placed_of_allocate allocated] at all
  exact all.symm

/-- Each attempt is about one agent. -/
theorem length_tried_of_attempts
    {attempt : Attempt}
    (present : attempt ∈ left) :
    attempt.tried.length = 1 := by
  have among : attempt.tried ∈
      (plan.attempts scenario earlier (plan.names.zip endpoints)).map Attempt.tried := by
    rw [split]
    exact List.mem_map_of_mem (List.mem_append_right _ present)
  rw [map_tried_attempts listens] at among
  obtain ⟨_, _, same⟩ := List.mem_map.mp among
  rw [← same]
  rfl

end Split
end Listening
end Plan

/-! ## Calls -/

/-- What a launch asks for. -/
inductive LaunchCall where
  /-- An agent is to be made. -/
  | create (blueprint : Blueprint)
  /-- An agent is to be started. -/
  | start (agent : AgentId)
  deriving DecidableEq

namespace LaunchCall

/-- What an agent is to be made from. -/
def created? : LaunchCall → Option Blueprint
  | .create blueprint => some blueprint
  | .start _ => none

/-- The agent that is to be started. -/
def started? : LaunchCall → Option AgentId
  | .start agent => some agent
  | .create _ => none

/-- An agent is made and started at once. -/
def launch (blueprint : Blueprint) (agent : AgentId) : List LaunchCall :=
  [.create blueprint, .start agent]

end LaunchCall

/-- What a launch asks for, in one view. -/
def Occurrence.launchCall? : Occurrence → Option LaunchCall
  | .create blueprint => some (.create blueprint)
  | .start agent => some (.start agent)
  | _ => none

theorem filterMap_created?_calls (history : List Occurrence) :
    (calls Occurrence.launchCall? history).filterMap LaunchCall.created? =
      calls Occurrence.created? history := by
  rw [calls, calls, List.filterMap_filterMap]
  congr 1
  funext occurrence
  cases occurrence <;> rfl

theorem filterMap_started?_calls (history : List Occurrence) :
    (calls Occurrence.launchCall? history).filterMap LaunchCall.started? =
      calls Occurrence.started? history := by
  rw [calls, calls, List.filterMap_filterMap]
  congr 1
  funext occurrence
  cases occurrence <;> rfl

theorem eq_map_create_of_filterMap_started?
    {called : List LaunchCall}
    (none : called.filterMap LaunchCall.started? = []) :
    called = (called.filterMap LaunchCall.created?).map .create := by
  induction called with
  | nil => rfl
  | cons call called inductionHypothesis =>
      cases call with
      | create blueprint => exact congrArg (_ :: ·) (inductionHypothesis none)
      | start agent => cases none

theorem eq_map_start_of_filterMap_created?
    {called : List LaunchCall}
    (none : called.filterMap LaunchCall.created? = []) :
    called = (called.filterMap LaunchCall.started?).map .start := by
  induction called with
  | nil => rfl
  | cons call called inductionHypothesis =>
      cases call with
      | create blueprint => cases none
      | start agent => exact congrArg (_ :: ·) (inductionHypothesis none)

namespace State

/-- What is asked for on the way from one state to another, the oldest call first. -/
def CallsFor (called : List LaunchCall) (older newer : State) : Prop :=
  ∃ added, newer.history = added ++ older.history ∧
    calls Occurrence.launchCall? added = called

namespace CallsFor

variable {older middle newer : State} {called calledLater : List LaunchCall}

theorem refl (state : State) : CallsFor [] state state :=
  ⟨[], rfl, rfl⟩

theorem trans
    (first : CallsFor called older middle)
    (second : CallsFor calledLater middle newer) :
    CallsFor (called ++ calledLater) older newer := by
  obtain ⟨early, grownEarly, rfl⟩ := first
  obtain ⟨late, grownLate, rfl⟩ := second
  exact ⟨late ++ early, by rw [grownLate, grownEarly, List.append_assoc], calls_append _ _ _⟩

theorem trans_aside
    (first : CallsFor called older middle)
    (second : CallsFor [] middle newer) :
    CallsFor called older newer := by
  have both := first.trans second
  rwa [List.append_nil] at both

end CallsFor

/-- What is no part of a launch asks for nothing that belongs to one. -/
theorem Grows.asksForNothing
    {older newer : State}
    (grows : Grows Occurrence.IsQuiet older newer) :
    CallsFor [] older newer := by
  obtain ⟨added, grown, quiet⟩ := grows.history
  refine ⟨added, grown, ?_⟩
  rw [calls, List.filterMap_eq_nil_iff]
  intro occurrence present
  have inner := quiet occurrence (List.mem_reverse.mp present)
  cases occurrence with
  | create blueprint => cases inner.creation
  | start agent => cases inner.start
  | _ => rfl

namespace Attempts

variable {older newer : State} {tried made : List Blueprint}

theorem callsFor (attempts : Attempts tried made older newer) :
    ∃ called, CallsFor called older newer ∧ called.filterMap LaunchCall.created? = tried ∧
      called.filterMap LaunchCall.started? = List.range' older.members.length made.length := by
  obtain ⟨_, deals, _⟩ := attempts
  obtain ⟨added, grown, sameTried, started, _⟩ := deals.history
  refine ⟨_, ⟨added, grown, rfl⟩, ?_, ?_⟩
  · rw [filterMap_created?_calls, sameTried]
  · rw [filterMap_started?_calls, started]

/-- As long as no agent is made, none is asked to start. -/
theorem callsFor_create (attempts : Attempts tried [] older newer) :
    CallsFor (tried.map .create) older newer := by
  obtain ⟨called, callsFor, rfl, started⟩ := attempts.callsFor
  rwa [← eq_map_create_of_filterMap_started? started]

/-- Agents that have been tried before are asked to start. -/
theorem callsFor_start (attempts : Attempts [] made older newer) :
    CallsFor ((List.range' older.members.length made.length).map .start) older newer := by
  obtain ⟨called, callsFor, created, started⟩ := attempts.callsFor
  rwa [← started, ← eq_map_start_of_filterMap_created? created]

end Attempts

/-! ## Complete launches -/

/-- Agents are made from some blueprints, each is started before the next one is made, and
they are numbered in order. -/
structure MakesEach (made : List Blueprint) (older newer : State) : Prop where
  /-- The calls alternate. -/
  callsFor : CallsFor
    ((made.zip (List.range' older.members.length made.length)).flatMap
      (Function.uncurry LaunchCall.launch)) older newer
  /-- Nobody else is made. -/
  members : newer.members.length = older.members.length + made.length

theorem MakesEach.trans
    {made madeLater : List Blueprint}
    {older middle newer : State}
    (first : MakesEach made older middle)
    (second : MakesEach madeLater middle newer) :
    MakesEach (made ++ madeLater) older newer where
  callsFor := by
    have both := first.callsFor.trans second.callsFor
    rw [← List.flatMap_append, first.members, ← List.zip_append (by simp)] at both
    rwa [List.length_append, ← List.range'_append_1]
  members := by
    rw [second.members, first.members, List.length_append, Nat.add_assoc]

section Listening

variable {scenario : Scenario} {plan : Plan} {ip : IpAddress}
  (listens : plan.ListensOn scenario ip)
include listens

/-- The launch of one agent makes it and starts it. -/
theorem makesEach_launchOne
    {name : String}
    {endpoint : Endpoint}
    {state launched : State}
    {agent : AgentId}
    (one : state.launchOne scenario plan name endpoint = (launched, .ok agent)) :
    MakesEach [plan.placed ip (name, endpoint)] state launched := by
  let blueprint := plan.placed ip (name, endpoint)
  let logged := state.log (.starting name endpoint.messagePort endpoint.uiPort?)
  have noted : Attempts [] [] state logged := (asks_log _ state).attempts
  have making := attempts_createAgent scenario blueprint logged
  simp only [launchOne, listens endpoint.messagePort] at one
  rcases made : logged.createAgent scenario blueprint with ⟨created, outcome⟩
  rw [made] at making
  rw [show state.log _ = logged from rfl, show Blueprint.mk _ _ _ _ = blueprint from rfl,
    made] at one
  cases outcome with
  | error failure => cases one
  | ok agent =>
      obtain ⟨_, called, calling, same, rfl⟩ := making
      have creating : Attempts [blueprint] [] state called := noted.trans calling
      have counted : called.members.length = state.members.length := creating.length_members
      dsimp only at one
      split at one
      · cases one
      · rename_i started startedUp
        obtain ⟨rfl, _⟩ := Prod.mk.inj one
        -- The agent is asked to start only after the force-stops that its making called for.
        have asked : Attempts [] [blueprint] called
            (created.startAsked called.members.length) := by
          rw [same]
          exact attempts_make blueprint _ called
        have starting := attempts_startAgent asked
          (((created.member? called.members.length).map Member.behaviour).getD .standard)
        rw [startedUp] at starting
        have both := creating.callsFor_create.trans starting.2.callsFor_start
        rw [counted] at both
        exact ⟨both, by rw [starting.2.length_members, counted]⟩

/-- A launch that goes to its end makes and starts the agents one by one. -/
theorem makesEach_launchRest
    {started cohort : List AgentId}
    {left : List (String × Endpoint)}
    {state launched : State}
    (complete : state.launchRest scenario plan started left = (launched, .ok cohort)) :
    MakesEach (left.map (plan.placed ip)) state launched := by
  induction left generalizing started state with
  | nil =>
      obtain ⟨rfl, _⟩ := Prod.mk.inj complete
      exact ⟨(quiet_log _ state).asksForNothing, rfl⟩
  | cons first rest inductionHypothesis =>
      obtain ⟨name, endpoint⟩ := first
      rw [launchRest] at complete
      split at complete
      · rename_i next agent one
        exact (makesEach_launchOne listens one).trans (inductionHypothesis complete)
      · cases complete

theorem makesEach_launch
    {state launched : State}
    {cohort : List AgentId}
    (complete : state.launch scenario plan = (launched, .ok cohort)) :
    MakesEach (plan.blueprints ip) state launched := by
  unfold launch at complete
  split at complete
  · cases complete
  · rename_i endpoints allocated
    rw [← Plan.map_placed_of_allocate allocated]
    exact makesEach_launchRest listens complete

end Listening

/-! ## How a launch goes -/

/-- How a launch comes to its end. -/
inductive LaunchCourse (scenario : Scenario) (plan : Plan) (older : State) :
    State → Except LaunchFailure (List AgentId) → Prop
  /-- There are no ports for the agents, and nothing is done. -/
  | unallocated
      {failure : Failure}
      (refused : plan.base.allocate plan.names = .error failure) :
      LaunchCourse scenario plan older older (.error ⟨[], failure⟩)
  /-- All attempts succeed. -/
  | complete
      {endpoints : List Endpoint}
      {made : List Blueprint}
      {launched : State}
      (allocated : plan.base.allocate plan.names = .ok endpoints)
      (attempts : plan.attempts scenario older.journal.creations (plan.names.zip endpoints) =
        made.map .launched)
      (attempting : Attempts made made older launched) :
      LaunchCourse scenario plan older launched
        (.ok (List.range' older.members.length made.length))
  /-- An attempt fails, and the agents before it are dealt with. -/
  | stuck
      {endpoints : List Endpoint}
      {made : List Blueprint}
      {attempt : Attempt}
      {left : List Attempt}
      {ended failed : State}
      {failure : Failure}
      (allocated : plan.base.allocate plan.names = .ok endpoints)
      (attempts : plan.attempts scenario older.journal.creations (plan.names.zip endpoints) =
        made.map .launched ++ attempt :: left)
      (attempting : Attempts (made ++ attempt.tried) (made ++ attempt.made) older ended)
      (quiet : Quiet ended failed)
      (members : failed.members.length = ended.members.length) :
      LaunchCourse scenario plan older failed
        (.error ⟨List.range' older.members.length made.length, failure⟩)

theorem launchCourse_launch (scenario : Scenario) (plan : Plan) (state : State) :
    LaunchCourse scenario plan state (state.launch scenario plan).1
      (state.launch scenario plan).2 := by
  cases allocated : plan.base.allocate plan.names with
  | error failure =>
      simp only [launch, allocated]
      exact .unallocated allocated
  | ok endpoints =>
      have attempting := attempts_launchRest scenario plan [] (plan.names.zip endpoints) state
      simp only [launch, allocated]
      rcases rest : state.launchRest scenario plan [] (plan.names.zip endpoints) with
        ⟨next, outcome⟩
      rw [rest] at attempting
      cases outcome with
      | ok cohort =>
          obtain ⟨made, attempts, rfl, attempting⟩ := attempting
          exact .complete allocated attempts attempting
      | error outcome =>
          obtain ⟨started, failure⟩ := outcome
          obtain ⟨made, attempt, left, ended, attempts, _, same, attempting, rfl⟩ := attempting
          obtain rfl : started = List.range' state.members.length made.length := same
          exact .stuck allocated attempts attempting (quiet_abortLaunch _ _ ended)
            (length_members_abortLaunch _ _ ended)

/-- Agents are asked to start that are new, one after the other. -/
structure Numbers (called : List LaunchCall) (older newer : State) : Prop where
  /-- The calls. -/
  callsFor : CallsFor called older newer
  /-- They are numbered in order, and have been made. -/
  started : ∃ count, called.filterMap LaunchCall.started? =
    List.range' older.members.length count ∧
      older.members.length + count ≤ newer.members.length

theorem Numbers.trans_aside
    {called : List LaunchCall}
    {older middle newer : State}
    (numbers : Numbers called older middle)
    (aside : CallsFor [] middle newer)
    (members : middle.members.length ≤ newer.members.length) :
    Numbers called older newer where
  callsFor := numbers.callsFor.trans_aside aside
  started := by
    obtain ⟨count, same, known⟩ := numbers.started
    exact ⟨count, same, Nat.le_trans known members⟩

theorem Attempts.numbers
    {tried made : List Blueprint}
    {older newer : State}
    (attempts : Attempts tried made older newer) :
    ∃ called, Numbers called older newer := by
  obtain ⟨called, callsFor, _, started⟩ := attempts.callsFor
  exact ⟨called, callsFor, made.length, started, Nat.le_of_eq attempts.length_members.symm⟩

theorem LaunchCourse.numbers
    {scenario : Scenario}
    {plan : Plan}
    {older newer : State}
    {outcome : Except LaunchFailure (List AgentId)}
    (course : LaunchCourse scenario plan older newer outcome) :
    ∃ called, Numbers called older newer := by
  cases course with
  | unallocated _ => exact ⟨[], .refl older, 0, rfl, Nat.le_refl _⟩
  | complete _ _ attempting => exact attempting.numbers
  | stuck _ _ attempting quiet members =>
      obtain ⟨called, numbers⟩ := attempting.numbers
      exact ⟨called, numbers.trans_aside quiet.asksForNothing (Nat.le_of_eq members.symm)⟩

/-- What follows a launch asks for nothing more. -/
theorem asksForNothing_launchCohort (scenario : Scenario) (plan : Plan) (state : State) :
    CallsFor [] (state.launch scenario plan).1 (state.launchCohort scenario plan).1 := by
  rcases launched : state.launch scenario plan with ⟨next, outcome⟩
  have publishing (cohort : List AgentId) : CallsFor [] next (next.publish cohort) :=
    (published_publish cohort next).asksForNothing
  cases outcome with
  | ok cohort =>
      simp only [launchCohort, launched]
      exact (publishing cohort).trans_aside ⟨[.event _], rfl, rfl⟩
  | error failure =>
      obtain ⟨started, failure⟩ := failure
      cases started with
      | nil =>
          simp only [launchCohort, launched, List.isEmpty_nil, if_true]
          exact .refl next
      | cons first rest =>
          simp only [launchCohort, launched, List.isEmpty_cons]
          exact (publishing (first :: rest)).trans_aside (quiet_log _ _).asksForNothing

end State

/-! ## Generations -/

/-- What a launch asks for that is like all launches of its plan. -/
structure Plan.Governs
    (plan : Plan)
    (ip : IpAddress)
    (outcome : Except LaunchFailure (List AgentId))
    (called : List LaunchCall) : Prop where
  /-- Agents are to be made from the blueprints of the plan, from the first one on. -/
  created : called.filterMap LaunchCall.created? <+: plan.blueprints ip
  /-- Their ports lie as many places after the bases as they come after the first one. -/
  ports : ∀ index blueprint,
    (called.filterMap LaunchCall.created?)[index]? = some blueprint →
      blueprint.binding.port.toNat = plan.base.basePort.toNat + index ∧
        blueprint.uiPort?.map UInt16.toNat = plan.base.baseUiPort?.map (·.toNat + index)
  /-- All of them are to be made when there are ports for them and all but the last one have
  been started. -/
  whole : called.filterMap LaunchCall.created? = plan.blueprints ip ↔
    (∃ endpoints, plan.base.allocate plan.names = .ok endpoints) ∧
      plan.names.length ≤ (startedBy outcome).length + 1
  /-- A complete launch starts each of them before the next one is made. -/
  complete : ∀ cohort, outcome = .ok cohort → cohort.length = plan.names.length ∧
    called = ((plan.blueprints ip).zip cohort).flatMap (Function.uncurry LaunchCall.launch)

namespace State

theorem filterMap_created?_launch
    {made : List Blueprint}
    {agents : List AgentId}
    (counted : agents.length = made.length) :
    ((made.zip agents).flatMap (Function.uncurry LaunchCall.launch)).filterMap
      LaunchCall.created? = made := by
  have firsts (pair : Blueprint × AgentId) :
      (Function.uncurry LaunchCall.launch pair).filterMap LaunchCall.created? = [pair.1] := rfl
  rw [List.filterMap_flatMap]
  simp only [firsts]
  rw [← List.map_eq_flatMap, List.map_fst_zip (Nat.le_of_eq counted.symm)]

/-- A launch is governed by its plan. -/
theorem governs_launch
    {scenario : Scenario}
    {plan : Plan}
    {ip : IpAddress}
    (listens : plan.ListensOn scenario ip)
    (state : State) :
    ∃ called, CallsFor called state (state.launch scenario plan).1 ∧
      plan.Governs ip (state.launch scenario plan).2 called := by
  have course := launchCourse_launch scenario plan state
  rcases attempted : state.launch scenario plan with ⟨newer, outcome⟩
  rw [attempted] at course
  cases course with
  | unallocated refused =>
      refine ⟨[], .refl _, {
        created := List.nil_prefix
        ports := ?ports
        whole := ⟨?none, ?last⟩
        complete := ?alternates }⟩
      case ports =>
        intro index blueprint found
        simp at found
      case none =>
        intro none
        have nobody : plan.names = [] := by
          rw [← List.length_eq_zero_iff, ← plan.length_blueprints ip, ← none]
          rfl
        rw [nobody] at refused
        cases refused
      case last =>
        intro last
        obtain ⟨endpoints, allocated⟩ := last.1
        cases refused.symm.trans allocated
      case alternates =>
        intro cohort complete
        cases complete
  | @complete endpoints made _ allocated attempts attempting =>
      have all : plan.blueprints ip = made := by
        simpa using Plan.blueprints_of_attempts listens
          (attempts.trans (List.append_nil _).symm) allocated
      have counted : made.length = plan.names.length := all ▸ plan.length_blueprints ip
      have making := (makesEach_launch listens attempted).callsFor
      rw [all] at making
      have numbered : (List.range' state.members.length made.length).length = made.length :=
        List.length_range'
      have whole := (filterMap_created?_launch numbered).trans all.symm
      refine ⟨_, making, {
        created := whole ▸ List.prefix_rfl
        ports := ?ports
        whole := iff_of_true whole ⟨⟨endpoints, allocated⟩, ?last⟩
        complete := ?alternates }⟩
      case ports =>
        rw [whole]
        exact Plan.ports_of_prefix allocated List.prefix_rfl
      case last =>
        rw [startedBy, numbered, counted]
        exact Nat.le_succ _
      case alternates =>
        intro cohort same
        rw [← Except.ok.inj same, all, numbered]
        exact ⟨counted, rfl⟩
  | @stuck endpoints made attempt left ended _ _ allocated attempts attempting quiet _ =>
      obtain ⟨called, callsFor, created, _⟩ := attempting.callsFor
      have all := Plan.blueprints_of_attempts listens attempts allocated
      have one := Plan.length_tried_of_attempts listens attempts List.mem_cons_self
      rw [List.flatMap_cons, ← List.append_assoc] at all
      have early : called.filterMap LaunchCall.created? <+: plan.blueprints ip := by
        rw [created, all]
        exact List.prefix_append _ _
      -- The attempt that fails is about one agent, which is the last one if none is left.
      have reached : (called.filterMap LaunchCall.created?).length = made.length + 1 := by
        rw [created, List.length_append, one]
      refine ⟨called, callsFor.trans_aside quiet.asksForNothing, {
        created := early
        ports := Plan.ports_of_prefix allocated early
        whole := ⟨?whole, ?last⟩
        complete := ?alternates }⟩
      case whole =>
        intro whole
        have counted := plan.length_blueprints ip
        rw [← whole, reached] at counted
        exact ⟨⟨endpoints, allocated⟩, by simp [startedBy, counted]⟩
      case last =>
        intro last
        have counted := last.2
        rw [startedBy, List.length_range'] at counted
        apply early.eq_of_length_le
        rw [plan.length_blueprints, reached]
        exact counted
      case alternates =>
        intro cohort complete
        cases complete

end State
end Supervision
end AgentCohort
