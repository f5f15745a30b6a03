import AgentCohort.Proofs.Supervision.Joiners

/-!
# Join timing

A joiner has joined an agent when this agent and all agents before it have ended.  So the timeout
of an agent counts from the latest of the end times before it, or from the beginning of the
joiner, and everything that the joiner does is known from the time at which it began and from the
end times of its agents.  The timers of the host are taken to end at their deadlines.
-/

namespace AgentCohort
namespace Supervision

open State

/-! ## What a joiner does -/

/-- A joiner begins to join some agents, and goes on until now or until it has joined all of
them: its beginning, the deeds since then and those before. -/
structure Joins
    (scenario : Scenario)
    (joiner : JoinerId)
    (generation : Nat)
    (agents : List AgentId)
    (deeds : List Deed)
    (start : Deed)
    (earlier : List Deed)
    (system : System) : Prop where
  /-- That is what has happened. -/
  execution : Execution scenario (deeds ++ start :: earlier) system
  /-- Before it begins it joins nobody. -/
  idle : start.before.progress? joiner = none
  /-- It begins. -/
  starts : start.after.progress? joiner = some (.start generation agents)
  /-- It goes on. -/
  active : ∀ deed ∈ deeds, (deed.before.progress? joiner).isSome = true

theorem Rostered.roster_of_progress?
    {system : System}
    {joiner : JoinerId}
    {progress : Joining}
    (rostered : Rostered system)
    (active : system.progress? joiner = some progress) :
    Roster progress.remaining system.state := by
  cases joiner with
  | run index =>
      obtain ⟨run, found, joins⟩ := Option.bind_eq_some_iff.mp active
      obtain ⟨_, awaits⟩ := Run.awaited_of_progress? joins
      exact awaits ▸ rostered.runs run (List.mem_of_getElem? found)
  | wait index =>
      obtain ⟨wait, found, joins⟩ := Option.bind_eq_some_iff.mp active
      cases wait with
      | joining other =>
          obtain rfl := Option.some.inj joins
          exact rostered.waits _ (List.mem_of_getElem? found)
      | looking | forForceStop | ended => cases joins

namespace Joins

variable {scenario : Scenario} {joiner : JoinerId} {generation : Nat} {agents : List AgentId}
  {deeds earlier : List Deed} {start : Deed} {system : System}

theorem exists_execution
    (joins : Joins scenario joiner generation agents [] start earlier system) :
    start.after = system ∧ Execution scenario earlier start.before ∧
      start.before.action? scenario start.action = some start.after := by
  obtain ⟨execution, _, _, _⟩ := joins
  cases execution with
  | extend execution possible => exact ⟨rfl, execution, possible⟩

/-- What a joiner does goes on from what it has done. -/
theorem exists_earlier
    {deed : Deed}
    (joins : Joins scenario joiner generation agents (deed :: deeds) start earlier system) :
    deed.after = system ∧
      Joins scenario joiner generation agents deeds start earlier deed.before ∧
      deed.before.action? scenario deed.action = some deed.after := by
  obtain ⟨execution, idle, starts, active⟩ := joins
  cases execution with
  | extend execution possible =>
      exact ⟨rfl, ⟨execution, idle, starts,
        fun other present => active other (List.mem_cons_of_mem _ present)⟩, possible⟩

/-- The agents are all different, and have been started. -/
theorem nodup_and_started
    (joins : Joins scenario joiner generation agents deeds start earlier system) :
    agents.Nodup ∧ ∀ agent ∈ agents, 0 < system.state.starts agent := by
  induction deeds generalizing system with
  | nil =>
      obtain ⟨rfl, execution, possible⟩ := joins.exists_execution
      have rostered := execution.reachable.rostered
      have does := rostered.does possible
      have after := does.rostered rostered
      refine ⟨(after.roster_of_progress? joins.starts).nodup, fun agent present => ?_⟩
      have current := does.mem_cohort_of_starts rostered joins.idle joins.starts agent present
      exact joins.execution.reachable.hasStartedCohort agent current
  | cons deed deeds inductionHypothesis =>
      obtain ⟨rfl, joinsBefore, possible⟩ := joins.exists_earlier
      obtain ⟨nodup, started⟩ := inductionHypothesis joinsBefore
      refine ⟨nodup, fun agent present => ?_⟩
      exact Nat.lt_of_lt_of_le (started agent present)
        (Steps.starts_le (.single (step_of_action? possible)) agent)

/-- Whoever joins agents keeps its time. -/
theorem keepsTime
    (punctual : scenario.platform.timers.FireAtDeadline)
    (joins : Joins scenario joiner generation agents deeds start earlier system) :
    ∃ done time, ((system.progress? joiner).getD (.start generation [])).KeepsTime
      scenario.settings joiner generation agents start.after.state.now deeds
      (deeds ++ start :: earlier) system.state.now done time := by
  induction deeds generalizing system with
  | nil =>
      obtain ⟨rfl, _, _⟩ := joins.exists_execution
      rw [joins.starts]
      exact ⟨[], _, .start fun agent ended found => joins.execution.endTime?_le found⟩
  | cons deed deeds inductionHypothesis =>
      obtain ⟨rfl, joinsBefore, possible⟩ := joins.exists_earlier
      obtain ⟨done, time, keeps⟩ := inductionHypothesis joinsBefore
      obtain ⟨nodup, started⟩ := joinsBefore.nodup_and_started
      obtain ⟨progress, active⟩ :=
        Option.isSome_iff_exists.mp (joins.active deed List.mem_cons_self)
      rw [active, Option.getD_some] at keeps
      have execution := joinsBefore.execution
      have rostered := execution.reachable.rostered
      have does := rostered.does possible
      have kept (agent : AgentId) (ended : Nat)
          (found : endTime? (deeds ++ start :: earlier) agent = some ended) :
          endTime? (deed :: (deeds ++ start :: earlier)) agent = some ended :=
        execution.endTime?_extend found
      obtain same | ⟨noTurn, ticks⟩ := rostered.now_or_ticks possible
      · have extended := keeps.extend active nodup kept fun agent ended found =>
          (endTime?_of_extend found).imp_right fun new => new.2.trans same
        rw [same]
        by_cases turnOf : deed.action.joiner? = some joiner
        · rcases does.joins_or_joined turnOf active with
            ⟨later, told, asked, turn, _, after⟩ | ⟨joined, after, _⟩
          · rw [after, Option.getD_some]
            cases turn with
            | begins phase => exact ⟨done, time, extended.begins punctual phase rfl⟩
            | @passes agent rest remaining joinable =>
                have listed : agent ∈ agents := by
                  rw [keeps.split, remaining]
                  exact List.mem_append_right _ List.mem_cons_self
                have hasEnded := hasEnded_of_isJoinable joinable (started agent listed)
                rw [← execution.isSome_endTime?, Option.isSome_iff_exists] at hasEnded
                obtain ⟨ended, found⟩ := hasEnded
                exact ⟨_, _, extended.passes remaining (kept agent ended found)
                  fun other endedThen foundThen => same ▸ joins.execution.endTime?_le foundThen⟩
            | timesOut elapsed =>
                have late := Deed.timedOut?_eq_some.mpr ⟨turnOf, progress, active, elapsed⟩
                exact ⟨done, time, extended.timesOut elapsed.1 List.mem_cons_self late⟩
          · rw [after, Option.getD_none]
            exact ⟨done, time, extended.finishes joined⟩
        · rw [does.progress?_of_ne turnOf active, Option.getD_some]
          exact ⟨done, time, extended⟩
      · have still : deed.action.joiner? ≠ some joiner := by simp [noTurn]
        obtain ⟨unfinished, stuck⟩ := System.stuck_of_progress? ticks.rest active
        obtain ⟨notFresh, lasting, _⟩ := Joining.of_step?_eq_none unfinished stuck
        have extended := keeps.extend active nodup kept fun agent ended found =>
          .inl ((ticks.endTime?_eq agent).symm.trans found)
        rw [does.progress?_of_ne still active, Option.getD_some]
        refine ⟨done, time, extended.ticks (Nat.le_of_lt ticks.later) ⟨notFresh, unfinished⟩ ?_ ?_⟩
        · intro agent current
          have running : deed.before.state.hasEnded agent = false := by
            refine Bool.eq_false_iff.mpr fun ended => ?_
            simpa [isJoinable_of_hasEnded ended] using lasting agent current
          rw [ticks.endTime?_eq, ← Option.not_isSome_iff_eq_none, execution.isSome_endTime?,
            running]
          exact Bool.false_ne_true
        · intro limit limited
          exact ticks.timers limit (System.mem_timers_of_deadline? active limited)

/-- At each deed of a joiner it is at some of its agents, in their generation. -/
theorem exists_progress?
    (punctual : scenario.platform.timers.FireAtDeadline)
    (joins : Joins scenario joiner generation agents deeds start earlier system)
    {deed : Deed}
    (present : deed ∈ deeds) :
    ∃ progress, deed.before.progress? joiner = some progress ∧
      progress.generation = generation ∧ progress.remaining ⊆ agents := by
  induction deeds generalizing system with
  | nil => cases present
  | cons newest deeds inductionHypothesis =>
      obtain ⟨rfl, joinsBefore, _⟩ := joins.exists_earlier
      rcases List.mem_cons.mp present with rfl | before
      · obtain ⟨done, time, keeps⟩ := joinsBefore.keepsTime punctual
        obtain ⟨progress, active⟩ := Option.isSome_iff_exists.mp (joins.active deed present)
        rw [active, Option.getD_some] at keeps
        refine ⟨progress, active, keeps.generation, ?_⟩
        rw [keeps.split]
        exact List.subset_append_right _ _
      · exact inductionHypothesis joinsBefore before

end Joins

/-- A turn of a joiner tells the listeners of an agent that it has waited for too long, and asks
this agent to stop; no other turn does the one or the other. -/
def Deed.TellsOfTimeOut
    (joiner : JoinerId)
    (generation : Nat)
    (agents : List AgentId)
    (deed : Deed) : Prop :=
  (∃ agent ∈ agents, deed.timedOut? agent = some joiner ∧
      deed.told = [.joinTimedOut generation (deed.before.state.nameOf agent)] ∧
      ∀ other, deed.after.state.stops other =
        deed.before.state.stops other + if other = agent then 1 else 0) ∨
    (∀ agent, deed.timedOut? agent ≠ some joiner) ∧
      (∀ event ∈ deed.told, event.isJoinTimedOut = false) ∧
      ∀ agent, deed.after.state.stops agent = deed.before.state.stops agent

theorem Joins.tellsOfTimeOut
    {scenario : Scenario}
    {joiner : JoinerId}
    {generation : Nat}
    {agents : List AgentId}
    {deeds earlier : List Deed}
    {start deed : Deed}
    {system : System}
    (punctual : scenario.platform.timers.FireAtDeadline)
    (joins : Joins scenario joiner generation agents deeds start earlier system)
    (present : deed ∈ deeds)
    (turnOf : deed.action.joiner? = some joiner) :
    deed.TellsOfTimeOut joiner generation agents := by
  obtain ⟨_, does⟩ := joins.execution.does (List.mem_append_left _ present)
  obtain ⟨progress, active, rfl, listed⟩ := joins.exists_progress? punctual present
  have told {events : List Event} {asked : List AgentId}
      (effect : Inner events asked deed.before.state deed.after.state) : deed.told = events := by
    obtain ⟨added, grown, tells⟩ := effect.journal
    exact (Deed.told_of_tells grown tells).1
  -- What times out is at the agent that it is at.
  have late {agent : AgentId} (timedOut : deed.timedOut? agent = some joiner) :
      progress.TimesOut agent deed.before.state := by
    obtain ⟨_, other, joinsNow, elapsed⟩ := Deed.timedOut?_eq_some.mp timedOut
    obtain rfl := Option.some.inj (active.symm.trans joinsNow)
    exact elapsed
  rcases does.joins_or_joined turnOf active with
    ⟨later, events, asked, turn, effect, _⟩ | ⟨joined, _, events, effect, silent⟩
  · cases turn with
    | @timesOut agent elapsed =>
        left
        refine ⟨agent, listed (List.mem_of_mem_head? elapsed.1), ?_, told effect, fun other => ?_⟩
        · exact Deed.timedOut?_eq_some.mpr ⟨turnOf, progress, active, elapsed⟩
        · rw [effect.stops, List.count_singleton]
          by_cases same : other = agent
          · simp [same]
          · simp [same, Ne.symm same]
    | begins phase =>
        right
        refine ⟨fun agent timedOut => ?_, told effect ▸ nofun, fun agent => effect.stops agent⟩
        simpa [Joining.deadline?, phase] using (late timedOut).2.2
    | @passes agent rest remaining joinable =>
        right
        refine ⟨fun other timedOut => ?_, told effect ▸ nofun, fun other => effect.stops other⟩
        obtain ⟨current, lasting, _⟩ := late timedOut
        obtain rfl : agent = other := by simpa [remaining] using current
        cases joinable.symm.trans lasting
  · right
    refine ⟨fun agent timedOut => ?_, told effect ▸ silent, fun agent => effect.stops agent⟩
    exact Joining.not_timesOut_of_joined joined agent _ (late timedOut)

/-! ## The timing of a joiner -/

/-- What the timeout does at an agent, given the time at which the agents before it have been
joined, if they have been. -/
structure TimesOutAt
    (scenario : Scenario)
    (joiner : JoinerId)
    (deeds past : List Deed)
    (system : System)
    (time? : Option Nat)
    (agent : AgentId) : Prop where
  /-- The agent is waited for too long at most once. -/
  atMostOnce : deeds.countP (fun deed => deed.timedOut? agent = some joiner) ≤ 1
  /-- Then the time for it is over, and it runs. -/
  onTime : ∀ deed ∈ deeds, deed.timedOut? agent = some joiner →
    timeLimit? scenario.settings time? = some deed.before.state.now ∧
      deed.before.state.hasEnded agent = false
  /-- It is waited for too long if nothing but this ends it until then. -/
  expired : ∀ limit, timeLimit? scenario.settings time? = some limit →
    (limit < system.state.now ∨ limit = system.state.now ∧ system.isAtRest scenario = true) →
      (∀ deed ∈ past, deed.ends agent = true → limit < deed.after.state.now ∨
        deed ∈ deeds ∧ deed.timedOut? agent = some joiner) →
        deeds.countP (fun deed => deed.timedOut? agent = some joiner) = 1
  /-- It is not if it ends earlier. -/
  inTime : ∀ limit, timeLimit? scenario.settings time? = some limit →
    ∀ ended < limit, endTime? past agent = some ended →
      deeds.countP (fun deed => deed.timedOut? agent = some joiner) = 0

/-- The timing of a joiner, by the time at which it begins and the end times of its agents. -/
structure JoinTiming
    (scenario : Scenario)
    (joiner : JoinerId)
    (generation : Nat)
    (agents : List AgentId)
    (beginning : Nat)
    (deeds past : List Deed)
    (system : System) : Prop where
  /-- It is over only at the time at which all of its agents have been joined. -/
  completes : system.progress? joiner = none →
    joinedAt? beginning past agents = some system.state.now
  /-- That time does not go by before it is over. -/
  prompt : ∀ time, joinedAt? beginning past agents = some time →
    system.state.now = time ∧ (system.isAtRest scenario = true → system.progress? joiner = none)
  /-- The timeout of each agent counts from the time at which those before it have been joined. -/
  timeOuts : ∀ before agent after, agents = before ++ agent :: after →
    TimesOutAt scenario joiner deeds past system (joinedAt? beginning past before) agent
  /-- A joiner tells of timeouts, and asks for no other reason. -/
  turns : ∀ deed ∈ deeds, deed.action.joiner? = some joiner →
    deed.TellsOfTimeOut joiner generation agents
  /-- Without a timeout it does nothing but wait. -/
  untimed : scenario.settings.joinTimeout? = none → ∀ deed ∈ deeds,
    deed.action.joiner? = some joiner → (∀ event ∈ deed.told, event.isJoinTimedOut = false) ∧
      ∀ agent, deed.after.state.stops agent = deed.before.state.stops agent
  /-- The order of the agents does not matter to the time at which they have been joined. -/
  unordered : ∀ others : List AgentId, others.Perm agents →
    joinedAt? beginning past others = joinedAt? beginning past agents

namespace Joins

variable {scenario : Scenario} {joiner : JoinerId} {generation : Nat} {agents : List AgentId}
  {deeds earlier : List Deed} {start : Deed} {system : System}

theorem completes
    (punctual : scenario.platform.timers.FireAtDeadline)
    (joins : Joins scenario joiner generation agents deeds start earlier system)
    (through : system.progress? joiner = none) :
    joinedAt? start.after.state.now (deeds ++ start :: earlier) agents =
      some system.state.now := by
  obtain ⟨done, time, keeps⟩ := joins.keepsTime punctual
  rw [through, Option.getD_none] at keeps
  have all : agents = done := keeps.split.trans (List.append_nil done)
  rw [all, keeps.joined, keeps.ready (.inr rfl)]

theorem prompt
    {time : Nat}
    (punctual : scenario.platform.timers.FireAtDeadline)
    (joins : Joins scenario joiner generation agents deeds start earlier system)
    (joined : joinedAt? start.after.state.now (deeds ++ start :: earlier) agents = some time) :
    system.state.now = time ∧
      (system.isAtRest scenario = true → system.progress? joiner = none) := by
  cases active : system.progress? joiner with
  | none =>
      exact ⟨Option.some.inj ((joins.completes punctual active).symm.trans joined), fun _ => rfl⟩
  | some progress =>
      obtain ⟨done, since, keeps⟩ := joins.keepsTime punctual
      rw [active, Option.getD_some] at keeps
      cases remaining : progress.remaining with
      | nil =>
          have all : agents = done := by
            rw [keeps.split, remaining, List.append_nil]
          rw [all, keeps.joined] at joined
          refine ⟨(keeps.ready (.inr remaining)).trans (Option.some.inj joined), fun rest => ?_⟩
          exact absurd remaining (System.stuck_of_progress? rest active).1
      | cons agent others =>
          rw [keeps.split, remaining] at joined
          have present := keeps.eq_now (fun _ _ => joins.execution.endTime?_le) remaining joined
          refine ⟨present.symm, fun rest => ?_⟩
          obtain ⟨unfinished, stuck⟩ := System.stuck_of_progress? rest active
          obtain ⟨_, lasting, _⟩ := Joining.of_step?_eq_none unfinished stuck
          obtain ⟨ended, found⟩ := exists_endTime?_of_joinedAt? joined
            (List.mem_append_right done List.mem_cons_self)
          have joinable := isJoinable_of_hasEnded (joins.execution.hasEnded_of_endTime? found)
          cases joinable.symm.trans (lasting agent (by rw [remaining, List.head?_cons]))

/-- When the time for an agent is over, it has been waited for too long or has ended. -/
theorem timedOut?_or_ended
    {before after : List AgentId}
    {agent : AgentId}
    {limit : Nat}
    (punctual : scenario.platform.timers.FireAtDeadline)
    (joins : Joins scenario joiner generation agents deeds start earlier system)
    (split : agents = before ++ agent :: after)
    (limited : timeLimit? scenario.settings
      (joinedAt? start.after.state.now (deeds ++ start :: earlier) before) = some limit)
    (elapsed : limit < system.state.now ∨
      limit = system.state.now ∧ system.isAtRest scenario = true) :
    (∃ deed ∈ deeds, deed.timedOut? agent = some joiner) ∨
      ∃ ended ≤ limit, endTime? (deeds ++ start :: earlier) agent = some ended := by
  obtain ⟨done, since, keeps⟩ := joins.keepsTime punctual
  obtain ⟨time, joinedBefore, limitOf⟩ := Option.bind_eq_some_iff.mp limited
  obtain ⟨timeout, timed, rfl⟩ := Option.map_eq_some_iff.mp limitOf
  have place : (∃ between, done = before ++ agent :: between) ∨
      ∃ ahead, before = done ++ ahead ∧
        ((system.progress? joiner).getD (.start generation [])).remaining =
          ahead ++ agent :: after := by
    rcases List.append_eq_append_iff.mp (keeps.split.symm.trans split) with ahead | between
    · exact .inr ahead
    · obtain ⟨between, passed, both⟩ := between
      cases between with
      | nil => exact .inr ⟨[], by simpa using passed.symm, both.symm⟩
      | cons current between =>
          obtain ⟨rfl, _⟩ := List.cons.inj both
          exact .inl ⟨between, passed⟩
  obtain ⟨between, passed⟩ | ⟨ahead, rfl, remaining⟩ := place
  · exact keeps.passed before agent between passed _ limited
  cases active : system.progress? joiner with
  | none => simp [active, Joining.start] at remaining
  | some progress =>
      rw [active, Option.getD_some] at keeps remaining
      -- At rest the joiner waits for its current agent in time.
      have waits (rest : system.isAtRest scenario = true) :=
        have stuck := System.stuck_of_progress? rest active
        Joining.of_step?_eq_none stuck.1 stuck.2
      cases ahead with
      | nil =>
          rw [List.append_nil, keeps.joined] at joinedBefore
          obtain rfl := Option.some.inj joinedBefore
          cases phase : progress.phase with
          | fresh =>
              have present := keeps.ready (.inl phase)
              obtain passed | ⟨_, rest⟩ := elapsed
              · omega
              · exact absurd phase (waits rest).1
          | limited limit =>
              have deadline : progress.deadline? = some limit := by
                rw [Joining.deadline?, phase]
              obtain ⟨same, inTime⟩ := keeps.limited limit deadline
              have same : since + timeout.milliseconds = limit := by
                simpa [timeLimit?, timed] using same
              obtain passed | ⟨now, rest⟩ := elapsed
              · omega
              · have early := (waits rest).2.2 limit deadline
                omega
          | unlimited =>
              exact .inl (keeps.unlimited phase (by rw [timed, Option.isSome_some]) agent
                (by rw [remaining, List.nil_append, List.head?_cons]))
      | cons current others =>
          have present := keeps.eq_now (fun _ _ => joins.execution.endTime?_le) remaining
            joinedBefore
          obtain passed | ⟨_, rest⟩ := elapsed
          · omega
          · obtain ⟨ended, found⟩ := exists_endTime?_of_joinedAt? joinedBefore
              (List.mem_append_right done List.mem_cons_self)
            have joinable := isJoinable_of_hasEnded (joins.execution.hasEnded_of_endTime? found)
            have lasting := (waits rest).2.1 current (by rw [remaining]; rfl)
            cases joinable.symm.trans lasting

end Joins

/-- Joiners keep to their timing, whatever their agents do and whatever else happens, if the timers
of the host end at their deadlines. -/
theorem joinTiming_of_joins
    {scenario : Scenario}
    {joiner : JoinerId}
    {generation : Nat}
    {agents : List AgentId}
    {deeds earlier : List Deed}
    {start : Deed}
    {system : System}
    (punctual : scenario.platform.timers.FireAtDeadline)
    (joins : Joins scenario joiner generation agents deeds start earlier system) :
    JoinTiming scenario joiner generation agents start.after.state.now deeds
      (deeds ++ start :: earlier) system := by
  have atMostOnce (agent : AgentId) :
      deeds.countP (fun deed => deed.timedOut? agent = some joiner) ≤ 1 := by
    have all := joins.execution.countP_timedOut?_le agent joiner
    rw [List.countP_append] at all
    exact Nat.le_trans (Nat.le_add_right _ _) all
  obtain ⟨done, time, keeps⟩ := joins.keepsTime punctual
  refine ⟨joins.completes punctual, fun time => joins.prompt punctual,
    fun before agent after split => ?_, fun deed => joins.tellsOfTimeOut punctual,
    fun untimed deed present turnOf => ?_, ?_⟩
  · have onTime := keeps.onTime before agent after split
    refine ⟨atMostOnce agent, onTime, ?_, ?_⟩
    · intro limit limited elapsed running
      have late : ∃ deed ∈ deeds, deed.timedOut? agent = some joiner := by
        obtain late | ⟨ended, early, found⟩ :=
          joins.timedOut?_or_ended punctual split limited elapsed
        · exact late
        · obtain ⟨deed, present, ends, rfl⟩ := exists_ends_of_endTime? found
          obtain late | itself := running deed present ends
          · omega
          · exact ⟨deed, itself⟩
      have positive : 0 < deeds.countP fun deed => deed.timedOut? agent = some joiner :=
        List.countP_pos_iff.mpr (by simpa using late)
      exact Nat.le_antisymm (atMostOnce agent) positive
    · intro limit limited ended early found
      refine List.countP_eq_zero.mpr fun deed present late => ?_
      obtain ⟨limitedThen, lasting⟩ := onTime deed present (of_decide_eq_true late)
      have now := Option.some.inj (limitedThen.symm.trans limited)
      have later := joins.execution.before_now_le_endTime? (List.mem_append_left _ present)
        lasting found
      omega
  · rcases joins.tellsOfTimeOut punctual present turnOf with ⟨agent, listed, late, _⟩ | ⟨_, silent⟩
    · obtain ⟨before, after, split⟩ := List.append_of_mem listed
      have limited := (keeps.onTime before agent after split deed present late).1
      simp [timeLimit?, untimed] at limited
    · exact silent
  · exact fun others same => joinTime?_perm (same.map _) _

/-- A part of an execution in which a joiner goes on. -/
theorem joins_of_execution
    {scenario : Scenario}
    {joiner : JoinerId}
    {generation place : Nat}
    {agents : List AgentId}
    {past : List Deed}
    {start : Deed}
    {system : System}
    (execution : Execution scenario past system)
    (found : past[place]? = some start)
    (idle : start.before.progress? joiner = none)
    (starts : start.after.progress? joiner = some (.start generation agents))
    (active : (past.take place).all (fun deed => (deed.before.progress? joiner).isSome) = true) :
    Joins scenario joiner generation agents (past.take place) start (past.drop (place + 1))
      system := by
  refine ⟨?_, idle, starts, List.all_eq_true.mp active⟩
  obtain ⟨inRange, rfl⟩ := List.getElem?_eq_some_iff.mp found
  rwa [← List.drop_eq_getElem_cons inRange, List.take_append_drop]

/-- Agents that are waited for two seconds; `a` runs until it is asked to stop, and `b` ends half a
second after that. -/
def hung : Scenario where
  settings := ⟨10, some 2, none, .leaveRunning⟩
  behaviour blueprint _ :=
    if blueprint.name = "b" then { Behaviour.standard with stopDelay := 500 }
    else .standard
  platform := .isolated

/-- A wait in which both agents are waited for too long. -/
def joinedLate : List Action :=
  [.move (.wait 0), .move (.wait 0), .move (.agentEnds 1), .move (.clock 4500), .move (.wait 0),
    .move (.clock 4000), .move (.wait 0), .move (.wait 0), .move (.wait 0), .move (.clock 2000),
    .move (.wait 0), .move (.wait 0), .request .waitForCohort, .move (.run 0 false),
    .request (.run ["a", "b"] "o:1" ⟨none, 9001, none⟩ false)]

theorem joinTiming_joinedLate :
    hung.platform.timers.FireAtDeadline ∧ ∃ deeds start earlier,
      Joins hung (.wait 0) 1 [0, 1] deeds start earlier (execute hung joinedLate).2 ∧
        (execute hung joinedLate).2.progress? (.wait 0) = none ∧
        joinedAt? 0 (execute hung joinedLate).1 [0, 1] = some 4500 ∧
        JoinTiming hung (.wait 0) 1 [0, 1] start.after.state.now deeds
          (deeds ++ start :: earlier) (execute hung joinedLate).2 := by
  have starts : ((execute hung joinedLate).1[11]?.map fun deed =>
      (deed.before.progress? (.wait 0), deed.after.progress? (.wait 0))) =
        some (none, some (.start 1 [0, 1])) := by
    decide
  obtain ⟨start, found, same⟩ := Option.map_eq_some_iff.mp starts
  obtain ⟨idle, starts⟩ := Prod.mk.inj same
  have joins := joins_of_execution (execution_execute hung joinedLate) found idle starts (by decide)
  exact ⟨Timers.fireAtDeadline_unbounded, _, _, _, joins, by decide, by decide,
    joinTiming_of_joins Timers.fireAtDeadline_unbounded joins⟩

end Supervision
end AgentCohort
