import AgentCohort.Proofs.Supervision.EndTimes
import AgentCohort.Proofs.Supervision.ForceStopFinality
import AgentCohort.Proofs.Supervision.Pauses

/-!
# Joiners

A joiner goes through its agents in order.  Time goes by only while the agent that it is at runs
and the time for this agent is not over; so how far it is at any time is known from the time at
which it began and from the end times of the agents that it has joined.
-/

namespace AgentCohort
namespace Supervision

open State

/-! ## Turns of a joiner -/

/-- Whether the listeners are told that an agent was waited for too long. -/
def Event.isJoinTimedOut : Event → Bool
  | .joinTimedOut .. => true
  | _ => false

/-- Whatever is no turn of a joiner leaves it where it is. -/
theorem Does.progress?_of_ne
    {scenario : Scenario}
    {system next : System}
    {action : Action}
    {joiner : JoinerId}
    {progress : Joining}
    (does : Does scenario system action next)
    (other : action.joiner? ≠ some joiner)
    (active : system.progress? joiner = some progress) :
    next.progress? joiner = some progress := by
  cases joiner with
  | run index =>
      rcases does.getElem?_runs other with same | ⟨none, _⟩
      · rw [← active, System.progress?, same]
        rfl
      · simp [System.progress?, none] at active
  | wait index =>
      rcases does.getElem?_waits other with same | ⟨none, _⟩
      · rw [← active, System.progress?, same]
        rfl
      · simp [System.progress?, none] at active

/-- A turn of a joiner is one at an agent, or its end after the last one. -/
theorem Does.joins_or_joined
    {scenario : Scenario}
    {system next : System}
    {action : Action}
    {joiner : JoinerId}
    {progress : Joining}
    (does : Does scenario system action next)
    (turnOf : action.joiner? = some joiner)
    (active : system.progress? joiner = some progress) :
    (∃ later told asked, progress.Turn scenario system.state later told asked ∧
        Inner told asked system.state next.state ∧ next.progress? joiner = some later) ∨
      progress.remaining = [] ∧ next.progress? joiner = none ∧
        ∃ told, Inner told [] system.state next.state ∧
          ∀ event ∈ told, event.isJoinTimedOut = false := by
  cases joiner with
  | run index =>
      obtain ⟨run, later, found, after, turn⟩ := does.run_of_joiner? turnOf
      simp only [System.progress?, found, after, Option.bind_some] at active ⊢
      obtain ⟨stage, _⟩ := Run.awaited_of_progress? active
      cases turn with
      | joins stageNow joinTurn effect _ =>
          obtain rfl := RunStage.joining.inj (stage.symm.trans stageNow)
          exact .inl ⟨_, _, _, joinTurn, effect, rfl⟩
      | stops stageNow joined effect _ | pauses stageNow joined _ effect _ =>
          obtain rfl := RunStage.joining.inj (stage.symm.trans stageNow)
          exact .inr ⟨joined, rfl, _, effect, by simp [Event.isJoinTimedOut]⟩
      | launches stageNow _ _ | refuses stageNow _ _ _ | wakes stageNow _ _
      | cutShort stageNow _ _ _ => cases stage.symm.trans stageNow
  | wait index =>
      obtain ⟨wait, later, found, after, turn⟩ := does.wait_of_joiner? turnOf
      simp only [System.progress?, found, after, Option.bind_some] at active ⊢
      cases turn with
      | joins joinTurn effect _ =>
          obtain rfl := Option.some.inj active
          exact .inl ⟨_, _, _, joinTurn, effect, rfl⟩
      | ends joined same =>
          obtain rfl := Option.some.inj active
          exact .inr ⟨joined, rfl, [], .of_eq same, List.forall_mem_nil _⟩
      | looks _ | released _ _ => cases active

/-- A run that begins to join agents joins those of the cohort that it has launched. -/
theorem Run.Turn.eq_cohort_of_starts
    {scenario : Scenario}
    {state newer : State}
    {run next : Run}
    {generation : Nat}
    {agents : List AgentId}
    (turn : run.Turn scenario state next newer)
    (cohort : Roster state.cohort state)
    (idle : run.progress? = none)
    (starts : next.progress? = some (.start generation agents)) :
    agents = newer.cohort := by
  cases turn with
  | launches stage unforced same =>
      subst same
      have current := (publishes_launchCohort scenario run.plan cohort.known).cohort
      cases outcome : (state.launch scenario run.plan).2 with
      | error failure => simp [outcome, launched, enter, progress?] at starts
      | ok started =>
          cases restarts : run.restarts with
          | false => simp [outcome, launched, enter, progress?, restarts] at starts
          | true =>
              simp only [outcome, launched, restarts, if_true, enter, progress?,
                Option.some.injEq] at starts
              obtain rfl : started = agents := congrArg Joining.remaining starts
              rw [current, outcome]
              rfl
  | joins stage _ _ _ => simp [progress?, stage] at idle
  | refuses _ _ _ _ | stops _ _ _ _ | pauses _ _ _ _ _ | wakes _ _ _ | cutShort _ _ _ _ =>
      cases starts

/-- Whoever begins to join agents joins those of the current cohort. -/
theorem Does.mem_cohort_of_starts
    {scenario : Scenario}
    {system next : System}
    {action : Action}
    {joiner : JoinerId}
    {generation : Nat}
    {agents : List AgentId}
    (does : Does scenario system action next)
    (rostered : Rostered system)
    (idle : system.progress? joiner = none)
    (starts : next.progress? joiner = some (.start generation agents)) :
    ∀ agent ∈ agents, agent ∈ next.state.cohort := by
  cases joiner with
  | run index =>
      by_cases turnOf : action.joiner? = some (.run index)
      · obtain ⟨run, later, found, after, turn⟩ := does.run_of_joiner? turnOf
        simp only [System.progress?, found, after, Option.bind_some] at idle starts
        rw [turn.eq_cohort_of_starts rostered.cohort idle starts]
        exact fun _ present => present
      · rcases does.getElem?_runs turnOf with same | ⟨_, plan, restarts, begun⟩
        · rw [System.progress?, same] at starts
          cases idle.symm.trans starts
        · simp [System.progress?, begun, Run.start, Run.progress?] at starts
  | wait index =>
      by_cases turnOf : action.joiner? = some (.wait index)
      · obtain ⟨wait, later, found, after, turn⟩ := does.wait_of_joiner? turnOf
        simp only [System.progress?, found, after, Option.bind_some] at idle starts
        cases turn with
        | looks same =>
            obtain rfl : system.state.cohort = agents :=
              congrArg Joining.remaining (Option.some.inj starts)
            exact fun _ present => same ▸ present
        | joins _ _ _ => cases idle
        | ends _ _ | released _ _ => cases starts
      · rcases does.getElem?_waits turnOf with same | ⟨_, wait, fresh, begun⟩
        · rw [System.progress?, same] at starts
          cases idle.symm.trans starts
        · simp only [System.progress?, begun, Option.bind_some] at starts
          cases wait with
          | joining progress =>
              obtain rfl := Option.some.inj starts
              obtain rfl : agents = [] := fresh
              exact List.forall_mem_nil _
          | looking | forForceStop | ended => cases starts

/-- At rest a joiner waits for an agent. -/
theorem System.stuck_of_progress?
    {scenario : Scenario}
    {system : System}
    {joiner : JoinerId}
    {progress : Joining}
    (rest : system.isAtRest scenario = true)
    (active : system.progress? joiner = some progress) :
    progress.remaining ≠ [] ∧
      progress.step? scenario joiner system.state = none := by
  obtain ⟨runs, waits⟩ := stuck_of_isAtRest rest
  cases joiner with
  | run index =>
      obtain ⟨run, found, joins⟩ := Option.bind_eq_some_iff.mp active
      obtain ⟨stage, _⟩ := Run.awaited_of_progress? joins
      have stuck := runs index (List.getElem?_eq_some_iff.mp found).1
      cases stepped : run.step? scenario false (.run index) system.state with
      | some next => simp [stepRun?, found, stepped] at stuck
      | none =>
          simp only [Run.step?, stage] at stepped
          split at stepped
          · cases stepped
          · rename_i unfinished
            exact ⟨by simpa using unfinished, Option.map_eq_none_iff.mp stepped⟩
  | wait index =>
      obtain ⟨wait, found, joins⟩ := Option.bind_eq_some_iff.mp active
      have stuck := waits index (List.getElem?_eq_some_iff.mp found).1
      cases wait with
      | joining other =>
          obtain rfl := Option.some.inj joins
          cases stepped : (Wait.joining other).step? scenario (.wait index) system.state with
          | some next => simp [stepWait?, found, stepped] at stuck
          | none =>
              simp only [Wait.step?] at stepped
              split at stepped
              · cases stepped
              · rename_i unfinished
                exact ⟨by simpa using unfinished, Option.map_eq_none_iff.mp stepped⟩
      | looking | forForceStop | ended => cases joins

/-- A joiner that can take no step waits for an agent that has not ended, and in time. -/
theorem Joining.of_step?_eq_none
    {scenario : Scenario}
    {joiner : JoinerId}
    {joining : Joining}
    {state : State}
    (unfinished : joining.remaining ≠ [])
    (stuck : joining.step? scenario joiner state = none) :
    joining.phase ≠ .fresh ∧
      (∀ agent, joining.remaining.head? = some agent → state.isJoinable agent = false) ∧
      ∀ limit, joining.deadline? = some limit → state.now < limit := by
  obtain ⟨generation, remaining, phase⟩ := joining
  cases remaining with
  | nil => exact absurd rfl unfinished
  | cons agent rest =>
      cases phase with
      | fresh => cases stuck
      | limited deadline =>
          simp only [step?] at stuck
          split at stuck
          · cases stuck
          · rename_i lasting
            split at stuck
            · cases stuck
            · rename_i early
              refine ⟨JoinPhase.noConfusion, ?_, ?_⟩
              · rintro _ ⟨⟩
                simpa using lasting
              · rintro _ ⟨⟩
                exact Nat.lt_of_not_le early
      | unlimited =>
          simp only [step?] at stuck
          split at stuck
          · cases stuck
          · rename_i lasting
            refine ⟨JoinPhase.noConfusion, ?_, ?_⟩
            · rintro _ ⟨⟩
              simpa using lasting
            · rintro _ ⟨⟩

theorem System.mem_timers_of_deadline?
    {system : System}
    {joiner : JoinerId}
    {progress : Joining}
    {limit : Nat}
    (active : system.progress? joiner = some progress)
    (limited : progress.deadline? = some limit) :
    limit ∈ system.timers := by
  cases joiner with
  | run index =>
      obtain ⟨run, found, joins⟩ := Option.bind_eq_some_iff.mp active
      obtain ⟨stage, _⟩ := Run.awaited_of_progress? joins
      have timer : run.timer? = some limit := by rw [Run.timer?, stage, ← limited]
      refine List.mem_append_left _ (List.mem_append_right _ ?_)
      exact List.mem_filterMap.mpr ⟨run, List.mem_of_getElem? found, timer⟩
  | wait index =>
      obtain ⟨wait, found, joins⟩ := Option.bind_eq_some_iff.mp active
      have timer : wait.timer? = some limit := by
        cases wait with
        | joining other =>
            obtain rfl := Option.some.inj joins
            exact limited
        | looking | forForceStop | ended => cases joins
      refine List.mem_append_right _ ?_
      exact List.mem_filterMap.mpr ⟨wait, List.mem_of_getElem? found, timer⟩

/-! ## How far a joiner is -/

/-- The time until which a joiner waits for an agent, given the time at which those before it have
been joined. -/
def timeLimit? (settings : SupervisorSettings) (time? : Option Nat) : Option Nat :=
  time?.bind fun time => settings.joinTimeout?.map (time + ·.milliseconds)

/-- A joiner that has joined some of its agents by a time, and goes on with the others, given the
deeds since its beginning and all deeds. -/
structure Joining.KeepsTime
    (settings : SupervisorSettings)
    (joiner : JoinerId)
    (generation : Nat)
    (agents : List AgentId)
    (beginning : Nat)
    (deeds past : List Deed)
    (now : Nat)
    (done : List AgentId)
    (time : Nat)
    (joining : Joining) : Prop where
  /-- It stays with its generation. -/
  generation : joining.generation = generation
  /-- It goes through its agents in order. -/
  split : agents = done ++ joining.remaining
  /-- Those that it has joined have ended. -/
  joined : joinedAt? beginning past done = some time
  /-- It has joined them by now. -/
  begun : time ≤ now
  /-- It begins to wait for an agent at once, and is over at once after the last one. -/
  ready : joining.phase = .fresh ∨ joining.remaining = [] → now = time
  /-- It waits only until the time for it is over. -/
  limited : ∀ limit, joining.deadline? = some limit →
    timeLimit? settings (some time) = some limit ∧ now ≤ limit
  /-- It does not wait for an agent any longer than until it ends. -/
  ended : ∀ agent, joining.remaining.head? = some agent →
    ∀ ended, endTime? past agent = some ended → now = max time ended
  /-- With a timeout it waits without a limit only if the timeout is over. -/
  unlimited : joining.phase = .unlimited → settings.joinTimeout?.isSome = true →
    ∀ agent, joining.remaining.head? = some agent →
      ∃ deed ∈ deeds, deed.timedOut? agent = some joiner
  /-- The timeouts that were over were over then. -/
  onTime : ∀ before agent after, agents = before ++ agent :: after →
    ∀ deed ∈ deeds, deed.timedOut? agent = some joiner →
      timeLimit? settings (joinedAt? beginning past before) =
          some deed.before.state.now ∧
        deed.before.state.hasEnded agent = false
  /-- Agents that have been joined have ended in time, or else their timeouts were over. -/
  passed : ∀ before agent after, done = before ++ agent :: after →
    ∀ limit, timeLimit? settings (joinedAt? beginning past before) = some limit →
      (∃ deed ∈ deeds, deed.timedOut? agent = some joiner) ∨
        ∃ ended ≤ limit, endTime? past agent = some ended

theorem timeLimit?_of_kept
    {settings : SupervisorSettings}
    {beginning limit : Nat}
    {past later : List Deed}
    {agents : List AgentId}
    (limited : timeLimit? settings (joinedAt? beginning past agents) = some limit)
    (kept : ∀ agent ended, endTime? past agent = some ended → endTime? later agent = some ended) :
    timeLimit? settings (joinedAt? beginning later agents) = some limit := by
  obtain ⟨time, joined, _⟩ := Option.bind_eq_some_iff.mp limited
  rwa [joinedAt?_of_kept joined kept, ← joined]

namespace Joining.KeepsTime

variable {settings : SupervisorSettings} {joiner : JoinerId} {generation beginning : Nat}
  {agents : List AgentId} {deeds past : List Deed} {now time : Nat} {done : List AgentId}
  {joining : Joining}

theorem start (early : ∀ agent ended, endTime? past agent = some ended → ended ≤ beginning) :
    (Joining.start generation agents).KeepsTime settings joiner generation agents beginning []
      past beginning [] beginning where
  generation := rfl
  split := rfl
  joined := rfl
  begun := Nat.le_refl _
  ready _ := rfl
  limited := nofun
  ended agent _ ended found := (Nat.max_eq_left (early agent ended found)).symm
  unlimited := nofun
  onTime := nofun
  passed := by simp

/-- A joiner waits for an agent too long at the time until which it may. -/
theorem of_timesOut
    {agent : AgentId}
    {state : State}
    (keeps : joining.KeepsTime settings joiner generation agents beginning deeds past state.now
      done time)
    (elapsed : joining.TimesOut agent state) :
    timeLimit? settings (some time) = some state.now ∧ state.hasEnded agent = false := by
  obtain ⟨_, lasting, late⟩ := elapsed
  constructor
  · obtain ⟨limit, limited, late⟩ : ∃ limit, joining.deadline? = some limit ∧
        limit ≤ state.now := by
      simpa [Option.any_eq_true] using late
    obtain ⟨same, inTime⟩ := keeps.limited limit limited
    rw [same, Nat.le_antisymm inTime late]
  · refine Bool.eq_false_iff.mpr fun ended => ?_
    rw [isJoinable_of_hasEnded ended] at lasting
    cases lasting

/-- A joiner keeps its time whatever else happens at one time. -/
theorem extend
    {deed : Deed}
    (keeps : joining.KeepsTime settings joiner generation agents beginning deeds past
      deed.before.state.now done time)
    (active : deed.before.progress? joiner = some joining)
    (nodup : agents.Nodup)
    (kept : ∀ agent ended, endTime? past agent = some ended →
      endTime? (deed :: past) agent = some ended)
    (new : ∀ agent ended, endTime? (deed :: past) agent = some ended →
      endTime? past agent = some ended ∨ ended = deed.before.state.now) :
    joining.KeepsTime settings joiner generation agents beginning (deed :: deeds) (deed :: past)
      deed.before.state.now done time where
  generation := keeps.generation
  split := keeps.split
  joined := joinedAt?_of_kept keeps.joined kept
  begun := keeps.begun
  ready := keeps.ready
  limited := keeps.limited
  ended agent current ended found := by
    obtain before | rfl := new agent ended found
    · exact keeps.ended agent current ended before
    · exact (Nat.max_eq_right keeps.begun).symm
  unlimited phase timed agent current := by
    obtain ⟨other, present, lateBefore⟩ := keeps.unlimited phase timed agent current
    exact ⟨other, List.mem_cons_of_mem _ present, lateBefore⟩
  onTime before agent after split other present lateThen := by
    rcases List.mem_cons.mp present with rfl | earlier
    · obtain ⟨_, progress, joins, elapsed⟩ := Deed.timedOut?_eq_some.mp lateThen
      obtain rfl := Option.some.inj (active.symm.trans joins)
      obtain ⟨limited, lasting⟩ := keeps.of_timesOut elapsed
      obtain ⟨rest, remaining⟩ := List.head?_eq_some_iff.mp elapsed.1
      have both : before ++ agent :: after = done ++ agent :: rest := by
        rw [← split, ← remaining]
        exact keeps.split
      rw [split, List.nodup_append, List.nodup_cons] at nodup
      obtain ⟨_, ⟨notAfter, _⟩, apart⟩ := nodup
      have notBefore : agent ∉ before := fun listed =>
        apart agent listed agent List.mem_cons_self rfl
      obtain ⟨rfl, _, _⟩ :=
        (List.append_cons_inj_of_notMem notBefore notAfter).mp both
      rw [joinedAt?_of_kept keeps.joined kept]
      exact ⟨limited, lasting⟩
    · obtain ⟨limited, lasting⟩ := keeps.onTime before agent after split other earlier lateThen
      exact ⟨timeLimit?_of_kept limited kept, lasting⟩
  passed before agent after split limit limited := by
    -- The agents before this one had been joined, so their end times are those of before.
    have listed : done = before ++ (agent :: after) := split
    have joined := keeps.joined
    rw [listed, joinedAt?_append, Option.bind_eq_some_iff] at joined
    obtain ⟨middle, joinedBefore, _⟩ := joined
    rw [joinedAt?_of_kept joinedBefore kept, ← joinedBefore] at limited
    rcases keeps.passed before agent after split limit limited with lateBefore | inTime
    · obtain ⟨other, present, lateThen⟩ := lateBefore
      exact .inl ⟨other, List.mem_cons_of_mem _ present, lateThen⟩
    · obtain ⟨ended, early, found⟩ := inTime
      exact .inr ⟨ended, early, kept agent ended found⟩

/-- Time goes by while a joiner waits for an agent that has not ended. -/
theorem ticks
    {later : Nat}
    (keeps : joining.KeepsTime settings joiner generation agents beginning deeds past now done time)
    (goesBy : now ≤ later)
    (waits : joining.phase ≠ .fresh ∧ joining.remaining ≠ [])
    (lasting : ∀ agent, joining.remaining.head? = some agent → endTime? past agent = none)
    (inTime : ∀ limit, joining.deadline? = some limit → later ≤ limit) :
    joining.KeepsTime settings joiner generation agents beginning deeds past later done time where
  generation := keeps.generation
  split := keeps.split
  joined := keeps.joined
  begun := Nat.le_trans keeps.begun goesBy
  ready := by
    rintro (fresh | finished)
    · exact absurd fresh waits.1
    · exact absurd finished waits.2
  limited limit limited := ⟨(keeps.limited limit limited).1, inTime limit limited⟩
  ended agent current ended found := by
    rw [lasting agent current] at found
    cases found
  unlimited := keeps.unlimited
  onTime := keeps.onTime
  passed := keeps.passed

/-- A joiner begins to wait for an agent. -/
theorem begins
    {scenario : Scenario}
    {state : State}
    (punctual : scenario.platform.timers.FireAtDeadline)
    (keeps : joining.KeepsTime scenario.settings joiner generation agents beginning deeds past now
      done time)
    (phase : joining.phase = .fresh)
    (present : state.now = now) :
    { joining with phase := firstPhase scenario state }.KeepsTime scenario.settings joiner
      generation agents beginning deeds past now done time where
  generation := keeps.generation
  split := keeps.split
  joined := keeps.joined
  begun := keeps.begun
  ready _ := keeps.ready (.inl phase)
  limited limit limited := by
    have same := keeps.ready (.inl phase)
    cases timed : scenario.settings.joinTimeout? with
    | none => simp [deadline?, firstPhase, timed] at limited
    | some timeout =>
        have ends : state.now + timeout.milliseconds = limit := by
          simpa [deadline?, firstPhase, timed, punctual.timeoutEnd?] using limited
        rw [← same, ← ends, present]
        refine ⟨?_, Nat.le_add_right _ _⟩
        simp [timeLimit?, timed]
  ended := keeps.ended
  unlimited unlimited timed := by
    obtain ⟨timeout, timed⟩ := Option.isSome_iff_exists.mp timed
    simp [firstPhase, timed, punctual.timeoutEnd?] at unlimited
  onTime := keeps.onTime
  passed := keeps.passed

/-- A joiner passes over an agent that has ended. -/
theorem passes
    {agent : AgentId}
    {rest : List AgentId}
    {ended : Nat}
    (keeps : joining.KeepsTime settings joiner generation agents beginning deeds past now done time)
    (remaining : joining.remaining = agent :: rest)
    (found : endTime? past agent = some ended)
    (early : ∀ agent ended, endTime? past agent = some ended → ended ≤ now) :
    (⟨joining.generation, rest, .fresh⟩ : Joining).KeepsTime settings joiner generation agents
      beginning deeds past now (done ++ [agent]) now := by
  have current : joining.remaining.head? = some agent := by rw [remaining, List.head?_cons]
  have latest := keeps.ended agent current ended found
  refine ⟨keeps.generation, ?_, ?_, Nat.le_refl _, fun _ => rfl, nofun, ?_, nofun, keeps.onTime, ?_⟩
  · rw [List.append_assoc, List.singleton_append, ← remaining]
    exact keeps.split
  · rw [joinedAt?_append, keeps.joined, Option.bind_some, joinedAt?, List.map_singleton, found,
      latest]
    rfl
  · intro other _ endedThen foundThen
    exact (Nat.max_eq_left (early other endedThen foundThen)).symm
  · intro before other after split limit limited
    obtain rfl | ⟨others, last, rfl⟩ := List.eq_nil_or_concat' after
    · obtain ⟨rfl, rfl⟩ := List.append_singleton_inj.mp split
      rw [keeps.joined] at limited
      have now_le (late : now ≤ limit) : ∃ ended ≤ limit, endTime? past agent = some ended :=
        ⟨ended, Nat.le_trans (early agent ended found) late, found⟩
      cases phase : joining.phase with
      | fresh =>
          obtain ⟨timeout, _, rfl⟩ := Option.map_eq_some_iff.mp limited
          rw [keeps.ready (.inl phase)] at now_le
          exact .inr (now_le (Nat.le_add_right _ _))
      | limited deadline =>
          obtain ⟨same, inTime⟩ := keeps.limited deadline (by rw [deadline?, phase])
          obtain rfl := Option.some.inj (same.symm.trans limited)
          exact .inr (now_le inTime)
      | unlimited =>
          obtain ⟨timeout, timed, _⟩ := Option.map_eq_some_iff.mp limited
          exact .inl (keeps.unlimited phase (by rw [timed, Option.isSome_some]) agent current)
    · have listed : done = before ++ other :: others := by
        rw [← List.cons_append, ← List.append_assoc] at split
        exact (List.append_singleton_inj.mp split).1
      exact keeps.passed before other others listed limit limited

/-- A joiner whose time for an agent is over waits for it without a limit. -/
theorem timesOut
    {deed : Deed}
    {agent : AgentId}
    (keeps : joining.KeepsTime settings joiner generation agents beginning deeds past now done time)
    (current : joining.remaining.head? = some agent)
    (present : deed ∈ deeds)
    (late : deed.timedOut? agent = some joiner) :
    { joining with phase := .unlimited }.KeepsTime settings joiner generation agents beginning
      deeds past now done time where
  generation := keeps.generation
  split := keeps.split
  joined := keeps.joined
  begun := keeps.begun
  ready := by
    rintro (fresh | finished)
    · cases fresh
    · exact keeps.ready (.inr finished)
  limited := nofun
  ended := keeps.ended
  unlimited _ _ other currentToo := by
    obtain rfl := Option.some.inj (current.symm.trans currentToo)
    exact ⟨deed, present, late⟩
  onTime := keeps.onTime
  passed := keeps.passed

/-- A joiner that has joined its last agent is over. -/
theorem finishes
    (keeps : joining.KeepsTime settings joiner generation agents beginning deeds past now done time)
    (joined : joining.remaining = []) :
    (Joining.start generation []).KeepsTime settings joiner generation agents beginning deeds past
      now done time where
  generation := rfl
  split := joined ▸ keeps.split
  joined := keeps.joined
  begun := keeps.begun
  ready _ := keeps.ready (.inr joined)
  limited := nofun
  ended := nofun
  unlimited := nofun
  onTime := keeps.onTime
  passed := keeps.passed

/-- If the agent that a joiner is at has ended, and others as well, they have all been joined
now. -/
theorem eq_now
    {agent : AgentId}
    {rest others : List AgentId}
    {all : Nat}
    (keeps : joining.KeepsTime settings joiner generation agents beginning deeds past now done time)
    (early : ∀ agent ended, endTime? past agent = some ended → ended ≤ now)
    (remaining : joining.remaining = agent :: rest)
    (joined : joinedAt? beginning past (done ++ agent :: others) = some all) :
    all = now := by
  rw [joinedAt?_append, keeps.joined, Option.bind_some] at joined
  obtain ⟨ended, found, joined⟩ := Option.bind_eq_some_iff.mp joined
  rw [← keeps.ended agent (by rw [remaining, List.head?_cons]) ended found] at joined
  have none : joinTime? now (others.map (endTime? past)) = some now := by
    refine joinTime?_eq_self fun end? present => ?_
    obtain ⟨endedToo, rfl⟩ := exists_of_joinTime? joined end? present
    obtain ⟨other, _, foundToo⟩ := List.mem_map.mp present
    exact ⟨endedToo, early other endedToo foundToo, rfl⟩
  exact Option.some.inj (joined.symm.trans none)

end Joining.KeepsTime

end Supervision
end AgentCohort
