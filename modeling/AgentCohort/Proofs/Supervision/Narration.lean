import AgentCohort.Proofs.Supervision.Deeds
import Mathlib.Data.List.Induction

/-!
# Narration

What a run with restarts tells the listeners has a shape.  It tells of its generations one
after the other: that the cohort has started, which of its agents it has waited for too
long, that the cohort has stopped, and that the next launch is scheduled.  If it succeeds it
tells of its end, and of the number of its generations.

A run is at one of the stages of a generation, and the stage says how far it has come with
what it tells.  So each turn of the run goes on with it.
-/

namespace AgentCohort
namespace Supervision

open State

/-! ## Blocks of events -/

namespace Event

/-- Whether the listeners are told that a cohort has started. -/
def isCohortStarted : Event → Bool
  | .cohortStarted .. => true
  | _ => false

/-- Whether the listeners are told that a launch is scheduled. -/
def isRestartScheduled : Event → Bool
  | .restartScheduled .. => true
  | _ => false

end Event

/-- What the listeners are told of a generation until its cohort has stopped, given the agents
that were waited for too long. -/
def opening (names : List String) (generation : Nat) (timedOut : List String) : List Event :=
  .cohortStarted generation names :: timedOut.map (.joinTimedOut generation)

/-- What the listeners are told of a generation. -/
def block
    (names : List String)
    (cooldown : Duration)
    (generation : Nat)
    (timedOut : List String) : List Event :=
  opening names generation timedOut ++
    [.cohortStopped generation, .restartScheduled generation cooldown]

/-- What the listeners are told of some generations, counted from one. -/
def blocks (names : List String) (cooldown : Duration) (timedOut : List (List String)) :
    List Event :=
  (timedOut.zipIdx 1).flatMap fun agents => block names cooldown agents.2 agents.1

/-- Events that tell of generations, as far as they go.  In each generation an agent is waited
for too long at most once, and the agents come in cohort order. -/
def FollowsBlocks (names : List String) (cooldown : Duration) (events : List Event) : Prop :=
  ∃ timedOut : List (List String), (∀ agents ∈ timedOut, agents.Sublist names) ∧
    events <+: blocks names cooldown timedOut

theorem blocks_concat
    (names : List String)
    (cooldown : Duration)
    (past : List (List String))
    (timedOut : List String) :
    blocks names cooldown (past ++ [timedOut]) =
      blocks names cooldown past ++ block names cooldown (past.length + 1) timedOut := by
  simp [blocks, List.zipIdx_append, Nat.add_comm]

/-- Some generations and a part of the next one. -/
theorem FollowsBlocks.of_part
    {names timedOut : List String}
    {cooldown : Duration}
    {past : List (List String)}
    {part : List Event}
    (sublists : ∀ agents ∈ past, agents.Sublist names)
    (listed : timedOut.Sublist names)
    (starts : part <+: block names cooldown (past.length + 1) timedOut) :
    FollowsBlocks names cooldown (blocks names cooldown past ++ part) := by
  refine ⟨past ++ [timedOut], ?_, ?_⟩
  · simpa [or_imp, forall_and] using ⟨sublists, listed⟩
  · rw [blocks_concat]
    exact (List.prefix_append_right_inj _).mpr starts

theorem countP_opening (names : List String) (generation : Nat) (timedOut : List String) :
    (opening names generation timedOut).countP Event.isCohortStarted = 1 := by
  have none : (timedOut.map (Event.joinTimedOut generation)).countP Event.isCohortStarted = 0 := by
    simp [Event.isCohortStarted]
  rw [opening, List.countP_cons_of_pos rfl, none]

theorem countP_blocks
    (names : List String)
    (cooldown : Duration)
    (timedOut : List (List String)) :
    (blocks names cooldown timedOut).countP Event.isCohortStarted = timedOut.length := by
  induction timedOut using List.reverseRecOn with
  | nil => rfl
  | append_singleton past agents inductionHypothesis =>
      rw [blocks_concat, List.countP_append, inductionHypothesis, block, List.countP_append,
        countP_opening, List.length_append]
      rfl

namespace State

/-- What the listeners have been told, leaving force-stops aside. -/
def reports (state : State) : List Event :=
  state.events.filter fun event => !event.isForceStopped

theorem Effect.reports
    {told : List Event}
    {asked : List AgentId}
    {older newer : State}
    (effect : Effect told asked older newer) :
    newer.reports = older.reports ++ told.filter fun event => !event.isForceStopped := by
  rw [State.reports, effect.events, List.filter_append]
  rfl

end State

/-! ## What a run has told -/

namespace Joining

/-- The agents that a joiner may still wait for too long. -/
def pending (joining : Joining) : List AgentId :=
  match joining.phase with
  | .unlimited => joining.remaining.tail
  | .fresh | .limited _ => joining.remaining

theorem pending_sublist (joining : Joining) : joining.pending.Sublist joining.remaining := by
  unfold pending
  split
  · exact List.tail_sublist _
  · exact .refl _
  · exact .refl _

/-- A joiner tells of agents that it has waited for too long in the order of the cohort. -/
theorem Turn.told
    {scenario : Scenario}
    {state : State}
    {joining next : Joining}
    {told : List Event}
    {asked : List AgentId}
    (turn : joining.Turn scenario state next told asked) :
    next.generation = joining.generation ∧ next.remaining ⊆ joining.remaining ∧
      ∃ passed, told = passed.map (.joinTimedOut joining.generation) ∧
        (passed ++ next.pending.map state.nameOf).Sublist (joining.pending.map state.nameOf) := by
  cases turn with
  | begins phase =>
      refine ⟨rfl, List.Subset.refl _, [], rfl, ?_⟩
      have all : joining.pending = joining.remaining := by simp [pending, phase]
      rw [all]
      exact (pending_sublist _).map _
  | @passes agent rest remaining _ =>
      have left : rest.Sublist joining.pending := by
        unfold pending
        split <;> simp [remaining]
      exact ⟨rfl, remaining ▸ List.subset_cons_self agent rest, [], rfl, left.map _⟩
  | @timesOut agent elapsed =>
      obtain ⟨rest, split⟩ := List.head?_eq_some_iff.mp elapsed.1
      refine ⟨rfl, List.Subset.refl _, [state.nameOf agent], rfl, ?_⟩
      have all : joining.pending = agent :: rest := by
        cases phase : joining.phase with
        | unlimited => simpa [deadline?, phase] using elapsed.2.2
        | fresh | limited _ => simp [pending, phase, split]
      rw [all]
      simp [pending, split]

end Joining

/-- The listeners have been told of some generations, each of them complete. -/
structure State.HasTold
    (names : List String)
    (cooldown : Duration)
    (past : List (List String))
    (state : State) : Prop where
  /-- Agents of the cohort were waited for too long, in its order. -/
  listed : ∀ agents ∈ past, agents.Sublist names
  /-- There have been no other generations. -/
  counted : state.generation = past.length
  /-- Nothing else has been told. -/
  reported : state.reports = blocks names cooldown past

/-- The listeners have been told of some generations, and of the agents of the current one
that its joiner has waited for too long. -/
structure Joining.HasTold
    (names : List String)
    (cooldown : Duration)
    (past : List (List String))
    (timedOut : List String)
    (joining : Joining)
    (state : State) : Prop where
  /-- Agents of the cohort were waited for too long, in its order. -/
  listed : ∀ agents ∈ past, agents.Sublist names
  /-- The current generation is the next one. -/
  counted : state.generation = past.length + 1
  /-- The joiner is at it. -/
  current : joining.generation = past.length + 1
  /-- Only agents later in the order can still be waited for too long. -/
  pending : (timedOut ++ joining.pending.map state.nameOf).Sublist names
  /-- Nothing else has been told. -/
  reported : state.reports =
    blocks names cooldown past ++ opening names (past.length + 1) timedOut

/-- The listeners have been told of generations, the last of which may be incomplete, and then
of the end of the run and the number of cohorts that have started. -/
def State.HasToldEnd (names : List String) (cooldown : Duration) (state : State) : Prop :=
  ∃ front, FollowsBlocks names cooldown front ∧
    state.reports = front ++ [.finished (front.countP Event.isCohortStarted)]

/-- What a run with restarts has told the listeners at each stage. -/
def Run.Narrates (settings : SupervisorSettings) (run : Run) (state : State) : Prop :=
  match run.stage with
  | .launching | .cooling _ => ∃ past, state.HasTold run.plan.names settings.cooldown past
  | .joining progress =>
    ∃ past timedOut, progress.HasTold run.plan.names settings.cooldown past timedOut state
  | .ended (.error _) =>
    ∃ past : List (List String), (∀ agents ∈ past, agents.Sublist run.plan.names) ∧
      state.reports = blocks run.plan.names settings.cooldown past
  | .ended (.ok _) => state.HasToldEnd run.plan.names settings.cooldown

/-- A run that is left alone has told the same. -/
theorem Run.Narrates.unchanged
    {settings : SupervisorSettings}
    {run : Run}
    {older newer : State}
    (narrates : run.Narrates settings older)
    (reports : newer.reports = older.reports)
    (generation : newer.generation = older.generation)
    (names : ∀ agent ∈ run.awaited, newer.nameOf agent = older.nameOf agent) :
    run.Narrates settings newer := by
  unfold Narrates State.HasToldEnd at *
  cases stage : run.stage with
  | launching | cooling _ =>
      simp only [stage] at narrates ⊢
      obtain ⟨past, told⟩ := narrates
      exact ⟨past, told.listed, generation.trans told.counted, reports.trans told.reported⟩
  | joining progress =>
      simp only [stage] at narrates ⊢
      obtain ⟨past, timedOut, told⟩ := narrates
      have same : progress.pending.map newer.nameOf = progress.pending.map older.nameOf := by
        refine List.map_congr_left fun agent present => names agent ?_
        simp only [awaited, stage]
        exact progress.pending_sublist.subset present
      exact ⟨past, timedOut, told.listed, generation.trans told.counted, told.current,
        same ▸ told.pending, reports.trans told.reported⟩
  | ended outcome =>
      cases outcome <;>
      · simp only [stage] at narrates ⊢
        rw [reports]
        exact narrates

section Launch

variable {calls signalled generation : Nat} {names : List String}
  {outcome : Except LaunchFailure (List AgentId)}

/-- A launch schedules no other one. -/
theorem State.not_isRestartScheduled_launch :
    ∀ event ∈ List.replicate calls (.forceStopped signalled) ++
      completion generation names outcome, event.isRestartScheduled = false := by
  intro event present
  rcases List.mem_append.mp present with called | completed
  · rw [List.eq_of_mem_replicate called]
    rfl
  · cases outcome <;> simp_all [completion, Event.isRestartScheduled]

/-- A launch tells of the force-stops that its agents have called for. -/
theorem State.exists_isForceStopped_launch :
    (∃ event ∈ List.replicate calls (.forceStopped signalled) ++
      completion generation names outcome, event.isForceStopped = true) ↔ 0 < calls := by
  constructor
  · rintro ⟨event, present, forced⟩
    rcases List.mem_append.mp present with called | completed
    · exact Nat.pos_of_ne_zero (List.mem_replicate.mp called).1
    · cases outcome <;> simp_all [completion, Event.isForceStopped]
  · intro positive
    have called : Event.forceStopped signalled ∈ List.replicate calls (.forceStopped signalled) :=
      List.mem_replicate.mpr ⟨Nat.ne_of_gt positive, rfl⟩
    exact ⟨_, List.mem_append_left _ called, rfl⟩

end Launch

/-- A launch tells that the cohort has started, if it is complete. -/
theorem State.reports_launchCohort
    (scenario : Scenario)
    (plan : Plan)
    {state : State}
    (roster : Roster state.cohort state) :
    (state.launchCohort scenario plan).1.reports =
      state.reports ++ completion (state.generation + 1) plan.names
        (state.launch scenario plan).2 := by
  obtain ⟨calls, effect, _⟩ := effect_launchCohort scenario plan roster.known
  rw [effect.reports, List.filter_append, List.filter_eq_nil_iff.mpr, List.nil_append,
    List.filter_eq_self.mpr]
  · intro event present
    cases outcome : (state.launch scenario plan).2 <;>
      simp_all [completion, Event.isForceStopped]
  · intro event present
    rw [List.eq_of_mem_replicate present]
    simp [Event.isForceStopped]

/-- A run that is over after complete generations tells of its end. -/
theorem State.HasTold.finishes
    {names : List String}
    {cooldown : Duration}
    {past : List (List String)}
    {state newer : State}
    (told : state.HasTold names cooldown past)
    (effect : Inner [.finished state.generation] [] state newer) :
    newer.HasToldEnd names cooldown := by
  refine ⟨_, ⟨past, told.listed, List.prefix_rfl⟩, ?_⟩
  have reports := effect.reports
  rw [told.reported] at reports
  rw [countP_blocks, ← told.counted]
  exact reports

/-- The launch of a cohort that a run joins. -/
theorem State.HasTold.launches
    {scenario : Scenario}
    {plan : Plan}
    {cooldown : Duration}
    {past : List (List String)}
    {state : State}
    {cohort : List AgentId}
    (told : state.HasTold plan.names cooldown past)
    (roster : Roster state.cohort state)
    (complete : (state.launch scenario plan).2 = .ok cohort) :
    let newer := (state.launchCohort scenario plan).1
    (Joining.start newer.generation cohort).HasTold plan.names cooldown past [] newer := by
  have reports := reports_launchCohort scenario plan roster
  have publishes := publishes_launchCohort scenario plan roster.known
  obtain ⟨calls, launching, _⟩ := (launches_launch scenario plan roster.known).effect
  have counted : (state.launchCohort scenario plan).1.generation = past.length + 1 := by
    rw [publishes.generation, complete, launching.generation, told.counted]
    rfl
  rw [complete, completion, told.counted, told.reported] at reports
  refine ⟨told.listed, counted, counted, ?_, reports⟩
  exact map_nameOf_launchCohort roster.known complete ▸ .refl _

namespace Joining.HasTold

variable {names timedOut : List String} {cooldown : Duration} {past : List (List String)}
  {joining : Joining} {state newer : State}

theorem timedOut_sublist
    (told : joining.HasTold names cooldown past timedOut state) :
    timedOut.Sublist names :=
  (List.sublist_append_left _ _).trans told.pending

/-- A joiner goes on with what it has told. -/
theorem joins
    {scenario : Scenario}
    {later : Joining}
    {events : List Event}
    {asked : List AgentId}
    (told : joining.HasTold names cooldown past timedOut state)
    (turn : joining.Turn scenario state later events asked)
    (effect : Inner events asked state newer)
    (known : ∀ agent ∈ joining.remaining, agent < state.members.length) :
    ∃ passed, later.HasTold names cooldown past (timedOut ++ passed) newer := by
  obtain ⟨same, fewer, passed, rfl, passes⟩ := turn.told
  have kept : later.pending.map newer.nameOf = later.pending.map state.nameOf := by
    refine List.map_congr_left fun agent present => effect.nameOf (known agent ?_)
    exact fewer (later.pending_sublist.subset present)
  have reports := effect.reports
  rw [List.filter_eq_self.mpr (by simp [Event.isForceStopped]), told.reported, told.current]
    at reports
  refine ⟨passed, told.listed, effect.generation.trans told.counted, same.trans told.current,
    ?_, ?_⟩
  · rw [kept, List.append_assoc]
    exact (passes.append_left timedOut).trans told.pending
  · rw [reports, opening, opening, List.map_append, List.append_assoc]
    rfl

/-- A run that is over after it has joined a cohort tells of its end. -/
theorem finishes
    (told : joining.HasTold names cooldown past timedOut state)
    (effect : Inner [.cohortStopped joining.generation, .finished state.generation] []
      state newer) :
    newer.HasToldEnd names cooldown := by
  have reports := effect.reports
  rw [told.reported, told.current, told.counted] at reports
  refine ⟨blocks names cooldown past ++
    (opening names (past.length + 1) timedOut ++ [.cohortStopped (past.length + 1)]),
    .of_part told.listed told.timedOut_sublist ?_, ?_⟩
  · exact ⟨[.restartScheduled (past.length + 1) cooldown], by simp [block]⟩
  · rw [reports, List.countP_append, List.countP_append, countP_blocks, countP_opening]
    simp [Event.isForceStopped, Event.isCohortStarted]

/-- The generation is complete when the next launch is scheduled. -/
theorem pauses
    (told : joining.HasTold names cooldown past timedOut state)
    (effect : Inner [.cohortStopped joining.generation,
      .restartScheduled joining.generation cooldown] [] state newer) :
    newer.HasTold names cooldown (past ++ [timedOut]) := by
  have reports := effect.reports
  rw [told.reported, told.current] at reports
  refine ⟨?_, ?_, ?_⟩
  · simpa [or_imp, forall_and] using ⟨told.listed, told.timedOut_sublist⟩
  · rw [List.length_append]
    exact effect.generation.trans told.counted
  · rw [blocks_concat, block, ← List.append_assoc]
    exact reports

end Joining.HasTold

/-- A step of a run with restarts goes on with what it has told. -/
theorem Run.Turn.narrates
    {scenario : Scenario}
    {state newer : State}
    {run next : Run}
    (turn : run.Turn scenario state next newer)
    (cohort : Roster state.cohort state)
    (awaited : Roster run.awaited state)
    (restarts : run.restarts = true)
    (narrates : run.Narrates scenario.settings state) :
    next.Narrates scenario.settings newer := by
  unfold Narrates at narrates
  cases turn with
  | launches stage unforced same =>
      simp only [stage] at narrates
      obtain ⟨past, told⟩ := narrates
      subst same
      cases outcome : (state.launch scenario run.plan).2 with
      | error failure =>
          have reports := reports_launchCohort scenario run.plan cohort
          rw [outcome, completion, List.append_nil, told.reported] at reports
          exact ⟨past, told.listed, reports⟩
      | ok started =>
          simp only [launched, restarts, if_true]
          exact ⟨past, [], told.launches cohort outcome⟩
  | refuses stage recorded effect _ =>
      simp only [stage] at narrates
      obtain ⟨past, told⟩ := narrates
      rw [if_pos restarts] at effect
      exact told.finishes effect
  | joins stage joinTurn effect _ =>
      simp only [stage] at narrates
      obtain ⟨past, timedOut, told⟩ := narrates
      simp only [Run.awaited, stage] at awaited
      obtain ⟨passed, toldLater⟩ := told.joins joinTurn effect awaited.known
      exact ⟨past, timedOut ++ passed, toldLater⟩
  | stops stage joined effect _ =>
      simp only [stage] at narrates
      obtain ⟨past, timedOut, told⟩ := narrates
      exact told.finishes effect
  | pauses stage joined unforced effect _ =>
      simp only [stage] at narrates
      obtain ⟨past, timedOut, told⟩ := narrates
      exact ⟨past ++ [timedOut], told.pauses effect⟩
  | wakes stage _ same =>
      simp only [stage] at narrates
      exact same ▸ narrates
  | cutShort stage recorded effect _ =>
      simp only [stage] at narrates
      obtain ⟨past, told⟩ := narrates
      exact told.finishes effect

/-! ## What a run that is over has told -/

theorem Run.stage_of_outcome?
    {run : Run}
    {outcome : Except Failure Unit}
    (isOver : run.outcome? = some outcome) :
    run.stage = .ended outcome := by
  cases stage : run.stage with
  | ended other =>
      simp only [outcome?, stage] at isOver
      rw [Option.some.inj isOver]
  | launching | joining _ | cooling _ => simp [outcome?, stage] at isOver

namespace Run.Narrates

variable {settings : SupervisorSettings} {run : Run} {state : State}

theorem generations
    (narrates : run.Narrates settings state)
    (unsuccessful : run.outcome? ≠ some (.ok ())) :
    FollowsBlocks run.plan.names settings.cooldown state.reports := by
  unfold Narrates at narrates
  cases stage : run.stage with
  | launching | cooling _ =>
      simp only [stage] at narrates
      obtain ⟨past, told⟩ := narrates
      exact ⟨past, told.listed, told.reported ▸ List.prefix_rfl⟩
  | joining progress =>
      simp only [stage] at narrates
      obtain ⟨past, timedOut, told⟩ := narrates
      rw [told.reported]
      exact .of_part told.listed told.timedOut_sublist (List.prefix_append _ _)
  | ended outcome =>
      cases outcome with
      | error failure =>
          simp only [stage] at narrates
          obtain ⟨past, listed, reported⟩ := narrates
          exact ⟨past, listed, reported ▸ List.prefix_rfl⟩
      | ok _ => simp [outcome?, stage] at unsuccessful

theorem failed
    {failure : Failure}
    (narrates : run.Narrates settings state)
    (failed : run.outcome? = some (.error failure)) :
    ∃ timedOut : List (List String), (∀ agents ∈ timedOut, agents.Sublist run.plan.names) ∧
      state.reports = blocks run.plan.names settings.cooldown timedOut := by
  simpa only [Narrates, stage_of_outcome? failed] using narrates

theorem finished
    (narrates : run.Narrates settings state)
    (succeeded : run.outcome? = some (.ok ())) :
    state.HasToldEnd run.plan.names settings.cooldown := by
  simpa only [Narrates, stage_of_outcome? succeeded] using narrates

end Run.Narrates

end Supervision
end AgentCohort
