import AgentCohort.Proofs.Supervision.Cohort
import AgentCohort.Proofs.Supervision.ForceStopFinality

/-!
# Orphans

Who waits for the current cohort waits for the agents of one launch, the last one that
started anybody.  When the wait is over those agents have ended, and so have all others
that had been launched before, but for those that a launch had replaced while they were
alive.

Such agents are orphans: nobody who comes later can wait for them.  They need not come from
runs side by side.  When a launch fails, the agents left running are the current cohort,
and it takes only another run that starts anybody to lose them.
-/

namespace AgentCohort
namespace Supervision

open State

/-! ## Waits for a cohort -/

/-- An agent has ended, or a wait is still to join it. -/
def Wait.Covers (wait : Wait) (agent : AgentId) (state : State) : Prop :=
  state.hasEnded agent = true ∨
    ∃ progress, wait = .joining progress ∧ agent ∈ progress.remaining

/-- A wait passes only over agents that have ended. -/
theorem Wait.MayBecome.covers
    {scenario : Scenario}
    {state : State}
    {wait later : Wait}
    {agent : AgentId}
    (mayBecome : wait.MayBecome scenario state later)
    (started : 0 < state.starts agent)
    (covers : wait.Covers agent state) :
    later.Covers agent state := by
  rcases mayBecome with rfl | ⟨joiner, newer, stepped⟩
  · exact covers
  rcases covers with ended | ⟨progress, rfl, present⟩
  · exact .inl ended
  simp only [Wait.step?] at stepped
  split at stepped
  · rename_i joined
    simp [List.isEmpty_iff.mp joined] at present
  · obtain ⟨⟨next, newer'⟩, joinStep, same⟩ := Option.map_eq_some_iff.mp stepped
    obtain ⟨rfl, rfl⟩ := Prod.mk.inj same
    rcases (Joining.step?_cases joinStep).2 with kept | ⟨first, split, joinable⟩
    · exact .inr ⟨next, rfl, kept ▸ present⟩
    · rw [split, List.mem_cons] at present
      rcases present with rfl | later
      · exact .inl (hasEnded_of_isJoinable joinable started)
      · exact .inr ⟨next, rfl, later⟩

/-- A wait covers its agents until it is over. -/
theorem Steps.covers
    {scenario : Scenario}
    {earlier later : System}
    {index : Nat}
    {wait : Wait}
    {agent : AgentId}
    (steps : Steps scenario earlier later)
    (found : earlier.waits[index]? = some wait)
    (started : 0 < earlier.state.starts agent)
    (covers : wait.Covers agent earlier.state) :
    ∃ after, later.waits[index]? = some after ∧ after.Covers agent later.state := by
  induction steps with
  | refl => exact ⟨wait, found, covers⟩
  | @tail middle last before step inductionHypothesis =>
      obtain ⟨between, foundBetween, coversBetween⟩ := inductionHypothesis
      obtain ⟨after, foundAfter, mayBecome⟩ := step.wait_mayBecome foundBetween
      have startedBetween : 0 < middle.state.starts agent :=
        Nat.lt_of_lt_of_le started (Steps.starts_le before agent)
      refine ⟨after, foundAfter, ?_⟩
      rcases mayBecome.covers startedBetween coversBetween with ended | remaining
      · exact .inl (step.grows.ended agent ended)
      · exact .inr remaining

/-- A wait that begins covers the agents of the current cohort. -/
theorem System.covers_of_looking
    {scenario : Scenario}
    {looking called : System}
    {index : Nat}
    {agent : AgentId}
    (waiting : looking.waits[index]? = some .looking)
    (looks : looking.after? scenario (.wait index) = some called)
    (present : agent ∈ looking.state.cohort) :
    called.state = looking.state ∧
      ∃ wait, called.waits[index]? = some wait ∧ wait.Covers agent called.state := by
  simp only [after?, stepWait?, waiting, Wait.step?, Option.bind_eq_bind, Option.bind_some,
    Option.pure_def, Option.some.injEq] at looks
  obtain rfl := looks
  have inRange := (List.getElem?_eq_some_iff.mp waiting).1
  exact ⟨rfl, _, List.getElem?_set_self inRange, .inr ⟨_, rfl, present⟩⟩

/-- When a wait for the current cohort is over, all agents that had been launched before it
began have ended, but for those that had been replaced while they were alive. -/
theorem hasEnded_or_replacedAlive_of_waited
    {scenario : Scenario}
    {looking called later : System}
    {index : Nat}
    {agent : AgentId}
    (reachable : Reachable scenario looking)
    (waiting : looking.waits[index]? = some .looking)
    (looks : looking.after? scenario (.wait index) = some called)
    (steps : Steps scenario called later)
    (finished : later.waits[index]? = some .ended)
    (launched : looking.state.isLaunched agent = true) :
    later.state.hasEnded agent = true ∨ ReplacedAlive scenario agent looking := by
  have whole : Steps scenario looking later := .head (.move (.wait index) looks) steps
  cases ended : looking.state.hasEnded agent with
  | true => exact .inl ((Steps.grows whole).ended agent ended)
  | false =>
      rcases reachable.mem_cohort_or_replaced (isAlive_iff.mpr ⟨launched, ended⟩) with
        present | replaced
      · left
        obtain ⟨same, wait, found, covers⟩ := System.covers_of_looking waiting looks present
        have started : 0 < called.state.starts agent := by
          rw [same]
          exact reachable.hasStartedCohort agent present
        obtain ⟨after, foundAfter, coversAfter⟩ := Steps.covers steps found started covers
        obtain rfl := Option.some.inj (foundAfter.symm.trans finished)
        rcases coversAfter with endedLater | ⟨progress, joining, _⟩
        · exact endedLater
        · cases joining
      · exact .inr replaced

/-- An agent `b` that cannot be started at the first attempt; others can. -/
def faltering : Scenario where
  settings := .standard
  behaviour blueprint earlier :=
    if blueprint.name = "b" ∧ earlier = 0 then
      { Behaviour.standard with startFailure? := some (.internal "broken") }
    else .standard
  platform := .isolated

/-- A launch has failed and left its first agent running. -/
def leftRunning : System :=
  (System.initial.perform faltering (.run ["a", "b"] "o:1" ⟨none, 9001, none⟩ false)).1

/-- Somebody is about to wait for the current cohort. -/
def lookingAt (system : System) : System :=
  (system.accept .waitForCohort).1

theorem hasEnded_or_replacedAlive_leftRunning :
    leftRunning.state.isAlive 0 = true ∧ ∃ called later,
      (lookingAt leftRunning).after? faltering (.wait 0) = some called ∧
      Steps faltering called later ∧ later.waits[0]? = some .ended ∧
      (later.state.hasEnded 0 = true ∨
        ReplacedAlive faltering 0 (lookingAt leftRunning)) := by
  have reachable : Reachable faltering (lookingAt leftRunning) :=
    (steps_perform faltering _ _).tail (.request _)
  obtain ⟨called, looks⟩ :
      ∃ called, (lookingAt leftRunning).after? faltering (.wait 0) = some called := ⟨_, rfl⟩
  have steps : Steps faltering called (called.perform faltering (.finish 0)).1 :=
    steps_perform faltering _ _
  have finished : (called.perform faltering (.finish 0)).1.waits[0]? = some .ended := by
    obtain rfl := Option.some.inj looks
    decide
  exact ⟨by decide, called, _, looks, steps, finished,
    hasEnded_or_replacedAlive_of_waited reachable (by decide) looks steps finished (by decide)⟩

/-- The second attempt has succeeded in another run, and its agent has ended. -/
def retried : System :=
  let again := (leftRunning.perform faltering (.run ["b"] "o:1" ⟨none, 9002, none⟩ false)).1
  (again.perform faltering (.finish 2)).1

/-- A wait may be over while an agent that an earlier launch has left running is alive, though
the runs came one after the other. -/
theorem orphan_of_retried :
    ¬ ∀ (scenario : Scenario) (looking called later : System) (index agent : Nat),
      Reachable scenario looking →
      (∀ run ∈ looking.runs, run.outcome? ≠ none) →
      looking.waits[index]? = some .looking →
      looking.after? scenario (.wait index) = some called →
      Steps scenario called later →
      later.waits[index]? = some .ended →
      looking.state.isLaunched agent = true →
      later.state.hasEnded agent = true := by
  intro alwaysEnded
  have reachable : Reachable faltering (lookingAt retried) :=
    (((steps_perform faltering _ _).trans (steps_perform faltering _ _)).trans
      (steps_perform faltering _ _)).tail (.request _)
  obtain ⟨called, looks⟩ :
      ∃ called, (lookingAt retried).after? faltering (.wait 0) = some called := ⟨_, rfl⟩
  have finished : (called.settle faltering 0).waits[0]? = some .ended := by
    obtain rfl := Option.some.inj looks
    decide
  have alive : (called.settle faltering 0).state.hasEnded 0 = false := by
    obtain rfl := Option.some.inj looks
    decide
  have steps : Steps faltering called (called.settle faltering 0) :=
    steps_advance faltering 0 _ called
  have ended := alwaysEnded faltering (lookingAt retried) called (called.settle faltering 0) 0
    0 reachable (by decide) (by decide) looks steps finished (by decide)
  rw [alive] at ended
  cases ended

end Supervision
end AgentCohort
