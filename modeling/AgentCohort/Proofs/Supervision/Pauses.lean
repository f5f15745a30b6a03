import AgentCohort.Proofs.Supervision.Narration

/-!
# Pauses

A run that schedules a launch pauses before it, and no agent is made until the pause is over.
The pause is as long as the settings say if the timers of the host end at their deadlines.

Only the launch of a cohort makes agents, and the run launches when its last pause is over;
the time to which it pauses is therefore all that has to be known of the pauses so far.
-/

namespace AgentCohort
namespace Supervision

open State

/-! ## Journals with pauses -/

/-- The end of the pause that an entry tells of: its cooldown after the entry. -/
def Entry.pauseEnd? (entry : Entry) : Option Nat :=
  match entry.occurrence with
  | .event (.restartScheduled _ cooldown) => some (entry.time + cooldown.milliseconds)
  | _ => none

/-- A journal in which no agent is made before the end of a pause that began earlier. -/
def KeepsPauses (journal : Journal) : Prop :=
  journal.Pairwise fun later earlier => ∀ time, earlier.pauseEnd? = some time →
    later.occurrence.isCreation = true → time ≤ later.time

/-- A journal in which all pauses end by a given time. -/
def PausesEndBy (bound : Nat) (journal : Journal) : Prop :=
  ∀ entry ∈ journal, ∀ time, entry.pauseEnd? = some time → time ≤ bound

/-- Who tells of a pause tells that a launch is scheduled. -/
theorem State.Tells.pauseEnd?
    {told : List Event}
    {now time : Nat}
    {added : Journal}
    {entry : Entry}
    (tells : Tells told now added)
    (present : entry ∈ added)
    (pauses : entry.pauseEnd? = some time) :
    ∃ generation cooldown, .restartScheduled generation cooldown ∈ told ∧
      time = now + cooldown.milliseconds := by
  obtain ⟨written, occurrence⟩ := entry
  unfold Entry.pauseEnd? at pauses
  split at pauses
  · rename_i generation cooldown scheduled
    refine ⟨generation, cooldown, ?_, ?_⟩
    · rw [← tells.events, List.mem_filterMap]
      change occurrence = _ at scheduled
      subst scheduled
      exact ⟨_, List.mem_reverse.mpr present, rfl⟩
    · rw [← tells.time _ present]
      exact (Option.some.inj pauses).symm
  · cases pauses

/-- What is quiet makes no agents. -/
theorem State.Grows.makesNone
    {older newer : State}
    {added : Journal}
    (grows : Grows Occurrence.IsQuiet older newer)
    (grown : newer.journal = added ++ older.journal) :
    ∀ entry ∈ added, entry.occurrence.isCreation = false := by
  obtain ⟨occurrences, history, quiet⟩ := grows.history
  have same : added.map Entry.occurrence = occurrences := by
    rw [State.history, grown, List.map_append] at history
    exact List.append_cancel_right history
  intro entry present
  exact (quiet _ (same ▸ List.mem_map_of_mem present)).creation

theorem KeepsPauses.append_quiet
    {added older : Journal}
    (kept : KeepsPauses older)
    (makesNone : ∀ entry ∈ added, entry.occurrence.isCreation = false) :
    KeepsPauses (added ++ older) := by
  refine List.pairwise_append.mpr ⟨List.pairwise_of_forall_mem_list ?_, kept, ?_⟩ <;>
  · intro later present earlier _ time _ makes
    simp [makesNone later present] at makes

theorem KeepsPauses.append_launch
    {told : List Event}
    {now : Nat}
    {added older : Journal}
    (kept : KeepsPauses older)
    (tells : Tells told now added)
    (schedulesNone : ∀ event ∈ told, event.isRestartScheduled = false)
    (elapsed : PausesEndBy now older) :
    KeepsPauses (added ++ older) := by
  refine List.pairwise_append.mpr ⟨List.pairwise_of_forall_mem_list ?_, kept, ?_⟩
  · intro later _ earlier present time pauses _
    obtain ⟨generation, cooldown, scheduled, _⟩ := tells.pauseEnd? present pauses
    exact absurd (schedulesNone _ scheduled) (by simp [Event.isRestartScheduled])
  · intro later present earlier before time pauses _
    rw [tells.time later present]
    exact elapsed earlier before time pauses

theorem PausesEndBy.append
    {told : List Event}
    {now bound : Nat}
    {added older : Journal}
    (elapsed : PausesEndBy bound older)
    (tells : Tells told now added)
    (scheduled : ∀ generation cooldown, .restartScheduled generation cooldown ∈ told →
      now + cooldown.milliseconds ≤ bound) :
    PausesEndBy bound (added ++ older) := by
  intro entry present time pauses
  rcases List.mem_append.mp present with new | before
  · obtain ⟨generation, cooldown, told, rfl⟩ := tells.pauseEnd? new pauses
    exact scheduled generation cooldown told
  · exact elapsed entry before time pauses

/-- The time until which a run pauses. -/
def Run.wakeTime (run : Run) : Nat :=
  match run.stage with
  | .cooling wakeTime => wakeTime
  | .launching | .joining _ | .ended _ => 0

/-- A run that keeps its pauses: until it is over all of them end by the time to which it
pauses, if they have not ended. -/
structure Run.Paces (run : Run) (state : State) : Prop where
  /-- No agent has been made during a pause. -/
  kept : KeepsPauses state.journal
  /-- All pauses but the current one are over. -/
  elapsed : run.outcome? = none → PausesEndBy (max state.now run.wakeTime) state.journal

theorem Run.Paces.unchanged
    {run : Run}
    {older newer : State}
    {told : List Event}
    {asked : List AgentId}
    (paces : run.Paces older)
    (effect : Inner told asked older newer)
    (grows : Grows Occurrence.IsQuiet older newer)
    (schedulesNone : ∀ event ∈ told, event.isRestartScheduled = false) :
    run.Paces newer := by
  obtain ⟨added, grown, tells⟩ := effect.journal
  refine ⟨?_, fun active => ?_⟩
  · rw [grown]
    exact paces.kept.append_quiet (grows.makesNone grown)
  · rw [grown, effect.now]
    refine (paces.elapsed active).append tells fun generation cooldown scheduled => ?_
    exact absurd (schedulesNone _ scheduled) (by simp [Event.isRestartScheduled])

/-- A step of a run keeps the pauses. -/
theorem Run.Turn.paces
    {scenario : Scenario}
    {state newer : State}
    {run next : Run}
    (punctual : scenario.platform.timers.FireAtDeadline)
    (turn : run.Turn scenario state next newer)
    (cohort : Roster state.cohort state)
    (paces : run.Paces state) :
    next.Paces newer := by
  -- A run that is over need not pace itself any more.
  have ended {told : List Event} {outcome : Except Failure Unit}
      (effect : Inner told [] state newer) (quiet : Quiet state newer) :
      (run.enter (.ended outcome)).Paces newer := by
    obtain ⟨added, grown, _⟩ := effect.journal
    refine ⟨?_, nofun⟩
    rw [grown]
    exact paces.kept.append_quiet (quiet.toGrows.makesNone grown)
  cases turn with
  | launches stage unforced same =>
      obtain ⟨calls, effect, _⟩ := effect_launchCohort scenario run.plan cohort.known
      rw [← same] at effect
      obtain ⟨added, grown, tells⟩ := effect.journal
      have active : run.outcome? = none := by simp [outcome?, stage]
      have elapsed := paces.elapsed active
      rw [show max state.now run.wakeTime = state.now by simp [wakeTime, stage]] at elapsed
      refine ⟨grown ▸ paces.kept.append_launch tells not_isRestartScheduled_launch elapsed,
        fun _ => ?_⟩
      rw [grown, effect.now]
      refine PausesEndBy.append ?_ tells fun generation cooldown scheduled => ?_
      · intro entry present time pauses
        exact Nat.le_trans (elapsed entry present time pauses) (Nat.le_max_left _ _)
      · exact absurd (not_isRestartScheduled_launch _ scheduled)
          (by simp [Event.isRestartScheduled])
  | refuses _ _ effect quiet | stops _ _ effect quiet | cutShort _ _ effect quiet =>
      exact ended effect quiet
  | @joins _ progress later told asked stage joinTurn effect quiet =>
      have same : run.wakeTime = (run.enter (.joining later)).wakeTime := by
        simp only [wakeTime, stage]
        rfl
      obtain ⟨_, _, passed, rfl, _⟩ := joinTurn.told
      have unchanged := paces.unchanged effect quiet.toGrows (by simp [Event.isRestartScheduled])
      refine ⟨unchanged.kept, fun _ => ?_⟩
      rw [← same]
      exact unchanged.elapsed (by simp [outcome?, stage])
  | pauses stage joined unforced effect quiet =>
      obtain ⟨added, grown, tells⟩ := effect.journal
      have elapsed := paces.elapsed (by simp [outcome?, stage])
      rw [show max state.now run.wakeTime = state.now by simp [wakeTime, stage]] at elapsed
      refine ⟨grown ▸ paces.kept.append_quiet (quiet.toGrows.makesNone grown), fun _ => ?_⟩
      rw [grown, effect.now]
      refine PausesEndBy.append ?_ tells fun generation cooldown scheduled => ?_
      · intro entry present time pauses
        exact Nat.le_trans (elapsed entry present time pauses) (Nat.le_max_left _ _)
      · obtain ⟨_, rfl⟩ : generation = _ ∧ cooldown = scenario.settings.cooldown := by
          simpa using scheduled
        simp only [wakeTime, enter, punctual.sleepEnd]
        exact Nat.le_max_right _ _
  | @wakes _ wakeTime stage late same =>
      subst same
      refine ⟨paces.kept, fun _ => ?_⟩
      have elapsed := paces.elapsed (by simp [outcome?, stage])
      simp only [Run.wakeTime, stage, Nat.max_eq_left late] at elapsed
      intro entry present time pauses
      exact Nat.le_trans (elapsed entry present time pauses) (Nat.le_max_left _ _)

end Supervision
end AgentCohort
