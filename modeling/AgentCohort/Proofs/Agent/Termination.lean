import AgentCohort.Agent.Overlap
import AgentCohort.Proofs.Agent.StatusOrder

/-!
# Agents that have ended

When those who wait for an agent are told that it is over, it is marked as stopped, and it
stays so.  This holds as long as no request to stop that has found the agent active is still
to mark it as stopping when the agent ends.  A request that is so slow marks an agent as
stopping that has ended already, and nobody corrects that any more.

The invariant is that of a single agent, and in addition that the agent is active as long as
a request that has found it so is under way.
-/

namespace AgentCohort
namespace Agent

/-! ## What moves keep -/

namespace Life

/-- What a move keeps: the flags, and in an agent that is over the stage and the status. -/
structure MoveKeeps (life next : Life) : Prop where
  /-- It starts nobody. -/
  isStartCalled : next.isStartCalled = life.isStartCalled
  /-- It asks nobody to stop. -/
  isStopRequested : next.isStopRequested = life.isStopRequested
  /-- An agent that is over does nothing more. -/
  stage : life.isOver = true → next.stage = life.stage
  /-- Nor does it get another status. -/
  status : life.isOver = true → next.status = life.status

theorem moveKeeps_setServer (server : Server) (state : ServerState) (life : Life) :
    MoveKeeps life (life.setServer server state) := by
  cases server <;> exact ⟨rfl, rfl, fun _ => rfl, fun _ => rfl⟩

/-- An agent that is not over may do anything else. -/
theorem moveKeeps_of_not_over
    {life next : Life}
    (active : life.isOver = false)
    (isStartCalled : next.isStartCalled = life.isStartCalled)
    (isStopRequested : next.isStopRequested = life.isStopRequested) :
    MoveKeeps life next :=
  ⟨isStartCalled, isStopRequested, by simp [active], by simp [active]⟩

theorem MoveKeeps.isOver
    {life next : Life}
    (keeps : MoveKeeps life next)
    (finished : life.isOver = true) :
    next.isOver = true := by
  unfold Life.isOver at finished ⊢
  rw [keeps.stage finished, keeps.isStartCalled]
  exact finished

@[simp] theorem isDone_setStatus (now : Nat) (status : Status) (life : Life) :
    (life.setStatus now status).isDone = life.isDone := by
  unfold setStatus
  split <;> rfl

@[simp] theorem isDone_announced (now : Nat) (life : Life) :
    (life.announced now).isDone = life.isDone := by
  unfold announced
  split <;> rfl

@[simp] theorem isOver_setStatus (now : Nat) (status : Status) (life : Life) :
    (life.setStatus now status).isOver = life.isOver := by
  unfold setStatus
  split <;> rfl

theorem flags_endAttempt
    (now : Nat)
    (settings : AgentSettings)
    (outcome : Outcome)
    (life : Life) :
    (life.endAttempt now settings outcome).isStartCalled = life.isStartCalled ∧
      (life.endAttempt now settings outcome).isStopRequested = life.isStopRequested ∧
      (life.endAttempt now settings outcome).isDone = life.isDone := by
  unfold endAttempt
  dsimp only
  split
  · simp [log, note]
  · split
    · exact ⟨rfl, rfl, rfl⟩
    · split <;> exact ⟨rfl, rfl, rfl⟩

theorem flags_afterDraining
    (now : Nat)
    (settings : AgentSettings)
    (server : Server)
    (life : Life) :
    (life.afterDraining now settings server).isStartCalled = life.isStartCalled ∧
      (life.afterDraining now settings server).isStopRequested = life.isStopRequested := by
  unfold afterDraining
  split <;> simp [finish, log, note]

theorem MoveKind.keeps
    {now : Nat}
    {profile : Profile}
    {life next : Life}
    (kind : MoveKind now profile life next) :
    MoveKeeps life next := by
  cases kind with
  | begins stage | retries stage =>
      exact moveKeeps_of_not_over (by simp [isOver, stage]) rfl rfl
  | attemptEnds outcome stage =>
      obtain ⟨called, asked, _⟩ := flags_endAttempt now profile.settings outcome life
      exact moveKeeps_of_not_over (by simp [isOver, stage]) called asked
  | noticesStop deadline asked interruptible =>
      have active : life.isOver = false := by
        cases stage : life.stage <;> simp_all [isOver, isInterruptible]
      exact moveKeeps_of_not_over active (by simp) (by simp)
  | changesServer server state => exact moveKeeps_setServer server state life
  | @drains server deadline stage =>
      obtain ⟨called, asked⟩ := flags_afterDraining now profile.settings server life
      exact moveKeeps_of_not_over (by simp [isOver, stage]) called asked
  | @aborts server deadline stage =>
      have closed := moveKeeps_setServer server .closed
        (life.log now (.aborting server profile.settings.stopGrace))
      obtain ⟨called, asked⟩ := flags_afterDraining now profile.settings server
        ((life.log now (.aborting server profile.settings.stopGrace)).setServer server .closed)
      exact moveKeeps_of_not_over (by simp [isOver, stage]) (called.trans closed.isStartCalled)
        (asked.trans closed.isStopRequested)

/-- A move leaves those who wait alone or ends the agent and tells them. -/
theorem MoveKind.told
    {now : Nat}
    {profile : Profile}
    {life next : Life}
    (kind : MoveKind now profile life next) :
    next.isDone = life.isDone ∨ next.isDone = true ∧ next.isOver = true := by
  have draining (server : Server) (life : Life) :
      (life.afterDraining now profile.settings server).isDone = life.isDone ∨
        (life.afterDraining now profile.settings server).isDone = true ∧
          (life.afterDraining now profile.settings server).isOver = true := by
    unfold afterDraining
    split
    · exact .inr ⟨rfl, rfl⟩
    · exact .inr ⟨rfl, rfl⟩
    · exact .inl rfl
  cases kind with
  | begins | retries => exact .inl rfl
  | attemptEnds outcome => exact .inl (flags_endAttempt now profile.settings outcome life).2.2
  | noticesStop => exact .inl (by simp)
  | changesServer server state => cases server <;> exact .inl rfl
  | @drains server => exact draining server life
  | @aborts server =>
      have aborted := draining server
        ((life.log now (.aborting server profile.settings.stopGrace)).setServer server .closed)
      cases server <;> exact aborted

/-! ## Agents that are over -/

namespace Sound

variable {life : Life}

/-- An agent that is over is marked as stopped. -/
theorem status_of_isOver (sound : life.Sound) (finished : life.isOver = true) :
    life.isStartCalled = true ∧ life.status = .stopped := by
  have permits := sound.permits
  cases stage : life.stage with
  | idle =>
      rw [stage] at permits
      have called : life.isStartCalled = true := by simpa [isOver, stage] using finished
      refine ⟨called, ?_⟩
      rw [show life.status = _ from permits, called, if_pos rfl]
  | ended =>
      rw [stage] at permits
      exact permits
  | spawned | attempting | pausing | serving | draining => simp [isOver, stage] at finished

/-- An agent that has been started and is not over is active. -/
theorem isActive_of_started
    (sound : life.Sound)
    (started : life.isStartCalled = true)
    (running : life.isOver = false) :
    life.status.isActive = true := by
  have permits := sound.permits
  cases stage : life.stage with
  | idle => simp [isOver, stage, started] at running
  | ended => simp [isOver, stage] at running
  | spawned | attempting | pausing | serving =>
      rw [stage] at permits
      obtain ⟨_, status | status⟩ := permits <;> rw [status] <;> rfl
  | draining =>
      rw [stage] at permits
      rw [permits.2]
      rfl

/-- An active agent has been started. -/
theorem isStartCalled_of_isActive (sound : life.Sound) (active : life.status.isActive = true) :
    life.isStartCalled = true := by
  cases called : life.isStartCalled with
  | true => rfl
  | false => simp [(sound.of_not_started called).2, Status.isActive] at active

end Sound
end Life

/-! ## Overlapping requests -/

namespace Overlap

/-- A step at any time. -/
def Step (profile : Profile) (before after : Overlap) : Prop :=
  ∃ now act, before.after? now profile act = some after

/-- Any number of steps. -/
abbrev Steps (profile : Profile) : Overlap → Overlap → Prop :=
  Relation.ReflTransGen (Step profile)

/-- A step in which the agent does not end while a request that has found it active is still
to mark it as stopping. -/
def PromptStep (profile : Profile) (before after : Overlap) : Prop :=
  Step profile before after ∧
    (before.life.isOver = false → after.life.isOver = true → .found ∉ before.callers)

/-- What prompt steps lead to. -/
structure Prompt (overlap : Overlap) : Prop where
  /-- The agent is as it is without overlaps. -/
  sound : overlap.life.Sound
  /-- It was asked to stop by a request that goes on. -/
  asked : ∀ caller ∈ overlap.callers, caller = .sent ∨ caller = .found →
    overlap.life.isStopRequested = true
  /-- It is active as long as a request that has found it so goes on. -/
  found : .found ∈ overlap.callers → overlap.life.status.isActive = true
  /-- Those who wait are told only when it is over. -/
  done : overlap.life.isDone = true → overlap.life.isOver = true

theorem prompt_initial : initial.Prompt where
  sound := Life.sound_initial
  asked := by simp [initial]
  found := by simp [initial]
  done := by simp [initial, Life.initial]

namespace Prompt

variable {overlap : Overlap}

/-- A new request has done nothing yet. -/
theorem call (prompt : overlap.Prompt) :
    { overlap with callers := overlap.callers ++ [Caller.begun] }.Prompt where
  sound := prompt.sound
  asked caller present going := by
    rcases List.mem_append.mp present with before | new
    · exact prompt.asked caller before going
    · simp [List.mem_singleton.mp new] at going
  found present := by
    rcases List.mem_append.mp present with before | new
    · exact prompt.found before
    · simp at new
  done := prompt.done

/-- The agent changes in what has nothing to do with its end. -/
theorem withLife
    {life : Life}
    (prompt : overlap.Prompt)
    (sound : life.Sound)
    (asked : life.isStopRequested = overlap.life.isStopRequested)
    (status : life.status = overlap.life.status)
    (done : life.isDone = true → life.isOver = true) :
    { overlap with life := life }.Prompt where
  sound := sound
  asked caller present going := asked.trans (prompt.asked caller present going)
  found present := by
    change life.status.isActive = true
    rw [status]
    exact prompt.found present
  done := done

theorem stepCaller
    {now index : Nat}
    {caller next : Caller}
    {life : Life}
    (prompt : overlap.Prompt)
    (found : overlap.callers[index]? = some caller)
    (stepped : caller.step? now overlap.life = some (next, life)) :
    Prompt ⟨life, overlap.callers.set index next⟩ := by
  have present := List.mem_of_getElem? found
  have others {other : Caller} (among : other ∈ overlap.callers.set index next)
      (different : other ≠ next) : other ∈ overlap.callers :=
    (List.mem_or_eq_of_mem_set among).resolve_right different
  cases caller with
  | begun =>
      simp only [Caller.step?] at stepped
      split at stepped
      · obtain ⟨rfl, rfl⟩ := Prod.mk.inj (Option.some.inj stepped)
        refine ⟨prompt.sound, ?_, ?_, prompt.done⟩
        · intro other among going
          exact prompt.asked other (others among (by rintro rfl; simp at going)) going
        · exact fun among => prompt.found (others among (by simp))
      · obtain ⟨rfl, rfl⟩ := Prod.mk.inj (Option.some.inj stepped)
        refine ⟨prompt.sound.request now, fun _ _ _ => rfl, ?_, prompt.done⟩
        exact fun among => prompt.found (others among (by simp))
  | sent =>
      have requested := prompt.asked .sent present (.inl rfl)
      simp only [Caller.step?, Option.some.injEq, Prod.mk.injEq] at stepped
      obtain ⟨rfl, rfl⟩ := stepped
      refine ⟨prompt.sound, fun _ _ _ => requested, fun among => ?_, prompt.done⟩
      by_cases active : overlap.life.status.isActive = true
      · exact active
      · exact prompt.found (others among (by simp [active]))
  | found =>
      obtain ⟨rfl, rfl⟩ := Prod.mk.inj (Option.some.inj stepped)
      have requested := prompt.asked .found present (.inr rfl)
      refine ⟨prompt.sound.stopping requested (prompt.found present) now, ?_, ?_, ?_⟩
      · intro _ _ _
        exact (Life.isStopRequested_setStatus now .stopping overlap.life).trans requested
      · intro _
        change (overlap.life.setStatus now .stopping).status.isActive = true
        rw [Life.status_setStatus]
        rfl
      · intro done
        change (overlap.life.setStatus now .stopping).isDone = true at done
        change (overlap.life.setStatus now .stopping).isOver = true
        rw [Life.isDone_setStatus] at done
        rw [Life.isOver_setStatus]
        exact prompt.done done
  | returned => simp [Caller.step?] at stepped

theorem start
    (prompt : overlap.Prompt)
    (now : Nat)
    (blueprint : Blueprint)
    (bindFailure? : Option Failure) :
    (overlap.become (overlap.life.start now blueprint bindFailure?).1).Prompt := by
  cases called : overlap.life.isStartCalled with
  | true =>
      simp only [Life.start, called, if_true]
      exact prompt
  | false =>
      obtain ⟨idle, created⟩ := prompt.sound.of_not_started called
      have sound := prompt.sound.start now blueprint bindFailure?
      have nobody : .found ∉ overlap.callers := by
        intro present
        simpa [created, Status.isActive] using prompt.found present
      have asked : (overlap.life.start now blueprint bindFailure?).1.isStopRequested =
          overlap.life.isStopRequested := by
        cases bindFailure? <;> simp [Life.start, called, Life.finish]
      refine ⟨⟨⟨sound.status, sound.climbs, sound.requested⟩, sound.permits, sound.asked⟩,
        ?_, ?_, ?_⟩
      · exact fun caller present going => asked.trans (prompt.asked caller present going)
      · exact fun present => absurd present nobody
      · intro done
        have finished := prompt.done done
        simp [Life.isOver, idle, called] at finished

/-- An agent that has not ended before ends only when no request has found it active. -/
theorem become
    {life : Life}
    (prompt : overlap.Prompt)
    (sound : life.Sound)
    (called : life.isStartCalled = overlap.life.isStartCalled)
    (asked : life.isStopRequested = overlap.life.isStopRequested)
    (stays : overlap.life.isOver = true → life.isOver = true)
    (ends : overlap.life.isOver = false → life.isOver = true → .found ∉ overlap.callers) :
    (overlap.become life).Prompt where
  sound := ⟨⟨sound.status, sound.climbs, sound.requested⟩, sound.permits, sound.asked⟩
  asked caller present going := asked.trans (prompt.asked caller present going)
  found present := by
    have active := prompt.found present
    have started := called.trans (prompt.sound.isStartCalled_of_isActive active)
    cases finished : life.isOver with
    | false => exact sound.isActive_of_started started finished
    | true =>
        -- The agent ends in this step, or it was over before and then not active.
        cases before : overlap.life.isOver with
        | false => exact absurd present (ends before finished)
        | true => simp [(prompt.sound.status_of_isOver before).2, Status.isActive] at active
  done done := stays (prompt.done done)

theorem breakOff
    (prompt : overlap.Prompt)
    (now : Nat)
    (busy : ¬(overlap.life.stage = .idle ∨ overlap.life.stage = .ended))
    (nobody : .found ∉ overlap.callers) :
    (overlap.become (overlap.life.breakOff now)).Prompt := by
  have called : overlap.life.isStartCalled = true := by
    cases called : overlap.life.isStartCalled with
    | true => rfl
    | false => exact absurd (.inl (prompt.sound.of_not_started called).1) busy
  have calledAfter := (Life.isStartCalled_setStatus now .stopped overlap.life).trans called
  have recorded := prompt.sound.toRecorded.finish now
  refine prompt.become ⟨⟨recorded.status, recorded.climbs, recorded.requested⟩, ?_, ?_⟩
    (calledAfter.trans called.symm) (Life.isStopRequested_setStatus now .stopped overlap.life)
    (fun _ => rfl) (fun _ _ => nobody)
  · exact ⟨calledAfter, Life.status_setStatus now .stopped overlap.life⟩
  · simp [Life.breakOff]

theorem after
    {profile : Profile}
    {next : Overlap}
    (prompt : overlap.Prompt)
    (step : PromptStep profile overlap next) :
    next.Prompt := by
  obtain ⟨⟨now, act, possible⟩, ends⟩ := step
  cases act with
  | call =>
      obtain rfl := Option.some.inj possible
      exact prompt.call
  | deliver message =>
      let counted := { overlap.life with messagesReceived := overlap.life.messagesReceived + 1 }
      have sound : counted.Sound :=
        ⟨⟨prompt.sound.status, prompt.sound.climbs, prompt.sound.requested⟩,
          prompt.sound.permits, prompt.sound.asked⟩
      cases message with
      | stop =>
          obtain rfl := Option.some.inj possible
          exact (prompt.withLife (sound.log now .toldToStop) rfl rfl prompt.done).call
      | ping | other =>
          obtain rfl := Option.some.inj possible
          exact prompt.withLife sound rfl rfl prompt.done
  | stepCaller index =>
      simp only [after?, Option.bind_eq_bind, Option.bind_eq_some_iff] at possible
      obtain ⟨caller, found, ⟨next, life⟩, stepped, same⟩ := possible
      obtain rfl := Option.some.inj same
      exact prompt.stepCaller found stepped
  | start bindFailure? =>
      obtain rfl := Option.some.inj possible
      exact prompt.start now profile.blueprint bindFailure?
  | move move =>
      obtain ⟨life, moved, rfl⟩ := Option.map_eq_some_iff.mp possible
      have kind := Life.moveKind_of_step? moved
      exact prompt.become (prompt.sound.move kind) kind.keeps.isStartCalled
        kind.keeps.isStopRequested kind.keeps.isOver ends
  | breakOff =>
      simp only [after?, Option.ite_none_left_eq_some, Option.some.injEq] at possible
      obtain ⟨busy, rfl⟩ := possible
      refine prompt.breakOff now busy (ends ?_ rfl)
      cases stage : overlap.life.stage <;> simp_all [Life.isOver]
  | announce =>
      simp only [after?, Option.ite_none_right_eq_some, Option.some.injEq] at possible
      obtain ⟨finished, rfl⟩ := possible
      have sound : { overlap.life with isDone := true }.Sound :=
        ⟨⟨prompt.sound.status, prompt.sound.climbs, prompt.sound.requested⟩,
          prompt.sound.permits, prompt.sound.asked⟩
      exact prompt.withLife sound rfl rfl fun _ => finished

end Prompt

theorem prompt_of_promptSteps
    {profile : Profile}
    {overlap : Overlap}
    (steps : Relation.ReflTransGen (PromptStep profile) initial overlap) :
    overlap.Prompt := by
  induction steps with
  | refl => exact prompt_initial
  | tail _ step inductionHypothesis => exact inductionHypothesis.after step

/-! ## Agents of which the end has been announced -/

/-- The agent has ended for good: nothing can change its status any more. -/
structure Settled (overlap : Overlap) : Prop where
  /-- Those who wait have been told. -/
  done : overlap.life.isDone = true
  /-- It is over. -/
  finished : overlap.life.isOver = true
  /-- It cannot be started again. -/
  started : overlap.life.isStartCalled = true
  /-- It is marked as stopped. -/
  status : overlap.life.status = .stopped
  /-- No request has found it active. -/
  nobody : .found ∉ overlap.callers

theorem Prompt.settled
    {overlap : Overlap}
    (prompt : overlap.Prompt)
    (done : overlap.life.isDone = true) :
    overlap.Settled := by
  have finished := prompt.done done
  obtain ⟨started, stopped⟩ := prompt.sound.status_of_isOver finished
  refine ⟨done, finished, started, stopped, fun present => ?_⟩
  simpa [stopped, Status.isActive] using prompt.found present

theorem Settled.after
    {profile : Profile}
    {overlap next : Overlap}
    (settled : overlap.Settled)
    (step : Step profile overlap next) :
    next.Settled := by
  obtain ⟨now, act, possible⟩ := step
  have nobodyNew : .found ∉ overlap.callers ++ [Caller.begun] := by
    simp [settled.nobody]
  cases act with
  | call =>
      obtain rfl := Option.some.inj possible
      exact ⟨settled.done, settled.finished, settled.started, settled.status, nobodyNew⟩
  | deliver message =>
      cases message with
      | stop =>
          obtain rfl := Option.some.inj possible
          exact ⟨settled.done, settled.finished, settled.started, settled.status, nobodyNew⟩
      | ping | other =>
          obtain rfl := Option.some.inj possible
          exact ⟨settled.done, settled.finished, settled.started, settled.status, settled.nobody⟩
  | stepCaller index =>
      simp only [after?, Option.bind_eq_bind, Option.bind_eq_some_iff] at possible
      obtain ⟨caller, found, ⟨next, life⟩, stepped, same⟩ := possible
      obtain rfl := Option.some.inj same
      have present := List.mem_of_getElem? found
      have others (different : next ≠ .found) : .found ∉ overlap.callers.set index next :=
        fun among => (List.mem_or_eq_of_mem_set among).elim settled.nobody
          fun same => different same.symm
      cases caller with
      | begun =>
          simp only [Caller.step?] at stepped
          split at stepped
          · obtain ⟨rfl, rfl⟩ := Prod.mk.inj (Option.some.inj stepped)
            exact ⟨settled.done, settled.finished, settled.started, settled.status,
              others (by simp)⟩
          · obtain ⟨rfl, rfl⟩ := Prod.mk.inj (Option.some.inj stepped)
            exact ⟨settled.done, settled.finished, settled.started, settled.status,
              others (by simp)⟩
      | sent =>
          simp only [Caller.step?, settled.status] at stepped
          obtain ⟨rfl, rfl⟩ := Prod.mk.inj (Option.some.inj stepped)
          exact ⟨settled.done, settled.finished, settled.started, settled.status,
            others (by simp [Status.isActive])⟩
      | found => exact absurd present settled.nobody
      | returned => simp [Caller.step?] at stepped
  | start bindFailure? =>
      obtain rfl := Option.some.inj possible
      simp only [Life.start, settled.started, if_true]
      exact settled
  | move move =>
      obtain ⟨life, moved, rfl⟩ := Option.map_eq_some_iff.mp possible
      have keeps := (Life.moveKind_of_step? moved).keeps
      exact ⟨settled.done, keeps.isOver settled.finished,
        keeps.isStartCalled.trans settled.started,
        (keeps.status settled.finished).trans settled.status, settled.nobody⟩
  | breakOff =>
      simp only [after?, Option.ite_none_left_eq_some, Option.some.injEq] at possible
      obtain ⟨busy, rfl⟩ := possible
      have finished := settled.finished
      cases stage : overlap.life.stage <;> simp_all [Life.isOver]
  | announce =>
      simp only [after?, Option.ite_none_right_eq_some, Option.some.injEq] at possible
      obtain ⟨_, rfl⟩ := possible
      exact ⟨rfl, settled.finished, settled.started, settled.status, settled.nobody⟩

/-! ## Without overlaps -/

theorem steps_perform
    {profile : Profile}
    {acts : List (Nat × Act)}
    {overlap later : Overlap}
    (performed : overlap.perform profile acts = some later) :
    Steps profile overlap later := by
  induction acts generalizing overlap with
  | nil =>
      obtain rfl := Option.some.inj performed
      exact .refl
  | cons first acts inductionHypothesis =>
      obtain ⟨next, possible, rest⟩ := Option.bind_eq_some_iff.mp performed
      exact .head ⟨first.1, first.2, possible⟩ (inductionHypothesis rest)

theorem after?_stepCaller
    {now : Nat}
    {profile : Profile}
    {caller next : Caller}
    {life later : Life}
    {callers : List Caller}
    (stepped : caller.step? now life = some (next, later)) :
    Step profile ⟨life, callers ++ [caller]⟩ ⟨later, callers ++ [next]⟩ := by
  refine ⟨now, .stepCaller callers.length, ?_⟩
  simp [after?, stepped]

/-- A request to stop that nothing interrupts. -/
theorem steps_requestStop
    (now : Nat)
    (profile : Profile)
    (life : Life)
    (callers : List Caller) :
    Steps profile ⟨life, callers⟩ ⟨life.requestStop now, callers ++ [.returned]⟩ := by
  have begun : Steps profile ⟨life, callers⟩ ⟨life, callers ++ [.begun]⟩ :=
    .single ⟨now, .call, rfl⟩
  cases asked : life.isStopRequested with
  | true =>
      have returned : Caller.begun.step? now life = some (.returned, life) := by
        simp [Caller.step?, asked]
      simp only [Life.requestStop, asked, if_true]
      exact begun.tail (after?_stepCaller returned)
  | false =>
      let told := { life with isStopRequested := true }.log now .stopRequested
      have sent : Caller.begun.step? now life = some (.sent, told) := by
        simp [Caller.step?, asked, told]
      have sending : Steps profile ⟨life, callers⟩ ⟨told, callers ++ [.sent]⟩ :=
        begun.tail (after?_stepCaller sent)
      cases active : told.status.isActive with
      | true =>
          have found : Caller.sent.step? now told = some (.found, told) := by
            simp [Caller.step?, active]
          have stopping : Caller.found.step? now told =
              some (.returned, told.setStatus now .stopping) := rfl
          have requested : life.requestStop now = told.setStatus now .stopping := by
            simp only [Life.requestStop, asked, Bool.false_eq_true, if_false]
            exact if_pos active
          rw [requested]
          exact (sending.tail (after?_stepCaller found)).tail (after?_stepCaller stopping)
      | false =>
          have returned : Caller.sent.step? now told = some (.returned, told) := by
            simp [Caller.step?, active]
          have requested : life.requestStop now = told := by
            simp only [Life.requestStop, asked, Bool.false_eq_true, if_false]
            exact if_neg (by simp [told, active])
          rw [requested]
          exact sending.tail (after?_stepCaller returned)

/-- A change that either leaves those who wait alone or ends the agent and tells them, as one
step or two. -/
theorem steps_become
    (now : Nat)
    {profile : Profile}
    (act : Act)
    {life next : Life}
    {callers : List Caller}
    (possible : after? now profile ⟨life, callers⟩ act = some (become ⟨life, callers⟩ next))
    (told : next.isDone = life.isDone ∨ next.isDone = true ∧ next.isOver = true) :
    Steps profile ⟨life, callers⟩ ⟨next, callers⟩ := by
  have changed : Steps profile ⟨life, callers⟩ (become ⟨life, callers⟩ next) :=
    .single ⟨now, act, possible⟩
  rcases told with same | ⟨done, finished⟩
  · have unchanged : become ⟨life, callers⟩ next = ⟨next, callers⟩ := by
      simp [become, ← same]
    rw [← unchanged]
    exact changed
  · have announced : after? now profile (become ⟨life, callers⟩ next) .announce =
        some ⟨next, callers⟩ := by
      have overNow : (become ⟨life, callers⟩ next).life.isOver = true := finished
      simp only [after?, overNow, if_true]
      simp [become, ← done]
    exact changed.tail ⟨now, .announce, announced⟩

/-- A start that nothing interrupts. -/
theorem steps_start
    (now : Nat)
    (profile : Profile)
    (bindFailure? : Option Failure)
    {life : Life}
    (callers : List Caller)
    (idle : life.isStartCalled = false → life.stage = .idle) :
    Steps profile ⟨life, callers⟩
      ⟨(life.start now profile.blueprint bindFailure?).1, callers⟩ := by
  refine steps_become now (.start bindFailure?) rfl ?_
  cases called : life.isStartCalled with
  | true => simp [Life.start, called]
  | false =>
      cases bindFailure? with
      | none => simp [Life.start, called]
      | some failure => simp [Life.start, called, Life.finish, Life.isOver, idle called]

/-- A move that nothing interrupts. -/
theorem steps_move
    {now : Nat}
    {profile : Profile}
    {move : Move}
    {life next : Life}
    (callers : List Caller)
    (possible : life.step? now profile move = some next) :
    Steps profile ⟨life, callers⟩ ⟨next, callers⟩ := by
  have moved : after? now profile ⟨life, callers⟩ (.move move) =
      some (become ⟨life, callers⟩ next) := by
    simp [after?, possible]
  exact steps_become now (.move move) moved (Life.moveKind_of_step? possible).told

/-- As long as the agent does not end while a request that has found it active is still to
mark it as stopping: when those who wait for it have been told, it is marked as stopped, and
it stays so whatever happens. -/
theorem stopped_of_done
    {profile : Profile}
    {overlap later : Overlap}
    (prompt : Relation.ReflTransGen (PromptStep profile) initial overlap)
    (done : overlap.life.isDone = true)
    (steps : Steps profile overlap later) :
    later.life.isDone = true ∧ later.life.status = .stopped := by
  have settled : later.Settled := by
    induction steps with
    | refl => exact (prompt_of_promptSteps prompt).settled done
    | tail _ step inductionHypothesis => exact inductionHypothesis.after step
  exact ⟨settled.done, settled.status⟩

/-- An agent that has been started and told that it is to stop, by a request that goes on. -/
def toldToStop : List (Nat × Act) :=
  [(0, .start none), (1, .call), (1, .stepCaller 0)]

/-- It notices that and ends, and those who wait are told. -/
def ending : List (Nat × Act) :=
  [(1, .move .noticeStop), (1, .move (.closeListener .messages)),
    (1, .move (.serverEnds .messages)), (1, .move .drained), (1, .announce)]

/-- What acts lead to from the beginning. -/
def outcome (acts : List (Nat × Act)) : Overlap :=
  (initial.perform Life.plainProfile acts).getD initial

/-- The request looks only after that whether the agent is active. -/
theorem stopped_of_done_ending :
    (outcome (toldToStop ++ ending)).life.isDone = true ∧
      (outcome (toldToStop ++ ending ++ [(2, .stepCaller 0)])).life.isDone = true ∧
      (outcome (toldToStop ++ ending ++ [(2, .stepCaller 0)])).life.status = .stopped := by
  have prompt : Relation.ReflTransGen (PromptStep Life.plainProfile) initial
      (outcome (toldToStop ++ ending)) := by
    have started : Relation.ReflTransGen (PromptStep Life.plainProfile) initial _ :=
      .single ⟨⟨0, .start none, rfl⟩, by decide⟩
    have told := (started.tail ⟨⟨1, .call, rfl⟩, by decide⟩).tail
      ⟨⟨1, .stepCaller 0, rfl⟩, by decide⟩
    have noticed := told.tail ⟨⟨1, .move .noticeStop, rfl⟩, by decide⟩
    have closed := (noticed.tail ⟨⟨1, .move (.closeListener .messages), rfl⟩, by decide⟩).tail
      ⟨⟨1, .move (.serverEnds .messages), rfl⟩, by decide⟩
    exact (closed.tail ⟨⟨1, .move .drained, rfl⟩, by decide⟩).tail
      ⟨⟨1, .announce, rfl⟩, by decide⟩
  have looked : Steps Life.plainProfile (outcome (toldToStop ++ ending))
      (outcome (toldToStop ++ ending ++ [(2, .stepCaller 0)])) :=
    .single ⟨2, .stepCaller 0, by decide⟩
  exact ⟨by decide, stopped_of_done prompt (by decide) looked⟩

/-- An agent may be marked as stopping when those who wait for it have been told that it is
over: the request has found it active before it ended. -/
theorem stopping_of_done :
    ¬ ∀ (profile : Profile) (overlap : Overlap), Steps profile initial overlap →
      overlap.life.isDone = true → overlap.life.status = .stopped := by
  intro alwaysStopped
  let acts := toldToStop ++ [(1, .stepCaller 0)] ++ ending ++ [(2, .stepCaller 0)]
  have performed : initial.perform Life.plainProfile acts = some (outcome acts) := by decide
  have stopped :=
    alwaysStopped Life.plainProfile (outcome acts) (steps_perform performed) (by decide)
  revert stopped
  decide

end Overlap
end Agent
end AgentCohort
