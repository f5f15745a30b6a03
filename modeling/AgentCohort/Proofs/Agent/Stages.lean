import AgentCohort.Proofs.Agent.Termination

/-!
# What the stages of an agent tell

What an agent is doing tells when it may have been started and accepted by the orchestrator,
whether those who wait for it have been told, and which of its servers are gone.  The
servers are drained one after the other, so an agent that waits for the second one is rid of
the first, and an agent that has ended is rid of both.

A server that is gone stays so as long as nobody starts the agent.
-/

namespace AgentCohort
namespace Agent

/-- Whether an agent may have been accepted while it is doing something. -/
def Stage.PermitsRegistered (isRegistered : Bool) : Stage → Prop
  | .idle | .spawned | .attempting | .pausing _ => isRegistered = false
  | .serving => isRegistered = true
  | .draining .. | .ended => True

/-- Whether a server has to be gone while the agent is doing something. -/
def Stage.isRidOf : Stage → Server → Bool
  | .idle, _ | .ended, _ | .draining .userInterface _, .messages => true
  | .spawned, _ | .attempting, _ | .pausing _, _ | .serving, _ => false
  | .draining .messages _, _ | .draining .userInterface _, .userInterface => false

namespace Life

/-! ## What small changes leave alone -/

theorem exists_setStatus (now : Nat) (status : Status) (life : Life) :
    ∃ journal, life.setStatus now status =
      { life with status := status, journal := journal } := by
  unfold setStatus
  split
  · rename_i same
    exact ⟨life.journal, by rw [← same]⟩
  · exact ⟨_, rfl⟩

theorem exists_setStatus_announced (now : Nat) (status : Status) (life : Life) :
    ∃ journal, (life.announced now).setStatus now status =
      { life with status := status, journal := journal } := by
  obtain ⟨journal, same⟩ := exists_setStatus now status (life.announced now)
  refine ⟨journal, same.trans ?_⟩
  unfold announced
  split <;> rfl

theorem exists_requestStop (now : Nat) (life : Life) :
    ∃ status journal, life.requestStop now =
      { life with isStopRequested := true, status := status, journal := journal } := by
  unfold requestStop
  split
  · rename_i asked
    exact ⟨life.status, life.journal, by rw [← asked]⟩
  · dsimp only
    split
    · obtain ⟨journal, same⟩ := exists_setStatus now .stopping
        ({ life with isStopRequested := true }.log now .stopRequested)
      exact ⟨.stopping, journal, same⟩
    · exact ⟨life.status, _, rfl⟩

theorem exists_receive (now : Nat) (message : Message) (life : Life) :
    ∃ asked status journal, life.receive now message =
      { life with
        isStopRequested := life.isStopRequested || asked
        messagesReceived := life.messagesReceived + 1
        status := status
        journal := journal } := by
  cases message with
  | stop =>
      obtain ⟨status, journal, same⟩ := exists_requestStop now
        ({ life with messagesReceived := life.messagesReceived + 1 }.log now .toldToStop)
      refine ⟨true, status, journal, ?_⟩
      rw [Bool.or_true]
      exact same
  | ping | other =>
      refine ⟨false, life.status, life.journal, ?_⟩
      rw [Bool.or_false]
      rfl

theorem exists_answer
    (now : Nat)
    (clock : Nat → Instant)
    (profile : Profile)
    (server : Server)
    (request : Network.Http.Request)
    (life : Life) :
    ∃ asked received status journal, (life.answer now clock profile server request).1 =
      { life with
        isStopRequested := life.isStopRequested || asked
        messagesReceived := received
        status := status
        journal := journal } := by
  unfold answer
  split
  · rename_i message _
    obtain ⟨asked, status, journal, same⟩ := exists_receive now message life
    rw [same]
    exact ⟨asked, _, _, _, rfl⟩
  · refine ⟨false, life.messagesReceived, life.status, ?_⟩
    rw [Bool.or_false]
    exact ⟨_, rfl⟩

/-- A start succeeds the first time, if the ports can be bound. -/
theorem start_eq_ok_iff
    (now : Nat)
    (blueprint : Blueprint)
    (bindFailure? : Option Failure)
    (life : Life) :
    (life.start now blueprint bindFailure?).2 = .ok () ↔
      life.isStartCalled = false ∧ bindFailure? = none := by
  unfold start
  cases life.isStartCalled <;> cases bindFailure? <;> simp

/-! ## Flags -/

/-- What an agent is doing fits what is known of its start, its end and its registration. -/
structure Staged (life : Life) : Prop where
  /-- The time of the start is known as soon as it has been started. -/
  startedAt : life.startedAt?.isSome = true ↔ life.stage ≠ .idle
  /-- Those who wait for it have been told if it is over. -/
  done : life.isDone = life.isOver
  /-- It has been accepted if it serves. -/
  registered : life.stage.PermitsRegistered life.isRegistered

theorem staged_initial : initial.Staged where
  startedAt := by simp [initial]
  done := rfl
  registered := rfl

namespace Staged

variable {life : Life}

/-- The agent changes in what has nothing to do with its stage. -/
theorem copy
    {next : Life}
    (staged : life.Staged)
    (startedAt? : next.startedAt? = life.startedAt?)
    (stage : next.stage = life.stage)
    (isDone : next.isDone = life.isDone)
    (isStartCalled : next.isStartCalled = life.isStartCalled)
    (isRegistered : next.isRegistered = life.isRegistered) :
    next.Staged where
  startedAt := by
    rw [startedAt?, stage]
    exact staged.startedAt
  done := by
    have same : next.isOver = life.isOver := by
      unfold isOver
      rw [stage, isStartCalled]
    rw [isDone, same]
    exact staged.done
  registered := by
    rw [stage, isRegistered]
    exact staged.registered

theorem setServer (staged : life.Staged) (server : Server) (state : ServerState) :
    (life.setServer server state).Staged := by
  cases server <;> exact staged.copy rfl rfl rfl rfl rfl

/-- A busy agent does something else and is not over then either. -/
theorem enter
    {next : Life}
    (staged : life.Staged)
    (busy : life.stage ≠ .idle ∧ life.isOver = false)
    (stillBusy : next.stage ≠ .idle ∧ next.isOver = false)
    (startedAt? : next.startedAt? = life.startedAt?)
    (isDone : next.isDone = life.isDone)
    (registered : next.stage.PermitsRegistered next.isRegistered) :
    next.Staged where
  startedAt := by
    rw [startedAt?]
    exact iff_of_true (staged.startedAt.mpr busy.1) stillBusy.1
  done := by
    rw [isDone, staged.done, busy.2, stillBusy.2]
  registered := registered

theorem start
    (staged : life.Staged)
    (sound : life.Sound)
    (now : Nat)
    (blueprint : Blueprint)
    (bindFailure? : Option Failure) :
    (life.start now blueprint bindFailure?).1.Staged := by
  cases called : life.isStartCalled with
  | true =>
      simp only [Life.start, called, if_true]
      exact staged
  | false =>
      obtain ⟨idle, _⟩ := sound.of_not_started called
      have notDone : life.isDone = false := by
        rw [staged.done]
        simp [isOver, idle, called]
      have unregistered : life.isRegistered = false := by
        have registered := staged.registered
        rw [idle] at registered
        exact registered
      simp only [Life.start, called, Bool.false_eq_true, if_false]
      cases bindFailure? with
      | some failure =>
          obtain ⟨journal, same⟩ := exists_setStatus now .stopped
            { life with isStartCalled := true }
          simp only [finish, same]
          refine ⟨staged.startedAt, ?_, staged.registered⟩
          simp [isOver, idle]
      | none =>
          obtain ⟨journal, same⟩ := exists_setStatus now .registering
            { life with
              isStartCalled := true
              startedAt? := some now
              stage := .spawned
              messageServer := .listening 0
              uiServer := if blueprint.uiPort?.isSome then .listening 0 else .absent }
          simp only [same]
          exact ⟨by simp, notDone, unregistered⟩

theorem beginAttempt
    (staged : life.Staged)
    (busy : life.stage ≠ .idle ∧ life.isOver = false)
    (unregistered : life.isRegistered = false)
    (now : Nat)
    (blueprint : Blueprint) :
    (life.beginAttempt now blueprint).Staged :=
  staged.enter busy ⟨by simp [Life.beginAttempt, note], rfl⟩ rfl rfl unregistered

theorem endAttempt
    (staged : life.Staged)
    (attempting : life.stage = .attempting)
    (now : Nat)
    (settings : AgentSettings)
    (outcome : Outcome) :
    (life.endAttempt now settings outcome).Staged := by
  have busy : life.stage ≠ .idle ∧ life.isOver = false := by simp [attempting, isOver]
  have unregistered : life.isRegistered = false := by
    have registered := staged.registered
    rw [attempting] at registered
    exact registered
  unfold Life.endAttempt
  dsimp only
  split
  · obtain ⟨journal, same⟩ := exists_setStatus now .running
      { life.note now (.outcome outcome) with isRegistered := true, stage := .serving }
    rw [same]
    exact staged.enter busy ⟨by simp [log, note], rfl⟩ rfl rfl rfl
  · have pausing : { life.note now (.outcome outcome) with
        stage := .pausing (now + settings.registrationRetry.milliseconds) }.Staged :=
      staged.enter busy ⟨by simp, rfl⟩ rfl rfl unregistered
    split
    · exact pausing.copy rfl rfl rfl rfl rfl
    · split
      · exact pausing.copy rfl rfl rfl rfl rfl
      · exact pausing

theorem afterDraining
    {other : Server}
    {deadline : Nat}
    (staged : life.Staged)
    (draining : life.stage = .draining other deadline)
    (now : Nat)
    (settings : AgentSettings)
    (server : Server) :
    (life.afterDraining now settings server).Staged := by
  have busy : life.stage ≠ .idle ∧ life.isOver = false := by simp [draining, isOver]
  have finished : { (life.log now .stopped).finish now with stage := .ended }.Staged := by
    obtain ⟨journal, same⟩ := exists_setStatus now .stopped (life.log now .stopped)
    simp only [finish, same]
    exact ⟨iff_of_true (staged.startedAt.mpr busy.1) (by simp), rfl, trivial⟩
  unfold Life.afterDraining
  split
  · exact finished
  · exact finished
  · exact staged.enter busy ⟨by simp, rfl⟩ rfl rfl trivial

theorem move
    {now : Nat}
    {profile : Profile}
    {next : Life}
    (staged : life.Staged)
    (kind : MoveKind now profile life next) :
    next.Staged := by
  have registered := staged.registered
  cases kind with
  | begins stage =>
      rw [stage] at registered
      have listening : (life.log now .listening).Staged := staged.copy rfl rfl rfl rfl rfl
      exact listening.beginAttempt (by simp [log, note, stage, isOver]) registered now _
  | retries stage =>
      rw [stage] at registered
      exact staged.beginAttempt (by simp [stage, isOver]) registered now _
  | attemptEnds outcome stage => exact staged.endAttempt stage now profile.settings outcome
  | noticesStop deadline _ interruptible =>
      have busy : life.stage ≠ .idle ∧ life.isOver = false := by
        cases stage : life.stage <;> simp_all [isInterruptible, isOver]
      obtain ⟨journal, same⟩ := exists_setStatus_announced now .stopping life
      rw [same]
      exact staged.enter busy ⟨by simp, rfl⟩ rfl rfl trivial
  | changesServer server state => exact staged.setServer server state
  | drains stage => exact staged.afterDraining stage now profile.settings _
  | @aborts server deadline stage =>
      have logged : (life.log now (.aborting server profile.settings.stopGrace)).Staged :=
        staged.copy rfl rfl rfl rfl rfl
      have draining := (stage_setServer server .closed
        (life.log now (.aborting server profile.settings.stopGrace))).trans stage
      exact (logged.setServer server .closed).afterDraining draining now profile.settings server

end Staged

theorem Happens.staged
    {profile : Profile}
    {life next : Life}
    (happens : Happens profile life next)
    (sound : life.Sound)
    (staged : life.Staged) :
    next.Staged := by
  cases happens with
  | start now bindFailure? => exact staged.start sound now profile.blueprint bindFailure?
  | stop now =>
      obtain ⟨status, journal, same⟩ := exists_requestStop now life
      rw [same]
      exact staged.copy rfl rfl rfl rfl rfl
  | answer now clock server request =>
      obtain ⟨asked, received, status, journal, same⟩ :=
        exists_answer now clock profile server request life
      rw [same]
      exact staged.copy rfl rfl rfl rfl rfl
  | hold server => exact staged.setServer server _
  | release server released => exact staged.setServer server _
  | move now move possible => exact staged.move (moveKind_of_step? possible)

/-! ## Servers -/

/-- The servers that the agent has to be rid of are gone. -/
def Cleared (life : Life) : Prop :=
  ∀ server, life.stage.isRidOf server = true → (life.server server).isGone = true

theorem cleared_initial : initial.Cleared := by
  intro server _
  cases server <;> rfl

@[simp] theorem server_setServer_self (server : Server) (state : ServerState) (life : Life) :
    (life.setServer server state).server server = state := by
  cases server <;> rfl

theorem server_setServer_of_ne
    {server other : Server}
    (different : other ≠ server)
    (state : ServerState)
    (life : Life) :
    (life.setServer server state).server other = life.server other := by
  cases server <;> cases other <;> first | rfl | exact absurd rfl different

namespace Cleared

variable {life : Life}

/-- The agent changes in what has nothing to do with its servers. -/
theorem copy
    {next : Life}
    (cleared : life.Cleared)
    (stage : next.stage = life.stage)
    (server : next.server = life.server) :
    next.Cleared := by
  intro one rid
  rw [stage] at rid
  rw [server]
  exact cleared one rid

/-- A server that is still there changes. -/
theorem setServer
    {server : Server}
    (cleared : life.Cleared)
    (present : (life.server server).isGone = false)
    (state : ServerState) :
    (life.setServer server state).Cleared := by
  intro other rid
  rw [stage_setServer] at rid
  have gone := cleared other rid
  have different : other ≠ server := by
    rintro rfl
    rw [present] at gone
    cases gone
  rw [server_setServer_of_ne different]
  exact gone

/-- A server ends. -/
theorem closeServer (cleared : life.Cleared) (server : Server) :
    (life.setServer server .closed).Cleared := by
  intro other rid
  rw [stage_setServer] at rid
  by_cases same : other = server
  · rw [same, server_setServer_self]
    rfl
  · rw [server_setServer_of_ne same]
    exact cleared other rid

/-- An agent that has to be rid of nothing. -/
theorem of_not_rid (free : ∀ server, life.stage.isRidOf server = false) : life.Cleared := by
  intro server rid
  rw [free server] at rid
  cases rid

/-- Once the server that it waits for is gone, the agent goes on to the next one or ends. -/
theorem afterDraining
    {server : Server}
    {deadline : Nat}
    (cleared : life.Cleared)
    (draining : life.stage = .draining server deadline)
    (gone : (life.server server).isGone = true)
    (now : Nat)
    (settings : AgentSettings) :
    (life.afterDraining now settings server).Cleared := by
  have finished (messages : life.messageServer.isGone = true)
      (userInterface : life.uiServer.isGone = true) :
      { (life.log now .stopped).finish now with stage := .ended }.Cleared := by
    obtain ⟨journal, same⟩ := exists_setStatus now .stopped (life.log now .stopped)
    simp only [finish, same]
    intro other _
    cases other with
    | messages => exact messages
    | userInterface => exact userInterface
  unfold Life.afterDraining
  split
  · rename_i absent
    exact finished gone (by rw [absent]; rfl)
  · -- The server for messages was drained first.
    have messages : (life.server .messages).isGone = true :=
      cleared .messages (by rw [draining]; rfl)
    exact finished messages gone
  · intro other rid
    cases other with
    | messages => exact gone
    | userInterface => cases rid

theorem start
    (cleared : life.Cleared)
    (now : Nat)
    (blueprint : Blueprint)
    (bindFailure? : Option Failure) :
    (life.start now blueprint bindFailure?).1.Cleared := by
  unfold Life.start
  split
  · exact cleared
  · cases bindFailure? with
    | some failure =>
        obtain ⟨journal, same⟩ := exists_setStatus now .stopped
          { life with isStartCalled := true }
        simp only [finish, same]
        exact cleared.copy rfl rfl
    | none =>
        refine of_not_rid fun server => ?_
        simp only [stage_setStatus]
        rfl

end Cleared

theorem stage_endAttempt
    (now : Nat)
    (settings : AgentSettings)
    (outcome : Outcome)
    (life : Life) :
    (life.endAttempt now settings outcome).stage =
      if outcome.isSuccess then .serving
      else .pausing (now + settings.registrationRetry.milliseconds) := by
  unfold endAttempt
  dsimp only
  split
  · simp [log, note]
  · split
    · rfl
    · split <;> rfl

/-- A server is gone only if it is neither listening nor closing. -/
theorem Cleared.step?
    {now : Nat}
    {profile : Profile}
    {move : Move}
    {life next : Life}
    (cleared : life.Cleared)
    (possible : life.step? now profile move = some next) :
    next.Cleared := by
  cases move with
  | begin =>
      simp only [Life.step?, Option.ite_none_right_eq_some, Option.some.injEq] at possible
      obtain ⟨_, rfl⟩ := possible
      exact of_not_rid fun _ => rfl
  | attemptEnds outcome =>
      simp only [Life.step?, Option.ite_none_right_eq_some, Option.some.injEq] at possible
      obtain ⟨_, rfl⟩ := possible
      refine of_not_rid fun _ => ?_
      rw [stage_endAttempt]
      split <;> rfl
  | retry =>
      simp only [Life.step?] at possible
      split at possible
      · simp only [Option.ite_none_right_eq_some, Option.some.injEq] at possible
        obtain ⟨_, rfl⟩ := possible
        exact of_not_rid fun _ => rfl
      · cases possible
  | noticeStop =>
      simp only [Life.step?, Option.ite_none_right_eq_some, Option.some.injEq] at possible
      obtain ⟨_, rfl⟩ := possible
      exact of_not_rid fun _ => rfl
  | closeListener server =>
      simp only [Life.step?] at possible
      split at possible
      · rename_i listening
        simp only [Option.ite_none_right_eq_some, Option.some.injEq] at possible
        obtain ⟨_, rfl⟩ := possible
        exact cleared.setServer (by rw [listening]; rfl) _
      all_goals cases possible
  | serverEnds server =>
      simp only [Life.step?, Option.ite_none_right_eq_some, Option.some.injEq] at possible
      obtain ⟨_, rfl⟩ := possible
      exact cleared.closeServer server
  | drained =>
      simp only [Life.step?] at possible
      split at possible
      · rename_i draining
        simp only [Option.ite_none_right_eq_some, Option.some.injEq] at possible
        obtain ⟨gone, rfl⟩ := possible
        exact cleared.afterDraining draining gone now profile.settings
      · cases possible
  | abort =>
      simp only [Life.step?] at possible
      split at possible
      · rename_i server deadline draining
        simp only [Option.ite_none_right_eq_some, Option.some.injEq] at possible
        obtain ⟨_, rfl⟩ := possible
        have logged : (life.log now (.aborting server profile.settings.stopGrace)).Cleared :=
          cleared.copy rfl rfl
        refine (logged.closeServer server).afterDraining
          ((stage_setServer server .closed _).trans draining) ?_ now profile.settings
        rw [server_setServer_self]
        rfl
      · cases possible

theorem Happens.cleared
    {profile : Profile}
    {life next : Life}
    (happens : Happens profile life next)
    (cleared : life.Cleared) :
    next.Cleared := by
  cases happens with
  | start now bindFailure? => exact cleared.start now profile.blueprint bindFailure?
  | stop now =>
      obtain ⟨status, journal, same⟩ := exists_requestStop now life
      rw [same]
      exact cleared.copy rfl rfl
  | answer now clock server request =>
      obtain ⟨asked, received, status, journal, same⟩ :=
        exists_answer now clock profile server request life
      rw [same]
      exact cleared.copy rfl rfl
  | hold server =>
      cases present : (life.server server).isGone with
      | false => exact cleared.setServer present _
      | true =>
          have unchanged : (life.server server).hold = life.server server := by
            cases state : life.server server <;> simp_all [ServerState.isGone, ServerState.hold]
          rw [unchanged]
          exact cleared.copy (stage_setServer server _ life) (by
            funext other
            by_cases same : other = server
            · rw [same, server_setServer_self]
            · exact server_setServer_of_ne same _ life)
  | release server released =>
      refine cleared.setServer ?_ _
      cases state : life.server server <;>
        simp_all [ServerState.isGone, ServerState.release?]
  | move now move possible => exact cleared.step? possible

/-! ## Agents that nobody waits for -/

theorem Staged.stage_of_isJoinable
    {life : Life}
    (staged : life.Staged)
    (sound : life.Sound)
    (joinable : life.isJoinable = true) :
    life.stage = .idle ∨ life.stage = .ended := by
  simp only [isJoinable, Bool.or_eq_true, Bool.not_eq_true'] at joinable
  rcases joinable with done | uncalled
  · rw [staged.done] at done
    cases stage : life.stage <;> simp_all [isOver]
  · exact .inl (sound.of_not_started uncalled).1

end Life
end Agent
end AgentCohort
