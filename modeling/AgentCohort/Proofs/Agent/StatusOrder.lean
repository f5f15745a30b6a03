import AgentCohort.Agent.Extraction
import AgentCohort.Agent.Life
import Mathlib.Logic.Relation

/-!
# The order of statuses

The status of an agent climbs from `created` to `stopped`, whatever order starts, requests
to stop, messages, answers of the orchestrator, timers and the ends of servers come in,
with one exception.  An agent that is asked to stop while it waits for the orchestrator is
`stopping` at once, but has not noticed it yet; if the orchestrator accepts it now, it says
that it is `running` before it stops after all.

The statement is about the journal of an agent, which tells of every change of its status.
The invariant behind it ties the status to what the agent is doing.
-/

namespace AgentCohort
namespace Agent

/-! ## What can happen -/

namespace Life

/-- Something happens to an agent: it is started, asked to stop or sent a request, a request
stays open or no longer does, or it moves on. -/
inductive Happens (profile : Profile) (life : Life) : Life → Prop
  | start (now : Nat) (bindFailure? : Option Failure) :
      Happens profile life (life.start now profile.blueprint bindFailure?).1
  | stop (now : Nat) : Happens profile life (life.requestStop now)
  | answer
      (now : Nat)
      (clock : Nat → Instant)
      (server : Server)
      (request : Network.Http.Request) :
      Happens profile life (life.answer now clock profile server request).1
  | hold (server : Server) :
      Happens profile life (life.setServer server (life.server server).hold)
  | release
      (server : Server)
      {fewer : ServerState}
      (released : (life.server server).release? = some fewer) :
      Happens profile life (life.setServer server fewer)
  | move
      (now : Nat)
      (move : Move)
      {next : Life}
      (possible : life.step? now profile move = some next) :
      Happens profile life next

/-- A life that an agent can come to. -/
def Reachable (profile : Profile) (life : Life) : Prop :=
  Relation.ReflTransGen (Happens profile) .initial life

/-- What a move does to an agent. -/
inductive MoveKind (now : Nat) (profile : Profile) (life : Life) : Life → Prop
  | begins (stage : life.stage = .spawned) :
      MoveKind now profile life ((life.log now .listening).beginAttempt now profile.blueprint)
  | retries {wakeTime : Nat} (stage : life.stage = .pausing wakeTime) :
      MoveKind now profile life (life.beginAttempt now profile.blueprint)
  | attemptEnds (outcome : Outcome) (stage : life.stage = .attempting) :
      MoveKind now profile life (life.endAttempt now profile.settings outcome)
  | noticesStop
      (deadline : Nat)
      (asked : life.isStopRequested = true)
      (interruptible : life.isInterruptible = true) :
      MoveKind now profile life
        { (life.announced now).setStatus now .stopping with
          stage := .draining .messages deadline }
  | changesServer (server : Server) (state : ServerState) :
      MoveKind now profile life (life.setServer server state)
  | drains
      {server : Server}
      {deadline : Nat}
      (stage : life.stage = .draining server deadline) :
      MoveKind now profile life (life.afterDraining now profile.settings server)
  | aborts
      {server : Server}
      {deadline : Nat}
      (stage : life.stage = .draining server deadline) :
      MoveKind now profile life
        (((life.log now (.aborting server profile.settings.stopGrace)).setServer server
          .closed).afterDraining now profile.settings server)

theorem moveKind_of_step?
    {now : Nat}
    {profile : Profile}
    {move : Move}
    {life next : Life}
    (possible : life.step? now profile move = some next) :
    MoveKind now profile life next := by
  cases move with
  | begin =>
      simp only [step?, Option.ite_none_right_eq_some, Option.some.injEq] at possible
      obtain ⟨stage, rfl⟩ := possible
      exact .begins stage
  | attemptEnds outcome =>
      simp only [step?, Option.ite_none_right_eq_some, Option.some.injEq] at possible
      obtain ⟨stage, rfl⟩ := possible
      exact .attemptEnds outcome stage
  | retry =>
      simp only [step?] at possible
      split at possible
      · rename_i stage
        simp only [Option.ite_none_right_eq_some, Option.some.injEq] at possible
        obtain ⟨_, rfl⟩ := possible
        exact .retries stage
      · cases possible
  | noticeStop =>
      simp only [step?, Option.ite_none_right_eq_some, Option.some.injEq] at possible
      obtain ⟨⟨asked, interruptible⟩, rfl⟩ := possible
      exact .noticesStop _ asked interruptible
  | closeListener server =>
      simp only [step?] at possible
      split at possible
      · simp only [Option.ite_none_right_eq_some, Option.some.injEq] at possible
        obtain ⟨_, rfl⟩ := possible
        exact .changesServer server _
      all_goals cases possible
  | serverEnds server =>
      simp only [step?, Option.ite_none_right_eq_some, Option.some.injEq] at possible
      obtain ⟨_, rfl⟩ := possible
      exact .changesServer server .closed
  | drained =>
      simp only [step?] at possible
      split at possible
      · rename_i stage
        simp only [Option.ite_none_right_eq_some, Option.some.injEq] at possible
        obtain ⟨_, rfl⟩ := possible
        exact .drains stage
      · cases possible
  | abort =>
      simp only [step?] at possible
      split at possible
      · rename_i stage
        simp only [Option.ite_none_right_eq_some, Option.some.injEq] at possible
        obtain ⟨_, rfl⟩ := possible
        exact .aborts stage
      · cases possible

end Life

/-! ## Statuses in a journal -/

/-- The status that an agent changes to. -/
def Deed.status? : Deed → Option Status
  | .status next => some next
  | .attempt .. | .outcome _ | .answer .. | .notice _ => none

/-- The status of an agent with a journal, the newest deed first. -/
def statusAfter : List (Nat × Deed) → Status
  | [] => .created
  | (_, deed) :: older => deed.status?.getD (statusAfter older)

/-- The orchestrator has just accepted an agent that was asked to stop before. -/
def AcceptedLate (journal : List (Nat × Deed)) : Prop :=
  ∃ time outcome older, journal = (time, .outcome outcome) :: older ∧
    outcome.isSuccess = true ∧ ∃ asked, (asked, .notice .stopRequested) ∈ older

/-- Each change of the status leads upwards, but for one back to `running` in an agent that is
accepted late. -/
def Climbs (journal : List (Nat × Deed)) : Prop :=
  ∀ newer time status older, journal = newer ++ (time, .status status) :: older →
    (statusAfter older).rank < status.rank ∨
      AcceptedLate older ∧ statusAfter older = .stopping ∧ status = .running

theorem climbs_nil : Climbs [] := by
  intro newer time status older split
  simp at split

theorem Climbs.cons
    {journal : List (Nat × Deed)}
    {time : Nat}
    {deed : Deed}
    (climbs : Climbs journal)
    (changes : ∀ status, deed.status? = some status →
      (statusAfter journal).rank < status.rank ∨
        AcceptedLate journal ∧ statusAfter journal = .stopping ∧ status = .running) :
    Climbs ((time, deed) :: journal) := by
  intro newer time status older split
  cases newer with
  | nil =>
      obtain ⟨same, rfl⟩ := List.cons.inj split
      obtain ⟨rfl, rfl⟩ := Prod.mk.inj same
      exact changes status rfl
  | cons first rest =>
      obtain ⟨_, tail⟩ := List.cons.inj split
      exact climbs rest time status older tail

namespace Life

/-- The journal of an agent tells of its status and of a request to stop. -/
structure Recorded (life : Life) : Prop where
  /-- It tells of the status. -/
  status : statusAfter life.journal = life.status
  /-- The statuses climb. -/
  climbs : Climbs life.journal
  /-- It tells of a request to stop. -/
  requested : life.isStopRequested = true →
    ∃ asked, (asked, .notice .stopRequested) ∈ life.journal

namespace Recorded

variable {life : Life}

/-- Writing down anything but a change of the status. -/
theorem note
    {deed : Deed}
    (recorded : life.Recorded)
    (other : deed.status? = none)
    (now : Nat) :
    (life.note now deed).Recorded where
  status := by
    rw [Life.note, statusAfter, other]
    exact recorded.status
  climbs := recorded.climbs.cons (by simp [other])
  requested asked := by
    obtain ⟨time, told⟩ := recorded.requested asked
    exact ⟨time, List.mem_cons_of_mem _ told⟩

/-- A change of the status, unless it is no change. -/
theorem change
    {status : Status}
    (recorded : life.Recorded)
    (upwards : life.status ≠ status → life.status.rank < status.rank ∨
      AcceptedLate life.journal ∧ life.status = .stopping ∧ status = .running)
    (now : Nat) :
    (life.setStatus now status).Recorded := by
  unfold setStatus
  split
  · exact recorded
  · rename_i different
    refine ⟨rfl, recorded.climbs.cons ?_, ?_⟩
    · intro other same
      obtain rfl := Option.some.inj same
      rw [recorded.status]
      exact upwards different
    · intro asked
      obtain ⟨time, told⟩ := recorded.requested asked
      exact ⟨time, List.mem_cons_of_mem _ told⟩

/-- A change of the status upwards, or none. -/
theorem setStatus
    {status : Status}
    (recorded : life.Recorded)
    (upwards : life.status = status ∨ life.status.rank < status.rank)
    (now : Nat) :
    (life.setStatus now status).Recorded :=
  recorded.change (fun different => .inl (upwards.resolve_left different)) now

/-- Nothing is above the last status. -/
theorem finish (recorded : life.Recorded) (now : Nat) : (life.finish now).Recorded := by
  have upwards : life.status = .stopped ∨ life.status.rank < Status.stopped.rank := by
    cases life.status <;> decide
  have stopped := recorded.setStatus upwards now
  exact ⟨stopped.status, stopped.climbs, stopped.requested⟩

end Recorded

end Life

/-! ## Statuses and stages -/

/-- What the status may be while an agent is doing something, by whether anybody has tried to
start it. -/
def Stage.Permits (isStartCalled : Bool) (status : Status) : Stage → Prop
  | .idle => status = if isStartCalled then .stopped else .created
  | .spawned | .attempting | .pausing _ =>
    isStartCalled = true ∧ (status = .registering ∨ status = .stopping)
  | .serving => isStartCalled = true ∧ (status = .running ∨ status = .stopping)
  | .draining .. => isStartCalled = true ∧ status = .stopping
  | .ended => isStartCalled = true ∧ status = .stopped

/-- An agent that is active may be stopping, whatever it is doing. -/
theorem Stage.Permits.stopping
    {stage : Stage}
    {isStartCalled : Bool}
    {status : Status}
    (permits : stage.Permits isStartCalled status)
    (active : status.isActive = true) :
    stage.Permits isStartCalled .stopping := by
  cases stage with
  | idle =>
      rw [show status = _ from permits] at active
      cases isStartCalled <;> simp [Status.isActive] at active
  | spawned | attempting | pausing | serving => exact ⟨permits.1, .inr rfl⟩
  | draining => exact ⟨permits.1, rfl⟩
  | ended =>
      rw [permits.2] at active
      simp [Status.isActive] at active

namespace Life

@[simp] theorem status_setStatus (now : Nat) (status : Status) (life : Life) :
    (life.setStatus now status).status = status := by
  unfold setStatus
  split
  · assumption
  · rfl

@[simp] theorem stage_setStatus (now : Nat) (status : Status) (life : Life) :
    (life.setStatus now status).stage = life.stage := by
  unfold setStatus
  split <;> rfl

@[simp] theorem isStartCalled_setStatus (now : Nat) (status : Status) (life : Life) :
    (life.setStatus now status).isStartCalled = life.isStartCalled := by
  unfold setStatus
  split <;> rfl

@[simp] theorem isStopRequested_setStatus (now : Nat) (status : Status) (life : Life) :
    (life.setStatus now status).isStopRequested = life.isStopRequested := by
  unfold setStatus
  split <;> rfl

@[simp] theorem stage_announced (now : Nat) (life : Life) :
    (life.announced now).stage = life.stage := by
  unfold announced
  split <;> rfl

@[simp] theorem isStartCalled_announced (now : Nat) (life : Life) :
    (life.announced now).isStartCalled = life.isStartCalled := by
  unfold announced
  split <;> rfl

@[simp] theorem isStopRequested_announced (now : Nat) (life : Life) :
    (life.announced now).isStopRequested = life.isStopRequested := by
  unfold announced
  split <;> rfl

@[simp] theorem isInterruptible_announced (now : Nat) (life : Life) :
    (life.announced now).isInterruptible = life.isInterruptible := by
  unfold isInterruptible
  rw [stage_announced]

@[simp] theorem stage_setServer (server : Server) (state : ServerState) (life : Life) :
    (life.setServer server state).stage = life.stage := by
  cases server <;> rfl

/-- The journal tells of the status, the status fits what the agent is doing, and an agent
that is stopping was asked to. -/
structure Sound (life : Life) : Prop extends Recorded life where
  /-- The status fits. -/
  permits : life.stage.Permits life.isStartCalled life.status
  /-- It was asked to stop. -/
  asked : life.status = .stopping → life.isStopRequested = true

theorem sound_initial : initial.Sound where
  status := rfl
  climbs := climbs_nil
  requested asked := by simp [initial] at asked
  permits := rfl
  asked stopping := by simp [initial] at stopping

namespace Sound

variable {life : Life}

theorem note
    {deed : Deed}
    (sound : life.Sound)
    (other : deed.status? = none)
    (now : Nat) :
    (life.note now deed).Sound where
  toRecorded := sound.toRecorded.note other now
  permits := sound.permits
  asked := sound.asked

theorem log (sound : life.Sound) (now : Nat) (notice : Notice) :
    (life.log now notice).Sound :=
  sound.note rfl now

theorem announced (sound : life.Sound) (now : Nat) : (life.announced now).Sound := by
  unfold Life.announced
  split
  · exact sound.log now .listening
  · exact sound

/-- What the servers do has nothing to do with the status. -/
theorem setServer (sound : life.Sound) (server : Server) (state : ServerState) :
    (life.setServer server state).Sound := by
  cases server <;>
    exact ⟨⟨sound.status, sound.climbs, sound.requested⟩, sound.permits, sound.asked⟩

/-- The agent does something else that its status fits, too. -/
theorem enter
    {stage : Stage}
    (sound : life.Sound)
    (permits : stage.Permits life.isStartCalled life.status) :
    { life with stage := stage }.Sound where
  toRecorded := ⟨sound.status, sound.climbs, sound.requested⟩
  permits := permits
  asked := sound.asked

/-- An agent that nobody has tried to start does nothing. -/
theorem of_not_started (sound : life.Sound) (called : life.isStartCalled = false) :
    life.stage = .idle ∧ life.status = .created := by
  have permits := sound.permits
  rw [called] at permits
  cases stage : life.stage <;> simp [stage, Stage.Permits] at permits
  exact ⟨rfl, permits⟩

theorem start
    (sound : life.Sound)
    (now : Nat)
    (blueprint : Blueprint)
    (bindFailure? : Option Failure) :
    (life.start now blueprint bindFailure?).1.Sound := by
  cases called : life.isStartCalled with
  | true =>
      simp only [Life.start, called, if_true]
      exact sound
  | false =>
      obtain ⟨idle, created⟩ := sound.of_not_started called
      simp only [Life.start, called, Bool.false_eq_true, if_false]
      cases bindFailure? with
      | some failure =>
          have tried : { life with isStartCalled := true }.Recorded :=
            ⟨sound.status, sound.climbs, sound.requested⟩
          refine ⟨tried.finish now, ?_, ?_⟩
          · simp [finish, idle, Stage.Permits]
          · simp [finish]
      | none =>
          let opened := { life with
            isStartCalled := true
            startedAt? := some now
            stage := .spawned
            messageServer := .listening 0
            uiServer := if blueprint.uiPort?.isSome then .listening 0 else .absent }
          have recorded : opened.Recorded := ⟨sound.status, sound.climbs, sound.requested⟩
          have upwards : opened.status = .registering ∨
              opened.status.rank < Status.registering.rank := by
            rw [show opened.status = .created from created]
            decide
          refine ⟨recorded.setStatus upwards now, ?_, ?_⟩
          · simp [Stage.Permits]
          · simp

/-- The agent is told that it is to stop. -/
theorem request (sound : life.Sound) (now : Nat) :
    ({ life with isStopRequested := true }.log now .stopRequested).Sound where
  status := sound.status
  climbs := (sound.log now .stopRequested).climbs
  requested _ := ⟨now, List.mem_cons_self⟩
  permits := sound.permits
  asked _ := rfl

/-- An active agent that was told so is marked as stopping. -/
theorem stopping
    (sound : life.Sound)
    (asked : life.isStopRequested = true)
    (active : life.status.isActive = true)
    (now : Nat) :
    (life.setStatus now .stopping).Sound := by
  have upwards : life.status = .stopping ∨ life.status.rank < Status.stopping.rank := by
    cases status : life.status with
    | created | stopped => simp [status, Status.isActive] at active
    | registering | running | stopping => decide
  refine ⟨sound.toRecorded.setStatus upwards now, ?_, fun _ => ?_⟩
  · rw [status_setStatus, stage_setStatus, isStartCalled_setStatus]
    exact sound.permits.stopping active
  · rw [isStopRequested_setStatus]
    exact asked

theorem requestStop (sound : life.Sound) (now : Nat) : (life.requestStop now).Sound := by
  unfold Life.requestStop
  split
  · exact sound
  · dsimp only
    split
    · rename_i active
      exact (sound.request now).stopping rfl active now
    · exact sound.request now

theorem receive (sound : life.Sound) (now : Nat) (message : Message) :
    (life.receive now message).Sound := by
  have counted : { life with messagesReceived := life.messagesReceived + 1 }.Sound :=
    ⟨⟨sound.status, sound.climbs, sound.requested⟩, sound.permits, sound.asked⟩
  cases message with
  | stop => exact (counted.log now .toldToStop).requestStop now
  | ping | other => exact counted

theorem answer
    (sound : life.Sound)
    (now : Nat)
    (clock : Nat → Instant)
    (profile : Profile)
    (server : Server)
    (request : Network.Http.Request) :
    (life.answer now clock profile server request).1.Sound := by
  unfold Life.answer
  split
  · exact (sound.receive now _).note rfl now
  · exact sound.note rfl now

/-! ## Moves -/

theorem beginAttempt
    (sound : life.Sound)
    (now : Nat)
    (blueprint : Blueprint)
    (permits : Stage.attempting.Permits life.isStartCalled life.status) :
    (life.beginAttempt now blueprint).Sound := by
  have attempting : { life with attempts := life.attempts + 1, stage := .attempting }.Sound :=
    ⟨⟨sound.status, sound.climbs, sound.requested⟩, permits, sound.asked⟩
  exact attempting.note rfl now

/-- The end of an attempt to register is where an agent may be accepted late. -/
theorem endAttempt
    (sound : life.Sound)
    (now : Nat)
    (settings : AgentSettings)
    (outcome : Outcome)
    (attempting : life.stage = .attempting) :
    (life.endAttempt now settings outcome).Sound := by
  have permits := sound.permits
  rw [attempting] at permits
  obtain ⟨called, waiting⟩ := permits
  have noted : (life.note now (.outcome outcome)).Sound := sound.note rfl now
  unfold Life.endAttempt
  dsimp only
  split
  · rename_i success
    let registered := { life.note now (.outcome outcome) with
      isRegistered := true
      stage := .serving }
    have recorded : registered.Recorded := ⟨noted.status, noted.climbs, noted.requested⟩
    have running : (registered.setStatus now .running).Sound := by
      refine ⟨recorded.change (fun _ => ?_) now, ?_, ?_⟩
      · -- Nothing has looked at the request to stop, so the status may be `stopping`.
        rcases waiting with registering | stopping
        · left
          rw [show registered.status = .registering from registering]
          decide
        · right
          exact ⟨⟨now, outcome, life.journal, rfl, success,
            sound.requested (sound.asked stopping)⟩, stopping, rfl⟩
      · rw [status_setStatus, stage_setStatus, isStartCalled_setStatus]
        exact ⟨called, .inl rfl⟩
      · simp
    exact running.log now .registered
  · have permitted : (Stage.pausing (now + settings.registrationRetry.milliseconds)).Permits
        life.isStartCalled life.status := ⟨called, waiting⟩
    have pausing := noted.enter permitted
    split
    · exact pausing.log now _
    · split
      · exact pausing.log now _
      · exact pausing

theorem noticeStop
    (sound : life.Sound)
    (now deadline : Nat)
    (asked : life.isStopRequested = true)
    (interruptible : life.isInterruptible = true) :
    { life.setStatus now .stopping with stage := .draining .messages deadline }.Sound := by
  obtain ⟨called, upwards⟩ : life.isStartCalled = true ∧
      (life.status = .stopping ∨ life.status.rank < Status.stopping.rank) := by
    have permits := sound.permits
    cases stage : life.stage with
    | idle | draining | ended => simp [isInterruptible, stage] at interruptible
    | spawned | attempting | pausing | serving =>
        rw [stage] at permits
        obtain ⟨called, status | status⟩ := permits
        · rw [status]
          exact ⟨called, by decide⟩
        · exact ⟨called, .inl status⟩
  have recorded := sound.toRecorded.setStatus upwards now
  refine ⟨⟨recorded.status, recorded.climbs, recorded.requested⟩, ?_, fun _ => ?_⟩
  · exact ⟨(isStartCalled_setStatus now .stopping life).trans called,
      status_setStatus now .stopping life⟩
  · exact (isStopRequested_setStatus now .stopping life).trans asked

theorem afterDraining
    (sound : life.Sound)
    (now : Nat)
    (settings : AgentSettings)
    (server : Server)
    {other : Server}
    {deadline : Nat}
    (draining : life.stage = .draining other deadline) :
    (life.afterDraining now settings server).Sound := by
  have permits := sound.permits
  rw [draining] at permits
  have recorded := (sound.log now .stopped).toRecorded.finish now
  have finished : { (life.log now .stopped).finish now with stage := .ended }.Sound := by
    refine ⟨⟨recorded.status, recorded.climbs, recorded.requested⟩, ?_, ?_⟩
    · exact ⟨(isStartCalled_setStatus now .stopped _).trans permits.1,
        status_setStatus now .stopped _⟩
    · simp [finish]
  unfold Life.afterDraining
  split
  · exact finished
  · exact finished
  · exact sound.enter permits

theorem move
    {now : Nat}
    {profile : Profile}
    {next : Life}
    (sound : life.Sound)
    (kind : MoveKind now profile life next) :
    next.Sound := by
  have permits := sound.permits
  cases kind with
  | begins stage =>
      rw [stage] at permits
      exact (sound.log now .listening).beginAttempt now profile.blueprint permits
  | retries stage =>
      rw [stage] at permits
      exact sound.beginAttempt now profile.blueprint permits
  | attemptEnds outcome stage => exact sound.endAttempt now profile.settings outcome stage
  | noticesStop deadline asked interruptible =>
      rw [← isStopRequested_announced now life] at asked
      rw [← isInterruptible_announced now life] at interruptible
      exact (sound.announced now).noticeStop now deadline asked interruptible
  | changesServer server state => exact sound.setServer server state
  | drains stage => exact sound.afterDraining now profile.settings _ stage
  | @aborts server deadline stage =>
      have aborted := (sound.log now (.aborting server profile.settings.stopGrace)).setServer
        server .closed
      have draining := (stage_setServer server .closed
        (life.log now (.aborting server profile.settings.stopGrace))).trans stage
      exact aborted.afterDraining now profile.settings server draining

end Sound

theorem Happens.sound
    {profile : Profile}
    {life next : Life}
    (happens : Happens profile life next)
    (sound : life.Sound) :
    next.Sound := by
  cases happens with
  | start now bindFailure? => exact sound.start now profile.blueprint bindFailure?
  | stop now => exact sound.requestStop now
  | answer now clock server request => exact sound.answer now clock profile server request
  | hold server => exact sound.setServer server _
  | release server released => exact sound.setServer server _
  | move now move possible => exact sound.move (moveKind_of_step? possible)

theorem Reachable.sound
    {profile : Profile}
    {life : Life}
    (reachable : Reachable profile life) :
    life.Sound := by
  induction reachable with
  | refl => exact sound_initial
  | tail _ happens inductionHypothesis => exact happens.sound inductionHypothesis

/-- The journal of an agent tells of its status, and each change of the status leads upwards,
but for the one back to `running` when the agent is accepted after it was asked to stop. -/
theorem climbs_of_reachable
    {profile : Profile}
    {life : Life}
    (reachable : Reachable profile life) :
    statusAfter life.journal = life.status ∧ Climbs life.journal := by
  have sound := reachable.sound
  exact ⟨sound.status, sound.climbs⟩

/-- An agent with a server for messages only. -/
def plainProfile : Profile :=
  ⟨⟨"a", ⟨.loopback, 9001⟩, ⟨"o", 1⟩, none⟩, .standard, Service.jsonExtractor⟩

/-- It waits for the orchestrator and is asked to stop. -/
def stoppedWaiting : Life :=
  let started := (initial.start 0 plainProfile.blueprint none).1
  ((started.log 0 .listening).beginAttempt 0 plainProfile.blueprint).requestStop 1

/-- The orchestrator accepts it before it has noticed that. -/
def acceptedLate : Life :=
  stoppedWaiting.endAttempt 1 plainProfile.settings (.answered 200)

theorem reachable_acceptedLate : Reachable plainProfile acceptedLate := by
  have started : Reachable plainProfile (initial.start 0 plainProfile.blueprint none).1 :=
    .single (.start 0 none)
  have waiting := started.tail (.move 0 .begin rfl)
  have asked := waiting.tail (.stop 1)
  exact asked.tail (.move 1 (.attemptEnds (.answered 200)) rfl)

theorem climbs_acceptedLate :
    Reachable plainProfile acceptedLate ∧ acceptedLate.status = .running ∧
      statusAfter acceptedLate.journal = acceptedLate.status ∧ Climbs acceptedLate.journal :=
  ⟨reachable_acceptedLate, rfl, climbs_of_reachable reachable_acceptedLate⟩

/-- The status of an agent may fall. -/
theorem status_falls_acceptedLate :
    ¬ ∀ (profile : Profile) (life : Life), Reachable profile life →
      ∀ newer time status older, life.journal = newer ++ (time, .status status) :: older →
        (statusAfter older).rank < status.rank := by
  intro alwaysClimbs
  have climbs := alwaysClimbs plainProfile acceptedLate reachable_acceptedLate
    [(1, .notice .registered)] 1 .running _ rfl
  revert climbs
  decide

end Life
end Agent
end AgentCohort
