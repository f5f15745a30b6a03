import AgentCohort.Proofs.Agent.Happenings
import AgentCohort.Proofs.Agent.Stages

/-!
# What an agent shows and what has happened to it

The fields of a snapshot agree with each other, with what those who have started the agent
were told, and with whether waiting for it is over, after every trace.

The stage of an agent ties the fields to each other.  What a trace tells of them is an
invariant of its own: the first start is the only one that may succeed, and only an answer of
the orchestrator registers the agent.
-/

namespace AgentCohort
namespace Agent

namespace Life

/-! ## What moves leave alone -/

theorem exists_endAttempt
    (now : Nat)
    (settings : AgentSettings)
    (outcome : Outcome)
    (life : Life) :
    ∃ status stage journal, life.endAttempt now settings outcome =
      { life with
        status := status
        isRegistered := life.isRegistered || outcome.isSuccess
        stage := stage
        journal := journal } := by
  unfold endAttempt
  dsimp only
  split
  · rename_i success
    obtain ⟨journal, same⟩ := exists_setStatus now .running
      { life.note now (.outcome outcome) with isRegistered := true, stage := .serving }
    rw [same, success, Bool.or_true]
    exact ⟨_, _, _, rfl⟩
  · rename_i failed
    rw [Bool.not_eq_true] at failed
    rw [failed, Bool.or_false]
    split
    · exact ⟨_, _, _, rfl⟩
    · split <;> exact ⟨_, _, _, rfl⟩

theorem exists_afterDraining
    (now : Nat)
    (settings : AgentSettings)
    (server : Server)
    (life : Life) :
    ∃ status isDone stage journal, life.afterDraining now settings server =
      { life with status := status, isDone := isDone, stage := stage, journal := journal } := by
  have finished : ∃ status isDone stage journal,
      { (life.log now .stopped).finish now with stage := .ended } =
        { life with status := status, isDone := isDone, stage := stage, journal := journal } := by
    obtain ⟨journal, same⟩ := exists_setStatus now .stopped (life.log now .stopped)
    refine ⟨.stopped, true, .ended, journal, ?_⟩
    rw [finish, same]
    rfl
  unfold afterDraining
  split
  · exact finished
  · exact finished
  · exact ⟨_, _, _, _, rfl⟩

/-- Only the end of an attempt to register has to do with the registration, and no move has
to do with the start. -/
theorem fields_of_step?
    {now : Nat}
    {profile : Profile}
    {move : Move}
    {life next : Life}
    (possible : life.step? now profile move = some next) :
    next.startedAt? = life.startedAt? ∧
      (next.isRegistered = life.isRegistered ∨
        next.isRegistered = true ∧ ∃ status, Network.Http.isSuccess status = true ∧
          move = .attemptEnds (.answered status)) := by
  cases move with
  | begin =>
      simp only [step?, Option.ite_none_right_eq_some, Option.some.injEq] at possible
      obtain ⟨_, rfl⟩ := possible
      exact ⟨rfl, .inl rfl⟩
  | attemptEnds outcome =>
      simp only [step?, Option.ite_none_right_eq_some, Option.some.injEq] at possible
      obtain ⟨_, rfl⟩ := possible
      obtain ⟨status, stage, journal, same⟩ :=
        exists_endAttempt now profile.settings outcome life
      rw [same]
      refine ⟨rfl, ?_⟩
      cases success : outcome.isSuccess with
      | false => exact .inl (Bool.or_false _)
      | true =>
          cases outcome with
          | answered status => exact .inr ⟨Bool.or_true _, status, success, rfl⟩
          | unreachable cause => cases success
  | retry =>
      simp only [step?] at possible
      split at possible
      · simp only [Option.ite_none_right_eq_some, Option.some.injEq] at possible
        obtain ⟨_, rfl⟩ := possible
        exact ⟨rfl, .inl rfl⟩
      · cases possible
  | noticeStop =>
      simp only [step?, Option.ite_none_right_eq_some, Option.some.injEq] at possible
      obtain ⟨_, rfl⟩ := possible
      obtain ⟨journal, same⟩ := exists_setStatus_announced now .stopping life
      rw [same]
      exact ⟨rfl, .inl rfl⟩
  | closeListener server =>
      simp only [step?] at possible
      split at possible
      · simp only [Option.ite_none_right_eq_some, Option.some.injEq] at possible
        obtain ⟨_, rfl⟩ := possible
        cases server <;> exact ⟨rfl, .inl rfl⟩
      all_goals cases possible
  | serverEnds server =>
      simp only [step?, Option.ite_none_right_eq_some, Option.some.injEq] at possible
      obtain ⟨_, rfl⟩ := possible
      cases server <;> exact ⟨rfl, .inl rfl⟩
  | drained =>
      simp only [step?] at possible
      split at possible
      · rename_i server _ _
        simp only [Option.ite_none_right_eq_some, Option.some.injEq] at possible
        obtain ⟨_, rfl⟩ := possible
        obtain ⟨status, isDone, stage, journal, same⟩ :=
          exists_afterDraining now profile.settings server life
        rw [same]
        exact ⟨rfl, .inl rfl⟩
      · cases possible
  | abort =>
      simp only [step?] at possible
      split at possible
      · rename_i server _ _
        simp only [Option.ite_none_right_eq_some, Option.some.injEq] at possible
        obtain ⟨_, rfl⟩ := possible
        obtain ⟨status, isDone, stage, journal, same⟩ :=
          exists_afterDraining now profile.settings server
            ((life.log now (.aborting server profile.settings.stopGrace)).setServer server .closed)
        rw [same]
        cases server <;> exact ⟨rfl, .inl rfl⟩
      · cases possible

/-! ## What traces tell -/

/-- What a trace tells of the agent that it has led to. -/
structure Told (profile : Profile) (trace : List Happening) (life : Life) : Prop where
  /-- Nobody has tried to start it. -/
  uncalled : life.isStartCalled = false ↔ startOutcomes trace = []
  /-- Only the first one may have succeeded. -/
  refused : ∀ outcome ∈ (startOutcomes trace).tail,
    outcome = .error (.agentStart profile.blueprint.name "already started")
  /-- The time of the start is known if one has succeeded. -/
  startedAt : life.startedAt?.isSome = true ↔ .ok () ∈ startOutcomes trace
  /-- The orchestrator has accepted it. -/
  accepted : life.isRegistered = true →
    ∃ status, Network.Http.isSuccess status = true ∧
      .move (.attemptEnds (.answered status)) ∈ trace
  /-- It has been asked to stop. -/
  asked : .stop ∈ trace → life.isStopRequested = true

theorem told_initial (profile : Profile) : Told profile [] .initial where
  uncalled := by simp [initial]
  refused := by simp
  startedAt := by simp [initial]
  accepted registered := by simp [initial] at registered
  asked stopped := by simp at stopped

namespace Told

variable {profile : Profile}
variable {trace : List Happening}
variable {life : Life}

/-- Something happens other than a start. -/
theorem cons
    {happening : Happening}
    {next : Life}
    (told : Told profile trace life)
    (other : happening.start? = none)
    (isStartCalled : next.isStartCalled = life.isStartCalled)
    (startedAt? : next.startedAt? = life.startedAt?)
    (isRegistered : next.isRegistered = life.isRegistered ∨
      next.isRegistered = true ∧ ∃ status, Network.Http.isSuccess status = true ∧
        happening = .move (.attemptEnds (.answered status)))
    (kept : life.isStopRequested = true → next.isStopRequested = true)
    (asked : happening = .stop → next.isStopRequested = true) :
    Told profile (happening :: trace) next := by
  have same : startOutcomes (happening :: trace) = startOutcomes trace := by
    rw [startOutcomes_cons, other]
    exact List.append_nil _
  refine ⟨?_, ?_, ?_, fun registered => ?_, fun stopped => ?_⟩
  · rw [isStartCalled, same]
    exact told.uncalled
  · rw [same]
    exact told.refused
  · rw [startedAt?, same]
    exact told.startedAt
  · rcases isRegistered with unchanged | ⟨_, status, success, rfl⟩
    · obtain ⟨status, success, answered⟩ := told.accepted (unchanged.symm.trans registered)
      exact ⟨status, success, List.mem_cons_of_mem _ answered⟩
    · exact ⟨status, success, List.mem_cons_self⟩
  · rcases List.mem_cons.mp stopped with first | older
    · exact asked first.symm
    · exact kept (told.asked older)

theorem start
    (told : Told profile trace life)
    (now : Nat)
    (bindFailure? : Option Failure) :
    Told profile (.start (life.start now profile.blueprint bindFailure?).2 :: trace)
      (life.start now profile.blueprint bindFailure?).1 := by
  have outcomes (outcome : Except Failure Unit) :
      startOutcomes (.start outcome :: trace) = startOutcomes trace ++ [outcome] := by
    rw [startOutcomes_cons]
    rfl
  have accepted {outcome : Except Failure Unit} (registered : life.isRegistered = true) :
      ∃ status, Network.Http.isSuccess status = true ∧
        .move (.attemptEnds (.answered status)) ∈ .start outcome :: trace := by
    obtain ⟨status, success, answered⟩ := told.accepted registered
    exact ⟨status, success, List.mem_cons_of_mem _ answered⟩
  have asked {outcome : Except Failure Unit} (stopped : .stop ∈ .start outcome :: trace) :
      life.isStopRequested = true :=
    told.asked (by simpa using stopped)
  cases called : life.isStartCalled with
  | true =>
      simp only [Life.start, called, if_true]
      have begun : startOutcomes trace ≠ [] := by
        intro nobody
        rw [told.uncalled.mpr nobody] at called
        cases called
      refine ⟨?_, ?_, ?_, accepted, asked⟩
      · rw [outcomes, called]
        simp
      · intro outcome present
        rw [outcomes, List.tail_append_of_ne_nil begun] at present
        rcases List.mem_append.mp present with older | last
        · exact told.refused outcome older
        · exact List.mem_singleton.mp last
      · rw [outcomes, told.startedAt]
        simp
  | false =>
      have nobody := told.uncalled.mp called
      have unstarted : life.startedAt?.isSome = false := by
        have missing := told.startedAt
        rw [nobody] at missing
        simpa using missing
      simp only [Life.start, called, Bool.false_eq_true, if_false]
      cases bindFailure? with
      | some failure =>
          obtain ⟨journal, same⟩ := exists_setStatus now .stopped
            { life with isStartCalled := true }
          simp only [finish, same]
          refine ⟨?_, ?_, ?_, accepted, asked⟩
          · simp [outcomes]
          · simp [outcomes, nobody]
          · simp [outcomes, nobody, unstarted]
      | none =>
          obtain ⟨journal, same⟩ := exists_setStatus now .registering
            { life with
              isStartCalled := true
              startedAt? := some now
              stage := .spawned
              messageServer := .listening 0
              uiServer := if profile.blueprint.uiPort?.isSome then .listening 0 else .absent }
          simp only [same]
          refine ⟨?_, ?_, ?_, accepted, asked⟩
          · simp [outcomes]
          · simp [outcomes, nobody]
          · simp [outcomes, nobody]

theorem move
    {now : Nat}
    {move : Move}
    {next : Life}
    (told : Told profile trace life)
    (possible : life.step? now profile move = some next) :
    Told profile (.move move :: trace) next := by
  have keeps := (moveKind_of_step? possible).keeps
  obtain ⟨startedAt?, isRegistered⟩ := fields_of_step? possible
  refine told.cons rfl keeps.isStartCalled startedAt? ?_ keeps.isStopRequested.trans (by simp)
  rcases isRegistered with unchanged | ⟨registered, status, success, rfl⟩
  · exact .inl unchanged
  · exact .inr ⟨registered, status, success, rfl⟩

end Told

theorem Does.told
    {profile : Profile}
    {trace : List Happening}
    {life next : Life}
    {happening : Happening}
    (does : Does profile life happening next)
    (told : Told profile trace life) :
    Told profile (happening :: trace) next := by
  cases does with
  | start now bindFailure? => exact told.start now bindFailure?
  | stop now =>
      obtain ⟨status, journal, same⟩ := exists_requestStop now life
      rw [same]
      exact told.cons rfl rfl rfl (.inl rfl) (fun _ => rfl) fun _ => rfl
  | join joinable => exact told.cons rfl rfl rfl (.inl rfl) id (by simp)
  | answer now clock server request =>
      obtain ⟨asked, received, status, journal, same⟩ :=
        exists_answer now clock profile server request life
      rw [same]
      refine told.cons rfl rfl rfl (.inl rfl) (fun already => ?_) (by simp)
      rw [already]
      rfl
  | hold server => cases server <;> exact told.cons rfl rfl rfl (.inl rfl) id (by simp)
  | release server released =>
      cases server <;> exact told.cons rfl rfl rfl (.inl rfl) id (by simp)
  | move now move possible => exact told.move possible

theorem Runs.told
    {profile : Profile}
    {trace : List Happening}
    {life : Life}
    (runs : Runs profile .initial trace life) :
    Told profile trace life := by
  induction runs with
  | nil => exact told_initial profile
  | cons _ does inductionHypothesis => exact does.told inductionHypothesis

/-! ## Registered agents -/

/-- An agent that the orchestrator has accepted stays so. -/
theorem Happens.isRegistered
    {profile : Profile}
    {life next : Life}
    (happens : Happens profile life next)
    (registered : life.isRegistered = true) :
    next.isRegistered = true := by
  cases happens with
  | start now bindFailure? =>
      unfold Life.start
      split
      · exact registered
      · cases bindFailure? with
        | some failure =>
            obtain ⟨journal, same⟩ := exists_setStatus now .stopped
              { life with isStartCalled := true }
            simp only [finish, same]
            exact registered
        | none =>
            obtain ⟨journal, same⟩ := exists_setStatus now .registering
              { life with
                isStartCalled := true
                startedAt? := some now
                stage := .spawned
                messageServer := .listening 0
                uiServer := if profile.blueprint.uiPort?.isSome then .listening 0 else .absent }
            simp only [same]
            exact registered
  | stop now =>
      obtain ⟨status, journal, same⟩ := exists_requestStop now life
      rw [same]
      exact registered
  | answer now clock server request =>
      obtain ⟨asked, received, status, journal, same⟩ :=
        exists_answer now clock profile server request life
      rw [same]
      exact registered
  | hold server => cases server <;> exact registered
  | release server released => cases server <;> exact registered
  | move now move possible =>
      rcases (fields_of_step? possible).2 with unchanged | ⟨accepted, _⟩
      · exact unchanged.trans registered
      · exact accepted

namespace Sound

variable {life : Life}

/-- An agent runs only while it serves or, at most, until it has noticed a request to stop. -/
theorem stage_of_running (sound : life.Sound) (running : life.status = .running) :
    life.stage = .serving := by
  have permits := sound.permits
  cases stage : life.stage with
  | serving => rfl
  | idle =>
      rw [stage, running] at permits
      cases called : life.isStartCalled <;> simp [called, Stage.Permits] at permits
  | spawned | attempting | pausing | draining | ended =>
      rw [stage, running] at permits
      simp [Stage.Permits] at permits

theorem stage_of_registering (sound : life.Sound) (registering : life.status = .registering) :
    life.stage = .spawned ∨ life.stage = .attempting ∨
      ∃ wakeTime, life.stage = .pausing wakeTime := by
  have permits := sound.permits
  cases stage : life.stage with
  | spawned => exact .inl rfl
  | attempting => exact .inr (.inl rfl)
  | pausing wakeTime => exact .inr (.inr ⟨wakeTime, rfl⟩)
  | idle =>
      rw [stage, registering] at permits
      cases called : life.isStartCalled <;> simp [called, Stage.Permits] at permits
  | serving | draining | ended =>
      rw [stage, registering] at permits
      simp [Stage.Permits] at permits

theorem status_eq_created_iff (sound : life.Sound) :
    life.status = .created ↔ life.isStartCalled = false := by
  constructor
  · intro created
    have permits := sound.permits
    rw [created] at permits
    cases called : life.isStartCalled with
    | false => rfl
    | true => cases stage : life.stage <;> simp [stage, called, Stage.Permits] at permits
  · exact fun uncalled => (sound.of_not_started uncalled).2

/-- An agent is marked as stopped only when it is over. -/
theorem isOver_of_stopped (sound : life.Sound) (stopped : life.status = .stopped) :
    life.isOver = true := by
  have permits := sound.permits
  rw [stopped] at permits
  cases stage : life.stage with
  | ended => simp [isOver, stage]
  | idle =>
      rw [stage] at permits
      cases called : life.isStartCalled with
      | true => simp [isOver, stage, called]
      | false => simp [called, Stage.Permits] at permits
  | spawned | attempting | pausing | serving | draining =>
      rw [stage] at permits
      simp [Stage.Permits] at permits

end Sound

/-! ## Snapshots -/

/-- The snapshot of an agent and what its callers are told agree with each other and with
what has happened. -/
structure Consistent
    (profile : Profile)
    (clock : Nat → Instant)
    (trace : List Happening)
    (life : Life) : Prop where
  /-- At most one start has succeeded. -/
  startsOnce : (startOutcomes trace).countP Except.isOk ≤ 1
  /-- Each start after the first one has failed. -/
  refusesLater : ∀ outcome ∈ (startOutcomes trace).tail,
    outcome = .error (.agentStart profile.blueprint.name "already started")
  /-- The time of the start is there if a start has succeeded. -/
  startedAt : (life.snapshot clock profile.blueprint).startedAt?.isSome = true ↔
    .ok () ∈ startOutcomes trace
  /-- The agent has been created only as long as nobody has tried to start it. -/
  created : (life.snapshot clock profile.blueprint).status = .created ↔ startOutcomes trace = []
  /-- It is registered only if it was started and accepted. -/
  registered : (life.snapshot clock profile.blueprint).registered = true →
    (life.snapshot clock profile.blueprint).startedAt?.isSome = true ∧
      ∃ status, 200 ≤ status ∧ status < 300 ∧
        .move (.attemptEnds (.answered status)) ∈ trace
  /-- It stays so. -/
  staysRegistered : (life.snapshot clock profile.blueprint).registered = true →
    ∀ newer later, Runs profile life newer later →
      (later.snapshot clock profile.blueprint).registered = true
  /-- A running agent is registered. -/
  running : (life.snapshot clock profile.blueprint).status = .running →
    (life.snapshot clock profile.blueprint).registered = true
  /-- One that is registering is not. -/
  registering : (life.snapshot clock profile.blueprint).status = .registering →
    (life.snapshot clock profile.blueprint).registered = false
  /-- Waiting is over if nobody has tried to start it or it has stopped. -/
  joinable : life.isJoinable = true ↔
    startOutcomes trace = [] ∨ (life.snapshot clock profile.blueprint).status = .stopped
  /-- To ask it once more to stop changes nothing that it shows. -/
  laterStops : .stop ∈ trace → ∀ now,
    (life.requestStop now).snapshot clock profile.blueprint = life.snapshot clock profile.blueprint

theorem isSuccess_iff (status : Nat) :
    Network.Http.isSuccess status = true ↔ 200 ≤ status ∧ status < 300 := by
  simp [Network.Http.isSuccess]

theorem countP_isOk_le_one
    {outcomes : List (Except Failure Unit)}
    {failure : Failure}
    (refused : ∀ outcome ∈ outcomes.tail, outcome = .error failure) :
    outcomes.countP Except.isOk ≤ 1 := by
  cases outcomes with
  | nil => exact Nat.zero_le 1
  | cons first later =>
      have none : later.countP Except.isOk = 0 := by
        refine List.countP_eq_zero.mpr fun outcome present => ?_
        rw [refused outcome present]
        exact Bool.false_ne_true
      rw [List.countP_cons, none]
      split <;> omega

theorem Runs.sound_and_staged
    {profile : Profile}
    {trace : List Happening}
    {life : Life}
    (runs : Runs profile .initial trace life) :
    life.Sound ∧ life.Staged := by
  refine runs.invariant (fun life => life.Sound ∧ life.Staged) ⟨sound_initial, staged_initial⟩ ?_
  intro before after ⟨sound, staged⟩ happens
  exact ⟨happens.sound sound, happens.staged sound staged⟩

/-- Whatever happens to an agent, its snapshot and what its callers are told agree with each
other and with what has happened. -/
theorem consistent_of_runs
    {profile : Profile}
    {trace : List Happening}
    {life : Life}
    (runs : Runs profile .initial trace life)
    (clock : Nat → Instant) :
    Consistent profile clock trace life := by
  have told := runs.told
  obtain ⟨sound, staged⟩ := runs.sound_and_staged
  have startedAt : (life.startedAt?.map clock).isSome = true ↔ .ok () ∈ startOutcomes trace := by
    rw [Option.isSome_map]
    exact told.startedAt
  refine {
    startsOnce := countP_isOk_le_one told.refused
    refusesLater := told.refused
    startedAt := startedAt
    created := sound.status_eq_created_iff.trans told.uncalled
    registered := ?registered
    staysRegistered := ?staysRegistered
    running := ?running
    registering := ?registering
    joinable := ?joinable
    laterStops := ?laterStops }
  case registered =>
    intro (registered : life.isRegistered = true)
    obtain ⟨status, success, answered⟩ := told.accepted registered
    obtain ⟨lower, upper⟩ := (isSuccess_iff status).mp success
    refine ⟨?_, status, lower, upper, answered⟩
    have busy : life.stage ≠ .idle := by
      intro idle
      have permitted := staged.registered
      rw [idle, registered] at permitted
      cases permitted
    exact startedAt.mpr (told.startedAt.mp (staged.startedAt.mpr busy))
  case staysRegistered =>
    intro (registered : life.isRegistered = true) newer later runs
    exact runs.invariant (fun life => life.isRegistered = true) registered
      fun before happens => happens.isRegistered before
  case running =>
    intro running
    have permitted := staged.registered
    rw [sound.stage_of_running running] at permitted
    exact permitted
  case registering =>
    intro registering
    have permitted := staged.registered
    rcases sound.stage_of_registering registering with stage | stage | ⟨wakeTime, stage⟩
    all_goals
      rw [stage] at permitted
      exact permitted
  case joinable =>
    rw [← told.uncalled]
    simp only [isJoinable, Bool.or_eq_true, Bool.not_eq_true', staged.done]
    constructor
    · rintro (finished | uncalled)
      · exact .inr (sound.status_of_isOver finished).2
      · exact .inl uncalled
    · rintro (uncalled | stopped)
      · exact .inr uncalled
      · exact .inl (sound.isOver_of_stopped stopped)
  case laterStops =>
    intro stopped now
    have asked := told.asked stopped
    unfold requestStop
    rw [if_pos asked]

/-- An agent that is asked to stop before and after it is accepted, that ends, and that somebody
tries to start again. -/
def restarted : List Happening :=
  [.start (.error (.agentStart "a" "already started")), .join, .move .drained,
    .move (.serverEnds .messages), .move (.closeListener .messages), .move .noticeStop, .stop,
    .move (.attemptEnds (.answered 201)), .move .begin, .start (.ok ()), .stop]

theorem consistent_restarted :
    ∃ life, Runs plainProfile .initial restarted life ∧ life.isRegistered = true ∧
      life.status = .stopped ∧ Consistent plainProfile (fun _ => ⟨0, 0, 0⟩) restarted life := by
  have asked : Runs plainProfile .initial [.stop] _ := .cons .nil (.stop 0)
  have started := asked.cons (.start 1 none)
  have waiting := started.cons (.move 1 .begin rfl)
  have accepted := waiting.cons (.move 2 (.attemptEnds (.answered 201)) rfl)
  have draining := (accepted.cons (.stop 3)).cons (.move 3 .noticeStop rfl)
  have closed := (draining.cons (.move 3 (.closeListener .messages) rfl)).cons
    (.move 3 (.serverEnds .messages) rfl)
  have ended := (closed.cons (.move 3 .drained rfl)).cons (.join rfl)
  have again : Runs plainProfile .initial restarted _ := ended.cons (.start 4 none)
  exact ⟨_, again, rfl, rfl, consistent_of_runs again _⟩

end Life
end Agent
end AgentCohort
